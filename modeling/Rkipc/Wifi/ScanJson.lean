import Rkipc.Libc.Json
import Rkipc.Wifi.ScanBounds
import Rkipc.Wifi.SsidNames

namespace Rkipc.Wifi

open Libc.Json (Member Scalar IsMember IsObject IsArray IsString Body Unescaped)

/-! The reply of the scan as JSON. -/

/-- A printable byte that is not escaped. -/
def IsPlain (byte : Byte) : Prop := printable byte = true ∧ quoting byte = false

instance (byte : Byte) : Decidable (IsPlain byte) := by
  unfold IsPlain
  infer_instance

/-- A line of the scan. -/
structure Row where
  bssid : List Byte
  frequency : Int
  level : Int
  flags : List Byte
  ssid : List Byte
  isBssid : bssid ≠ [] ∧ bssid.length ≤ 17 ∧ ∀ byte ∈ bssid, IsPlain byte
  isFrequency : -2147483648 ≤ frequency ∧ frequency ≤ 2147483647
  isLevel : -2147483648 ≤ level ∧ level ≤ 2147483647
  isFlags : ∀ byte ∈ flags, IsPlain byte
  isSsid : ssid.length ≤ 32

/-- The fields of a line; the SSID is escaped. -/
def Row.text (row : Row) : List Byte :=
  row.bssid ++ tab :: (decimal row.frequency ++ tab :: (decimal row.level ++ tab ::
    (row.flags ++ tab :: (printfEncode row.ssid ++ [newline]))))

/-- What `wpa_cli` writes for `scan_r`. -/
structure ScanFile where
  header : List Byte
  isHeader : newline ∉ header
  rows : List Row

def ScanFile.file (scan : ScanFile) : List Byte :=
  scan.header ++ newline :: scan.rows.flatMap Row.text

/-- The ones of the values whose bits are set in the mask, from a bit on. -/
def requested {α : Type} (cols : BitVec 32) : Nat → List α → List α
  | _, [] => []
  | index, value :: rest =>
      if cols.getLsbD index then value :: requested cols (index + 1) rest
      else requested cols (index + 1) rest

section Specification

variable (mbGb2uniTable : Table) (cols : BitVec 32)

/-- The SSID in UTF-8. -/
def Row.shown (row : Row) : List Byte :=
  if rkEncodeIsUtf8 row.ssid row.ssid.length then row.ssid else gbkToUtf8 mbGb2uniTable row.ssid

def Row.members (row : Row) : List Member :=
  [(bytes "bssid", .string row.bssid), (bytes "frequency", .number row.frequency),
    (bytes "rssi", .number row.level), (bytes "flags", .string row.flags),
    (bytes "ssid", .string (row.shown mbGb2uniTable))]

/-- The members that are asked for. -/
def Row.object (row : Row) : List Member := requested cols 0 (row.members mbGb2uniTable)

/-- The reply is an array with an object for each line, in their order, which has the fields that
are asked for. -/
def ScanFile.IsReported (behind : Nat → List Byte) (scan : ScanFile) : Prop :=
  ∃ results, rkWifiScanRSec mbGb2uniTable behind cols (some scan.file) =
      .finished (some results) ∧
    IsArray (scan.rows.map (Row.object mbGb2uniTable cols)) results.scanR

/-- A byte that JSON has an escape for, or needs none. -/
def HasEscape (byte : Byte) : Prop :=
  0x20 ≤ byte ∨ byte = 0x09 ∨ byte = newline ∨ byte = 0x0d

/-- A character of two bytes is none that is escaped. -/
def IsUnescaped (ch cl : Byte) : Prop :=
  ∀ byte ∈ unicodeToUtf8 ((gbkToUnicode mbGb2uniTable ch cl).setWidth 32), Unescaped byte

/-- A name in GBK in which no second byte of a character is escaped.  A backslash as such a byte
leaves a backslash, which is `pending` until a slash makes an escape of it. -/
inductive Pairs : (pending : Bool) → List Byte → Prop
  | nil : Pairs false []
  | ascii {ch : Byte} {rest : List Byte} :
      ch < 0x80 → HasEscape ch → Pairs false rest → Pairs false (ch :: rest)
  | pair {ch cl : Byte} {rest : List Byte} :
      ¬ ch < 0x80 → letter cl = none → quoting cl = false → IsUnescaped mbGb2uniTable ch cl →
      Pairs false rest → Pairs false (ch :: cl :: rest)
  | split {ch : Byte} {rest : List Byte} :
      ¬ ch < 0x80 → IsUnescaped mbGb2uniTable ch backslash → Pairs true rest →
      Pairs false (ch :: backslash :: rest)
  | backslash {rest : List Byte} : Pairs true rest → Pairs true (backslash :: rest)
  | slash {rest : List Byte} : Pairs false rest → Pairs true (0x2f :: rest)
  | last {ch : Byte} : ¬ ch < 0x80 → Pairs false [ch]

/-- The SSID has no backslash before an `x`; in UTF-8 no control byte without a JSON escape, in
GBK no escape within a character, and NULs only at its end. -/
structure Readable (ssid : List Byte) : Prop where
  noMark : ¬ [backslash, 0x78] <:+: ssid
  encoded : Utf8 ssid ∧ (∀ byte ∈ ssid, HasEscape byte) ∨
    ¬ Utf8 ssid ∧ Pairs mbGb2uniTable false (cString ssid) ∧
      ∃ count, ssid = cString ssid ++ List.replicate count 0

/-- The line is read at once, its columns are not merged and what is asked for is not cut. -/
structure Row.Fits (row : Row) : Prop where
  isLine : row.text.length ≤ 254
  apart : row.flags = [] → cols.getLsbD 4 = false ∧ (cols.getLsbD 3 = true → row.ssid = [])
  short : cols.getLsbD 3 = true → row.flags.length ≤ if cols.getLsbD 4 then 116 else 117
  readable : cols.getLsbD 4 = true → Readable mbGb2uniTable row.ssid

structure ScanFile.Fits (scan : ScanFile) : Prop where
  isMask : cols &&& 0x1F = 0 → scan.rows = []
  isHeader : cols &&& 0x1F ≠ 0 → scan.header.length ≤ 254
  rows : ∀ row ∈ scan.rows, row.Fits mbGb2uniTable cols

end Specification

section Fields

variable {byte : Byte} {field memory front rest : List Byte} {ssid : List Byte} {value : Int}

def IsField (field : List Byte) : Prop := ∀ byte ∈ field, printable byte = true

theorem separator_of_field {other : Byte} (isField : IsField field)
    (control : printable other = false) : other ∉ field := fun member =>
  Bool.noConfusion (control.symm.trans (isField other member))

theorem takeLine_line (noNewline : newline ∉ front) {count : Nat} (short : front.length < count)
    (rest : List Byte) :
    takeLine count (front ++ newline :: rest) = (front ++ [newline], rest) := by
  induction front generalizing count with
  | nil =>
    obtain ⟨count, rfl⟩ := Nat.exists_eq_succ_of_ne_zero (Nat.ne_of_gt short)
    rw [List.nil_append, takeLine, if_pos rfl]
    rfl
  | cons byte front induction =>
    obtain ⟨first, noNewline⟩ := not_or.mp (mt List.mem_cons.mpr noNewline)
    obtain ⟨count, rfl⟩ := Nat.exists_eq_succ_of_ne_zero (Nat.ne_zero_of_lt short)
    rw [List.cons_append, takeLine, if_neg (Ne.symm first),
      induction noNewline (Nat.lt_of_succ_lt_succ short)]
    rfl

theorem fgets_line (noNewline : newline ∉ front) {size : Nat} (short : front.length + 1 < size)
    (rest : List Byte) :
    fgets size (front ++ newline :: rest) = some (front ++ [newline], rest) := by
  rw [fgets, if_neg (by simp), takeLine_line noNewline (by omega)]

theorem dropWhile_field (isField : IsField field) (nonempty : field ≠ []) (memory : List Byte) :
    (field ++ memory).dropWhile (· = tab) = field ++ memory := by
  obtain ⟨byte, field, rfl⟩ := List.exists_cons_of_ne_nil nonempty
  have notTab : tab ∉ byte :: field := separator_of_field isField (by decide)
  have notFirst : ¬ decide (byte = tab) = true := fun same =>
    notTab (of_decide_eq_true same ▸ List.mem_cons_self)
  exact List.dropWhile_cons_of_neg notFirst

theorem takeWhile_field (isField : IsField field) {stop : Byte} (isStop : stop = tab ∨ stop = 0)
    (memory : List Byte) :
    (field ++ stop :: memory).takeWhile (fun byte => byte ≠ tab ∧ byte ≠ 0) = field := by
  have all : ∀ byte ∈ field, decide (byte ≠ tab ∧ byte ≠ 0) = true := fun byte member =>
    decide_eq_true ⟨fun same => separator_of_field isField (by decide) (same ▸ member),
      fun same => separator_of_field isField (by decide) (same ▸ member)⟩
  rw [List.takeWhile_append_of_pos all, List.takeWhile_cons_of_neg, List.append_nil]
  rcases isStop with rfl | rfl <;> decide

theorem strtok_field (isField : IsField field) (nonempty : field ≠ []) (memory : List Byte) :
    strtok (field ++ tab :: memory) = some ⟨field, memory, memory⟩ := by
  unfold strtok
  dsimp only
  rw [dropWhile_field isField nonempty, takeWhile_field isField (.inl rfl), if_neg nonempty,
    List.drop_left]
  rfl

theorem strtok_skip (memory : List Byte) : strtok (tab :: memory) = strtok memory := by
  unfold strtok
  rw [List.dropWhile_cons_of_pos (by decide)]

theorem strtok_nul (memory : List Byte) : strtok (0 :: memory) = none := by
  unfold strtok
  dsimp only
  rw [List.dropWhile_cons_of_neg (by decide), List.takeWhile_cons_of_neg (by decide)]
  rfl

theorem strtok_last (isField : IsField field) (behind : List Byte) :
    ∃ token, strtok (field ++ newline :: 0 :: behind) = some token ∧
      token.strip.text = field ∧ token.saved = 0 :: behind := by
  have whole : ∀ byte ∈ field ++ [newline], decide (byte ≠ tab ∧ byte ≠ 0) = true := by
    intro byte member
    rcases List.mem_append.mp member with member | member
    · exact decide_eq_true ⟨fun same => separator_of_field isField (by decide) (same ▸ member),
        fun same => separator_of_field isField (by decide) (same ▸ member)⟩
    · rw [List.mem_singleton.mp member]
      decide
  have isText : (field ++ newline :: 0 :: behind).takeWhile
      (fun byte => byte ≠ tab ∧ byte ≠ 0) = field ++ [newline] := by
    rw [List.append_cons, List.takeWhile_append_of_pos whole,
      List.takeWhile_cons_of_neg (by decide)]
    exact List.append_nil _
  have skipped : (field ++ newline :: 0 :: behind).dropWhile (· = tab) =
      field ++ newline :: 0 :: behind := by
    cases field with
    | nil => rfl
    | cons byte field => exact dropWhile_field isField (List.cons_ne_nil _ _) _
  refine ⟨⟨field ++ [newline], behind, 0 :: behind⟩, ?_, ?_, rfl⟩
  · unfold strtok
    dsimp only
    rw [skipped, isText, if_neg (by simp), List.append_cons field newline (0 :: behind),
      List.drop_left]
    rfl
  · rw [Token.strip, if_pos List.getLast?_concat]
    exact List.dropLast_concat

theorem strip_field (isField : IsField field) (behind saved : List Byte) :
    Token.strip ⟨field, behind, saved⟩ = ⟨field, behind, saved⟩ := by
  refine if_neg fun isLast => ?_
  exact separator_of_field isField (by decide) (List.mem_of_getLast? isLast)

def DigitByte (char : Char) (byte : Byte) : Prop :=
  printable byte = true ∧ digit 10 byte = some (Param.digitVal char) ∧
    ¬ (byte = 0x20 ∨ 0x09 ≤ byte ∧ byte ≤ 0x0d) ∧ byte ≠ 0x2d ∧ byte ≠ 0x2b

instance (char : Char) (byte : Byte) : Decidable (DigitByte char byte) := by
  unfold DigitByte
  infer_instance

theorem digit_byte {char : Char} (isDigit : char.isDigit = true) :
    DigitByte char (BitVec.ofNat 8 char.toNat) :=
  @Param.digit_all (fun char => DigitByte char (BitVec.ofNat 8 char.toNat)) char isDigit
    (by decide)

/-- `%d` of a natural number -/
def digits (n : Nat) : List Byte :=
  (Nat.toDigits 10 n).map fun char => BitVec.ofNat 8 char.toNat

theorem decimal_cases (value : Int) :
    value < 0 ∧ decimal value = 0x2d :: digits value.natAbs ∨
      0 ≤ value ∧ decimal value = digits value.natAbs := by
  rw [decimal, Param.decimal]
  split
  next negative => exact .inl ⟨negative, rfl⟩
  next positive => exact .inr ⟨Int.not_lt.mp positive, rfl⟩

theorem isField_digits (n : Nat) : IsField (digits n) := by
  intro byte member
  obtain ⟨char, isIn, rfl⟩ := List.mem_map.mp member
  exact (digit_byte (Param.digits_isDigit isIn)).1

theorem digits_ne_nil (n : Nat) : digits n ≠ [] :=
  List.map_eq_nil_iff.not.mpr Nat.toDigits_ne_nil

theorem isField_decimal (value : Int) : IsField (decimal value) ∧ decimal value ≠ [] := by
  obtain ⟨_, isText⟩ | ⟨_, isText⟩ := decimal_cases value
  · rw [isText]
    exact ⟨List.forall_mem_cons.mpr ⟨rfl, isField_digits _⟩, List.cons_ne_nil _ _⟩
  · rw [isText]
    exact ⟨isField_digits _, digits_ne_nil _⟩

theorem number_digits_ten (n : Nat) : number 10 (digits n) = n := by
  have isSome : ∀ found ∈ (digits n).map (digit 10), Option.isSome found = true := by
    intro found member
    obtain ⟨byte, isByte, rfl⟩ := List.mem_map.mp member
    obtain ⟨char, isIn, rfl⟩ := List.mem_map.mp isByte
    rw [(digit_byte (Param.digits_isDigit isIn)).2.1]
    rfl
  have isVal : (digits n).map (digit 10) =
      (Nat.toDigits 10 n).map fun char => some (Param.digitVal char) := by
    rw [digits, List.map_map]
    exact List.map_congr_left fun char isIn => (digit_byte (Param.digits_isDigit isIn)).2.1
  rw [number, List.takeWhile_eq_self_iff.mpr isSome, isVal, List.foldl_map]
  exact Param.foldl_digits n

theorem atoi_decimal (isInt : -2147483648 ≤ value ∧ value ≤ 2147483647) :
    atoi (decimal value) = value := by
  have clamped : max (-2147483648) (min 2147483647 value) = value := by omega
  obtain ⟨negative, isText⟩ | ⟨positive, isText⟩ := decimal_cases value
  · have unskipped : (0x2d :: digits value.natAbs).dropWhile
        (fun byte => byte = 0x20 ∨ 0x09 ≤ byte ∧ byte ≤ 0x0d) = 0x2d :: digits value.natAbs :=
      List.dropWhile_cons_of_neg (by decide)
    rw [isText, atoi, unskipped]
    change max (-2147483648) (min 2147483647 (-(number 10 (digits value.natAbs) : Int))) = value
    rw [number_digits_ten]
    omega
  · obtain ⟨byte, rest, isCons⟩ := List.exists_cons_of_ne_nil (digits_ne_nil value.natAbs)
    obtain ⟨char, isIn, isByte⟩ := List.mem_map.mp (isCons ▸ List.mem_cons_self :
      byte ∈ digits value.natAbs)
    obtain ⟨_, _, notBlank, notMinus, notPlus⟩ := digit_byte (Param.digits_isDigit isIn)
    rw [isByte] at notBlank notMinus notPlus
    have unskipped : (byte :: rest).dropWhile
        (fun byte => byte = 0x20 ∨ 0x09 ≤ byte ∧ byte ≤ 0x0d) = byte :: rest := by
      refine List.dropWhile_cons_of_neg fun isBlank => notBlank ?_
      exact of_decide_eq_true isBlank
    rw [isText, atoi, isCons, unskipped]
    split
    next isMinus => exact absurd (List.cons.inj isMinus).1 notMinus
    next isPlus => exact absurd (List.cons.inj isPlus).1 notPlus
    next =>
      rw [← isCons, number_digits_ten]
      omega

theorem isField_of_plain (all : ∀ byte ∈ field, IsPlain byte) : IsField field :=
  fun byte member => (all byte member).1

theorem unescaped_of_plain (isPlain : IsPlain byte) : Unescaped byte := by
  obtain ⟨isPrintable, other⟩ := isPlain
  have notQuoting := mt quoting_iff.mpr (Bool.eq_false_iff.mp other)
  rw [printable, Bool.and_eq_true] at isPrintable
  exact ⟨of_decide_eq_true isPrintable.1, fun same => notQuoting (.inr same),
    fun same => notQuoting (.inl same)⟩

theorem isField_printfEncode (ssid : List Byte) : IsField (printfEncode ssid) := by
  intro char member
  obtain ⟨byte, _, isPrinted⟩ := List.mem_flatMap.mp member
  unfold printed at isPrinted
  split at isPrinted
  next isQuoting =>
    rcases quoting_iff.mp isQuoting with rfl | rfl <;>
      rcases List.mem_pair.mp isPrinted with rfl | rfl <;> rfl
  next => exact half_printable isPrinted

theorem printfEncode_eq_nil : printfEncode ssid = [] ↔ ssid = [] := by
  constructor
  · intro isEmpty
    cases ssid with
    | nil => rfl
    | cons byte ssid =>
      rw [printfEncode, List.flatMap_cons, List.append_eq_nil_iff, printed] at isEmpty
      obtain ⟨_, _, isHalf⟩ | ⟨_, _, isHalf⟩ | ⟨_, _, isHalf⟩ := half_cases byte <;>
        rw [isHalf] at isEmpty <;> split at isEmpty <;> cases isEmpty.1
  · rintro rfl
    rfl

end Fields

section Names

variable {byte ch : Byte} {ssid rest front : List Byte} {owed : Nat} {table : Table}

theorem ascii_of_letter {char : Byte} (isLetter : letter byte = some char) : IsAscii byte := by
  unfold letter at isLetter
  split_ifs at isLetter <;> subst byte <;> decide

theorem ascii_of_quoting (isQuoting : quoting byte = true) : IsAscii byte := by
  rcases quoting_iff.mp isQuoting with rfl | rfl <;> decide

theorem escaped_other (isHigh : ¬ IsAscii byte) : escaped byte = [byte] := by
  rw [escaped]
  cases isLetter : letter byte with
  | some char => exact absurd (ascii_of_letter isLetter) isHigh
  | none => exact if_neg fun isQuoting => isHigh (ascii_of_quoting isQuoting)

/-- A byte is left, or a printable byte stands for it behind a backslash. -/
theorem escaped_cases (byte : Byte) : escaped byte = [byte] ∨
    ∃ char, printable char = true ∧ escaped byte = [backslash, char] := by
  rw [escaped]
  cases isLetter : letter byte with
  | some char => exact .inr ⟨char, (letter_cases isLetter).2.1, rfl⟩
  | none =>
    by_cases isQuoting : quoting byte = true
    · refine .inr ⟨byte, ?_, if_pos isQuoting⟩
      rcases quoting_iff.mp isQuoting with rfl | rfl <;> rfl
    · exact .inl (if_neg isQuoting)

theorem escaped_ne_nil (byte : Byte) : escaped byte ≠ [] := by
  obtain isText | ⟨char, _, isText⟩ := escaped_cases byte <;> rw [isText] <;>
    exact List.cons_ne_nil _ _

theorem forall_escaped {p : Byte → Prop} (self : p byte)
    (all : ∀ char, printable char = true → p char) : ∀ char ∈ escaped byte, p char := by
  obtain isText | ⟨char, isPrintable, isText⟩ := escaped_cases byte
  · rw [isText]
    exact List.forall_mem_singleton.mpr self
  · rw [isText]
    exact List.forall_mem_cons.mpr ⟨all backslash rfl,
      List.forall_mem_singleton.mpr (all char isPrintable)⟩

theorem low_of_printable (isPrintable : printable byte = true) : byte < 0x80 ∧ byte ≠ 0 := by
  rw [printable, Bool.and_eq_true] at isPrintable
  obtain ⟨isLarge, isSmall⟩ := isPrintable
  have small : byte.toNat ≤ 0x7e := of_decide_eq_true isSmall
  refine ⟨Nat.lt_succ_of_le (Nat.le_succ_of_le small), fun isNul => ?_⟩
  exact absurd (isNul ▸ isLarge) (by decide)

theorem length_escaped (byte : Byte) : (escaped byte).length ≤ 2 := by
  unfold escaped quoted
  split
  · exact Nat.le_refl 2
  · split
    · exact Nat.le_refl 2
    · exact Nat.le_succ 1

theorem length_flatMap_escaped (ssid : List Byte) :
    (ssid.flatMap escaped).length ≤ 2 * ssid.length := by
  induction ssid with
  | nil => exact Nat.le_refl 0
  | cons byte ssid induction =>
    have first := length_escaped byte
    rw [List.flatMap_cons, List.length_append, List.length_cons]
    omega

theorem utf8_cons_ascii (isAscii : IsAscii byte) : Utf8 (byte :: rest) ↔ Utf8 rest := by
  constructor
  · intro isUtf8
    obtain ⟨_, isRest⟩ | ⟨ones, two, six, isLead, _⟩ := utf8_cons_iff.mp isUtf8
    · exact isRest
    · exact absurd isAscii (not_isAscii_of_isLead byte ones (Nat.lt_succ_of_le six) two isLead)
  · exact .ascii isAscii

theorem utf8_ascii_append (isAscii : ∀ byte ∈ front, IsAscii byte) :
    Utf8 (front ++ rest) ↔ Utf8 rest := by
  induction front with
  | nil => exact Iff.rfl
  | cons byte front induction =>
    obtain ⟨first, isAscii⟩ := List.forall_mem_cons.mp isAscii
    rw [List.cons_append, utf8_cons_ascii first, induction isAscii]

theorem owed_cons : Owed (owed + 1) (byte :: rest) ↔ IsContinuation byte ∧ Owed owed rest := by
  constructor
  · rintro ⟨_, _, ⟨⟩, continues, follows⟩
    exact ⟨continues, follows⟩
  · rintro ⟨continues, follows⟩
    exact ⟨byte, rest, rfl, continues, follows⟩

theorem not_continuation (isAscii : IsAscii byte) : ¬ IsContinuation byte := by
  unfold IsAscii at isAscii
  unfold IsContinuation
  omega

theorem owed_escaped : Owed owed (ssid.flatMap escaped) ↔ Owed owed ssid := by
  induction ssid generalizing owed with
  | nil => exact Iff.rfl
  | cons byte rest induction =>
    rw [List.flatMap_cons]
    by_cases isAscii : IsAscii byte
    · have all : ∀ char ∈ escaped byte, IsAscii char :=
        forall_escaped isAscii fun char isPrintable => (low_of_printable isPrintable).1
      cases owed with
      | zero =>
        have isRest : Utf8 (rest.flatMap escaped) ↔ Utf8 rest := @induction 0
        exact (utf8_ascii_append all).trans (isRest.trans (utf8_cons_ascii isAscii).symm)
      | succ owed =>
        obtain ⟨char, chars, isCons⟩ := List.exists_cons_of_ne_nil (escaped_ne_nil byte)
        rw [isCons] at all
        rw [isCons, List.cons_append, owed_cons, owed_cons]
        exact iff_of_false
          (fun both => not_continuation (all char List.mem_cons_self) both.1)
          fun both => not_continuation isAscii both.1
    · rw [escaped_other isAscii, List.singleton_append]
      cases owed with
      | zero =>
        have apart {bytes : List Byte} : Owed 0 (byte :: bytes) ↔
            ∃ ones, 2 ≤ ones ∧ ones ≤ 6 ∧ IsLead ones byte ∧ Owed (ones - 1) bytes :=
          utf8_cons_iff.trans (or_iff_right fun ascii => isAscii ascii.1)
        rw [apart, apart]
        simp only [induction]
      | succ owed => rw [owed_cons, owed_cons, induction]

theorem utf8_escaped : Utf8 (ssid.flatMap escaped) ↔ Utf8 ssid := @owed_escaped ssid 0

theorem body_byte (hasEscape : HasEscape byte) : Body [byte] (escaped byte) := by
  unfold escaped
  split
  next char isLetter =>
    refine .escape ?_ .nil
    unfold letter at isLetter
    split_ifs at isLetter with isEscape isNewline isReturn isTab <;> cases isLetter <;>
      subst byte
    · exact absurd hasEscape (by unfold HasEscape; decide)
    · rfl
    · rfl
    · rfl
  next isNone =>
    unfold quoted
    split
    next isQuoting =>
      refine .escape ?_ .nil
      rcases quoting_iff.mp isQuoting with rfl | rfl <;> rfl
    next other =>
      refine .plain ⟨?_, fun same => other (quoting_iff.mpr (.inr same)),
        fun same => other (quoting_iff.mpr (.inl same))⟩ .nil
      rcases hasEscape with isLarge | rfl | rfl | rfl
      · exact isLarge
      · cases isNone
      · cases isNone
      · cases isNone

theorem body_escaped (hasEscape : ∀ byte ∈ ssid, HasEscape byte) :
    Body ssid (ssid.flatMap escaped) := by
  induction ssid with
  | nil => exact .nil
  | cons byte ssid induction =>
    obtain ⟨first, hasEscape⟩ := List.forall_mem_cons.mp hasEscape
    exact (body_byte first).append (induction hasEscape)

theorem gbk_ascii (isAscii : ch < 0x80) (notNul : ch ≠ 0) :
    unicodeToUtf8 (ch.setWidth 32) = [ch] := by
  have isSmall : ch.setWidth 32 < 0x80 := by bv_omega
  have isSame : (ch.setWidth 32).setWidth 8 = ch := by bv_omega
  rw [unicodeToUtf8, if_pos isSmall, isSame]
  exact List.takeWhile_cons_of_pos (decide_eq_true notNul)

theorem gbk_cons (isAscii : ch < 0x80) (notNul : ch ≠ 0) (rest : List Byte) :
    gbkToUtf8 table (ch :: rest) = ch :: gbkToUtf8 table rest := by
  rw [gbkToUtf8.eq_def]
  dsimp only
  rw [if_pos isAscii, gbk_ascii isAscii notNul, List.singleton_append]

theorem gbk_append (all : ∀ ch ∈ front, ch < 0x80 ∧ ch ≠ 0) (rest : List Byte) :
    gbkToUtf8 table (front ++ rest) = front ++ gbkToUtf8 table rest := by
  induction front with
  | nil => rfl
  | cons ch front induction =>
    obtain ⟨first, all⟩ := List.forall_mem_cons.mp all
    rw [List.cons_append, gbk_cons first.1 first.2, induction all, List.cons_append]

theorem gbk_pair (isLead : ¬ ch < 0x80) (cl : Byte) (rest : List Byte) :
    gbkToUtf8 table (ch :: cl :: rest) =
      unicodeToUtf8 ((gbkToUnicode table ch cl).setWidth 32) ++ gbkToUtf8 table rest := by
  rw [gbkToUtf8.eq_def]
  exact if_neg isLead

theorem gbk_last (isLead : ¬ ch < 0x80) :
    gbkToUtf8 table [ch] = [0xe1, 0xbf, 0xbf] := by
  rw [gbkToUtf8.eq_def]
  refine (if_neg isLead).trans ?_
  rw [gbkToUnicode]
  dsimp only
  rw [dif_neg fun inside => absurd inside.2 (by decide)]
  decide

theorem length_unicode (c : BitVec 16) : (unicodeToUtf8 (c.setWidth 32)).length ≤ 3 := by
  have isLess : c.setWidth 32 < (0x10000 : BitVec 32) := by
    rw [BitVec.lt_def, BitVec.toNat_setWidth]
    exact Nat.lt_of_le_of_lt (Nat.mod_le _ _) c.isLt
  unfold unicodeToUtf8
  split_ifs
  · exact Nat.le_trans (length_cString _) (Nat.le_add_left 1 2)
  · exact Nat.le_succ 2
  · exact Nat.le_refl 3

theorem gbk_escapedPair (isLead : ¬ ch < 0x80) {cl : Byte} (isNone : letter cl = none)
    (notQuoting : quoting cl = false) (rest : List Byte) :
    gbkToUtf8 table ((ch :: cl :: rest).flatMap escaped) =
      unicodeToUtf8 ((gbkToUnicode table ch cl).setWidth 32) ++
        gbkToUtf8 table (rest.flatMap escaped) := by
  have isSelf : escaped cl = [cl] := by
    rw [escaped, isNone]
    exact if_neg (Bool.eq_false_iff.mp notQuoting)
  rw [List.flatMap_cons, List.flatMap_cons, escaped_other isLead, isSelf, List.singleton_append,
    List.singleton_append, gbk_pair isLead]

theorem gbk_low (isAscii : ch < 0x80) (notNul : ch ≠ 0) (rest : List Byte) :
    gbkToUtf8 table ((ch :: rest).flatMap escaped) =
      escaped ch ++ gbkToUtf8 table (rest.flatMap escaped) := by
  have all : ∀ char ∈ escaped ch, char < 0x80 ∧ char ≠ 0 :=
    forall_escaped ⟨isAscii, notNul⟩ fun _ => low_of_printable
  rw [List.flatMap_cons, gbk_append all]

/-- The text of a name in GBK is that of its characters; a backslash that is pending is in
front of it. -/
theorem body_gbk {pending : Bool} (pairs : Pairs table pending ssid) :
    Body (gbkToUtf8 table ssid)
        ((if pending then [backslash] else []) ++ gbkToUtf8 table (ssid.flatMap escaped)) ∧
      (gbkToUtf8 table (ssid.flatMap escaped)).length ≤ 2 * ssid.length + 1 := by
  induction pairs with
  | nil => exact ⟨.nil, Nat.zero_le _⟩
  | @ascii ch rest isAscii hasEscape _ induction =>
    obtain ⟨isBody, short⟩ := induction
    have notNul : ch ≠ 0 := fun isNul => absurd (isNul ▸ hasEscape) (by unfold HasEscape; decide)
    have size := length_escaped ch
    rw [gbk_low isAscii notNul, gbk_cons isAscii notNul, List.length_append, List.length_cons]
    exact ⟨(body_byte hasEscape).append isBody, by omega⟩
  | @pair ch cl rest isLead isNone notQuoting all _ induction =>
    obtain ⟨isBody, short⟩ := induction
    have size := length_unicode (gbkToUnicode table ch cl)
    rw [gbk_escapedPair isLead isNone notQuoting, gbk_pair isLead, List.length_append,
      List.length_cons, List.length_cons]
    exact ⟨(Libc.Json.body_self all).append isBody, by omega⟩
  | @split ch rest isLead all _ induction =>
    obtain ⟨isBody, short⟩ := induction
    have size := length_unicode (gbkToUnicode table ch backslash)
    have isText : gbkToUtf8 table ((ch :: backslash :: rest).flatMap escaped) =
        unicodeToUtf8 ((gbkToUnicode table ch backslash).setWidth 32) ++
          backslash :: gbkToUtf8 table (rest.flatMap escaped) := by
      have isSplit : (ch :: backslash :: rest).flatMap escaped =
          ch :: backslash :: backslash :: rest.flatMap escaped := by
        rw [List.flatMap_cons, List.flatMap_cons, escaped_other isLead]
        rfl
      rw [isSplit, gbk_pair isLead, gbk_cons (by decide) (by decide)]
    rw [isText, gbk_pair isLead, List.length_append, List.length_cons, List.length_cons,
      List.length_cons]
    exact ⟨(Libc.Json.body_self all).append isBody, by omega⟩
  | @backslash rest _ induction =>
    obtain ⟨isBody, short⟩ := induction
    have isEscaped : escaped backslash = [backslash, backslash] := rfl
    rw [gbk_low (by decide) (by decide), gbk_cons (by decide) (by decide), isEscaped,
      List.length_append, List.length_cons, List.length_cons, List.length_cons]
    exact ⟨.escape rfl isBody, by rw [List.length_nil]; omega⟩
  | @slash rest _ induction =>
    obtain ⟨isBody, short⟩ := induction
    have isEscaped : escaped 0x2f = [0x2f] := rfl
    rw [gbk_low (by decide) (by decide), gbk_cons (by decide) (by decide), isEscaped,
      List.length_append, List.length_cons, List.length_cons]
    exact ⟨.escape rfl isBody, by rw [List.length_nil]; omega⟩
  | @last ch isLead =>
    have isText : [ch].flatMap escaped = [ch] := by
      rw [List.flatMap_singleton, escaped_other isLead]
    rw [isText, gbk_last isLead]
    exact ⟨Libc.Json.body_self (by decide), Nat.le_refl 3⟩

theorem gbk_zeros (table : Table) (front : List Byte) (count : Nat) :
    gbkToUtf8 table (front ++ List.replicate count 0) = gbkToUtf8 table front := by
  have zeros : ∀ count, gbkToUtf8 table (List.replicate count 0) = [] := by
    intro count
    induction count with
    | zero => rfl
    | succ count induction =>
      rw [List.replicate_succ, gbkToUtf8.eq_def]
      exact induction
  induction front using gbkToUtf8.induct with
  | case1 => exact zeros count
  | case2 ch rest small induction =>
    rw [List.cons_append, gbkToUtf8.eq_def, gbkToUtf8.eq_def table (ch :: rest)]
    dsimp only
    rw [if_pos small, if_pos small, induction]
  | case3 ch large =>
    cases count with
    | zero => rfl
    | succ count =>
      rw [List.replicate_succ, List.singleton_append, gbk_pair large, zeros, List.append_nil,
        gbkToUtf8.eq_def]
      exact (if_neg large).symm
  | case4 ch large cl rest induction =>
    rw [List.cons_append, List.cons_append, gbk_pair large, gbk_pair large, induction]

theorem utf8_zeros (count : Nat) : Utf8 (List.replicate count 0) := by
  induction count with
  | zero => exact .nil
  | succ count induction => exact .ascii (by decide) induction

theorem cString_escaped (ssid : List Byte) :
    cString (ssid.flatMap escaped) = (cString ssid).flatMap escaped := by
  induction ssid with
  | nil => rfl
  | cons byte rest induction =>
    by_cases isNul : byte = 0
    · subst isNul
      rfl
    · have noNul : 0 ∉ escaped byte := fun member =>
        forall_escaped (p := (· ≠ 0)) isNul (fun _ isPrintable =>
          (low_of_printable isPrintable).2) 0 member rfl
      have isFirst : cString (byte :: rest) = byte :: cString rest :=
        List.takeWhile_cons_of_pos (decide_eq_true isNul)
      have isBoth : cString (escaped byte ++ rest.flatMap escaped) =
          escaped byte ++ cString (rest.flatMap escaped) := Libc.cString_append noNul
      rw [List.flatMap_cons, isBoth, induction, isFirst, List.flatMap_cons]

theorem noNul_escaped (noNul : 0 ∉ ssid) : 0 ∉ ssid.flatMap escaped := by
  intro member
  obtain ⟨byte, isByte, isNul⟩ := List.mem_flatMap.mp member
  have all : ∀ char ∈ escaped byte, char ≠ 0 :=
    forall_escaped (fun same => noNul (same ▸ isByte)) fun _ isPrintable =>
      (low_of_printable isPrintable).2
  exact all 0 isNul rfl

theorem cString_of_controls (hasEscape : ∀ byte ∈ ssid, HasEscape byte) : cString ssid = ssid :=
  Libc.cString_of_notMem fun member =>
    absurd (hasEscape 0 member) (by unfold HasEscape; decide)

end Names

section Lines

variable {table : Table} {cols : BitVec 32} {columns : Columns} {token : Token} {row : Row}
  {text value behind : List Byte} {turns : Nat} {name : String}

/-- A member of the item, with the comma of its column left out. -/
def memberText (name : String) (value : List Byte) : List Byte :=
  quote :: bytes name ++ quote :: bytes ":" ++ value

/-- The turn puts the text behind the item. -/
def Puts (columns : Columns) (text : List Byte) (turn : Turn) : Prop :=
  ∃ after : Columns, turn = .next after ∧ after.index = columns.index ∧
    after.item = columns.item ++ text

/-- The text of a column, when it is asked for. -/
def column (cols : BitVec 32) (index : Nat) (text : List Byte) : List Byte :=
  if cols.getLsbD index then text ++ [comma] else []

theorem puts_append (short : (memberText name value).length ≤ 126) :
    Puts columns (memberText name value ++ [comma])
      (.next (columns.append (Columns.field name value))) := by
  refine ⟨_, rfl, rfl, ?_⟩
  have isField : Columns.field name value = memberText name value ++ [comma] := rfl
  rw [Columns.append, isField, List.take_of_length_le]
  rw [List.length_append]
  exact Nat.succ_le_succ short

theorem puts_nothing : Puts columns [] (.next columns) :=
  ⟨columns, rfl, rfl, (List.append_nil _).symm⟩

theorem length_memberText (name : String) (value : List Byte) :
    (memberText name value).length = (bytes name).length + value.length + 3 := by
  have isField := length_field name value
  have isText : Columns.field name value = memberText name value ++ [comma] := rfl
  rw [isText, List.length_append] at isField
  exact Nat.succ_injective isField

theorem puts_column {index : Nat} (isIndex : columns.index = index) (notFlags : index ≠ 3)
    (short : cols.getLsbD index = true → (memberText name value).length ≤ 126)
    (asked : cols.getLsbD index = true →
      columns.turn table cols token = .next (columns.append (Columns.field name value))) :
    Puts columns (column cols index (memberText name value))
      (columns.turn table cols token) := by
  unfold column
  split
  next isAsked =>
    rw [asked isAsked]
    exact puts_append (short isAsked)
  next notAsked =>
    have skipped : columns.turn table cols token = .next columns := by
      subst isIndex
      exact if_neg fun taken => taken.elim notAsked notFlags
    rw [skipped]
    exact puts_nothing

theorem puts_bssid (isIndex : columns.index = 0) (short : token.text.length ≤ 17) :
    Puts columns (column cols 0 (memberText "bssid" (Columns.quoted token.text)))
      (columns.turn table cols token) := by
  refine puts_column isIndex (by decide) (fun _ => ?_) fun isAsked => ?_
  · have isName : (bytes "bssid").length = 5 := rfl
    rw [length_memberText, length_quoted]
    omega
  · rw [Columns.turn, isIndex, if_pos (.inl isAsked)]
    rfl

theorem puts_frequency (isIndex : columns.index = 1) :
    Puts columns (column cols 1 (memberText "frequency" (decimal (atoi token.text))))
      (columns.turn table cols token) := by
  refine puts_column isIndex (by decide) (fun _ => ?_) fun isAsked => ?_
  · have isName : (bytes "frequency").length = 9 := rfl
    have number := length_atoi token.text
    rw [length_memberText]
    omega
  · rw [Columns.turn, isIndex, if_pos (.inl isAsked)]
    rfl

theorem puts_rssi (isIndex : columns.index = 2) :
    Puts columns (column cols 2 (memberText "rssi" (decimal (atoi token.text))))
      (columns.turn table cols token) := by
  refine puts_column isIndex (by decide) (fun _ => ?_) fun isAsked => ?_
  · have isName : (bytes "rssi").length = 4 := rfl
    have number := length_atoi token.text
    rw [length_memberText]
    omega
  · rw [Columns.turn, isIndex, if_pos (.inl isAsked)]
    rfl

theorem puts_flags (isIndex : columns.index = 3)
    (short : cols.getLsbD 3 = true → token.text.length ≤ 116) :
    Puts columns (column cols 3 (memberText "flags" (Columns.quoted token.text)))
      (columns.turn table cols token) := by
  rw [Columns.turn, isIndex, if_pos (.inr rfl)]
  dsimp only
  unfold column
  split
  next isAsked =>
    have isName : (bytes "flags").length = 5 := rfl
    obtain ⟨after, isAfter, isSame, isItem⟩ := @puts_append columns (Columns.quoted token.text)
      "flags" (by rw [length_memberText, length_quoted]; have := short isAsked; omega)
    cases isAfter
    exact ⟨_, rfl, isSame, isItem⟩
  next => exact ⟨_, rfl, rfl, (List.append_nil _).symm⟩

theorem puts_longFlags (isIndex : columns.index = 3) (isAsked : cols.getLsbD 3 = true)
    (isLong : token.text.length = 117) :
    Puts columns (memberText "flags" (Columns.quoted token.text))
      (columns.turn table cols token) := by
  have isName : (bytes "flags").length = 5 := rfl
  have size := length_memberText "flags" (Columns.quoted token.text)
  rw [length_quoted, isName, isLong] at size
  have isField : Columns.field "flags" (Columns.quoted token.text) =
    memberText "flags" (Columns.quoted token.text) ++ [comma] := rfl
  rw [Columns.turn, isIndex, if_pos (.inr rfl)]
  dsimp only
  rw [if_pos isAsked]
  refine ⟨_, rfl, rfl, ?_⟩
  rw [Columns.append, isField, List.take_left' size]

def nameText (table : Table) (ssid : List Byte) : List Byte :=
  let dst := (cString ssid).flatMap escaped
  if rkEncodeIsUtf8 dst dst.length then dst else gbkToUtf8 table dst

theorem isUtf8_escaped (ssid : List Byte) :
    rkEncodeIsUtf8 ((cString ssid).flatMap escaped) ((cString ssid).flatMap escaped).length = true ↔
      Utf8 (cString ssid) :=
  (rkEncodeIsUtf8_iff (noNul_escaped (cString_noNul ssid))).trans utf8_escaped

/-- The name is in UTF-8 as a whole, or not even up to its first NUL. -/
theorem Readable.apart {ssid : List Byte} (readable : Readable table ssid) :
    Utf8 (cString ssid) ∧ cString ssid = ssid ∧ (∀ byte ∈ ssid, HasEscape byte) ∨
      ¬ Utf8 (cString ssid) ∧ rkEncodeIsUtf8 ssid ssid.length = false ∧
        Pairs table false (cString ssid) ∧
          gbkToUtf8 table ssid = gbkToUtf8 table (cString ssid) := by
  obtain ⟨isUtf8, hasEscape⟩ | ⟨notUtf8, pairs, count, isSsid⟩ := readable.encoded
  · have isSelf := cString_of_controls hasEscape
    exact .inl ⟨isSelf.symm ▸ isUtf8, isSelf, hasEscape⟩
  · have notFront : ¬ Utf8 (cString ssid) := fun isUtf8 => by
      rw [isSsid] at notUtf8
      exact notUtf8 (isUtf8.append (utf8_zeros count))
    have notEmpty : ¬ (ssid.length = 0 ∨ ssid.head? = some 0) := by
      rintro (isEmpty | isNul)
      · rw [List.length_eq_zero_iff.mp isEmpty] at notFront
        exact notFront .nil
      · obtain ⟨rest, rfl⟩ := List.head?_eq_some_iff.mp isNul
        exact notFront .nil
    refine .inr ⟨notFront, ?_, pairs, ?_⟩
    · rw [rkEncodeIsUtf8, if_neg notEmpty, List.take_length, Bool.eq_false_iff]
      exact mt isUtf8From_iff.mp notUtf8
    · have same := gbk_zeros table (cString ssid) count
      rwa [← isSsid] at same

theorem length_nameText {ssid : List Byte} (readable : Readable table ssid)
    (short : ssid.length ≤ 32) : (nameText table ssid).length ≤ 65 := by
  have size := length_flatMap_escaped (cString ssid)
  have isLess := length_cString ssid
  unfold nameText
  dsimp only
  split
  · omega
  next other =>
    obtain ⟨isUtf8, _⟩ | ⟨_, _, pairs, _⟩ := readable.apart
    · exact absurd ((isUtf8_escaped ssid).mpr isUtf8) other
    · have bound := (body_gbk pairs).2
      omega

theorem puts_name {utf8 : List Byte} (dstNoescape utf8Noescape : List Byte)
    (short : utf8.length ≤ 65) :
    Puts columns (memberText "ssid" (Columns.quoted utf8) ++ [comma])
      (columns.ssid utf8 dstNoescape utf8Noescape) := by
  have isShort : (memberText "ssid" (Columns.quoted utf8)).length ≤ 126 := by
    have isName : (bytes "ssid").length = 4 := rfl
    rw [length_memberText, length_quoted]
    omega
  unfold Columns.ssid
  dsimp only
  split
  · exact @puts_append { columns with nonpsk := _ } _ _ isShort
  · exact puts_append isShort

theorem puts_ssidColumn {ssid : List Byte} (readable : Readable table ssid)
    (short : ssid.length ≤ 32) (isText : token.text = printfEncode ssid) :
    Puts columns (memberText "ssid" (Columns.quoted (nameText table ssid)) ++ [comma])
      (columns.ssidColumn table token) := by
  have size := length_nameText readable short
  unfold Columns.ssidColumn
  rw [isText]
  by_cases isEmpty : ssid = []
  · subst isEmpty
    rw [if_pos (printfEncode_eq_nil.mpr rfl)]
    exact puts_append (Nat.le_of_ble_eq_true rfl)
  · rw [if_neg (mt printfEncode_eq_nil.mp isEmpty),
      specCharConvers_escaped readable.noMark]
    dsimp only
    rw [cString_escaped]
    unfold nameText at size ⊢
    dsimp only at size ⊢
    split
    next isUtf8 =>
      rw [if_pos isUtf8] at size
      exact puts_name _ _ size
    next other =>
      rw [if_neg other] at size
      have converted := utf8String_gbkToUtf8 table ((cString ssid).flatMap escaped)
      rw [if_pos ((rkEncodeIsUtf8_iff converted.2).mpr converted.1)]
      exact @puts_name { columns with gbk := _ } _ _ _ size

theorem puts_ssid {ssid : List Byte} (isIndex : columns.index = 4)
    (readable : cols.getLsbD 4 = true → Readable table ssid) (short : ssid.length ≤ 32)
    (isText : token.text = printfEncode ssid) :
    Puts columns (column cols 4 (memberText "ssid" (Columns.quoted (nameText table ssid))))
      (columns.turn table cols token) := by
  unfold Columns.turn column
  rw [isIndex]
  split
  next isAsked =>
    rw [if_pos (.inl isAsked)]
    exact puts_ssidColumn (readable isAsked) short isText
  next notAsked =>
    rw [if_neg fun taken => taken.elim notAsked (by decide)]
    exact puts_nothing

/-- A turn that puts its text, and the loop behind it. -/
theorem loop_puts {rest : List Byte} {saved : List Byte} (isSaved : token.saved = saved)
    (puts : Puts columns rest (columns.turn table cols token.strip)) (turns : Nat) :
    ∃ after : Columns, columns.loop table cols (turns + 1) (some token) =
        after.loop table cols turns (strtok saved) ∧
      after.index = columns.index + 1 ∧ after.item = columns.item ++ rest := by
  obtain ⟨after, turned, isIndex, isItem⟩ := puts
  refine ⟨{ after with index := after.index + 1 }, ?_, congrArg (· + 1) isIndex, isItem⟩
  rw [Columns.loop, turned, isSaved]

def Row.texts (mbGb2uniTable : Table) (row : Row) : List (List Byte) :=
  [memberText "bssid" (Columns.quoted row.bssid),
    memberText "frequency" (decimal row.frequency), memberText "rssi" (decimal row.level),
    memberText "flags" (Columns.quoted row.flags),
    memberText "ssid" (Columns.quoted (nameText mbGb2uniTable row.ssid))]

theorem requested_columns (cols : BitVec 32) (index : Nat) (texts : List (List Byte)) :
    (requested cols index texts).flatMap (fun text => text ++ [comma]) =
      (texts.zipIdx index).flatMap fun text => column cols text.2 text.1 := by
  induction texts generalizing index with
  | nil => rfl
  | cons text texts induction =>
    rw [requested, List.zipIdx_cons, List.flatMap_cons, ← induction, column]
    split
    · rfl
    · rfl

theorem loop_threeFields (row : Row) (memory : List Byte) (turns : Nat)
    (atStart : columns.index = 0) :
    ∃ after : Columns,
      columns.loop table cols (turns + 3)
          (strtok (row.bssid ++ tab :: (decimal row.frequency ++ tab ::
            (decimal row.level ++ tab :: memory)))) =
        after.loop table cols turns (strtok memory) ∧
      after.index = 3 ∧
      after.item = columns.item ++ column cols 0 (memberText "bssid" (Columns.quoted row.bssid)) ++
        column cols 1 (memberText "frequency" (decimal row.frequency)) ++
        column cols 2 (memberText "rssi" (decimal row.level)) := by
  obtain ⟨isBssid, short, plain⟩ := row.isBssid
  obtain ⟨isFrequency, frequency⟩ := isField_decimal row.frequency
  obtain ⟨isLevel, level⟩ := isField_decimal row.level
  have isPlain := isField_of_plain plain
  have putsBssid (rest : List Byte) :
      Puts columns (column cols 0 (memberText "bssid" (Columns.quoted row.bssid)))
        (columns.turn table cols (Token.strip ⟨row.bssid, rest, rest⟩)) := by
    rw [strip_field isPlain]
    exact puts_bssid atStart short
  obtain ⟨first, isFirst, atFirst, firstItem⟩ := loop_puts rfl (putsBssid _) (turns + 2)
  rw [atStart] at atFirst
  have putsFrequency (rest : List Byte) :
      Puts first (column cols 1 (memberText "frequency" (decimal row.frequency)))
        (first.turn table cols (Token.strip ⟨decimal row.frequency, rest, rest⟩)) := by
    have puts := @puts_frequency table cols first ⟨decimal row.frequency, rest, rest⟩ atFirst
    rw [atoi_decimal row.isFrequency] at puts
    rw [strip_field isFrequency]
    exact puts
  obtain ⟨second, isSecond, atSecond, secondItem⟩ := loop_puts rfl (putsFrequency _) (turns + 1)
  rw [atFirst] at atSecond
  have putsRssi (rest : List Byte) :
      Puts second (column cols 2 (memberText "rssi" (decimal row.level)))
        (second.turn table cols (Token.strip ⟨decimal row.level, rest, rest⟩)) := by
    have puts := @puts_rssi table cols second ⟨decimal row.level, rest, rest⟩ atSecond
    rw [atoi_decimal row.isLevel] at puts
    rw [strip_field isLevel]
    exact puts
  obtain ⟨third, isThird, atThird, thirdItem⟩ := loop_puts rfl (putsRssi memory) turns
  refine ⟨third, ?_, by rw [atThird, atSecond], by rw [thirdItem, secondItem, firstItem]⟩
  rw [strtok_field isPlain isBssid, isFirst, strtok_field isFrequency frequency, isSecond,
    strtok_field isLevel level, isThird]

theorem dropComma_joined {front : Byte} (isFront : front ≠ comma) (parts : List (List Byte)) :
    dropComma (front :: parts.flatMap fun part => part ++ [comma]) =
      front :: [comma].intercalate parts := by
  by_cases isEmpty : parts = []
  · subst isEmpty
    exact if_neg fun isLast => isFront (Option.some_inj.mp isLast)
  · have joined := Libc.Json.flatMap_comma parts isEmpty
    have isText : front :: parts.flatMap (fun part => part ++ [comma]) =
        (front :: [comma].intercalate parts) ++ [comma] := congrArg (front :: ·) joined
    rw [isText, dropComma, if_pos List.getLast?_concat, List.dropLast_concat]

/-- What the flags put into the item.  The comma that long flags lose is the last one. -/
theorem puts_rowFlags (fits : row.Fits table cols) (isIndex : columns.index = 3) :
    ∃ text,
      (∀ rest, Puts columns text (columns.turn table cols ⟨row.flags, rest, rest⟩)) ∧
      ∀ front, dropComma (front ++ text ++ column cols 4
          (memberText "ssid" (Columns.quoted (nameText table row.ssid)))) =
        dropComma (front ++ column cols 3 (memberText "flags" (Columns.quoted row.flags)) ++
          column cols 4 (memberText "ssid" (Columns.quoted (nameText table row.ssid)))) := by
  by_cases isLong : cols.getLsbD 3 = true ∧ 116 < row.flags.length
  · obtain ⟨isAsked, isLong⟩ := isLong
    have short := fits.short isAsked
    have noSsid : ¬ cols.getLsbD 4 = true := fun both => by
      rw [if_pos both] at short
      omega
    rw [if_neg noSsid] at short
    refine ⟨memberText "flags" (Columns.quoted row.flags), fun rest =>
      puts_longFlags isIndex isAsked (Nat.le_antisymm short isLong), fun front => ?_⟩
    have notComma : ¬ (front ++ memberText "flags" (Columns.quoted row.flags)).getLast? =
        some comma := by
      have isLast : front ++ memberText "flags" (Columns.quoted row.flags) =
          front ++ quote :: bytes "flags" ++ quote :: bytes ":" ++ quote :: row.flags ++
            [quote] := by
        simp [memberText, Columns.quoted]
      rw [isLast, List.getLast?_concat]
      decide
    rw [column, column, if_neg noSsid, if_pos isAsked, List.append_nil, List.append_nil,
      ← List.append_assoc, dropComma, dropComma, if_neg notComma, if_pos List.getLast?_concat,
      List.dropLast_concat]
  · exact ⟨_, fun rest => puts_flags isIndex fun isAsked =>
      Nat.le_of_not_lt fun both => isLong ⟨isAsked, both⟩, fun _ => rfl⟩

theorem lineColumns_row (fits : row.Fits table cols) (behind : List Byte) (results : Results) :
    ∃ columns, lineColumns table cols row.text behind results = .finished columns ∧
      dropComma columns.item =
        0x7b :: [comma].intercalate (requested cols 0 (row.texts table)) := by
  have isMemory : row.text ++ 0 :: behind = row.bssid ++ tab :: (decimal row.frequency ++ tab ::
      (decimal row.level ++ tab :: (row.flags ++ tab ::
        (printfEncode row.ssid ++ newline :: 0 :: behind)))) := by
    simp only [Row.text, List.append_assoc, List.cons_append, List.nil_append]
  have enough : 5 ≤ (row.text ++ 0 :: behind).length := by
    rw [isMemory]
    simp only [List.length_append, List.length_cons]
    omega
  obtain ⟨turns, isTurns⟩ := Nat.exists_eq_add_of_le' enough
  obtain ⟨third, isThird, atThird, thirdItem⟩ := @loop_threeFields table cols
    ⟨0, false, [0x7b], results.gbk, results.nonpsk⟩ row
    (row.flags ++ tab :: (printfEncode row.ssid ++ newline :: 0 :: behind)) (turns + 2) rfl
  obtain ⟨token, isToken, isText, isSaved⟩ :=
    strtok_last (isField_printfEncode row.ssid) behind
  have isItem := @dropComma_joined 0x7b (by decide) (requested cols 0 (row.texts table))
  rw [requested_columns] at isItem
  rw [lineColumns, isTurns, isMemory, isThird, ← isItem]
  by_cases merged : row.flags = []
  · obtain ⟨noSsid, noFlags⟩ := fits.apart merged
    have isEmpty : cols.getLsbD 3 = true → printfEncode row.ssid = [] := fun isAsked =>
      printfEncode_eq_nil.mpr (noFlags isAsked)
    obtain ⟨fourth, isFourth, _, fourthItem⟩ := loop_puts isSaved
      (@puts_flags table cols third token.strip atThird fun isAsked => by
        rw [isText, isEmpty isAsked]; exact Nat.zero_le _) (turns + 1)
    refine ⟨fourth, ?_, ?_⟩
    · rw [merged, List.nil_append, strtok_skip, isToken, isFourth, strtok_nul]
      rfl
    · have isFlags : column cols 3 (memberText "flags" (Columns.quoted token.strip.text)) =
          column cols 3 (memberText "flags" (Columns.quoted row.flags)) := by
        unfold column
        split
        next isAsked => rw [isText, isEmpty isAsked, merged]
        next => rfl
      have isSsid : column cols 4 (memberText "ssid"
          (Columns.quoted (nameText table row.ssid))) = [] :=
        if_neg (Bool.eq_false_iff.mp noSsid)
      rw [fourthItem, thirdItem, isFlags]
      simp [Row.texts, List.zipIdx, isSsid]
  · have isFlags := isField_of_plain row.isFlags
    obtain ⟨text, putsFlags, isSame⟩ := puts_rowFlags fits atThird
    obtain ⟨fourth, isFourth, atFourth, fourthItem⟩ := loop_puts rfl
      ((strip_field isFlags _ _).symm ▸ putsFlags _) (turns + 1)
    obtain ⟨fifth, isFifth, _, fifthItem⟩ := loop_puts isSaved
      (@puts_ssid table cols fourth token.strip row.ssid (by rw [atFourth, atThird]) fits.readable
        row.isSsid isText) turns
    refine ⟨fifth, ?_, ?_⟩
    · rw [strtok_field isFlags merged, isFourth, isToken, isFifth, strtok_nul]
      cases turns <;> rfl
    · rw [fifthItem, fourthItem, thirdItem, isSame]
      simp [Row.texts, List.zipIdx]

end Lines

section Replies

variable {table : Table} {cols : BitVec 32} {row : Row} {name : String} {scalar : Scalar}
  {value body : List Byte} {index : Nat}

theorem isString_quoted (isBody : Body value body) : IsString value (Columns.quoted body) :=
  ⟨body, isBody, rfl⟩

theorem isMember_text (isName : ∀ byte ∈ bytes name, Unescaped byte)
    (isScalar : Libc.Json.IsScalar scalar value) :
    IsMember (bytes name, scalar) (memberText name value) := by
  refine ⟨_, value, isString_quoted (Libc.Json.body_self isName), isScalar, ?_⟩
  have isColon : bytes ":" = [Libc.Json.colon] := rfl
  simp [memberText, Columns.quoted, isColon]

theorem requested_cons {α β : Type} {R : α → β → Prop} {first : α} {second : β}
    {firsts : List α} {seconds : List β} (asked : cols.getLsbD index = true → R first second)
    (rest : List.Forall₂ R (requested cols (index + 1) firsts)
      (requested cols (index + 1) seconds)) :
    List.Forall₂ R (requested cols index (first :: firsts))
      (requested cols index (second :: seconds)) := by
  rw [requested, requested]
  split
  next isAsked => exact .cons (asked isAsked) rest
  next => exact rest

theorem isString_name {ssid : List Byte} (readable : Readable table ssid) :
    IsString (if rkEncodeIsUtf8 ssid ssid.length then ssid else gbkToUtf8 table ssid)
      (Columns.quoted (nameText table ssid)) := by
  refine isString_quoted ?_
  have isName := isUtf8_escaped ssid
  have noNul := cString_noNul ssid
  unfold nameText
  dsimp only
  obtain ⟨isUtf8, isSelf, hasEscape⟩ | ⟨notUtf8, notSsid, pairs, isText⟩ := readable.apart
  · rw [if_pos (isName.mpr isUtf8)]
    rw [isSelf] at isUtf8 noNul ⊢
    rw [if_pos ((rkEncodeIsUtf8_iff noNul).mpr isUtf8)]
    exact body_escaped hasEscape
  · rw [if_neg (mt isName.mp notUtf8), if_neg (Bool.eq_false_iff.mp notSsid), isText]
    exact (body_gbk pairs).1

theorem isMember_texts (fits : row.Fits table cols) :
    List.Forall₂ IsMember (row.object table cols) (requested cols 0 (row.texts table)) := by
  have plain {text : List Byte} (all : ∀ byte ∈ text, IsPlain byte) :
      IsString text (Columns.quoted text) :=
    isString_quoted (Libc.Json.body_self fun byte member => unescaped_of_plain (all byte member))
  refine requested_cons (fun _ => isMember_text (by decide) (plain row.isBssid.2.2)) ?_
  refine requested_cons (fun _ => isMember_text (by decide) rfl) ?_
  refine requested_cons (fun _ => isMember_text (by decide) rfl) ?_
  refine requested_cons (fun _ => isMember_text (by decide) (plain row.isFlags)) ?_
  refine requested_cons (fun isAsked => ?_) .nil
  exact isMember_text (by decide) (isString_name (fits.readable isAsked))

def Row.objectText (mbGb2uniTable : Table) (cols : BitVec 32) (row : Row) : List Byte :=
  0x7b :: [comma].intercalate (requested cols 0 (row.texts mbGb2uniTable)) ++ [0x7d]

theorem closedItem_row {columns : Columns}
    (isItem : dropComma columns.item =
      0x7b :: [comma].intercalate (requested cols 0 (row.texts table))) :
    closedItem columns = row.objectText table cols ++ [comma] := by
  rw [closedItem, isItem, Row.objectText, List.append_assoc]
  rfl

theorem row_text_line (row : Row) : ∃ front, row.text = front ++ [newline] ∧
    newline ∉ front := by
  refine ⟨row.bssid ++ tab :: (decimal row.frequency ++ tab :: (decimal row.level ++ tab ::
    (row.flags ++ tab :: printfEncode row.ssid))), ?_, ?_⟩
  · simp only [Row.text, List.append_assoc, List.cons_append]
  · have isBssid := isField_of_plain row.isBssid.2.2
    have isFlags := isField_of_plain row.isFlags
    have other : printable newline = false := by decide
    have notTab : newline ≠ tab := by decide
    simp only [List.mem_append, List.mem_cons, not_or]
    exact ⟨separator_of_field isBssid other, notTab,
      separator_of_field (isField_decimal _).1 other, notTab,
      separator_of_field (isField_decimal _).1 other, notTab,
      separator_of_field isFlags other, notTab,
      separator_of_field (isField_printfEncode _) other⟩

/-- The loop over the lines puts an object with a comma for each. -/
theorem scanLines_rows {behind : Nat → List Byte} {turns number : Nat} {results : Results}
    (rows : List Row) (fits : ∀ row ∈ rows, row.Fits table cols) (enough : rows.length < turns) :
    ∃ final, scanLines table behind cols turns number (rows.flatMap Row.text) results =
        .finished final ∧
      final.scanR = results.scanR ++
        (rows.map (Row.objectText table cols)).flatMap fun part => part ++ [comma] := by
  induction rows generalizing turns number results with
  | nil =>
    obtain ⟨turns, rfl⟩ := Nat.exists_eq_succ_of_ne_zero (Nat.ne_of_gt enough)
    exact ⟨results, rfl, (List.append_nil _).symm⟩
  | cons row rows induction =>
    obtain ⟨turns, rfl⟩ := Nat.exists_eq_succ_of_ne_zero (Nat.ne_zero_of_lt enough)
    obtain ⟨first, fits⟩ := List.forall_mem_cons.mp fits
    obtain ⟨front, isText, isLine⟩ := row_text_line row
    have short := first.isLine
    rw [isText, List.length_append, List.length_singleton] at short
    have read : fgets 255 ((row :: rows).flatMap Row.text) =
        some (row.text, rows.flatMap Row.text) := by
      rw [List.flatMap_cons, isText, List.append_assoc]
      exact fgets_line isLine (by omega) _
    obtain ⟨columns, isColumns, isItem⟩ := lineColumns_row first (behind number) results
    have isLoop : Columns.loop table cols (row.text ++ 0 :: behind number).length
        (strtok (row.text ++ 0 :: behind number))
        ⟨0, false, [0x7b], results.gbk, results.nonpsk⟩ = .finished columns := isColumns
    obtain ⟨final, isFinal, isScan⟩ := @induction turns (number + 1)
      ⟨results.scanR ++ closedItem columns, columns.gbk, columns.nonpsk⟩ fits
      (Nat.lt_of_succ_lt_succ enough)
    refine ⟨final, ?_, ?_⟩
    · rw [scanLines, read]
      dsimp only
      rw [isLoop]
      dsimp only
      rw [List.append_assoc]
      exact isFinal
    · rw [isScan, closedItem_row isItem, List.map_cons, List.flatMap_cons, List.append_assoc]

theorem length_rows (rows : List Row) : rows.length ≤ (rows.flatMap Row.text).length := by
  induction rows with
  | nil => exact Nat.le_refl 0
  | cons row rows induction =>
    obtain ⟨front, isText, _⟩ := row_text_line row
    rw [List.flatMap_cons, isText, List.length_append, List.length_append, List.length_cons,
      List.length_singleton]
    omega

theorem isObject_text (fits : row.Fits table cols) :
    IsObject (row.object table cols) (row.objectText table cols) :=
  ⟨_, ⟨_, isMember_texts fits, rfl⟩, rfl⟩

theorem isArray_rows {rows : List Row} (fits : ∀ row ∈ rows, row.Fits table cols) :
    IsArray (rows.map (Row.object table cols))
      (0x5b :: [comma].intercalate (rows.map (Row.objectText table cols)) ++ [0x5d]) := by
  refine ⟨_, ⟨_, ?_, rfl⟩, rfl⟩
  rw [List.forall₂_map_left_iff, List.forall₂_map_right_iff, List.forall₂_same]
  exact fun row member => isObject_text (fits row member)

end Replies

/-- The reply has an object for each line with the fields that are asked for, as long as the
lines fit. -/
theorem scan_reported (table : Table) (behind : Nat → List Byte) (cols : BitVec 32)
    (scan : ScanFile) (fits : scan.Fits table cols) : scan.IsReported table cols behind := by
  rw [ScanFile.IsReported, rkWifiScanRSec]
  by_cases isMask : cols &&& 0x1F = 0
  · rw [if_pos isMask, fits.isMask isMask]
    exact ⟨_, rfl, [], ⟨[], .nil, rfl⟩, rfl⟩
  · have read : fgets 256 scan.file = some (scan.header ++ [newline], scan.rows.flatMap Row.text) :=
      fgets_line scan.isHeader (Nat.succ_lt_succ (Nat.lt_succ_of_le (fits.isHeader isMask))) _
    obtain ⟨final, isFinal, isScan⟩ := @scanLines_rows table cols behind
      ((scan.rows.flatMap Row.text).length + 1) 0 ⟨bytes "[", [], []⟩ scan.rows fits.rows
      (Nat.lt_succ_of_le (length_rows scan.rows))
    refine ⟨{ final with scanR := dropComma final.scanR ++ bytes "]" }, ?_, ?_⟩
    · rw [if_neg isMask]
      dsimp only
      rw [read, Option.map_some, Option.getD_some, isFinal]
    · have isStart : final.scanR = 0x5b :: (scan.rows.map (Row.objectText table cols)).flatMap
          fun part => part ++ [comma] := isScan
      rw [isStart, dropComma_joined (by decide)]
      exact isArray_rows fits.rows

/-- A network of which all is asked for. -/
def homeRow : Row where
  bssid := bytes "02:00:00:00:00:01"
  frequency := 2412
  level := -40
  flags := bytes "[WPA2-PSK-CCMP][ESS]"
  ssid := bytes "at \"home\""
  isBssid := by decide
  isFrequency := by decide
  isLevel := by decide
  isFlags := by decide
  isSsid := by decide

def homeScan : ScanFile where
  header := bytes "bssid / frequency / signal level / flags / ssid"
  isHeader := by decide
  rows := [homeRow]

theorem homeScan_fits (table : Table) : homeScan.Fits table 0x1F where
  isMask isNone := absurd isNone (by decide)
  isHeader _ := by decide
  rows := by
    refine List.forall_mem_singleton.mpr ⟨by decide, fun merged => ?_, fun _ => by decide,
      fun _ => ⟨by decide, .inl ⟨?_, ?_⟩⟩⟩
    · exact absurd merged (by decide)
    · exact (rkEncodeIsUtf8_iff (by decide)).mp (by decide)
    · unfold HasEscape
      decide

theorem scan_reported_home :
    homeScan.Fits (fun _ => 0x4e2d) 0x1F ∧
      homeScan.IsReported (fun _ => 0x4e2d) 0x1F (fun _ => []) :=
  have fits := homeScan_fits fun _ => 0x4e2d
  ⟨fits, scan_reported _ _ _ _ fits⟩

/-- The flags of the network are empty, and its name is taken for them. -/
def openRow : Row :=
  { homeRow with
    flags := []
    ssid := bytes "home"
    isFlags := List.forall_mem_nil _
    isSsid := by decide }

def openScan : ScanFile where
  header := bytes "bssid"
  isHeader := by decide
  rows := [openRow]

theorem name_reported_as_flags :
    ¬ ∀ (table : Table) (behind : Nat → List Byte) (cols : BitVec 32) (scan : ScanFile),
      scan.IsReported table cols behind := by
  intro isReported
  obtain ⟨results, isRun, body, ⟨parts, all, isBody⟩, isText⟩ :=
    isReported (fun _ => 0x4e2d) (fun _ => []) 0x18 openScan
  have isReply : rkWifiScanRSec (fun _ => 0x4e2d) (fun _ => []) 0x18 (some openScan.file) =
      .finished (some ⟨bytes "[\x7b\"flags\":\"home\"\x7d]", [], []⟩) := by
    decide
  rw [isReply] at isRun
  cases isRun
  change List.Forall₂ IsObject [openRow.object (fun _ => 0x4e2d) 0x18] parts at all
  cases all with
  | cons isObject all =>
    cases all
    have isComma := Libc.Json.comma_of_members isObject
    have isText : bytes "[\x7b\"flags\":\"home\"\x7d]" = _ := isText
    have inReply : Libc.Json.comma ∈ bytes "[\x7b\"flags\":\"home\"\x7d]" := by
      rw [isText, isBody]
      simp [List.intercalate, isComma]
    exact absurd inReply (by decide)

end Rkipc.Wifi
