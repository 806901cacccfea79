import Rkipc.Wifi.EscapeBounds

namespace Rkipc.Wifi

/-! The names of networks as `wpa_supplicant` prints them and as the decoders read them. -/

def hexDigit (value : Nat) : Byte :=
  if value < 10 then BitVec.ofNat 8 (0x30 + value) else BitVec.ofNat 8 (0x57 + value)

def printable (byte : Byte) : Bool := 0x20 ≤ byte && byte ≤ 0x7e

/-- The letter behind the backslash for the bytes that have one. -/
def letter (byte : Byte) : Option Byte :=
  if byte = 0x1b then some 0x65
  else if byte = 0x0a then some 0x6e
  else if byte = 0x0d then some 0x72
  else if byte = 0x09 then some 0x74
  else none

def quoting (byte : Byte) : Bool := byte = backslash || byte = quote

/-- A byte behind `remove_escape_character`. -/
def halfPrinted (byte : Byte) : List Byte :=
  match letter byte with
  | some letter => [backslash, letter]
  | none =>
      if printable byte then [byte]
      else [backslash, 0x78, hexDigit (byte.toNat / 16), hexDigit (byte.toNat % 16)]

/-- What `printf_encode` of `wpa_supplicant` makes of a byte. -/
def printed (byte : Byte) : List Byte :=
  if quoting byte then [backslash, byte] else halfPrinted byte

def printfEncode (ssid : List Byte) : List Byte := ssid.flatMap printed

/-- The name of a saved network, from the output of `list_network`; `behind` is the memory
behind the decoded array. -/
def savedName (behind str : List Byte) : Option (List Byte) :=
  (specCharConvers (removeEscapeCharacter str ++ 0 :: behind)).map cString

/-- The name in the status or in the lists of the scan, from the output of `status` or
`scan_r`. -/
def shownName (behind str : List Byte) : Option (List Byte) :=
  (specCharConvers (str ++ 0 :: behind)).map fun sname =>
    removeEscapeCharacter (cString sname)

/-- Every decoder comes to the name, whatever the memory holds. -/
def Agrees (ssid : List Byte) : Prop :=
  ∀ behind, savedName behind (printfEncode ssid) = some ssid ∧
    shownName behind (printfEncode ssid) = some ssid

/-- No byte is printed with a letter of its own, and no backslash stands before an `x`. -/
def Plain (ssid : List Byte) : Prop :=
  (∀ byte ∈ ssid, letter byte = none) ∧ ¬ [backslash, 0x78] <:+: ssid

/-- A byte and, if it is not printable, three more for the rest of its escape. -/
def weight (byte : Byte) : Nat := if printable byte then 1 else 4

section Bytes

variable {byte : Byte} {rest : List Byte}

theorem half_quoting (isQuoting : quoting byte = true) : halfPrinted byte = [byte] := by
  rw [quoting, Bool.or_eq_true, decide_eq_true_eq, decide_eq_true_eq] at isQuoting
  rcases isQuoting with rfl | rfl <;> rfl

theorem letter_cases {char : Byte} (isLetter : letter byte = some char) :
    printable byte = false ∧ printable char = true ∧ ¬ (char = backslash ∨ char = quote) ∧
      char ≠ 0x78 := by
  unfold letter at isLetter
  split_ifs at isLetter with isEscape isNewline isReturn isTab <;> cases isLetter <;>
    subst byte <;> decide

theorem half_cases (byte : Byte) :
    (∃ char, letter byte = some char ∧ halfPrinted byte = [backslash, char]) ∨
      (letter byte = none ∧ printable byte = true ∧ halfPrinted byte = [byte]) ∨
      letter byte = none ∧ printable byte = false ∧ halfPrinted byte =
        [backslash, 0x78, hexDigit (byte.toNat / 16), hexDigit (byte.toNat % 16)] := by
  unfold halfPrinted
  cases letter byte with
  | some char => exact .inl ⟨char, rfl, rfl⟩
  | none =>
      cases isPrintable : printable byte with
      | true => exact .inr (.inl ⟨rfl, rfl, rfl⟩)
      | false => exact .inr (.inr ⟨rfl, rfl, rfl⟩)

theorem hexDigit_cases : ∀ value < 16, digit 16 (hexDigit value) = some value ∧
    printable (hexDigit value) = true := by
  decide

theorem number_digits {high low : Nat} (isHigh : high < 16) (isLow : low < 16) :
    number 16 (cString [hexDigit high, hexDigit low]) = high * 16 + low := by
  have notNul : ∀ value < 16, hexDigit value ≠ 0 := by decide
  have isString : cString [hexDigit high, hexDigit low] = [hexDigit high, hexDigit low] := by
    simpa [cString] using And.intro (notNul high isHigh) (notNul low isLow)
  rw [isString, number]
  simp [(hexDigit_cases high isHigh).1, (hexDigit_cases low isLow).1]

theorem number_hexDigit (byte : Byte) :
    BitVec.ofNat 8 (number 16 (cString [hexDigit (byte.toNat / 16),
      hexDigit (byte.toNat % 16)])) = byte := by
  rw [number_digits (Nat.div_lt_of_lt_mul byte.isLt) (Nat.mod_lt _ (by decide)),
    Nat.div_add_mod', BitVec.ofNat_toNat]
  exact BitVec.setWidth_eq byte

theorem half_printable {char : Byte} (member : char ∈ halfPrinted byte) :
    printable char = true := by
  obtain ⟨other, isLetter, isHalf⟩ | ⟨_, isPrintable, isHalf⟩ | ⟨_, _, isHalf⟩ :=
    half_cases byte
  · rw [isHalf, List.mem_pair] at member
    rcases member with rfl | rfl
    · rfl
    · exact (letter_cases isLetter).2.1
  · rw [isHalf, List.mem_singleton] at member
    exact member ▸ isPrintable
  · have isHigh : byte.toNat / 16 < 16 := Nat.div_lt_of_lt_mul byte.isLt
    have isLow : byte.toNat % 16 < 16 := Nat.mod_lt _ (by decide)
    rw [isHalf] at member
    simp only [List.mem_cons, List.not_mem_nil, or_false] at member
    rcases member with rfl | rfl | rfl | rfl
    · rfl
    · rfl
    · exact (hexDigit_cases _ isHigh).2
    · exact (hexDigit_cases _ isLow).2

/-- An escape is as long as its byte is heavy, a letter with its backslash is shorter. -/
theorem length_half (byte : Byte) :
    (halfPrinted byte).length = if letter byte = none then weight byte else 2 := by
  obtain ⟨other, isLetter, isHalf⟩ | ⟨isNone, isPrintable, isHalf⟩ |
    ⟨isNone, notPrintable, isHalf⟩ := half_cases byte
  · rw [isHalf, isLetter]
    rfl
  · rw [isHalf, isNone, weight, isPrintable]
    rfl
  · rw [isHalf, isNone, weight, notPrintable]
    rfl

end Bytes

section Removal

variable {byte next : Byte} {ssid rest : List Byte}

theorem remove_plain (other : byte ≠ backslash) :
    removeEscapeCharacter (byte :: rest) = byte :: removeEscapeCharacter rest := by
  cases rest with
  | nil => rfl
  | cons next rest => exact if_neg fun pair => other pair.1

theorem remove_pair (isQuoting : next = backslash ∨ next = quote) :
    removeEscapeCharacter (backslash :: next :: rest) = next :: removeEscapeCharacter rest :=
  if_pos ⟨rfl, isQuoting⟩

theorem remove_single (other : ¬ (next = backslash ∨ next = quote)) :
    removeEscapeCharacter (backslash :: next :: rest) =
      backslash :: removeEscapeCharacter (next :: rest) :=
  if_neg fun pair => other pair.2

theorem quoting_iff : quoting byte = true ↔ byte = backslash ∨ byte = quote := by
  rw [quoting, Bool.or_eq_true, decide_eq_true_eq, decide_eq_true_eq]

theorem remove_half (other : ¬ quoting byte = true) :
    removeEscapeCharacter (halfPrinted byte ++ rest) =
      halfPrinted byte ++ removeEscapeCharacter rest := by
  have notBackslash : byte ≠ backslash := fun same => other (quoting_iff.mpr (.inl same))
  have digit : ∀ value < 16, hexDigit value ≠ backslash := by decide
  obtain ⟨char, isLetter, isHalf⟩ | ⟨_, _, isHalf⟩ | ⟨_, _, isHalf⟩ := half_cases byte
  · have single := (letter_cases isLetter).2.2.1
    rw [isHalf, List.cons_append, List.cons_append, remove_single single,
      remove_plain fun same => single (.inl same)]
    rfl
  · rw [isHalf, List.cons_append, remove_plain notBackslash]
    rfl
  · rw [isHalf, List.cons_append, List.cons_append, List.cons_append, List.cons_append,
      remove_single (by decide), remove_plain (by decide),
      remove_plain (digit _ (Nat.div_lt_of_lt_mul byte.isLt)),
      remove_plain (digit _ (Nat.mod_lt _ (by decide)))]
    rfl

/-- Only the backslashes in front of backslashes and quotes are removed. -/
theorem remove_printfEncode (ssid : List Byte) :
    removeEscapeCharacter (printfEncode ssid) = ssid.flatMap halfPrinted := by
  induction ssid with
  | nil => rfl
  | cons byte ssid induction =>
      rw [printfEncode, List.flatMap_cons, List.flatMap_cons, ← induction, printed]
      by_cases isQuoting : quoting byte = true
      · rw [if_pos isQuoting, half_quoting isQuoting, List.cons_append, List.cons_append,
          remove_pair (quoting_iff.mp isQuoting)]
        rfl
      · rw [if_neg isQuoting, remove_half isQuoting]
        rfl

end Removal

section Conversion

variable {byte : Byte} {ssid memory behind : List Byte}

/-- One byte is read again, unless it makes an escape with what follows. -/
theorem specCharConvers_half (isNone : letter byte = none)
    (other : ¬ (byte = backslash ∧ memory.head? = some 0x78)) :
    specCharConvers (halfPrinted byte ++ memory) =
      (specCharConvers memory).map (byte :: ·) := by
  obtain ⟨char, isLetter, _⟩ | ⟨_, isPrintable, isHalf⟩ | ⟨_, _, isHalf⟩ := half_cases byte
  · rw [isNone] at isLetter
    cases isLetter
  · rw [isHalf]
    exact specCharConvers_plain (fun same => absurd (same ▸ isPrintable) (by decide)) other
  · have escape := specCharConvers_escape (hexDigit (byte.toNat / 16))
      (hexDigit (byte.toNat % 16)) memory
    rw [number_hexDigit] at escape
    rw [isHalf]
    exact escape

theorem head_half (byte : Byte) (memory : List Byte) :
    (halfPrinted byte ++ memory).head? = some 0x78 ↔ byte = 0x78 := by
  have notBackslash : (some backslash : Option Byte) ≠ some 0x78 := by decide
  obtain ⟨char, isLetter, isHalf⟩ | ⟨_, _, isHalf⟩ | ⟨_, notPrintable, isHalf⟩ := half_cases byte
  · refine isHalf ▸ iff_of_false notBackslash fun same => ?_
    exact absurd (same ▸ (letter_cases isLetter).1) (by decide)
  · rw [isHalf]
    exact Option.some_inj
  · refine isHalf ▸ iff_of_false notBackslash fun same => ?_
    exact absurd (same ▸ notPrintable) (by decide)

theorem head_halves : (ssid.flatMap halfPrinted ++ 0 :: behind).head? = some 0x78 ↔
    ssid.head? = some 0x78 := by
  cases ssid with
  | nil => exact iff_of_false (by simp) (by simp)
  | cons byte ssid =>
      rw [List.flatMap_cons, List.append_assoc, head_half]
      exact Option.some_inj.symm

end Conversion

section Converse

variable {byte : Byte} {ssid text dst : List Byte}

theorem weight_specCharConvers (isPrintable : ∀ byte ∈ text, printable byte = true)
    (isDst : specCharConvers (text ++ [0]) = some dst) :
    (dst.map weight).sum ≤ text.length := by
  have notNul : ¬ printable 0 = true := by decide
  induction text using converted.induct generalizing dst with
  | case1 =>
      cases isDst
      exact Nat.le_refl 0
  | case2 byte mark high low rest starts induction =>
      obtain ⟨rfl, isMark⟩ := starts
      obtain rfl := Option.some_inj.mp isMark
      rw [List.cons_append, List.cons_append, List.cons_append, List.cons_append,
        specCharConvers_escape] at isDst
      obtain ⟨written, isWritten, rfl⟩ := Option.map_eq_some_iff.mp isDst
      have light := induction (fun byte member => isPrintable byte
        (List.mem_cons_of_mem _ (List.mem_cons_of_mem _ (List.mem_cons_of_mem _
          (List.mem_cons_of_mem _ member))))) isWritten
      have heaviest (byte : Byte) : weight byte ≤ 4 := by
        unfold weight
        split <;> decide
      have first := heaviest (BitVec.ofNat 8 (number 16 (cString [high, low])))
      simp only [List.map_cons, List.sum_cons, List.length_cons]
      omega
  | case3 byte rest starts cut =>
      obtain ⟨rfl, isMark⟩ := starts
      rw [List.cons_append, specCharConvers_cut isMark (length_of_cut cut)] at isDst
      cases isDst
  | case4 byte rest other induction =>
      obtain ⟨first, isPrintable⟩ := List.forall_mem_cons.mp isPrintable
      have isChar : byte ≠ 0 := fun isNul => notNul (isNul ▸ first)
      rw [List.cons_append, specCharConvers_plain isChar
        (fun starts => other ⟨starts.1, head_terminated.mp starts.2⟩)] at isDst
      obtain ⟨written, isWritten, rfl⟩ := Option.map_eq_some_iff.mp isDst
      have light := induction isPrintable isWritten
      simp only [List.map_cons, List.sum_cons, List.length_cons, weight, first, if_true]
      omega

/-- Bytes that are printed with a letter are heavier than what is printed. -/
theorem length_halfPrinted (ssid : List Byte) :
    (ssid.flatMap halfPrinted).length ≤ (ssid.map weight).sum ∧
      ((ssid.map weight).sum ≤ (ssid.flatMap halfPrinted).length →
        ∀ byte ∈ ssid, letter byte = none) := by
  induction ssid with
  | nil => exact ⟨Nat.le_refl 0, fun _ => List.forall_mem_nil _⟩
  | cons byte ssid induction =>
      have first := length_half byte
      rw [List.flatMap_cons, List.length_append, List.map_cons, List.sum_cons]
      by_cases isNone : letter byte = none
      · rw [if_pos isNone] at first
        rw [first, Nat.add_le_add_iff_left, Nat.add_le_add_iff_left]
        exact ⟨induction.1, fun heavy => List.forall_mem_cons.mpr ⟨isNone, induction.2 heavy⟩⟩
      · rw [if_neg isNone] at first
        obtain ⟨char, isLetter⟩ := Option.ne_none_iff_exists'.mp isNone
        have heavy : weight byte = 4 := by
          rw [weight, (letter_cases isLetter).1]
          rfl
        have others := induction.1
        exact ⟨by omega, fun light => absurd light (by omega)⟩

theorem weight_cString (memory : List Byte) :
    ((cString memory).map weight).sum ≤ (memory.map weight).sum := by
  have whole : cString memory ++ memory.dropWhile (· ≠ 0) = memory :=
    List.takeWhile_append_dropWhile
  have sums := congrArg (fun bytes => (bytes.map weight).sum) whole
  simp only [List.map_append, List.sum_append] at sums
  omega

theorem light_of_read (isPrintable : ∀ byte ∈ text, printable byte = true)
    (isRead : (specCharConvers (text ++ [0])).map cString = some ssid) :
    (ssid.map weight).sum ≤ text.length := by
  obtain ⟨dst, isDst, rfl⟩ := Option.map_eq_some_iff.mp isRead
  exact (weight_cString dst).trans (weight_specCharConvers isPrintable isDst)

theorem cString_map_cons (notNul : byte ≠ 0) (dst : Option (List Byte)) :
    (dst.map (byte :: ·)).map cString = (dst.map cString).map (byte :: ·) := by
  cases dst with
  | none => rfl
  | some rest => exact congrArg some (List.takeWhile_cons_of_pos (decide_eq_true notNul))

/-- A backslash with an `x` and two characters more become one byte, which makes the name too
light. -/
theorem not_read_escape (tail : List Byte) :
    (specCharConvers (halfPrinted backslash ++
      ((0x78 :: tail).flatMap halfPrinted ++ [0]))).map cString ≠
        some (backslash :: 0x78 :: tail) := by
  have isPrintable : ∀ char ∈ tail.flatMap halfPrinted, printable char = true := by
    intro char member
    obtain ⟨byte, _, isHalf⟩ := List.mem_flatMap.mp member
    exact half_printable isHalf
  have light := (length_halfPrinted tail).1
  change (specCharConvers (backslash :: (0x78 :: tail.flatMap halfPrinted ++ [0]))).map cString ≠ _
  generalize tail.flatMap halfPrinted = text at isPrintable light
  match text with
  | [] =>
      rw [specCharConvers_cut rfl (by decide)]
      nofun
  | [char] =>
      rw [specCharConvers_cut rfl (by simp)]
      nofun
  | high :: low :: text =>
      intro isRead
      rw [List.cons_append, List.cons_append, List.cons_append, specCharConvers_escape] at isRead
      generalize BitVec.ofNat 8 (number 16 (cString [high, low])) = byte at isRead
      by_cases isNul : byte = 0
      · subst isNul
        obtain ⟨dst, isDst, isName⟩ := Option.map_eq_some_iff.mp isRead
        obtain ⟨rest, _, rfl⟩ := Option.map_eq_some_iff.mp isDst
        cases isName
      · rw [cString_map_cons isNul] at isRead
        obtain ⟨read, isRest, same⟩ := Option.map_eq_some_iff.mp isRead
        cases same
        have heavy := light_of_read (fun char member => isPrintable char
          (List.mem_cons_of_mem _ (List.mem_cons_of_mem _ member))) isRest
        simp only [List.map_cons, List.sum_cons, List.length_cons] at heavy light
        omega

/-- If the name is read from what is left of it, an `x` stands behind no backslash. -/
theorem not_infix_of_read (noLetter : ∀ byte ∈ ssid, letter byte = none) (noNul : 0 ∉ ssid)
    (isRead : (specCharConvers (ssid.flatMap halfPrinted ++ [0])).map cString = some ssid) :
    ¬ [backslash, 0x78] <:+: ssid := by
  induction ssid with
  | nil => exact fun isInfix => absurd (List.infix_nil.mp isInfix) (by decide)
  | cons byte rest induction =>
      obtain ⟨isNone, noLetter⟩ := List.forall_mem_cons.mp noLetter
      obtain ⟨isByte, noNul⟩ := not_or.mp (mt List.mem_cons.mpr noNul)
      have later (other : ¬ (byte = backslash ∧ rest.head? = some 0x78))
          (isRest : (specCharConvers (rest.flatMap halfPrinted ++ [0])).map cString = some rest) :
          ¬ [backslash, 0x78] <:+: byte :: rest := by
        intro isInfix
        rcases List.infix_cons_iff.mp isInfix with isPrefix | isInfix
        · obtain ⟨same, isHead⟩ := List.cons_prefix_cons.mp isPrefix
          refine other ⟨same.symm, ?_⟩
          obtain ⟨tail, rfl⟩ := isHead
          rfl
        · exact induction noLetter noNul isRest isInfix
      rw [List.flatMap_cons, List.append_assoc] at isRead
      by_cases starts : byte = backslash ∧ rest.head? = some 0x78
      · obtain ⟨rfl, isHead⟩ := starts
        obtain ⟨tail, rfl⟩ := List.head?_eq_some_iff.mp isHead
        exact absurd isRead (not_read_escape tail)
      · rw [specCharConvers_half isNone
            (fun both => starts ⟨both.1, head_halves.mp both.2⟩),
          cString_map_cons (Ne.symm isByte)] at isRead
        obtain ⟨read, isRest, same⟩ := Option.map_eq_some_iff.mp isRead
        exact later starts (isRest.trans (congrArg some ((List.cons_inj_right byte).mp same)))

end Converse

section Agreement

variable {byte : Byte} {ssid rest : List Byte}

theorem infix_mark_cons : ¬ [backslash, 0x78] <:+: byte :: rest ↔
    ¬ (byte = backslash ∧ rest.head? = some 0x78) ∧ ¬ [backslash, 0x78] <:+: rest := by
  have starts : [backslash, 0x78] <+: byte :: rest ↔
      byte = backslash ∧ rest.head? = some 0x78 := by
    rw [List.cons_prefix_cons, List.singleton_prefix_iff_head?_eq_some, eq_comm]
  rw [List.infix_cons_iff, starts, not_or]

theorem plain_cons : Plain (byte :: rest) ↔
    letter byte = none ∧ ¬ (byte = backslash ∧ rest.head? = some 0x78) ∧ Plain rest := by
  rw [Plain, Plain, List.forall_mem_cons, infix_mark_cons]
  tauto

theorem specCharConvers_halves (plain : Plain ssid) (behind : List Byte) :
    specCharConvers (ssid.flatMap halfPrinted ++ 0 :: behind) = some ssid := by
  induction ssid with
  | nil => exact specCharConvers_nul behind
  | cons byte rest induction =>
      obtain ⟨isNone, other, plain⟩ := plain_cons.mp plain
      rw [List.flatMap_cons, List.append_assoc, specCharConvers_half isNone
        fun both => other ⟨both.1, head_halves.mp both.2⟩, induction plain]
      rfl

/-- What `spec_char_convers` leaves of a byte. -/
def quoted (byte : Byte) : List Byte := if quoting byte then [backslash, byte] else [byte]

theorem head_printfEncode {behind : List Byte} :
    (printfEncode ssid ++ 0 :: behind).head? = some 0x78 ↔ ssid.head? = some 0x78 := by
  cases ssid with
  | nil =>
      refine iff_of_false (fun same => ?_) nofun
      cases same
  | cons byte ssid =>
      rw [printfEncode, List.flatMap_cons, List.append_assoc, printed]
      by_cases isQuoting : quoting byte = true
      · rw [if_pos isQuoting]
        refine iff_of_false (by simp [backslash]) fun isHead => ?_
        cases isHead
        exact absurd isQuoting (by decide)
      · rw [if_neg isQuoting, head_half]
        exact Option.some_inj.symm

/-- What `spec_char_convers` leaves of a byte, its letter if it has one. -/
def escaped (byte : Byte) : List Byte :=
  match letter byte with
  | some char => [backslash, char]
  | none => quoted byte

/-- Where no backslash stands before an `x`, every byte is read by itself. -/
theorem specCharConvers_escaped (noMark : ¬ [backslash, 0x78] <:+: ssid) (behind : List Byte) :
    specCharConvers (printfEncode ssid ++ 0 :: behind) = some (ssid.flatMap escaped) := by
  induction ssid with
  | nil => exact specCharConvers_nul behind
  | cons byte rest induction =>
      obtain ⟨other, noMark⟩ := infix_mark_cons.mp noMark
      have notStarts : ¬ (byte = backslash ∧
          (printfEncode rest ++ 0 :: behind).head? = some 0x78) :=
        fun both => other ⟨both.1, head_printfEncode.mp both.2⟩
      have isRest := induction noMark
      have isCons : printfEncode (byte :: rest) ++ 0 :: behind =
          printed byte ++ (printfEncode rest ++ 0 :: behind) := by
        rw [printfEncode, List.flatMap_cons, List.append_assoc]
        rfl
      rw [isCons, List.flatMap_cons, printed, escaped]
      by_cases isQuoting : quoting byte = true
      · have notMark : byte ≠ 0x78 := fun same => absurd (same ▸ isQuoting) (by decide)
        have notNul : byte ≠ 0 := fun same => absurd (same ▸ isQuoting) (by decide)
        have isNone : letter byte = none := by
          rcases quoting_iff.mp isQuoting with rfl | rfl <;> rfl
        have first : specCharConvers
            (backslash :: byte :: (printfEncode rest ++ 0 :: behind)) =
              (specCharConvers (byte :: (printfEncode rest ++ 0 :: behind))).map
                (backslash :: ·) :=
          specCharConvers_plain (by decide) fun both => notMark (Option.some_inj.mp both.2)
        rw [isNone, quoted, if_pos isQuoting, if_pos isQuoting, List.cons_append,
          List.singleton_append, first, specCharConvers_plain notNul notStarts, isRest]
        rfl
      · rw [if_neg isQuoting]
        cases isLetter : letter byte with
        | none =>
            rw [quoted, if_neg isQuoting, specCharConvers_half isLetter notStarts,
              isRest]
            rfl
        | some char =>
            obtain ⟨_, isPrintable, notQuoting, notMark⟩ := letter_cases isLetter
            have notNul : char ≠ 0 := fun same => absurd (same ▸ isPrintable) (by decide)
            have isHalf : halfPrinted byte = [backslash, char] := by
              rw [halfPrinted, isLetter]
            have first : specCharConvers
                (backslash :: char :: (printfEncode rest ++ 0 :: behind)) =
                  (specCharConvers (char :: (printfEncode rest ++ 0 :: behind))).map
                    (backslash :: ·) :=
              specCharConvers_plain (by decide) fun both => notMark (Option.some_inj.mp both.2)
            rw [isHalf, List.cons_append, List.singleton_append, first,
              specCharConvers_plain notNul fun both => notQuoting (.inl both.1), isRest]
            rfl

theorem specCharConvers_printfEncode (plain : Plain ssid) (behind : List Byte) :
    specCharConvers (printfEncode ssid ++ 0 :: behind) = some (ssid.flatMap quoted) := by
  have isQuoted : ssid.flatMap escaped = ssid.flatMap quoted :=
    List.flatMap_congr fun byte member => by rw [escaped, plain.1 byte member]
  rw [specCharConvers_escaped plain.2, isQuoted]

theorem remove_quoted (ssid : List Byte) :
    removeEscapeCharacter (ssid.flatMap quoted) = ssid := by
  induction ssid with
  | nil => rfl
  | cons byte ssid induction =>
      rw [List.flatMap_cons, quoted]
      by_cases isQuoting : quoting byte = true
      · rw [if_pos isQuoting, List.cons_append, List.singleton_append,
          remove_pair (quoting_iff.mp isQuoting), induction]
      · rw [if_neg isQuoting, List.singleton_append,
          remove_plain fun same => isQuoting (quoting_iff.mpr (.inl same)), induction]

theorem nul_notMem_quoted (noNul : 0 ∉ ssid) : 0 ∉ ssid.flatMap quoted := by
  intro member
  obtain ⟨byte, isByte, isQuoted⟩ := List.mem_flatMap.mp member
  have differs : byte ≠ 0 := fun isNul => noNul (isNul ▸ isByte)
  unfold quoted at isQuoted
  split at isQuoted
  next =>
    rcases List.mem_pair.mp isQuoted with isNul | isNul
    · exact absurd isNul (by decide)
    · exact differs isNul.symm
  next => exact differs (List.mem_singleton.mp isQuoted).symm

end Agreement

/-- The decoders agree on the names without such a byte and such a backslash. -/
theorem agrees_iff {ssid : List Byte} (noNul : 0 ∉ ssid) : Agrees ssid ↔ Plain ssid := by
  constructor
  · intro agrees
    have isRead := (agrees []).1
    rw [savedName, remove_printfEncode] at isRead
    have noLetter : ∀ byte ∈ ssid, letter byte = none := by
      refine (length_halfPrinted ssid).2 (light_of_read (fun char member => ?_) isRead)
      obtain ⟨byte, _, isHalf⟩ := List.mem_flatMap.mp member
      exact half_printable isHalf
    exact ⟨noLetter, not_infix_of_read noLetter noNul isRead⟩
  · intro plain behind
    constructor
    · rw [savedName, remove_printfEncode, specCharConvers_halves plain]
      exact congrArg some (Libc.cString_of_notMem noNul)
    · have isName : cString (ssid.flatMap quoted) = ssid.flatMap quoted :=
        Libc.cString_of_notMem (nul_notMem_quoted noNul)
      rw [shownName, specCharConvers_printfEncode plain, Option.map_some, isName,
        remove_quoted]

theorem agrees_iff_quoted :
    (0 : Byte) ∉ bytes "a\"\\b" ∧ (Agrees (bytes "a\"\\b") ↔ Plain (bytes "a\"\\b")) :=
  have noNul : (0 : Byte) ∉ bytes "a\"\\b" := by decide
  ⟨noNul, agrees_iff noNul⟩

/-- The name that is a backslash and `x41`. -/
theorem decoding_confuses_names :
    ¬ ∀ ssid : List Byte, ssid.length ≤ 32 → 0 ∉ ssid → Agrees ssid := by
  intro general
  have reads : savedName [] (printfEncode (bytes "\\x41")) = some (bytes "A") := by decide
  have same := (general (bytes "\\x41") (by decide) (by decide) []).1
  rw [reads] at same
  exact absurd same (by decide)

end Rkipc.Wifi
