import Rkipc.Param.Store
import Rkipc.Wifi.Encode

namespace Rkipc.Wifi

/-! The parser of the results of a Wi-Fi scan. -/

def bytes (string : String) : List Byte := string.toList.map fun char => BitVec.ofNat 8 char.toNat

def tab : Byte := 0x09
def newline : Byte := 0x0a
def quote : Byte := 0x22
def comma : Byte := 0x2c
def backslash : Byte := 0x5c

section Strings

/-- `%d` -/
def decimal (value : Int) : List Byte :=
  (Param.decimal value).map fun char => BitVec.ofNat 8 char.toNat

def digit (base : Nat) (byte : Byte) : Option Nat :=
  let value :=
    if 0x30 ≤ byte ∧ byte ≤ 0x39 then byte.toNat - 0x30
    else if 0x61 ≤ byte ∧ byte ≤ 0x7a then byte.toNat - 0x61 + 10
    else if 0x41 ≤ byte ∧ byte ≤ 0x5a then byte.toNat - 0x41 + 10
    else base
  if value < base then some value else none

/-- The number that the string begins with. -/
def number (base : Nat) (string : List Byte) : Nat :=
  (string.map (digit base)).takeWhile Option.isSome
    |>.foldl (fun value next => value * base + next.getD 0) 0

def atoi (string : List Byte) : Int :=
  let string := string.dropWhile fun byte => byte = 0x20 ∨ 0x09 ≤ byte ∧ byte ≤ 0x0d
  let value : Int :=
    match string with
    | 0x2d :: rest => -(number 10 rest)
    | 0x2b :: rest => number 10 rest
    | string => number 10 string
  max (-2147483648) (min 2147483647 value)

/-- Whether the string is found. -/
def strstr (string part : List Byte) : Bool := string.tails.any fun tail => part.isPrefixOf tail

def removeEscapeCharacter : List Byte → List Byte
  | [] => []
  | [byte] => [byte]
  | byte :: next :: rest =>
      if byte = backslash ∧ (next = backslash ∨ next = quote) then
        next :: removeEscapeCharacter rest
      else byte :: removeEscapeCharacter (next :: rest)

/-- Walks through the memory from the string on and steps over four bytes for each `\x`,
over the terminator too.  Nothing is written when it comes to the end of the memory. -/
def specCharConvers : List Byte → Option (List Byte)
  | [] => none
  | byte :: memory =>
      if byte = 0 then some []
      else if byte = backslash ∧ memory.head? = some 0x78 then
        match memory with
        | _ :: high :: low :: rest =>
            (specCharConvers rest).map fun dst =>
              BitVec.ofNat 8 (number 16 (cString [high, low])) :: dst
        | _ => none
      else (specCharConvers memory).map fun dst => byte :: dst

/-- The head of a list of the original strings and what they are in UTF-8. -/
abbrev EncodeGbk := List (List Byte × List Byte)

def encodeGbkInsert (head : EncodeGbk) (ori utf8 : List Byte) : EncodeGbk :=
  if ori = [] ∨ utf8 = [] then head
  else if 128 ≤ ori.length ∨ 128 ≤ utf8.length then head
  else (ori, utf8) :: head

def takeLine : Nat → List Byte → List Byte × List Byte
  | 0, file => ([], file)
  | _ + 1, [] => ([], [])
  | count + 1, byte :: file =>
      if byte = newline then ([byte], file)
      else
        let (line, file) := takeLine count file
        (byte :: line, file)

/-- `fgets` of a positive size. -/
def fgets (size : Nat) (file : List Byte) : Option (List Byte × List Byte) :=
  if file = [] then none else some (takeLine (size - 1) file)

/-- A token with what lies behind its terminator, and the place where `strtok` goes on. -/
structure Token where
  text : List Byte
  behind : List Byte
  saved : List Byte

/-- `strtok(memory, "\t")` -/
def strtok (memory : List Byte) : Option Token :=
  let memory := memory.dropWhile (· = tab)
  let text := memory.takeWhile fun byte => byte ≠ tab ∧ byte ≠ 0
  let rest := memory.drop text.length
  if text = [] then none
  else if rest.head? = some tab then some ⟨text, rest.tail, rest.tail⟩
  else some ⟨text, rest.tail, rest⟩

/-- A newline at the end becomes a NUL. -/
def Token.strip (token : Token) : Token :=
  if token.text.getLast? = some newline then
    { token with text := token.text.dropLast, behind := 0 :: token.behind }
  else token

end Strings

/-- The variables of the loop over the columns, with the lists `m_gbk_head` and
`m_nonpsk_head`. -/
structure Columns where
  index : Nat
  isNonpsk : Bool
  item : List Byte
  gbk : EncodeGbk
  nonpsk : EncodeGbk

/-- How a turn of the loop ends; `again` is the `continue`, which keeps the token. -/
inductive Turn
  | killed
  | again (columns : Columns)
  | next (columns : Columns)

/-- What a function comes to that runs at most as many turns as it is given. -/
inductive Run (α : Type)
  | unfinished
  | killed
  | finished (value : α)
deriving DecidableEq

namespace Columns

variable (mbGb2uniTable : Table) (columns : Columns)

/-- `snprintf(col, sizeof(col), ..)` and `strcat(item, col)` -/
def append (col : List Byte) : Columns := { columns with item := columns.item ++ col.take 127 }

def field (name : String) (value : List Byte) : List Byte :=
  quote :: bytes name ++ quote :: bytes ":" ++ value ++ [comma]

def quoted (value : List Byte) : List Byte := quote :: value ++ [quote]

/-- A network without a key is remembered, and the SSID is printed. -/
def ssid (utf8 dstNoescape utf8Noescape : List Byte) : Turn :=
  let columns :=
    if columns.isNonpsk then
      { columns with nonpsk := encodeGbkInsert columns.nonpsk dstNoescape utf8Noescape }
    else columns
  .next (columns.append (field "ssid" (quoted utf8)))

def ssidColumn (token : Token) : Turn :=
  if token.text = [] then .next (columns.append (field "ssid" (quoted [])))
  else
    match specCharConvers (token.text ++ 0 :: token.behind) with
    | none => .killed
    | some written =>
        let dst := cString written
        if rkEncodeIsUtf8 dst dst.length then
          columns.ssid dst (removeEscapeCharacter dst) (removeEscapeCharacter dst)
        else
          let utf8 := gbkToUtf8 mbGb2uniTable dst
          let dstNoescape := removeEscapeCharacter dst
          let utf8Noescape := removeEscapeCharacter utf8
          let columns :=
            { columns with gbk := encodeGbkInsert columns.gbk dstNoescape utf8Noescape }
          if rkEncodeIsUtf8 utf8 utf8.length then columns.ssid utf8 dstNoescape utf8Noescape
          else .again columns

/-- One turn; `cols` says which columns are printed. -/
def turn (cols : BitVec 32) (token : Token) : Turn :=
  if cols.getLsbD columns.index ∨ columns.index = 3 then
    match columns.index with
    | 0 => .next (columns.append (field "bssid" (quoted token.text)))
    | 1 => .next (columns.append (field "frequency" (decimal (atoi token.text))))
    | 2 => .next (columns.append (field "rssi" (decimal (atoi token.text))))
    | 3 =>
        let printed :=
          if cols.getLsbD 3 then columns.append (field "flags" (quoted token.text)) else columns
        .next { printed with
          isNonpsk := columns.isNonpsk ||
            (!strstr token.text (bytes "WPA") && !strstr token.text (bytes "WEP")) }
    | 4 => columns.ssidColumn mbGb2uniTable token
    | _ => .next columns
  else .next columns

/-- `while (p_strtok)` -/
def loop (cols : BitVec 32) : Nat → Option Token → Columns → Run Columns
  | _, none, columns => .finished columns
  | 0, some _, _ => .unfinished
  | turns + 1, some token, columns =>
      match columns.turn mbGb2uniTable cols token.strip with
      | .killed => .killed
      | .again columns => loop cols turns (some token.strip) columns
      | .next columns =>
          loop cols turns (strtok token.saved) { columns with index := columns.index + 1 }

end Columns

/-- The text of the reply and the two lists. -/
structure Results where
  scanR : List Byte
  gbk : EncodeGbk
  nonpsk : EncodeGbk
deriving DecidableEq

def dropComma (string : List Byte) : List Byte :=
  if string.getLast? = some comma then string.dropLast else string

section Scan

variable (mbGb2uniTable : Table) (behind : Nat → List Byte)

/-- `while (fgets(..))`; `behind` is what lies behind the terminator of each line, in the
array and after it. -/
def scanLines (cols : BitVec 32) : Nat → Nat → List Byte → Results → Run Results
  | 0, _, _, _ => .unfinished
  | turns + 1, number, file, results =>
      match fgets 255 file with
      | none => .finished results
      | some (line, file) =>
          let memory := line ++ 0 :: behind number
          match Columns.loop mbGb2uniTable cols memory.length (strtok memory)
              ⟨0, false, [0x7b], results.gbk, results.nonpsk⟩ with
          | .unfinished => .unfinished
          | .killed => .killed
          | .finished columns =>
              scanLines cols turns (number + 1) file
                ⟨results.scanR ++ dropComma columns.item ++ [0x7d, comma],
                  columns.gbk, columns.nonpsk⟩

/-- `file` is what `fopen` of `/tmp/scan_r.tmp` gives. -/
def rkWifiScanRSec (cols : BitVec 32) (file : Option (List Byte)) : Run (Option Results) :=
  if cols &&& 0x1F = 0 then .finished (some ⟨bytes "[]", [], []⟩)
  else
    match file with
    | none => .finished none
    | some file =>
        let rest := ((fgets 256 file).map Prod.snd).getD []
        match scanLines mbGb2uniTable behind cols (rest.length + 1) 0 rest
            ⟨bytes "[", [], []⟩ with
        | .unfinished => .unfinished
        | .killed => .killed
        | .finished results =>
            .finished (some { results with scanR := dropComma results.scanR ++ bytes "]" })

end Scan

section Ends

variable {table : Table} {cols : BitVec 32} {token : Token}
  {columns other : Columns}

theorem Run.killed_ne {α : Type} : (.killed : Run α) ≠ .unfinished := by
  intro same
  cases same

theorem Run.finished_ne {α : Type} {value : α} : Run.finished value ≠ .unfinished := by
  intro same
  cases same

theorem length_takeLine (count : Nat) (file : List Byte) :
    (takeLine count file).2.length ≤ file.length := by
  induction count generalizing file with
  | zero => exact Nat.le_refl _
  | succ count induction =>
      cases file with
      | nil => exact Nat.le_refl _
      | cons byte file =>
          rw [takeLine]
          split
          next => exact Nat.le_succ _
          next => exact Nat.le_succ_of_le (induction file)

theorem length_fgets {size : Nat} {file line rest : List Byte} (two : 2 ≤ size)
    (read : fgets size file = some (line, rest)) : rest.length < file.length := by
  unfold fgets at read
  split at read
  next => cases read
  next nonempty =>
    cases file with
    | nil => exact absurd rfl nonempty
    | cons byte file =>
        obtain ⟨count, rfl⟩ := Nat.exists_eq_add_of_le two
        have taken : (takeLine (count + 1) (byte :: file)).2 = rest := by
          rw [show count + 1 = 2 + count - 1 by omega, Option.some_inj.mp read]
        rw [← taken, takeLine]
        split
        next => exact Nat.lt_succ_self _
        next => exact Nat.lt_succ_of_le (length_takeLine count file)

theorem length_strtok {memory : List Byte} (found : strtok memory = some token) :
    token.saved.length < memory.length := by
  unfold strtok at found
  dsimp only at found
  generalize skipped : memory.dropWhile (· = tab) = rest at found
  have fits : rest.length ≤ memory.length := by
    rw [← skipped]
    exact (List.dropWhile_sublist _).length_le
  have part : (rest.takeWhile fun byte => byte ≠ tab ∧ byte ≠ 0).length ≤ rest.length :=
    (List.takeWhile_sublist _).length_le
  split at found
  next => cases found
  next nonempty =>
    have pos := List.length_pos_iff.mpr nonempty
    split at found
    next =>
      cases found
      rw [List.length_tail, List.length_drop]
      omega
    next =>
      cases found
      rw [List.length_drop]
      omega

/-- What the converter gives is accepted, so the token is never read again. -/
theorem ssidColumn_ne_again : columns.ssidColumn table token ≠ .again other := by
  unfold Columns.ssidColumn
  split
  next => exact Turn.noConfusion
  next =>
    split
    next => exact Turn.noConfusion
    next written _ =>
      dsimp only
      split
      next => exact Turn.noConfusion
      next =>
        have encoded := utf8String_gbkToUtf8 table (cString written)
        rw [if_pos ((rkEncodeIsUtf8_iff encoded.2).mpr encoded.1)]
        exact Turn.noConfusion

theorem turn_ne_again : columns.turn table cols token ≠ .again other := by
  unfold Columns.turn
  split
  next =>
    split
    next => exact Turn.noConfusion
    next => exact Turn.noConfusion
    next => exact Turn.noConfusion
    next => exact Turn.noConfusion
    next => exact ssidColumn_ne_again
    next => exact Turn.noConfusion
  next => exact Turn.noConfusion

theorem loop_finishes {turns : Nat} {next : Option Token}
    (enough : ∀ token ∈ next, token.saved.length < turns) :
    columns.loop table cols turns next ≠ .unfinished := by
  induction turns generalizing next columns with
  | zero =>
      cases next with
      | none => exact Run.finished_ne
      | some token => exact absurd (enough token rfl) (Nat.not_lt_zero _)
  | succ turns induction =>
      cases next with
      | none => exact Run.finished_ne
      | some token =>
          rw [Columns.loop]
          cases turned : columns.turn table cols token.strip with
          | killed => exact Run.killed_ne
          | again other => exact absurd turned turn_ne_again
          | next after =>
              refine induction fun following found => ?_
              have shorter := length_strtok found
              have bound := enough token rfl
              omega

theorem scanLines_finishes {behind : Nat → List Byte} {turns number : Nat} {file : List Byte}
    {results : Results} (enough : file.length < turns) :
    scanLines table behind cols turns number file results ≠ .unfinished := by
  induction turns generalizing number file results with
  | zero => exact absurd enough (Nat.not_lt_zero _)
  | succ turns induction =>
      rw [scanLines]
      cases read : fgets 255 file with
      | none => exact Run.finished_ne
      | some pair =>
          obtain ⟨line, rest⟩ := pair
          dsimp only
          split
          next stuck =>
            refine absurd stuck (loop_finishes fun token found => ?_)
            exact length_strtok found
          next => exact Run.killed_ne
          next =>
            refine induction ?_
            have shorter := length_fgets (by decide) read
            omega

theorem rkWifiScanRSec_finishes {behind : Nat → List Byte} {file : Option (List Byte)} :
    rkWifiScanRSec table behind cols file ≠ .unfinished := by
  unfold rkWifiScanRSec
  split
  next => exact Run.finished_ne
  next =>
    split
    next => exact Run.finished_ne
    next =>
      dsimp only
      split
      next stuck => exact absurd stuck (scanLines_finishes (Nat.lt_succ_self _))
      next => exact Run.killed_ne
      next => exact Run.finished_ne

/-- Whatever the table and the file hold, the converter's output passes the validator, no
token is read twice and the parser comes to an end. -/
theorem scanResults_end (table : Table) :
    (∀ buf : List Byte, 0 ∉ buf → (rkEncodeIsUtf8 buf buf.length = true ↔ Utf8 buf)) ∧
      (∀ src, Utf8String (gbkToUtf8 table src)) ∧
      (∀ (cols : BitVec 32) (token : Token) (columns other : Columns),
        columns.turn table cols token ≠ .again other) ∧
      ∀ (behind : Nat → List Byte) (cols : BitVec 32) (file : Option (List Byte)),
        rkWifiScanRSec table behind cols file ≠ .unfinished :=
  ⟨fun _ noNul => rkEncodeIsUtf8_iff noNul, utf8String_gbkToUtf8 table,
    fun _ _ _ _ => turn_ne_again, fun _ _ _ => rkWifiScanRSec_finishes⟩

/-- Two bytes of one lead byte and its continuation. -/
theorem scanResults_end_accent :
    (0 : Byte) ∉ [0xc3, 0xa9] ∧ (rkEncodeIsUtf8 [0xc3, 0xa9] 2 = true ↔ Utf8 [0xc3, 0xa9]) := by
  have noNul : (0 : Byte) ∉ [0xc3, 0xa9] := by decide
  exact ⟨noNul, (scanResults_end fun _ => 0x003f).1 [0xc3, 0xa9] noNul⟩

/-- A network whose name is two bytes of GBK, of which `wpa_cli` prints the escapes. -/
example : rkWifiScanRSec (fun _ => 0x4e2d) (fun _ => []) 0x10
      (some (bytes "bssid\nb\t2412\t-40\t[WPA]\t\\xd6\\xd0\n")) =
    .finished (some ⟨bytes "[\x7b\"ssid\":\"" ++ [0xe4, 0xb8, 0xad] ++ bytes "\"\x7d]",
      [([0xd6, 0xd0], [0xe4, 0xb8, 0xad])], []⟩) := by
  decide +kernel

end Ends

end Rkipc.Wifi
