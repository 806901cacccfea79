import Rkipc.Param.Decimal
import Rkipc.Wifi.EscapeBounds

namespace Rkipc.Wifi

/-! The bytes that the parser of the scan writes. -/

/-- The arrays of `RK_wifi_scan_r_sec` and of what it calls; `ori` and `oriUtf8` are those of a
network that is remembered. -/
inductive Buffer
  | line
  | item
  | col
  | utf8
  | dst
  | utf8Noescape
  | dstNoescape
  | bufTemp
  | ori
  | oriUtf8
  | scanR
deriving DecidableEq

/-- A write up to the byte in front of `ends`, into an array of `size` bytes. -/
structure Write where
  buffer : Buffer
  size : Nat
  ends : Nat
deriving DecidableEq

def Write.Inside (write : Write) : Prop := write.ends ≤ write.size

instance (write : Write) : Decidable write.Inside :=
  inferInstanceAs (Decidable (write.ends ≤ write.size))

def WritesInside (writes : List Write) : Prop := ∀ write ∈ writes, write.Inside

instance (writes : List Write) : Decidable (WritesInside writes) :=
  inferInstanceAs (Decidable (∀ write ∈ writes, write.Inside))

/-- What an access of a decoder writes; the string is only read. -/
def Access.write (size : Nat) : Access → Option Write
  | (.buf, _) => none
  | (.dst, place) => some ⟨.dst, size, place + 1⟩
  | (.bufTemp, place) => some ⟨.bufTemp, size, place + 1⟩

/-- `spec_char_convers(p_strtok, dst)` -/
def Token.decodeWrites (token : Token) : List Write :=
  let size := token.text.length + 1
  ⟨.bufTemp, size, size⟩ ::
    (Access.specCharConvers 0 0 (token.text ++ 0 :: token.behind)).filterMap (Access.write size)

/-- `remove_escape_character(buf, dst)` -/
def removeWrites (buffer : Buffer) (size : Nat) (buf : List Byte) : List Write :=
  [⟨.bufTemp, buf.length + 1, buf.length + 1⟩,
    ⟨buffer, size, (removeEscapeCharacter buf).length + 1⟩]

def encodeGbkInsertWrites (ori utf8 : List Byte) : List Write :=
  if ori = [] ∨ utf8 = [] then []
  else
    [⟨.ori, 128, 128⟩, ⟨.oriUtf8, 128, 128⟩] ++
      if 128 ≤ ori.length ∨ 128 ≤ utf8.length then []
      else [⟨.ori, 128, ori.length + 1⟩, ⟨.oriUtf8, 128, utf8.length + 1⟩]

/-- The NUL of `strtok` and the one for the newline; `total` counts the bytes of the line, its
terminator and the memory behind them. -/
def Token.cutWrites (total : Nat) (token : Token) : List Write :=
  (if token.saved = token.behind then [⟨.line, 256, total - token.saved.length⟩] else []) ++
    if token.text.getLast? = some newline then
      [⟨.line, 256, total - (token.behind.length + 1)⟩]
    else []

namespace Columns

variable (mbGb2uniTable : Table) (columns : Columns)

/-- `strcat(item, col)` -/
def catWrite (col : List Byte) : Write :=
  ⟨.item, 384, columns.item.length + (col.take 127).length + 1⟩

/-- `snprintf(col, sizeof(col), ..)` and `strcat(item, col)` -/
def appendWrites (col : List Byte) : List Write :=
  [⟨.col, 128, (col.take 127).length + 1⟩, columns.catWrite col]

def ssidWrites (utf8 dstNoescape utf8Noescape : List Byte) : List Write :=
  (if columns.isNonpsk then encodeGbkInsertWrites dstNoescape utf8Noescape else []) ++
    columns.appendWrites (field "ssid" (quoted utf8))

/-- Each array of the name has a byte more than the name. -/
def ssidColumnWrites (token : Token) : List Write :=
  let size := token.text.length + 1
  ⟨.utf8, size, size⟩ ::
    if token.text = [] then columns.appendWrites (field "ssid" (quoted []))
    else
      ⟨.dst, size, size⟩ :: token.decodeWrites ++
        match specCharConvers (token.text ++ 0 :: token.behind) with
        | none => []
        | some written =>
            let dst := cString written
            [⟨.utf8Noescape, size, size⟩, ⟨.dstNoescape, size, size⟩] ++
              if rkEncodeIsUtf8 dst dst.length then
                ⟨.utf8, size, dst.length + 1⟩ :: removeWrites .dstNoescape size dst ++
                  removeWrites .utf8Noescape size dst ++
                  columns.ssidWrites dst (removeEscapeCharacter dst) (removeEscapeCharacter dst)
              else
                let utf8 := gbkToUtf8 mbGb2uniTable dst
                let dstNoescape := removeEscapeCharacter dst
                let utf8Noescape := removeEscapeCharacter utf8
                ⟨.utf8, size, utf8.length + 1⟩ :: removeWrites .dstNoescape size dst ++
                  removeWrites .utf8Noescape size utf8 ++
                  encodeGbkInsertWrites dstNoescape utf8Noescape ++
                  if rkEncodeIsUtf8 utf8 utf8.length then
                    columns.ssidWrites utf8 dstNoescape utf8Noescape
                  else []

def turnWrites (cols : BitVec 32) (token : Token) : List Write :=
  if cols.getLsbD columns.index ∨ columns.index = 3 then
    ⟨.col, 128, 128⟩ ::
      match columns.index with
      | 0 => columns.appendWrites (field "bssid" (quoted token.text))
      | 1 => columns.appendWrites (field "frequency" (decimal (atoi token.text)))
      | 2 => columns.appendWrites (field "rssi" (decimal (atoi token.text)))
      | 3 =>
          if cols.getLsbD 3 then columns.appendWrites (field "flags" (quoted token.text))
          else [columns.catWrite []]
      | 4 => columns.ssidColumnWrites mbGb2uniTable token
      | _ => [columns.catWrite []]
  else []

/-- The turns of `while (p_strtok)`. -/
def visits (cols : BitVec 32) : Nat → Option Token → Columns → List (Columns × Token)
  | _, none, _ => []
  | 0, some _, _ => []
  | turns + 1, some token, columns =>
      (columns, token) ::
        match columns.turn mbGb2uniTable cols token.strip with
        | .killed => []
        | .again columns => visits cols turns (some token.strip) columns
        | .next columns =>
            visits cols turns (strtok token.saved) { columns with index := columns.index + 1 }

/-- The name, when the turn is for one that is not empty. -/
def name (cols : BitVec 32) (token : Token) : List Token :=
  if columns.index = 4 ∧ cols.getLsbD 4 ∧ token.text ≠ [] then [token] else []

end Columns

/-- A part of the run: a line that has been read, or the end of the file. -/
inductive Part
  | line (line behind : List Byte) (size : Nat) (results : Results)
  | close (size : Nat) (results : Results)

section Parts

variable (mbGb2uniTable : Table) (behind : Nat → List Byte)

/-- `UNIT_SIZE` more where the item does not fit. -/
def grow (size : Nat) (scanR item : List Byte) : Nat :=
  if size ≤ scanR.length + item.length + 3 then size + 512 else size

def closedItem (columns : Columns) : List Byte := dropComma columns.item ++ [0x7d, comma]

def lineColumns (cols : BitVec 32) (line behind : List Byte) (results : Results) : Run Columns :=
  let memory := line ++ 0 :: behind
  Columns.loop mbGb2uniTable cols memory.length (strtok memory)
    ⟨0, false, [0x7b], results.gbk, results.nonpsk⟩

def lineVisits (cols : BitVec 32) (line behind : List Byte) (results : Results) :
    List (Columns × Token) :=
  let memory := line ++ 0 :: behind
  Columns.visits mbGb2uniTable cols memory.length (strtok memory)
    ⟨0, false, [0x7b], results.gbk, results.nonpsk⟩

/-- The parts of `while (fgets(..))` and of what is behind it. -/
def scanParts (cols : BitVec 32) : Nat → Nat → Nat → List Byte → Results → List Part
  | 0, _, _, _, _ => []
  | turns + 1, number, size, file, results =>
      match fgets 255 file with
      | none => [.close size results]
      | some (line, file) =>
          .line line (behind number) size results ::
            match lineColumns mbGb2uniTable cols line (behind number) results with
            | .finished columns =>
                scanParts cols turns (number + 1)
                  (grow size results.scanR (closedItem columns)) file
                  ⟨results.scanR ++ closedItem columns, columns.gbk, columns.nonpsk⟩
            | .unfinished | .killed => []

def Part.writes (cols : BitVec 32) : Part → List Write
  | .line string behind size results =>
      [⟨.line, 256, string.length + 1⟩, ⟨.item, 384, 384⟩, ⟨.item, 384, 2⟩] ++
        (lineVisits mbGb2uniTable cols string behind results).flatMap (fun visit =>
          visit.2.cutWrites (string ++ 0 :: behind).length ++
            visit.1.turnWrites mbGb2uniTable cols visit.2.strip) ++
        match lineColumns mbGb2uniTable cols string behind results with
        | .finished columns =>
            [⟨.item, 384, columns.item.length⟩,
              ⟨.item, 384, (closedItem columns).length + 1⟩,
              ⟨.scanR, grow size results.scanR (closedItem columns),
                results.scanR.length + (closedItem columns).length + 1⟩]
        | .unfinished | .killed => []
  | .close size results =>
      [⟨.scanR, size, results.scanR.length⟩,
        ⟨.scanR, size, (dropComma results.scanR).length + 2⟩]

def Part.names (cols : BitVec 32) : Part → List Token
  | .line string behind _ results =>
      (lineVisits mbGb2uniTable cols string behind results).flatMap fun visit =>
        visit.1.name cols visit.2.strip
  | .close _ _ => []

/-- The parts of `RK_wifi_scan_r_sec` for a file behind its header. -/
def fileParts (cols : BitVec 32) (file : List Byte) : List Part :=
  let rest := ((fgets 256 file).map Prod.snd).getD []
  scanParts mbGb2uniTable behind cols (rest.length + 1) 0 512 rest ⟨bytes "[", [], []⟩

def rkWifiScanRSecWrites (cols : BitVec 32) (file : Option (List Byte)) : List Write :=
  if cols &&& 0x1F = 0 then [⟨.scanR, 3, 3⟩, ⟨.scanR, 3, 3⟩]
  else
    match file with
    | none => []
    | some file =>
        ⟨.line, 256, 256⟩ ::
          ((fgets 256 file).toList.map fun read => ⟨.line, 256, read.1.length + 1⟩) ++
          [⟨.scanR, 512, 512⟩, ⟨.scanR, 512, 2⟩] ++
          (fileParts mbGb2uniTable behind cols file).flatMap (Part.writes mbGb2uniTable cols)

/-- The names that are read, each with the memory behind it. -/
def scanNames (cols : BitVec 32) (file : Option (List Byte)) : List Token :=
  if cols &&& 0x1F = 0 then []
  else
    match file with
    | none => []
    | some file =>
        (fileParts mbGb2uniTable behind cols file).flatMap (Part.names mbGb2uniTable cols)

end Parts

/-- The name is decoded inside `dst` and `buf_temp`, and is not longer in UTF-8 than its arrays.
Of a name whose escapes are whole the first holds; behind an escape with fewer than two characters
after its `x` the decoder is past the terminator, and what it writes there is up to the memory. -/
structure Token.Fits (mbGb2uniTable : Table) (name : Token) : Prop where
  decodes : ∀ access ∈ Access.specCharConvers 0 0 (name.text ++ 0 :: name.behind),
    access.1 ≠ .buf → access.2 ≤ name.text.length
  converts : ∀ written, specCharConvers (name.text ++ 0 :: name.behind) = some written →
    Utf8 (cString written) ∨
      (gbkToUtf8 mbGb2uniTable (cString written)).length ≤ name.text.length

section Writes

variable {write : Write} {writes others : List Write} {size : Nat}

theorem writesInside_nil : WritesInside [] := List.forall_mem_nil _

theorem writesInside_cons : WritesInside (write :: writes) ↔
    write.Inside ∧ WritesInside writes :=
  List.forall_mem_cons

theorem writesInside_append : WritesInside (writes ++ others) ↔
    WritesInside writes ∧ WritesInside others :=
  List.forall_mem_append

theorem writesInside_flatMap {α : Type} {parts : List α} {body : α → List Write} :
    WritesInside (parts.flatMap body) ↔ ∀ part ∈ parts, WritesInside (body part) :=
  List.forall_mem_flatMap

theorem length_remove (buf : List Byte) : (removeEscapeCharacter buf).length ≤ buf.length := by
  induction buf using removeEscapeCharacter.induct with
  | case1 => exact Nat.le_refl _
  | case2 byte => exact Nat.le_refl _
  | case3 byte next rest pair induction =>
    rw [removeEscapeCharacter, if_pos pair]
    exact Nat.le_succ_of_le (Nat.succ_le_succ induction)
  | case4 byte next rest single induction =>
    rw [removeEscapeCharacter, if_neg single]
    exact Nat.succ_le_succ induction

theorem removeWrites_inside (buffer : Buffer) {buf : List Byte} (fits : buf.length < size) :
    WritesInside (removeWrites buffer size buf) :=
  writesInside_cons.mpr ⟨Nat.le_refl _, writesInside_cons.mpr
    ⟨Nat.le_trans (Nat.succ_le_succ (length_remove buf)) fits, writesInside_nil⟩⟩

/-- The arrays of a network that is remembered hold what is put into them. -/
theorem encodeGbkInsertWrites_inside (ori utf8 : List Byte) :
    WritesInside (encodeGbkInsertWrites ori utf8) := by
  unfold encodeGbkInsertWrites
  split
  · exact writesInside_nil
  · refine writesInside_append.mpr ⟨writesInside_cons.mpr ⟨Nat.le_refl _,
      writesInside_cons.mpr ⟨Nat.le_refl _, writesInside_nil⟩⟩, ?_⟩
    split
    · exact writesInside_nil
    next short =>
      obtain ⟨isOri, isUtf8⟩ := not_or.mp short
      exact writesInside_cons.mpr ⟨Nat.lt_of_not_le isOri,
        writesInside_cons.mpr ⟨Nat.lt_of_not_le isUtf8, writesInside_nil⟩⟩

end Writes

section Tokens

variable {text behind memory : List Byte} {token : Token} {table : Table}

theorem dropWhile_terminated (text behind : List Byte) :
    (text ++ 0 :: behind).dropWhile (· = tab) = text.dropWhile (· = tab) ++ 0 :: behind := by
  rw [List.dropWhile_append]
  split
  next isEmpty =>
    rw [List.isEmpty_iff.mp isEmpty]
    rfl
  next => rfl

theorem takeWhile_terminated (text behind : List Byte) :
    (text ++ 0 :: behind).takeWhile (fun byte => byte ≠ tab ∧ byte ≠ 0) =
      text.takeWhile fun byte => byte ≠ tab ∧ byte ≠ 0 := by
  rw [List.takeWhile_append]
  split
  next all =>
    rw [(List.takeWhile_sublist _).eq_of_length all]
    exact List.append_nil text
  next => rfl

theorem strtok_noNul (found : strtok memory = some token) : 0 ∉ token.text := by
  unfold strtok at found
  dsimp only at found
  have noNul : 0 ∉ (memory.dropWhile (· = tab)).takeWhile fun byte => byte ≠ tab ∧ byte ≠ 0 :=
    fun member => absurd (List.mem_takeWhile_imp member) (by simp)
  split at found
  · cases found
  · split at found
    · cases found
      exact noNul
    · cases found
      exact noNul

/-- What `strtok` finds in a string: it goes on behind the token and in front of the
terminator. -/
theorem strtok_terminated (found : strtok (text ++ 0 :: behind) = some token) :
    behind.length ≤ token.behind.length ∧
      ∃ rest, token.saved = rest ++ 0 :: behind ∧
        token.text.length + rest.length ≤ text.length := by
  unfold strtok at found
  dsimp only at found
  rw [dropWhile_terminated, takeWhile_terminated] at found
  generalize isSkipped : text.dropWhile (· = tab) = skipped at found
  have fits : skipped.length ≤ text.length := by
    rw [← isSkipped]
    exact (List.dropWhile_sublist _).length_le
  have part : (skipped.takeWhile fun byte => byte ≠ tab ∧ byte ≠ 0).length ≤ skipped.length :=
    (List.takeWhile_sublist _).length_le
  generalize (skipped.takeWhile fun byte => byte ≠ tab ∧ byte ≠ 0) = taken at found part
  rw [List.drop_append_of_le_length part] at found
  have isLeft : (skipped.drop taken.length).length = skipped.length - taken.length :=
    List.length_drop
  generalize skipped.drop taken.length = left at found isLeft
  split at found
  next => cases found
  next =>
    split at found
    next isTab =>
      cases left with
      | nil => cases isTab
      | cons byte left =>
        cases found
        refine ⟨?_, left, rfl, ?_⟩
        · simp only [List.cons_append, List.tail_cons, List.length_append, List.length_cons]
          omega
        · rw [List.length_cons] at isLeft
          dsimp only
          omega
    next =>
      cases found
      refine ⟨?_, left, rfl, by dsimp only; omega⟩
      rw [List.length_tail, List.length_append, List.length_cons]
      omega

theorem text_strip (token : Token) :
    token.strip.text.length ≤ token.text.length ∧ (0 ∉ token.text → 0 ∉ token.strip.text) := by
  unfold Token.strip
  split
  · exact ⟨List.length_dropLast ▸ Nat.sub_le _ _,
      fun noNul member => noNul (List.dropLast_subset _ member)⟩
  · exact ⟨Nat.le_refl _, id⟩

theorem cutWrites_inside {line : List Byte} (short : line.length ≤ 254)
    (isSaved : behind.length + 1 ≤ token.saved.length)
    (isBehind : behind.length ≤ token.behind.length) :
    WritesInside (token.cutWrites (line ++ 0 :: behind).length) := by
  rw [Token.cutWrites, List.length_append, List.length_cons, writesInside_append]
  constructor
  · split
    · refine writesInside_cons.mpr ⟨?_, writesInside_nil⟩
      change line.length + (behind.length + 1) - token.saved.length ≤ 256
      omega
    · exact writesInside_nil
  · split
    · refine writesInside_cons.mpr ⟨?_, writesInside_nil⟩
      change line.length + (behind.length + 1) - (token.behind.length + 1) ≤ 256
      omega
    · exact writesInside_nil

/-- The last byte that `spec_char_convers` writes is the terminator. -/
theorem ends_convertAccesses {place i : Nat} {written : List Byte}
    (isWritten : specCharConvers memory = some written) :
    (.dst, i + written.length) ∈ Access.specCharConvers place i memory := by
  induction memory using specCharConvers.induct generalizing place i written with
  | case1 => cases isWritten
  | case2 memory =>
    rw [specCharConvers_nul] at isWritten
    cases isWritten
    rw [convertAccesses_nul]
    exact List.mem_cons_of_mem _ List.mem_cons_self
  | case3 byte notNul mark high low rest starts induction =>
    obtain ⟨rfl, isMark⟩ := starts
    obtain rfl := Option.some_inj.mp isMark
    rw [specCharConvers_escape] at isWritten
    obtain ⟨dst, isRest, rfl⟩ := Option.map_eq_some_iff.mp isWritten
    obtain ⟨accesses, isAll, _, follows⟩ := convertAccesses_escape place i (high :: low :: rest)
    have later := @induction (place + 4) (i + 1) dst isRest
    rw [← follows high low rest rfl] at later
    rw [isAll, List.length_cons, Nat.add_comm dst.length 1, ← Nat.add_assoc]
    exact List.mem_cons_of_mem _ (List.mem_cons_of_mem _ (List.mem_append_right _
      (List.mem_cons_of_mem _ (List.mem_cons_of_mem _ (List.mem_cons_of_mem _ later)))))
  | case4 byte memory notNul starts cut =>
    rw [specCharConvers.eq_def] at isWritten
    dsimp only at isWritten
    rw [if_neg notNul, if_pos starts] at isWritten
    split at isWritten
    next => exact (cut _ _ _ _ rfl).elim
    next => cases isWritten
  | case5 byte memory notNul other induction =>
    rw [specCharConvers_plain notNul other] at isWritten
    obtain ⟨dst, isRest, rfl⟩ := Option.map_eq_some_iff.mp isWritten
    have later := @induction (place + 1) (i + 1) dst isRest
    rw [List.length_cons, Nat.add_comm dst.length 1, ← Nat.add_assoc]
    by_cases isEscape : byte = backslash
    · subst isEscape
      rw [convertAccesses_backslash fun starts => other ⟨rfl, starts⟩]
      exact List.mem_cons_of_mem _ (List.mem_cons_of_mem _ (List.mem_cons_of_mem _ later))
    · rw [convertAccesses_plain notNul isEscape]
      exact List.mem_cons_of_mem _ (List.mem_cons_of_mem _ later)

theorem decodeWrites_inside : WritesInside token.decodeWrites ↔
    ∀ access ∈ Access.specCharConvers 0 0 (token.text ++ 0 :: token.behind),
      access.1 ≠ .buf → access.2 ≤ token.text.length := by
  rw [Token.decodeWrites, writesInside_cons]
  refine (and_iff_right (Nat.le_refl _)).trans ⟨fun inside access member notBuf => ?_,
    fun inside write member => ?_⟩
  · obtain ⟨array, place⟩ := access
    cases array with
    | buf => exact absurd rfl notBuf
    | dst =>
      exact Nat.le_of_succ_le_succ (inside _ (List.mem_filterMap.mpr ⟨_, member, rfl⟩))
    | bufTemp =>
      exact Nat.le_of_succ_le_succ (inside _ (List.mem_filterMap.mpr ⟨_, member, rfl⟩))
  · obtain ⟨⟨array, place⟩, isIn, isWrite⟩ := List.mem_filterMap.mp member
    cases array with
    | buf => cases isWrite
    | dst =>
      cases isWrite
      exact Nat.succ_le_succ (inside _ isIn DecoderArray.noConfusion)
    | bufTemp =>
      cases isWrite
      exact Nat.succ_le_succ (inside _ isIn DecoderArray.noConfusion)

theorem length_cString (memory : List Byte) : (cString memory).length ≤ memory.length :=
  (List.takeWhile_sublist _).length_le

theorem Token.Fits.length_written {written : List Byte} (fits : token.Fits table)
    (isWritten : specCharConvers (token.text ++ 0 :: token.behind) = some written) :
    written.length ≤ token.text.length := by
  have last := fits.decodes _ (ends_convertAccesses isWritten) DecoderArray.noConfusion
  rwa [Nat.zero_add] at last

end Tokens

/-- The bytes of an item that its columns have besides their text. -/
def overhead : Nat → Nat
  | 0 => 11
  | 1 => 24
  | 2 => 19
  | 3 => 11
  | 4 => 10
  | _ => 0

section Turns

variable {table : Table} {cols : BitVec 32} {columns : Columns} {token : Token}

theorem length_field (name : String) (value : List Byte) :
    (Columns.field name value).length = (bytes name).length + value.length + 4 := by
  simp only [Columns.field, List.length_append, List.length_cons, List.length_nil, List.cons_append]
  have colon : (bytes ":").length = 1 := rfl
  omega

theorem length_quoted (value : List Byte) : (Columns.quoted value).length = value.length + 2 := by
  rw [Columns.quoted, List.cons_append, List.length_cons, List.length_append]
  rfl

theorem length_atoi (string : List Byte) : (decimal (atoi string)).length ≤ 11 := by
  rw [decimal, List.length_map]
  exact Param.length_decimal (Int.le_max_left _ _)
    (Int.max_le.mpr ⟨by decide, Int.min_le_left _ _⟩)

theorem catWrite_inside {col : List Byte} (room : columns.item.length + col.length ≤ 383) :
    (columns.catWrite col).Inside := by
  have cut : (col.take 127).length ≤ col.length := List.length_take_le' 127 col
  change columns.item.length + (col.take 127).length + 1 ≤ 384
  omega

theorem appendWrites_inside {col : List Byte} (room : columns.item.length + col.length ≤ 383) :
    WritesInside (columns.appendWrites col) := by
  refine writesInside_cons.mpr ⟨?_, writesInside_cons.mpr
    ⟨catWrite_inside room, writesInside_nil⟩⟩
  exact Nat.succ_le_succ (List.length_take_le 127 col)

theorem length_append_item (col : List Byte) :
    (columns.append col).item.length ≤ columns.item.length + col.length := by
  rw [Columns.append, List.length_append]
  exact Nat.add_le_add_left (List.length_take_le' 127 col) _

theorem ssidWrites_inside {utf8 : List Byte} (dstNoescape utf8Noescape : List Byte)
    (room : columns.item.length + utf8.length + 10 ≤ 383) :
    WritesInside (columns.ssidWrites utf8 dstNoescape utf8Noescape) := by
  refine writesInside_append.mpr ⟨?_, appendWrites_inside ?_⟩
  · split
    · exact encodeGbkInsertWrites_inside _ _
    · exact writesInside_nil
  · rw [length_field, length_quoted]
    have name : (bytes "ssid").length = 4 := rfl
    omega

theorem fits_of_ssidColumnWrites (nonempty : token.text ≠ [])
    (inside : WritesInside (columns.ssidColumnWrites table token)) : token.Fits table := by
  unfold Columns.ssidColumnWrites at inside
  dsimp only at inside
  rw [if_neg nonempty, List.cons_append, writesInside_cons, writesInside_cons,
    writesInside_append, decodeWrites_inside] at inside
  obtain ⟨_, _, decodes, inside⟩ := inside
  refine ⟨decodes, fun written isWritten => or_iff_not_imp_left.mpr fun notUtf8 => ?_⟩
  have isOther := mt (rkEncodeIsUtf8_iff (cString_noNul written)).mp notUtf8
  rw [isWritten] at inside
  dsimp only at inside
  rw [if_neg isOther] at inside
  have isUtf8 := (writesInside_append.mp inside).2
  exact Nat.le_of_succ_le_succ (isUtf8 ⟨.utf8, _, _⟩ List.mem_cons_self)

theorem ssidColumnWrites_inside
    (room : columns.item.length + token.text.length + 10 ≤ 383)
    (fits : token.text ≠ [] → token.Fits table) :
    WritesInside (columns.ssidColumnWrites table token) := by
  unfold Columns.ssidColumnWrites
  refine writesInside_cons.mpr ⟨Nat.le_refl _, ?_⟩
  split
  next =>
    refine appendWrites_inside ?_
    rw [length_field, length_quoted]
    have name : (bytes "ssid").length = 4 := rfl
    have empty : ([] : List Byte).length = 0 := rfl
    omega
  next nonempty =>
    have fits := fits nonempty
    refine writesInside_cons.mpr ⟨Nat.le_refl _, writesInside_append.mpr
      ⟨decodeWrites_inside.mpr fits.decodes, ?_⟩⟩
    split
    next => exact writesInside_nil
    next written isWritten =>
      have short := Nat.le_trans (length_cString written) (fits.length_written isWritten)
      refine writesInside_append.mpr ⟨writesInside_cons.mpr ⟨Nat.le_refl _,
        writesInside_cons.mpr ⟨Nat.le_refl _, writesInside_nil⟩⟩, ?_⟩
      split
      next =>
        simp only [List.cons_append]
        refine writesInside_cons.mpr ⟨Nat.succ_le_succ short, ?_⟩
        exact writesInside_append.mpr ⟨writesInside_append.mpr
          ⟨removeWrites_inside _ (Nat.lt_succ_of_le short),
            removeWrites_inside _ (Nat.lt_succ_of_le short)⟩,
          ssidWrites_inside _ _ (by omega)⟩
      next isOther =>
        have converted := (fits.converts written isWritten).resolve_left fun isUtf8 =>
          isOther ((rkEncodeIsUtf8_iff (cString_noNul written)).mpr isUtf8)
        simp only [List.cons_append]
        refine writesInside_cons.mpr ⟨Nat.succ_le_succ converted, ?_⟩
        refine writesInside_append.mpr ⟨writesInside_append.mpr ⟨writesInside_append.mpr
          ⟨removeWrites_inside _ (Nat.lt_succ_of_le short),
            removeWrites_inside _ (Nat.lt_succ_of_le converted)⟩,
          encodeGbkInsertWrites_inside _ _⟩, ?_⟩
        split
        · exact ssidWrites_inside _ _ (by omega)
        · exact writesInside_nil

theorem mem_name {name : Token} : name ∈ columns.name cols token ↔
    (columns.index = 4 ∧ cols.getLsbD 4 ∧ token.text ≠ []) ∧ name = token := by
  unfold Columns.name
  split
  next isName => exact List.mem_singleton.trans (and_iff_right isName).symm
  next other => exact iff_of_false List.not_mem_nil fun isName => other isName.1

theorem fits_of_turnWrites (inside : WritesInside (columns.turnWrites table cols token)) :
    ∀ name ∈ columns.name cols token, name.Fits table := by
  intro name isName
  obtain ⟨⟨isFifth, isTaken, nonempty⟩, rfl⟩ := mem_name.mp isName
  unfold Columns.turnWrites at inside
  rw [isFifth, if_pos (.inl isTaken), writesInside_cons] at inside
  exact fits_of_ssidColumnWrites nonempty inside.2

theorem turnWrites_inside
    (room : columns.item.length + token.text.length + overhead columns.index ≤ 330)
    (fits : ∀ name ∈ columns.name cols token, name.Fits table) :
    WritesInside (columns.turnWrites table cols token) := by
  obtain ⟨index, isNonpsk, item, gbk, nonpsk⟩ := columns
  unfold Columns.turnWrites
  dsimp only at room fits ⊢
  have number := length_atoi token.text
  split
  next taken =>
    refine writesInside_cons.mpr ⟨Nat.le_refl _, ?_⟩
    match index, room, taken, fits with
    | 0, room, _, _ =>
      rw [overhead] at room
      have name : (bytes "bssid").length = 5 := rfl
      refine appendWrites_inside ?_
      rw [length_field, length_quoted]
      dsimp only
      omega
    | 1, room, _, _ =>
      rw [overhead] at room
      have name : (bytes "frequency").length = 9 := rfl
      refine appendWrites_inside ?_
      rw [length_field]
      dsimp only
      omega
    | 2, room, _, _ =>
      rw [overhead] at room
      have name : (bytes "rssi").length = 4 := rfl
      refine appendWrites_inside ?_
      rw [length_field]
      dsimp only
      omega
    | 3, room, _, _ =>
      rw [overhead] at room
      change WritesInside (if _ then _ else _)
      split
      · have name : (bytes "flags").length = 5 := rfl
        refine appendWrites_inside ?_
        rw [length_field, length_quoted]
        dsimp only
        omega
      · refine writesInside_cons.mpr ⟨catWrite_inside ?_, writesInside_nil⟩
        rw [List.length_nil]
        dsimp only
        omega
    | 4, room, taken, fits =>
      rw [overhead] at room
      have isTaken : cols.getLsbD 4 = true := taken.resolve_right (by decide)
      refine ssidColumnWrites_inside (by dsimp only; omega) fun nonempty => ?_
      exact fits token (mem_name.mpr ⟨⟨rfl, isTaken, nonempty⟩, rfl⟩)
    | index + 5, room, _, _ =>
      refine writesInside_cons.mpr ⟨catWrite_inside ?_, writesInside_nil⟩
      rw [List.length_nil]
      dsimp only
      omega
  next => exact writesInside_nil

/-- The text of a column is put behind the item. -/
def Adds (columns after : Columns) (count : Nat) : Prop :=
  after.index = columns.index ∧ after.item.length ≤ columns.item.length + count

theorem adds_append {col : List Byte} {count : Nat} (fits : col.length ≤ count) :
    Adds columns (columns.append col) count :=
  ⟨rfl, Nat.le_trans (length_append_item col) (Nat.add_le_add_left fits _)⟩

theorem ssid_adds {after : Columns} {utf8 : List Byte} (dstNoescape utf8Noescape : List Byte)
    (put : columns.ssid utf8 dstNoescape utf8Noescape = .next after) :
    Adds columns after (utf8.length + 10) := by
  have name : (Columns.field "ssid" (Columns.quoted utf8)).length ≤ utf8.length + 10 := by
    rw [length_field, length_quoted]
    have isName : (bytes "ssid").length = 4 := rfl
    omega
  unfold Columns.ssid at put
  dsimp only at put
  cases put
  split
  · exact adds_append name
  · exact adds_append name

theorem Adds.mono {after : Columns} {count larger : Nat} (adds : Adds columns after count)
    (isLarger : count ≤ larger) : Adds columns after larger :=
  ⟨adds.1, Nat.le_trans adds.2 (Nat.add_le_add_left isLarger _)⟩

theorem ssidColumn_adds {after : Columns} (fits : token.text ≠ [] → token.Fits table)
    (turned : columns.ssidColumn table token = .next after) :
    Adds columns after (token.text.length + 10) := by
  unfold Columns.ssidColumn at turned
  split at turned
  next isEmpty =>
    cases turned
    refine adds_append ?_
    rw [length_field, length_quoted]
    exact Nat.le_add_left _ _
  next nonempty =>
    have fits := fits nonempty
    split at turned
    next => cases turned
    next written isWritten =>
      have short := Nat.le_trans (length_cString written) (fits.length_written isWritten)
      dsimp only at turned
      split at turned
      next => exact (ssid_adds _ _ turned).mono (Nat.add_le_add_right short _)
      next isOther =>
        have converted := (fits.converts written isWritten).resolve_left fun isUtf8 =>
          isOther ((rkEncodeIsUtf8_iff (cString_noNul written)).mpr isUtf8)
        split at turned
        next => exact (ssid_adds _ _ turned).mono (Nat.add_le_add_right converted _)
        next => cases turned

/-- A turn puts its text and a few bytes more behind the item. -/
theorem turn_adds {after : Columns} (fits : ∀ name ∈ columns.name cols token, name.Fits table)
    (turned : columns.turn table cols token = .next after) :
    Adds columns after (token.text.length + overhead columns.index) := by
  obtain ⟨index, isNonpsk, item, gbk, nonpsk⟩ := columns
  unfold Columns.turn at turned
  dsimp only at turned ⊢
  have number := length_atoi token.text
  split at turned
  next taken =>
    match index, taken, fits, turned with
    | 0, _, _, turned =>
      cases turned
      refine adds_append ?_
      rw [length_field, length_quoted, overhead]
      have name : (bytes "bssid").length = 5 := rfl
      omega
    | 1, _, _, turned =>
      cases turned
      refine adds_append ?_
      rw [length_field, overhead]
      have name : (bytes "frequency").length = 9 := rfl
      omega
    | 2, _, _, turned =>
      cases turned
      refine adds_append ?_
      rw [length_field, overhead]
      have name : (bytes "rssi").length = 4 := rfl
      omega
    | 3, _, _, turned =>
      cases turned
      split
      · refine ⟨rfl, Nat.le_trans (length_append_item _) (Nat.add_le_add_left ?_ _)⟩
        rw [length_field, length_quoted, overhead]
        have name : (bytes "flags").length = 5 := rfl
        omega
      · exact ⟨rfl, Nat.le_add_right _ _⟩
    | 4, taken, fits, turned =>
      have isTaken : cols.getLsbD 4 = true := taken.resolve_right (by decide)
      refine ssidColumn_adds (fun nonempty => fits token ?_) turned
      exact mem_name.mpr ⟨⟨rfl, isTaken, nonempty⟩, rfl⟩
    | index + 5, _, _, turned =>
      cases turned
      exact ⟨rfl, Nat.le_add_right _ _⟩
  next =>
    cases turned
    exact ⟨rfl, Nat.le_add_right _ _⟩

end Turns

/-- The bytes of the columns that are still to come, besides their text. -/
def due : Nat → Nat
  | 0 => 75
  | 1 => 64
  | 2 => 40
  | 3 => 21
  | 4 => 10
  | _ => 0

theorem due_eq (index : Nat) : due index = overhead index + due (index + 1) := by
  match index with
  | 0 => rfl
  | 1 => rfl
  | 2 => rfl
  | 3 => rfl
  | 4 => rfl
  | _ + 5 => rfl

section Runs

variable {table : Table} {cols : BitVec 32} {columns : Columns} {text line behind : List Byte}
  {turns number size : Nat} {results : Results} {behindLine : Nat → List Byte}

theorem visits_inside (short : line.length ≤ 254)
    (room : columns.item.length + text.length + due columns.index ≤ 330)
    (fits : ∀ visit ∈ columns.visits table cols turns (strtok (text ++ 0 :: behind)),
      ∀ name ∈ visit.1.name cols visit.2.strip, name.Fits table) :
    (∀ visit ∈ columns.visits table cols turns (strtok (text ++ 0 :: behind)),
      WritesInside (visit.2.cutWrites (line ++ 0 :: behind).length ++
        visit.1.turnWrites table cols visit.2.strip)) ∧
      ∀ after, columns.loop table cols turns (strtok (text ++ 0 :: behind)) = .finished after →
        after.item.length ≤ 330 := by
  induction turns generalizing columns text with
  | zero =>
    cases strtok (text ++ 0 :: behind) with
    | none =>
      refine ⟨List.forall_mem_nil _, fun after isAfter => ?_⟩
      cases isAfter
      omega
    | some token =>
      refine ⟨List.forall_mem_nil _, fun after isAfter => ?_⟩
      cases isAfter
  | succ turns induction =>
    cases found : strtok (text ++ 0 :: behind) with
    | none =>
      refine ⟨List.forall_mem_nil _, fun after isAfter => ?_⟩
      cases isAfter
      omega
    | some token =>
      obtain ⟨isBehind, rest, isSaved, part⟩ := strtok_terminated found
      have isStripped := (text_strip token).1
      have isDue := due_eq columns.index
      rw [found, Columns.visits] at fits
      obtain ⟨first, later⟩ := List.forall_mem_cons.mp fits
      change ∀ name ∈ columns.name cols token.strip, name.Fits table at first
      have isFirst : WritesInside (token.cutWrites (line ++ 0 :: behind).length ++
          columns.turnWrites table cols token.strip) := by
        refine writesInside_append.mpr ⟨cutWrites_inside short ?_ isBehind, ?_⟩
        · rw [isSaved, List.length_append, List.length_cons]
          omega
        · exact turnWrites_inside (by omega) first
      rw [Columns.visits, Columns.loop, List.forall_mem_cons]
      cases turned : columns.turn table cols token.strip with
      | killed =>
        refine ⟨⟨isFirst, List.forall_mem_nil _⟩, fun after isAfter => ?_⟩
        cases isAfter
      | again other => exact absurd turned turn_ne_again
      | next after =>
        obtain ⟨isIndex, adds⟩ := turn_adds first turned
        rw [turned] at later
        dsimp only at later ⊢
        rw [isSaved] at later ⊢
        have room' : after.item.length + rest.length + due (after.index + 1) ≤ 330 := by
          rw [isIndex]
          omega
        have step := induction room' later
        exact ⟨⟨isFirst, step.1⟩, step.2⟩

theorem length_dropComma (string : List Byte) : (dropComma string).length ≤ string.length := by
  unfold dropComma
  split
  · exact List.length_dropLast ▸ Nat.sub_le _ _
  · exact Nat.le_refl _

theorem length_takeLine_fst (count : Nat) (file : List Byte) :
    (takeLine count file).1.length ≤ count := by
  induction count generalizing file with
  | zero => exact Nat.le_refl _
  | succ count induction =>
    cases file with
    | nil => exact Nat.zero_le _
    | cons byte file =>
      rw [takeLine]
      split
      · exact Nat.succ_le_succ (Nat.zero_le _)
      · exact Nat.succ_le_succ (induction file)

theorem length_line {file rest : List Byte} {count : Nat}
    (read : fgets count file = some (line, rest)) : line.length ≤ count - 1 := by
  unfold fgets at read
  split at read
  · cases read
  · have taken := length_takeLine_fst (count - 1) file
    rwa [Option.some_inj.mp read] at taken

/-- The writes of a line stay in the arrays, and the result has room for what it comes to. -/
theorem line_inside (short : line.length ≤ 254) (room : results.scanR.length + 2 ≤ size)
    (fits : ∀ name ∈ (Part.line line behind size results).names table cols, name.Fits table) :
    WritesInside ((Part.line line behind size results).writes table cols) ∧
      ∀ columns, lineColumns table cols line behind results = .finished columns →
        (results.scanR ++ closedItem columns).length + 2 ≤
          grow size results.scanR (closedItem columns) := by
  have visited : ∀ visit ∈ lineVisits table cols line behind results,
      ∀ name ∈ visit.1.name cols visit.2.strip, name.Fits table := fun visit isVisit name isName =>
    fits name (List.mem_flatMap.mpr ⟨visit, isVisit, isName⟩)
  obtain ⟨inside, ends⟩ := visits_inside short (by change 1 + line.length + 75 ≤ 330; omega)
    visited
  have isRoom : ∀ columns, lineColumns table cols line behind results = .finished columns →
      (closedItem columns).length ≤ 332 ∧ (results.scanR ++ closedItem columns).length + 2 ≤
        grow size results.scanR (closedItem columns) := fun columns isColumns => by
    have isShort := Nat.le_trans (length_dropComma columns.item) (ends columns isColumns)
    have isItem : (closedItem columns).length = (dropComma columns.item).length + 2 := by
      rw [closedItem, List.length_append]
      rfl
    refine ⟨by omega, ?_⟩
    rw [grow, List.length_append]
    split
    · omega
    · omega
  refine ⟨?_, fun columns isColumns => (isRoom columns isColumns).2⟩
  rw [Part.writes]
  refine writesInside_append.mpr ⟨writesInside_append.mpr ⟨?_, writesInside_flatMap.mpr inside⟩, ?_⟩
  · refine writesInside_cons.mpr ⟨?_, writesInside_cons.mpr ⟨Nat.le_refl _,
      writesInside_cons.mpr ⟨?_, writesInside_nil⟩⟩⟩
    · change line.length + 1 ≤ 256
      omega
    · change 2 ≤ 384
      decide
  · cases isColumns : lineColumns table cols line behind results with
    | unfinished => exact writesInside_nil
    | killed => exact writesInside_nil
    | finished columns =>
      obtain ⟨isShort, isRoom⟩ := isRoom columns isColumns
      refine writesInside_cons.mpr ⟨?_, writesInside_cons.mpr ⟨?_,
        writesInside_cons.mpr ⟨?_, writesInside_nil⟩⟩⟩
      · exact Nat.le_trans (ends columns isColumns) (Nat.le_add_right 330 54)
      · exact Nat.le_trans (Nat.succ_le_succ isShort) (Nat.le_add_right 333 51)
      · rw [List.length_append] at isRoom
        exact Nat.le_of_succ_le isRoom

/-- The other way round, a name is read where its arrays are written. -/
theorem line_fits
    (inside : WritesInside ((Part.line line behind size results).writes table cols)) :
    ∀ name ∈ (Part.line line behind size results).names table cols, name.Fits table := by
  intro name isName
  obtain ⟨visit, isVisit, isName⟩ := List.mem_flatMap.mp isName
  rw [Part.writes, writesInside_append, writesInside_append, writesInside_flatMap] at inside
  exact fits_of_turnWrites (writesInside_append.mp (inside.1.2 visit isVisit)).2 name isName

theorem visits_noNul {next : Option Token} (noNul : ∀ token ∈ next, 0 ∉ token.text) :
    ∀ visit ∈ columns.visits table cols turns next, 0 ∉ visit.2.text := by
  induction turns generalizing columns next with
  | zero => cases next <;> exact List.forall_mem_nil _
  | succ turns induction =>
    cases next with
    | none => exact List.forall_mem_nil _
    | some token =>
      rw [Columns.visits]
      refine List.forall_mem_cons.mpr ⟨noNul token rfl, ?_⟩
      cases turned : columns.turn table cols token.strip with
      | killed => exact List.forall_mem_nil _
      | again other => exact absurd turned turn_ne_again
      | next after => exact induction fun _ found => strtok_noNul found

theorem names_noNul {part : Part} : ∀ name ∈ part.names table cols, 0 ∉ name.text := by
  cases part with
  | line string behind size results =>
    intro name isName
    obtain ⟨visit, isVisit, isName⟩ := List.mem_flatMap.mp isName
    obtain ⟨_, rfl⟩ := mem_name.mp isName
    exact (text_strip visit.2).2 (visits_noNul (fun _ found => strtok_noNul found) visit isVisit)
  | close size results => exact List.forall_mem_nil _

theorem parts_inside {file : List Byte} (room : results.scanR.length + 2 ≤ size)
    (fits : ∀ part ∈ scanParts table behindLine cols turns number size file results,
      ∀ name ∈ part.names table cols, name.Fits table) :
    ∀ part ∈ scanParts table behindLine cols turns number size file results,
      WritesInside (part.writes table cols) := by
  induction turns generalizing number size file results with
  | zero => exact List.forall_mem_nil _
  | succ turns induction =>
    rw [scanParts] at fits ⊢
    cases read : fgets 255 file with
    | none =>
      dsimp only
      rw [List.forall_mem_singleton, Part.writes]
      have isShort := length_dropComma results.scanR
      refine writesInside_cons.mpr ⟨Nat.le_of_add_right_le room,
        writesInside_cons.mpr ⟨?_, writesInside_nil⟩⟩
      exact Nat.le_trans (Nat.add_le_add_right isShort 2) room
    | some pair =>
      obtain ⟨line, rest⟩ := pair
      rw [read] at fits
      dsimp only at fits ⊢
      obtain ⟨first, later⟩ := List.forall_mem_cons.mp fits
      obtain ⟨isFirst, isRoom⟩ := line_inside (length_line read) room first
      refine List.forall_mem_cons.mpr ⟨isFirst, ?_⟩
      cases isColumns : lineColumns table cols line (behindLine number) results with
      | unfinished => exact List.forall_mem_nil _
      | killed => exact List.forall_mem_nil _
      | finished columns =>
        rw [isColumns] at later
        exact induction (isRoom columns isColumns) later

/-- The parts end where the parser does. -/
theorem scanLines_finished_iff {file : List Byte} {final : Results} :
    scanLines table behindLine cols turns number file results = .finished final ↔
      ∃ room, Part.close room final ∈
        scanParts table behindLine cols turns number size file results := by
  induction turns generalizing number size file results with
  | zero =>
    constructor
    · intro isFinal
      cases isFinal
    · rintro ⟨_, member⟩
      cases member
  | succ turns induction =>
    rw [scanLines, scanParts]
    cases fgets 255 file with
    | none =>
      constructor
      · intro isFinal
        cases isFinal
        exact ⟨size, List.mem_cons_self⟩
      · rintro ⟨room, member⟩
        cases List.mem_singleton.mp member
        rfl
    | some pair =>
      obtain ⟨line, rest⟩ := pair
      dsimp only
      have isColumns : Columns.loop table cols (line ++ 0 :: behindLine number).length
          (strtok (line ++ 0 :: behindLine number)) ⟨0, false, [0x7b], results.gbk,
            results.nonpsk⟩ = lineColumns table cols line (behindLine number) results := rfl
      rw [isColumns]
      cases lineColumns table cols line (behindLine number) results with
      | unfinished => simp
      | killed => simp
      | finished columns =>
        dsimp only
        rw [List.append_assoc]
        simp only [List.mem_cons, reduceCtorEq, false_or]
        exact induction

theorem fits_whole_iff {name : Token} (noNul : 0 ∉ name.text) (whole : Whole name.text) :
    name.Fits table ↔ Utf8 (cString (converted name.text)) ∨
      (gbkToUtf8 table (cString (converted name.text))).length ≤ name.text.length := by
  have isWritten := specCharConvers_whole noNul whole name.behind
  constructor
  · intro fits
    exact fits.converts _ isWritten
  · intro converts
    refine ⟨fun access member _ => ?_, fun written isOther => ?_⟩
    · have stays := (stays_convertAccesses name.behind noNul (Nat.le_refl 0)).mpr whole
      rw [Nat.zero_add] at stays
      exact stays access member
    · rw [isWritten] at isOther
      cases isOther
      exact converts

end Runs

/-- Every write of the parser is inside its array as long as each name that is read fits the
arrays of its length; of a name whose escapes are whole only the conversion is too long. -/
theorem scan_writes_inside_iff (table : Table) (behind : Nat → List Byte) (cols : BitVec 32)
    (file : Option (List Byte)) :
    (WritesInside (rkWifiScanRSecWrites table behind cols file) ↔
      ∀ name ∈ scanNames table behind cols file, name.Fits table) ∧
      ∀ name ∈ scanNames table behind cols file, Whole name.text →
        (name.Fits table ↔ Utf8 (cString (converted name.text)) ∨
          (gbkToUtf8 table (cString (converted name.text))).length ≤ name.text.length) := by
  unfold rkWifiScanRSecWrites scanNames
  split
  · exact ⟨iff_of_true (by decide) (List.forall_mem_nil _), List.forall_mem_nil _⟩
  · cases file with
    | none => exact ⟨iff_of_true writesInside_nil (List.forall_mem_nil _), List.forall_mem_nil _⟩
    | some file =>
      simp only [List.forall_mem_flatMap]
      refine ⟨?_, fun part _ name isName whole => fits_whole_iff (names_noNul name isName) whole⟩
      have header : WritesInside (⟨.line, 256, 256⟩ ::
          ((fgets 256 file).toList.map fun read => ⟨.line, 256, read.1.length + 1⟩) ++
          [⟨.scanR, 512, 512⟩, ⟨.scanR, 512, 2⟩]) := by
        refine writesInside_append.mpr ⟨writesInside_cons.mpr ⟨Nat.le_refl _, ?_⟩, by decide⟩
        intro write member
        obtain ⟨read, isRead, rfl⟩ := List.mem_map.mp member
        exact Nat.succ_le_succ (length_line (Option.mem_toList.mp isRead))
      rw [writesInside_append, writesInside_flatMap]
      refine (and_iff_right header).trans ⟨fun inside part isPart => ?_, fun fits => ?_⟩
      · cases part with
        | line string behind size results => exact line_fits (inside _ isPart)
        | close size results => exact List.forall_mem_nil _
      · exact parts_inside (by decide) fits

/-- The name is a backslash and an `x`, of which `wpa_supplicant` doubles the backslash. -/
theorem scan_writes_behind_name :
    ¬ ∀ (table : Table) (behind : Nat → List Byte) (cols : BitVec 32)
        (file : Option (List Byte)),
        WritesInside (rkWifiScanRSecWrites table behind cols file) := by
  intro inside
  refine absurd (inside (fun _ => 0x4e2d) (fun _ => List.replicate 16 0) 0x10
    (some (bytes "bssid\nb\t2412\t-40\t[WPA]\t\\\\x\n"))) ?_
  decide +kernel

end Rkipc.Wifi
