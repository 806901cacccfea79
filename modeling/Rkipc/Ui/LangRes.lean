import Rkipc.Ini.Iniparser
import Rkipc.Libc.LastWrite
import Rkipc.Param.Decimal
import Mathlib.Data.List.GetD

namespace Rkipc.Ui.LangRes

open Ini

/-! The strings of a language, from its file to the table. -/

def langLineMaxSize : Nat := 1024
def langResMinSize : Nat := 128

/-- A pointer of the table.  One that was never written is what has been in the memory. -/
inductive Cell
  | null
  | string (text : Text)
  | unwritten (isNull : Bool)
deriving DecidableEq

/-- `LANG_RES_S`, whose `size` is the number of cells. -/
abbrev Table := List Cell

/-- The conversion of the C library, from base 8, 10 or 16. -/
abbrev Strtol := Text → Int

def parseEscape : Text → Text
  | '\\' :: 'n' :: rest => '\n' :: parseEscape rest
  | '\\' :: '"' :: rest => '"' :: parseEscape rest
  | '\\' :: '\\' :: rest => '\\' :: parseEscape rest
  | char :: rest => char :: parseEscape rest
  | [] => []

/-- `parse_escape_char` into `tmp` -/
def parseEscapeChar (src : Text) : Text := (parseEscape src).take langLineMaxSize

def langResNew (size : Nat) : Table := List.replicate (max size langResMinSize) .null

/-- `realloc` keeps the cells; `fresh` is which of the new ones are NULL. -/
def langResGrow (fresh : Nat → Bool) (res : Table) : Table :=
  res ++ (List.range res.length).map fun i => .unwritten (fresh (res.length + i))

/-- Nothing where an address is freed that nobody has allocated. -/
def free : Cell → Option Unit
  | .null | .string _ | .unwritten true => some ()
  | .unwritten false => none

/-- `%*[^[] [ %[^]]`, and the number in it as an `int32_t` -/
def keyIndex (strtol : Strtol) (key : Text) : Option Int :=
  match key.takeWhile (· ≠ '['), key.dropWhile (· ≠ '[') with
  | [], _ => none
  | _ :: _, [] => none
  | _ :: _, _ :: rest =>
      (scanSet (· ≠ ']') (rest.dropWhile isspace)).map fun tmp => (strtol tmp).bmod (2 ^ 32)

/-- Nothing for a fault. -/
def langResSet (strtol : Strtol) (fresh : Nat → Bool) (key val : Text) (res : Table) :
    Option Table :=
  match keyIndex strtol key with
  | none => some res
  | some index =>
      if index ≤ 0 ∨ index > res.length * 2 then some res
      else
        let res := if index > res.length then langResGrow fresh res else res
        (free (res.getD (index.toNat - 1) .null)).map fun _ =>
          res.set (index.toNat - 1) (.string (parseEscapeChar val))

def langResDelete (res : Table) : Option Unit :=
  if ∀ cell ∈ res, free cell ≠ none then some () else none

inductive Line
  | empty
  | comment
  | section
  | value (key val : Text)
  | error
deriving DecidableEq

def langParseLine (inputLine : Text) : Line :=
  let line := strstrip inputLine
  if line.length < 1 then .empty
  else if line.head? = some '#' ∨ line.head? = some ';' then .comment
  else if line.head? = some '[' ∧ line.getLast? = some ']' then .section
  else
    match (scanQuoted '"' line).or (scanQuoted '\'' line) with
    | some (key, val) => .value (strstrip key) val
    | none => .error

/-- What a pass of the loop reads: the end of the file, a line that is too long, a part to which
the next line is joined, or a line. -/
inductive Pass
  | ended
  | tooLong
  | part (kept rest : Text)
  | line (line rest : Text)

/-- `kept` is the line up to `last`. -/
def readLine (kept input : Text) : Pass :=
  let size := langLineMaxSize - kept.length
  match fgets size input with
  | none => .ended
  | some (taken, rest) =>
      let feof := taken.getLast? ≠ some '\n' ∧ taken.length < size - 1
      let line := (kept ++ taken).takeWhile (· ≠ '\x00')
      if line.length ≤ 1 then .part kept rest
      else if line.getLast? ≠ some '\n' ∧ ¬ feof then .tooLong
      else
        let line := line.rdropWhile isspace
        if line.getLast? = some '\\' then .part line.dropLast rest else .line line rest

/-- The loop of `lang_resource_file_load`, and whether it ends at a line that is too long.
Every pass takes a character of the file. -/
def loop {σ : Type} (enter : σ → Line → σ) : Nat → Text → σ → Text → Bool × σ
  | 0, _, state, _ => (false, state)
  | fuel + 1, kept, state, input =>
      match readLine kept input with
      | .ended => (false, state)
      | .tooLong => (true, state)
      | .part kept rest => loop enter fuel kept state rest
      | .line line rest => loop enter fuel [] (enter state (langParseLine line)) rest

/-- The table, nothing behind a fault, and whether there was an error. -/
structure Loading where
  res : Option Table
  errs : Bool

def Loading.enter (strtol : Strtol) (fresh : Nat → Bool) (loading : Loading) : Line → Loading
  | .empty | .comment | .section => loading
  | .value key val => { loading with res := loading.res.bind (langResSet strtol fresh key val) }
  | .error => { loading with errs := true }

/-- The end of the loading: a fault, NULL or a table. -/
inductive Loaded
  | fault
  | null
  | table (res : Table)
deriving DecidableEq

/-- The text is that of a file that can be opened. -/
def langResourceFileLoad (strtol : Strtol) (fresh : Nat → Bool) (file : Text) : Loaded :=
  let (tooLong, loading) :=
    loop (Loading.enter strtol fresh) (file.length + 1) [] ⟨some (langResNew 0), false⟩ file
  match loading.res with
  | none => .fault
  | some res =>
      if tooLong ∨ loading.errs then ((langResDelete res).map fun _ => .null).getD .fault
      else .table res

/-- The cell of `__string_by_index` that is read. -/
def stringByIndex (res : Option Table) (index : Int) : Cell :=
  match res with
  | none => .null
  | some res =>
      if index ≤ 0 ∨ index > res.length then .null else res.getD (index.toNat - 1) .null

def linesOf (file : Text) : List Line :=
  (loop (fun lines line => lines ++ [line]) (file.length + 1) [] [] file).2

/-- The index and the text that a line sets. -/
def Line.write (strtol : Strtol) : Line → Option (Int × Text)
  | .value key val => (keyIndex strtol key).map fun index => (index, parseEscapeChar val)
  | .empty | .comment | .section | .error => none

def writesOf (strtol : Strtol) (lines : List Line) : List (Int × Text) :=
  lines.filterMap (Line.write strtol)

def cellOf : Option Text → Cell
  | none => .null
  | some text => .string text

/-- The file is loaded, and the table holds the last text of each index. -/
structure IsTable (strtol : Strtol) (fresh : Nat → Bool) (file : Text) : Prop where
  loads : langResourceFileLoad strtol fresh file ≠ .fault
  entries : ∀ res, langResourceFileLoad strtol fresh file = .table res →
    ∀ index, stringByIndex (some res) index =
      if 1 ≤ index ∧ index ≤ res.length then
        cellOf (Libc.lastWrite index (writesOf strtol (linesOf file)))
      else .null

/-- The text goes into one of the cells by which a new table is larger. -/
def Grows (write : Int × Text) : Prop :=
  (langResMinSize : Int) < write.1 ∧ write.1 ≤ langResMinSize * 2

section Reading

/-- The loop takes the same lines whatever is done with them. -/
theorem loop_eq (fuel : Nat) (kept input : Text) :
    ∃ (tooLong : Bool) (lines : List Line), ∀ {σ : Type} (enter : σ → Line → σ) (state : σ),
      loop enter fuel kept state input = (tooLong, lines.foldl enter state) := by
  induction fuel generalizing kept input with
  | zero => exact ⟨false, [], fun _ _ => rfl⟩
  | succ fuel ih =>
    cases isPass : readLine kept input with
    | ended =>
      refine ⟨false, [], fun enter state => ?_⟩
      rw [loop, isPass]
      rfl
    | tooLong =>
      refine ⟨true, [], fun enter state => ?_⟩
      rw [loop, isPass]
      rfl
    | part kept rest =>
      obtain ⟨tooLong, lines, isLoop⟩ := ih kept rest
      refine ⟨tooLong, lines, fun enter state => ?_⟩
      rw [loop, isPass]
      exact isLoop enter state
    | line line rest =>
      obtain ⟨tooLong, lines, isLoop⟩ := ih [] rest
      refine ⟨tooLong, langParseLine line :: lines, fun enter state => ?_⟩
      rw [loop, isPass]
      exact isLoop enter _

theorem foldl_append_single (lines taken : List Line) :
    lines.foldl (fun lines line => lines ++ [line]) taken = taken ++ lines := by
  induction lines generalizing taken with
  | nil => exact (List.append_nil taken).symm
  | cons line lines ih =>
    rw [List.foldl_cons, ih, List.append_assoc, List.singleton_append]

theorem loop_file (file : Text) :
    ∃ tooLong, ∀ {σ : Type} (enter : σ → Line → σ) (state : σ),
      loop enter (file.length + 1) [] state file = (tooLong, (linesOf file).foldl enter state) := by
  obtain ⟨tooLong, lines, isLoop⟩ := loop_eq (file.length + 1) [] file
  have isLines : linesOf file = lines := by
    rw [linesOf, isLoop, foldl_append_single, List.nil_append]
  exact ⟨tooLong, by rw [isLines]; exact isLoop⟩

end Reading

section Tables

variable {strtol : Strtol} {fresh : Nat → Bool} {key val : Text} {writes : List (Int × Text)}
  {index : Int}

def tableOf (writes : List (Int × Text)) : Table :=
  (List.range langResMinSize).map fun i : Nat =>
    cellOf (Libc.lastWrite ((i : Int) + 1) writes)

theorem length_tableOf : (tableOf writes).length = langResMinSize := by
  rw [tableOf, List.length_map, List.length_range]

theorem tableOf_nil : tableOf [] = langResNew 0 := by
  rw [tableOf, langResNew]
  exact List.map_const' .. |>.trans (by rw [List.length_range]; rfl)

theorem lastWrite_snoc (write : Int × Text) :
    Libc.lastWrite index (writes ++ [write]) =
      if write.1 = index then some write.2 else Libc.lastWrite index writes := by
  rw [Libc.lastWrite_append, Libc.lastWrite, Libc.lastWrite, Option.none_or]
  split
  · rfl
  · rfl

theorem tableOf_snoc (write : Int × Text) :
    tableOf (writes ++ [write]) =
      if 1 ≤ write.1 ∧ write.1 ≤ langResMinSize then
        (tableOf writes).set (write.1.toNat - 1) (.string write.2)
      else tableOf writes := by
  by_cases inside : 1 ≤ write.1 ∧ write.1 ≤ langResMinSize
  · rw [if_pos inside]
    refine List.ext_getElem (by rw [List.length_set, length_tableOf, length_tableOf]) ?_
    intro i _ _
    rw [List.getElem_set]
    simp only [tableOf, List.getElem_map, List.getElem_range, lastWrite_snoc]
    by_cases same : write.1 = i + 1
    · rw [if_pos same, if_pos (by omega)]
      rfl
    · rw [if_neg same, if_neg (by omega)]
  · rw [if_neg inside]
    refine List.map_congr_left fun i isIn => ?_
    have isLess := List.mem_range.mp isIn
    rw [lastWrite_snoc, if_neg (by omega)]

theorem free_cellOf (text : Option Text) : free (cellOf text) = some () := by
  cases text <;> rfl

theorem free_tableOf {cell : Cell} (member : cell ∈ tableOf writes) : free cell = some () := by
  obtain ⟨i, _, rfl⟩ := List.mem_map.mp member
  exact free_cellOf _

/-- The cells of the old size are set, and the table does not grow. -/
theorem langResSet_tableOf (isIndex : keyIndex strtol key = some index)
    (notGrows : ¬ Grows (index, parseEscapeChar val)) :
    langResSet strtol fresh key val (tableOf writes) =
      some (tableOf (writes ++ [(index, parseEscapeChar val)])) := by
  rw [langResSet, isIndex, tableOf_snoc]
  dsimp only
  rw [length_tableOf]
  by_cases inside : 1 ≤ index ∧ index ≤ langResMinSize
  · have isCell : index.toNat - 1 < (tableOf writes).length := by
      rw [length_tableOf]
      omega
    have isFree : free ((tableOf writes).getD (index.toNat - 1) .null) = some () := by
      rw [List.getD_eq_getElem _ _ isCell]
      exact free_tableOf (List.getElem_mem isCell)
    rw [if_neg (by omega), if_neg (by omega), if_pos inside, isFree]
    rfl
  · have isRefused : index ≤ 0 ∨ index > (langResMinSize : Int) * 2 := by
      by_contra accepted
      exact notGrows ⟨by dsimp only; omega, by dsimp only; omega⟩
    rw [if_pos isRefused, if_neg inside]

/-- The first text behind the old size is put where an address of the memory is freed. -/
theorem langResSet_grows (isIndex : keyIndex strtol key = some index)
    (grows : Grows (index, parseEscapeChar val)) :
    langResSet strtol (fun _ => false) key val (tableOf writes) = none := by
  obtain ⟨behind, within⟩ := grows
  dsimp only at behind within
  rw [langResSet, isIndex]
  dsimp only
  rw [if_neg (by rw [length_tableOf]; omega), if_pos (by rw [length_tableOf]; omega)]
  have isOld : (tableOf writes).length ≤ index.toNat - 1 := by
    rw [length_tableOf]
    omega
  have isNew : (langResGrow (fun _ => false) (tableOf writes)).getD (index.toNat - 1) .null =
      .unwritten false := by
    rw [langResGrow, List.getD_append_right _ _ _ _ isOld, List.getD_eq_getElem?_getD,
      List.getElem?_map, List.getElem?_range (by rw [length_tableOf]; omega)]
    rfl
  rw [isNew]
  rfl

theorem writesOf_cons (line : Line) (lines : List Line) :
    writesOf strtol (line :: lines) = (line.write strtol).toList ++ writesOf strtol lines := by
  rw [writesOf, List.filterMap_cons]
  cases line.write strtol <;> rfl

theorem enter_none {line : Line} {errs : Bool} (isNone : line.write strtol = none)
    (res : Table) :
    ∃ errs', Loading.enter strtol fresh ⟨some res, errs⟩ line = ⟨some res, errs'⟩ := by
  cases line with
  | empty => exact ⟨errs, rfl⟩
  | comment => exact ⟨errs, rfl⟩
  | «section» => exact ⟨errs, rfl⟩
  | error => exact ⟨true, rfl⟩
  | value key val =>
    have noIndex : keyIndex strtol key = none := Option.map_eq_none_iff.mp isNone
    refine ⟨errs, ?_⟩
    rw [Loading.enter, Option.bind_some, langResSet, noIndex]

theorem enter_some {line : Line} {write : Int × Text} {errs : Bool}
    (isWrite : line.write strtol = some write) (res : Table) :
    ∃ key val, keyIndex strtol key = some write.1 ∧ parseEscapeChar val = write.2 ∧
      Loading.enter strtol fresh ⟨some res, errs⟩ line =
        ⟨langResSet strtol fresh key val res, errs⟩ := by
  cases line with
  | empty => cases isWrite
  | comment => cases isWrite
  | «section» => cases isWrite
  | error => cases isWrite
  | value key val =>
    obtain ⟨index, isIndex, rfl⟩ := Option.map_eq_some_iff.mp isWrite
    exact ⟨key, val, isIndex, rfl, rfl⟩

theorem enter_tableOf (fresh : Nat → Bool) (writes : List (Int × Text)) (errs : Bool)
    {line : Line} (notGrows : ∀ write, line.write strtol = some write → ¬ Grows write) :
    ∃ errs', Loading.enter strtol fresh ⟨some (tableOf writes), errs⟩ line =
      ⟨some (tableOf (writes ++ (line.write strtol).toList)), errs'⟩ := by
  cases isWrite : line.write strtol with
  | none =>
    rw [Option.toList_none, List.append_nil]
    exact enter_none isWrite _
  | some write =>
    obtain ⟨key, val, isIndex, isText, isEnter⟩ := enter_some isWrite (tableOf writes)
    have isHere := notGrows write isWrite
    rw [← Prod.eta write, ← isText] at isHere
    refine ⟨errs, ?_⟩
    rw [isEnter, langResSet_tableOf isIndex isHere, isText]
    rfl

theorem enter_grows {line : Line} {write : Int × Text} {errs : Bool}
    (isWrite : line.write strtol = some write) (grows : Grows write) :
    (Loading.enter strtol (fun _ => false) ⟨some (tableOf writes), errs⟩ line).res = none := by
  obtain ⟨key, val, isIndex, isText, isEnter⟩ := enter_some isWrite (tableOf writes)
  rw [← Prod.eta write, ← isText] at grows
  rw [isEnter]
  exact langResSet_grows isIndex grows

theorem foldl_tableOf (fresh : Nat → Bool) (writes : List (Int × Text)) (errs : Bool)
    (lines : List Line) (notGrows : ∀ write ∈ writesOf strtol lines, ¬ Grows write) :
    ∃ errs', lines.foldl (Loading.enter strtol fresh) ⟨some (tableOf writes), errs⟩ =
      ⟨some (tableOf (writes ++ writesOf strtol lines)), errs'⟩ := by
  induction lines generalizing writes errs with
  | nil =>
    refine ⟨errs, ?_⟩
    rw [writesOf, List.filterMap_nil, List.append_nil]
    rfl
  | cons line lines ih =>
    rw [writesOf_cons] at notGrows ⊢
    obtain ⟨errs', isEnter⟩ := enter_tableOf fresh writes errs fun write isWrite =>
        notGrows write (List.mem_append_left _ (Option.mem_toList.mpr isWrite))
    rw [List.foldl_cons, isEnter, ← List.append_assoc]
    exact ih _ _ fun write member => notGrows write (List.mem_append_right _ member)

theorem foldl_fault {loading : Loading} (isFault : loading.res = none) (lines : List Line) :
    (lines.foldl (Loading.enter strtol fresh) loading).res = none := by
  induction lines generalizing loading with
  | nil => exact isFault
  | cons line lines ih =>
    refine ih ?_
    cases line with
    | value key val =>
      rw [Loading.enter, isFault]
      rfl
    | empty => exact isFault
    | comment => exact isFault
    | «section» => exact isFault
    | error => exact isFault

/-- No line before the one at which the table grows has made a fault. -/
theorem foldl_grows (writes : List (Int × Text)) (errs : Bool) (lines : List Line)
    {write : Int × Text} (member : write ∈ writesOf strtol lines) (grows : Grows write) :
    (lines.foldl (Loading.enter strtol fun _ => false) ⟨some (tableOf writes), errs⟩).res =
      none := by
  induction lines generalizing writes errs with
  | nil => cases member
  | cons line lines ih =>
    rw [List.foldl_cons]
    by_cases first : ∀ write, line.write strtol = some write → ¬ Grows write
    · obtain ⟨errs', isEnter⟩ := enter_tableOf (fun _ => false) writes errs first
      rw [isEnter]
      refine ih _ _ ?_
      rw [writesOf_cons] at member
      refine (List.mem_append.mp member).resolve_left fun isFirst => ?_
      exact first write (Option.mem_toList.mp isFirst) grows
    · push Not at first
      obtain ⟨other, isWrite, grows⟩ := first
      exact foldl_fault (enter_grows isWrite grows) lines

theorem langResDelete_tableOf : langResDelete (tableOf writes) = some () := by
  refine if_pos fun cell member => ?_
  rw [free_tableOf member]
  exact Option.some_ne_none _

theorem stringByIndex_tableOf :
    stringByIndex (some (tableOf writes)) index =
      if 1 ≤ index ∧ index ≤ (tableOf writes).length then
        cellOf (Libc.lastWrite index writes)
      else .null := by
  rw [stringByIndex]
  by_cases inside : 1 ≤ index ∧ index ≤ (tableOf writes).length
  · have isCell : index.toNat - 1 < (tableOf writes).length := by omega
    rw [if_neg (by omega), if_pos inside, List.getD_eq_getElem _ _ isCell]
    simp only [tableOf, List.getElem_map, List.getElem_range]
    congr 2
    omega
  · rw [if_neg inside, if_pos (by omega)]

end Tables

section Loads

variable {strtol : Strtol} {fresh : Nat → Bool} {file : Text}

theorem load_tableOf (notGrows : ∀ write ∈ writesOf strtol (linesOf file), ¬ Grows write) :
    langResourceFileLoad strtol fresh file = .null ∨
      langResourceFileLoad strtol fresh file =
        .table (tableOf (writesOf strtol (linesOf file))) := by
  obtain ⟨tooLong, isLoop⟩ := loop_file file
  obtain ⟨errs, isFold⟩ := foldl_tableOf fresh [] false (linesOf file) notGrows
  rw [langResourceFileLoad, isLoop, ← tableOf_nil, isFold, List.nil_append]
  dsimp only
  rw [langResDelete_tableOf]
  split
  · exact .inl rfl
  · exact .inr rfl

theorem load_grows {write : Int × Text} (member : write ∈ writesOf strtol (linesOf file))
    (grows : Grows write) :
    langResourceFileLoad strtol (fun _ => false) file = .fault := by
  obtain ⟨tooLong, isLoop⟩ := loop_file file
  have isFault := foldl_grows [] false (linesOf file) member grows
  rw [langResourceFileLoad, isLoop, ← tableOf_nil]
  dsimp only
  rw [isFault]

end Loads

/-- The strings are a table, whatever the memory held, as long as no line makes the table
larger. -/
theorem strings_are_table_iff (strtol : Strtol) (file : Text) :
    (∀ fresh, IsTable strtol fresh file) ↔
      ∀ write ∈ writesOf strtol (linesOf file), ¬ Grows write := by
  constructor
  · intro isTable write member grows
    exact (isTable fun _ => false).loads (load_grows member grows)
  · intro notGrows fresh
    have isLoad := @load_tableOf strtol fresh file notGrows
    constructor
    · rcases isLoad with isNull | isTable
      · rw [isNull]
        exact Loaded.noConfusion
      · rw [isTable]
        exact Loaded.noConfusion
    · intro res isRes index
      rcases isLoad with isNull | isTable
      · rw [isNull] at isRes
        cases isRes
      · rw [isTable] at isRes
        cases isRes
        exact stringByIndex_tableOf

theorem grown_cell_freed :
    ¬ ∀ (fresh : Nat → Bool) (file : Text), IsTable Param.strtol fresh file := by
  intro isTable
  refine (isTable (fun _ => false) "s[129]=\"a\"\n".toList).loads ?_
  decide +kernel

end Rkipc.Ui.LangRes
