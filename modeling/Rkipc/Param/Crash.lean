import Rkipc.Ini.Prefix
import Rkipc.Param.SaveReload

namespace Rkipc.Param

open Ini

/-! A save that does not come to its end, and the next start. -/

/-- The text reaches the file in parts, the last of them by `fflush`. -/
inductive FileStep
  | truncate
  | append (text : Text)
  | close

def FileStep.apply (file : Option Text) : FileStep → Option Text
  | .truncate => some []
  | .append text => file.map (· ++ text)
  | .close => file

def crashed (file : Option Text) (steps : List FileStep) (n : Nat) : Option Text :=
  (steps.take n).foldl FileStep.apply file

/-- The parts in which one save of the dictionary is written. -/
structure Saving (d : Dictionary) where
  parts : List Text
  whole : parts.flatten = iniparserDumpIni d

/-- A file that `rk_param_init` accepts. -/
structure Configuration where
  text : Text
  dict : Dictionary
  loads : iniparserLoad text = some dict
  fits : rkParamDump (some dict) = .ok ()

namespace Saving

variable {d : Dictionary}

def steps (saving : Saving d) : List FileStep :=
  .truncate :: (saving.parts.map .append ++ [.close])

/-- What is in the file after `n` steps, if one of them was the `fopen`. -/
def written (saving : Saving d) (n : Nat) : Text := (saving.parts.take (n - 1)).flatten

def missing (saving : Saving d) (n : Nat) : Text := (saving.parts.drop (n - 1)).flatten

end Saving

/-- The next start ends with the old, the saved or the factory configuration. -/
def Recovers (old factory : Configuration) (d : Dictionary) (file : Option Text) :
    Prop :=
  ∃ after e, rkParamInit true true true (Store.start file (some factory.text)) =
      .ok (0, after) ∧ after.dict = .ok (some e) ∧
    (dictionaryFind e = dictionaryFind old.dict ∨
      dictionaryFind e = dictionaryFind d ∨
      dictionaryFind e = dictionaryFind factory.dict)

/-- The file was not yet truncated; or it ends in a line with a syntax error; or only
blanks are missing; or what was written happens to be one of the other two. -/
def Recoverable (old factory : Configuration) {d : Dictionary} (saving : Saving d)
    (n : Nat) : Prop :=
  let entries := dictionaryFind
    (dictionarySetAll (dictionaryNew 0) (writtenSettings d (saving.written n)))
  n = 0 ∨ Rejected (lastLine (saving.written n)) ∨ Blank (saving.missing n) ∨
    entries = dictionaryFind old.dict ∨ entries = dictionaryFind factory.dict

section Init

variable {factory : Configuration} {file : Option Text}

theorem loaded_configuration {store : Store} {e : Dictionary}
    (live : store.dict = .ok (some e)) (fits : rkParamDump (some e) = .ok ()) :
    store.loaded = .ok (0, store) := by
  obtain ⟨address, isPointer, _⟩ := Store.dict_live live
  unfold Store.loaded
  rw [if_neg (by simp [isPointer]), live]
  dsimp only [bind, Except.bind]
  rw [fits]
  rfl

theorem init_start (file : Option Text) (text : Text) :
    rkParamInit true true true (Store.start file (some text)) =
      Store.loaded
        (if ((Store.start file (some text)).load true).gIniD = none then
          ((Store.start file (some text)).load true).copyFactory.load true
        else (Store.start file (some text)).load true) := rfl

variable (factory) in
theorem init_loads {e : Dictionary} (loads : file.bind iniparserLoad = some e)
    (fits : rkParamDump (some e) = .ok ()) :
    ∃ after, rkParamInit true true true (Store.start file (some factory.text)) =
      .ok (0, after) ∧ after.dict = .ok (some e) := by
  have live : ((Store.start file (some factory.text)).load true).dict =
      .ok (some e) := by
    rw [Store.dict_load, if_pos rfl]
    exact congrArg Except.ok loads
  obtain ⟨address, isPointer, _⟩ := Store.dict_live live
  refine ⟨_, ?_, live⟩
  rw [init_start, if_neg (by simp [isPointer])]
  exact loaded_configuration live fits

variable (factory) in
/-- A file that the reader rejects is replaced by the factory configuration. -/
theorem init_factory (loads : file.bind iniparserLoad = none) :
    ∃ after, rkParamInit true true true (Store.start file (some factory.text)) =
      .ok (0, after) ∧ after.dict = .ok (some factory.dict) := by
  have null : ((Store.start file (some factory.text)).load true).dict = .ok none := by
    rw [Store.dict_load, if_pos rfl]
    exact congrArg Except.ok loads
  have copied : ((Store.start file (some factory.text)).load true).copyFactory.file =
      some factory.text := by
    unfold Store.copyFactory
    rw [Store.load_factory]
    rfl
  have live : (((Store.start file (some factory.text)).load true).copyFactory.load
      true).dict = .ok (some factory.dict) := by
    rw [Store.dict_load, if_pos rfl, copied]
    exact congrArg Except.ok factory.loads
  refine ⟨_, ?_, live⟩
  rw [init_start, if_pos (Store.dict_null.mp null)]
  exact loaded_configuration live factory.fits

end Init

section Files

variable {d : Dictionary}

theorem foldl_append (parts : List Text) (text : Text) :
    (parts.map FileStep.append).foldl FileStep.apply (some text) =
      some (text ++ parts.flatten) := by
  induction parts generalizing text with
  | nil => simp
  | cons part parts induction =>
      rw [List.map_cons, List.foldl_cons, List.flatten_cons, ← List.append_assoc]
      exact induction (text ++ part)

/-- After the `fopen` the file holds what was written. -/
theorem crashed_steps (saving : Saving d) (file : Option Text) {n : Nat}
    (opened : n ≠ 0) : crashed file saving.steps n = some (saving.written n) := by
  obtain ⟨n, rfl⟩ := Nat.exists_eq_succ_of_ne_zero opened
  unfold crashed Saving.steps Saving.written
  rw [Nat.succ_eq_add_one, List.take_succ_cons, List.foldl_cons, Nat.add_sub_cancel,
    List.take_append, List.foldl_append, ← List.map_take]
  show List.foldl FileStep.apply
    (List.foldl FileStep.apply (some []) ((saving.parts.take n).map .append)) _ = _
  rw [foldl_append, List.nil_append]
  cases n - (saving.parts.map FileStep.append).length with
  | zero => rfl
  | succ closed =>
      rw [List.take_succ_cons, List.take_nil]
      rfl

/-- After all steps the file is the one that `rk_param_save` leaves. -/
theorem crashed_all (saving : Saving d) {store after : Store} {code : Int}
    (live : store.dict = .ok (some d))
    (saved : rkParamSave true store = .ok (code, after)) :
    crashed store.file saving.steps saving.steps.length = after.file := by
  rw [crashed_steps saving store.file (by simp [Saving.steps])]
  rw [save_opened live] at saved
  cases saved
  have all : saving.written saving.steps.length = iniparserDumpIni d := by
    unfold Saving.written Saving.steps
    rw [List.take_of_length_le (by simp), saving.whole]
  rw [all]
  rfl

theorem written_missing (saving : Saving d) (n : Nat) :
    saving.written n ++ saving.missing n = iniparserDumpIni d := by
  unfold Saving.written Saving.missing
  rw [← List.flatten_append, List.take_append_drop, saving.whole]

end Files

section Recovery

variable {old factory : Configuration} {d : Dictionary}

/-- Before the `fopen` the old configuration is there. -/
theorem recovers_old : Recovers old factory d (some old.text) := by
  have loads : (some old.text).bind iniparserLoad = some old.dict := old.loads
  obtain ⟨after, isAfter, live⟩ := init_loads factory loads old.fits
  exact ⟨after, old.dict, isAfter, live, .inl rfl⟩

theorem recovers_factory {file : Option Text}
    (loads : file.bind iniparserLoad = none) : Recovers old factory d file := by
  obtain ⟨after, isAfter, live⟩ := init_factory factory loads
  exact ⟨after, factory.dict, isAfter, live, .inr (.inr rfl)⟩

theorem recovers_iff_of_loads {file : Option Text} {e : Dictionary}
    (loads : file.bind iniparserLoad = some e) (fits : rkParamDump (some e) = .ok ()) :
    Recovers old factory d file ↔
      dictionaryFind e = dictionaryFind old.dict ∨
        dictionaryFind e = dictionaryFind d ∨
        dictionaryFind e = dictionaryFind factory.dict := by
  obtain ⟨after, isAfter, live⟩ := init_loads factory loads fits
  unfold Recovers
  rw [isAfter]
  constructor
  · rintro ⟨other, found, same, isFound, equal⟩
    cases same
    rw [live] at isFound
    cases isFound
    exact equal
  · exact fun equal => ⟨after, e, rfl, live, equal⟩

theorem toLower_colon {char : Char} (isColon : char.toLower = ':') : char = ':' := by
  unfold Char.toLower at isColon
  split at isColon
  next upper =>
    have code := congrArg (fun char : Char => char.val.toNat) isColon
    obtain ⟨low, high⟩ := upper
    simp only [UInt32.le_iff_toNat_le, ge_iff_le] at low high
    simp only [UInt32.toNat_add] at code
    have shift : ('a'.val - 'A'.val).toNat = 32 := rfl
    have colon : ':'.val.toNat = 58 := rfl
    have first : 'A'.val.toNat = 65 := rfl
    have last : 'Z'.val.toNat = 90 := rfl
    omega
  next => exact isColon

theorem noColon_strlwc {s : Text} (noColon : ':' ∉ s) (len : Nat) :
    ':' ∉ strlwc s len := by
  intro member
  obtain ⟨char, inside, isColon⟩ := List.mem_map.mp member
  rw [toLower_colon isColon] at inside
  exact noColon (List.mem_of_mem_take inside)

/-- The written part has at most one key that the dictionary does not have. -/
theorem length_written (stored : Stored d) (part s : Text) :
    ((dictionarySetAll (dictionaryNew 0) (writtenSettings d part)).inSection s).length ≤
      (d.inSection s).length + 1 := by
  have sound := stored.storable.sound
  obtain ⟨agree, _⟩ := stored.storable.sets_agree
  let whole := dictionarySetAll (dictionaryNew 0)
    ((wholeLines d part).filterMap Dumped.sets)
  have soundWhole : whole.Sound := sound_setAll (sound_new 0) _
  have inside : ∀ key, dictionaryFind whole key ≠ none → dictionaryFind d key ≠ none := by
    intro key present
    obtain ⟨val, found⟩ := Option.ne_none_iff_exists'.mp present
    obtain set | before := mem_of_find_setAll (sound_new 0) found
    · have inDump : (key, val) ∈ d.dumped.filterMap Dumped.sets :=
        ((List.take_sublist _ _).filterMap _).subset set
      rw [agree _ inDump]
      exact Option.some_ne_none _
    · rw [find_new] at before
      cases before
  have shorter := length_inSection_mono sound soundWhole inside s
  have split : dictionarySetAll (dictionaryNew 0) (writtenSettings d part) =
      dictionarySetAll whole (cutSettings (sectionAfter [] (wholeLines d part))
        (lastLine part)) := List.foldl_append
  rw [split]
  obtain none | ⟨setting, one⟩ :=
    cutSettings_cases (sectionAfter [] (wholeLines d part)) (lastLine part)
  · rw [none]
    exact Nat.le_succ_of_le shorter
  · rw [one]
    refine Nat.le_trans (length_inSection_set soundWhole setting.1 setting.2 s) ?_
    split <;> omega

theorem fits_written (stored : Stored d)
    (roomy : ∀ s, ':' ∉ s → (d.inSection s).length < maxSectionKeys) (part : Text) :
    rkParamDump (some (dictionarySetAll (dictionaryNew 0) (writtenSettings d part))) =
      .ok () := by
  unfold rkParamDump
  dsimp only
  rw [if_pos]
  intro s member
  unfold iniparserGetsecnkeys
  split
  · have noColon := noColon_strlwc (mem_sections.mp member).2 1025
    exact Nat.le_trans (length_written stored part _) (roomy _ noColon)
  · exact Nat.zero_le _

/-- Before the `fopen` every save can be cut short; behind it the save of a dictionary
that a reload keeps recovers exactly where it is recoverable. -/
theorem recovers_iff (old factory : Configuration) {d : Dictionary}
    (saving : Saving d) (n : Nat) :
    (n = 0 → Recovers old factory d (crashed (some old.text) saving.steps n)) ∧
    (Stored d → (∀ s, ':' ∉ s → (d.inSection s).length < maxSectionKeys) →
      (Recovers old factory d (crashed (some old.text) saving.steps n) ↔
        Recoverable old factory saving n)) := by
  have unopened : n = 0 →
      Recovers old factory d (crashed (some old.text) saving.steps n) := by
    rintro rfl
    exact recovers_old
  refine ⟨unopened, fun stored roomy => ?_⟩
  by_cases opened : n = 0
  · exact iff_of_true (unopened opened) (.inl opened)
  · have isDump := written_missing saving n
    have loaded := load_part stored.storable ⟨saving.missing n, isDump⟩
    have file := crashed_steps saving (some old.text) opened
    unfold Recoverable
    rw [file]
    dsimp only
    by_cases rejected : Rejected (lastLine (saving.written n))
    · rw [if_pos rejected] at loaded
      exact iff_of_true (recovers_factory loaded) (.inr (.inl rejected))
    · rw [if_neg rejected] at loaded
      have isLoaded : (some (saving.written n)).bind iniparserLoad = some _ := loaded
      rw [recovers_iff_of_loads isLoaded (fits_written stored roomy _),
        find_written_iff stored.storable isDump]
      simp only [opened, rejected, false_or]
      exact or_left_comm

end Recovery

/-! A configuration of two values that is saved in two parts. -/

def Configuration.ofText (text : Text) (loads : (iniparserLoad text).isSome = true)
    (fits : rkParamDump (iniparserLoad text) = .ok ()) : Configuration where
  text := text
  dict := (iniparserLoad text).get loads
  loads := (Option.some_get loads).symm
  fits := by rwa [Option.some_get]

def sizeEntries (width height : Text) : Dictionary :=
  dictionarySet (dictionarySet (dictionarySet (dictionaryNew 0) "video.0".toList none)
    "video.0:width".toList (some width)) "video.0:height".toList (some height)

def sizeConfiguration : Configuration :=
  .ofText "[video.0]\nwidth = 2688\nheight = 1520\n".toList (by decide)
    (by decide +kernel)

/-- The first part ends behind the first value. -/
def sizeSaving : Saving (sizeEntries "1280".toList "720".toList) where
  parts := [(iniparserDumpIni (sizeEntries "1280".toList "720".toList)).take 49,
    (iniparserDumpIni (sizeEntries "1280".toList "720".toList)).drop 49]
  whole := by simp

theorem stored_size : Stored (sizeEntries "1280".toList "720".toList) ∧
    ∀ s, ':' ∉ s →
      ((sizeEntries "1280".toList "720".toList).inSection s).length < maxSectionKeys := by
  have sound := sound_new 0
  have empty : ∀ s, (dictionaryNew 0).inSection s = [] := by
    intro s
    simp [Dictionary.inSection, Dictionary.entries, dictionaryNew]
  have sizes : ∀ s,
      ((sizeEntries "1280".toList "720".toList).inSection s).length ≤ 3 := by
    intro s
    have first := length_inSection_set sound "video.0".toList none s
    have soundFirst := (set_spec sound "video.0".toList none).1
    have second := length_inSection_set soundFirst "video.0:width".toList
      (some "1280".toList) s
    have soundSecond := (set_spec soundFirst "video.0:width".toList
      (some "1280".toList)).1
    have third := length_inSection_set soundSecond "video.0:height".toList
      (some "720".toList) s
    rw [empty, List.length_nil] at first
    unfold sizeEntries
    split at first <;> split at second <;> split at third <;> omega
  have noColon : ':' ∉ "video.0".toList := by decide
  have named := storable_set_section (storable_new 0) noColon (by decide)
  have width : Storable (dictionarySet (dictionarySet (dictionaryNew 0)
      "video.0".toList none) ("video.0".toList ++ ':' :: "width".toList)
        (some "1280".toList)) :=
    storable_set_entry named noColon
      ((find_eq_some named.sound).mp (by decide +kernel)) (by decide)
      (by decide) (by decide)
  have height := storable_set_entry (k := "height".toList) (v := "720".toList) width
    noColon ((find_eq_some width.sound).mp (by decide +kernel)) (by decide)
    (by decide) (by decide)
  exact ⟨⟨height, fun s _ => Nat.le_trans (sizes s) (by decide)⟩,
    fun s _ => Nat.lt_of_le_of_lt (sizes s) (by decide)⟩

theorem recovers_iff_size :
    Recovers sizeConfiguration sizeConfiguration (sizeEntries "1280".toList "720".toList)
        (crashed (some sizeConfiguration.text) sizeSaving.steps 2) ↔
      Recoverable sizeConfiguration sizeConfiguration sizeSaving 2 :=
  (recovers_iff sizeConfiguration sizeConfiguration sizeSaving 2).2 stored_size.1
    stored_size.2

/-- Behind the first part the height is gone from every later start. -/
theorem half_written_configuration_used :
    ¬ Recovers sizeConfiguration sizeConfiguration (sizeEntries "1280".toList "720".toList)
      (crashed (some sizeConfiguration.text) sizeSaving.steps 2) := by
  have loads : ((crashed (some sizeConfiguration.text) sizeSaving.steps 2).bind
      iniparserLoad).map (fun e => (dictionaryFind e "video.0:height".toList,
        decide (rkParamDump (some e) = .ok ()))) = some (none, true) := by
    decide +kernel
  obtain ⟨e, isLoaded, found⟩ := Option.map_eq_some_iff.mp loads
  obtain ⟨absent, fits⟩ := Prod.mk.inj found
  rw [recovers_iff_of_loads isLoaded (of_decide_eq_true fits)]
  rintro (same | same | same)
  all_goals
    rw [same] at absent
    exact absurd absent (by decide +kernel)

end Rkipc.Param
