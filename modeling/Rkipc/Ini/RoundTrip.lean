import Rkipc.Ini.DumpLoad

namespace Rkipc.Ini

/-! A dictionary whose entries the writer writes so that the reader finds them. -/

/-- What one entry must be like. -/
structure Storable (d : Dictionary) : Prop where
  sound : d.Sound
  name : ∀ s val, d.Has s val → ':' ∉ s → val = none ∧ SectionOk s
  entry : ∀ key val, d.Has key val → ':' ∈ key →
    ∃ s k v, key = s ++ ':' :: k ∧ ':' ∉ s ∧ d.Has s none ∧
      val = some v ∧ KeyOk k ∧ ValueOk v ∧ LineOk k v

/-- A written line with what it sets. -/
structure Dumped where
  text : Text
  sets : Option (Text × Option Text)

/-- The lines that the reader understands below the section `name`. -/
inductive Understood : Text → List Dumped → Prop
  | nil (name : Text) : Understood name []
  | blank {name : Text} {lines : List Dumped} :
      Understood name lines → Understood name (⟨[], none⟩ :: lines)
  | head {name s : Text} {lines : List Dumped} : SectionOk s →
      Understood s lines →
      Understood name (⟨sectionText s, some (s, none)⟩ :: lines)
  | keyed {name key val : Text} {lines : List Dumped} : KeyOk key →
      ValueOk val → LineOk key val → Understood name lines →
      Understood name
        (⟨keyText key val, some (name ++ ':' :: key, some val)⟩ :: lines)

def sectionAfter (name : Text) (lines : List Dumped) : Text :=
  lines.foldl (fun name line =>
    match line.sets with
    | some (s, none) => s
    | _ => name) name

namespace Dictionary

def dumpedKey (s : Text) (slot : Slot) : Dumped :=
  ⟨keyText (slot.key.drop (s.length + 1)) (slot.val.getD []),
    some (slot.key, slot.val)⟩

def dumpedSection (d : Dictionary) (s : Text) : List Dumped :=
  ⟨[], none⟩ :: ⟨sectionText s, some (s, none)⟩ ::
    ((d.inSection s).map (dumpedKey s) ++ [⟨[], none⟩])

def dumped (d : Dictionary) : List Dumped :=
  if d.sections = [] then [] else
    d.sections.flatMap d.dumpedSection ++ [⟨[], none⟩]

end Dictionary

section Understood

variable {name : Text} {lines others : List Dumped} {loading : Loading}

theorem understood_append (first : Understood name lines)
    (second : ∀ name, Understood name others) :
    Understood name (lines ++ others) := by
  induction first with
  | nil name => exact second name
  | blank _ induction => exact .blank induction
  | head ok _ induction => exact .head ok induction
  | keyed keyOk valueOk lineOk _ induction =>
      exact .keyed keyOk valueOk lineOk induction

theorem fits_of_understood (understood : Understood name lines) :
    ∀ line ∈ lines.map Dumped.text, LineFits line := by
  induction understood with
  | nil name => simp
  | blank _ induction =>
      rw [List.map_cons, List.forall_mem_cons]
      exact ⟨fits_nil, induction⟩
  | head ok _ induction =>
      rw [List.map_cons, List.forall_mem_cons]
      exact ⟨fits_sectionText ok, induction⟩
  | keyed keyOk valueOk lineOk _ induction =>
      rw [List.map_cons, List.forall_mem_cons]
      exact ⟨fits_keyText keyOk valueOk lineOk, induction⟩

theorem foldl_pass (understood : Understood loading.name (lines ++ others))
    (kept : loading.kept = []) :
    (lines.map Dumped.text).foldl Loading.pass loading =
        ⟨dictionarySetAll loading.dict (lines.filterMap Dumped.sets),
          sectionAfter loading.name lines, [], loading.errs⟩ ∧
      Understood (sectionAfter loading.name lines) others := by
  induction lines generalizing loading with
  | nil =>
      obtain ⟨dict, name, _, errs⟩ := loading
      cases kept
      exact ⟨rfl, understood⟩
  | cons line lines induction =>
      rw [List.map_cons, List.foldl_cons]
      cases understood with
      | blank rest => exact induction rest kept
      | head ok rest =>
          rw [pass_sectionText ok]
          exact induction rest rfl
      | keyed keyOk valueOk lineOk rest =>
          rw [pass_keyText keyOk valueOk lineOk]
          exact induction rest rfl

end Understood

section Entries

variable {d : Dictionary} {s : Text} {slot : Slot}

theorem mem_entries : slot ∈ d.entries ↔ d.Has slot.key slot.val := by
  have mem_slots : slot ∈ d.entries ↔ some slot ∈ d.slots := by
    simp [Dictionary.entries]
  rw [mem_slots, List.mem_iff_getElem?]
  unfold Dictionary.Has
  rw [← Slot.eq_of]

theorem exists_entry {key : Text} {val : Option Text} (has : d.Has key val) :
    ∃ slot ∈ d.entries, slot.key = key ∧ slot.val = val :=
  ⟨Slot.of key val, mem_entries.mpr has, rfl, rfl⟩

theorem mem_sections :
    s ∈ d.sections ↔ (∃ val, d.Has s val) ∧ ':' ∉ s := by
  unfold Dictionary.sections
  rw [List.mem_filter, List.mem_map]
  constructor
  · rintro ⟨⟨slot, member, rfl⟩, noColon⟩
    exact ⟨⟨slot.val, mem_entries.mp member⟩, by simpa using noColon⟩
  · rintro ⟨⟨val, has⟩, noColon⟩
    obtain ⟨slot, member, isKey, _⟩ := exists_entry has
    exact ⟨⟨slot, member, isKey⟩, by simpa using noColon⟩

theorem mem_inSection :
    slot ∈ d.inSection s ↔
      slot ∈ d.entries ∧ ∃ k, slot.key = s ++ ':' :: k := by
  unfold Dictionary.inSection
  rw [List.mem_filter, List.isPrefixOf_iff_prefix]
  apply and_congr_right
  intro _
  constructor
  · rintro ⟨k, isKey⟩
    exact ⟨k, by rw [← isKey, List.append_assoc]; rfl⟩
  · rintro ⟨k, isKey⟩
    exact ⟨k, by rw [isKey, List.append_assoc]; rfl⟩

theorem split_unique {s other k rest : Text} (noColon : ':' ∉ s)
    (noColonOther : ':' ∉ other) (same : s ++ ':' :: k = other ++ ':' :: rest) :
    s = other ∧ k = rest := by
  induction s generalizing other with
  | nil =>
      cases other with
      | nil => exact ⟨rfl, (List.cons.inj same).2⟩
      | cons char other =>
          obtain ⟨isColon, _⟩ := List.cons.inj same
          exact absurd (isColon ▸ List.mem_cons_self ..) noColonOther
  | cons char s induction =>
      cases other with
      | nil =>
          obtain ⟨isColon, _⟩ := List.cons.inj same
          exact absurd (isColon ▸ List.mem_cons_self ..) noColon
      | cons first other =>
          obtain ⟨rfl, tails⟩ := List.cons.inj same
          obtain ⟨rfl, rfl⟩ := induction
            (fun member => noColon (List.mem_cons_of_mem _ member))
            (fun member => noColonOther (List.mem_cons_of_mem _ member)) tails
          exact ⟨rfl, rfl⟩

end Entries

/-! How many keys a section has. -/

section Keys

variable {d e : Dictionary}

def Dictionary.keys (d : Dictionary) : List Text := d.entries.map Slot.key

theorem mem_keys (sound : d.Sound) {key : Text} :
    key ∈ d.keys ↔ dictionaryFind d key ≠ none := by
  rw [Option.ne_none_iff_exists']
  unfold Dictionary.keys
  rw [List.mem_map]
  constructor
  · rintro ⟨slot, member, rfl⟩
    exact ⟨slot.val, (find_eq_some sound).mpr (mem_entries.mp member)⟩
  · rintro ⟨val, found⟩
    obtain ⟨slot, member, isKey, _⟩ := exists_entry ((find_eq_some sound).mp found)
    exact ⟨slot, member, isKey⟩

theorem nodup_keys (sound : d.Sound) : d.keys.Nodup := by
  unfold Dictionary.keys Dictionary.entries List.Nodup
  rw [List.pairwise_map, List.pairwise_filterMap, List.pairwise_iff_getElem]
  intro i j boundI boundJ less slot isSlot other isOther same
  have atI : d.slots[i]? = some (some slot) := by
    rw [List.getElem?_eq_getElem boundI]
    exact congrArg some isSlot
  have atJ : d.slots[j]? = some (some other) := by
    rw [List.getElem?_eq_getElem boundJ]
    exact congrArg some isOther
  exact Nat.ne_of_lt less (sound.unique i j slot other atI atJ same)

theorem length_inSection (s : Text) :
    (d.inSection s).length =
      (d.keys.filter fun key => (s ++ [':']).isPrefixOf key).length := by
  unfold Dictionary.inSection Dictionary.keys
  rw [List.filter_map, List.length_map]
  rfl

/-- Dictionaries with the same keys have sections of the same size. -/
theorem length_inSection_congr (sound : d.Sound) (soundE : e.Sound)
    (same : ∀ key, dictionaryFind d key ≠ none ↔ dictionaryFind e key ≠ none)
    (s : Text) : (d.inSection s).length = (e.inSection s).length := by
  have perm : d.keys.Perm e.keys := by
    rw [List.perm_ext_iff_of_nodup (nodup_keys sound) (nodup_keys soundE)]
    intro key
    rw [mem_keys sound, mem_keys soundE]
    exact same key
  rw [length_inSection, length_inSection]
  exact (perm.filter _).length_eq

theorem length_inSection_set (sound : d.Sound) (key : Text) (val : Option Text)
    (s : Text) :
    ((dictionarySet d key val).inSection s).length ≤ (d.inSection s).length +
      if dictionaryFind d key = none ∧ (s ++ [':']) <+: key then 1 else 0 := by
  have soundSet := (set_spec sound key val).1
  have mem_set : ∀ other, other ∈ (dictionarySet d key val).keys ↔
      other = key ∨ other ∈ d.keys := by
    intro other
    rw [mem_keys soundSet, mem_keys sound, find_set sound]
    by_cases isKey : other = key
    · subst isKey
      simp
    · simp [isKey]
  by_cases present : dictionaryFind d key = none
  · have absent : key ∉ d.keys := by
      rw [mem_keys sound]
      exact not_not.mpr present
    have perm : (dictionarySet d key val).keys.Perm (key :: d.keys) := by
      rw [List.perm_ext_iff_of_nodup (nodup_keys soundSet)
        (List.nodup_cons.mpr ⟨absent, nodup_keys sound⟩)]
      intro other
      rw [mem_set, List.mem_cons]
    rw [length_inSection, length_inSection, (perm.filter _).length_eq,
      List.filter_cons]
    simp only [List.isPrefixOf_iff_prefix, present, true_and]
    split <;> simp
  · rw [if_neg (fun both => present both.1)]
    refine le_of_eq (length_inSection_congr soundSet sound (fun other => ?_) s)
    rw [← mem_keys soundSet, ← mem_keys sound, mem_set]
    constructor
    · rintro (rfl | member)
      · exact (mem_keys sound).mpr present
      · exact member
    · exact .inr

theorem length_inSection_mono (sound : d.Sound) (soundE : e.Sound)
    (inside : ∀ key, dictionaryFind e key ≠ none → dictionaryFind d key ≠ none)
    (s : Text) : (e.inSection s).length ≤ (d.inSection s).length := by
  rw [length_inSection, length_inSection]
  refine List.Subperm.length_le (List.subperm_of_subset
    ((nodup_keys soundE).filter _) fun key member => ?_)
  rw [List.mem_filter] at member ⊢
  exact ⟨(mem_keys sound).mpr (inside key ((mem_keys soundE).mp member.1)), member.2⟩

theorem length_inSection_unset (sound : d.Sound) (key s : Text) :
    ((dictionaryUnset d key).inSection s).length ≤ (d.inSection s).length := by
  refine length_inSection_mono sound (unset_spec sound key).1 (fun other inside => ?_) s
  rw [find_unset sound] at inside
  by_cases isKey : other = key
  · subst isKey
    simp at inside
  · rwa [Function.update_of_ne isKey] at inside

end Keys

namespace Storable

variable {d : Dictionary} {s : Text}

theorem find_section (storable : Storable d) (member : s ∈ d.sections) :
    iniparserFindEntry d s = true ∧ dictionaryFind d s = some none ∧
      SectionOk s := by
  obtain ⟨⟨val, has⟩, noColon⟩ := mem_sections.mp member
  obtain ⟨rfl, ok⟩ := storable.name s val has noColon
  have found := (find_eq_some storable.sound).mpr has
  refine ⟨?_, found, ok⟩
  unfold iniparserFindEntry
  rw [strlwc_eq_self ok.lower (by have := ok.short; omega), found]
  rfl

theorem key_of_inSection (storable : Storable d) {slot : Slot}
    (noColon : ':' ∉ s) (member : slot ∈ d.inSection s) :
    ∃ k v, slot = Slot.of (s ++ ':' :: k) (some v) ∧ KeyOk k ∧ ValueOk v ∧
      LineOk k v := by
  obtain ⟨isEntry, k, isKey⟩ := mem_inSection.mp member
  obtain ⟨other, rest, v, isOther, noColonOther, _, isVal, ok⟩ :=
    storable.entry slot.key slot.val (mem_entries.mp isEntry) (by simp [isKey])
  obtain ⟨rfl, rfl⟩ := split_unique noColon noColonOther (isKey.symm.trans isOther)
  exact ⟨k, v, by rw [(Slot.eq_of : slot = _), isKey, isVal], ok⟩

theorem understood_inSection (storable : Storable d) (noColon : ':' ∉ s)
    {slots : List Slot} (inside : ∀ slot ∈ slots, slot ∈ d.inSection s) :
    Understood s (slots.map (Dictionary.dumpedKey s)) := by
  induction slots with
  | nil => exact .nil s
  | cons slot slots induction =>
      obtain ⟨k, v, rfl, keyOk, valueOk, lineOk⟩ :=
        storable.key_of_inSection noColon (inside slot (List.mem_cons_self ..))
      have isLine : Dictionary.dumpedKey s (Slot.of (s ++ ':' :: k) (some v)) =
          ⟨keyText k v, some (s ++ ':' :: k, some v)⟩ := by
        simp [Dictionary.dumpedKey]
      rw [List.map_cons, isLine]
      exact .keyed keyOk valueOk lineOk (induction fun other member =>
        inside other (List.mem_cons_of_mem _ member))

/-- Every line that is written is understood. -/
theorem understood (storable : Storable d) (name : Text) :
    Understood name d.dumped := by
  have blank : ∀ name, Understood name [⟨[], none⟩] :=
    fun name => .blank (.nil name)
  have sections : ∀ names : List Text, (∀ s ∈ names, s ∈ d.sections) →
      ∀ name, Understood name (names.flatMap d.dumpedSection ++ [⟨[], none⟩]) := by
    intro names
    induction names with
    | nil => exact fun _ => blank
    | cons s names induction =>
        intro members name
        have isSection := members s (List.mem_cons_self ..)
        have noColon := (mem_sections.mp isSection).2
        rw [List.flatMap_cons, List.append_assoc]
        refine understood_append ?_ (induction fun other member =>
          members other (List.mem_cons_of_mem _ member))
        exact .blank (.head (storable.find_section isSection).2.2
          (understood_append
            (storable.understood_inSection noColon fun _ member => member) blank))
  unfold Dictionary.dumped
  split
  next => exact .nil name
  next => exact sections d.sections (fun _ member => member) name

theorem dumpsection_eq (storable : Storable d) (member : s ∈ d.sections) :
    iniparserDumpsectionIni d s =
      unlines ((d.dumpedSection s).map Dumped.text) := by
  have keys : ∀ slots : List Slot,
      slots.flatMap (fun slot =>
        keyLine (slot.key.drop (s.length + 1)) (slot.val.getD [])) =
      unlines ((slots.map (Dictionary.dumpedKey s)).map Dumped.text) := by
    intro slots
    induction slots with
    | nil => rfl
    | cons slot slots induction =>
        rw [List.flatMap_cons, induction, keyLine_eq]
        rfl
  unfold iniparserDumpsectionIni Dictionary.dumpedSection
  rw [if_pos (storable.find_section member).1, keys, sectionLine_eq]
  simp [unlines]

theorem entries_nil (storable : Storable d) (none : d.sections = []) :
    d.entries = [] := by
  apply List.eq_nil_iff_forall_not_mem.mpr
  intro slot member
  have noSection : ∀ s, ¬ s ∈ d.sections := by
    intro s
    rw [none]
    exact List.not_mem_nil
  have has := mem_entries.mp member
  by_cases colon : ':' ∈ slot.key
  · obtain ⟨s, _, _, _, noColon, hasSection, _⟩ :=
      storable.entry slot.key slot.val has colon
    exact noSection s (mem_sections.mpr ⟨⟨_, hasSection⟩, noColon⟩)
  · exact noSection slot.key (mem_sections.mpr ⟨⟨_, has⟩, colon⟩)

theorem dump_eq (storable : Storable d) :
    iniparserDumpIni d = unlines (d.dumped.map Dumped.text) := by
  have sections : ∀ names : List Text, (∀ s ∈ names, s ∈ d.sections) →
      names.flatMap (iniparserDumpsectionIni d) =
        unlines ((names.flatMap d.dumpedSection).map Dumped.text) := by
    intro names members
    induction names with
    | nil => rfl
    | cons s names induction =>
        rw [List.flatMap_cons, List.flatMap_cons,
          storable.dumpsection_eq (members s (List.mem_cons_self ..)),
          induction fun other member =>
            members other (List.mem_cons_of_mem _ member)]
        simp [unlines]
  unfold iniparserDumpIni iniparserGetnsec Dictionary.dumped
  by_cases none : d.sections = []
  · rw [if_pos (by simp [none]), if_pos none, storable.entries_nil none]
    rfl
  · have positive := List.length_pos_iff.mpr none
    rw [if_neg (by omega), if_neg none, sections _ fun _ member => member]
    simp [unlines]

theorem filterMap_dumped (d : Dictionary) :
    d.dumped.filterMap Dumped.sets = d.sections.flatMap fun s =>
      (s, none) :: (d.inSection s).map fun slot => (slot.key, slot.val) := by
  have setsSection : ∀ s, (d.dumpedSection s).filterMap Dumped.sets =
      (s, none) :: (d.inSection s).map fun slot => (slot.key, slot.val) := by
    intro s
    simp [Dictionary.dumpedSection, Dictionary.dumpedKey, List.filterMap_map,
      Function.comp_def]
  unfold Dictionary.dumped
  split
  next none =>
    rw [none]
    rfl
  next =>
    rw [List.filterMap_append, List.filterMap_flatMap]
    simp [setsSection]

theorem nodup_sets (storable : Storable d) :
    ((d.dumped.filterMap Dumped.sets).map Prod.fst).Nodup := by
  have keys : (d.dumped.filterMap Dumped.sets).map Prod.fst =
      d.sections.flatMap fun s => s :: (d.inSection s).map Slot.key := by
    rw [filterMap_dumped, List.map_flatMap]
    simp [Function.comp_def]
  have inSection : ∀ s key, key ∈ (d.inSection s).map Slot.key →
      ∃ k, key = s ++ ':' :: k := by
    intro s key member
    obtain ⟨slot, isSlot, rfl⟩ := List.mem_map.mp member
    exact (mem_inSection.mp isSlot).2
  have noColon : ∀ s ∈ d.sections, ':' ∉ s :=
    fun s member => (mem_sections.mp member).2
  have nodup := nodup_keys storable.sound
  have sections : d.sections.Nodup := nodup.filter _
  rw [keys, List.nodup_flatMap]
  constructor
  · intro s member
    refine List.nodup_cons.mpr ⟨fun isKey => ?_, ?_⟩
    · obtain ⟨k, same⟩ := inSection s s isKey
      refine noColon s member ?_
      rw [same]
      simp
    · exact nodup.sublist (List.filter_sublist.map Slot.key)
  · refine sections.imp_of_mem ?_
    intro s other member memberOther different key inFirst inSecond
    have disjoint : ∀ k rest, s ++ ':' :: k ≠ other ++ ':' :: rest :=
      fun k rest same => different
        (split_unique (noColon s member) (noColon other memberOther) same).1
    obtain rfl | inFirst := List.mem_cons.mp inFirst
    · obtain rfl | inSecond := List.mem_cons.mp inSecond
      · exact different rfl
      · obtain ⟨k, rfl⟩ := inSection _ _ inSecond
        exact noColon _ member (by simp)
    · obtain ⟨k, rfl⟩ := inSection _ _ inFirst
      obtain rfl | inSecond := List.mem_cons.mp inSecond
      · exact noColon _ memberOther (by simp)
      · obtain ⟨rest, same⟩ := inSection _ _ inSecond
        exact disjoint k rest same

/-- Each line sets what the dictionary has, and no entry is left out. -/
theorem sets_agree (storable : Storable d) :
    (∀ setting ∈ d.dumped.filterMap Dumped.sets,
      dictionaryFind d setting.1 = some setting.2) ∧
    ∀ key, dictionaryFind d key ≠ none →
      key ∈ (d.dumped.filterMap Dumped.sets).map Prod.fst := by
  rw [filterMap_dumped]
  constructor
  · intro setting member
    obtain ⟨s, isSection, inside⟩ := List.mem_flatMap.mp member
    cases List.mem_cons.mp inside with
    | inl isName =>
        rw [isName]
        exact (storable.find_section isSection).2.1
    | inr isKey =>
        obtain ⟨slot, isSlot, rfl⟩ := List.mem_map.mp isKey
        exact (find_eq_some storable.sound).mpr
          (mem_entries.mp (mem_inSection.mp isSlot).1)
  · intro key present
    obtain ⟨val, found⟩ := Option.ne_none_iff_exists'.mp present
    have has := (find_eq_some storable.sound).mp found
    rw [List.mem_map]
    by_cases colon : ':' ∈ key
    · obtain ⟨s, k, v, rfl, noColon, hasSection, _⟩ :=
        storable.entry key val has colon
      obtain ⟨slot, member, isKey, _⟩ := exists_entry has
      refine ⟨(slot.key, slot.val), List.mem_flatMap.mpr ⟨s,
        mem_sections.mpr ⟨⟨_, hasSection⟩, noColon⟩, ?_⟩, isKey⟩
      exact List.mem_cons_of_mem _ (List.mem_map.mpr ⟨slot,
        mem_inSection.mpr ⟨member, k, isKey⟩, rfl⟩)
    · exact ⟨(key, none), List.mem_flatMap.mpr ⟨key,
        mem_sections.mpr ⟨⟨val, has⟩, colon⟩, List.mem_cons_self ..⟩, rfl⟩

end Storable

theorem find_dumped {d : Dictionary} (storable : Storable d) :
    dictionaryFind (dictionarySetAll (dictionaryNew 0)
      (d.dumped.filterMap Dumped.sets)) = dictionaryFind d := by
  obtain ⟨agree, complete⟩ := storable.sets_agree
  funext key
  rw [find_setAll_of_agree (sound_new 0) agree, find_new]
  split
  next => rfl
  next absent => exact (not_not.mp (mt (complete key) absent)).symm

theorem length_le_unlines (lines : List Text) :
    lines.length ≤ (unlines lines).length := by
  induction lines with
  | nil => exact Nat.le_refl 0
  | cons line lines induction =>
      simp only [unlines, List.flatMap_cons, List.length_append,
        List.length_cons, List.length_nil] at induction ⊢
      omega

/-- What was written is read, and every lookup finds what it found before. -/
theorem load_dump {d : Dictionary} (storable : Storable d) :
    ∃ e, iniparserLoad (iniparserDumpIni d) = some e ∧ e.Sound ∧
      dictionaryFind e = dictionaryFind d := by
  have understood := storable.understood Loading.start.name
  rw [← List.append_nil d.dumped] at understood
  obtain ⟨folded, _⟩ := foldl_pass understood rfl
  have enough := length_le_unlines (d.dumped.map Dumped.text)
  obtain ⟨fuel, isFuel⟩ : ∃ fuel,
      (unlines (d.dumped.map Dumped.text)).length + 1 =
        (d.dumped.map Dumped.text).length + fuel :=
    Nat.exists_eq_add_of_le (Nat.le_succ_of_le enough)
  have loaded : iniparserLoad (iniparserDumpIni d) =
      some (dictionarySetAll (dictionaryNew 0)
        (d.dumped.filterMap Dumped.sets)) := by
    unfold iniparserLoad
    rw [storable.dump_eq, isFuel, ← List.append_nil (unlines _),
      loop_lines (fits_of_understood (storable.understood [])) rfl, folded,
      loop_end rfl]
    rfl
  exact ⟨_, loaded, sound_setAll (sound_new 0) _, find_dumped storable⟩

/-! Writes that leave a dictionary storable. -/

section Preserved

variable {d : Dictionary} {s k v : Text}

theorem storable_new (size : Nat) : Storable (dictionaryNew size) where
  sound := sound_new size
  name := fun s val has => absurd has (not_has_new size s val)
  entry := fun key val has => absurd has (not_has_new size key val)

theorem storable_set_entry (storable : Storable d) (noColon : ':' ∉ s)
    (hasSection : d.Has s none) (keyOk : KeyOk k) (valueOk : ValueOk v)
    (lineOk : LineOk k v) :
    Storable (dictionarySet d (s ++ ':' :: k) (some v)) := by
  obtain ⟨sound, has⟩ := set_spec storable.sound (s ++ ':' :: k) (some v)
  have other : ∀ name, ':' ∉ name → name ≠ s ++ ':' :: k := by
    rintro _ free rfl
    exact free (by simp)
  refine ⟨sound, fun name val isEntry free => ?_, fun key val isEntry colon => ?_⟩
  · obtain ⟨rfl, _⟩ | ⟨_, before⟩ := (has name val).mp isEntry
    · exact absurd rfl (other _ free)
    · exact storable.name name val before free
  · obtain ⟨rfl, rfl⟩ | ⟨_, before⟩ := (has key val).mp isEntry
    · exact ⟨s, k, v, rfl, noColon, (has s none).mpr (.inr ⟨other s noColon,
        hasSection⟩), rfl, keyOk, valueOk, lineOk⟩
    · obtain ⟨name, rest, text, isKey, free, hasName, ok⟩ :=
        storable.entry key val before colon
      exact ⟨name, rest, text, isKey, free,
        (has name none).mpr (.inr ⟨other name free, hasName⟩), ok⟩

theorem storable_set_section (storable : Storable d) (noColon : ':' ∉ s)
    (ok : SectionOk s) : Storable (dictionarySet d s none) := by
  obtain ⟨sound, has⟩ := set_spec storable.sound s none
  refine ⟨sound, fun name val isEntry free => ?_, fun key val isEntry colon => ?_⟩
  · obtain ⟨rfl, rfl⟩ | ⟨_, before⟩ := (has name val).mp isEntry
    · exact ⟨rfl, ok⟩
    · exact storable.name name val before free
  · obtain ⟨rfl, _⟩ | ⟨_, before⟩ := (has key val).mp isEntry
    · exact absurd colon noColon
    · obtain ⟨name, rest, text, isKey, free, hasName, good⟩ :=
        storable.entry key val before colon
      refine ⟨name, rest, text, isKey, free, (has name none).mpr ?_, good⟩
      by_cases same : name = s
      · exact .inl ⟨same, rfl⟩
      · exact .inr ⟨same, hasName⟩

theorem storable_unset_section (storable : Storable d)
    (empty : ∀ k val, ¬ d.Has (s ++ ':' :: k) val) :
    Storable (dictionaryUnset d s) := by
  obtain ⟨sound, has⟩ := unset_spec storable.sound s
  refine ⟨sound, fun name val isEntry free => ?_, fun key val isEntry colon => ?_⟩
  · exact storable.name name val ((has name val).mp isEntry).2 free
  · obtain ⟨_, before⟩ := (has key val).mp isEntry
    obtain ⟨name, rest, text, rfl, free, hasName, good⟩ :=
      storable.entry key val before colon
    refine ⟨name, rest, text, rfl, free, (has name none).mpr ⟨?_, hasName⟩, good⟩
    rintro rfl
    exact empty rest val before

end Preserved

end Rkipc.Ini
