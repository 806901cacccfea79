import Mathlib.Data.List.Count
import Mathlib.Data.List.Nodup
import Mathlib.Logic.Function.Basic

namespace Rkipc.Ini

/-! The dictionary of string associations behind the configuration. -/

/-- A C string without its terminator, one character for each byte. -/
abbrev Text := List Char

/-- The characters of the text one by one, and not all characters that there are. -/
instance (priority := high) decidableAllChars (p : Char → Prop) [DecidablePred p]
    (text : List Char) : Decidable (∀ char ∈ text, p char) :=
  List.decidableBAll p text

/-- One at a time, over `unsigned`. -/
def dictionaryHash (key : Text) : UInt32 :=
  let hash := key.foldl (fun (hash : UInt32) char =>
    let hash := hash + char.val
    let hash := hash + (hash <<< 10)
    hash ^^^ (hash >>> 6)) 0
  let hash := hash + (hash <<< 3)
  let hash := hash ^^^ (hash >>> 11)
  hash + (hash <<< 15)

/-- A key with its value, which may be NULL, and with its hash. -/
structure Slot where
  key : Text
  val : Option Text
  hash : UInt32
  hashed : hash = dictionaryHash key
deriving DecidableEq

def Slot.of (key : Text) (val : Option Text) : Slot :=
  ⟨key, val, dictionaryHash key, rfl⟩

/-- The comparison of hashes, and of keys where these are equal. -/
def Slot.isFor (key : Text) (slot : Option Slot) : Bool :=
  match slot with
  | none => false
  | some slot => dictionaryHash key == slot.hash && key == slot.key

/-- `size` is the number of slots, `n` that of entries. -/
structure Dictionary where
  n : Nat
  slots : List (Option Slot)
deriving DecidableEq

namespace Dictionary

def size (d : Dictionary) : Nat := d.slots.length

end Dictionary

def dictionaryNew (size : Nat) : Dictionary :=
  ⟨0, List.replicate (max size 128) none⟩

def dictionaryFind (d : Dictionary) (key : Text) : Option (Option Text) :=
  (d.slots.find? (Slot.isFor key)).bind fun slot => slot.map Slot.val

def dictionaryGet (d : Dictionary) (key : Text) (default : Option Text) :
    Option Text :=
  (dictionaryFind d key).getD default

def dictionaryGrow (d : Dictionary) : Dictionary :=
  { d with slots := d.slots ++ List.replicate d.size none }

/-- The first empty slot from `i` on, around the end. -/
def emptySlot (slots : List (Option Slot)) : Nat → Nat → Nat
  | 0, i => i
  | fuel + 1, i =>
      if (slots[i]?.getD none).isSome then
        emptySlot slots fuel (if i + 1 = slots.length then 0 else i + 1)
      else i

def dictionaryAdd (d : Dictionary) (key : Text) (val : Option Text) :
    Dictionary :=
  let d := if d.n = d.size then dictionaryGrow d else d
  ⟨d.n + 1, d.slots.set (emptySlot d.slots d.size d.n) (some (.of key val))⟩

def dictionarySet (d : Dictionary) (key : Text) (val : Option Text) :
    Dictionary :=
  match d.slots.findIdx? (Slot.isFor key) with
  | some i => { d with slots := d.slots.set i (some (.of key val)) }
  | none => dictionaryAdd d key val

def dictionaryUnset (d : Dictionary) (key : Text) : Dictionary :=
  match d.slots.findIdx? (Slot.isFor key) with
  | some i => ⟨d.n - 1, d.slots.set i none⟩
  | none => d

/-- Every key is in one slot, and `n` counts them. -/
structure Dictionary.Sound (d : Dictionary) : Prop where
  counted : d.n = d.slots.countP Option.isSome
  nonempty : 0 < d.slots.length
  unique : ∀ (i j : Nat) (slot other : Slot), d.slots[i]? = some (some slot) →
    d.slots[j]? = some (some other) → slot.key = other.key → i = j

@[simp] theorem Slot.of_key (key : Text) (val : Option Text) :
    (Slot.of key val).key = key := rfl

@[simp] theorem Slot.of_val (key : Text) (val : Option Text) :
    (Slot.of key val).val = val := rfl

theorem Slot.eq_of {slot : Slot} : slot = Slot.of slot.key slot.val := by
  obtain ⟨key, val, hash, rfl⟩ := slot
  rfl

theorem Slot.isFor_eq {key : Text} {slot : Option Slot} :
    Slot.isFor key slot = true ↔ ∃ found, slot = some found ∧ found.key = key := by
  cases slot with
  | none => simp [Slot.isFor]
  | some slot =>
      simp only [Slot.isFor, Bool.and_eq_true, beq_iff_eq, slot.hashed,
        Option.some.injEq, exists_eq_left']
      constructor
      · exact fun both => both.2.symm
      · rintro rfl
        exact ⟨rfl, rfl⟩

section EmptySlot

variable {slots : List (Option Slot)}

theorem emptySlot_spec {fuel i : Nat} (inside : i < slots.length)
    (free : ∃ distance < fuel,
      slots[(i + distance) % slots.length]?.getD none = none) :
    emptySlot slots fuel i < slots.length ∧
      slots[emptySlot slots fuel i]?.getD none = none := by
  induction fuel generalizing i with
  | zero =>
      obtain ⟨distance, impossible, _⟩ := free
      omega
  | succ fuel induction =>
      rw [emptySlot]
      split
      next taken =>
        have next : (if i + 1 = slots.length then 0 else i + 1) =
            (i + 1) % slots.length := by
          split
          next last => rw [last, Nat.mod_self]
          next => rw [Nat.mod_eq_of_lt (by omega)]
        rw [next]
        apply induction (Nat.mod_lt _ (by omega))
        obtain ⟨distance, near, isFree⟩ := free
        cases distance with
        | zero =>
            rw [Nat.add_zero, Nat.mod_eq_of_lt inside] at isFree
            rw [isFree] at taken
            cases taken
        | succ distance =>
            refine ⟨distance, by omega, ?_⟩
            rw [Nat.mod_add_mod, Nat.add_assoc, Nat.add_comm 1]
            exact isFree
      next isFree =>
        exact ⟨inside, Option.not_isSome_iff_eq_none.mp isFree⟩

/-- With fewer entries than slots the search for an empty slot finds one. -/
theorem emptySlot_free (room : slots.countP Option.isSome < slots.length) (i : Nat)
    (inside : i < slots.length) :
    emptySlot slots slots.length i < slots.length ∧
      slots[emptySlot slots slots.length i]? = some none := by
  have free : ∃ j < slots.length, slots[j]?.getD none = none := by
    by_contra full
    simp only [not_exists, not_and] at full
    refine absurd (List.countP_eq_length.mpr fun slot member => ?_)
      (Nat.ne_of_lt room)
    obtain ⟨j, bound, rfl⟩ := List.mem_iff_getElem.mp member
    have taken := full j bound
    rw [List.getElem?_eq_getElem bound, Option.getD_some] at taken
    exact Option.isSome_iff_ne_none.mpr taken
  obtain ⟨j, bound, isFree⟩ := free
  obtain ⟨less, isNone⟩ := emptySlot_spec inside
    ⟨(j + slots.length - i) % slots.length, Nat.mod_lt _ (by omega), by
      have reach : (i + (j + slots.length - i) % slots.length) % slots.length =
          j := by
        rw [Nat.add_mod_mod, Nat.add_sub_cancel' (by omega), Nat.add_mod_right,
          Nat.mod_eq_of_lt bound]
      rwa [reach]⟩
  rw [List.getElem?_eq_getElem less, Option.getD_some] at isNone
  exact ⟨less, by rw [List.getElem?_eq_getElem less, isNone]⟩

end EmptySlot

/-- The key has this value. -/
def Dictionary.Has (d : Dictionary) (key : Text) (val : Option Text) : Prop :=
  ∃ i : Nat, d.slots[i]? = some (some (Slot.of key val))

section Lookup

variable {d : Dictionary} {key : Text}

theorem has_slot {i : Nat} {slot : Slot} (isAt : d.slots[i]? = some (some slot)) :
    d.Has slot.key slot.val :=
  ⟨i, by rw [← Slot.eq_of]; exact isAt⟩

theorem slot_of_findIdx {i : Nat}
    (found : d.slots.findIdx? (Slot.isFor key) = some i) :
    i < d.slots.length ∧
      ∃ slot, d.slots[i]? = some (some slot) ∧ slot.key = key := by
  obtain ⟨bound, isFor, _⟩ := List.findIdx?_eq_some_iff_getElem.mp found
  obtain ⟨slot, same, isKey⟩ := Slot.isFor_eq.mp isFor
  exact ⟨bound, slot, by rw [List.getElem?_eq_getElem bound, same], isKey⟩

theorem no_slot_of_findIdx
    (missing : d.slots.findIdx? (Slot.isFor key) = none) {i : Nat} {slot : Slot}
    (isAt : d.slots[i]? = some (some slot)) : slot.key ≠ key := by
  intro isKey
  have isFor := List.findIdx?_eq_none_iff.mp missing _
    (List.mem_of_getElem? isAt)
  rw [Slot.isFor_eq.mpr ⟨slot, rfl, isKey⟩] at isFor
  cases isFor

theorem Dictionary.Sound.eq_of_has (sound : d.Sound) {val other : Option Text}
    (has : d.Has key val) (hasOther : d.Has key other) : val = other := by
  obtain ⟨i, isAt⟩ := has
  obtain ⟨j, isAtOther⟩ := hasOther
  have same := sound.unique i j _ _ isAt isAtOther rfl
  rw [same, isAtOther] at isAt
  injection isAt with isAt
  injection isAt with isAt
  exact (congrArg Slot.val isAt).symm

theorem find_eq_some (sound : d.Sound) {val : Option Text} :
    dictionaryFind d key = some val ↔ d.Has key val := by
  have has_of_find : ∀ val, dictionaryFind d key = some val → d.Has key val := by
    intro val found
    obtain ⟨slot, isFound, isVal⟩ := Option.bind_eq_some_iff.mp found
    obtain ⟨isFor, i, bound, isAt, _⟩ :=
      List.find?_eq_some_iff_getElem.mp isFound
    obtain ⟨entry, rfl, rfl⟩ := Slot.isFor_eq.mp isFor
    cases isVal
    exact has_slot (List.getElem?_eq_some_iff.mpr ⟨bound, isAt⟩)
  constructor
  · exact has_of_find val
  · intro has
    cases found : dictionaryFind d key with
    | some other => rw [sound.eq_of_has has (has_of_find other found)]
    | none =>
        obtain ⟨i, isAt⟩ := has
        have isFor : Slot.isFor key (some (Slot.of key val)) = true :=
          Slot.isFor_eq.mpr ⟨_, rfl, rfl⟩
        cases isFound : d.slots.find? (Slot.isFor key) with
        | none =>
            exact absurd isFor (by simpa using
              List.find?_eq_none.mp isFound _ (List.mem_of_getElem? isAt))
        | some slot =>
            obtain ⟨entry, rfl, _⟩ := Slot.isFor_eq.mp (List.find?_some isFound)
            simp [dictionaryFind, isFound] at found

theorem find_eq_none (sound : d.Sound) :
    dictionaryFind d key = none ↔ ∀ val, ¬ d.Has key val := by
  rw [Option.eq_none_iff_forall_ne_some]
  exact forall_congr' fun val => not_congr (find_eq_some sound)

end Lookup

section Update

variable {d : Dictionary} {key : Text} {val : Option Text}

theorem has_put {slots : List (Option Slot)} {i : Nat} (n count : Nat)
    (bound : i < slots.length)
    (others : ∀ (j : Nat) (slot : Slot), j ≠ i →
      slots[j]? = some (some slot) → slot.key ≠ key)
    (before : ∀ slot, slots[i]? = some (some slot) → slot.key = key)
    (k : Text) (v : Option Text) :
    (Dictionary.mk n (slots.set i (some (Slot.of key val)))).Has k v ↔
      k = key ∧ v = val ∨ k ≠ key ∧ (Dictionary.mk count slots).Has k v := by
  unfold Dictionary.Has
  dsimp only
  constructor
  · rintro ⟨j, isAt⟩
    rw [List.getElem?_set] at isAt
    split at isAt
    next same =>
      injection isAt with isAt
      injection isAt with isAt
      exact .inl ⟨(congrArg Slot.key isAt).symm, (congrArg Slot.val isAt).symm⟩
    next different =>
      exact .inr ⟨others j _ (Ne.symm different) isAt, j, isAt⟩
  · rintro (⟨rfl, rfl⟩ | ⟨different, j, isAt⟩)
    · exact ⟨i, by rw [List.getElem?_set_self bound]⟩
    · refine ⟨j, ?_⟩
      rw [List.getElem?_set_ne ?_]
      · exact isAt
      · rintro rfl
        exact different (before _ isAt)

theorem sound_put {i : Nat} {n : Nat} (sound : d.Sound)
    (bound : i < d.slots.length)
    (others : ∀ (j : Nat) (slot : Slot), j ≠ i →
      d.slots[j]? = some (some slot) → slot.key ≠ key)
    (counted : n = (d.slots.set i (some (Slot.of key val))).countP
      Option.isSome) :
    (Dictionary.mk n (d.slots.set i (some (Slot.of key val)))).Sound where
  counted := counted
  nonempty := by
    rw [List.length_set]
    exact sound.nonempty
  unique := by
    intro j k slot other atJ atK same
    dsimp only at atJ atK
    by_cases isJ : j = i
    · by_cases isK : k = i
      · rw [isJ, isK]
      · subst isJ
        rw [List.getElem?_set_self bound] at atJ
        rw [List.getElem?_set_ne (Ne.symm isK)] at atK
        injection atJ with atJ
        injection atJ with atJ
        subst atJ
        exact absurd same.symm (others k other isK atK)
    · rw [List.getElem?_set_ne (Ne.symm isJ)] at atJ
      by_cases isK : k = i
      · subst isK
        rw [List.getElem?_set_self bound] at atK
        injection atK with atK
        injection atK with atK
        subst atK
        exact absurd same (others j slot isJ atJ)
      · rw [List.getElem?_set_ne (Ne.symm isK)] at atK
        exact sound.unique j k slot other atJ atK same

theorem getElem?_grow {i : Nat} {slot : Slot} :
    (dictionaryGrow d).slots[i]? = some (some slot) ↔
      d.slots[i]? = some (some slot) := by
  unfold dictionaryGrow
  dsimp only
  rw [List.getElem?_append]
  split
  · exact Iff.rfl
  next beyond =>
    rw [List.getElem?_replicate, List.getElem?_eq_none (by omega)]
    split <;> simp

theorem sound_grow (sound : d.Sound) : (dictionaryGrow d).Sound where
  counted := by
    simp [dictionaryGrow, sound.counted]
  nonempty := by
    have nonempty := sound.nonempty
    simp [dictionaryGrow]
    omega
  unique := by
    intro i j slot other atI atJ
    exact sound.unique i j slot other (getElem?_grow.mp atI)
      (getElem?_grow.mp atJ)

theorem add_spec (sound : d.Sound)
    (missing : d.slots.findIdx? (Slot.isFor key) = none) :
    (dictionaryAdd d key val).Sound ∧ ∀ k v,
      (dictionaryAdd d key val).Has k v ↔
        k = key ∧ v = val ∨ k ≠ key ∧ d.Has k v := by
  have grown : ∃ e : Dictionary,
      (if d.n = d.size then dictionaryGrow d else d) = e ∧ e.Sound ∧
        e.slots.countP Option.isSome < e.slots.length ∧
        ∀ (i : Nat) (slot : Slot), e.slots[i]? = some (some slot) ↔
          d.slots[i]? = some (some slot) := by
    refine ⟨_, rfl, ?_⟩
    have within := List.countP_le_length (p := Option.isSome) (l := d.slots)
    have nonempty := sound.nonempty
    split
    next full =>
      refine ⟨sound_grow sound, ?_, fun i slot => getElem?_grow⟩
      rw [← (sound_grow sound).counted]
      simp only [dictionaryGrow, Dictionary.size, List.length_append,
        List.length_replicate] at full ⊢
      omega
    next notFull =>
      refine ⟨sound, ?_, fun i slot => Iff.rfl⟩
      have counted := sound.counted
      unfold Dictionary.size at notFull
      omega
  obtain ⟨e, isGrown, soundE, room, same⟩ := grown
  obtain ⟨bound, isFree⟩ := emptySlot_free room e.n (by
    rw [soundE.counted]
    exact room)
  have others : ∀ (j : Nat) (slot : Slot),
      j ≠ emptySlot e.slots e.slots.length e.n →
      e.slots[j]? = some (some slot) → slot.key ≠ key :=
    fun j slot _ isAt => no_slot_of_findIdx missing ((same j slot).mp isAt)
  unfold dictionaryAdd
  rw [isGrown]
  dsimp only [Dictionary.size]
  constructor
  · refine sound_put soundE bound others ?_
    rw [List.getElem?_eq_getElem bound] at isFree
    injection isFree with isFree
    rw [List.countP_set bound, isFree, ← soundE.counted]
    rfl
  · intro k v
    have hasSame : d.Has k v ↔ e.Has k v :=
      exists_congr fun i => (same i _).symm
    rw [hasSame]
    exact has_put (e.n + 1) e.n bound others (by simp [isFree]) k v

/-- After `dictionary_set` the key has the value, and the others are as before. -/
theorem set_spec (sound : d.Sound) (key : Text) (val : Option Text) :
    (dictionarySet d key val).Sound ∧ ∀ k v,
      (dictionarySet d key val).Has k v ↔
        k = key ∧ v = val ∨ k ≠ key ∧ d.Has k v := by
  unfold dictionarySet
  cases found : d.slots.findIdx? (Slot.isFor key) with
  | none => exact add_spec sound found
  | some i =>
      obtain ⟨bound, slot, isAt, isKey⟩ := slot_of_findIdx found
      have others : ∀ (j : Nat) (other : Slot), j ≠ i →
          d.slots[j]? = some (some other) → other.key ≠ key := by
        intro j other different isAtOther same
        exact different (sound.unique j i other slot isAtOther isAt
          (same.trans isKey.symm))
      constructor
      · refine sound_put sound bound others ?_
        rw [List.countP_set bound, sound.counted]
        have taken : d.slots[i] = some slot := by
          rw [List.getElem?_eq_getElem bound] at isAt
          injection isAt
        have positive : 0 < d.slots.countP Option.isSome :=
          List.countP_pos_iff.mpr ⟨_, List.getElem_mem bound, by rw [taken]; rfl⟩
        rw [taken]
        simp only [Option.isSome_some, if_true]
        omega
      · refine has_put d.n d.n bound others ?_
        intro other isAtOther
        rw [isAt] at isAtOther
        injection isAtOther with same
        injection same with same
        rw [← same, isKey]

/-- After `dictionary_unset` the key is gone, and the others are as before. -/
theorem unset_spec (sound : d.Sound) (key : Text) :
    (dictionaryUnset d key).Sound ∧ ∀ k v,
      (dictionaryUnset d key).Has k v ↔ k ≠ key ∧ d.Has k v := by
  unfold dictionaryUnset
  cases found : d.slots.findIdx? (Slot.isFor key) with
  | none =>
      refine ⟨sound, fun k v => (and_iff_right_of_imp ?_).symm⟩
      rintro ⟨i, isAt⟩
      exact no_slot_of_findIdx found isAt
  | some i =>
      obtain ⟨bound, slot, isAt, isKey⟩ := slot_of_findIdx found
      have kept : ∀ (j : Nat) (other : Slot),
          (d.slots.set i none)[j]? = some (some other) ↔
            j ≠ i ∧ d.slots[j]? = some (some other) := by
        intro j other
        by_cases same : j = i
        · subst same
          rw [List.getElem?_set_self bound]
          simp
        · rw [List.getElem?_set_ne (Ne.symm same)]
          simp [same]
      refine ⟨⟨?_, ?_, ?_⟩, fun k v => ?_⟩
      · have taken : d.slots[i] = some slot := by
          rw [List.getElem?_eq_getElem bound] at isAt
          injection isAt
        rw [List.countP_set bound, taken, sound.counted]
        simp
      · rw [List.length_set]
        exact sound.nonempty
      · intro j k left right atJ atK same
        exact sound.unique j k left right ((kept j left).mp atJ).2
          ((kept k right).mp atK).2 same
      · constructor
        · rintro ⟨j, isAtJ⟩
          obtain ⟨different, isAtJ⟩ := (kept j _).mp isAtJ
          refine ⟨fun same => ?_, j, isAtJ⟩
          exact different (sound.unique j i _ slot isAtJ isAt
            (same.trans isKey.symm))
        · rintro ⟨different, j, isAtJ⟩
          refine ⟨j, (kept j _).mpr ⟨?_, isAtJ⟩⟩
          rintro rfl
          rw [isAt] at isAtJ
          injection isAtJ with same
          injection same with same
          exact different (by rw [← isKey, same]; rfl)

theorem sound_new (size : Nat) : (dictionaryNew size).Sound where
  counted := by simp [dictionaryNew, List.countP_replicate]
  nonempty := by
    simp only [dictionaryNew, List.length_replicate]
    omega
  unique := by
    intro i j slot other atI
    simp [dictionaryNew, List.getElem?_replicate] at atI

theorem not_has_new (size : Nat) (key : Text) (val : Option Text) :
    ¬ (dictionaryNew size).Has key val := by
  rintro ⟨i, isAt⟩
  simp [dictionaryNew, List.getElem?_replicate] at isAt

end Update

/-! A dictionary as the map that its lookups show. -/

section Map

variable {d e : Dictionary}

theorem find_set (sound : d.Sound) (key : Text) (val : Option Text) :
    dictionaryFind (dictionarySet d key val) =
      Function.update (dictionaryFind d) key (some val) := by
  obtain ⟨soundSet, has⟩ := set_spec sound key val
  funext k
  apply Option.ext
  intro v
  rw [find_eq_some soundSet, has]
  by_cases same : k = key
  · subst same
    rw [Function.update_self]
    simp [eq_comm]
  · rw [Function.update_of_ne same, find_eq_some sound]
    simp [same]

theorem find_unset (sound : d.Sound) (key : Text) :
    dictionaryFind (dictionaryUnset d key) =
      Function.update (dictionaryFind d) key none := by
  obtain ⟨soundUnset, has⟩ := unset_spec sound key
  funext k
  apply Option.ext
  intro v
  rw [find_eq_some soundUnset, has]
  by_cases same : k = key
  · subst same
    rw [Function.update_self]
    simp
  · rw [Function.update_of_ne same, find_eq_some sound]
    simp [same]

theorem find_new (size : Nat) :
    dictionaryFind (dictionaryNew size) = fun _ => none := by
  funext key
  exact (find_eq_none (sound_new size)).mpr (not_has_new size key)

/-- The settings one after another. -/
def dictionarySetAll (d : Dictionary) (settings : List (Text × Option Text)) :
    Dictionary :=
  settings.foldl (fun d setting => dictionarySet d setting.1 setting.2) d

theorem sound_setAll (sound : d.Sound) (settings : List (Text × Option Text)) :
    (dictionarySetAll d settings).Sound := by
  induction settings generalizing d with
  | nil => exact sound
  | cons setting settings induction =>
      exact induction (set_spec sound setting.1 setting.2).1

/-- Settings that agree with a map leave a dictionary that agrees with it. -/
theorem find_setAll_of_agree {settings : List (Text × Option Text)}
    {map : Text → Option (Option Text)} (sound : d.Sound)
    (agree : ∀ setting ∈ settings, map setting.1 = some setting.2)
    (key : Text) :
    dictionaryFind (dictionarySetAll d settings) key =
      if key ∈ settings.map Prod.fst then map key else dictionaryFind d key := by
  induction settings generalizing d with
  | nil => rfl
  | cons setting settings induction =>
      obtain ⟨first, val⟩ := setting
      have rest := induction (set_spec sound first val).1
        (fun other member => agree other (List.mem_cons_of_mem _ member))
      have here := agree (first, val) (List.mem_cons_self ..)
      refine rest.trans ?_
      rw [find_set sound, List.map_cons]
      by_cases later : key ∈ settings.map Prod.fst
      · rw [if_pos later, if_pos (List.mem_cons_of_mem _ later)]
      · rw [if_neg later]
        by_cases same : key = first
        · subst same
          rw [Function.update_self, if_pos (List.mem_cons_self ..), here]
        · rw [Function.update_of_ne same, if_neg]
          simp only [List.mem_cons, not_or]
          exact ⟨same, later⟩

end Map

end Rkipc.Ini
