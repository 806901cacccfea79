import Rkipc.Param.Store

namespace Rkipc.Param

open Ini

/-! The value strings of the dictionary in memory, as the getters point to them. -/

/-- A key with its value pointer. -/
abbrev Entry := Text × Option Nat

/-- What `g_ini_d_` points to. -/
inductive Slots
  | null
  | freed
  | live (entries : List Entry)
deriving DecidableEq

/-- A string is at its address until it is freed. -/
structure Memory where
  strings : List (Option Text)
  gIniD : Slots
deriving DecidableEq

namespace Memory

def string (memory : Memory) (address : Nat) : Option Text :=
  (memory.strings[address]?).join

def entries (memory : Memory) : List Entry :=
  match memory.gIniD with
  | .null | .freed => []
  | .live entries => entries

def slot (memory : Memory) (key : Text) : Option (Option Nat) :=
  (memory.entries.find? fun entry => entry.1 = key).map Prod.snd

def free (memory : Memory) (addresses : List Nat) : Memory :=
  { memory with
    strings := memory.strings.mapIdx fun address string =>
      if address ∈ addresses then none else string }

/-- The first half of `dictionary_set` and of `dictionary_unset`: the old value is freed. -/
def release (memory : Memory) (key : Text) : Memory :=
  memory.free (memory.slot key).join.toList

def put (entries : List Entry) (key : Text) (slot : Option (Option Nat)) : List Entry :=
  slot.toList.map (key, ·) ++ entries.filter fun entry => entry.1 ≠ key

/-- The second half, with `xstrdup` of the new value; `none` takes the key away. -/
def assign (memory : Memory) (key : Text) (val : Option (Option Text)) : Memory :=
  match memory.gIniD, val with
  | .null, _ | .freed, _ => memory
  | .live entries, none => { memory with gIniD := .live (put entries key none) }
  | .live entries, some none =>
      { memory with gIniD := .live (put entries key (some none)) }
  | .live entries, some (some text) =>
      { strings := memory.strings ++ [some text]
        gIniD := .live (put entries key (some (some memory.strings.length))) }

def freedict (memory : Memory) : Memory :=
  match memory.gIniD with
  | .null => memory
  | .freed | .live _ =>
      { memory.free (memory.entries.filterMap Prod.snd) with gIniD := .freed }

def loadedEntries (base : Nat) (slots : List Slot) : List Entry :=
  slots.zipIdx.map fun (slot, i) => (slot.key, slot.val.map fun _ => base + i)

def load (memory : Memory) (loaded : Option Dictionary) : Memory :=
  match loaded with
  | none => { memory with gIniD := .null }
  | some d =>
      { strings := memory.strings ++ d.entries.map Slot.val
        gIniD := .live (loadedEntries memory.strings.length d.entries) }

/-- Every value pointer leads to a string of its own. -/
structure Sane (memory : Memory) : Prop where
  valued : ∀ key address, (key, some address) ∈ memory.entries →
    memory.string address ≠ none
  distinct : ∀ key other address, (key, some address) ∈ memory.entries →
    (other, some address) ∈ memory.entries → key = other
  unfreed : memory.gIniD ≠ .freed

variable {memory : Memory} {key : Text} {address : Nat}

theorem mem_of_slot {val : Option Nat} (found : memory.slot key = some val) :
    (key, val) ∈ memory.entries := by
  obtain ⟨entry, isEntry, rfl⟩ := Option.map_eq_some_iff.mp found
  have same : entry.1 = key := by simpa using List.find?_some isEntry
  obtain rfl := same
  exact List.mem_of_find?_eq_some isEntry

theorem mem_put {entries : List Entry} {slot : Option (Option Nat)} {other : Text}
    {val : Option Nat} :
    (other, val) ∈ put entries key slot ↔
      other = key ∧ slot = some val ∨ other ≠ key ∧ (other, val) ∈ entries := by
  unfold put
  cases slot with
  | none => simp [and_comm]
  | some new =>
      have same : other = key ∧ some new = some val ↔ other = key ∧ val = new := by
        rw [Option.some.injEq, eq_comm (a := new)]
      rw [same]
      simp [and_comm]

theorem string_free {addresses : List Nat} (kept : address ∉ addresses) :
    (memory.free addresses).string address = memory.string address := by
  unfold string free
  rw [List.getElem?_mapIdx]
  cases memory.strings[address]? with
  | none => rfl
  | some string => simp [kept]

theorem string_append {strings : List (Option Text)} {text : Text} {slots : Slots}
    (isString : memory.string address = some text) :
    (Memory.mk (memory.strings ++ strings) slots).string address = some text := by
  unfold string at isString ⊢
  have found := Option.join_eq_some_iff.mp isString
  obtain ⟨bound, _⟩ := List.getElem?_eq_some_iff.mp found
  rw [List.getElem?_append_left bound, isString]

variable {text : Text}

theorem string_release (isString : memory.string address = some text)
    (kept : memory.slot key ≠ some (some address)) :
    (memory.release key).string address = some text := by
  unfold release
  rw [string_free, isString]
  rw [Option.mem_toList, Option.join_eq_some_iff]
  exact kept

theorem string_assign (isString : memory.string address = some text)
    (val : Option (Option Text)) :
    (memory.assign key val).string address = some text := by
  unfold assign
  split
  · exact isString
  · exact isString
  · exact isString
  · exact isString
  · exact string_append isString

theorem string_freedict (isString : memory.string address = some text)
    (kept : ∀ key, (key, some address) ∉ memory.entries) :
    memory.freedict.string address = some text := by
  have outside : address ∉ memory.entries.filterMap Prod.snd := by
    intro member
    obtain ⟨⟨key, _⟩, isEntry, rfl⟩ := List.mem_filterMap.mp member
    exact kept key isEntry
  unfold freedict
  split
  · exact isString
  all_goals exact (string_free outside).trans isString

theorem lt_of_string (isString : memory.string address ≠ none) :
    address < memory.strings.length := by
  by_contra outside
  apply isString
  unfold string
  rw [List.getElem?_eq_none (Nat.le_of_not_lt outside)]
  rfl

theorem mem_assign {val : Option (Option Text)} {other : Text}
    (isEntry : (other, some address) ∈ (memory.assign key val).entries) :
    (other = key ∧ address = memory.strings.length ∧
        (memory.assign key val).string address ≠ none) ∨
      other ≠ key ∧ (other, some address) ∈ memory.entries := by
  obtain ⟨strings, gIniD⟩ := memory
  cases gIniD with
  | null => cases isEntry
  | freed => cases isEntry
  | live entries =>
      cases val with
      | none =>
          obtain ⟨_, isNew⟩ | old := mem_put.mp isEntry
          · cases isNew
          · exact .inr old
      | some val =>
          cases val with
          | none =>
              obtain ⟨_, isNew⟩ | old := mem_put.mp isEntry
              · cases isNew
              · exact .inr old
          | some text =>
              obtain ⟨same, isNew⟩ | old := mem_put.mp isEntry
              · cases isNew
                refine .inl ⟨same, rfl, ?_⟩
                simp [string, assign]
              · exact .inr old

theorem assign_freed {val : Option (Option Text)}
    (freed : (memory.assign key val).gIniD = .freed) : memory.gIniD = .freed := by
  unfold assign at freed
  split at freed
  next isNull => exact freed
  next isFreed => exact isFreed
  all_goals cases freed

theorem freedict_entries : memory.freedict.entries = [] := by
  unfold freedict
  split
  next isNull => simp [entries, isNull]
  all_goals rfl

theorem string_load (isString : memory.string address = some text)
    (loaded : Option Dictionary) : (memory.load loaded).string address = some text := by
  cases loaded with
  | none => exact isString
  | some d => exact string_append isString

theorem mem_loadedEntries {base : Nat} {slots : List Slot} {val : Option Nat} :
    (key, val) ∈ loadedEntries base slots ↔
      ∃ (i : Nat) (slot : Slot), slots[i]? = some slot ∧ slot.key = key ∧
        slot.val.map (fun _ => base + i) = val := by
  unfold loadedEntries
  simp only [List.mem_map, Prod.exists, List.mem_zipIdx_iff_getElem?, Prod.mk.injEq]
  exact exists_comm

theorem string_loaded {d : Dictionary} {i : Nat} {slot : Slot}
    (isSlot : d.entries[i]? = some slot) :
    (memory.load (some d)).string (memory.strings.length + i) = slot.val := by
  show ((memory.strings ++ d.entries.map Slot.val)[memory.strings.length + i]?).join = _
  rw [List.getElem?_append_right (Nat.le_add_right ..), Nat.add_sub_cancel_left,
    List.getElem?_map, isSlot]
  rfl

theorem sane_load (loaded : Option Dictionary) : (memory.load loaded).Sane := by
  cases loaded with
  | none => exact ⟨nofun, nofun, nofun⟩
  | some d =>
      refine ⟨?_, ?_, nofun⟩
      · intro key address isEntry
        obtain ⟨i, slot, isSlot, rfl, isVal⟩ := mem_loadedEntries.mp isEntry
        obtain ⟨text, isText, rfl⟩ := Option.map_eq_some_iff.mp isVal
        rw [string_loaded isSlot, isText]
        nofun
      · intro key other address isEntry isOther
        obtain ⟨i, slot, isSlot, rfl, isVal⟩ := mem_loadedEntries.mp isEntry
        obtain ⟨j, otherSlot, isOtherSlot, rfl, isOtherVal⟩ := mem_loadedEntries.mp isOther
        obtain ⟨_, _, rfl⟩ := Option.map_eq_some_iff.mp isVal
        obtain ⟨_, _, same⟩ := Option.map_eq_some_iff.mp isOtherVal
        obtain rfl := Nat.add_left_cancel same
        rw [isSlot] at isOtherSlot
        cases isOtherSlot
        rfl

/-- The memory holds this dictionary. -/
def Shows (memory : Memory) (d : Dictionary) : Prop :=
  memory.gIniD ≠ .null ∧ memory.gIniD ≠ .freed ∧
    ∀ key val, d.Has key val ↔
      ∃ pointer : Option Nat, (key, pointer) ∈ memory.entries ∧
        pointer.bind memory.string = val

theorem string_other {val : Option (Option Text)} {other : Text} {pointer : Option Nat}
    (sane : memory.Sane) (isEntry : (other, pointer) ∈ memory.entries)
    (isOther : other ≠ key) :
    pointer.bind ((memory.release key).assign key val).string =
      pointer.bind memory.string := by
  cases pointer with
  | none => rfl
  | some address =>
      obtain ⟨text, isString⟩ :=
        Option.ne_none_iff_exists'.mp (sane.valued other address isEntry)
      rw [Option.bind_some, Option.bind_some, isString]
      refine string_assign (string_release isString fun same => isOther ?_) val
      exact sane.distinct other key address isEntry (mem_of_slot same)

theorem shows_other {val : Option (Option Text)} {other : Text} {text : Option Text}
    (sane : memory.Sane) (isOther : other ≠ key) :
    (∃ pointer : Option Nat, (other, pointer) ∈ memory.entries ∧
        pointer.bind ((memory.release key).assign key val).string = text) ↔
      ∃ pointer : Option Nat, (other, pointer) ∈ memory.entries ∧
        pointer.bind memory.string = text := by
  refine exists_congr fun pointer => and_congr_right fun isEntry => ?_
  rw [string_other sane isEntry isOther]

theorem assign_live {slots : List Entry} (isLive : memory.gIniD = .live slots)
    (val : Option Text) :
    ∃ pointer : Option Nat,
      (memory.assign key (some val)).gIniD = .live (put slots key (some pointer)) ∧
        pointer.bind (memory.assign key (some val)).string = val := by
  obtain ⟨strings, gIniD⟩ := memory
  cases isLive
  cases val with
  | none => exact ⟨none, rfl, rfl⟩
  | some text =>
      refine ⟨some strings.length, rfl, ?_⟩
      simp [string, assign]

theorem Shows.live {d : Dictionary} (shows : memory.Shows d) :
    memory.gIniD = .live memory.entries := by
  obtain ⟨notNull, notFreed, _⟩ := shows
  unfold entries
  cases isSlots : memory.gIniD with
  | null => exact absurd isSlots notNull
  | freed => exact absurd isSlots notFreed
  | live entries => rfl

/-- The two halves together are `dictionary_set`. -/
theorem shows_set {d : Dictionary} (sound : d.Sound) (sane : memory.Sane)
    (shows : memory.Shows d) (val : Option Text) :
    ((memory.release key).assign key (some val)).Shows (dictionarySet d key val) := by
  have isLive : (memory.release key).gIniD = .live memory.entries := shows.live
  obtain ⟨pointer, isAfter, isVal⟩ := assign_live isLive val
  refine ⟨by rw [isAfter]; nofun, by rw [isAfter]; nofun, fun other text => ?_⟩
  rw [(set_spec sound key val).2 other text, entries, isAfter]
  simp only [mem_put]
  by_cases isOther : other = key
  · obtain rfl := isOther
    simp [isVal, eq_comm]
  · simp only [isOther, false_and, ne_eq, not_false_eq_true, true_and, false_or]
    rw [shows.2.2 other text]
    exact (shows_other sane isOther).symm

/-- Without a value they are `dictionary_unset`. -/
theorem shows_unset {d : Dictionary} (sound : d.Sound) (sane : memory.Sane)
    (shows : memory.Shows d) :
    ((memory.release key).assign key none).Shows (dictionaryUnset d key) := by
  have isLive : (memory.release key).gIniD = .live memory.entries := shows.live
  have isAfter : ((memory.release key).assign key none).gIniD =
      .live (put memory.entries key none) := by
    unfold assign
    rw [isLive]
  refine ⟨by rw [isAfter]; nofun, by rw [isAfter]; nofun, fun other text => ?_⟩
  rw [(unset_spec sound key).2 other text, entries, isAfter]
  simp only [mem_put]
  by_cases isOther : other = key
  · simp [isOther]
  · simp only [isOther, false_and, ne_eq, not_false_eq_true, true_and, false_or]
    rw [shows.2.2 other text]
    exact (shows_other sane isOther).symm

theorem shows_load (d : Dictionary) : (memory.load (some d)).Shows d := by
  refine ⟨nofun, nofun, fun key val => ?_⟩
  have has : d.Has key val ↔ Slot.of key val ∈ d.entries := by
    unfold Dictionary.Has Dictionary.entries
    rw [← List.mem_iff_getElem?]
    simp
  have value : ∀ (i : Nat) (slot : Slot), d.entries[i]? = some slot →
      ((slot.val.map fun _ => memory.strings.length + i).bind
        (memory.load (some d)).string) = slot.val := by
    intro i slot isSlot
    cases isVal : slot.val with
    | none => rfl
    | some text => exact (string_loaded isSlot).trans isVal
  rw [has]
  show _ ↔ ∃ pointer, (key, pointer) ∈ loadedEntries memory.strings.length d.entries ∧ _
  constructor
  · intro member
    obtain ⟨i, isSlot⟩ := List.mem_iff_getElem?.mp member
    exact ⟨_, mem_loadedEntries.mpr ⟨i, _, isSlot, rfl, rfl⟩, value i _ isSlot⟩
  · rintro ⟨pointer, isEntry, isVal⟩
    obtain ⟨i, slot, isSlot, rfl, rfl⟩ := mem_loadedEntries.mp isEntry
    rw [value i slot isSlot] at isVal
    obtain rfl := isVal
    have isOf : Slot.of slot.key slot.val = slot := by
      obtain ⟨key, val, hash, rfl⟩ := slot
      rfl
    rw [isOf]
    exact List.mem_of_getElem? isSlot

end Memory

end Rkipc.Param
