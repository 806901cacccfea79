import Mathlib.Data.List.Perm.Subperm
import Rkipc.Param.Users

namespace Rkipc.Param.Capabilities

open Ini

/-! The capabilities: the values of a section of the configuration, one behind the other. -/

inductive Capability
  | video
  | imageAdjustment
  | imageBlc
  | imageEnhancement
  | imageExposure
  | imageNightToDay
  | imageVideoAdjustment
  | imageWhiteBlance
deriving DecidableEq

namespace Capability

def name : Capability → Text
  | video => "capability.video".toList
  | imageAdjustment => "capability.image_adjustment".toList
  | imageBlc => "capability.image_blc".toList
  | imageEnhancement => "capability.image_enhancement".toList
  | imageExposure => "capability.image_exposure".toList
  | imageNightToDay => "capability.image_night_to_day".toList
  | imageVideoAdjustment => "capability.image_video_adjustment".toList
  | imageWhiteBlance => "capability.image_white_blance".toList

/-- `snprintf(entry, 127, "capability...:%d", i)` -/
def entry (capability : Capability) (i : Nat) : Text :=
  (capability.name ++ ':' :: decimal i).take 126

end Capability

section Get

variable (capability : Capability) (store : Store)

/-- The bytes of `value` in the handler. -/
def room : Nat := 4096

/-- The loop: `value` holds the values of the indices before `i`. -/
def appendKeys : Nat → Nat → Text → Except Fault Text
  | 0, _, value => .ok value
  | left + 1, i, value => do
      match ← rkParamGetString (capability.entry i) none store with
      | none => throw .null
      | some tmp =>
          if value.length + (tmp.length + 1) ≤ room then appendKeys left (i + 1) (value ++ tmp)
          else throw .overflow

/-- What all of the functions do, with what is in `value` before. -/
def capabilityGet (value : Text) : Except Fault (Text × Int) := do
  match ← store.dict with
  | none => return (value, 0)
  | some d =>
      let sectionKeys := iniparserGetsecnkeys d capability.name
      if sectionKeys = 0 then return (value, 0)
      return (← appendKeys capability store sectionKeys 0 [], 0)

def rkSystemCapabilityGetVideo := capabilityGet .video
def rkSystemCapabilityGetImageAdjustment := capabilityGet .imageAdjustment
def rkSystemCapabilityGetImageBlc := capabilityGet .imageBlc
def rkSystemCapabilityGetImageEnhancement := capabilityGet .imageEnhancement
def rkSystemCapabilityGetImageExposure := capabilityGet .imageExposure
def rkSystemCapabilityGetImageNightToDay := capabilityGet .imageNightToDay
def rkSystemCapabilityGetImageVideoAdjustment := capabilityGet .imageVideoAdjustment
def rkSystemCapabilityGetImageWhiteBlance := capabilityGet .imageWhiteBlance

structure Reply where
  len : Nat
  value : Text
  err : Int
deriving DecidableEq

def rkSystemCapabilityGet : Capability → Store → Text → Except Fault (Text × Int)
  | .video => rkSystemCapabilityGetVideo
  | .imageAdjustment => rkSystemCapabilityGetImageAdjustment
  | .imageBlc => rkSystemCapabilityGetImageBlc
  | .imageEnhancement => rkSystemCapabilityGetImageEnhancement
  | .imageExposure => rkSystemCapabilityGetImageExposure
  | .imageNightToDay => rkSystemCapabilityGetImageNightToDay
  | .imageVideoAdjustment => rkSystemCapabilityGetImageVideoAdjustment
  | .imageWhiteBlance => rkSystemCapabilityGetImageWhiteBlance

/-- `ser_rk_system_capability_get_...`, where `value` is empty at first. -/
def serRkSystemCapabilityGet : Except Fault Reply := do
  let (value, err) ← rkSystemCapabilityGet capability store []
  return ⟨value.length, value, err⟩

end Get

section Reply

variable (capability : Capability) (d : Option Dictionary)

/-- The entries of the section; a section without an entry of its own is none. -/
def sectionSlots : Option Dictionary → List Slot
  | none => []
  | some d =>
      if iniparserFindEntry d capability.name then d.inSection capability.name else []

/-- Where both keys are indices, the first one is less. -/
def indexLess (slot later : Slot) : Prop :=
  ∀ i j : Nat, slot.key = capability.name ++ ':' :: decimal i →
    later.key = capability.name ++ ':' :: decimal j → i < j

/-- The values of all entries of the section, in the order of their indices. -/
structure Reply.IsAll (reply : Reply) : Prop where
  value : ∃ slots : List Slot, slots.Perm (sectionSlots capability d) ∧
    slots.Pairwise (indexLess capability) ∧ (∀ slot ∈ slots, slot.val ≠ none) ∧
    reply.value = slots.flatMap fun slot => slot.val.getD []
  len : reply.len = reply.value.length

def Replies (outcome : Except Fault Reply) : Prop :=
  ∃ reply, outcome = .ok reply ∧ (reply.err ≠ 0 ∨ reply.IsAll capability d)

/-- The entries of the section are those of the first indices, each with a value, and there is
room for the values. -/
def Indexed : Prop :=
  ∃ values : List Text, values.length = (sectionSlots capability d).length ∧
    (∀ i text, values[i]? = some text →
      iniparserGetstring d (capability.entry i) none = some text) ∧
    values.flatten.length < room

end Reply

section Loop

variable {capability : Capability} {store : Store} {d : Option Dictionary}

theorem getString_eq (live : store.dict = .ok d) (entry : Text) :
    rkParamGetString entry none store = .ok (iniparserGetstring d entry none) := by
  unfold rkParamGetString
  rw [live]
  rfl

/-- The values are those of the indices from `i` on. -/
def Reads (capability : Capability) (d : Option Dictionary) (i : Nat) (values : List Text) :
    Prop :=
  ∀ j text, values[j]? = some text →
    iniparserGetstring d (capability.entry (i + j)) none = some text

theorem reads_cons {i : Nat} {text : Text} {values : List Text} :
    Reads capability d i (text :: values) ↔
      iniparserGetstring d (capability.entry i) none = some text ∧
        Reads capability d (i + 1) values := by
  constructor
  · refine fun reads => ⟨reads 0 text rfl, fun j other isOther => ?_⟩
    rw [Nat.succ_add_eq_add_succ]
    exact reads (j + 1) other isOther
  · rintro ⟨first, reads⟩ j other isOther
    cases j with
    | zero =>
        cases isOther
        exact first
    | succ j =>
        rw [← Nat.succ_add_eq_add_succ]
        exact reads j other isOther

/-- The loop goes through exactly if it finds a value for each index and there is room. -/
theorem appendKeys_eq_ok_iff (live : store.dict = .ok d) {left i : Nat} {value result : Text} :
    appendKeys capability store left i value = .ok result ↔
      ∃ values : List Text, values.length = left ∧ Reads capability d i values ∧
        value ++ values.flatten = result ∧ (left ≠ 0 → result.length < room) := by
  induction left generalizing i value with
  | zero =>
      rw [appendKeys]
      constructor
      · intro same
        cases same
        exact ⟨[], rfl, nofun, List.append_nil _, absurd rfl⟩
      · rintro ⟨values, isNil, -, isResult, -⟩
        rw [List.eq_nil_of_length_eq_zero isNil, List.flatten_nil, List.append_nil] at isResult
        rw [isResult]
  | succ left induction =>
      rw [appendKeys, getString_eq live]
      dsimp only [bind, Except.bind]
      -- the first value of a list is the one that is found
      have atFirst {values : List Text} (isCount : values.length = left + 1)
          (reads : Reads capability d i values) : ∃ tmp rest, values = tmp :: rest ∧
            rest.length = left ∧ Reads capability d (i + 1) rest ∧
            iniparserGetstring d (capability.entry i) none = some tmp := by
        obtain ⟨tmp, rest, rfl⟩ := List.exists_cons_of_length_eq_add_one isCount
        obtain ⟨isTmp, reads⟩ := reads_cons.mp reads
        exact ⟨tmp, rest, rfl, Nat.succ.inj isCount, reads, isTmp⟩
      cases isTmp : iniparserGetstring d (capability.entry i) none with
      | none =>
          refine iff_of_false nofun ?_
          rintro ⟨values, isCount, reads, -⟩
          obtain ⟨tmp, _, _, _, _, found⟩ := atFirst isCount reads
          rw [isTmp] at found
          cases found
      | some tmp =>
          dsimp only
          by_cases fits : value.length + (tmp.length + 1) ≤ room
          · rw [if_pos fits, induction]
            constructor
            · rintro ⟨values, isCount, reads, isResult, short⟩
              refine ⟨tmp :: values, congrArg Nat.succ isCount, reads_cons.mpr ⟨isTmp, reads⟩,
                by rw [List.flatten_cons, ← List.append_assoc, isResult], fun _ => ?_⟩
              by_cases isLast : left = 0
              · rw [isLast] at isCount
                rw [← isResult, List.eq_nil_of_length_eq_zero isCount, List.flatten_nil,
                  List.append_nil, List.length_append]
                omega
              · exact short isLast
            · rintro ⟨values, isCount, reads, isResult, short⟩
              obtain ⟨other, rest, rfl, isRest, later, found⟩ := atFirst isCount reads
              obtain rfl := Option.some.inj (isTmp.symm.trans found)
              refine ⟨rest, isRest, later, ?_, fun _ => short (Nat.succ_ne_zero left)⟩
              rw [← isResult, List.flatten_cons, List.append_assoc]
          · rw [if_neg fits]
            refine iff_of_false nofun ?_
            rintro ⟨values, isCount, reads, isResult, short⟩
            obtain ⟨other, rest, rfl, -, -, found⟩ := atFirst isCount reads
            obtain rfl := Option.some.inj (isTmp.symm.trans found)
            have below := short (Nat.succ_ne_zero left)
            rw [← isResult, List.length_append, List.flatten_cons, List.length_append] at below
            omega

end Loop

section Entries

variable {capability : Capability} {d : Dictionary}

theorem strlwc_name (capability : Capability) : strlwc capability.name 1025 = capability.name := by
  cases capability <;> decide

theorem entry_eq (capability : Capability) {i : Nat} (small : i < 2 ^ 31) :
    capability.entry i = capability.name ++ ':' :: decimal i ∧
      strlwc (capability.entry i) 1025 = capability.name ++ ':' :: decimal i := by
  have name : capability.name.length ≤ 35 := by cases capability <;> decide
  have digits : (decimal (i : Int)).length ≤ 11 := length_decimal (by omega) (by omega)
  have isEntry : capability.entry i = capability.name ++ ':' :: decimal i := by
    apply List.take_of_length_le
    rw [List.length_append, List.length_cons]
    omega
  have lower : capability.name.map Char.toLower = capability.name := by
    cases capability <;> decide
  refine ⟨isEntry, ?_⟩
  rw [isEntry]
  apply strlwc_eq_self
  · rw [List.map_append, List.map_cons, toLower_decimal, lower]
    rfl
  · rw [List.length_append, List.length_cons]
    omega

theorem sectionKeys_eq (capability : Capability) (d : Dictionary) :
    iniparserGetsecnkeys d capability.name = (sectionSlots capability (some d)).length := by
  unfold iniparserGetsecnkeys sectionSlots
  rw [strlwc_name]
  dsimp only
  split
  next => rfl
  next => rfl

def slotAt (capability : Capability) (i : Nat) (text : Text) : Slot :=
  Slot.of (capability.name ++ ':' :: decimal i) (some text)

def slotsFrom (capability : Capability) : Nat → List Text → List Slot
  | _, [] => []
  | i, text :: rest => slotAt capability i text :: slotsFrom capability (i + 1) rest

theorem mem_slotsFrom {i : Nat} {values : List Text} {slot : Slot}
    (isIn : slot ∈ slotsFrom capability i values) :
    ∃ j text, values[j]? = some text ∧ slot = slotAt capability (i + j) text := by
  induction values generalizing i with
  | nil => cases isIn
  | cons text rest induction =>
      obtain isFirst | later := List.mem_cons.mp isIn
      · exact ⟨0, text, rfl, isFirst⟩
      · obtain ⟨j, other, isOther, isSlot⟩ := induction later
        refine ⟨j + 1, other, isOther, ?_⟩
        rw [isSlot, Nat.succ_add_eq_add_succ]

theorem length_slotsFrom {i : Nat} {values : List Text} :
    (slotsFrom capability i values).length = values.length := by
  induction values generalizing i with
  | nil => rfl
  | cons text rest induction => exact congrArg Nat.succ induction

theorem flatMap_slotsFrom {i : Nat} {values : List Text} :
    ((slotsFrom capability i values).flatMap fun slot => slot.val.getD []) = values.flatten := by
  induction values generalizing i with
  | nil => rfl
  | cons text rest induction =>
      rw [slotsFrom, List.flatMap_cons, induction]
      rfl

theorem index_of_slotAt {i j : Nat} {text : Text}
    (isKey : (slotAt capability i text).key = capability.name ++ ':' :: decimal j) : i = j := by
  have same := (List.cons.inj (List.append_cancel_left isKey)).2
  exact Int.ofNat.inj (decimal_injective same)

theorem pairwise_slotsFrom {i : Nat} {values : List Text} :
    (slotsFrom capability i values).Pairwise (indexLess capability) := by
  induction values generalizing i with
  | nil => exact .nil
  | cons text rest induction =>
      refine .cons (fun later isLater first second isFirst isSecond => ?_) induction
      obtain ⟨j, other, _, rfl⟩ := mem_slotsFrom isLater
      have := index_of_slotAt isFirst
      have := index_of_slotAt isSecond
      omega

theorem nodup_slotsFrom {i : Nat} {values : List Text} :
    (slotsFrom capability i values).Nodup := by
  refine List.Pairwise.imp_of_mem (fun {slot later} isIn _ less same => ?_) pairwise_slotsFrom
  obtain ⟨j, text, _, rfl⟩ := mem_slotsFrom isIn
  exact Nat.lt_irrefl _ (less (i + j) (i + j) rfl (same ▸ rfl))

theorem slotAt_mem (sound : d.Sound) (known : iniparserFindEntry d capability.name = true)
    {i : Nat} (small : i < 2 ^ 31) {text : Text}
    (found : iniparserGetstring (some d) (capability.entry i) none = some text) :
    slotAt capability i text ∈ sectionSlots capability (some d) := by
  have isKey := (entry_eq capability small).2
  change (dictionaryFind d (strlwc (capability.entry i) 1025)).getD none = some text at found
  rw [isKey] at found
  have isFound : dictionaryFind d (capability.name ++ ':' :: decimal i) = some (some text) := by
    cases isVal : dictionaryFind d (capability.name ++ ':' :: decimal i) with
    | none =>
        rw [isVal] at found
        cases found
    | some val =>
        rw [isVal] at found
        exact congrArg some found
  unfold sectionSlots
  dsimp only
  rw [if_pos known, mem_inSection]
  exact ⟨mem_entries.mpr ((find_eq_some sound).mp isFound), decimal i, rfl⟩

theorem isAll_of_reads (sound : d.Sound)
    (small : (sectionSlots capability (some d)).length ≤ 2 ^ 31) {values : List Text}
    (isCount : values.length = (sectionSlots capability (some d)).length)
    (reads : Reads capability (some d) 0 values) :
    Reply.IsAll capability (some d) ⟨values.flatten.length, values.flatten, 0⟩ := by
  have subset : slotsFrom capability 0 values ⊆ sectionSlots capability (some d) := by
    intro slot isIn
    obtain ⟨j, text, isText, rfl⟩ := mem_slotsFrom isIn
    obtain ⟨below, _⟩ := List.getElem?_eq_some_iff.mp isText
    have known : iniparserFindEntry d capability.name = true := by
      by_contra unknown
      rw [isCount, sectionSlots, if_neg unknown] at below
      cases below
    exact slotAt_mem sound known (by omega) (reads j text isText)
  refine ⟨⟨slotsFrom capability 0 values, ?_, pairwise_slotsFrom, fun slot isIn => ?_,
    flatMap_slotsFrom.symm⟩, rfl⟩
  · refine (List.subperm_of_subset nodup_slotsFrom subset).perm_of_length_le ?_
    rw [length_slotsFrom, isCount]
  · obtain ⟨j, text, _, rfl⟩ := mem_slotsFrom isIn
    exact nofun

end Entries

section Replies

variable {store : Store} {d : Option Dictionary}

theorem replies_nothing (capability : Capability) (nothing : sectionSlots capability d = []) :
    Replies capability d (.ok ⟨0, [], 0⟩) ↔ Indexed capability d := by
  have isAll : Reply.IsAll capability d ⟨0, [], 0⟩ := by
    refine ⟨⟨[], ?_, .nil, fun _ isIn => absurd isIn List.not_mem_nil, rfl⟩, rfl⟩
    rw [nothing]
  refine iff_of_true ⟨⟨0, [], 0⟩, rfl, .inr isAll⟩ ⟨[], ?_, fun i text => ?_, Nat.succ_pos _⟩
  · rw [nothing]
    rfl
  · rw [List.getElem?_nil]
    exact nofun

/-- The reply has the values of all entries exactly if these are numbered from 0 on without a
gap and there is room for them. -/
theorem replies_iff (capability : Capability) (live : store.dict = .ok d)
    (sound : ∀ e, d = some e → e.Sound)
    (small : (sectionSlots capability d).length ≤ 2 ^ 31) :
    Replies capability d (serRkSystemCapabilityGet capability store) ↔ Indexed capability d := by
  have isGet : rkSystemCapabilityGet capability = capabilityGet capability := by
    cases capability <;> rfl
  unfold serRkSystemCapabilityGet
  rw [isGet, capabilityGet, live]
  cases d with
  | none => exact replies_nothing capability rfl
  | some d =>
      dsimp only [bind, Except.bind]
      rw [sectionKeys_eq]
      by_cases isNone : (sectionSlots capability (some d)).length = 0
      · rw [if_pos isNone]
        exact replies_nothing capability (List.eq_nil_of_length_eq_zero isNone)
      · rw [if_neg isNone]
        constructor
        · rintro ⟨reply, isReply, -⟩
          cases isResult : appendKeys capability store
              (sectionSlots capability (some d)).length 0 [] with
          | error fault =>
              rw [isResult] at isReply
              cases isReply
          | ok result =>
              obtain ⟨values, isCount, reads, rfl, short⟩ :=
                (appendKeys_eq_ok_iff live).mp isResult
              refine ⟨values, isCount, fun i text isText => ?_, short isNone⟩
              rw [← Nat.zero_add i]
              exact reads i text isText
        · rintro ⟨values, isCount, found, short⟩
          have reads : Reads capability (some d) 0 values := by
            intro i text isText
            rw [Nat.zero_add]
            exact found i text isText
          have isResult : appendKeys capability store
              (sectionSlots capability (some d)).length 0 [] = .ok values.flatten :=
            (appendKeys_eq_ok_iff live).mpr ⟨values, isCount, reads, rfl, fun _ => short⟩
          rw [isResult]
          exact ⟨_, rfl, .inr (isAll_of_reads (sound d rfl) small isCount reads)⟩

end Replies

section Examples

/-- A section with two entries, of which the second has this key. -/
def twoEntries (second : String) : Dictionary :=
  iniparserSet (iniparserSet (iniparserSet (dictionaryNew 0) "capability.video".toList none)
    "capability.video:0".toList (some "[".toList)) second.toList (some "]".toList)

def configured (second : String) : Store := ⟨[some (twoEntries second)], some 0, none, none⟩

theorem sound_twoEntries (second : String) : (twoEntries second).Sound := by
  have sound_set {d : Dictionary} (sound : d.Sound) (entry : Text) (val : Option Text) :
      (iniparserSet d entry val).Sound := (set_spec sound _ _).1
  unfold twoEntries
  exact sound_set (sound_set (sound_set (sound_new 0) _ _) _ _) _ _

theorem replies_iff_numbered :
    Replies .video (some (twoEntries "capability.video:1"))
      (serRkSystemCapabilityGet .video (configured "capability.video:1")) := by
  have count : (sectionSlots .video (some (twoEntries "capability.video:1"))).length = 2 := by
    decide +kernel
  refine (replies_iff .video rfl (fun _ same => Option.some.inj same ▸ sound_twoEntries _)
    (by rw [count]; decide)).mpr ⟨["[".toList, "]".toList], count.symm, ?_, by decide⟩
  intro i text isText
  match i, isText with
  | 0, rfl => decide +kernel
  | 1, rfl => decide +kernel

/-- With a gap the string of a missing index is copied. -/
theorem gap_dies :
    ¬ Replies .video (some (twoEntries "capability.video:2"))
      (serRkSystemCapabilityGet .video (configured "capability.video:2")) := by
  have dies : serRkSystemCapabilityGet .video (configured "capability.video:2") =
      .error .null := by decide +kernel
  rintro ⟨reply, isReply, _⟩
  rw [dies] at isReply
  cases isReply

end Examples

end Rkipc.Param.Capabilities
