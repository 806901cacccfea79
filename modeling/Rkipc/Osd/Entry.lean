import Mathlib.Algebra.GroupWithZero.Nat
import Mathlib.Data.Fintype.Basic
import Rkipc.Ini.Dictionary

namespace Rkipc.Osd

open Ini

/-! The entries of the configuration that say which regions there are. -/

/-- An index below `MAX_OSD_NUM`. -/
abbrev OsdId := Fin 8

scoped instance osdNumNeZero : NeZero 8 := ⟨by decide⟩

/-- The parameters `osd.N:type`, `osd.N:enabled` and `osd.N:style`. -/
structure Entry where
  osdType : Option Text
  enabled : Int
  style : Text
deriving DecidableEq

/-- The three pairs of callbacks that create and destroy regions. -/
inductive Kind
  | cover
  | mosaic
  | bmp
deriving DecidableEq

inductive InitAction
  | skip
  | create (kind : Kind)
  | startClock
deriving DecidableEq

namespace Entry

/-- The callbacks of a privacy mask. -/
def styleKind (entry : Entry) : Option Kind :=
  if entry.style = "cover".toList then some .cover
  else if entry.style = "mosaic".toList then some .mosaic
  else none

def init (entry : Entry) : InitAction :=
  match entry.osdType with
  | none => .skip
  | some osdType =>
      if entry.enabled = 0 then .skip
      else if osdType = "image".toList then .create .bmp
      else if osdType = "privacyMask".toList then
        match entry.styleKind with
        | none => .skip
        | some kind => .create kind
      else if osdType = "channelName".toList ∨ osdType = "character".toList then
        .create .bmp
      else if osdType = "dateTime".toList then .startClock
      else .skip

/-- The destroy callback that `rk_osd_deinit` calls for an entry. -/
def deinit (entry : Entry) : Option Kind :=
  match entry.osdType with
  | none => none
  | some osdType =>
      if osdType = "channelName".toList then some .bmp
      else if osdType = "dateTime".toList then some .bmp
      else if osdType = "character".toList then some .bmp
      else if osdType = "privacyMask".toList then entry.styleKind
      else if osdType = "image".toList then some .bmp
      else none

/-- The destroy callback that `rk_osd_privacy_mask_restart` calls for an entry. -/
def maskDestroy (entry : Entry) : Option Kind :=
  match entry.osdType with
  | none => none
  | some osdType =>
      if osdType = "privacyMask".toList then entry.styleKind else none

/-- The create callback that `rk_osd_privacy_mask_restart` calls for an entry. -/
def maskCreate (entry : Entry) : Option Kind :=
  match entry.osdType with
  | none => none
  | some osdType =>
      if entry.enabled = 0 then none
      else if osdType = "privacyMask".toList then entry.styleKind
      else none

def isDateTime (entry : Entry) : Bool := entry.osdType = some "dateTime".toList

variable {entry : Entry} {kind : Kind}

theorem init_startClock (starts : entry.init = .startClock) : entry.isDateTime = true := by
  unfold init at starts
  split at starts
  next => cases starts
  next osdType isType =>
    split at starts
    next => cases starts
    next =>
      split at starts
      next => cases starts
      next =>
        split at starts
        next =>
          split at starts <;> cases starts
        next =>
          split at starts
          next => cases starts
          next =>
            split at starts
            next isDateTime =>
              rw [isDateTime] at isType
              exact decide_eq_true isType
            next => cases starts

theorem deinit_of_isDateTime (isDateTime : entry.isDateTime = true) :
    entry.deinit = some .bmp := by
  have isType : entry.osdType = some "dateTime".toList := of_decide_eq_true isDateTime
  unfold deinit
  rw [isType]
  rfl

/-- What is created for an entry is destroyed for it. -/
theorem deinit_of_init (creates : entry.init = .create kind) :
    entry.deinit = some kind ∧ entry.isDateTime = false := by
  unfold init at creates
  unfold deinit isDateTime
  split at creates
  next => cases creates
  next osdType isType =>
    rw [isType]
    simp only [Option.some.injEq, decide_eq_false_iff_not]
    split at creates
    next => cases creates
    next =>
      split at creates
      next isImage =>
        cases creates
        subst isImage
        exact ⟨rfl, by decide⟩
      next =>
        split at creates
        next isMask =>
          subst isMask
          split at creates
          next => cases creates
          next isKind =>
            cases creates
            exact ⟨isKind, by decide⟩
        next =>
          split at creates
          next isText =>
            cases creates
            rcases isText with rfl | rfl
            · exact ⟨rfl, by decide⟩
            · exact ⟨rfl, by decide⟩
          next =>
            split at creates <;> cases creates

theorem deinit_of_maskDestroy (destroys : entry.maskDestroy = some kind) :
    entry.deinit = some kind ∧ entry.isDateTime = false := by
  unfold maskDestroy at destroys
  unfold deinit isDateTime
  split at destroys
  next => cases destroys
  next osdType isType =>
    rw [isType]
    split at destroys
    next isMask =>
      subst isMask
      exact ⟨destroys, by decide⟩
    next => cases destroys

/-- Only a privacy mask is destroyed with other callbacks than those of a bitmap. -/
theorem maskDestroy_iff :
    entry.maskDestroy = some kind ↔ entry.deinit = some kind ∧ kind ≠ .bmp := by
  have styled : entry.styleKind = some kind → kind ≠ .bmp := by
    unfold styleKind
    split
    next =>
      intro isCover
      cases isCover
      decide
    next =>
      split
      next =>
        intro isMosaic
        cases isMosaic
        decide
      next =>
        intro isNone
        cases isNone
  constructor
  · intro destroys
    refine ⟨(deinit_of_maskDestroy destroys).1, styled ?_⟩
    unfold maskDestroy at destroys
    split at destroys
    next => cases destroys
    next =>
      split at destroys
      next => exact destroys
      next => cases destroys
  · intro both
    obtain ⟨destroys, notBmp⟩ := both
    unfold deinit at destroys
    unfold maskDestroy
    split at destroys
    next => cases destroys
    next osdType isType =>
      split at destroys
      next => exact absurd (Option.some.inj destroys).symm notBmp
      next =>
        split at destroys
        next => exact absurd (Option.some.inj destroys).symm notBmp
        next =>
          split at destroys
          next => exact absurd (Option.some.inj destroys).symm notBmp
          next =>
            split at destroys
            next isMask =>
              rw [if_pos isMask]
              exact destroys
            next =>
              split at destroys
              next => exact absurd (Option.some.inj destroys).symm notBmp
              next => cases destroys

theorem maskDestroy_of_maskCreate (creates : entry.maskCreate = some kind) :
    entry.maskDestroy = some kind := by
  unfold maskCreate at creates
  unfold maskDestroy
  split at creates
  next => cases creates
  next osdType isType =>
    split at creates
    next => cases creates
    next => exact creates

end Entry

abbrev Entries := OsdId → Entry

/-- The loop of `osd_time_server` that looks for its entry. -/
def lastDateTime (entries : Entries) : Option OsdId :=
  (List.finRange 8).foldl
    (fun found id => if (entries id).isDateTime then some id else found) none

/-- `osd_time_id` after the loop. -/
def osdTimeId (entries : Entries) : OsdId := (lastDateTime entries).getD 0

theorem foldl_last {α : Type u} (test : α → Bool) (members : List α) (found : Option α) :
    members.foldl (fun found member => if test member then some member else found) found =
      (members.reverse.find? test).or found := by
  induction members generalizing found with
  | nil => rfl
  | cons member members induction =>
      rw [List.foldl_cons, induction, List.reverse_cons, List.find?_append,
        List.find?_singleton]
      cases test member <;> cases members.reverse.find? test <;> rfl

theorem lastDateTime_isDateTime {entries : Entries} {id : OsdId}
    (last : lastDateTime entries = some id) : (entries id).isDateTime = true := by
  rw [lastDateTime, foldl_last, Option.or_none] at last
  exact List.find?_some (p := fun id => (entries id).isDateTime) last

/-- The entry that the clock finds comes after every other of its type. -/
theorem exists_lastDateTime {entries : Entries} {id : OsdId}
    (isDateTime : (entries id).isDateTime = true) :
    ∃ last, lastDateTime entries = some last ∧ id ≤ last := by
  let test : OsdId → Bool := fun id => (entries id).isDateTime
  have member : id ∈ (List.finRange 8).reverse := List.mem_reverse.mpr (List.mem_finRange id)
  have descending : (List.finRange 8).reverse.Pairwise (· > ·) :=
    List.pairwise_reverse.mpr (List.pairwise_lt_finRange 8)
  rw [lastDateTime, foldl_last, Option.or_none]
  cases found : (List.finRange 8).reverse.find? test with
  | none => exact absurd isDateTime (List.find?_eq_none.mp found id member)
  | some last =>
      refine ⟨last, rfl, ?_⟩
      obtain ⟨_, before, after, split, skipped⟩ := List.find?_eq_some_iff_append.mp found
      rw [split] at member descending
      rcases List.mem_append.mp member with early | late
      · have isNot := skipped id early
        rw [show test id = true from isDateTime] at isNot
        cases isNot
      · rcases List.mem_cons.mp late with rfl | later
        · exact le_refl _
        · have ordered := (List.pairwise_append.mp descending).2.1
          exact le_of_lt ((List.pairwise_cons.mp ordered).1 id later)

end Rkipc.Osd
