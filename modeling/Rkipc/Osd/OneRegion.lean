import Rkipc.Osd.ClockThread

namespace Rkipc.Osd

open Transition

/-! The regions of the entries and the callbacks that destroy them. -/

/-- The next step of the thread, or one of the next two, creates a region. -/
def Clock.isPending : Clock → Bool
  | .scan | .create _ => true
  | _ => false

/-- A clock is on the way that has not yet created its region. -/
def State.clockPending (state : State) : Bool :=
  (match state.api with
    | .createThread _ => true
    | _ => false) ||
    (List.range state.started).any fun thread =>
      (state.clock thread).any Clock.isPending

/-- The type and the style of an entry may change while no region of it is there, the
index of the clock while no clock is on the way; and `rk_osd_init` comes first or after
`rk_osd_deinit`. -/
def keepsRoles (state : State) : Label → Bool
  | .set id entry =>
      decide ((state.regions id ≠ [] →
        entry.deinit = (state.entries id).deinit ∧
          entry.isDateTime = (state.entries id).isDateTime) ∧
        (state.clockPending = true →
          lastDateTime (Function.update state.entries id entry) =
            lastDateTime state.entries))
  | .init => state.api = .off
  | _ => true

def orderly (state : State) (label : Label) : Prop :=
  singleClock state label ∧ keepsRoles state label = true

instance (state : State) (label : Label) : Decidable (orderly state label) :=
  inferInstanceAs (Decidable (_ ∧ _))

/-- The index of the clock has no region. -/
def Vacant (entries : Entries) (regions : OsdId → List Kind) (id : OsdId) : Prop :=
  lastDateTime entries = some id ∧ regions id = []

/-- What each step of a call finds of the regions. -/
def Place (entries : Entries) (regions : OsdId → List Kind) (signalled : Bool) :
    Api → Prop
  | .off => ∀ id, regions id = []
  | .init i => ∀ id : OsdId, i ≤ id →
      regions id = [] ∨ signalled = true ∧ (entries id).isDateTime = true
  | .createThread i => (∃ id, Vacant entries regions id) ∧
      ∀ id : OsdId, i < id → regions id = []
  | .renewSignal i | .createSignal i => ∀ id : OsdId, i < id →
      regions id = [] ∨ (entries id).isDateTime = true
  | .destroy i => ∀ id : OsdId, (id : Nat) < i → regions id = []
  | .maskDestroy i => ∀ id : OsdId, (id : Nat) < i →
      ∀ kind, (entries id).maskDestroy = some kind → regions id = []
  | .maskCreate i => ∀ id : OsdId, i ≤ id →
      ∀ kind, (entries id).maskDestroy = some kind → regions id = []
  | _ => True

/-- At most one region for each entry, which the entry's own callback destroys. -/
def Single (entries : Entries) (regions : OsdId → List Kind) : Prop :=
  ∀ id, regions id = [] ∨ ∃ kind, regions id = [kind] ∧ (entries id).deinit = some kind

structure Owned (state : State) : Prop where
  single : Single state.entries state.regions
  scans : ∀ thread, state.clock thread = some .scan →
    ∃ id, Vacant state.entries state.regions id
  creates : ∀ thread id, state.clock thread = some (.create id) →
    Vacant state.entries state.regions id
  place : Place state.entries state.regions state.osdSignal.isSome state.api

section Regions

variable {entries : Entries} {regions : OsdId → List Kind} {id : OsdId} {kind : Kind}

theorem Single.destroyed (single : Single entries regions)
    (destroys : (entries id).deinit = some kind) : (regions id).erase kind = [] := by
  rcases single id with none | ⟨own, isOwn, owned⟩
  · rw [none]
    rfl
  · cases owned.symm.trans destroys
    rw [isOwn, List.erase_cons_head]

theorem Single.none_of_deinit (single : Single entries regions)
    (keeps : (entries id).deinit = none) : regions id = [] := by
  rcases single id with none | ⟨own, _, owned⟩
  · exact none
  · cases owned.symm.trans keeps

theorem Single.update (single : Single entries regions) {after : List Kind}
    (fits : after = [] ∨ ∃ kind, after = [kind] ∧ (entries id).deinit = some kind) :
    Single entries (Function.update regions id after) := by
  intro other
  by_cases same : other = id
  · subst same
    rw [Function.update_self]
    exact fits
  · rw [Function.update_of_ne same]
    exact single other

theorem update_nil {other : OsdId} (empty : regions other = []) :
    Function.update regions id [] other = [] := by
  by_cases same : other = id
  · subst same
    exact Function.update_self ..
  · rwa [Function.update_of_ne same]

theorem Vacant.update_nil {other : OsdId} (vacant : Vacant entries regions other) :
    Vacant entries (Function.update regions id []) other :=
  ⟨vacant.1, Osd.update_nil vacant.2⟩

theorem Vacant.update_of_not {other : OsdId} {after : List Kind}
    (vacant : Vacant entries regions other) (isNot : (entries id).isDateTime = false) :
    Vacant entries (Function.update regions id after) other := by
  have distinct : other ≠ id := by
    intro same
    subst same
    rw [lastDateTime_isDateTime vacant.1] at isNot
    cases isNot
  exact ⟨vacant.1, (Function.update_of_ne distinct ..).trans vacant.2⟩

end Regions

namespace Kept

variable {state : State} {thread : Nat} {clock : Clock}

theorem running (kept : Kept state) (runs : state.clock thread = some clock)
    (notEnded : clock ≠ .ended) :
    state.osdTimeThreadId = some thread ∧ thread < state.started ∧
      thread ∉ state.joined := by
  have started : thread < state.started := by
    refine Nat.lt_of_not_le fun unstarted => ?_
    cases runs.symm.trans (kept.sound.unstarted thread unstarted)
  have notJoined : thread ∉ state.joined := by
    intro joined
    exact notEnded (Option.some.inj
      (runs.symm.trans (kept.sound.joinedEnded thread joined)))
  exact ⟨kept.sound.unjoined thread started notJoined, started, notJoined⟩

theorem not_allJoined (kept : Kept state) (runs : state.clock thread = some clock)
    (notEnded : clock ≠ .ended) : ¬ state.clockwork.AllJoined := fun all =>
  (kept.running runs notEnded).2.2 (all thread (kept.running runs notEnded).2.1)

theorem running_unique (kept : Kept state) (runs : state.clock thread = some clock)
    (notEnded : clock ≠ .ended) {other : Nat} {otherClock : Clock}
    (otherRuns : state.clock other = some otherClock) (otherNotEnded : otherClock ≠ .ended) :
    other = thread :=
  Option.some.inj ((kept.running otherRuns otherNotEnded).1.symm.trans
    (kept.running runs notEnded).1)

end Kept

namespace Owned

variable {state after : State} {thread : Nat}

theorem setClock (owned : Owned state) {clock : Clock}
    (scans : clock = .scan → ∃ id, Vacant state.entries state.regions id)
    (creates : ∀ id, clock = .create id → Vacant state.entries state.regions id) :
    Owned (state.setClock thread clock) where
  single := owned.single
  scans other isScan := by
    dsimp only [State.setClock] at isScan
    by_cases same : other = thread
    · subst same
      rw [Function.update_self] at isScan
      exact scans (Option.some.inj isScan)
    · rw [Function.update_of_ne same] at isScan
      exact owned.scans other isScan
  creates other id isCreate := by
    dsimp only [State.setClock] at isCreate
    by_cases same : other = thread
    · subst same
      rw [Function.update_self] at isCreate
      exact creates id (Option.some.inj isCreate)
    · rw [Function.update_of_ne same] at isCreate
      exact owned.creates other id isCreate
  place := owned.place

theorem setClock_idle (owned : Owned state) {clock : Clock}
    (idle : clock.isPending = false) : Owned (state.setClock thread clock) := by
  refine owned.setClock (fun isScan => ?_) fun id isCreate => ?_
  · subst isScan
    cases idle
  · subst isCreate
    cases idle

/-- The region of the clock, while its thread has still to be joined. -/
theorem place_clock (owned : Owned state) (kept : Kept state) {id : OsdId}
    (runs : state.clock thread = some (.create id)) :
    Place state.entries (Function.update state.regions id [.bmp]) state.osdSignal.isSome
      state.api := by
  have vacant := owned.creates thread id runs
  have isDateTime := lastDateTime_isDateTime vacant.1
  have notAll := kept.not_allJoined runs Clock.noConfusion
  have stage := kept.stage
  have place := owned.place
  -- the mask of an entry is no clock
  have notMask : ∀ kind, (state.entries id).maskDestroy ≠ some kind := by
    intro kind destroys
    rw [(Entry.deinit_of_maskDestroy destroys).2] at isDateTime
    cases isDateTime
  cases api : state.api with
  | off | createThread i | destroy i =>
      rw [api] at stage
      exact absurd stage.1 notAll
  | init i =>
      rw [api] at stage place
      intro other within
      by_cases same : other = id
      · subst same
        rcases stage with ⟨all, _⟩ | ⟨_, isSome⟩
        · exact absurd all notAll
        · exact .inr ⟨isSome, isDateTime⟩
      · rw [Function.update_of_ne same]
        exact place other within
  | renewSignal i | createSignal i =>
      rw [api] at place
      intro other within
      by_cases same : other = id
      · subst same
        exact .inr isDateTime
      · rw [Function.update_of_ne same]
        exact place other within
  | maskDestroy i | maskCreate i =>
      rw [api] at place
      intro other within kind destroys
      have distinct : other ≠ id := by
        intro same
        subst same
        exact notMask kind destroys
      rw [Function.update_of_ne distinct]
      exact place other within kind destroys
  | on | stopServer | giveSignal | testRun | join | destroySignal => trivial

theorem createClock (owned : Owned state) (kept : Kept state) {id : OsdId} {made : Bool}
    (runs : state.clock thread = some (.create id)) {clock : Clock}
    (idle : clock.isPending = false) :
    Owned ((state.create id .bmp made).setClock thread clock) := by
  cases made with
  | false => exact owned.setClock_idle idle
  | true =>
      have vacant := owned.creates thread id runs
      have created : state.create id .bmp true =
          { state with regions := Function.update state.regions id [.bmp] } := by
        rw [State.create, if_pos rfl, vacant.2]
      rw [created]
      -- no other thread is on the way
      have noOther : ∀ other clock', other ≠ thread → clock'.isPending = true →
          state.clock other ≠ some clock' := by
        intro other clock' distinct pending runsOther
        refine distinct (kept.running_unique runs Clock.noConfusion runsOther ?_)
        intro ended
        subst ended
        cases pending
      refine ⟨owned.single.update (.inr ⟨.bmp, rfl, ?_⟩), ?_, ?_, owned.place_clock kept runs⟩
      · exact Entry.deinit_of_isDateTime (lastDateTime_isDateTime vacant.1)
      · intro other isScan
        dsimp only [State.setClock] at isScan
        by_cases same : other = thread
        · subst same
          rw [Function.update_self] at isScan
          cases isScan
          cases idle
        · rw [Function.update_of_ne same] at isScan
          exact absurd isScan (noOther other _ same rfl)
      · intro other otherId isCreate
        dsimp only [State.setClock] at isCreate
        by_cases same : other = thread
        · subst same
          rw [Function.update_self] at isCreate
          cases isCreate
          cases idle
        · rw [Function.update_of_ne same] at isCreate
          exact absurd isCreate (noOther other _ same rfl)

theorem tick (owned : Owned state) (kept : Kept state) {made succeeds : Bool}
    (ticked : state.tick thread made succeeds = some after) : Owned after := by
  unfold State.tick at ticked
  split at ticked
  next => cases ticked
  next => cases ticked
  next runs =>
    cases ticked
    obtain ⟨id, vacant⟩ := owned.scans thread runs
    have isId : osdTimeId state.entries = id := by
      rw [osdTimeId, vacant.1]
      rfl
    refine owned.setClock Clock.noConfusion fun other isCreate => ?_
    rw [isId] at isCreate
    cases isCreate
    exact vacant
  next id runs =>
    cases ticked
    exact owned.createClock kept runs (by cases succeeds <;> rfl)
  next =>
    cases ticked
    have flagged : Owned { state with osdTimeServerRun := false } :=
      ⟨owned.single, owned.scans, owned.creates, owned.place⟩
    exact flagged.setClock_idle rfl
  next =>
    cases ticked
    have flagged : Owned { state with osdTimeServerRun := true } :=
      ⟨owned.single, owned.scans, owned.creates, owned.place⟩
    exact flagged.setClock_idle rfl
  next =>
    cases ticked
    exact owned.setClock_idle (by split <;> rfl)
  next =>
    cases ticked
    exact owned.setClock_idle rfl
  next =>
    cases ticked
    exact owned.setClock_idle rfl

theorem clockPending (kept : Kept state) {clock : Clock}
    (runs : state.clock thread = some clock) (pending : clock.isPending = true) :
    state.clockPending = true := by
  have notEnded : clock ≠ .ended := by
    intro ended
    subst ended
    cases pending
  have started := (kept.running runs notEnded).2.1
  rw [State.clockPending, Bool.or_eq_true]
  refine .inr (List.any_eq_true.mpr ⟨thread, List.mem_range.mpr started, ?_⟩)
  rw [runs]
  exact pending

theorem set (owned : Owned state) (kept : Kept state) {id : OsdId} {entry : Entry}
    (keeps : state.regions id ≠ [] → entry.deinit = (state.entries id).deinit ∧
      entry.isDateTime = (state.entries id).isDateTime)
    (index : state.clockPending = true →
      lastDateTime (Function.update state.entries id entry) = lastDateTime state.entries) :
    Owned { state with entries := Function.update state.entries id entry } := by
  have role : ∀ other, state.regions other ≠ [] →
      (Function.update state.entries id entry other).deinit =
          (state.entries other).deinit ∧
        (Function.update state.entries id entry other).isDateTime =
          (state.entries other).isDateTime := by
    intro other present
    by_cases same : other = id
    · subst same
      rw [Function.update_self]
      exact keeps present
    · rw [Function.update_of_ne same]
      exact ⟨rfl, rfl⟩
  have masks : ∀ other kind, state.regions other ≠ [] →
      (Function.update state.entries id entry other).maskDestroy = some kind →
      (state.entries other).maskDestroy = some kind := by
    intro other kind present destroys
    obtain ⟨own, notBmp⟩ := Entry.maskDestroy_iff.mp destroys
    exact Entry.maskDestroy_iff.mpr ⟨(role other present).1 ▸ own, notBmp⟩
  refine ⟨?_, ?_, ?_, ?_⟩
  · intro other
    rcases owned.single other with none | ⟨kind, isKind, owns⟩
    · exact .inl none
    · have present : state.regions other ≠ [] := by
        rw [isKind]
        exact List.cons_ne_nil _ _
      exact .inr ⟨kind, isKind, (role other present).1.trans owns⟩
  · intro other isScan
    obtain ⟨found, vacant⟩ := owned.scans other isScan
    exact ⟨found, (index (clockPending kept isScan rfl)).trans vacant.1, vacant.2⟩
  · intro other found isCreate
    have vacant := owned.creates other found isCreate
    exact ⟨(index (clockPending kept isCreate rfl)).trans vacant.1, vacant.2⟩
  · have place := owned.place
    dsimp only
    cases api : state.api with
    | off | destroy i =>
        rw [api] at place
        exact place
    | init i =>
        rw [api] at place
        intro other within
        rcases place other within with none | ⟨signalled, isDateTime⟩
        · exact .inl none
        · by_cases none : state.regions other = []
          · exact .inl none
          · exact .inr ⟨signalled, (role other none).2.trans isDateTime⟩
    | createThread i =>
        rw [api] at place
        obtain ⟨⟨found, vacant⟩, later⟩ := place
        have pending : state.clockPending = true := by
          rw [State.clockPending, api]
          rfl
        exact ⟨⟨found, (index pending).trans vacant.1, vacant.2⟩, later⟩
    | renewSignal i | createSignal i =>
        rw [api] at place
        intro other within
        rcases place other within with none | isDateTime
        · exact .inl none
        · by_cases none : state.regions other = []
          · exact .inl none
          · exact .inr ((role other none).2.trans isDateTime)
    | maskDestroy i | maskCreate i =>
        rw [api] at place
        intro other within kind destroys
        by_cases none : state.regions other = []
        · exact none
        · exact place other within kind (masks other kind none destroys)
    | on | stopServer | giveSignal | testRun | join | destroySignal => trivial

/-- The region of an entry is destroyed by the entry's own callback. -/
theorem destroyFor (owned : Owned state) {id : OsdId} {found : Option Kind} {api : Api}
    (own : ∀ kind, found = some kind → (state.entries id).deinit = some kind)
    (place : Place state.entries
      (if found.isSome then Function.update state.regions id [] else state.regions)
      state.osdSignal.isSome api) :
    Owned ((state.destroyFor id found).goTo api) := by
  cases found with
  | none => exact ⟨owned.single, owned.scans, owned.creates, place⟩
  | some kind =>
      have destroyed : state.destroyFor id (some kind) =
          { state with regions := Function.update state.regions id [] } := by
        rw [State.destroyFor, State.destroy, owned.single.destroyed (own kind rfl)]
      rw [destroyed]
      refine ⟨owned.single.update (.inl rfl), fun thread isScan => ?_,
        fun thread other isCreate => ?_, place⟩
      · obtain ⟨other, vacant⟩ := owned.scans thread isScan
        exact ⟨other, vacant.update_nil⟩
      · exact (owned.creates thread other isCreate).update_nil

/-- A region is created for an entry that has none and is no clock. -/
theorem create (owned : Owned state) {id : OsdId} {kind : Kind} {made : Bool} {api : Api}
    (own : (state.entries id).deinit = some kind)
    (isNot : (state.entries id).isDateTime = false) (vacant : state.regions id = [])
    (place : ∀ regions : OsdId → List Kind,
      (∀ other, other ≠ id → regions other = state.regions other) →
      Place state.entries regions state.osdSignal.isSome api) :
    Owned ((state.create id kind made).goTo api) := by
  cases made with
  | false => exact ⟨owned.single, owned.scans, owned.creates, place _ fun _ _ => rfl⟩
  | true =>
      have created : state.create id kind true =
          { state with regions := Function.update state.regions id [kind] } := by
        rw [State.create, if_pos rfl, vacant]
      rw [created]
      refine ⟨owned.single.update (.inr ⟨kind, rfl, own⟩), fun thread isScan => ?_,
        fun thread other isCreate => ?_,
        place _ fun other distinct => Function.update_of_ne distinct ..⟩
      · obtain ⟨other, vacant⟩ := owned.scans thread isScan
        exact ⟨other, vacant.update_of_not isNot⟩
      · exact (owned.creates thread other isCreate).update_of_not isNot

theorem goTo (owned : Owned state) {api : Api}
    (place : Place state.entries state.regions state.osdSignal.isSome api) :
    Owned (state.goTo api) :=
  ⟨owned.single, owned.scans, owned.creates, place⟩

theorem forEntry {i : Nat} {body : OsdId → State} {done : State}
    (inside : ∀ id : OsdId, (id : Nat) = i → Owned (body id))
    (outside : 8 ≤ i → Owned done) : Owned (Osd.State.forEntry i body done) := by
  unfold State.forEntry
  split
  next => exact inside _ rfl
  next outer => exact outside (Nat.le_of_not_lt outer)

theorem initEntry (owned : Owned state) {outcome : Bool} {id : OsdId}
    (place : Place state.entries state.regions state.osdSignal.isSome (.init id))
    (alone : (state.entries id).init = .startClock → state.osdSignal = none) :
    Owned (state.initEntry outcome id) := by
  have later : ∀ other : OsdId, (id : Nat) + 1 ≤ other → (id : Nat) ≤ other :=
    fun _ within => Nat.le_of_succ_le within
  unfold State.initEntry
  split
  next => exact owned.goTo fun other within => place other (later other within)
  next kind creates =>
    obtain ⟨own, isNot⟩ := Entry.deinit_of_init creates
    have vacant : state.regions id = [] := by
      rcases place id (Nat.le_refl _) with none | ⟨_, isDateTime⟩
      · exact none
      · rw [isNot] at isDateTime
        cases isDateTime
    refine owned.create own isNot vacant fun regions same other within => ?_
    have distinct : other ≠ id := by
      intro equal
      subst equal
      exact absurd within (Nat.not_succ_le_self _)
    rw [same other distinct]
    exact place other (later other within)
  next starts =>
    have unset := alone starts
    have empty : ∀ other : OsdId, (id : Nat) ≤ other → state.regions other = [] := by
      intro other within
      rcases place other within with none | ⟨isSome, _⟩
      · exact none
      · rw [unset] at isSome
        cases isSome
    obtain ⟨last, isLast, after⟩ := exists_lastDateTime (Entry.init_startClock starts)
    refine ⟨owned.single, owned.scans, owned.creates, ⟨last, isLast, empty last after⟩, ?_⟩
    exact fun other within => empty other (Nat.le_of_lt within)

theorem call (owned : Owned state) (kept : Kept state) {outcome : Bool}
    (alone : startsAlone state (.call outcome) = true)
    (called : state.call outcome = some after) : Owned after := by
  have place := owned.place
  have stage := kept.stage
  unfold State.call at called
  cases api : state.api with
  | off | on =>
      rw [api] at called
      cases called
  | init i =>
      rw [api] at called place
      cases called
      refine forEntry (fun id isIndex => ?_) fun _ => owned.goTo trivial
      subst isIndex
      refine owned.initEntry place fun starts => ?_
      simp only [startsAlone, api] at alone
      rw [dif_pos id.isLt] at alone
      exact of_decide_eq_true alone starts
  | createThread i =>
      rw [api] at called place stage
      cases called
      simp only [startsAlone, api] at alone
      subst alone
      obtain ⟨⟨id, vacant⟩, later⟩ := place
      refine ⟨owned.single, fun thread isScan => ?_, fun thread other isCreate => ?_,
        fun other within => .inl (later other within)⟩
      · exact ⟨id, vacant⟩
      · change Function.update state.clock state.started (some .scan) thread =
          some (.create other) at isCreate
        by_cases same : thread = state.started
        · subst same
          rw [Function.update_self] at isCreate
          cases isCreate
        · rw [Function.update_of_ne same] at isCreate
          exact owned.creates thread other isCreate
  | renewSignal i =>
      rw [api] at called place stage
      cases called
      have unset : state.osdSignal = none := stage.2
      have same : state.dropSignal = state := by
        unfold State.dropSignal
        rw [unset]
      rw [same]
      exact owned.goTo place
  | createSignal i =>
      rw [api] at called place
      cases called
      simp only [startsAlone, api] at alone
      subst alone
      refine ⟨owned.single, owned.scans, owned.creates, fun other within => ?_⟩
      rcases place other within with none | isDateTime
      · exact .inl none
      · exact .inr ⟨rfl, isDateTime⟩
  | stopServer =>
      rw [api] at called
      cases called
      refine ⟨owned.single, owned.scans, owned.creates, ?_⟩
      dsimp only [State.goTo]
      split
      next => trivial
      next => exact fun _ below => absurd below (Nat.not_lt_zero _)
  | giveSignal =>
      rw [api] at called
      cases called
      exact owned.goTo trivial
  | testRun =>
      rw [api] at called
      cases called
      refine owned.goTo ?_
      split <;> trivial
  | join =>
      rw [api] at called
      obtain ⟨joined, joins, rfl⟩ := Option.map_eq_some_iff.mp called
      unfold State.joinThread at joins
      split at joins
      next =>
        cases joins
        exact owned.goTo trivial
      next =>
        split at joins
        next =>
          cases joins
          exact ⟨owned.single, owned.scans, owned.creates, trivial⟩
        next => cases joins
  | destroySignal =>
      rw [api] at called
      cases called
      unfold State.dropSignal
      split <;> exact ⟨owned.single, owned.scans, owned.creates,
        fun _ below => absurd below (Nat.not_lt_zero _)⟩
  | destroy i =>
      rw [api] at called place
      cases called
      refine forEntry (fun id isIndex => ?_) fun outside => owned.goTo ?_
      · subst isIndex
        refine owned.destroyFor (fun _ own => own) fun other below => ?_
        rcases Nat.lt_succ_iff_lt_or_eq.mp below with before | same
        · split
          next => exact update_nil (place other before)
          next => exact place other before
        · have isSame : other = id := Fin.ext same
          subst isSame
          cases destroys : (state.entries other).deinit with
          | none => exact owned.single.none_of_deinit destroys
          | some kind => exact Function.update_self ..
      · exact fun id => place id (Nat.lt_of_lt_of_le id.isLt outside)
  | maskDestroy i =>
      rw [api] at called place
      cases called
      refine forEntry (fun id isIndex => ?_) fun outside => owned.goTo ?_
      · subst isIndex
        refine owned.destroyFor
          (fun kind destroys => (Entry.deinit_of_maskDestroy destroys).1)
          fun other below kind destroys => ?_
        rcases Nat.lt_succ_iff_lt_or_eq.mp below with before | same
        · split
          next => exact update_nil (place other before kind destroys)
          next => exact place other before kind destroys
        · have isSame : other = id := Fin.ext same
          subst isSame
          rw [destroys]
          exact Function.update_self ..
      · exact fun id _ kind destroys =>
          place id (Nat.lt_of_lt_of_le id.isLt outside) kind destroys
  | maskCreate i =>
      rw [api] at called place
      cases called
      refine forEntry (fun id isIndex => ?_) fun _ => owned.goTo trivial
      subst isIndex
      have later : ∀ regions : OsdId → List Kind,
          (∀ other, other ≠ id → regions other = state.regions other) →
          Place state.entries regions state.osdSignal.isSome (.maskCreate (id + 1)) := by
        intro regions same other within kind destroys
        have distinct : other ≠ id := by
          intro equal
          subst equal
          exact absurd within (Nat.not_succ_le_self _)
        rw [same other distinct]
        exact place other (Nat.le_of_succ_le within) kind destroys
      cases creates : (state.entries id).maskCreate with
      | none => exact owned.goTo (later _ fun _ _ => rfl)
      | some kind =>
          have destroys := Entry.maskDestroy_of_maskCreate creates
          obtain ⟨own, isNot⟩ := Entry.deinit_of_maskDestroy destroys
          exact owned.create own isNot (place id (Nat.le_refl _) kind destroys) later

theorem step (owned : Owned state) (kept : Kept state) {label : Label}
    (ordered : orderly state label) (stepped : state.step label = some after) :
    Owned after := by
  obtain ⟨single, keeps⟩ := ordered
  have place := owned.place
  cases label with
  | set id entry =>
      cases stepped
      obtain ⟨role, index⟩ := of_decide_eq_true keeps
      exact owned.set kept role index
  | init =>
      have off : state.api = .off := of_decide_eq_true keeps
      rw [off] at place
      rw [State.step, State.enter] at stepped
      split at stepped
      next =>
        cases stepped
        refine owned.goTo ?_
        exact fun id _ => .inl (place id)
      next => cases stepped
  | deinit =>
      rw [State.step, State.enter] at stepped
      split at stepped
      next =>
        cases stepped
        exact owned.goTo trivial
      next => cases stepped
  | maskRestart =>
      rw [State.step, State.enter] at stepped
      split at stepped
      next =>
        cases stepped
        refine owned.goTo ?_
        exact fun _ below => absurd below (Nat.not_lt_zero _)
      next => cases stepped
  | call outcome => exact owned.call kept single.1 stepped
  | tick thread made succeeds => exact owned.tick kept stepped

theorem start (entries : Entries) : Owned (.start entries) where
  single _ := .inl rfl
  scans _ isScan := (Option.some_ne_none _ isScan.symm).elim
  creates _ _ isCreate := (Option.some_ne_none _ isCreate.symm).elim
  place _ := rfl

end Owned

/-- No region is created for an entry that still has one, and none is left when
`rk_osd_deinit` has returned. -/
structure AllDestroyed (state : State) : Prop where
  one : ∀ id, (state.regions id).length ≤ 1
  none : state.api = .off → ∀ id, state.regions id = []

def Both (state : State) : Prop := Kept state ∧ Owned state

theorem regions_destroyed {state : State} (reachable : system.Reachable orderly state) :
    AllDestroyed state := by
  have both : Both state := by
    refine reachable.invariant (fun _ isStart => ?_) fun _ _ _ both ordered stepped =>
      ⟨both.1.step ordered.1 stepped, both.2.step both.1 ordered stepped⟩
    obtain ⟨entries, rfl⟩ := isStart
    exact ⟨Kept.start entries, Owned.start entries⟩
  obtain ⟨_, owned⟩ := both
  refine ⟨fun id => ?_, fun off => ?_⟩
  · rcases owned.single id with none | ⟨kind, isKind, _⟩
    · rw [none]
      exact Nat.zero_le 1
    · rw [isKind]
      exact Nat.le_refl 1
  · have place := owned.place
    rw [off] at place
    exact place

section Runs

/-- A privacy mask, and nothing else. -/
def mask (style : String) : Entries := fun id =>
  if id = 0 then ⟨some "privacyMask".toList, 1, style.toList⟩
  else ⟨none, 0, "cover".toList⟩

/-- The mask is made, made again, and destroyed. -/
def maskRound : List Label :=
  .init :: calls 9 ++ .maskRestart :: calls 18 ++ .deinit :: calls 10

theorem regions_destroyed_mask :
    ∃ state, system.Reachable orderly state ∧ state.api = .off ∧ AllDestroyed state := by
  let ran := system.guardedRun (fun state label => decide (orderly state label))
    (.start (mask "cover")) maskRound
  have isSome : ran.isSome := by decide
  have reachable : system.Reachable orderly (ran.get isSome) :=
    ⟨_, ⟨_, rfl⟩, System.reaches_of_guardedRun
      (fun _ _ ordered => of_decide_eq_true ordered) maskRound
      (Option.some_get isSome).symm⟩
  exact ⟨_, reachable, rfl, regions_destroyed reachable⟩

/-- The style of the mask changes before the masks are made again. -/
def restyled : List Label :=
  .init :: calls 9 ++
    .set 0 ⟨some "privacyMask".toList, 1, "mosaic".toList⟩ :: .maskRestart :: calls 18

/-- A mosaic is created over a cover that no callback has destroyed. -/
theorem region_left :
    ¬ ∀ state, system.Reachable System.anyStep state → AllDestroyed state := by
  intro general
  let ran := system.run (.start (mask "cover")) restyled
  have isSome : ran.isSome := by decide
  have one : 2 ≤ 1 := (general (ran.get isSome)
    (System.reachable_of_run ⟨_, rfl⟩ (Option.some_get isSome).symm)).one 0
  exact absurd one (by decide)

end Runs

end Rkipc.Osd
