import Rkipc.Osd.Calls

namespace Rkipc.Osd

open Transition

/-! The threads of the clock and the signal that they wait on. -/

/-- What the state holds of the threads and of the signals. -/
structure Clockwork where
  threadId : Option Nat
  started : Nat
  clock : Nat → Option Clock
  joined : List Nat
  signal : Option Nat
  signals : Nat
  destroyed : List Nat

def State.clockwork (state : State) : Clockwork where
  threadId := state.osdTimeThreadId
  started := state.started
  clock := state.clock
  joined := state.joined
  signal := state.osdSignal
  signals := state.signals
  destroyed := state.destroyed

namespace Clockwork

/-- Only the thread that `osd_time_thread_id_` names may still have to be joined, and
a thread waits on the signal that `g_osd_signal` names. -/
structure Sound (works : Clockwork) : Prop where
  unstarted : ∀ thread, works.started ≤ thread → works.clock thread = none
  present : ∀ thread < works.started, works.clock thread ≠ none
  joinedEnded : ∀ thread ∈ works.joined, works.clock thread = some .ended
  nodup : works.joined.Nodup
  unjoined : ∀ thread < works.started, thread ∉ works.joined →
    works.threadId = some thread
  waits : ∀ thread id signal, works.clock thread = some (.wait id (some signal)) →
    works.signal = some signal
  intact : ∀ signal, works.signal = some signal →
    signal < works.signals ∧ signal ∉ works.destroyed
  dropped : ∀ signal ∈ works.destroyed, signal < works.signals

def AllJoined (works : Clockwork) : Prop :=
  ∀ thread < works.started, thread ∈ works.joined

def HasUnjoined (works : Clockwork) : Prop :=
  ∃ thread, works.threadId = some thread ∧ thread < works.started ∧
    thread ∉ works.joined

/-- There is a signal just when there is a thread to be joined. -/
def Paired (works : Clockwork) : Prop :=
  works.AllJoined ∧ works.signal = none ∨
    works.HasUnjoined ∧ works.signal.isSome = true

/-- What each step of a call finds. -/
def Stage (works : Clockwork) : Api → Prop
  | .off | .createThread _ | .destroy _ => works.AllJoined ∧ works.signal = none
  | .renewSignal _ | .createSignal _ => works.HasUnjoined ∧ works.signal = none
  | .giveSignal | .testRun | .join => works.HasUnjoined ∧ works.signal.isSome = true
  | .destroySignal => works.AllJoined ∧ works.signal.isSome = true
  | .on | .init _ | .stopServer | .maskDestroy _ | .maskCreate _ => works.Paired

def setClock (works : Clockwork) (thread : Nat) (clock : Clock) : Clockwork :=
  { works with clock := Function.update works.clock thread (some clock) }

def startThread (works : Clockwork) : Clockwork :=
  { works with
    threadId := some works.started
    clock := Function.update works.clock works.started (some .scan)
    started := works.started + 1 }

def newSignal (works : Clockwork) : Clockwork :=
  { works with signal := some works.signals, signals := works.signals + 1 }

def join (works : Clockwork) (thread : Nat) : Clockwork :=
  { works with joined := thread :: works.joined }

def destroySignal (works : Clockwork) (signal : Nat) : Clockwork :=
  { works with signal := none, destroyed := signal :: works.destroyed }

variable {works : Clockwork} {thread : Nat}

theorem Sound.ended (sound : works.Sound) (all : works.AllJoined) (thread : Nat) :
    works.clock thread = none ∨ works.clock thread = some .ended := by
  rcases Nat.lt_or_ge thread works.started with started | unstarted
  · exact .inr (sound.joinedEnded thread (all thread started))
  · exact .inl (sound.unstarted thread unstarted)

theorem Sound.count (sound : works.Sound) (all : works.AllJoined)
    (started : thread < works.started) : works.joined.count thread = 1 :=
  List.count_eq_one_of_mem sound.nodup (all thread started)

theorem Sound.intact_of_wait (sound : works.Sound) {id : OsdId} {signal : Nat}
    (waits : works.clock thread = some (.wait id (some signal))) :
    signal ∉ works.destroyed :=
  (sound.intact signal (sound.waits thread id signal waits)).2

theorem Sound.setClock (sound : works.Sound) {before after : Clock}
    (runs : works.clock thread = some before) (notEnded : before ≠ .ended)
    (waits : ∀ id signal, after = .wait id (some signal) → works.signal = some signal) :
    (works.setClock thread after).Sound where
  unstarted other unstarted := by
    have distinct : other ≠ thread := by
      intro same
      subst same
      rw [sound.unstarted other unstarted] at runs
      cases runs
    exact (Function.update_of_ne distinct ..).trans (sound.unstarted other unstarted)
  present other started := by
    dsimp only [Clockwork.setClock]
    by_cases same : other = thread
    · subst same
      rw [Function.update_self]
      exact Option.some_ne_none after
    · rw [Function.update_of_ne same]
      exact sound.present other started
  joinedEnded other joined := by
    have ended := sound.joinedEnded other joined
    have distinct : other ≠ thread := by
      intro same
      subst same
      exact notEnded (Option.some.inj (runs.symm.trans ended))
    exact (Function.update_of_ne distinct ..).trans ended
  nodup := sound.nodup
  unjoined := sound.unjoined
  waits other id signal isWaiting := by
    dsimp only [Clockwork.setClock] at isWaiting
    by_cases same : other = thread
    · subst same
      rw [Function.update_self] at isWaiting
      exact waits id signal (Option.some.inj isWaiting)
    · rw [Function.update_of_ne same] at isWaiting
      exact sound.waits other id signal isWaiting
  intact := sound.intact
  dropped := sound.dropped

theorem Sound.startThread (sound : works.Sound) (all : works.AllJoined) :
    works.startThread.Sound where
  unstarted other unstarted := by
    dsimp only [Clockwork.startThread] at unstarted ⊢
    rw [Function.update_of_ne (by omega)]
    exact sound.unstarted other (by omega)
  present other started := by
    dsimp only [Clockwork.startThread]
    rcases Nat.lt_succ_iff_lt_or_eq.mp started with before | rfl
    · rw [Function.update_of_ne (Nat.ne_of_lt before)]
      exact sound.present other before
    · rw [Function.update_self]
      exact Option.some_ne_none _
  joinedEnded other joined := by
    have ended := sound.joinedEnded other joined
    have distinct : other ≠ works.started := by
      intro same
      rw [same, sound.unstarted works.started (Nat.le_refl _)] at ended
      cases ended
    exact (Function.update_of_ne distinct ..).trans ended
  nodup := sound.nodup
  unjoined other started notJoined := by
    rcases Nat.lt_succ_iff_lt_or_eq.mp started with before | rfl
    · exact absurd (all other before) notJoined
    · rfl
  waits other id signal isWaiting := by
    dsimp only [Clockwork.startThread] at isWaiting
    by_cases same : other = works.started
    · subst same
      rw [Function.update_self] at isWaiting
      cases isWaiting
    · rw [Function.update_of_ne same] at isWaiting
      exact sound.waits other id signal isWaiting
  intact signal isSignal := sound.intact signal isSignal
  dropped := sound.dropped

theorem Sound.hasUnjoined_startThread (sound : works.Sound) :
    works.startThread.HasUnjoined := by
  refine ⟨works.started, rfl, Nat.lt_succ_self _, fun joined => ?_⟩
  have ended := sound.joinedEnded works.started joined
  rw [sound.unstarted works.started (Nat.le_refl _)] at ended
  cases ended

theorem Sound.newSignal (sound : works.Sound) (unset : works.signal = none) :
    works.newSignal.Sound where
  unstarted := sound.unstarted
  present := sound.present
  joinedEnded := sound.joinedEnded
  nodup := sound.nodup
  unjoined := sound.unjoined
  waits thread id signal isWaiting := by
    have waited := sound.waits thread id signal isWaiting
    rw [unset] at waited
    cases waited
  intact signal isSignal := by
    cases isSignal
    exact ⟨Nat.lt_succ_self _,
      fun dropped => Nat.lt_irrefl _ (sound.dropped works.signals dropped)⟩
  dropped signal isDropped := Nat.lt_succ_of_lt (sound.dropped signal isDropped)

theorem Sound.join (sound : works.Sound) (isThread : works.threadId = some thread)
    (started : thread < works.started) (notJoined : thread ∉ works.joined)
    (ended : works.clock thread = none ∨ works.clock thread = some .ended) :
    (works.join thread).Sound ∧ (works.join thread).AllJoined := by
  refine ⟨⟨sound.unstarted, sound.present, ?_, ?_, ?_, sound.waits, sound.intact,
    sound.dropped⟩, ?_⟩
  · intro other member
    rcases List.mem_cons.mp member with rfl | member
    · exact ended.resolve_left (sound.present other started)
    · exact sound.joinedEnded other member
  · exact List.nodup_cons.mpr ⟨notJoined, sound.nodup⟩
  · intro other isStarted isNot
    exact sound.unjoined other isStarted fun member =>
      isNot (List.mem_cons_of_mem _ member)
  · intro other isStarted
    by_cases member : other ∈ works.joined
    · exact List.mem_cons_of_mem _ member
    · have same := (sound.unjoined other isStarted member).symm.trans isThread
      cases same
      exact List.mem_cons_self

theorem Sound.destroySignal (sound : works.Sound) (all : works.AllJoined) {signal : Nat}
    (isSignal : works.signal = some signal) :
    (works.destroySignal signal).Sound where
  unstarted := sound.unstarted
  present := sound.present
  joinedEnded := sound.joinedEnded
  nodup := sound.nodup
  unjoined := sound.unjoined
  waits thread id other isWaiting := by
    rcases sound.ended all thread with none | ended
    · cases none.symm.trans isWaiting
    · cases ended.symm.trans isWaiting
  intact other isOther := (Option.some_ne_none other isOther.symm).elim
  dropped other isDropped := by
    rcases List.mem_cons.mp isDropped with rfl | earlier
    · exact (sound.intact other isSignal).1
    · exact sound.dropped other earlier

/-- The stage of a call does not depend on where the threads stand. -/
theorem Stage.setClock {api : Api} (stage : works.Stage api) (clock : Clock) :
    (works.setClock thread clock).Stage api := by
  cases api <;> exact stage

theorem Paired.signal_none (paired : works.Paired) (unset : works.signal = none) :
    works.AllJoined ∧ works.signal = none := by
  rcases paired with all | ⟨_, isSet⟩
  · exact all
  · rw [unset] at isSet
    cases isSet

end Clockwork

/-- A clock is started while there is no signal, and threads and signals are created. -/
def startsAlone (state : State) : Label → Bool
  | .call outcome =>
      match state.api with
      | .init i =>
          if inside : i < 8 then
            decide ((state.entries ⟨i, inside⟩).init = .startClock →
              state.osdSignal = none)
          else true
      | .createThread _ | .createSignal _ => outcome
      | _ => true
  | _ => true

/-- `rk_osd_deinit` finds the flag that makes it join the thread. -/
def findsRunning (state : State) : Label → Bool
  | .call _ => decide (state.api = .testRun → state.osdTimeServerRun = true)
  | _ => true

def singleClock (state : State) (label : Label) : Prop :=
  startsAlone state label = true ∧ findsRunning state label = true

instance (state : State) (label : Label) : Decidable (singleClock state label) :=
  inferInstanceAs (Decidable (_ ∧ _))

/-- What holds of the threads between the steps. -/
structure Kept (state : State) : Prop where
  sound : state.clockwork.Sound
  stage : state.clockwork.Stage state.api

namespace State

variable {state after : State} {id : OsdId} {kind : Kind} {api : Api}

theorem create_clockwork (made : Bool) :
    (state.create id kind made).clockwork = state.clockwork := by
  cases made <;> rfl

theorem destroyFor_clockwork (found : Option Kind) :
    (state.destroyFor id found).clockwork = state.clockwork := by
  cases found <;> rfl

theorem createFor_clockwork (made : Bool) (found : Option Kind) :
    (state.createFor id made found).clockwork = state.clockwork := by
  cases found with
  | none => rfl
  | some kind => exact create_clockwork made

theorem joinThread_some (joined : state.joinThread = some after)
    {thread : Nat} (isThread : state.osdTimeThreadId = some thread) :
    state.hasEnded thread = true ∧ after = { state with joined := thread :: state.joined } := by
  unfold joinThread at joined
  split at joined
  next none => cases none.symm.trans isThread
  next other isOther =>
    cases isOther.symm.trans isThread
    split at joined
    next ended => exact ⟨ended, (Option.some.inj joined).symm⟩
    next => cases joined

end State

namespace Kept

variable {state after : State} {api : Api}

theorem goTo (kept : Kept state) (stage : state.clockwork.Stage api) :
    Kept (state.goTo api) :=
  ⟨kept.sound, stage⟩

theorem of_clockwork (kept : Kept state) (same : after.clockwork = state.clockwork)
    (stage : state.clockwork.Stage after.api) : Kept after := by
  refine ⟨?_, ?_⟩
  · rw [same]
    exact kept.sound
  · rwa [same]

theorem enter (kept : Kept state) (entered : state.enter api = some after)
    (stage : state.clockwork.Paired → state.clockwork.Stage api) : Kept after := by
  unfold State.enter at entered
  split at entered
  next free =>
    cases entered
    refine kept.goTo (stage ?_)
    have found := kept.stage
    rcases of_decide_eq_true free with off | on
    · rw [off] at found
      exact .inl found
    · rw [on] at found
      exact found
  next => cases entered

theorem setClock (kept : Kept state) {thread : Nat} {before clock : Clock}
    (runs : state.clock thread = some before) (notEnded : before ≠ .ended)
    (waits : ∀ id signal, clock = .wait id (some signal) →
      state.osdSignal = some signal) :
    Kept (state.setClock thread clock) :=
  ⟨kept.sound.setClock runs notEnded waits, kept.stage.setClock clock⟩

theorem create (kept : Kept state) {id : OsdId} {kind : Kind} {made : Bool} :
    Kept (state.create id kind made) :=
  kept.of_clockwork (State.create_clockwork made) (by cases made <;> exact kept.stage)

theorem tick (kept : Kept state) {thread : Nat} {made succeeds : Bool}
    (ticked : state.tick thread made succeeds = some after) : Kept after := by
  unfold State.tick at ticked
  split at ticked
  next => cases ticked
  next => cases ticked
  next runs =>
    cases ticked
    exact kept.setClock runs Clock.noConfusion fun _ _ => Clock.noConfusion
  next id runs =>
    cases ticked
    have created : Kept (state.create id .bmp made) := kept.create
    have stillRuns : (state.create id .bmp made).clock thread = some (.create id) := by
      cases made <;> exact runs
    refine created.setClock stillRuns Clock.noConfusion fun _ _ => ?_
    cases succeeds <;> exact Clock.noConfusion
  next runs =>
    cases ticked
    have flagged : Kept { state with osdTimeServerRun := false } := ⟨kept.sound, kept.stage⟩
    exact flagged.setClock runs Clock.noConfusion fun _ _ => Clock.noConfusion
  next runs =>
    cases ticked
    have flagged : Kept { state with osdTimeServerRun := true } := ⟨kept.sound, kept.stage⟩
    exact flagged.setClock runs Clock.noConfusion fun _ _ => Clock.noConfusion
  next id runs =>
    cases ticked
    refine kept.setClock runs Clock.noConfusion fun _ signal waits => ?_
    split at waits
    next => exact (Clock.wait.inj waits).2
    next => cases waits
  next runs =>
    cases ticked
    exact kept.setClock runs Clock.noConfusion fun _ _ => Clock.noConfusion
  next runs =>
    cases ticked
    exact kept.setClock runs Clock.noConfusion fun _ _ => Clock.noConfusion

theorem forEntry (kept : Kept state) {i : Nat} {body : OsdId → State} {done : Api}
    (inside : ∀ id : OsdId, (id : Nat) = i → Kept (body id))
    (outside : state.clockwork.Stage done) :
    Kept (Osd.State.forEntry i body (state.goTo done)) := by
  unfold State.forEntry
  split
  next => exact inside _ rfl
  next => exact kept.goTo outside

theorem initEntry (kept : Kept state) (paired : state.clockwork.Paired) {outcome : Bool}
    {id : OsdId}
    (single : (state.entries id).init = .startClock → state.osdSignal = none) :
    Kept (state.initEntry outcome id) := by
  unfold State.initEntry
  split
  next => exact kept.goTo paired
  next kind _ =>
    refine kept.of_clockwork (State.create_clockwork outcome) ?_
    exact paired
  next starts => exact ⟨kept.sound, paired.signal_none (single starts)⟩

theorem call (kept : Kept state) {outcome : Bool}
    (alone : startsAlone state (.call outcome) = true)
    (running : findsRunning state (.call outcome) = true)
    (called : state.call outcome = some after) : Kept after := by
  have stage := kept.stage
  unfold State.call at called
  cases api : state.api with
  | off | on =>
      rw [api] at called
      cases called
  | init i =>
      rw [api] at called stage
      cases called
      refine kept.forEntry (fun id isIndex => ?_) stage
      refine kept.initEntry stage fun starts => ?_
      simp only [startsAlone, api] at alone
      have inside : i < 8 := isIndex ▸ id.isLt
      rw [dif_pos inside] at alone
      subst isIndex
      exact of_decide_eq_true alone starts
  | createThread i =>
      rw [api] at called stage
      cases called
      simp only [startsAlone, api] at alone
      subst alone
      exact ⟨kept.sound.startThread stage.1,
        kept.sound.hasUnjoined_startThread, stage.2⟩
  | renewSignal i =>
      rw [api] at called stage
      cases called
      have unset : state.osdSignal = none := stage.2
      have same : state.dropSignal = state := by
        unfold State.dropSignal
        rw [unset]
      rw [same]
      exact kept.goTo stage
  | createSignal i =>
      rw [api] at called stage
      cases called
      simp only [startsAlone, api] at alone
      subst alone
      exact ⟨kept.sound.newSignal stage.2, .inr ⟨stage.1, rfl⟩⟩
  | stopServer =>
      rw [api] at called stage
      cases called
      refine ⟨kept.sound, ?_⟩
      rcases stage with ⟨all, unset⟩ | ⟨unjoined, isSet⟩
      · have isNone : state.osdSignal.isSome = false := Option.isSome_eq_false_iff.mpr
          (Option.isNone_iff_eq_none.mpr unset)
        rw [isNone]
        exact ⟨all, unset⟩
      · have isSome : state.osdSignal.isSome = true := isSet
        rw [isSome]
        exact ⟨unjoined, isSet⟩
  | giveSignal =>
      rw [api] at called stage
      cases called
      exact kept.goTo stage
  | testRun =>
      rw [api] at called stage
      cases called
      rw [of_decide_eq_true running api]
      exact kept.goTo stage
  | join =>
      rw [api] at called stage
      obtain ⟨joined, joins, rfl⟩ := Option.map_eq_some_iff.mp called
      obtain ⟨⟨thread, isThread, started, notJoined⟩, isSet⟩ := stage
      obtain ⟨ended, rfl⟩ := State.joinThread_some joins isThread
      obtain ⟨sound, all⟩ :=
        kept.sound.join isThread started notJoined (of_decide_eq_true ended)
      exact ⟨sound, all, isSet⟩
  | destroySignal =>
      rw [api] at called stage
      cases called
      obtain ⟨all, isSet⟩ := stage
      obtain ⟨signal, isSignal⟩ := Option.isSome_iff_exists.mp isSet
      have isOsdSignal : state.osdSignal = some signal := isSignal
      have dropped : state.dropSignal =
          { state with destroyed := signal :: state.destroyed } := by
        unfold State.dropSignal
        rw [isOsdSignal]
      rw [dropped]
      exact ⟨kept.sound.destroySignal all isSignal, all, rfl⟩
  | destroy i =>
      rw [api] at called stage
      cases called
      exact kept.forEntry (fun id _ => kept.of_clockwork (State.destroyFor_clockwork _) stage)
        stage
  | maskDestroy i =>
      rw [api] at called stage
      cases called
      exact kept.forEntry (fun id _ => kept.of_clockwork (State.destroyFor_clockwork _) stage)
        stage
  | maskCreate i =>
      rw [api] at called stage
      cases called
      exact kept.forEntry (fun id _ => kept.of_clockwork (State.createFor_clockwork _ _) stage)
        stage

theorem step (kept : Kept state) {label : Label} (single : singleClock state label)
    (stepped : state.step label = some after) : Kept after := by
  cases label with
  | set id entry =>
      cases stepped
      exact ⟨kept.sound, kept.stage⟩
  | init | deinit | maskRestart => exact kept.enter stepped fun paired => paired
  | call outcome => exact kept.call single.1 single.2 stepped
  | tick thread made succeeds => exact kept.tick stepped

theorem start (entries : Entries) : Kept (.start entries) where
  sound :=
    { unstarted := fun _ _ => rfl
      present := fun _ started => absurd started (Nat.not_lt_zero _)
      joinedEnded := fun _ member => absurd member List.not_mem_nil
      nodup := List.nodup_nil
      unjoined := fun _ started => absurd started (Nat.not_lt_zero _)
      waits := fun _ _ _ waits => (Option.some_ne_none _ waits.symm).elim
      intact := fun _ isSignal => (Option.some_ne_none _ isSignal.symm).elim
      dropped := fun _ member => absurd member List.not_mem_nil }
  stage := ⟨fun _ started => absurd started (Nat.not_lt_zero _), rfl⟩

end Kept

theorem kept_of_reachable {state : State}
    (reachable : system.Reachable singleClock state) : Kept state := by
  refine reachable.invariant (fun _ isStart => ?_) fun _ _ _ kept single stepped =>
    kept.step single stepped
  obtain ⟨entries, rfl⟩ := isStart
  exact Kept.start entries

/-- After `rk_osd_deinit` every thread of the clock has ended and was joined once, and
at no time does a thread wait on a signal that is gone. -/
structure ClockStops (state : State) : Prop where
  joined : state.api = .off → ∀ thread < state.started,
    state.hasEnded thread = true ∧ state.joined.count thread = 1
  signals : ∀ thread id signal, state.clock thread = some (.wait id (some signal)) →
    signal ∉ state.destroyed

theorem clock_stops {state : State} (reachable : system.Reachable singleClock state) :
    ClockStops state := by
  have kept := kept_of_reachable reachable
  refine ⟨fun off thread started => ?_, fun thread id signal waits =>
    kept.sound.intact_of_wait waits⟩
  have stage := kept.stage
  rw [off] at stage
  exact ⟨decide_eq_true (kept.sound.ended stage.1 thread), kept.sound.count stage.1 started⟩

section Runs

def clocks (isClock : OsdId → Bool) : Entries := fun id =>
  ⟨if isClock id then some "dateTime".toList else none, 1, "cover".toList⟩

def calls (count : Nat) : List Label := List.replicate count (.call true)

/-- The clock of one round, from its start to its end. -/
def round : List Label :=
  .init :: calls 12 ++
    [.tick 0 true true, .tick 0 true true, .tick 0 true true, .tick 0 true true,
      .deinit, .call true, .call true, .call true, .tick 0 true true, .tick 0 true true,
      .tick 0 true true] ++ calls 11

theorem clock_stops_round :
    ∃ state, system.Reachable singleClock state ∧ state.api = .off ∧
      state.started = 1 ∧ ClockStops state := by
  let ran := system.guardedRun (fun state label => decide (singleClock state label))
    (.start (clocks (· = 0))) round
  have isSome : ran.isSome := by decide
  have reachable : system.Reachable singleClock (ran.get isSome) :=
    ⟨_, ⟨_, rfl⟩, System.reaches_of_guardedRun
      (fun _ _ allowed => of_decide_eq_true allowed) round (Option.some_get isSome).symm⟩
  exact ⟨_, reachable, rfl, rfl, clock_stops reachable⟩

/-- The thread of the first entry waits when the second entry renews the signal. -/
def twoClocks : List Label :=
  .init :: calls 6 ++
    [.tick 0 true true, .tick 0 true true, .tick 0 true true, .tick 0 true true,
      .call true]

/-- The create callback of the one clock fails, and then the module is stopped. -/
def failedClock : List Label :=
  .init :: calls 12 ++
    [.tick 0 true false, .tick 0 false false, .tick 0 false false, .deinit] ++ calls 13

def isAlone (state : State) (label : Label) : Prop := startsAlone state label = true

/-- A second clock drops the signal that the first waits on; and where there is one, its
thread is never joined after its create callback failed. -/
theorem clock_does_not_stop :
    (¬ ∀ state, system.Reachable System.anyStep state → ClockStops state) ∧
    ¬ ∀ state, system.Reachable isAlone state → ClockStops state := by
  constructor
  · intro general
    let ran := system.run (.start (clocks (· < 2))) twoClocks
    have isSome : ran.isSome := by decide
    have stops := general (ran.get isSome)
      (System.reachable_of_run ⟨_, rfl⟩ (Option.some_get isSome).symm)
    exact stops.signals 0 1 0 rfl List.mem_cons_self
  · intro general
    let ran := system.guardedRun startsAlone (.start (clocks (· = 0))) failedClock
    have isSome : ran.isSome := by decide
    have reachable : system.Reachable isAlone (ran.get isSome) :=
      ⟨_, ⟨_, rfl⟩, System.reaches_of_guardedRun (fun _ _ alone => alone) failedClock
        (Option.some_get isSome).symm⟩
    have once : 0 = 1 := ((general _ reachable).joined rfl 0 Nat.zero_lt_one).2
    cases once

end Runs

end Rkipc.Osd
