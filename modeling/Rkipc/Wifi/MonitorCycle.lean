import Rkipc.Transition.System
import Rkipc.Wifi.MonitorEvents

namespace Rkipc.Wifi.Monitor

open Ini Transition

/-! The threads that `RK_wifi_enable` starts and stops. -/

inductive Phase
  | connecting
  | running
  | ended
deriving DecidableEq

/-- A thread of `RK_wifi_start_monitor`: whether it was detached, whether it has opened its
sockets, how often they were closed, and the rounds of its loop since it was told that the
connection is at its end. -/
structure Thread where
  phase : Phase
  detached : Bool
  opened : Bool
  closes : Nat
  since : Option Nat
deriving DecidableEq

/-- A call of `RK_wifi_enable` that is under way. -/
inductive Call
  | idle
  | starting
  | stopping
deriving DecidableEq

/-- `monitorConn` is the thread that opened what the variables refer to, `badThread` is set
when a thread is cancelled or joined that was detached or has ended. -/
structure State where
  gstateOpen : Bool
  supplicant : Bool
  threadId : Option Nat
  threads : List Thread
  monitorConn : Option Nat
  call : Call
  badThread : Bool
deriving DecidableEq

def start (supplicant : Bool) : State := ⟨false, supplicant, none, [], none, .idle, false⟩

/-- `enable` begins a call of `RK_wifi_enable`, `starts` and `stops` are the rest of it, behind
the commands that it runs.  `supplicant` is the end or the start of the process by others. -/
inductive Label
  | enable (on : Bool)
  | starts (supplicant : Bool)
  | stops
  | supplicant (alive : Bool)
  | connect (thread : Nat) (works : Bool)
  | round (thread : Nat) (poll : Poll)
deriving DecidableEq

namespace State

variable (state : State)

def isWifiEnable : Bool := state.gstateOpen && state.supplicant

/-- The thread, if it is in this phase. -/
def at? (thread : Nat) (phase : Phase) : Option Thread :=
  state.threads[thread]?.filter fun found => found.phase = phase

def set (thread : Nat) (changed : Thread) : State :=
  { state with threads := state.threads.set thread changed }

/-- The connection is closed, or `wpa_supplicant` says that it ends.  When it dies without a
word the polls only time out, and the thread is not told. -/
def told (poll : Poll) : Bool :=
  state.monitorConn.isNone ||
    match poll with
    | .noInput => true
    | .message [] => true
    | .message bytes => strstr (withoutLevel bytes) "CTRL-EVENT-TERMINATING".toList
    | _ => false

/-- One more round since the thread was told, or the first one. -/
def since (thread : Thread) (poll : Poll) : Option Nat :=
  match thread.since with
  | some rounds => some (rounds + 1)
  | none => if state.told poll then some 0 else none

def wifiCloseSockets : State :=
  match state.monitorConn with
  | none => state
  | some owner =>
      { state with
        threads := state.threads.modify owner fun thread =>
          { thread with closes := thread.closes + 1 }
        monitorConn := none }

/-- `RK_wifi_enable`, up to the end of the processes that it kills. -/
def enable (on : Bool) : State :=
  if on then
    if state.isWifiEnable then state else { state with supplicant := false, call := .starting }
  else if state.isWifiEnable then { state with supplicant := false, call := .stopping }
  else state

/-- The end of `RK_wifi_enable(1)`, with `pthread_create` and `pthread_detach`. -/
def starts (supplicant : Bool) : State :=
  { state with
    gstateOpen := true
    supplicant := supplicant
    threadId := some state.threads.length
    threads := state.threads ++ [⟨.connecting, true, false, 0, none⟩]
    call := .idle }

/-- The end of `RK_wifi_enable(0)`, with `pthread_cancel` and `pthread_join`. -/
def stops : State :=
  let stopped := { state with gstateOpen := false, threadId := none, call := .idle }
  match state.threadId with
  | none => stopped
  | some thread =>
      match state.threads[thread]? with
      | none => stopped
      | some found =>
          { stopped with
            threads := state.threads.set thread { found with phase := .ended }
            badThread := state.badThread || found.detached || found.phase = .ended }

/-- `wifi_connect_to_supplicant` and the branch on its result. -/
def connect (thread : Nat) (found : Thread) (works : Bool) : State :=
  if works && state.supplicant then
    { state.set thread { found with phase := .running, opened := true } with
      monitorConn := some thread }
  else state.set thread { found with phase := .ended }

/-- One round of the loop of `RK_wifi_start_monitor`. -/
def round (thread : Nat) (found : Thread) (poll : Poll) : State :=
  match wifiWaitOnSocket state.monitorConn.isSome state.supplicant poll with
  | none => state
  | some (event, goesOn) =>
      let found := { found with since := state.since found poll }
      if goesOn = false then state.set thread found
      else if (dispatchEvent event).result ≠ 0 then
        (state.set thread { found with phase := .ended }).wifiCloseSockets
      else state.set thread found

def step : Label → Option State
  | .enable on => if state.call = .idle then some (state.enable on) else none
  | .starts supplicant => if state.call = .starting then some (state.starts supplicant) else none
  | .stops => if state.call = .stopping then some state.stops else none
  | .supplicant alive => some { state with supplicant := alive }
  | .connect thread works =>
      (state.at? thread .connecting).map fun found => state.connect thread found works
  | .round thread poll =>
      (state.at? thread .running).map fun found => state.round thread found poll

end State

def system : System State Label where
  initial state := ∃ supplicant, state = start supplicant
  step := State.step

/-- At most one thread is alive, none is in its loop for more rounds than the limit since it
was told, the sockets of a thread are closed once by its end, and threads are cancelled and
joined only while they may be. -/
structure State.Sound (limit : Nat) (state : State) : Prop where
  one : ∀ (first second : Nat) (thread other : Thread), state.threads[first]? = some thread →
    state.threads[second]? = some other → thread.phase ≠ .ended → other.phase ≠ .ended →
      first = second
  leaves : ∀ thread ∈ state.threads, thread.phase = .running →
    ∀ rounds, thread.since = some rounds → rounds ≤ limit
  closed : ∀ thread ∈ state.threads, thread.closes ≤ 1 ∧
    (thread.phase = .ended → thread.opened = true → thread.closes = 1)
  joins : state.badThread = false

/-- A call that does something starts a thread when there is none and stops none, and no
thread is told that the connection is at its end. -/
def Clean (state : State) : Label → Prop
  | .enable true => state.isWifiEnable = false → ∀ thread ∈ state.threads, thread.phase = .ended
  | .enable false => state.isWifiEnable = false
  | .round thread poll => ∀ found, state.at? thread .running = some found → state.told poll = false
  | _ => True

/-- A thread that has not been told anything, and whose sockets are open in its loop only. -/
structure Thread.Fresh (thread : Thread) : Prop where
  since : thread.since = none
  closes : thread.closes = 0
  opened : thread.opened = true → thread.phase = .running

/-- No two different threads are alive. -/
def Alone (threads : List Thread) : Prop :=
  ∀ (first second : Nat) (thread other : Thread), threads[first]? = some thread →
    threads[second]? = some other → thread.phase ≠ .ended → other.phase ≠ .ended →
      first = second

structure State.Kept (state : State) : Prop where
  alone : Alone state.threads
  fresh : ∀ thread ∈ state.threads, thread.Fresh
  starting : state.call = .starting → ∀ thread ∈ state.threads, thread.phase = .ended
  stopping : state.call ≠ .stopping
  joins : state.badThread = false

section Threads

variable {threads : List Thread} {index : Nat} {found changed : Thread}

theorem Alone.set (alone : Alone threads) (isFound : threads[index]? = some found)
    (alive : found.phase ≠ .ended) : Alone (threads.set index changed) := by
  have before : ∀ (position : Nat) (thread : Thread),
      (threads.set index changed)[position]? = some thread → thread.phase ≠ .ended →
        ∃ old, threads[position]? = some old ∧ old.phase ≠ .ended := by
    intro position thread isThread threadAlive
    by_cases same : index = position
    · exact ⟨found, same ▸ isFound, alive⟩
    · rw [List.getElem?_set_ne same] at isThread
      exact ⟨thread, isThread, threadAlive⟩
  intro first second thread other isFirst isSecond firstAlive secondAlive
  obtain ⟨old, isOld, oldAlive⟩ := before first thread isFirst firstAlive
  obtain ⟨oldOther, isOldOther, oldOtherAlive⟩ := before second other isSecond secondAlive
  exact alone first second old oldOther isOld isOldOther oldAlive oldOtherAlive

theorem Alone.append (ended : ∀ thread ∈ threads, thread.phase = .ended) (last : Thread) :
    Alone (threads ++ [last]) := by
  have isLast : ∀ (position : Nat) (thread : Thread),
      (threads ++ [last])[position]? = some thread → thread.phase ≠ .ended →
        position = threads.length := by
    intro position thread isThread alive
    rcases Nat.lt_trichotomy position threads.length with earlier | same | later
    · rw [List.getElem?_append_left earlier] at isThread
      exact absurd (ended thread (List.mem_of_getElem? isThread)) alive
    · exact same
    · have outside : (threads ++ [last]).length ≤ position := by
        rw [List.length_append]
        exact later
      rw [List.getElem?_eq_none outside] at isThread
      cases isThread
  intro first second thread other isFirst isSecond firstAlive secondAlive
  exact (isLast first thread isFirst firstAlive).trans
    (isLast second other isSecond secondAlive).symm

end Threads

theorem State.at?_eq_some {state : State} {thread : Nat} {phase : Phase} {found : Thread} :
    state.at? thread phase = some found ↔
      state.threads[thread]? = some found ∧ found.phase = phase := by
  rw [State.at?, Option.filter_eq_some_iff, decide_eq_true_eq]

namespace State.Kept

variable {state next : State} {label : Label}

theorem start (supplicant : Bool) : (start supplicant).Kept where
  alone := by
    intro first second thread other isFirst
    cases isFirst
  fresh := by
    intro thread member
    cases member
  starting := by
    intro isStarting
    cases isStarting
  stopping := by
    intro isStopping
    cases isStopping
  joins := rfl

theorem set (kept : state.Kept) {thread : Nat} {found changed : Thread} {phase : Phase}
    (isFound : state.at? thread phase = some found) (alive : phase ≠ .ended)
    (fresh : changed.Fresh) : (state.set thread changed).Kept := by
  obtain ⟨isAt, isPhase⟩ := at?_eq_some.mp isFound
  have foundAlive : found.phase ≠ .ended := isPhase ▸ alive
  refine ⟨kept.alone.set isAt foundAlive, ?_, ?_, kept.stopping, kept.joins⟩
  · intro other member
    rcases List.mem_or_eq_of_mem_set member with earlier | isNew
    · exact kept.fresh other earlier
    · exact isNew ▸ fresh
  · intro isStarting
    exact absurd (kept.starting isStarting found (List.mem_of_getElem? isAt)) foundAlive

theorem enable (kept : state.Kept) {on : Bool} (clean : Clean state (.enable on)) :
    (state.enable on).Kept := by
  unfold State.enable
  cases on with
  | true =>
      cases enabled : state.isWifiEnable with
      | true => exact kept
      | false =>
          refine ⟨kept.alone, kept.fresh, fun _ => clean enabled, ?_, kept.joins⟩
          intro isStopping
          cases isStopping
  | false =>
      have notEnabled : state.isWifiEnable = false := clean
      rw [notEnabled]
      exact kept

theorem starts (kept : state.Kept) (isStarting : state.call = .starting) (supplicant : Bool) :
    (state.starts supplicant).Kept := by
  have ended := kept.starting isStarting
  refine ⟨Alone.append ended _, ?_, ?_, ?_, kept.joins⟩
  · intro thread member
    rcases List.mem_append.mp member with earlier | isNew
    · exact kept.fresh thread earlier
    · cases List.mem_singleton.mp isNew
      refine ⟨rfl, rfl, ?_⟩
      intro opened
      cases opened
  · intro isStarting
    cases isStarting
  · intro isStopping
    cases isStopping

theorem connect (kept : state.Kept) {thread : Nat} {found : Thread}
    (isFound : state.at? thread .connecting = some found) (works : Bool) :
    (state.connect thread found works).Kept := by
  obtain ⟨isAt, isConnecting⟩ := at?_eq_some.mp isFound
  have fresh := kept.fresh found (List.mem_of_getElem? isAt)
  have closed : found.opened = false := by
    by_contra opened
    have running := fresh.opened (Bool.not_eq_false _ ▸ opened)
    rw [isConnecting] at running
    cases running
  have alive : Phase.connecting ≠ .ended := by decide
  unfold State.connect
  split
  · have connected : (state.set thread { found with phase := .running, opened := true }).Kept :=
      kept.set isFound alive ⟨fresh.since, fresh.closes, fun _ => rfl⟩
    exact ⟨connected.alone, connected.fresh, connected.starting, connected.stopping,
      connected.joins⟩
  · refine kept.set isFound alive ⟨fresh.since, fresh.closes, ?_⟩
    intro opened
    exact absurd (closed.symm.trans opened) Bool.false_ne_true

theorem round (kept : state.Kept) {thread : Nat} {found : Thread} {poll : Poll}
    (isFound : state.at? thread .running = some found) (silent : state.told poll = false) :
    (state.round thread found poll).Kept := by
  obtain ⟨isAt, isRunning⟩ := at?_eq_some.mp isFound
  have fresh := kept.fresh found (List.mem_of_getElem? isAt)
  have since : state.since found poll = none := by
    rw [State.since, fresh.since, silent]
    rfl
  have alive : Phase.running ≠ .ended := by decide
  have same : (state.set thread { found with since := state.since found poll }).Kept :=
    kept.set isFound alive ⟨since, fresh.closes, fun _ => isRunning⟩
  unfold State.round
  split
  · exact kept
  next event goesOn _ =>
    simp only [dispatchEvent_result, ne_eq, not_true_eq_false, if_false]
    split
    · exact same
    · exact same

theorem step (kept : state.Kept) (clean : Clean state label)
    (stepped : state.step label = some next) : next.Kept := by
  cases label with
  | enable on =>
      rw [State.step] at stepped
      split at stepped
      · cases stepped
        exact kept.enable clean
      · cases stepped
  | starts supplicant =>
      rw [State.step] at stepped
      split at stepped
      next isStarting =>
        cases stepped
        exact kept.starts isStarting supplicant
      next => cases stepped
  | stops =>
      rw [State.step, if_neg kept.stopping] at stepped
      cases stepped
  | supplicant alive =>
      cases stepped
      exact ⟨kept.alone, kept.fresh, kept.starting, kept.stopping, kept.joins⟩
  | connect thread works =>
      obtain ⟨found, isFound, rfl⟩ := Option.map_eq_some_iff.mp stepped
      exact kept.connect isFound works
  | round thread poll =>
      obtain ⟨found, isFound, rfl⟩ := Option.map_eq_some_iff.mp stepped
      exact kept.round isFound (clean found isFound)

theorem sound (kept : state.Kept) (limit : Nat) : state.Sound limit where
  one := kept.alone
  leaves := by
    intro thread member _ rounds isRounds
    rw [(kept.fresh thread member).since] at isRounds
    cases isRounds
  closed := by
    intro thread member
    have fresh := kept.fresh thread member
    refine ⟨fresh.closes ▸ Nat.zero_le 1, ?_⟩
    intro ended opened
    have running := fresh.opened opened
    rw [ended] at running
    cases running
  joins := kept.joins

end State.Kept

theorem monitor_sound {limit : Nat} {state : State} (reachable : system.Reachable Clean state) :
    state.Sound limit := by
  have kept : state.Kept := by
    refine reachable.invariant ?_ ?_
    · rintro _ ⟨supplicant, rfl⟩
      exact State.Kept.start supplicant
    · intro before label next kept clean stepped
      exact kept.step clean stepped
  exact kept.sound limit

def cleanly (state : State) : Label → Bool
  | .enable true => state.isWifiEnable || state.threads.all fun thread => thread.phase = .ended
  | .enable false => !state.isWifiEnable
  | .round _ poll => !state.told poll
  | _ => true

theorem cleanly_clean (state : State) (label : Label) (checked : cleanly state label = true) :
    Clean state label := by
  cases label with
  | enable on =>
      cases on with
      | true =>
          intro notEnabled thread member
          rw [cleanly, notEnabled, Bool.false_or, List.all_eq_true] at checked
          exact of_decide_eq_true (checked thread member)
      | false =>
          have notEnabled : state.isWifiEnable = false := by simpa [cleanly] using checked
          exact notEnabled
  | round thread poll =>
      intro found _
      simpa [cleanly] using checked
  | starts supplicant => exact trivial
  | stops => exact trivial
  | supplicant alive => exact trivial
  | connect thread works => exact trivial

/-- A first attempt fails, a second one gets as far as the events. -/
def retried : List Label :=
  [.enable true, .starts true, .connect 0 false, .supplicant false, .enable true, .starts true,
    .connect 1 true, .round 1 (.message "<3>CTRL-EVENT-SCAN-RESULTS ".toList),
    .round 1 .recvFailed, .round 1 .timedOut]

theorem monitor_sound_retried :
    ∃ state, system.Reachable Clean state ∧ state.threads.length = 2 ∧ state.Sound 0 := by
  let ran := system.guardedRun cleanly (start false) retried
  have made : ran.map (fun state => state.threads.length) = some 2 := by decide
  obtain ⟨state, reached, isTwo⟩ := Option.map_eq_some_iff.mp made
  have reachable : system.Reachable Clean state :=
    ⟨_, ⟨false, rfl⟩, System.reaches_of_guardedRun cleanly_clean retried reached⟩
  exact ⟨state, reachable, isTwo, monitor_sound reachable⟩

/-- `wpa_supplicant` dies, which its monitor does not notice, and Wi-Fi is enabled again. -/
def died : List Label :=
  [.enable true, .starts true, .connect 0 true, .supplicant false, .round 0 .noInput,
    .enable true, .starts true]

theorem two_monitors :
    ¬ ∃ limit, ∀ state, system.Reachable System.anyStep state → state.Sound limit := by
  rintro ⟨limit, general⟩
  let ran := system.run (start false) died
  have ends : ran.map (fun state =>
      (state.threads[0]?.map Thread.phase, state.threads[1]?.map Thread.phase)) =
        some (some .running, some .connecting) := by decide
  obtain ⟨state, reached, phases⟩ := Option.map_eq_some_iff.mp ends
  obtain ⟨isFirst, isSecond⟩ := Prod.mk.inj phases
  obtain ⟨first, atFirst, firstRuns⟩ := Option.map_eq_some_iff.mp isFirst
  obtain ⟨second, atSecond, secondConnects⟩ := Option.map_eq_some_iff.mp isSecond
  have sound := general state (System.reachable_of_run ⟨false, rfl⟩ reached)
  have firstAlive : first.phase ≠ .ended := by
    rw [firstRuns]
    decide
  have secondAlive : second.phase ≠ .ended := by
    rw [secondConnects]
    decide
  exact absurd (sound.one 0 1 first second atFirst atSecond firstAlive secondAlive) (by decide)

end Rkipc.Wifi.Monitor
