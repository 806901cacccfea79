import Rkipc.Transition.System
import Rkipc.Transition.Mutexes

namespace Rkipc.Signal

open Transition

/-! `rk_signal`: a semaphore that is posted only below a bound. -/

def semValueMax : Nat := 2147483647

structure RkSignal where
  value : Nat
  maxVal : Int
deriving DecidableEq

/-- Where a thread is; between its two steps a give has the value that it has read, and the
number of waits that had succeeded then. -/
inductive Point
  | idle
  | giving (val looked : Nat)
  | waiting (timeout : Int)
deriving DecidableEq

/-- `posted` and `taken` count the posts and the waits that return 0.  For each give that has
returned, `given` has the number of these waits when it posted or when it read the bound. -/
structure State where
  signal : RkSignal
  points : List Point
  defval : Nat
  posted : Nat
  taken : Nat
  given : List Nat
deriving DecidableEq

/-- `sem_init` refuses a value that it cannot hold, which every negative one is. -/
def rkSignalCreate (allocated : Bool) (defval maxval : Int) : Option RkSignal :=
  if allocated = false then none
  else if defval < 0 ∨ semValueMax < defval then none
  else some ⟨defval.toNat, maxval⟩

def start (signal : RkSignal) (threads : Nat) : State where
  signal := signal
  points := List.replicate threads .idle
  defval := signal.value
  posted := 0
  taken := 0
  given := []

/-- `look` and `give` are the two steps of `rk_signal_give`, which is all that
`rk_signal_reset` does; `wait` begins `rk_signal_wait`; one that finds no unit is woken by
one later, or gives up. -/
inductive Label
  | look (thread : Nat)
  | give (thread : Nat)
  | wait (thread : Nat) (timeout : Int)
  | wake (thread : Nat)
  | giveUp (thread : Nat) (interrupted : Bool)
deriving DecidableEq

namespace State

variable (state : State)

def move (thread : Nat) (point : Point) : State :=
  { state with points := state.points.set thread point }

/-- `sem_post`, which fails at the greatest value. -/
def semPost : State :=
  if state.signal.value < semValueMax then
    { state with
      signal := { state.signal with value := state.signal.value + 1 }
      posted := state.posted + 1 }
  else state

def take : State :=
  { state with
    signal := { state.signal with value := state.signal.value - 1 }
    taken := state.taken + 1 }

def step : Label → Option State
  | .look thread =>
      if state.points[thread]? = some .idle then
        some (state.move thread (.giving state.signal.value state.taken))
      else none
  | .give thread =>
      match state.points[thread]? with
      | some (.giving val looked) =>
          some <|
            if val < state.signal.maxVal then
              { state.semPost.move thread .idle with given := state.taken :: state.given }
            else { state.move thread .idle with given := looked :: state.given }
      | _ => none
  | .wait thread timeout =>
      if state.points[thread]? = some .idle then
        some (if 0 < state.signal.value then state.take else state.move thread (.waiting timeout))
      else none
  | .wake thread =>
      match state.points[thread]? with
      | some (.waiting _) =>
          if 0 < state.signal.value then some (state.take.move thread .idle) else none
      | _ => none
  | .giveUp thread interrupted =>
      match state.points[thread]? with
      | some (.waiting timeout) =>
          if interrupted = true ∨ 0 ≤ timeout then some (state.move thread .idle) else none
      | _ => none

end State

/-- Any number of threads on a signal that was created with its value in its bounds. -/
def signals : System State Label where
  initial state := ∃ (defval maxval : Int) (signal : RkSignal) (threads : Nat),
    0 ≤ defval ∧ defval ≤ maxval ∧ maxval ≤ semValueMax ∧
      rkSignalCreate true defval maxval = some signal ∧ state = start signal threads
  step := State.step

def Point.posts (maxVal : Int) : Point → Bool
  | .giving val _ => (val : Int) < maxVal
  | .idle | .waiting _ => false

namespace State

def posting (state : State) : Nat := state.points.countP (Point.posts state.signal.maxVal)

/-- A give has returned, and since it posted or read the bound no wait has succeeded. -/
def Unanswered (state : State) : Prop := ∃ made ∈ state.given, state.taken ≤ made

structure Latch (state : State) : Prop where
  bounded : state.signal.value ≤ state.signal.maxVal
  unchanged : ∀ (thread val looked : Nat) next,
    state.points[thread]? = some (.giving val looked) → state.signal.maxVal ≤ val →
    state.step (.give thread) = some next → next.signal = state.signal
  consumed : state.signal.value + state.taken = state.defval + state.posted
  given : state.posted ≤ state.given.length
  served : state.Unanswered → ∀ thread timeout next,
    state.step (.wait thread timeout) = some next → next.taken = state.taken + 1

/-- The bound is positive, and a value below it is read only while there is room for the gives
that are going to post and one more. -/
def Roomy (state : State) : Label → Prop
  | .look _ => 1 ≤ state.signal.maxVal ∧
      (state.signal.maxVal ≤ state.signal.value ∨
        state.signal.value + state.posting < state.signal.maxVal)
  | _ => True

instance (state : State) : ∀ label, Decidable (state.Roomy label)
  | .look _ => inferInstanceAs (Decidable (_ ∧ _))
  | .give _ | .wait _ _ | .wake _ | .giveUp _ _ => isTrue trivial

end State

inductive Moves (state : State) : Label → State → Prop
  | looks {thread : Nat} (isIdle : state.points[thread]? = some .idle) :
      Moves state (.look thread) (state.move thread (.giving state.signal.value state.taken))
  | posts {thread val looked : Nat}
      (isGiving : state.points[thread]? = some (.giving val looked))
      (below : val < state.signal.maxVal) :
      Moves state (.give thread)
        { state.semPost.move thread .idle with given := state.taken :: state.given }
  | passes {thread val looked : Nat}
      (isGiving : state.points[thread]? = some (.giving val looked))
      (full : state.signal.maxVal ≤ val) :
      Moves state (.give thread)
        { state.move thread .idle with given := looked :: state.given }
  | takes {thread : Nat} {timeout : Int} (isIdle : state.points[thread]? = some .idle)
      (positive : 0 < state.signal.value) : Moves state (.wait thread timeout) state.take
  | blocks {thread : Nat} {timeout : Int} (isIdle : state.points[thread]? = some .idle)
      (none : state.signal.value = 0) :
      Moves state (.wait thread timeout) (state.move thread (.waiting timeout))
  | wakes {thread : Nat} {timeout : Int}
      (isWaiting : state.points[thread]? = some (.waiting timeout))
      (positive : 0 < state.signal.value) :
      Moves state (.wake thread) (state.take.move thread .idle)
  | givesUp {thread : Nat} {timeout : Int} {interrupted : Bool}
      (isWaiting : state.points[thread]? = some (.waiting timeout)) :
      Moves state (.giveUp thread interrupted) (state.move thread .idle)

variable {state next : State} {label : Label}

theorem moves_of_step (stepped : state.step label = some next) : Moves state label next := by
  cases label with
  | look thread =>
      rw [State.step, Option.ite_none_right_eq_some] at stepped
      obtain ⟨isIdle, isNext⟩ := stepped
      cases isNext
      exact .looks isIdle
  | give thread =>
      rw [State.step] at stepped
      split at stepped
      next val looked isGiving =>
        cases stepped
        split
        next below => exact .posts isGiving below
        next full => exact .passes isGiving (Int.not_lt.mp full)
      next => cases stepped
  | wait thread timeout =>
      rw [State.step, Option.ite_none_right_eq_some] at stepped
      obtain ⟨isIdle, isNext⟩ := stepped
      cases isNext
      split
      next positive => exact .takes isIdle positive
      next none => exact .blocks isIdle (Nat.eq_zero_of_not_pos none)
  | wake thread =>
      rw [State.step] at stepped
      split at stepped
      next timeout isWaiting =>
        rw [Option.ite_none_right_eq_some] at stepped
        obtain ⟨positive, isNext⟩ := stepped
        cases isNext
        exact .wakes isWaiting positive
      next => cases stepped
  | giveUp thread interrupted =>
      rw [State.step] at stepped
      split at stepped
      next timeout isWaiting =>
        rw [Option.ite_none_right_eq_some] at stepped
        cases stepped.2
        exact .givesUp isWaiting
      next => cases stepped

section Points

variable {maxVal : Int} {thread : Nat} {old new : Point}

theorem posting_move (isOld : state.points[thread]? = some old) (new : Point) :
    (state.move thread new).posting + (old.posts state.signal.maxVal).toNat =
      state.posting + (new.posts state.signal.maxVal).toNat :=
  countP_set_add isOld new (Point.posts state.signal.maxVal)

theorem point_of_move {other : Nat} {point : Point}
    (isPoint : (state.move thread new).points[other]? = some point) :
    point = new ∨ state.points[other]? = some point := by
  by_cases same : thread = other
  · refine .inl ?_
    obtain rfl := same
    have inside : thread < (state.points.set thread new).length :=
      (List.getElem?_eq_some_iff.mp isPoint).1
    rw [List.length_set] at inside
    rw [State.move, List.getElem?_set_self inside] at isPoint
    exact (Option.some.inj isPoint).symm
  · refine .inr ?_
    rwa [State.move, List.getElem?_set_ne same] at isPoint

theorem posting_pos (isGiving : state.points[thread]? = some (.giving val looked))
    (below : (val : Int) < state.signal.maxVal) : 0 < state.posting :=
  List.countP_pos_iff.mpr ⟨_, List.mem_of_getElem? isGiving, decide_eq_true below⟩

end Points

/-- There is room for the gives that are going to post, and a unit or a later wait for each give
that has posted or read the bound. -/
structure Sound (state : State) : Prop where
  inRange : state.signal.maxVal ≤ semValueMax
  room : state.signal.value + state.posting ≤ state.signal.maxVal
  consumed : state.signal.value + state.taken = state.defval + state.posted
  given : state.posted ≤ state.given.length
  made : ∀ made ∈ state.given,
    made ≤ state.taken ∧ (made < state.taken ∨ 0 < state.signal.value)
  looked : ∀ (thread val looked : Nat), state.points[thread]? = some (.giving val looked) →
    looked ≤ state.taken ∧
      (state.signal.maxVal ≤ val → looked < state.taken ∨ 0 < state.signal.value)

section Steps

variable {thread val looked : Nat} {old new : Point}

theorem Sound.move (sound : Sound state) (isOld : state.points[thread]? = some old)
    (isNew : ∀ val looked, new ≠ .giving val looked) : Sound (state.move thread new) where
  inRange := sound.inRange
  room := by
    have moved := posting_move isOld new
    have notPosting : new.posts state.signal.maxVal = false := by
      cases new with
      | idle | waiting timeout => rfl
      | giving val looked => exact absurd rfl (isNew val looked)
    rw [notPosting, Bool.toNat_false] at moved
    have room := sound.room
    change state.signal.value + (state.move thread new).posting ≤ state.signal.maxVal
    omega
  consumed := sound.consumed
  given := sound.given
  made := sound.made
  looked other val looked isGiving :=
    (point_of_move isGiving).elim (fun same => absurd same.symm (isNew val looked))
      (sound.looked other val looked)

theorem Sound.take (sound : Sound state) (positive : 0 < state.signal.value) :
    Sound state.take where
  inRange := sound.inRange
  room := by
    have room := sound.room
    change ((state.signal.value - 1 : Nat) : Int) + state.posting ≤ state.signal.maxVal
    omega
  consumed := by
    have consumed := sound.consumed
    change state.signal.value - 1 + (state.taken + 1) = state.defval + state.posted
    omega
  given := sound.given
  made made member :=
    have atMost := (sound.made made member).1
    ⟨Nat.le_succ_of_le atMost, .inl (Nat.lt_succ_of_le atMost)⟩
  looked other val looked isGiving :=
    have atMost := (sound.looked other val looked isGiving).1
    ⟨Nat.le_succ_of_le atMost, fun _ => .inl (Nat.lt_succ_of_le atMost)⟩

theorem Sound.look (sound : Sound state) (isIdle : state.points[thread]? = some .idle)
    (roomy : state.Roomy (.look thread)) :
    Sound (state.move thread (.giving state.signal.value state.taken)) where
  inRange := sound.inRange
  room := by
    have moved := posting_move isIdle (.giving state.signal.value state.taken)
    have room := sound.room
    change state.signal.value +
      (state.move thread (.giving state.signal.value state.taken)).posting ≤ state.signal.maxVal
    rw [show Point.idle.posts state.signal.maxVal = false from rfl, Bool.toNat_false] at moved
    by_cases below : (state.signal.value : Int) < state.signal.maxVal
    · have free := roomy.2.resolve_left (Int.not_le.mpr below)
      rw [show (Point.giving state.signal.value state.taken).posts state.signal.maxVal = true from
        decide_eq_true below, Bool.toNat_true] at moved
      omega
    · rw [show (Point.giving state.signal.value state.taken).posts state.signal.maxVal = false from
        decide_eq_false below, Bool.toNat_false] at moved
      omega
  consumed := sound.consumed
  given := sound.given
  made := sound.made
  looked other val looked isGiving := by
    cases point_of_move isGiving with
    | inl same =>
        cases same
        have positive := roomy.1
        refine ⟨Nat.le_refl _, fun full => .inr ?_⟩
        change state.signal.maxVal ≤ state.signal.value at full
        change 0 < state.signal.value
        omega
    | inr before => exact sound.looked other val looked before

theorem Sound.semPost_eq (sound : Sound state)
    (isGiving : state.points[thread]? = some (.giving val looked))
    (below : (val : Int) < state.signal.maxVal) : state.semPost =
      { state with
        signal := { state.signal with value := state.signal.value + 1 }
        posted := state.posted + 1 } := by
  have room := sound.room
  have inRange := sound.inRange
  have positive := posting_pos isGiving below
  exact if_pos (by omega)

theorem Sound.post (sound : Sound state)
    (isGiving : state.points[thread]? = some (.giving val looked))
    (below : (val : Int) < state.signal.maxVal) :
    Sound { state.semPost.move thread .idle with given := state.taken :: state.given } := by
  have moved := posting_move isGiving .idle
  have room := sound.room
  have consumed := sound.consumed
  rw [show (Point.giving val looked).posts state.signal.maxVal = true from decide_eq_true below,
    show Point.idle.posts state.signal.maxVal = false from rfl, Bool.toNat_true,
    Bool.toNat_false] at moved
  rw [sound.semPost_eq isGiving below]
  exact {
    inRange := sound.inRange
    room := by
      change ((state.signal.value + 1 : Nat) : Int) + (state.move thread .idle).posting ≤
        state.signal.maxVal
      omega
    consumed := by
      change state.signal.value + 1 + state.taken = state.defval + (state.posted + 1)
      omega
    given := Nat.succ_le_succ sound.given
    made := fun made member =>
      ⟨(List.mem_cons.mp member).elim Nat.le_of_eq fun inGiven => (sound.made made inGiven).1,
        .inr (Nat.succ_pos _)⟩
    looked := fun other val looked (isOther : (state.move thread .idle).points[other]? = _) =>
      (point_of_move isOther).elim (fun same => nomatch same) fun before =>
        ⟨(sound.looked other val looked before).1, fun _ => .inr (Nat.succ_pos _)⟩ }

theorem Sound.pass (sound : Sound state)
    (isGiving : state.points[thread]? = some (.giving val looked))
    (full : state.signal.maxVal ≤ val) :
    Sound { state.move thread .idle with given := looked :: state.given } := by
  have moved : Sound (state.move thread .idle) := sound.move isGiving nofun
  have ⟨atMost, answered⟩ := sound.looked thread val looked isGiving
  exact {
    inRange := sound.inRange
    room := moved.room
    consumed := sound.consumed
    given := Nat.le_succ_of_le sound.given
    made := List.forall_mem_cons.mpr ⟨⟨atMost, answered full⟩, sound.made⟩
    looked := moved.looked }

theorem Sound.step (sound : Sound state) (roomy : state.Roomy label)
    (moves : Moves state label next) : Sound next := by
  cases moves with
  | looks isIdle => exact sound.look isIdle roomy
  | posts isGiving below => exact sound.post isGiving below
  | passes isGiving full => exact sound.pass isGiving full
  | takes isIdle positive => exact sound.take positive
  | blocks isIdle none => exact sound.move isIdle nofun
  | wakes isWaiting positive => exact (sound.take positive).move isWaiting nofun
  | givesUp isWaiting => exact sound.move isWaiting nofun

end Steps

theorem sound_start {defval maxval : Int} {signal : RkSignal} (nonneg : 0 ≤ defval)
    (atMost : defval ≤ maxval) (inRange : maxval ≤ semValueMax)
    (created : rkSignalCreate true defval maxval = some signal) (threads : Nat) :
    Sound (start signal threads) := by
  rw [rkSignalCreate, if_neg (by decide), if_neg (by omega)] at created
  cases created
  have none : (start ⟨defval.toNat, maxval⟩ threads).posting = 0 :=
    List.countP_eq_zero.mpr fun point member => by
      rw [List.eq_of_mem_replicate member]
      exact Bool.false_ne_true
  exact {
    inRange
    room := by
      rw [none]
      change ((defval.toNat : Nat) : Int) + 0 ≤ maxval
      omega
    consumed := rfl
    given := Nat.le_refl 0
    made := nofun
    looked := fun thread val looked isGiving =>
      nomatch List.eq_of_mem_replicate (List.mem_of_getElem? isGiving) }

theorem sound_of_reachable (reachable : signals.Reachable State.Roomy state) : Sound state := by
  refine System.Reachable.invariant ?_ ?_ reachable
  · rintro _ ⟨defval, maxval, signal, threads, nonneg, atMost, inRange, created, rfl⟩
    exact sound_start nonneg atMost inRange created threads
  · intro state label next sound roomy stepped
    exact sound.step roomy (moves_of_step stepped)

theorem Sound.latch (sound : Sound state) : state.Latch where
  bounded := by
    have room := sound.room
    omega
  unchanged thread val looked next isGiving full stepped := by
    cases moves_of_step stepped with
    | posts isPosting below =>
        cases isPosting.symm.trans isGiving
        exact absurd below (Int.not_lt.mpr full)
    | passes => rfl
  consumed := sound.consumed
  given := sound.given
  served := by
    rintro ⟨made, member, since⟩ thread timeout next stepped
    have positive := (sound.made made member).2.resolve_left (Nat.not_lt.mpr since)
    cases moves_of_step stepped with
    | takes => rfl
    | blocks isIdle none => exact absurd none (Nat.ne_of_gt positive)

theorem latch_of_roomy (reachable : signals.Reachable State.Roomy state) : state.Latch :=
  (sound_of_reachable reachable).latch

theorem posts_all : ∀ (count : Nat) {state : State}, state.posting = count →
    state.signal.value + count ≤ semValueMax → ∃ after,
      signals.Reaches System.anyStep state after ∧
        after.signal = { state.signal with value := state.signal.value + count }
  | 0, state, _, _ => ⟨state, .refl, rfl⟩
  | count + 1, state, isCount, inRange => by
      have positive : 0 < state.posting := isCount.symm ▸ Nat.succ_pos count
      obtain ⟨point, member, isPosting⟩ := List.countP_pos_iff.mp positive
      obtain ⟨thread, isAt⟩ := List.mem_iff_getElem?.mp member
      cases point with
      | idle | waiting timeout => cases isPosting
      | giving val looked =>
          have below : (val : Int) < state.signal.maxVal := of_decide_eq_true isPosting
          have moved := posting_move isAt .idle
          rw [isPosting, show Point.idle.posts state.signal.maxVal = false from rfl,
            Bool.toNat_true, Bool.toNat_false] at moved
          let next : State :=
            { state.semPost.move thread .idle with given := state.taken :: state.given }
          have stepped : signals.step state (.give thread) = some next := by
            change state.step (.give thread) = some next
            rw [State.step, isAt]
            exact congrArg some (if_pos below)
          have posted : state.semPost =
              { state with
                signal := { state.signal with value := state.signal.value + 1 }
                posted := state.posted + 1 } := if_pos (by omega)
          have isSignal : next.signal =
              { state.signal with value := state.signal.value + 1 } :=
            congrArg State.signal posted
          have isNext : next.posting = count := by
            have same : next.posting = (state.move thread .idle).posting := by
              change ((state.semPost.move thread .idle).points.countP
                (Point.posts state.semPost.signal.maxVal)) = _
              rw [posted]
              rfl
            omega
          have isValue : next.signal.value = state.signal.value + 1 :=
            congrArg RkSignal.value isSignal
          obtain ⟨after, reaches, isAfter⟩ := posts_all count isNext (by omega)
          refine ⟨after, (System.Reaches.step .refl trivial stepped).trans reaches, ?_⟩
          rw [isAfter, isSignal]
          dsimp only
          rw [Nat.add_assoc, Nat.add_comm 1 count]

/-- From every read that the condition leaves out, the bound can be passed. -/
theorem overshoots_of_crowded {thread : Nat} (reachable : signals.Reachable State.Roomy state)
    (positive : 1 ≤ state.signal.maxVal) (finite : state.signal.maxVal < semValueMax)
    (crowded : ¬ state.Roomy (.look thread))
    (stepped : state.step (.look thread) = some next) : ∃ after,
      signals.Reaches System.anyStep next after ∧ after.signal.maxVal < after.signal.value := by
  have sound := sound_of_reachable reachable
  obtain ⟨notFull, noRoom⟩ := not_or.mp fun free => crowded ⟨positive, free⟩
  cases moves_of_step stepped with
  | looks isIdle =>
      have moved := posting_move isIdle (.giving state.signal.value state.taken)
      rw [show Point.idle.posts state.signal.maxVal = false from rfl,
        show (Point.giving state.signal.value state.taken).posts state.signal.maxVal = true from
          decide_eq_true (Int.not_le.mp notFull), Bool.toNat_false, Bool.toNat_true] at moved
      have room := sound.room
      obtain ⟨after, reaches, isAfter⟩ := posts_all _ moved (by
        change state.signal.value + (state.posting + 1) ≤ semValueMax
        omega)
      refine ⟨after, reaches, ?_⟩
      rw [isAfter]
      change state.signal.maxVal < ((state.signal.value + (state.posting + 1) : Nat) : Int)
      omega

/-- Two gives one behind the other, and a wait. -/
theorem latch_of_roomy_two : ∃ state : State, state.taken = 1 ∧ state.Latch := by
  let labels : List Label := [.look 0, .give 0, .look 1, .give 1, .wait 2 (-1)]
  have ran : (signals.guardedRun (fun state label => decide (state.Roomy label))
      (start ⟨0, 1⟩ 3) labels).map State.taken = some 1 := by decide
  obtain ⟨state, ran, isTaken⟩ := Option.map_eq_some_iff.mp ran
  have reachable : signals.Reachable State.Roomy state :=
    ⟨_, ⟨0, 1, ⟨0, 1⟩, 3, by decide, by decide, by decide, by decide, rfl⟩,
      System.reaches_of_guardedRun (fun _ _ allowed => of_decide_eq_true allowed) labels ran⟩
  exact ⟨state, isTaken, latch_of_roomy reachable⟩

/-- Two gives read the value before either posts. -/
theorem two_units : ∃ state : State, signals.Reachable System.anyStep state ∧
    state.signal = ⟨2, 1⟩ ∧ ¬ state.Latch := by
  let labels : List Label := [.look 0, .look 1, .give 0, .give 1]
  have ran : (signals.run (start ⟨0, 1⟩ 2) labels).map State.signal = some ⟨2, 1⟩ := by
    decide
  obtain ⟨state, ran, isSignal⟩ := Option.map_eq_some_iff.mp ran
  refine ⟨state, System.reachable_of_run
    ⟨0, 1, ⟨0, 1⟩, 2, by decide, by decide, by decide, by decide, rfl⟩ ran, isSignal, ?_⟩
  intro latch
  have bounded := latch.bounded
  rw [isSignal] at bounded
  exact absurd bounded (by decide)

end Rkipc.Signal
