import Rkipc.Engine.RknnPool
import Rkipc.Libc.Align

namespace Rkipc.Video.Inference

open Engine Libc Transition

/-! `yolo26_inference` over its pool of models: when the detections that the pool returns
are drawn. -/

/-- Where the thread is: at the head of its loop, behind the copy of a frame, in `put`,
before `get`, in it, behind it with what it delivered, behind the loop. -/
inductive Place (ι δ : Type)
  | head
  | copied (frame : ι)
  | putting (frame : ι)
  | asking (frame : ι)
  | waiting (frame : ι)
  | asked (frame : ι) (delivered : Option (List δ))
  | ended

structure Iteration (ι δ : Type) where
  frame : ι
  delivered : Option (List δ)
  drawn : Option (List δ)
deriving DecidableEq

structure Thread (ι δ : Type) where
  place : Place ι δ
  loopCount : Int
  objects : List δ
  pool : RknnPool ι (List δ)
  iterations : List (Iteration ι δ)

/-- `getChnFrame` is with the frame, if one came in time; `leave` is the end of the loop
where `g_video_run_` is 0; the last two are steps of the workers. -/
inductive Step (ι δ : Type)
  | getChnFrame (frame : Option ι)
  | leave
  | put
  | skipPut
  | submit (notified : Option Nat)
  | get
  | deliver
  | draw
  | drain
  | finish (worker : Nat) (output : List δ)
  | pool (label : Label (Job ι))

variable {ι δ : Type}

def getReturned (delivered : Option (List δ)) : Int := if delivered.isSome then 0 else 1

namespace Thread

def start (threadNum : Nat) : Thread ι δ where
  place := .head
  loopCount := 0
  objects := []
  pool := .start threadNum
  iterations := []

/-- The end of an iteration; the counter is an `int32_t`, whose overflow has no meaning. -/
def draw (thread : Thread ι δ) (frame : ι) (delivered : Option (List δ)) :
    Option (Thread ι δ) :=
  (toInt (thread.loopCount + 1)).map fun loopCount =>
    { thread with
      place := .head
      loopCount := loopCount
      iterations := thread.iterations ++
        [Iteration.mk frame delivered
          (if getReturned delivered ≠ 0 then some thread.objects else none)] }

/-- A step of the pool, behind which the thread is at a place. -/
def inPool (thread : Thread ι δ) (label : RknnLabel ι (List δ)) (place : Place ι δ) :
    Option (Thread ι δ) :=
  (thread.pool.step label).map fun pool => { thread with pool := pool, place := place }

def step (thread : Thread ι δ) (label : Step ι δ) : Option (Thread ι δ) :=
  match thread.place, label with
  | .head, .getChnFrame frame => some { thread with place := frame.elim .head .copied }
  | .head, .leave => some { thread with place := .ended }
  | .copied frame, .put =>
      if thread.loopCount.tmod 4 = 0 then thread.inPool (.put frame) (.putting frame) else none
  | .copied frame, .skipPut =>
      if thread.loopCount.tmod 4 = 0 then none else some { thread with place := .asking frame }
  | .putting frame, .submit notified => thread.inPool (.submit notified) (.asking frame)
  | .asking frame, .get =>
      thread.inPool .get
        (if thread.pool.futs.isEmpty then .asked frame none else .waiting frame)
  | .waiting frame, .deliver =>
      thread.pool.front.bind fun found =>
        { thread with objects := found.1 }.inPool .deliver (.asked frame (some found.1))
  | .asked frame delivered, .draw => thread.draw frame delivered
  | .ended, .drain => thread.inPool .drain .ended
  | place, .finish worker output => thread.inPool (.finish worker output) place
  | place, .pool label => thread.inPool (.pool label) place
  | _, _ => none

end Thread

/-- The thread, after an `init` of its pool that succeeded. -/
def yolo26Inference (ι δ : Type) (threadNum : Nat) : System (Thread ι δ) (Step ι δ) where
  initial thread := thread = .start threadNum
  step := Thread.step

/-- What is delivered is drawn, in the same iteration, and nothing else is. -/
def Thread.DrawnOnce (thread : Thread ι δ) : Prop :=
  ∀ iteration ∈ thread.iterations, iteration.drawn = iteration.delivered

variable {thread next : Thread ι δ} {label : Step ι δ} {threadNum : Nat}

/-- Everything that a step of the thread can do, but for what its pool does then. -/
inductive Moves (thread : Thread ι δ) : Thread ι δ → Prop
  | frames {frame : Option ι} (atHead : thread.place = .head) :
      Moves thread { thread with place := frame.elim .head .copied }
  | leaves (atHead : thread.place = .head) : Moves thread { thread with place := .ended }
  | puts {frame : ι} {pool : RknnPool ι (List δ)} (isCopied : thread.place = .copied frame)
      (fourth : thread.loopCount.tmod 4 = 0) (moved : RknnMoves thread.pool (.put frame) pool) :
      Moves thread { thread with pool := pool, place := .putting frame }
  | skips {frame : ι} (isCopied : thread.place = .copied frame)
      (between : thread.loopCount.tmod 4 ≠ 0) :
      Moves thread { thread with place := .asking frame }
  | submits {frame : ι} {notified : Option Nat} {pool : RknnPool ι (List δ)}
      (isPut : thread.place = .putting frame)
      (moved : RknnMoves thread.pool (.submit notified) pool) :
      Moves thread { thread with pool := pool, place := .asking frame }
  | misses {frame : ι} {pool : RknnPool ι (List δ)} (asks : thread.place = .asking frame)
      (empty : thread.pool.futs = []) (moved : RknnMoves thread.pool .get pool) :
      Moves thread { thread with pool := pool, place := .asked frame none }
  | waits {frame : ι} {pool : RknnPool ι (List δ)} (asks : thread.place = .asking frame)
      (pending : thread.pool.futs ≠ []) (moved : RknnMoves thread.pool .get pool) :
      Moves thread { thread with pool := pool, place := .waiting frame }
  | delivers {frame : ι} {output : List δ} {pool : RknnPool ι (List δ)}
      (isWaiting : thread.place = .waiting frame) (moved : RknnMoves thread.pool .deliver pool) :
      Moves thread { thread with
        objects := output, pool := pool, place := .asked frame (some output) }
  | draws {frame : ι} {delivered : Option (List δ)}
      (isAsked : thread.place = .asked frame delivered) :
      Moves thread { thread with
        place := .head
        loopCount := thread.loopCount + 1
        iterations := thread.iterations ++
          [Iteration.mk frame delivered
            (if getReturned delivered ≠ 0 then some thread.objects else none)] }
  | drains {pool : RknnPool ι (List δ)} (isEnded : thread.place = .ended)
      (moved : RknnMoves thread.pool .drain pool) :
      Moves thread { thread with pool := pool, place := .ended }
  | finishes {worker : Nat} {output : List δ} {pool : RknnPool ι (List δ)}
      (moved : RknnMoves thread.pool (.finish worker output) pool) :
      Moves thread { thread with pool := pool }
  | works {inner : Label (Job ι)} {pool : RknnPool ι (List δ)}
      (moved : RknnMoves thread.pool (.pool inner) pool) :
      Moves thread { thread with pool := pool }

theorem inPool_eq_some {inner : RknnLabel ι (List δ)} {place : Place ι δ}
    (moved : thread.inPool inner place = some next) :
    ∃ pool, RknnMoves thread.pool inner pool ∧
      next = { thread with pool := pool, place := place } := by
  obtain ⟨pool, stepped, rfl⟩ := Option.map_eq_some_iff.mp moved
  exact ⟨pool, rknnMoves_of_step stepped, rfl⟩

theorem moves_of_step (stepped : thread.step label = some next) : Moves thread next := by
  unfold Thread.step at stepped
  split at stepped
  next atHead =>
    cases stepped
    exact .frames atHead
  next atHead =>
    cases stepped
    exact .leaves atHead
  next isCopied =>
    split at stepped
    next fourth =>
      obtain ⟨pool, moved, rfl⟩ := inPool_eq_some stepped
      exact .puts isCopied fourth moved
    next => cases stepped
  next isCopied =>
    split at stepped
    next => cases stepped
    next between =>
      cases stepped
      exact .skips isCopied between
  next isPut =>
    obtain ⟨pool, moved, rfl⟩ := inPool_eq_some stepped
    exact .submits isPut moved
  next asks =>
    obtain ⟨pool, moved, rfl⟩ := inPool_eq_some stepped
    split
    next empty => exact .misses asks (List.isEmpty_iff.mp empty) moved
    next pending => exact .waits asks (mt List.isEmpty_iff.mpr pending) moved
  next isWaiting =>
    obtain ⟨found, _, delivered⟩ := Option.bind_eq_some_iff.mp stepped
    obtain ⟨pool, moved, rfl⟩ := inPool_eq_some delivered
    exact .delivers isWaiting moved
  next isAsked =>
    obtain ⟨loopCount, isNext, rfl⟩ := Option.map_eq_some_iff.mp stepped
    unfold toInt at isNext
    split at isNext
    next =>
      cases isNext
      exact .draws isAsked
    next => cases isNext
  next isEnded =>
    obtain ⟨pool, moved, rfl⟩ := inPool_eq_some stepped
    exact .drains isEnded moved
  next =>
    obtain ⟨pool, moved, rfl⟩ := inPool_eq_some stepped
    exact .finishes moved
  next =>
    obtain ⟨pool, moved, rfl⟩ := inPool_eq_some stepped
    exact .works moved
  next => cases stepped

theorem drawn_ne (delivered : Option (List δ)) (objects : List δ) :
    (if getReturned delivered ≠ 0 then some objects else none) ≠ delivered := by
  cases delivered with
  | none => exact Option.some_ne_none objects
  | some output => exact (Option.some_ne_none output).symm

/-- An iteration draws if and only if nothing is delivered in it. -/
def Thread.DrawsElse (thread : Thread ι δ) : Prop :=
  ∀ iteration ∈ thread.iterations, iteration.drawn ≠ iteration.delivered

theorem drawsElse_of_moves (drawsElse : thread.DrawsElse) (moves : Moves thread next) :
    next.DrawsElse := by
  cases moves with
  | draws =>
      intro iteration isIn
      obtain before | isNew := List.mem_append.mp isIn
      · exact drawsElse iteration before
      · rw [List.mem_singleton.mp isNew]
        exact drawn_ne _ _
  | frames | leaves | puts | skips | submits | misses | waits | delivers | drains | finishes
  | works => exact drawsElse

theorem drawsElse_of_reachable
    (reachable : (yolo26Inference ι δ threadNum).Reachable System.anyStep thread) :
    thread.DrawsElse := by
  refine reachable.invariant ?_ ?_
  · rintro first rfl iteration isIn
    cases isIn
  · intro state label next drawsElse _ stepped
    exact drawsElse_of_moves drawsElse (moves_of_step stepped)

theorem drawnOnce_iff
    (reachable : (yolo26Inference ι δ threadNum).Reachable System.anyStep thread) :
    thread.DrawnOnce ↔ thread.iterations = [] := by
  constructor
  · intro drawnOnce
    refine List.eq_nil_iff_forall_not_mem.mpr fun iteration isIn => ?_
    exact drawsElse_of_reachable reachable iteration isIn (drawnOnce iteration isIn)
  · intro none iteration isIn
    rw [none] at isIn
    cases isIn

/-- A frame whose detections are delivered in its own iteration. -/
def firstFrame : List (Step Nat Nat) :=
  [Step.getChnFrame (some 0), .put, .submit none, .get, .pool (.enter 0), .finish 0 [7],
    .deliver, .draw]

theorem drawnOnce_firstFrame : ∃ thread, (yolo26Inference Nat Nat 4).run (.start 4) firstFrame =
    some thread ∧ (thread.DrawnOnce ↔ thread.iterations = []) := by
  have ran : ((yolo26Inference Nat Nat 4).run (.start 4) firstFrame).isSome = true := by
    decide
  obtain ⟨thread, isLast⟩ := Option.isSome_iff_exists.mp ran
  exact ⟨thread, isLast, drawnOnce_iff (System.reachable_of_run rfl isLast)⟩

/-- The detections of the first frame are not drawn. -/
theorem first_not_drawn : ∃ thread,
    (yolo26Inference Nat Nat 4).Reachable System.anyStep thread ∧
      thread.iterations = [Iteration.mk 0 (some [7]) none] ∧ ¬ thread.DrawnOnce := by
  have ran : ((yolo26Inference Nat Nat 4).run (.start 4) firstFrame).map Thread.iterations =
      some [Iteration.mk 0 (some [7]) none] := by
    decide
  obtain ⟨thread, isLast, iterations⟩ := Option.map_eq_some_iff.mp ran
  refine ⟨thread, System.reachable_of_run rfl isLast, iterations, fun drawnOnce => ?_⟩
  have drawn := drawnOnce (Iteration.mk 0 (some [7]) none) (by rw [iterations]; exact .head _)
  cases drawn

section Late

/-- What the pool holds for the thread, at each of its places. -/
def Place.Ready (fourth : Prop) (objects : List δ) (futs : List Nat) : Place ι δ → Prop
  | .head | .copied _ => futs = []
  | .putting _ => fourth ∧ futs = []
  | .asking _ => (fourth → ∃ number, futs = [number]) ∧ (¬ fourth → futs = [])
  | .waiting _ => fourth ∧ ∃ number, futs = [number]
  | .asked _ delivered =>
      futs = [] ∧ (fourth → delivered = some objects) ∧ (¬ fourth → delivered = none)
  | .ended => True

/-- Each fourth iteration is delivered its detections, which the next three draw. -/
structure Late (iterations : List (Iteration ι δ)) : Prop where
  delivers : ∀ count iteration, iterations[count]? = some iteration → 4 ∣ count →
    iteration.delivered.isSome = true ∧ iteration.drawn = none
  draws : ∀ count iteration, iterations[count]? = some iteration → ¬ 4 ∣ count →
    iteration.delivered = none ∧
      ∃ first, iterations[count / 4 * 4]? = some first ∧ iteration.drawn = first.delivered

structure Timed (thread : Thread ι δ) : Prop where
  count : thread.loopCount = thread.iterations.length
  ready : thread.place.Ready (4 ∣ thread.iterations.length) thread.objects thread.pool.futs
  held : ¬ 4 ∣ thread.iterations.length → ∃ first,
    thread.iterations[thread.iterations.length / 4 * 4]? = some first ∧
      first.delivered = some thread.objects
  late : Late thread.iterations

theorem Late.append {iterations : List (Iteration ι δ)} (late : Late iterations) {frame : ι}
    {delivered : Option (List δ)} {objects : List δ}
    (fourth : 4 ∣ iterations.length → delivered = some objects)
    (between : ¬ 4 ∣ iterations.length → delivered = none)
    (held : ¬ 4 ∣ iterations.length → ∃ first,
      iterations[iterations.length / 4 * 4]? = some first ∧ first.delivered = some objects) :
    Late (iterations ++ [Iteration.mk frame delivered
      (if getReturned delivered ≠ 0 then some objects else none)]) := by
  constructor
  · intro count iteration isAt divides
    rcases Nat.lt_trichotomy count iterations.length with before | rfl | beyond
    · rw [List.getElem?_append_left before] at isAt
      exact late.delivers count iteration isAt divides
    · rw [List.getElem?_concat_length] at isAt
      cases isAt
      rw [fourth divides]
      exact ⟨rfl, rfl⟩
    · rw [List.getElem?_eq_none (by rw [List.length_append, List.length_singleton]; omega)] at isAt
      cases isAt
  · intro count iteration isAt divides
    rcases Nat.lt_trichotomy count iterations.length with before | rfl | beyond
    · rw [List.getElem?_append_left before] at isAt
      rw [List.getElem?_append_left (by omega)]
      exact late.draws count iteration isAt divides
    · rw [List.getElem?_concat_length] at isAt
      cases isAt
      obtain ⟨first, isFirst, isHeld⟩ := held divides
      rw [List.getElem?_append_left (by omega), between divides]
      exact ⟨rfl, first, isFirst, isHeld.symm⟩
    · rw [List.getElem?_eq_none (by rw [List.length_append, List.length_singleton]; omega)] at isAt
      cases isAt

theorem held_append {iterations : List (Iteration ι δ)} {iteration : Iteration ι δ}
    {objects : List δ} (fourth : 4 ∣ iterations.length → iteration.delivered = some objects)
    (held : ¬ 4 ∣ iterations.length → ∃ first,
      iterations[iterations.length / 4 * 4]? = some first ∧ first.delivered = some objects)
    (between : ¬ 4 ∣ (iterations ++ [iteration]).length) :
    ∃ first, (iterations ++ [iteration])[(iterations ++ [iteration]).length / 4 * 4]? =
      some first ∧ first.delivered = some objects := by
  rw [List.length_append, List.length_singleton] at between ⊢
  by_cases divides : 4 ∣ iterations.length
  · have same : (iterations.length + 1) / 4 * 4 = iterations.length := by omega
    rw [same, List.getElem?_concat_length]
    exact ⟨iteration, rfl, fourth divides⟩
  · have same : (iterations.length + 1) / 4 * 4 = iterations.length / 4 * 4 := by omega
    rw [same, List.getElem?_append_left (by omega)]
    exact held divides

theorem Timed.fourth_iff (timed : Timed thread) :
    thread.loopCount.tmod 4 = 0 ↔ 4 ∣ thread.iterations.length := by
  rw [timed.count, ← Int.dvd_iff_tmod_eq_zero]
  exact Int.natCast_dvd_natCast (m := 4)

theorem timed_of_moves (timed : Timed thread) (moves : Moves thread next) : Timed next := by
  have ready := timed.ready
  cases moves with
  | @frames frame atHead =>
      rw [atHead] at ready
      refine ⟨timed.count, ?_, timed.held, timed.late⟩
      cases frame with
      | none => exact ready
      | some frame => exact ready
  | leaves atHead => exact ⟨timed.count, trivial, timed.held, timed.late⟩
  | puts isCopied fourth moved =>
      rw [isCopied] at ready
      cases moved with
      | puts => exact ⟨timed.count, ⟨timed.fourth_iff.mp fourth, ready⟩, timed.held, timed.late⟩
  | skips isCopied between =>
      rw [isCopied] at ready
      have notFourth := mt timed.fourth_iff.mpr between
      exact ⟨timed.count, ⟨fun fourth => absurd fourth notFourth, fun _ => ready⟩, timed.held,
        timed.late⟩
  | submits isPut moved =>
      rw [isPut] at ready
      cases moved with
      | submits =>
          refine ⟨timed.count, ⟨fun _ => ⟨thread.pool.results.length, ?_⟩,
            fun between => absurd ready.1 between⟩, timed.held, timed.late⟩
          change thread.pool.futs ++ [_] = [_]
          rw [ready.2, List.nil_append]
  | @misses frame _ asks empty moved =>
      rw [asks] at ready
      have notFourth : ¬ 4 ∣ thread.iterations.length := by
        intro fourth
        obtain ⟨number, isOne⟩ := ready.1 fourth
        cases empty.symm.trans isOne
      have given : (Place.asked frame none).Ready (4 ∣ thread.iterations.length)
          thread.objects thread.pool.futs :=
        ⟨empty, fun fourth => absurd fourth notFourth, fun _ => rfl⟩
      cases moved with
      | misses => exact ⟨timed.count, given, timed.held, timed.late⟩
      | waits => exact ⟨timed.count, given, timed.held, timed.late⟩
  | @waits frame _ asks pending moved =>
      rw [asks] at ready
      have fourth : 4 ∣ thread.iterations.length := by
        by_contra between
        exact pending (ready.2 between)
      have given : (Place.waiting frame).Ready (4 ∣ thread.iterations.length) thread.objects
          thread.pool.futs :=
        ⟨fourth, ready.1 fourth⟩
      cases moved with
      | misses => exact ⟨timed.count, given, timed.held, timed.late⟩
      | waits => exact ⟨timed.count, given, timed.held, timed.late⟩
  | delivers isWaiting moved =>
      rw [isWaiting] at ready
      obtain ⟨fourth, number, isOne⟩ := ready
      cases moved with
      | delivers _ isFuts _ =>
          obtain ⟨_, isRest⟩ := List.cons.inj (isFuts.symm.trans isOne)
          exact ⟨timed.count,
            ⟨isRest, fun _ => rfl, fun between => absurd fourth between⟩,
            fun between => absurd fourth between, timed.late⟩
  | draws isAsked =>
      rw [isAsked] at ready
      obtain ⟨isEmpty, fourth, between⟩ := ready
      refine ⟨?_, isEmpty, held_append fourth timed.held,
        timed.late.append fourth between timed.held⟩
      rw [List.length_append, List.length_singleton, timed.count]
      rfl
  | drains isEnded moved => exact ⟨timed.count, trivial, timed.held, timed.late⟩
  | finishes moved =>
      cases moved with
      | finishes => exact ⟨timed.count, ready, timed.held, timed.late⟩
  | works moved =>
      cases moved with
      | works => exact ⟨timed.count, ready, timed.held, timed.late⟩

/-- The detections of a frame are drawn in the three iterations behind its own. -/
theorem late_of_reachable
    (reachable : (yolo26Inference ι δ threadNum).Reachable System.anyStep thread) :
    Late thread.iterations := by
  have timed : Timed thread := by
    refine reachable.invariant ?_ ?_
    · rintro first rfl
      have nothing (count : Nat) : ([] : List (Iteration ι δ))[count]? = none := List.getElem?_nil
      refine ⟨rfl, rfl, fun between => absurd (Nat.dvd_zero 4) between, ?_, ?_⟩
      · intro count iteration isAt
        cases (nothing count).symm.trans isAt
      · intro count iteration isAt
        cases (nothing count).symm.trans isAt
    · intro state label next timed _ stepped
      exact timed_of_moves timed (moves_of_step stepped)
  exact timed.late

end Late

end Rkipc.Video.Inference
