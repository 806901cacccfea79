import Mathlib.Logic.Function.Basic
import Rkipc.Interaction.Prog
import Rkipc.Transition.System

namespace Rkipc.Video.Frames

open Interaction Transition

/-! The loops that take frames and streams from the MPI, as programs that call it.  What
they do with a buffer, and the logs, are left out. -/

inductive Ret
  | success
  | timeout
  | error
deriving DecidableEq

inductive Chn
  | vi (id : Nat)
  | venc (id : Nat)
deriving DecidableEq

/-- `RK_MPI_VI_GetChnFrame` or `RK_MPI_VENC_GetStream`, the call that gives the buffer
back, and the flags. -/
inductive Call
  | get (chn : Chn)
  | release (chn : Chn)
  | videoRun
  | takePhotoOne

abbrev Answer : Call → Type
  | .get _ | .release _ => Ret
  | .videoRun | .takePhotoOne => Bool

abbrev Code (α : Type) := Prog Call Answer α

def videoPipe0 : Nat := 0
def videoPipe1 : Nat := 1
def videoPipe2 : Nat := 2
def jpegVencChn : Nat := 3
def gViForVenc0Id : Nat := 3
def gViForNpuId : Nat := 4

/-- An error of the release is only logged. -/
def getAndRelease (chn : Chn) : Code Unit :=
  .ask (.get chn) fun ret =>
    match ret with
    | .success => .ask (.release chn) fun _ => .done ()
    | .timeout | .error => .done ()

def testGetVi : Code Unit := getAndRelease (.vi gViForVenc0Id)

def rkipcGetVenc0 : Code Unit := getAndRelease (.venc videoPipe0)

def rkipcGetVenc1 : Code Unit := getAndRelease (.venc videoPipe1)

def rkipcGetVenc2 : Code Unit := getAndRelease (.venc videoPipe2)

def rkipcGetJpeg : Code Unit :=
  .ask .takePhotoOne fun takePhotoOne =>
    match takePhotoOne with
    | false => .done ()
    | true => getAndRelease (.venc jpegVencChn)

/-- The call of `RK_MPI_VI_ReleaseChnFrame` is commented out. -/
def yolo26Inference : Code Unit := .ask (.get (.vi gViForNpuId)) fun _ => .done ()

/-- `while (g_video_run_) { body }`: one turn, and whether there is another. -/
def turn (body : Code Unit) : Code Bool :=
  .ask .videoRun fun videoRun =>
    match videoRun with
    | true => body.bind fun _ => .done true
    | false => .done false

inductive Thread
  | testGetVi
  | rkipcGetVenc0
  | rkipcGetVenc1
  | rkipcGetVenc2
  | rkipcGetJpeg
  | yolo26Inference
deriving DecidableEq

namespace Thread

def body : Thread → Code Unit
  | .testGetVi => Frames.testGetVi
  | .rkipcGetVenc0 => Frames.rkipcGetVenc0
  | .rkipcGetVenc1 => Frames.rkipcGetVenc1
  | .rkipcGetVenc2 => Frames.rkipcGetVenc2
  | .rkipcGetJpeg => Frames.rkipcGetJpeg
  | .yolo26Inference => Frames.yolo26Inference

def chn : Thread → Chn
  | .testGetVi => .vi gViForVenc0Id
  | .rkipcGetVenc0 => .venc videoPipe0
  | .rkipcGetVenc1 => .venc videoPipe1
  | .rkipcGetVenc2 => .venc videoPipe2
  | .rkipcGetJpeg => .venc jpegVencChn
  | .yolo26Inference => .vi gViForNpuId

theorem chn_injective : Function.Injective chn := by
  intro left right same
  cases left <;> cases right <;> first | rfl | exact absurd same (by decide)

end Thread

/-- What a call does to the number of buffers that the application holds. -/
def heldAfter (held : Nat) : (call : Call) → Answer call → Nat
  | .get _, .success => held + 1
  | .release _, _ => held - 1
  | _, _ => held

def Call.chn : Call → Option Chn
  | .get chn | .release chn => some chn
  | .videoRun | .takePhotoOne => none

structure State where
  program : Thread → Code Bool
  held : Chn → Nat

structure Label where
  thread : Thread
  answers : (call : Call) → Answer call

/-- A thread that has left its loop can be started again. -/
def State.step (state : State) (label : Label) : State :=
  match state.program label.thread with
  | .done _ =>
      { state with
        program := Function.update state.program label.thread (turn label.thread.body) }
  | .ask call next =>
      { program := Function.update state.program label.thread (next (label.answers call))
        held := match call.chn with
          | none => state.held
          | some chn =>
              Function.update state.held chn
                (heldAfter (state.held chn) call (label.answers call)) }

def loops : System State Label where
  initial state := state = ⟨fun _ => .done false, fun _ => 0⟩
  step state label := some (state.step label)

def Call.Due (held : Chn → Nat) : Call → Prop
  | .get chn => held chn = 0
  | .release chn => held chn = 1
  | .videoRun | .takePhotoOne => True

/-- A buffer is taken when the one before it was given back, and is given back once. -/
structure GivenBack (thread : Thread) (state : State) : Prop where
  due : ∀ call next, state.program thread = .ask call next → call.Due state.held
  turned : ∀ val, state.program thread = .done val → state.held thread.chn = 0
  atMostOne : state.held thread.chn ≤ 1

/-- The inference thread gets no frame; this is only asked where it is about that thread. -/
def NoFrame (thread : Thread) (_ : State) (label : Label) : Prop :=
  thread = .yolo26Inference → label.thread = .yolo26Inference →
    label.answers (.get (.vi gViForNpuId)) ≠ .success

/-- What a thread may do with the buffers of its channel. -/
def protocol (thread : Thread) : Prog.Protocol Call Answer Nat where
  may held
    | .get chn => chn = thread.chn ∧ held = 0
    | .release chn => chn = thread.chn ∧ held = 1
    | .videoRun | .takePhotoOne => held = 0
  possible
    | .get _ => fun ret => thread = .yolo26Inference → ret ≠ .success
    | .release _ | .videoRun | .takePhotoOne => fun _ => True
  after := heldAfter

abbrev Follows {α : Type} (thread : Thread) (code : Code α) (held : Nat) : Prop :=
  code.Obeys (protocol thread) (fun held _ => held = 0) held

theorem getAndRelease_follows (thread : Thread) :
    Follows thread (getAndRelease thread.chn) 0 := by
  refine ⟨⟨rfl, rfl⟩, fun ret _ => ?_⟩
  cases ret with
  | success => exact ⟨⟨rfl, rfl⟩, fun _ _ => rfl⟩
  | timeout | error => rfl

theorem body_follows (thread : Thread) : Follows thread thread.body 0 := by
  cases thread with
  | testGetVi => exact getAndRelease_follows .testGetVi
  | rkipcGetVenc0 => exact getAndRelease_follows .rkipcGetVenc0
  | rkipcGetVenc1 => exact getAndRelease_follows .rkipcGetVenc1
  | rkipcGetVenc2 => exact getAndRelease_follows .rkipcGetVenc2
  | rkipcGetJpeg =>
      refine ⟨rfl, fun takePhotoOne _ => ?_⟩
      cases takePhotoOne with
      | false => rfl
      | true => exact getAndRelease_follows .rkipcGetJpeg
  | yolo26Inference =>
      refine ⟨⟨rfl, rfl⟩, fun ret fails => ?_⟩
      cases ret with
      | success => exact absurd rfl (fails rfl)
      | timeout | error => rfl

theorem turn_follows (thread : Thread) : Follows thread (turn thread.body) 0 := by
  refine ⟨rfl, fun videoRun _ => ?_⟩
  cases videoRun with
  | false => rfl
  | true => exact (body_follows thread).bind fun _ _ isRested => isRested

/-- A call is about the channel of its thread. -/
abbrev Own {α : Type} (thread : Thread) (code : Code α) : Prop :=
  code.Asks fun call => call.chn = none ∨ call.chn = some thread.chn

theorem getAndRelease_own (thread : Thread) : Own thread (getAndRelease thread.chn) := by
  refine ⟨.inr rfl, fun ret => ?_⟩
  cases ret with
  | success => exact ⟨.inr rfl, fun _ => trivial⟩
  | timeout | error => trivial

theorem body_own (thread : Thread) : Own thread thread.body := by
  cases thread with
  | testGetVi => exact getAndRelease_own .testGetVi
  | rkipcGetVenc0 => exact getAndRelease_own .rkipcGetVenc0
  | rkipcGetVenc1 => exact getAndRelease_own .rkipcGetVenc1
  | rkipcGetVenc2 => exact getAndRelease_own .rkipcGetVenc2
  | rkipcGetJpeg =>
      refine ⟨.inl rfl, fun takePhotoOne => ?_⟩
      cases takePhotoOne with
      | false => trivial
      | true => exact getAndRelease_own .rkipcGetJpeg
  | yolo26Inference => exact ⟨.inr rfl, fun _ => trivial⟩

theorem turn_own (thread : Thread) : Own thread (turn thread.body) := by
  refine ⟨.inl rfl, fun videoRun => ?_⟩
  cases videoRun with
  | false => trivial
  | true => exact (body_own thread).bind fun _ => trivial

structure Paired (thread : Thread) (state : State) : Prop where
  own : ∀ other, Own other (state.program other)
  follows : Follows thread (state.program thread) (state.held thread.chn)

section Step

variable {thread : Thread} {state : State} {label : Label} {call : Call}
  {next : Answer call → Code Bool}

theorem step_done {val : Bool} (isDone : state.program label.thread = .done val) :
    state.step label = { state with
      program := Function.update state.program label.thread (turn label.thread.body) } := by
  unfold State.step
  rw [isDone]

theorem program_step (isAsk : state.program label.thread = .ask call next) :
    (state.step label).program =
      Function.update state.program label.thread (next (label.answers call)) := by
  unfold State.step
  rw [isAsk]

theorem held_step (isAsk : state.program label.thread = .ask call next)
    (own : call.chn = none ∨ call.chn = some label.thread.chn) :
    (state.step label).held = Function.update state.held label.thread.chn
      (heldAfter (state.held label.thread.chn) call (label.answers call)) := by
  unfold State.step
  rw [isAsk]
  cases call with
  | get chn | release chn =>
      obtain rfl : chn = label.thread.chn := Option.some.inj (own.resolve_left nofun)
      rfl
  | videoRun | takePhotoOne => exact (Function.update_eq_self ..).symm

theorem possible_of_noFrame (noFrame : NoFrame label.thread state label)
    (may : (protocol label.thread).may (state.held label.thread.chn) call) :
    (protocol label.thread).possible call (label.answers call) := by
  cases call with
  | get chn =>
      intro isYolo
      obtain rfl : chn = .vi gViForNpuId := by rw [may.1, isYolo]; rfl
      exact noFrame isYolo isYolo
  | release chn | videoRun | takePhotoOne => trivial

theorem own_step (own : ∀ other, Own other (state.program other)) (other : Thread) :
    Own other ((state.step label).program other) := by
  have ofUpdate : ∀ code, Own label.thread code →
      Own other (Function.update state.program label.thread code other) := by
    intro code isOwn
    obtain rfl | isOther := eq_or_ne other label.thread
    · rw [Function.update_self]
      exact isOwn
    · rw [Function.update_of_ne isOther]
      exact own other
  cases isProgram : state.program label.thread with
  | done val =>
      rw [step_done isProgram]
      exact ofUpdate _ (turn_own label.thread)
  | ask call next =>
      have isOwn := own label.thread
      rw [isProgram] at isOwn
      rw [program_step isProgram]
      exact ofUpdate _ (isOwn.2 (label.answers call))

theorem follows_step (paired : Paired thread state)
    (noFrame : NoFrame thread state label) :
    Follows thread ((state.step label).program thread)
      ((state.step label).held thread.chn) := by
  have follows := paired.follows
  have isOwn := paired.own label.thread
  cases isProgram : state.program label.thread with
  | done val =>
      rw [step_done isProgram]
      dsimp only
      obtain rfl | other := eq_or_ne thread label.thread
      · rw [isProgram] at follows
        have isRested : state.held label.thread.chn = 0 := follows
        rw [Function.update_self, isRested]
        exact turn_follows label.thread
      · rw [Function.update_of_ne other]
        exact follows
  | ask call next =>
      rw [isProgram] at isOwn
      rw [program_step isProgram, held_step isProgram isOwn.1]
      obtain rfl | other := eq_or_ne thread label.thread
      · rw [isProgram] at follows
        obtain ⟨may, goesOn⟩ := follows
        rw [Function.update_self, Function.update_self]
        exact goesOn _ (possible_of_noFrame noFrame may)
      · rw [Function.update_of_ne other,
          Function.update_of_ne (Thread.chn_injective.ne other)]
        exact follows

theorem Follows.atMostOne {code : Code Bool} {held : Nat}
    (follows : Follows thread code held) : held ≤ 1 := by
  cases code with
  | done val =>
      obtain rfl : held = 0 := follows
      exact Nat.zero_le 1
  | ask call next =>
      cases call with
      | get chn =>
          rw [follows.1.2]
          exact Nat.zero_le 1
      | release chn => exact Nat.le_of_eq follows.1.2
      | videoRun | takePhotoOne =>
          obtain rfl : held = 0 := follows.1
          exact Nat.zero_le 1

theorem Paired.givenBack (paired : Paired thread state) : GivenBack thread state where
  due call next isAsk := by
    have follows := paired.follows
    rw [isAsk] at follows
    cases call with
    | get chn | release chn =>
        obtain ⟨⟨rfl, isHeld⟩, _⟩ := follows
        exact isHeld
    | videoRun | takePhotoOne => trivial
  turned val isDone := by
    have follows := paired.follows
    rw [isDone] at follows
    exact follows
  atMostOne := paired.follows.atMostOne

end Step

/-- The loops give back every buffer, but for the frames of the inference thread. -/
theorem givenBack_of_noFrame {thread : Thread} {state : State}
    (reachable : loops.Reachable (NoFrame thread) state) : GivenBack thread state := by
  have paired : Paired thread state := by
    refine reachable.invariant ?_ ?_
    · rintro _ rfl
      exact ⟨fun _ => trivial, rfl⟩
    · intro before label after paired noFrame stepped
      cases stepped
      exact ⟨own_step paired.own, follows_step paired noFrame⟩
  exact paired.givenBack

section Examples

def answers (ret : Ret) : (call : Call) → Answer call
  | .get _ | .release _ => ret
  | .videoRun | .takePhotoOne => true

/-- The encoder thread has its frame while the inference thread keeps two. -/
theorem givenBack_of_noFrame_encoder :
    ∃ state, loops.Reachable (NoFrame .rkipcGetVenc0) state ∧
      state.held (.vi gViForNpuId) = 2 ∧ state.held (.venc videoPipe0) = 1 ∧
        GivenBack .rkipcGetVenc0 state := by
  let labels : List Label := List.replicate 6 ⟨.yolo26Inference, answers .success⟩ ++
    List.replicate 3 ⟨.rkipcGetVenc0, answers .success⟩
  have ran : (loops.run ⟨fun _ => .done false, fun _ => 0⟩ labels).map
      (fun state => (state.held (.vi gViForNpuId), state.held (.venc videoPipe0))) =
        some (2, 1) := by
    decide
  obtain ⟨state, ran, isHeld⟩ := Option.map_eq_some_iff.mp ran
  obtain ⟨kept, taken⟩ := Prod.mk.inj isHeld
  have reachable : loops.Reachable (NoFrame .rkipcGetVenc0) state :=
    ⟨_, rfl, System.reaches_of_run (fun _ _ => nofun) labels ran⟩
  exact ⟨state, reachable, kept, taken, givenBack_of_noFrame reachable⟩

/-- Two frames, none of which was given back. -/
theorem frames_kept :
    ∃ state, loops.Reachable System.anyStep state ∧
      ¬ ∀ thread, GivenBack thread state := by
  let labels : List Label := List.replicate 6 ⟨.yolo26Inference, answers .success⟩
  have ran : (loops.run ⟨fun _ => .done false, fun _ => 0⟩ labels).map
      (fun state => state.held (.vi gViForNpuId)) = some 2 := by
    decide
  obtain ⟨state, ran, isHeld⟩ := Option.map_eq_some_iff.mp ran
  refine ⟨state, System.reachable_of_run rfl ran, fun givenBack => ?_⟩
  have atMostOne : state.held (.vi gViForNpuId) ≤ 1 := (givenBack .yolo26Inference).atMostOne
  rw [isHeld] at atMostOne
  exact absurd atMostOne (by decide)

end Examples

end Rkipc.Video.Frames
