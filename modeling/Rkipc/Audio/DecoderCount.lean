import Mathlib.Algebra.Ring.Nat
import Rkipc.Transition.System

namespace Rkipc.Audio.DecoderCount

open Transition

/-! The registration of the external MP3 decoder. -/

def rkSuccess : Int := 0
def rkFailure : Int := -1

/-- A handle that `RK_MPI_ADEC_RegisterDecoder` gives out. -/
structure Handle where
  value : Int
  given : value ≠ -1

/-- `decoders` are the handles that the MPI has given out and not got back. -/
structure State where
  extDecoderHandle : Int
  mp3DecInitCnt : BitVec 32
  decoders : List Int
deriving DecidableEq

def start : State := ⟨-1, 0, []⟩

inductive Call
  | registerDecoder
  | unRegisterDecoder (handle : Int)
deriving DecidableEq

structure Done where
  state : State
  returned : Int
  calls : List Call

/-- Without a handle the registration has failed. -/
def registerAdecMp3 (state : State) (handle : Option Handle) : Done :=
  if state.mp3DecInitCnt = 0 then
    match handle with
    | none => ⟨{ state with extDecoderHandle := -1 }, rkFailure, [.registerDecoder]⟩
    | some handle =>
        { state :=
            { extDecoderHandle := handle.value
              mp3DecInitCnt := state.mp3DecInitCnt + 1
              decoders := handle.value :: state.decoders }
          returned := rkSuccess
          calls := [.registerDecoder] }
  else ⟨{ state with mp3DecInitCnt := state.mp3DecInitCnt + 1 }, rkSuccess, []⟩

def unregisterAdecMp3 (state : State) (succeeds : Bool) : Done :=
  if state.extDecoderHandle = -1 then ⟨state, rkSuccess, []⟩
  else if state.mp3DecInitCnt = 0 then ⟨state, rkSuccess, []⟩
  else if state.mp3DecInitCnt = 1 then
    if succeeds then
      { state :=
          { extDecoderHandle := -1
            mp3DecInitCnt := state.mp3DecInitCnt - 1
            decoders := state.decoders.erase state.extDecoderHandle }
        returned := rkSuccess
        calls := [.unRegisterDecoder state.extDecoderHandle] }
    else ⟨state, rkFailure, [.unRegisterDecoder state.extDecoderHandle]⟩
  else ⟨{ state with mp3DecInitCnt := state.mp3DecInitCnt - 1 }, rkSuccess, []⟩

inductive Label
  | register (handle : Option Handle)
  | unregister (succeeds : Bool)

def State.done (state : State) : Label → Done
  | .register handle => registerAdecMp3 state handle
  | .unregister succeeds => unregisterAdecMp3 state succeeds

def system : System State Label where
  initial state := state = start
  step state label := some (state.done label).state

/-- The decoder is registered exactly when the count is positive, and then under the handle. -/
structure State.Counted (state : State) : Prop where
  registered : 0 < state.mp3DecInitCnt → state.decoders = [state.extDecoderHandle]
  free : state.mp3DecInitCnt = 0 → state.decoders = []

/-- What a call asks of the MPI and does to the count. -/
structure CallCounted (state : State) (label : Label) (done : Done) : Prop where
  registers : .registerDecoder ∈ done.calls → state.mp3DecInitCnt = 0
  unregisters : ∀ handle, .unRegisterDecoder handle ∈ done.calls → state.mp3DecInitCnt = 1
  fails : done.returned ≠ rkSuccess → done.state = state
  takes : ∀ succeeds, label = .unregister succeeds →
    done.state.mp3DecInitCnt ≤ state.mp3DecInitCnt

/-- No call counts a registration that the counter cannot hold. -/
def Below (state : State) : Label → Prop
  | .register _ => state.mp3DecInitCnt ≠ 0xffffffff
  | .unregister _ => True

/-- The count and the handle are in step. -/
structure State.InStep (state : State) : Prop where
  unset : state.mp3DecInitCnt = 0 → state.extDecoderHandle = -1 ∧ state.decoders = []
  set : state.mp3DecInitCnt ≠ 0 →
    state.extDecoderHandle ≠ -1 ∧ state.decoders = [state.extDecoderHandle]

section Counter

variable {count : BitVec 32}

theorem add_one_ne_zero (below : count ≠ 0xffffffff) : count + 1 ≠ 0 := by
  intro isZero
  apply below
  bv_omega

theorem sub_one_ne_zero (notOne : count ≠ 1) : count - 1 ≠ 0 := by
  intro isZero
  apply notOne
  bv_omega

theorem ne_zero_of_pos (positive : 0 < count) : count ≠ 0 := by
  bv_omega

theorem sub_one_le (positive : count ≠ 0) : count - 1 ≤ count := by
  bv_omega

end Counter

/-- The ways of a call. -/
inductive Way (state : State) : Label → Done → Prop
  | refused (isZero : state.mp3DecInitCnt = 0) :
      Way state (.register none)
        ⟨{ state with extDecoderHandle := -1 }, rkFailure, [.registerDecoder]⟩
  | first (handle : Handle) (isZero : state.mp3DecInitCnt = 0) :
      Way state (.register (some handle))
        ⟨⟨handle.value, state.mp3DecInitCnt + 1, handle.value :: state.decoders⟩, rkSuccess,
          [.registerDecoder]⟩
  | again (handle : Option Handle) (positive : state.mp3DecInitCnt ≠ 0) :
      Way state (.register handle)
        ⟨{ state with mp3DecInitCnt := state.mp3DecInitCnt + 1 }, rkSuccess, []⟩
  | nothing (succeeds : Bool) : Way state (.unregister succeeds) ⟨state, rkSuccess, []⟩
  | last (isLast : state.mp3DecInitCnt = 1) :
      Way state (.unregister true)
        ⟨⟨-1, state.mp3DecInitCnt - 1, state.decoders.erase state.extDecoderHandle⟩, rkSuccess,
          [.unRegisterDecoder state.extDecoderHandle]⟩
  | kept (isLast : state.mp3DecInitCnt = 1) :
      Way state (.unregister false)
        ⟨state, rkFailure, [.unRegisterDecoder state.extDecoderHandle]⟩
  | less (succeeds : Bool) (positive : state.mp3DecInitCnt ≠ 0)
      (notLast : state.mp3DecInitCnt ≠ 1) :
      Way state (.unregister succeeds)
        ⟨{ state with mp3DecInitCnt := state.mp3DecInitCnt - 1 }, rkSuccess, []⟩

theorem State.way (state : State) (label : Label) : Way state label (state.done label) := by
  cases label with
  | register handle =>
    rw [State.done, registerAdecMp3.eq_def]
    by_cases isZero : state.mp3DecInitCnt = 0
    · rw [if_pos isZero]
      cases handle with
      | none => exact .refused isZero
      | some handle => exact .first handle isZero
    · rw [if_neg isZero]
      exact .again handle isZero
  | unregister succeeds =>
    rw [State.done, unregisterAdecMp3]
    by_cases unset : state.extDecoderHandle = -1
    · rw [if_pos unset]
      exact .nothing succeeds
    · rw [if_neg unset]
      by_cases isZero : state.mp3DecInitCnt = 0
      · rw [if_pos isZero]
        exact .nothing succeeds
      · rw [if_neg isZero]
        by_cases isLast : state.mp3DecInitCnt = 1
        · rw [if_pos isLast]
          cases succeeds with
          | false => exact .kept isLast
          | true => exact .last isLast
        · rw [if_neg isLast]
          exact .less succeeds isZero isLast

namespace State.InStep

variable {state : State} {label : Label}

theorem start : DecoderCount.start.InStep where
  unset := fun _ => ⟨rfl, rfl⟩
  set := fun positive => absurd rfl positive

theorem counted (inStep : state.InStep) : state.Counted where
  registered := fun positive => (inStep.set (ne_zero_of_pos positive)).2
  free := fun isZero => (inStep.unset isZero).2

theorem step (inStep : state.InStep) (below : Below state label) :
    (state.done label).state.InStep := by
  have way := state.way label
  generalize state.done label = done at way ⊢
  cases way with
  | refused isZero =>
    exact ⟨fun _ => ⟨rfl, (inStep.unset isZero).2⟩, fun positive => absurd isZero positive⟩
  | first handle isZero =>
    refine ⟨fun none => absurd none (add_one_ne_zero below), fun _ => ⟨handle.given, ?_⟩⟩
    dsimp only
    rw [(inStep.unset isZero).2]
  | again handle positive =>
    exact ⟨fun none => absurd none (add_one_ne_zero below), fun _ => inStep.set positive⟩
  | nothing succeeds => exact inStep
  | last isLast =>
    have positive : state.mp3DecInitCnt ≠ 0 := by
      rw [isLast]
      decide
    refine ⟨fun _ => ⟨rfl, ?_⟩, fun notZero => absurd ?_ notZero⟩
    · dsimp only
      rw [(inStep.set positive).2, List.erase_cons_head]
    · dsimp only
      rw [isLast]
      rfl
  | kept isLast => exact inStep
  | less succeeds positive notLast =>
    exact ⟨fun none => absurd none (sub_one_ne_zero notLast), fun _ => inStep.set positive⟩

theorem callCounted (inStep : state.InStep) : CallCounted state label (state.done label) := by
  have way := state.way label
  generalize state.done label = done at way ⊢
  cases way with
  | refused isZero =>
    refine ⟨fun _ => isZero, fun _ member => ?_, fun _ => ?_, fun _ isOther => ?_⟩
    · cases List.mem_singleton.mp member
    · rw [← (inStep.unset isZero).1]
    · cases isOther
  | first handle isZero =>
    refine ⟨fun _ => isZero, fun _ member => ?_, fun fails => absurd rfl fails,
      fun _ isOther => ?_⟩
    · cases List.mem_singleton.mp member
    · cases isOther
  | again handle positive =>
    exact ⟨fun member => absurd member List.not_mem_nil,
      fun _ member => absurd member List.not_mem_nil, fun fails => absurd rfl fails,
      fun _ isOther => nomatch isOther⟩
  | nothing succeeds =>
    exact ⟨fun member => absurd member List.not_mem_nil,
      fun _ member => absurd member List.not_mem_nil, fun _ => rfl, fun _ _ => BitVec.le_refl _⟩
  | last isLast =>
    refine ⟨fun member => ?_, fun _ _ => isLast, fun fails => absurd rfl fails,
      fun _ _ => sub_one_le ?_⟩
    · cases List.mem_singleton.mp member
    · rw [isLast]
      decide
  | kept isLast =>
    refine ⟨fun member => ?_, fun _ _ => isLast, fun _ => rfl, fun _ _ => BitVec.le_refl _⟩
    cases List.mem_singleton.mp member
  | less succeeds positive notLast =>
    exact ⟨fun member => absurd member List.not_mem_nil,
      fun _ member => absurd member List.not_mem_nil, fun fails => absurd rfl fails,
      fun _ _ => sub_one_le positive⟩

end State.InStep

/-- A registration that is given back, where the counter can hold it. -/
theorem unregister_register_iff {state : State} {handle : Option Handle} (inStep : state.InStep)
    (succeeds : state.mp3DecInitCnt = 0 → handle ≠ none) :
    (unregisterAdecMp3 (registerAdecMp3 state handle).state true).state = state ↔
      state.mp3DecInitCnt ≠ 0xffffffff := by
  obtain ⟨extDecoderHandle, count, decoders⟩ := state
  rw [registerAdecMp3.eq_def]
  by_cases isZero : count = 0
  · subst isZero
    obtain ⟨rfl, rfl⟩ := inStep.unset rfl
    obtain ⟨given, rfl⟩ := Option.ne_none_iff_exists'.mp (succeeds rfl)
    refine iff_of_true ?_ (by decide)
    rw [if_pos rfl, unregisterAdecMp3, if_neg given.given]
    dsimp only
    rw [if_neg (by decide), if_pos (by decide), if_pos rfl, List.erase_cons_head]
    rfl
  · have isSet : extDecoderHandle ≠ -1 := (inStep.set isZero).1
    have notOne : count + 1 ≠ 1 := by
      intro isOne
      apply isZero
      bv_omega
    have back : count + 1 - 1 = count := by
      bv_omega
    rw [if_neg isZero, unregisterAdecMp3, if_neg isSet]
    dsimp only
    by_cases wraps : count + 1 = 0
    · have isMax : count = 0xffffffff := by
        bv_omega
      rw [if_pos wraps]
      refine iff_of_false (fun same => isZero ?_) (not_not.mpr isMax)
      exact (congrArg State.mp3DecInitCnt same).symm.trans wraps
    · rw [if_neg wraps, if_neg notOne, back]
      refine iff_of_true rfl fun isMax => wraps ?_
      rw [isMax]
      rfl

theorem inStep_of_reachable {state : State} (reachable : system.Reachable Below state) :
    state.InStep := by
  refine reachable.invariant ?_ ?_
  · rintro _ rfl
    exact State.InStep.start
  · rintro before label _ inStep below ⟨⟩
    exact inStep.step below

/-- While the counter holds them, the registrations are counted. -/
theorem decoder_counted {state : State} (reachable : system.Reachable Below state) :
    state.Counted ∧ ∀ label, CallCounted state label (state.done label) :=
  ⟨(inStep_of_reachable reachable).counted, fun _ => (inStep_of_reachable reachable).callCounted⟩

def firstHandle : Handle := ⟨5, by decide⟩

def twice : State := ⟨5, 2, [5]⟩

theorem decoder_counted_twice : system.Reachable Below twice ∧ twice.Counted ∧
    ∀ label, CallCounted twice label (twice.done label) := by
  have first : system.step start (.register (some firstHandle)) = some ⟨5, 1, [5]⟩ := rfl
  have second : system.step ⟨5, 1, [5]⟩ (.register none) = some twice := rfl
  have atFirst : Below start (.register (some firstHandle)) :=
    show (0 : BitVec 32) ≠ 0xffffffff by decide
  have atSecond : Below ⟨5, 1, [5]⟩ (.register none) :=
    show (1 : BitVec 32) ≠ 0xffffffff by decide
  have once : system.Reachable Below ⟨5, 1, [5]⟩ :=
    (System.Reachable.start rfl).step atFirst first
  have reachable : system.Reachable Below twice := once.step atSecond second
  exact ⟨reachable, decoder_counted reachable⟩

theorem registered_again (number : Nat) (positive : BitVec.ofNat 32 number ≠ 0) :
    system.step ⟨5, BitVec.ofNat 32 number, [5]⟩ (.register none) =
      some ⟨5, BitVec.ofNat 32 (number + 1), [5]⟩ := by
  refine congrArg some ?_
  rw [State.done, registerAdecMp3.eq_def, if_neg positive, BitVec.ofNat_add]
  rfl

theorem reachable_registers (number : Nat) (below : number < 2 ^ 32) :
    system.Reachable System.anyStep ⟨5, BitVec.ofNat 32 (number + 1), [5]⟩ := by
  induction number with
  | zero =>
    have first : system.step start (.register (some firstHandle)) = some ⟨5, 1, [5]⟩ := rfl
    exact (System.Reachable.start rfl).step trivial first
  | succ number ih =>
    have positive : BitVec.ofNat 32 (number + 1) ≠ 0 := by
      bv_omega
    exact (ih (Nat.lt_of_succ_lt below)).step trivial (registered_again _ positive)

/-- After `2 ^ 32` registrations the count is 0 again. -/
theorem count_wraps : ¬ ∀ state, system.Reachable System.anyStep state →
    state.Counted ∧ ∀ label, CallCounted state label (state.done label) := by
  intro general
  have reachable := reachable_registers (2 ^ 32 - 1) (by decide)
  have isFree := (general _ reachable).1.free (by decide)
  cases isFree

end Rkipc.Audio.DecoderCount
