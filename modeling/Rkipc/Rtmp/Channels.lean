import Rkipc.Rtmp.Push
import Rkipc.Storage.LastStream
import Rkipc.Transition.System

namespace Rkipc.Rtmp

open Transition
open Storage.Recorder (MuxerCall opened)

/-! The muxers of the storage module and those of the RTMP module.  Each module
has a mutex of its own. -/

abbrev Modules :=
  Config Storage.Recorder.Thread Storage.Recorder.Shared Storage.Recorder.Control ×
    Config Nat Shared Control

abbrev ModulesLabel :=
  (Storage.Recorder.Thread × Storage.Recorder.Choice) ⊕ (Nat × Choice)

def modules (enable : Storage.Recorder.StreamId → Int) : System Modules ModulesLabel :=
  (Storage.Recorder.program enable).system.interleave program.system

def served (_ : Modules) : ModulesLabel → Prop
  | .inl label => Storage.Recorder.mainStreamOnly label.2 = true
  | .inr _ => True

/-- The muxer that the next call of a thread of the storage module names. -/
def storageNames : Storage.Recorder.Control → Option Nat
  | .opening _ id .deinit | .opening _ id .init | .closing _ id .deinit
  | .writing _ id .writeFrame => some id
  | _ => none

/-- The muxer that the next call of a thread of the RTMP module names. -/
def rtmpNames : Control → Option Nat
  | .opening id .init | .closing id .deinit | .writing _ id .writeFrame =>
      some (muxerId id)
  | _ => none

/-- No module is about to call a muxer that the other has initialised and not
deinitialised. -/
structure Apart (both : Modules) : Prop where
  storage : ∀ thread muxer, storageNames (both.1.control thread) = some muxer →
    opened (both.2.shared.muxer muxer) = none
  rtmp : ∀ thread muxer, rtmpNames (both.2.control thread) = some muxer →
    ∀ id : Storage.Recorder.StreamId, (id : Nat) = muxer →
      opened (both.1.shared.streams id).muxer = none

/-- The RTMP module has called no muxer below its own. -/
structure Above (config : Config Nat Shared Control) : Prop where
  muxer : ∀ muxer, muxer < 3 → config.shared.muxer muxer = []

theorem Shared.call_below {shared : Shared} {id : StreamId} {muxerCall : MuxerCall}
    {muxer : Nat} (below : muxer < 3) :
    (shared.call id muxerCall).muxer muxer = shared.muxer muxer := by
  refine Shared.call_other fun same => ?_
  rw [same, muxerId] at below
  omega

theorem Above.step {config after : Config Nat Shared Control} {label : Nat × Choice}
    (above : Above config) (stepped : program.step config label = some after) :
    Above after := by
  cases Program.moves_of_step stepped with
  | acquire => exact ⟨above.muxer⟩
  | release => exact ⟨above.muxer⟩
  | act acts effected =>
      refine ⟨fun muxer below => ?_⟩
      generalize config.control label.1 = point at acts
      cases acts_of_act acts effected with
      | enter | set | clear | checkVideo | skipVideo | checkAudio | skipAudio =>
          exact above.muxer muxer below
      | init | deinit | writeFrame =>
          rw [Shared.call_below below]
          exact above.muxer muxer below

theorem above_of_reachable {config : Config Nat Shared Control}
    (reachable : program.system.Reachable System.anyStep config) : Above config := by
  refine reachable.invariant ?_ ?_
  · intro _ isInitial
    obtain ⟨shared, isStart, rfl⟩ := isInitial
    cases isStart
    exact ⟨fun _ _ => rfl⟩
  · exact fun _ _ _ above _ stepped => above.step stepped

/-- A thread of the storage module that is about to call a muxer is on the way to
record its stream. -/
theorem storageNames_not_last {point : Storage.Recorder.Control} {muxer : Nat}
    (quiet : Storage.Recorder.Quiet point) (names : storageNames point = some muxer) :
    muxer < 3 := by
  have below : ∀ id : Storage.Recorder.StreamId, id ≠ 3 → (id : Nat) < 3 := by decide
  cases point with
  | opening party id stage =>
      cases stage <;> cases names <;> exact below id quiet
  | closing party id stage =>
      cases stage <;> cases names
      exact below id quiet
  | writing media id stage =>
      cases stage <;> cases names
      exact below id quiet
  | _ => cases names

theorem rtmpNames_above {point : Control} {muxer : Nat}
    (names : rtmpNames point = some muxer) : 3 ≤ muxer := by
  have above : ∀ id : StreamId, 3 ≤ muxerId id := fun id => Nat.le_add_left 3 id
  cases point with
  | idle => cases names
  | opening id stage | closing id stage | writing media id stage =>
      cases stage <;> cases names
      exact above id

theorem apart_of_disabled {enable : Storage.Recorder.StreamId → Int}
    (disabled : enable 3 = 0) {both : Modules}
    (reachable : (modules enable).Reachable served both) : Apart both := by
  obtain ⟨⟨first, second⟩, isInitial, reaches⟩ := reachable
  have unrecorded := Storage.Recorder.unrecorded_of_reachable disabled
    ⟨first, isInitial.1, reaches.inl fun _ _ allowed => allowed⟩
  have above := above_of_reachable
    ⟨second, isInitial.2, reaches.inr fun _ _ _ => trivial⟩
  refine ⟨fun thread muxer names => ?_, fun thread muxer names id same => ?_⟩
  · rw [above.muxer muxer (storageNames_not_last (unrecorded.quiet thread) names)]
    rfl
  · have isLast : id = 3 := by
      have atLeast := rtmpNames_above names
      ext
      change (id : Nat) = 3
      omega
    rw [isLast, unrecorded.untouched.muxer]
    rfl

def pushFirst : List (Nat × Choice) :=
  [.call .init 0, .go, .outcome true, .go, .go].map fun choice => (0, choice)

theorem not_apart_of_enabled {enable : Storage.Recorder.StreamId → Int}
    (enabled : enable 3 ≠ 0) :
    ∃ both, (modules enable).Reachable served both ∧ ¬ Apart both := by
  obtain ⟨recorded, reachable, closes⟩ := Storage.Recorder.last_stream_closed enabled
  let ran := program.system.run (program.start .start) pushFirst
  have isSome : ran.isSome := rfl
  have pushes : program.system.Reachable System.anyStep (ran.get isSome) :=
    System.reachable_of_run ⟨.start, rfl, rfl⟩ (Option.some_get isSome).symm
  refine ⟨(recorded, ran.get isSome), System.reachable_interleave
    (fun _ _ allowed => allowed) (fun _ _ _ => trivial) reachable pushes, ?_⟩
  intro apart
  have names : storageNames (recorded.control (.recorder 3 0)) = some 3 := by
    rw [closes]
    rfl
  have closed := apart.storage _ _ names
  have live : opened ((ran.get isSome).shared.muxer 3) = some true := rfl
  rw [live] at closed
  cases closed

/-- The modules keep apart in every run just when the last stream is not enabled. -/
theorem muxers_apart_iff (enable : Storage.Recorder.StreamId → Int) :
    (∀ both, (modules enable).Reachable served both → Apart both) ↔ enable 3 = 0 := by
  constructor
  · intro general
    refine Decidable.byContradiction fun enabled => ?_
    obtain ⟨both, reachable, crossed⟩ := not_apart_of_enabled enabled
    exact crossed (general both reachable)
  · exact fun disabled _ reachable => apart_of_disabled disabled reachable

def lastEnabled (id : Storage.Recorder.StreamId) : Int := if id = 3 then 1 else 0

/-- The recorder of the last stream closes the push of the first. -/
theorem last_stream_closes_push :
    ¬ ∀ (enable : Storage.Recorder.StreamId → Int) (both : Modules),
      (modules enable).Reachable served both → Apart both := by
  intro general
  have enabled : lastEnabled 3 ≠ 0 := by decide
  obtain ⟨both, reachable, crossed⟩ := not_apart_of_enabled enabled
  exact crossed (general _ both reachable)

end Rkipc.Rtmp
