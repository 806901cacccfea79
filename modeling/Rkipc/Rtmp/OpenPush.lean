import Rkipc.Rtmp.Push

namespace Rkipc.Rtmp

open Transition
open Storage.Recorder (Media MuxerCall opened WritesAfter)

/-! Frames and the muxer of an open push. -/

/-- The enable flag stands for a muxer whose latest init succeeded. -/
structure Stands (id : StreamId) (shared : Shared) : Prop where
  writes : WritesAfter (· = true) (shared.muxer (muxerId id))
  enabled : shared.enable id = true →
    opened (shared.muxer (muxerId id)) = some true

/-- What the owner of the mutex knows at its control point. -/
def Knows (id : StreamId) (shared : Shared) : Control → Prop
  | .opening other .set =>
      other = id → opened (shared.muxer (muxerId id)) = some true
  | .closing other .deinit => other = id → shared.enable id = false
  | .writing .video other .writeFrame => other = id → shared.enable id = true
  | _ => True

/-- Every `rkmuxer_init` of the stream succeeds, and an audio frame is passed
while the flag that its writer tested is still set. -/
def undisturbed (id : StreamId) (config : Config Nat Shared Control)
    (label : Nat × Choice) : Prop :=
  (config.control label.1 = .opening id .init → label.2 = .outcome true) ∧
  (config.control label.1 = .writing .audio id .writeFrame →
    config.shared.enable id = true)

instance (id : StreamId) (config : Config Nat Shared Control)
    (label : Nat × Choice) : Decidable (undisturbed id config label) :=
  inferInstanceAs (Decidable (_ ∧ _))

section Steps

variable {id : StreamId} {point next : Control} {before after : Shared}
  {choice : Choice}

theorem Stands.of_same (stands : Stands id before)
    (enable : after.enable id = before.enable id)
    (muxer : after.muxer (muxerId id) = before.muxer (muxerId id)) :
    Stands id after :=
  ⟨by rw [muxer]; exact stands.writes, by rw [enable, muxer]; exact stands.enabled⟩

theorem Stands.call_other (stands : Stands id before) {other : StreamId}
    (distinct : other ≠ id) (muxerCall : MuxerCall) :
    Stands id (before.call other muxerCall) :=
  stands.of_same rfl
    (Shared.call_other fun same => distinct (muxerId_inj same).symm)

theorem Stands.setEnable_other (stands : Stands id before) {other : StreamId}
    (distinct : other ≠ id) (enable : Bool) :
    Stands id (before.setEnable other enable) :=
  stands.of_same (Shared.setEnable_other (Ne.symm distinct)) rfl

theorem Stands.write (stands : Stands id before)
    (enabled : before.enable id = true) (media : Media) :
    Stands id (before.call id (.writeFrame media)) where
  writes := by
    rw [Shared.call_same]
    exact ⟨⟨true, stands.enabled enabled, rfl⟩, stands.writes⟩
  enabled _ := by
    rw [Shared.call_same]
    exact stands.enabled enabled

theorem Acts.stands (acts : Acts before choice point after next)
    (succeeds : point = .opening id .init → choice = .outcome true)
    (enabled : point = .writing .audio id .writeFrame → before.enable id = true)
    (stands : Stands id before) (knows : Knows id before point) :
    Stands id after ∧ Knows id after next := by
  cases acts with
  | enter call own =>
      refine ⟨stands, ?_⟩
      cases call with
      | init | deinit => trivial
      | writeFrame media => cases media <;> trivial
  | init own outcome =>
      by_cases same : own = id
      · subst same
        cases outcome.symm.trans (succeeds rfl)
        refine ⟨⟨?_, fun _ => ?_⟩, fun _ => ?_⟩ <;> rw [Shared.call_same]
        · exact stands.writes
        · rfl
        · rfl
      · exact ⟨stands.call_other same _, fun isOwn => (same isOwn).elim⟩
  | set own =>
      by_cases same : own = id
      · subst same
        exact ⟨⟨stands.writes, fun _ => knows rfl⟩, trivial⟩
      · exact ⟨stands.setEnable_other same _, trivial⟩
  | clear own =>
      by_cases same : own = id
      · subst same
        refine ⟨⟨stands.writes, fun isSet => ?_⟩, fun _ => Shared.setEnable_same⟩
        rw [Shared.setEnable_same] at isSet
        cases isSet
      · exact ⟨stands.setEnable_other same _, fun isOwn => (same isOwn).elim⟩
  | deinit own =>
      by_cases same : own = id
      · subst same
        have cleared := knows rfl
        refine ⟨⟨?_, fun isSet => ?_⟩, trivial⟩
        · rw [Shared.call_same]
          exact stands.writes
        · cases cleared.symm.trans isSet
      · exact ⟨stands.call_other same _, trivial⟩
  | checkVideo own isSet =>
      refine ⟨stands, fun isOwn => ?_⟩
      subst isOwn
      exact isSet
  | skipVideo | checkAudio | skipAudio => exact ⟨stands, trivial⟩
  | writeFrame media own =>
      by_cases same : own = id
      · subst same
        refine ⟨stands.write ?_ media, by cases media <;> trivial⟩
        cases media with
        | video => exact knows rfl
        | audio => exact enabled rfl
      · exact ⟨stands.call_other same _, by cases media <;> trivial⟩

/-- Outside the mutex nothing shared is written. -/
theorem Acts.outside (acts : Acts before choice point after next)
    (outside : point.holds = false) : after = before := by
  cases acts with
  | enter | checkVideo | skipVideo | checkAudio | skipAudio => rfl
  | init | set | clear | deinit => cases outside
  | writeFrame media => cases media <;> cases outside

end Steps

theorem outline (id : StreamId) :
    program.Outline (undisturbed id) (Stands id)
      (fun _ point shared => Stands id shared ∧ Knows id shared point)
      (fun _ _ _ => True) where
  start shared isStart := by
    cases isStart
    exact ⟨⟨trivial, fun isSet => nomatch isSet⟩, fun _ => trivial⟩
  acquire thread point next shared locks stands _ := by
    refine ⟨stands, ?_⟩
    cases point with
    | idle => cases locks
    | opening id point | closing id point =>
        cases point <;> cases locks
        trivial
    | writing media id point =>
        cases media <;> cases point <;> cases locks <;> trivial
  release thread point next shared _ busy := ⟨busy.1, trivial⟩
  inside config thread choice effect shared next _ allowed acts effected busy :=
    (acts_of_act acts effected).stands allowed.1 allowed.2 busy.1 busy.2
  outside config thread choice effect shared next outside _ acts effected _ := by
    have same := (acts_of_act acts effected).outside outside
    subst same
    exact ⟨trivial, fun stands => stands, fun _ _ _ _ busy => busy⟩
  undisturbed _ _ _ _ _ _ _ _ _ _ _ _ _ _ _ := trivial

/-- Where no `rkmuxer_init` fails and no deinit comes between the test of an audio
writer and its lock, every frame goes to a muxer whose latest init succeeded. -/
theorem frames_reach_open_push {id : StreamId} {config : Config Nat Shared Control}
    (reachable : program.system.Reachable (undisturbed id) config) :
    WritesAfter (· = true) (config.shared.muxer (muxerId id)) := by
  have described := (outline id).described reachable
  cases owner : config.owner with
  | none => exact (described.free owner).writes
  | some thread => exact (described.owned thread owner).1.writes

def steps (thread : Nat) (choices : List Choice) : List (Nat × Choice) :=
  choices.map fun choice => (thread, choice)

def push (succeeds : Bool) : List (Nat × Choice) :=
  steps 0 [.call .init 0, .go, .outcome succeeds, .go, .go]

def writeVideo : List (Nat × Choice) :=
  steps 1 [.call (.writeFrame .video) 0, .go, .go, .go, .go]

def pushed : List (Nat × Choice) :=
  push true ++ writeVideo ++
    steps 2 [.call (.writeFrame .audio) 0, .go, .go, .go, .go]

theorem frames_reach_open_push_pushed :
    ∃ config, program.system.Reachable (undisturbed 0) config ∧
      config.shared.muxer 3 =
        [.writeFrame .audio, .writeFrame .video, .init true] ∧
      WritesAfter (· = true) (config.shared.muxer (muxerId 0)) := by
  let ran := program.system.guardedRun
    (fun config label => decide (undisturbed 0 config label))
    (program.start .start) pushed
  have isSome : ran.isSome := by decide
  have reachable : program.system.Reachable (undisturbed 0) (ran.get isSome) :=
    ⟨_, ⟨.start, rfl, rfl⟩, System.reaches_of_guardedRun
      (fun _ _ allowed => of_decide_eq_true allowed) pushed
      (Option.some_get isSome).symm⟩
  exact ⟨_, reachable, rfl, frames_reach_open_push reachable⟩

/-- The flag is set although the muxer could not be opened. -/
def refused : List (Nat × Choice) := push false ++ writeVideo

/-- A deinit between the test of an audio writer and its lock. -/
def closedUnder : List (Nat × Choice) :=
  push true ++ steps 2 [.call (.writeFrame .audio) 0, .go] ++
    steps 0 [.call .deinit 0, .go, .go, .go, .go] ++ steps 2 [.go, .go]

def initSucceeds (id : StreamId) (config : Config Nat Shared Control)
    (label : Nat × Choice) : Prop :=
  config.control label.1 = .opening id .init → label.2 = .outcome true

instance (id : StreamId) (config : Config Nat Shared Control)
    (label : Nat × Choice) : Decidable (initSucceeds id config label) :=
  inferInstanceAs (Decidable (_ → _))

/-- A frame is passed to a muxer whose init failed; and one to a muxer that was
closed, although every init succeeds. -/
theorem frames_miss_open_push :
    (¬ ∀ (config : Config Nat Shared Control),
      program.system.Reachable System.anyStep config →
      ∀ id, WritesAfter (· = true) (config.shared.muxer (muxerId id))) ∧
    ¬ ∀ (config : Config Nat Shared Control) (id : StreamId),
      program.system.Reachable (initSucceeds id) config →
      WritesAfter (· = true) (config.shared.muxer (muxerId id)) := by
  constructor
  · intro general
    let ran := program.system.run (program.start .start) refused
    have isSome : ran.isSome := by decide
    have writes := general (ran.get isSome)
      (System.reachable_of_run ⟨.start, rfl, rfl⟩ (Option.some_get isSome).symm) 0
    obtain ⟨⟨succeeds, isOpened, isTrue⟩, _⟩ := writes
    have isFalse : some false = some succeeds := isOpened
    cases isFalse
    cases isTrue
  · intro general
    let ran := program.system.guardedRun
      (fun config label => decide (initSucceeds 0 config label))
      (program.start .start) closedUnder
    have isSome : ran.isSome := by decide
    have writes := general (ran.get isSome) 0
      ⟨_, ⟨.start, rfl, rfl⟩, System.reaches_of_guardedRun
        (fun _ _ allowed => of_decide_eq_true allowed) closedUnder
        (Option.some_get isSome).symm⟩
    obtain ⟨⟨succeeds, isOpened, _⟩, _⟩ := writes
    have closed : none = some succeeds := isOpened
    cases closed

end Rkipc.Rtmp
