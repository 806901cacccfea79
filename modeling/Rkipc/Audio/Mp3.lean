import Rkipc.Param.Copies
import Rkipc.Transition.System

namespace Rkipc.Audio.Mp3

open Ini Param Transition

/-! The registration of the external MP3 encoder, which comes and goes with the audio
channels. -/

inductive AencType
  | unsupported
  | mp2
  | pcmAlaw
  | mp3
deriving DecidableEq

/-- `encoders` are the handles that the MPI has given out and not got back, `registers` and
`unregisters` the numbers of registrations that succeeded and of calls that give a handle
back.  `audioUp` is set from `rkipc_audio_init` to `rkipc_audio_deinit`. -/
structure State where
  config : Dictionary
  extCodecHandle : Option Nat
  encoders : List Nat
  channel : Option AencType
  audioUp : Bool
  registers : Nat
  unregisters : Nat
deriving DecidableEq

def start (config : Dictionary) : State :=
  ⟨config, none, [], none, false, 0, 0⟩

/-- `"audio.%d:%s"` -/
def audioEntry (streamId : Int) (name : String) : Text :=
  "audio.".toList ++ decimal streamId ++ ':' :: name.toList

inductive Setter
  | bitRate (value : Int)
  | sampleRate (value : Int)
  | volume (value : Int)
  | enableVqe (value : Int)
  | encodeType (value : Text)
deriving DecidableEq

namespace Setter

def name : Setter → String
  | .bitRate _ => "bit_rate"
  | .sampleRate _ => "sample_rate"
  | .volume _ => "volume"
  | .enableVqe _ => "enable_vqe"
  | .encodeType _ => "encode_type"

def text : Setter → Text
  | .bitRate value | .sampleRate value | .volume value | .enableVqe value => decimal value
  | .encodeType value => value

end Setter

/-- What the calls of the MPI come to: `RegisterEncoder`, `CreateChn`, `DestroyChn` and
`UnRegisterEncoder`. -/
structure Outcome where
  registered : Bool
  created : Bool
  destroyed : Bool
  unregistered : Bool
deriving DecidableEq

namespace State

variable (state : State) (outcome : Outcome)

def encodeType : Option Text := Copies.getString state.config "audio.0:encode_type".toList none

def format : Option Text := Copies.getString state.config "audio.0:format".toList none

def set (streamId : Int) (setter : Setter) : State :=
  { state with
    config := iniparserSet state.config (audioEntry streamId setter.name) (some setter.text) }

/-- Forgets the handle before it asks for another. -/
def registerAencMp3 : State :=
  if outcome.registered then
    { state with
      extCodecHandle := some state.registers
      encoders := state.registers :: state.encoders
      registers := state.registers + 1 }
  else { state with extCodecHandle := none }

def unregisterAencMp3 : State :=
  match state.extCodecHandle with
  | none => state
  | some handle =>
      if outcome.unregistered ∧ handle ∈ state.encoders then
        { state with
          extCodecHandle := none
          encoders := state.encoders.erase handle
          unregisters := state.unregisters + 1 }
      else { state with unregisters := state.unregisters + 1 }

/-- Makes the channel, unless there is one. -/
def createChn (enType : AencType) : State :=
  if outcome.created ∧ state.channel = none then { state with channel := some enType }
  else state

/-- A type or a format that is NULL ends the process. -/
def rkipcAencInit : Option State :=
  match state.encodeType, state.format with
  | some encodeType, some _ =>
      if encodeType = "MP2".toList then some (state.createChn outcome .mp2)
      else if encodeType = "G711A".toList then some (state.createChn outcome .pcmAlaw)
      else if encodeType = "MP3".toList then
        some ((state.registerAencMp3 outcome).createChn outcome .mp3)
      else some (state.createChn outcome .unsupported)
  | _, _ => none

def rkipcAencDeinit : State :=
  if outcome.destroyed then { state with channel := none } else state

def rkipcAudioInit : Option State :=
  { state with audioUp := true }.rkipcAencInit outcome

def rkipcAudioDeinit : Option State :=
  match state.encodeType with
  | none => none
  | some encodeType =>
      let next := state.rkipcAencDeinit outcome
      let next := if encodeType = "MP3".toList then next.unregisterAencMp3 outcome else next
      some { next with audioUp := false }

end State

inductive Label
  | set (streamId : Int) (setter : Setter)
  | init (outcome : Outcome)
  | deinit (outcome : Outcome)
  | restart (outcome : Outcome)
deriving DecidableEq

def State.step (state : State) : Label → Option State
  | .set streamId setter => some (state.set streamId setter)
  | .init outcome => state.rkipcAudioInit outcome
  | .deinit outcome => state.rkipcAudioDeinit outcome
  | .restart outcome =>
      (state.rkipcAudioDeinit outcome).bind fun next => next.rkipcAudioInit outcome

def system : System State Label where
  initial state := ∃ config, state = start config
  step := State.step

/-- The encoder is registered while a channel uses it, nothing stays registered after the
deinit, and every registration has been given back once by then. -/
structure State.Matched (state : State) : Prop where
  used : state.channel = some .mp3 → state.encoders ≠ []
  removed : state.audioUp = false → state.encoders = []
  counts : state.audioUp = false → state.unregisters = state.registers

section Condition

variable (state : State) (outcome : Outcome)

def State.isMp3 : Prop := state.encodeType = some "MP3".toList

/-- No registration is overwritten, and without one the channel is not made. -/
def InitClean : Prop :=
  state.isMp3 → state.extCodecHandle = none ∧
    (outcome.registered = true ∨ outcome.created = false)

/-- What is registered is found again by the type and can be taken back. -/
def DeinitClean : Prop :=
  state.extCodecHandle ≠ none →
    state.isMp3 ∧ outcome.unregistered = true ∧
      (state.channel = some .mp3 → outcome.destroyed = true)

def Clean (state : State) : Label → Prop
  | .set _ _ => True
  | .init outcome => InitClean state outcome
  | .deinit outcome => DeinitClean state outcome
  | .restart outcome =>
      DeinitClean state outcome ∧
        (state.isMp3 → outcome.registered = true ∨ outcome.created = false)

end Condition

/-- The handle is the one registration that there is. -/
structure State.InStep (state : State) : Prop where
  single : state.encoders = state.extCodecHandle.toList
  used : state.channel = some .mp3 → state.extCodecHandle ≠ none
  down : state.audioUp = false → state.extCodecHandle = none
  counts : state.registers = state.unregisters + state.encoders.length

namespace State.InStep

variable {config : Dictionary} {state next : State} {outcome : Outcome} {enType : AencType}

theorem start : (start config).InStep where
  single := rfl
  used isMp3 := (Option.some_ne_none _ isMp3.symm).elim
  down _ := rfl
  counts := rfl

theorem matched (inStep : state.InStep) : state.Matched where
  used isMp3 := by
    rw [inStep.single]
    cases handle : state.extCodecHandle with
    | none => exact absurd handle (inStep.used isMp3)
    | some handle => exact List.cons_ne_nil _ _
  removed isDown := by
    rw [inStep.single, inStep.down isDown]
    rfl
  counts isDown := by
    rw [inStep.counts, inStep.single, inStep.down isDown]
    rfl

theorem up (inStep : state.InStep) : ({ state with audioUp := true } : State).InStep where
  single := inStep.single
  used := inStep.used
  down isDown := Bool.noConfusion isDown
  counts := inStep.counts

theorem createChn (inStep : state.InStep)
    (backed : enType = .mp3 → outcome.created = true → state.extCodecHandle ≠ none) :
    (state.createChn outcome enType).InStep := by
  unfold State.createChn
  split
  next creates =>
    exact {
      single := inStep.single
      used := fun isMp3 => backed (Option.some_inj.mp isMp3) creates.1
      down := inStep.down
      counts := inStep.counts }
  next => exact inStep

theorem registerAencMp3 (inStep : state.InStep) (isUp : state.audioUp = true)
    (free : state.extCodecHandle = none) :
    (state.registerAencMp3 outcome).InStep := by
  have empty : state.encoders = [] := by rw [inStep.single, free]; rfl
  unfold State.registerAencMp3
  split
  next =>
    exact {
      single := congrArg (List.cons _) empty
      used := fun _ => Option.some_ne_none _
      down := fun isDown => Bool.noConfusion (isUp.symm.trans isDown)
      counts := by
        rw [List.length_cons, ← Nat.add_assoc]
        exact congrArg (· + 1) inStep.counts }
  next =>
    exact {
      single := empty
      used := fun isMp3 => absurd free (inStep.used isMp3)
      down := fun _ => rfl
      counts := inStep.counts }

/-- The calls of `rkipc_audio_init` come while nothing says that the audio is down. -/
theorem rkipcAencInit (inStep : state.InStep) (isUp : state.audioUp = true)
    (clean : InitClean state outcome) (stepped : state.rkipcAencInit outcome = some next) :
    next.InStep := by
  unfold State.rkipcAencInit at stepped
  split at stepped
  next encodeType _ isType _ =>
    split at stepped
    next =>
      cases stepped
      exact inStep.createChn fun isMp3 => AencType.noConfusion isMp3
    next =>
      split at stepped
      next =>
        cases stepped
        exact inStep.createChn fun isMp3 => AencType.noConfusion isMp3
      next =>
        split at stepped
        next isMp3 =>
          cases stepped
          obtain ⟨free, registered⟩ := clean (isType.trans (congrArg some isMp3))
          refine (inStep.registerAencMp3 isUp free).createChn fun _ creates => ?_
          rcases registered with registered | fails
          · rw [State.registerAencMp3, if_pos registered]
            exact Option.some_ne_none _
          · exact (Bool.noConfusion (fails.symm.trans creates))
        next =>
          cases stepped
          exact inStep.createChn fun isMp3 => AencType.noConfusion isMp3
  next => contradiction

theorem rkipcAudioInit (inStep : state.InStep) (clean : InitClean state outcome)
    (stepped : state.rkipcAudioInit outcome = some next) : next.InStep :=
  inStep.up.rkipcAencInit rfl clean stepped

theorem rkipcAencDeinit (inStep : state.InStep) : (state.rkipcAencDeinit outcome).InStep := by
  unfold State.rkipcAencDeinit
  split
  next =>
    exact {
      single := inStep.single
      used := fun isMp3 => (Option.some_ne_none _ isMp3.symm).elim
      down := inStep.down
      counts := inStep.counts }
  next => exact inStep

theorem isDown (inStep : state.InStep) (free : state.extCodecHandle = none) :
    ({ state with audioUp := false } : State).InStep where
  single := inStep.single
  used := inStep.used
  down _ := free
  counts := inStep.counts

theorem unregisterAencMp3 (inStep : state.InStep)
    (clean : state.extCodecHandle ≠ none →
      outcome.unregistered = true ∧ state.channel ≠ some .mp3) :
    (state.unregisterAencMp3 outcome).InStep ∧
      (state.unregisterAencMp3 outcome).extCodecHandle = none := by
  cases registered : state.extCodecHandle with
  | none =>
      rw [State.unregisterAencMp3, registered]
      exact ⟨inStep, registered⟩
  | some handle =>
      obtain ⟨succeeds, free⟩ := clean (by rw [registered]; exact Option.some_ne_none _)
      have single : state.encoders = [handle] := by rw [inStep.single, registered]; rfl
      have counts : state.registers = state.unregisters + 1 := by
        rw [inStep.counts, single]
        rfl
      have found : outcome.unregistered = true ∧ handle ∈ state.encoders := by
        rw [single]
        exact ⟨succeeds, List.mem_singleton_self handle⟩
      rw [State.unregisterAencMp3, registered]
      dsimp only
      rw [if_pos found]
      exact ⟨{
        single := by rw [single, List.erase_cons_head]; rfl
        used := fun isMp3 => absurd isMp3 free
        down := fun _ => rfl
        counts := by rw [counts, single, List.erase_cons_head]; rfl }, rfl⟩

theorem rkipcAudioDeinit (inStep : state.InStep) (clean : DeinitClean state outcome)
    (stepped : state.rkipcAudioDeinit outcome = some next) :
    next.InStep ∧ next.extCodecHandle = none ∧ next.config = state.config := by
  have kept : (state.rkipcAencDeinit outcome).InStep := inStep.rkipcAencDeinit
  obtain ⟨sameHandle, sameConfig, destroys⟩ :
      (state.rkipcAencDeinit outcome).extCodecHandle = state.extCodecHandle ∧
        (state.rkipcAencDeinit outcome).config = state.config ∧
        ((state.channel = some .mp3 → outcome.destroyed = true) →
          (state.rkipcAencDeinit outcome).channel ≠ some .mp3) := by
    unfold State.rkipcAencDeinit
    split
    next => exact ⟨rfl, rfl, fun _ => (Option.some_ne_none _).symm⟩
    next fails => exact ⟨rfl, rfl, fun destroyed isMp3 => fails (destroyed isMp3)⟩
  unfold State.rkipcAudioDeinit at stepped
  split at stepped
  next => contradiction
  next encodeType isType =>
    cases stepped
    split
    next =>
      have unregistered :
          ((state.rkipcAencDeinit outcome).unregisterAencMp3 outcome).InStep ∧
            ((state.rkipcAencDeinit outcome).unregisterAencMp3 outcome).extCodecHandle = none :=
        kept.unregisterAencMp3 fun registered =>
          have ⟨_, succeeds, destroyed⟩ := clean (sameHandle ▸ registered)
          ⟨succeeds, destroys destroyed⟩
      refine ⟨unregistered.1.isDown unregistered.2, unregistered.2, ?_⟩
      rw [← sameConfig]
      unfold State.unregisterAencMp3
      split
      next => rfl
      next => split <;> rfl
    next other =>
      have free : state.extCodecHandle = none := by
        by_contra registered
        exact other (Option.some_inj.mp (isType.symm.trans (clean registered).1))
      exact ⟨kept.isDown (sameHandle.trans free), sameHandle.trans free, sameConfig⟩

theorem step {label : Label} (inStep : state.InStep) (clean : Clean state label)
    (stepped : state.step label = some next) : next.InStep := by
  cases label with
  | set streamId setter =>
      cases stepped
      exact ⟨inStep.single, inStep.used, inStep.down, inStep.counts⟩
  | init outcome => exact inStep.rkipcAudioInit clean stepped
  | deinit outcome => exact (inStep.rkipcAudioDeinit clean stepped).1
  | restart outcome =>
      obtain ⟨middle, down, stepped⟩ := Option.bind_eq_some_iff.mp stepped
      obtain ⟨kept, free, sameConfig⟩ := inStep.rkipcAudioDeinit clean.1 down
      refine kept.rkipcAudioInit (fun isMp3 => ⟨free, clean.2 ?_⟩) stepped
      unfold State.isMp3 State.encodeType at isMp3 ⊢
      rw [← sameConfig]
      exact isMp3

end State.InStep

/-- In every run of clean steps the encoder is registered while a channel uses it, and
given back as often as it was registered. -/
theorem mp3_matched {state : State} (reachable : system.Reachable Clean state) :
    state.Matched := by
  refine State.InStep.matched (reachable.invariant ?_ ?_)
  · rintro _ ⟨config, rfl⟩
    exact State.InStep.start
  · intro before label next inStep clean stepped
    exact inStep.step clean stepped

def succeeding : Outcome := ⟨true, true, true, true⟩

def configured (encodeType : String) : Dictionary :=
  iniparserSet (iniparserSet (dictionaryNew 0) "audio.0:format".toList (some "S16".toList))
    "audio.0:encode_type".toList (some encodeType.toList)

def cleanly (state : State) : Label → Bool
  | .set _ _ => true
  | .init outcome => state.extCodecHandle = none ∧ outcome.registered
  | .deinit outcome =>
      state.encodeType = some "MP3".toList ∧ outcome.unregistered ∧ outcome.destroyed
  | .restart _ => false

theorem cleanly_clean (state : State) (label : Label) (checked : cleanly state label = true) :
    Clean state label := by
  cases label with
  | set streamId setter => trivial
  | init outcome =>
      have both := of_decide_eq_true checked
      exact fun _ => ⟨both.1, .inl both.2⟩
  | deinit outcome =>
      have all := of_decide_eq_true checked
      exact fun _ => ⟨all.1, all.2.1, fun _ => all.2.2⟩
  | restart outcome => cases checked

def playing : List Label :=
  [.init succeeding, .set 0 (.volume 50), .deinit succeeding]

theorem mp3_matched_playing :
    ∃ state, system.Reachable Clean state ∧ state.registers = 1 ∧ state.Matched := by
  let ran := system.guardedRun cleanly (start (configured "MP3")) playing
  have defined : ran.isSome = true := by decide +kernel
  have counted : (ran.map State.registers) = some 1 := by decide +kernel
  obtain ⟨state, reached⟩ := Option.isSome_iff_exists.mp defined
  have reachable : system.Reachable Clean state :=
    ⟨_, ⟨_, rfl⟩, System.reaches_of_guardedRun cleanly_clean playing reached⟩
  rw [reached] at counted
  exact ⟨state, reachable, Option.some_inj.mp counted, mp3_matched reachable⟩

def changing : List Label :=
  [.init succeeding, .set 0 (.encodeType "G711A".toList), .restart succeeding, .deinit succeeding]

/-- After the deinit the encoder is still registered. -/
theorem mp3_stays : ¬ ∀ state, system.Reachable System.anyStep state → state.Matched := by
  intro general
  let ran := system.run (start (configured "MP3")) changing
  have ends : ran.map (fun state => (state.audioUp, state.encoders)) = some (false, [0]) := by
    decide +kernel
  obtain ⟨state, reached, isEnd⟩ := Option.map_eq_some_iff.mp ends
  have removed := (general state (System.reachable_of_run ⟨_, rfl⟩ reached)).removed
  have isDown : state.audioUp = false := congrArg Prod.fst isEnd
  have left : state.encoders = [0] := congrArg Prod.snd isEnd
  rw [removed isDown] at left
  exact absurd left (List.cons_ne_nil _ _).symm

end Rkipc.Audio.Mp3
