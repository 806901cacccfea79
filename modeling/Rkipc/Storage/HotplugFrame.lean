import Rkipc.Storage.Hotplug

namespace Rkipc.Storage

open Recorder

/-! Which uevents of another device leave the recording alone. -/

namespace Recorder.Stream

variable {enable : Int} {stream : Stream}

theorem join_cases (stream : Stream) :
    stream.join = stream ∨ ∃ thread, stream.join = stream.leave thread := by
  unfold join
  split
  next => exact .inl rfl
  next thread _ =>
    split
    · exact .inr ⟨thread, rfl⟩
    · exact .inl rfl

@[simp] theorem join_recordFlag (stream : Stream) :
    stream.join.recordFlag = stream.recordFlag := by
  rcases join_cases stream with same | ⟨_, same⟩ <;> rw [same]
  rfl

@[simp] theorem join_storageRecordFlag (stream : Stream) :
    stream.join.storageRecordFlag = stream.storageRecordFlag := by
  rcases join_cases stream with same | ⟨_, same⟩ <;> rw [same]
  rfl

/-- The join does not wait for a live recorder. -/
def Ended (stream : Stream) : Prop :=
  ∀ thread, stream.recordThreadId = some thread → thread ∉ stream.live

theorem join_eq_self_of_ended (ended : stream.Ended) : stream.join = stream := by
  unfold join
  split
  next => rfl
  next thread isThread => rw [if_neg (ended thread isThread)]

theorem ended_of_join_live (same : stream.join.live = stream.live) :
    stream.Ended := by
  intro thread isThread isLive
  simp only [join, isThread, isLive, if_true] at same
  have shorter := List.length_erase_of_mem isLive
  have positive := List.length_pos_of_mem isLive
  have sameLength : (stream.live.erase thread).length = stream.live.length :=
    congrArg List.length same
  omega

@[simp] theorem muxerDeinitById_recordFlag (enable : Int) (stream : Stream) :
    (stream.muxerDeinitById enable).recordFlag = stream.recordFlag := by
  unfold muxerDeinitById
  split
  · rfl
  · simp only
    split <;> simp [setSignal, setStorageRecordFlag]

theorem muxerDeinitById_flag (isEnabled : enable ≠ 0) (stream : Stream) :
    (stream.muxerDeinitById enable).storageRecordFlag = false := by
  simp only [muxerDeinitById, isEnabled, if_false]
  split <;> simp [setSignal, setStorageRecordFlag]

theorem muxerDeinitById_signal (isEnabled : enable ≠ 0) (stream : Stream) :
    (stream.muxerDeinitById enable).gStorageSignal = false := by
  simp only [muxerDeinitById, isEnabled, if_false]
  split
  next => rfl
  next noSignal => simpa using noSignal

@[simp] theorem join_created (stream : Stream) :
    stream.join.created = stream.created := by
  rcases join_cases stream with same | ⟨_, same⟩ <;> rw [same]
  rfl

@[simp] theorem muxerDeinitById_created (enable : Int) (stream : Stream) :
    (stream.muxerDeinitById enable).created = stream.created := by
  unfold muxerDeinitById
  split
  · rfl
  · simp only
    split <;> simp [setSignal, setStorageRecordFlag]

theorem muxerDeinitById_eq_self (noSignal : stream.gStorageSignal = false)
    (noFlag : stream.storageRecordFlag = false) :
    stream.muxerDeinitById enable = stream := by
  cases stream
  cases noSignal
  cases noFlag
  simp [muxerDeinitById, setStorageRecordFlag]

theorem muxerDeinitById_of_ended (isEnabled : enable ≠ 0)
    (ended : stream.Ended) :
    stream.muxerDeinitById enable =
      (stream.setStorageRecordFlag false).setSignal false := by
  have joined : (stream.setStorageRecordFlag false).join =
      stream.setStorageRecordFlag false :=
    join_eq_self_of_ended ended
  simp only [muxerDeinitById, isEnabled, if_false]
  split
  next => rw [joined]
  next noSignal =>
    have isFalse : stream.gStorageSignal = false := by
      simpa [setStorageRecordFlag] using noSignal
    simp [setStorageRecordFlag, setSignal, isFalse]

theorem join_setStorageRecordFlag (flag : Bool) (stream : Stream) :
    (stream.setStorageRecordFlag flag).join =
      stream.join.setStorageRecordFlag flag := by
  cases isThread : stream.recordThreadId with
  | none => simp [join, setStorageRecordFlag, isThread]
  | some thread =>
      by_cases isLive : thread ∈ stream.live
      · simp [join, setStorageRecordFlag, isThread, isLive, leave, setRun, call,
          Stream.ended]
      · simp [join, setStorageRecordFlag, isThread, isLive]

theorem muxerDeinitById_live (isEnabled : enable ≠ 0)
    (isCreated : stream.gStorageSignal = true) :
    (stream.muxerDeinitById enable).live = stream.join.live := by
  have stillCreated :
      (stream.setStorageRecordFlag false).gStorageSignal = true :=
    isCreated
  simp only [muxerDeinitById, isEnabled, if_false, stillCreated, if_true,
    join_setStorageRecordFlag]
  rfl

theorem muxerInitById_of_fails {prepared signal recorder : Bool}
    (isEnabled : enable ≠ 0) (noSignal : stream.gStorageSignal = false)
    (fails : ¬(prepared = true ∧ signal = true)) :
    stream.muxerInitById enable prepared signal recorder = stream := by
  cases prepared with
  | false => rfl
  | true =>
      cases signal with
      | true => exact absurd ⟨rfl, rfl⟩ fails
      | false =>
          cases stream
          cases noSignal
          simp [muxerInitById, isEnabled, setSignal]

end Recorder.Stream

/-- A removal finds nothing to clear and, where its message arrives, nothing to
stop. -/
structure RemoveHarmless (enable : StreamId → Int) (sent : Bool)
    (streams : StreamId → Stream) : Prop where
  flags : ∀ id, (streams id).storageRecordFlag = false
  recorders : sent = true → ∀ id : StreamId, (id : Nat) < 3 →
    (streams id).recordFlag = 0 ∧
      (enable id = 0 ∨ (streams id).gStorageSignal = false)

theorem stop_eq_iff {enable : StreamId → Int} {id : StreamId}
    {stream : Stream} :
    stop enable id (stream.setStorageRecordFlag false) = stream ↔
      stream.storageRecordFlag = false ∧ stream.recordFlag = 0 ∧
        (enable id = 0 ∨ stream.gStorageSignal = false) := by
  constructor
  · intro same
    by_cases isDisabled : enable id = 0
    · have cleared : (stream.setStorageRecordFlag false).setRecordFlag 0 =
          stream := by
        simpa [stop, Stream.muxerDeinitById, isDisabled] using same
      exact ⟨by rw [← cleared]; rfl, by rw [← cleared]; rfl, .inl isDisabled⟩
    · refine ⟨?_, ?_, .inr ?_⟩
      · rw [← same]
        exact Stream.muxerDeinitById_flag isDisabled _
      · rw [← same]
        exact Stream.muxerDeinitById_recordFlag ..
      · rw [← same]
        exact Stream.muxerDeinitById_signal isDisabled _
  · intro both
    obtain ⟨noFlag, noRecord, nothing⟩ := both
    have cleared : (stream.setStorageRecordFlag false).setRecordFlag 0 =
        stream := by
      cases stream
      cases noFlag
      cases noRecord
      rfl
    rw [stop, cleared]
    rcases nothing with isDisabled | noSignal
    · simp [Stream.muxerDeinitById, isDisabled]
    · exact Stream.muxerDeinitById_eq_self noSignal noFlag

/-- An accepted device finds the stream as the restart would leave it. -/
structure RestartHarmless (enable : Int) (prepared signal recorder : Bool)
    (stream : Stream) : Prop where
  restarted : enable = 1 → prepared = true ∧ signal = true →
    recorder = false ∧ stream.recordFlag = 1 ∧
      stream.storageRecordFlag = true ∧ stream.gStorageSignal = true ∧
      stream.Ended
  notRestarted : enable = 1 → ¬(prepared = true ∧ signal = true) →
    stream.recordFlag = 1 ∧ stream.storageRecordFlag = false ∧
      stream.gStorageSignal = false
  disabled : enable = 0 → stream.recordFlag = 0

section Restart

variable {enable : StreamId → Int} {answers : Answers} {id : StreamId}
  {stream : Stream}

theorem restart_of_fails (isOn : enable id = 1)
    (fails : ¬(answers.prepared id = true ∧ answers.signal id = true)) :
    restart enable answers id stream =
      (stream.setRecordFlag 1).muxerDeinitById (enable id) := by
  have isEnabled : enable id ≠ 0 := by omega
  rw [restart, if_pos isOn]
  exact Stream.muxerInitById_of_fails isEnabled
    (Stream.muxerDeinitById_signal isEnabled _) fails

theorem restart_of_starts (isOn : enable id = 1)
    (isPrepared : answers.prepared id = true)
    (hasSignal : answers.signal id = true) :
    restart enable answers id stream =
      if answers.recorder id then
        ((((stream.setRecordFlag 1).muxerDeinitById (enable id)).setSignal
          true).setStorageRecordFlag true).spawn
      else
        (((stream.setRecordFlag 1).muxerDeinitById (enable id)).setSignal
          true).setStorageRecordFlag true := by
  have isEnabled : enable id ≠ 0 := by omega
  rw [restart, if_pos isOn]
  simp only [Stream.muxerInitById, isPrepared, hasSignal, if_true, isEnabled,
    if_false]

theorem restarted_of_restart_eq
    (same : restart enable answers id stream = stream) (isOn : enable id = 1)
    (isPrepared : answers.prepared id = true)
    (hasSignal : answers.signal id = true) :
    answers.recorder id = false ∧ stream.recordFlag = 1 ∧
      stream.storageRecordFlag = true ∧ stream.gStorageSignal = true ∧
      stream.Ended := by
  have isEnabled : enable id ≠ 0 := by omega
  rw [restart_of_starts isOn isPrepared hasSignal] at same
  cases isCreated : answers.recorder id with
  | true =>
      have sameCreated := congrArg Stream.created same
      simp [isCreated, Stream.spawn, Stream.setStorageRecordFlag,
        Stream.setSignal, Stream.setRecordFlag] at sameCreated
  | false =>
      simp only [isCreated, Bool.false_eq_true, if_false] at same
      have sameSignal : stream.gStorageSignal = true := by
        rw [← same]
        rfl
      refine ⟨rfl, ?_, ?_, sameSignal, ?_⟩
      · rw [← same]
        exact Stream.muxerDeinitById_recordFlag ..
      · rw [← same]
        rfl
      · have sameLive := congrArg Stream.live same
        have joinLive : ((stream.setRecordFlag 1).muxerDeinitById
            (enable id)).live = (stream.setRecordFlag 1).join.live :=
          Stream.muxerDeinitById_live isEnabled sameSignal
        have ended : (stream.setRecordFlag 1).Ended :=
          Stream.ended_of_join_live (joinLive.symm.trans sameLive)
        exact ended

theorem restart_eq_self_of_restarted (isOn : enable id = 1)
    (isPrepared : answers.prepared id = true)
    (hasSignal : answers.signal id = true)
    (noRecorder : answers.recorder id = false) (isOne : stream.recordFlag = 1)
    (isSet : stream.storageRecordFlag = true)
    (isCreated : stream.gStorageSignal = true) (ended : stream.Ended) :
    restart enable answers id stream = stream := by
  have isEnabled : enable id ≠ 0 := by omega
  have stopped : (stream.setRecordFlag 1).muxerDeinitById (enable id) =
      ((stream.setRecordFlag 1).setStorageRecordFlag false).setSignal false :=
    Stream.muxerDeinitById_of_ended isEnabled ended
  rw [restart_of_starts isOn isPrepared hasSignal, noRecorder, stopped]
  cases stream
  cases isOne
  cases isSet
  cases isCreated
  rfl

theorem restart_eq_iff :
    restart enable answers id stream = stream ↔
      RestartHarmless (enable id) (answers.prepared id) (answers.signal id)
        (answers.recorder id) stream := by
  constructor
  · intro same
    refine ⟨?_, ?_, ?_⟩
    · intro isOn both
      obtain ⟨isPrepared, hasSignal⟩ := both
      exact restarted_of_restart_eq same isOn isPrepared hasSignal
    · intro isOn fails
      have isEnabled : enable id ≠ 0 := by omega
      rw [restart_of_fails isOn fails] at same
      refine ⟨?_, ?_, ?_⟩
      · rw [← same]
        exact Stream.muxerDeinitById_recordFlag ..
      · rw [← same]
        exact Stream.muxerDeinitById_flag isEnabled _
      · rw [← same]
        exact Stream.muxerDeinitById_signal isEnabled _
    · intro isOff
      have cleared : stream.setRecordFlag 0 = stream := by
        simpa [restart, isOff, Stream.muxerDeinitById] using same
      rw [← cleared]
      rfl
  · intro harmless
    by_cases isOn : enable id = 1
    · by_cases starts : answers.prepared id = true ∧ answers.signal id = true
      · obtain ⟨noRecorder, isOne, isSet, isCreated, ended⟩ :=
          harmless.restarted isOn starts
        exact restart_eq_self_of_restarted isOn starts.1 starts.2 noRecorder
          isOne isSet isCreated ended
      · obtain ⟨isOne, noFlag, noSignal⟩ := harmless.notRestarted isOn starts
        rw [restart_of_fails isOn starts]
        have flagged : stream.setRecordFlag 1 = stream := by
          cases stream
          cases isOne
          rfl
        rw [flagged, Stream.muxerDeinitById_eq_self noSignal noFlag]
    · by_cases isOff : enable id = 0
      · have cleared : stream.setRecordFlag 0 = stream := by
          have isZero := harmless.disabled isOff
          cases stream
          cases isZero
          rfl
        simp [restart, isOff, Stream.muxerDeinitById, cleared]
      · simp [restart, isOn, isOff]

end Restart

theorem belowLast_eq_iff {change : StreamId → Stream → Stream}
    {streams : StreamId → Stream} :
    belowLast change streams = streams ↔
      ∀ id : StreamId, (id : Nat) < 3 →
        change id (streams id) = streams id := by
  constructor
  · intro same id below
    have sameAt := congrFun same id
    rwa [belowLast, if_pos below] at sameAt
  · intro unchanged
    funext id
    unfold belowLast
    split
    next below => exact unchanged id below
    next => rfl

namespace Handle

/-- `rkipc_storage_dev_add` takes the device over. -/
structure Accepts (answers : Answers) (dev : String) (handle : Handle) :
    Prop where
  device : ¬(handle.attrDevPath ≠ "" ∧ handle.attrDevPath ≠ dev)
  mounted : ∃ mountPath, answers.mountPath dev = some mountPath ∧
    ¬(handle.attrMountPath ≠ "" ∧ handle.attrMountPath ≠ mountPath) ∧
    answers.mountDev mountPath ≠ none

/-- The configured device is there but not mounted. -/
structure Unformatted (answers : Answers) (dev : String) (handle : Handle) :
    Prop where
  configured : handle.attrDevPath ≠ ""
  device : handle.attrDevPath = dev
  unmounted : answers.mountPath dev = none

variable {answers : Answers} {dev : String} {handle : Handle}

@[simp] theorem nameDev_mountStatus (handle : Handle) :
    handle.nameDev.mountStatus = handle.mountStatus := by
  unfold nameDev
  split <;> rfl

theorem devAdd_of_accepts (accepts : handle.Accepts answers dev) :
    (handle.devAdd answers dev).2 = true ∧
      (handle.devAdd answers dev).1.mountStatus = .scanning := by
  obtain ⟨device, mountPath, isMounted, pathMatches, isDev⟩ := accepts
  fun_cases devAdd answers dev handle
  next differs => exact absurd differs device
  next notMounted => simp [isMounted] at notMounted
  next otherPath otherMounted differs =>
    cases isMounted.symm.trans otherMounted
    exact absurd differs pathMatches
  next otherPath otherMounted _ noDev =>
    cases isMounted.symm.trans otherMounted
    exact absurd noDev isDev
  next => exact ⟨rfl, rfl⟩

theorem devAdd_of_not_accepts (refuses : ¬handle.Accepts answers dev) :
    (handle.devAdd answers dev).2 = false := by
  fun_cases devAdd answers dev handle
  next => rfl
  next => rfl
  next => rfl
  next => rfl
  next device mountPath isMounted pathMatches devPath devType devAttr1 isDev =>
    have isSome : answers.mountDev mountPath ≠ none := by simp [isDev]
    exact absurd ⟨device, mountPath, isMounted, pathMatches, isSome⟩ refuses

theorem devAdd_of_unformatted (unformatted : handle.Unformatted answers dev) :
    (handle.devAdd answers dev).1.mountStatus = .notFormatted := by
  obtain ⟨configured, device, notMounted⟩ := unformatted
  rw [device] at configured
  simp [devAdd, device, configured, notMounted]

theorem devAdd_mountStatus (refuses : ¬handle.Accepts answers dev)
    (formatted : ¬handle.Unformatted answers dev) :
    (handle.devAdd answers dev).1.mountStatus = handle.mountStatus := by
  fun_cases devAdd answers dev handle
  next => rfl
  next device notMounted =>
    split
    next configured =>
      have isDevice : handle.attrDevPath = dev :=
        by_contra fun differs => device ⟨configured, differs⟩
      exact absurd ⟨configured, isDevice, notMounted⟩ formatted
    next => exact nameDev_mountStatus handle
  next => exact nameDev_mountStatus handle
  next => exact nameDev_mountStatus handle
  next device mountPath isMounted pathMatches devPath devType devAttr1 isDev =>
    have isSome : answers.mountDev mountPath ≠ none := by simp [isDev]
    exact absurd ⟨device, mountPath, isMounted, pathMatches, isSome⟩ refuses

theorem Accepts.formatted (accepts : handle.Accepts answers dev) :
    ¬handle.Unformatted answers dev := by
  intro unformatted
  obtain ⟨mountPath, isMounted, _⟩ := accepts.mounted
  simp [unformatted.unmounted] at isMounted

theorem devRemove_of_ne (differs : dev ≠ handle.devPath) :
    handle.devRemove dev = handle := by
  rw [devRemove, if_neg differs.symm]

end Handle

namespace Plugged

/-- The message of an added device finds the streams as it would leave them. -/
structure AddHarmless (enable : StreamId → Int) (answers : Answers)
    (dev : String) (plugged : Plugged) : Prop where
  unformatted : plugged.handle.Unformatted answers dev →
    plugged.handle.mountStatus = .notFormatted
  accepted : plugged.handle.Accepts answers dev →
    plugged.handle.mountStatus = .scanning ∧
      ∀ id : StreamId, (id : Nat) < 3 →
        RestartHarmless (enable id) (answers.prepared id) (answers.signal id)
          (answers.recorder id) (plugged.streams id)

/-- Which uevents leave the recording alone. -/
def Harmless (enable : StreamId → Int) (answers : Answers) (event : Uevent)
    (plugged : Plugged) : Prop :=
  match event.action with
  | .add => answers.sent = true → plugged.AddHarmless enable answers event.devname
  | .remove => RemoveHarmless enable answers.sent plugged.streams
  | .change => True
  | .other => True

def SameRecording (before after : Plugged) : Prop :=
  after.streams = before.streams ∧
    after.handle.mountStatus = before.handle.mountStatus

variable {enable : StreamId → Int} {answers : Answers} {dev : String}
  {plugged : Plugged}

theorem add_same_iff :
    plugged.SameRecording (plugged.msgRecCb enable answers dev .devAdd) ↔
      plugged.AddHarmless enable answers dev := by
  by_cases accepts : plugged.handle.Accepts answers dev
  · obtain ⟨isAdded, isScanning⟩ := Handle.devAdd_of_accepts accepts
    simp only [SameRecording, msgRecCb, isAdded, if_true, isScanning,
      belowLast_eq_iff, restart_eq_iff]
    constructor
    · intro both
      obtain ⟨harmless, wasScanning⟩ := both
      exact ⟨fun unformatted => absurd unformatted accepts.formatted,
        fun _ => ⟨wasScanning.symm, harmless⟩⟩
    · intro harmless
      obtain ⟨wasScanning, streams⟩ := harmless.accepted accepts
      exact ⟨streams, wasScanning.symm⟩
  · have isRefused := Handle.devAdd_of_not_accepts accepts
    simp only [SameRecording, msgRecCb, isRefused, Bool.false_eq_true, if_false,
      true_and]
    by_cases unformatted : plugged.handle.Unformatted answers dev
    · rw [Handle.devAdd_of_unformatted unformatted]
      constructor
      · intro same
        exact ⟨fun _ => same.symm, fun accepted => absurd accepted accepts⟩
      · intro harmless
        exact (harmless.unformatted unformatted).symm
    · rw [Handle.devAdd_mountStatus accepts unformatted]
      exact ⟨fun _ => ⟨fun isUnformatted => absurd isUnformatted unformatted,
        fun accepted => absurd accepted accepts⟩, fun _ => rfl⟩

theorem setStorageRecordFlag_eq_self_iff {stream : Stream} :
    stream.setStorageRecordFlag false = stream ↔
      stream.storageRecordFlag = false := by
  constructor
  · intro same
    rw [← same]
    rfl
  · intro noFlag
    cases stream
    cases noFlag
    rfl

theorem cleared_streams_iff :
    plugged.cleared.streams = plugged.streams ↔
      ∀ id, (plugged.streams id).storageRecordFlag = false := by
  constructor
  · intro same id
    exact setStorageRecordFlag_eq_self_iff.mp (congrFun same id)
  · intro noFlags
    funext id
    exact setStorageRecordFlag_eq_self_iff.mpr (noFlags id)

theorem belowLast_cleared_iff :
    belowLast (stop enable) plugged.cleared.streams = plugged.streams ↔
      RemoveHarmless enable true plugged.streams := by
  constructor
  · intro same
    refine ⟨?_, ?_⟩
    · intro id
      have sameAt := congrFun same id
      unfold belowLast at sameAt
      split at sameAt
      next => exact (stop_eq_iff.mp sameAt).1
      next => exact setStorageRecordFlag_eq_self_iff.mp sameAt
    · intro _ id below
      have sameAt := congrFun same id
      rw [belowLast, if_pos below] at sameAt
      exact (stop_eq_iff.mp sameAt).2
  · intro harmless
    funext id
    unfold belowLast
    split
    next below =>
      exact stop_eq_iff.mpr
        ⟨harmless.flags id, harmless.recorders rfl id below⟩
    next => exact setStorageRecordFlag_eq_self_iff.mpr (harmless.flags id)

theorem remove_same_iff (differs : dev ≠ plugged.handle.devPath) :
    plugged.SameRecording
        (plugged.cleared.msgRecCb enable answers dev .devRemove) ↔
      RemoveHarmless enable true plugged.streams := by
  have sameHandle : plugged.cleared.handle.devRemove dev = plugged.handle :=
    Handle.devRemove_of_ne differs
  rw [SameRecording, msgRecCb, sameHandle, and_iff_left rfl]
  exact belowLast_cleared_iff

theorem unsent_same_iff :
    plugged.SameRecording plugged.cleared ↔
      RemoveHarmless enable false plugged.streams := by
  have sameHandle : plugged.cleared.handle = plugged.handle := rfl
  rw [SameRecording, sameHandle, and_iff_left rfl, cleared_streams_iff]
  constructor
  · intro noFlags
    exact ⟨noFlags, fun isSent => absurd isSent (by decide)⟩
  · intro harmless
    exact harmless.flags

/-- A uevent of another disk or partition leaves the recording alone just when
it is harmless. -/
theorem hotplug_frame_iff (enable : StreamId → Int) (answers : Answers)
    (plugged : Plugged) (event : Uevent)
    (isDisk : event.devtype = .partition ∨ event.devtype = .disk)
    (differs : event.devname ≠ plugged.handle.devPath) :
    plugged.SameRecording (plugged.handleUevent enable answers event) ↔
      plugged.Harmless enable answers event := by
  cases isAction : event.action with
  | add =>
      simp only [handleUevent, listen, isDisk, if_true, isAction, Harmless]
      cases sent : answers.sent with
      | true => simpa using add_same_iff
      | false => simp [SameRecording]
  | remove =>
      simp only [handleUevent, listen, isDisk, if_true, isAction, Harmless]
      cases sent : answers.sent with
      | true => simpa using remove_same_iff differs
      | false => simpa using unsent_same_iff
  | change =>
      simp [handleUevent, listen, isDisk, isAction, Harmless, msgRecCb,
        SameRecording]
  | other =>
      simp [handleUevent, listen, isDisk, isAction, Harmless, SameRecording]

/-- The lookups and calls with one card under `/userdata`. -/
def oneCard : Answers where
  mountPath dev := if dev = "/dev/mmcblk0p6" then some "/userdata" else none
  mountDev mountPath :=
    if mountPath = "/userdata" then some ("/dev/mmcblk0p6", "ext4", "rw")
    else none
  sent := true
  fileScan := some 1
  prepared _ := true
  signal _ := true
  recorder _ := true

/-- The card is recognised and every stream is started. -/
def recording : Plugged :=
  handleUevent (fun _ => 1) oneCard ⟨.partition, .add, "/dev/mmcblk0p6"⟩
    { handle :=
        { attrDevPath := ""
          attrMountPath := "/userdata"
          devPath := ""
          devType := ""
          devAttr1 := ""
          mountStatus := .unmounted
          fileScanTid := none
          fileScanSignal := false
          totalSize := 0
          freeSize := 0
          fsckQuit := false }
      streams := Shared.start.streams }

/-- An added disk without a mounted file system changes nothing. -/
theorem hotplug_frame_iff_added :
    recording.SameRecording
      (recording.handleUevent (fun _ => 1) oneCard
        ⟨.disk, .add, "/dev/sda"⟩) := by
  apply (hotplug_frame_iff _ _ _ _ (by decide) (by decide)).mpr
  intro _
  refine ⟨?_, ?_⟩
  · intro unformatted
    exact absurd rfl unformatted.configured
  · intro accepts
    obtain ⟨mountPath, isMounted, _⟩ := accepts.mounted
    cases isMounted

/-- The removal of another disk ends the recorders of the card. -/
theorem other_disk_stops_recording :
    let after := recording.handleUevent (fun _ => 1) oneCard
      ⟨.disk, .remove, "/dev/sda"⟩
    "/dev/sda" ≠ recording.handle.devPath ∧
      (recording.streams 0).storageRecordFlag = true ∧
      (recording.streams 0).live = [0] ∧
      (after.streams 0).storageRecordFlag = false ∧
      (after.streams 0).live = [] ∧
      ¬recording.SameRecording after := by
  refine ⟨by decide, rfl, rfl, rfl, rfl, ?_⟩
  intro both
  obtain ⟨sameStreams, _⟩ := both
  have sameFlag := congrArg Stream.storageRecordFlag (congrFun sameStreams 0)
  cases sameFlag

end Plugged

end Rkipc.Storage
