import Mathlib.Algebra.GroupWithZero.Nat
import Rkipc.Transition.Lock

namespace Rkipc.Storage.Recorder

open Transition

/-! The recording threads of the streams with the threads that start, stop and
feed them.  `g_rkmuxer_mutex` is the mutex of the program. -/

/-- An index below `STORAGE_NUM`. -/
abbrev StreamId := Fin 4

instance storageNumNeZero : NeZero 4 := ⟨by decide⟩

inductive Media
  | video
  | audio
deriving DecidableEq

inductive MuxerCall
  | deinit
  | init (succeeds : Bool)
  | writeFrame (media : Media)
deriving DecidableEq

/-- `rk_storage_muxer_group[id]` with the two flags of the stream.  `created` is
the number of its recorder threads so far, `live` are those that have not ended,
and `muxer` are the calls of the muxer library, the latest first. -/
structure Stream where
  recordFlag : Int
  storageRecordFlag : Bool
  gRecordRun : Bool
  gStorageSignal : Bool
  recordThreadId : Option Nat
  created : Nat
  live : List Nat
  muxer : List MuxerCall
deriving DecidableEq

namespace Stream

def call (muxerCall : MuxerCall) (stream : Stream) : Stream :=
  { stream with muxer := muxerCall :: stream.muxer }

def setRecordFlag (flag : Int) (stream : Stream) : Stream :=
  { stream with recordFlag := flag }

def setStorageRecordFlag (flag : Bool) (stream : Stream) : Stream :=
  { stream with storageRecordFlag := flag }

def setRun (run : Bool) (stream : Stream) : Stream :=
  { stream with gRecordRun := run }

def setSignal (signal : Bool) (stream : Stream) : Stream :=
  { stream with gStorageSignal := signal }

/-- `pthread_create` writes the identifier and starts the thread. -/
def spawn (stream : Stream) : Stream :=
  { stream with
    recordThreadId := some stream.created
    created := stream.created + 1
    live := stream.created :: stream.live }

def ended (thread : Nat) (stream : Stream) : Stream :=
  { stream with live := stream.live.erase thread }

end Stream

/-- `managed` says that `rkipc_storage_manager_init` has started its threads. -/
structure Shared where
  streams : StreamId → Stream
  managed : Bool
  eventListenerRun : Bool
  quit : Bool
  messageEnded : Bool
  listenerEnded : Bool

namespace Shared

def modify (shared : Shared) (id : StreamId) (change : Stream → Stream) :
    Shared :=
  { shared with
    streams := Function.update shared.streams id (change (shared.streams id)) }

@[simp] theorem modify_same (shared : Shared) (id : StreamId)
    (change : Stream → Stream) :
    (shared.modify id change).streams id = change (shared.streams id) :=
  Function.update_self ..

theorem modify_other (shared : Shared) {id other : StreamId}
    (change : Stream → Stream) (distinct : other ≠ id) :
    (shared.modify id change).streams other = shared.streams other :=
  Function.update_of_ne distinct ..

/-- The value of `rk_storage_record_statue_get`. -/
def recordStatueGet (shared : Shared) (id : StreamId) : Int :=
  if (shared.streams id).gRecordRun then 1 else 0

end Shared

inductive Thread
  | main
  | message
  | listener
  | recorder (id : StreamId) (thread : Nat)
  | client (client : Nat)
deriving DecidableEq

/-- Who runs a section under the mutex. -/
inductive Party
  | recorder (thread : Nat)
  | client
deriving DecidableEq

inductive Opening
  | lock
  | clear
  | deinit
  | init
  | set
  | unlock
deriving DecidableEq

inductive Closing
  | lock
  | clear
  | deinit
  | unlock
deriving DecidableEq

inductive Writing
  | lock
  | check
  | writeFrame
  | unlock
deriving DecidableEq

/-- The callers of `rk_storage_muxer_init_by_id`. -/
inductive Starter
  | storageInit
  | devAdd
deriving DecidableEq

/-- The callers of `rk_storage_muxer_deinit_by_id`. -/
inductive Stopper
  | storageDeinit
  | devAddRestart
  | devAddDisable
  | devRemove
deriving DecidableEq

inductive InitById
  | enter
  | prepare
  | enabled
  | destroy
  | create
  | setFlag
  | spawn
deriving DecidableEq

inductive DeinitById
  | enter
  | enabled
  | clearFlag
  | check
  | give
  | join
  | destroy
  | clear
deriving DecidableEq

/-- Where a thread stands.  A loop over the streams carries its index. -/
inductive Control
  | opening (party : Party) (id : StreamId) (point : Opening)
  | closing (party : Party) (id : StreamId) (point : Closing)
  | writing (media : Media) (id : StreamId) (point : Writing)
  | client
  | dormant (id : StreamId) (thread : Nat)
  | recording (id : StreamId) (thread : Nat)
  | waiting (id : StreamId) (thread : Nat)
  | ending (id : StreamId) (thread : Nat)
  | initById (starter : Starter) (id : StreamId) (point : InitById)
  | deinitById (stopper : Stopper) (id : StreamId) (point : DeinitById)
  | setDevAttr
  | setRecordFlags (recognized : Bool) (i : Nat)
  | managerInit
  | storageInit (i : Nat)
  | initialised
  | storageDeinit (i : Nat)
  | stopListener
  | joinListener
  | stopMessage
  | joinMessage
  | deinitialised
  | messageIdle
  | devAdd (i : Nat)
  | devRemove (i : Nat)
  | listening
  | clearFlags (i : Nat)
  | ended
deriving DecidableEq

inductive ClientCall
  | writeFrame (media : Media)
  | recordStart
  | recordStop
deriving DecidableEq

/-- What the environment chooses at a step: nothing, the outcome of a call, the
next call of a client, or whether a message or a uevent came in. -/
inductive Choice
  | go
  | outcome (succeeds : Bool)
  | call (call : ClientCall) (id : StreamId)
  | devAdd
  | devRemove
deriving DecidableEq

abbrev Effect := Shared → Choice → Option (Shared × Control)

def goTo (next : Control) : Effect := fun shared _ => some (shared, next)

def onStream (id : StreamId) (change : Stream → Stream) (next : Control) :
    Effect :=
  fun shared _ => some (shared.modify id change, next)

def afterOpening (id : StreamId) : Party → Control
  | .recorder thread => .waiting id thread
  | .client => .client

def afterClosing (id : StreamId) : Party → Control
  | .recorder thread => .ending id thread
  | .client => .client

/-- The locked part of the loop of `rk_storage_record`, and of
`rk_storage_record_start`. -/
def opening (party : Party) (id : StreamId) :
    Opening → Instruction Shared Control Choice
  | .lock => .lock (.opening party id .clear)
  | .clear => .act (onStream id (Stream.setRun false) (.opening party id .deinit))
  | .deinit => .act (onStream id (Stream.call .deinit) (.opening party id .init))
  | .init => .act fun shared choice =>
      match choice with
      | .outcome succeeds =>
          some (shared.modify id (Stream.call (.init succeeds)),
            .opening party id .set)
      | _ => none
  | .set => .act (onStream id (Stream.setRun true) (.opening party id .unlock))
  | .unlock => .unlock (afterOpening id party)

/-- The locked part at the end of `rk_storage_record`, and of
`rk_storage_record_stop`. -/
def closing (party : Party) (id : StreamId) :
    Closing → Instruction Shared Control Choice
  | .lock => .lock (.closing party id .clear)
  | .clear => .act (onStream id (Stream.setRun false) (.closing party id .deinit))
  | .deinit => .act (onStream id (Stream.call .deinit) (.closing party id .unlock))
  | .unlock => .unlock (afterClosing id party)

/-- `rk_storage_write_video_frame` and `rk_storage_write_audio_frame`. -/
def writing (media : Media) (id : StreamId) :
    Writing → Instruction Shared Control Choice
  | .lock => .lock (.writing media id .check)
  | .check => .act fun shared _ =>
      some (shared, .writing media id
        (if (shared.streams id).gRecordRun then .writeFrame else .unlock))
  | .writeFrame => .act
      (onStream id (Stream.call (.writeFrame media)) (.writing media id .unlock))
  | .unlock => .unlock .client

def afterInit (id : StreamId) : Starter → Control
  | .storageInit => .storageInit (id + 1)
  | .devAdd => .devAdd (id + 1)

def afterDeinit (id : StreamId) : Stopper → Control
  | .storageDeinit => .storageDeinit (id + 1)
  | .devAddRestart => .initById .devAdd id .enter
  | .devAddDisable => .devAdd (id + 1)
  | .devRemove => .devRemove (id + 1)

/-- `rk_storage_muxer_init_by_id`; `enable` is `storage.N:enable`. -/
def initById (enable : StreamId → Int) (starter : Starter) (id : StreamId) :
    InitById → Instruction Shared Control Choice
  | .enter => .act (goTo (.initById starter id .prepare))
  -- the parameters, and `record_path` which may be impossible to create
  | .prepare => .act fun shared choice =>
      match choice with
      | .outcome true => some (shared, .initById starter id .enabled)
      | .outcome false => some (shared, afterInit id starter)
      | _ => none
  | .enabled => .act (goTo
      (if enable id = 0 then afterInit id starter
        else .initById starter id .destroy))
  | .destroy => .act (goTo (.initById starter id .create))
  | .create => .act fun shared choice =>
      match choice with
      | .outcome succeeds =>
          some (shared.modify id (Stream.setSignal succeeds),
            if succeeds then .initById starter id .setFlag
            else afterInit id starter)
      | _ => none
  | .setFlag => .act (onStream id (Stream.setStorageRecordFlag true)
      (.initById starter id .spawn))
  | .spawn => .act fun shared choice =>
      match choice with
      | .outcome true =>
          some (shared.modify id Stream.spawn, afterInit id starter)
      | .outcome false => some (shared, afterInit id starter)
      | _ => none

def deinitById (enable : StreamId → Int) (stopper : Stopper) (id : StreamId) :
    DeinitById → Instruction Shared Control Choice
  | .enter => .act (goTo (.deinitById stopper id .enabled))
  | .enabled => .act (goTo
      (if enable id = 0 then afterDeinit id stopper
        else .deinitById stopper id .clearFlag))
  | .clearFlag => .act (onStream id (Stream.setStorageRecordFlag false)
      (.deinitById stopper id .check))
  | .check => .act fun shared _ =>
      some (shared,
        if (shared.streams id).gStorageSignal then .deinitById stopper id .give
        else afterDeinit id stopper)
  | .give => .act (goTo (.deinitById stopper id .join))
  | .join => .act fun shared _ =>
      if (shared.streams id).recordThreadId.any
          (fun thread => thread ∈ (shared.streams id).live) then none
      else some (shared, .deinitById stopper id .destroy)
  | .destroy => .act (goTo (.deinitById stopper id .clear))
  | .clear => .act (onStream id (Stream.setSignal false)
      (afterDeinit id stopper))

/-- The head of a loop over the first `bound` streams. -/
def loop (bound : Nat) (bounded : bound ≤ 4) (i : Nat)
    (body : StreamId → Effect) (next : Control) : Effect :=
  if inside : i < bound then body ⟨i, Nat.lt_of_lt_of_le inside bounded⟩
  else goTo next

/-- `rkipc_storage_msg_rec_cb` for `MSG_DEV_ADD` in its loop. -/
def devAdd (enable : StreamId → Int) (id : StreamId) : Effect :=
  if enable id = 1 then
    onStream id (Stream.setRecordFlag 1) (.deinitById .devAddRestart id .enter)
  else if enable id = 0 then
    onStream id (Stream.setRecordFlag 0) (.deinitById .devAddDisable id .enter)
  else goTo (.devAdd (id + 1))

def devRemove (id : StreamId) : Effect :=
  onStream id (Stream.setRecordFlag 0) (.deinitById .devRemove id .enter)

def clientCall (id : StreamId) : ClientCall → Control
  | .writeFrame media => .writing media id .lock
  | .recordStart => .opening .client id .lock
  | .recordStop => .closing .client id .lock

/-- The loop of `rkipc_storage_set_dev_attr` over the record flags. -/
def setRecordFlag (enable : StreamId → Int) (recognized : Bool)
    (id : StreamId) : Effect :=
  onStream id
    (Stream.setRecordFlag (if recognized ∧ enable id ≠ 0 then 1 else 0))
    (.setRecordFlags recognized (id + 1))

/-- The code at every control point.  A message is `devAdd` when
`rkipc_storage_dev_add` accepts it, and `devRemove` whatever device it names. -/
def code (enable : StreamId → Int) :
    Control → Instruction Shared Control Choice
  | .opening party id point => opening party id point
  | .closing party id point => closing party id point
  | .writing media id point => writing media id point
  | .client => .act fun shared choice =>
      match choice with
      | .call call id => some (shared, clientCall id call)
      | _ => none
  | .dormant id thread => .act fun shared _ =>
      if thread ∈ (shared.streams id).live then
        some (shared, .recording id thread)
      else none
  | .recording id thread => .act fun shared _ =>
      some (shared,
        if (shared.streams id).storageRecordFlag ∧
            (shared.streams id).recordFlag = 1 then
          .opening (.recorder thread) id .lock
        else .closing (.recorder thread) id .lock)
  -- `rk_signal_wait` returns after a signal or after `file_duration` seconds
  | .waiting id thread => .act (goTo (.recording id thread))
  | .ending id thread => .act (onStream id (Stream.ended thread) .ended)
  | .initById starter id point => initById enable starter id point
  | .deinitById stopper id point => deinitById enable stopper id point
  | .setDevAttr => .act fun shared choice =>
      match choice with
      | .outcome recognized => some (shared, .setRecordFlags recognized 0)
      | _ => none
  | .setRecordFlags recognized i => .act (loop 3 (by decide) i
      (setRecordFlag enable recognized) .managerInit)
  | .managerInit => .act fun shared choice =>
      match choice with
      | .outcome true =>
          some ({ shared with
            managed := true
            eventListenerRun := true }, .storageInit 0)
      | .outcome false => some (shared, .ended)
      | _ => none
  | .storageInit i => .act (loop 4 (by decide) i
      (fun id => goTo (.initById .storageInit id .enter)) .initialised)
  | .initialised => .act (goTo (.storageDeinit 0))
  | .storageDeinit i => .act (loop 4 (by decide) i
      (fun id => goTo (.deinitById .storageDeinit id .enter)) .stopListener)
  | .stopListener => .act fun shared _ =>
      some ({ shared with eventListenerRun := false }, .joinListener)
  | .joinListener => .act fun shared _ =>
      if shared.listenerEnded then some (shared, .stopMessage) else none
  | .stopMessage => .act fun shared _ =>
      some ({ shared with quit := true }, .joinMessage)
  | .joinMessage => .act fun shared _ =>
      if shared.messageEnded then some (shared, .deinitialised) else none
  | .deinitialised | .ended => .act fun _ _ => none
  | .messageIdle => .act fun shared choice =>
      if shared.managed then
        if shared.quit then
          some ({ shared with messageEnded := true }, .ended)
        else
          match choice with
          | .devAdd => some (shared, .devAdd 0)
          | .devRemove => some (shared, .devRemove 0)
          | _ => some (shared, .messageIdle)
      else none
  | .devAdd i => .act (loop 3 (by decide) i (devAdd enable) .messageIdle)
  | .devRemove i => .act (loop 3 (by decide) i devRemove .messageIdle)
  | .listening => .act fun shared choice =>
      if shared.managed then
        if shared.eventListenerRun then
          match choice with
          | .devRemove => some (shared, .clearFlags 0)
          | _ => some (shared, .listening)
        else some ({ shared with listenerEnded := true }, .ended)
      else none
  | .clearFlags i => .act (loop 4 (by decide) i
      (fun id => onStream id (Stream.setStorageRecordFlag false)
        (.clearFlags (id + 1))) .listening)

def Control.holds : Control → Bool
  | .opening _ _ point => point ≠ .lock
  | .closing _ _ point => point ≠ .lock
  | .writing _ _ point => point ≠ .lock
  | _ => false

def entry : Thread → Control
  | .main => .setDevAttr
  | .message => .messageIdle
  | .listener => .listening
  | .recorder id thread => .dormant id thread
  | .client _ => .client

/-- `rk_storage_muxer_group` and the flags before anything runs. -/
def Shared.start : Shared where
  streams id :=
    { recordFlag := if id = 0 then -1 else 0
      storageRecordFlag := false
      gRecordRun := false
      gStorageSignal := false
      recordThreadId := none
      created := 0
      live := []
      muxer := [] }
  managed := false
  eventListenerRun := false
  quit := false
  messageEnded := false
  listenerEnded := false

end Rkipc.Storage.Recorder
