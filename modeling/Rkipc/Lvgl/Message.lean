import Rkipc.Transition.System

namespace Rkipc.Lvgl

open Transition

/-! `lv_msg.c`: the queue of messages, the list of handlers, and the thread that receives. -/

/-- `LV_MSG_S`.  `id` numbers the elements in the order in which they are allocated. -/
structure Msg where
  id : Nat
  obj : Nat
  msg : Int
  wparam : Nat
  lparam : Nat
deriving DecidableEq

/-- `LV_MSG_HANDLER_S`, at the address `obj`. -/
structure Handler where
  obj : Nat
  handler : Nat
deriving DecidableEq

/-- Where a receive thread stands.  `getting` is the test of the list in `lv_get_message`,
`holding` is before the dispatch of the element that it got, and `handling` is from the call of
the handler to the release of the element. -/
inductive Phase
  | top
  | getting
  | waiting
  | holding (elm : Msg)
  | handling (elm : Msg)
  | ended
deriving DecidableEq

/-- The walk of `list_for_each_entry_safe` in `lv_dispatch_message`, where `none` is the head. -/
structure Cursor where
  pos : Option Nat
  next : Option Nat
deriving DecidableEq

/-- How far `lv_msg_init` or `lv_msg_deinit` has come. -/
inductive Stage
  | down
  | queueSet
  | threadMade
  | failed
  | up
  | stopping
  | joined
  | queueCleared
deriving DecidableEq

/-- A list is `none` as long as its head is zeroed memory.  `posting` are the elements of calls
of `lv_post_msg` that are not in the queue yet, `posted` and `dispatched` are those of the queue
since its initialization; an element is dispatched with whether its handler was registered.
`usedGone` is set by the use of a handler that is not registered, `crashed` by a walk over
zeroed memory, and `lostHandlers` by the initialization of a list that has entries. -/
structure State where
  stage : Stage
  quit : Bool
  tid : Option Nat
  cancels : List Nat
  threads : List Phase
  queue : Option (List Msg)
  queueLocked : Bool
  handlers : Option (List Handler)
  objects : Nat
  posting : List Msg
  cursors : List Cursor
  made : Nat
  posted : List Msg
  dispatched : List (Msg × Bool)
  freed : List Nat
  usedGone : Bool
  crashed : Bool
  lostHandlers : Bool
deriving DecidableEq

def start : State :=
  ⟨.down, false, none, [], [], none, false, none, 0, [], [], 0, [], [], [], false, false, false⟩

/-- The steps of `lv_msg_init` and `lv_msg_deinit`, the calls of others, and the steps of the
receive thread.  `enqueue` is the critical section of `lv_post_msg`, and `broadcast` and `visit`
are `lv_send_msg` without an object. -/
inductive Label
  | initQueue
  | createThread (works : Bool)
  | initHandlers
  | deinit
  | join
  | clearQueue
  | clearHandlers
  | register (handler : Nat)
  | unregister (obj : Nat)
  | post (obj : Nat) (msg : Int) (wparam lparam : Nat)
  | enqueue (index : Nat)
  | send (obj : Nat)
  | broadcast
  | visit (index : Nat) (handled : Bool)
  | look (thread : Nat)
  | get (thread : Nat)
  | wake (thread : Nat)
  | dispatch (thread : Nat)
  | finish (thread : Nat)
  | cancelled (thread : Nat)
deriving DecidableEq

namespace State

variable (state : State)

def registered (obj : Nat) : Bool := (state.handlers.getD []).any fun entry => entry.obj = obj

/-- The object is looked into. -/
def use (obj : Nat) : State :=
  { state with usedGone := state.usedGone || !state.registered obj }

def crash : State := { state with crashed := true }

def setPhase (thread : Nat) (phase : Phase) : State :=
  { state with threads := state.threads.set thread phase }

/-! `lv_msg_init` -/

def initQueue : State :=
  { state with
    stage := .queueSet, quit := false, queue := some [], queueLocked := false
    posted := [], dispatched := [] }

def createThread (works : Bool) : State :=
  if works then
    { state with
      stage := .threadMade
      tid := some state.threads.length
      threads := state.threads ++ [.top] }
  else { state with stage := .failed }

def initHandlers : State :=
  { state with
    stage := .up
    handlers := some []
    lostHandlers := state.lostHandlers || !(state.handlers.getD []).isEmpty }

/-! `lv_msg_deinit` -/

def deinit : State :=
  { state with stage := .stopping, quit := true, cancels := state.cancels ++ state.tid.toList }

/-- The thread of `tid` has ended, if there is one. -/
def joinable : Bool :=
  match state.tid with
  | none => true
  | some thread => state.threads[thread]? = some .ended

def clearQueue : State :=
  match state.queue with
  | none => state.crash
  | some elements =>
      { state with
        stage := .queueCleared
        queue := some []
        freed := state.freed ++ elements.map Msg.id }

def clearHandlers : State :=
  match state.handlers with
  | none => state.crash
  | some _ => { state with stage := .down, handlers := some [] }

/-! The calls. -/

def register (handler : Nat) : State :=
  match state.handlers with
  | none => state.crash
  | some entries =>
      if entries.any fun entry => entry.handler = handler then state
      else
        { state with
          handlers := some (entries ++ [⟨state.objects, handler⟩])
          objects := state.objects + 1 }

def unregister (obj : Nat) : State :=
  match state.handlers with
  | none => state.crash
  | some entries => { state with handlers := some (entries.filter fun entry => entry.obj ≠ obj) }

/-- `lv_post_msg`, up to the lock of the queue. -/
def post (obj : Nat) (msg : Int) (wparam lparam : Nat) : State :=
  { state.use obj with
    posting := state.posting ++ [⟨state.made, obj, msg, wparam, lparam⟩]
    made := state.made + 1 }

def enqueue (index : Nat) (elm : Msg) : State :=
  match state.queue with
  | none => state.crash
  | some elements =>
      { state with
        posting := state.posting.eraseIdx index
        queue := some (elements ++ [elm])
        posted := state.posted ++ [elm] }

def broadcast : State :=
  match state.handlers with
  | none => state.crash
  | some entries =>
      { state with
        cursors := state.cursors ++ [⟨entries.head?.map Handler.obj, entries[1]?.map Handler.obj⟩] }

def after (obj : Nat) : Option Nat :=
  (((state.handlers.getD []).dropWhile fun entry => entry.obj ≠ obj)[1]?).map Handler.obj

/-- A round of the walk: the handler of `pos` is called, and unless it has handled the message,
the walk goes on to the entry that was read before the call. -/
def visit (index : Nat) (cursor : Cursor) (handled : Bool) : State :=
  match cursor.pos with
  | none => { state with cursors := state.cursors.eraseIdx index }
  | some pos =>
      let called := state.use pos
      if handled then { called with cursors := state.cursors.eraseIdx index }
      else
        match cursor.next with
        | none => { called with cursors := state.cursors.set index ⟨none, none⟩ }
        | some next =>
            { called.use next with
              cursors := state.cursors.set index ⟨some next, state.after next⟩ }

/-! The receive thread. -/

def look (thread : Nat) : State :=
  state.setPhase thread (if state.quit then .ended else .getting)

def get (thread : Nat) (onEmpty : Phase) : State :=
  match state.queue with
  | none => state.crash
  | some [] => state.setPhase thread onEmpty
  | some (elm :: rest) => { state.setPhase thread (.holding elm) with queue := some rest }

def dispatch (thread : Nat) (elm : Msg) : State :=
  { (state.use elm.obj).setPhase thread (.handling elm) with
    dispatched := state.dispatched ++ [(elm, state.registered elm.obj)] }

def finish (thread : Nat) (elm : Msg) : State :=
  { state.setPhase thread .top with freed := state.freed ++ [elm.id] }

def step : Label → Option State
  | .initQueue => some state.initQueue
  | .createThread works =>
      if state.stage = .queueSet then some (state.createThread works) else none
  | .initHandlers => if state.stage = .threadMade then some state.initHandlers else none
  | .deinit => some state.deinit
  | .join =>
      if state.stage = .stopping ∧ state.joinable = true then
        some { state with stage := .joined, tid := none }
      else none
  | .clearQueue => if state.stage = .joined then some state.clearQueue else none
  | .clearHandlers => if state.stage = .queueCleared then some state.clearHandlers else none
  | .register handler => some (state.register handler)
  | .unregister obj => some (state.unregister obj)
  | .post obj msg wparam lparam => some (state.post obj msg wparam lparam)
  | .enqueue index =>
      if state.queueLocked then none
      else state.posting[index]?.map (state.enqueue index)
  | .send obj => some (state.use obj)
  | .broadcast => some state.broadcast
  | .visit index handled =>
      state.cursors[index]?.map fun cursor => state.visit index cursor handled
  | .look thread =>
      if state.threads[thread]? = some .top then some (state.look thread) else none
  | .get thread =>
      if state.threads[thread]? = some .getting ∧ state.queueLocked = false then
        some (state.get thread .waiting)
      else none
  | .wake thread =>
      if state.threads[thread]? = some .waiting ∧ state.queueLocked = false then
        some (state.get thread .top)
      else none
  | .dispatch thread =>
      match state.threads[thread]? with
      | some (.holding elm) => some (state.dispatch thread elm)
      | _ => none
  | .finish thread =>
      match state.threads[thread]? with
      | some (.handling elm) => some (state.finish thread elm)
      | _ => none
  | .cancelled thread =>
      if thread ∈ state.cancels then
        match state.threads[thread]? with
        -- pthread_cond_timedwait takes the mutex again before the thread ends.
        | some .waiting => some { state.setPhase thread .ended with queueLocked := true }
        | some (.handling _) => some (state.setPhase thread .ended)
        | _ => none
      else none

/-- The element is in the hands of a call or a thread, or in the queue. -/
def Kept (id : Nat) : Prop :=
  (∃ elm ∈ state.posting, elm.id = id) ∨ (∃ elm ∈ state.queue.getD [], elm.id = id) ∨
    ∃ elm, (Phase.holding elm ∈ state.threads ∨ Phase.handling elm ∈ state.threads) ∧ elm.id = id

/-- Messages are dispatched in the order in which they were posted and to registered handlers,
no handler is used that is gone, the list of handlers is not lost, and every element is freed
once, as soon as it is nowhere else. -/
structure Delivered : Prop where
  order : state.dispatched.map Prod.fst <+: state.posted
  registered : ∀ entry ∈ state.dispatched, entry.2 = true
  noneGone : state.usedGone = false
  noCrash : state.crashed = false
  handlersKept : state.lostHandlers = false
  freedOnce : ∀ id, state.freed.count id ≤ 1
  accounted : ∀ id < state.made, id ∈ state.freed ∨ state.Kept id

end State

def messages : System State Label where
  initial state := state = start
  step := State.step

end Rkipc.Lvgl
