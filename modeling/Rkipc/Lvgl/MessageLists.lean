import Rkipc.Common.ListHead
import Rkipc.Lvgl.Message

namespace Rkipc.Lvgl

open Common

/-! The two lists of `lv_msg.c` in memory.  A block is known by its address, and a pointer is
`none` if it is NULL. -/

structure Memory where
  heap : Heap Nat
  handlerAt : Nat → Nat
  elmAt : Nat → Msg

def gHandlerList : Nat := 0

def gMsgQueue : Nat := 1

namespace Memory

variable (memory : Memory)

def initList (head : Nat) : Memory := { memory with heap := memory.heap.initListHead head }

def freeBlock (block : Nat) : Memory := { memory with heap := memory.heap.free block }

def callocHandler (block handler : Nat) : Memory :=
  { memory with
    heap := memory.heap.calloc block
    handlerAt := Function.update memory.handlerAt block handler }

def callocElm (block : Nat) (elm : Msg) : Memory :=
  { memory with
    heap := memory.heap.calloc block
    elmAt := Function.update memory.elmAt block elm }

def delEntry (entry : Nat) : Option Memory := do
  let heap ← memory.heap.listDel entry
  return { memory with heap := heap }

def addEntry (entry head : Nat) : Option Memory := do
  let heap ← memory.heap.listAddTail entry head
  return { memory with heap := heap }

end Memory

/-- The body of the loops of `lv_msg_clear_handler` and `lv_msg_clear_queue`. -/
def clearEntry (memory : Memory) (pos : Nat) : Option (Memory × Bool) := do
  let deleted ← memory.delEntry pos
  return (deleted.freeBlock pos, false)

def clearList (head fuel : Nat) (memory : Memory) : Option (Memory × Int) := do
  let cleared ← Heap.listForEachEntrySafe Memory.heap clearEntry head fuel memory
  let isEmpty ← cleared.heap.listEmpty head
  return (cleared, if isEmpty then 0 else -1)

def lvMsgClearHandler (fuel : Nat) (memory : Memory) : Option (Memory × Int) :=
  clearList gHandlerList fuel memory

def lvMsgClearQueue (fuel : Nat) (memory : Memory) : Option (Memory × Int) :=
  clearList gMsgQueue fuel memory

/-- A round of the search of `lv_msg_register_handler`, which knows whether it has freed the new
block `elm`. -/
def registerRound (handler elm : Nat) (state : Memory × Bool) (pos : Nat) :
    Option ((Memory × Bool) × Bool) := do
  let entry ← state.1.heap.deref (some pos)
  if handler = state.1.handlerAt entry then return ((state.1.freeBlock elm, true), true)
  return (state, false)

/-- `block` is what `calloc` returns. -/
def lvMsgRegisterHandler (fuel : Nat) (memory : Memory) (handler block : Option Nat) :
    Option (Memory × Option Nat) := do
  let some handler := handler | return (memory, none)
  let some elm := block | return (memory, none)
  let (after, found) ← Heap.listForEachEntrySafe (fun state => state.1.heap)
    (registerRound handler elm) gHandlerList fuel (memory.callocHandler elm handler, false)
  if found then return (after, none)
  let added ← after.addEntry elm gHandlerList
  return (added, some elm)

def unregisterRound (obj : Option Nat) (memory : Memory) (pos : Nat) : Option (Memory × Bool) :=
  if obj = some pos then do
    let deleted ← memory.delEntry pos
    return (deleted.freeBlock pos, true)
  else some (memory, false)

def lvMsgUnregisterHandler (fuel : Nat) (memory : Memory) (obj : Option Nat) : Option Memory :=
  Heap.listForEachEntrySafe Memory.heap (unregisterRound obj) gHandlerList fuel memory

/-- The queue of every handler is `g_msg_queue`. -/
def lvPostMsg (memory : Memory) (obj : Option Nat) (elm : Msg) (block : Option Nat) :
    Option (Memory × Int) := do
  let some obj := obj | return (memory, -1)
  let _ ← memory.heap.deref (some obj)
  let some block := block | return (memory, -1)
  let added ← (memory.callocElm block elm).addEntry block gMsgQueue
  return (added, 0)

/-- `lv_get_message`, from the second test of the list on. -/
def lvGetMessage (memory : Memory) : Option (Memory × Option Nat) := do
  let isEmpty ← memory.heap.listEmpty gMsgQueue
  if isEmpty then return (memory, none)
  let first ← memory.heap.listFirstEntry gMsgQueue
  let elm ← first
  let deleted ← memory.delEntry elm
  return (deleted, some elm)

/-- A round of `lv_dispatch_message` to all: it knows the handlers that were called, and whether
the last one has handled the message. -/
def dispatchRound (handles : Nat → Bool) (state : Memory × List Nat × Bool) (pos : Nat) :
    Option ((Memory × List Nat × Bool) × Bool) := do
  let entry ← state.1.heap.deref (some pos)
  let handler := state.1.handlerAt entry
  return ((state.1, state.2.1 ++ [handler], handles handler), handles handler)

/-- The handlers that are called, and the result.  `handles` is what they return; they leave the
lists alone. -/
def lvDispatchMessage (fuel : Nat) (memory : Memory) (obj : Option Nat) (handles : Nat → Bool) :
    Option (List Nat × Int) := do
  if let some obj := obj then
    let entry ← memory.heap.deref (some obj)
    let handler := memory.handlerAt entry
    return ([handler], if handles handler then 0 else -1)
  else
    let (_, called, handled) ← Heap.listForEachEntrySafe (fun state => state.1.heap)
      (dispatchRound handles) gHandlerList fuel (memory, [], false)
    return (called, if handled then 0 else -1)

/-- What the lists are for: the handlers and the posted elements with their blocks, in their
order, and the blocks of the elements that the receive thread has got. -/
structure Table where
  handlers : List (Nat × Nat)
  queue : List (Nat × Msg)
  held : List Nat
deriving DecidableEq

inductive Call
  | register (handler block : Option Nat)
  | unregister (obj : Option Nat)
  | post (obj : Option Nat) (elm : Msg) (block : Option Nat)
  | get
  | release (elm : Nat)
  | send (obj : Option Nat) (handles : Nat → Bool)
  | clearHandlers
  | clearQueue

inductive Reply
  | nothing
  | pointer (block : Option Nat)
  | status (ret : Int)
  | called (handlers : List Nat) (ret : Int)
deriving DecidableEq

def Call.run (fuel : Nat) (memory : Memory) : Call → Option (Memory × Reply)
  | .register handler block => do
      let (after, obj) ← lvMsgRegisterHandler fuel memory handler block
      return (after, .pointer obj)
  | .unregister obj => do
      let after ← lvMsgUnregisterHandler fuel memory obj
      return (after, .nothing)
  | .post obj elm block => do
      let (after, ret) ← lvPostMsg memory obj elm block
      return (after, .status ret)
  | .get => do
      let (after, elm) ← lvGetMessage memory
      return (after, .pointer elm)
  | .release elm => do
      let block ← memory.heap.deref (some elm)
      return (memory.freeBlock block, .nothing)
  | .send obj handles => do
      let (handlers, ret) ← lvDispatchMessage fuel memory obj handles
      return (memory, .called handlers ret)
  | .clearHandlers => do
      let (after, ret) ← lvMsgClearHandler fuel memory
      return (after, .status ret)
  | .clearQueue => do
      let (after, ret) ← lvMsgClearQueue fuel memory
      return (after, .status ret)

def runCalls (fuel : Nat) : Memory → List Call → Option (Memory × List Reply)
  | memory, [] => some (memory, [])
  | memory, call :: calls => do
      let (after, reply) ← call.run fuel memory
      let (last, replies) ← runCalls fuel after calls
      return (last, reply :: replies)

namespace Table

variable (table : Table)

def empty : Table := ⟨[], [], []⟩

/-- Every block that is in use, the heads of the lists among them. -/
def blocks : List Nat :=
  gHandlerList :: gMsgQueue ::
    (table.handlers.map Prod.fst ++ (table.queue.map Prod.fst ++ table.held))

def register (handler block : Nat) : Table :=
  { table with handlers := table.handlers ++ [(block, handler)] }

def unregister (obj : Option Nat) : Table :=
  { table with handlers := table.handlers.filter fun entry => obj ≠ some entry.1 }

def post (elm : Msg) (block : Nat) : Table :=
  { table with queue := table.queue ++ [(block, elm)] }

/-- The handlers up to the first one that handles the message. -/
def calledBy (handles : Nat → Bool) : List Nat :=
  let handlers := table.handlers.map Prod.snd
  handlers.take (handlers.findIdx handles + 1)

def result (handled : Bool) : Int := if handled then 0 else -1

def step : Call → Table × Reply
  | .register (some handler) (some block) =>
      if table.handlers.any fun entry => handler = entry.2 then (table, .pointer none)
      else (table.register handler block, .pointer (some block))
  | .register _ _ => (table, .pointer none)
  | .unregister obj => (table.unregister obj, .nothing)
  | .post (some _) elm (some block) => (table.post elm block, .status 0)
  | .post _ _ _ => (table, .status (-1))
  | .get =>
      match table.queue with
      | [] => (table, .pointer none)
      | entry :: rest =>
          ({ table with queue := rest, held := entry.1 :: table.held }, .pointer (some entry.1))
  | .release elm => ({ table with held := table.held.erase elm }, .nothing)
  | .send none handles =>
      (table, .called (table.calledBy handles)
        (result (table.handlers.any fun entry => handles entry.2)))
  | .send (some obj) handles =>
      let called := (table.handlers.filter fun entry => entry.1 = obj).map Prod.snd
      (table, .called called (result (called.any handles)))
  | .clearHandlers => ({ table with handlers := [] }, .status 0)
  | .clearQueue => ({ table with queue := [] }, .status 0)

/-- What the callers and `calloc` see to: a new block is not in use, the object of a message is
registered, and the receive thread frees what it has got. -/
def Promised : Call → Prop
  | .register _ block => ∀ address ∈ block, address ∉ table.blocks
  | .post obj _ block =>
      (∀ address ∈ obj, address ∈ table.handlers.map Prod.fst) ∧
        ∀ address ∈ block, address ∉ table.blocks
  | .release elm => elm ∈ table.held
  | .send obj _ => ∀ address ∈ obj, address ∈ table.handlers.map Prod.fst
  | _ => True

def steps : Table → List Call → Table × List Reply
  | table, [] => (table, [])
  | table, call :: calls =>
      let rest := (table.step call).1.steps calls
      (rest.1, (table.step call).2 :: rest.2)

def AllPromised : Table → List Call → Prop
  | _, [] => True
  | table, call :: calls => table.Promised call ∧ (table.step call).1.AllPromised calls

/-- The names of the blocks under which `Message` knows the objects. -/
structure Shows (name : Nat → Nat) (table : Table) (state : State) : Prop where
  handlers : state.handlers = some (table.handlers.map fun entry => ⟨name entry.1, entry.2⟩)
  queue : state.queue = some (table.queue.map Prod.snd)
  named : ∀ entry ∈ table.handlers, name entry.1 < state.objects
  distinct : (table.handlers.map fun entry => name entry.1).Nodup

end Table

def Memory.lvMsgInit (memory : Memory) : Memory :=
  (memory.initList gMsgQueue).initList gHandlerList

/-- The memory holds the table: both lists are whole, every block in use is there, and every
block that is there is in use. -/
structure Stored (memory : Memory) (table : Table) : Prop where
  handlersHold : memory.heap.Holds gHandlerList (table.handlers.map Prod.fst)
  queueHolds : memory.heap.Holds gMsgQueue (table.queue.map Prod.fst)
  distinct : table.blocks.Nodup
  alive : ∀ block, memory.heap.alive block = true ↔ block ∈ table.blocks
  handlers : ∀ entry ∈ table.handlers, memory.handlerAt entry.1 = entry.2
  elms : ∀ entry ∈ table.queue, memory.elmAt entry.1 = entry.2

end Rkipc.Lvgl
