import Rkipc.Osd.Entry
import Rkipc.Transition.Needs
import Rkipc.Transition.System

namespace Rkipc.Video.Callbacks

open Osd Transition

/-! The callbacks that the video module registers, and the threads that call them. -/

/-- The callback pointers of `roi.c`, `region_clip.c` and `osd.c`. -/
inductive Callback
  | roiSet
  | regionClipSet
  | create (kind : Kind)
  | destroy (kind : Kind)
  | bmpChange
deriving DecidableEq

/-- What a thread has still to do.  A loop stands with its index, a function that
goes on after a branch with the place it goes on from. -/
inductive Instr
  | register (callback : Callback)
  | clear (callback : Callback)
  | test (callback : Callback)
  | call (callback : Callback)
  | roiSetAll (id : Nat)
  | regionClipSetAll (id : Nat)
  | lock
  | unlock
  | osdInit (i : Nat)
  | createThread (i : Nat)
  | createSignal (i : Nat)
  | stopServer
  | testRun
  | join
  | destroySignal
  | osdDeinit (i : Nat)
  | timeCreated
  | timeLoop
  | timeWait
  | serverInit
deriving DecidableEq

def rkRoiSetAll : List Instr := [.roiSetAll 0]

def rkRegionClipSetAll : List Instr := [.regionClipSetAll 0]

def rkOsdInit : List Instr := [.lock, .osdInit 0]

def rkOsdDeinit : List Instr := [.lock, .stopServer]

def rkOsdRestart : List Instr := rkOsdDeinit ++ rkOsdInit

/-- After the loop that looks for the entry of the clock. -/
def osdTimeServer : List Instr := [.call (.create .bmp), .timeCreated]

def rkipcOsdInit : List Instr :=
  [.register (.create .cover), .register (.destroy .cover), .register (.create .mosaic),
    .register (.destroy .mosaic), .register (.create .bmp), .register (.destroy .bmp),
    .register .bmpChange] ++ rkOsdInit

def rkipcOsdDeinit : List Instr :=
  rkOsdDeinit ++
    [.clear (.create .cover), .clear (.destroy .cover), .clear (.create .bmp),
      .clear (.destroy .bmp), .clear .bmpChange]

def rkVideoInit : List Instr :=
  .register .roiSet :: rkRoiSetAll ++ .register .regionClipSet :: rkRegionClipSetAll ++
    rkipcOsdInit

def rkVideoDeinit : List Instr :=
  [.clear .regionClipSet, .clear .roiSet] ++ rkipcOsdDeinit

def rkVideoRestart : List Instr := rkVideoDeinit ++ rkVideoInit

def main : List Instr := rkVideoInit ++ [.serverInit]

inductive Request
  | videoRestart
  | roiSetAll
  | regionClipSetAll
  | osdRestart
deriving DecidableEq

def Request.program : Request → List Instr
  | .videoRestart => rkVideoRestart
  | .roiSetAll => rkRoiSetAll
  | .regionClipSetAll => rkRegionClipSetAll
  | .osdRestart => rkOsdRestart

/-- The threads in the order in which they began.  A request that a connection serves
counts as a thread, and so does the end of `main`. -/
structure State where
  entries : Entries
  registered : Callback → Bool
  mutex : Bool
  osdServerRun : Bool
  osdTimeServerRun : Bool
  osdTimeThreadId : Option Nat
  osdSignal : Bool
  serverRun : Bool
  exiting : Bool
  threads : List (List Instr)

namespace State

def start (entries : Entries) : State where
  entries := entries
  registered _ := false
  mutex := false
  osdServerRun := true
  osdTimeServerRun := true
  osdTimeThreadId := none
  osdSignal := false
  serverRun := false
  exiting := false
  threads := [main]

def setCallback (state : State) (callback : Callback) (present : Bool) : State :=
  { state with registered := Function.update state.registered callback present }

def spawn (state : State) (program : List Instr) : State :=
  { state with threads := state.threads ++ [program] }

/-- The bitmap callbacks are called as they are, those of a mask after a test. -/
def invoke (kind : Kind) (callback : Callback) : Instr :=
  if kind = .bmp then .call callback else .test callback

/-- The body of the loop of `rk_osd_init`.  `goesOn` is whether it comes past the
`continue`s, which an image has not. -/
def osdInitEntry (state : State) (goesOn : Bool) (i : Nat) (entry : Entry) :
    State × List Instr :=
  match entry.init with
  | .skip => (state, [.osdInit (i + 1)])
  | .create kind =>
      if goesOn ∨ entry.osdType = some "image".toList then
        (state, [invoke kind (.create kind), .osdInit (i + 1)])
      else (state, [.osdInit (i + 1)])
  | .startClock => ({ state with osdServerRun := true }, [.createThread i])

/-- The body of the loop of `rk_osd_deinit`. -/
def osdDeinitEntry (i : Nat) (entry : Entry) : List Instr :=
  match entry.deinit with
  | none => [.osdDeinit (i + 1)]
  | some kind => [invoke kind (.destroy kind), .osdDeinit (i + 1)]

/-- `pthread_join` returns when the thread has ended. -/
def hasEnded (state : State) : Bool :=
  match state.osdTimeThreadId with
  | none => true
  | some thread => state.threads[thread]? = some []

/-- One instruction, with what takes its place.  `outcome` is what the branches on data
that are not in the state come to. -/
def advance (state : State) (outcome : Bool) : Instr → Option (State × List Instr)
  | .register callback => some (state.setCallback callback true, [])
  | .clear callback => some (state.setCallback callback false, [])
  | .test callback =>
      some (state, if state.registered callback then [.call callback] else [])
  | .call _ => some (state, [])
  -- `MAX_ROI_NUM`
  | .roiSetAll id =>
      some (state,
        if id < 6 then
          if outcome then [.call .roiSet, .roiSetAll (id + 1)] else [.roiSetAll (id + 1)]
        else [])
  -- `MAX_REGION_CLIP_NUM`
  | .regionClipSetAll id =>
      some (state,
        if id < 3 then
          if outcome then [.test .regionClipSet, .regionClipSetAll (id + 1)]
          else [.regionClipSetAll (id + 1)]
        else [])
  | .lock => if state.mutex then none else some ({ state with mutex := true }, [])
  | .unlock => some ({ state with mutex := false }, [])
  | .osdInit i =>
      some
        (if inside : i < 8 then state.osdInitEntry outcome i (state.entries ⟨i, inside⟩)
          else (state, [.unlock]))
  | .createThread i =>
      some
        (if outcome then
          { state with osdTimeThreadId := some state.threads.length }.spawn osdTimeServer
          else state, [.createSignal i])
  -- without a signal `rk_osd_init` returns -1
  | .createSignal i =>
      some ({ state with osdSignal := outcome },
        if outcome then [.osdInit (i + 1)] else [.unlock])
  | .stopServer =>
      some ({ state with osdServerRun := false },
        if state.osdSignal then [.testRun] else [.osdDeinit 0])
  | .testRun =>
      some (state,
        if state.osdTimeServerRun then [.join, .destroySignal] else [.destroySignal])
  | .join => if state.hasEnded then some (state, []) else none
  | .destroySignal => some ({ state with osdSignal := false }, [.osdDeinit 0])
  | .osdDeinit i =>
      some (state,
        if inside : i < 8 then osdDeinitEntry i (state.entries ⟨i, inside⟩)
        else [.unlock])
  | .timeCreated =>
      some ({ state with osdTimeServerRun := outcome }, if outcome then [.timeLoop] else [])
  | .timeLoop => some (state, if state.osdServerRun then [.timeWait] else [])
  -- the second has changed, or not
  | .timeWait =>
      some (state, if outcome then [.call .bmpChange, .timeLoop] else [.timeLoop])
  | .serverInit => some ({ state with serverRun := true }, [])

/-- The next instruction of a thread. -/
def exec (state : State) (thread : Nat) (outcome : Bool) : Option State :=
  match state.threads[thread]? with
  | none | some [] => none
  | some (instr :: rest) =>
      (state.advance outcome instr).map fun result =>
        { result.1 with threads := result.1.threads.set thread (result.2 ++ rest) }

end State

inductive Label
  | set (id : OsdId) (entry : Entry)
  | request (request : Request)
  | exit
  | exec (thread : Nat) (outcome : Bool)
deriving DecidableEq

def State.step (state : State) : Label → Option State
  | .set id entry =>
      some { state with entries := Function.update state.entries id entry }
  | .request request =>
      if state.serverRun then some (state.spawn request.program) else none
  | .exit =>
      if state.serverRun ∧ state.exiting = false then
        some ({ state with exiting := true }.spawn rkVideoDeinit)
      else none
  | .exec thread outcome => state.exec thread outcome

def system : System State Label where
  initial state := ∃ entries, state = .start entries
  step := State.step

/-- No thread is about to call a callback that is `NULL`. -/
def CallsRegistered (state : State) : Prop :=
  ∀ callback rest, (.call callback :: rest) ∈ state.threads →
    state.registered callback = true

/-- The functions between their first instruction and the last call of a callback that
they do not test. -/
def Instr.uses : Instr → Callback → Bool
  | .call own, callback => own = callback
  | .roiSetAll _, callback => callback = .roiSet
  | .osdInit _, callback | .createThread _, callback | .createSignal _, callback =>
      callback = .create .bmp ∨ callback = .bmpChange
  | .stopServer, callback | .testRun, callback | .join, callback
  | .destroySignal, callback | .osdDeinit _, callback => callback = .destroy .bmp
  | .timeCreated, callback | .timeLoop, callback | .timeWait, callback =>
      callback = .bmpChange
  | _, _ => false

def Instr.registers : Instr → Callback → Bool
  | .register own, callback => own = callback
  | _, _ => false

def Instr.clears : Instr → Callback → Bool
  | .clear own, callback => own = callback
  | _, _ => false

def effects : Effects Instr Callback where
  uses := Instr.uses
  provides := Instr.registers
  removes := Instr.clears

def callbacks : List Callback :=
  [.roiSet, .regionClipSet, .create .cover, .create .mosaic, .create .bmp,
    .destroy .cover, .destroy .mosaic, .destroy .bmp, .bmpChange]

theorem mem_callbacks (callback : Callback) : callback ∈ callbacks := by
  cases callback with
  | roiSet | regionClipSet | bmpChange => decide
  | create kind | destroy kind => cases kind <;> decide

/-- The callbacks are there that a program calls without a test. -/
def State.covers (state : State) (program : List Instr) : Bool :=
  callbacks.all fun callback => !effects.needs program callback || state.registered callback

/-- A request begins while the callbacks are there that it calls without a test, and a
callback is set to `NULL` while no other thread has still to call it so. -/
def allows (state : State) : Label → Bool
  | .set _ _ => true
  | .request request => state.covers request.program
  | .exit => state.covers rkVideoDeinit
  | .exec thread _ =>
      match state.threads[thread]? with
      | some (.clear callback :: _) =>
          (state.threads.eraseIdx thread).all fun program => !effects.needs program callback
      | _ => true

def undisturbed (state : State) (label : Label) : Prop := allows state label = true

end Rkipc.Video.Callbacks
