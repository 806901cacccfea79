import Mathlib.Logic.Function.Basic
import Rkipc.Osd.Entry
import Rkipc.Transition.System

namespace Rkipc.Osd

open Transition

/-! The calls of the OSD module and the threads of its clock.  A call holds
`g_osd_mutex` from its first step to its last, so at most one is in progress; the
threads and the changes of parameters come in between. -/

/-- Where the call in progress stands.  Without one the module is `off` at the start
and when `rk_osd_deinit` has returned, and `on` when another call has. -/
inductive Api
  | off
  | on
  | init (i : Nat)
  | createThread (i : Nat)
  | renewSignal (i : Nat)
  | createSignal (i : Nat)
  | stopServer
  | giveSignal
  | testRun
  | join
  | destroySignal
  | destroy (i : Nat)
  | maskDestroy (i : Nat)
  | maskCreate (i : Nat)
deriving DecidableEq

/-- Where a thread of `osd_time_server` stands. -/
inductive Clock
  | scan
  | create (osdTimeId : OsdId)
  | failed
  | created (osdTimeId : OsdId)
  | loop (osdTimeId : OsdId)
  | wait (osdTimeId : OsdId) (signal : Option Nat)
  | change (osdTimeId : OsdId)
  | ended
deriving DecidableEq

/-- The globals of the module with the threads, the signals and the regions.  Of a
region it is kept with which callbacks it was created, until the destroy callback of
these is called. -/
structure State where
  entries : Entries
  api : Api
  osdServerRun : Bool
  osdTimeServerRun : Bool
  osdTimeThreadId : Option Nat
  started : Nat
  clock : Nat → Option Clock
  joined : List Nat
  osdSignal : Option Nat
  signals : Nat
  destroyed : List Nat
  regions : OsdId → List Kind

namespace State

def start (entries : Entries) : State where
  entries := entries
  api := .off
  osdServerRun := true
  osdTimeServerRun := true
  osdTimeThreadId := none
  started := 0
  clock _ := none
  joined := []
  osdSignal := none
  signals := 0
  destroyed := []
  regions _ := []

def goTo (state : State) (api : Api) : State := { state with api }

def create (state : State) (id : OsdId) (kind : Kind) (made : Bool) : State :=
  if made then
    { state with
      regions := Function.update state.regions id (kind :: state.regions id) }
  else state

def destroy (state : State) (id : OsdId) (kind : Kind) : State :=
  { state with
    regions := Function.update state.regions id ((state.regions id).erase kind) }

/-- The destroy callback for an entry, if there is one. -/
def destroyFor (state : State) (id : OsdId) : Option Kind → State
  | none => state
  | some kind => state.destroy id kind

def createFor (state : State) (id : OsdId) (made : Bool) : Option Kind → State
  | none => state
  | some kind => state.create id kind made

/-- `pthread_create` of the clock. -/
def startThread (state : State) : State :=
  { state with
    osdTimeThreadId := some state.started
    clock := Function.update state.clock state.started (some .scan)
    started := state.started + 1 }

def dropSignal (state : State) : State :=
  match state.osdSignal with
  | none => state
  | some signal => { state with destroyed := signal :: state.destroyed }

def newSignal (state : State) : State :=
  { state with osdSignal := some state.signals, signals := state.signals + 1 }

/-- A thread is past its last instruction. -/
def hasEnded (state : State) (thread : Nat) : Bool :=
  state.clock thread = none ∨ state.clock thread = some .ended

/-- `pthread_join(osd_time_thread_id_, NULL)` where it returns. -/
def joinThread (state : State) : Option State :=
  match state.osdTimeThreadId with
  | none => some state
  | some thread =>
      if state.hasEnded thread then some { state with joined := thread :: state.joined }
      else none

/-- The body of a loop over the entries, or what comes after the loop. -/
def forEntry (i : Nat) (body : OsdId → State) (done : State) : State :=
  if inside : i < 8 then body ⟨i, inside⟩ else done

def initEntry (state : State) (outcome : Bool) (id : OsdId) : State :=
  match (state.entries id).init with
  | .skip => state.goTo (.init (id + 1))
  | .create kind => (state.create id kind outcome).goTo (.init (id + 1))
  | .startClock => { state with osdServerRun := true }.goTo (.createThread id)

/-- The next step of the call in progress.  `outcome` is whether a region is made, a
thread created or a signal created. -/
def call (state : State) (outcome : Bool) : Option State :=
  match state.api with
  | .off | .on => none
  | .init i =>
      some (forEntry i (state.initEntry outcome) (state.goTo .on))
  | .createThread i =>
      some ((if outcome then state.startThread else state).goTo (.renewSignal i))
  | .renewSignal i => some (state.dropSignal.goTo (.createSignal i))
  | .createSignal i =>
      some
        (if outcome then state.newSignal.goTo (.init (i + 1))
          else { state with osdSignal := none }.goTo .on)
  | .stopServer =>
      some ({ state with osdServerRun := false }.goTo
        (if state.osdSignal.isSome then .giveSignal else .destroy 0))
  | .giveSignal => some (state.goTo .testRun)
  | .testRun =>
      some (state.goTo (if state.osdTimeServerRun then .join else .destroySignal))
  | .join => state.joinThread.map fun joined => joined.goTo .destroySignal
  | .destroySignal => some ({ state.dropSignal with osdSignal := none }.goTo (.destroy 0))
  | .destroy i =>
      some (forEntry i
        (fun id => (state.destroyFor id (state.entries id).deinit).goTo (.destroy (i + 1)))
        (state.goTo .off))
  | .maskDestroy i =>
      some (forEntry i
        (fun id =>
          (state.destroyFor id (state.entries id).maskDestroy).goTo (.maskDestroy (i + 1)))
        (state.goTo (.maskCreate 0)))
  | .maskCreate i =>
      some (forEntry i
        (fun id =>
          (state.createFor id outcome (state.entries id).maskCreate).goTo
            (.maskCreate (i + 1)))
        (state.goTo .on))

def setClock (state : State) (thread : Nat) (clock : Clock) : State :=
  { state with clock := Function.update state.clock thread (some clock) }

/-- The next step of a thread of `osd_time_server`.  `made` is whether the create
callback leaves a region, `succeeds` whether it returns 0. -/
def tick (state : State) (thread : Nat) (made succeeds : Bool) : Option State :=
  match state.clock thread with
  | none | some .ended => none
  | some .scan => some (state.setClock thread (.create (osdTimeId state.entries)))
  | some (.create id) =>
      some ((state.create id .bmp made).setClock thread
        (if succeeds then .created id else .failed))
  | some .failed => some ({ state with osdTimeServerRun := false }.setClock thread .ended)
  | some (.created id) =>
      some ({ state with osdTimeServerRun := true }.setClock thread (.loop id))
  | some (.loop id) =>
      some (state.setClock thread
        (if state.osdServerRun then .wait id state.osdSignal else .ended))
  -- woken, or after 100 ms
  | some (.wait id _) => some (state.setClock thread (.change id))
  | some (.change id) => some (state.setClock thread (.loop id))

def isFree (state : State) : Bool := state.api = .off ∨ state.api = .on

def enter (state : State) (api : Api) : Option State :=
  if state.isFree then some (state.goTo api) else none

end State

inductive Label
  | set (id : OsdId) (entry : Entry)
  | init
  | deinit
  | maskRestart
  | call (outcome : Bool)
  | tick (thread : Nat) (made succeeds : Bool)
deriving DecidableEq

def State.step (state : State) : Label → Option State
  | .set id entry =>
      some { state with entries := Function.update state.entries id entry }
  | .init => state.enter (.init 0)
  | .deinit => state.enter .stopServer
  | .maskRestart => state.enter (.maskDestroy 0)
  | .call outcome => state.call outcome
  | .tick thread made succeeds => state.tick thread made succeeds

def system : System State Label where
  initial state := ∃ entries, state = .start entries
  step := State.step

end Rkipc.Osd
