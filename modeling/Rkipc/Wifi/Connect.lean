import Rkipc.Transition.System

namespace Rkipc.Wifi.Connect

open Transition

/-! The attempts to connect to a Wi-Fi network and what they share. -/

/-- What the caller of an attempt does next. -/
inductive Caller
  | locking
  | begun
  | marking
  | searching
  | naming
  | setting
  | unlocking
  | unmarking
  | done
deriving DecidableEq

/-- What the thread of `wifi_connect_state_check` does next, with the id that it has read
and the rounds that are left. -/
inductive Check
  | reading
  | polling (id : Option Nat) (left : Nat)
  | flushing (id : Option Nat)
  | failing (id : Option Nat)
  | clearing
  | ended
deriving DecidableEq

/-- An attempt from its acceptance on: by `RK_wifi_connect` or `RK_wifi_connect_with_ssid`,
the id that was found or added for it, its caller and its thread. -/
structure Attempt where
  withSsid : Bool
  id : Option Nat
  created : Bool
  caller : Caller
  check : Option Check
deriving DecidableEq

/-- In progress until its thread has ended, or its caller if there is none. -/
def Attempt.inProgress (attempt : Attempt) : Bool :=
  match attempt.check with
  | none => attempt.caller ≠ .done
  | some check => check ≠ .ended

inductive Cancelling
  | writing
  | looking (left : Nat)
  | testing
  | returned (result : Int)
deriving DecidableEq

/-- A call of `RK_wifi_cancel`, with the number of attempts before it and those that were in
progress. -/
structure Cancel where
  before : Nat
  targets : List Nat
  at' : Cancelling
deriving DecidableEq

/-- What a thread tells `wpa_supplicant`, with the id of its attempt and whether the attempt
has created the network. -/
inductive Act
  | disable (id own : Option Nat)
  | remove (id own : Option Nat) (created : Bool)
  | disableAll
deriving DecidableEq

/-- `setBy` are the calls that have set `wifi_cancel` since it was reset, `ends` the attempts
that a call has ended. -/
structure State where
  wifiConnectLock : Bool
  wifiCancel : Bool
  wifiWrongKey : Bool
  wifiIsExist : Bool
  connectingId : Option Nat
  attempts : List Attempt
  cancels : List Cancel
  setBy : List Nat
  ends : List (Nat × Nat)
  acts : List Act
deriving DecidableEq

def start : State := ⟨false, false, false, false, none, [], [], [], [], []⟩

/-- What a call comes to: a network that is found or added, or a failure. -/
inductive Outcome
  | goes
  | found (id : Nat)
  | added (id : Nat)
  | fails
deriving DecidableEq

inductive Label
  | connect
  | connectWithSsid
  | caller (attempt : Nat) (outcome : Outcome)
  | check (attempt : Nat) (connected : Bool)
  | cancel
  | cancelling (call : Nat)
  | wrongKey
deriving DecidableEq

namespace State

variable (state : State)

def set (index : Nat) (attempt : Attempt) : State :=
  { state with attempts := state.attempts.set index attempt }

def setCancel (index : Nat) (call : Cancel) : State :=
  { state with cancels := state.cancels.set index call }

/-- The test of `RK_wifi_connect`. -/
def connect : State :=
  if state.wifiConnectLock then state
  else
    { state with
      attempts := state.attempts ++ [⟨false, none, false, .locking, none⟩] }

def connectWithSsid : State :=
  { state with attempts := state.attempts ++ [⟨true, none, false, .begun, none⟩] }

/-- Where a caller goes that fails. -/
def failed (attempt : Attempt) : Attempt :=
  { attempt with caller := if attempt.withSsid then .unmarking else .unlocking }

/-- The next statement of `RK_wifi_connect` with `RK_wifi_connect1`, or of
`RK_wifi_connect_with_ssid`. -/
def caller (index : Nat) (attempt : Attempt) (outcome : Outcome) : Option State :=
  match attempt.caller with
  | .locking => some { state.set index { attempt with caller := .begun } with
      wifiConnectLock := true }
  | .begun => some { state.set index { attempt with
        caller := if attempt.withSsid then .marking else .searching } with
      wifiWrongKey := false }
  | .marking => some { state.set index { attempt with caller := .searching } with
      wifiIsExist := true }
  | .searching =>
      match outcome with
      | .found id =>
          some (state.set index { attempt with id := some id, caller := .naming })
      | .added id =>
          if attempt.withSsid then none
          else some (state.set index { attempt with
            id := some id, created := true, caller := .naming })
      | .fails => some (state.set index (failed attempt))
      | .goes => none
  | .naming => some { state.set index { attempt with caller := .setting } with
      connectingId := attempt.id }
  | .setting =>
      match outcome with
      | .fails => some (state.set index (failed attempt))
      | .goes => some (state.set index { attempt with
          check := some .reading
          caller := if attempt.withSsid then .done else .unlocking })
      | _ => none
  | .unlocking => some { state.set index { attempt with caller := .done } with
      wifiConnectLock := false }
  | .unmarking => some { state.set index { attempt with caller := .done } with
      wifiIsExist := false }
  | .done => none

/-- `wifi_connectfail_process` -/
def failProcess (attempt : Attempt) (id : Option Nat) : Act :=
  if state.wifiIsExist then .disable id attempt.id else .remove id attempt.id attempt.created

/-- The next statement of `wifi_connect_state_check` with `check_wifi_isconnected`. -/
def check (index : Nat) (attempt : Attempt) (current : Check) (connected : Bool) :
    Option State :=
  let next (check : Check) : State := state.set index { attempt with check := some check }
  match current with
  | .reading => some (next (.polling state.connectingId 50))
  | .polling id 0 => some (next (.failing id))
  | .polling id (left + 1) =>
      if connected then some (next .clearing)
      else if state.wifiWrongKey then some (next (.failing id))
      else if state.wifiCancel then
        some { next (.flushing id) with acts := state.acts ++ [.disableAll] }
      else some (next (.polling id left))
  | .flushing id =>
      some { next (.failing id) with
        wifiCancel := false
        setBy := []
        ends := state.ends ++ state.setBy.map fun call => (call, index) }
  | .failing id => some { next .clearing with acts := state.acts ++ [state.failProcess attempt id] }
  | .clearing => some { next .ended with wifiIsExist := false }
  | .ended => none

def targets : List Nat :=
  (List.range state.attempts.length).filter fun index =>
    state.attempts[index]?.any Attempt.inProgress

/-- The test of `RK_wifi_cancel`. -/
def cancel : State :=
  { state with
    cancels := state.cancels ++ [⟨state.attempts.length, state.targets,
      if state.wifiConnectLock then .writing else .returned (-1)⟩] }

/-- The next statement of `RK_wifi_cancel`. -/
def cancelling (index : Nat) (call : Cancel) : Option State :=
  match call.at' with
  | .writing => some { state.setCancel index { call with at' := .looking 8 } with
      wifiCancel := true
      setBy := state.setBy ++ [index] }
  | .looking 0 => some (state.setCancel index { call with at' := .testing })
  | .looking (left + 1) =>
      if state.wifiCancel = false then some (state.setCancel index { call with at' := .testing })
      else some (state.setCancel index { call with at' := .looking left })
  | .testing => some (state.setCancel index { call with
      at' := .returned (if state.wifiCancel = false then 0 else -1) })
  | .returned _ => none

def step : Label → Option State
  | .connect => some state.connect
  | .connectWithSsid => some state.connectWithSsid
  | .caller index outcome =>
      state.attempts[index]?.bind fun attempt => state.caller index attempt outcome
  | .check index connected =>
      state.attempts[index]?.bind fun attempt =>
        attempt.check.bind fun current => state.check index attempt current connected
  | .cancel => some state.cancel
  | .cancelling index =>
      state.cancels[index]?.bind fun call => state.cancelling index call
  | .wrongKey => some { state with wifiWrongKey := true }

end State

def system : System State Label where
  initial state := state = start
  step := State.step

/-- A thread acts on the network of its attempt, and removes it only if that was added. -/
def Act.Own : Act → Prop
  | .disable id own => id = own
  | .remove id own created => id = own ∧ created = true
  | .disableAll => False

/-- One attempt is in progress at most, the threads act on their own networks, a call that
has returned 0 has ended what was in progress, and one that has returned -1 no attempt that
was made after it. -/
structure State.Apart (state : State) : Prop where
  one : ∀ (first second : Nat) (attempt other : Attempt),
    state.attempts[first]? = some attempt → state.attempts[second]? = some other →
      attempt.inProgress = true → other.inProgress = true → first = second
  acts : ∀ act ∈ state.acts, act.Own
  ended : ∀ (index : Nat) (call : Cancel), state.cancels[index]? = some call →
    call.at' = .returned 0 → ∀ target ∈ call.targets, (index, target) ∈ state.ends
  later : ∀ (index : Nat) (call : Cancel), state.cancels[index]? = some call →
    call.at' = .returned (-1) → ∀ target, (index, target) ∈ state.ends → target < call.before

/-- An attempt is made when none is in progress, a thread that fails without the mark of a
saved network has added it, and none comes to see that it is cancelled. -/
def Clean (state : State) : Label → Prop
  | .connect => state.wifiConnectLock = false →
      ∀ attempt ∈ state.attempts, attempt.inProgress = false
  | .connectWithSsid => ∀ attempt ∈ state.attempts, attempt.inProgress = false
  | .check index connected => ∀ attempt, state.attempts[index]? = some attempt →
      (∀ id, attempt.check = some (.failing id) → attempt.withSsid = false →
        attempt.created = true) ∧
      (∀ id left, attempt.check = some (.polling id (left + 1)) → connected = false →
        state.wifiWrongKey = false → state.wifiCancel = false)
  | _ => True

end Rkipc.Wifi.Connect
