import Mathlib.Logic.Function.Basic
import Rkipc.Param.Store
import Rkipc.Transition.System

namespace Rkipc.Video.Snapshot

open Transition
open Ini Param

/-! Photos on request.  The callers of `rk_take_photo` and the loop of
`rkipc_get_jpeg` share the flag `take_photo_one`. -/

structure Tm where
  tmYear : Int
  tmMon : Int
  tmMday : Int
  tmHour : Int
  tmMin : Int
  tmSec : Int
deriving DecidableEq

/-- `%02d` -/
def decimal02 (val : Int) : Text :=
  if (decimal val).length < 2 then '0' :: decimal val else decimal val

/-- `snprintf(file_name, 128, "%s/%d%02d%02d%02d%02d%02d.jpeg", ...)` -/
def fileName (filePath : Text) (tm : Tm) : Text :=
  (filePath ++ '/' :: decimal (tm.tmYear + 1900) ++ decimal02 (tm.tmMon + 1) ++
    decimal02 tm.tmMday ++ decimal02 tm.tmHour ++ decimal02 tm.tmMin ++
    decimal02 tm.tmSec ++ ".jpeg".toList).take 127

/-- Where the thread of `rkipc_get_jpeg` stands. -/
inductive Loop
  | ended
  | head
  | poll
  | getStream
  | save
  | clear
  | release
deriving DecidableEq

/-- Where a caller of `rk_take_photo` stands. -/
inductive Caller
  | idle
  | place
deriving DecidableEq

/-- `filePath` is a variable of the loop.  `taken` is the number of calls that have
set the flag, and `files` are the files written so far, the latest first. -/
structure State where
  takePhotoOne : Bool
  loop : Loop
  filePath : Text
  caller : Nat → Caller
  taken : Nat
  files : List Text

/-- What happens next: `rk_take_photo` starts the encoder and then sets the flag;
the thread of `rkipc_get_jpeg` starts, or goes on with what it finds. -/
inductive Label
  | startRecvFrame (caller : Nat)
  | place (caller : Nat)
  | start (filePath : Text)
  | videoRun (run : Bool)
  | poll
  | getStream (succeeds : Bool)
  | save (tm : Tm)
  | clear
  | release
deriving DecidableEq

namespace State

def start : State where
  takePhotoOne := false
  loop := .ended
  filePath := []
  caller _ := .idle
  taken := 0
  files := []

def step (state : State) : Label → Option State
  | .startRecvFrame caller =>
      match state.caller caller with
      | .idle =>
          some { state with caller := Function.update state.caller caller .place }
      | .place => none
  | .place caller =>
      match state.caller caller with
      | .idle => none
      | .place =>
          some { state with
            takePhotoOne := true
            caller := Function.update state.caller caller .idle
            taken := state.taken + 1 }
  | .start filePath =>
      match state.loop with
      | .ended => some { state with loop := .head, filePath }
      | _ => none
  | .videoRun run =>
      match state.loop with
      | .head => some { state with loop := if run then .poll else .ended }
      | _ => none
  -- after 300 ms
  | .poll =>
      match state.loop with
      | .poll =>
          some { state with loop := if state.takePhotoOne then .getStream else .head }
      | _ => none
  | .getStream succeeds =>
      match state.loop with
      | .getStream => some { state with loop := if succeeds then .save else .head }
      | _ => none
  | .save tm =>
      match state.loop with
      | .save =>
          some { state with
            loop := .clear
            files := fileName state.filePath tm :: state.files }
      | _ => none
  | .clear =>
      match state.loop with
      | .clear => some { state with loop := .release, takePhotoOne := false }
      | _ => none
  | .release =>
      match state.loop with
      | .release => some { state with loop := .head }
      | _ => none

end State

def system : System State Label where
  initial state := state = .start
  step := State.step

/-- Where no request is pending, each call has a file of its own. -/
def Served (state : State) : Prop :=
  state.takePhotoOne = false → state.files.Nodup ∧ state.files.length = state.taken

/-- The flag is clear when a call sets it, and no file has yet been written under the
name that the second gives. -/
def apart (state : State) : Label → Bool
  | .place _ => state.takePhotoOne = false
  | .save tm => fileName state.filePath tm ∉ state.files
  | _ => true

def isApart (state : State) (label : Label) : Prop := apart state label = true

/-- What the flag says of the loop and of the files. -/
structure Accounted (state : State) : Prop where
  distinct : state.files.Nodup
  idle : state.takePhotoOne = false →
    state.files.length = state.taken ∧ state.loop ≠ .getStream ∧ state.loop ≠ .save ∧
      state.loop ≠ .clear
  pending : state.takePhotoOne = true → state.loop ≠ .clear →
    state.files.length + 1 = state.taken
  written : state.loop = .clear → state.files.length = state.taken

theorem Accounted.start : Accounted .start where
  distinct := List.nodup_nil
  idle _ := ⟨rfl, by decide, by decide, by decide⟩
  pending isSet := absurd isSet (by decide)
  written isClear := absurd isClear (by decide)

theorem Accounted.move {state : State} (accounted : Accounted state) {loop : Loop}
    (before : state.loop ≠ .clear) (next : loop ≠ .clear)
    (pending : state.takePhotoOne = false → loop ≠ .getStream ∧ loop ≠ .save) :
    Accounted { state with loop } where
  distinct := accounted.distinct
  idle isClear := ⟨(accounted.idle isClear).1, (pending isClear).1, (pending isClear).2, next⟩
  pending isSet _ := accounted.pending isSet before
  written isClear := absurd isClear next

theorem Accounted.step {state after : State} {label : Label}
    (accounted : Accounted state) (isApart : isApart state label)
    (stepped : state.step label = some after) : Accounted after := by
  cases label with
  | startRecvFrame caller =>
      simp only [State.step] at stepped
      split at stepped <;> cases stepped
      exact ⟨accounted.distinct, accounted.idle, accounted.pending, accounted.written⟩
  | place caller =>
      simp only [State.step] at stepped
      split at stepped <;> cases stepped
      obtain ⟨all, _, _, notClear⟩ := accounted.idle (of_decide_eq_true isApart)
      exact
        { distinct := accounted.distinct
          idle := fun isClear => Bool.noConfusion isClear
          pending := fun _ _ => congrArg (· + 1) all
          written := fun isClear => absurd isClear notClear }
  | start filePath =>
      simp only [State.step] at stepped
      split at stepped <;> cases stepped
      next ended =>
        have moved : Accounted { state with loop := .head } :=
          accounted.move (by rw [ended]; decide) (by decide) fun _ => ⟨by decide, by decide⟩
        exact ⟨moved.distinct, moved.idle, moved.pending, moved.written⟩
  | videoRun run =>
      simp only [State.step] at stepped
      split at stepped <;> cases stepped
      next head =>
        refine accounted.move (by rw [head]; decide) ?_ fun _ => ?_
        · cases run <;> decide
        · cases run <;> decide
  | poll =>
      simp only [State.step] at stepped
      split at stepped <;> cases stepped
      next polls =>
        refine accounted.move (by rw [polls]; decide) ?_ fun isClear => ?_
        · cases state.takePhotoOne <;> decide
        · rw [isClear]
          decide
  | getStream succeeds =>
      simp only [State.step] at stepped
      split at stepped <;> cases stepped
      next gets =>
        refine accounted.move (by rw [gets]; decide) ?_ fun isClear => ?_
        · cases succeeds <;> decide
        · exact absurd gets (accounted.idle isClear).2.1
  | save tm =>
      simp only [State.step] at stepped
      split at stepped <;> cases stepped
      next saves =>
        have isSet : state.takePhotoOne = true := by
          cases flag : state.takePhotoOne with
          | true => rfl
          | false => exact absurd saves (accounted.idle flag).2.2.1
        have all := accounted.pending isSet (by rw [saves]; decide)
        exact
          { distinct := List.nodup_cons.mpr
              ⟨of_decide_eq_true isApart, accounted.distinct⟩
            idle := fun isClear => absurd isSet (by rw [isClear]; decide)
            pending := fun _ notClear => absurd rfl notClear
            written := fun _ => all }
  | clear =>
      simp only [State.step] at stepped
      split at stepped <;> cases stepped
      next clears =>
        exact
          { distinct := accounted.distinct
            idle := fun _ => ⟨accounted.written clears, Loop.noConfusion,
              Loop.noConfusion, Loop.noConfusion⟩
            pending := fun isSet => Bool.noConfusion isSet
            written := fun isClear => Loop.noConfusion isClear }
  | release =>
      simp only [State.step] at stepped
      split at stepped <;> cases stepped
      next releases =>
        exact accounted.move (by rw [releases]; decide) (by decide)
          fun _ => ⟨by decide, by decide⟩

/-- Where requests come one at a time and files a second apart, no photo is lost. -/
theorem every_photo_served {state : State}
    (reachable : system.Reachable isApart state) : Served state := by
  have accounted : Accounted state := by
    refine reachable.invariant (fun _ isStart => ?_) fun _ _ _ accounted isApart stepped =>
      accounted.step isApart stepped
    cases isStart
    exact .start
  exact fun isClear => ⟨accounted.distinct, (accounted.idle isClear).1⟩

def noon (second : Int) : Tm := ⟨124, 0, 15, 12, 0, second⟩

def takePhoto (caller : Nat) : List Label := [.startRecvFrame caller, .place caller]

def serve (second : Int) : List Label :=
  [.videoRun true, .poll, .getStream true, .save (noon second), .clear, .release]

def twoPhotos (second : Int) : List Label :=
  .start "/userdata".toList :: takePhoto 0 ++ serve 0 ++ takePhoto 1 ++ serve second

theorem every_photo_served_two :
    ∃ state, system.Reachable isApart state ∧
      state.files = ["/userdata/20240115120001.jpeg".toList,
        "/userdata/20240115120000.jpeg".toList] ∧
      Served state := by
  let ran := system.guardedRun apart .start (twoPhotos 1)
  have isSome : ran.isSome := by decide
  have reachable : system.Reachable isApart (ran.get isSome) :=
    ⟨_, rfl, System.reaches_of_guardedRun (fun _ _ isApart => isApart) (twoPhotos 1)
      (Option.some_get isSome).symm⟩
  exact ⟨_, reachable, rfl, every_photo_served reachable⟩

/-- Two requests between two looks at the flag. -/
def merged : List Label :=
  .start "/userdata".toList :: takePhoto 0 ++ takePhoto 1 ++ serve 0

/-- No call finds the flag set. -/
def oneAtATime (state : State) : Label → Bool
  | .place _ => state.takePhotoOne = false
  | _ => true

def isOneAtATime (state : State) (label : Label) : Prop := oneAtATime state label = true

/-- Two requests give one file; and where requests come one at a time, two photos of
one second are one file. -/
theorem photo_lost :
    (¬ ∀ state, system.Reachable System.anyStep state → Served state) ∧
    ¬ ∀ state, system.Reachable isOneAtATime state → Served state := by
  constructor
  · intro general
    let ran := system.run .start merged
    have isSome : ran.isSome := by decide
    have served := general (ran.get isSome)
      (System.reachable_of_run rfl (Option.some_get isSome).symm) rfl
    have counted : 1 = 2 := served.2
    cases counted
  · intro general
    let ran := system.guardedRun oneAtATime .start (twoPhotos 0)
    have isSome : ran.isSome := by decide
    have reachable : system.Reachable isOneAtATime (ran.get isSome) :=
      ⟨_, rfl, System.reaches_of_guardedRun (fun _ _ one => one) (twoPhotos 0)
        (Option.some_get isSome).symm⟩
    have files : (ran.get isSome).files = ["/userdata/20240115120000.jpeg".toList,
        "/userdata/20240115120000.jpeg".toList] := rfl
    have distinct := (general _ reachable rfl).1
    rw [files] at distinct
    exact (List.nodup_cons.mp distinct).1 List.mem_cons_self

end Rkipc.Video.Snapshot
