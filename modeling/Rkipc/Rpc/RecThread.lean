import Mathlib.Logic.Function.Iterate
import Rkipc.Rpc.Shape

namespace Rkipc.Rpc

open Interaction

/-! The loop of `rec_thread` over the requests of a connection. -/

/-- The bytes of the name without its terminator. -/
def FunMap.name (entry : FunMap) : List UInt8 := entry.funName.toUTF8.data.toList

/-- Whether the bytes begin with the string, terminator included; `none` when the
bytes end before that is known. -/
def compare : List UInt8 → List UInt8 → Option Bool
  | [], _ => some true
  | _ :: _, [] => none
  | char :: string, byte :: bytes =>
      if char = byte then compare string bytes else some false

section

variable {α : Type}

/-- `strcmp` with the bytes received, and with what lies behind them when they do
not decide it. -/
def strcmp (name received : List UInt8) (next : Bool → Server α) : Server α :=
  match compare (name ++ [0]) received with
  | some equal => next equal
  | none => .ask (.inside .beyond) fun memory =>
      let rest := (name ++ [0]).drop received.length
      next (decide (firstBytes memory rest.length = rest))

end

/-- The loop over the map goes on after a match. -/
def dispatch (received : List UInt8) : List FunMap → Word → Handler
  | [], ret => .done ret
  | entry :: rest, ret =>
      strcmp entry.name received fun equal =>
        if equal then
          .ask (.inside (.invoke entry.funName)) fun _ =>
            entry.serve.bind fun ret => dispatch received rest ret
        else dispatch received rest ret

/-- From the length of the name to `out:`.  A pass ends with `ret` and with `len`,
which the next pass finds as it is. -/
def readName (len : Word) : Server (Word × Word) :=
  if len.toInt ≤ 0 then .done (-1, len)
  else malloc len fun mapped =>
    let select := fun received =>
      if mapped then
        (dispatch received map 0).bind fun ret => .done (ret, len)
      else .ask .crash Empty.elim
    .ask (.recv len.toNat mapped) fun
      | .closed => .done (-1, len)
      | .all bytes => select bytes
      | .failed bytes => .ask (.inside .stale) fun _ => select bytes

/-- One pass from `again:`, where `ret` is 0. -/
def again (len : Word) : Server (Word × Word) :=
  .ask (.recv 4 true) fun
    | .closed => .done (-1, len)
    | .all bytes => readName (Word.ofBytes bytes)
    | .failed bytes =>
        .ask (.inside .stale) fun _ =>
          readName (Word.ofBytes (bytes ++ (Word.bytes len).drop bytes.length))

/-- From `again:` to the `goto` that leads back to it. -/
def turn (len : Word) : Server (Word × Word) :=
  (again len).bind fun (ret, len) =>
    if ret = 0 then .ask (.send (Word.bytes 0)) fun _ => .done (0, len)
    else .done (ret, len)

/-- The start of the thread, with `len` not yet set. -/
def greet : Server (Word × Word) :=
  .ask (.inside .unset) fun memory =>
    let len := Word.ofBytes (firstBytes memory 4)
    .ask (.send (Word.bytes 0)) fun
      | .closed => .done (-1, len)
      | .all => again len
      | .failed => again len

/-- From `out:` with `ret` 0 back to `again:`; the result of the `sock_write` is
not looked at. -/
def proceed (len : Word) : Server (Word × Word) :=
  .ask (.send (Word.bytes 0)) fun _ => again len

section Compare

variable {string received : List UInt8}

theorem compare_self (string rest : List UInt8) :
    compare string (string ++ rest) = some true := by
  induction string with
  | nil => rfl
  | cons char string induction => simpa [compare] using induction

theorem prefix_of_compare (equal : compare string received = some true) :
    string <+: received := by
  induction string generalizing received with
  | nil => exact List.nil_prefix
  | cons char string induction =>
      cases received with
      | nil => cases equal
      | cons byte bytes =>
          simp only [compare] at equal
          split at equal
          next same =>
            subst same
            exact List.cons_prefix_cons.mpr ⟨rfl, induction equal⟩
          next => cases equal

theorem compare_eq_none : compare string received = none ↔
    received <+: string ∧ received ≠ string := by
  induction string generalizing received with
  | nil =>
      simp only [compare, reduceCtorEq, List.prefix_nil, false_iff]
      exact fun both => both.2 both.1
  | cons char string induction =>
      cases received with
      | nil => simp [compare]
      | cons byte bytes =>
          simp only [compare, List.cons_prefix_cons]
          split
          next same =>
            subst same
            rw [induction]
            simp
          next different =>
            simp only [reduceCtorEq, false_iff]
            exact fun both => different both.1.1.symm

end Compare

/-! `rec_thread` as a machine that goes from one system call to the next. -/

/-- What `read` of a positive count gives: at least one byte, 0, `EINTR` or
another error. -/
inductive Read
  | bytes (first : UInt8) (rest : List UInt8)
  | ended
  | interrupted
  | failed
deriving DecidableEq

/-- What `write` of a positive count gives: one byte and `more`, `EPIPE`, `EINTR`
or another error. -/
inductive Write
  | bytes (more : Nat)
  | closed
  | interrupted
  | failed
deriving DecidableEq

/-- The answers to system calls, and to what goes on inside. -/
structure Kernel (σ : Type) where
  read : Nat → Bool → σ → Read × σ
  write : List UInt8 → σ → Write × σ
  inside : (question : Local) → σ → question.Answer × σ

/-- `moved` are the bytes of the current `sock_read` or `sock_write` so far. -/
inductive Thread
  | serving (program : Server (Word × Word)) (moved : List UInt8)
  | crashed
  | closed

def sockRead (count : Nat) (mapped : Bool)
    (next : Received → Server (Word × Word)) (moved : List UInt8) :
    Read → Thread
  | .bytes first rest =>
      let now := moved ++ (first :: rest).take (count - moved.length)
      if now.length < count then .serving (.ask (.recv count mapped) next) now
      else .serving (next (.all now)) []
  | .ended => .serving (next .closed) []
  | .interrupted => .serving (.ask (.recv count mapped) next) moved
  | .failed => .serving (next (.failed moved)) []

def sockWrite (bytes : List UInt8) (next : Sent → Server (Word × Word))
    (moved : List UInt8) : Write → Thread
  | .bytes more =>
      let now := moved ++ (bytes.drop moved.length).take (more + 1)
      if now.length < bytes.length then .serving (.ask (.send bytes) next) now
      else .serving (next .all) []
  | .closed => .serving (next .closed) []
  | .interrupted => .serving (.ask (.send bytes) next) moved
  | .failed => .serving (next .failed) []

namespace Kernel

variable {σ : Type} (kernel : Kernel σ)

/-- One system call or one question inside; at `out:`, the way back to `again:` or
`close`. -/
def step : Thread × σ → Thread × σ
  | (.serving (.done (ret, len)) _, state) =>
      if ret = 0 then (.serving (proceed len) [], state) else (.closed, state)
  | (.serving (.ask (.recv count mapped) next) moved, state) =>
      let (result, after) := kernel.read (count - moved.length) mapped state
      (sockRead count mapped next moved result, after)
  | (.serving (.ask (.send bytes) next) moved, state) =>
      let (result, after) := kernel.write (bytes.drop moved.length) state
      (sockWrite bytes next moved result, after)
  | (.serving (.ask .crash _) _, state) => (.crashed, state)
  | (.serving (.ask (.inside question) next) _, state) =>
      let (answer, after) := kernel.inside question state
      (.serving (next answer) [], after)
  | (.crashed, state) => (.crashed, state)
  | (.closed, state) => (.closed, state)

/-- The thread and the rest of the world after so many steps. -/
def run (state : σ) (count : Nat) : Thread × σ :=
  kernel.step^[count] (.serving greet [], state)

def reads : Thread × σ → Option Read
  | (.serving (.ask (.recv count mapped) _) moved, state) =>
      some (kernel.read (count - moved.length) mapped state).1
  | _ => none

def writes : Thread × σ → Option Write
  | (.serving (.ask (.send bytes) _) moved, state) =>
      some (kernel.write (bytes.drop moved.length) state).1
  | _ => none

variable {kernel} {state : σ} {moved : List UInt8}

@[simp] theorem step_done (ret len : Word) :
    kernel.step (.serving (.done (ret, len)) moved, state) =
      if ret = 0 then (.serving (proceed len) [], state) else (.closed, state) :=
  rfl

@[simp] theorem step_recv (count : Nat) (mapped : Bool)
    (next : Received → Server (Word × Word)) :
    kernel.step (.serving (.ask (.recv count mapped) next) moved, state) =
      (sockRead count mapped next moved
          (kernel.read (count - moved.length) mapped state).1,
        (kernel.read (count - moved.length) mapped state).2) := rfl

@[simp] theorem step_send (bytes : List UInt8)
    (next : Sent → Server (Word × Word)) :
    kernel.step (.serving (.ask (.send bytes) next) moved, state) =
      (sockWrite bytes next moved
          (kernel.write (bytes.drop moved.length) state).1,
        (kernel.write (bytes.drop moved.length) state).2) := rfl

@[simp] theorem step_crash (next : Empty → Server (Word × Word)) :
    kernel.step (.serving (.ask .crash next) moved, state) =
      (.crashed, state) := rfl

@[simp] theorem step_inside (question : Local)
    (next : question.Answer → Server (Word × Word)) :
    kernel.step (.serving (.ask (.inside question) next) moved, state) =
      (.serving (next (kernel.inside question state).1) [],
        (kernel.inside question state).2) := rfl

@[simp] theorem step_closed :
    kernel.step (.closed, state) = (.closed, state) := rfl

theorem run_succ (kernel : Kernel σ) (state : σ) (count : Nat) :
    kernel.run state (count + 1) = kernel.step (kernel.run state count) :=
  Function.iterate_succ_apply' _ _ _

end Kernel

end Rkipc.Rpc
