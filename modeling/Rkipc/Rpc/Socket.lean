import Mathlib.Algebra.GroupWithZero.Nat
import Rkipc.Interaction.Prog

namespace Rkipc.Rpc

open Interaction

/-! The calls through which a handler of the socket server meets the client, the
memory allocator and the modules behind it. -/

/-- An `int` on the wire and in the handlers. -/
abbrev Word := BitVec 32

namespace Word

def bytes (word : Word) : List UInt8 :=
  [UInt8.ofNat word.toNat, UInt8.ofNat (word.toNat / 2 ^ 8),
    UInt8.ofNat (word.toNat / 2 ^ 16), UInt8.ofNat (word.toNat / 2 ^ 24)]

/-- The value of a little-endian variable that holds the bytes. -/
def ofBytes (bytes : List UInt8) : Word :=
  BitVec.ofNat 32 (bytes.foldr (fun byte rest => byte.toNat + 2 ^ 8 * rest) 0)

@[simp] theorem bytes_length (word : Word) : (bytes word).length = 4 := rfl

@[simp] theorem ofBytes_bytes (word : Word) : ofBytes (bytes word) = word := by
  have bound := word.isLt
  apply BitVec.eq_of_toNat_eq
  simp only [ofBytes, bytes, List.foldr_cons, List.foldr_nil, UInt8.toNat_ofNat',
    BitVec.toNat_ofNat]
  omega

end Word

/-- A pointer to characters that a client sent.  `received` are the bytes that
`sock_read` has put at the start of the buffer. -/
inductive Pointer
  | null
  | buffer (size : Nat) (received : List UInt8)
deriving DecidableEq

/-- The buffer holds a string: its terminator is among the bytes received, within
the buffer. -/
def Pointer.Terminated : Pointer → Prop
  | .null => False
  | .buffer size received => 0 ∈ received.take size

inductive Argument
  | int (value : Word)
  | string (value : Pointer)
deriving DecidableEq

def Argument.pointer? : Argument → Option Pointer
  | .int _ => none
  | .string value => some value

/-- What a function behind a handler gives back: its status and the integers and
strings that it stores through its pointer arguments.  A string is `none` where
there is none to be read, as behind a NULL pointer. -/
structure Reply where
  status : Word
  int : Nat → Word
  string : Nat → Option (List UInt8)

/-- The ends of a `sock_read`: `SOCKERR_CLOSED`, the number of bytes asked for, or
`SOCKERR_IO` after the bytes that had arrived. -/
inductive Received
  | closed
  | all (bytes : List UInt8)
  | failed (bytes : List UInt8)
deriving DecidableEq

/-- The ends of a `sock_write`: `SOCKERR_CLOSED`, the number of bytes, or
`SOCKERR_IO`. -/
inductive Sent
  | closed
  | all
  | failed
deriving DecidableEq

/-- The questions that do not go through the socket.  `unset` and `beyond` are
reads of memory that nobody has written and of memory after the bytes received.
`stale` and `invoke` have no effect: they mark a caller that goes on after
`SOCKERR_IO` and a call of a handler through the map. -/
inductive Local
  | malloc (size : Word)
  | unset
  | beyond
  | stale
  | invoke (funName : String)
  | debug (strings : List Pointer)
  | call (backend : String) (arguments : List Argument)
deriving DecidableEq

/-- A `debug` line reads its strings when `rkipc_log_level` admits it. -/
@[reducible] def Local.Answer : Local → Type
  | .malloc _ => Bool
  | .unset => Nat → UInt8
  | .beyond => Nat → UInt8
  | .stale => Unit
  | .invoke _ => Unit
  | .debug _ => Bool
  | .call _ _ => Reply

/-- `recv` and `send` are calls of `sock_read` and `sock_write` with a positive
count; `mapped` says that the buffer is not NULL.  `crash` is a read through a
pointer that does not point to a string. -/
inductive Ask
  | recv (count : Nat) (mapped : Bool)
  | send (bytes : List UInt8)
  | crash
  | inside (question : Local)
deriving DecidableEq

@[reducible] def Ask.Answer : Ask → Type
  | .recv _ _ => Received
  | .send _ => Sent
  | .crash => Empty
  | .inside question => question.Answer

abbrev Server := Prog Ask Ask.Answer

/-- A handler ends with the value that it returns to `rec_thread`. -/
abbrev Handler := Server Word

variable {α : Type}

def firstBytes (memory : Nat → UInt8) (count : Nat) : List UInt8 :=
  (List.range count).map memory

/-- `sock_read` into an `int` variable of the caller, which returns `onClosed` on
`SOCKERR_CLOSED` and tests for nothing else. -/
def readWordOr (onClosed : Handler) (next : Word → Handler) : Handler :=
  .ask (.recv 4 true) fun
    | .closed => onClosed
    | .all bytes => next (Word.ofBytes bytes)
    | .failed bytes =>
        .ask (.inside .stale) fun _ => .ask (.inside .unset) fun memory =>
          next (Word.ofBytes (bytes ++ firstBytes memory (4 - bytes.length)))

def readWord (next : Word → Handler) : Handler :=
  readWordOr (.done (-1)) next

/-- `malloc` of an `int` length, which the call converts to a `size_t`: of a
negative length it gives NULL. -/
def malloc (length : Word) (next : Bool → Server α) : Server α :=
  .ask (.inside (.malloc length)) fun succeeds =>
    next (succeeds && decide (0 ≤ length.toInt))

def Pointer.of (mapped : Bool) (length : Word) (bytes : List UInt8) : Pointer :=
  if mapped then .buffer length.toNat bytes else .null

/-- `malloc` of the length and `sock_read` of as many bytes, which reads nothing
when the length is not positive. -/
def readBuffer (length : Word) (next : Pointer → Handler) : Handler :=
  malloc length fun mapped =>
    if length.toInt ≤ 0 then next (Pointer.of mapped length [])
    else .ask (.recv length.toNat mapped) fun
      | .closed => .done (-1)
      | .all bytes => next (Pointer.of mapped length bytes)
      | .failed bytes =>
          .ask (.inside .stale) fun _ => next (Pointer.of mapped length bytes)

/-- `sock_write` of a positive count in a caller that returns `onClosed` on
`SOCKERR_CLOSED` and tests for nothing else. -/
def writeOr (onClosed : Handler) (bytes : List UInt8) (next : Handler) :
    Handler :=
  .ask (.send bytes) fun
    | .closed => onClosed
    | .all => next
    | .failed => next

def writeWord (word : Word) (next : Handler) : Handler :=
  writeOr (.done (-1)) (Word.bytes word) next

/-- `sock_write` of the first `length` characters, nothing when the length is not
positive. -/
def writeCharsOr (onClosed : Handler) (length : Word) (string : List UInt8)
    (next : Handler) : Handler :=
  if length.toInt ≤ 0 then next
  else writeOr onClosed (string.take length.toNat) next

/-- `strlen` of the string, then its length as an `int` and its characters. -/
def writeStringOr (onClosed : Handler) (string : Option (List UInt8))
    (next : Handler) : Handler :=
  match string with
  | none => .ask .crash Empty.elim
  | some string =>
      let length := BitVec.ofNat 32 string.length
      writeOr onClosed (Word.bytes length)
        (writeCharsOr onClosed length string next)

def writeString (string : Option (List UInt8)) (next : Handler) : Handler :=
  writeStringOr (.done (-1)) string next

def call (backend : String) (arguments : List Argument)
    (next : Reply → Handler) : Handler :=
  .ask (.inside (.call backend arguments)) next

/-- `LOG_DEBUG` of strings that the client sent. -/
def debug (strings : List Pointer) (next : Handler) : Handler :=
  .ask (.inside (.debug strings)) fun _ => next

/-! What a run shows to the outside. -/

abbrev Trace := List (Event Ask Ask.Answer)

/-- A call of a function behind a handler with what it gave back. -/
structure Call where
  backend : String
  arguments : List Argument
  reply : Reply

def sendOf : Event Ask Ask.Answer → Option (List UInt8)
  | ⟨.send bytes, _⟩ => some bytes
  | _ => none

def callOf : Event Ask Ask.Answer → Option Call
  | ⟨.inside (.call backend arguments), reply⟩ => some ⟨backend, arguments, reply⟩
  | _ => none

namespace Trace

def sends (trace : Trace) : List (List UInt8) := trace.filterMap sendOf

def calls (trace : Trace) : List Call := trace.filterMap callOf

@[simp] theorem sends_nil : Trace.sends [] = [] := rfl

@[simp] theorem calls_nil : Trace.calls [] = [] := rfl

@[simp] theorem sends_send (bytes : List UInt8) (sent : Sent) (trace : Trace) :
    Trace.sends (⟨.send bytes, sent⟩ :: trace) = bytes :: trace.sends := rfl

@[simp] theorem calls_call (backend : String) (arguments : List Argument)
    (reply : Reply) (trace : Trace) :
    Trace.calls (⟨.inside (.call backend arguments), reply⟩ :: trace) =
      ⟨backend, arguments, reply⟩ :: trace.calls := rfl

theorem sends_silent {event : Event Ask Ask.Answer}
    (notSend : sendOf event = none) (trace : Trace) :
    Trace.sends (event :: trace) = trace.sends :=
  List.filterMap_cons_none notSend

theorem calls_silent {event : Event Ask Ask.Answer}
    (notCall : callOf event = none) (trace : Trace) :
    Trace.calls (event :: trace) = trace.calls :=
  List.filterMap_cons_none notCall

end Trace

end Rkipc.Rpc
