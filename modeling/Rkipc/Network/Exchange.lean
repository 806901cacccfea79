import Rkipc.Network.Getters
import Rkipc.Rpc.FunMap

namespace Rkipc.Network

open Interaction Rpc

/-! The handlers of the getters with a client, the outcomes of the system calls and what is
found in memory. -/

/-- What a client sends and how the calls go that do not depend on the network.  `segments`
are the bytes that arrive between two failures of `read`, the connection ends behind the
last of them. -/
structure Client where
  segments : List (List UInt8)
  mapped : Bool
  admits : Bool
  sent : List Sent

namespace Client

variable (client : Client)

/-- `sock_read` of this many bytes -/
def recv (count : Nat) (mapped : Bool) : Received × Client :=
  if mapped = false then (.failed [], client)
  else
    match client.segments with
    | [] => (.closed, client)
    | segment :: rest =>
        if count ≤ segment.length then
          (.all (segment.take count), { client with segments := segment.drop count :: rest })
        else if rest = [] then (.closed, { client with segments := [] })
        else (.failed segment, { client with segments := rest })

def send : Sent × Client :=
  (client.sent.headD .all, { client with sent := client.sent.tail })

end Client

inductive Getter
  | ipv4
  | dns
  | mac
  | nicspeed
deriving DecidableEq

def Getter.handler : Getter → Handler
  | .ipv4 => serRkNetworkIpv4Get
  | .dns => serRkNetworkDnsGet
  | .mac => serRkNetworkGetMac
  | .nicspeed => serRkNetworkNicspeedGet

/-- The outcomes of the files, sockets and requests of the module. -/
structure World where
  interfaces : Interfaces
  resolvConf : Option (List UInt8)
  hardware : Hardware
  settings : Settings

/-- What a handler finds in its variables and arrays behind the call of its getter. -/
structure Found where
  status : Word
  ints : Nat → Word
  strings : Nat → List UInt8

def Found.reply (found : Found) : Reply :=
  ⟨found.status, found.ints, fun index => some (found.strings index)⟩

/-- What is found where nobody has written: behind the bytes of a name, in the variables and
arrays that a handler hands to its getter and in `ecmd`.  Behind a write over the end of an
object a run goes on with `overrun`, if it goes on. -/
structure Memory where
  name : List UInt8
  ints : Nat → Word
  strings : Nat → List UInt8
  ecmd : EthtoolCmd
  overrun : Option Found

/-- `length` is found in the `len` of a handler. -/
structure Leftover where
  length : Nat → UInt8
  memory : Memory

/-- The string behind a pointer to a name. -/
def Memory.string (memory : Memory) : Pointer → Option (List UInt8)
  | .null => none
  | .buffer _ received => some (cString (received ++ memory.name))

def Getter.ran (getter : Getter) (world : World) (memory : Memory) (interface : Pointer) : Ran :=
  match getter with
  | .ipv4 => rkNetworkIpv4Get world.interfaces (memory.string interface)
  | .dns => rkNetworkDnsGet world.resolvConf
  | .mac => rkNetworkGetMac world.hardware (memory.string interface)
  | .nicspeed => rkNetworkNicspeedGet world.settings memory.ecmd (memory.string interface)

def Memory.found (memory : Memory) : Ran → Option Found
  | .crashes => none
  | .overruns => memory.overrun
  | .stores status ints strings =>
      some ⟨status, fun index => (ints[index]?.join).getD (memory.ints index),
        fun index => (strings[index]?.join).getD (cString (memory.strings index))⟩

/-- The environment of a handler.  The only call that it makes is the one of its getter. -/
def Getter.answer (getter : Getter) (world : World) (left : Leftover) :
    (question : Ask) → Client → Option (question.Answer × Client)
  | .recv count mapped, client => some (client.recv count mapped)
  | .send _, client => some client.send
  | .crash, _ => none
  | .inside (.malloc _), client => some (client.mapped, client)
  | .inside .unset, client => some (left.length, client)
  | .inside .beyond, client => some (left.length, client)
  | .inside .stale, client => some ((), client)
  | .inside (.invoke _), client => some ((), client)
  | .inside (.debug _), client => some (client.admits, client)
  | .inside (.call _ arguments), client =>
      let interface := (arguments.head?.bind Argument.pointer?).getD .null
      (left.memory.found (getter.ran world left.memory interface)).map fun found =>
        (found.reply, client)

def Getter.sends (getter : Getter) (world : World) (client : Client) (left : Leftover) :
    List (List UInt8) :=
  Trace.sends (getter.handler.run (getter.answer world left) client).trace

/-- What is sent does not depend on what was left, and no string runs over its array. -/
structure Getter.Clean (getter : Getter) (world : World) (client : Client) : Prop where
  same : ∀ left other, getter.sends world client left = getter.sends world client other
  fits : ∀ left, ∀ bytes ∈ getter.sends world client left, bytes.length < bufferSize

section Writes

variable {getter : Getter} {world : World} {left : Leftover} {client : Client}

/-- The calls of `sock_write` that are made up to the first that finds the connection
closed. -/
def handed : List Sent → List (List UInt8) → List (List UInt8)
  | _, [] => []
  | sent, write :: writes =>
      write :: if sent.head? = some .closed then [] else handed sent.tail writes

def sendAll (writes : List (List UInt8)) (next : Handler) : Handler :=
  writes.foldr (writeOr (.done (-1))) next

theorem sendAll_append (writes more : List (List UInt8)) (next : Handler) :
    sendAll (writes ++ more) next = sendAll writes (sendAll more next) :=
  List.foldr_append

theorem sends_sendAll (writes : List (List UInt8)) (status : Word) (client : Client) :
    Trace.sends ((sendAll writes (.done status)).run (getter.answer world left) client).trace =
      handed client.sent writes := by
  induction writes generalizing client with
  | nil => rfl
  | cons write writes induction =>
      obtain ⟨segments, mapped, admits, sent⟩ := client
      have answered : getter.answer world left (.send write) ⟨segments, mapped, admits, sent⟩ =
        some (sent.headD .all, ⟨segments, mapped, admits, sent.tail⟩) := rfl
      have rest := induction ⟨segments, mapped, admits, sent.tail⟩
      rw [sendAll, List.foldr_cons, writeOr, Prog.run_answered _ answered,
        Outcome.prepend_trace, Trace.sends_send, handed]
      cases sent with
      | nil => exact congrArg _ rest
      | cons first others =>
          cases first with
          | closed => rfl
          | all => exact congrArg _ rest
          | failed => exact congrArg _ rest

def stringWrites (string : List UInt8) : List (List UInt8) :=
  let length : Word := BitVec.ofNat 32 string.length
  Word.bytes length :: if length.toInt ≤ 0 then [] else [string.take length.toNat]

theorem writeString_some (string : List UInt8) (next : Handler) :
    writeString (some string) next = sendAll (stringWrites string) next := by
  rw [writeString, writeStringOr, writeCharsOr, stringWrites]
  split_ifs <;> rfl

theorem writeWord_eq (word : Word) (next : Handler) :
    writeWord word next = sendAll [Word.bytes word] next := rfl

/-- What the handler writes behind its call. -/
def Getter.writes (getter : Getter) (found : Found) : List (List UInt8) :=
  match getter with
  | .ipv4 => stringWrites (found.strings 0) ++ (stringWrites (found.strings 1) ++
      (stringWrites (found.strings 2) ++ (stringWrites (found.strings 3) ++ [Word.bytes 0])))
  | .dns => stringWrites (found.strings 0) ++ (stringWrites (found.strings 1) ++ [Word.bytes 0])
  | .mac => stringWrites (found.strings 0) ++ [Word.bytes 0]
  | .nicspeed =>
      [Word.bytes (found.ints 0), Word.bytes (found.ints 1), Word.bytes (found.ints 2),
        Word.bytes 0]

end Writes

section Requests

variable {getter : Getter} {world : World} {left : Leftover}

namespace Client

variable (client : Client)

def readWord (length : Nat → UInt8) : Option (Word × Client) :=
  match client.recv 4 true with
  | (.closed, _) => none
  | (.all bytes, next) => some (Word.ofBytes bytes, next)
  | (.failed bytes, next) =>
      some (Word.ofBytes (bytes ++ firstBytes length (4 - bytes.length)), next)

def readBuffer (length : Word) : Option (Pointer × Client) :=
  let mapped := client.mapped && decide (0 ≤ length.toInt)
  if length.toInt ≤ 0 then some (Pointer.of mapped length [], client)
  else
    match client.recv length.toNat mapped with
    | (.closed, _) => none
    | (.all bytes, next) => some (Pointer.of mapped length bytes, next)
    | (.failed bytes, next) => some (Pointer.of mapped length bytes, next)

/-- The name for which a client asks, if the handler comes to its getter. -/
def readInterface (length : Nat → UInt8) : Option (Pointer × Client) :=
  (client.readWord length).bind fun read =>
    if read.1 = 0 then none else read.2.readBuffer read.1

end Client

theorem sends_readWord (client : Client) (next : Word → Handler) :
    Trace.sends ((readWord next).run (getter.answer world left) client).trace =
      match client.readWord left.length with
      | none => []
      | some (length, after) =>
          Trace.sends ((next length).run (getter.answer world left) after).trace := by
  obtain ⟨received, after, read⟩ : ∃ received after, client.recv 4 true = (received, after) :=
    ⟨_, _, rfl⟩
  have answered : getter.answer world left (.recv 4 true) client = some (received, after) :=
    congrArg some read
  rw [readWord, readWordOr, Prog.run_answered _ answered, Outcome.prepend_trace,
    Trace.sends_silent rfl, Client.readWord, read]
  cases received with
  | closed => rfl
  | all bytes => rfl
  | failed bytes =>
      have stale : getter.answer world left (.inside .stale) after = some ((), after) := rfl
      have unset : getter.answer world left (.inside .unset) after =
        some (left.length, after) := rfl
      simp only [Prog.run_answered _ stale, Prog.run_answered _ unset, Outcome.prepend_trace]
      rw [Trace.sends_silent rfl, Trace.sends_silent rfl]

theorem sends_readBuffer (client : Client) (length : Word) (next : Pointer → Handler) :
    Trace.sends ((readBuffer length next).run (getter.answer world left) client).trace =
      match client.readBuffer length with
      | none => []
      | some (pointer, after) =>
          Trace.sends ((next pointer).run (getter.answer world left) after).trace := by
  have allocated : getter.answer world left (.inside (.malloc length)) client =
    some (client.mapped, client) := rfl
  rw [readBuffer, malloc, Prog.run_answered _ allocated, Outcome.prepend_trace,
    Trace.sends_silent rfl]
  unfold Client.readBuffer
  split_ifs with empty
  · rfl
  · obtain ⟨received, after, read⟩ : ∃ received after,
        client.recv length.toNat (client.mapped && decide (0 ≤ length.toInt)) =
          (received, after) := ⟨_, _, rfl⟩
    have answered : getter.answer world left
        (.recv length.toNat (client.mapped && decide (0 ≤ length.toInt))) client =
          some (received, after) := congrArg some read
    rw [Prog.run_answered _ answered, Outcome.prepend_trace, Trace.sends_silent rfl]
    dsimp only
    rw [read]
    cases received with
    | closed => rfl
    | all bytes => rfl
    | failed bytes =>
        have stale : getter.answer world left (.inside .stale) after = some ((), after) := rfl
        simp only [Prog.run_answered _ stale, Outcome.prepend_trace]
        rw [Trace.sends_silent rfl]

theorem sends_readInterface (client : Client) (next : Pointer → Handler) :
    Trace.sends ((readInterface next).run (getter.answer world left) client).trace =
      match client.readInterface left.length with
      | none => []
      | some (pointer, after) =>
          Trace.sends ((next pointer).run (getter.answer world left) after).trace := by
  rw [readInterface, sends_readWord, Client.readInterface]
  cases client.readWord left.length with
  | none => rfl
  | some read =>
      obtain ⟨length, after⟩ := read
      simp only [Option.bind_some]
      split_ifs with empty
      · rfl
      · exact sends_readBuffer after length next

def Getter.answers (getter : Getter) (world : World) (sent : List Sent) (memory : Memory)
    (interface : Pointer) : List (List UInt8) :=
  match memory.found (getter.ran world memory interface) with
  | none => []
  | some found => handed sent (getter.writes found)

theorem Client.recv_sent (client : Client) (count : Nat) (mapped : Bool) :
    (client.recv count mapped).2.sent = client.sent := by
  unfold Client.recv
  split_ifs with unmapped
  · rfl
  · cases client.segments with
    | nil => rfl
    | cons segment rest =>
        dsimp only
        split_ifs <;> rfl

theorem Client.readInterface_sent {client after : Client} {length : Nat → UInt8}
    {interface : Pointer} (isRead : client.readInterface length = some (interface, after)) :
    after.sent = client.sent := by
  obtain ⟨⟨word, middle⟩, wordRead, rest⟩ := Option.bind_eq_some_iff.mp isRead
  have first : middle.sent = client.sent := by
    have same := client.recv_sent 4 true
    unfold Client.readWord at wordRead
    split at wordRead
    next => cases wordRead
    next received =>
      rw [received] at same
      cases wordRead
      exact same
    next received =>
      rw [received] at same
      cases wordRead
      exact same
  split_ifs at rest
  dsimp only at rest
  have same := middle.recv_sent word.toNat (middle.mapped && decide (0 ≤ word.toInt))
  unfold Client.readBuffer at rest
  dsimp only at rest
  split_ifs at rest
  · cases rest
    exact first
  · split at rest
    next => cases rest
    next received =>
      rw [received] at same
      cases rest
      exact same.trans first
    next received =>
      rw [received] at same
      cases rest
      exact same.trans first

theorem sends_debug (strings : List Pointer) (client : Client) (next : Handler) :
    Trace.sends ((debug strings next).run (getter.answer world left) client).trace =
      Trace.sends (next.run (getter.answer world left) client).trace := by
  have answered : getter.answer world left (.inside (.debug strings)) client =
    some (client.admits, client) := rfl
  rw [debug, Prog.run_answered _ answered, Outcome.prepend_trace, Trace.sends_silent rfl]

/-- The call of the getter, when what it gives is written behind it. -/
theorem sends_call (client : Client) (backend : String) (arguments : List Argument)
    (next : Reply → Handler)
    (writes : ∀ found : Found,
      Trace.sends ((next found.reply).run (getter.answer world left) client).trace =
        handed client.sent (getter.writes found)) :
    Trace.sends ((call backend arguments next).run (getter.answer world left) client).trace =
      getter.answers world client.sent left.memory
        ((arguments.head?.bind Argument.pointer?).getD .null) := by
  unfold Getter.answers
  cases isFound : left.memory.found (getter.ran world left.memory
      ((arguments.head?.bind Argument.pointer?).getD .null)) with
  | none =>
      have stopped : getter.answer world left (.inside (.call backend arguments)) client =
          none := by
        rw [Getter.answer, isFound]
        rfl
      rw [call, Prog.run_stopped _ stopped]
      rfl
  | some found =>
      have answered : getter.answer world left (.inside (.call backend arguments)) client =
          some (found.reply, client) := by
        rw [Getter.answer, isFound]
        rfl
      rw [call, Prog.run_answered _ answered, Outcome.prepend_trace, Trace.sends_silent rfl]
      exact writes found

theorem sends_of_interface (asks : getter ≠ .dns) (client : Client) :
    getter.sends world client left =
      match client.readInterface left.length with
      | none => []
      | some (interface, _) => getter.answers world client.sent left.memory interface := by
  have behind (next : Pointer → Handler)
      (calls : ∀ (interface : Pointer) (after : Client),
        Trace.sends ((next interface).run (getter.answer world left) after).trace =
          getter.answers world after.sent left.memory interface) :
      Trace.sends ((readInterface next).run (getter.answer world left) client).trace =
        match client.readInterface left.length with
        | none => []
        | some (interface, _) => getter.answers world client.sent left.memory interface := by
    rw [sends_readInterface]
    cases isRead : client.readInterface left.length with
    | none => rfl
    | some read =>
        obtain ⟨interface, after⟩ := read
        dsimp only
        rw [calls, Client.readInterface_sent isRead]
  rw [Getter.sends]
  cases getter with
  | ipv4 =>
      refine behind _ fun interface after => ?_
      rw [sends_debug]
      refine sends_call after _ _ _ fun found => ?_
      simp only [Found.reply, writeString_some, writeWord_eq, ← sendAll_append]
      exact sends_sendAll _ _ _
  | dns => exact absurd rfl asks
  | mac =>
      refine behind _ fun interface after => sends_call after _ _ _ fun found => ?_
      rw [sends_debug]
      simp only [Found.reply, writeString_some, writeWord_eq, ← sendAll_append]
      exact sends_sendAll _ _ _
  | nicspeed =>
      refine behind _ fun interface after => sends_call after _ _ _ fun found => ?_
      rw [sends_debug]
      simp only [Found.reply, writeWord_eq, ← sendAll_append]
      exact sends_sendAll _ _ _

theorem sends_of_dns (client : Client) :
    Getter.dns.sends world client left =
      Getter.dns.answers world client.sent left.memory .null := by
  refine sends_call client _ _ _ fun found => ?_
  simp only [Found.reply, writeString_some, writeWord_eq, ← sendAll_append]
  exact sends_sendAll _ _ _

end Requests

end Rkipc.Network
