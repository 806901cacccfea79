import Rkipc.Ini.Dictionary
import Rkipc.Libc.Search
import Rkipc.Storage.Hotplug

namespace Rkipc.Storage.Listener

open Ini Libc

/-! What `rkipc_storage_event_listener_thread` makes of the bytes of a message. -/

def nul : Char := '\x00'

def maxTypeNmsgLen : Nat := 32

def bufLen : Nat := 2000

def strSearchLoop (str : Text) : Nat → Text → Option Text
  | count + 1, byte :: rest =>
      if byte = nul then (strstr nul str rest).or (strSearchLoop str count rest)
      else strSearchLoop str count rest
  | _, _ => none

def strSearch (buf : Text) (len : Nat) (str : Text) : Option Text :=
  (strstr nul str buf).or (strSearchLoop str (len - 1) buf)

def getPara (buf : Text) (len : Nat) (str : Text) : Option Text :=
  (strSearch buf len str).map (·.drop (str.length + 1))

/-- `nullUse` is `strlen` of a device that is NULL. -/
inductive Outcome
  | nothing
  | nullUse
  | sends (msg : Msg) (dev : Text)
deriving DecidableEq

def sendMsg (msg : Msg) (dev : Option Text) : Outcome :=
  dev.elim .nullUse fun dev => .sends msg (cString nul dev)

/-- A message of an accepted length, at the head of the buffer. -/
def handle (buf : Text) (len : Nat) : Outcome :=
  if strstr nul "libudev".toList buf = some buf then
    if (strSearch buf len "DEVTYPE=partition".toList).isSome ∨
        (strSearch buf len "DEVTYPE=disk".toList).isSome then
      let dev := getPara buf len "DEVNAME".toList
      if (strSearch buf len "ACTION=add".toList).isSome then sendMsg .devAdd dev
      else if (strSearch buf len "ACTION=remove".toList).isSome then sendMsg .devRemove dev
      else if (strSearch buf len "ACTION=change".toList).isSome then sendMsg .devChanged dev
      else .nothing
    else .nothing
  else .nothing

/-- `recvmsg` writes over the first bytes of the buffer; the others, and what is behind the
buffer, stay as they are. -/
def listen (buf msg : Text) : Outcome :=
  if msg.length < maxTypeNmsgLen ∨ bufLen < msg.length then .nothing
  else handle (msg ++ buf.drop msg.length) msg.length

section Records

variable (msg : Text)

def records : List Text := (strings nul msg).1 ++ [(strings nul msg).2]

def IsAccepted : Prop :=
  maxTypeNmsgLen ≤ msg.length ∧ msg.length ≤ bufLen ∧ "libudev".toList <+: msg

def IsBlock : Prop :=
  "DEVTYPE=partition".toList ∈ records msg ∨ "DEVTYPE=disk".toList ∈ records msg

def action : Msg → Text
  | .devAdd => "ACTION=add".toList
  | .devRemove => "ACTION=remove".toList
  | .devChanged => "ACTION=change".toList

def devname (dev : Text) : Text := "DEVNAME=".toList ++ dev

/-- What is used are the values of records. -/
def Right : Outcome → Prop
  | .nothing => IsAccepted msg → IsBlock msg →
      ¬ ∃ kind dev, action kind ∈ records msg ∧ devname dev ∈ records msg
  | .nullUse => False
  | .sends kind dev => IsBlock msg ∧ action kind ∈ records msg ∧ devname dev ∈ records msg

/-- What is sent is in the message, whatever the buffer held before. -/
def Exact : Prop :=
  (∀ buf, Right msg (listen buf msg)) ∧ ∀ buf other, listen buf msg = listen other msg

/-- In some of the strings the key stands somewhere. -/
def Holds (strings : List Text) (key : Text) : Prop := ∃ string ∈ strings, key <:+: string

def earlier : Msg → List Msg
  | .devAdd => []
  | .devRemove => [.devAdd]
  | .devChanged => [.devAdd, .devRemove]

/-- The bytes behind the first DEVNAME of the strings and one byte further. -/
def named : List Text → Option Text
  | [] => none
  | string :: more =>
      (strstr nul "DEVNAME".toList string).elim (named more) fun found =>
        if found.length = 7 then more.head? else some (found.drop 8)

/-- Either every record ends in a NUL and none holds a DEVTYPE, or none an ACTION, that is
looked for; or there are records with just that, no other ACTION comes first, and the first
DEVNAME is that of a record. -/
def Clear : Prop :=
  ((strings nul msg).2 = [] ∧
      ((¬ Holds (strings nul msg).1 "DEVTYPE=partition".toList ∧
          ¬ Holds (strings nul msg).1 "DEVTYPE=disk".toList) ∨
        ∀ kind, ¬ Holds (strings nul msg).1 (action kind))) ∨
    IsBlock msg ∧ ∃ kind dev,
      action kind ∈ records msg ∧
        (kind = .devAdd ∨ (strings nul msg).2 = [] ∧
          ∀ other ∈ earlier kind, ¬ Holds (strings nul msg).1 (action other)) ∧
        named (strings nul msg).1 = some dev ∧ devname dev ∈ records msg

end Records

end Rkipc.Storage.Listener
