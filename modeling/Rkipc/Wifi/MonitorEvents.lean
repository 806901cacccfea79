import Mathlib.Data.List.Infix
import Rkipc.Ini.Dictionary

namespace Rkipc.Wifi.Monitor

open Ini

/-! What the monitor of `wpa_supplicant` receives and makes of it. -/

def strstr (text part : Text) : Bool := text.tails.any fun tail => part.isPrefixOf tail

def strStartsWith (text part : Text) : Bool := part.isPrefixOf text

/-- The text behind the first of the characters. -/
def behind (char : Char) (text : Text) : Option Text :=
  match text.dropWhile fun other => other ≠ char with
  | [] => none
  | _ :: rest => some rest

def wpaEventTerminating : Text := "CTRL-EVENT-TERMINATING ".toList

inductive Dispatched
  | ignored
  | disconnected
  | connected
  | scanResults
  | wrongKey
  | terminating
  | other
deriving DecidableEq

def dispatchEvent (event : Text) : Dispatched :=
  if strstr event "CTRL-EVENT-BSS".toList ∨ strstr event "CTRL-EVENT-TERMINATING".toList then
    .ignored
  else if strStartsWith event "CTRL-EVENT-DISCONNECTED ".toList then .disconnected
  else if strStartsWith event "CTRL-EVENT-CONNECTED ".toList then .connected
  else if strStartsWith event "CTRL-EVENT-SCAN-RESULTS ".toList then .scanResults
  else if strstr event "reason=WRONG_KEY".toList then .wrongKey
  else if strStartsWith event wpaEventTerminating then .terminating
  else .other

def Dispatched.result : Dispatched → Int
  | .terminating => -1
  | _ => 0

/-- What `poll` and `wpa_ctrl_recv` give: `noInput` is the exit socket or a hang-up without
anything to read, a message of no bytes is the end of the connection. -/
inductive Poll
  | failed
  | timedOut
  | noInput
  | recvFailed
  | message (bytes : Text)
deriving DecidableEq

/-- `wifi_ctrl_recv`: polls again, or gives an error, -2 or a message. -/
inductive CtrlRecv
  | again
  | failed
  | closed
  | message (bytes : Text)
deriving DecidableEq

/-- A time-out is looked at no further while `wpa_supplicant` is gone, and taken for the
end of the connection while it is there. -/
def wifiCtrlRecv (supplicant : Bool) : Poll → CtrlRecv
  | .failed => .failed
  | .timedOut => if supplicant then .closed else .again
  | .noInput => .closed
  | .recvFailed => .failed
  | .message bytes => .message bytes

def ifname : Text := "IFNAME=".toList

def withoutLevel (bytes : Text) : Text :=
  if ifname.isPrefixOf bytes then
    match behind ' ' bytes with
    | none => "CTRL-EVENT-IGNORE ".toList
    | some ('<' :: rest) =>
        match behind '>' rest with
        | none => bytes
        | some event => bytes.takeWhile (fun char => char ≠ ' ') ++ ' ' :: event
    | some _ => bytes
  else
    match bytes with
    | '<' :: rest => (behind '>' rest).getD bytes
    | _ => bytes

def connectionClosed : Text :=
  "IFNAME=wlan0 ".toList ++ wpaEventTerminating ++ " - connection closed".toList

def signalReceived : Text :=
  "IFNAME=wlan0 ".toList ++ wpaEventTerminating ++ " - signal 0 received".toList

/-- `wifi_wait_on_socket`: the event, none while it waits, and whether the result is not 0.
After an error the buffer is empty and the result its size. -/
def wifiWaitOnSocket (monitorConn supplicant : Bool) (poll : Poll) : Option (Text × Bool) :=
  if monitorConn = false then some (connectionClosed, true)
  else
    match wifiCtrlRecv supplicant poll with
    | .again => none
    | .closed => some (connectionClosed, true)
    | .failed => some ([], true)
    | .message [] => some (signalReceived, true)
    | .message bytes => some (withoutLevel bytes, decide (withoutLevel bytes ≠ []))

theorem strstr_of_startsWith {text part longer : Text} (isPrefix : part <+: longer)
    (starts : strStartsWith text longer = true) : strstr text part = true := by
  refine List.any_eq_true.mpr ⟨text, (List.mem_tails _ _).mpr List.suffix_rfl, ?_⟩
  exact List.isPrefixOf_iff_prefix.mpr (isPrefix.trans (List.isPrefixOf_iff_prefix.mp starts))

/-- The first test of `dispatch_event` is met by whatever meets the last one. -/
theorem dispatchEvent_ne_terminating (event : Text) : dispatchEvent event ≠ .terminating := by
  intro isTerminating
  unfold dispatchEvent at isTerminating
  split at isTerminating
  · cases isTerminating
  next notFirst =>
    split_ifs at isTerminating with _ _ _ _ starts
    have inside : "CTRL-EVENT-TERMINATING".toList <+: wpaEventTerminating := by
      rw [← List.isPrefixOf_iff_prefix]
      decide
    exact notFirst (Or.inr (strstr_of_startsWith inside starts))

theorem dispatchEvent_result (event : Text) : (dispatchEvent event).result = 0 := by
  have notTerminating := dispatchEvent_ne_terminating event
  unfold Dispatched.result
  split
  · contradiction
  · rfl

end Rkipc.Wifi.Monitor
