import Rkipc.Libc.Store
import Rkipc.Wifi.EscapeBounds
import Rkipc.Wifi.MonitorEvents

namespace Rkipc.Wifi

/-! The fields that are taken from an event of `wpa_supplicant`. -/

section Source

def eventBufSize : Nat := 1024

structure Event where
  text : List Byte
  noNul : 0 ∉ text
  short : text.length < eventBufSize

/-- The members of `RK_WIFI_INFO_Connection_s` that are set. -/
structure Info where
  id : Int
  bssid : List Byte
  ssid : List Byte
  reason : Int
deriving DecidableEq

def bssidBufLen : Nat := 20
def ssidBufLen : Nat := 64

def valueSize : Nat := 128

def bufSize : Nat := 10

/-- Nothing for a negative length, which becomes a huge one, and for one that is longer than the
array. -/
def strncpy (dst src : List Byte) (len : Int) : Option (List Byte) :=
  if len < 0 then none
  else
    let string := (cString src).take len.toNat
    Libc.store dst 0 (string ++ List.replicate (len.toNat - string.length) 0)

def strcpy (dst src : List Byte) : Option (List Byte) := Libc.store dst 0 (cString src ++ [0])

/-- Whether the place is in the array, of which `buf_temp` is as long as the string. -/
def Access.inside (size length : Nat) (access : Access) : Bool :=
  match access.1 with
  | .bufTemp => decide (access.2 ≤ length)
  | _ => decide (access.2 < size)

/-- `spec_char_convers` from one array to another one, nothing when it leaves an array.  It
begins with the length of the string. -/
def specCharConversArray (value : List Byte) : Option (List Byte) :=
  if 0 ∈ value ∧ (Access.specCharConvers 0 0 value).all
      (Access.inside value.length (cString value).length) then
    (specCharConvers value).map cString
  else none

def getEncodeGbkUtf8 (head : EncodeGbk) (str : List Byte) : List Byte :=
  ((head.find? fun entry => entry.1 = str).map Prod.snd).getD str

/-- The characters of a number behind the spaces and the sign. -/
def unsigned (string : List Byte) : List Byte :=
  match string.dropWhile fun byte => byte = 0x20 ∨ 0x09 ≤ byte ∧ byte ≤ 0x0d with
  | 0x2d :: rest => rest
  | 0x2b :: rest => rest
  | string => string

def isDigit (byte : Byte) : Bool := (digit 10 byte).isSome

/-- `atoi` of an array, nothing when every character belongs to the number. -/
def atoiArray (array : List Byte) : Option Int :=
  if (unsigned array).all isDigit then none else some (atoi array)

def bssidTag : List Byte := bytes "bssid="
def reasonTag : List Byte := bytes "reason="
def ssidTag : List Byte := bytes "ssid=\""
def endTag : List Byte := bytes "\" auth_failures"
def idTag : List Byte := bytes "id="

def find (tag text : List Byte) : Option (List Byte) := Libc.strstr 0 tag text

variable (head : EncodeGbk) (connectBssid event : List Byte) (info : Info)

def disconnectedInfo : Option Info :=
  let copied :=
    match find bssidTag event with
    | some tag => strncpy info.bssid (tag.drop 6) 17
    | none => some info.bssid
  copied.bind fun bssid =>
    match find reasonTag event with
    | some tag =>
        (strncpy (List.replicate bufSize 0) (tag.drop 7) 2).bind fun buf =>
          (atoiArray buf).map fun reason => { info with bssid, reason }
    | none => some { info with bssid }

/-- The text between the first `ssid="` and the first `" auth_failures`. -/
def ssidInfo (start stop : List Byte) : Option Info := do
  let len : Int := start.length - stop.length - 6
  let value ← strncpy (List.replicate valueSize 0) (start.drop 6) len
  let sname ← specCharConversArray value
  let ssid ← strcpy info.ssid (getEncodeGbkUtf8 head (removeEscapeCharacter sname))
  some { info with ssid }

/-- The number behind the first `id=`; `start_tag` may be NULL. -/
def idInfo (start : Option (List Byte)) : Option Info :=
  match find idTag event with
  | none => some info
  | some tag => do
      let start ← start
      let len : Int := tag.length - 3 - start.length - 1
      let buf ← strncpy (List.replicate bufSize 0) (tag.drop 3) len
      let id ← atoiArray buf
      some { info with id }

/-- `strcpy(info->bssid, connect_info.bssid)` -/
def bssidInfo : Option Info := do
  let bssid ← strcpy info.bssid connectBssid
  some { info with bssid := bssid.set 19 0 }

def wrongKeyInfo : Option Info :=
  match find ssidTag event with
  | none => do
      let info ← idInfo event info none
      bssidInfo connectBssid info
  | some start =>
      match find endTag event with
      | none => some info
      | some stop => do
          let info ← ssidInfo head info start stop
          let info ← idInfo event info (some start)
          bssidInfo connectBssid info

def eventText : Ini.Text := event.map fun byte => Char.ofNat byte.toNat

/-- What `dispatch_event` calls `get_wifi_info_by_event` for, which leaves `info` as the status
has filled it otherwise. -/
def getWifiInfoByEvent : Option Info :=
  match Monitor.dispatchEvent (eventText event) with
  | .disconnected => disconnectedInfo event info
  | .wrongKey => wrongKeyInfo head connectBssid event info
  | _ => some info

end Source

section Fields

/-! The fields of an event are words outside the quotes. -/

/-- The first word for which the test holds; a backslash between quotes takes the next
character with it. -/
def firstField (isField : List Byte → Bool) : Bool → Bool → List Byte → Option (List Byte)
  | _, _, [] => none
  | word, quoted, byte :: rest =>
      if quoted then
        if byte = backslash then
          match rest with
          | [] => none
          | _ :: rest => firstField isField false true rest
        else firstField isField false (byte ≠ quote) rest
      else if word ∧ isField (byte :: rest) then some (byte :: rest)
      else firstField isField (byte = 0x20) (byte = quote) rest

def quotedText : List Byte → List Byte
  | [] => []
  | byte :: rest =>
      if byte = quote then []
      else if byte = backslash then
        match rest with
        | [] => [byte]
        | next :: rest => byte :: next :: quotedText rest
      else byte :: quotedText rest

def isSsid (field : List Byte) : Bool := ssidTag.isPrefixOf field

def isId (field : List Byte) : Bool :=
  idTag.isPrefixOf field && (field.drop 3).head?.any isDigit

def ssidField (event : List Byte) : Option (List Byte) := firstField isSsid true false event

def idField (event : List Byte) : Option (List Byte) := firstField isId true false event

def decoded (text : List Byte) : List Byte :=
  ((specCharConvers (text ++ [0, 0, 0])).map cString).getD []

/-- The name for an escaped text, in UTF-8 as far as the scan has seen it. -/
def nameOf (head : EncodeGbk) (text : List Byte) : List Byte :=
  cString (getEncodeGbkUtf8 head (removeEscapeCharacter (decoded text)))

end Fields

section Claim

def Info.Sized (info : Info) : Prop :=
  info.bssid.length = bssidBufLen ∧ info.ssid.length = ssidBufLen

variable (head : EncodeGbk) (connectBssid : List Byte) (event : Event)

def Event.dispatched : Monitor.Dispatched := Monitor.dispatchEvent (eventText event.text)

/-- No pointer that is used is NULL, and every access is inside its array. -/
def Inside : Prop :=
  ∀ info : Info, info.Sized → (getWifiInfoByEvent head connectBssid event.text info).isSome

/-- The name and the number are those of the first such fields, or as before without one. -/
def SetsFields : Prop :=
  event.dispatched = .disconnected ∨ event.dispatched = .wrongKey →
    ∀ info after : Info, info.Sized →
      getWifiInfoByEvent head connectBssid event.text info = some after →
        (∀ field, ssidField event.text = some field →
          cString after.ssid = nameOf head (quotedText (field.drop 6))) ∧
        (ssidField event.text = none → after.ssid = info.ssid) ∧
        (∀ field, idField event.text = some field → after.id = number 10 (field.drop 3)) ∧
        (idField event.text = none → after.id = info.id)

/-- What an escape at the end lacks. -/
def cutShort (text : List Byte) : Nat := if [backslash, 0x78] <:+ text then 2 else 1

/-- The text ends in its array, and so does an escape that is cut off; one with fewer than four
characters has no room in `buf_temp`. -/
def Decodes (size : Nat) (text : List Byte) : Prop :=
  text.length < size ∧ (Whole text ∨ text.length + cutShort text < size) ∧
    ([backslash, 0x78] <:+: text → 4 ≤ text.length)

/-- From the first `ssid="` to the first `" auth_failures`. -/
def between (start stop : List Byte) : List Byte :=
  (start.drop 6).take (start.length - stop.length - 6)

/-- The end is behind the beginning, and the text and the name fit into the arrays. -/
def SsidFits (start stop : List Byte) : Prop :=
  stop.length + 6 ≤ start.length ∧ Decodes valueSize (between start stop) ∧
    (nameOf head (between start stop)).length < ssidBufLen

/-- The characters between `id=` and the one before `ssid="` fit into the array and do not
fill it with a number. -/
def IdFits (start tag : List Byte) : Prop :=
  start.length + 4 ≤ tag.length ∧ tag.length ≤ start.length + 4 + bufSize ∧
    (tag.length = start.length + 4 + bufSize →
      ∃ byte ∈ unsigned ((tag.drop 3).take bufSize), isDigit byte = false)

structure TagsFit : Prop where
  /-- Without a name there is no other tag. -/
  noSsid : find ssidTag event.text = none → find idTag event.text = none
  ssid : ∀ start ∈ find ssidTag event.text, ∀ stop ∈ find endTag event.text,
    SsidFits head start stop
  id : ∀ start ∈ find ssidTag event.text, ∀ tag ∈ find idTag event.text,
    (find endTag event.text).isSome → IdFits start tag
  bssid : find ssidTag event.text = none ∨ (find endTag event.text).isSome →
    (cString connectBssid).length < bssidBufLen

/-- The tags that are found are those of the fields, and the end is that of the name; an event
that is not handed to `get_wifi_info_by_event` needs nothing. -/
def FieldsFound : Prop :=
  (event.dispatched = .wrongKey ∧
    ∃ start ∈ find ssidTag event.text, ∃ stop ∈ find endTag event.text,
      ∃ tag ∈ find idTag event.text,
        ssidField event.text = some start ∧ idField event.text = some tag ∧
          quotedText (start.drop 6) = between start stop ∧
          start.length + 4 + ((tag.drop 3).takeWhile isDigit).length ≤
            tag.length ∧
          number 10 (tag.drop 3) ≤ 2147483647) ∨
    ssidField event.text = none ∧ idField event.text = none ∧
      (event.dispatched = .wrongKey → find ssidTag event.text = none ∨
        find endTag event.text = none) ∨
    event.dispatched ≠ .disconnected ∧ event.dispatched ≠ .wrongKey

end Claim

end Rkipc.Wifi
