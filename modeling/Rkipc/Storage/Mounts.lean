import Rkipc.Ini.Iniparser
import Rkipc.Storage.Listener

namespace Rkipc.Storage.Mounts

open Ini Libc Listener

/-! The lookups in `/proc/mounts`. -/

def maxStrlineLen : Nat := 1024

def rkipcMaxFilePathLen : Nat := 256

/-- A string that `fgets` leaves in `strLine`, and the number of the line it is of. -/
structure Piece where
  line : Nat
  text : Text
deriving DecidableEq

def holds (key text : Text) : Bool := (strstr nul key text).isSome

/-- Whether `fgets` has met the end of the file. -/
def feof (text : Text) : Bool :=
  text.getLast? ≠ some '\n' && text.length < maxStrlineLen - 1

/-- The loop until `strstr` finds the key; at the end of the file `strLine` stays as it is. -/
def searchLoop (key : Text) : Nat → Piece → Nat → Text → Option Piece
  | 0, _, _, _ => none
  | fuel + 1, strLine, number, content =>
      match fgets maxStrlineLen content with
      | none => if holds key strLine.text then some strLine else none
      | some (text, rest) =>
          if holds key text then some ⟨number, text⟩
          else if feof text then none
          else searchLoop key fuel ⟨number, text⟩ (number + text.count '\n') rest

def search (key strLine content : Text) : Option Piece :=
  searchLoop key (content.length + 1) ⟨0, strLine⟩ 0 content

/-- `undefined` is a write behind a buffer or a use of NULL. -/
inductive Lookup (α : Type)
  | undefined
  | fails (ret : Int)
  | found (value : α)
deriving DecidableEq

def Lookup.map (f : α → β) : Lookup α → Lookup β
  | .undefined => .undefined
  | .fails ret => .fails ret
  | .found value => .found (f value)

/-- The first piece with the key decides. -/
def lookup (use : Text → Lookup α) (key strLine content : Text) : Lookup (Nat × α) :=
  (search key strLine content).elim (.fails (-1)) fun piece =>
    (use piece.text).map fun value => (piece.line, value)

/-- The words of a string, as `%s` reads them. -/
def wordsFrom (word : Text) : Text → List Text
  | [] => if word = [] then [] else [word]
  | char :: rest =>
      if isspace char then (if word = [] then [] else [word]) ++ wordsFrom [] rest
      else wordsFrom (word ++ [char]) rest

def words (string : Text) : List Text := wordsFrom [] string

/-- The buffers behind `dev`, `type` and `attributes`. -/
structure Attr where
  dev : Text
  type : Text
  attributes : Text
deriving DecidableEq

structure Room where
  dev : Nat
  type : Nat
  attributes : Nat

def fits (room : Room) (string : Text) : Bool :=
  ((words string).zip [room.dev, rkipcMaxFilePathLen, room.type, room.attributes]).all
    fun entry => entry.1.length < entry.2

/-- `sscanf(strLine, "%s %s %s %s", dev, MountPath, type, attributes)` -/
def scan (room : Room) (before : Attr) (strLine : Text) : Lookup Attr :=
  let string := cString nul strLine
  if fits room string then
    .found
      { dev := (words string)[0]?.getD before.dev
        type := (words string)[2]?.getD before.type
        attributes := (words string)[3]?.getD before.attributes }
  else .undefined

def getMountDev (room : Room) (before : Attr) (path strLine content : Text) :
    Lookup (Nat × Attr) :=
  lookup (scan room before) path strLine content

def pathFits (pathLen : Nat) (path : Text) : Bool := 0 < path.length && path.length < pathLen

/-- The text between the first two blanks. -/
def between (strLine : Text) : Option Text :=
  (strstr nul [' '] strLine).bind fun first =>
    (strstr nul [' '] (first.drop 1)).map fun second =>
      (first.drop 1).take (first.length - 1 - second.length)

def copyPath (pathLen : Nat) (strLine : Text) : Lookup Text :=
  (between strLine).elim .undefined fun path =>
    if pathFits pathLen path then .found path else .fails (-2)

def getMountPath (pathLen : Nat) (dev strLine content : Text) : Lookup (Nat × Text) :=
  lookup (copyPath pathLen) dev strLine content

section Table

def lines : Text → List Text
  | [] => []
  | char :: rest =>
      if char = '\n' then [char] :: lines rest
      else
        match lines rest with
        | [] => [[char]]
        | line :: more => (char :: line) :: more

def device (line : Text) : Option Text := (words line)[0]?

def mountPoint (line : Text) : Option Text := (words line)[1]?

def first (isAsked : Text → Bool) (content : Text) : Option (Text × Nat) :=
  (lines content).zipIdx.find? (isAsked ∘ Prod.fst)

/-- The number of that line, and what is asked of it. -/
def wanted (isAsked : Text → Bool) (value : Text → Option Text) (content : Text) :
    Option (Nat × Text) :=
  (first isAsked content).bind fun entry => (value entry.1).map fun text => (entry.2, text)

/-- What a lookup has to come to. -/
def Right (isFailure : Int → Prop) (get : α → Text) (wanted : Option (Nat × Text)) :
    Lookup (Nat × α) → Prop
  | .undefined => False
  | .fails ret => isFailure ret ∧ wanted = none
  | .found (line, value) => wanted = some (line, get value)

def isMountedAt (path line : Text) : Bool := mountPoint line = some path

def isOfDevice (dev line : Text) : Bool := device line = some dev

def fittingMountPoint (pathLen : Nat) (line : Text) : Option Text :=
  (mountPoint line).filter (pathFits pathLen)

def DevRight (room : Room) (before : Attr) (path strLine content : Text) : Prop :=
  Right (· = -1) Attr.dev (wanted (isMountedAt path) device content)
    (getMountDev room before path strLine content)

def PathRight (pathLen : Nat) (dev strLine content : Text) : Prop :=
  Right (· < 0) id (wanted (isOfDevice dev) (fittingMountPoint pathLen) content)
    (getMountPath pathLen dev strLine content)

end Table

end Rkipc.Storage.Mounts
