import Mathlib.Data.List.DropRight
import Rkipc.Ini.Dictionary

namespace Rkipc.Ini

/-! The reader and the writer of ini files. -/

def isspace (char : Char) : Bool :=
  char = ' ' || (9 ≤ char.toNat && char.toNat ≤ 13)

def strlwc (string : Text) (len : Nat) : Text :=
  (string.take (len - 1)).map Char.toLower

def strstrip (string : Text) : Text :=
  (string.dropWhile isspace).rdropWhile isspace

namespace Dictionary

def entries (d : Dictionary) : List Slot := d.slots.filterMap id

/-- The entries that `iniparser_getnsec` counts: their keys have no colon. -/
def sections (d : Dictionary) : List Text :=
  (d.entries.map Slot.key).filter fun key => !key.contains ':'

end Dictionary

def iniparserGetnsec (d : Dictionary) : Nat := d.sections.length

/-- NULL for a dictionary that is NULL. -/
def iniparserGetstring (d : Option Dictionary) (key : Text)
    (default : Option Text) : Option Text :=
  match d with
  | none => default
  | some d => dictionaryGet d (strlwc key 1025) default

def iniparserFindEntry (d : Dictionary) (entry : Text) : Bool :=
  (dictionaryFind d (strlwc entry 1025)).isSome

def iniparserSet (d : Dictionary) (entry : Text) (val : Option Text) :
    Dictionary :=
  dictionarySet d (strlwc entry 1025) val

def iniparserUnset (d : Dictionary) (entry : Text) : Dictionary :=
  dictionaryUnset d (strlwc entry 1025)

/-! The writer. -/

/-- `%-30s = %s` and a newline. -/
def keyLine (key val : Text) : Text :=
  key.rightpad 30 ' ' ++ " = ".toList ++ val ++ ['\n']

def sectionLine (s : Text) : Text := '[' :: s ++ [']', '\n']

/-- The entries whose key begins with the section and a colon. -/
def Dictionary.inSection (d : Dictionary) (s : Text) : List Slot :=
  d.entries.filter fun slot => (s ++ [':']).isPrefixOf slot.key

def iniparserDumpsectionIni (d : Dictionary) (s : Text) : Text :=
  if iniparserFindEntry d s then
    '\n' :: sectionLine s ++
      (d.inSection s).flatMap (fun slot =>
        keyLine (slot.key.drop (s.length + 1)) (slot.val.getD [])) ++ ['\n']
  else []

/-- Without a section all keys are written as they are. -/
def iniparserDumpIni (d : Dictionary) : Text :=
  if iniparserGetnsec d < 1 then
    d.entries.flatMap fun slot =>
      slot.key ++ " = ".toList ++ slot.val.getD "(null)".toList ++ ['\n']
  else d.sections.flatMap (iniparserDumpsectionIni d) ++ ['\n']

/-! The reader. -/

/-- What `%[^=] = ` leaves: the key and the text behind the `=`. -/
def scanKey (line : Text) : Option (Text × Text) :=
  match line.takeWhile (· ≠ '='), line.dropWhile (· ≠ '=') with
  | [], _ => none
  | _ :: _, [] => none
  | char :: key, _ :: rest => some (char :: key, rest.dropWhile isspace)

/-- A scan set takes at least one character. -/
def scanSet (set : Char → Bool) (text : Text) : Option Text :=
  match text.takeWhile set with
  | [] => none
  | char :: chars => some (char :: chars)

/-- `%[^=] = "%[^"]"`, or the same with another quote. -/
def scanQuoted (quote : Char) (line : Text) : Option (Text × Text) :=
  (scanKey line).bind fun (key, rest) =>
    match rest with
    | [] => none
    | char :: rest =>
        if char = quote then (scanSet (· ≠ quote) rest).map fun val => (key, val)
        else none

/-- `%[^=] = %[^;#]` -/
def scanPlain (line : Text) : Option (Text × Text) :=
  (scanKey line).bind fun (key, rest) =>
    (scanSet (fun char => char ≠ ';' && char ≠ '#') rest).map fun val => (key, val)

/-- `%[^=] = %[;#]`, or `%[^=] %[=]` -/
def scanEmpty (line : Text) : Option Text := (scanKey line).map Prod.fst

/-- The states of a line that `iniparser_load` distinguishes. -/
inductive Line
  | empty
  | comment
  | section (name : Text)
  | value (key val : Text)
  | error
deriving DecidableEq

/-- The line without blanks around it; `old` is what the section buffer holds. -/
def strippedLine (old line : Text) : Line :=
  let len := line.length
  if len < 1 then .empty
  else if line.head? = some '#' ∨ line.head? = some ';' then .comment
  else if line.head? = some '[' ∧ line.getLast? = some ']' then
    let name := (scanSet (· ≠ ']') (line.drop 1)).getD old
    .section (strlwc (strstrip name) len)
  else
    match (scanQuoted '"' line).or (scanQuoted '\'' line) with
    | some (key, val) => .value (strlwc (strstrip key) len) val
    | none =>
        match scanPlain line with
        | some (key, val) =>
            let val := strstrip val
            .value (strlwc (strstrip key) len)
              (if val = ['"', '"'] ∨ val = ['\'', '\''] then [] else val)
        | none =>
            match scanEmpty line with
            | some key => .value (strlwc (strstrip key) len) []
            | none => .error

def iniparserLine (old line : Text) : Line := strippedLine old (strstrip line)

/-- At most `count` characters, up to a newline. -/
def takeLine : Nat → Text → Text × Text
  | 0, input => ([], input)
  | _ + 1, [] => ([], [])
  | count + 1, char :: input =>
      if char = '\n' then ([char], input)
      else
        let (line, rest) := takeLine count input
        (char :: line, rest)

/-- `fgets` into a buffer of this size; NULL at the end of the file. -/
def fgets (size : Nat) (input : Text) : Option (Text × Text) :=
  if size ≤ 1 then some ([], input)
  else if input = [] then none
  else some (takeLine (size - 1) input)

/-- The variables of `iniparser_load`; `kept` is the buffer up to `last`. -/
structure Loading where
  dict : Dictionary
  name : Text
  kept : Text
  errs : Nat
deriving DecidableEq

def Loading.start : Loading := ⟨dictionaryNew 0, [], [], 0⟩

/-- The `switch` over the state of a line. -/
def Loading.enter (loading : Loading) (line : Text) : Loading :=
  match iniparserLine loading.name line with
  | .empty | .comment => { loading with kept := [] }
  | .section name =>
      { loading with
        dict := dictionarySet loading.dict name none, name := name, kept := [] }
  | .value key val =>
      { loading with
        dict := dictionarySet loading.dict (loading.name ++ ':' :: key) (some val)
        kept := [] }
  | .error => { loading with errs := loading.errs + 1, kept := [] }

/-- The body of the loop after `fgets`; `none` where a line is too long. -/
def Loading.next (loading : Loading) (taken : Text) (feof : Bool) :
    Option Loading :=
  let line := loading.kept ++ taken
  if line.length ≤ 1 then some loading
  else if line.getLast? ≠ some '\n' ∧ feof = false then none
  else
    let line := line.rdropWhile isspace
    if line.getLast? = some '\\' then some { loading with kept := line.dropLast }
    else some (loading.enter line)

def Loading.finish (loading : Loading) : Option Dictionary :=
  if loading.errs = 0 then some loading.dict else none

def Loading.loop : Nat → Loading → Text → Option Dictionary
  | 0, loading, _ => loading.finish
  | fuel + 1, loading, input =>
      let size := 1024 - loading.kept.length
      match fgets size input with
      | none => loading.finish
      | some (taken, rest) =>
          let feof := taken.getLast? ≠ some '\n' ∧ taken.length < size - 1
          match loading.next taken feof with
          | none => none
          | some loading => loop fuel loading rest

/-- Every pass takes a character of the file. -/
def iniparserLoad (file : Text) : Option Dictionary :=
  Loading.start.loop (file.length + 1) file

end Rkipc.Ini
