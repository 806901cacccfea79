import Mathlib.Data.List.Basic

namespace Rkipc.Shell

/-! How a POSIX shell takes a line apart into words. -/

/-- A character of a word: itself, or one that may stand for others in a file's name. -/
inductive Symbol
  | literal (char : Char)
  | pattern (char : Char)
deriving DecidableEq

def Symbol.char : Symbol → Char
  | .literal char => char
  | .pattern char => char

/-- An argument, the file behind `>>`, or `&`. -/
inductive Token
  | word (symbols : List Symbol)
  | append (file : List Char)
  | background
deriving DecidableEq

inductive Mode
  | unquoted
  | backslash
  | single
  | double
  | doubleBackslash
  | greater
  | ended
deriving DecidableEq

/-- What has been read: the tokens that are complete, the word that is not, and whether
it is the file of an append. -/
structure Reading where
  tokens : List Token
  word : Option (List Symbol)
  target : Bool
  mode : Mode
deriving DecidableEq

/-- The characters that are not part of a word as they stand. -/
def special : List Char :=
  [' ', '\t', '\n', '>', '&', ';', '|', '<', '(', ')', '$', '\u0060', '\\', '\'', '"']

def patterns : List Char := ['*', '?', '[']

/-- What a character stands for that is not quoted.  Every `[` is taken for the beginning of a
pattern, also where no `]` comes behind it and a shell would leave it. -/
def symbol (char : Char) : Symbol :=
  if char ∈ patterns then .pattern char else .literal char

namespace Reading

def start : Reading := ⟨[], none, false, .unquoted⟩

def close (reading : Reading) : Reading :=
  match reading.word with
  | none => reading
  | some word =>
      { reading with
        tokens := reading.tokens ++
          [if reading.target then .append (word.map Symbol.char) else .word word]
        word := none
        target := false }

def push (reading : Reading) (symbol : Symbol) : Reading :=
  { reading with word := some (reading.word.getD [] ++ [symbol]) }

/-- A file's name is missing behind `>>`. -/
def waits (reading : Reading) : Bool := reading.target && reading.word.isNone

/-- The number of a file descriptor in front of `>`. -/
def isNumber (reading : Reading) : Bool :=
  reading.word.any fun word => word ≠ [] ∧ word.all fun symbol => symbol.char.isDigit

/-- There is no reading where the line is not one command of words, files and a last `&`,
or where the words depend on more than the line: `$`, backquotes and `~`. Reserved words and
assignments in front are taken as names of programs. -/
def unquoted (reading : Reading) (char : Char) : Option Reading :=
  if char ∈ [' ', '\t'] then some reading.close
  else if char = '\n' then
    if reading.waits then none else some { reading.close with mode := .ended }
  else if char = '>' then
    if reading.isNumber then none else some { reading.close with mode := .greater }
  else if char = '&' then
    if reading.waits ∨ reading.close.tokens = [] then none
    else
      some { reading.close with
        tokens := reading.close.tokens ++ [.background]
        mode := .ended }
  else if char = '\\' then some { reading with mode := .backslash }
  else if char = '\'' then
    some { reading with word := some (reading.word.getD []), mode := .single }
  else if char = '"' then
    some { reading with word := some (reading.word.getD []), mode := .double }
  else if char ∈ special then none
  else if reading.word = none ∧ char ∈ ['#', '~'] then none
  else some (reading.push (symbol char))

def step (reading : Reading) (char : Char) : Option Reading :=
  match reading.mode with
  | .unquoted => reading.unquoted char
  | .backslash =>
      if char = '\n' then some { reading with mode := .unquoted }
      else some { reading.push (.literal char) with mode := .unquoted }
  | .single =>
      if char = '\'' then some { reading with mode := .unquoted }
      else some (reading.push (.literal char))
  | .double =>
      if char = '"' then some { reading with mode := .unquoted }
      else if char = '\\' then some { reading with mode := .doubleBackslash }
      else if char ∈ ['$', '\u0060'] then none
      else some (reading.push (.literal char))
  | .doubleBackslash =>
      if char = '\n' then some { reading with mode := .double }
      else if char ∈ ['$', '\u0060', '"', '\\'] then
        some { reading.push (.literal char) with mode := .double }
      else some { (reading.push (.literal '\\')).push (.literal char) with mode := .double }
  | .greater =>
      if char = '>' ∧ reading.target = false then
        some { reading with target := true, mode := .unquoted }
      else none
  | .ended => if char ∈ [' ', '\t', '\n'] then some reading else none

def run (reading : Reading) : List Char → Option Reading
  | [] => some reading
  | char :: rest => (reading.step char).bind fun next => next.run rest

def finish (reading : Reading) : Option (List Token) :=
  if reading.mode ∈ [.unquoted, .ended] ∧ reading.waits = false ∧ reading.close.tokens ≠ [] then
    some reading.close.tokens
  else none

end Reading

def read (line : List Char) : Option (List Token) :=
  (Reading.start.run line).bind Reading.finish

example : read "cp \"a b\" c\\ d >>e*f &".toList =
    some [.word ("cp".toList.map .literal), .word ("a b".toList.map .literal),
      .word ("c d".toList.map .literal), .append "e*f".toList, .background] := by decide

end Rkipc.Shell
