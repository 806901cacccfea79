import Mathlib.Data.List.Forall2

namespace Rkipc.Libc.Json

/-! JSON texts, as bytes: arrays of objects whose members are strings and whole numbers, without
white space between the tokens. -/

abbrev Bytes := List (BitVec 8)

def quote : BitVec 8 := 0x22
def backslash : BitVec 8 := 0x5c
def comma : BitVec 8 := 0x2c
def colon : BitVec 8 := 0x3a

/-- The byte that a letter behind the backslash stands for. -/
def unescape (char : BitVec 8) : Option (BitVec 8) :=
  if char = quote ∨ char = backslash ∨ char = 0x2f then some char
  else if char = 0x62 then some 0x08
  else if char = 0x66 then some 0x0c
  else if char = 0x6e then some 0x0a
  else if char = 0x72 then some 0x0d
  else if char = 0x74 then some 0x09
  else none

/-- A byte that stands for itself in a string. -/
def Unescaped (byte : BitVec 8) : Prop := 0x20 ≤ byte ∧ byte ≠ quote ∧ byte ≠ backslash

instance (byte : BitVec 8) : Decidable (Unescaped byte) := by
  unfold Unescaped
  infer_instance

/-- What is between the quotes of a string; escapes of four digits are left out. -/
inductive Body : Bytes → Bytes → Prop
  | nil : Body [] []
  | plain {byte : BitVec 8} {value text : Bytes} :
      Unescaped byte → Body value text → Body (byte :: value) (byte :: text)
  | escape {char byte : BitVec 8} {value text : Bytes} :
      unescape char = some byte → Body value text →
        Body (byte :: value) (backslash :: char :: text)

inductive Scalar
  | string (value : Bytes)
  | number (value : Int)
deriving DecidableEq

def numberText (value : Int) : Bytes :=
  (if value < 0 then '-' :: Nat.toDigits 10 value.natAbs else Nat.toDigits 10 value.natAbs).map
    fun char => BitVec.ofNat 8 char.toNat

def IsString (value text : Bytes) : Prop :=
  ∃ body, Body value body ∧ text = quote :: body ++ [quote]

def IsScalar : Scalar → Bytes → Prop
  | .string value, text => IsString value text
  | .number value, text => text = numberText value

/-- A name with its value. -/
abbrev Member := Bytes × Scalar

def IsMember (member : Member) (text : Bytes) : Prop :=
  ∃ name value, IsString member.1 name ∧ IsScalar member.2 value ∧ text = name ++ colon :: value

section Sequences

variable {α : Type u} {β : Type v} (Is : α → Bytes → Prop)

/-- The texts of the values with commas between them. -/
def IsSequence (values : List α) (text : Bytes) : Prop :=
  ∃ parts, List.Forall₂ Is values parts ∧ text = [comma].intercalate parts

def IsObject (members : List Member) (text : Bytes) : Prop :=
  ∃ body, IsSequence IsMember members body ∧ text = 0x7b :: body ++ [0x7d]

def IsArray (objects : List (List Member)) (text : Bytes) : Prop :=
  ∃ body, IsSequence IsObject objects body ∧ text = 0x5b :: body ++ [0x5d]

end Sequences

variable {value text other : Bytes}

theorem Body.append {second : Bytes} (first : Body value text) (rest : Body second other) :
    Body (value ++ second) (text ++ other) := by
  induction first with
  | nil => exact rest
  | plain isPlain _ induction => exact .plain isPlain induction
  | escape isEscape _ induction => exact .escape isEscape induction

theorem body_self (all : ∀ byte ∈ text, Unescaped byte) : Body text text := by
  induction text with
  | nil => exact .nil
  | cons byte text induction =>
    obtain ⟨first, all⟩ := List.forall_mem_cons.mp all
    exact .plain first (induction all)

/-- Where each text has a comma behind it, the last of them is too many. -/
theorem flatMap_comma (parts : List Bytes) (nonempty : parts ≠ []) :
    parts.flatMap (fun part => part ++ [comma]) = [comma].intercalate parts ++ [comma] := by
  induction parts with
  | nil => exact absurd rfl nonempty
  | cons part parts induction =>
    cases parts with
    | nil => simp [List.intercalate]
    | cons next parts =>
      rw [List.flatMap_cons, induction (List.cons_ne_nil _ _)]
      simp [List.intercalate, List.intersperse]

theorem comma_of_members {first second : Member} {rest : List Member}
    (isObject : IsObject (first :: second :: rest) text) : comma ∈ text := by
  obtain ⟨body, ⟨parts, all, rfl⟩, rfl⟩ := isObject
  cases all with
  | cons _ all =>
    cases all with
    | cons _ _ => simp [List.intercalate, List.intersperse]

end Rkipc.Libc.Json
