import Mathlib.Logic.Function.Basic

namespace Rkipc.Libc

/-! Blocks of memory that are allocated for an owner, filled, handed over and freed. -/

inductive Pointer
  | uninit
  | null
  | block (number : Nat)
deriving DecidableEq

/-- `write` is any access to the memory, `fill` the one that makes it the owner's, and
`pass` hands it to somebody who reads it. -/
inductive MemoryEvent (ω : Type u)
  | malloc (number : Nat) (owner : ω)
  | write (pointer : Pointer)
  | fill (pointer : Pointer) (owner : ω)
  | pass (pointer : Pointer) (owner : ω)
  | free (pointer : Pointer)
deriving DecidableEq

inductive BlockStatus (ω : Type u)
  | fresh
  | allocated (owner : ω) (filled : Bool)
  | freed
deriving DecidableEq

abbrev Blocks (ω : Type u) := Nat → BlockStatus ω

namespace Blocks

variable {ω : Type u} [DecidableEq ω]

def start : Blocks ω := fun _ => .fresh

/-- An event that is in order, with what it makes of the block. -/
def handle (blocks : Blocks ω) : MemoryEvent ω → Option (Blocks ω)
  | .malloc number owner =>
      match blocks number with
      | .fresh => some (Function.update blocks number (.allocated owner false))
      | _ => none
  | .write (.block number) =>
      match blocks number with
      | .allocated _ _ => some blocks
      | _ => none
  | .fill (.block number) owner =>
      match blocks number with
      | .allocated holder _ =>
          if holder = owner then some (Function.update blocks number (.allocated owner true))
          else none
      | _ => none
  | .pass (.block number) owner =>
      if blocks number = .allocated owner true then some blocks else none
  | .free (.block number) =>
      match blocks number with
      | .allocated _ _ => some (Function.update blocks number .freed)
      | _ => none
  | _ => none

def run (blocks : Blocks ω) : List (MemoryEvent ω) → Option (Blocks ω)
  | [] => some blocks
  | event :: rest => (blocks.handle event).bind fun next => next.run rest

/-- Every event is in order and at the end nothing is allocated. -/
def Owned (blocks : Blocks ω) (events : List (MemoryEvent ω)) : Prop :=
  ∃ last, blocks.run events = some last ∧
    ∀ number owner filled, last number ≠ .allocated owner filled

variable {blocks : Blocks ω} {first rest : List (MemoryEvent ω)} {owner : ω}
  {pointer : Pointer}

theorem run_append : blocks.run (first ++ rest) =
    (blocks.run first).bind fun next => next.run rest := by
  induction first generalizing blocks with
  | nil => rfl
  | cons event first induction =>
      rw [List.cons_append, run, run]
      cases blocks.handle event with
      | none => rfl
      | some next => exact induction

theorem owned_append : blocks.Owned (first ++ rest) ↔
    ∃ next, blocks.run first = some next ∧ next.Owned rest := by
  rw [Owned, run_append]
  cases blocks.run first with
  | none => simp
  | some next => simp [Owned]

theorem run_pass_of_nothing (nothing : ∀ number, blocks number ≠ .allocated owner true) :
    blocks.run (.pass pointer owner :: rest) = none := by
  cases pointer with
  | uninit => rfl
  | null => rfl
  | block number => rw [run, handle, if_neg (nothing number), Option.bind_none]

end Blocks

end Rkipc.Libc
