import Mathlib.Logic.Function.Basic

namespace Rkipc.Libc

/-! Writes one after the other: at each place the last one stays. -/

section LastWrite

variable {ι : Type u} {α : Type v} {γ : Type w} [DecidableEq ι]

def written (memory : ι → α) : List (ι × α) → ι → α
  | [] => memory
  | write :: rest => written (Function.update memory write.1 write.2) rest

def lastWrite (place : ι) : List (ι × α) → Option α
  | [] => none
  | write :: rest =>
      (lastWrite place rest).or (if write.1 = place then some write.2 else none)

variable {memory : ι → α} {writes : List (ι × α)} {place : ι}

theorem written_apply :
    written memory writes place = (lastWrite place writes).getD (memory place) := by
  induction writes generalizing memory with
  | nil => rfl
  | cons write rest induction =>
      rw [written, induction, lastWrite]
      cases lastWrite place rest with
      | some val => rfl
      | none =>
          rw [Option.none_or, Option.getD_none]
          by_cases same : write.1 = place
          · rw [if_pos same, Option.getD_some, ← same, Function.update_self]
          · rw [if_neg same, Option.getD_none, Function.update_of_ne (Ne.symm same)]

theorem lastWrite_append (first rest : List (ι × α)) :
    lastWrite place (first ++ rest) = (lastWrite place rest).or (lastWrite place first) := by
  induction first with
  | nil => rw [List.nil_append, lastWrite, Option.or_none]
  | cons write first induction =>
      rw [List.cons_append, lastWrite, lastWrite, induction, Option.or_assoc]

variable {body : γ → List (ι × α)} {members : List γ}

theorem lastWrite_flatMap_none
    (others : ∀ member ∈ members, lastWrite place (body member) = none) :
    lastWrite place (members.flatMap body) = none := by
  induction members with
  | nil => rfl
  | cons member members induction =>
      obtain ⟨first, others⟩ := List.forall_mem_cons.mp others
      rw [List.flatMap_cons, lastWrite_append, induction others, Option.none_or, first]

theorem lastWrite_flatMap_single {member : γ} (isIn : member ∈ members)
    (others : ∀ other ∈ members, other ≠ member → lastWrite place (body other) = none) :
    lastWrite place (members.flatMap body) = lastWrite place (body member) := by
  induction members with
  | nil => cases isIn
  | cons first members induction =>
      obtain ⟨isFirst, others⟩ := List.forall_mem_cons.mp others
      rw [List.flatMap_cons, lastWrite_append]
      by_cases later : member ∈ members
      · rw [induction later others]
        by_cases same : first = member
        · rw [same, Option.or_self]
        · rw [isFirst same, Option.or_none]
      · have same : member = first := (List.mem_cons.mp isIn).resolve_right later
        have nothing : lastWrite place (members.flatMap body) = none :=
          lastWrite_flatMap_none fun other isOther =>
            others other isOther fun isMember => later (isMember ▸ isOther)
        rw [nothing, Option.none_or, same]

end LastWrite

end Rkipc.Libc
