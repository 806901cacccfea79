import Mathlib.Logic.Basic

namespace Rkipc.Transition

/-! Programs as lists of instructions, and what they need from the others before they
provide it themselves. -/

/-- What an instruction uses, makes available and takes away. -/
structure Effects (ι : Type u) (π : Type v) where
  uses : ι → π → Bool
  provides : ι → π → Bool
  removes : ι → π → Bool

namespace Effects

variable {ι : Type u} {π : Type v} (effects : Effects ι π)

def needs : List ι → π → Bool
  | [], _ => false
  | instr :: rest, item =>
      effects.uses instr item || (!effects.provides instr item && needs rest item)

/-- Nothing is needed again after it was taken away, unless it is provided first. -/
def Tidy : List ι → Prop
  | [] => True
  | instr :: rest =>
      (∀ item, effects.removes instr item = true → effects.needs rest item = false) ∧
        Tidy rest

/-- What the programs need is available. -/
def Covered (available : π → Bool) (programs : List (List ι)) : Prop :=
  ∀ program ∈ programs, ∀ item, effects.needs program item = true → available item = true

variable {effects} {first rest : List ι} {instr : ι} {item : π}

theorem needs_cons : effects.needs (instr :: rest) item = true ↔
    effects.uses instr item = true ∨
      effects.provides instr item = false ∧ effects.needs rest item = true := by
  rw [needs, Bool.or_eq_true, Bool.and_eq_true, Bool.not_eq_true']

theorem needs_of_rest (keeps : effects.provides instr item = false)
    (needed : effects.needs rest item = true) :
    effects.needs (instr :: rest) item = true :=
  needs_cons.mpr (.inr ⟨keeps, needed⟩)

theorem needs_append (needed : effects.needs (first ++ rest) item = true) :
    effects.needs first item = true ∨ effects.needs rest item = true := by
  induction first with
  | nil => exact .inr needed
  | cons instr first induction =>
      rcases needs_cons.mp needed with uses | ⟨keeps, later⟩
      · exact .inl (needs_cons.mpr (.inl uses))
      · rcases induction later with early | late
        · exact .inl (needs_of_rest keeps early)
        · exact .inr late

theorem exists_uses_of_needs (needed : effects.needs first item = true) :
    ∃ instr ∈ first, effects.uses instr item = true := by
  induction first with
  | nil => cases needed
  | cons instr first induction =>
      rcases needs_cons.mp needed with uses | ⟨_, later⟩
      · exact ⟨instr, List.mem_cons_self, uses⟩
      · obtain ⟨other, member, uses⟩ := induction later
        exact ⟨other, List.mem_cons_of_mem _ member, uses⟩

theorem Tidy.append (keeps : ∀ instr ∈ first, ∀ item, effects.removes instr item = false)
    (tidy : effects.Tidy rest) : effects.Tidy (first ++ rest) := by
  induction first with
  | nil => exact tidy
  | cons instr first induction =>
      refine ⟨fun item removes => ?_, induction fun other member =>
        keeps other (List.mem_cons_of_mem _ member)⟩
      rw [keeps instr List.mem_cons_self item] at removes
      cases removes

section Covered

variable {available after : π → Bool} {programs : List (List ι)} {thread : Nat}
  {next : List ι}

theorem Covered.mono (covered : effects.Covered available programs)
    (more : ∀ item, available item = true → after item = true) :
    effects.Covered after programs :=
  fun program member item needed => more item (covered program member item needed)

theorem Covered.append (covered : effects.Covered available programs)
    (fits : ∀ item, effects.needs next item = true → available item = true) :
    effects.Covered available (programs ++ [next]) := by
  intro program member
  rcases List.mem_append.mp member with old | new
  · exact covered program old
  · rw [List.mem_singleton.mp new]
    exact fits

theorem eq_or_mem_eraseIdx_of_mem_set {program : List ι}
    (member : program ∈ programs.set thread next) :
    program = next ∨ program ∈ programs.eraseIdx thread := by
  obtain ⟨index, inside, isProgram⟩ := List.mem_iff_getElem.mp member
  rw [List.length_set] at inside
  rw [List.getElem_set] at isProgram
  split at isProgram
  next => exact .inl isProgram.symm
  next distinct =>
    exact .inr (List.mem_eraseIdx_iff_getElem.mpr
      ⟨index, inside, Ne.symm distinct, isProgram⟩)

/-- One thread goes on, and what the others need is still available. -/
theorem Covered.set
    (others : effects.Covered after (programs.eraseIdx thread))
    (fits : ∀ item, effects.needs next item = true → after item = true) :
    effects.Covered after (programs.set thread next) := by
  intro program member
  rcases eq_or_mem_eraseIdx_of_mem_set member with rfl | other
  · exact fits
  · exact others program other

theorem Covered.erase (covered : effects.Covered available programs) :
    effects.Covered available (programs.eraseIdx thread) :=
  fun program member => covered program (List.mem_of_mem_eraseIdx member)

end Covered

end Effects

end Rkipc.Transition
