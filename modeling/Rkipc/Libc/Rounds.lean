import Mathlib.Data.Option.Basic

namespace Rkipc.Libc

/-! Loops whose rounds may each have no outcome. -/

section Rounds

variable {α β : Type} {round : α → Option β}

theorem mapM_eq_some_iff {entries : List α} {outcomes : List β} :
    entries.mapM round = some outcomes ↔ entries.map round = outcomes.map some := by
  induction entries generalizing outcomes with
  | nil => cases outcomes <;> simp
  | cons entry rest induction =>
      rw [List.mapM_cons, List.map_cons]
      cases outcomes with
      | nil =>
          cases round entry <;> cases rest.mapM round <;> simp
      | cons outcome others =>
          rw [List.map_cons, List.cons.injEq, ← induction]
          cases round entry <;> cases rest.mapM round <;> simp

theorem exists_mapM_iff {entries : List α} :
    (∃ outcomes, entries.mapM round = some outcomes) ↔
      ∀ entry ∈ entries, ∃ outcome, round entry = some outcome := by
  induction entries with
  | nil => exact iff_of_true ⟨[], rfl⟩ nofun
  | cons entry rest induction =>
      rw [List.forall_mem_cons, ← induction, List.mapM_cons]
      cases round entry <;> cases rest.mapM round <;> simp

theorem mapM_range_eq_some_iff {round : Nat → Option β} {count : Nat} {outcomes : List β} :
    (List.range count).mapM round = some outcomes ↔
      outcomes.length = count ∧ ∀ id < count, round id = outcomes[id]? := by
  rw [mapM_eq_some_iff]
  constructor
  · intro same
    have lengths := congrArg List.length same
    rw [List.length_map, List.length_map, List.length_range] at lengths
    refine ⟨lengths.symm, fun id less => ?_⟩
    have entry := congrArg (fun list => list[id]?) same
    simp only [List.getElem?_map, List.getElem?_range less, Option.map_some] at entry
    obtain ⟨outcome, isAt, isRound⟩ := Option.map_eq_some_iff.mp entry.symm
    rw [isAt, isRound]
  · rintro ⟨rfl, same⟩
    refine List.ext_getElem? fun id => ?_
    rcases Nat.lt_or_ge id outcomes.length with less | beyond
    · rw [List.getElem?_map, List.getElem?_map, List.getElem?_range less, Option.map_some,
        same id less, List.getElem?_eq_getElem less, Option.map_some]
    · rw [List.getElem?_eq_none (by simpa using beyond),
        List.getElem?_eq_none (by simpa using beyond)]

theorem exists_mapM_range {round : Nat → Option β} {count : Nat}
    (total : ∀ id < count, ∃ outcome, round id = some outcome) :
    ∃ outcomes, (List.range count).mapM round = some outcomes :=
  exists_mapM_iff.mpr fun id isIn => total id (List.mem_range.mp isIn)

theorem length_of_mapM {entries : List α} {outcomes : List β}
    (isOutcomes : entries.mapM round = some outcomes) : outcomes.length = entries.length := by
  have same := congrArg List.length (mapM_eq_some_iff.mp isOutcomes)
  rw [List.length_map, List.length_map] at same
  exact same.symm

end Rounds

end Rkipc.Libc
