import Mathlib.Data.List.Nodup
import Mathlib.Logic.Function.Basic

namespace Rkipc.Linked

/-! Singly linked chains in a store of `next` links, with `none` as the null
link. -/

inductive Chain (next : α → Option α) : Option α → List α → Prop
  | nil : Chain next none []
  | cons {node : α} {rest : List α} :
      Chain next (next node) rest → Chain next (some node) (node :: rest)

namespace Chain

variable {next : α → Option α} {link : Option α} {nodes : List α}

@[simp] theorem nil_iff : Chain next link [] ↔ link = none := by
  constructor
  · intro chain
    cases chain
    rfl
  · rintro rfl
    exact .nil

@[simp] theorem cons_iff {node : α} {rest : List α} :
    Chain next link (node :: rest) ↔
      link = some node ∧ Chain next (next node) rest := by
  constructor
  · intro chain
    cases chain with
    | cons tail => exact ⟨rfl, tail⟩
  · rintro ⟨rfl, tail⟩
    exact .cons tail

theorem unique {others : List α} (chain : Chain next link nodes)
    (other : Chain next link others) : nodes = others := by
  induction chain generalizing others with
  | nil =>
      cases other
      rfl
  | cons _ induction =>
      cases other with
      | cons tail => rw [induction tail]

theorem congr {changed : α → Option α} (chain : Chain next link nodes)
    (agree : ∀ node ∈ nodes, changed node = next node) :
    Chain changed link nodes := by
  induction chain with
  | nil => exact .nil
  | @cons node rest _ induction =>
      refine .cons ?_
      rw [agree node List.mem_cons_self]
      exact induction fun other member =>
        agree other (List.mem_cons_of_mem _ member)

theorem next_mem {node successor : α} (chain : Chain next link nodes)
    (member : node ∈ nodes) (linked : next node = some successor) :
    successor ∈ nodes := by
  induction chain with
  | nil => contradiction
  | @cons head rest tail induction =>
      rcases List.mem_cons.mp member with rfl | member
      · cases rest with
        | nil => simp [nil_iff.mp tail] at linked
        | cons second rest =>
            have start := (cons_iff.mp tail).1
            rw [linked] at start
            cases start
            simp
      · exact List.mem_cons_of_mem _ (induction member)

theorem eq_append_of_next_none {node : α} (chain : Chain next link nodes)
    (member : node ∈ nodes) (ends : next node = none) :
    ∃ front, nodes = front ++ [node] := by
  induction chain with
  | nil => contradiction
  | @cons head rest tail induction =>
      rcases List.mem_cons.mp member with rfl | member
      · rw [ends] at tail
        cases tail
        exact ⟨[], rfl⟩
      · obtain ⟨front, rfl⟩ := induction member
        exact ⟨head :: front, rfl⟩

variable [DecidableEq α]

theorem update_of_notMem {node : α} {target : Option α}
    (chain : Chain next link nodes) (outside : node ∉ nodes) :
    Chain (Function.update next node target) link nodes :=
  chain.congr fun other member => by
    have differs : other ≠ node := by
      rintro rfl
      exact outside member
    exact Function.update_of_ne differs _ _

theorem append {front : List α} {tail fresh : α}
    (chain : Chain next link (front ++ [tail]))
    (distinct : (front ++ [tail]).Nodup) (outside : fresh ∉ front ++ [tail])
    (ends : next fresh = none) :
    Chain (Function.update next tail (some fresh)) link
      (front ++ [tail, fresh]) := by
  induction front generalizing link with
  | nil =>
      obtain ⟨rfl, _⟩ := cons_iff.mp chain
      have differs : fresh ≠ tail := by simpa using outside
      refine .cons ?_
      rw [Function.update_self]
      refine .cons ?_
      rw [Function.update_of_ne differs, ends]
      exact .nil
  | cons head front induction =>
      obtain ⟨rfl, rest⟩ := cons_iff.mp chain
      rw [List.cons_append, List.nodup_cons] at distinct
      have differs : head ≠ tail := by
        rintro rfl
        exact distinct.1 (by simp)
      refine .cons ?_
      rw [Function.update_of_ne differs]
      exact induction rest distinct.2 fun member =>
        outside (List.mem_cons_of_mem _ member)

end Chain

end Rkipc.Linked
