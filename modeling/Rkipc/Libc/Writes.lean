import Mathlib.Data.List.Range

namespace Rkipc.Libc

/-! What the string functions of C write into arrays, and whether it fits. -/

/-- A write of the first `extent` bytes of an array or of some of them, the last one
among them; or an access to a pointer that is NULL, which ends the process. -/
inductive Action (β : Type u)
  | write (buffer : β) (extent : Nat)
  | fault
deriving DecidableEq

namespace Action

variable {β : Type u} {α : Type v}

/-- Every write before the first fault stays inside its array. -/
def Fits (size : β → Nat) : List (Action β) → Prop
  | [] => True
  | .write buffer extent :: rest => extent ≤ size buffer ∧ Fits size rest
  | .fault :: _ => True

def faults : List (Action β) → Bool
  | [] => false
  | .write _ _ :: rest => faults rest
  | .fault :: _ => true

variable {size : β → Nat} {first rest : List (Action β)} {buffer : β} {extent : Nat}

theorem fits_append : Fits size (first ++ rest) ↔
    Fits size first ∧ (faults first = false → Fits size rest) := by
  induction first with
  | nil => exact ⟨fun fits => ⟨trivial, fun _ => fits⟩, fun both => both.2 rfl⟩
  | cons action first induction =>
      cases action with
      | write buffer extent =>
          rw [List.cons_append, Fits, Fits, faults, induction, and_assoc]
      | fault => exact ⟨fun _ => ⟨trivial, Bool.noConfusion⟩, fun _ => trivial⟩

theorem faults_append : faults (first ++ rest) = (faults first || faults rest) := by
  induction first with
  | nil => rfl
  | cons action first induction =>
      cases action with
      | write buffer extent => exact induction
      | fault => rfl

theorem faults_flatMap {members : List α} {body : α → List (Action β)} :
    faults (members.flatMap body) = false ↔
      ∀ member ∈ members, faults (body member) = false := by
  induction members with
  | nil => exact ⟨fun _ _ member => (List.not_mem_nil member).elim, fun _ => rfl⟩
  | cons member members induction =>
      rw [List.flatMap_cons, faults_append, Bool.or_eq_false_iff, induction,
        List.forall_mem_cons]

theorem fits_flatMap {members : List α} {body : α → List (Action β)} :
    Fits size (members.flatMap body) ↔
      ∀ (i : Nat) (member : α), members[i]? = some member →
        (∀ j < i, ∀ other, members[j]? = some other → faults (body other) = false) →
        Fits size (body member) := by
  induction members with
  | nil =>
      constructor
      · intro _ i member isAt
        cases isAt
      · intro _
        trivial
  | cons head members induction =>
      rw [List.flatMap_cons, fits_append, induction]
      constructor
      · rintro ⟨early, later⟩ i member isAt reached
        cases i with
        | zero =>
            cases isAt
            exact early
        | succ i =>
            refine later (reached 0 (Nat.succ_pos i) head rfl) i member isAt ?_
            exact fun j below other isOther =>
              reached (j + 1) (Nat.succ_lt_succ below) other isOther
      · intro all
        refine ⟨all 0 head rfl fun j below => absurd below (Nat.not_lt_zero j), ?_⟩
        intro alive i member isAt reached
        refine all (i + 1) member isAt fun j below other isOther => ?_
        cases j with
        | zero =>
            cases isOther
            exact alive
        | succ j => exact reached j (Nat.lt_of_succ_lt_succ below) other isOther

theorem fits_flatMap_range {count : Nat} {body : Nat → List (Action β)} :
    Fits size ((List.range count).flatMap body) ↔
      ∀ i < count, (∀ j < i, faults (body j) = false) → Fits size (body i) := by
  rw [fits_flatMap]
  constructor
  · intro all i below reached
    refine all i i (List.getElem?_range below) fun j less other isOther => ?_
    rw [List.getElem?_range (Nat.lt_trans less below)] at isOther
    cases isOther
    exact reached j less
  · intro all i member isAt reached
    obtain ⟨below, same⟩ := List.getElem?_eq_some_iff.mp isAt
    rw [List.length_range] at below
    rw [List.getElem_range] at same
    subst same
    refine all i below fun j less => reached j less j ?_
    exact List.getElem?_range (Nat.lt_trans less below)

end Action

section Strings

variable {β : Type u} {α : Type v}

/-- `memcpy(buffer, src, strlen(src))`, and `strncpy` with the same length. -/
def memcpy (buffer : β) (src : List α) : List (Action β) := [.write buffer src.length]

def strcpy (buffer : β) (src : List α) : List (Action β) := [.write buffer (src.length + 1)]

/-- `strcat` one after the other, behind the string that the array holds. -/
def strcats (buffer : β) (held : List α) : List (List α) → List (Action β)
  | [] => []
  | src :: rest =>
      .write buffer (held.length + src.length + 1) :: strcats buffer (held ++ src) rest

variable {buffer : β} {held : List α} {parts : List (List α)} {size : β → Nat}

theorem faults_strcats : Action.faults (strcats buffer held parts) = false := by
  induction parts generalizing held with
  | nil => rfl
  | cons src rest induction => exact induction

theorem fits_strcats (nonempty : parts ≠ []) :
    Action.Fits size (strcats buffer held parts) ↔
      held.length + parts.flatten.length + 1 ≤ size buffer := by
  induction parts generalizing held with
  | nil => exact absurd rfl nonempty
  | cons src rest induction =>
      rw [strcats, Action.Fits, List.flatten_cons, List.length_append]
      cases rest with
      | nil =>
          rw [strcats, List.flatten_nil, List.length_nil, Nat.add_zero]
          exact and_iff_left trivial
      | cons next later =>
          rw [induction (List.cons_ne_nil _ _), List.length_append]
          omega

end Strings

end Rkipc.Libc
