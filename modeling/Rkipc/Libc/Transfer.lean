import Mathlib.Data.List.Basic

namespace Rkipc.Libc

/-! A loop that asks for what is left of some items until all of them have been moved. -/

/-- What a call answers that is asked for some items: how many it would move, or an error. -/
inductive Answer (ε : Type u)
  | items (number : Nat)
  | error (error : ε)
deriving DecidableEq

/-- A call for `asked` items when `place` of them have been moved. -/
structure Request where
  place : Nat
  asked : Nat
deriving DecidableEq

/-- How far a loop has come, with what it returns.  It has not returned when the answers are
used up. -/
structure Transfer (σ : Type u) (ρ : Type v) where
  requests : List Request
  moved : Nat
  state : σ
  returned : Option ρ
deriving DecidableEq

/-- `move` moves a number of items from a place on.  An error, or a call that moves nothing,
makes the loop ask again when there is no value for it. -/
structure TransferLoop (σ : Type u) (ε : Type v) (ρ : Type w) where
  move : Nat → Nat → σ → σ
  onError : ε → Option ρ
  onZero : Option ρ
  onAll : Nat → ρ

variable {σ : Type u} {ε : Type v} {ρ : Type w}

def Transfer.after (request : Request) (transfer : Transfer σ ρ) : Transfer σ ρ where
  requests := request :: transfer.requests
  moved := transfer.moved
  state := transfer.state
  returned := transfer.returned

namespace TransferLoop

variable (loop : TransferLoop σ ε ρ) (count : Nat)

/-- The value to return after a call, or what there is to go on with.  A call moves at most
what it is asked for. -/
def next (moved : Nat) (state : σ) : Answer ε → Except ρ (Nat × σ)
  | .error error => (loop.onError error).elim (.ok (moved, state)) .error
  | .items number =>
      let number := min number (count - moved)
      if number = 0 then loop.onZero.elim (.ok (moved, state)) .error
      else .ok (moved + number, loop.move moved number state)

def run (moved : Nat) (state : σ) : List (Answer ε) → Transfer σ ρ
  | [] =>
      if moved = count then ⟨[], moved, state, some (loop.onAll moved)⟩
      else ⟨[⟨moved, count - moved⟩], moved, state, none⟩
  | answer :: answers =>
      if moved = count then ⟨[], moved, state, some (loop.onAll moved)⟩
      else
        .after ⟨moved, count - moved⟩ <|
          match loop.next count moved state answer with
          | .error value => ⟨[], moved, state, some value⟩
          | .ok (moved, state) => run moved state answers

/-- The answer is an error after which the loop asks again. -/
def Again : Answer ε → Prop
  | .error error => loop.onError error = none
  | .items _ => False

/-- The value is returned before all items have been moved. -/
def Stops (value : ρ) : Prop :=
  (∃ error, loop.onError error = some value) ∨ loop.onZero = some value

variable {loop} {count} {moved : Nat} {state : σ} {answer : Answer ε} {answers : List (Answer ε)}

theorem stops_of_next {value : ρ} (isNext : loop.next count moved state answer = .error value) :
    loop.Stops value := by
  cases answer with
  | error error =>
    rw [next] at isNext
    cases found : loop.onError error with
    | none => rw [found] at isNext; cases isNext
    | some stop => rw [found] at isNext; cases isNext; exact .inl ⟨error, found⟩
  | items number =>
    simp only [next] at isNext
    split at isNext
    · cases found : loop.onZero with
      | none => rw [found] at isNext; cases isNext
      | some stop => rw [found] at isNext; cases isNext; exact .inr found
    · cases isNext

/-- A loop goes on with the same state, or with one to which items have been moved. -/
theorem next_cases {further : Nat × σ}
    (isNext : loop.next count moved state answer = .ok further) :
    further = (moved, state) ∨ ∃ number, number ≤ count - moved ∧
      further = (moved + number, loop.move moved number state) := by
  cases answer with
  | error error =>
    rw [next] at isNext
    cases found : loop.onError error with
    | none => rw [found] at isNext; cases isNext; exact .inl rfl
    | some stop => rw [found] at isNext; cases isNext
  | items number =>
    simp only [next] at isNext
    split at isNext
    · cases found : loop.onZero with
      | none => rw [found] at isNext; cases isNext; exact .inl rfl
      | some stop => rw [found] at isNext; cases isNext
    · cases isNext
      exact .inr ⟨_, Nat.min_le_right _ _, rfl⟩

/-- What a loop has done that began with some items moved. -/
structure Sound (loop : TransferLoop σ ε ρ) (invariant : Nat → σ → Prop) (count moved : Nat)
    (transfer : Transfer σ ρ) : Prop where
  from_moved : moved ≤ transfer.moved
  within : transfer.moved ≤ count
  holds : invariant transfer.moved transfer.state
  asks : ∀ request ∈ transfer.requests,
    0 < request.asked ∧ moved ≤ request.place ∧ request.place ≤ transfer.moved ∧
      request.asked = count - request.place
  returns : ∀ value, transfer.returned = some value →
    transfer.moved = count ∧ value = loop.onAll count ∨
      transfer.moved < count ∧ loop.Stops value

variable {invariant : Nat → σ → Prop}

/-- An invariant of the moves holds in the end. -/
theorem run_sound
    (preserved : ∀ moved number state, moved + number ≤ count → invariant moved state →
      invariant (moved + number) (loop.move moved number state))
    (within : moved ≤ count) (holds : invariant moved state) :
    loop.Sound invariant count moved (loop.run count moved state answers) := by
  induction answers generalizing moved state with
  | nil =>
    rw [run]
    by_cases isAll : moved = count
    · rw [if_pos isAll]
      refine ⟨Nat.le_refl _, within, holds, fun _ member => absurd member List.not_mem_nil, ?_⟩
      rintro _ ⟨⟩
      exact .inl ⟨isAll, by rw [isAll]⟩
    · rw [if_neg isAll]
      refine ⟨Nat.le_refl _, within, holds, fun request member => ?_,
        fun _ isNone => nomatch isNone⟩
      cases List.mem_singleton.mp member
      exact ⟨by dsimp only; omega, Nat.le_refl _, Nat.le_refl _, rfl⟩
  | cons answer answers ih =>
    rw [run]
    by_cases isAll : moved = count
    · rw [if_pos isAll]
      refine ⟨Nat.le_refl _, within, holds, fun _ member => absurd member List.not_mem_nil, ?_⟩
      rintro _ ⟨⟩
      exact .inl ⟨isAll, by rw [isAll]⟩
    · rw [if_neg isAll]
      have less : moved < count := Nat.lt_of_le_of_ne within isAll
      cases isNext : loop.next count moved state answer with
      | error value =>
        refine ⟨Nat.le_refl _, within, holds, fun request member => ?_, ?_⟩
        · cases List.mem_singleton.mp member
          exact ⟨Nat.sub_pos_of_lt less, Nat.le_refl _, Nat.le_refl _, rfl⟩
        · rintro _ ⟨⟩
          exact .inr ⟨less, stops_of_next isNext⟩
      | ok further =>
        obtain ⟨more, isIn, isHeld⟩ : moved ≤ further.1 ∧ further.1 ≤ count ∧
            invariant further.1 further.2 := by
          rcases next_cases isNext with rfl | ⟨number, small, rfl⟩
          · exact ⟨Nat.le_refl _, within, holds⟩
          · have isIn : moved + number ≤ count := by omega
            exact ⟨Nat.le_add_right _ _, isIn, preserved _ _ _ isIn holds⟩
        have sound := ih isIn isHeld
        have further_le := Nat.le_trans more sound.from_moved
        refine ⟨further_le, sound.within, sound.holds, fun request member => ?_, sound.returns⟩
        rcases List.mem_cons.mp member with rfl | member
        · exact ⟨Nat.sub_pos_of_lt less, Nat.le_refl _, further_le, rfl⟩
        · obtain ⟨positive, after, before, isRest⟩ := sound.asks request member
          exact ⟨positive, Nat.le_trans more after, before, isRest⟩

/-- How far the loop comes without what it was asked for on the way. -/
def Same (first second : Transfer σ ρ) : Prop :=
  first.moved = second.moved ∧ first.state = second.state ∧ first.returned = second.returned

theorem next_of_again (again : loop.Again answer) :
    loop.next count moved state answer = .ok (moved, state) := by
  cases answer with
  | error error => rw [next, show loop.onError error = none from again]; rfl
  | items number => exact again.elim

/-- The errors after which the loop asks again change nothing but the requests. -/
theorem run_filter {keep : Answer ε → Bool}
    (again : ∀ answer, keep answer = false → loop.Again answer) :
    Same (loop.run count moved state (answers.filter keep))
      (loop.run count moved state answers) := by
  induction answers generalizing moved state with
  | nil => exact ⟨rfl, rfl, rfl⟩
  | cons answer answers ih =>
    by_cases isAll : moved = count
    · have full : ∀ answers, loop.run count moved state answers =
          ⟨[], moved, state, some (loop.onAll moved)⟩ := by
        intro answers
        cases answers <;> rw [run, if_pos isAll]
      rw [full, full]
      exact ⟨rfl, rfl, rfl⟩
    · cases kept : keep answer with
      | false =>
        rw [List.filter_cons_of_neg (by rw [kept]; exact Bool.false_ne_true)]
        have asked := @ih moved state
        rw [run.eq_2, if_neg isAll, next_of_again (again answer kept)]
        exact asked
      | true =>
        rw [List.filter_cons_of_pos kept, run, run, if_neg isAll, if_neg isAll]
        cases loop.next count moved state answer with
        | error value => exact ⟨rfl, rfl, rfl⟩
        | ok further => exact ih

end TransferLoop

end Rkipc.Libc
