import Mathlib.Algebra.BigOperators.Group.List.Basic
import Mathlib.Algebra.GroupWithZero.Nat
import Mathlib.Data.List.Count
import Rkipc.Transition.System

namespace Rkipc.Transition

/-! Threads in a list, counted by where they are. -/

theorem countP_set_add {α : Type u} {l : List α} {i : Nat} {old : α}
    (isAt : l[i]? = some old) (new : α) (p : α → Bool) :
    (l.set i new).countP p + (p old).toNat = l.countP p + (p new).toNat := by
  obtain ⟨inside, rfl⟩ := List.getElem?_eq_some_iff.mp isAt
  have counted : p l[i] = true → 0 < l.countP p :=
    fun holds => List.countP_pos_iff.mpr ⟨l[i], List.getElem_mem inside, holds⟩
  rw [List.countP_set inside]
  cases isOld : p l[i] with
  | true =>
      have positive := counted isOld
      cases p new <;> simp <;> omega
  | false => cases p new <;> simp

theorem sum_set_add {α : Type u} {l : List α} {i : Nat} {old : α} (isAt : l[i]? = some old)
    (new : α) (size : α → Nat) :
    ((l.set i new).map size).sum + size old = (l.map size).sum + size new := by
  induction l generalizing i with
  | nil => cases isAt
  | cons head tail induction =>
      cases i with
      | zero =>
          cases isAt
          simp only [List.set_cons_zero, List.map_cons, List.sum_cons]
          omega
      | succ i =>
          have rest := induction isAt
          simp only [List.set_cons_succ, List.map_cons, List.sum_cons]
          omega

theorem forall_mem_set {α : Type u} {l : List α} {i : Nat} {new : α} {p : α → Prop}
    (all : ∀ thread ∈ l, p thread) (isNew : p new) : ∀ thread ∈ l.set i new, p thread :=
  fun thread member => (List.mem_or_eq_of_mem_set member).elim (all thread) fun same =>
    same ▸ isNew

end Rkipc.Transition

namespace Rkipc.Transition.Mutexes

/-! Threads whose calls lock and unlock mutexes.  A mutex is locked inside of those of lower
rank only. -/

inductive Action (μ : Type u)
  | lock (mutex : μ)
  | unlock (mutex : μ)
deriving DecidableEq

/-- A call returns, or the process ends with it. -/
inductive Ending
  | returns
  | dies
deriving DecidableEq

structure Run (μ : Type u) where
  actions : List (Action μ)
  ending : Ending
deriving DecidableEq

/-- What a thread holds, the latest first, and what is left of its call. -/
structure Thread (μ : Type u) where
  held : List μ
  call : Option (Run μ)

structure State (μ : Type u) where
  alive : Bool
  threads : List (Thread μ)

inductive Label (ι : Type v)
  | call (thread : Nat) (call : ι)
  | advance (thread : Nat)

section System

variable {μ : Type u} [DecidableEq μ] {ι : Type v}

def heldAfter (held : List μ) : List (Action μ) → List μ
  | [] => held
  | .lock mutex :: rest => heldAfter (mutex :: held) rest
  | .unlock mutex :: rest => heldAfter (held.erase mutex) rest

/-- A call that returns has unlocked what it has locked. -/
def Run.Releases (run : Run μ) : Prop :=
  run.ending = .returns → heldAfter [] run.actions = []

namespace State

variable (state : State μ)

def Free (mutex : μ) : Prop := ∀ thread ∈ state.threads, mutex ∉ thread.held

instance (mutex : μ) : Decidable (state.Free mutex) := List.decidableBAll _ state.threads

def set (thread : Nat) (after : Thread μ) : State μ :=
  { state with threads := state.threads.set thread after }

def step (runOf : ι → Run μ) : Label ι → Option (State μ)
  | .call thread call =>
      match state.alive, state.threads[thread]? with
      | true, some ⟨held, none⟩ => some (state.set thread ⟨held, some (runOf call)⟩)
      | _, _ => none
  | .advance thread =>
      match state.alive, state.threads[thread]? with
      | true, some ⟨held, some ⟨.lock mutex :: rest, ending⟩⟩ =>
          if state.Free mutex then
            some (state.set thread ⟨mutex :: held, some ⟨rest, ending⟩⟩)
          else none
      | true, some ⟨held, some ⟨.unlock mutex :: rest, ending⟩⟩ =>
          some (state.set thread ⟨held.erase mutex, some ⟨rest, ending⟩⟩)
      | true, some ⟨held, some ⟨[], .returns⟩⟩ => some (state.set thread ⟨held, none⟩)
      | true, some ⟨_, some ⟨[], .dies⟩⟩ => some { state with alive := false }
      | _, _ => none

end State

def system (runOf : ι → Run μ) : System (State μ) (Label ι) where
  initial state := state.alive = true ∧ ∀ thread ∈ state.threads, thread = ⟨[], none⟩
  step state := state.step runOf

/-- The calls that are in progress go on, and none is added. -/
def goesOn (_ : State μ) : Label ι → Prop
  | .call _ _ => False
  | .advance _ => True

/-- Whatever is in progress can come to its end, with every mutex free or the process gone. -/
def State.NeverBlocked (state : State μ) (runOf : ι → Run μ) : Prop :=
  ∃ after, (system runOf).Reaches goesOn state after ∧
    (after.alive = false ∨ ∀ thread ∈ after.threads, thread = ⟨[], none⟩)

end System

section Order

variable {μ : Type u} (rank : μ → Nat)

/-- What is left of a call locks in the order of the ranks, unlocks the latest first, and keeps
nothing if it returns. -/
def Closes (held : List μ) : List (Action μ) → Ending → Prop
  | [], ending => ending = .returns → held = []
  | .lock mutex :: rest, ending =>
      (∀ other ∈ held, rank other < rank mutex) ∧ Closes (mutex :: held) rest ending
  | .unlock mutex :: rest, ending => held.head? = some mutex ∧ Closes held.tail rest ending

def Run.Ordered (run : Run μ) : Prop := Closes rank [] run.actions run.ending

def Thread.Sound (thread : Thread μ) : Prop :=
  match thread.call with
  | none => thread.held = []
  | some run => Closes rank thread.held run.actions run.ending

def State.Sound (state : State μ) : Prop := ∀ thread ∈ state.threads, thread.Sound rank

/-- The calls that a run may begin. -/
def orderedCalls {ι : Type v} (runOf : ι → Run μ) (_ : State μ) : Label ι → Prop
  | .call _ call => (runOf call).Ordered rank
  | .advance _ => True

/-- These actions come back to what was held, inside of mutexes of ranks below the bound. -/
def Neutral [DecidableEq μ] (bound : Nat) (actions : List (Action μ)) : Prop :=
  ∀ held, (∀ other ∈ held, rank other < bound) →
    heldAfter held actions = held ∧ ∀ rest ending, Closes rank held rest ending →
      Closes rank held (actions ++ rest) ending

end Order

section Neutral

variable {μ : Type u} [DecidableEq μ] {rank : μ → Nat} {bound : Nat}
  {left right : List (Action μ)} {held : List μ}

theorem heldAfter_append (left right : List (Action μ)) (held : List μ) :
    heldAfter held (left ++ right) = heldAfter (heldAfter held left) right := by
  induction left generalizing held with
  | nil => rfl
  | cons action left induction => cases action <;> exact induction _

theorem heldAfter_of_closes {actions : List (Action μ)} {ending : Ending}
    (closes : Closes rank held actions ending) (returns : ending = .returns) :
    heldAfter held actions = [] := by
  induction actions generalizing held with
  | nil => exact closes returns
  | cons action rest induction =>
      cases action with
      | lock mutex => exact induction closes.2
      | unlock mutex =>
          obtain ⟨isHead, closes⟩ := closes
          obtain ⟨tail, rfl⟩ := List.head?_eq_some_iff.mp isHead
          rw [heldAfter, List.erase_cons_head]
          exact induction closes

theorem Run.Ordered.releases {run : Run μ} (ordered : run.Ordered rank) : run.Releases :=
  heldAfter_of_closes ordered

theorem neutral_nil : Neutral rank bound ([] : List (Action μ)) :=
  fun _ _ => ⟨rfl, fun _ _ closes => closes⟩

theorem neutral_section {mutex : μ} (isAbove : bound ≤ rank mutex) :
    Neutral rank bound [.lock mutex, .unlock mutex] := by
  intro held below
  refine ⟨?_, fun rest ending closes => ?_⟩
  · change (mutex :: held).erase mutex = held
    exact List.erase_cons_head mutex held
  · exact ⟨fun other member => Nat.lt_of_lt_of_le (below other member) isAbove, rfl, closes⟩

theorem Neutral.append (isLeft : Neutral rank bound left) (isRight : Neutral rank bound right) :
    Neutral rank bound (left ++ right) := by
  intro held below
  obtain ⟨sameLeft, closesLeft⟩ := isLeft held below
  obtain ⟨sameRight, closesRight⟩ := isRight held below
  refine ⟨?_, fun rest ending closes => ?_⟩
  · rw [heldAfter_append, sameLeft, sameRight]
  · rw [List.append_assoc]
    exact closesLeft _ _ (closesRight _ _ closes)

end Neutral

section Steps

variable {μ : Type u} [DecidableEq μ] {ι : Type v} {runOf : ι → Run μ} {rank : μ → Nat}
  {state next : State μ} {label : Label ι} {thread : Nat} {held : List μ} {mutex : μ}
  {rest : List (Action μ)} {ending : Ending}

inductive Moves (runOf : ι → Run μ) (state : State μ) : Label ι → State μ → Prop
  | calls {thread : Nat} {call : ι} {held : List μ}
      (isAt : state.threads[thread]? = some ⟨held, none⟩) :
      Moves runOf state (.call thread call) (state.set thread ⟨held, some (runOf call)⟩)
  | locks {thread : Nat} {held : List μ} {mutex : μ} {rest : List (Action μ)} {ending : Ending}
      (isAt : state.threads[thread]? = some ⟨held, some ⟨.lock mutex :: rest, ending⟩⟩)
      (free : state.Free mutex) :
      Moves runOf state (.advance thread)
        (state.set thread ⟨mutex :: held, some ⟨rest, ending⟩⟩)
  | unlocks {thread : Nat} {held : List μ} {mutex : μ} {rest : List (Action μ)} {ending : Ending}
      (isAt : state.threads[thread]? = some ⟨held, some ⟨.unlock mutex :: rest, ending⟩⟩) :
      Moves runOf state (.advance thread)
        (state.set thread ⟨held.erase mutex, some ⟨rest, ending⟩⟩)
  | returns {thread : Nat} {held : List μ}
      (isAt : state.threads[thread]? = some ⟨held, some ⟨[], .returns⟩⟩) :
      Moves runOf state (.advance thread) (state.set thread ⟨held, none⟩)
  | dies {thread : Nat} {held : List μ}
      (isAt : state.threads[thread]? = some ⟨held, some ⟨[], .dies⟩⟩) :
      Moves runOf state (.advance thread) { state with alive := false }

theorem moves_of_step (stepped : state.step runOf label = some next) :
    Moves runOf state label next := by
  cases label with
  | call thread call =>
      rw [State.step] at stepped
      split at stepped
      next isAt =>
        cases stepped
        exact .calls isAt
      next => cases stepped
  | advance thread =>
      rw [State.step] at stepped
      split at stepped
      next isAt =>
        split at stepped
        next free =>
          cases stepped
          exact .locks isAt free
        next => cases stepped
      next isAt =>
        cases stepped
        exact .unlocks isAt
      next isAt =>
        cases stepped
        exact .returns isAt
      next isAt =>
        cases stepped
        exact .dies isAt
      next => cases stepped

omit [DecidableEq μ] in
theorem State.Sound.set (sound : state.Sound rank) {after : Thread μ}
    (isSound : after.Sound rank) : (state.set thread after).Sound rank :=
  forall_mem_set sound isSound

theorem State.Sound.step (sound : state.Sound rank) (allowed : orderedCalls rank runOf state label)
    (moves : Moves runOf state label next) : next.Sound rank := by
  cases moves with
  | @calls thread call held isAt =>
      have isFree : held = [] := sound _ (List.mem_of_getElem? isAt)
      refine sound.set ?_
      rw [isFree]
      exact allowed
  | locks isAt free =>
      have closes := sound _ (List.mem_of_getElem? isAt)
      exact sound.set closes.2
  | @unlocks thread held mutex rest ending isAt =>
      obtain ⟨isHead, closes⟩ := sound _ (List.mem_of_getElem? isAt)
      obtain ⟨tail, isHeld⟩ := List.head?_eq_some_iff.mp isHead
      refine sound.set ?_
      change held.head? = some mutex at isHead
      change held = mutex :: tail at isHeld
      rw [isHeld] at closes ⊢
      rw [List.erase_cons_head]
      exact closes
  | returns isAt => exact sound.set (sound _ (List.mem_of_getElem? isAt) rfl)
  | dies isAt => exact sound

/-- The actions that are left, and the ends of the calls. -/
def Thread.left (thread : Thread μ) : Nat := thread.call.elim 0 fun run => run.actions.length + 1

def State.left (state : State μ) : Nat := (state.threads.map Thread.left).sum

theorem left_advance (moves : Moves runOf state (.advance thread) next) :
    next.alive = false ∨ next.left + 1 = state.left := by
  have fewer {old new : Thread μ} (isAt : state.threads[thread]? = some old)
      (less : new.left + 1 = old.left) : (state.set thread new).left + 1 = state.left := by
    have sums := sum_set_add isAt new Thread.left
    change ((state.threads.set thread new).map Thread.left).sum + 1 =
      (state.threads.map Thread.left).sum
    omega
  cases moves with
  | locks isAt free => exact .inr (fewer isAt rfl)
  | unlocks isAt => exact .inr (fewer isAt rfl)
  | returns isAt => exact .inr (fewer isAt rfl)
  | dies isAt => exact .inl rfl

/-- Nothing but a mutex that is taken holds a call up. -/
theorem advance_or_blocked (runOf : ι → Run μ) (alive : state.alive = true)
    {actions : List (Action μ)}
    (isAt : state.threads[thread]? = some ⟨held, some ⟨actions, ending⟩⟩) :
    (∃ next, state.step runOf (.advance thread) = some next) ∨
      ∃ mutex rest, actions = .lock mutex :: rest ∧ ¬ state.Free mutex := by
  rw [State.step, alive, isAt]
  cases actions with
  | nil => cases ending <;> exact .inl ⟨_, rfl⟩
  | cons action rest =>
      cases action with
      | unlock mutex => exact .inl ⟨_, rfl⟩
      | lock mutex =>
          by_cases free : state.Free mutex
          · exact .inl ⟨_, if_pos free⟩
          · exact .inr ⟨mutex, rest, rfl, free⟩

omit [DecidableEq μ] in
/-- A mutex that is taken is held by a thread in a call, whose next lock has a higher rank. -/
theorem holder_of_not_free (sound : state.Sound rank) (taken : ¬ state.Free mutex) :
    ∃ (thread : Nat) (held : List μ) (actions : List (Action μ)) (ending : Ending),
      state.threads[thread]? = some ⟨held, some ⟨actions, ending⟩⟩ ∧
        ∀ other rest, actions = .lock other :: rest → rank mutex < rank other := by
  simp only [State.Free, not_forall, not_not] at taken
  obtain ⟨⟨held, call⟩, member, isHeld⟩ := taken
  obtain ⟨thread, isAt⟩ := List.mem_iff_getElem?.mp member
  have isSound := sound _ member
  cases call with
  | none =>
      change held = [] at isSound
      change mutex ∈ held at isHeld
      rw [isSound] at isHeld
      cases isHeld
  | some run =>
      refine ⟨thread, held, run.actions, run.ending, isAt, ?_⟩
      intro other rest isLock
      change Closes rank held run.actions run.ending at isSound
      rw [isLock] at isSound
      exact isSound.1 mutex isHeld

/-- A blocked call waits for a thread whose next lock has a higher rank, so one whose rank is
the highest is not blocked. -/
theorem exists_advance (sound : state.Sound rank) (alive : state.alive = true) {bound : Nat}
    (bounded : ∀ mutex, rank mutex ≤ bound) (above : Nat) {actions : List (Action μ)}
    (isAt : state.threads[thread]? = some ⟨held, some ⟨actions, ending⟩⟩)
    (isAbove : ∀ mutex rest, actions = .lock mutex :: rest → bound < rank mutex + above) :
    ∃ (thread : Nat) (next : State μ), state.step runOf (.advance thread) = some next := by
  induction above generalizing thread held actions ending with
  | zero =>
      obtain advances | ⟨mutex, rest, isLock, _⟩ := advance_or_blocked runOf alive isAt
      · exact ⟨thread, advances⟩
      · exact absurd (isAbove mutex rest isLock) (Nat.not_lt.mpr (bounded mutex))
  | succ above induction =>
      obtain advances | ⟨mutex, rest, isLock, taken⟩ :=
        advance_or_blocked runOf alive isAt
      · exact ⟨thread, advances⟩
      · obtain ⟨holder, _, _, _, isHolder, higher⟩ := holder_of_not_free sound taken
        refine induction isHolder fun other rest' isNext => ?_
        have less := higher other rest' isNext
        have isBelow := isAbove mutex rest isLock
        omega

theorem idle_or_advance (sound : state.Sound rank) (alive : state.alive = true) {bound : Nat}
    (bounded : ∀ mutex, rank mutex ≤ bound) (runOf : ι → Run μ) :
    (∀ thread ∈ state.threads, thread = ⟨[], none⟩) ∨
      ∃ (thread : Nat) (next : State μ), state.step runOf (.advance thread) = some next := by
  by_cases idle : ∀ thread ∈ state.threads, thread = ⟨[], none⟩
  · exact .inl idle
  · simp only [not_forall] at idle
    obtain ⟨⟨held, call⟩, member, busy⟩ := idle
    obtain ⟨thread, isAt⟩ := List.mem_iff_getElem?.mp member
    cases call with
    | none =>
        have isFree : held = [] := sound _ member
        exact absurd (by rw [isFree]) busy
    | some run =>
        exact .inr (exists_advance sound alive bounded (bound + 1) isAt fun _ _ _ => by omega)

theorem State.Sound.neverBlocked (sound : state.Sound rank) (alive : state.alive = true)
    {bound : Nat} (bounded : ∀ mutex, rank mutex ≤ bound) (runOf : ι → Run μ) :
    state.NeverBlocked runOf := by
  generalize isLeft : state.left = left
  induction left using Nat.strongRecOn generalizing state with
  | ind left induction =>
      obtain idle | ⟨thread, next, stepped⟩ := idle_or_advance sound alive bounded runOf
      · exact ⟨state, .refl, .inr idle⟩
      · have moves := moves_of_step stepped
        have going : goesOn state (.advance thread : Label ι) := trivial
        have allowed : orderedCalls rank runOf state (.advance thread) := trivial
        have first : (system runOf).Reaches goesOn state next := .step .refl going stepped
        cases isAlive : next.alive with
        | false => exact ⟨next, first, .inl isAlive⟩
        | true =>
            have fewer := (left_advance moves).resolve_left (by rw [isAlive]; decide)
            obtain ⟨after, reaches, ends⟩ :=
              induction next.left (by omega) (sound.step allowed moves) isAlive rfl
            exact ⟨after, first.trans reaches, ends⟩

theorem sound_of_reachable (reachable : (system runOf).Reachable (orderedCalls rank runOf) state) :
    state.Sound rank := by
  refine System.Reachable.invariant ?_ ?_ reachable
  · rintro state ⟨-, idle⟩ thread member
    rw [idle thread member]
    rfl
  · intro state label next sound allowed stepped
    exact sound.step allowed (moves_of_step stepped)

end Steps

end Rkipc.Transition.Mutexes
