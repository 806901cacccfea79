import Mathlib.Data.List.Induction

namespace Rkipc.Engine

/-! A plain queue of inputs and of their results, and what its runs look like. -/

/-- What can be seen from outside.  A `get` without an output returned 1. -/
inductive Event (ι o : Type)
  | put (input : ι)
  | run (number : Nat) (input : ι) (output : o)
  | get (output : Option o)
  | drained
deriving DecidableEq

variable {ι o : Type}

namespace Event

def input? : Event ι o → Option ι
  | .put input => some input
  | _ => none

def output? : Event ι o → Option o
  | .get output => output
  | _ => none

end Event

def puts (trace : List (Event ι o)) : List ι := trace.filterMap Event.input?

def gets (trace : List (Event ι o)) : List o := trace.filterMap Event.output?

/-- What must have happened before an event. -/
def Orderly (before : List (Event ι o)) : Event ι o → Prop
  | .put _ => .drained ∉ before
  | .run number input _ => (puts before)[number]? = some input ∧
      ∀ input output, .run number input output ∉ before
  | .get (some output) => .drained ∉ before ∧
      ∃ input, .run (gets before).length input output ∈ before
  | .get none => .drained ∉ before ∧ (gets before).length = (puts before).length
  | .drained => .drained ∉ before ∧ ∀ number < (puts before).length,
      ∃ input output, .run number input output ∈ before

def InOrder (trace : List (Event ι o)) : Prop :=
  ∀ before event after, trace = before ++ event :: after → Orderly before event

/-- The result of an input is empty until its run. -/
structure Fifo (ι o : Type) where
  inputs : List ι
  results : List (Option o)
  delivered : Nat
  closed : Bool

namespace Fifo

def empty : Fifo ι o where
  inputs := []
  results := []
  delivered := 0
  closed := false

inductive Step (fifo : Fifo ι o) : Event ι o → Fifo ι o → Prop
  | put (input : ι) (isOpen : fifo.closed = false) :
      Step fifo (.put input) { fifo with
        inputs := fifo.inputs ++ [input], results := fifo.results ++ [none] }
  | run {number : Nat} {input : ι} (output : o)
      (isInput : fifo.inputs[number]? = some input)
      (isNew : fifo.results[number]? = some none) :
      Step fifo (.run number input output) { fifo with
        results := fifo.results.set number (some output) }
  | deliver {output : o} (isOpen : fifo.closed = false)
      (isResult : fifo.results[fifo.delivered]? = some (some output)) :
      Step fifo (.get (some output)) { fifo with delivered := fifo.delivered + 1 }
  | miss (isOpen : fifo.closed = false) (all : fifo.delivered = fifo.inputs.length) :
      Step fifo (.get none) fifo
  | close (isOpen : fifo.closed = false)
      (all : ∀ result ∈ fifo.results, result.isSome = true) :
      Step fifo .drained { fifo with closed := true }

inductive Runs : List (Event ι o) → Fifo ι o → Prop
  | start : Runs [] .empty
  | step {trace : List (Event ι o)} {fifo next : Fifo ι o} {event : Event ι o} :
      Runs trace fifo → Step fifo event next → Runs (trace ++ [event]) next

end Fifo

structure Remembers (trace : List (Event ι o)) (fifo : Fifo ι o) : Prop where
  inputs : fifo.inputs = puts trace
  length : fifo.results.length = fifo.inputs.length
  results : ∀ number output, fifo.results[number]? = some (some output) ↔
    ∃ input, .run number input output ∈ trace
  delivered : fifo.delivered = (gets trace).length
  closed : fifo.closed = true ↔ .drained ∈ trace
  inOrder : InOrder trace

theorem inOrder_append {trace : List (Event ι o)} {event : Event ι o}
    (inOrder : InOrder trace) (orderly : Orderly trace event) :
    InOrder (trace ++ [event]) := by
  intro before other after split
  induction after using List.reverseRecOn with
  | nil =>
      obtain ⟨rfl, same⟩ := List.append_inj' split rfl
      cases same
      exact orderly
  | append_singleton after last _ =>
      rw [← List.cons_append, ← List.append_assoc] at split
      exact inOrder before other after (List.append_inj' split rfl).1

theorem puts_append (trace : List (Event ι o)) (event : Event ι o) :
    puts (trace ++ [event]) = puts trace ++ event.input?.toList := by
  unfold puts
  rw [List.filterMap_append]
  cases event <;> rfl

theorem gets_append (trace : List (Event ι o)) (event : Event ι o) :
    gets (trace ++ [event]) = gets trace ++ event.output?.toList := by
  unfold gets
  rw [List.filterMap_append]
  cases event with
  | get output => cases output <;> rfl
  | put input | run number input output | drained => rfl

section Remembers

variable {trace : List (Event ι o)} {fifo : Fifo ι o}

/-- An event that is no `run` leaves the results as they are remembered. -/
theorem run_mem_append {event : Event ι o} (other : ∀ number input output,
      event ≠ .run number input output) (number : Nat) (output : o) :
    (∃ input, Event.run number input output ∈ trace ++ [event]) ↔
      ∃ input, Event.run number input output ∈ trace := by
  refine exists_congr fun input => ?_
  rw [List.mem_append, List.mem_singleton]
  exact or_iff_left (Ne.symm (other number input output))

theorem Remembers.stillOpen (remembers : Remembers trace fifo) (event : Event ι o)
    (other : event ≠ .drained) : fifo.closed = true ↔ .drained ∈ trace ++ [event] := by
  rw [List.mem_append, List.mem_singleton, remembers.closed]
  exact (or_iff_left (Ne.symm other)).symm

theorem Remembers.isOpen (remembers : Remembers trace fifo) (isOpen : fifo.closed = false) :
    .drained ∉ trace := by
  intro drained
  have closed := remembers.closed.mpr drained
  rw [isOpen] at closed
  cases closed

theorem Remembers.put (remembers : Remembers trace fifo) (input : ι)
    (isOpen : fifo.closed = false) : Remembers (trace ++ [.put input]) { fifo with
      inputs := fifo.inputs ++ [input], results := fifo.results ++ [none] } where
  inputs := by
    rw [puts_append, ← remembers.inputs]
    rfl
  length := by rw [List.length_append, List.length_append, remembers.length]; rfl
  results number output := by
    rw [run_mem_append nofun, ← remembers.results number output]
    cases Nat.lt_or_ge number fifo.results.length with
    | inl inside => rw [List.getElem?_append_left inside]
    | inr outside =>
        rw [List.getElem?_append_right outside, List.getElem?_eq_none outside]
        cases number - fifo.results.length with
        | zero => exact ⟨nofun, nofun⟩
        | succ _ => exact ⟨nofun, nofun⟩
  delivered := by
    rw [gets_append]
    exact remembers.delivered.trans (congrArg List.length (List.append_nil _).symm)
  closed := remembers.stillOpen _ nofun
  inOrder := inOrder_append remembers.inOrder (remembers.isOpen isOpen)

theorem Remembers.run (remembers : Remembers trace fifo) {number : Nat} {input : ι}
    (output : o) (isInput : fifo.inputs[number]? = some input)
    (isNew : fifo.results[number]? = some none) :
    Remembers (trace ++ [.run number input output]) { fifo with
      results := fifo.results.set number (some output) } where
  inputs := by
    rw [puts_append, ← remembers.inputs]
    exact (List.append_nil _).symm
  length := List.length_set.trans remembers.length
  results other found := by
    have inside := (List.getElem?_eq_some_iff.mp isNew).1
    cases decEq number other with
    | isTrue same =>
        subst same
        rw [List.getElem?_set_self inside]
        constructor
        · rintro ⟨⟩
          exact ⟨input, List.mem_append_right _ (List.mem_singleton.mpr rfl)⟩
        · rintro ⟨_, isRun⟩
          cases List.mem_append.mp isRun with
          | inl before =>
              cases isNew.symm.trans ((remembers.results number found).mpr ⟨_, before⟩)
          | inr last =>
              cases List.mem_singleton.mp last
              rfl
    | isFalse differs =>
        rw [List.getElem?_set_ne differs, remembers.results other found]
        refine exists_congr fun input => ?_
        rw [List.mem_append, List.mem_singleton]
        refine (or_iff_left ?_).symm
        rintro ⟨⟩
        exact differs rfl
  delivered := by
    rw [gets_append]
    exact remembers.delivered.trans (congrArg List.length (List.append_nil _).symm)
  closed := remembers.stillOpen _ nofun
  inOrder := by
    refine inOrder_append remembers.inOrder ⟨remembers.inputs ▸ isInput, ?_⟩
    intro input output before
    have known := (remembers.results number output).mpr ⟨input, before⟩
    rw [isNew] at known
    cases known

theorem Remembers.deliver (remembers : Remembers trace fifo) {output : o}
    (isOpen : fifo.closed = false)
    (isResult : fifo.results[fifo.delivered]? = some (some output)) :
    Remembers (trace ++ [.get (some output)]) { fifo with
      delivered := fifo.delivered + 1 } where
  inputs := by
    rw [puts_append, ← remembers.inputs]
    exact (List.append_nil _).symm
  length := remembers.length
  results number output := by
    rw [run_mem_append nofun, ← remembers.results number output]
  delivered := by
    rw [gets_append, List.length_append, ← remembers.delivered]
    rfl
  closed := remembers.stillOpen _ nofun
  inOrder := by
    have isRun := (remembers.results fifo.delivered output).mp isResult
    rw [remembers.delivered] at isRun
    exact inOrder_append remembers.inOrder ⟨remembers.isOpen isOpen, isRun⟩

theorem Remembers.miss (remembers : Remembers trace fifo) (isOpen : fifo.closed = false)
    (all : fifo.delivered = fifo.inputs.length) :
    Remembers (trace ++ [.get none]) fifo where
  inputs := by
    rw [puts_append, ← remembers.inputs]
    exact (List.append_nil _).symm
  length := remembers.length
  results number output := by
    rw [run_mem_append nofun, ← remembers.results number output]
  delivered := by
    rw [gets_append]
    exact remembers.delivered.trans (congrArg List.length (List.append_nil _).symm)
  closed := remembers.stillOpen _ nofun
  inOrder := by
    rw [remembers.delivered, remembers.inputs] at all
    exact inOrder_append remembers.inOrder ⟨remembers.isOpen isOpen, all⟩

theorem Remembers.close (remembers : Remembers trace fifo) (isOpen : fifo.closed = false)
    (all : ∀ result ∈ fifo.results, result.isSome = true) :
    Remembers (trace ++ [.drained]) { fifo with closed := true } where
  inputs := by
    rw [puts_append, ← remembers.inputs]
    exact (List.append_nil _).symm
  length := remembers.length
  results number output := by
    rw [run_mem_append nofun, ← remembers.results number output]
  delivered := by
    rw [gets_append]
    exact remembers.delivered.trans (congrArg List.length (List.append_nil _).symm)
  closed := ⟨fun _ => List.mem_append_right _ (List.mem_singleton.mpr rfl), fun _ => rfl⟩
  inOrder := by
    refine inOrder_append remembers.inOrder ⟨remembers.isOpen isOpen, ?_⟩
    intro number inside
    rw [← remembers.inputs, ← remembers.length] at inside
    have isSome := all _ (List.getElem_mem inside)
    obtain ⟨output, isOutput⟩ := Option.isSome_iff_exists.mp isSome
    have isResult : fifo.results[number]? = some (some output) :=
      (List.getElem?_eq_getElem inside).trans (congrArg some isOutput)
    obtain ⟨input, isRun⟩ := (remembers.results number output).mp isResult
    exact ⟨input, output, isRun⟩

theorem Remembers.step {event : Event ι o} {next : Fifo ι o}
    (remembers : Remembers trace fifo) (step : fifo.Step event next) :
    Remembers (trace ++ [event]) next := by
  cases step with
  | put input isOpen => exact remembers.put input isOpen
  | run output isInput isNew => exact remembers.run output isInput isNew
  | deliver isOpen isResult => exact remembers.deliver isOpen isResult
  | miss isOpen all => exact remembers.miss isOpen all
  | close isOpen all => exact remembers.close isOpen all

theorem Fifo.Runs.remembers (runs : Fifo.Runs trace fifo) : Remembers trace fifo := by
  induction runs with
  | start =>
      refine ⟨rfl, rfl, fun _ _ => ⟨nofun, ?_⟩, rfl, ⟨nofun, nofun⟩, ?_⟩
      · rintro ⟨_, impossible⟩
        cases impossible
      · intro before event after split
        cases List.append_eq_nil_iff.mp split.symm with
        | intro _ impossible => cases impossible
  | step _ step induction => exact induction.step step

end Remembers

end Rkipc.Engine
