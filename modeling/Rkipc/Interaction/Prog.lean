import Mathlib.Logic.IsEmpty.Basic

namespace Rkipc.Interaction

/-! Programs that put questions to their environment.  The answers alone decide
how a program goes on. -/

inductive Prog (Ask : Type u) (Answer : Ask → Type v) (α : Type w)
  | done (value : α)
  | ask (question : Ask) (next : Answer question → Prog Ask Answer α)

/-- A question with the answer it got. -/
abbrev Event (Ask : Type u) (Answer : Ask → Type v) :=
  (question : Ask) × Answer question

/-- The questions of a run with their answers, the environment after it and the
value, if the environment had an answer to every question. -/
structure Outcome (Ask : Type u) (Answer : Ask → Type v) (σ : Type t)
    (α : Type w) where
  trace : List (Event Ask Answer)
  state : σ
  value : Option α

namespace Outcome

variable {Ask : Type u} {Answer : Ask → Type v} {σ : Type t} {α β : Type w}

def prepend (event : Event Ask Answer) (outcome : Outcome Ask Answer σ α) :
    Outcome Ask Answer σ α :=
  { outcome with trace := event :: outcome.trace }

@[simp] theorem prepend_trace (event : Event Ask Answer)
    (outcome : Outcome Ask Answer σ α) :
    (outcome.prepend event).trace = event :: outcome.trace := rfl

@[simp] theorem prepend_state (event : Event Ask Answer)
    (outcome : Outcome Ask Answer σ α) :
    (outcome.prepend event).state = outcome.state := rfl

@[simp] theorem prepend_value (event : Event Ask Answer)
    (outcome : Outcome Ask Answer σ α) :
    (outcome.prepend event).value = outcome.value := rfl

@[simp] theorem foldr_prepend_trace (events : List (Event Ask Answer))
    (outcome : Outcome Ask Answer σ α) :
    (events.foldr prepend outcome).trace = events ++ outcome.trace := by
  induction events with
  | nil => rfl
  | cons event events induction => simp [induction]

@[simp] theorem foldr_prepend_value (events : List (Event Ask Answer))
    (outcome : Outcome Ask Answer σ α) :
    (events.foldr prepend outcome).value = outcome.value := by
  induction events with
  | nil => rfl
  | cons event events induction => simp [induction]

/-- The run goes on, unless it has stopped without a value. -/
def andThen (outcome : Outcome Ask Answer σ α)
    (next : α → σ → Outcome Ask Answer σ β) : Outcome Ask Answer σ β :=
  match outcome.value with
  | none => ⟨outcome.trace, outcome.state, none⟩
  | some value =>
      let rest := next value outcome.state
      ⟨outcome.trace ++ rest.trace, rest.state, rest.value⟩

theorem andThen_prepend (event : Event Ask Answer)
    (outcome : Outcome Ask Answer σ α) (next : α → σ → Outcome Ask Answer σ β) :
    (outcome.prepend event).andThen next =
      (outcome.andThen next).prepend event := by
  unfold andThen prepend
  cases outcome.value with
  | none => rfl
  | some value => rfl

@[simp] theorem foldr_prepend_state (events : List (Event Ask Answer))
    (outcome : Outcome Ask Answer σ α) :
    (events.foldr prepend outcome).state = outcome.state := by
  induction events with
  | nil => rfl
  | cons event events induction => simp [induction]

theorem andThen_foldr (events : List (Event Ask Answer))
    (outcome : Outcome Ask Answer σ α) (next : α → σ → Outcome Ask Answer σ β) :
    (events.foldr prepend outcome).andThen next =
      events.foldr prepend (outcome.andThen next) := by
  induction events with
  | nil => rfl
  | cons event events induction =>
      rw [List.foldr_cons, andThen_prepend, induction, List.foldr_cons]

end Outcome

namespace Prog

variable {Ask : Type u} {Answer : Ask → Type v} {σ : Type t} {α β : Type w}

def bind (program : Prog Ask Answer α) (next : α → Prog Ask Answer β) :
    Prog Ask Answer β :=
  match program with
  | .done value => next value
  | .ask question rest => .ask question fun answer => (rest answer).bind next

@[simp] theorem bind_done (program : Prog Ask Answer α) :
    program.bind .done = program := by
  induction program with
  | done value => rfl
  | ask question rest induction => exact congrArg _ (funext induction)

/-- An environment answers, or stops the program. -/
def run (world : (question : Ask) → σ → Option (Answer question × σ)) :
    Prog Ask Answer α → σ → Outcome Ask Answer σ α
  | .done value, state => ⟨[], state, some value⟩
  | .ask question next, state =>
      match world question state with
      | none => ⟨[], state, none⟩
      | some (answer, after) =>
          ((next answer).run world after).prepend ⟨question, answer⟩

section Runs

variable {world : (question : Ask) → σ → Option (Answer question × σ)}
  {state after : σ}

@[simp] theorem run_done (value : α) :
    (Prog.done value : Prog Ask Answer α).run world state =
      ⟨[], state, some value⟩ := rfl

theorem run_answered {question : Ask} {answer : Answer question}
    (next : Answer question → Prog Ask Answer α)
    (answered : world question state = some (answer, after)) :
    (Prog.ask question next).run world state =
      ((next answer).run world after).prepend ⟨question, answer⟩ := by
  simp only [run, answered]

theorem run_stopped {question : Ask}
    (next : Answer question → Prog Ask Answer α)
    (stopped : world question state = none) :
    (Prog.ask question next).run world state = ⟨[], state, none⟩ := by
  simp only [run, stopped]

theorem run_bind (program : Prog Ask Answer α) (next : α → Prog Ask Answer β) :
    (program.bind next).run world state =
      (program.run world state).andThen fun value => (next value).run world := by
  induction program generalizing state with
  | done value => simp [bind, Outcome.andThen]
  | ask question rest induction =>
      cases answered : world question state with
      | none => simp [bind, run_stopped _ answered, Outcome.andThen]
      | some pair =>
          obtain ⟨answer, after⟩ := pair
          rw [bind, run_answered _ answered, run_answered _ answered, induction,
            Outcome.andThen_prepend]

end Runs

/-- Every question that the program can come to put. -/
def Asks (allowed : Ask → Prop) : Prog Ask Answer α → Prop
  | .done _ => True
  | .ask question next => allowed question ∧ ∀ answer, (next answer).Asks allowed

section Asks

variable {allowed : Ask → Prop}

@[simp] theorem asks_done (value : α) :
    (Prog.done value : Prog Ask Answer α).Asks allowed := trivial

theorem Asks.bind {program : Prog Ask Answer α} {next : α → Prog Ask Answer β}
    (first : program.Asks allowed) (rest : ∀ value, (next value).Asks allowed) :
    (program.bind next).Asks allowed := by
  induction program with
  | done value => exact rest value
  | ask question following induction =>
      exact ⟨first.1, fun answer => induction answer (first.2 answer)⟩

theorem Asks.trace {program : Prog Ask Answer α} (asks : program.Asks allowed)
    (world : (question : Ask) → σ → Option (Answer question × σ)) (state : σ) :
    ∀ event ∈ (program.run world state).trace, allowed event.1 := by
  induction program generalizing state with
  | done value => simp
  | ask question next induction =>
      cases answered : world question state with
      | none => simp [run_stopped _ answered]
      | some pair =>
          obtain ⟨answer, after⟩ := pair
          rw [run_answered _ answered]
          intro event member
          rcases List.mem_cons.mp member with same | member
          · rw [same]
            exact asks.1
          · exact induction answer (asks.2 answer) after event member

end Asks

/-- What holds of every complete run, whatever the answers are. -/
def Always (holds : List (Event Ask Answer) → α → Prop) :
    Prog Ask Answer α → Prop
  | .done value => holds [] value
  | .ask question next => ∀ answer,
      (next answer).Always fun trace value =>
        holds (⟨question, answer⟩ :: trace) value

section Always

variable {holds weaker : List (Event Ask Answer) → α → Prop}

theorem Always.mono {program : Prog Ask Answer α}
    (always : program.Always holds)
    (weakens : ∀ trace value, holds trace value → weaker trace value) :
    program.Always weaker := by
  induction program generalizing holds weaker with
  | done value => exact weakens [] value always
  | ask question next induction =>
      intro answer
      exact induction answer (always answer) fun trace value => weakens _ value

theorem Always.run {program : Prog Ask Answer α} (always : program.Always holds)
    {world : (question : Ask) → σ → Option (Answer question × σ)} {state : σ}
    {value : α} (ends : (program.run world state).value = some value) :
    holds (program.run world state).trace value := by
  induction program generalizing holds state with
  | done returned =>
      cases ends
      exact always
  | ask question next induction =>
      cases answered : world question state with
      | none => simp [run_stopped _ answered] at ends
      | some pair =>
          obtain ⟨answer, after⟩ := pair
          rw [run_answered _ answered] at ends ⊢
          exact induction answer (always answer) ends

end Always

/-- What holds of every run that comes to its end or to a question that has no answer. -/
def Settles (holds : List (Event Ask Answer) → Option α → Prop) :
    Prog Ask Answer α → Prop
  | .done value => holds [] (some value)
  | .ask question next => (IsEmpty (Answer question) → holds [] none) ∧
      ∀ answer, (next answer).Settles fun trace value =>
        holds (⟨question, answer⟩ :: trace) value

section Settles

variable {holds weaker : List (Event Ask Answer) → Option α → Prop}

theorem Settles.mono {program : Prog Ask Answer α}
    (settles : program.Settles holds)
    (weakens : ∀ trace value, holds trace value → weaker trace value) :
    program.Settles weaker := by
  induction program generalizing holds weaker with
  | done value => exact weakens [] (some value) settles
  | ask question next induction =>
      exact ⟨fun noAnswer => weakens [] none (settles.1 noAnswer),
        fun answer => induction answer (settles.2 answer)
          fun trace value => weakens _ value⟩

theorem Settles.run {program : Prog Ask Answer α} (settles : program.Settles holds)
    {world : (question : Ask) → σ → Option (Answer question × σ)}
    (answers : ∀ question state, Nonempty (Answer question) →
      (world question state).isSome = true) (state : σ) :
    holds (program.run world state).trace (program.run world state).value := by
  induction program generalizing holds state with
  | done value => exact settles
  | ask question next induction =>
      cases answered : world question state with
      | none =>
          rw [run_stopped _ answered]
          refine settles.1 (not_nonempty_iff.mp fun hasAnswer => ?_)
          have isAnswered := answers question state hasAnswer
          rw [answered] at isAnswered
          cases isAnswered
      | some pair =>
          obtain ⟨answer, after⟩ := pair
          rw [run_answered _ answered]
          exact induction answer (settles.2 answer) after

end Settles

/-- Which questions may be put, which answers are possible, and what they do to a state
that only the specification sees. -/
structure Protocol (Ask : Type u) (Answer : Ask → Type v) (σ : Type t) where
  may : σ → Ask → Prop
  possible : (question : Ask) → Answer question → Prop
  after : σ → (question : Ask) → Answer question → σ

/-- Every question is allowed in its turn, and a run ends in a good state. -/
def Obeys (protocol : Protocol Ask Answer σ) (ends : σ → α → Prop) :
    Prog Ask Answer α → σ → Prop
  | .done value, state => ends state value
  | .ask question next, state =>
      protocol.may state question ∧ ∀ answer, protocol.possible question answer →
        (next answer).Obeys protocol ends (protocol.after state question answer)

theorem Obeys.bind {protocol : Protocol Ask Answer σ} {middle : σ → α → Prop}
    {ends : σ → β → Prop} {program : Prog Ask Answer α} {next : α → Prog Ask Answer β}
    {state : σ} (first : program.Obeys protocol middle state)
    (rest : ∀ state value, middle state value → (next value).Obeys protocol ends state) :
    (program.bind next).Obeys protocol ends state := by
  induction program generalizing state with
  | done value => exact rest state value first
  | ask question following induction =>
      exact ⟨first.1, fun answer possible => induction answer (first.2 answer possible)⟩

end Prog

end Rkipc.Interaction
