import Rkipc.Rpc.Arguments

namespace Rkipc.Rpc

open Interaction

/-! The strings that a client sends and the functions that read them. -/

def AllTerminated (arguments : List Argument) : Prop :=
  ∀ pointer ∈ arguments.filterMap Argument.pointer?, pointer.Terminated

/-- The handler calls with the arguments received, and reads them, only where
every string is terminated; otherwise it fails without a call. -/
structure Safe {σ : Type} (taken : Taken (List Argument))
    (outcome : Outcome Ask Ask.Answer σ Word) : Prop where
  calls : ∀ call ∈ Trace.calls outcome.trace,
    taken = .got call.arguments ∧ AllTerminated call.arguments
  reads : ∀ strings, ⟨.inside (.debug strings), true⟩ ∈ outcome.trace →
    ∀ pointer ∈ strings, pointer.Terminated
  fails : (∀ arguments, taken = .got arguments → ¬ AllTerminated arguments) →
    Trace.calls outcome.trace = [] ∧
      ∃ value, outcome.value = some value ∧ value ≠ 0

/-- The stream ends first, the handler refuses an empty string, or every string is
terminated. -/
def Taken.Fine : Taken (List Argument) → Prop
  | .closed _ => True
  | .empty returned => returned ≠ 0
  | .got arguments => AllTerminated arguments

section Quiet

variable {σ : Type} {taken : Taken (List Argument)} {before : Trace}

theorem calls_of_quiet (quiet : ∀ event ∈ before, Quiet event.1) :
    before.calls = [] := by
  refine List.filterMap_eq_nil_iff.mpr fun event member => ?_
  have isQuiet := quiet event member
  unfold callOf
  split
  next => cases isQuiet
  next => rfl

theorem safe_foldr (quiet : ∀ event ∈ before, Quiet event.1)
    (outcome : Outcome Ask Ask.Answer σ Word) :
    Safe taken (before.foldr Outcome.prepend outcome) ↔ Safe taken outcome := by
  have calls : Trace.calls (before ++ outcome.trace) =
      Trace.calls outcome.trace := by
    have none := calls_of_quiet quiet
    unfold Trace.calls at none ⊢
    rw [List.filterMap_append, none, List.nil_append]
  have reads : ∀ strings, ⟨.inside (.debug strings), true⟩ ∈ before ++ outcome.trace ↔
      ⟨.inside (.debug strings), true⟩ ∈ outcome.trace := by
    intro strings
    rw [List.mem_append]
    exact or_iff_right fun member => nomatch quiet _ member
  constructor
  · rintro ⟨isCalls, isReads, fails⟩
    simp only [Outcome.foldr_prepend_trace, Outcome.foldr_prepend_value, calls,
      reads] at isCalls isReads fails
    exact ⟨isCalls, isReads, fails⟩
  · rintro ⟨isCalls, isReads, fails⟩
    constructor <;>
      simp only [Outcome.foldr_prepend_trace, Outcome.foldr_prepend_value, calls,
        reads]
    · exact isCalls
    · exact isReads
    · exact fails

theorem safe_done (nothing : ∀ arguments, taken ≠ .got arguments) {value : Word}
    {state : σ} : Safe taken ⟨[], state, some value⟩ ↔ value ≠ 0 := by
  constructor
  · intro safe
    obtain ⟨_, _, same, nonzero⟩ := safe.fails fun arguments got =>
      absurd got (nothing arguments)
    cases same
    exact nonzero
  · exact fun nonzero => ⟨nofun, nofun, fun _ => ⟨rfl, value, rfl, nonzero⟩⟩

end Quiet

section Finish

/-- A question about these arguments. -/
def Concerns (arguments : List Argument) : Ask → Prop
  | .inside (.call _ called) => called = arguments
  | .inside (.debug strings) =>
      strings = arguments.filterMap Argument.pointer?
  | _ => True

variable {arguments : List Argument} {next : Handler}

theorem concerns_writeOr (value : Word) (bytes : List UInt8)
    (concerns : next.Asks (Concerns arguments)) :
    (writeOr (.done value) bytes next).Asks (Concerns arguments) := by
  refine ⟨trivial, fun sent => ?_⟩
  cases sent with
  | closed => trivial
  | all => exact concerns
  | failed => exact concerns

theorem concerns_write (value : Word) (item : Item)
    (concerns : next.Asks (Concerns arguments)) :
    (item.write (.done value) next).Asks (Concerns arguments) := by
  cases item with
  | word word => exact concerns_writeOr value _ concerns
  | string string =>
      cases string with
      | none => exact ⟨trivial, nofun⟩
      | some string =>
          refine concerns_writeOr value _ ?_
          unfold writeCharsOr
          split
          · exact concerns
          · exact concerns_writeOr value _ concerns

theorem concerns_writeItems (value : Word) (items : List Item)
    (concerns : next.Asks (Concerns arguments)) :
    (writeItems (.done value) items next).Asks (Concerns arguments) := by
  induction items with
  | nil => exact concerns
  | cons item items induction => exact concerns_write value item induction

theorem concerns_log (logs moment : Logs)
    (concerns : next.Asks (Concerns arguments)) :
    (logs.log moment arguments next).Asks (Concerns arguments) := by
  unfold Logs.log
  split
  · exact ⟨rfl, fun _ => concerns⟩
  · exact concerns

theorem concerns_finish (form : Form) (arguments : List Argument) :
    (form.finish arguments).Asks (Concerns arguments) := by
  refine concerns_log _ _ ?_
  split
  · trivial
  · refine ⟨rfl, fun reply => concerns_log _ _ ?_⟩
    exact concerns_writeItems _ _ trivial

/-- The handler has called its function, or returns 0. -/
def CallsOrSucceeds (trace : Trace) (value : Word) : Prop :=
  trace.calls ≠ [] ∨ value = 0

theorem always_true {handler : Handler} :
    handler.Always fun _ _ => True := by
  induction handler with
  | done value => trivial
  | ask question next induction => exact induction

theorem calls_log (logs moment : Logs) {next : Handler}
    (calls : next.Always CallsOrSucceeds) :
    (logs.log moment arguments next).Always CallsOrSucceeds := by
  unfold Logs.log
  split
  · exact fun _ => Prog.Always.mono calls fun trace value holds => holds
  · exact calls

theorem calls_finish (form : Form) (arguments : List Argument) :
    (form.finish arguments).Always CallsOrSucceeds := by
  refine calls_log _ _ ?_
  split
  · exact .inr rfl
  · intro reply
    exact Prog.Always.mono always_true fun _ _ _ => .inl (by simp)

variable {σ : Type} {environment : Environment σ}

theorem safe_finish (form : Form) (arguments : List Argument)
    (connection : Connection σ) :
    Safe (.got arguments) ((form.finish arguments).run environment.world
      connection) ↔ AllTerminated arguments := by
  constructor
  · intro safe
    by_contra unterminated
    obtain ⟨noCall, value, ends, nonzero⟩ := safe.fails fun other same => by
      cases same
      exact unterminated
    rcases Prog.Always.run (calls_finish form arguments) ends with calls | zero
    · exact calls noCall
    · exact nonzero zero
  · intro terminated
    have concerns := (concerns_finish form arguments).trace environment.world
      connection
    refine ⟨fun call member => ?_, fun strings member => ?_, ?_⟩
    · obtain ⟨⟨question, answer⟩, isIn, isCall⟩ := List.mem_filterMap.mp member
      have about := concerns _ isIn
      unfold callOf at isCall
      split at isCall
      next backend called reply same =>
        cases same
        cases isCall
        have same : called = arguments := about
        exact ⟨by rw [same], same ▸ terminated⟩
      next => cases isCall
    · have same : strings = arguments.filterMap Argument.pointer? :=
        concerns _ member
      exact same ▸ terminated
    · exact fun unterminated => absurd terminated (unterminated arguments rfl)

end Finish

section Handlers

def Slot.takesString : Slot → Bool
  | .int _ => false
  | _ => true

def Form.takesString (form : Form) : Bool := form.slots.any Slot.takesString

/-- A handler that takes strings fails when the stream ends in its arguments. -/
theorem onClosed_ne_zero (backend : String) (shape : Shape)
    (takes : (shape.form backend).takesString = true) :
    ∀ onClosed, Slot.int onClosed ∈ (shape.form backend).slots →
      onClosed ≠ 0 := by
  revert takes
  cases shape <;> simp [Shape.form, Form.takesString, Slot.takesString]

variable {σ : Type} {environment : Environment σ}

theorem closed_andThen {α β : Type} {first : Taken α × Connection σ}
    {rest : α → Connection σ → Taken β × Connection σ} {returned : Word}
    (closed : (Taken.andThen first rest).1 = .closed returned) :
    first.1 = .closed returned ∨
      ∃ value after, (rest value after).1 = .closed returned := by
  obtain ⟨taken, after⟩ := first
  cases taken with
  | closed other => exact .inl (by simpa [Taken.andThen] using closed)
  | empty other => simp [Taken.andThen] at closed
  | got value => exact .inr ⟨value, after, closed⟩

theorem closed_takeWord {onClosed returned : Word} {connection : Connection σ}
    (closed : (Environment.takeWord onClosed connection).1 = .closed returned) :
    returned = onClosed := by
  unfold Environment.takeWord at closed
  split at closed
  · cases closed
  · cases closed
    rfl

theorem closed_takeBuffer {length returned : Word} {connection : Connection σ}
    (closed : (environment.takeBuffer length connection).1 =
      .closed returned) : returned = -1 := by
  unfold Environment.takeBuffer at closed
  dsimp only at closed
  repeat' split at closed
  all_goals
    cases closed
    try rfl

theorem closed_take {slot : Slot} {connection : Connection σ} {returned : Word}
    (fails : ∀ onClosed, slot = .int onClosed → onClosed ≠ 0)
    (closed : (environment.take slot connection).1 = .closed returned) :
    returned ≠ 0 := by
  unfold Environment.take at closed
  cases slot with
  | int onClosed =>
      rcases closed_andThen closed with word | ⟨value, after, got⟩
      · rw [closed_takeWord word]
        exact fails onClosed rfl
      · cases got
  | string =>
      rcases closed_andThen closed with word | ⟨len, after, buffer⟩
      · rw [closed_takeWord word]
        decide
      · rw [closed_takeBuffer buffer]
        decide
  | optional | nonempty =>
      rcases closed_andThen closed with word | ⟨len, after, buffer⟩
      · rw [closed_takeWord word]
        decide
      · split at buffer
        · cases buffer
        · rw [closed_takeBuffer buffer]
          decide

theorem closed_takeAll {slots : List Slot} {arguments : List Argument}
    {connection : Connection σ} {returned : Word}
    (fails : ∀ onClosed, Slot.int onClosed ∈ slots → onClosed ≠ 0)
    (closed : (environment.takeAll slots arguments connection).1 =
      .closed returned) :
    returned ≠ 0 := by
  induction slots generalizing arguments connection with
  | nil => cases closed
  | cons slot slots induction =>
      rcases closed_andThen closed with first | ⟨argument, after, rest⟩
      · refine closed_take (fun onClosed same => ?_) first
        exact fails onClosed (same ▸ .head _)
      · exact induction (fun onClosed member =>
          fails onClosed (.tail _ member)) rest

/-- What the bytes on the connection are to the handler. -/
def Form.taken (form : Form) (environment : Environment σ)
    (connection : Connection σ) : Taken (List Argument) :=
  (environment.takeAll form.slots form.fixed connection).1

theorem safe_shape (backend : String) {shape : Shape}
    (takes : (shape.form backend).takesString = true)
    (connection : Connection σ) :
    Safe ((shape.form backend).taken environment connection)
        ((shape.serve backend).run environment.world connection) ↔
      ((shape.form backend).taken environment connection).Fine := by
  obtain ⟨before, quiet, run⟩ := reaches_takeArguments
    (shape.form backend).slots
    (shape.form backend).fixed (shape.form backend).finish connection
  rw [serve_form, Form.serve, run, safe_foldr quiet]
  have fails := onClosed_ne_zero backend shape takes
  unfold Form.taken
  cases taken : (environment.takeAll (shape.form backend).slots
      (shape.form backend).fixed connection).1 with
  | closed returned =>
      have nonzero := closed_takeAll fails taken
      exact iff_of_true ((safe_done (by simp)).mpr nonzero) trivial
  | empty returned => exact safe_done (by simp)
  | got arguments => exact safe_finish _ arguments _

/-- A handler that takes strings treats those of its client safely if and only if
the stream ends before they are there, the handler refuses an empty string, or
each of them has its terminator. -/
theorem safe_iff {entry : FunMap} (member : entry ∈ map) :
    ∃ shape, entry.HasShape shape ∧
      ((shape.form entry.funName).takesString = true →
        ∀ {σ : Type} (environment : Environment σ) (connection : Connection σ),
          Safe ((shape.form entry.funName).taken environment connection)
              (entry.serve.run environment.world connection) ↔
            ((shape.form entry.funName).taken environment connection).Fine) := by
  obtain ⟨shape, shaped⟩ := shaped_map entry member
  refine ⟨shape, shaped, fun takes σ environment connection => ?_⟩
  rw [shaped.serves]
  exact safe_shape entry.funName takes connection

end Handlers

/-- Memory for everybody, modules that succeed and a log that is read. -/
def talkative : Environment Unit where
  inside
    | .malloc _, _ => (true, ())
    | .unset, _ => (fun _ => 0, ())
    | .beyond, _ => (fun _ => 0, ())
    | .stale, _ => ((), ())
    | .invoke _, _ => ((), ())
    | .debug _, _ => (true, ())
    | .call _ _, _ => (⟨0, fun _ => 0, fun _ => some []⟩, ())
  sent _ _ := (.all, ())

theorem safe_iff_forget :
    ∃ shape, FunMap.HasShape ⟨"rk_wifi_forget_with_ssid", serRkWifiForgetWithSsid⟩
        shape ∧
      ((shape.form "rk_wifi_forget_with_ssid").takesString = true →
        ∀ {σ : Type} (environment : Environment σ) (connection : Connection σ),
          Safe ((shape.form "rk_wifi_forget_with_ssid").taken environment
                connection)
              (serRkWifiForgetWithSsid.run environment.world connection) ↔
            ((shape.form "rk_wifi_forget_with_ssid").taken environment
              connection).Fine) :=
  have member : ⟨"rk_wifi_forget_with_ssid", serRkWifiForgetWithSsid⟩ ∈ map :=
    List.mem_of_getElem? (i := 220) rfl
  safe_iff member

/-- `ser_rk_wifi_forget_with_ssid` gives a string without an end to the function
behind it. -/
theorem unterminated_string_passed :
    ¬ ∀ entry ∈ map, ∀ shape, entry.HasShape shape →
      (shape.form entry.funName).takesString = true →
      ∀ (σ : Type) (environment : Environment σ) (connection : Connection σ),
        Safe ((shape.form entry.funName).taken environment connection)
          (entry.serve.run environment.world connection) := by
  intro general
  have member : ⟨"rk_wifi_forget_with_ssid", serRkWifiForgetWithSsid⟩ ∈ map :=
    List.mem_of_getElem? (i := 220) rfl
  have shaped : FunMap.HasShape
      ⟨"rk_wifi_forget_with_ssid", serRkWifiForgetWithSsid⟩ .wifiForget :=
    ⟨rfl, by simp [statusDropped, Shape.dropsStatus]⟩
  have safe := general _ member _ shaped rfl Unit talkative
    ⟨Word.bytes 1 ++ [65], ()⟩
  have terminated : AllTerminated [.string (.buffer 1 [65])] :=
    (safe_shape "rk_wifi_forget_with_ssid" rfl _).mp safe
  exact absurd (terminated _ (.head _)) (by simp [Pointer.Terminated])

end Rkipc.Rpc
