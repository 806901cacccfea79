import Rkipc.Rpc.Shape

namespace Rkipc.Rpc

open Interaction

/-! The status word of a reply against the status that the call behind the
handler gave. -/

/-- Every `sock_write` has sent what it was given. -/
def Trace.Delivered (trace : Trace) : Prop :=
  ∀ bytes sent, ⟨.send bytes, sent⟩ ∈ trace → sent = Sent.all

/-- The handler comes to its end, and the status word, which handlers send last, is the
status of the call. -/
def Trace.Reported (trace : Trace) (value : Option Word) : Prop :=
  ∀ call ∈ trace.calls, value.isSome = true ∧
    trace.sends.getLast? = some (Word.bytes call.reply.status)

def Trace.Succeeded (trace : Trace) : Prop :=
  ∀ call ∈ trace.calls, call.reply.status = 0

/-- The call has set these of the strings that it gives. -/
def Trace.StringsSet (strings : List Nat) (trace : Trace) : Prop :=
  ∀ call ∈ trace.calls, ∀ index ∈ strings, (call.reply.string index).isSome = true

theorem Word.bytes_injective {left right : Word}
    (same : Word.bytes left = Word.bytes right) : left = right := by
  rw [← Word.ofBytes_bytes left, same, Word.ofBytes_bytes]

def Reports (drops : Bool) (strings : List Nat) (handler : Handler) : Prop :=
  handler.Settles fun trace value => Trace.Delivered trace →
    (Trace.Reported trace value ↔
      (drops = false ∨ Trace.Succeeded trace) ∧ Trace.StringsSet strings trace)

/-- What follows the call sends this status last, unless a string was not set. -/
def EndsWith (status : Word) (isSet : Prop) (handler : Handler) : Prop :=
  handler.Settles fun trace value => Trace.calls trace = [] ∧
    (Trace.Delivered trace → (value.isSome = true ↔ isSet) ∧
      (isSet → (Trace.sends trace).getLast? = some (Word.bytes status)))

section Silent

/-! Questions that are neither a call nor something sent. -/

variable {event : Event Ask Ask.Answer} {trace : Trace}

private theorem delivered_of_cons
    (delivered : Trace.Delivered (event :: trace)) : trace.Delivered :=
  fun bytes sent member =>
    delivered bytes sent (List.mem_cons_of_mem _ member)

variable {question : Ask} {next : question.Answer → Handler} {drops : Bool}
  {strings : List Nat} {status : Word} {isSet : Prop}

private theorem reports_silent (askable : Nonempty question.Answer)
    (notSend : ∀ answer, sendOf ⟨question, answer⟩ = none)
    (notCall : ∀ answer, callOf ⟨question, answer⟩ = none)
    (reports : ∀ answer, Reports drops strings (next answer)) :
    Reports drops strings (.ask question next) := by
  refine ⟨fun noAnswer => absurd askable (not_nonempty_iff.mpr noAnswer), fun answer => ?_⟩
  refine Prog.Settles.mono (reports answer) fun trace _ holds delivered => ?_
  unfold Trace.Reported Trace.Succeeded Trace.StringsSet
  rw [Trace.sends_silent (notSend answer), Trace.calls_silent (notCall answer)]
  exact holds (delivered_of_cons delivered)

private theorem endsWith_silent (askable : Nonempty question.Answer)
    (notSend : ∀ answer, sendOf ⟨question, answer⟩ = none)
    (notCall : ∀ answer, callOf ⟨question, answer⟩ = none)
    (ends : ∀ answer, EndsWith status isSet (next answer)) :
    EndsWith status isSet (.ask question next) := by
  refine ⟨fun noAnswer => absurd askable (not_nonempty_iff.mpr noAnswer), fun answer => ?_⟩
  refine Prog.Settles.mono (ends answer) fun trace _ holds => ?_
  beta_reduce
  rw [Trace.sends_silent (notSend answer), Trace.calls_silent (notCall answer)]
  exact ⟨holds.1, fun delivered => holds.2 (delivered_of_cons delivered)⟩

end Silent

variable {drops : Bool} {strings : List Nat} {status : Word} {isSet : Prop} {next : Handler}

theorem reports_done (value : Word) : Reports drops strings (.done value) := by
  intro _
  simp [Trace.Reported, Trace.Succeeded, Trace.StringsSet, Trace.calls]

theorem reports_readWordOr {onClosed : Handler} {value : Word}
    {next : Word → Handler} (returns : onClosed = .done value)
    (reports : ∀ word, Reports drops strings (next word)) :
    Reports drops strings (readWordOr onClosed next) := by
  refine reports_silent ⟨.closed⟩ (fun _ => rfl) (fun _ => rfl) fun answer => ?_
  cases answer with
  | closed =>
      subst returns
      exact reports_done value
  | all bytes => exact reports _
  | failed bytes =>
      refine reports_silent ⟨()⟩ (fun _ => rfl) (fun _ => rfl) fun _ => ?_
      exact reports_silent ⟨fun _ => 0⟩ (fun _ => rfl) (fun _ => rfl) fun _ => reports _

theorem reports_readWord {next : Word → Handler}
    (reports : ∀ word, Reports drops strings (next word)) :
    Reports drops strings (readWord next) :=
  reports_readWordOr rfl reports

theorem reports_readBuffer {length : Word} {next : Pointer → Handler}
    (reports : ∀ pointer, Reports drops strings (next pointer)) :
    Reports drops strings (readBuffer length next) := by
  refine reports_silent ⟨true⟩ (fun _ => rfl) (fun _ => rfl) fun mapped => ?_
  split
  · exact reports _
  · refine reports_silent ⟨.closed⟩ (fun _ => rfl) (fun _ => rfl) fun answer => ?_
    cases answer with
    | closed => exact reports_done _
    | all bytes => exact reports _
    | failed bytes =>
        exact reports_silent ⟨()⟩ (fun _ => rfl) (fun _ => rfl) fun _ => reports _

theorem reports_debug {logged : List Pointer} (reports : Reports drops strings next) :
    Reports drops strings (debug logged next) :=
  reports_silent ⟨true⟩ (fun _ => rfl) (fun _ => rfl) fun _ => reports

theorem reports_call {backend : String} {arguments : List Argument}
    {next : Reply → Handler}
    (ends : ∀ reply, EndsWith (if drops then 0 else reply.status)
      (∀ index ∈ strings, (reply.string index).isSome = true) (next reply)) :
    Reports drops strings (call backend arguments next) := by
  refine ⟨fun noAnswer => noAnswer.elim ⟨0, fun _ => 0, fun _ => none⟩, fun reply => ?_⟩
  refine Prog.Settles.mono (ends reply) fun trace _ holds delivered => ?_
  obtain ⟨comesToEnd, last⟩ := holds.2 (delivered_of_cons delivered)
  unfold Trace.Reported Trace.Succeeded Trace.StringsSet
  rw [Trace.sends_silent rfl, Trace.calls_call, holds.1]
  simp only [List.forall_mem_singleton]
  rw [comesToEnd, and_comm]
  refine and_congr_left fun isSet => ?_
  rw [last isSet]
  cases drops with
  | false => simp
  | true =>
      simp only [Option.some.injEq, if_pos, Bool.true_eq_false, false_or]
      exact ⟨fun same => (Word.bytes_injective same).symm,
        fun succeeded => by rw [succeeded]⟩

theorem endsWith_congr {other : Prop} (same : isSet ↔ other)
    (ends : EndsWith status isSet next) : EndsWith status other next :=
  propext same ▸ ends

theorem endsWith_lastOr {onClosed : Handler} {value : Word} (returns : onClosed = .done value)
    (result : Word) :
    EndsWith status True (writeOr onClosed (Word.bytes status) (.done result)) := by
  subst returns
  refine ⟨fun noAnswer => noAnswer.elim Sent.all, fun answer => ?_⟩
  cases answer with
  | all => exact ⟨rfl, fun _ => ⟨iff_of_true rfl trivial, fun _ => rfl⟩⟩
  | closed =>
      exact ⟨rfl, fun delivered => nomatch delivered _ _ (.head _)⟩
  | failed =>
      exact ⟨rfl, fun delivered => nomatch delivered _ _ (.head _)⟩

theorem endsWith_last (value : Word) :
    EndsWith status True (writeWord status (.done value)) :=
  endsWith_lastOr rfl value

theorem endsWith_writeOr {onClosed : Handler} {value : Word}
    (returns : onClosed = .done value) (bytes : List UInt8)
    (ends : EndsWith status isSet next) :
    EndsWith status isSet (writeOr onClosed bytes next) := by
  subst returns
  have sent : ∀ answer : Sent, Prog.Settles (fun trace value =>
      Trace.calls (⟨.send bytes, answer⟩ :: trace) = [] ∧
        (Trace.Delivered (⟨.send bytes, answer⟩ :: trace) →
          (value.isSome = true ↔ isSet) ∧ (isSet →
            (Trace.sends (⟨.send bytes, answer⟩ :: trace)).getLast? =
              some (Word.bytes status)))) next := by
    intro answer
    refine Prog.Settles.mono ends fun trace _ holds => ⟨holds.1, fun delivered => ?_⟩
    obtain ⟨comesToEnd, last⟩ := holds.2 (delivered_of_cons delivered)
    refine ⟨comesToEnd, fun isSet => ?_⟩
    rw [Trace.sends_send, List.getLast?_cons, last isSet]
    rfl
  refine ⟨fun noAnswer => noAnswer.elim Sent.all, fun answer => ?_⟩
  cases answer with
  | all => exact sent .all
  | failed => exact sent .failed
  | closed =>
      exact ⟨rfl, fun delivered => nomatch delivered _ _ (.head _)⟩

theorem endsWith_writeWord (word : Word) (ends : EndsWith status isSet next) :
    EndsWith status isSet (writeWord word next) :=
  endsWith_writeOr rfl _ ends

/-- `strlen` of a string that was not set is where a handler stops. -/
theorem endsWith_writeStringOr {onClosed : Handler} {value : Word}
    (returns : onClosed = .done value) (string : Option (List UInt8))
    (ends : EndsWith status isSet next) :
    EndsWith status (string.isSome = true ∧ isSet)
      (writeStringOr onClosed string next) := by
  cases string with
  | none =>
      exact ⟨fun _ => ⟨rfl, fun _ => ⟨by simp, fun isSet => nomatch isSet.1⟩⟩,
        fun answer => nomatch answer⟩
  | some string =>
      refine endsWith_congr (and_iff_right rfl).symm (endsWith_writeOr returns _ ?_)
      unfold writeCharsOr
      split
      · exact ends
      · exact endsWith_writeOr returns _ ends

theorem endsWith_writeString (string : Option (List UInt8))
    (ends : EndsWith status isSet next) :
    EndsWith status (string.isSome = true ∧ isSet) (writeString string next) :=
  endsWith_writeStringOr rfl string ends

theorem endsWith_debug {logged : List Pointer} (ends : EndsWith status isSet next) :
    EndsWith status isSet (debug logged next) :=
  endsWith_silent ⟨true⟩ (fun _ => rfl) (fun _ => rfl) fun _ => ends

theorem reports_readString {next : Pointer → Handler}
    (reports : ∀ pointer, Reports drops strings (next pointer)) :
    Reports drops strings (readString next) :=
  reports_readWord fun _ => reports_readBuffer reports

theorem reports_readOptional {next : Pointer → Handler}
    (reports : ∀ pointer, Reports drops strings (next pointer)) :
    Reports drops strings (readOptional next) := by
  refine reports_readWord fun len => ?_
  split
  · exact reports _
  · exact reports_readBuffer reports

theorem reports_unlessEmpty {onEmpty : Handler} {next : Pointer → Handler}
    (empty : Reports drops strings onEmpty)
    (reports : ∀ pointer, Reports drops strings (next pointer)) :
    Reports drops strings (readWord fun len =>
      if len = 0 then onEmpty else readBuffer len next) := by
  refine reports_readWord fun len => ?_
  split
  · exact empty
  · exact reports_readBuffer reports

theorem reports_replyStatus (backend : String) (arguments : List Argument) :
    Reports false [] (replyStatus backend arguments) :=
  reports_call fun _ => endsWith_congr (by simp) (endsWith_last 0)

theorem reports_replyWord (backend : String) (arguments : List Argument) :
    Reports false [] (replyWord backend arguments) :=
  reports_call fun _ => endsWith_congr (by simp) (endsWith_writeWord _ (endsWith_last 0))

theorem reports_replyString (backend : String) (arguments : List Argument) :
    Reports false [0] (replyString backend arguments) :=
  reports_call fun _ => endsWith_congr (by simp) (endsWith_writeString _ (endsWith_last 0))

theorem reports_shape (backend : String) (shape : Shape) :
    Reports shape.dropsStatus shape.strings (shape.serve backend) := by
  unfold Shape.serve Shape.dropsStatus Shape.strings
  cases shape with
  | word arguments => exact reports_replyWord backend arguments
  | status arguments => exact reports_replyStatus backend arguments
  | string arguments => exact reports_replyString backend arguments
  | wordById => exact reports_readWord fun _ => reports_replyWord _ _
  | stringById => exact reports_readWord fun _ => reports_replyString _ _
  | setWord => exact reports_readWord fun _ => reports_replyStatus _ _
  | setWordById =>
      exact reports_readWord fun _ => reports_readWord fun _ =>
        reports_replyStatus _ _
  | array =>
      exact reports_call fun _ =>
        endsWith_congr (by simp) (endsWith_writeString _ (endsWith_last 0))
  | setString =>
      exact reports_unlessEmpty (reports_done 0) fun _ =>
        reports_debug (reports_replyStatus _ _)
  | setStringById =>
      refine reports_readWord fun id => ?_
      exact reports_unlessEmpty (reports_done 0) fun _ =>
        reports_debug (reports_replyStatus _ _)
  | json =>
      exact reports_unlessEmpty (reports_done 0) fun _ =>
        reports_debug (reports_done 0)
  | setHdr =>
      refine reports_readWord fun id => ?_
      exact reports_unlessEmpty (reports_done 0) fun _ =>
        reports_replyStatus _ _
  | videoResolution =>
      refine reports_readWordOr rfl fun id => ?_
      exact reports_call fun _ => endsWith_congr (by simp) <|
        endsWith_writeStringOr rfl _ (endsWith_lastOr rfl _)
  | ipv4Get =>
      refine reports_unlessEmpty (reports_done _) fun _ => reports_debug ?_
      exact reports_call fun _ => endsWith_congr (by simp) <|
        endsWith_writeString _ <| endsWith_writeString _ <|
          endsWith_writeString _ <| endsWith_writeString _ <| endsWith_last _
  | ipv4Set =>
      exact reports_readString fun _ => reports_readOptional fun _ =>
        reports_readOptional fun _ => reports_readOptional fun _ =>
          reports_readOptional fun _ => reports_call fun _ =>
            endsWith_congr (by simp) (endsWith_last _)
  | dnsGet =>
      exact reports_call fun _ => endsWith_congr (by simp) <|
        endsWith_writeString _ <| endsWith_writeString _ (endsWith_last _)
  | dnsSet =>
      exact reports_readString fun _ => reports_readString fun _ => reports_debug <|
        reports_call fun _ => endsWith_congr (by simp) (endsWith_last _)
  | ofInterface =>
      exact reports_unlessEmpty (reports_done _) fun _ => reports_call fun _ =>
        endsWith_congr (by simp) <| endsWith_debug <|
          endsWith_writeString _ (endsWith_last _)
  | nicspeedGet =>
      exact reports_unlessEmpty (reports_done _) fun _ => reports_call fun _ =>
        endsWith_congr (by simp) <| endsWith_debug <| endsWith_writeWord _ <|
          endsWith_writeWord _ <| endsWith_writeWord _ (endsWith_last _)
  | nicspeedSet =>
      exact reports_readString fun _ => reports_readWord fun _ =>
        reports_readWord fun _ => reports_readWord fun _ => reports_debug <|
          reports_call fun _ => endsWith_congr (by simp) (endsWith_last _)
  | wifiPowerSet =>
      refine reports_readWord fun on => ?_
      exact reports_call fun _ => endsWith_congr (by simp) (endsWith_last _)
  | wifiConnect =>
      exact reports_readString fun _ => reports_readString fun _ =>
        reports_debug (reports_replyStatus _ _)
  | wifiForget =>
      exact reports_readString fun _ => reports_debug (reports_replyStatus _ _)
  | addUser =>
      exact reports_readWord fun _ => reports_readWord fun _ =>
        reports_readString fun _ => reports_readString fun _ =>
          reports_debug (reports_replyStatus _ _)

/-- A client and a server that answer whatever can be answered. -/
def Answers {σ : Type} (world : (ask : Ask) → σ → Option (ask.Answer × σ)) : Prop :=
  ∀ question state, Nonempty question.Answer → (world question state).isSome = true

/-- Every handler has one of the forms.  In a run whose reply reaches the client, the
status word of the reply is the status of the call if and only if the handler is not one
of those that send another variable, or the status is 0 anyway, and the call has set the
strings that the handler sends. -/
theorem status_reported_iff {entry : FunMap} (member : entry ∈ map) :
    ∃ shape, entry.HasShape shape ∧ ∀ (σ : Type)
      (world : (ask : Ask) → σ → Option (ask.Answer × σ)) (state : σ), Answers world →
      Trace.Delivered (entry.serve.run world state).trace →
      (Trace.Reported (entry.serve.run world state).trace
          (entry.serve.run world state).value ↔
        (entry.funName ∉ statusDropped ∨
          Trace.Succeeded (entry.serve.run world state).trace) ∧
          Trace.StringsSet shape.strings (entry.serve.run world state).trace) := by
  obtain ⟨shape, shaped⟩ := shaped_map entry member
  refine ⟨shape, shaped, fun σ world state answers delivered => ?_⟩
  have reports := reports_shape entry.funName shape
  rw [← shaped.serves] at reports
  rw [Prog.Settles.run reports answers state delivered, shaped.drops,
    Bool.not_eq_true]

/-- A client that sends zeros, to a server whose modules give one status. -/
def answering (status : Word) : (ask : Ask) → Unit → Option (ask.Answer × Unit)
  | .recv count _, _ => some (.all (List.replicate count 0), ())
  | .send _, _ => some (.all, ())
  | .crash, _ => none
  | .inside (.malloc _), _ => some (true, ())
  | .inside .unset, _ => some (fun _ => 0, ())
  | .inside .beyond, _ => some (fun _ => 0, ())
  | .inside .stale, _ => some ((), ())
  | .inside (.invoke _), _ => some ((), ())
  | .inside (.debug _), _ => some (false, ())
  | .inside (.call _ _), _ =>
      some (⟨status, fun _ => 0, fun _ => some []⟩, ())

theorem answers_answering (status : Word) : Answers (answering status) := by
  intro question _ hasAnswer
  cases question with
  | recv | send => rfl
  | crash => exact hasAnswer.elim Empty.elim
  | inside question => cases question <;> rfl

theorem delivered_answering (status : Word) (handler : Handler) :
    Trace.Delivered (handler.run (answering status) ()).trace := by
  intro bytes sent member
  induction handler with
  | done value => cases member
  | ask question next induction =>
      cases answered : answering status question () with
      | none =>
          rw [Prog.run_stopped _ answered] at member
          cases member
      | some pair =>
          rw [Prog.run_answered _ answered] at member
          rcases List.mem_cons.mp member with same | member
          · cases same
            cases answered
            rfl
          · exact induction _ member

theorem status_reported_iff_contrast :
    ∃ shape, FunMap.HasShape ⟨"rk_isp_get_contrast", serRkIspGetContrast⟩ shape ∧
      (Trace.Reported (serRkIspGetContrast.run (answering 7) ()).trace (some 0) ↔
        ("rk_isp_get_contrast" ∉ statusDropped ∨
          Trace.Succeeded (serRkIspGetContrast.run (answering 7) ()).trace) ∧
          Trace.StringsSet shape.strings
            (serRkIspGetContrast.run (answering 7) ()).trace) :=
  have member : ⟨"rk_isp_get_contrast", serRkIspGetContrast⟩ ∈ map :=
    List.mem_of_getElem? (i := 5) rfl
  let ⟨shape, shaped, reported⟩ := status_reported_iff member
  ⟨shape, shaped,
    reported Unit (answering 7) () (answers_answering 7) (delivered_answering _ _)⟩

/-- `ser_rk_wifi_power_set` reports 0 for a call that failed. -/
theorem failed_call_reported_as_zero :
    ¬ ∀ entry ∈ map, ∀ (σ : Type)
      (world : (ask : Ask) → σ → Option (ask.Answer × σ)) (state : σ), Answers world →
      Trace.Delivered (entry.serve.run world state).trace →
      Trace.Reported (entry.serve.run world state).trace
        (entry.serve.run world state).value := by
  intro general
  have member : ⟨"rk_wifi_power_set", serRkWifiPowerSet⟩ ∈ map :=
    List.mem_of_getElem? (i := 216) rfl
  have reported := general _ member Unit (answering (-1)) () (answers_answering (-1))
    (delivered_answering _ _)
  have sent := (reported ⟨"rk_wifi_power_set", [.int 0], _⟩ (.head _)).2
  exact absurd sent (by decide)

end Rkipc.Rpc
