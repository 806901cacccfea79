import Rkipc.Rpc.Dispatch
import Rkipc.Rpc.Replies

namespace Rkipc.Rpc

open Interaction

/-! Requests and replies of a connection, one after the other. -/

/-- What a client sends for an argument. -/
inductive Field
  | int (value : Word)
  | string (bytes : List UInt8)
deriving DecidableEq

def Field.bytes : Field → List UInt8
  | .int value => Word.bytes value
  | .string bytes => Word.bytes (lengthOf bytes) ++ bytes

/-- The field is what the handler takes, with a length that is not negative. -/
def Field.Fits : Slot → Field → Prop
  | .int _, .int _ => True
  | .int _, .string _ => False
  | .string, .string bytes | .optional, .string bytes
  | .nonempty _, .string bytes => bytes.length < 2 ^ 31
  | .string, .int _ | .optional, .int _ | .nonempty _, .int _ => False

structure Request where
  entry : FunMap
  shape : Shape
  fields : List Field
  member : entry ∈ map
  shaped : entry.HasShape shape
  fits : List.Forall₂ Field.Fits (shape.form entry.funName).slots fields

namespace Request

variable (request : Request)

def form : Form := request.shape.form request.entry.funName

def name : List UInt8 := request.entry.name ++ [0]

def bytes : List UInt8 :=
  Word.bytes (lengthOf request.name) ++ request.name ++
    request.fields.flatMap Field.bytes

/-- What the client expects: the items of the handler and the final word of
`rec_thread`. -/
def kinds : List Kind := request.form.items.map Source.kind ++ [.word]

end Request

/-- The pass has answered the request with one reply of the kinds that its name
tells, has taken nothing of what follows the request and goes on. -/
structure Served {σ : Type} (kinds : List Kind) (rest : List UInt8)
    (outcome : Outcome Ask Ask.Answer (Connection σ) (Word × Word)) : Prop where
  reply : IsReply kinds (Trace.sends outcome.trace).flatten
  taken : outcome.state.input = rest
  goesOn : ∃ len, outcome.value = some (0, len)

section Session

variable {σ : Type} (environment : Environment σ)

def serveNext (request : Request) (later : List Request) (len : Word)
    (state : σ) : Outcome Ask Ask.Answer (Connection σ) (Word × Word) :=
  (turn len).run environment.world
    ⟨request.bytes ++ later.flatMap Request.bytes, state⟩

/-- Every request of the connection is served. -/
def InStep : List Request → Word → σ → Prop
  | [], _, _ => True
  | request :: later, len, state =>
      let outcome := serveNext environment request later len state
      Served request.kinds (later.flatMap Request.bytes) outcome ∧
        ∀ next, outcome.value = some (0, next) →
          InStep later next outcome.state.state

/-- What the handler gets can be written as its name tells: the strings are there,
and `rec_thread` gets a status of 0. -/
def Form.Answered (form : Form) (arguments : List Argument) (state : σ) : Prop :=
  match form.backend with
  | none => form.items = []
  | some backend =>
      let logged :=
        if form.logs = .before then
          (environment.inside
            (.debug (arguments.filterMap Argument.pointer?)) state).2
        else state
      let reply := (environment.inside (.call backend arguments) logged).1
      (∀ source ∈ form.items, (source.item reply).Sound) ∧
        (form.returnsStatus = true → reply.status = 0)

/-- The state in which the handler of the request begins. -/
def Request.begins (request : Request) (state : σ) : σ :=
  let named := (environment.inside (.malloc (lengthOf request.name)) state).2
  (environment.inside (.invoke request.entry.funName) named).2

/-- No string is empty that the handler does not go on with, unless it answers
nothing anyway, and what it gets is answered. -/
def Request.Answered (request : Request) (state : σ) : Prop :=
  match environment.takeAll request.form.slots request.form.fixed
      ⟨request.fields.flatMap Field.bytes, request.begins environment state⟩ with
  | (.closed _, _) => False
  | (.empty returned, _) => returned = 0 ∧ request.form.items = []
  | (.got arguments, connection) =>
      request.form.Answered environment arguments connection.state

def AllAnswered : List Request → Word → σ → Prop
  | [], _, _ => True
  | request :: later, len, state =>
      let outcome := serveNext environment request later len state
      request.Answered environment state ∧
        ∀ next, outcome.value = some (0, next) →
          AllAnswered later next outcome.state.state

end Session

/-- `malloc` gives a buffer of every positive size. -/
def Environment.Roomy {σ : Type} (environment : Environment σ) : Prop :=
  ∀ length state, 0 < BitVec.toInt length →
    (environment.inside (.malloc length) state).1 = true

section Arguments

variable {σ : Type} {environment : Environment σ}

theorem takeWord_bytes (onClosed value : Word) (rest : List UInt8) (state : σ) :
    Environment.takeWord onClosed ⟨Word.bytes value ++ rest, state⟩ =
      (.got value, ⟨rest, state⟩) := by
  have taken : (Word.bytes value ++ rest).take 4 = Word.bytes value := rfl
  have dropped : (Word.bytes value ++ rest).drop 4 = rest := rfl
  have enough : 4 ≤ (Word.bytes value ++ rest).length := by simp
  unfold Environment.takeWord
  rw [if_pos enough, taken, dropped, Word.ofBytes_bytes]

theorem takeBuffer_bytes (roomy : environment.Roomy) {bytes : List UInt8}
    (short : bytes.length < 2 ^ 31) (state : σ) :
    ∃ argument after, ∀ rest,
      environment.takeBuffer (lengthOf bytes) ⟨bytes ++ rest, state⟩ =
        (.got argument, ⟨rest, after⟩) := by
  have toInt := lengthOf_toInt short
  have toNat := lengthOf_toNat short
  unfold Environment.takeBuffer
  dsimp only
  by_cases empty : (lengthOf bytes).toInt ≤ 0
  · have nothing : bytes = [] := List.length_eq_zero_iff.mp (by omega)
    subst nothing
    simp only [if_pos empty]
    exact ⟨_, _, fun rest => rfl⟩
  · have mapped := roomy (lengthOf bytes) state (by omega)
    have nonneg : decide (0 ≤ (lengthOf bytes).toInt) = true :=
      decide_eq_true (by omega)
    refine ⟨.string (.buffer bytes.length bytes),
      (environment.inside (.malloc (lengthOf bytes)) state).2, fun rest => ?_⟩
    have enough : bytes.length ≤ (bytes ++ rest).length := by simp
    rw [if_neg empty, mapped, nonneg, toNat]
    simp only [Bool.and_self, if_true, if_pos enough, List.take_left,
      List.drop_left]

theorem lengthOf_eq_zero {bytes : List UInt8} (short : bytes.length < 2 ^ 31) :
    lengthOf bytes = 0 ↔ bytes = [] := by
  constructor
  · intro zero
    have toNat := lengthOf_toNat short
    rw [zero] at toNat
    exact List.length_eq_zero_iff.mp toNat.symm
  · rintro rfl
    rfl

/-- A field that fits is taken whole, unless an empty string ends the handler
there. -/
theorem take_bytes (roomy : environment.Roomy) {slot : Slot} {field : Field}
    (fits : field.Fits slot) (state : σ) :
    (∃ argument after, ∀ rest,
      environment.take slot ⟨field.bytes ++ rest, state⟩ =
        (.got argument, ⟨rest, after⟩)) ∨
    ∃ onEmpty, slot = .nonempty onEmpty ∧ ∀ rest,
      environment.take slot ⟨field.bytes ++ rest, state⟩ =
        (.empty onEmpty, ⟨rest, state⟩) := by
  cases field with
  | int value =>
      cases slot with
      | int onClosed =>
          refine .inl ⟨.int value, state, fun rest => ?_⟩
          simp only [Environment.take, Field.bytes, takeWord_bytes, Taken.andThen]
      | string | optional | nonempty => exact fits.elim
  | string bytes =>
      cases slot with
      | int onClosed => exact fits.elim
      | string =>
          obtain ⟨argument, after, buffer⟩ := takeBuffer_bytes roomy fits state
          refine .inl ⟨argument, after, fun rest => ?_⟩
          simp only [Environment.take, Field.bytes, List.append_assoc,
            takeWord_bytes, Taken.andThen, buffer]
      | optional =>
          by_cases empty : bytes = []
          · subst empty
            refine .inl ⟨.string .null, state, fun rest => ?_⟩
            simp only [Environment.take, Field.bytes, List.append_assoc,
              takeWord_bytes, Taken.andThen]
            rfl
          · obtain ⟨argument, after, buffer⟩ := takeBuffer_bytes roomy fits state
            refine .inl ⟨argument, after, fun rest => ?_⟩
            simp only [Environment.take, Field.bytes, List.append_assoc,
              takeWord_bytes, Taken.andThen, buffer,
              if_neg (mt (lengthOf_eq_zero fits).mp empty)]
      | nonempty onEmpty =>
          by_cases empty : bytes = []
          · subst empty
            refine .inr ⟨onEmpty, rfl, fun rest => ?_⟩
            simp only [Environment.take, Field.bytes, List.append_assoc,
              takeWord_bytes, Taken.andThen]
            rfl
          · obtain ⟨argument, after, buffer⟩ := takeBuffer_bytes roomy fits state
            refine .inl ⟨argument, after, fun rest => ?_⟩
            simp only [Environment.take, Field.bytes, List.append_assoc,
              takeWord_bytes, Taken.andThen, buffer,
              if_neg (mt (lengthOf_eq_zero fits).mp empty)]

/-- No argument follows one whose emptiness ends the handler. -/
def nonemptyLast : List Slot → Bool
  | [] => true
  | .nonempty _ :: slots => slots.isEmpty
  | _ :: slots => nonemptyLast slots

theorem nonemptyLast_form (backend : String) (shape : Shape) :
    nonemptyLast (shape.form backend).slots = true := by
  cases shape <;> rfl

theorem takeAll_bytes (roomy : environment.Roomy) {slots : List Slot}
    {fields : List Field} (fits : List.Forall₂ Field.Fits slots fields)
    (last : nonemptyLast slots = true) (arguments : List Argument) (state : σ) :
    ∃ taken after, (∀ returned, taken ≠ .closed returned) ∧ ∀ rest,
      environment.takeAll slots arguments
          ⟨fields.flatMap Field.bytes ++ rest, state⟩ =
        (taken, ⟨rest, after⟩) := by
  induction fits generalizing arguments state with
  | nil => exact ⟨.got arguments, state, nofun, fun rest => rfl⟩
  | @cons slot field slots fields fit fits induction =>
      have lastRest : nonemptyLast slots = true := by
        cases slot with
        | int | string | optional => exact last
        | nonempty => simp [List.isEmpty_iff.mp last, nonemptyLast]
      rcases take_bytes roomy fit state with
        ⟨argument, middle, takes⟩ | ⟨onEmpty, rfl, takes⟩
      · obtain ⟨taken, after, notClosed, rest⟩ :=
          induction lastRest (arguments ++ [argument]) middle
        refine ⟨taken, after, notClosed, fun more => ?_⟩
        simp only [List.flatMap_cons, List.append_assoc, Environment.takeAll,
          takes, Taken.andThen, rest]
      · have isLast : slots = [] := List.isEmpty_iff.mp last
        subst isLast
        cases fits
        refine ⟨.empty onEmpty, state, nofun, fun more => ?_⟩
        simp only [List.flatMap_cons, List.flatMap_nil, List.append_nil,
          Environment.takeAll, takes, Taken.andThen]

end Arguments

section Turn

variable {σ : Type} {environment : Environment σ}

theorem Request.name_short (request : Request) :
    request.name.length < 2 ^ 31 := by
  have length := name_length request.member
  simp only [Request.name, List.length_append, List.length_singleton]
  omega

theorem Request.cString_name (request : Request) :
    request.entry.name = cString request.name :=
  (cString_of_compared request.member List.prefix_rfl).2

theorem sends_turn (roomy : environment.Roomy) (request : Request) (len : Word)
    (rest : List UInt8) (state : σ) :
    Sends environment (turn len) ⟨request.bytes ++ rest, state⟩ []
      ((request.entry.serve.bind fun ret =>
          .done (ret, lengthOf request.name)).bind fun (ret, len) =>
        if ret = 0 then .ask (.send (Word.bytes 0)) fun _ => .done (0, len)
        else .done (ret, len))
      ⟨request.fields.flatMap Field.bytes ++ rest,
        request.begins environment state⟩ := by
  have short := request.name_short
  have toInt := lengthOf_toInt short
  have positive : 0 < request.name.length := by simp [Request.name]
  have offers : Offers environment.world request.name true
      ⟨request.bytes ++ rest, state⟩
      ⟨request.name ++ request.fields.flatMap Field.bytes ++ rest, state⟩
      ⟨request.name ++ request.fields.flatMap Field.bytes ++ rest,
        (environment.inside (.malloc (lengthOf request.name)) state).2⟩
      ⟨request.fields.flatMap Field.bytes ++ rest,
        (environment.inside (.malloc (lengthOf request.name)) state).2⟩ := by
    refine ⟨List.ne_nil_of_length_pos positive, short, ?_, ?_, ?_⟩
    · simp only [Request.bytes, List.append_assoc]
      exact world_recv_append (Word.bytes_length _) _
    · have mapped := roomy (lengthOf request.name) state (by omega)
      rw [← mapped]
      exact world_inside rfl
    · rw [List.append_assoc]
      exact world_recv_append rfl _
  have reaches : Reaches environment (again len) _ (select request.name) _ :=
    run_offered offers len
  refine reaches.bind.sends.trans ?_
  have terminated : 0 ∈ request.name := by simp [Request.name]
  unfold select
  rw [dispatch_known request.member terminated request.cString_name]
  exact .inside _ _

theorem run_final (delivers : environment.Delivers) (handler : Handler)
    (len : Word) (connection : Connection σ) :
    let served := handler.run environment.world connection
    let outcome := Prog.run environment.world
      ((handler.bind fun ret => .done (ret, len)).bind fun (ret, len) =>
        if ret = 0 then .ask (.send (Word.bytes 0)) fun _ => .done (0, len)
        else .done (ret, len)) connection
    Trace.sends outcome.trace = Trace.sends served.trace ++
        (if served.value = some 0 then [Word.bytes 0] else []) ∧
      outcome.value = served.value.map (·, len) ∧
      outcome.state.input = served.state.input := by
  simp only [Prog.run_bind]
  generalize handler.run environment.world connection = served
  obtain ⟨trace, ⟨input, state⟩, value⟩ := served
  cases value with
  | none => simp [Outcome.andThen]
  | some ret =>
      by_cases zero : ret = 0
      · subst zero
        have answered := world_send delivers (Word.bytes 0) input state
        simp only [Outcome.andThen, Prog.run_done, if_true,
          Prog.run_answered _ answered, Outcome.prepend, List.append_nil]
        exact ⟨List.filterMap_append, rfl, trivial⟩
      · simp only [Outcome.andThen, Prog.run_done, if_neg zero, List.append_nil,
          Option.some.injEq]
        exact ⟨trivial, by simp, trivial⟩

/-- The pass sends what the handler sends, and a final word when it returns 0. -/
theorem run_turn (roomy : environment.Roomy) (delivers : environment.Delivers)
    (request : Request) (len : Word) (rest : List UInt8) (state : σ) :
    let served := request.entry.serve.run environment.world
      ⟨request.fields.flatMap Field.bytes ++ rest,
        request.begins environment state⟩
    let outcome := (turn len).run environment.world
      ⟨request.bytes ++ rest, state⟩
    Trace.sends outcome.trace = Trace.sends served.trace ++
        (if served.value = some 0 then [Word.bytes 0] else []) ∧
      outcome.value = served.value.map (·, lengthOf request.name) ∧
      outcome.state.input = served.state.input := by
  intro served outcome
  obtain ⟨finalSends, finalValue, finalInput⟩ := run_final delivers
    request.entry.serve (lengthOf request.name)
    ⟨request.fields.flatMap Field.bytes ++ rest,
      request.begins environment state⟩
  obtain ⟨sends, value, after⟩ := (sends_turn roomy request len rest state).run
  exact ⟨sends.trans finalSends, value.trans finalValue,
    (congrArg _ after).trans finalInput⟩

/-- The handler returns 0 after the items of its reply; the final word follows. -/
def Completes (kinds : List Kind) (input : List UInt8)
    (served : Outcome Ask Ask.Answer (Connection σ) Word) : Prop :=
  IsReply (kinds ++ [.word]) ((Trace.sends served.trace).flatten ++
      if served.value = some 0 then Word.bytes 0 else []) ∧
    served.state.input = input ∧ served.value = some 0

theorem Sends.completes_iff {program next : Handler}
    {start after : Connection σ}
    (sends : Sends environment program start [] next after) (kinds : List Kind)
    (input : List UInt8) :
    Completes kinds input (program.run environment.world start) ↔
      Completes kinds input (next.run environment.world after) := by
  obtain ⟨parts, value, state⟩ := sends.run
  unfold Completes
  rw [parts, value, state, List.nil_append]

theorem served_iff_completes (roomy : environment.Roomy)
    (delivers : environment.Delivers) (request : Request) (len : Word)
    (rest : List UInt8) (state : σ) :
    Served request.kinds rest ((turn len).run environment.world
        ⟨request.bytes ++ rest, state⟩) ↔
      Completes (request.form.items.map Source.kind) rest
        (request.entry.serve.run environment.world
          ⟨request.fields.flatMap Field.bytes ++ rest,
            request.begins environment state⟩) := by
  generalize isServed : request.entry.serve.run environment.world
      ⟨request.fields.flatMap Field.bytes ++ rest,
        request.begins environment state⟩ = served
  obtain ⟨sends, value, input⟩ :=
    run_turn roomy delivers request len rest state
  rw [isServed] at sends value input
  have flat : (Trace.sends ((turn len).run environment.world
      ⟨request.bytes ++ rest, state⟩).trace).flatten =
      (Trace.sends served.trace).flatten ++
        if served.value = some 0 then Word.bytes 0 else [] := by
    rw [sends, List.flatten_append]
    split <;> simp
  constructor
  · rintro ⟨reply, taken, next, goesOn⟩
    rw [flat] at reply
    rw [input] at taken
    rw [value] at goesOn
    refine ⟨reply, taken, ?_⟩
    obtain ⟨ret, returned, same⟩ := Option.map_eq_some_iff.mp goesOn
    cases same
    exact returned
  · rintro ⟨reply, taken, returned⟩
    refine ⟨?_, input.trans taken, lengthOf request.name, ?_⟩
    · rw [flat]
      exact reply
    · rw [value]
      exact congrArg _ returned

end Turn

section Answer

variable {σ : Type} {environment : Environment σ}

theorem isReply_final (kinds : List Kind) :
    IsReply (kinds ++ [.word]) (Word.bytes 0) ↔ kinds = [] := by
  constructor
  · intro isReply
    by_contra nonempty
    have read := isReply []
    rw [List.append_nil, readReply_final nonempty] at read
    cases read
  · rintro rfl
    intro more
    rfl

theorem sends_log (logs moment : Logs) (arguments : List Argument)
    (next : Handler) (input : List UInt8) (state : σ) :
    Sends environment (logs.log moment arguments next) ⟨input, state⟩ [] next
      ⟨input, if logs = moment then
          (environment.inside
            (.debug (arguments.filterMap Argument.pointer?)) state).2
        else state⟩ := by
  unfold Logs.log
  split
  · exact .inside _ _
  · exact .refl _ _

theorem sends_call (backend : String) (arguments : List Argument)
    (next : Reply → Handler) (input : List UInt8) (state : σ) :
    Sends environment (call backend arguments next) ⟨input, state⟩ []
      (next (environment.inside (.call backend arguments) state).1)
      ⟨input, (environment.inside (.call backend arguments) state).2⟩ :=
  .inside (.call backend arguments) next

theorem completes_answer (delivers : environment.Delivers) (form : Form)
    (reply : Reply) (input : List UInt8) (state : σ) :
    Completes (form.items.map Source.kind) input
        ((form.answer reply).run environment.world ⟨input, state⟩) ↔
      (∀ source ∈ form.items, (source.item reply).Sound) ∧
        (form.returnsStatus = true → reply.status = 0) := by
  generalize isServed :
    (form.answer reply).run environment.world ⟨input, state⟩ = served
  have kinds : form.items.map Source.kind =
      (form.items.map (·.item reply)).map Item.kind := by
    simp
  have allSound : (∀ source ∈ form.items, (source.item reply).Sound) ↔
      ∀ item ∈ form.items.map (·.item reply), item.Sound := by
    simp
  rw [kinds, allSound]
  by_cases sound : ∀ item ∈ form.items.map (·.item reply), item.Sound
  · have sent : ∃ after, Sends environment (form.answer reply) ⟨input, state⟩
        ((form.items.map (·.item reply)).flatMap Item.parts)
        (.done (if form.returnsStatus then reply.status else 0)) ⟨input, after⟩ :=
      sends_writeItems delivers _ sound
    obtain ⟨after, sends⟩ := sent
    have run := sends.run
    rw [isServed] at run
    obtain ⟨parts, value, last⟩ := run
    unfold Completes
    rw [parts, value, last]
    simp only [Prog.run_done, Trace.sends_nil, List.append_nil, Option.some.injEq,
      true_and, and_iff_right sound]
    constructor
    · rintro ⟨_, zero⟩ returns
      rwa [if_pos returns] at zero
    · intro status
      have zero : (if form.returnsStatus = true then reply.status else 0) = 0 := by
        split
        next returns => exact status returns
        next => rfl
      refine ⟨fun more => ?_, zero⟩
      rw [if_pos zero, readReply_append, List.append_assoc,
        readReply_sound sound, Option.bind_some]
      exact congrArg (Option.bind · _) (readItem_word 0 more)
  · refine iff_of_false (fun both => ?_) (fun both => sound both.1)
    have crashed : served.value = none →
        (if served.value = some 0 then Word.bytes 0 else []) = [] := by
      intro none
      simp [none]
    have read := both.1 []
    subst isServed
    have stops := readReply_unsound delivers (.done form.onClosed) sound [.word]
      crashed
    rw [List.append_nil] at read
    cases read.symm.trans stops

theorem completes_finish (delivers : environment.Delivers) (form : Form)
    (arguments : List Argument) (input : List UInt8) (state : σ) :
    Completes (form.items.map Source.kind) input
        ((form.finish arguments).run environment.world ⟨input, state⟩) ↔
      form.Answered environment arguments state := by
  unfold Form.finish Form.Answered
  rw [(sends_log _ _ _ _ _ _).completes_iff]
  cases form.backend with
  | none =>
      simp only [Completes, Prog.run_done, Trace.sends_nil, List.flatten_nil,
        if_true, List.nil_append, and_true, isReply_final, List.map_eq_nil_iff]
  | some backend =>
      dsimp only
      rw [(sends_call _ _ _ _ _).completes_iff,
        (sends_log _ _ _ _ _ _).completes_iff, completes_answer delivers]

/-- A request is served if and only if what the handler gets can be written as its
name tells. -/
theorem served_iff (roomy : environment.Roomy) (delivers : environment.Delivers)
    (request : Request) (len : Word) (rest : List UInt8) (state : σ) :
    Served request.kinds rest ((turn len).run environment.world
        ⟨request.bytes ++ rest, state⟩) ↔
      request.Answered environment state := by
  obtain ⟨taken, after, notClosed, takes⟩ := takeAll_bytes roomy request.fits
    (nonemptyLast_form _ _) request.form.fixed
    (request.begins environment state)
  have alone := takes []
  rw [List.append_nil] at alone
  have reaches : Reaches environment request.entry.serve
      ⟨request.fields.flatMap Field.bytes ++ rest,
        request.begins environment state⟩
      (taken.resume request.form.finish) ⟨rest, after⟩ := by
    have arguments : Reaches environment _ _ _ _ := reaches_takeArguments
      request.form.slots request.form.fixed request.form.finish
      ⟨request.fields.flatMap Field.bytes ++ rest,
        request.begins environment state⟩
    rw [request.shaped.serves, serve_form]
    unfold Request.form at takes arguments
    rw [takes rest] at arguments
    exact arguments
  rw [served_iff_completes roomy delivers, reaches.sends.completes_iff]
  unfold Request.Answered Request.form
  unfold Request.form at alone
  rw [alone]
  cases taken with
  | closed returned => exact absurd rfl (notClosed returned)
  | empty returned =>
      simp only [Taken.resume, Completes, Prog.run_done, Trace.sends_nil,
        List.flatten_nil, List.nil_append, true_and, Option.some.injEq]
      rw [and_comm, and_congr_right_iff]
      intro zero
      rw [if_pos zero, isReply_final, List.map_eq_nil_iff]
  | got arguments => exact completes_finish delivers _ arguments rest after

end Answer

section Run

variable {σ : Type} {environment : Environment σ}

/-- Where `malloc` finds memory and the client takes what it gets, a sequence of
well-formed requests stays in step with its replies if and only if each request is
answered. -/
theorem inStep_iff (roomy : environment.Roomy) (delivers : environment.Delivers)
    (requests : List Request) (len : Word) (state : σ) :
    InStep environment requests len state ↔
      AllAnswered environment requests len state := by
  induction requests generalizing len state with
  | nil => exact Iff.rfl
  | cons request later induction =>
      refine and_congr (served_iff roomy delivers request len _ state) ?_
      exact forall_congr' fun next => imp_congr_right fun _ => induction next _

def setDeivceName (name : List UInt8) (short : name.length < 2 ^ 31) :
    Request where
  entry := ⟨"rk_system_set_deivce_name", serRkSystemSetDeivceName⟩
  shape := .setString
  fields := [.string name]
  member := List.mem_of_getElem? (i := 264) rfl
  shaped := ⟨rfl, by simp [statusDropped, Shape.dropsStatus]⟩
  fits := .cons short .nil

theorem obliging_roomy : obliging.Roomy := fun _ _ _ => rfl

theorem obliging_delivers : obliging.Delivers := fun _ _ => rfl

theorem inStep_iff_deivceName :
    InStep obliging [setDeivceName [65, 0] (by decide)] 0 () ↔
      AllAnswered obliging [setDeivceName [65, 0] (by decide)] 0 () :=
  inStep_iff obliging_roomy obliging_delivers _ 0 ()

/-- `ser_rk_system_set_deivce_name` answers an empty name with one word and
another name with two. -/
theorem reply_depends_on_argument :
    ¬ ∃ kinds : String → List Kind, ∀ (σ : Type) (environment : Environment σ),
      environment.Roomy → environment.Delivers →
      ∀ (request : Request) (len : Word) (rest : List UInt8) (state : σ),
        Served (kinds request.entry.funName) rest
          ((turn len).run environment.world ⟨request.bytes ++ rest, state⟩) := by
  rintro ⟨kinds, served⟩
  have replies : ∀ name short, IsReply (kinds "rk_system_set_deivce_name")
      (Trace.sends ((turn 0).run obliging.world
        ⟨(setDeivceName name short).bytes ++ [], ()⟩).trace).flatten :=
    fun name short => (served Unit obliging obliging_roomy obliging_delivers
      (setDeivceName name short) 0 [] ()).reply
  have sent : ∀ name short, Trace.sends ((turn 0).run obliging.world
      ⟨(setDeivceName name short).bytes ++ [], ()⟩).trace = _ :=
    fun name short => (run_turn obliging_roomy obliging_delivers
      (setDeivceName name short) 0 [] ()).1
  have empty := replies [] (by decide)
  have nonempty := replies [65, 0] (by decide)
  rw [sent] at empty nonempty
  have short : IsReply (kinds "rk_system_set_deivce_name") (Word.bytes 0) := empty
  have long : IsReply (kinds "rk_system_set_deivce_name")
      (Word.bytes 0 ++ Word.bytes 0) := nonempty
  have left := short (Word.bytes 0)
  have right := long []
  rw [List.append_nil, left] at right
  cases right

end Run

end Rkipc.Rpc
