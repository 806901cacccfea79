import Rkipc.Rpc.Connection
import Rkipc.Rpc.Shape

namespace Rkipc.Rpc

/-! What the handlers have in common: they take their arguments from the socket,
call one function and write back what it gave. -/

/-- How a handler takes an argument: `optional` is NULL when its length is 0, and
`nonempty` ends the handler then. -/
inductive Slot
  | int (onClosed : Word)
  | string
  | optional
  | nonempty (onEmpty : Word)
deriving DecidableEq

def Slot.take : Slot → (Argument → Handler) → Handler
  | .int onClosed, next =>
      readWordOr (.done onClosed) fun value => next (.int value)
  | .string, next => readString fun pointer => next (.string pointer)
  | .optional, next => readOptional fun pointer => next (.string pointer)
  | .nonempty onEmpty, next =>
      readWord fun len =>
        if len = 0 then .done onEmpty
        else readBuffer len fun pointer => next (.string pointer)

def takeArguments : List Slot → List Argument → (List Argument → Handler) →
    Handler
  | [], arguments, next => next arguments
  | slot :: slots, arguments, next =>
      slot.take fun argument => takeArguments slots (arguments ++ [argument]) next

/-- Where an item of a reply comes from. -/
inductive Source
  | int (index : Nat)
  | string (index : Nat)
  | array
  | status
  | zero
deriving DecidableEq

inductive Item
  | word (value : Word)
  | string (value : Option (List UInt8))
deriving DecidableEq

def Source.item (reply : Reply) : Source → Item
  | .int index => .word (reply.int index)
  | .string index => .string (reply.string index)
  | .array => .string (some ((reply.string 0).getD []))
  | .status => .word reply.status
  | .zero => .word 0

def Item.write (onClosed : Handler) : Item → Handler → Handler
  | .word value, next => writeOr onClosed (Word.bytes value) next
  | .string value, next => writeStringOr onClosed value next

def writeItems (onClosed : Handler) : List Item → Handler → Handler
  | [], next => next
  | item :: items, next => item.write onClosed (writeItems onClosed items next)

/-- When a handler logs the strings that it got. -/
inductive Logs
  | never
  | before
  | after
deriving DecidableEq

def Logs.log (logs : Logs) (moment : Logs) (arguments : List Argument)
    (next : Handler) : Handler :=
  if logs = moment then debug (arguments.filterMap Argument.pointer?) next
  else next

/-- A handler.  `fixed` are the arguments that the handler itself gives to the
call; `returnsStatus` says that `rec_thread` gets the status of the call. -/
structure Form where
  slots : List Slot
  backend : Option String
  fixed : List Argument := []
  items : List Source
  logs : Logs := .never
  onClosed : Word := -1
  returnsStatus : Bool := false

namespace Form

def answer (form : Form) (reply : Reply) : Handler :=
  writeItems (.done form.onClosed) (form.items.map (·.item reply))
    (.done (if form.returnsStatus then reply.status else 0))

def finish (form : Form) (arguments : List Argument) : Handler :=
  form.logs.log .before arguments <|
    match form.backend with
    | none => .done 0
    | some backend =>
        call backend arguments fun reply =>
          form.logs.log .after arguments (form.answer reply)

def serve (form : Form) : Handler :=
  takeArguments form.slots form.fixed form.finish

end Form

def Shape.form (backend : String) : Shape → Form
  | .word arguments =>
      { slots := [], backend := some backend, fixed := arguments,
        items := [.int 0, .status] }
  | .wordById =>
      { slots := [.int (-1)], backend := some backend,
        items := [.int 0, .status] }
  | .status arguments =>
      { slots := [], backend := some backend, fixed := arguments,
        items := [.status] }
  | .setWord =>
      { slots := [.int (-1)], backend := some backend, items := [.status] }
  | .setWordById =>
      { slots := [.int (-1), .int (-1)], backend := some backend,
        items := [.status] }
  | .string arguments =>
      { slots := [], backend := some backend, fixed := arguments,
        items := [.string 0, .status] }
  | .stringById =>
      { slots := [.int (-1)], backend := some backend,
        items := [.string 0, .status] }
  | .array =>
      { slots := [], backend := some backend, items := [.array, .status] }
  | .setString =>
      { slots := [.nonempty 0], backend := some backend, items := [.status],
        logs := .before }
  | .setStringById =>
      { slots := [.int (-1), .nonempty 0], backend := some backend,
        items := [.status], logs := .before }
  | .json => { slots := [.nonempty 0], backend := none, items := [], logs := .before }
  | .setHdr =>
      { slots := [.int (-1), .nonempty 0], backend := some "rk_isp_set_hdr",
        items := [.status] }
  | .videoResolution =>
      { slots := [.int 0], backend := some "rk_video_get_resolution",
        items := [.string 0, .status], onClosed := 0 }
  | .ipv4Get =>
      { slots := [.nonempty (-1)], backend := some "rk_network_ipv4_get",
        items := [.string 0, .string 1, .string 2, .string 3, .zero],
        logs := .before, returnsStatus := true }
  | .ipv4Set =>
      { slots := [.string, .optional, .optional, .optional, .optional],
        backend := some "rk_network_ipv4_set", items := [.zero],
        returnsStatus := true }
  | .dnsGet =>
      { slots := [], backend := some "rk_network_dns_get",
        items := [.string 0, .string 1, .zero], returnsStatus := true }
  | .dnsSet =>
      { slots := [.string, .string], backend := some "rk_network_dns_set",
        items := [.zero], logs := .before, returnsStatus := true }
  | .ofInterface =>
      { slots := [.nonempty (-1)], backend := some backend,
        items := [.string 0, .zero], logs := .after, returnsStatus := true }
  | .nicspeedGet =>
      { slots := [.nonempty (-1)], backend := some "rk_network_nicspeed_get",
        items := [.int 0, .int 1, .int 2, .zero], logs := .after,
        returnsStatus := true }
  | .nicspeedSet =>
      { slots := [.string, .int (-1), .int (-1), .int (-1)],
        backend := some "rk_network_nicspeed_set", items := [.zero],
        logs := .before, returnsStatus := true }
  | .wifiPowerSet =>
      { slots := [.int (-1)], backend := some "rk_wifi_power_set",
        items := [.zero] }
  | .wifiConnect =>
      { slots := [.string, .string],
        backend := some "rk_wifi_connect_with_ssid", items := [.status],
        logs := .before }
  | .wifiForget =>
      { slots := [.string], backend := some "rk_wifi_forget_with_ssid",
        items := [.status], logs := .before }
  | .addUser =>
      { slots := [.int (-1), .int (-1), .string, .string],
        backend := some "rk_system_add_user", items := [.status],
        logs := .before }

theorem serve_form (backend : String) (shape : Shape) :
    shape.serve backend = (shape.form backend).serve := by
  cases shape <;> rfl

open Interaction

/-! What the bytes on a connection are to a handler that takes its arguments from
them. -/

/-- The stream ends first, a length is 0 where the handler ends then, or there is
a value. -/
inductive Taken (α : Type)
  | closed (returned : Word)
  | empty (returned : Word)
  | got (value : α)

namespace Taken

variable {α β : Type} {σ : Type}

def resume (next : α → Handler) : Taken α → Handler
  | .closed returned => .done returned
  | .empty returned => .done returned
  | .got value => next value

def andThen (taken : Taken α × Connection σ)
    (next : α → Connection σ → Taken β × Connection σ) :
    Taken β × Connection σ :=
  match taken with
  | (.closed returned, connection) => (.closed returned, connection)
  | (.empty returned, connection) => (.empty returned, connection)
  | (.got value, connection) => next value connection

end Taken

namespace Environment

variable {σ : Type} (environment : Environment σ)

def takeWord (onClosed : Word) (connection : Connection σ) :
    Taken Word × Connection σ :=
  if 4 ≤ connection.input.length then
    (.got (Word.ofBytes (connection.input.take 4)),
      { connection with input := connection.input.drop 4 })
  else (.closed onClosed, { connection with input := [] })

/-- Without memory nothing is taken from the stream. -/
def takeBuffer (length : Word) (connection : Connection σ) :
    Taken Argument × Connection σ :=
  let (succeeds, after) := environment.inside (.malloc length) connection.state
  let mapped := succeeds && decide (0 ≤ length.toInt)
  if length.toInt ≤ 0 then
    (.got (.string (Pointer.of mapped length [])),
      { connection with state := after })
  else if mapped then
    if length.toNat ≤ connection.input.length then
      (.got (.string (.buffer length.toNat
          (connection.input.take length.toNat))),
        ⟨connection.input.drop length.toNat, after⟩)
    else (.closed (-1), ⟨[], after⟩)
  else if connection.input = [] then (.closed (-1), ⟨[], after⟩)
  else (.got (.string .null),
    { connection with state := (environment.inside .stale after).2 })

def take : Slot → Connection σ → Taken Argument × Connection σ
  | .int onClosed, connection =>
      Taken.andThen (takeWord onClosed connection) fun value connection =>
        (.got (.int value), connection)
  | .string, connection =>
      Taken.andThen (takeWord (-1) connection) environment.takeBuffer
  | .optional, connection =>
      Taken.andThen (takeWord (-1) connection) fun len connection =>
        if len = 0 then (.got (.string .null), connection)
        else environment.takeBuffer len connection
  | .nonempty onEmpty, connection =>
      Taken.andThen (takeWord (-1) connection) fun len connection =>
        if len = 0 then (.empty onEmpty, connection)
        else environment.takeBuffer len connection

def takeAll : List Slot → List Argument → Connection σ →
    Taken (List Argument) × Connection σ
  | [], arguments, connection => (.got arguments, connection)
  | slot :: slots, arguments, connection =>
      Taken.andThen (environment.take slot connection) fun argument =>
        takeAll slots (arguments ++ [argument])

end Environment

section Runs

variable {σ : Type} {environment : Environment σ}

theorem reaches_readWordOr (onClosed : Word) (next : Word → Handler)
    (connection : Connection σ) :
    Reaches environment (readWordOr (.done onClosed) next) connection
      ((Environment.takeWord onClosed connection).1.resume next)
      (Environment.takeWord onClosed connection).2 := by
  unfold Environment.takeWord readWordOr
  split
  next enough => exact Reaches.step (world_recv enough) (.recv _ _)
  next short => exact Reaches.step (world_recv_short short) (.recv _ _)

theorem reaches_readBuffer (length : Word) (next : Argument → Handler)
    (connection : Connection σ) :
    Reaches environment
      (readBuffer length fun pointer => next (.string pointer)) connection
      ((environment.takeBuffer length connection).1.resume next)
      (environment.takeBuffer length connection).2 := by
  obtain ⟨input, state⟩ := connection
  unfold Environment.takeBuffer readBuffer malloc
  refine Reaches.trans (Reaches.step (world_inside rfl) (.malloc _)) ?_
  dsimp only
  generalize ((environment.inside (.malloc length) state).1 &&
    decide (0 ≤ length.toInt)) = mapped
  generalize (environment.inside (.malloc length) state).2 = after
  by_cases empty : length.toInt ≤ 0
  · simp only [if_pos empty]
    exact Reaches.refl _ _
  · simp only [if_neg empty]
    cases mapped with
    | true =>
        simp only [if_true]
        split
        next enough => exact Reaches.step (world_recv enough) (.recv _ _)
        next short => exact Reaches.step (world_recv_short short) (.recv _ _)
    | false =>
        simp only [Bool.false_eq_true, if_false]
        split
        next isEmpty =>
          subst isEmpty
          exact Reaches.step (world_recv_nothing _) (.recv _ _)
        next nonempty =>
          exact Reaches.trans
            (Reaches.step (world_recv_unmapped nonempty _) (.recv _ _))
            (Reaches.step (world_inside rfl) .stale)

theorem Reaches.andThen {α β : Type} {handler : Handler}
    {connection : Connection σ} {first : Taken α × Connection σ}
    {middle : α → Handler} {next : β → Handler}
    {rest : α → Connection σ → Taken β × Connection σ}
    (begins : Reaches environment handler connection (first.1.resume middle)
      first.2)
    (continues : ∀ value after, Reaches environment (middle value) after
      ((rest value after).1.resume next) (rest value after).2) :
    Reaches environment handler connection
      ((Taken.andThen first rest).1.resume next)
      (Taken.andThen first rest).2 := by
  obtain ⟨taken, after⟩ := first
  cases taken with
  | closed returned => exact begins
  | empty returned => exact begins
  | got value => exact begins.trans (continues value after)

theorem reaches_take (slot : Slot) (next : Argument → Handler)
    (connection : Connection σ) :
    Reaches environment (slot.take next) connection
      ((environment.take slot connection).1.resume next)
      (environment.take slot connection).2 := by
  unfold Slot.take readString readOptional readWord
  cases slot with
  | int onClosed =>
      refine .andThen (reaches_readWordOr onClosed _ connection) ?_
      exact fun value after => .refl _ after
  | string =>
      refine .andThen (reaches_readWordOr (-1) _ connection) ?_
      exact fun len after => reaches_readBuffer len next after
  | optional =>
      refine .andThen (reaches_readWordOr (-1) _ connection) fun len after => ?_
      split
      · exact .refl _ after
      · exact reaches_readBuffer len next after
  | nonempty onEmpty =>
      refine .andThen (reaches_readWordOr (-1) _ connection) fun len after => ?_
      split
      · exact .refl _ after
      · exact reaches_readBuffer len next after

theorem reaches_takeArguments (slots : List Slot) (arguments : List Argument)
    (next : List Argument → Handler) (connection : Connection σ) :
    Reaches environment (takeArguments slots arguments next) connection
      ((environment.takeAll slots arguments connection).1.resume next)
      (environment.takeAll slots arguments connection).2 := by
  induction slots generalizing arguments connection with
  | nil => exact .refl _ connection
  | cons slot slots induction =>
      refine .andThen (reaches_take slot _ connection) fun argument after => ?_
      exact induction (arguments ++ [argument]) after

end Runs

end Rkipc.Rpc
