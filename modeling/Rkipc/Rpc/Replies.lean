import Rkipc.Rpc.Arguments

namespace Rkipc.Rpc

open Interaction

/-! The bytes of a reply, as the server writes them and as a client reads them. -/

/-- The items of a reply: an integer, or a length and as many characters. -/
inductive Kind
  | word
  | string
deriving DecidableEq

def Source.kind : Source → Kind
  | .int _ | .status | .zero => .word
  | .string _ | .array => .string

def Item.kind : Item → Kind
  | .word _ => .word
  | .string _ => .string

@[simp] theorem Source.kind_item (reply : Reply) (source : Source) :
    (source.item reply).kind = source.kind := by
  cases source with
  | int index | string index => rfl
  | array | status | zero => rfl

/-- A client that reads an item from the stream and leaves the rest. -/
def readItem : Kind → List UInt8 → Option (List UInt8)
  | .word, stream => if 4 ≤ stream.length then some (stream.drop 4) else none
  | .string, stream =>
      if 4 ≤ stream.length then
        let len := Word.ofBytes (stream.take 4)
        let rest := stream.drop 4
        if 0 ≤ len.toInt ∧ len.toNat ≤ rest.length then some (rest.drop len.toNat)
        else none
      else none

def readReply : List Kind → List UInt8 → Option (List UInt8)
  | [], stream => some stream
  | kind :: kinds, stream => (readItem kind stream).bind (readReply kinds)

/-- A client that expects these items reads this reply and nothing of what
follows it. -/
def IsReply (kinds : List Kind) (reply : List UInt8) : Prop :=
  ∀ more, readReply kinds (reply ++ more) = some more

/-- What a handler writes for the item; nothing for a string that is not there. -/
def Item.parts : Item → List (List UInt8)
  | .word value => [Word.bytes value]
  | .string none => []
  | .string (some chars) =>
      let len := BitVec.ofNat 32 chars.length
      if len.toInt ≤ 0 then [Word.bytes len]
      else [Word.bytes len, chars.take len.toNat]

/-- A string that is there, with a length that an `int` shows as it is or too
small. -/
def Item.Sound : Item → Prop
  | .word _ => True
  | .string none => False
  | .string (some chars) => 0 ≤ (BitVec.ofNat 32 chars.length).toInt

section Client

theorem readReply_append (kinds later : List Kind) (stream : List UInt8) :
    readReply (kinds ++ later) stream =
      (readReply kinds stream).bind (readReply later) := by
  induction kinds generalizing stream with
  | nil => rfl
  | cons kind kinds induction =>
      simp only [List.cons_append, readReply]
      cases readItem kind stream with
      | none => rfl
      | some rest => exact induction rest

theorem readItem_nil (kind : Kind) : readItem kind [] = none := by
  cases kind <;> rfl

theorem readItem_word (value : Word) (more : List UInt8) :
    readItem .word (Word.bytes value ++ more) = some more := rfl

theorem readItem_string (len : Word) (more : List UInt8) :
    readItem .string (Word.bytes len ++ more) =
      if 0 ≤ len.toInt ∧ len.toNat ≤ more.length then some (more.drop len.toNat)
      else none := by
  have length : 4 ≤ (Word.bytes len ++ more).length := by simp
  have taken : (Word.bytes len ++ more).take 4 = Word.bytes len := rfl
  have dropped : (Word.bytes len ++ more).drop 4 = more := rfl
  simp only [readItem, if_pos length, taken, dropped, Word.ofBytes_bytes]

theorem readItem_sound {item : Item} (sound : item.Sound) (more : List UInt8) :
    readItem item.kind (item.parts.flatten ++ more) = some more := by
  cases item with
  | word value => exact readItem_word value more
  | string string =>
      cases string with
      | none => exact sound.elim
      | some string =>
          have nonneg : 0 ≤ (BitVec.ofNat 32 string.length).toInt := sound
          have bound : (BitVec.ofNat 32 string.length).toNat ≤ string.length := by
            rw [BitVec.toNat_ofNat]
            exact Nat.mod_le _ _
          simp only [Item.kind, Item.parts]
          split
          next notPositive =>
            have zero : (BitVec.ofNat 32 string.length).toNat = 0 := by
              rw [BitVec.toInt_eq_toNat_cond] at notPositive nonneg
              split at notPositive <;> omega
            simp [readItem_string, nonneg, zero]
          next =>
            have length := List.length_take_of_le bound
            simp only [List.flatten_cons, List.flatten_nil, List.append_nil,
              List.append_assoc, readItem_string]
            rw [if_pos ⟨nonneg, by rw [List.length_append, length]; omega⟩,
              List.drop_left' length]

theorem readItem_unsound {item : Item} (unsound : ¬ item.Sound)
    (there : item ≠ .string none) (more : List UInt8) :
    readItem item.kind (item.parts.flatten ++ more) = none := by
  cases item with
  | word value => exact absurd trivial unsound
  | string string =>
      cases string with
      | none => exact absurd rfl there
      | some string =>
          have negative : ¬ 0 ≤ (BitVec.ofNat 32 string.length).toInt := unsound
          have notPositive : (BitVec.ofNat 32 string.length).toInt ≤ 0 := by
            omega
          simp [Item.kind, Item.parts, notPositive, readItem_string, negative]

theorem readReply_sound {items : List Item} (sound : ∀ item ∈ items, item.Sound)
    (more : List UInt8) :
    readReply (items.map Item.kind)
      ((items.flatMap Item.parts).flatten ++ more) = some more := by
  induction items with
  | nil => rfl
  | cons item items induction =>
      obtain ⟨first, rest⟩ := List.forall_mem_cons.mp sound
      simp only [List.map_cons, List.flatMap_cons, List.flatten_append,
        List.append_assoc, readReply, readItem_sound first, Option.bind_some]
      exact induction rest

theorem readReply_final {kinds : List Kind} (nonempty : kinds ≠ []) :
    readReply (kinds ++ [.word]) (Word.bytes 0) = none := by
  have nothing : ∀ kinds : List Kind, readReply (kinds ++ [.word]) [] = none := by
    intro kinds
    cases kinds with
    | nil => rfl
    | cons kind kinds => simp [readReply, readItem_nil]
  cases kinds with
  | nil => exact absurd rfl nonempty
  | cons kind kinds =>
      have rest : readItem kind (Word.bytes 0) = some [] := by
        cases kind <;> rfl
      rw [List.cons_append, readReply, rest, Option.bind_some, nothing]

end Client

section Server

variable {σ α : Type} {environment : Environment σ}

/-- The client takes everything that the server writes. -/
def Environment.Delivers (environment : Environment σ) : Prop :=
  ∀ bytes state, (environment.sent bytes state).1 = .all

theorem world_send (delivers : environment.Delivers) (bytes input : List UInt8)
    (state : σ) :
    environment.world (.send bytes) ⟨input, state⟩ =
      some (.all, ⟨input, (environment.sent bytes state).2⟩) := by
  rw [← delivers bytes state]
  rfl

/-- The program comes to another one and has sent these parts. -/
def Sends (environment : Environment σ) (program : Server α)
    (connection : Connection σ) (parts : List (List UInt8)) (next : Server α)
    (after : Connection σ) : Prop :=
  ∃ before : Trace, before.sends = parts ∧
    program.run environment.world connection =
      before.foldr Outcome.prepend (next.run environment.world after)

namespace Sends

variable {start middle after : Connection σ}

theorem refl (program : Server α) (connection : Connection σ) :
    Sends environment program connection [] program connection :=
  ⟨[], rfl, rfl⟩

theorem trans {first second third : Server α} {parts later : List (List UInt8)}
    (left : Sends environment first start parts second middle)
    (right : Sends environment second middle later third after) :
    Sends environment first start (parts ++ later) third after := by
  obtain ⟨before, sendsBefore, runBefore⟩ := left
  obtain ⟨between, sendsBetween, runBetween⟩ := right
  refine ⟨before ++ between, ?_, ?_⟩
  · rw [← sendsBefore, ← sendsBetween]
    exact List.filterMap_append
  · rw [runBefore, runBetween, List.foldr_append]

theorem inside (question : Local) (next : question.Answer → Server α)
    {input : List UInt8} {state : σ} :
    Sends environment (.ask (.inside question) next) ⟨input, state⟩ []
      (next (environment.inside question state).1)
      ⟨input, (environment.inside question state).2⟩ :=
  ⟨[⟨.inside question, (environment.inside question state).1⟩], rfl,
    Prog.run_answered _ (world_inside rfl)⟩

theorem run {program next : Server α} {parts : List (List UInt8)}
    (sends : Sends environment program start parts next after) :
    Trace.sends (program.run environment.world start).trace =
        parts ++ Trace.sends (next.run environment.world after).trace ∧
      (program.run environment.world start).value =
        (next.run environment.world after).value ∧
      (program.run environment.world start).state =
        (next.run environment.world after).state := by
  obtain ⟨before, rfl, run⟩ := sends
  rw [run]
  refine ⟨?_, by simp, by simp⟩
  rw [Outcome.foldr_prepend_trace]
  exact List.filterMap_append

end Sends

theorem Reaches.sends {program next : Server α} {start after : Connection σ}
    (reaches : Reaches environment program start next after) :
    Sends environment program start [] next after := by
  obtain ⟨before, quiet, run⟩ := reaches
  refine ⟨before, List.filterMap_eq_nil_iff.mpr fun event member => ?_, run⟩
  have isQuiet := quiet event member
  unfold sendOf
  split
  next => cases isQuiet
  next => rfl

variable {next : Handler} {input : List UInt8} {state : σ}

theorem sends_writeOr (delivers : environment.Delivers) (onClosed : Handler)
    (bytes : List UInt8) :
    Sends environment (writeOr onClosed bytes next) ⟨input, state⟩ [bytes] next
      ⟨input, (environment.sent bytes state).2⟩ :=
  ⟨[⟨.send bytes, .all⟩], rfl,
    Prog.run_answered _ (world_send delivers bytes input state)⟩

theorem sends_write (delivers : environment.Delivers) (onClosed : Handler)
    {item : Item} (there : item ≠ .string none) :
    ∃ after, Sends environment (item.write onClosed next) ⟨input, state⟩
      item.parts next ⟨input, after⟩ := by
  cases item with
  | word value => exact ⟨_, sends_writeOr delivers onClosed _⟩
  | string string =>
      cases string with
      | none => exact absurd rfl there
      | some string =>
          simp only [Item.write, writeStringOr, writeCharsOr, Item.parts]
          split
          next => exact ⟨_, sends_writeOr delivers onClosed _⟩
          next =>
            exact ⟨_, (sends_writeOr delivers onClosed _).trans
              (sends_writeOr delivers onClosed _)⟩

theorem sends_writeItems (delivers : environment.Delivers) (onClosed : Handler)
    {items : List Item} (sound : ∀ item ∈ items, item.Sound) :
    ∃ after, Sends environment (writeItems onClosed items next) ⟨input, state⟩
      (items.flatMap Item.parts) next ⟨input, after⟩ := by
  induction items generalizing state with
  | nil => exact ⟨state, .refl _ _⟩
  | cons item items induction =>
      obtain ⟨first, rest⟩ := List.forall_mem_cons.mp sound
      have there : item ≠ .string none := by
        rintro rfl
        exact first
      obtain ⟨middle, sendsFirst⟩ := sends_write delivers onClosed there
      obtain ⟨after, sendsRest⟩ := induction rest
      exact ⟨after, sendsFirst.trans sendsRest⟩

/-- What comes after an item that is not sound never makes up for it. -/
theorem readReply_unsound (delivers : environment.Delivers) (onClosed : Handler)
    {items : List Item} (unsound : ¬ ∀ item ∈ items, item.Sound)
    (later : List Kind) {extra : List UInt8}
    (crashed : ((writeItems onClosed items next).run environment.world
      ⟨input, state⟩).value = none → extra = []) :
    readReply (items.map Item.kind ++ later)
      ((Trace.sends ((writeItems onClosed items next).run environment.world
        ⟨input, state⟩).trace).flatten ++ extra) = none := by
  induction items generalizing state with
  | nil => exact absurd (by simp) unsound
  | cons item items induction =>
      by_cases there : item = .string none
      · subst there
        rw [crashed rfl]
        exact congrArg (Option.bind · _) (readItem_nil _)
      · rw [writeItems] at crashed ⊢
        obtain ⟨middle, sends⟩ := sends_write delivers onClosed there
        obtain ⟨parts, value, _⟩ := sends.run
        rw [value] at crashed
        rw [parts, List.flatten_append, List.append_assoc]
        by_cases first : item.Sound
        · simp only [List.map_cons, List.cons_append, readReply,
            readItem_sound first, Option.bind_some]
          refine induction (fun rest => unsound ?_) crashed
          exact List.forall_mem_cons.mpr ⟨first, rest⟩
        · simp only [List.map_cons, List.cons_append, readReply,
            readItem_unsound first there, Option.bind_none]

end Server

end Rkipc.Rpc
