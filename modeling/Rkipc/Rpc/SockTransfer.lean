import Rkipc.Libc.Transfer
import Rkipc.Rpc.Socket

namespace Rkipc.Rpc.Sock

open Libc

/-! `sock_read` and `sock_write`, call by call. -/

inductive Errno
  | epipe
  | eintr
  | other
deriving DecidableEq

def sockerrIo : Int := -1
def sockerrClosed : Int := -2
def sockerrOk : Int := 0

/-- The memory of the process, and how much of the stream it has read. -/
structure Reader where
  memory : Nat → UInt8
  position : Nat

/-- `read` puts bytes of the stream into the memory. -/
def Reader.read (stream : Nat → UInt8) (place number : Nat) (reader : Reader) : Reader where
  memory := fun address =>
    if place ≤ address ∧ address < place + number then
      stream (reader.position + (address - place))
    else reader.memory address
  position := reader.position + number

def bytesAt (memory : Nat → UInt8) (place number : Nat) : List UInt8 :=
  (List.range number).map fun i => memory (place + i)

def readLoop (stream : Nat → UInt8) (buff : Nat) : TransferLoop Reader Errno Int where
  move := fun status number => Reader.read stream (buff + status) number
  onError
    | .eintr => none
    | _ => some sockerrIo
  onZero := some sockerrClosed
  onAll := fun status => status

/-- The state are the bytes that have been written. -/
def writeLoop (memory : Nat → UInt8) (buff : Nat) : TransferLoop (List UInt8) Errno Int where
  move := fun status number written => written ++ bytesAt memory (buff + status) number
  onError
    | .epipe => some sockerrClosed
    | .eintr => none
    | .other => some sockerrIo
  onZero := none
  onAll := fun status => status

def sockRead (stream : Nat → UInt8) (buff : Nat) (count : Int) (reader : Reader)
    (answers : List (Answer Errno)) : Transfer Reader Int :=
  if count ≤ 0 then ⟨[], 0, reader, some sockerrOk⟩
  else (readLoop stream buff).run count.toNat 0 reader answers

def sockWrite (memory : Nat → UInt8) (buff : Nat) (count : Int) (written : List UInt8)
    (answers : List (Answer Errno)) : Transfer (List UInt8) Int :=
  if count < 0 then ⟨[], 0, written, some sockerrOk⟩
  else (writeLoop memory buff).run count.toNat 0 written answers

/-- The calls ask for what is left, and what is returned tells how much has been moved. -/
structure MovesExactly {σ : Type} (count : Int) (transfer : Transfer σ Int) : Prop where
  within : transfer.moved ≤ count.toNat
  asks : ∀ request ∈ transfer.requests,
    0 < request.asked ∧ request.place + request.asked = count.toNat
  returns : 0 < count → ∀ value, transfer.returned = some value →
    value = count ∧ transfer.moved = count.toNat ∨
      (value = sockerrIo ∨ value = sockerrClosed) ∧ transfer.moved < count.toNat
  nothing : count ≤ 0 →
    transfer.requests = [] ∧ transfer.moved = 0 ∧ transfer.returned = some sockerrOk

/-- The next bytes of the stream are at the beginning of the buffer, and nothing else has
changed. -/
structure ReadsExactly (stream : Nat → UInt8) (buff : Nat) (count : Int) (reader : Reader)
    (transfer : Transfer Reader Int) : Prop extends MovesExactly count transfer where
  memory : ∀ address, transfer.state.memory address =
    if buff ≤ address ∧ address < buff + transfer.moved then
      stream (reader.position + (address - buff))
    else reader.memory address
  position : transfer.state.position = reader.position + transfer.moved

/-- The first bytes of the buffer have been written. -/
structure WritesExactly (memory : Nat → UInt8) (buff : Nat) (count : Int)
    (written : List UInt8) (transfer : Transfer (List UInt8) Int) : Prop
    extends MovesExactly count transfer where
  bytes : transfer.state = written ++ bytesAt memory buff transfer.moved

def notInterrupted (answer : Answer Errno) : Bool := decide (answer ≠ .error .eintr)

section Moves

variable {σ : Type} {loop : TransferLoop σ Errno Int} {invariant : Nat → σ → Prop} {count : Int}
  {transfer : Transfer σ Int}

theorem moves_of_sound (onAll : ∀ moved, loop.onAll moved = moved)
    (stops : ∀ value, loop.Stops value → value = sockerrIo ∨ value = sockerrClosed)
    (positive : 0 < count) (sound : loop.Sound invariant count.toNat 0 transfer) :
    MovesExactly count transfer where
  within := sound.within
  asks := by
    intro request member
    obtain ⟨isAsked, _, before, isRest⟩ := sound.asks request member
    exact ⟨isAsked, by rw [isRest, Nat.add_sub_cancel' (Nat.le_trans before sound.within)]⟩
  returns := by
    intro _ value isValue
    rcases sound.returns value isValue with ⟨isAll, same⟩ | ⟨less, isStop⟩
    · rw [onAll, Int.toNat_of_nonneg (Int.le_of_lt positive)] at same
      exact .inl ⟨same, isAll⟩
    · exact .inr ⟨stops value isStop, less⟩
  nothing := fun notPositive => absurd positive (Int.not_lt.mpr notPositive)

theorem moves_nothing (state : σ) (notPositive : count ≤ 0) :
    MovesExactly count (⟨[], 0, state, some sockerrOk⟩ : Transfer σ Int) where
  within := Nat.zero_le _
  asks := fun _ member => absurd member List.not_mem_nil
  returns := fun positive => absurd positive (Int.not_lt.mpr notPositive)
  nothing := fun _ => ⟨rfl, rfl, rfl⟩

theorem again_of_interrupted (again : loop.onError .eintr = none) (answer : Answer Errno)
    (dropped : notInterrupted answer = false) : loop.Again answer := by
  rw [notInterrupted, decide_eq_false_iff_not, not_not] at dropped
  rw [dropped]
  exact again

end Moves

section Reads

variable {stream : Nat → UInt8} {buff : Nat} {count : Int} {reader : Reader}
  {answers : List (Answer Errno)}

theorem read_read (first second : Nat) :
    Reader.read stream (buff + first) second (Reader.read stream buff first reader) =
      Reader.read stream buff (first + second) reader := by
  unfold Reader.read
  congr 1
  · funext address
    dsimp only
    by_cases isFirst : buff ≤ address ∧ address < buff + first
    · rw [if_neg (by omega), if_pos isFirst, if_pos (by omega)]
    · by_cases isSecond : buff + first ≤ address ∧ address < buff + first + second
      · rw [if_pos isSecond, if_pos (by omega)]
        congr 1
        omega
      · rw [if_neg isSecond, if_neg isFirst, if_neg (by omega)]
  · exact Nat.add_assoc _ _ _

theorem read_zero : Reader.read stream buff 0 reader = reader := by
  unfold Reader.read
  congr 1
  funext address
  rw [if_neg (by omega)]

theorem readLoop_stops {value : Int} (stops : (readLoop stream buff).Stops value) :
    value = sockerrIo ∨ value = sockerrClosed := by
  rcases stops with ⟨error, isValue⟩ | isValue
  · cases error <;> cases isValue <;> exact .inl rfl
  · cases isValue
    exact .inr rfl

theorem sockRead_exact :
    ReadsExactly stream buff count reader (sockRead stream buff count reader answers) := by
  rw [sockRead]
  by_cases notPositive : count ≤ 0
  · rw [if_pos notPositive]
    refine { moves_nothing reader notPositive with
      memory := fun address => ?_
      position := rfl }
    rw [if_neg (by dsimp only; omega)]
  · rw [if_neg notPositive]
    have sound : (readLoop stream buff).Sound
        (fun moved state => state = Reader.read stream buff moved reader) count.toNat 0
        ((readLoop stream buff).run count.toNat 0 reader answers) :=
      TransferLoop.run_sound
        (fun moved number state _ same => by
          rw [same]
          exact read_read moved number)
        (Nat.zero_le _) read_zero.symm
    refine { moves_of_sound (fun _ => rfl) (fun _ => readLoop_stops)
        (Int.not_le.mp notPositive) sound with
      memory := fun address => ?_
      position := ?_ }
    · rw [sound.holds]
      rfl
    · rw [sound.holds]
      rfl

/-- An interrupted call loses no byte and repeats none. -/
theorem sockRead_interrupted :
    TransferLoop.Same (sockRead stream buff count reader (answers.filter notInterrupted))
      (sockRead stream buff count reader answers) := by
  rw [sockRead, sockRead]
  by_cases notPositive : count ≤ 0
  · rw [if_pos notPositive, if_pos notPositive]
    exact ⟨rfl, rfl, rfl⟩
  · rw [if_neg notPositive, if_neg notPositive]
    exact TransferLoop.run_filter (again_of_interrupted rfl)

end Reads

section Writes

variable {memory : Nat → UInt8} {buff : Nat} {count : Int} {written : List UInt8}
  {answers : List (Answer Errno)}

theorem bytesAt_add (first second : Nat) :
    bytesAt memory buff (first + second) =
      bytesAt memory buff first ++ bytesAt memory (buff + first) second := by
  rw [bytesAt, List.range_add, List.map_append, List.map_map]
  congr 1
  refine List.map_congr_left fun i _ => ?_
  rw [Function.comp_apply, Nat.add_assoc]

theorem writeLoop_stops {value : Int} (stops : (writeLoop memory buff).Stops value) :
    value = sockerrIo ∨ value = sockerrClosed := by
  rcases stops with ⟨error, isValue⟩ | isValue
  · cases error with
    | epipe => cases isValue; exact .inr rfl
    | eintr => cases isValue
    | other => cases isValue; exact .inl rfl
  · cases isValue

theorem sockWrite_exact :
    WritesExactly memory buff count written (sockWrite memory buff count written answers) := by
  rw [sockWrite]
  by_cases negative : count < 0
  · rw [if_pos negative]
    exact { moves_nothing written (Int.le_of_lt negative) with
      bytes := (List.append_nil written).symm }
  · rw [if_neg negative]
    by_cases isZero : count = 0
    · subst count
      have isDone : (writeLoop memory buff).run (0 : Int).toNat 0 written answers =
          ⟨[], 0, written, some sockerrOk⟩ := by
        cases answers <;> rfl
      rw [isDone]
      exact { moves_nothing written (Int.le_refl 0) with
        bytes := (List.append_nil written).symm }
    · have positive : 0 < count := by omega
      have sound : (writeLoop memory buff).Sound
          (fun moved state => state = written ++ bytesAt memory buff moved) count.toNat 0
          ((writeLoop memory buff).run count.toNat 0 written answers) :=
        TransferLoop.run_sound
          (fun moved number state _ same => by
            rw [same, bytesAt_add, ← List.append_assoc]
            rfl)
          (Nat.zero_le _) (List.append_nil written).symm
      exact { moves_of_sound (fun _ => rfl) (fun _ => writeLoop_stops) positive sound with
        bytes := sound.holds }

theorem sockWrite_interrupted :
    TransferLoop.Same (sockWrite memory buff count written (answers.filter notInterrupted))
      (sockWrite memory buff count written answers) := by
  rw [sockWrite, sockWrite]
  by_cases negative : count < 0
  · rw [if_pos negative, if_pos negative]
    exact ⟨rfl, rfl, rfl⟩
  · rw [if_neg negative, if_neg negative]
    exact TransferLoop.run_filter (again_of_interrupted rfl)

end Writes

/-- What a handler is told about a `sock_read`. -/
def received (buff : Nat) (count : Int) (transfer : Transfer Reader Int) : Option Received :=
  transfer.returned.map fun value =>
    if value = count then .all (bytesAt transfer.state.memory buff transfer.moved)
    else if value = sockerrClosed then .closed
    else .failed (bytesAt transfer.state.memory buff transfer.moved)

section Handlers

variable {stream : Nat → UInt8} {buff : Nat} {count : Int} {reader : Reader}
  {answers : List (Answer Errno)} {bytes : List UInt8}

theorem bytesAt_sockRead :
    bytesAt (sockRead stream buff count reader answers).state.memory buff
        (sockRead stream buff count reader answers).moved =
      bytesAt stream reader.position (sockRead stream buff count reader answers).moved := by
  refine List.map_congr_left fun i member => ?_
  have inside := List.mem_range.mp member
  rw [sockRead_exact.memory, if_pos (by omega), Nat.add_sub_cancel_left]

/-- A handler that is told about all bytes has the next ones of the stream. -/
theorem received_all (positive : 0 < count)
    (isAll : received buff count (sockRead stream buff count reader answers) = some (.all bytes)) :
    bytes = bytesAt stream reader.position count.toNat := by
  obtain ⟨value, returned, isValue⟩ := Option.map_eq_some_iff.mp isAll
  split at isValue
  next same =>
    rcases sockRead_exact.returns positive value returned with ⟨_, moved⟩ | ⟨isError, _⟩
    · cases isValue
      rw [bytesAt_sockRead, moved]
    · rw [same] at isError
      have negative : count < 0 := by
        rcases isError with rfl | rfl <;> decide
      omega
  next =>
    split at isValue <;> cases isValue

end Handlers

theorem sock_transfers_exactly (stream memory : Nat → UInt8) (buff : Nat) (count : Int)
    (reader : Reader) (written : List UInt8) (answers : List (Answer Errno)) :
    (ReadsExactly stream buff count reader (sockRead stream buff count reader answers) ∧
      TransferLoop.Same (sockRead stream buff count reader (answers.filter notInterrupted))
        (sockRead stream buff count reader answers)) ∧
    (WritesExactly memory buff count written (sockWrite memory buff count written answers) ∧
      TransferLoop.Same (sockWrite memory buff count written (answers.filter notInterrupted))
        (sockWrite memory buff count written answers)) :=
  ⟨⟨sockRead_exact, sockRead_interrupted⟩, sockWrite_exact, sockWrite_interrupted⟩

/-- Two parts with an interruption between them. -/
example : (sockWrite (fun address => UInt8.ofNat address) 1 3 []
    [.items 2, .error .eintr, .items 5]).returned = some 3 := by decide

end Rkipc.Rpc.Sock
