import Rkipc.Libc.Search
import Rkipc.Libc.Store
import Rkipc.Wifi.ScanResults

namespace Rkipc.Wifi

open Libc

/-! The output of a command in the array of a caller. -/

/-- The array with the variables of `exec_command`, and what is left in the pipe. -/
structure Receiving where
  recvBuff : List Byte
  tmpBuff : Nat
  len : Int
  stream : List Byte

/-- `strlen` from a place of an array on. -/
def strlenFrom (array : List Byte) (place : Nat) : Nat := (cString (array.drop place)).length

/-- `while (fgets(tmp_buff, len, stream))`, which is killed by a byte behind the array. -/
def Receiving.loop : Nat → Receiving → Run (List Byte)
  | 0, _ => .unfinished
  | turns + 1, receiving =>
      match fgets receiving.len.toNat receiving.stream with
      | none => .finished receiving.recvBuff
      | some (line, stream) =>
          match store receiving.recvBuff receiving.tmpBuff (line ++ [0]) with
          | none => .killed
          | some recvBuff =>
              let tmpBuff := receiving.tmpBuff + strlenFrom recvBuff receiving.tmpBuff
              let len := receiving.len - strlenFrom recvBuff tmpBuff
              if len ≤ 1 then .finished recvBuff
              else Receiving.loop turns ⟨recvBuff, tmpBuff, len, stream⟩

/-- `recv_buff` after `exec_command`; `output` is what `popen` gives to read. -/
def execCommand (len : Nat) (output : Option (List Byte)) : Run (List Byte) :=
  let recvBuff := List.replicate len 0
  match output with
  | none => .finished recvBuff
  | some output => Receiving.loop (output.length + 1) ⟨recvBuff, 0, len, output⟩

/-- Only the array is written to, and it holds a string that the output begins with and that
is short of it by no more than the array has no room for. -/
def Receives (len : Nat) (output : List Byte) : Prop :=
  ∃ recvBuff, execCommand len (some output) = .finished recvBuff ∧ recvBuff.length = len ∧
    0 ∈ recvBuff ∧ cString recvBuff <+: output ∧
    min output.length (len - 2) ≤ (cString recvBuff).length

section Turns

variable {len : Nat} {front line output stream : List Byte}

theorem cString_replicate (noNul : 0 ∉ front) (count : Nat) :
    cString (front ++ List.replicate count 0) = front := by
  have whole : cString (front ++ List.replicate count 0) =
      front ++ cString (List.replicate count 0) := Libc.cString_append noNul
  rw [whole]
  cases count with
  | zero => exact List.append_nil front
  | succ count => exact List.append_nil front

theorem takeLine_append (count : Nat) (file : List Byte) :
    (takeLine count file).1 ++ (takeLine count file).2 = file := by
  induction count generalizing file with
  | zero => rfl
  | succ count induction =>
      cases file with
      | nil => rfl
      | cons byte file =>
          rw [takeLine]
          split
          next => rfl
          next => exact congrArg (byte :: ·) (induction file)

theorem fgets_append {size : Nat} (read : fgets size output = some (line, stream)) :
    line ++ stream = output := by
  unfold fgets at read
  split at read
  next => cases read
  next =>
    have taken := takeLine_append (size - 1) output
    rw [Option.some_inj.mp read] at taken
    exact taken

/-- What was received stands at the front, the rest of the array is empty, and `len` is what
it was. -/
def received (len : Nat) (front stream : List Byte) : Receiving :=
  ⟨front ++ List.replicate (len - front.length) 0, front.length, len, stream⟩

theorem store_received (front line : List Byte) (count : Nat) :
    store (front ++ List.replicate count 0) front.length (line ++ [0]) =
      if line.length < count then
        some (front ++ line ++ List.replicate (count - line.length) 0)
      else none := by
  rw [store_append, List.length_append, List.length_replicate, List.length_singleton]
  by_cases inside : line.length < count
  · have isSucc : count - line.length = (count - (line.length + 1)) + 1 := by omega
    rw [if_pos (Nat.succ_le_of_lt inside), if_pos inside, isSucc, List.replicate_succ,
      List.drop_replicate, List.append_assoc, List.append_assoc, List.append_assoc,
      List.singleton_append]
  · rw [if_neg (mt Nat.lt_of_succ_le inside), if_neg inside]

theorem loop_received {turns : Nat} (two : 2 ≤ len) (noNul : 0 ∉ front ++ output)
    (read : fgets len output = some (line, stream)) :
    Receiving.loop (turns + 1) (received len front output) =
      if (front ++ line).length < len then
        Receiving.loop turns (received len (front ++ line) stream)
      else .killed := by
  have whole := fgets_append read
  have clean : 0 ∉ line := fun member =>
    noNul (List.mem_append_right front (whole ▸ List.mem_append_left stream member))
  rw [Receiving.loop]
  dsimp only [received]
  rw [Int.toNat_natCast, read]
  dsimp only
  rw [store_received]
  have room : line.length < len - front.length ↔ (front ++ line).length < len := by
    rw [List.length_append]
    omega
  by_cases inside : (front ++ line).length < len
  · rw [if_pos (room.mpr inside), if_pos inside]
    dsimp only
    have afterLine : strlenFrom (front ++ line ++
        List.replicate (len - front.length - line.length) 0) front.length = line.length := by
      rw [strlenFrom, List.append_assoc, List.drop_left, cString_replicate clean]
    have behindLine : strlenFrom (front ++ line ++
        List.replicate (len - front.length - line.length) 0)
          (front.length + line.length) = 0 := by
      rw [strlenFrom, ← List.length_append, List.drop_left]
      exact congrArg List.length (cString_replicate List.not_mem_nil _)
    rw [afterLine, behindLine, Nat.cast_zero, sub_zero, if_neg (by omega),
      Nat.sub_sub, ← List.length_append]
  · rw [if_neg (mt room.mp inside), if_neg inside]

/-- The loop ends with everything in the array, if there is room for it. -/
theorem loop_eq (front : List Byte) {turns : Nat} (two : 2 ≤ len) (noNul : 0 ∉ front ++ output)
    (inside : front.length < len) (enough : output.length < turns) :
    Receiving.loop turns (received len front output) =
      if (front ++ output).length < len then
        .finished (received len (front ++ output) []).recvBuff
      else .killed := by
  induction turns generalizing front output with
  | zero => exact absurd enough (Nat.not_lt_zero _)
  | succ turns induction =>
      cases read : fgets len output with
      | none =>
          have empty : output = [] := by
            unfold fgets at read
            split at read
            next empty => exact empty
            next => cases read
          subst empty
          rw [Receiving.loop]
          dsimp only [received]
          rw [Int.toNat_natCast, read, List.append_nil, if_pos inside]
      | some pair =>
          obtain ⟨line, stream⟩ := pair
          have whole := fgets_append read
          have shorter := length_fgets two read
          rw [loop_received two noNul read]
          by_cases fits : (front ++ line).length < len
          · rw [if_pos fits, induction (front ++ line) ?_ fits (by omega), List.append_assoc, whole]
            rw [List.append_assoc, whole]
            exact noNul
          · have tooLong : ¬ (front ++ output).length < len := by
              rw [← whole]
              simp only [List.length_append] at fits ⊢
              omega
            rw [if_neg fits, if_neg tooLong]

/-- Nothing takes what was received off the size that `fgets` is given. -/
theorem execCommand_eq (two : 2 ≤ len) (noNul : 0 ∉ output) :
    execCommand len (some output) =
      if output.length < len then
        .finished (output ++ List.replicate (len - output.length) 0)
      else .killed :=
  loop_eq [] two noNul (Nat.lt_of_lt_of_le Nat.zero_lt_two two)
    (Nat.lt_succ_self _)

end Turns

/-- The array is the caller's as long as the whole output with its terminator fits. -/
theorem receives_iff {len : Nat} {output : List Byte} (two : 2 ≤ len) (noNul : 0 ∉ output) :
    Receives len output ↔ output.length < len := by
  unfold Receives
  rw [execCommand_eq two noNul]
  by_cases fits : output.length < len
  · rw [if_pos fits]
    refine iff_of_true ⟨_, rfl, ?_, ?_, ?_, ?_⟩ fits
    · rw [List.length_append, List.length_replicate]
      omega
    · exact List.mem_append_right _ (List.mem_replicate.mpr ⟨by omega, rfl⟩)
    · rw [cString_replicate noNul]
    · rw [cString_replicate noNul]
      exact Nat.min_le_left _ _
  · rw [if_neg fits]
    refine iff_of_false ?_ fits
    rintro ⟨_, killed, _⟩
    cases killed

/-- What `add_network` and the others reserve for an answer. -/
theorem receives_iff_fail :
    2 ≤ 8 ∧ (0 : Byte) ∉ bytes "FAIL\n" ∧
      (Receives 8 (bytes "FAIL\n") ↔ (bytes "FAIL\n").length < 8) :=
  have noNul : (0 : Byte) ∉ bytes "FAIL\n" := by decide
  ⟨by decide, noNul, receives_iff (by decide) noNul⟩

/-- The answer to a command that `wpa_supplicant` does not know. -/
theorem exec_command_leaves_buffer :
    ¬ ∀ (len : Nat) (output : List Byte), 2 ≤ len → 0 ∉ output → Receives len output := by
  intro general
  obtain ⟨_, finished, _⟩ := general 8 (bytes "UNKNOWN COMMAND\n") (by decide) (by decide)
  have killed : execCommand 8 (some (bytes "UNKNOWN COMMAND\n")) = .killed := by decide
  rw [killed] at finished
  cases finished

end Rkipc.Wifi
