import Mathlib.Data.List.Basic

namespace Rkipc.Lora

/-! Frames from a serial line, however the driver cuts the stream. -/

/-- What one `read` of `len` bytes returns. -/
structure Piece (len : Nat) where
  bytes : List UInt8
  fits : bytes.length ≤ len

namespace SerialPort

/-- The loop that looks for the head of a frame. -/
def findHead (head : UInt8) (len : Nat) : List UInt8 → List UInt8
  | [] => []
  | byte :: recvQueue =>
      if len ≤ recvQueue.length + 1 ∧ byte ≠ head then findHead head len recvQueue
      else byte :: recvQueue

/-- The bytes that come to the queue; a `read` that fails has none. -/
def received {len : Nat} (piece : Option (Piece len)) : List UInt8 :=
  (piece.map Piece.bytes).getD []

/-- What is written to `data`, if anything is, with the queue afterwards. -/
def recv (head : UInt8) {len : Nat} (recvQueue : List UInt8)
    (piece : Option (Piece len)) : Option (List UInt8) × List UInt8 :=
  let recvQueue := findHead head len (recvQueue ++ received piece)
  if recvQueue.length < len then (none, recvQueue)
  else (some (recvQueue.take len), recvQueue.drop len)

/-- Successive calls. -/
def recvAll (head : UInt8) {len : Nat} :
    List UInt8 → List (Option (Piece len)) → List (List UInt8) × List UInt8
  | recvQueue, [] => ([], recvQueue)
  | recvQueue, piece :: pieces =>
      let (data, recvQueue) := recv head recvQueue piece
      let (written, recvQueue) := recvAll head recvQueue pieces
      (data.toList ++ written, recvQueue)

end SerialPort

/-- The frames of a whole stream: drop the bytes up to the next head, take `len` bytes. -/
def frames (head : UInt8) (len : Nat) (stream : List UInt8) : List (List UInt8) :=
  if _inside : 0 < len ∧ len ≤ (stream.dropWhile (· ≠ head)).length then
    (stream.dropWhile (· ≠ head)).take len ::
      frames head len ((stream.dropWhile (· ≠ head)).drop len)
  else []
termination_by stream.length
decreasing_by
  have shorter := (stream.dropWhile_suffix (· ≠ head)).length_le
  rw [List.length_drop]
  omega

section Frames

variable {head : UInt8} {len : Nat} {stream more : List UInt8}

theorem frames_congr {other : List UInt8}
    (same : stream.dropWhile (· ≠ head) = other.dropWhile (· ≠ head)) :
    frames head len stream = frames head len other := by
  rw [frames, same, ← frames]

theorem frames_short (short : stream.length < len) : frames head len stream = [] := by
  have shorter := (stream.dropWhile_suffix (· ≠ head)).length_le
  rw [frames, dif_neg (by omega)]

theorem frames_head (positive : 0 < len) (isHead : stream.head? = some head)
    (long : len ≤ stream.length) :
    frames head len (stream ++ more) =
      stream.take len :: frames head len (stream.drop len ++ more) := by
  obtain ⟨rest, rfl⟩ := List.head?_eq_some_iff.mp isHead
  rw [frames, List.cons_append, List.dropWhile_cons_of_neg (by simp), ← List.cons_append]
  have within : len ≤ (head :: rest ++ more).length := by
    rw [List.length_append]
    exact Nat.le_add_right_of_le long
  rw [dif_pos ⟨positive, within⟩, List.take_append_of_le_length long,
    List.drop_append_of_le_length long]

theorem findHead_frames :
    frames head len (SerialPort.findHead head len stream ++ more) =
      frames head len (stream ++ more) := by
  induction stream with
  | nil => rfl
  | cons byte stream induction =>
      unfold SerialPort.findHead
      split
      next skipped =>
        rw [induction]
        refine (frames_congr ?_).symm
        have dropped : decide (byte ≠ head) = true := decide_eq_true skipped.2
        rw [List.cons_append, List.dropWhile_cons, if_pos dropped]
      next => rfl

theorem findHead_length : (SerialPort.findHead head len stream).length ≤ stream.length := by
  induction stream with
  | nil => exact Nat.le_refl _
  | cons byte stream induction =>
      unfold SerialPort.findHead
      split
      next => exact Nat.le_succ_of_le induction
      next => exact Nat.le_refl _

theorem findHead_head (positive : 0 < len)
    (long : len ≤ (SerialPort.findHead head len stream).length) :
    (SerialPort.findHead head len stream).head? = some head := by
  induction stream with
  | nil => exact absurd (Nat.lt_of_lt_of_le positive long) (Nat.lt_irrefl 0)
  | cons byte stream induction =>
      unfold SerialPort.findHead at long ⊢
      split at long
      next skipped =>
        rw [if_pos skipped]
        exact induction long
      next stays =>
        rw [if_neg stays]
        have isHead : byte = head := Classical.byContradiction fun other => stays ⟨long, other⟩
        exact congrArg some isHead

end Frames

namespace SerialPort

variable {head : UInt8} {len : Nat} {recvQueue : List UInt8}

theorem received_length (piece : Option (Piece len)) : (received piece).length ≤ len := by
  cases piece with
  | none => exact Nat.zero_le _
  | some piece => exact piece.fits

/-- One call takes the next frame off the stream, and leaves less than one in the queue. -/
theorem recv_spec (positive : 0 < len) (few : recvQueue.length < len)
    (piece : Option (Piece len)) (more : List UInt8) :
    frames head len (recvQueue ++ received piece ++ more) =
        (recv head recvQueue piece).1.toList ++
          frames head len ((recv head recvQueue piece).2 ++ more) ∧
      (recv head recvQueue piece).2.length < len := by
  rw [← findHead_frames]
  unfold recv
  dsimp only
  split
  next short => exact ⟨rfl, short⟩
  next long =>
    have long := Nat.le_of_not_lt long
    refine ⟨frames_head positive (findHead_head positive long) long, ?_⟩
    have atMost : (findHead head len (recvQueue ++ received piece)).length ≤ _ :=
      findHead_length
    rw [List.length_append] at atMost
    have read := received_length piece
    rw [List.length_drop]
    omega

/-- The bytes of the stream, in the pieces in which they were read. -/
def stream (pieces : List (Option (Piece len))) : List UInt8 :=
  (pieces.filterMap id).flatMap Piece.bytes

theorem stream_cons (piece : Option (Piece len)) (pieces : List (Option (Piece len))) :
    stream (piece :: pieces) = received piece ++ stream pieces := by
  cases piece <;> rfl

theorem recvAll_spec (positive : 0 < len) (pieces : List (Option (Piece len))) :
    ∀ {recvQueue : List UInt8}, recvQueue.length < len →
      frames head len (recvQueue ++ stream pieces) = (recvAll head recvQueue pieces).1 ∧
        (recvAll head recvQueue pieces).2.length < len := by
  induction pieces with
  | nil =>
      intro recvQueue few
      refine ⟨?_, few⟩
      rw [show stream ([] : List (Option (Piece len))) = [] from rfl, List.append_nil]
      exact frames_short few
  | cons piece pieces induction =>
      intro recvQueue few
      obtain ⟨taken, fewer⟩ :
          frames head len (recvQueue ++ received piece ++ stream pieces) =
              (recv head recvQueue piece).1.toList ++
                frames head len ((recv head recvQueue piece).2 ++ stream pieces) ∧
            (recv head recvQueue piece).2.length < len :=
        recv_spec positive few piece (stream pieces)
      obtain ⟨written, last⟩ := induction fewer
      refine ⟨?_, last⟩
      rw [stream_cons, ← List.append_assoc, taken, written]
      rfl

/-- The frames written are those of the stream, and none is held back. -/
theorem recvAll_frames (positive : 1 ≤ len) (pieces : List (Option (Piece len))) :
    (recvAll head [] pieces).1 = frames head len (stream pieces) ∧
      (recvAll head [] pieces).2.length < len :=
  have empty : ([] : List UInt8).length < len := positive
  let ⟨written, few⟩ := recvAll_spec positive pieces empty
  ⟨written.symm, few⟩

/-- A byte of noise, and two frames that no read holds whole. -/
def noisy : List (Option (Piece 3)) :=
  [some ⟨[1, 7, 2], by decide⟩, none, some ⟨[3, 7], by decide⟩, some ⟨[], by decide⟩,
    some ⟨[7, 4, 9], by decide⟩]

theorem recvAll_frames_noisy :
    (recvAll 7 [] noisy).1 = frames 7 3 (stream noisy) ∧ (recvAll 7 [] noisy).2.length < 3 :=
  recvAll_frames (by decide) noisy

example : (recvAll 7 [] noisy).1 = [[7, 2, 3], [7, 7, 4]] := by decide

end SerialPort

end Rkipc.Lora
