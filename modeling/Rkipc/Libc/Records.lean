import Mathlib.Algebra.GroupWithZero.Nat
import Mathlib.Algebra.NeZero
import Mathlib.Algebra.Order.Group.Nat

namespace Rkipc.Libc

/-! Records in memory that begin with their own length, and numbers in memory. -/

section LittleEndian

/-- So many bytes of the number, the lowest one first. -/
def leBytes : Nat → Nat → List UInt8
  | 0, _ => []
  | count + 1, number => UInt8.ofNat number :: leBytes count (number / 256)

def leNumber : List UInt8 → Nat
  | [] => 0
  | byte :: rest => byte.toNat + 256 * leNumber rest

/-- The number in so many bytes from a place on. -/
def numberAt (place count : Nat) (memory : List UInt8) : Nat :=
  leNumber ((memory.drop place).take count)

variable {count number : Nat} {front back : List UInt8}

@[simp] theorem length_leBytes : (leBytes count number).length = count := by
  induction count generalizing number with
  | zero => rfl
  | succ count induction => exact congrArg (· + 1) induction

theorem leNumber_leBytes (small : number < 256 ^ count) :
    leNumber (leBytes count number) = number := by
  induction count generalizing number with
  | zero => exact (Nat.lt_one_iff.mp small).symm
  | succ count induction =>
      have smaller : number / 256 < 256 ^ count := by
        rw [Nat.pow_succ] at small
        exact (Nat.div_lt_iff_lt_mul (by decide)).mpr small
      rw [leBytes, leNumber, induction smaller, UInt8.toNat_ofNat']
      exact Nat.mod_add_div number 256

theorem numberAt_append {place : Nat} (inside : front.length ≤ place) :
    numberAt place count (front ++ back) = numberAt (place - front.length) count back := by
  rw [numberAt, numberAt, List.drop_append, List.drop_eq_nil_of_le inside, List.nil_append]

theorem numberAt_zero (small : number < 256 ^ count) :
    numberAt 0 count (leBytes count number ++ back) = number := by
  have isHere : ((leBytes count number ++ back).drop 0).take count = leBytes count number :=
    List.take_left' length_leBytes
  rw [numberAt, isHere, leNumber_leBytes small]

end LittleEndian

section Records

variable {α : Type u}

/-- `(length + 3) & ~3` -/
def alignTo4 (length : Nat) : Nat := (length + 3) / 4 * 4

/-- A loop over the records in the next `len` bytes, as the pointers that it takes.  A record
is at least as long as its header, and one that goes on behind the bytes ends the loop. -/
def records (header : Nat) [NeZero header] (lengthOf : List α → Nat) (memory : List α)
    (len : Nat) : List (List α) :=
  if header ≤ len ∧ header ≤ lengthOf memory ∧ lengthOf memory ≤ len then
    memory :: records header lengthOf (memory.drop (alignTo4 (lengthOf memory)))
      (len - alignTo4 (lengthOf memory))
  else []
termination_by len
decreasing_by
  have positive := NeZero.pos header
  unfold alignTo4
  omega

/-- The bytes up to the place where the next record begins. -/
def padded (zero : α) (record : List α) : List α :=
  record ++ List.replicate (alignTo4 record.length - record.length) zero

variable {β : Type v} {γ : Type w} {zero : α} {record : List α} {header : Nat} [NeZero header]
  {lengthOf : List α → Nat} {view : List α → β} {bytes : γ → List α} {value : γ → β}
  {items : List γ}

theorem le_alignTo4 (length : Nat) : length ≤ alignTo4 length := by
  unfold alignTo4
  omega

@[simp] theorem length_padded : (padded zero record).length = alignTo4 record.length := by
  rw [padded, List.length_append, List.length_replicate]
  exact Nat.add_sub_cancel' (le_alignTo4 _)

theorem records_zero (memory : List α) : records header lengthOf memory 0 = [] := by
  rw [records, if_neg fun inside => absurd inside.1 (Nat.not_le.mpr (NeZero.pos header))]

/-- The loop takes the records that were written, one after another. -/
theorem map_records (long : ∀ item ∈ items, header ≤ (bytes item).length)
    (hasLength : ∀ item ∈ items, ∀ rest,
      lengthOf (padded zero (bytes item) ++ rest) = (bytes item).length)
    (isValue : ∀ item ∈ items, ∀ rest, view (padded zero (bytes item) ++ rest) = value item)
    (rest : List α) :
    (records header lengthOf (items.flatMap (fun item => padded zero (bytes item)) ++ rest)
      (items.flatMap fun item => padded zero (bytes item)).length).map view =
        items.map value := by
  induction items with
  | nil => exact congrArg (List.map view) (records_zero rest)
  | cons item items induction =>
      obtain ⟨longItem, longItems⟩ := List.forall_mem_cons.mp long
      obtain ⟨itemLength, itemLengths⟩ := List.forall_mem_cons.mp hasLength
      obtain ⟨itemValue, itemValues⟩ := List.forall_mem_cons.mp isValue
      have grows := le_alignTo4 (bytes item).length
      have step := induction longItems itemLengths itemValues
      rw [List.flatMap_cons, List.append_assoc, List.length_append, length_padded, records,
        itemLength, if_pos ⟨by omega, longItem, by omega⟩, Nat.add_sub_cancel_left,
        List.drop_left' length_padded, List.map_cons, List.map_cons, itemValue, step]

end Records

end Rkipc.Libc
