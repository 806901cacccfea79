import Mathlib.Data.List.TakeWhile
import Mathlib.Logic.Function.Basic

namespace Rkipc.Libc

/-! Bytes that are copied into an array. -/

section Store

variable {α : Type u}

/-- The array with the items from a place on; nothing when one goes behind the array. -/
def store (array : List α) (place : Nat) (items : List α) : Option (List α) :=
  if place + items.length ≤ array.length then
    some (array.take place ++ items ++ array.drop (place + items.length))
  else none

variable {array back front items : List α} {place : Nat}

theorem store_append (front back items : List α) :
    store (front ++ back) front.length items =
      if items.length ≤ back.length then some (front ++ items ++ back.drop items.length)
      else none := by
  rw [store, List.length_append, List.take_left, List.drop_append,
    List.drop_eq_nil_of_le (Nat.le_add_right _ _), List.nil_append, Nat.add_sub_cancel_left]
  exact if_congr (Nat.add_le_add_iff_left) rfl rfl

end Store

/-! A loop that writes one item after the other into an array and stops at the last item. -/

section Fill

variable {α : Type u}

/-- `array[i++] = item`; nothing when an item goes behind the array. -/
def fill (size : Nat) : List α → Nat → (Nat → α) → Option (Nat → α)
  | [], _, array => some array
  | item :: rest, i, array =>
      if i < size then fill size rest (i + 1) (Function.update array i item) else none

variable {size i : Nat} {items : List α} {array : Nat → α}

theorem fill_from (below : i ≤ size) :
    fill size items i array =
      if i + items.length ≤ size then
        some fun j => if j < i then array j else items[j - i]?.getD (array j)
      else none := by
  induction items generalizing i array with
  | nil =>
      rw [fill, List.length_nil, Nat.add_zero, if_pos below]
      congr 1
      funext j
      rw [List.getElem?_nil, Option.getD_none, ite_self]
  | cons item rest induction =>
      rw [fill, List.length_cons]
      by_cases inside : i < size
      · rw [if_pos inside, induction inside, Nat.succ_add_eq_add_succ]
        refine if_congr Iff.rfl (congrArg some (funext fun j => ?_)) rfl
        obtain early | same | late := Nat.lt_trichotomy j i
        · rw [if_pos early, if_pos (Nat.lt_succ_of_lt early),
            Function.update_of_ne (Nat.ne_of_lt early)]
        · subst same
          rw [if_pos (Nat.lt_succ_self j), if_neg (Nat.lt_irrefl j), Function.update_self,
            Nat.sub_self]
          rfl
        · have isSucc : j - i = (j - (i + 1)) + 1 := by omega
          rw [if_neg (Nat.not_lt.mpr late), if_neg (Nat.lt_asymm late), isSucc,
            List.getElem?_cons_succ, Nat.succ_eq_add_one, Function.update_of_ne (Nat.ne_of_gt late)]
      · rw [if_neg inside, if_neg (by omega)]

theorem fill_zero :
    fill size items 0 array =
      if items.length ≤ size then some fun j => items[j]?.getD (array j) else none := by
  rw [fill_from (Nat.zero_le size), Nat.zero_add]
  rfl

end Fill

end Rkipc.Libc
