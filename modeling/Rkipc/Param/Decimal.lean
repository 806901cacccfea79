import Mathlib.Tactic.IntervalCases
import Rkipc.Param.Store

namespace Rkipc.Param

open Ini

/-! What `strtol` reads of the text that `%d` prints. -/

theorem digit_listed {char : Char} (digit : char.isDigit = true) :
    char ∈ ['0', '1', '2', '3', '4', '5', '6', '7', '8', '9'] := by
  obtain ⟨low, high⟩ := Char.isDigit_iff_toNat.mp digit
  rw [← Char.ofNat_toNat char]
  have low : 48 ≤ char.toNat := low
  have high : char.toNat ≤ 57 := high
  interval_cases char.toNat <;> decide

theorem digit_all {p : Char → Prop} {char : Char} (digit : char.isDigit = true)
    (all : ∀ char ∈ ['0', '1', '2', '3', '4', '5', '6', '7', '8', '9'], p char) :
    p char :=
  all char (digit_listed digit)

theorem digits_isDigit {n : Nat} {char : Char} (member : char ∈ Nat.toDigits 10 n) :
    char.isDigit = true :=
  Nat.isDigit_of_mem_toDigits (by decide) (by decide) member

theorem digitVal_digit {char : Char} (digit : char.isDigit = true) :
    digitVal char = char.toNat - '0'.toNat ∧ digitVal char < 10 :=
  digit_all (p := fun char =>
    digitVal char = char.toNat - '0'.toNat ∧ digitVal char < 10) digit (by decide)

theorem head_digits {n : Nat} (positive : 0 < n) :
    ∃ char rest, Nat.toDigits 10 n = char :: rest ∧ char ≠ '0' ∧
      char.isDigit = true := by
  induction n using Nat.strongRecOn with
  | _ n induction =>
      rw [Nat.toDigits_eq_if (by decide)]
      split
      next single =>
        refine ⟨n.digitChar, [], rfl, ?_, ?_⟩
        · interval_cases n <;> decide
        · interval_cases n <;> decide
      next several =>
        obtain ⟨char, rest, isCons, notZero, digit⟩ :=
          induction (n / 10) (Nat.div_lt_self positive (by decide))
            (Nat.div_pos (by omega) (by decide))
        exact ⟨char, rest ++ _, by rw [isCons, List.cons_append], notZero, digit⟩

theorem foldl_digits (n : Nat) :
    (Nat.toDigits 10 n).foldl (fun val char => val * 10 + digitVal char) 0 = n := by
  have same : ∀ (digits : List Char) (val : Nat), (∀ char ∈ digits, char.isDigit = true) →
      digits.foldl (fun val char => val * 10 + digitVal char) val =
        Nat.ofDigitChars 10 digits val := by
    intro digits val all
    induction digits generalizing val with
    | nil => rfl
    | cons char digits induction =>
        obtain ⟨digit, rest⟩ := List.forall_mem_cons.mp all
        rw [List.foldl_cons, Nat.ofDigitChars_cons, (digitVal_digit digit).1,
          Nat.mul_comm, induction _ rest]
  rw [same _ _ fun char member => digits_isDigit member, Nat.ofDigitChars_ten_toDigits]

/-- What `strtol` reads behind the sign. -/
def strtolUnsigned (text : Text) : Nat :=
  let (base, text) :=
    match text with
    | '0' :: mark :: digit :: rest =>
        if (mark = 'x' ∨ mark = 'X') ∧ digitVal digit < 16 then (16, digit :: rest)
        else (8, text)
    | '0' :: _ => (8, text)
    | text => (10, text)
  (text.takeWhile fun char => digitVal char < base).foldl
    (fun val char => val * base + digitVal char) 0

theorem strtolUnsigned_digits (n : Nat) : strtolUnsigned (Nat.toDigits 10 n) = n := by
  cases n with
  | zero => decide
  | succ n =>
      obtain ⟨char, rest, isCons, notZero, digit⟩ := head_digits (Nat.succ_pos n)
      have all : ∀ char ∈ Nat.toDigits 10 (n + 1), decide (digitVal char < 10) = true :=
        fun char member => decide_eq_true (digitVal_digit (digits_isDigit member)).2
      have base : strtolUnsigned (char :: rest) =
          ((char :: rest).takeWhile fun char => digitVal char < 10).foldl
            (fun val char => val * 10 + digitVal char) 0 := by
        have listed := digit_listed digit
        simp only [List.mem_cons, List.not_mem_nil, or_false] at listed
        obtain rfl | rfl | rfl | rfl | rfl | rfl | rfl | rfl | rfl | rfl := listed
        · exact absurd rfl notZero
        all_goals rfl
      rw [isCons, base, ← isCons, List.takeWhile_eq_self_iff.mpr all, foldl_digits]

/-- What fits in a `long` is what was read. -/
def clampLong (val : Int) : Int := max (-2147483648) (min 2147483647 val)

theorem strtol_negative (rest : Text) :
    strtol ('-' :: rest) = clampLong (-(strtolUnsigned rest : Int)) := rfl

theorem strtol_unsigned {char : Char} (digit : char.isDigit = true) (rest : Text) :
    strtol (char :: rest) = clampLong (strtolUnsigned (char :: rest)) := by
  have listed := digit_listed digit
  simp only [List.mem_cons, List.not_mem_nil, or_false] at listed
  obtain rfl | rfl | rfl | rfl | rfl | rfl | rfl | rfl | rfl | rfl := listed <;> rfl

theorem strtol_decimal {val : Int} (low : -2147483648 ≤ val) (high : val ≤ 2147483647) :
    strtol (decimal val) = val := by
  unfold decimal
  split
  next negative =>
    rw [strtol_negative, strtolUnsigned_digits]
    unfold clampLong
    omega
  next =>
    have isText := strtolUnsigned_digits val.natAbs
    obtain ⟨char, rest, isCons⟩ := List.exists_cons_of_ne_nil
      (Nat.toDigits_ne_nil (n := val.natAbs) (b := 10))
    rw [isCons] at isText ⊢
    have digit : char.isDigit = true :=
      digits_isDigit (by rw [isCons]; exact List.mem_cons_self ..)
    rw [strtol_unsigned digit, isText]
    unfold clampLong
    omega

theorem decimal_injective {val other : Int} (same : decimal val = decimal other) :
    val = other := by
  have digits : ∀ {n m : Nat}, Nat.toDigits 10 n = Nat.toDigits 10 m → n = m := by
    intro n m equal
    rw [← Nat.ofDigitChars_ten_toDigits (n := n), equal, Nat.ofDigitChars_ten_toDigits]
  have notSign : ∀ {n m : Nat}, Nat.toDigits 10 n ≠ '-' :: Nat.toDigits 10 m := by
    intro n m equal
    have digit : Char.isDigit '-' = true :=
      digits_isDigit (n := n) (by rw [equal]; exact List.mem_cons_self ..)
    exact absurd digit (by decide)
  unfold decimal at same
  split at same <;> split at same
  · have := digits (List.cons.inj same).2
    omega
  · exact absurd same.symm notSign
  · exact absurd same notSign
  · have := digits same
    omega

theorem append_inj_of_stops {p : Char → Prop} {left left' right right' : Text}
    (inside : ∀ char ∈ left, p char) (inside' : ∀ char ∈ left', p char)
    (stops : ∀ char ∈ right.head?, ¬ p char) (stops' : ∀ char ∈ right'.head?, ¬ p char)
    (same : left ++ right = left' ++ right') : left = left' ∧ right = right' := by
  induction left generalizing left' with
  | nil =>
      cases left' with
      | nil => exact ⟨rfl, same⟩
      | cons char rest =>
          have first : char ∈ right.head? := congrArg List.head? same
          exact absurd (inside' char List.mem_cons_self) (stops char first)
  | cons char rest induction =>
      cases left' with
      | nil =>
          have first : char ∈ right'.head? := congrArg List.head? same.symm
          exact absurd (inside char List.mem_cons_self) (stops' char first)
      | cons char' rest' =>
          obtain ⟨sameHead, sameTail⟩ := List.cons.inj same
          obtain ⟨sameRest, sameRight⟩ := induction (List.forall_mem_cons.mp inside).2
            (List.forall_mem_cons.mp inside').2 sameTail
          exact ⟨by rw [sameHead, sameRest], sameRight⟩

theorem length_decimal {val : Int} (low : -2147483648 ≤ val) (high : val ≤ 2147483647) :
    (decimal val).length ≤ 11 := by
  have digits : (Nat.toDigits 10 val.natAbs).length ≤ 10 :=
    (Nat.length_toDigits_le_iff (by decide) (by decide)).mpr (by omega)
  unfold decimal
  split
  · exact Nat.succ_le_succ digits
  · exact Nat.le_succ_of_le digits

theorem bounds_of_length {val : Int} (short : (decimal val).length < 8) :
    -2147483648 ≤ val ∧ val ≤ 2147483647 := by
  have digits : val.natAbs < 10 ^ 7 := by
    rw [← Nat.length_toDigits_le_iff (by decide) (by decide)]
    unfold decimal at short
    split at short
    · rw [List.length_cons] at short
      omega
    · exact Nat.le_of_lt_succ short
  omega

/-- The first character alone is the number exactly if it is one digit. -/
theorem strtol_take_one {val : Int} :
    strtol ((decimal val).take 1) = val ↔ 0 ≤ val ∧ val ≤ 9 := by
  unfold decimal
  split
  next negative =>
    have sign : strtol (('-' :: Nat.toDigits 10 val.natAbs).take 1) = 0 := rfl
    rw [sign]
    omega
  next =>
    obtain ⟨char, rest, isCons⟩ := List.exists_cons_of_ne_nil
      (Nat.toDigits_ne_nil (n := val.natAbs) (b := 10))
    have digit : char.isDigit = true :=
      digits_isDigit (by rw [isCons]; exact List.mem_cons_self ..)
    rw [isCons, List.take_succ_cons, List.take_zero]
    constructor
    · intro same
      have small : strtol [char] ≤ 9 ∧ 0 ≤ strtol [char] :=
        digit_all (p := fun char => strtol [char] ≤ 9 ∧ 0 ≤ strtol [char]) digit
          (by decide)
      omega
    · rintro ⟨low, high⟩
      obtain ⟨n, rfl⟩ := Int.eq_ofNat_of_zero_le low
      rw [Int.natAbs_natCast, Nat.toDigits_of_lt_base (by omega)] at isCons
      obtain ⟨rfl, _⟩ := List.cons.inj isCons
      have bound : n ≤ 9 := by omega
      interval_cases n <;> decide

end Rkipc.Param
