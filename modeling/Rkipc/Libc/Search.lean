import Mathlib.Data.List.Infix

namespace Rkipc.Libc

/-! Strings in memory.  A pointer is the memory from it on, and a NUL stands behind the
memory. -/

section Search

variable {α : Type u} [DecidableEq α] (nul : α)

def cString (memory : List α) : List α := memory.takeWhile (· ≠ nul)

/-- The pointer to the first place in the string where the needle stands. -/
def strstr (needle : List α) : List α → Option (List α)
  | [] => if needle = [] then some [] else none
  | byte :: rest =>
      if needle <+: byte :: rest then some (byte :: rest)
      else if byte = nul then none
      else strstr needle rest

/-- The strings that end in a NUL, and what is behind the last one. -/
def strings : List α → List (List α) × List α
  | [] => ([], [])
  | byte :: rest =>
      if byte = nul then ([] :: (strings rest).1, (strings rest).2)
      else
        match (strings rest).1 with
        | [] => ([], byte :: (strings rest).2)
        | string :: others => ((byte :: string) :: others, (strings rest).2)

/-- The memory of strings, each with its NUL. -/
def terminated (strings : List (List α)) : List α := strings.flatMap (· ++ [nul])

variable {nul} {needle memory string rest found : List α}

theorem cString_append (free : nul ∉ string) :
    cString nul (string ++ rest) = string ++ cString nul rest :=
  List.takeWhile_append_of_pos fun byte isIn => by
    simpa using ne_of_mem_of_not_mem isIn free

theorem cString_of_notMem (free : nul ∉ string) : cString nul string = string := by
  have whole : cString nul (string ++ []) = string ++ [] := cString_append free
  rwa [List.append_nil] at whole

theorem cString_nul : cString nul (nul :: rest) = [] := by
  rw [cString, List.takeWhile_cons_of_neg (by simp)]

theorem isPrefix_cString (free : nul ∉ needle) :
    needle <+: memory ↔ needle <+: cString nul memory := by
  induction needle generalizing memory with
  | nil => exact iff_of_true (List.nil_prefix) (List.nil_prefix)
  | cons first needle induction =>
      obtain ⟨isByte, free⟩ := not_or.mp (mt List.mem_cons.mpr free)
      cases memory with
      | nil => exact Iff.rfl
      | cons byte memory =>
          by_cases isNul : byte = nul
          · subst isNul
            rw [cString_nul]
            refine iff_of_false (fun isPrefix => ?_) (fun isPrefix => ?_)
            · exact isByte (List.cons_prefix_cons.mp isPrefix).1.symm
            · cases List.prefix_nil.mp isPrefix
          · rw [cString, List.takeWhile_cons_of_pos (by simpa using isNul),
              List.cons_prefix_cons, List.cons_prefix_cons, induction free, cString]

theorem strstr_isSome_iff (free : nul ∉ needle) :
    (strstr nul needle memory).isSome = true ↔ needle <:+: cString nul memory := by
  induction memory with
  | nil =>
      rw [strstr, cString, List.takeWhile_nil, List.infix_nil]
      by_cases isNil : needle = []
      · rw [if_pos isNil]
        exact iff_of_true rfl isNil
      · rw [if_neg isNil]
        exact iff_of_false (by simp) isNil
  | cons byte memory induction =>
      rw [strstr]
      by_cases isPrefix : needle <+: byte :: memory
      · rw [if_pos isPrefix]
        exact iff_of_true rfl ((isPrefix_cString free).mp isPrefix).isInfix
      · rw [if_neg isPrefix]
        by_cases isNul : byte = nul
        · subst isNul
          rw [if_pos rfl, cString_nul, List.infix_nil]
          exact iff_of_false (by simp) fun isNil => isPrefix (isNil ▸ List.nil_prefix)
        · have tail : cString nul (byte :: memory) = byte :: cString nul memory := by
            rw [cString, List.takeWhile_cons_of_pos (by simpa using isNul)]
            rfl
          have notPrefix := mt (isPrefix_cString free).mpr isPrefix
          rw [tail] at notPrefix ⊢
          rw [if_neg isNul, induction, List.infix_cons_iff, or_iff_right notPrefix]

theorem strstr_eq_some (isFound : strstr nul needle memory = some found) :
    found <:+ memory ∧ needle <+: found := by
  induction memory with
  | nil =>
      rw [strstr] at isFound
      split at isFound
      next isNil =>
        cases isFound
        exact ⟨List.suffix_refl _, isNil ▸ List.nil_prefix⟩
      next => cases isFound
  | cons byte memory induction =>
      rw [strstr] at isFound
      split at isFound
      next isPrefix =>
        cases isFound
        exact ⟨List.suffix_refl _, isPrefix⟩
      next =>
        split at isFound
        next => cases isFound
        next =>
          obtain ⟨isSuffix, isPrefix⟩ := induction isFound
          exact ⟨isSuffix.trans (List.suffix_cons _ _), isPrefix⟩

/-- In a string the search does not depend on what is behind the string. -/
theorem strstr_append_nul (free : nul ∉ needle) (notNil : needle ≠ []) (isString : nul ∉ string) :
    strstr nul needle (string ++ nul :: rest) =
      (strstr nul needle string).map (· ++ nul :: rest) := by
  induction string with
  | nil =>
      have notPrefix : ¬ needle <+: nul :: rest := by
        rw [isPrefix_cString free, cString_nul, List.prefix_nil]
        exact notNil
      have ofNil : strstr nul needle [] = none := if_neg notNil
      rw [List.nil_append, ofNil, strstr, if_neg notPrefix, if_pos rfl, Option.map_none]
  | cons byte string induction =>
      obtain ⟨isByte, isTail⟩ := not_or.mp (mt List.mem_cons.mpr isString)
      have same : needle <+: byte :: (string ++ nul :: rest) ↔ needle <+: byte :: string := by
        rw [isPrefix_cString free, ← List.cons_append, cString_append isString, cString_nul,
          List.append_nil]
      rw [List.cons_append, strstr, strstr]
      by_cases isPrefix : needle <+: byte :: string
      · rw [if_pos (same.mpr isPrefix), if_pos isPrefix]
        rfl
      · rw [if_neg (mt same.mp isPrefix), if_neg isPrefix, if_neg (Ne.symm isByte),
          if_neg (Ne.symm isByte), induction isTail]

theorem length_le_of_strstr (isString : nul ∉ string) (isSuffix : rest <:+ string)
    (isPrefix : needle <+: rest) :
    ∃ found, strstr nul needle string = some found ∧ rest.length ≤ found.length := by
  induction string with
  | nil =>
      cases List.suffix_nil.mp isSuffix
      cases List.prefix_nil.mp isPrefix
      exact ⟨[], if_pos rfl, Nat.le_refl _⟩
  | cons byte string induction =>
      obtain ⟨isByte, isTail⟩ := not_or.mp (mt List.mem_cons.mpr isString)
      rw [strstr]
      by_cases atOnce : needle <+: byte :: string
      · rw [if_pos atOnce]
        exact ⟨_, rfl, isSuffix.length_le⟩
      · rw [if_neg atOnce, if_neg (Ne.symm isByte)]
        obtain same | inner := List.suffix_cons_iff.mp isSuffix
        · exact absurd (same ▸ isPrefix) atOnce
        · exact induction isTail inner

theorem terminated_strings (memory : List α) :
    terminated nul (strings nul memory).1 ++ (strings nul memory).2 = memory := by
  induction memory with
  | nil => rfl
  | cons byte memory induction =>
      rw [strings]
      by_cases isNul : byte = nul
      · rw [if_pos isNul]
        change [] ++ [nul] ++ terminated nul _ ++ _ = _
        rw [List.nil_append, List.append_assoc, induction, isNul, List.singleton_append]
      · rw [if_neg isNul]
        cases parts : (strings nul memory).1 with
        | nil =>
            rw [parts] at induction
            exact congrArg (byte :: ·) induction
        | cons string others =>
            rw [parts] at induction
            exact congrArg (byte :: ·) induction

theorem notMem_strings (memory : List α) :
    (∀ string ∈ (strings nul memory).1, nul ∉ string) ∧ nul ∉ (strings nul memory).2 := by
  induction memory with
  | nil => exact ⟨fun _ isIn => absurd isIn List.not_mem_nil, List.not_mem_nil⟩
  | cons byte memory induction =>
      rw [strings]
      by_cases isNul : byte = nul
      · rw [if_pos isNul]
        exact ⟨List.forall_mem_cons.mpr ⟨List.not_mem_nil, induction.1⟩, induction.2⟩
      · rw [if_neg isNul]
        have addByte (string : List α) (free : nul ∉ string) : nul ∉ byte :: string := by
          rw [List.mem_cons, not_or]
          exact ⟨Ne.symm isNul, free⟩
        cases parts : (strings nul memory).1 with
        | nil => exact ⟨fun _ isIn => absurd isIn List.not_mem_nil, addByte _ induction.2⟩
        | cons string others =>
            rw [parts] at induction
            obtain ⟨free, frees⟩ := List.forall_mem_cons.mp induction.1
            exact ⟨List.forall_mem_cons.mpr ⟨addByte _ free, frees⟩, induction.2⟩

end Search

end Rkipc.Libc
