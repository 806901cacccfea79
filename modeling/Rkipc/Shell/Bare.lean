import Mathlib.Algebra.GroupWithZero.Nat
import Rkipc.Shell.Words

namespace Rkipc.Shell

/-! Characters that are read as they stand. -/

def Token.size : Token → Nat
  | .word symbols => symbols.length + 1
  | .append file => file.length + 1
  | .background => 0

def sizes (tokens : List Token) : Nat := (tokens.map Token.size).sum

def Symbol.bare : Symbol → Bool
  | .literal char => char ∉ special ∧ char ∉ patterns
  | .pattern char => char ∈ patterns

/-- The symbols of a word of which nothing is quoted. -/
def bareWord (symbols : List Symbol) : Bool :=
  symbols ≠ [] ∧ symbols.all Symbol.bare ∧ symbols.head?.all fun symbol =>
    symbol.char ∉ ['#', '~']

def Token.bare : Token → Bool
  | .word symbols => bareWord symbols
  | .append file => bareWord (file.map symbol)
  | .background => true

theorem symbol_bare {char : Char} : (symbol char).bare = true ↔ char ∉ special := by
  have apart : ∀ char ∈ patterns, char ∉ special := by decide
  unfold symbol
  split
  next isPattern => simpa [Symbol.bare, isPattern] using apart char isPattern
  next notPattern => simp [Symbol.bare, notPattern]

theorem char_symbol (char : Char) : (symbol char).char = char := by
  unfold symbol
  split <;> rfl

theorem symbol_char {token : Symbol} (bare : token.bare = true) : symbol token.char = token := by
  cases token with
  | literal char =>
      simp only [Symbol.bare, decide_eq_true_eq] at bare
      exact if_neg bare.2
  | pattern char =>
      simp only [Symbol.bare, decide_eq_true_eq] at bare
      exact if_pos bare

section BareWord

variable {symbols : List Symbol} {last : Symbol}

theorem bareWord_iff : bareWord symbols = true ↔
    symbols ≠ [] ∧ (∀ symbol ∈ symbols, symbol.bare = true) ∧
      symbols.head?.all (fun symbol => symbol.char ∉ ['#', '~']) = true := by
  simp only [bareWord, decide_eq_true_eq, List.all_eq_true]

theorem bareWord_append (word : bareWord symbols = true) (bare : last.bare = true) :
    bareWord (symbols ++ [last]) = true := by
  obtain ⟨notEmpty, all, head⟩ := bareWord_iff.mp word
  obtain ⟨first, rest, rfl⟩ := List.exists_cons_of_ne_nil notEmpty
  refine bareWord_iff.mpr ⟨List.cons_ne_nil _ _, ?_, head⟩
  intro symbol member
  rcases List.mem_append.mp member with earlier | isLast
  · exact all symbol earlier
  · exact List.mem_singleton.mp isLast ▸ bare

theorem bareWord_single {char : Char} (ordinary : char ∉ special) (opens : char ∉ ['#', '~']) :
    bareWord [symbol char] = true := by
  refine bareWord_iff.mpr ⟨List.cons_ne_nil _ _, ?_, ?_⟩
  · intro other member
    exact List.mem_singleton.mp member ▸ symbol_bare.mpr ordinary
  · rw [List.head?_cons, Option.all_some, char_symbol, decide_eq_true_eq]
    exact opens

theorem map_symbol_char (bare : ∀ symbol ∈ symbols, symbol.bare = true) :
    (symbols.map Symbol.char).map symbol = symbols := by
  rw [List.map_map]
  exact (List.map_congr_left fun token member => symbol_char (bare token member)).trans
    (List.map_id symbols)

end BareWord

theorem sizes_append (first rest : List Token) :
    sizes (first ++ rest) = sizes first + sizes rest := by
  rw [sizes, List.map_append, List.sum_append]
  rfl

namespace Reading

def size (reading : Reading) : Nat := sizes reading.tokens + (reading.word.getD []).length

/-- A backslash between double quotes is not in the word before the next character. -/
def held (reading : Reading) : Nat := if reading.mode = .doubleBackslash then 1 else 0

/-- Every character so far is in a word, as it stands, or ends one. -/
structure Bare (reading : Reading) : Prop where
  tokens : reading.tokens.all Token.bare = true
  word : ∀ word ∈ reading.word, bareWord word = true
  mode : reading.mode ∈ [.unquoted, .greater, .ended]

variable {reading next : Reading} {char : Char} {line : List Char}

theorem close_word : reading.close.word = none := by
  unfold close
  split
  next none => exact none
  next => rfl

theorem close_mode : reading.close.mode = reading.mode := by
  unfold close
  split <;> rfl

theorem size_close : reading.close.size ≤ reading.size + 1 := by
  obtain ⟨tokens, word, target, mode⟩ := reading
  cases word with
  | none => exact Nat.le_succ _
  | some word =>
      have both : sizes [if target then Token.append (word.map Symbol.char) else .word word] =
          word.length + 1 := by
        cases target with
        | false => rfl
        | true => simp [sizes, Token.size]
      simp only [close, size, sizes_append, both, Option.getD_none, List.length_nil,
        Option.getD_some]
      omega

theorem size_push (symbol : Symbol) : (reading.push symbol).size = reading.size + 1 := by
  simp only [push, size, Option.getD_some, List.length_append, List.length_singleton]
  omega

/-- What a character is when nothing is quoted: it ends a word, opens a quotation or is in
a word. -/
theorem unquoted_cases (stepped : reading.unquoted char = some next) :
    next = reading.close ∨ next = { reading.close with mode := .ended } ∨
      next = { reading.close with mode := .greater } ∨
      (char = '&' ∧ next =
        { reading.close with
          tokens := reading.close.tokens ++ [Token.background]
          mode := .ended }) ∨
      (∃ mode ∈ [Mode.backslash, .single, .double], ∃ word, word.getD [] = reading.word.getD [] ∧
        next = { reading with word := word, mode := mode }) ∨
      (char ∉ special ∧ (reading.word = none → char ∉ ['#', '~']) ∧
        next = reading.push (symbol char)) := by
  unfold unquoted at stepped
  split at stepped
  · exact Or.inl (Option.some.inj stepped).symm
  split at stepped
  · split at stepped
    · cases stepped
    · exact Or.inr (Or.inl (Option.some.inj stepped).symm)
  split at stepped
  · split at stepped
    · cases stepped
    · exact Or.inr (Or.inr (Or.inl (Option.some.inj stepped).symm))
  split at stepped
  next isAnd =>
    split at stepped
    · cases stepped
    · exact Or.inr (Or.inr (Or.inr (Or.inl ⟨isAnd, (Option.some.inj stepped).symm⟩)))
  refine Or.inr (Or.inr (Or.inr (Or.inr ?_)))
  split at stepped
  · exact Or.inl ⟨.backslash, by simp, reading.word, rfl, (Option.some.inj stepped).symm⟩
  split at stepped
  · exact Or.inl ⟨.single, by simp, some (reading.word.getD []), rfl,
      (Option.some.inj stepped).symm⟩
  split at stepped
  · exact Or.inl ⟨.double, by simp, some (reading.word.getD []), rfl,
      (Option.some.inj stepped).symm⟩
  split at stepped
  · cases stepped
  next ordinary =>
    split at stepped
    · cases stepped
    next opens =>
      exact Or.inr ⟨ordinary, fun isNone member => opens ⟨isNone, member⟩,
        (Option.some.inj stepped).symm⟩

theorem size_unquoted (stepped : reading.unquoted char = some next)
    (mode : reading.mode = .unquoted) : next.size + next.held ≤ reading.size + 1 := by
  have closed := @size_close reading
  have notHeld : reading.close.held = 0 := by
    rw [held, close_mode, mode]
    rfl
  rcases unquoted_cases stepped with
    rfl | rfl | rfl | ⟨_, rfl⟩ | ⟨quoting, isQuoting, word, same, rfl⟩ | ⟨_, _, rfl⟩
  · rw [notHeld]
    exact closed
  · exact closed
  · exact closed
  · refine Nat.le_trans (Nat.le_of_eq ?_) closed
    simp [size, held, sizes, Token.size]
  · have notDouble : quoting ≠ .doubleBackslash := by
      rintro rfl
      exact absurd isQuoting (by decide)
    simp only [size, held, same, if_neg notDouble]
    exact Nat.le_succ _
  · rw [held, push, mode]
    exact Nat.le_of_eq (size_push _)

/-- A character is at most one more in the words, and what ends a word counts as well. -/
theorem size_step (stepped : reading.step char = some next) :
    next.size + next.held ≤ reading.size + reading.held + 1 := by
  unfold step at stepped
  split at stepped
  next mode => exact Nat.le_trans (size_unquoted stepped mode) (by omega)
  all_goals split_ifs at stepped
  all_goals cases stepped
  all_goals simp [held, size, push, *]
  all_goals omega

theorem size_run (ran : reading.run line = some next) :
    next.size + next.held ≤ reading.size + reading.held + line.length := by
  induction line generalizing reading with
  | nil =>
      cases ran
      exact Nat.le_refl _
  | cons char rest induction =>
      obtain ⟨mid, stepped, ran⟩ := Option.bind_eq_some_iff.mp ran
      have first := size_step stepped
      have others := induction ran
      rw [List.length_cons]
      omega

theorem Bare.held (bare : reading.Bare) : reading.held = 0 := by
  have mode := bare.mode
  rw [Reading.held, if_neg]
  intro same
  rw [same] at mode
  exact absurd mode (by decide)

theorem Bare.close_tokens (bare : reading.Bare) : reading.close.tokens.all Token.bare = true := by
  unfold close
  split
  · exact bare.tokens
  next word isWord =>
    have isBare := bare.word word isWord
    have same := map_symbol_char (bareWord_iff.mp isBare).2.1
    rw [List.all_append, bare.tokens]
    cases reading.target with
    | false => simpa [Token.bare] using isBare
    | true => simpa [Token.bare, same] using isBare

theorem Bare.unquoted (bare : reading.Bare) (mode : reading.mode = .unquoted)
    (stepped : reading.unquoted char = some next)
    (exact : reading.size + 1 ≤ next.size + next.held) : next.Bare := by
  have closed := bare.close_tokens
  have noWord : ∀ word ∈ reading.close.word, bareWord word = true := by
    intro word isWord
    rw [close_word] at isWord
    cases isWord
  rcases unquoted_cases stepped with
    rfl | rfl | rfl | ⟨_, rfl⟩ | ⟨quoting, isQuoting, word, same, rfl⟩ | ⟨ordinary, opens, rfl⟩
  · exact ⟨closed, noWord, by simp [close_mode, mode]⟩
  · exact ⟨closed, noWord, by simp⟩
  · exact ⟨closed, noWord, by simp⟩
  · exact ⟨by simp [closed, Token.bare], noWord, by simp⟩
  · have notDouble : quoting ≠ .doubleBackslash := by
      rintro rfl
      exact absurd isQuoting (by decide)
    simp only [size, Reading.held, same, if_neg notDouble] at exact
    exact absurd exact (Nat.not_succ_le_self _)
  · refine ⟨bare.tokens, ?_, by simp [push, mode]⟩
    intro word isWord
    cases isWord
    cases isNone : reading.word with
    | none => exact bareWord_single ordinary (opens isNone)
    | some word => exact bareWord_append (bare.word word isNone) (symbol_bare.mpr ordinary)

theorem Bare.step (bare : reading.Bare) (stepped : reading.step char = some next)
    (exact : reading.size + 1 ≤ next.size + next.held) : next.Bare := by
  have mode := bare.mode
  simp only [List.mem_cons, List.not_mem_nil, or_false] at mode
  unfold Reading.step at stepped
  rcases mode with mode | mode | mode
  · rw [mode] at stepped
    exact bare.unquoted mode stepped exact
  · rw [mode] at stepped
    simp only at stepped
    split_ifs at stepped
    cases stepped
    exact absurd exact (Nat.not_succ_le_self _)
  · rw [mode] at stepped
    simp only at stepped
    split_ifs at stepped
    cases stepped
    rw [bare.held] at exact
    exact absurd exact (Nat.not_succ_le_self _)

theorem Bare.run (bare : reading.Bare) (ran : reading.run line = some next)
    (exact : reading.size + line.length ≤ next.size) : next.Bare := by
  induction line generalizing reading with
  | nil =>
      cases ran
      exact bare
  | cons char rest induction =>
      obtain ⟨mid, stepped, ran⟩ := Option.bind_eq_some_iff.mp ran
      have others := size_run ran
      rw [List.length_cons] at exact
      have isBare := bare.step stepped (by omega)
      have first := size_step stepped
      rw [isBare.held] at others
      rw [bare.held] at first
      exact induction isBare ran (by omega)

/-- The tokens of a line that begins as it has been read. -/
def ends (reading : Reading) (line : List Char) : Option (List Token) :=
  (reading.run line).bind finish

theorem run_append {rest : List Char} :
    reading.run (line ++ rest) = (reading.run line).bind fun next => next.run rest := by
  induction line generalizing reading with
  | nil => rfl
  | cons char line induction =>
      rw [List.cons_append, Reading.run, Reading.run, Option.bind_assoc]
      exact Option.bind_congr fun next _ => induction

theorem ends_append {rest : List Char} (ran : reading.run line = some next) :
    reading.ends (line ++ rest) = next.ends rest := by
  rw [ends, run_append, ran, Option.bind_some, ends]

/-- A line as long as its tokens is not cut, and nothing in it is quoted. -/
theorem Bare.of_ends {count : Nat} {tokens : List Token} (bare : reading.Bare)
    (isEnd : reading.ends (line.take count) = some tokens)
    (full : reading.size + line.length + 1 ≤ sizes tokens) :
    line.length ≤ count ∧ tokens.all Token.bare = true := by
  obtain ⟨next, ran, finished⟩ := Option.bind_eq_some_iff.mp isEnd
  obtain rfl : next.close.tokens = tokens := by
    unfold finish at finished
    split at finished
    · exact Option.some.inj finished
    · cases finished
  have most := size_run ran
  have closed := @size_close next
  rw [bare.held, List.length_take] at most
  rw [size] at closed
  refine ⟨by omega, (bare.run ran ?_).close_tokens⟩
  rw [List.length_take]
  omega

end Reading

end Rkipc.Shell
