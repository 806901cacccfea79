import Rkipc.Shell.Bare

namespace Rkipc.Shell

/-! Lines of words, of which nothing may be cut off. -/

/-- The text of one word that is not quoted. -/
def bareText (text : List Char) : Bool := bareWord (text.map symbol)

/-- The text of one word that is not quoted and stands for itself. -/
def plainText (text : List Char) : Bool := bareWord (text.map .literal)

def Token.argument (text : List Char) : Token := .word (text.map .literal)

theorem bareText_iff {text : List Char} : bareText text = true ↔
    text ≠ [] ∧ (∀ char ∈ text, char ∉ special) ∧
      text.head?.all (fun char => char ∉ ['#', '~']) = true := by
  have head : ((text.map symbol).head?.all fun symbol => symbol.char ∉ ['#', '~']) =
      text.head?.all fun char => char ∉ ['#', '~'] := by
    cases text with
    | nil => rfl
    | cons first rest => simp [char_symbol]
  rw [bareText, bareWord_iff, List.forall_mem_map, head]
  simp only [ne_eq, List.map_eq_nil_iff, symbol_bare]

theorem plainText_iff {text : List Char} : plainText text = true ↔
    bareText text = true ∧ ∀ char ∈ text, char ∉ patterns := by
  have head : ((text.map Symbol.literal).head?.all fun symbol => symbol.char ∉ ['#', '~']) =
      text.head?.all fun char => char ∉ ['#', '~'] := by
    cases text with
    | nil => rfl
    | cons first rest => rfl
  rw [bareText_iff, plainText, bareWord_iff, List.forall_mem_map, head]
  simp only [ne_eq, List.map_eq_nil_iff, Symbol.bare, decide_eq_true_eq]
  constructor
  · rintro ⟨notEmpty, ordinary, head⟩
    exact ⟨⟨notEmpty, fun char member => (ordinary char member).1, head⟩,
      fun char member => (ordinary char member).2⟩
  · rintro ⟨⟨notEmpty, ordinary, head⟩, plain⟩
    exact ⟨notEmpty, fun char member => ⟨ordinary char member, plain char member⟩, head⟩

theorem map_symbol {text : List Char} (plain : ∀ char ∈ text, char ∉ patterns) :
    text.map symbol = text.map .literal :=
  List.map_congr_left fun char member => if_neg (plain char member)

namespace Reading

variable {reading : Reading} {text : List Char} {word : List Symbol}

theorem step_symbol {char : Char} (mode : reading.mode = .unquoted) (ordinary : char ∉ special)
    (opens : reading.word ≠ none ∨ char ∉ ['#', '~']) :
    reading.step char = some (reading.push (symbol char)) := by
  have closed : ¬ (reading.word = none ∧ char ∈ ['#', '~']) := by
    rintro ⟨isNone, member⟩
    exact opens.elim (fun isWord => isWord isNone) fun other => other member
  rw [step, mode]
  simp only [unquoted, if_neg ordinary, if_neg closed]
  simp only [special, List.mem_cons, List.not_mem_nil, or_false, not_or] at ordinary
  simp [ordinary]

theorem run_symbols (mode : reading.mode = .unquoted) (isWord : reading.word = some word)
    (ordinary : ∀ char ∈ text, char ∉ special) :
    reading.run text = some { reading with word := some (word ++ text.map symbol) } := by
  induction text generalizing reading word with
  | nil =>
      rw [List.map_nil, List.append_nil, ← isWord]
      rfl
  | cons char rest induction =>
      obtain ⟨isOrdinary, ordinary⟩ := List.forall_mem_cons.mp ordinary
      have isSome : reading.word ≠ none := by
        rw [isWord]
        exact Option.some_ne_none word
      have pushed : (reading.push (symbol char)).word = some (word ++ [symbol char]) := by
        rw [push, isWord, Option.getD_some]
      have pushMode : (reading.push (symbol char)).mode = .unquoted := mode
      rw [Reading.run, step_symbol mode isOrdinary (Or.inl isSome), Option.bind_some,
        induction pushMode pushed ordinary, List.map_cons, List.append_assoc]
      rfl

theorem run_text (mode : reading.mode = .unquoted) (noWord : reading.word = none)
    (bare : bareText text = true) :
    reading.run text = some { reading with word := some (text.map symbol) } := by
  obtain ⟨notEmpty, ordinary, head⟩ := bareText_iff.mp bare
  obtain ⟨first, rest, rfl⟩ := List.exists_cons_of_ne_nil notEmpty
  obtain ⟨isOrdinary, ordinary⟩ := List.forall_mem_cons.mp ordinary
  have opens : first ∉ ['#', '~'] := by simpa using head
  have pushed : (reading.push (symbol first)).word = some [symbol first] := by
    rw [push, noWord]
    rfl
  have pushMode : (reading.push (symbol first)).mode = .unquoted := mode
  rw [Reading.run, step_symbol mode isOrdinary (Or.inr opens), Option.bind_some,
    run_symbols pushMode pushed ordinary, List.map_cons]
  rfl

end Reading

/-- Words with a blank between them. -/
def joined : List (List Char) → List Char
  | [] => []
  | [word] => word
  | word :: rest => word ++ ' ' :: joined rest

theorem start_bare : Reading.start.Bare :=
  ⟨rfl, fun word isWord => (by cases isWord), by decide⟩

def Token.ofText (text : List Char) : Token := .word (text.map symbol)

theorem map_ofText {words : List (List Char)} (plain : ∀ word ∈ words, plainText word = true) :
    words.map Token.ofText = words.map Token.argument :=
  List.map_congr_left fun word member =>
    congrArg Token.word (map_symbol (plainText_iff.mp (plain word member)).2)

theorem run_word_blank {word : List Char} (bare : bareText word = true) (tokens : List Token) :
    (Reading.mk tokens none false .unquoted).run (word ++ [' ']) =
      some ⟨tokens ++ [Token.ofText word], none, false, .unquoted⟩ := by
  rw [Reading.run_append, Reading.run_text rfl rfl bare]
  rfl

/-- Words with a blank behind each. -/
def blanked (words : List (List Char)) : List Char := words.flatMap fun word => word ++ [' ']

theorem run_blanked {words : List (List Char)} (bare : ∀ word ∈ words, bareText word = true)
    (tokens : List Token) : (Reading.mk tokens none false .unquoted).run (blanked words) =
      some ⟨tokens ++ words.map Token.ofText, none, false, .unquoted⟩ := by
  induction words generalizing tokens with
  | nil => simp [blanked, Reading.run]
  | cons word rest induction =>
      obtain ⟨isBare, bare⟩ := List.forall_mem_cons.mp bare
      rw [blanked, List.flatMap_cons, Reading.run_append, run_word_blank isBare tokens,
        Option.bind_some]
      exact (induction bare _).trans (by rw [List.append_assoc]; rfl)

theorem joined_append (words : List (List Char)) (last : List Char) :
    joined (words ++ [last]) = blanked words ++ last := by
  induction words with
  | nil => rfl
  | cons word rest induction =>
      obtain ⟨second, others, isCons⟩ := List.exists_cons_of_ne_nil
        (List.append_ne_nil_of_right_ne_nil rest (List.cons_ne_nil last []))
      rw [List.cons_append, isCons, joined, ← isCons, induction, blanked, blanked,
        List.flatMap_cons]
      · simp
      · exact List.cons_ne_nil second others

theorem ends_joined {words : List (List Char)} (notEmpty : words ≠ [])
    (bare : ∀ word ∈ words, bareText word = true) (tokens : List Token) :
    (Reading.mk tokens none false .unquoted).ends (joined words) =
      some (tokens ++ words.map Token.ofText) := by
  obtain ⟨first, last, rfl⟩ := (List.eq_nil_or_concat words).resolve_left notEmpty
  rw [List.concat_eq_append] at bare ⊢
  obtain ⟨bare, isLast⟩ := List.forall_mem_append.mp bare
  rw [joined_append, Reading.ends_append (run_blanked bare tokens), Reading.ends,
    Reading.run_text rfl rfl (isLast last (List.mem_singleton_self last)), Option.bind_some]
  simp [Reading.finish, Reading.close, Reading.waits, Token.ofText]

theorem sizes_joined {words : List (List Char)} (notEmpty : words ≠ []) :
    sizes (words.map Token.argument) = (joined words).length + 1 := by
  induction words with
  | nil => exact absurd rfl notEmpty
  | cons word rest induction =>
      cases rest with
      | nil => simp [sizes, Token.argument, Token.size, joined]
      | cons second rest =>
          have others := induction (List.cons_ne_nil second rest)
          rw [joined, List.length_append, List.length_cons, List.map_cons, ← List.singleton_append,
            sizes_append, others]
          · simp [sizes, Token.argument, Token.size]
            omega
          · exact List.cons_ne_nil second rest

/-- The one way to read words that are cut at some length: nothing is cut or quoted. -/
theorem read_take_joined {words : List (List Char)} (notEmpty : words ≠ []) (count : Nat) :
    read ((joined words).take count) = some (words.map Token.argument) ↔
      (∀ word ∈ words, plainText word = true) ∧ (joined words).length ≤ count := by
  constructor
  · intro isEnd
    obtain ⟨fits, all⟩ := start_bare.of_ends isEnd (by
      rw [sizes_joined notEmpty]
      exact Nat.le_of_eq (by simp [Reading.size, Reading.start, sizes]))
    refine ⟨fun word member => ?_, fits⟩
    exact List.all_eq_true.mp all _ (List.mem_map_of_mem member)
  · rintro ⟨plain, fits⟩
    rw [List.take_of_length_le fits, ← map_ofText plain]
    exact ends_joined notEmpty (fun word member => (plainText_iff.mp (plain word member)).1) []

/-- What `>>` with a blank on both sides makes of a line of words. -/
theorem run_append_words {words : List (List Char)} (notEmpty : words ≠ [])
    (bare : ∀ word ∈ words, bareText word = true) :
    Reading.start.run (joined words ++ [' ', '>', '>', ' ']) =
      some ⟨words.map Token.ofText, none, true, .unquoted⟩ := by
  obtain ⟨first, last, rfl⟩ := (List.eq_nil_or_concat words).resolve_left notEmpty
  rw [List.concat_eq_append] at bare ⊢
  have isBlanked : joined (first ++ [last]) ++ [' ', '>', '>', ' '] =
      blanked (first ++ [last]) ++ ['>', '>', ' '] := by
    simp [joined_append, blanked]
  rw [isBlanked, Reading.run_append, Reading.start, run_blanked bare []]
  rfl

/-- The file behind `>>` is read as it stands when none of it is cut or quoted. -/
theorem ends_file_iff {tokens : List Token} (bare : tokens.all Token.bare = true)
    (file : List Char) (count : Nat) :
    (Reading.mk tokens none true .unquoted).ends (file.take count) =
        some (tokens ++ [Token.append file]) ↔
      bareText file = true ∧ file.length ≤ count := by
  constructor
  · intro isEnd
    have isBare : (Reading.mk tokens none true .unquoted).Bare :=
      ⟨bare, fun word isWord => (by cases isWord), List.mem_cons_self⟩
    obtain ⟨fits, all⟩ := isBare.of_ends isEnd (by
      simp only [Reading.size, sizes, Token.size, Option.getD_none, List.length_nil,
        List.map_append, List.map_cons, List.map_nil, List.sum_append, List.sum_cons,
        List.sum_nil]
      omega)
    rw [List.all_append, Bool.and_eq_true] at all
    exact ⟨(List.all_eq_true.mp all.2) _ (List.mem_singleton_self _), fits⟩
  · rintro ⟨isBare, fits⟩
    have same : (file.map symbol).map Symbol.char = file := by
      rw [List.map_map]
      exact (List.map_congr_left fun char _ => char_symbol char).trans (List.map_id file)
    rw [List.take_of_length_le fits, Reading.ends, Reading.run_text rfl rfl isBare]
    simp [Reading.finish, Reading.close, Reading.waits, same]

section Escape

variable {reading next : Reading} {text : List Char} {word : List Symbol}
  {tokens : List Token}

theorem finish_tokens (finished : reading.finish = some tokens) :
    reading.close.tokens = tokens := by
  unfold Reading.finish at finished
  split at finished
  · exact Option.some.inj finished
  · cases finished

/-- A backslash in front of every character. -/
def escape (text : List Char) : List Char := text.flatMap fun char => ['\\', char]

theorem escape_cons (char : Char) : escape (char :: text) = '\\' :: char :: escape text := rfl

theorem length_escape : (escape text).length = 2 * text.length := by
  induction text with
  | nil => rfl
  | cons char rest induction =>
      rw [escape_cons, List.length_cons, List.length_cons, List.length_cons, induction]
      omega

theorem run_pair (mode : reading.mode = .unquoted) (char : Char) (rest : List Char) :
    reading.run ('\\' :: char :: rest) =
      (if char = '\n' then reading else reading.push (.literal char)).run rest := by
  obtain ⟨tokens, word, target, _⟩ := reading
  obtain rfl := mode
  rw [Reading.run]
  have opened : (Reading.mk tokens word target .unquoted).step '\\' =
      some ⟨tokens, word, target, .backslash⟩ := rfl
  have pushed : (Reading.mk tokens word target .backslash).step char =
      some (if char = '\n' then ⟨tokens, word, target, .unquoted⟩
        else (Reading.mk tokens word target .unquoted).push (.literal char)) :=
    (apply_ite some _ _ _).symm
  rw [opened, Option.bind_some, Reading.run, pushed, Option.bind_some]

/-- A newline behind a backslash is nothing. -/
theorem run_escape (mode : reading.mode = .unquoted) (isWord : reading.word = some word) :
    reading.run (escape text) = some { reading with
      word := some (word ++ (text.filter (· ≠ '\n')).map Symbol.literal) } := by
  induction text generalizing reading word with
  | nil =>
      rw [List.filter_nil, List.map_nil, List.append_nil, ← isWord]
      rfl
  | cons char rest induction =>
      rw [escape_cons, run_pair mode]
      split_ifs with isNewline
      · rw [induction mode isWord, List.filter_cons_of_neg (by simp [isNewline])]
      · have pushed :
            (reading.push (.literal char)).word = some (word ++ [Symbol.literal char]) := by
          rw [Reading.push, isWord, Option.getD_some]
        have pushMode : (reading.push (.literal char)).mode = .unquoted := mode
        rw [induction pushMode pushed, List.filter_cons_of_pos (by simp [isNewline]),
          List.map_cons, List.append_assoc]
        rfl

/-- Half of the characters of a text that is cut are in the words. -/
theorem size_escape {count : Nat} (mode : reading.mode = .unquoted)
    (ran : reading.run ((escape text).take count) = some next) :
    2 * next.size ≤ 2 * reading.size + count := by
  induction text generalizing reading count with
  | nil =>
      rw [escape, List.flatMap_nil, List.take_nil] at ran
      cases ran
      omega
  | cons char rest induction =>
      cases count with
      | zero =>
          cases ran
          omega
      | succ count =>
          cases count with
          | zero =>
              have opened : reading.run ['\\'] = some { reading with mode := .backslash } := by
                obtain ⟨tokens, word, target, _⟩ := reading
                obtain rfl := mode
                rfl
              cases ran.symm.trans opened
              exact Nat.le_succ _
          | succ count =>
              rw [escape_cons, List.take_succ_cons, List.take_succ_cons, run_pair mode] at ran
              split_ifs at ran
              · have := induction mode ran
                omega
              · have pushMode : (reading.push (.literal char)).mode = .unquoted := mode
                have := induction pushMode ran
                rw [Reading.size_push] at this
                omega

theorem sizes_blanked (words : List (List Char)) :
    sizes (words.map Token.argument) = (blanked words).length := by
  induction words with
  | nil => rfl
  | cons word rest induction =>
      rw [List.map_cons, ← List.singleton_append, sizes_append, induction, blanked, blanked,
        List.flatMap_cons, List.length_append]
      simp [sizes, Token.argument, Token.size]

/-- A last word with a backslash in front of every character, when the line is cut. -/
theorem read_take_escape {words : List (List Char)} {first : Char}
    (plain : ∀ word ∈ words, plainText word = true) (isChar : first ≠ '\n')
    (text : List Char) (count : Nat) :
    read ((blanked words ++ escape (first :: text)).take count) =
        some (words.map Token.argument ++ [Token.argument (first :: text)]) ↔
      '\n' ∉ text ∧ (blanked words).length + 2 * (text.length + 1) ≤ count := by
  have ranWords := run_blanked (fun word member => (plainText_iff.mp (plain word member)).1) []
  rw [map_ofText plain] at ranWords
  have opened : (Reading.mk (words.map .argument) none false .unquoted).run
      (escape (first :: text)) =
        some ⟨words.map .argument, some ([Symbol.literal first] ++
          (text.filter (· ≠ '\n')).map Symbol.literal), false, .unquoted⟩ := by
    rw [escape_cons, run_pair rfl, if_neg isChar]
    exact run_escape rfl rfl
  have total : sizes (words.map Token.argument ++ [Token.argument (first :: text)]) =
      (blanked words).length + text.length + 2 := by
    rw [sizes_append, sizes_blanked]
    simp [sizes, Token.argument, Token.size, Nat.add_assoc]
  constructor
  · intro isEnd
    obtain ⟨next, ran, finished⟩ := Option.bind_eq_some_iff.mp isEnd
    have closed := @Reading.size_close next
    rw [Reading.size, finish_tokens finished, total] at closed
    have inFront : (blanked words).length ≤ count := by
      have most := Reading.size_run ran
      have isStart : Reading.start.size + Reading.start.held = 0 := rfl
      rw [List.length_take] at most
      omega
    rw [List.take_append, List.take_of_length_le inFront, Reading.run_append] at ran
    obtain ⟨mid, ranFront, ran⟩ := Option.bind_eq_some_iff.mp ran
    obtain rfl := Option.some.inj (ranFront.symm.trans ranWords)
    have half := size_escape rfl ran
    have atMid : (Reading.mk ([] ++ words.map Token.argument) none false .unquoted).size =
        (blanked words).length := sizes_blanked words
    rw [atMid] at half
    have fits : 2 * (text.length + 1) ≤ count - (blanked words).length := by omega
    refine ⟨?_, by omega⟩
    rw [List.take_of_length_le (by rw [length_escape]; exact fits)] at ran
    obtain rfl := Option.some.inj (ran.symm.trans opened)
    have isTokens := finish_tokens finished
    simp only [Reading.close] at isTokens
    have isWord := Token.word.inj
      (List.head_eq_of_cons_eq (List.append_inj_right' isTokens rfl))
    rw [List.map_cons, List.singleton_append] at isWord
    have kept := List.map_injective_iff.mpr (fun _ _ => Symbol.literal.inj)
      (List.cons.inj isWord).2
    intro member
    rw [← kept] at member
    exact absurd (List.mem_filter.mp member).2 (by decide)
  · rintro ⟨noNewline, fits⟩
    have whole : (blanked words ++ escape (first :: text)).length ≤ count := by
      rw [List.length_append, length_escape]
      exact fits
    have kept : text.filter (· ≠ '\n') = text := by
      refine List.filter_eq_self.mpr fun char member => decide_eq_true ?_
      rintro rfl
      exact noNewline member
    rw [List.take_of_length_le whole, read, ← Reading.ends, Reading.start,
      Reading.ends_append ranWords, Reading.ends, List.nil_append, opened, kept]
    simp [Reading.finish, Reading.close, Reading.waits, Token.argument]

end Escape

section Background

variable {reading next : Reading} {line : List Char} {tokens : List Token}

/-- A blank or a newline is all that may follow the end of a command. -/
theorem run_ended (mode : reading.mode = .ended) (ran : reading.run line = some next) :
    next = reading := by
  induction line with
  | nil =>
      cases ran
      rfl
  | cons char rest induction =>
      obtain ⟨mid, stepped, ran⟩ := Option.bind_eq_some_iff.mp ran
      rw [Reading.step, mode] at stepped
      simp only at stepped
      split at stepped
      · cases stepped
        exact induction ran
      · cases stepped

theorem not_mem_close (noBackground : Token.background ∉ reading.tokens) :
    Token.background ∉ reading.close.tokens := by
  unfold Reading.close
  split
  · exact noBackground
  · cases reading.target <;> simpa using noBackground

theorem step_background {char : Char} (noBackground : Token.background ∉ reading.tokens)
    (stepped : reading.step char = some next) :
    Token.background ∉ next.tokens ∨
      char = '&' ∧ reading.mode = .unquoted ∧ next.mode = .ended ∧ next.word = none ∧
        next.tokens = reading.close.tokens ++ [Token.background] := by
  have closed := not_mem_close noBackground
  unfold Reading.step at stepped
  split at stepped
  next isUnquoted =>
    rcases Reading.unquoted_cases stepped with
      rfl | rfl | rfl | ⟨isAnd, rfl⟩ | ⟨_, _, _, _, rfl⟩ | ⟨_, _, rfl⟩
    · exact Or.inl closed
    · exact Or.inl closed
    · exact Or.inl closed
    · exact Or.inr ⟨isAnd, isUnquoted, rfl, Reading.close_word, rfl⟩
    · exact Or.inl noBackground
    · exact Or.inl noBackground
  all_goals split_ifs at stepped
  all_goals cases stepped
  all_goals exact Or.inl noBackground

/-- The tokens are those of the text in front of a `&`, read to its end. -/
theorem ends_background (noBackground : Token.background ∉ reading.tokens)
    (isEnd : reading.ends line = some (tokens ++ [Token.background])) :
    ∃ front rest mid, line = front ++ '&' :: rest ∧ reading.run front = some mid ∧
      mid.mode = .unquoted ∧ mid.close.tokens = tokens := by
  induction line generalizing reading with
  | nil =>
      have isTokens := finish_tokens isEnd
      refine absurd (not_mem_close noBackground) (not_not_intro ?_)
      rw [isTokens]
      exact List.mem_append_right tokens (List.mem_singleton_self _)
  | cons char line induction =>
      obtain ⟨last, ran, finished⟩ := Option.bind_eq_some_iff.mp isEnd
      obtain ⟨next, stepped, ranRest⟩ := Option.bind_eq_some_iff.mp ran
      rcases step_background noBackground stepped with
        still | ⟨rfl, isUnquoted, ended, noWord, isNext⟩
      · obtain ⟨front, rest, mid, rfl, ranFront, found⟩ :=
          induction still (Option.bind_eq_some_iff.mpr ⟨last, ranRest, finished⟩)
        refine ⟨char :: front, rest, mid, rfl, ?_, found⟩
        rw [Reading.run, stepped, Option.bind_some, ranFront]
      · refine ⟨[], line, reading, rfl, rfl, isUnquoted, ?_⟩
        obtain rfl := run_ended ended ranRest
        have isTokens := finish_tokens finished
        rw [Reading.close, noWord] at isTokens
        exact List.append_cancel_right (isNext.symm.trans isTokens)

/-- A blank is not in a word that stands for itself, so it has ended the last one. -/
theorem step_blank {last : List Char} (isPlain : plainText last = true)
    (stepped : reading.step ' ' = some next) (mode : next.mode = .unquoted)
    (isTokens : next.close.tokens = tokens ++ [Token.argument last]) :
    reading.mode = .unquoted ∧ next = reading.close := by
  obtain ⟨bare, _⟩ := plainText_iff.mp isPlain
  have noBlank : ' ' ∉ last := fun member =>
    (bareText_iff.mp bare).2.1 ' ' member (by decide)
  obtain ⟨before, word, target, readingMode⟩ := reading
  cases readingMode with
  | unquoted => exact ⟨rfl, (Option.some.inj stepped).symm⟩
  | backslash =>
      cases stepped
      have isLast := List.head_eq_of_cons_eq (List.append_inj_right' isTokens rfl)
      exfalso
      cases target with
      | true => cases isLast
      | false =>
          have symbols : word.getD [] ++ [Symbol.literal ' '] = last.map .literal :=
            Token.word.inj isLast
          have member : Symbol.literal ' ' ∈ last.map .literal :=
            symbols ▸ List.mem_append_right _ (List.mem_singleton_self _)
          obtain ⟨char, inLast, isBlank⟩ := List.mem_map.mp member
          exact noBlank (Symbol.literal.inj isBlank ▸ inLast)
  | single | double | doubleBackslash | ended =>
      cases stepped
      cases mode
  | greater => cases stepped

/-- What is left of a text in front of ` &` that is cut, when a `&` is in it. -/
theorem take_background {text front rest : List Char} {count : Nat}
    (long : text.length ≤ front.length)
    (isLine : (text ++ [' ', '&']).take count = front ++ '&' :: rest) :
    front = text ++ [' '] ∧ text.length + 2 ≤ count := by
  have lengths := congrArg List.length isLine
  rw [List.length_take, List.length_append, List.length_append, List.length_cons,
    List.length_cons, List.length_cons, List.length_nil] at lengths
  have enough : text.length + 2 ≤ count := by
    by_contra less
    have isCount : count = text.length + 1 := by omega
    have isCut : (text ++ [' ', '&']).take count = text ++ [' '] := by
      rw [isCount, List.take_length_add_append]
      rfl
    have same := List.append_inj (isCut.symm.trans isLine) (by omega)
    exact absurd (List.cons.inj same.2).1 (by decide)
  refine ⟨?_, enough⟩
  rw [List.take_of_length_le (by simpa using enough)] at isLine
  rcases Nat.eq_or_lt_of_le long with same | longer
  · have same := List.append_inj isLine same
    exact absurd (List.cons.inj same.2).1 (by decide)
  · obtain rfl := List.eq_nil_of_length_eq_zero (show rest.length = 0 by omega)
    have isFront : (text ++ [' ']) ++ ['&'] = front ++ ['&'] := by
      rw [List.append_assoc]
      exact isLine
    exact (List.append_cancel_right isFront).symm

theorem read_take_background {words : List (List Char)} {last : List Char}
    (isPlain : plainText last = true) (count : Nat) :
    read ((joined (words ++ [last]) ++ [' ', '&']).take count) =
        some ((words ++ [last]).map Token.argument ++ [Token.background]) ↔
      (∀ word ∈ words, plainText word = true) ∧
        (joined (words ++ [last])).length + 2 ≤ count := by
  have notEmpty : words ++ [last] ≠ [] :=
    List.append_ne_nil_of_right_ne_nil words (List.cons_ne_nil last [])
  constructor
  · intro isEnd
    obtain ⟨front, rest, mid, isLine, ran, isUnquoted, isTokens⟩ :=
      ends_background List.not_mem_nil isEnd
    have least := sizes_joined notEmpty
    have most := Reading.size_run ran
    have closed := @Reading.size_close mid
    rw [← isTokens] at least
    rw [Reading.size] at closed
    have isStart : Reading.start.size + Reading.start.held = 0 := rfl
    obtain ⟨isFront, fits⟩ := take_background (by omega) isLine
    refine ⟨?_, fits⟩
    rw [isFront, Reading.run_append] at ran
    obtain ⟨before, ranBefore, ranBlank⟩ := Option.bind_eq_some_iff.mp ran
    obtain ⟨_, stepped, same⟩ := Option.bind_eq_some_iff.mp ranBlank
    obtain rfl := Option.some.inj same
    rw [List.map_append] at isTokens
    obtain ⟨_, rfl⟩ := step_blank isPlain stepped isUnquoted isTokens
    have isClosed : before.close.close = before.close := by
      rw [Reading.close, Reading.close_word]
    have beforeClosed := @Reading.size_close before
    rw [isClosed] at least isTokens
    rw [Reading.size] at beforeClosed
    have all := (start_bare.run ranBefore (by omega)).close_tokens
    rw [isTokens] at all
    intro word member
    exact List.all_eq_true.mp all _ (List.mem_append_left _ (List.mem_map_of_mem member))
  · rintro ⟨plain, fits⟩
    rw [List.take_of_length_le (by simpa using fits), joined_append, List.append_assoc]
    have bare : ∀ word ∈ words, bareText word = true :=
      fun word member => (plainText_iff.mp (plain word member)).1
    obtain ⟨lastBare, noPattern⟩ := plainText_iff.mp isPlain
    rw [read, ← Reading.ends, Reading.start, Reading.ends_append (run_blanked bare []),
      Reading.ends_append (Reading.run_text rfl rfl lastBare), map_ofText plain,
      map_symbol noPattern]
    simp [Reading.ends, Reading.run, Reading.step, Reading.unquoted, Reading.close,
      Reading.waits, Reading.finish, Token.argument]

end Background

end Rkipc.Shell
