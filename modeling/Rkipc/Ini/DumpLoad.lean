import Rkipc.Ini.Iniparser

namespace Rkipc.Ini

/-! What the reader makes of the lines that the writer writes. -/

/-- Nothing in the value is taken for something else by the reader. -/
structure ValueOk (val : Text) : Prop where
  newline : '\n' ∉ val
  semicolon : ';' ∉ val
  hash : '#' ∉ val
  stripped : strstrip val = val
  backslash : val.getLast? ≠ some '\\'
  quotes : ∀ quote ∈ ['"', '\''], val.head? = some quote →
    val.length = 1 ∨ val[1]? = some quote ∧ 2 < val.length

/-- A key without its section that the reader finds again. -/
structure KeyOk (key : Text) : Prop where
  nonempty : key ≠ []
  equals : '=' ∉ key
  newline : '\n' ∉ key
  stripped : strstrip key = key
  lower : key.map Char.toLower = key
  notComment : key.head? ≠ some '#' ∧ key.head? ≠ some ';'

/-- The line is neither too long nor taken for a section. -/
structure LineOk (key val : Text) : Prop where
  short : max 30 key.length + val.length + 4 ≤ 1023
  notSection : key.head? = some '[' → val.getLast? ≠ some ']'

structure SectionOk (s : Text) : Prop where
  nonempty : s ≠ []
  bracket : ']' ∉ s
  newline : '\n' ∉ s
  stripped : strstrip s = s
  lower : s.map Char.toLower = s
  short : s.length + 3 ≤ 1023

instance decidableValueOk (val : Text) : Decidable (ValueOk val) :=
  decidable_of_iff ('\n' ∉ val ∧ ';' ∉ val ∧ '#' ∉ val ∧ strstrip val = val ∧
    val.getLast? ≠ some '\\' ∧ ∀ quote ∈ ['"', '\''], val.head? = some quote →
      val.length = 1 ∨ val[1]? = some quote ∧ 2 < val.length)
    ⟨fun ⟨a, b, c, d, e, f⟩ => ⟨a, b, c, d, e, f⟩,
      fun ⟨a, b, c, d, e, f⟩ => ⟨a, b, c, d, e, f⟩⟩

instance decidableKeyOk (key : Text) : Decidable (KeyOk key) :=
  decidable_of_iff (key ≠ [] ∧ '=' ∉ key ∧ '\n' ∉ key ∧ strstrip key = key ∧
    key.map Char.toLower = key ∧ key.head? ≠ some '#' ∧ key.head? ≠ some ';')
    ⟨fun ⟨a, b, c, d, e, f⟩ => ⟨a, b, c, d, e, f⟩,
      fun ⟨a, b, c, d, e, f⟩ => ⟨a, b, c, d, e, f⟩⟩

instance decidableLineOk (key val : Text) : Decidable (LineOk key val) :=
  decidable_of_iff (max 30 key.length + val.length + 4 ≤ 1023 ∧
    (key.head? = some '[' → val.getLast? ≠ some ']'))
    ⟨fun ⟨a, b⟩ => ⟨a, b⟩, fun ⟨a, b⟩ => ⟨a, b⟩⟩

instance decidableSectionOk (s : Text) : Decidable (SectionOk s) :=
  decidable_of_iff (s ≠ [] ∧ ']' ∉ s ∧ '\n' ∉ s ∧ strstrip s = s ∧
    s.map Char.toLower = s ∧ s.length + 3 ≤ 1023)
    ⟨fun ⟨a, b, c, d, e, f⟩ => ⟨a, b, c, d, e, f⟩,
      fun ⟨a, b, c, d, e, f⟩ => ⟨a, b, c, d, e, f⟩⟩

section Strip

theorem strstrip_eq_self {text : Text}
    (first : ∀ char, text.head? = some char → isspace char = false)
    (last : ∀ char, text.getLast? = some char → isspace char = false) :
    strstrip text = text := by
  unfold strstrip
  cases text with
  | nil => rfl
  | cons char rest =>
      have notSpace : ¬ isspace char = true := by
        rw [first char rfl]
        exact Bool.false_ne_true
      rw [List.dropWhile_cons_of_neg notSpace, List.rdropWhile_eq_self_iff]
      intro nonempty
      rw [last _ (List.getLast?_eq_getLast_of_ne_nil nonempty)]
      exact Bool.false_ne_true

/-- The first and the last character of a text that `strstrip` leaves alone. -/
theorem ends_of_stripped {text : Text} (stripped : strstrip text = text) :
    (∀ char, text.head? = some char → isspace char = false) ∧
      ∀ char, text.getLast? = some char → isspace char = false := by
  unfold strstrip at stripped
  have shorter : (text.dropWhile isspace).length ≤ text.length :=
    (List.dropWhile_suffix _).length_le
  have same : text.dropWhile isspace = text := by
    apply List.IsSuffix.eq_of_length (List.dropWhile_suffix _)
    have prefixed := List.rdropWhile_prefix isspace (l := text.dropWhile isspace)
    rw [stripped] at prefixed
    exact Nat.le_antisymm shorter prefixed.length_le
  rw [same] at stripped
  constructor
  · intro char isHead
    cases text with
    | nil => cases isHead
    | cons first rest =>
        injection isHead with isHead
        subst isHead
        exact Bool.eq_false_iff.mpr fun space => by
          have length := congrArg List.length same
          rw [List.dropWhile_cons_of_pos space] at length
          have := (List.dropWhile_suffix isspace (l := rest)).length_le
          simp only [List.length_cons] at length
          omega
  · intro char isLast
    have nonempty : text ≠ [] := by
      rintro rfl
      cases isLast
    have last := List.rdropWhile_eq_self_iff.mp stripped nonempty
    rw [List.getLast?_eq_getLast_of_ne_nil nonempty] at isLast
    injection isLast with isLast
    subst isLast
    exact Bool.eq_false_iff.mpr last

theorem rdropWhile_cons (char : Char) (text : Text) :
    (char :: text).rdropWhile isspace =
      if text.rdropWhile isspace = [] then [char].rdropWhile isspace
      else char :: text.rdropWhile isspace := by
  induction text using List.reverseRecOn with
  | nil => rfl
  | append_singleton text last induction =>
      rw [← List.cons_append]
      by_cases blank : isspace last = true
      · rw [List.rdropWhile_concat_pos _ _ _ blank,
          List.rdropWhile_concat_pos _ _ _ blank, induction]
      · rw [List.rdropWhile_concat_neg _ _ _ blank,
          List.rdropWhile_concat_neg _ _ _ blank, if_neg (by simp)]
        rfl

theorem dropWhile_rdropWhile (text : Text) :
    (text.rdropWhile isspace).dropWhile isspace = strstrip text := by
  unfold strstrip
  induction text with
  | nil => rfl
  | cons char text induction =>
      rw [rdropWhile_cons]
      by_cases blank : isspace char = true
      · rw [List.dropWhile_cons_of_pos blank, ← induction]
        split
        next allBlank =>
          rw [allBlank, List.rdropWhile_singleton, if_pos blank]
        next => rw [List.dropWhile_cons_of_pos blank]
      · rw [List.dropWhile_cons_of_neg blank, rdropWhile_cons char text]
        split
        next => rw [List.rdropWhile_singleton, if_neg blank,
          List.dropWhile_cons_of_neg blank]
        next => rw [List.dropWhile_cons_of_neg blank]

theorem rdropWhile_append_cons {char : Char} (notBlank : isspace char = false)
    (text tail : Text) :
    (text ++ char :: tail).rdropWhile isspace =
      text ++ char :: tail.rdropWhile isspace := by
  induction tail using List.reverseRecOn with
  | nil => exact List.rdropWhile_concat_neg _ _ _ (by simp [notBlank])
  | append_singleton tail last induction =>
      rw [← List.cons_append, ← List.append_assoc]
      by_cases blank : isspace last = true
      · rw [List.rdropWhile_concat_pos _ _ _ blank, induction,
          List.rdropWhile_concat_pos _ _ _ blank]
      · rw [List.rdropWhile_concat_neg _ _ _ blank,
          List.rdropWhile_concat_neg _ _ _ blank]
        simp

theorem rdropWhile_append_blank {text pad : Text}
    (blank : ∀ char ∈ pad, isspace char = true) :
    (text ++ pad).rdropWhile isspace = text.rdropWhile isspace := by
  induction pad using List.reverseRecOn with
  | nil => rw [List.append_nil]
  | append_singleton pad char induction =>
      rw [← List.append_assoc, List.rdropWhile_concat_pos _ _ _
        (blank char (by simp)), induction fun other member =>
          blank other (List.mem_append_left _ member)]

theorem mem_of_mem_strstrip {text : Text} {char : Char}
    (member : char ∈ strstrip text) : char ∈ text :=
  (List.dropWhile_suffix isspace).subset
    ((List.rdropWhile_prefix isspace _).subset member)

theorem length_strstrip (text : Text) : (strstrip text).length ≤ text.length := by
  have first := (List.dropWhile_suffix isspace (l := text)).length_le
  have last := (List.rdropWhile_prefix isspace
    (l := text.dropWhile isspace)).length_le
  exact Nat.le_trans last first

end Strip

/-- The line is read in one piece and ends where it ends. -/
structure LineFits (line : Text) : Prop where
  newline : '\n' ∉ line
  short : line.length + 1 ≤ 1023
  whole : (line.rdropWhile isspace).getLast? ≠ some '\\'

/-- What a line does to the variables of the reader. -/
def Loading.pass (loading : Loading) (line : Text) : Loading :=
  if line = [] then loading else loading.enter (line.rdropWhile isspace)

/-- The lines with a newline behind each. -/
def unlines (lines : List Text) : Text :=
  lines.flatMap fun line => line ++ ['\n']

section Lines

variable {line : Text} {loading : Loading}

theorem takeLine_newline (newline : '\n' ∉ line) (rest : Text) {count : Nat}
    (short : line.length + 1 ≤ count) :
    takeLine count (line ++ '\n' :: rest) = (line ++ ['\n'], rest) := by
  induction line generalizing count with
  | nil =>
      obtain ⟨count, rfl⟩ := Nat.exists_eq_add_of_lt short
      simp [takeLine]
  | cons char line induction =>
      obtain ⟨notFirst, notRest⟩ := not_or.mp (mt List.mem_cons.mpr newline)
      obtain ⟨count, rfl⟩ : ∃ n, count = n + 1 :=
        Nat.exists_eq_add_one.mpr (by omega)
      rw [List.cons_append, takeLine, if_neg (Ne.symm notFirst),
        induction notRest (by simpa using short)]
      rfl

theorem takeLine_last (newline : '\n' ∉ line) {count : Nat}
    (short : line.length ≤ count) : takeLine count line = (line, []) := by
  induction line generalizing count with
  | nil => cases count <;> rfl
  | cons char line induction =>
      obtain ⟨notFirst, notRest⟩ := not_or.mp (mt List.mem_cons.mpr newline)
      obtain ⟨count, rfl⟩ : ∃ n, count = n + 1 :=
        Nat.exists_eq_add_one.mpr (Nat.lt_of_lt_of_le (Nat.succ_pos _) short)
      rw [takeLine, if_neg (Ne.symm notFirst),
        induction notRest (by simpa using short)]

theorem kept_enter : (loading.enter line).kept = [] := by
  unfold Loading.enter
  split <;> rfl

theorem kept_pass (kept : loading.kept = []) :
    (loading.pass line).kept = [] := by
  unfold Loading.pass
  split
  · exact kept
  · exact kept_enter

theorem next_line (fits : LineFits line) (kept : loading.kept = []) (feof : Bool) :
    loading.next (line ++ ['\n']) feof = some (loading.pass line) := by
  unfold Loading.next Loading.pass
  simp only [kept, List.nil_append]
  cases line with
  | nil => rfl
  | cons char line =>
      have dropped : (char :: line ++ ['\n']).rdropWhile isspace =
          (char :: line).rdropWhile isspace :=
        List.rdropWhile_concat_pos _ _ _ rfl
      have ended : (char :: line ++ ['\n']).getLast? = some '\n' :=
        List.getLast?_concat ..
      rw [if_neg (by simp), if_neg (fun late => late.1 ended), dropped, if_neg fits.whole,
        if_neg (List.cons_ne_nil _ _)]

/-- The loop takes good lines one after another. -/
theorem loop_lines {lines : List Text} (fits : ∀ line ∈ lines, LineFits line)
    (kept : loading.kept = []) (fuel : Nat) (rest : Text) :
    loading.loop (lines.length + fuel) (unlines lines ++ rest) =
      (lines.foldl Loading.pass loading).loop fuel rest := by
  induction lines generalizing loading with
  | nil => simp [unlines]
  | cons line lines induction =>
      have fitsLine := fits line (List.mem_cons_self ..)
      have taken : fgets (1024 - loading.kept.length)
          (unlines (line :: lines) ++ rest) =
            some (line ++ ['\n'], unlines lines ++ rest) := by
        have isAll : unlines (line :: lines) ++ rest =
            line ++ '\n' :: (unlines lines ++ rest) := by
          simp [unlines]
        rw [kept, isAll]
        unfold fgets
        rw [if_neg (by decide), if_neg (by simp),
          takeLine_newline fitsLine.newline _ (by
            have short := fitsLine.short
            simp only [List.length_nil]
            omega)]
      rw [List.length_cons, Nat.add_right_comm, Loading.loop, taken]
      simp only [next_line fitsLine kept]
      exact induction
        (fun other member => fits other (List.mem_cons_of_mem _ member))
        (kept_pass kept)

theorem loop_end_kept (short : loading.kept.length ≤ 1022) (fuel : Nat) :
    loading.loop fuel [] = loading.finish := by
  cases fuel with
  | zero => rfl
  | succ fuel =>
      have ended : fgets (1024 - loading.kept.length) [] = none := by
        unfold fgets
        rw [if_neg (by omega), if_pos rfl]
      rw [Loading.loop, ended]

theorem loop_end (kept : loading.kept = []) (fuel : Nat) :
    loading.loop fuel [] = loading.finish :=
  loop_end_kept (by simp [kept]) fuel

end Lines

/-- What the reader takes for a value in quotes. -/
def readQuoted (text : Text) : Option Text :=
  match text with
  | '"' :: rest => scanSet (· ≠ '"') rest
  | '\'' :: rest => scanSet (· ≠ '\'') rest
  | _ => none

/-- What the reader takes for the value behind `= `. -/
def readValue (text : Text) : Text :=
  match readQuoted text with
  | some val => val
  | none =>
      match scanSet (fun char => char ≠ ';' && char ≠ '#') text with
      | some val =>
          let val := strstrip val
          if val = ['"', '"'] ∨ val = ['\'', '\''] then [] else val
      | none => []

section Values

theorem scanSet_eq_self {set : Char → Bool} {text : Text}
    (all : ∀ char ∈ text, set char = true) (nonempty : text ≠ []) :
    scanSet set text = some text := by
  unfold scanSet
  rw [List.takeWhile_eq_self_iff.mpr all]
  cases text with
  | nil => exact absurd rfl nonempty
  | cons char rest => rfl

theorem scanSet_none {set : Char → Bool} {text : Text}
    (first : ∀ char, text.head? = some char → set char = false) :
    scanSet set text = none := by
  unfold scanSet
  cases text with
  | nil => rfl
  | cons char rest =>
      rw [List.takeWhile_cons_of_neg (by simp [first char rfl])]

theorem ValueOk.not_quoted {val : Text} (ok : ValueOk val) {quote : Char}
    (isQuote : quote ∈ ['"', '\'']) {rest : Text} (isVal : val = quote :: rest) :
    scanSet (· ≠ quote) rest = none := by
  subst isVal
  apply scanSet_none
  intro char isHead
  obtain ⟨more, rfl⟩ : ∃ more, rest = char :: more := by
    cases rest with
    | nil => cases isHead
    | cons first more =>
        cases isHead
        exact ⟨more, rfl⟩
  have second := ok.quotes quote isQuote rfl
  simp at second
  simp [second]

/-- The reader gives such a value back. -/
theorem ValueOk.read {val : Text} (ok : ValueOk val) : readValue val = val := by
  have notQuoted : readQuoted val = none := by
    unfold readQuoted
    split
    · exact ok.not_quoted (by decide) rfl
    · exact ok.not_quoted (by decide) rfl
    · rfl
  unfold readValue
  rw [notQuoted]
  cases isVal : val with
  | nil => rfl
  | cons first rest =>
      rw [← isVal]
      have all : ∀ char ∈ val,
          (decide (char ≠ ';') && decide (char ≠ '#')) = true := by
        intro char member
        simp only [Bool.and_eq_true, decide_eq_true_eq]
        constructor
        · rintro rfl
          exact ok.semicolon member
        · rintro rfl
          exact ok.hash member
      rw [scanSet_eq_self all (by simp [isVal])]
      dsimp only
      rw [ok.stripped, if_neg]
      rintro (rfl | rfl)
      · exact absurd (ok.quotes '"' (by decide) rfl) (by decide)
      · exact absurd (ok.quotes '\'' (by decide) rfl) (by decide)

theorem strlwc_eq_self {text : Text} {len : Nat} (lower : text.map Char.toLower = text)
    (short : text.length < len) : strlwc text len = text := by
  unfold strlwc
  rw [List.take_of_length_le (by omega), lower]

theorem strstrip_pad {text pad : Text} (stripped : strstrip text = text)
    (blank : ∀ char ∈ pad, isspace char = true) :
    strstrip (text ++ pad) = text := by
  cases text with
  | nil =>
      unfold strstrip
      rw [List.nil_append, List.dropWhile_eq_nil_iff.mpr blank]
      rfl
  | cons char rest =>
      have isFirst := (ends_of_stripped stripped).1 char rfl
      unfold strstrip at stripped ⊢
      rw [List.dropWhile_cons_of_neg (by simp [isFirst])] at stripped
      rw [List.cons_append, List.dropWhile_cons_of_neg (by simp [isFirst]),
        ← List.cons_append, rdropWhile_append_blank blank, stripped]

theorem scanKey_value {key pad : Text} (ok : KeyOk key)
    (blank : ∀ char ∈ pad, isspace char = true) (tail : Text) :
    scanKey (key ++ pad ++ '=' :: tail) =
      some (key ++ pad, tail.dropWhile isspace) := by
  have noEquals : ∀ char ∈ key ++ pad, decide (char ≠ '=') = true := by
    intro char member
    rw [decide_eq_true_eq]
    rintro rfl
    cases List.mem_append.mp member with
    | inl inKey => exact ok.equals inKey
    | inr inPad => cases blank _ inPad
  unfold scanKey
  rw [List.takeWhile_append_of_pos noEquals, List.dropWhile_append_of_pos noEquals,
    List.takeWhile_cons_of_neg (by simp), List.dropWhile_cons_of_neg (by simp),
    List.append_nil]
  obtain ⟨first, rest, isCons⟩ := List.exists_cons_of_ne_nil ok.nonempty
  rw [isCons]
  rfl

theorem scanQuoted_or {line key text : Text}
    (scanned : scanKey line = some (key, text)) :
    (scanQuoted '"' line).or (scanQuoted '\'' line) =
      (readQuoted text).map fun val => (key, val) := by
  unfold scanQuoted readQuoted
  rw [scanned]
  dsimp only [Option.bind_some]
  cases text with
  | nil => rfl
  | cons char rest =>
      by_cases double : char = '"'
      · subst double
        dsimp only
        rw [if_pos rfl, if_neg (by decide), Option.or_none]
        rfl
      · by_cases single : char = '\''
        · subst single
          rfl
        · simp [double, single]

/-- A line with an `=` behind a good key always gives the key a value. -/
theorem strippedLine_value {key pad tail old : Text} (ok : KeyOk key)
    (blank : ∀ char ∈ pad, isspace char = true)
    (notSection : key.head? = some '[' →
      (key ++ pad ++ '=' :: tail).getLast? ≠ some ']') :
    strippedLine old (key ++ pad ++ '=' :: tail) =
      .value key (readValue (tail.dropWhile isspace)) := by
  have scanned : scanKey (key ++ pad ++ '=' :: tail) =
      some (key ++ pad, tail.dropWhile isspace) := scanKey_value ok blank tail
  have notComment : ¬ ((key ++ pad ++ '=' :: tail).head? = some '#' ∨
      (key ++ pad ++ '=' :: tail).head? = some ';') := by
    rw [List.append_assoc, List.head?_append_of_ne_nil _ ok.nonempty, not_or]
    exact ok.notComment
  have isKey : strlwc (strstrip (key ++ pad)) (key ++ pad ++ '=' :: tail).length =
      key := by
    rw [strstrip_pad ok.stripped blank]
    exact strlwc_eq_self ok.lower
      (by simp only [List.length_append, List.length_cons]; omega)
  unfold strippedLine
  dsimp only
  rw [if_neg (by simp), if_neg notComment, if_neg, scanQuoted_or scanned]
  · unfold readValue
    cases readQuoted (tail.dropWhile isspace) with
    | some val =>
        dsimp only [Option.map_some]
        rw [isKey]
    | none =>
        dsimp only [Option.map_none]
        unfold scanPlain scanEmpty
        rw [scanned]
        dsimp only [Option.bind_some, Option.map_some]
        cases scanSet (fun char => char ≠ ';' && char ≠ '#')
            (tail.dropWhile isspace) with
        | some val =>
            dsimp only [Option.map_some]
            rw [isKey]
        | none =>
            dsimp only [Option.map_none]
            rw [isKey]
  · rintro ⟨opened, closed⟩
    rw [List.append_assoc, List.head?_append_of_ne_nil _ ok.nonempty] at opened
    exact notSection opened closed

/-- The blanks around such a line change only what is behind the `=`. -/
theorem strstrip_value {key pad tail : Text} (ok : KeyOk key) :
    strstrip ((key ++ pad ++ '=' :: tail).rdropWhile isspace) =
      key ++ pad ++ '=' :: tail.rdropWhile isspace := by
  rw [rdropWhile_append_cons rfl]
  obtain ⟨first, rest, isCons⟩ := List.exists_cons_of_ne_nil ok.nonempty
  have isFirst := (ends_of_stripped ok.stripped).1 first (by rw [isCons]; rfl)
  unfold strstrip
  rw [isCons, List.cons_append, List.cons_append,
    List.dropWhile_cons_of_neg (by simp [isFirst]), ← List.cons_append,
    ← List.cons_append, rdropWhile_append_cons rfl,
    List.rdropWhile_idempotent]

theorem iniparserLine_value {key pad tail old : Text} (ok : KeyOk key)
    (blank : ∀ char ∈ pad, isspace char = true)
    (notSection : key.head? = some '[' →
      (key ++ pad ++ '=' :: tail.rdropWhile isspace).getLast? ≠ some ']') :
    iniparserLine old ((key ++ pad ++ '=' :: tail).rdropWhile isspace) =
      .value key (readValue (strstrip tail)) := by
  unfold iniparserLine
  rw [strstrip_value ok, strippedLine_value ok blank notSection,
    dropWhile_rdropWhile]

theorem iniparserLine_section {s old : Text} (ok : SectionOk s) :
    iniparserLine old (('[' :: s ++ [']']).rdropWhile isspace) = .section s := by
  have ended : ('[' :: s ++ [']']).rdropWhile isspace = '[' :: s ++ [']'] :=
    List.rdropWhile_concat_neg _ _ _ (by decide)
  have stripped : strstrip ('[' :: s ++ [']']) = '[' :: s ++ [']'] := by
    unfold strstrip
    rw [List.cons_append, List.dropWhile_cons_of_neg (by decide),
      ← List.cons_append, ended]
  have name : scanSet (· ≠ ']') (s ++ [']']) = some s := by
    unfold scanSet
    rw [List.takeWhile_append_of_pos, List.takeWhile_cons_of_neg (by simp),
      List.append_nil]
    · obtain ⟨first, rest, isCons⟩ := List.exists_cons_of_ne_nil ok.nonempty
      rw [isCons]
    · intro char member
      rw [decide_eq_true_eq]
      rintro rfl
      exact ok.bracket member
  unfold iniparserLine
  rw [ended, stripped]
  unfold strippedLine
  dsimp only
  rw [if_neg (by simp), if_neg (by simp), if_pos ⟨rfl, List.getLast?_concat ..⟩]
  have dropped : ('[' :: s ++ [']']).drop 1 = s ++ [']'] := rfl
  rw [dropped, name, Option.getD_some, ok.stripped,
    strlwc_eq_self ok.lower (by simp only [List.length_append, List.length_cons]; omega)]

end Values

/-- The line of a key without its newline. -/
def keyText (key val : Text) : Text :=
  key ++ (List.replicate (30 - key.length) ' ' ++ [' ']) ++ '=' :: ' ' :: val

def sectionText (s : Text) : Text := '[' :: s ++ [']']

theorem keyLine_eq (key val : Text) :
    keyLine key val = keyText key val ++ ['\n'] := by
  have equals : " = ".toList = [' ', '=', ' '] := rfl
  unfold keyLine keyText List.rightpad
  rw [equals]
  simp

theorem sectionLine_eq (s : Text) :
    sectionLine s = sectionText s ++ ['\n'] := by
  simp [sectionLine, sectionText]

section Written

variable {key val s : Text} {loading : Loading}

theorem keyText_blank (n : Nat) :
    ∀ char ∈ List.replicate n ' ' ++ [' '], isspace char = true := by
  intro char member
  have isBlank : char = ' ' := by
    cases List.mem_append.mp member with
    | inl inPad => exact List.eq_of_mem_replicate inPad
    | inr isLast => exact List.mem_singleton.mp isLast
  rw [isBlank]
  rfl

theorem strstrip_blank_cons (stripped : strstrip val = val) :
    strstrip (' ' :: val) = val := by
  unfold strstrip at stripped ⊢
  rw [List.dropWhile_cons_of_pos rfl]
  exact stripped

theorem rdropWhile_blank_cons (stripped : strstrip val = val) :
    (' ' :: val).rdropWhile isspace = if val = [] then [] else ' ' :: val := by
  have same : val.rdropWhile isspace = val := by
    cases val with
    | nil => rfl
    | cons char rest =>
        have isFirst := (ends_of_stripped stripped).1 char rfl
        unfold strstrip at stripped
        rwa [List.dropWhile_cons_of_neg (by simp [isFirst])] at stripped
  rw [rdropWhile_cons, same]
  split
  · rfl
  · rfl

theorem last_of_keyText {char : Char} (stripped : strstrip val = val)
    (notEquals : char ≠ '=') (differs : val.getLast? ≠ some char) (text : Text) :
    (text ++ '=' :: (' ' :: val).rdropWhile isspace).getLast? ≠ some char := by
  rw [rdropWhile_blank_cons stripped]
  split
  next =>
    rw [List.getLast?_concat]
    simpa using notEquals.symm
  next nonempty =>
    obtain ⟨first, rest, isCons⟩ := List.exists_cons_of_ne_nil nonempty
    rw [isCons] at differs ⊢
    simpa [List.getLast?_append] using differs

theorem fits_keyText (ok : KeyOk key) (valueOk : ValueOk val)
    (lineOk : LineOk key val) : LineFits (keyText key val) where
  newline := by
    unfold keyText
    simp [ok.newline, valueOk.newline]
  short := by
    have short := lineOk.short
    unfold keyText
    simp only [List.length_append, List.length_replicate, List.length_cons,
      List.length_nil]
    omega
  whole := by
    unfold keyText
    rw [rdropWhile_append_cons rfl]
    exact last_of_keyText valueOk.stripped (by decide) valueOk.backslash _

theorem iniparserLine_keyText {old : Text} (ok : KeyOk key) (valueOk : ValueOk val)
    (lineOk : LineOk key val) :
    iniparserLine old ((keyText key val).rdropWhile isspace) = .value key val := by
  unfold keyText
  rw [iniparserLine_value ok (keyText_blank _), strstrip_blank_cons valueOk.stripped,
    valueOk.read]
  intro opened
  exact last_of_keyText valueOk.stripped (by decide) (lineOk.notSection opened) _

theorem pass_keyText (ok : KeyOk key) (valueOk : ValueOk val)
    (lineOk : LineOk key val) :
    loading.pass (keyText key val) =
      { loading with
        dict := dictionarySet loading.dict (loading.name ++ ':' :: key) (some val)
        kept := [] } := by
  unfold Loading.pass
  rw [if_neg (by simp [keyText])]
  unfold Loading.enter
  rw [iniparserLine_keyText ok valueOk lineOk]

theorem fits_sectionText (ok : SectionOk s) : LineFits (sectionText s) where
  newline := by
    unfold sectionText
    simp [ok.newline]
  short := by
    have short := ok.short
    simp only [sectionText, List.length_append, List.length_cons, List.length_nil]
    omega
  whole := by
    unfold sectionText
    rw [List.rdropWhile_concat_neg _ _ _ (by decide), List.getLast?_concat]
    decide

theorem pass_sectionText (ok : SectionOk s) :
    loading.pass (sectionText s) =
      { loading with
        dict := dictionarySet loading.dict s none, name := s, kept := [] } := by
  unfold Loading.pass
  rw [if_neg (by simp [sectionText])]
  unfold Loading.enter sectionText
  rw [iniparserLine_section ok]

theorem fits_nil : LineFits [] where
  newline := List.not_mem_nil
  short := by decide
  whole := by simp

end Written

namespace Loading

variable {loading next : Loading} {d : Dictionary}

theorem sound_enter (sound : loading.dict.Sound) (line : Text) :
    (loading.enter line).dict.Sound := by
  unfold enter
  split
  · exact sound
  · exact sound
  · exact (set_spec sound _ _).1
  · exact (set_spec sound _ _).1
  · exact sound

theorem sound_next (sound : loading.dict.Sound) {taken : Text} {feof : Bool}
    (isNext : loading.next taken feof = some next) : next.dict.Sound := by
  unfold Loading.next at isNext
  dsimp only at isNext
  split at isNext
  · cases isNext
    exact sound
  split at isNext
  · cases isNext
  split at isNext
  · cases isNext
    exact sound
  · cases isNext
    exact sound_enter sound _

theorem sound_finish (sound : loading.dict.Sound) (isLoaded : loading.finish = some d) :
    d.Sound := by
  unfold finish at isLoaded
  split at isLoaded
  · cases isLoaded
    exact sound
  · cases isLoaded

theorem sound_loop {fuel : Nat} {input : Text} (sound : loading.dict.Sound)
    (isLoaded : loading.loop fuel input = some d) : d.Sound := by
  induction fuel generalizing loading input with
  | zero => exact sound_finish sound isLoaded
  | succ fuel induction =>
      unfold loop at isLoaded
      dsimp only at isLoaded
      split at isLoaded
      · exact sound_finish sound isLoaded
      · split at isLoaded
        · cases isLoaded
        next isNext => exact induction (sound_next sound isNext) isLoaded

end Loading

/-- What a file loads to keeps the invariant of dictionaries. -/
theorem sound_of_load {file : Text} {d : Dictionary}
    (isLoaded : iniparserLoad file = some d) : d.Sound :=
  Loading.sound_loop (sound_new 0) isLoaded

end Rkipc.Ini
