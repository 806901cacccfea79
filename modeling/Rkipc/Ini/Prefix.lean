import Rkipc.Ini.RoundTrip

namespace Rkipc.Ini

/-! What the reader makes of a file that was written in part. -/

/-- The text behind the last newline. -/
def lastLine (text : Text) : Text := text.rtakeWhile (· ≠ '\n')

/-- The reader stops with a syntax error in a last line without newline. -/
def Rejected (line : Text) : Prop :=
  1 < line.length ∧ (line.rdropWhile isspace).getLast? ≠ some '\\' ∧
    iniparserLine [] (line.rdropWhile isspace) = .error

instance decidableRejected (line : Text) : Decidable (Rejected line) :=
  inferInstanceAs (Decidable (_ ∧ _ ∧ _))

/-- What a last line without newline sets below the section `name`. -/
def cutSettings (name line : Text) : List (Text × Option Text) :=
  if line.length ≤ 1 ∨ (line.rdropWhile isspace).getLast? = some '\\' then []
  else
    match iniparserLine name (line.rdropWhile isspace) with
    | .section s => [(s, none)]
    | .value key val => [(name ++ ':' :: key, some val)]
    | _ => []

/-- The lines of the dictionary that are whole in the written part. -/
def wholeLines (d : Dictionary) (part : Text) : List Dumped :=
  d.dumped.take (part.count '\n')

/-- The entries of the written part: those of its whole lines, and what is left of
the one that was cut. -/
def writtenSettings (d : Dictionary) (part : Text) : List (Text × Option Text) :=
  (wholeLines d part).filterMap Dumped.sets ++
    cutSettings (sectionAfter [] (wholeLines d part)) (lastLine part)

section Split

variable {line part : Text}

theorem lastLine_eq_self (newline : '\n' ∉ line) : lastLine line = line := by
  unfold lastLine
  rw [List.rtakeWhile_eq_self_iff]
  intro char member
  rw [decide_eq_true_eq]
  rintro rfl
  exact newline member

theorem lastLine_append (line part : Text) :
    lastLine (line ++ '\n' :: part) = lastLine part := by
  unfold lastLine
  induction part using List.reverseRecOn with
  | nil => exact List.rtakeWhile_concat_neg _ _ _ (by simp)
  | append_singleton part char induction =>
      rw [← List.cons_append, ← List.append_assoc]
      by_cases isNewline : char = '\n'
      · subst isNewline
        rw [List.rtakeWhile_concat_neg _ _ _ (by simp),
          List.rtakeWhile_concat_neg _ _ _ (by simp)]
      · rw [List.rtakeWhile_concat_pos _ _ _ (by simp [isNewline]), induction,
          List.rtakeWhile_concat_pos _ _ _ (by simp [isNewline])]

/-- A part of a text with newlines is some of its lines and a part of the next. -/
theorem part_of_unlines {lines : List Text} (newline : ∀ line ∈ lines, '\n' ∉ line)
    (isPrefix : part <+: unlines lines) :
    part = unlines (lines.take (part.count '\n')) ++ lastLine part ∧
      (lastLine part = [] ∨ ∃ line,
        lines[part.count '\n']? = some line ∧ lastLine part <+: line) := by
  induction lines generalizing part with
  | nil =>
      obtain rfl := List.prefix_nil.mp isPrefix
      exact ⟨rfl, .inl rfl⟩
  | cons line lines induction =>
      have noNewline := newline line (List.mem_cons_self ..)
      have isAll : unlines (line :: lines) = line ++ '\n' :: unlines lines := by
        simp [unlines]
      rw [isAll] at isPrefix
      have lineFirst : line ++ ['\n'] <+: line ++ '\n' :: unlines lines :=
        ⟨unlines lines, by simp⟩
      have inside : part <+: line ∨ ∃ rest, part = line ++ '\n' :: rest := by
        obtain shorter | longer :=
          List.prefix_or_prefix_of_prefix isPrefix lineFirst
        · obtain isWhole | inLine := List.prefix_concat_iff.mp shorter
          · exact .inr ⟨[], isWhole⟩
          · exact .inl inLine
        · obtain ⟨rest, rfl⟩ := longer
          exact .inr ⟨rest, by simp⟩
      obtain inLine | ⟨rest, rfl⟩ := inside
      · have none : '\n' ∉ part := fun member => noNewline (inLine.subset member)
        rw [List.count_eq_zero.mpr none, lastLine_eq_self none]
        exact ⟨rfl, .inr ⟨line, rfl, inLine⟩⟩
      · rw [List.prefix_append_right_inj, List.cons_prefix_cons] at isPrefix
        obtain ⟨isRest, next⟩ := induction (fun other member =>
          newline other (List.mem_cons_of_mem _ member)) isPrefix.2
        have count : (line ++ '\n' :: rest).count '\n' = rest.count '\n' + 1 := by
          rw [List.count_append, List.count_eq_zero.mpr noNewline,
            List.count_cons_self, Nat.zero_add]
        rw [count, lastLine_append]
        refine ⟨?_, next⟩
        rw [List.take_succ_cons]
        have whole : unlines (line :: lines.take (rest.count '\n')) =
            line ++ '\n' :: unlines (lines.take (rest.count '\n')) := by
          simp [unlines]
        rw [whole, List.append_assoc, List.cons_append, ← isRest]

end Split

section Cut

theorem error_congr (old other line : Text) :
    iniparserLine old line = .error ↔ iniparserLine other line = .error := by
  unfold iniparserLine strippedLine
  dsimp only
  split
  · exact Iff.rfl
  · split
    · exact Iff.rfl
    · split
      · simp
      · exact Iff.rfl

variable {loading : Loading} {line : Text}

theorem next_cut (kept : loading.kept = []) (long : 1 < line.length)
    (whole : (line.rdropWhile isspace).getLast? ≠ some '\\') :
    loading.next line true = some (loading.enter (line.rdropWhile isspace)) := by
  unfold Loading.next
  simp only [kept, List.nil_append]
  rw [if_neg (by omega), if_neg (by simp), if_neg whole]

theorem finish_enter (clean : loading.errs = 0) (line : Text) :
    (loading.enter line).finish =
      match iniparserLine loading.name line with
      | .section s => some (dictionarySet loading.dict s none)
      | .value key val =>
          some (dictionarySet loading.dict (loading.name ++ ':' :: key) (some val))
      | .error => none
      | _ => some loading.dict := by
  unfold Loading.enter Loading.finish
  cases iniparserLine loading.name line <;> simp [clean]

theorem loop_cut (kept : loading.kept = []) (clean : loading.errs = 0)
    (newline : '\n' ∉ line) (short : line.length ≤ 1022) (fuel : Nat) :
    loading.loop (fuel + 1) line =
      if Rejected line then none
      else some (dictionarySetAll loading.dict (cutSettings loading.name line)) := by
  have finish : loading.finish = some loading.dict := if_pos clean
  cases isLine : line with
  | nil =>
      rw [loop_end kept, finish]
      rfl
  | cons first rest =>
      rw [← isLine]
      have taken : fgets (1024 - loading.kept.length) line = some (line, []) := by
        unfold fgets
        rw [kept, if_neg (by decide), if_neg (by simp [isLine]),
          takeLine_last newline (by
            simp only [List.length_nil]
            omega)]
      have notEnded : line.getLast? ≠ some '\n' :=
        fun isLast => newline (List.mem_of_getLast? isLast)
      have feof : decide (line.getLast? ≠ some '\n' ∧
          line.length < 1024 - loading.kept.length - 1) = true := by
        rw [decide_eq_true_eq, kept]
        exact ⟨notEnded, by simp only [List.length_nil]; omega⟩
      rw [Loading.loop, taken]
      dsimp only
      rw [feof]
      by_cases long : 1 < line.length
      · by_cases continued : (line.rdropWhile isspace).getLast? = some '\\'
        · have next : loading.next line true = some
              { loading with kept := (line.rdropWhile isspace).dropLast } := by
            unfold Loading.next
            simp only [kept, List.nil_append]
            rw [if_neg (by omega), if_neg (by simp), if_pos continued]
          have cut : cutSettings loading.name line = [] := if_pos (.inr continued)
          rw [next, if_neg (fun rejected => rejected.2.1 continued), cut]
          have keptShort : (line.rdropWhile isspace).dropLast.length ≤ 1022 := by
            have := (List.rdropWhile_prefix isspace (l := line)).length_le
            rw [List.length_dropLast]
            omega
          exact (loop_end_kept keptShort fuel).trans finish
        · have rejected : Rejected line ↔
              iniparserLine loading.name (line.rdropWhile isspace) = .error := by
            rw [error_congr loading.name []]
            exact ⟨fun rejected => rejected.2.2, fun error => ⟨long, continued, error⟩⟩
          have cut : cutSettings loading.name line =
              match iniparserLine loading.name (line.rdropWhile isspace) with
              | .section s => [(s, none)]
              | .value key val => [(loading.name ++ ':' :: key, some val)]
              | _ => [] := if_neg (not_or.mpr ⟨by omega, continued⟩)
          rw [next_cut kept long continued]
          dsimp only
          rw [loop_end kept_enter, finish_enter clean, cut]
          simp only [rejected]
          cases iniparserLine loading.name (line.rdropWhile isspace) <;> rfl
      · have next : loading.next line true = some loading := by
          unfold Loading.next
          simp only [kept, List.nil_append]
          rw [if_pos (by omega)]
        have cut : cutSettings loading.name line = [] := if_pos (.inl (by omega))
        rw [next, if_neg (fun rejected => long rejected.1), cut]
        exact (loop_end kept fuel).trans finish

end Cut

section Part

variable {d : Dictionary} {part : Text}

theorem newline_of_dumped (storable : Storable d) :
    ∀ line ∈ d.dumped.map Dumped.text, '\n' ∉ line :=
  fun line member => (fits_of_understood (storable.understood []) line member).newline

/-- The whole lines of the written part, and a part of the next line. -/
theorem part_of_dump (storable : Storable d) (isPrefix : part <+: iniparserDumpIni d) :
    part = unlines ((wholeLines d part).map Dumped.text) ++ lastLine part ∧
      (lastLine part = [] ∨ ∃ line,
        d.dumped[part.count '\n']? = some line ∧ lastLine part <+: line.text) := by
  rw [storable.dump_eq] at isPrefix
  obtain ⟨isPart, next⟩ := part_of_unlines (newline_of_dumped storable) isPrefix
  rw [← List.map_take] at isPart
  refine ⟨isPart, next.imp_right ?_⟩
  rintro ⟨text, isText, inText⟩
  rw [List.getElem?_map, Option.map_eq_some_iff] at isText
  obtain ⟨line, isLine, rfl⟩ := isText
  exact ⟨line, isLine, inText⟩

theorem load_part (storable : Storable d) (isPrefix : part <+: iniparserDumpIni d) :
    iniparserLoad part =
      if Rejected (lastLine part) then none
      else some (dictionarySetAll (dictionaryNew 0) (writtenSettings d part)) := by
  obtain ⟨isPart, next⟩ := part_of_dump storable isPrefix
  have understood := storable.understood Loading.start.name
  have split : d.dumped = wholeLines d part ++ d.dumped.drop (part.count '\n') :=
    (List.take_append_drop _ _).symm
  rw [split] at understood
  obtain ⟨folded, _⟩ := foldl_pass understood rfl
  have fits := fits_of_understood (storable.understood [])
  have fitsWhole : ∀ line ∈ (wholeLines d part).map Dumped.text, LineFits line := by
    intro line member
    obtain ⟨dumped, inWhole, rfl⟩ := List.mem_map.mp member
    exact fits _ (List.mem_map_of_mem (List.mem_of_mem_take inWhole))
  have cut : '\n' ∉ lastLine part ∧ (lastLine part).length ≤ 1022 := by
    obtain isNil | ⟨line, isLine, inLine⟩ := next
    · rw [isNil]
      exact ⟨List.not_mem_nil, Nat.zero_le _⟩
    · have fitsLine := fits line.text (List.mem_map_of_mem (List.mem_of_getElem? isLine))
      have short := fitsLine.short
      have shorter := inLine.length_le
      exact ⟨fun member => fitsLine.newline (inLine.subset member), by omega⟩
  have enough := length_le_unlines ((wholeLines d part).map Dumped.text)
  obtain ⟨fuel, isFuel⟩ : ∃ fuel,
      part.length = ((wholeLines d part).map Dumped.text).length + fuel := by
    have length := congrArg List.length isPart
    rw [List.length_append] at length
    exact Nat.exists_eq_add_of_le (by omega)
  have lines := loop_lines fitsWhole (rfl : Loading.start.kept = []) (fuel + 1)
    (lastLine part)
  rw [← isPart, folded, loop_cut rfl rfl cut.1 cut.2] at lines
  unfold iniparserLoad writtenSettings
  rw [isFuel, Nat.add_assoc, lines]
  unfold dictionarySetAll
  rw [List.foldl_append]
  rfl

end Part

/-! What a cut line still sets. -/

section Missing

variable {name line missing : Text} {d : Dictionary}

def Blank (text : Text) : Prop := ∀ char ∈ text, isspace char = true

instance decidableBlank (text : Text) : Decidable (Blank text) :=
  inferInstanceAs (Decidable (∀ char ∈ text, isspace char = true))

theorem section_last {old s : Text} (isSection : iniparserLine old line = .section s) :
    (strstrip line).getLast? = some ']' := by
  unfold iniparserLine strippedLine at isSection
  dsimp only at isSection
  split at isSection
  · cases isSection
  · split at isSection
    · cases isSection
    · split at isSection
      next closed => exact closed.2
      next =>
        split at isSection
        · cases isSection
        · split at isSection
          · cases isSection
          · split at isSection <;> cases isSection

theorem value_equals {old key val : Text}
    (isValue : iniparserLine old line = .value key val) : '=' ∈ line := by
  by_contra missing
  have scanned : scanKey (strstrip line) = none := by
    have all : ∀ char ∈ strstrip line, decide (char ≠ '=') = true := by
      intro char member
      rw [decide_eq_true_eq]
      rintro rfl
      exact missing (mem_of_mem_strstrip member)
    unfold scanKey
    rw [List.dropWhile_eq_nil_iff.mpr all]
    split <;> simp_all
  unfold iniparserLine strippedLine scanQuoted scanPlain scanEmpty at isValue
  rw [scanned] at isValue
  dsimp only [Option.bind_none, Option.map_none, Option.none_or] at isValue
  split at isValue
  · cases isValue
  · split at isValue
    · cases isValue
    · split at isValue <;> cases isValue

theorem length_scanSet {set : Char → Bool} {text val : Text}
    (scanned : scanSet set text = some val) : val.length ≤ text.length := by
  unfold scanSet at scanned
  split at scanned
  · cases scanned
  next first rest taken =>
    cases scanned
    rw [← taken]
    exact (List.takeWhile_prefix set).length_le

theorem length_readValue (text : Text) : (readValue text).length ≤ text.length := by
  unfold readValue
  split
  next val quoted =>
    unfold readQuoted at quoted
    split at quoted
    · exact Nat.le_succ_of_le (length_scanSet quoted)
    · exact Nat.le_succ_of_le (length_scanSet quoted)
    · cases quoted
  next =>
    split
    next val scanned =>
      dsimp only
      split
      · exact Nat.zero_le _
      · exact Nat.le_trans (length_strstrip val) (length_scanSet scanned)
    next => exact Nat.zero_le _

/-- Nothing that is not blank is lost at the end but the end itself. -/
theorem missing_nil {text : Text} {char : Char} (notBlank : isspace char = false)
    (isText : text ++ [char] = line ++ missing) (blank : Blank missing) :
    line = text ++ [char] ∧ missing = [] := by
  have isNil : missing = [] := by
    by_contra nonempty
    have isLast := congrArg List.getLast? isText
    rw [List.getLast?_concat, List.getLast?_append_of_ne_nil _ nonempty] at isLast
    have isBlank := blank char (List.mem_of_getLast? isLast.symm)
    rw [notBlank] at isBlank
    cases isBlank
  subst isNil
  exact ⟨by rw [isText, List.append_nil], rfl⟩

theorem cutSettings_whole (long : 1 < line.length)
    (whole : (line.rdropWhile isspace).getLast? ≠ some '\\') :
    cutSettings name line =
      match iniparserLine name (line.rdropWhile isspace) with
      | .section s => [(s, none)]
      | .value key val => [(name ++ ':' :: key, some val)]
      | _ => [] :=
  if_neg (not_or.mpr ⟨by omega, whole⟩)

/-- A line that lacks only blanks sets what the whole line sets. -/
theorem cut_complete {dumped : Dumped} {more : List Dumped}
    (understood : Understood name (dumped :: more))
    (isText : dumped.text = line ++ missing) (blank : Blank missing) :
    cutSettings name line = dumped.sets.toList := by
  cases understood with
  | blank rest =>
      obtain ⟨rfl, _⟩ := List.append_eq_nil_iff.mp isText.symm
      rfl
  | @head _ s _ ok rest =>
      have isLine : line = sectionText s := (missing_nil (by decide) isText blank).1
      rw [isLine, cutSettings_whole (by simp [sectionText]) (fits_sectionText ok).whole]
      unfold sectionText
      rw [iniparserLine_section ok]
      rfl
  | @keyed _ key val _ keyOk valueOk lineOk rest =>
      have isText : keyText key val = line ++ missing := isText
      have same : line.rdropWhile isspace = (keyText key val).rdropWhile isspace := by
        rw [isText, rdropWhile_append_blank blank]
      have fits := fits_keyText keyOk valueOk lineOk
      have long : 1 < line.length := by
        have shorter := (List.rdropWhile_prefix isspace line).length_le
        rw [same] at shorter
        unfold keyText at shorter
        rw [rdropWhile_append_cons rfl] at shorter
        simp only [List.length_append, List.length_cons, List.length_nil] at shorter
        omega
      rw [cutSettings_whole long (by rw [same]; exact fits.whole), same,
        iniparserLine_keyText keyOk valueOk lineOk]
      rfl

theorem mem_cutSettings {setting : Text × Option Text}
    (member : setting ∈ cutSettings name line) :
    (∃ s, setting = (s, none) ∧
      iniparserLine name (line.rdropWhile isspace) = .section s) ∨
    ∃ key val, setting = (name ++ ':' :: key, some val) ∧
      iniparserLine name (line.rdropWhile isspace) = .value key val := by
  unfold cutSettings at member
  split at member
  · cases member
  · split at member
    next s isSection => exact .inl ⟨s, List.mem_singleton.mp member, isSection⟩
    next key val isValue =>
      exact .inr ⟨key, val, List.mem_singleton.mp member, isValue⟩
    next => cases member

theorem cutSettings_cases (name line : Text) :
    cutSettings name line = [] ∨ ∃ setting, cutSettings name line = [setting] := by
  unfold cutSettings
  split
  · exact .inl rfl
  · split
    · exact .inr ⟨_, rfl⟩
    · exact .inr ⟨_, rfl⟩
    · exact .inl rfl

theorem cut_value {key val read : Text} (keyOk : KeyOk key)
    (isText : keyText key val = line ++ missing) (notBlank : ¬ Blank missing)
    {other : Text}
    (isValue : iniparserLine name (line.rdropWhile isspace) = .value other read) :
    read.length < val.length := by
  have equals : '=' ∈ line :=
    (List.rdropWhile_prefix isspace line).subset (value_equals isValue)
  have blankPad := keyText_blank (30 - key.length)
  have noEquals : '=' ∉ key ++ (List.replicate (30 - key.length) ' ' ++ [' ']) := by
    intro member
    obtain inKey | inPad := List.mem_append.mp member
    · exact keyOk.equals inKey
    · cases blankPad _ inPad
  unfold keyText at isText
  generalize List.replicate (30 - key.length) ' ' ++ [' '] = pad at *
  -- The line ends in the value, since it has an `=`.
  obtain ⟨tail, rfl, isTail⟩ : ∃ tail, line = key ++ pad ++ '=' :: tail ∧
      ' ' :: val = tail ++ missing := by
    obtain ⟨beyond, isLine, isRest⟩ | ⟨beyond, isKey, _⟩ :=
      List.append_eq_append_iff.mp isText
    · cases beyond with
      | nil =>
          rw [isLine, List.append_nil] at equals
          exact absurd equals noEquals
      | cons first tail =>
          obtain ⟨rfl, isTail⟩ := List.cons.inj isRest
          exact ⟨tail, isLine, isTail⟩
    · rw [isKey] at noEquals
      exact absurd (List.mem_append_left _ equals) noEquals
  have isRead : read = readValue (strstrip tail) := by
    by_cases opened : key.head? = some '[' ∧
        (key ++ pad ++ '=' :: tail.rdropWhile isspace).getLast? = some ']'
    · have isHead : (key ++ pad ++ '=' :: tail.rdropWhile isspace).head? = some '[' := by
        rw [List.append_assoc, List.head?_append_of_ne_nil _ keyOk.nonempty, opened.1]
      unfold iniparserLine at isValue
      rw [strstrip_value keyOk] at isValue
      unfold strippedLine at isValue
      dsimp only at isValue
      rw [if_neg (by simp), if_neg (by rw [isHead]; decide),
        if_pos ⟨isHead, opened.2⟩] at isValue
      cases isValue
    · rw [iniparserLine_value keyOk blankPad (fun isOpening closed =>
        opened ⟨isOpening, closed⟩)] at isValue
      cases isValue
      rfl
  rw [isRead]
  refine Nat.lt_of_le_of_lt (length_readValue _) ?_
  have lost : missing ≠ [] := by
    rintro rfl
    exact notBlank fun _ member => absurd member List.not_mem_nil
  cases tail with
  | nil =>
      rw [List.nil_append] at isTail
      subst isTail
      cases val with
      | nil =>
          refine absurd (fun char member => ?_) notBlank
          rw [List.mem_singleton.mp member]
          rfl
      | cons first rest => exact Nat.succ_pos _
  | cons first tail =>
      obtain ⟨rfl, isVal⟩ := List.cons.inj isTail
      have stripped : strstrip (' ' :: tail) = strstrip tail := by
        unfold strstrip
        rw [List.dropWhile_cons_of_pos rfl]
      have positive := List.length_pos_iff.mpr lost
      have length := length_strstrip tail
      have lengthVal : val.length = tail.length + missing.length :=
        (congrArg List.length isVal).trans List.length_append
      rw [stripped]
      omega

/-- A line that lacks more than blanks does not set what the whole line sets. -/
theorem cut_partial {dumped : Dumped} {more : List Dumped}
    (understood : Understood name (dumped :: more))
    (isText : dumped.text = line ++ missing) (notBlank : ¬ Blank missing) :
    ∃ setting, dumped.sets = some setting ∧ setting ∉ cutSettings name line := by
  cases understood with
  | blank rest =>
      obtain ⟨_, rfl⟩ := List.append_eq_nil_iff.mp isText.symm
      exact absurd (fun _ member => absurd member List.not_mem_nil) notBlank
  | @head _ s _ ok rest =>
      refine ⟨(s, none), rfl, fun member => ?_⟩
      obtain ⟨other, _, isSection⟩ | ⟨key, val, same, _⟩ := mem_cutSettings member
      · have closed := mem_of_mem_strstrip (List.mem_of_getLast? (section_last isSection))
        have inLine := (List.rdropWhile_prefix isspace line).subset closed
        have isPrefix : line <+: '[' :: s ++ [']'] := ⟨missing, isText.symm⟩
        obtain isWhole | shorter := List.prefix_concat_iff.mp isPrefix
        · rw [isWhole] at isText
          have isNil := List.append_right_eq_self.mp isText.symm
          subst isNil
          exact notBlank fun _ member => absurd member List.not_mem_nil
        · obtain isOpening | inName := List.mem_cons.mp (shorter.subset inLine)
          · cases isOpening
          · exact ok.bracket inName
      · cases congrArg Prod.snd same
  | @keyed _ key val _ keyOk valueOk lineOk rest =>
      refine ⟨_, rfl, fun member => ?_⟩
      obtain ⟨other, same, _⟩ | ⟨other, read, same, isValue⟩ := mem_cutSettings member
      · cases congrArg Prod.snd same
      · have shorter := cut_value keyOk isText notBlank isValue
        have sameVal : val = read := Option.some.inj (congrArg Prod.snd same)
        rw [sameVal] at shorter
        exact Nat.lt_irrefl _ shorter

end Missing

theorem mem_of_find_setAll {d : Dictionary} (sound : d.Sound)
    {settings : List (Text × Option Text)} {key : Text} {val : Option Text}
    (found : dictionaryFind (dictionarySetAll d settings) key = some val) :
    (key, val) ∈ settings ∨ dictionaryFind d key = some val := by
  induction settings generalizing d with
  | nil => exact .inr found
  | cons setting settings induction =>
      obtain inRest | before := induction (set_spec sound setting.1 setting.2).1 found
      · exact .inl (List.mem_cons_of_mem _ inRest)
      · rw [find_set sound] at before
        by_cases same : key = setting.1
        · subst same
          rw [Function.update_self] at before
          cases before
          exact .inl (List.mem_cons_self ..)
        · rw [Function.update_of_ne same] at before
          exact .inr before

theorem sets_none_of_blank {name : Text} {lines : List Dumped}
    (understood : Understood name lines) :
    ∀ line ∈ lines, (line.sets = none ↔ Blank line.text) := by
  induction understood with
  | nil name => simp
  | blank _ induction =>
      rw [List.forall_mem_cons]
      exact ⟨by simp [Blank], induction⟩
  | head ok _ induction =>
      rw [List.forall_mem_cons]
      refine ⟨?_, induction⟩
      simp only [reduceCtorEq, false_iff]
      intro blank
      exact absurd (blank '[' (by simp [sectionText])) (by decide)
  | keyed keyOk valueOk lineOk _ induction =>
      rw [List.forall_mem_cons]
      refine ⟨?_, induction⟩
      simp only [reduceCtorEq, false_iff]
      intro blank
      exact absurd (blank '=' (by simp [keyText])) (by decide)

theorem blank_append {first second : Text} :
    Blank (first ++ second) ↔ Blank first ∧ Blank second := by
  unfold Blank
  exact List.forall_mem_append

theorem blank_unlines {lines : List Text} :
    Blank (unlines lines) ↔ ∀ line ∈ lines, Blank line := by
  induction lines with
  | nil => simp [unlines, Blank]
  | cons line lines induction =>
      have newline : Blank ['\n'] := by decide
      have isAll : unlines (line :: lines) = (line ++ ['\n']) ++ unlines lines := rfl
      rw [isAll, blank_append, blank_append, List.forall_mem_cons, induction]
      simp [newline]

theorem rest_of_dump {d : Dictionary} {part rest : Text} (storable : Storable d)
    (isDump : part ++ rest = iniparserDumpIni d) :
    rest = [] ∧ lastLine part = [] ∧ wholeLines d part = d.dumped ∨
    ∃ line more missing, d.dumped = wholeLines d part ++ line :: more ∧
      line.text = lastLine part ++ missing ∧
      rest = missing ++ '\n' :: unlines (more.map Dumped.text) := by
  obtain ⟨isPart, next⟩ := part_of_dump storable ⟨rest, isDump⟩
  have split : d.dumped = wholeLines d part ++ d.dumped.drop (part.count '\n') :=
    (List.take_append_drop _ _).symm
  have isRest : lastLine part ++ rest =
      unlines ((d.dumped.drop (part.count '\n')).map Dumped.text) := by
    have written : unlines ((wholeLines d part).map Dumped.text) ++
        (lastLine part ++ rest) = unlines (d.dumped.map Dumped.text) := by
      rw [← List.append_assoc, ← isPart, isDump, storable.dump_eq]
    have all : unlines (d.dumped.map Dumped.text) =
        unlines ((wholeLines d part).map Dumped.text) ++
          unlines ((d.dumped.drop (part.count '\n')).map Dumped.text) := by
      unfold unlines
      rw [← List.flatMap_append, ← List.map_append, ← split]
    exact List.append_cancel_left (written.trans all)
  cases isMore : d.dumped.drop (part.count '\n') with
  | nil =>
      rw [isMore] at isRest split
      obtain ⟨noLast, noRest⟩ := List.append_eq_nil_iff.mp isRest
      exact .inl ⟨noRest, noLast, by rw [split]; simp⟩
  | cons line more =>
      have isLine : d.dumped[part.count '\n']? = some line := by
        rw [← List.head?_drop, isMore]
        rfl
      obtain ⟨missing, isText⟩ : ∃ missing, line.text = lastLine part ++ missing := by
        obtain isNil | ⟨other, isOther, missing, isText⟩ := next
        · exact ⟨line.text, by rw [isNil, List.nil_append]⟩
        · rw [isLine] at isOther
          cases isOther
          exact ⟨missing, isText.symm⟩
      refine .inr ⟨line, more, missing, by rw [← isMore]; exact split, isText, ?_⟩
      rw [isMore] at isRest
      have isAll : unlines ((line :: more).map Dumped.text) =
          line.text ++ '\n' :: unlines (more.map Dumped.text) := by
        simp [unlines]
      rw [isAll, isText, List.append_assoc] at isRest
      exact List.append_cancel_left isRest

/-- The written part holds the whole dictionary exactly if only blanks are missing. -/
theorem find_written_iff {d : Dictionary} {part rest : Text} (storable : Storable d)
    (isDump : part ++ rest = iniparserDumpIni d) :
    dictionaryFind (dictionarySetAll (dictionaryNew 0) (writtenSettings d part)) =
      dictionaryFind d ↔ Blank rest := by
  obtain ⟨noRest, noLast, isWhole⟩ | ⟨line, more, missing, split, isText, isRest⟩ :=
    rest_of_dump storable isDump
  · have written : writtenSettings d part = d.dumped.filterMap Dumped.sets := by
      unfold writtenSettings
      rw [isWhole, noLast]
      exact List.append_nil _
    rw [written, find_dumped storable, noRest]
    simp [Blank]
  · have understood := storable.understood Loading.start.name
    rw [split] at understood
    have below : Understood (sectionAfter [] (wholeLines d part)) (line :: more) :=
      (foldl_pass understood rfl).2
    have blankRest : Blank rest ↔ Blank missing ∧ ∀ line ∈ more, line.sets = none := by
      have newline : Blank ['\n'] := by decide
      have isAll : rest = missing ++ (['\n'] ++ unlines (more.map Dumped.text)) := isRest
      rw [isAll, blank_append, blank_append, blank_unlines, List.forall_mem_map]
      refine and_congr_right fun _ => ?_
      rw [and_iff_right newline]
      exact forall₂_congr fun other member => (sets_none_of_blank below other
        (List.mem_cons_of_mem _ member)).symm
    rw [blankRest]
    constructor
    · intro same
      obtain ⟨agree, _⟩ := storable.sets_agree
      have nodup := storable.nodup_sets
      have isIn : ∀ setting ∈ d.dumped.filterMap Dumped.sets,
          setting ∈ writtenSettings d part := by
        intro setting member
        have found := agree setting member
        rw [← same] at found
        obtain inside | before := mem_of_find_setAll (sound_new 0) found
        · exact inside
        · rw [find_new] at before
          cases before
      rw [split, List.filterMap_append] at isIn nodup
      rw [List.map_append, List.nodup_append] at nodup
      obtain ⟨_, nodupRest, apart⟩ := nodup
      have blank : Blank missing := by
        by_contra notBlank
        obtain ⟨setting, isSetting, notCut⟩ := cut_partial below isText notBlank
        have inLine : setting ∈ (line :: more).filterMap Dumped.sets :=
          List.mem_filterMap.mpr ⟨line, List.mem_cons_self .., isSetting⟩
        obtain inWhole | inCut :=
          List.mem_append.mp (isIn setting (List.mem_append_right _ inLine))
        · exact apart _ (List.mem_map_of_mem inWhole) _ (List.mem_map_of_mem inLine) rfl
        · exact notCut inCut
      refine ⟨blank, fun other member => ?_⟩
      by_contra some
      obtain ⟨setting, isSetting⟩ := Option.ne_none_iff_exists'.mp some
      have inMore : setting ∈ more.filterMap Dumped.sets :=
        List.mem_filterMap.mpr ⟨other, member, isSetting⟩
      have inLine : setting ∈ (line :: more).filterMap Dumped.sets :=
        List.mem_filterMap.mpr ⟨other, List.mem_cons_of_mem _ member, isSetting⟩
      obtain inWhole | inCut :=
        List.mem_append.mp (isIn setting (List.mem_append_right _ inLine))
      · exact apart _ (List.mem_map_of_mem inWhole) _ (List.mem_map_of_mem inLine) rfl
      · rw [cut_complete below isText blank, Option.mem_toList] at inCut
        rw [List.filterMap_cons_some inCut, List.map_cons, List.nodup_cons] at nodupRest
        exact nodupRest.1 (List.mem_map_of_mem inMore)
    · rintro ⟨blank, none⟩
      have noMore : more.filterMap Dumped.sets = [] :=
        List.filterMap_eq_nil_iff.mpr none
      have written : writtenSettings d part = d.dumped.filterMap Dumped.sets := by
        unfold writtenSettings
        rw [split, List.filterMap_append, List.filterMap_cons, noMore,
          cut_complete below isText blank]
        cases line.sets <;> rfl
      rw [written]
      exact find_dumped storable

end Rkipc.Ini
