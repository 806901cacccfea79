import Rkipc.Wifi.EventFields

namespace Rkipc.Wifi

/-! Which events are parsed inside the arrays, and what is taken from them. -/

section Decoding

variable {byte : Byte} {text : List Byte} {place i size length : Nat} {access : Access}
  {accesses : List Access}

theorem cutShort_le (text : List Byte) : cutShort text ≤ 2 := by
  unfold cutShort
  split
  · exact Nat.le_refl _
  · exact Nat.le_succ 1

/-- The end of a text that is not whole does not depend on what is in front. -/
theorem cutShort_append (front : List Byte) (notWhole : ¬ Whole text) :
    cutShort (front ++ text) = cutShort text := by
  have long : [backslash, 0x78].length ≤ text.length := by
    match text, notWhole with
    | [], notWhole => exact absurd .nil notWhole
    | [byte], notWhole => exact absurd (.plain (fun starts => by cases starts.2) .nil) notWhole
    | _ :: _ :: _, _ => exact Nat.le_add_left 2 _
  have same : [backslash, 0x78] <:+ front ++ text ↔ [backslash, 0x78] <:+ text :=
    ⟨fun isSuffix => List.suffix_of_suffix_length_le isSuffix (List.suffix_append _ _) long,
      fun isSuffix => isSuffix.trans (List.suffix_append _ _)⟩
  unfold cutShort
  exact if_congr same rfl rfl

theorem cutShort_cut (tail : List Byte) (short : tail.length < 2) :
    cutShort (backslash :: 0x78 :: tail) = 2 - tail.length := by
  match tail, short with
  | [], _ => rfl
  | [char], _ =>
      refine if_neg fun isSuffix => ?_
      obtain ⟨front, same⟩ := isSuffix
      match front, same with
      | [], same => cases same
      | [_], same => cases same
      | _ :: _ :: front, same =>
          have lengths := congrArg List.length same
          simp at lengths

theorem infix_cons_plain (other : ¬ (byte = backslash ∧ text.head? = some 0x78)) :
    [backslash, 0x78] <:+: byte :: text ↔ [backslash, 0x78] <:+: text := by
  rw [List.infix_cons_iff, List.cons_prefix_cons, List.singleton_prefix_iff_head?_eq_some, eq_comm]
  exact or_iff_right other

/-- A string in an array of zeros is read to its end if the array does not end before the last
escape does. -/
theorem specCharConvers_zeros (noNul : 0 ∉ text) : ∃ dst, ∀ zeros,
    Whole text ∨ cutShort text ≤ zeros →
      specCharConvers (text ++ 0 :: List.replicate zeros 0) = some dst := by
  induction text using converted.induct with
  | case1 => exact ⟨[], fun _ _ => specCharConvers_nul _⟩
  | case2 byte mark high low rest starts induction =>
      obtain ⟨rfl, isMark⟩ := starts
      obtain rfl := Option.some_inj.mp isMark
      simp only [List.mem_cons, not_or] at noNul
      obtain ⟨dst, isDst⟩ := induction noNul.2.2.2.2
      refine ⟨BitVec.ofNat 8 (number 16 (cString [high, low])) :: dst, fun zeros fits => ?_⟩
      have later : Whole rest ∨ cutShort rest ≤ zeros := by
        by_cases whole : Whole rest
        · exact .inl whole
        · refine .inr ?_
          rw [← cutShort_append [backslash, 0x78, high, low] whole]
          exact fits.resolve_left (mt whole_escape_iff.mp whole)
      rw [List.cons_append, List.cons_append, List.cons_append, List.cons_append,
        specCharConvers_escape, isDst zeros later]
      rfl
  | case3 byte rest starts cut =>
      obtain ⟨rfl, isMark⟩ := starts
      have short := length_of_cut cut
      obtain ⟨tail, rfl⟩ := List.head?_eq_some_iff.mp isMark
      have less : tail.length < 2 := Nat.lt_of_succ_lt_succ short
      have notWhole := not_whole_cut isMark short
      cases tail with
      | nil =>
          refine ⟨[0], fun zeros fits => ?_⟩
          have two : 2 ≤ zeros := fits.resolve_left notWhole
          obtain ⟨count, rfl⟩ := Nat.exists_eq_add_of_le' two
          rw [List.replicate_succ, List.replicate_succ]
          exact (specCharConvers_escape 0 0 _).trans (congrArg _ (specCharConvers_nul _))
      | cons char tail =>
          obtain rfl := List.length_eq_zero_iff.mp (Nat.lt_one_iff.mp (Nat.lt_of_succ_lt_succ less))
          refine ⟨[BitVec.ofNat 8 (number 16 (cString [char, 0]))], fun zeros fits => ?_⟩
          have lacks : cutShort (backslash :: 0x78 :: [char]) = 1 :=
            cutShort_cut [char] (Nat.lt_succ_self 1)
          have one : 1 ≤ zeros := lacks ▸ fits.resolve_left notWhole
          obtain ⟨count, rfl⟩ := Nat.exists_eq_add_of_le' one
          rw [List.replicate_succ]
          exact (specCharConvers_escape char 0 _).trans (congrArg _ (specCharConvers_nul _))
  | case4 byte rest other induction =>
      obtain ⟨isByte, noNul⟩ := not_or.mp (mt List.mem_cons.mpr noNul)
      obtain ⟨dst, isDst⟩ := induction noNul
      refine ⟨byte :: dst, fun zeros fits => ?_⟩
      have later : Whole rest ∨ cutShort rest ≤ zeros := by
        by_cases whole : Whole rest
        · exact .inl whole
        · refine .inr ?_
          rw [← cutShort_append [byte] whole]
          exact fits.resolve_left (mt (whole_plain_iff other).mp whole)
      rw [List.cons_append, specCharConvers_plain (Ne.symm isByte)
        fun both => other ⟨both.1, head_terminated.mp both.2⟩, isDst zeros later]
      rfl

/-- All accesses are inside, with the arrays as long as given. -/
def AllInside (size length : Nat) (accesses : List Access) : Prop :=
  ∀ access ∈ accesses, Access.inside size length access = true

theorem allInside_cons : AllInside size length (access :: accesses) ↔
    Access.inside size length access = true ∧ AllInside size length accesses :=
  List.forall_mem_cons

theorem inside_buf : Access.inside size length (.buf, place) = true ↔ place < size :=
  decide_eq_true_iff

theorem inside_dst : Access.inside size length (.dst, place) = true ↔ place < size :=
  decide_eq_true_iff

theorem inside_bufTemp : Access.inside size length (.bufTemp, place) = true ↔ place ≤ length :=
  decide_eq_true_iff

theorem allInside_strcpy {string : List Byte} (inside : place + string.length < size)
    (fits : string.length ≤ length) : AllInside size length (Access.strcpy place string) := by
  intro access member
  obtain ⟨index, isIndex, isAccess⟩ := List.mem_flatMap.mp member
  have below := List.mem_range.mp isIndex
  simp only [List.mem_cons, List.not_mem_nil, or_false] at isAccess
  obtain rfl | rfl := isAccess
  · exact inside_buf.mpr (by omega)
  · exact inside_bufTemp.mpr (by omega)

/-- Behind a cut escape the next NUL is met if the array goes on. -/
theorem allInside_behind (zeros : Nat) (early : i ≤ place) :
    AllInside (place + zeros) length
        (Access.specCharConvers place i (List.replicate zeros 0)) ↔ 0 < zeros := by
  cases zeros with
  | zero =>
      refine iff_of_false (fun inside => ?_) (Nat.lt_irrefl 0)
      exact absurd (inside_buf.mp (inside _ List.mem_cons_self)) (Nat.lt_irrefl _)
  | succ zeros =>
      rw [List.replicate_succ, convertAccesses_nul]
      refine iff_of_true (allInside_cons.mpr ⟨inside_buf.mpr ?_, allInside_cons.mpr
        ⟨inside_dst.mpr ?_, List.forall_mem_nil _⟩⟩) (Nat.succ_pos zeros)
      · omega
      · omega

theorem cString_zeros (noNul : 0 ∉ text) (zeros : Nat) :
    cString (text ++ 0 :: List.replicate zeros 0) = text := cString_terminated noNul _

theorem allInside_escape {tail : List Byte} (length : Nat) (noNul : 0 ∉ backslash :: 0x78 :: tail)
    (early : i ≤ place) (zeros : Nat) (isSize : size = place + (tail.length + 2) + zeros + 1)
    (fits : tail.length + 2 ≤ length) : ∃ accesses,
    (AllInside size length (Access.specCharConvers place i
      (backslash :: 0x78 :: (tail ++ 0 :: List.replicate zeros 0))) ↔
        4 ≤ length ∧ AllInside size length accesses) ∧
      (.buf, place + 4) ∈ accesses ∧
      ∀ high low rest, tail ++ 0 :: List.replicate zeros 0 = high :: low :: rest →
        accesses = Access.specCharConvers (place + 4) (i + 1) rest := by
  obtain ⟨accesses, isAll, isBehind, follows⟩ :=
    convertAccesses_escape place i (tail ++ 0 :: List.replicate zeros 0)
  refine ⟨accesses, ?_, isBehind, follows⟩
  have isString : cString (backslash :: 0x78 :: (tail ++ 0 :: List.replicate zeros 0)) =
      backslash :: 0x78 :: tail := cString_zeros noNul zeros
  have copied : AllInside size length (Access.strcpy place (backslash :: 0x78 :: tail)) := by
    apply allInside_strcpy
    · simp only [List.length_cons]
      omega
    · exact fits
  rw [isAll, isString, allInside_cons, allInside_cons, AllInside, List.forall_mem_append]
  simp only [List.forall_mem_cons, inside_buf, inside_dst, inside_bufTemp]
  constructor
  · rintro ⟨_, _, _, _, four, _, inside⟩
    exact ⟨four, inside⟩
  · rintro ⟨four, inside⟩
    exact ⟨by omega, by omega, copied, Nat.zero_le _, four, by omega, inside⟩

/-- The decoder stays in its arrays as long as the last escape does not go over the end of the
array, and if there is one there are four characters. -/
theorem allInside_convertAccesses (length : Nat) (noNul : 0 ∉ text) (early : i ≤ place)
    (fits : place + text.length ≤ length) (zeros : Nat) :
    AllInside (place + text.length + zeros + 1) length
        (Access.specCharConvers place i (text ++ 0 :: List.replicate zeros 0)) ↔
      (Whole text ∨ cutShort text ≤ zeros) ∧
        ([backslash, 0x78] <:+: text → 4 ≤ length) := by
  induction text using converted.induct generalizing place i with
  | case1 =>
      rw [List.nil_append, convertAccesses_nul]
      refine iff_of_true (allInside_cons.mpr ⟨inside_buf.mpr (by omega), allInside_cons.mpr
        ⟨inside_dst.mpr (by omega), List.forall_mem_nil _⟩⟩) ⟨.inl .nil, fun isInfix => ?_⟩
      cases List.infix_nil.mp isInfix
  | case2 byte mark high low rest starts induction =>
      obtain ⟨rfl, isMark⟩ := starts
      obtain rfl := Option.some_inj.mp isMark
      simp only [List.length_cons] at fits
      obtain ⟨accesses, isAll, _, follows⟩ := allInside_escape (i := i) length noNul
        early zeros rfl (by simp only [List.length_cons]; omega)
      have step := @induction (place + 4) (i + 1)
        (fun member => noNul (List.mem_cons_of_mem _ (List.mem_cons_of_mem _
          (List.mem_cons_of_mem _ (List.mem_cons_of_mem _ member))))) (by omega) (by omega)
      have sizes : place + (backslash :: 0x78 :: high :: low :: rest).length + zeros + 1 =
          place + 4 + rest.length + zeros + 1 := by
        simp only [List.length_cons]
        omega
      have ends : Whole (backslash :: 0x78 :: high :: low :: rest) ∨
          cutShort (backslash :: 0x78 :: high :: low :: rest) ≤ zeros ↔
            Whole rest ∨ cutShort rest ≤ zeros := by
        rw [whole_escape_iff]
        by_cases whole : Whole rest
        · exact iff_of_true (.inl whole) (.inl whole)
        · rw [← cutShort_append [backslash, 0x78, high, low] whole]
          rfl
      rw [follows high low (rest ++ 0 :: List.replicate zeros 0) rfl] at isAll
      refine isAll.trans ?_
      rw [show place + ((high :: low :: rest).length + 2) + zeros + 1 =
        place + 4 + rest.length + zeros + 1 from sizes, step, ends]
      constructor
      · rintro ⟨four, isEnd, _⟩
        exact ⟨isEnd, fun _ => four⟩
      · rintro ⟨isEnd, four⟩
        have found : [backslash, 0x78] <:+: backslash :: 0x78 :: high :: low :: rest :=
          ⟨[], _, rfl⟩
        exact ⟨four found, isEnd, fun _ => four found⟩
  | case3 byte rest starts cut =>
      obtain ⟨rfl, isMark⟩ := starts
      have short := length_of_cut cut
      obtain ⟨tail, rfl⟩ := List.head?_eq_some_iff.mp isMark
      have less : tail.length < 2 := Nat.lt_of_succ_lt_succ short
      have notWhole := not_whole_cut isMark short
      simp only [List.length_cons] at fits
      obtain ⟨accesses, isAll, isBehind, follows⟩ := allInside_escape (i := i)
        length noNul early zeros rfl (by omega)
      have isInfix : [backslash, 0x78] <:+: backslash :: 0x78 :: tail := ⟨[], tail, rfl⟩
      refine isAll.trans ?_
      rw [or_iff_right notWhole, cutShort_cut tail less, and_comm]
      refine and_congr ?_ ⟨fun four _ => four, fun four => four isInfix⟩
      cases tail with
      | nil =>
          cases zeros with
          | zero =>
              refine iff_of_false (fun inside => ?_) (by simp)
              have bound := inside_buf.mp (inside _ isBehind)
              simp only [List.length_nil] at bound
              omega
          | succ zeros =>
              rw [follows 0 0 (List.replicate zeros 0) rfl,
                show place + (([] : List Byte).length + 2) + (zeros + 1) + 1 = place + 4 + zeros by
                  simp only [List.length_nil]
                  omega, allInside_behind zeros (by omega)]
              simp only [List.length_nil]
              omega
      | cons char tail =>
          obtain rfl := List.length_eq_zero_iff.mp (Nat.lt_one_iff.mp (Nat.lt_of_succ_lt_succ less))
          rw [follows char 0 (List.replicate zeros 0) rfl,
            show place + ([char].length + 2) + zeros + 1 = place + 4 + zeros by
              simp only [List.length_singleton]
              omega, allInside_behind zeros (by omega)]
          simp only [List.length_singleton]
          omega
  | case4 byte rest other induction =>
      obtain ⟨isByte, noNul⟩ := not_or.mp (mt List.mem_cons.mpr noNul)
      rw [List.length_cons] at fits
      have sizes : place + (byte :: rest).length + zeros + 1 =
          place + 1 + rest.length + zeros + 1 := by
        rw [List.length_cons]
        omega
      have step := @induction (place + 1) (i + 1) noNul (by omega) (by omega)
      have ends : Whole (byte :: rest) ∨ cutShort (byte :: rest) ≤ zeros ↔
          Whole rest ∨ cutShort rest ≤ zeros := by
        rw [whole_plain_iff other]
        by_cases whole : Whole rest
        · exact iff_of_true (.inl whole) (.inl whole)
        · rw [← cutShort_append [byte] whole]
          rfl
      rw [sizes, ends, infix_cons_plain other, ← step, List.cons_append]
      by_cases isEscape : byte = backslash
      · subst isEscape
        have notMark : (rest ++ 0 :: List.replicate zeros 0).head? ≠ some 0x78 := fun starts =>
          other ⟨rfl, head_terminated.mp starts⟩
        rw [convertAccesses_backslash notMark]
        simp only [allInside_cons, inside_buf, inside_dst]
        exact ⟨fun bounds => bounds.2.2.2, fun inside =>
          ⟨by omega, by omega, by omega, inside⟩⟩
      · rw [convertAccesses_plain (Ne.symm isByte) isEscape]
        simp only [allInside_cons, inside_buf, inside_dst]
        exact ⟨fun bounds => bounds.2.2, fun inside => ⟨by omega, by omega, inside⟩⟩

end Decoding

section Copies

variable {dst src out text : List Byte} {len : Int} {size : Nat}

theorem store_isSome_iff {items : List Byte} :
    (Libc.store dst 0 items).isSome ↔ items.length ≤ dst.length := by
  rw [Libc.store, Nat.zero_add]
  split
  next fits => exact iff_of_true rfl fits
  next notFits => exact iff_of_false Bool.false_ne_true notFits

theorem strncpy_isSome_iff : (strncpy dst src len).isSome ↔ 0 ≤ len ∧ len ≤ dst.length := by
  rw [strncpy]
  split
  next negative => exact iff_of_false Bool.false_ne_true fun fits => absurd fits.1 (by omega)
  next =>
    have short : ((cString src).take len.toNat).length ≤ len.toNat := List.length_take_le _ _
    rw [store_isSome_iff, List.length_append, List.length_replicate, Nat.add_sub_cancel' short]
    omega

theorem mem_strncpy {byte : Byte} (isIn : byte ∈ dst.drop len.toNat)
    (isOut : strncpy dst src len = some out) : byte ∈ out := by
  rw [strncpy] at isOut
  split at isOut
  next => cases isOut
  next =>
    have short : ((cString src).take len.toNat).length ≤ len.toNat := List.length_take_le _ _
    dsimp only at isOut
    rw [Libc.store, List.length_append, List.length_replicate, Nat.add_sub_cancel' short,
      Nat.zero_add] at isOut
    split at isOut
    next =>
      cases isOut
      exact List.mem_append_right _ isIn
    next => cases isOut

theorem strncpy_zeros (noNul : 0 ∉ src) (inside : len.toNat ≤ src.length) (nonneg : 0 ≤ len)
    (fits : len.toNat ≤ size) : strncpy (List.replicate size 0) src len =
      some (src.take len.toNat ++ List.replicate (size - len.toNat) 0) := by
  have isString : cString src = src := Libc.cString_of_notMem noNul
  have isLength : (src.take len.toNat).length = len.toNat := List.length_take_of_le inside
  rw [strncpy, if_neg (by omega), isString]
  dsimp only
  rw [isLength, Nat.sub_self, List.replicate_zero, List.append_nil, Libc.store, isLength,
    List.length_replicate, if_pos (by omega), List.take_zero, List.nil_append, Nat.zero_add,
    List.drop_replicate]

theorem strcpy_eq : strcpy dst src =
    if (cString src).length < dst.length then
      some (cString src ++ 0 :: dst.drop ((cString src).length + 1))
    else none := by
  have stored := Libc.store_append [] dst (cString src ++ [0])
  rw [List.nil_append, List.nil_append, List.length_nil, List.length_append,
    List.length_singleton, List.append_assoc, List.singleton_append] at stored
  exact stored

theorem cString_cString (memory : List Byte) (behind : List Byte) :
    cString (cString memory ++ 0 :: behind) = cString memory := by
  refine cString_terminated (fun member => ?_) behind
  simpa using List.mem_takeWhile_imp member

theorem mem_zeros (short : text.length < size) :
    text ++ List.replicate (size - text.length) 0 =
      text ++ 0 :: List.replicate (size - text.length - 1) (0 : Byte) := by
  obtain ⟨zeros, isZeros⟩ := Nat.exists_eq_add_of_lt short
  have isCount : size - text.length = zeros + 1 := by omega
  rw [isCount, List.replicate_succ, Nat.add_sub_cancel]

theorem all_inside_iff (noNul : 0 ∉ text) (short : text.length < size) :
    ((Access.specCharConvers 0 0 (text ++ List.replicate (size - text.length) 0)).all
        (Access.inside (text ++ List.replicate (size - text.length) (0 : Byte)).length
          (cString (text ++ List.replicate (size - text.length) 0)).length)) = true ↔
      Decodes size text := by
  have inside := allInside_convertAccesses text.length noNul (Nat.le_refl 0)
    (Nat.le_of_eq (Nat.zero_add _)) (size - text.length - 1)
  have isSize : (text ++ 0 :: List.replicate (size - text.length - 1) (0 : Byte)).length =
      0 + text.length + (size - text.length - 1) + 1 := by
    simp only [List.length_append, List.length_cons, List.length_replicate]
    omega
  have same : cutShort text ≤ size - text.length - 1 ↔ text.length + cutShort text < size := by
    omega
  rw [mem_zeros short, cString_zeros noNul, isSize, List.all_eq_true, Decodes, and_iff_right short,
    ← same]
  exact inside

/-- What `spec_char_convers` gives for a string in an array of zeros. -/
theorem specCharConversArray_eq (noNul : 0 ∉ text) (decodes : Decodes size text) :
    specCharConversArray (text ++ List.replicate (size - text.length) 0) =
      some (decoded text) := by
  have isNul : (0 : Byte) ∈ text ++ List.replicate (size - text.length) 0 := by
    rw [mem_zeros decodes.1]
    exact List.mem_append_right _ List.mem_cons_self
  obtain ⟨dst, isDst⟩ := specCharConvers_zeros noNul
  have three := isDst 2 (.inr (cutShort_le text))
  change specCharConvers (text ++ [0, 0, 0]) = some dst at three
  have ends : Whole text ∨ cutShort text ≤ size - text.length - 1 :=
    decodes.2.1.imp_right fun less => by omega
  rw [specCharConversArray, if_pos ⟨isNul, (all_inside_iff noNul decodes.1).mpr decodes⟩,
    mem_zeros decodes.1, isDst _ ends, decoded, three]
  rfl

theorem decodes_of_isSome (noNul : 0 ∉ text) (fits : text.length ≤ size)
    (isSome : (specCharConversArray (text ++ List.replicate (size - text.length) 0)).isSome) :
    Decodes size text := by
  rw [specCharConversArray] at isSome
  split at isSome
  next both =>
    have short : text.length < size := by
      refine lt_of_le_of_ne fits fun same => noNul ?_
      have isNul := both.1
      rwa [same, Nat.sub_self, List.replicate_zero, List.append_nil] at isNul
    exact (all_inside_iff noNul short).mp both.2
  next => cases isSome

end Copies

section Numbers

variable {byte : Byte} {rest text : List Byte}

theorem digit_cases : ∀ byte : Byte, isDigit byte = true →
    ¬ (byte = 0x20 ∨ 0x09 ≤ byte ∧ byte ≤ 0x0d) ∧ byte ≠ 0x2d ∧ byte ≠ 0x2b := by
  decide

theorem number_eq (string : List Byte) :
    number 10 string = number 10 (string.takeWhile isDigit) := by
  have isMap (string : List Byte) : (string.map (digit 10)).takeWhile Option.isSome =
      (string.takeWhile isDigit).map (digit 10) := List.takeWhile_map
  rw [number, number, isMap, isMap, List.takeWhile_idem]

theorem atoi_digit (isNumber : isDigit byte = true)
    (small : number 10 (byte :: rest) ≤ 2147483647) :
    atoi (byte :: rest) = number 10 (byte :: rest) := by
  obtain ⟨notSpace, notMinus, notPlus⟩ := digit_cases byte isNumber
  rw [atoi, List.dropWhile_cons_of_neg (by simpa using notSpace)]
  split
  next same => exact absurd (List.cons.inj same).1 notMinus
  next same => exact absurd (List.cons.inj same).1 notPlus
  next => omega

theorem mem_unsigned (isNul : 0 ∈ text) : 0 ∈ unsigned text := by
  have isIn : (0 : Byte) ∈ text.dropWhile fun byte => byte = 0x20 ∨ 0x09 ≤ byte ∧ byte ≤ 0x0d := by
    rw [← List.takeWhile_append_dropWhile (p := fun byte : Byte =>
      byte = 0x20 ∨ 0x09 ≤ byte ∧ byte ≤ 0x0d) (l := text), List.mem_append] at isNul
    refine isNul.resolve_left fun member => ?_
    exact absurd (List.mem_takeWhile_imp member) (by decide)
  unfold unsigned
  split
  next same =>
    rw [same] at isIn
    exact (List.mem_cons.mp isIn).resolve_left (by decide)
  next same =>
    rw [same] at isIn
    exact (List.mem_cons.mp isIn).resolve_left (by decide)
  next => exact isIn

end Numbers

section Steps

variable {head : EncodeGbk} {connectBssid event start stop tag : List Byte} {info after : Info}

theorem length_between (start stop : List Byte) :
    (between start stop).length = start.length - stop.length - 6 := by
  rw [between, List.length_take, List.length_drop]
  omega

theorem notMem_between (noNul : 0 ∉ start) : 0 ∉ between start stop := fun member =>
  noNul (List.mem_of_mem_drop (List.mem_of_mem_take member))

theorem strncpy_between (noNul : 0 ∉ start) (behind : stop.length + 6 ≤ start.length)
    (fits : (between start stop).length ≤ valueSize) :
    strncpy (List.replicate valueSize 0) (start.drop 6) (start.length - stop.length - 6) =
      some (between start stop ++
        List.replicate (valueSize - (between start stop).length) 0) := by
  rw [length_between] at fits
  have isLen : ((start.length : Int) - stop.length - 6).toNat =
      start.length - stop.length - 6 := by omega
  rw [strncpy_zeros (fun member => noNul (List.mem_of_mem_drop member))
    (by rw [isLen, List.length_drop]; omega) (by omega) (by omega), isLen, length_between, between]

theorem ssidInfo_eq (noNul : 0 ∉ start) (isSized : info.ssid.length = ssidBufLen)
    (fits : SsidFits head start stop) : ∃ ssid,
      ssidInfo head info start stop = some { info with ssid } ∧
        cString ssid = nameOf head (between start stop) := by
  obtain ⟨behind, decodes, short⟩ := fits
  refine ⟨nameOf head (between start stop) ++
    0 :: info.ssid.drop ((nameOf head (between start stop)).length + 1), ?_, cString_cString _ _⟩
  rw [ssidInfo, strncpy_between noNul behind decodes.1.le, Option.bind_eq_bind, Option.bind_some,
    specCharConversArray_eq (notMem_between noNul) decodes, Option.bind_some, strcpy_eq, isSized]
  exact congrArg (Option.bind · _) (if_pos short)

theorem ssidFits_of_isSome (noNul : 0 ∉ start) (isSized : info.ssid.length = ssidBufLen)
    (isSome : (ssidInfo head info start stop).isSome) : SsidFits head start stop := by
  obtain ⟨after, isAfter⟩ := Option.isSome_iff_exists.mp isSome
  rw [ssidInfo] at isAfter
  obtain ⟨value, isValue, isAfter⟩ := Option.bind_eq_some_iff.mp isAfter
  obtain ⟨sname, isSname, isAfter⟩ := Option.bind_eq_some_iff.mp isAfter
  obtain ⟨ssid, isSsid, _⟩ := Option.bind_eq_some_iff.mp isAfter
  have bounds := strncpy_isSome_iff.mp (Option.isSome_of_eq_some isValue)
  rw [List.length_replicate] at bounds
  have behind : stop.length + 6 ≤ start.length := by omega
  have fits : (between start stop).length ≤ valueSize := by
    rw [length_between]
    omega
  rw [strncpy_between noNul behind fits] at isValue
  cases isValue
  have decodes := decodes_of_isSome (notMem_between noNul) fits (Option.isSome_of_eq_some isSname)
  rw [specCharConversArray_eq (notMem_between noNul) decodes] at isSname
  cases isSname
  rw [strcpy_eq, isSized] at isSsid
  split at isSsid
  next short => exact ⟨behind, decodes, short⟩
  next => cases isSsid

theorem strncpy_id (noNul : 0 ∉ tag) (behind : start.length + 4 ≤ tag.length)
    (fits : tag.length ≤ start.length + 4 + bufSize) :
    strncpy (List.replicate bufSize 0) (tag.drop 3) (tag.length - 3 - start.length - 1) =
      some ((tag.drop 3).take (tag.length - start.length - 4) ++
        List.replicate (bufSize - (tag.length - start.length - 4)) 0) := by
  have isLen : ((tag.length : Int) - 3 - start.length - 1).toNat =
      tag.length - start.length - 4 := by omega
  rw [strncpy_zeros (fun member => noNul (List.mem_of_mem_drop member))
    (by rw [isLen, List.length_drop]; omega) (by omega) (by omega), isLen]

theorem atoiArray_isSome_iff {array : List Byte} :
    (atoiArray array).isSome ↔ ∃ byte ∈ unsigned array, isDigit byte = false := by
  have stops : ¬ (unsigned array).all isDigit = true ↔
      ∃ byte ∈ unsigned array, isDigit byte = false := by
    simp only [List.all_eq_true, not_forall, Bool.not_eq_true, exists_prop]
  rw [← stops, atoiArray]
  split
  next holds => exact iff_of_false Bool.false_ne_true (not_not_intro holds)
  next fails => exact iff_of_true rfl fails

theorem atoiArray_id (fits : tag.length ≤ start.length + 4 + bufSize) :
    (atoiArray ((tag.drop 3).take (tag.length - start.length - 4) ++
        List.replicate (bufSize - (tag.length - start.length - 4)) 0)).isSome ↔
      (tag.length = start.length + 4 + bufSize →
        ∃ byte ∈ unsigned ((tag.drop 3).take bufSize), isDigit byte = false) := by
  rw [atoiArray_isSome_iff]
  by_cases full : tag.length = start.length + 4 + bufSize
  · have isCount : tag.length - start.length - 4 = bufSize := by omega
    rw [isCount, Nat.sub_self, List.replicate_zero, List.append_nil]
    exact ⟨fun stops _ => stops, fun stops => stops full⟩
  · have isSize : bufSize = 10 := rfl
    have isNul : (0 : Byte) ∈ (tag.drop 3).take (tag.length - start.length - 4) ++
        List.replicate (bufSize - (tag.length - start.length - 4)) 0 :=
      List.mem_append_right _ (List.mem_replicate.mpr ⟨by omega, rfl⟩)
    exact iff_of_true ⟨0, mem_unsigned isNul, by decide⟩ fun same => absurd same full

theorem idInfo_isSome_iff (noNul : 0 ∉ tag) (isTag : find idTag event = some tag) :
    (idInfo event info (some start)).isSome ↔ IdFits start tag := by
  rw [idInfo, isTag, IdFits]
  dsimp only
  rw [Option.bind_eq_bind, Option.bind_some]
  by_cases bounds : start.length + 4 ≤ tag.length ∧ tag.length ≤ start.length + 4 + bufSize
  · rw [strncpy_id noNul bounds.1 bounds.2, Option.bind_some, ← atoiArray_id bounds.2,
      and_iff_right bounds.1, and_iff_right bounds.2]
    cases atoiArray ((tag.drop 3).take (tag.length - start.length - 4) ++
      List.replicate (bufSize - (tag.length - start.length - 4)) 0) with
    | none => exact Iff.rfl
    | some id => exact iff_of_true rfl rfl
  · refine iff_of_false (fun isSome => ?_) fun fits => bounds ⟨fits.1, fits.2.1⟩
    obtain ⟨after, isAfter⟩ := Option.isSome_iff_exists.mp isSome
    obtain ⟨buf, isBuf, _⟩ := Option.bind_eq_some_iff.mp isAfter
    have copied := strncpy_isSome_iff.mp (Option.isSome_of_eq_some isBuf)
    rw [List.length_replicate] at copied
    omega

/-- The first characters of a kind stay the first ones when the text is cut behind them. -/
theorem takeWhile_cut {p : Byte → Bool} (notNul : ¬ p 0 = true) (text : List Byte)
    (count zeros : Nat) (inside : (text.takeWhile p).length ≤ count) :
    (text.take count ++ List.replicate zeros 0).takeWhile p = text.takeWhile p := by
  induction text generalizing count with
  | nil =>
      rw [List.take_nil, List.nil_append]
      cases zeros with
      | zero => rfl
      | succ zeros => exact List.takeWhile_cons_of_neg notNul
  | cons byte text induction =>
      by_cases isKind : p byte = true
      · rw [List.takeWhile_cons_of_pos isKind, List.length_cons] at inside
        obtain ⟨count, rfl⟩ := Nat.exists_eq_add_of_lt inside
        rw [List.takeWhile_cons_of_pos isKind, List.take_succ_cons, List.cons_append,
          List.takeWhile_cons_of_pos isKind, induction _ (Nat.le_add_right _ _)]
      · rw [List.takeWhile_cons_of_neg isKind]
        cases count with
        | succ count => exact List.takeWhile_cons_of_neg isKind
        | zero =>
            cases zeros with
            | zero => rfl
            | succ zeros => exact List.takeWhile_cons_of_neg notNul

/-- The number of the field is read if it ends before the name begins. -/
theorem idInfo_eq (noNul : 0 ∉ tag) (isTag : find idTag event = some tag)
    (isField : isId tag = true)
    (inside : start.length + 4 + ((tag.drop 3).takeWhile isDigit).length ≤ tag.length)
    (small : number 10 (tag.drop 3) ≤ 2147483647)
    (isAfter : idInfo event info (some start) = some after) :
    after = { info with id := number 10 (tag.drop 3) } := by
  have fits := (idInfo_isSome_iff noNul isTag).mp (Option.isSome_of_eq_some isAfter)
  rw [idInfo, isTag] at isAfter
  dsimp only at isAfter
  rw [Option.bind_eq_bind, Option.bind_some, strncpy_id noNul fits.1 fits.2.1,
    Option.bind_some] at isAfter
  obtain ⟨id, isId, isAfter⟩ := Option.bind_eq_some_iff.mp isAfter
  cases isAfter
  have isCut := takeWhile_cut (p := isDigit) (by decide) (tag.drop 3)
    (tag.length - start.length - 4) (bufSize - (tag.length - start.length - 4)) (by omega)
  generalize bufSize - (tag.length - start.length - 4) = zeros at isId isCut
  obtain ⟨byte, rest, isDrop, isFirst⟩ : ∃ byte rest, tag.drop 3 = byte :: rest ∧
      isDigit byte = true := by
    rw [Wifi.isId, Bool.and_eq_true] at isField
    cases isDrop : tag.drop 3 with
    | nil =>
        rw [isDrop] at isField
        cases isField.2
    | cons byte rest =>
        rw [isDrop] at isField
        exact ⟨byte, rest, rfl, isField.2⟩
  have first : 0 < tag.length - start.length - 4 := by
    rw [isDrop, List.takeWhile_cons_of_pos isFirst, List.length_cons] at inside
    omega
  obtain ⟨count, isCount⟩ := Nat.exists_eq_add_of_lt first
  rw [Nat.zero_add] at isCount
  rw [isCount, isDrop, List.take_succ_cons, List.cons_append] at isId isCut
  rw [isDrop] at small ⊢
  have isNumber : number 10 (byte :: (rest.take count ++ List.replicate zeros 0)) =
      number 10 (byte :: rest) := by
    rw [number_eq, isCut, ← number_eq]
  rw [atoiArray] at isId
  split at isId
  next => cases isId
  next =>
    cases isId
    rw [atoi_digit isFirst (isNumber ▸ small), isNumber]

theorem bssidInfo_isSome_iff (isSized : info.bssid.length = bssidBufLen) :
    (bssidInfo connectBssid info).isSome ↔ (cString connectBssid).length < bssidBufLen := by
  rw [bssidInfo, strcpy_eq, isSized]
  split
  next short => exact iff_of_true rfl short
  next long => exact iff_of_false Bool.false_ne_true long

theorem bssidInfo_eq (isAfter : bssidInfo connectBssid info = some after) :
    after.ssid = info.ssid ∧ after.id = info.id := by
  obtain ⟨bssid, _, isAfter⟩ := Option.bind_eq_some_iff.mp isAfter
  cases isAfter
  exact ⟨rfl, rfl⟩

theorem idInfo_other {start : Option (List Byte)} (isAfter : idInfo event info start = some after) :
    after.ssid = info.ssid ∧ after.bssid = info.bssid := by
  rw [idInfo] at isAfter
  split at isAfter
  next =>
    cases isAfter
    exact ⟨rfl, rfl⟩
  next =>
    obtain ⟨start, _, isAfter⟩ := Option.bind_eq_some_iff.mp isAfter
    obtain ⟨buf, _, isAfter⟩ := Option.bind_eq_some_iff.mp isAfter
    obtain ⟨id, _, isAfter⟩ := Option.bind_eq_some_iff.mp isAfter
    cases isAfter
    exact ⟨rfl, rfl⟩

theorem disconnectedInfo_isSome (isSized : info.bssid.length = bssidBufLen) :
    (disconnectedInfo event info).isSome := by
  have isReason (tag : List Byte) (reasons : Int → Info) :
      ((strncpy (List.replicate bufSize 0) (tag.drop 7) 2).bind fun buf =>
        (atoiArray buf).map reasons).isSome := by
    have copies : (strncpy (List.replicate bufSize 0) (tag.drop 7) 2).isSome :=
      strncpy_isSome_iff.mpr ⟨by decide, by decide⟩
    obtain ⟨buf, isCopy⟩ := Option.isSome_iff_exists.mp copies
    have isNul : 0 ∈ buf := mem_strncpy (by decide) isCopy
    rw [isCopy, Option.bind_some, Option.isSome_map]
    exact atoiArray_isSome_iff.mpr ⟨0, mem_unsigned isNul, by decide⟩
  rw [disconnectedInfo]
  cases find bssidTag event with
  | none =>
      cases find reasonTag event with
      | none => rfl
      | some reason => exact isReason reason _
  | some tag =>
      have copies : (strncpy info.bssid (tag.drop 6) 17).isSome :=
        strncpy_isSome_iff.mpr ⟨by decide, by rw [isSized]; decide⟩
      obtain ⟨bssid, isCopy⟩ := Option.isSome_iff_exists.mp copies
      dsimp only
      rw [isCopy]
      cases find reasonTag event with
      | none => rfl
      | some reason => exact isReason reason _

theorem disconnectedInfo_other (isAfter : disconnectedInfo event info = some after) :
    after.ssid = info.ssid ∧ after.id = info.id := by
  obtain ⟨bssid, _, isAfter⟩ := Option.bind_eq_some_iff.mp isAfter
  split at isAfter
  next =>
    obtain ⟨buf, _, isAfter⟩ := Option.bind_eq_some_iff.mp isAfter
    obtain ⟨reason, _, rfl⟩ := Option.map_eq_some_iff.mp isAfter
    exact ⟨rfl, rfl⟩
  next =>
    cases isAfter
    exact ⟨rfl, rfl⟩

end Steps

section Events

variable {head : EncodeGbk} {connectBssid : List Byte} {event : Event} {info after : Info}
  {tag found : List Byte}

theorem find_suffix (isFound : find tag event.text = some found) :
    0 ∉ found ∧ tag <+: found := by
  obtain ⟨isSuffix, isPrefix⟩ := Libc.strstr_eq_some isFound
  exact ⟨fun member => event.noNul (isSuffix.mem member), isPrefix⟩

theorem firstField_suffix {isField : List Byte → Bool} {word quoted : Bool} {text : List Byte}
    (isFirst : firstField isField word quoted text = some found) :
    found <:+ text ∧ isField found = true := by
  induction word, quoted, text using firstField.induct isField with
  | case1 word quoted => cases isFirst
  | case2 word => cases isFirst
  | case3 word next rest induction =>
      obtain ⟨isSuffix, isTag⟩ := induction isFirst
      exact ⟨(isSuffix.trans (List.suffix_cons _ _)).trans (List.suffix_cons _ _), isTag⟩
  | case4 word byte rest other induction =>
      rw [firstField.eq_def] at isFirst
      dsimp only at isFirst
      rw [if_pos rfl, if_neg other] at isFirst
      obtain ⟨isSuffix, isTag⟩ := induction isFirst
      exact ⟨isSuffix.trans (List.suffix_cons _ _), isTag⟩
  | case5 word quoted byte rest outside here =>
      rw [firstField.eq_def] at isFirst
      dsimp only at isFirst
      rw [if_neg outside, if_pos here] at isFirst
      cases isFirst
      exact ⟨List.suffix_refl _, here.2⟩
  | case6 word quoted byte rest outside other induction =>
      rw [firstField.eq_def] at isFirst
      dsimp only at isFirst
      rw [if_neg outside, if_neg other] at isFirst
      obtain ⟨isSuffix, isTag⟩ := induction isFirst
      exact ⟨isSuffix.trans (List.suffix_cons _ _), isTag⟩

theorem idInfo_none_isSome_iff {text : List Byte} :
    (idInfo text info none).isSome ↔ find idTag text = none := by
  rw [idInfo]
  cases find idTag text with
  | none => exact iff_of_true rfl rfl
  | some tag => exact iff_of_false Bool.false_ne_true (Option.some_ne_none tag)

theorem idInfo_some_isSome_iff {start : List Byte} :
    (idInfo event.text info (some start)).isSome ↔
      ∀ tag ∈ find idTag event.text, IdFits start tag := by
  cases isTag : find idTag event.text with
  | none =>
      rw [idInfo, isTag]
      exact iff_of_true rfl nofun
  | some tag =>
      rw [idInfo_isSome_iff (find_suffix isTag).1 isTag]
      exact ⟨fun fits other same => Option.some_inj.mp same ▸ fits, fun fits => fits tag rfl⟩

theorem bind_isSome_iff (first : Option Info) (next : Info → Option Info) {holds : Prop}
    (isNext : ∀ info, first = some info → ((next info).isSome ↔ holds)) :
    (first.bind next).isSome ↔ first.isSome ∧ holds := by
  cases isFirst : first with
  | none => exact iff_of_false Bool.false_ne_true fun both => Bool.false_ne_true both.1
  | some info =>
      rw [Option.bind_some, isNext info isFirst]
      exact (and_iff_right rfl).symm

theorem ssidInfo_isSome_iff {start stop : List Byte}
    (isStart : find ssidTag event.text = some start) (isSized : info.Sized) :
    (ssidInfo head info start stop).isSome ↔ SsidFits head start stop := by
  have noNul := (find_suffix isStart).1
  refine ⟨ssidFits_of_isSome noNul isSized.2, fun fits => ?_⟩
  obtain ⟨ssid, isInfo, _⟩ := ssidInfo_eq noNul isSized.2 fits
  exact Option.isSome_of_eq_some isInfo

theorem ssidInfo_other {start stop : List Byte}
    (isAfter : ssidInfo head info start stop = some after) :
    after.id = info.id ∧ after.bssid = info.bssid := by
  obtain ⟨value, _, isAfter⟩ := Option.bind_eq_some_iff.mp isAfter
  obtain ⟨sname, _, isAfter⟩ := Option.bind_eq_some_iff.mp isAfter
  obtain ⟨ssid, _, isAfter⟩ := Option.bind_eq_some_iff.mp isAfter
  cases isAfter
  exact ⟨rfl, rfl⟩

theorem wrongKeyInfo_isSome_iff (isSized : info.Sized) :
    (wrongKeyInfo head connectBssid event.text info).isSome ↔ TagsFit head connectBssid event := by
  rw [wrongKeyInfo]
  cases isStart : find ssidTag event.text with
  | none =>
      have steps := bind_isSome_iff (idInfo event.text info none)
        (bssidInfo connectBssid) fun before isBefore =>
          bssidInfo_isSome_iff ((idInfo_other isBefore).2 ▸ isSized.1)
      rw [idInfo_none_isSome_iff] at steps
      refine steps.trans ⟨fun ⟨noId, short⟩ => ?_, fun fit => ?_⟩
      · refine ⟨fun _ => noId, fun start isIn => ?_, fun start isIn => ?_, fun _ => short⟩
        · cases isStart.symm.trans isIn
        · cases isStart.symm.trans isIn
      · exact ⟨fit.noSsid isStart, fit.bssid (.inl isStart)⟩
  | some start =>
      have notNone : find ssidTag event.text ≠ none := by
        rw [isStart]
        exact Option.some_ne_none start
      cases isStop : find endTag event.text with
      | none =>
          have noStop : ¬ (find endTag event.text).isSome := by
            rw [isStop]
            exact Bool.false_ne_true
          refine iff_of_true rfl ⟨fun isNone => absurd isNone notNone, fun _ _ stop isIn => ?_,
            fun _ _ _ _ isSome => absurd isSome noStop, fun either =>
              absurd either (not_or.mpr ⟨notNone, noStop⟩)⟩
          cases isStop.symm.trans isIn
      | some stop =>
          have isSome : (find endTag event.text).isSome := Option.isSome_of_eq_some isStop
          have steps := bind_isSome_iff (ssidInfo head info start stop)
            (fun info => (idInfo event.text info (some start)).bind
              (bssidInfo connectBssid)) fun before isBefore =>
                (bind_isSome_iff _ _ fun last isLast => bssidInfo_isSome_iff
                  (((idInfo_other isLast).2.trans (ssidInfo_other isBefore).2) ▸
                    isSized.1)).trans (and_congr_left fun _ => idInfo_some_isSome_iff)
          rw [ssidInfo_isSome_iff isStart isSized] at steps
          refine steps.trans ⟨fun ⟨isSsid, isId, short⟩ => ?_, fun fit => ?_⟩
          · refine ⟨fun isNone => absurd isNone notNone, fun start' isIn stop' isIn' => ?_,
              fun start' isIn tag isTag _ => ?_, fun _ => short⟩
            · cases isStart.symm.trans isIn
              cases isStop.symm.trans isIn'
              exact isSsid
            · cases isStart.symm.trans isIn
              exact isId tag isTag
          · exact ⟨fit.ssid start isStart stop isStop,
              fun tag isTag => fit.id start isStart tag isTag isSome, fit.bssid (.inr isSome)⟩

theorem inside_iff : Inside head connectBssid event ↔
    (event.dispatched = .wrongKey → TagsFit head connectBssid event) := by
  constructor
  · intro inside isWrongKey
    have empty : Info.Sized ⟨0, List.replicate bssidBufLen 0, List.replicate ssidBufLen 0, 0⟩ :=
      ⟨List.length_replicate, List.length_replicate⟩
    have isSome := inside _ empty
    rw [getWifiInfoByEvent, show Monitor.dispatchEvent (eventText event.text) = .wrongKey from
      isWrongKey] at isSome
    exact (wrongKeyInfo_isSome_iff empty).mp isSome
  · intro fit info isSized
    rw [getWifiInfoByEvent]
    split
    next => exact disconnectedInfo_isSome isSized.1
    next isWrongKey => exact (wrongKeyInfo_isSome_iff isSized).mpr (fit isWrongKey)
    next => rfl

/-- Without a tag that is used, or without the end of the name, nothing is set. -/
theorem wrongKeyInfo_other
    (noTag : find ssidTag event.text = none ∨ find endTag event.text = none)
    (isAfter : wrongKeyInfo head connectBssid event.text info = some after) :
    after.ssid = info.ssid ∧ after.id = info.id := by
  rw [wrongKeyInfo] at isAfter
  split at isAfter
  next =>
    obtain ⟨before, isBefore, isAfter⟩ := Option.bind_eq_some_iff.mp isAfter
    have noId := idInfo_none_isSome_iff.mp (Option.isSome_of_eq_some isBefore)
    rw [idInfo, noId] at isBefore
    cases isBefore
    exact bssidInfo_eq isAfter
  next start isStart =>
    have noStop : find endTag event.text = none := noTag.resolve_left fun isNone => by
      cases isStart.symm.trans isNone
    rw [noStop] at isAfter
    cases isAfter
    exact ⟨rfl, rfl⟩

theorem getWifiInfo_other
    (noTag : event.dispatched = .wrongKey → find ssidTag event.text = none ∨
      find endTag event.text = none)
    (isAfter : getWifiInfoByEvent head connectBssid event.text info = some after) :
    after.ssid = info.ssid ∧ after.id = info.id := by
  rw [getWifiInfoByEvent] at isAfter
  split at isAfter
  next => exact disconnectedInfo_other isAfter
  next isWrongKey => exact wrongKeyInfo_other (noTag isWrongKey) isAfter
  next =>
    cases isAfter
    exact ⟨rfl, rfl⟩

theorem wrongKeyInfo_fields {start stop : List Byte} (isSized : info.Sized)
    (isStart : find ssidTag event.text = some start) (isStop : find endTag event.text = some stop)
    (isTag : find idTag event.text = some tag) (isField : isId tag = true)
    (inside : start.length + 4 + ((tag.drop 3).takeWhile isDigit).length ≤ tag.length)
    (small : number 10 (tag.drop 3) ≤ 2147483647)
    (isAfter : wrongKeyInfo head connectBssid event.text info = some after) :
    cString after.ssid = nameOf head (between start stop) ∧
      after.id = number 10 (tag.drop 3) := by
  rw [wrongKeyInfo, isStart] at isAfter
  dsimp only at isAfter
  rw [isStop] at isAfter
  obtain ⟨before, isBefore, isAfter⟩ := Option.bind_eq_some_iff.mp isAfter
  obtain ⟨last, isLast, isAfter⟩ := Option.bind_eq_some_iff.mp isAfter
  obtain ⟨sameSsid, sameId⟩ := bssidInfo_eq isAfter
  have fits := (ssidInfo_isSome_iff isStart isSized).mp (Option.isSome_of_eq_some isBefore)
  obtain ⟨ssid, isSsid, isName⟩ := ssidInfo_eq (find_suffix isStart).1 isSized.2 fits
  rw [isSsid] at isBefore
  cases isBefore
  have isNumber := idInfo_eq (find_suffix isTag).1 isTag isField inside small isLast
  rw [sameSsid, sameId, isNumber]
  exact ⟨isName, rfl⟩

theorem setsFields_of_found (isFound : FieldsFound event) :
    SetsFields head connectBssid event := by
  intro dispatched info after isSized isAfter
  obtain ⟨isWrongKey, start, isStart, stop, isStop, tag, isTag, isSsid, isNumber, isText, inside,
    small⟩ | ⟨noSsid, noId, noTag⟩ | ⟨notDisconnected, notWrongKey⟩ := isFound
  · rw [getWifiInfoByEvent, show Monitor.dispatchEvent (eventText event.text) = .wrongKey from
      isWrongKey] at isAfter
    have fields := wrongKeyInfo_fields isSized isStart isStop isTag
      (firstField_suffix isNumber).2 inside small isAfter
    refine ⟨fun field isField => ?_, fun isNone => ?_, fun field isField => ?_, fun isNone => ?_⟩
    · cases isSsid.symm.trans isField
      rw [isText]
      exact fields.1
    · cases isSsid.symm.trans isNone
    · cases isNumber.symm.trans isField
      exact fields.2
    · cases isNumber.symm.trans isNone
  · obtain ⟨sameSsid, sameId⟩ := getWifiInfo_other noTag isAfter
    refine ⟨fun field isField => ?_, fun _ => sameSsid, fun field isField => ?_, fun _ => sameId⟩
    · cases noSsid.symm.trans isField
    · cases noId.symm.trans isField
  · exact (dispatched.elim notDisconnected notWrongKey).elim

end Events

/-- An event is parsed inside the arrays exactly if it is not about a wrong key or its tags fit,
and when the tags are those of its fields, the fields are what is set. -/
theorem event_inside_iff (head : EncodeGbk) (connectBssid : List Byte) (event : Event) :
    (Inside head connectBssid event ↔
      (event.dispatched = .wrongKey → TagsFit head connectBssid event)) ∧
      (FieldsFound event → SetsFields head connectBssid event) :=
  ⟨inside_iff, setsFields_of_found⟩

/-- What follows the number in the event about the network `home`. -/
def homeStart : List Byte :=
  bytes "ssid=\"home\" auth_failures=1 duration=10 reason=WRONG_KEY"

set_option maxRecDepth 20000 in
def homeEvent : Event where
  text := bytes "CTRL-EVENT-SSID-TEMP-DISABLED id=7 " ++ homeStart
  noNul := by decide
  short := by decide

set_option maxRecDepth 20000 in
theorem homeEvent_tags : homeEvent.dispatched = .wrongKey ∧
    find ssidTag homeEvent.text = some homeStart ∧
      find endTag homeEvent.text = some (homeStart.drop 10) ∧
        find idTag homeEvent.text = some (bytes "id=7 " ++ homeStart) ∧
          ssidField homeEvent.text = some homeStart ∧
            idField homeEvent.text = some (bytes "id=7 " ++ homeStart) := by
  decide +kernel

theorem event_inside_iff_home : Inside [] [] homeEvent ∧ SetsFields [] [] homeEvent := by
  obtain ⟨isWrongKey, isStart, isStop, isTag, isSsid, isNumber⟩ := homeEvent_tags
  have isName : between homeStart (homeStart.drop 10) = bytes "home" := by decide
  have whole : Whole (bytes "home") :=
    .plain (by decide) (.plain (by decide) (.plain (by decide) (.plain (by decide) .nil)))
  have ssidFits : SsidFits [] homeStart (homeStart.drop 10) := by
    rw [SsidFits, isName]
    exact ⟨by decide, ⟨by decide, .inl whole, by decide⟩, by decide⟩
  have parsed := event_inside_iff [] [] homeEvent
  refine ⟨parsed.1.mpr fun _ => ?_, parsed.2 (.inl ⟨isWrongKey, homeStart, isStart,
    homeStart.drop 10, isStop, bytes "id=7 " ++ homeStart, isTag, isSsid, isNumber, ?_, ?_, ?_⟩)⟩
  · refine ⟨fun isNone => ?_, fun start isIn stop isIn' => ?_, fun start isIn tag isIn' _ => ?_,
      fun _ => by decide⟩
    · cases isStart.symm.trans isNone
    · cases isStart.symm.trans isIn
      cases isStop.symm.trans isIn'
      exact ssidFits
    · cases isStart.symm.trans isIn
      cases isTag.symm.trans isIn'
      exact ⟨by decide, by decide, by decide⟩
  · decide +kernel
  · decide
  · decide

set_option maxRecDepth 20000 in
/-- The event about a wrong key for a network whose name is 32 bytes that are not printed. -/
def longName : Event where
  text := bytes "CTRL-EVENT-SSID-TEMP-DISABLED id=0 ssid=\"" ++
    (List.replicate 32 (bytes "\\xff")).flatten ++
      bytes "\" auth_failures=1 duration=10 reason=WRONG_KEY"
  noNul := by decide
  short := by decide

set_option maxRecDepth 20000 in
theorem longName_tags : longName.dispatched = .wrongKey ∧
    (find ssidTag longName.text).map List.length = some 180 ∧
      (find endTag longName.text).map List.length = some 46 := by
  decide

/-- Its escapes fill the array. -/
theorem long_name_leaves_value :
    ¬ ∀ (head : EncodeGbk) (connectBssid : List Byte) (event : Event),
      Inside head connectBssid event ∧ SetsFields head connectBssid event := by
  intro general
  obtain ⟨isWrongKey, isStart, isStop⟩ := longName_tags
  have fit := inside_iff.mp (general [] [] longName).1 isWrongKey
  obtain ⟨start, foundStart, startLength⟩ := Option.map_eq_some_iff.mp isStart
  obtain ⟨stop, foundStop, stopLength⟩ := Option.map_eq_some_iff.mp isStop
  obtain ⟨_, decodes, _⟩ := fit.ssid start foundStart stop foundStop
  have full := decodes.1
  rw [length_between, startLength, stopLength] at full
  exact absurd full (by decide)

end Rkipc.Wifi
