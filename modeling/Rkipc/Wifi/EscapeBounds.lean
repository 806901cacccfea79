import Rkipc.Libc.Search
import Rkipc.Wifi.ScanResults

namespace Rkipc.Wifi

/-! The bytes that the two decoders of escapes read and write. -/

inductive DecoderArray
  | buf
  | dst
  | bufTemp
deriving DecidableEq

/-- An array with the place in it. -/
abbrev Access := DecoderArray × Nat

namespace Access

/-- `memset(buf_temp, 0, sizeof(buf_temp))` -/
def memset (size : Nat) : List Access := (List.range size).map fun i => (.bufTemp, i)

/-- `strcpy(buf_temp, buf)`: each byte is read and written, the terminator too. -/
def strcpy (place : Nat) (string : List Byte) : List Access :=
  (List.range (string.length + 1)).flatMap fun i => [(.buf, place + i), (.bufTemp, i)]

/-- From a place of the string on, with `i` bytes in `dst`. -/
def removeEscapeCharacter (place i : Nat) : List Byte → List Access
  | [] => [(.buf, place)]
  | byte :: memory =>
      (.buf, place) ::
        if byte = 0 then [(.dst, i)]
        else if byte = backslash then
          match memory with
          | [] => [(.buf, place + 1)]
          | next :: rest =>
              (.buf, place + 1) :: (.dst, i) ::
                if next = backslash ∨ next = quote then
                  removeEscapeCharacter (place + 2) (i + 1) rest
                else removeEscapeCharacter (place + 1) (i + 1) (next :: rest)
        else (.dst, i) :: removeEscapeCharacter (place + 1) (i + 1) memory

/-- From a place of the string on, with `i` bytes in `dst`. -/
def specCharConvers (place i : Nat) : List Byte → List Access
  | [] => [(.buf, place)]
  | byte :: memory =>
      (.buf, place) ::
        if byte = 0 then [(.dst, i)]
        else if byte = backslash then
          (.buf, place + 1) ::
            if memory.head? = some 0x78 then
              strcpy place (cString (byte :: memory)) ++ (.bufTemp, 0) :: (.bufTemp, 4) ::
                (.dst, i) ::
                  match memory with
                  | _ :: _ :: _ :: rest => specCharConvers (place + 4) (i + 1) rest
                  | _ => [(.buf, place + 4)]
            else (.dst, i) :: specCharConvers (place + 1) (i + 1) memory
        else (.dst, i) :: specCharConvers (place + 1) (i + 1) memory

end Access

/-- Every access is to a byte of the string, its terminator among them, or to one of as many
bytes of `dst` and of `buf_temp`. -/
def Stays (length : Nat) (accesses : List Access) : Prop :=
  ∀ access ∈ accesses, access.2 ≤ length

/-- No escape that is met has fewer than two characters behind its `x`. -/
inductive Whole : List Byte → Prop
  | nil : Whole []
  | escape (high low : Byte) {rest : List Byte} :
      Whole rest → Whole (backslash :: 0x78 :: high :: low :: rest)
  | plain {byte : Byte} {rest : List Byte} :
      ¬ (byte = backslash ∧ rest.head? = some 0x78) → Whole rest → Whole (byte :: rest)

/-- The bytes of a whole string behind `spec_char_convers`. -/
def converted : List Byte → List Byte
  | [] => []
  | byte :: rest =>
      if byte = backslash ∧ rest.head? = some 0x78 then
        match rest with
        | _ :: high :: low :: rest =>
            BitVec.ofNat 8 (number 16 (cString [high, low])) :: converted rest
        | _ => []
      else byte :: converted rest

section Bounds

variable {byte : Byte} {text behind : List Byte} {place i length : Nat} {access : Access}
  {accesses rest : List Access}

theorem cString_terminated (noNul : 0 ∉ text) (behind : List Byte) :
    cString (text ++ 0 :: behind) = text := by
  have whole : cString (text ++ 0 :: behind) = text ++ cString (0 :: behind) :=
    Libc.cString_append noNul
  rw [whole]
  exact List.append_nil text

theorem head_terminated : (text ++ 0 :: behind).head? = some 0x78 ↔
    text.head? = some 0x78 := by
  cases text with
  | nil => exact iff_of_false (by simp) (by simp)
  | cons byte rest => rfl

theorem stays_cons : Stays length (access :: accesses) ↔
    access.2 ≤ length ∧ Stays length accesses :=
  List.forall_mem_cons

theorem stays_append : Stays length (accesses ++ rest) ↔
    Stays length accesses ∧ Stays length rest :=
  List.forall_mem_append

theorem stays_strcpy {string : List Byte} (inside : place + string.length ≤ length) :
    Stays length (Access.strcpy place string) := by
  intro access member
  obtain ⟨index, isIndex, isAccess⟩ := List.mem_flatMap.mp member
  have below := List.mem_range.mp isIndex
  simp only [List.mem_cons, List.not_mem_nil, or_false] at isAccess
  obtain rfl | rfl := isAccess
  · exact Nat.le_trans (Nat.add_le_add_left (Nat.lt_succ_iff.mp below) place) inside
  · exact Nat.le_trans (Nat.lt_succ_iff.mp below) (Nat.le_trans (Nat.le_add_left _ _) inside)

theorem removeAccesses_cons (byte : Byte) (memory : List Byte) :
    Access.removeEscapeCharacter place i (byte :: memory) =
      (.buf, place) ::
        if byte = 0 then [(.dst, i)]
        else if byte = backslash then
          match memory with
          | [] => [(.buf, place + 1)]
          | next :: rest =>
              (.buf, place + 1) :: (.dst, i) ::
                if next = backslash ∨ next = quote then
                  Access.removeEscapeCharacter (place + 2) (i + 1) rest
                else Access.removeEscapeCharacter (place + 1) (i + 1) (next :: rest)
        else (.dst, i) :: Access.removeEscapeCharacter (place + 1) (i + 1) memory :=
  Access.removeEscapeCharacter.eq_def place i (byte :: memory)

theorem removeAccesses_nul (memory : List Byte) :
    Access.removeEscapeCharacter place i (0 :: memory) = [(.buf, place), (.dst, i)] := by
  rw [removeAccesses_cons]
  exact congrArg _ (if_pos rfl)

theorem removeAccesses_plain (notNul : byte ≠ 0) (other : byte ≠ backslash)
    (memory : List Byte) :
    Access.removeEscapeCharacter place i (byte :: memory) =
      (.buf, place) :: (.dst, i) ::
        Access.removeEscapeCharacter (place + 1) (i + 1) memory := by
  rw [removeAccesses_cons]
  exact congrArg _ ((if_neg notNul).trans (if_neg other))

theorem removeAccesses_backslash (next : Byte) (memory : List Byte) :
    Access.removeEscapeCharacter place i (backslash :: next :: memory) =
      (.buf, place) :: (.buf, place + 1) :: (.dst, i) ::
        if next = backslash ∨ next = quote then
          Access.removeEscapeCharacter (place + 2) (i + 1) memory
        else Access.removeEscapeCharacter (place + 1) (i + 1) (next :: memory) := by
  rw [removeAccesses_cons]
  exact congrArg _ ((if_neg (by decide)).trans (if_pos rfl))

/-- The other decoder never leaves the string. -/
theorem stays_removeAccesses (behind : List Byte) (noNul : 0 ∉ text) (early : i ≤ place) :
    Stays (place + text.length)
      (Access.removeEscapeCharacter place i (text ++ 0 :: behind)) := by
  induction text using removeEscapeCharacter.induct generalizing place i with
  | case1 =>
      rw [List.nil_append, removeAccesses_nul]
      exact stays_cons.mpr ⟨Nat.le_refl _, stays_cons.mpr ⟨early, List.forall_mem_nil _⟩⟩
  | case2 byte =>
      have notNul : byte ≠ 0 := fun isNul => noNul (isNul ▸ List.mem_cons_self)
      have early' : i ≤ place + 1 := Nat.le_succ_of_le early
      have ends : Stays (place + 1) (Access.removeEscapeCharacter (place + 1) (i + 1)
          (0 :: behind)) := by
        rw [removeAccesses_nul]
        exact stays_cons.mpr ⟨Nat.le_refl _,
          stays_cons.mpr ⟨Nat.succ_le_succ early, List.forall_mem_nil _⟩⟩
      change Stays (place + 1) (Access.removeEscapeCharacter place i (byte :: 0 :: behind))
      by_cases other : byte = backslash
      · rw [other, removeAccesses_backslash, if_neg (by decide)]
        exact stays_cons.mpr ⟨Nat.le_succ _, stays_cons.mpr ⟨Nat.le_refl _,
          stays_cons.mpr ⟨early', ends⟩⟩⟩
      · rw [removeAccesses_plain notNul other]
        exact stays_cons.mpr ⟨Nat.le_succ _, stays_cons.mpr ⟨early', ends⟩⟩
  | case3 byte next rest pair induction =>
      obtain ⟨_, noNul⟩ := not_or.mp (mt List.mem_cons.mpr noNul)
      obtain ⟨_, noNul⟩ := not_or.mp (mt List.mem_cons.mpr noNul)
      have inside : place + (rest.length + 1 + 1) = place + 2 + rest.length := by omega
      rw [pair.1, List.length_cons, List.length_cons, inside, List.cons_append,
        List.cons_append, removeAccesses_backslash, if_pos pair.2]
      exact stays_cons.mpr ⟨by omega, stays_cons.mpr ⟨by omega, stays_cons.mpr ⟨by omega,
        induction noNul (by omega)⟩⟩⟩
  | case4 byte next rest single induction =>
      obtain ⟨isByte, noNul⟩ := not_or.mp (mt List.mem_cons.mpr noNul)
      have inside : place + ((next :: rest).length + 1) =
          place + 1 + (next :: rest).length := by omega
      have below : place + 1 ≤ place + 1 + (next :: rest).length := Nat.le_add_right _ _
      have step := @induction (place + 1) (i + 1) noNul (Nat.succ_le_succ early)
      rw [List.length_cons, inside]
      by_cases other : byte = backslash
      · have notPair : ¬ (next = backslash ∨ next = quote) := fun isPair => single ⟨other, isPair⟩
        rw [other, List.cons_append, List.cons_append, removeAccesses_backslash, if_neg notPair]
        exact stays_cons.mpr ⟨by omega, stays_cons.mpr ⟨below, stays_cons.mpr ⟨by omega, step⟩⟩⟩
      · rw [List.cons_append, removeAccesses_plain (Ne.symm isByte) other]
        exact stays_cons.mpr ⟨by omega, stays_cons.mpr ⟨by omega, step⟩⟩

theorem whole_escape_iff {high low : Byte} :
    Whole (backslash :: 0x78 :: high :: low :: text) ↔ Whole text := by
  constructor
  · intro whole
    cases whole with
    | escape _ _ whole => exact whole
    | plain other => exact absurd ⟨rfl, rfl⟩ other
  · exact .escape high low

theorem whole_plain_iff (other : ¬ (byte = backslash ∧ text.head? = some 0x78)) :
    Whole (byte :: text) ↔ Whole text := by
  constructor
  · intro whole
    cases whole with
    | escape _ _ _ => exact absurd ⟨rfl, rfl⟩ other
    | plain _ whole => exact whole
  · exact .plain other

theorem length_of_cut
    (cut : ∀ mark high low rest, text = mark :: high :: low :: rest → False) :
    text.length < 3 := by
  match text, cut with
  | [], _ => decide
  | [_], _ => exact Nat.lt_add_left 1 (Nat.lt_succ_self 1)
  | [_, _], _ => exact Nat.lt_succ_self 2
  | mark :: high :: low :: rest, cut => exact (cut mark high low rest rfl).elim

theorem not_whole_cut (starts : text.head? = some 0x78) (short : text.length < 3) :
    ¬ Whole (backslash :: text) := by
  intro whole
  cases whole with
  | escape high low whole => exact absurd short (by simp)
  | plain other => exact other ⟨rfl, starts⟩

theorem convertAccesses_cons (byte : Byte) (memory : List Byte) :
    Access.specCharConvers place i (byte :: memory) =
      (.buf, place) ::
        if byte = 0 then [(.dst, i)]
        else if byte = backslash then
          (.buf, place + 1) ::
            if memory.head? = some 0x78 then
              Access.strcpy place (cString (byte :: memory)) ++
                (.bufTemp, 0) :: (.bufTemp, 4) :: (.dst, i) ::
                  match memory with
                  | _ :: _ :: _ :: rest => Access.specCharConvers (place + 4) (i + 1) rest
                  | _ => [(.buf, place + 4)]
            else (.dst, i) :: Access.specCharConvers (place + 1) (i + 1) memory
        else (.dst, i) :: Access.specCharConvers (place + 1) (i + 1) memory :=
  Access.specCharConvers.eq_def place i (byte :: memory)

theorem convertAccesses_nul (memory : List Byte) :
    Access.specCharConvers place i (0 :: memory) = [(.buf, place), (.dst, i)] := by
  rw [convertAccesses_cons]
  exact congrArg _ (if_pos rfl)

theorem convertAccesses_plain (notNul : byte ≠ 0) (other : byte ≠ backslash)
    (memory : List Byte) :
    Access.specCharConvers place i (byte :: memory) =
      (.buf, place) :: (.dst, i) :: Access.specCharConvers (place + 1) (i + 1) memory := by
  rw [convertAccesses_cons]
  exact congrArg _ ((if_neg notNul).trans (if_neg other))

theorem convertAccesses_backslash {memory : List Byte} (other : memory.head? ≠ some 0x78) :
    Access.specCharConvers place i (backslash :: memory) =
      (.buf, place) :: (.buf, place + 1) :: (.dst, i) ::
        Access.specCharConvers (place + 1) (i + 1) memory := by
  rw [convertAccesses_cons]
  refine congrArg _ ((if_neg (by decide)).trans ((if_pos rfl).trans ?_))
  exact congrArg _ (if_neg other)

theorem head_convertAccesses (memory : List Byte) :
    (.buf, place) ∈ Access.specCharConvers place i memory := by
  cases memory with
  | nil => exact List.mem_cons_self
  | cons byte memory =>
      rw [convertAccesses_cons]
      exact List.mem_cons_self

/-- The accesses of one escape; the first one after it is to the byte behind two digits. -/
theorem convertAccesses_escape (place i : Nat) (memory : List Byte) : ∃ accesses,
    Access.specCharConvers place i (backslash :: 0x78 :: memory) =
      (.buf, place) :: (.buf, place + 1) ::
        (Access.strcpy place (cString (backslash :: 0x78 :: memory)) ++
          (.bufTemp, 0) :: (.bufTemp, 4) :: (.dst, i) :: accesses) ∧
      (.buf, place + 4) ∈ accesses ∧
      ∀ high low rest, memory = high :: low :: rest →
        accesses = Access.specCharConvers (place + 4) (i + 1) rest := by
  rw [convertAccesses_cons]
  match memory with
  | [] => exact ⟨_, rfl, List.mem_cons_self, nofun⟩
  | [high] => exact ⟨_, rfl, List.mem_cons_self, nofun⟩
  | high :: low :: rest =>
      refine ⟨_, rfl, head_convertAccesses rest, ?_⟩
      rintro _ _ _ ⟨⟩
      rfl

/-- The accesses stay in the arrays as long as every escape is whole. -/
theorem stays_convertAccesses (behind : List Byte) (noNul : 0 ∉ text) (early : i ≤ place) :
    Stays (place + text.length) (Access.specCharConvers place i (text ++ 0 :: behind)) ↔
      Whole text := by
  induction text using converted.induct generalizing place i with
  | case1 =>
      rw [List.nil_append, convertAccesses_nul]
      exact iff_of_true (stays_cons.mpr ⟨Nat.le_refl _,
        stays_cons.mpr ⟨early, List.forall_mem_nil _⟩⟩) .nil
  | case2 byte mark high low rest starts induction =>
      obtain ⟨rfl, isMark⟩ := starts
      obtain rfl := Option.some_inj.mp isMark
      have clean : 0 ∉ rest := fun member =>
        noNul (List.mem_cons_of_mem _ (List.mem_cons_of_mem _ (List.mem_cons_of_mem _
          (List.mem_cons_of_mem _ member))))
      have inside : place + (backslash :: 0x78 :: high :: low :: rest).length =
          place + 4 + rest.length := by
        simp only [List.length_cons]
        omega
      obtain ⟨accesses, isAll, _, follows⟩ :=
        convertAccesses_escape place i (high :: low :: (rest ++ 0 :: behind))
      have isString : cString (backslash :: 0x78 :: high :: low :: (rest ++ 0 :: behind)) =
          backslash :: 0x78 :: high :: low :: rest := cString_terminated noNul behind
      rw [whole_escape_iff, inside, List.cons_append, List.cons_append, List.cons_append,
        List.cons_append, isAll, follows _ _ _ rfl, isString, stays_cons, stays_cons, stays_append,
        stays_cons, stays_cons, stays_cons, induction clean (by omega)]
      have copied : Stays (place + 4 + rest.length)
          (Access.strcpy place (backslash :: 0x78 :: high :: low :: rest)) :=
        stays_strcpy (Nat.le_of_eq inside)
      exact ⟨fun ⟨_, _, _, _, _, _, whole⟩ => whole, fun whole =>
        ⟨by omega, by omega, copied, by omega, by omega, by omega, whole⟩⟩
  | case3 byte rest starts cut =>
      obtain ⟨rfl, isMark⟩ := starts
      have short := length_of_cut cut
      refine iff_of_false (fun stays => ?_) (not_whole_cut isMark short)
      obtain ⟨tail, rfl⟩ := List.head?_eq_some_iff.mp isMark
      obtain ⟨accesses, isAll, isBehind, _⟩ :=
        convertAccesses_escape place i (tail ++ 0 :: behind)
      rw [List.cons_append, List.cons_append, isAll] at stays
      have bound := stays (.buf, place + 4)
        (List.mem_cons_of_mem _ (List.mem_cons_of_mem _ (List.mem_append_right _
          (List.mem_cons_of_mem _ (List.mem_cons_of_mem _ (List.mem_cons_of_mem _ isBehind))))))
      simp only [List.length_cons] at bound short
      omega
  | case4 byte rest other induction =>
      obtain ⟨isByte, noNul⟩ := not_or.mp (mt List.mem_cons.mpr noNul)
      have inside : place + (byte :: rest).length = place + 1 + rest.length := by
        rw [List.length_cons]
        omega
      have step := @induction (place + 1) (i + 1) noNul (Nat.succ_le_succ early)
      rw [whole_plain_iff other, inside, ← step, List.cons_append]
      by_cases isEscape : byte = backslash
      · subst isEscape
        have notMark : (rest ++ 0 :: behind).head? ≠ some 0x78 := fun starts =>
          other ⟨rfl, head_terminated.mp starts⟩
        rw [convertAccesses_backslash notMark, stays_cons, stays_cons, stays_cons]
        exact ⟨fun ⟨_, _, _, stays⟩ => stays, fun stays =>
          ⟨by omega, by omega, by omega, stays⟩⟩
      · rw [convertAccesses_plain (Ne.symm isByte) isEscape, stays_cons, stays_cons]
        exact ⟨fun ⟨_, _, stays⟩ => stays, fun stays => ⟨by omega, by omega, stays⟩⟩

theorem stays_memset (length : Nat) : Stays length (Access.memset (length + 1)) := by
  intro access member
  obtain ⟨index, isIndex, rfl⟩ := List.mem_map.mp member
  exact Nat.lt_succ_iff.mp (List.mem_range.mp isIndex)

theorem converted_cons (byte : Byte) (rest : List Byte) :
    converted (byte :: rest) =
      if byte = backslash ∧ rest.head? = some 0x78 then
        match rest with
        | _ :: high :: low :: rest =>
            BitVec.ofNat 8 (number 16 (cString [high, low])) :: converted rest
        | _ => []
      else byte :: converted rest :=
  converted.eq_def (byte :: rest)

theorem converted_escape (high low : Byte) (text : List Byte) :
    converted (backslash :: 0x78 :: high :: low :: text) =
      BitVec.ofNat 8 (number 16 (cString [high, low])) :: converted text := by
  rw [converted_cons]
  exact if_pos ⟨rfl, rfl⟩

theorem converted_plain (other : ¬ (byte = backslash ∧ text.head? = some 0x78)) :
    converted (byte :: text) = byte :: converted text := by
  rw [converted_cons]
  exact if_neg other

theorem specCharConvers_cons (byte : Byte) (memory : List Byte) :
    specCharConvers (byte :: memory) =
      if byte = 0 then some []
      else if byte = backslash ∧ memory.head? = some 0x78 then
        match memory with
        | _ :: high :: low :: rest =>
            (specCharConvers rest).map fun dst =>
              BitVec.ofNat 8 (number 16 (cString [high, low])) :: dst
        | _ => none
      else (specCharConvers memory).map fun dst => byte :: dst :=
  specCharConvers.eq_def (byte :: memory)

theorem specCharConvers_nul (memory : List Byte) : specCharConvers (0 :: memory) = some [] := by
  rw [specCharConvers_cons]
  exact if_pos rfl

theorem specCharConvers_escape (high low : Byte) (memory : List Byte) :
    specCharConvers (backslash :: 0x78 :: high :: low :: memory) =
      (specCharConvers memory).map
        (BitVec.ofNat 8 (number 16 (cString [high, low])) :: ·) := by
  rw [specCharConvers_cons]
  exact (if_neg (by decide)).trans (if_pos ⟨rfl, rfl⟩)

theorem specCharConvers_plain {memory : List Byte} (notNul : byte ≠ 0)
    (other : ¬ (byte = backslash ∧ memory.head? = some 0x78)) :
    specCharConvers (byte :: memory) = (specCharConvers memory).map (byte :: ·) := by
  rw [specCharConvers_cons]
  exact (if_neg notNul).trans (if_neg other)

/-- Where the memory ends with the string there is nothing to go on with. -/
theorem specCharConvers_cut (starts : text.head? = some 0x78) (short : text.length < 3) :
    specCharConvers (backslash :: (text ++ [0])) = none := by
  obtain ⟨tail, rfl⟩ := List.head?_eq_some_iff.mp starts
  rw [specCharConvers_cons]
  refine (if_neg (by decide)).trans ((if_pos ⟨rfl, rfl⟩).trans ?_)
  match tail, short with
  | [], _ => rfl
  | [_], _ => rfl

/-- What is behind a whole string has no part in it. -/
theorem specCharConvers_whole (noNul : 0 ∉ text) (whole : Whole text) (behind : List Byte) :
    specCharConvers (text ++ 0 :: behind) = some (converted text) := by
  induction whole with
  | nil => exact specCharConvers_nul behind
  | escape high low whole induction =>
      simp only [List.mem_cons, not_or] at noNul
      rw [List.cons_append, List.cons_append, List.cons_append, List.cons_append,
        specCharConvers_escape, induction noNul.2.2.2.2, converted_escape]
      rfl
  | plain other whole induction =>
      obtain ⟨isByte, noNul⟩ := not_or.mp (mt List.mem_cons.mpr noNul)
      rw [List.cons_append, specCharConvers_plain (Ne.symm isByte), induction noNul,
        converted_plain other]
      · rfl
      · exact fun starts => other ⟨starts.1, head_terminated.mp starts.2⟩

end Bounds

/-- No access of either decoder leaves its array. -/
def EscapesStay (text behind : List Byte) : Prop :=
  Stays text.length (Access.memset (text.length + 1) ++
      Access.removeEscapeCharacter 0 0 (text ++ 0 :: behind)) ∧
    Stays text.length (Access.memset (text.length + 1) ++
      Access.specCharConvers 0 0 (text ++ 0 :: behind))

/-- Both decoders work inside the string and as many bytes of the other arrays as long as
every escape of the string is whole. -/
theorem escapes_stay_iff {text : List Byte} (noNul : 0 ∉ text) (behind : List Byte) :
    EscapesStay text behind ↔ Whole text := by
  have removed := stays_removeAccesses behind noNul (Nat.le_refl 0)
  have converts := stays_convertAccesses behind noNul (Nat.le_refl 0)
  rw [Nat.zero_add] at removed converts
  rw [EscapesStay, stays_append, stays_append, iff_true_intro (stays_memset _),
    iff_true_intro removed, true_and, true_and, true_and]
  exact converts

theorem escapes_stay_iff_accent :
    (0 : Byte) ∉ bytes "\\xc3" ∧ (EscapesStay (bytes "\\xc3") [] ↔ Whole (bytes "\\xc3")) :=
  have noNul : (0 : Byte) ∉ bytes "\\xc3" := by decide
  ⟨noNul, escapes_stay_iff noNul []⟩

/-- The name that is a backslash and an `x`. -/
theorem escape_cut_leaves_string :
    ¬ ∀ text behind : List Byte, 0 ∉ text → EscapesStay text behind := by
  intro general
  have stays := (general [backslash, 0x78] [] (by decide)).2
  have outside : (.bufTemp, 4) ∈ Access.memset 3 ++
      Access.specCharConvers 0 0 [backslash, 0x78, 0] := by decide
  exact absurd (stays _ outside) (by decide)

end Rkipc.Wifi
