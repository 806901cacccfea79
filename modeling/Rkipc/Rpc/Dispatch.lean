import Mathlib.Data.List.Nodup
import Rkipc.Rpc.Connection

namespace Rkipc.Rpc

open Interaction

/-! Which handler a received name selects. -/

def invokeOf : Event Ask Ask.Answer → Option String
  | ⟨.inside (.invoke funName), _⟩ => some funName
  | _ => none

/-- The handlers called through the map, in order. -/
def Trace.invoked (trace : Trace) : List String := trace.filterMap invokeOf

/-- No comparison has looked behind the bytes received. -/
def Trace.Within (trace : Trace) : Prop :=
  ∀ event ∈ trace, event.1 ≠ .inside .beyond

/-- The bytes before the terminator, all of them where there is none. -/
def cString (bytes : List UInt8) : List UInt8 := bytes.takeWhile (· ≠ 0)

section Names

/-- The name as one number, for a comparison of all names. -/
def FunMap.code (entry : FunMap) : Nat :=
  entry.name.foldr (fun byte rest => byte.toNat + 2 ^ 8 * rest) 0

private def distinct : Nat → List Nat → Bool
  | _, [] => true
  | seen, code :: rest =>
      !seen.testBit (code % 4111) &&
        distinct (seen ||| 1 <<< (code % 4111 : Nat)) rest

private theorem nodup_of_distinct {seen : Nat} {codes : List Nat}
    (areDistinct : distinct seen codes = true) :
    codes.Nodup ∧ ∀ code ∈ codes, seen.testBit (code % 4111) = false := by
  induction codes generalizing seen with
  | nil => simp
  | cons code rest induction =>
      simp only [distinct, Bool.and_eq_true, Bool.not_eq_true'] at areDistinct
      obtain ⟨nodup, unseen⟩ := induction areDistinct.2
      refine ⟨.cons (fun member => ?_) nodup, fun other member => ?_⟩
      · simpa [Nat.testBit_or] using unseen code member
      · rcases List.mem_cons.mp member with same | isIn
        · exact same ▸ areDistinct.1
        · have both := unseen other isIn
          rw [Nat.testBit_or, Bool.or_eq_false_iff] at both
          exact both.1

/-- The name of a parameter of the image that no handler reads. -/
def getDehaze : List UInt8 := "rk_isp_get_dehaze_mode\x00".toUTF8.data.toList

private def dehaze : FunMap := ⟨"rk_isp_get_dehaze_mode", logJson⟩

private def namesAreFine : Bool :=
  distinct 0 (dehaze.code :: map.map FunMap.code) &&
    map.all fun entry => !entry.name.contains 0 && entry.name.length.ble 64

private theorem namesAreFine_map : namesAreFine = true := by decide +kernel

private theorem nodup_codes : (dehaze.code :: map.map FunMap.code).Nodup := by
  have fine := namesAreFine_map
  simp only [namesAreFine, Bool.and_eq_true] at fine
  exact (nodup_of_distinct fine.1).1

theorem eq_of_name_eq {left right : FunMap} (leftMember : left ∈ map)
    (rightMember : right ∈ map) (same : left.name = right.name) :
    left = right := by
  have sameCode : left.code = right.code := by
    unfold FunMap.code
    rw [same]
  exact List.inj_on_of_nodup_map (List.nodup_cons.mp nodup_codes).2 leftMember
    rightMember sameCode

theorem nodup_map : map.Nodup :=
  (List.nodup_cons.mp nodup_codes).2.of_map

private theorem name_ne_getDehaze {entry : FunMap} (member : entry ∈ map) :
    entry.name ≠ cString getDehaze := by
  intro same
  have ofDehaze : cString getDehaze = dehaze.name := by decide
  refine (List.nodup_cons.mp nodup_codes).1
    (List.mem_map.mpr ⟨entry, member, ?_⟩)
  unfold FunMap.code
  rw [same, ofDehaze]

private theorem name_fine {entry : FunMap} (member : entry ∈ map) :
    0 ∉ entry.name ∧ entry.name.length ≤ 64 := by
  have fine := namesAreFine_map
  simp only [namesAreFine, Bool.and_eq_true, List.all_eq_true,
    Bool.not_eq_true', List.contains_eq_mem, decide_eq_false_iff_not,
    Nat.ble_eq] at fine
  exact fine.2 entry member

theorem zero_notMem_name {entry : FunMap} (member : entry ∈ map) :
    0 ∉ entry.name :=
  (name_fine member).1

theorem name_length {entry : FunMap} (member : entry ∈ map) :
    entry.name.length ≤ 64 :=
  (name_fine member).2

end Names

section Comparisons

variable {entry : FunMap} {received : List UInt8}

theorem cString_append_zero (member : 0 ∈ received) :
    cString received ++ [0] <+: received := by
  induction received with
  | nil => cases member
  | cons byte bytes induction =>
      by_cases isZero : byte = 0
      · subst isZero
        simp [cString]
      · have rest : 0 ∈ bytes := by
          rcases List.mem_cons.mp member with same | rest
          · exact absurd same.symm isZero
          · exact rest
        simpa [cString, isZero] using induction rest

theorem cString_of_compared (member : entry ∈ map)
    (begins : entry.name ++ [0] <+: received) :
    0 ∈ received ∧ entry.name = cString received := by
  obtain ⟨rest, rfl⟩ := begins
  refine ⟨by simp, ?_⟩
  have noZero : ∀ byte ∈ entry.name, (byte ≠ 0) := fun byte isIn isZero =>
    zero_notMem_name member (isZero ▸ isIn)
  unfold cString
  rw [List.append_assoc, List.takeWhile_append_of_pos (by simpa using noZero)]
  simp

/-- With a terminator among the bytes every comparison is decided, and only the
entry of that name matches. -/
theorem compare_terminated (member : entry ∈ map) (terminated : 0 ∈ received) :
    compare (entry.name ++ [0]) received =
      some (decide (entry.name = cString received)) := by
  cases compared : compare (entry.name ++ [0]) received with
  | none =>
      obtain ⟨⟨rest, whole⟩, shorter⟩ := compare_eq_none.mp compared
      have isLast : rest ≠ [] := by
        rintro rfl
        exact shorter (by simpa using whole)
      have inName : 0 ∈ entry.name := by
        obtain ⟨front, last, rfl⟩ := List.eq_nil_or_concat rest |>.resolve_left
          isLast
        rw [List.concat_eq_append, ← List.append_assoc] at whole
        rw [← (List.append_inj' whole rfl).1]
        exact List.mem_append_left _ terminated
      exact absurd inName (zero_notMem_name member)
  | some equal =>
      cases equal with
      | true =>
          have begins := prefix_of_compare compared
          simp [(cString_of_compared member begins).2]
      | false =>
          have different : entry.name ≠ cString received := by
            intro same
            obtain ⟨rest, whole⟩ := cString_append_zero terminated
            rw [← same] at whole
            rw [← whole, compare_self] at compared
            cases compared
          simp [different]

/-- Without a terminator no comparison finds the name equal by the bytes
alone. -/
theorem compare_ne_true (member : entry ∈ map) (unterminated : 0 ∉ received) :
    compare (entry.name ++ [0]) received ≠ some true := fun equal =>
  unterminated (cString_of_compared member (prefix_of_compare equal)).1

end Comparisons

section Selection

variable {entry : FunMap} {entries : List FunMap} {received : List UInt8}

theorem dispatch_skip
    (skips : ∀ other ∈ entries,
      compare (other.name ++ [0]) received = some false) (ret : Word) :
    dispatch received entries ret = .done ret := by
  induction entries with
  | nil => rfl
  | cons other rest induction =>
      obtain ⟨skip, skips⟩ := List.forall_mem_cons.mp skips
      simp [dispatch, strcmp, skip, induction skips]

theorem dispatch_select {before after : List FunMap}
    (selects : compare (entry.name ++ [0]) received = some true)
    (skips : ∀ other ∈ before ++ after,
      compare (other.name ++ [0]) received = some false) (ret : Word) :
    dispatch received (before ++ entry :: after) ret =
      .ask (.inside (.invoke entry.funName)) fun _ => entry.serve := by
  induction before with
  | nil =>
      have passes : dispatch received after = .done :=
        funext fun ret => dispatch_skip skips ret
      simp [dispatch, strcmp, selects, passes]
  | cons other before induction =>
      obtain ⟨skip, skips⟩ := List.forall_mem_cons.mp skips
      simp [dispatch, strcmp, skip, induction skips]

/-- A terminated name of the map is answered by its handler alone. -/
theorem dispatch_known (member : entry ∈ map) (terminated : 0 ∈ received)
    (same : entry.name = cString received) (ret : Word) :
    dispatch received map ret =
      .ask (.inside (.invoke entry.funName)) fun _ => entry.serve := by
  obtain ⟨before, after, split⟩ := List.append_of_mem member
  have others : ∀ other ∈ before ++ after, other ∈ map ∧ other ≠ entry := by
    have nodup := nodup_map
    rw [split, List.nodup_middle, List.nodup_cons] at nodup
    intro other isIn
    refine ⟨?_, fun isEntry => nodup.1 (isEntry ▸ isIn)⟩
    rw [split]
    rcases List.mem_append.mp isIn with isIn | isIn <;> simp [isIn]
  rw [split]
  refine dispatch_select ?_ (fun other isIn => ?_) ret
  · rw [compare_terminated member terminated]
    simp [same]
  · obtain ⟨otherMember, distinct⟩ := others other isIn
    have different : other.name ≠ cString received := fun sameName =>
      distinct (eq_of_name_eq otherMember member (sameName.trans same.symm))
    simp [compare_terminated otherMember terminated, different]

theorem dispatch_unknown (terminated : 0 ∈ received)
    (unknown : ∀ entry ∈ map, entry.name ≠ cString received) (ret : Word) :
    dispatch received map ret = .done ret :=
  dispatch_skip (fun other member => by
    simp [compare_terminated member terminated, unknown other member]) ret

variable {σ α : Type} {world : (ask : Ask) → σ → Option (ask.Answer × σ)}

theorem beyond_of_undecided
    (answers : ∀ question state, (world (.inside question) state).isSome)
    (unequal : ∀ other ∈ entries,
      compare (other.name ++ [0]) received ≠ some true)
    (undecided : ∃ other ∈ entries,
      compare (other.name ++ [0]) received = none)
    (ret : Word) (next : Word → Server α) (state : σ) :
    ∃ event ∈ (((dispatch received entries ret).bind next).run world
      state).trace, event.1 = .inside .beyond := by
  induction entries with
  | nil => simp at undecided
  | cons other rest induction =>
      obtain ⟨notEqual, unequal⟩ := List.forall_mem_cons.mp unequal
      cases compared : compare (other.name ++ [0]) received with
      | none =>
          obtain ⟨⟨memory, after⟩, answered⟩ :=
            Option.isSome_iff_exists.mp (answers .beyond state)
          refine ⟨⟨.inside .beyond, memory⟩, ?_, rfl⟩
          simp only [dispatch, strcmp, compared, Prog.bind,
            Prog.run_answered _ answered]
          exact .head _
      | some equal =>
          cases equal with
          | true => exact absurd compared notEqual
          | false =>
              simp only [List.exists_mem_cons_iff, compared, reduceCtorEq,
                false_or] at undecided
              simpa [dispatch, strcmp, compared] using
                induction unequal undecided

end Selection

section Handlers

/-- A handler does not call another one, and compares no names. -/
def Plain (ask : Ask) : Prop :=
  ask ≠ .inside .beyond ∧ ∀ funName, ask ≠ .inside (.invoke funName)

theorem Quiet.plain {ask : Ask} (quiet : Quiet ask) : Plain ask := by
  cases quiet <;> exact ⟨nofun, nofun⟩

theorem Built.plain {handler : Handler} (built : Built handler) :
    handler.Asks Plain := by
  induction built with
  | done value => trivial
  | readWordOr value _ induction =>
      refine ⟨⟨nofun, nofun⟩, fun answer => ?_⟩
      cases answer with
      | closed => trivial
      | all bytes => exact induction _
      | failed bytes =>
          exact ⟨⟨nofun, nofun⟩, fun _ =>
            ⟨⟨nofun, nofun⟩, fun _ => induction _⟩⟩
  | readBuffer length _ induction =>
      refine ⟨⟨nofun, nofun⟩, fun mapped => ?_⟩
      split
      · exact induction _
      · refine ⟨⟨nofun, nofun⟩, fun answer => ?_⟩
        cases answer with
        | closed => trivial
        | all bytes => exact induction _
        | failed bytes => exact ⟨⟨nofun, nofun⟩, fun _ => induction _⟩
  | writeOr value bytes _ induction =>
      refine ⟨⟨nofun, nofun⟩, fun answer => ?_⟩
      cases answer with
      | closed => trivial
      | all | failed => exact induction
  | crash next => exact ⟨⟨nofun, nofun⟩, fun answer => nomatch answer⟩
  | call backend arguments _ induction => exact ⟨⟨nofun, nofun⟩, induction⟩
  | debug strings _ induction =>
      exact ⟨⟨nofun, nofun⟩, fun _ => induction⟩

theorem invoked_of_plain {trace : Trace}
    (plain : ∀ event ∈ trace, Plain event.1) : trace.invoked = [] := by
  refine List.filterMap_eq_nil_iff.mpr fun event member => ?_
  have notInvoke := (plain event member).2
  unfold invokeOf
  split
  next funName _ => exact absurd rfl (notInvoke funName)
  next => rfl

end Handlers

/-- What the pass of a request does with the bytes received as its name: it calls
the one handler of that name, or none and ends the connection, and it looks at no
other bytes. -/
structure Dispatches (received : List UInt8) {σ : Type}
    (outcome : Outcome Ask Ask.Answer σ (Word × Word)) : Prop where
  within : Trace.Within outcome.trace
  invokes : ∀ entry ∈ map, entry.name = cString received →
    Trace.invoked outcome.trace = [entry.funName]
  refuses : (∀ entry ∈ map, entry.name ≠ cString received) →
    Trace.invoked outcome.trace = [] ∧
      ∃ ret len, outcome.value = some (ret, len) ∧ ret ≠ 0

def lengthOf (received : List UInt8) : Word := BitVec.ofNat 32 received.length

theorem lengthOf_toInt {received : List UInt8}
    (short : received.length < 2 ^ 31) :
    (lengthOf received).toInt = received.length := by
  rw [lengthOf, BitVec.toInt_eq_toNat_cond, BitVec.toNat_ofNat]
  omega

theorem lengthOf_toNat {received : List UInt8}
    (short : received.length < 2 ^ 31) :
    (lengthOf received).toNat = received.length := by
  rw [lengthOf, BitVec.toNat_ofNat]
  omega

section Pass

variable {σ : Type}

/-- The thread gets the length of this name, and its bytes if there is memory for
them: a read into a buffer at NULL fails. -/
structure Offers (world : (ask : Ask) → σ → Option (ask.Answer × σ))
    (received : List UInt8) (mapped : Bool) (start sized allocated named : σ) :
    Prop where
  nonempty : received ≠ []
  short : received.length < 2 ^ 31
  length : world (.recv 4 true) start =
    some (.all (Word.bytes (lengthOf received)), sized)
  memory : world (.inside (.malloc (lengthOf received))) sized =
    some (mapped, allocated)
  bytes : world (.recv received.length mapped) allocated =
    some (if mapped then .all received else .failed [], named)

variable {world : (ask : Ask) → σ → Option (ask.Answer × σ)}
  {received : List UInt8} {mapped : Bool} {start sized allocated named : σ}

/-- What a pass does with a name that it has got. -/
def select (received : List UInt8) : Server (Word × Word) :=
  (dispatch received map 0).bind fun ret => .done (ret, lengthOf received)

theorem run_offered (offers : Offers world received mapped start sized
    allocated named) (old : Word) :
    ∃ before : Trace, (∀ event ∈ before, Quiet event.1) ∧
      (again old).run world start = before.foldr Outcome.prepend
        (Prog.run world (if mapped then select received
          else .ask (.inside .stale) fun _ => .ask .crash Empty.elim) named) := by
  have toNat := lengthOf_toNat offers.short
  have toInt := lengthOf_toInt offers.short
  have positive : 0 < (lengthOf received).toInt := by
    have nonempty := List.length_pos_iff.mpr offers.nonempty
    omega
  refine ⟨[⟨.recv 4 true, .all (Word.bytes (lengthOf received))⟩,
    ⟨.inside (.malloc (lengthOf received)), mapped⟩,
    ⟨.recv received.length mapped,
      if mapped then .all received else .failed []⟩], ?_, ?_⟩
  · intro event member
    simp only [List.mem_cons, List.not_mem_nil, or_false] at member
    rcases member with rfl | rfl | rfl
    · exact .recv _ _
    · exact .malloc _
    · exact .recv _ _
  have length := offers.length
  have bytes := offers.bytes
  rw [← toNat] at bytes ⊢
  unfold again
  rw [Prog.run_answered _ length]
  change Outcome.prepend _ ((readName (Word.ofBytes (Word.bytes _))).run _ _) = _
  rw [Word.ofBytes_bytes]
  unfold readName
  rw [if_neg (Int.not_le.mpr positive),
    run_malloc (Int.le_of_lt positive) offers.memory, Prog.run_answered _ bytes]
  cases mapped with
  | true => rfl
  | false => rfl

theorem dispatches_foldr {before : Trace}
    (plain : ∀ event ∈ before, Plain event.1)
    (outcome : Outcome Ask Ask.Answer σ (Word × Word)) :
    Dispatches received (before.foldr Outcome.prepend outcome) ↔
      Dispatches received outcome := by
  have within : Trace.Within (before ++ outcome.trace) ↔
      Trace.Within outcome.trace := by
    unfold Trace.Within
    rw [List.forall_mem_append]
    exact and_iff_right fun event member => (plain event member).1
  have invoked : Trace.invoked (before ++ outcome.trace) =
      Trace.invoked outcome.trace := by
    have silent := invoked_of_plain plain
    unfold Trace.invoked at silent ⊢
    rw [List.filterMap_append, silent, List.nil_append]
  constructor
  · rintro ⟨isWithin, invokes, refuses⟩
    simp only [Outcome.foldr_prepend_trace, Outcome.foldr_prepend_value, within,
      invoked] at isWithin invokes refuses
    exact ⟨isWithin, invokes, refuses⟩
  · rintro ⟨isWithin, invokes, refuses⟩
    constructor <;>
      simp only [Outcome.foldr_prepend_trace, Outcome.foldr_prepend_value,
        within, invoked]
    · exact isWithin
    · exact invokes
    · exact refuses

theorem not_dispatches {outcome : Outcome Ask Ask.Answer σ (Word × Word)}
    (silent : Trace.invoked outcome.trace = [])
    (keeps : ∀ ret len, outcome.value = some (ret, len) → ret = 0) :
    ¬ Dispatches received outcome := by
  intro dispatches
  by_cases known : ∃ entry ∈ map, entry.name = cString received
  · obtain ⟨entry, member, same⟩ := known
    have invoked := dispatches.invokes entry member same
    rw [silent] at invoked
    cases invoked
  · simp only [not_exists, not_and] at known
    obtain ⟨_, ret, len, value, nonzero⟩ := dispatches.refuses known
    exact nonzero (keeps ret len value)

theorem dispatches_select_known {entry : FunMap} (member : entry ∈ map)
    (answers : ∀ question state, (world (.inside question) state).isSome)
    (terminated : 0 ∈ received) (same : entry.name = cString received) :
    Dispatches received ((select received).run world start) := by
  have plain : (entry.serve.bind fun ret =>
      (.done (ret, lengthOf received) : Server (Word × Word))).Asks Plain :=
    (built_of_mem member).plain.bind fun _ => trivial
  obtain ⟨⟨answer, after⟩, answered⟩ :=
    Option.isSome_iff_exists.mp (answers (.invoke entry.funName) start)
  have quiet := plain.trace world after
  unfold select
  rw [dispatch_known member terminated same]
  simp only [Prog.bind, Prog.run_answered _ answered]
  constructor
  · intro event isIn
    rcases List.mem_cons.mp isIn with isInvoke | isIn
    · rw [isInvoke]
      intro impossible
      cases impossible
    · exact (quiet event isIn).1
  · intro other otherMember sameName
    have isEntry := eq_of_name_eq otherMember member (sameName.trans same.symm)
    subst isEntry
    exact congrArg _ (invoked_of_plain quiet)
  · exact fun unknown => absurd same (unknown entry member)

theorem not_dispatches_select
    (answers : ∀ question state, (world (.inside question) state).isSome)
    (others : ¬ (0 ∈ received ∧ ∃ entry ∈ map, entry.name = cString received)) :
    ¬ Dispatches received ((select received).run world start) := by
  have passes : ∀ ret, dispatch received map 0 = .done ret → ret = 0 →
      ¬ Dispatches received ((select received).run world start) := by
    intro ret returns isZero
    unfold select
    rw [returns]
    refine not_dispatches rfl ?_
    simp [Prog.bind, isZero]
  by_cases terminated : 0 ∈ received
  · refine passes 0 (dispatch_unknown terminated (fun entry member same => ?_) 0) rfl
    exact others ⟨terminated, entry, member, same⟩
  · by_cases undecided : ∃ other ∈ map,
        compare (other.name ++ [0]) received = none
    · intro dispatches
      obtain ⟨event, member, beyond⟩ := beyond_of_undecided answers
        (fun other isIn => compare_ne_true isIn terminated) undecided 0 _ start
      exact dispatches.within event member beyond
    · refine passes 0 (dispatch_skip (fun other isIn => ?_) 0) rfl
      cases compared : compare (other.name ++ [0]) received with
      | none => exact absurd ⟨other, isIn, compared⟩ undecided
      | some equal =>
          cases equal with
          | true => exact absurd compared (compare_ne_true isIn terminated)
          | false => rfl

/-- A pass calls the one handler that a received name names, within the bytes
received, and otherwise ends the connection, if and only if there was memory for
the name and it is a terminated name of the map. -/
theorem dispatches_iff
    (answers : ∀ question state, (world (.inside question) state).isSome)
    (offers : Offers world received mapped start sized allocated named)
    (old : Word) :
    Dispatches received ((again old).run world start) ↔
      mapped = true ∧ 0 ∈ received ∧
        ∃ entry ∈ map, entry.name = cString received := by
  obtain ⟨before, quiet, run⟩ := run_offered offers old
  rw [run, dispatches_foldr fun event member => (quiet event member).plain]
  cases mapped with
  | false =>
      refine iff_of_false ?_ (by simp)
      obtain ⟨⟨answer, after⟩, answered⟩ :=
        Option.isSome_iff_exists.mp (answers .stale named)
      cases crashed : world .crash after with
      | some pair => exact pair.1.elim
      | none =>
          simp only [Bool.false_eq_true, if_false, Prog.run_answered _ answered,
            Prog.run_stopped _ crashed]
          exact not_dispatches rfl nofun
  | true =>
      simp only [if_true, true_and]
      constructor
      · intro dispatches
        by_contra others
        exact not_dispatches_select answers others dispatches
      · rintro ⟨terminated, entry, member, same⟩
        exact dispatches_select_known member answers terminated same

/-- A client asks for the contrast of the first camera. -/
def getContrast : List UInt8 := "rk_isp_get_contrast\x00".toUTF8.data.toList

/-- Memory for everybody, and modules that succeed. -/
def obliging : Environment Unit where
  inside
    | .malloc _, _ => (true, ())
    | .unset, _ => (fun _ => 0, ())
    | .beyond, _ => (fun _ => 0, ())
    | .stale, _ => ((), ())
    | .invoke _, _ => ((), ())
    | .debug _, _ => (false, ())
    | .call _ _, _ => (⟨0, fun _ => 0, fun _ => some []⟩, ())
  sent _ _ := (.all, ())

theorem dispatches_iff_contrast :
    Dispatches getContrast ((again 0).run obliging.world
        ⟨Word.bytes (lengthOf getContrast) ++ getContrast ++ Word.bytes 0, ()⟩) ↔
      true = true ∧ 0 ∈ getContrast ∧
        ∃ entry ∈ map, entry.name = cString getContrast :=
  have offers : Offers obliging.world getContrast true
      ⟨Word.bytes (lengthOf getContrast) ++ getContrast ++ Word.bytes 0, ()⟩
      ⟨getContrast ++ Word.bytes 0, ()⟩ ⟨getContrast ++ Word.bytes 0, ()⟩
      ⟨Word.bytes 0, ()⟩ :=
    ⟨by decide, by decide, rfl, rfl, rfl⟩
  dispatches_iff (fun _ _ => rfl) offers 0

/-- `rec_thread` answers a name that is not in the map as if its call had
succeeded. -/
theorem unknown_name_keeps_connection :
    ¬ ∀ (received : List UInt8) (mapped : Bool) (σ : Type)
      (world : (ask : Ask) → σ → Option (ask.Answer × σ))
      (start sized allocated named : σ) (old : Word),
      (∀ question state, (world (.inside question) state).isSome) →
      Offers world received mapped start sized allocated named →
      Dispatches received ((again old).run world start) := by
  intro general
  have offers : Offers obliging.world getDehaze true
      ⟨Word.bytes (lengthOf getDehaze) ++ getDehaze, ()⟩ ⟨getDehaze, ()⟩
      ⟨getDehaze, ()⟩ ⟨[], ()⟩ :=
    ⟨by decide, by decide, rfl, rfl, rfl⟩
  obtain ⟨before, quiet, run⟩ := run_offered offers 0
  have dispatches := general getDehaze true _ obliging.world _ _ _ _ 0
    (fun _ _ => rfl) offers
  rw [run, dispatches_foldr fun event member => (quiet event member).plain]
    at dispatches
  refine not_dispatches_select (fun _ _ => rfl) ?_ dispatches
  rintro ⟨_, entry, member, same⟩
  exact name_ne_getDehaze member same

end Pass

end Rkipc.Rpc
