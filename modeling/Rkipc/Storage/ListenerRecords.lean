import Rkipc.Storage.Listener

namespace Rkipc.Storage.Listener

open Ini Libc

/-! Which messages the listener takes apart as they are. -/

section Search

variable {str string rest last more : Text}

theorem strSearchLoop_skip (count : Nat) (free : nul ∉ string) :
    strSearchLoop str (string.length + count) (string ++ rest) = strSearchLoop str count rest := by
  induction string with
  | nil => rw [List.length_nil, Nat.zero_add, List.nil_append]
  | cons byte string induction =>
      obtain ⟨isByte, free⟩ := not_or.mp (mt List.mem_cons.mpr free)
      rw [List.length_cons, Nat.add_right_comm, List.cons_append, strSearchLoop,
        if_neg (Ne.symm isByte), induction free]

theorem strSearchLoop_short {count : Nat} (free : nul ∉ string) (short : count ≤ string.length) :
    strSearchLoop str count (string ++ rest) = none := by
  induction string generalizing count with
  | nil =>
      cases Nat.le_zero.mp short
      rw [strSearchLoop]
      nofun
  | cons byte string induction =>
      obtain ⟨isByte, free⟩ := not_or.mp (mt List.mem_cons.mpr free)
      cases count with
      | zero =>
          rw [strSearchLoop]
          nofun
      | succ count =>
          rw [List.cons_append, strSearchLoop, if_neg (Ne.symm isByte),
            induction free (Nat.le_of_succ_le_succ short)]

theorem strSearch_string {count : Nat} (strFree : nul ∉ str) (notNil : str ≠ [])
    (free : nul ∉ string) :
    strSearch (string ++ nul :: more) (string.length + 1 + count) str =
      ((strstr nul str string).map (· ++ nul :: more)).or
        (if count = 0 then none else strSearch more count str) := by
  have loop : strSearchLoop str (string.length + 1 + count - 1) (string ++ nul :: more) =
      if count = 0 then none else strSearch more count str := by
    have same : string.length + 1 + count - 1 = string.length + count := by omega
    rw [same, strSearchLoop_skip count free]
    cases count with
    | zero =>
        rw [strSearchLoop, if_pos rfl]
        nofun
    | succ count =>
        rw [strSearchLoop, if_pos rfl, if_neg (Nat.succ_ne_zero count)]
        rfl
  rw [strSearch, strstr_append_nul strFree notNil free, loop]

/-- Where the search finds a key: in the strings with a NUL, or in the last one, with what is
behind the message. -/
def found (str : Text) (last rest : Text) : List Text → Option Text
  | [] => if last = [] then none else strstr nul str (last ++ rest)
  | string :: more =>
      ((strstr nul str string).map (· ++ nul :: (terminated nul more ++ (last ++ rest)))).or
        (found str last rest more)

theorem strSearch_eq_found {strings : List Text} (strFree : nul ∉ str) (notNil : str ≠ [])
    (frees : ∀ string ∈ strings, nul ∉ string) (free : nul ∉ last)
    (notEmpty : strings ≠ [] ∨ last ≠ []) :
    strSearch (terminated nul strings ++ (last ++ rest))
        (terminated nul strings ++ last).length str = found str last rest strings := by
  induction strings with
  | nil =>
      have isLast : last ≠ [] := notEmpty.resolve_left (absurd rfl)
      change (strstr nul str (last ++ rest)).or
        (strSearchLoop str (last.length - 1) (last ++ rest)) = _
      rw [strSearchLoop_short free (Nat.sub_le _ _), Option.or_none, found, if_neg isLast]
  | cons string more induction =>
      obtain ⟨isFree, frees⟩ := List.forall_mem_cons.mp frees
      have memory : terminated nul (string :: more) ++ (last ++ rest) =
          string ++ nul :: (terminated nul more ++ (last ++ rest)) := by
        simp only [terminated, List.flatMap_cons, List.append_assoc, List.cons_append,
          List.nil_append]
      have length : (terminated nul (string :: more) ++ last).length =
          string.length + 1 + (terminated nul more ++ last).length := by
        simp only [terminated, List.flatMap_cons, List.length_append, List.length_singleton]
        omega
      rw [memory, length, strSearch_string strFree notNil isFree, found]
      congr 1
      by_cases isOver : more = [] ∧ last = []
      · obtain ⟨rfl, rfl⟩ := isOver
        rfl
      · have isMore : more ≠ [] ∨ last ≠ [] := by
          rwa [Ne, Ne, ← not_and_or]
        have positive : (terminated nul more ++ last).length ≠ 0 := by
          rw [Ne, List.length_eq_zero_iff, List.append_eq_nil_iff]
          rintro ⟨isNil, isLast⟩
          cases more with
          | nil => exact isOver ⟨rfl, isLast⟩
          | cons string more => cases string <;> cases isNil
        rw [if_neg positive, induction frees isMore]

theorem holds_cons {strings : List Text} :
    Holds (string :: strings) str ↔ str <:+: string ∨ Holds strings str :=
  List.exists_mem_cons_iff _ _ _

theorem found_isSome_iff {strings : List Text} (strFree : nul ∉ str)
    (frees : ∀ string ∈ strings, nul ∉ string) (free : nul ∉ last) :
    (found str last rest strings).isSome = true ↔
      Holds strings str ∨ last ≠ [] ∧ str <:+: last ++ cString nul rest := by
  induction strings with
  | nil =>
      rw [found, Holds]
      by_cases isNil : last = []
      · rw [if_pos isNil]
        exact iff_of_false (by simp) (by simp [isNil])
      · rw [if_neg isNil, strstr_isSome_iff strFree, cString_append free]
        simp [isNil]
  | cons string more induction =>
      obtain ⟨isFree, frees⟩ := List.forall_mem_cons.mp frees
      have inString : (strstr nul str string).isSome = true ↔ str <:+: string := by
        rw [strstr_isSome_iff strFree, cString_of_notMem isFree]
      rw [found, Option.isSome_or, Option.isSome_map, Bool.or_eq_true, inString, induction frees,
        ← or_assoc]
      exact or_congr_left holds_cons.symm

end Search

section Name

variable {strings : List Text} {last rest dev pointer : Text}

def nameKey : Text := "DEVNAME".toList

theorem found_of_named (frees : ∀ string ∈ strings, nul ∉ string)
    (isNamed : named strings = some dev) :
    ∃ pointer, found nameKey last rest strings = some pointer ∧
      cString nul (pointer.drop 8) = dev := by
  induction strings with
  | nil => cases isNamed
  | cons string more induction =>
      obtain ⟨isFree, frees⟩ := List.forall_mem_cons.mp frees
      rw [named] at isNamed
      rw [found]
      cases isFound : strstr nul nameKey string with
      | none =>
          have inMore : named more = some dev := by
            rwa [show strstr nul "DEVNAME".toList string = none from isFound] at isNamed
          rw [Option.map_none, Option.none_or]
          exact induction frees inMore
      | some place =>
          obtain ⟨isSuffix, isPrefix⟩ := strstr_eq_some isFound
          have atLeast : 7 ≤ place.length := isPrefix.length_le
          rw [show strstr nul "DEVNAME".toList string = some place from isFound,
            Option.elim_some] at isNamed
          refine ⟨_, rfl, ?_⟩
          by_cases isEnd : place.length = 7
          · rw [if_pos isEnd] at isNamed
            cases more with
            | nil => cases isNamed
            | cons next more =>
                cases isNamed
                have nextFree := (List.forall_mem_cons.mp frees).1
                have behind : (place ++ nul :: (terminated nul (dev :: more) ++
                    (last ++ rest))).drop 8 =
                      dev ++ nul :: (terminated nul more ++ (last ++ rest)) := by
                  rw [List.drop_append, List.drop_eq_nil_of_le (by omega), isEnd]
                  simp only [terminated, List.flatMap_cons, List.append_assoc, List.cons_append,
                    List.nil_append, Nat.reduceSub, List.drop_succ_cons, List.drop_zero]
                rw [behind, cString_append nextFree, cString_nul, List.append_nil]
          · rw [if_neg isEnd] at isNamed
            cases isNamed
            have free : nul ∉ place.drop 8 := fun isIn =>
              isFree (isSuffix.mem (List.mem_of_mem_drop isIn))
            rw [List.drop_append_of_le_length (by omega), cString_append free, cString_nul,
              List.append_nil]

/-- Where no name is inside of the message, it goes on to what is behind. -/
theorem length_of_unnamed {behind : Text} (frees : ∀ string ∈ strings, nul ∉ string)
    (lastFree : nul ∉ last) (restFree : nul ∉ rest) (isSuffix : nameKey ++ behind <:+ rest)
    (unnamed : named strings = none) (isFound : found nameKey last rest strings = some pointer) :
    behind.length ≤ (cString nul (pointer.drop 8)).length + 1 := by
  have free : nul ∉ last ++ rest := by
    rw [List.mem_append]
    exact not_or.mpr ⟨lastFree, restFree⟩
  induction strings with
  | nil =>
      rw [found] at isFound
      split at isFound
      · cases isFound
      · obtain ⟨first, isFirst, longer⟩ := length_le_of_strstr free
          (isSuffix.trans (List.suffix_append last rest)) (List.prefix_append nameKey behind)
        obtain rfl : first = pointer := Option.some.inj (isFirst.symm.trans isFound)
        have pointerFree : nul ∉ first.drop 8 := fun isIn =>
          free ((strstr_eq_some isFirst).1.mem (List.mem_of_mem_drop isIn))
        rw [cString_of_notMem pointerFree, List.length_drop]
        rw [List.length_append] at longer
        have seven : nameKey.length = 7 := rfl
        omega
  | cons string more induction =>
      obtain ⟨isFree, frees⟩ := List.forall_mem_cons.mp frees
      rw [named] at unnamed
      rw [found] at isFound
      cases inString : strstr nul nameKey string with
      | none =>
          rw [inString, Option.map_none, Option.none_or] at isFound
          rw [show strstr nul "DEVNAME".toList string = none from inString,
            Option.elim_none] at unnamed
          exact induction frees unnamed isFound
      | some place =>
          rw [inString] at isFound
          rw [show strstr nul "DEVNAME".toList string = some place from inString,
            Option.elim_some] at unnamed
          split at unnamed
          next isEnd =>
            cases List.head?_eq_none_iff.mp unnamed
            cases isFound
            have behindNul : (place ++ nul :: (terminated nul [] ++ (last ++ rest))).drop 8 =
                last ++ rest := by
              rw [List.drop_append, List.drop_eq_nil_of_le (by omega), isEnd]
              rfl
            rw [behindNul, cString_of_notMem free, List.length_append]
            have shorter := isSuffix.length_le
            rw [List.length_append] at shorter
            omega
          next => cases unnamed

end Name

section Message

variable {msg rest key record dev : Text} {kind : Msg}

/-- The key stands in the message, or in its last string and what is behind it. -/
def Stands (msg rest key : Text) : Prop :=
  Holds (strings nul msg).1 key ∨
    (strings nul msg).2 ≠ [] ∧ key <:+: (strings nul msg).2 ++ cString nul rest

theorem strSearch_message (strFree : nul ∉ key) (notNil : key ≠ []) (notEmpty : msg ≠ []) :
    strSearch (msg ++ rest) msg.length key =
      found key (strings nul msg).2 rest (strings nul msg).1 := by
  have parts : (strings nul msg).1 ≠ [] ∨ (strings nul msg).2 ≠ [] := by
    by_contra neither
    obtain ⟨isNil, isLast⟩ := not_or.mp neither
    have whole : terminated nul (strings nul msg).1 ++ (strings nul msg).2 = msg :=
      terminated_strings msg
    rw [not_not.mp isNil, not_not.mp isLast] at whole
    exact notEmpty whole.symm
  have whole : msg ++ rest =
      terminated nul (strings nul msg).1 ++ ((strings nul msg).2 ++ rest) := by
    rw [← List.append_assoc, terminated_strings]
  have length : msg.length =
      (terminated nul (strings nul msg).1 ++ (strings nul msg).2).length := by
    rw [terminated_strings]
  rw [whole, length]
  exact strSearch_eq_found strFree notNil (notMem_strings msg).1 (notMem_strings msg).2 parts

theorem stands_iff (strFree : nul ∉ key) (notNil : key ≠ []) (notEmpty : msg ≠ []) :
    (strSearch (msg ++ rest) msg.length key).isSome = true ↔ Stands msg rest key := by
  rw [strSearch_message strFree notNil notEmpty]
  exact found_isSome_iff strFree (notMem_strings msg).1 (notMem_strings msg).2

/-- A record that is a key makes the key stand in the message, whatever is behind it. -/
theorem stands_of_mem_records (notNil : key ≠ []) (isRecord : key ∈ records msg) :
    Stands msg rest key := by
  obtain inside | isLast := List.mem_append.mp isRecord
  · exact .inl ⟨key, inside, List.infix_refl key⟩
  · rw [List.mem_singleton.mp isLast] at notNil ⊢
    exact .inr ⟨notNil, (List.prefix_append _ _).isInfix⟩

theorem length_le_of_mem_records (isRecord : record ∈ records msg) :
    record.length ≤ msg.length := by
  have whole : (terminated nul (strings nul msg).1 ++ (strings nul msg).2).length = msg.length :=
    congrArg List.length (terminated_strings msg)
  rw [List.length_append] at whole
  obtain inside | isLast := List.mem_append.mp isRecord
  · have part : record ++ [nul] <:+: terminated nul (strings nul msg).1 :=
      List.infix_of_mem_flatten (List.mem_map_of_mem inside)
    have shorter := part.length_le
    rw [List.length_append] at shorter
    omega
  · rw [List.mem_singleton.mp isLast]
    omega

theorem action_free : nul ∉ action kind := by
  cases kind <;> decide

theorem action_ne_nil : action kind ≠ [] := by
  cases kind <;> decide

def diskKey : Text := "DEVTYPE=disk".toList

def partitionKey : Text := "DEVTYPE=partition".toList

theorem keys_free : nul ∉ diskKey ∧ nul ∉ partitionKey ∧ nul ∉ nameKey := by decide

theorem keys_ne_nil : diskKey ≠ [] ∧ partitionKey ≠ [] ∧ nameKey ≠ [] := by decide

/-- The action that the listener takes: the first of the three that stands anywhere. -/
def Taken (msg rest : Text) (kind : Msg) : Prop :=
  Stands msg rest (action kind) ∧ ∀ other ∈ earlier kind, ¬ Stands msg rest (action other)

theorem header_iff {buf : Text} :
    strstr nul "libudev".toList buf = some buf ↔ "libudev".toList <+: buf := by
  refine ⟨fun isFound => (strstr_eq_some isFound).2, fun isPrefix => ?_⟩
  cases buf with
  | nil => exact absurd isPrefix (by decide)
  | cons byte buf => exact if_pos isPrefix

section Handle

variable (header : "libudev".toList <+: msg)

include header

theorem ne_nil_of_header : msg ≠ [] := by
  rintro rfl
  exact absurd header (by decide)

theorem handle_of_no_type (noPartition : ¬ Stands msg rest partitionKey)
    (noDisk : ¬ Stands msg rest diskKey) : handle (msg ++ rest) msg.length = .nothing := by
  have notEmpty := ne_nil_of_header header
  rw [handle, if_pos (header_iff.mpr (header.trans (List.prefix_append msg rest))), if_neg]
  rintro (isFound | isFound)
  · exact noPartition ((stands_iff keys_free.2.1 keys_ne_nil.2.1 notEmpty).mp isFound)
  · exact noDisk ((stands_iff keys_free.1 keys_ne_nil.1 notEmpty).mp isFound)

theorem handle_of_no_action (none : ∀ kind, ¬ Stands msg rest (action kind)) :
    handle (msg ++ rest) msg.length = .nothing := by
  have notEmpty := ne_nil_of_header header
  have notFound (kind : Msg) :
      ¬ (strSearch (msg ++ rest) msg.length (action kind)).isSome = true :=
    mt (stands_iff action_free action_ne_nil notEmpty).mp (none kind)
  rw [handle]
  split
  · split
    · exact (if_neg (notFound .devAdd)).trans
        ((if_neg (notFound .devRemove)).trans (if_neg (notFound .devChanged)))
    · rfl
  · rfl

theorem handle_of_taken (isType : Stands msg rest partitionKey ∨ Stands msg rest diskKey)
    (taken : Taken msg rest kind) :
    handle (msg ++ rest) msg.length =
      sendMsg kind (getPara (msg ++ rest) msg.length nameKey) := by
  have notEmpty := ne_nil_of_header header
  have isFound (kind : Msg) (stands : Stands msg rest (action kind)) :
      (strSearch (msg ++ rest) msg.length (action kind)).isSome = true :=
    (stands_iff action_free action_ne_nil notEmpty).mpr stands
  have notFound (kind : Msg) (not : ¬ Stands msg rest (action kind)) :
      ¬ (strSearch (msg ++ rest) msg.length (action kind)).isSome = true :=
    mt (stands_iff action_free action_ne_nil notEmpty).mp not
  rw [handle, if_pos (header_iff.mpr (header.trans (List.prefix_append msg rest))), if_pos]
  · obtain ⟨stands, before⟩ := taken
    cases kind with
    | devAdd => exact if_pos (isFound .devAdd stands)
    | devRemove =>
        exact (if_neg (notFound .devAdd (before _ (by decide)))).trans
          (if_pos (isFound .devRemove stands))
    | devChanged =>
        exact (if_neg (notFound .devAdd (before _ (by decide)))).trans
          ((if_neg (notFound .devRemove (before _ (by decide)))).trans
            (if_pos (isFound .devChanged stands)))
  · exact isType.imp (stands_iff keys_free.2.1 keys_ne_nil.2.1 notEmpty).mpr
      (stands_iff keys_free.1 keys_ne_nil.1 notEmpty).mpr

end Handle

theorem taken_or_none :
    (∃ kind, Taken msg rest kind) ∨ ∀ kind, ¬ Stands msg rest (action kind) := by
  by_cases add : Stands msg rest (action .devAdd)
  · exact .inl ⟨.devAdd, add, nofun⟩
  by_cases remove : Stands msg rest (action .devRemove)
  · refine .inl ⟨.devRemove, remove, fun other isEarlier => ?_⟩
    cases List.mem_singleton.mp isEarlier
    exact add
  by_cases changed : Stands msg rest (action .devChanged)
  · refine .inl ⟨.devChanged, changed, fun other isEarlier => ?_⟩
    obtain rfl | isLast := List.mem_cons.mp isEarlier
    · exact add
    · cases List.mem_singleton.mp isLast
      exact remove
  · refine .inr fun kind => ?_
    cases kind with
    | devAdd => exact add
    | devRemove => exact remove
    | devChanged => exact changed

theorem stands_iff_of_ended (ended : (strings nul msg).2 = []) :
    Stands msg rest key ↔ Holds (strings nul msg).1 key :=
  or_iff_left fun inLast => inLast.1 ended

end Message

/-- Bytes in which all that is looked for stands, with a long name. -/
def misleading (msg : Text) : Text :=
  diskKey ++ action .devAdd ++ (nameKey ++ List.replicate (msg.length + 2) 'x')

section Exact

variable {msg rest dev : Text} {kind : Msg}

theorem misleading_free : nul ∉ misleading msg := by
  have long : nul ∉ List.replicate (msg.length + 2) 'x' := fun isIn =>
    absurd (List.eq_of_mem_replicate isIn) (by decide)
  rw [misleading, List.mem_append, List.mem_append, List.mem_append]
  rintro ((isIn | isIn) | isIn | isIn)
  · exact keys_free.1 isIn
  · exact action_free isIn
  · exact keys_free.2.2 isIn
  · exact long isIn

theorem stands_misleading {key : Text} (inside : key <:+: misleading msg)
    (unended : (strings nul msg).2 ≠ []) : Stands msg (misleading msg) key := by
  refine .inr ⟨unended, ?_⟩
  rw [cString_of_notMem misleading_free]
  exact inside.trans (List.suffix_append _ _).isInfix

theorem listen_accepted (accepted : IsAccepted msg) (buf : Text) :
    listen buf msg = handle (msg ++ buf.drop msg.length) msg.length := by
  refine if_neg ?_
  rintro (short | long)
  · exact absurd accepted.1 (Nat.not_le.mpr short)
  · exact absurd accepted.2.1 (Nat.not_le.mpr long)

theorem listen_other (other : ¬ IsAccepted msg) (buf : Text) : listen buf msg = .nothing := by
  rw [listen]
  split
  · rfl
  next lengths =>
    obtain ⟨long, short⟩ := not_or.mp lengths
    rw [handle, if_neg]
    intro isHeader
    have header : "libudev".toList <+: msg :=
      List.prefix_of_prefix_length_le (header_iff.mp isHeader) (List.prefix_append msg _)
        (Nat.le_trans (by decide) (Nat.not_lt.mp long))
    exact other ⟨Nat.not_lt.mp long, Nat.not_lt.mp short, header⟩

/-- A name that is read from behind the strings is longer than every record. -/
theorem named_of_right {pointer : Text}
    (isPointer : found nameKey (strings nul msg).2 (misleading msg) (strings nul msg).1 =
      some pointer)
    (isDev : cString nul (pointer.drop 8) = dev) (isRecord : devname dev ∈ records msg) :
    named (strings nul msg).1 = some dev := by
  have isSome : named (strings nul msg).1 ≠ none := by
    intro isNone
    have isSuffix : nameKey ++ List.replicate (msg.length + 2) 'x' <:+ misleading msg := by
      rw [misleading]
      exact List.suffix_append _ _
    have longer := length_of_unnamed (notMem_strings msg).1 (notMem_strings msg).2
      misleading_free isSuffix isNone isPointer
    have shorter := length_le_of_mem_records isRecord
    rw [List.length_replicate, isDev] at longer
    change ("DEVNAME=".toList ++ dev).length ≤ msg.length at shorter
    rw [List.length_append] at shorter
    omega
  obtain ⟨other, isNamed⟩ := Option.ne_none_iff_exists'.mp isSome
  obtain ⟨place, isPlace, isOther⟩ := found_of_named (notMem_strings msg).1 isNamed
  obtain rfl : pointer = place := Option.some.inj (isPointer.symm.trans isPlace)
  rw [isNamed, ← isOther, isDev]

theorem clear_of_right (accepted : IsAccepted msg) (right : ∀ buf, Right msg (listen buf msg)) :
    Clear msg := by
  have header := accepted.2.2
  have isRight := right (msg ++ misleading msg)
  rw [listen_accepted accepted, List.drop_left] at isRight
  have ended (noKey : ¬ Stands msg (misleading msg) diskKey ∨
      ¬ Stands msg (misleading msg) (action .devAdd)) : (strings nul msg).2 = [] := by
    by_contra unended
    obtain noType | noAction := noKey
    · refine noType (stands_misleading ?_ unended)
      exact ((List.prefix_append _ _).trans (List.prefix_append _ _)).isInfix
    · refine noAction (stands_misleading ?_ unended)
      exact (List.suffix_append _ _).isInfix.trans (List.prefix_append _ _).isInfix
  by_cases isType : Stands msg (misleading msg) partitionKey ∨ Stands msg (misleading msg) diskKey
  · have taken : (∃ kind, Taken msg (misleading msg) kind) ∨
        ∀ kind, ¬ Stands msg (misleading msg) (action kind) := taken_or_none
    obtain ⟨kind, taken⟩ | noAction := taken
    · rw [handle_of_taken header isType taken] at isRight
      rw [getPara, strSearch_message keys_free.2.2 keys_ne_nil.2.2 (ne_nil_of_header header)]
        at isRight
      cases isPointer : found nameKey (strings nul msg).2 (misleading msg) (strings nul msg).1 with
      | none =>
          rw [isPointer] at isRight
          exact isRight.elim
      | some pointer =>
          rw [isPointer] at isRight
          obtain ⟨isBlock, isAction, isDev⟩ := isRight
          refine .inr ⟨isBlock, kind, _, isAction, ?_, named_of_right isPointer rfl isDev, isDev⟩
          by_cases isAdd : Stands msg (misleading msg) (action .devAdd)
          · refine .inl ?_
            cases kind with
            | devAdd => rfl
            | devRemove | devChanged => exact absurd isAdd (taken.2 _ (by decide))
          · have isEnded := ended (.inr isAdd)
            refine .inr ⟨isEnded, fun other isEarlier => ?_⟩
            exact mt (stands_iff_of_ended isEnded).mpr (taken.2 other isEarlier)
    · have isEnded := ended (.inr (noAction .devAdd))
      exact .inl ⟨isEnded, .inr fun kind => mt (stands_iff_of_ended isEnded).mpr (noAction kind)⟩
  · obtain ⟨noPartition, noDisk⟩ := not_or.mp isType
    have isEnded := ended (.inl noDisk)
    exact .inl ⟨isEnded, .inl ⟨mt (stands_iff_of_ended isEnded).mpr noPartition,
      mt (stands_iff_of_ended isEnded).mpr noDisk⟩⟩

/-- The outcome of a clear message, whatever was in the buffer before. -/
theorem listen_of_clear (accepted : IsAccepted msg) (clear : Clear msg) :
    ∃ outcome, Right msg outcome ∧ ∀ buf, listen buf msg = outcome := by
  have header := accepted.2.2
  have typeStands (rest : Text) (isBlock : IsBlock msg) :
      Stands msg rest partitionKey ∨ Stands msg rest diskKey :=
    isBlock.imp (stands_of_mem_records keys_ne_nil.2.1) (stands_of_mem_records keys_ne_nil.1)
  obtain ⟨isEnded, nothing⟩ | ⟨isBlock, kind, dev, isAction, first, isNamed, isDev⟩ := clear
  · refine ⟨.nothing, fun _ isBlock ⟨kind, _, isAction, _⟩ => ?_, fun buf => ?_⟩
    · obtain ⟨noPartition, noDisk⟩ | noAction := nothing
      · obtain isPartition | isDisk := typeStands [] isBlock
        · exact noPartition ((stands_iff_of_ended isEnded).mp isPartition)
        · exact noDisk ((stands_iff_of_ended isEnded).mp isDisk)
      · have stands : Stands msg [] (action kind) := stands_of_mem_records action_ne_nil isAction
        exact noAction kind ((stands_iff_of_ended isEnded).mp stands)
    · rw [listen_accepted accepted]
      obtain ⟨noPartition, noDisk⟩ | noAction := nothing
      · exact handle_of_no_type header (mt (stands_iff_of_ended isEnded).mp noPartition)
          (mt (stands_iff_of_ended isEnded).mp noDisk)
      · exact handle_of_no_action header fun kind =>
          mt (stands_iff_of_ended isEnded).mp (noAction kind)
  · refine ⟨.sends kind dev, ⟨isBlock, isAction, isDev⟩, fun buf => ?_⟩
    have taken : Taken msg (buf.drop msg.length) kind := by
      refine ⟨stands_of_mem_records action_ne_nil isAction, ?_⟩
      obtain rfl | ⟨isEnded, noEarlier⟩ := first
      · nofun
      · exact fun other isEarlier =>
          mt (stands_iff_of_ended isEnded).mp (noEarlier other isEarlier)
    obtain ⟨pointer, isPointer, isName⟩ := found_of_named (notMem_strings msg).1 isNamed
    rw [listen_accepted accepted, handle_of_taken header (typeStands _ isBlock) taken, getPara,
      strSearch_message keys_free.2.2 keys_ne_nil.2.2 (ne_nil_of_header header), isPointer,
      ← isName]
    rfl

/-- A message is taken apart as it is if and only if it is clear. -/
theorem exact_iff : Exact msg ↔ (IsAccepted msg → Clear msg) := by
  constructor
  · rintro ⟨right, _⟩ accepted
    exact clear_of_right accepted right
  · intro clear
    by_cases accepted : IsAccepted msg
    · obtain ⟨outcome, right, same⟩ := listen_of_clear accepted (clear accepted)
      exact ⟨fun buf => same buf ▸ right, fun buf other => (same buf).trans (same other).symm⟩
    · have nothing := listen_other accepted
      refine ⟨fun buf => ?_, fun buf other => (nothing buf).trans (nothing other).symm⟩
      rw [nothing]
      exact fun isAccepted => absurd isAccepted accepted

/-- An added disk without a DEVNAME. -/
def nameless : Text := "libudev\x00ACTION=add\x00DEVTYPE=disk\x00SEQNUM=1\x00".toList

theorem nameless_nullUse : IsAccepted nameless ∧ listen [] nameless = .nullUse ∧
    ¬ Exact nameless := by
  have isNull : listen [] nameless = .nullUse := by decide
  refine ⟨⟨by decide, by decide, by decide⟩, isNull, fun exact' => ?_⟩
  have right := exact'.1 []
  rw [isNull] at right
  exact right

end Exact

end Rkipc.Storage.Listener
