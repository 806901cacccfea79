import Mathlib.Algebra.GroupWithZero.Nat
import Mathlib.Data.BitVec
import Mathlib.Data.List.TakeWhile

namespace Rkipc.Wifi

/-! The test for UTF-8 and the conversion of GBK to it. -/

/-- A `char`. -/
abbrev Byte := BitVec 8

/-- The string that a pointer to the bytes stands for. -/
def cString (memory : List Byte) : List Byte := memory.takeWhile (· ≠ 0)

section Source

/-- `while ((temp << bit1num) & 0x80)`, which gives up beyond six. -/
def countOnes (temp : BitVec 32) : Nat → Nat → Option Nat
  | 0, _ => none
  | fuel + 1, bit1num =>
      if temp <<< bit1num &&& 0x80 = 0 then some bit1num
      else if 6 < bit1num + 1 then none
      else countOnes temp fuel (bit1num + 1)

/-- The loop of `RK_encode_is_utf8` from a byte on; `bit1num` continuation bytes are owed. -/
def isUtf8From : Nat → List Byte → Bool
  | bit1num, [] => bit1num = 0
  | bit1num, byte :: rest =>
      if bit1num = 0 ∧ byte &&& 0x80 = 0 then isUtf8From bit1num rest
      else if bit1num ≠ 0 ∧ byte &&& 0xc0 = 0x80 then isUtf8From (bit1num - 1) rest
      else if bit1num ≠ 0 ∧ byte &&& 0xc0 ≠ 0x80 then false
      else
        match countOnes (byte.setWidth 32) 8 0 with
        | none => false
        | some ones => if ones < 2 then false else isUtf8From (ones - 1) rest

def rkEncodeIsUtf8 (buf : List Byte) (size : Nat) : Bool :=
  if size = 0 ∨ buf.head? = some 0 then true else isUtf8From 0 (buf.take size)

theorem tableIndex_lt {ch cl : Byte} (inside : ch ≤ 0x7d ∧ cl ≤ 0xbe) :
    ch.toNat * 0xbf + cl.toNat < 24080 := by
  have row : ch.toNat ≤ 0x7d := inside.1
  have column : cl.toNat ≤ 0xbe := inside.2
  omega

/-- `mb_gb2uni_table` -/
abbrev Table := Fin 24080 → BitVec 16

variable (mbGb2uniTable : Table)

/-- The differences are taken in an `unsigned char`. -/
def gbkToUnicode (ch cl : Byte) : BitVec 16 :=
  let ch := ch - 0x81
  let cl := cl - 0x40
  if inside : ch ≤ 0x7d ∧ cl ≤ 0xbe then
    mbGb2uniTable ⟨ch.toNat * 0xbf + cl.toNat, tableIndex_lt inside⟩
  else 0x1fff

/-- `(char)(mark | (bits & mask))` -/
def marked (mark bits mask : BitVec 32) : Byte := (mark ||| (bits &&& mask)).setWidth 8

/-- The bytes of `tmp`, of which `strcpy` takes those before the first NUL. -/
def unicodeToUtf8 (c : BitVec 32) : List Byte :=
  if c < 0x80 then cString [c.setWidth 8]
  else if c < 0x800 then [marked 0xC0 (c >>> 6) 0x1F, marked 0x80 c 0x3F]
  else if c < 0x10000 then
    [marked 0xE0 (c >>> 12) 0x0F, marked 0x80 (c >>> 6) 0x3F, marked 0x80 c 0x3F]
  else if c < 0x200000 then
    [marked 0xF0 (c >>> 18) 0x07, marked 0x80 (c >>> 12) 0x3F, marked 0x80 (c >>> 6) 0x3F,
      marked 0x80 c 0x3F]
  else if c < 0x04000000 then
    [marked 0xF8 (c >>> 24) 0x03, marked 0x80 (c >>> 18) 0x3F, marked 0x80 (c >>> 12) 0x3F,
      marked 0x80 (c >>> 6) 0x3F, marked 0x80 c 0x3F]
  else
    [marked 0xFC (c >>> 30) 0x01, marked 0x80 (c >>> 24) 0x3F, marked 0x80 (c >>> 18) 0x3F,
      marked 0x80 (c >>> 12) 0x3F, marked 0x80 (c >>> 6) 0x3F, marked 0x80 c 0x3F]

/-- Of a string with its length.  Behind a last lead byte the terminator is read. -/
def gbkToUtf8 : List Byte → List Byte
  | [] => []
  | ch :: rest =>
      if ch < 0x80 then unicodeToUtf8 (ch.setWidth 32) ++ gbkToUtf8 rest
      else
        match rest with
        | [] => unicodeToUtf8 ((gbkToUnicode mbGb2uniTable ch 0).setWidth 32)
        | cl :: rest =>
            unicodeToUtf8 ((gbkToUnicode mbGb2uniTable ch cl).setWidth 32) ++ gbkToUtf8 rest

end Source

section Grammar

def IsAscii (byte : Byte) : Prop := byte.toNat < 0x80

/-- The byte begins with as many ones and a zero. -/
def IsLead (ones : Nat) (byte : Byte) : Prop :=
  byte.toNat / 2 ^ (7 - ones) = 2 ^ (ones + 1) - 2

def IsContinuation (byte : Byte) : Prop := byte.toNat / 2 ^ 6 = 2

instance (byte : Byte) : Decidable (IsAscii byte) := by
  unfold IsAscii
  infer_instance

instance (ones : Nat) (byte : Byte) : Decidable (IsLead ones byte) := by
  unfold IsLead
  infer_instance

instance (byte : Byte) : Decidable (IsContinuation byte) := by
  unfold IsContinuation
  infer_instance

/-- ASCII bytes, and lead bytes with the continuation bytes that they announce. -/
inductive Utf8 : List Byte → Prop
  | nil : Utf8 []
  | ascii {byte : Byte} {rest : List Byte} :
      IsAscii byte → Utf8 rest → Utf8 (byte :: rest)
  | multi {ones : Nat} {lead : Byte} {tail rest : List Byte} :
      2 ≤ ones → ones ≤ 6 → IsLead ones lead → tail.length = ones - 1 →
      (∀ byte ∈ tail, IsContinuation byte) → Utf8 rest → Utf8 (lead :: tail ++ rest)

/-- What may follow while continuation bytes are owed. -/
def Owed : Nat → List Byte → Prop
  | 0, bytes => Utf8 bytes
  | owed + 1, bytes => ∃ byte rest, bytes = byte :: rest ∧ IsContinuation byte ∧ Owed owed rest

variable {byte : Byte} {bytes rest tail : List Byte} {ones owed : Nat}

theorem owed_iff : Owed owed bytes ↔
    ∃ tail rest, bytes = tail ++ rest ∧ tail.length = owed ∧
      (∀ byte ∈ tail, IsContinuation byte) ∧ Utf8 rest := by
  induction owed generalizing bytes with
  | zero =>
      constructor
      · intro isUtf8
        exact ⟨[], bytes, rfl, rfl, fun _ member => (List.not_mem_nil member).elim, isUtf8⟩
      · rintro ⟨tail, rest, rfl, empty, _, isUtf8⟩
        rw [List.length_eq_zero_iff.mp empty]
        exact isUtf8
  | succ owed induction =>
      constructor
      · rintro ⟨byte, rest, rfl, continues, follows⟩
        obtain ⟨tail, rest, rfl, length, all, isUtf8⟩ := induction.mp follows
        refine ⟨byte :: tail, rest, rfl, congrArg (· + 1) length, ?_, isUtf8⟩
        exact List.forall_mem_cons.mpr ⟨continues, all⟩
      · rintro ⟨tail, rest, rfl, length, all, isUtf8⟩
        cases tail with
        | nil => cases length
        | cons byte tail =>
            obtain ⟨continues, all⟩ := List.forall_mem_cons.mp all
            exact ⟨byte, tail ++ rest, rfl, continues,
              induction.mpr ⟨tail, rest, rfl, Nat.succ_inj.mp length, all, isUtf8⟩⟩

theorem utf8_cons_iff : Utf8 (byte :: rest) ↔
    IsAscii byte ∧ Utf8 rest ∨
      ∃ ones, 2 ≤ ones ∧ ones ≤ 6 ∧ IsLead ones byte ∧ Owed (ones - 1) rest := by
  constructor
  · intro isUtf8
    generalize whole : byte :: rest = bytes at isUtf8
    cases isUtf8 with
    | nil => cases whole
    | ascii isAscii isUtf8 =>
        cases whole
        exact .inl ⟨isAscii, isUtf8⟩
    | multi two six isLead length all isUtf8 =>
        cases whole
        exact .inr ⟨_, two, six, isLead, owed_iff.mpr ⟨_, _, rfl, length, all, isUtf8⟩⟩
  · rintro (⟨isAscii, isUtf8⟩ | ⟨ones, two, six, isLead, owed⟩)
    · exact .ascii isAscii isUtf8
    · obtain ⟨tail, rest, rfl, length, all, isUtf8⟩ := owed_iff.mp owed
      exact .multi two six isLead length all isUtf8

theorem Utf8.append (first : Utf8 bytes) (second : Utf8 rest) : Utf8 (bytes ++ rest) := by
  induction first with
  | nil => exact second
  | ascii isAscii _ induction => exact .ascii isAscii induction
  | multi two six isLead length all _ induction =>
      rw [List.append_assoc]
      exact .multi two six isLead length all induction

end Grammar

section Validator

variable {byte : Byte} {bytes : List Byte} {ones owed : Nat}

theorem and_eq_zero_iff : ∀ byte : Byte, byte &&& 0x80 = 0 ↔ IsAscii byte := by
  decide

theorem and_eq_continuation_iff : ∀ byte : Byte, byte &&& 0xc0 = 0x80 ↔ IsContinuation byte := by
  decide

theorem countOnes_iff : ∀ byte : Byte, ∀ ones < 7,
    countOnes (byte.setWidth 32) 8 0 = some ones ↔ IsLead ones byte := by
  decide

theorem countOnes_le : ∀ byte : Byte, ∀ ones ∈ countOnes (byte.setWidth 32) 8 0, ones < 7 := by
  decide

theorem not_isAscii_of_isLead : ∀ byte : Byte, ∀ ones < 7, 2 ≤ ones → IsLead ones byte →
    ¬ IsAscii byte := by
  decide

theorem isUtf8From_owed (rest : List Byte) : isUtf8From (owed + 1) (byte :: rest) =
    (decide (IsContinuation byte) && isUtf8From owed rest) := by
  rw [isUtf8From, if_neg fun both => Nat.succ_ne_zero owed both.1]
  by_cases continues : IsContinuation byte
  · rw [if_pos ⟨Nat.succ_ne_zero owed, (and_eq_continuation_iff byte).mpr continues⟩,
      decide_eq_true continues, Bool.true_and, Nat.add_sub_cancel]
  · have differs := mt (and_eq_continuation_iff byte).mp continues
    rw [if_neg fun both => differs both.2, if_pos ⟨Nat.succ_ne_zero owed, differs⟩,
      decide_eq_false continues, Bool.false_and]

theorem isUtf8From_ascii (rest : List Byte) (isAscii : IsAscii byte) :
    isUtf8From 0 (byte :: rest) = isUtf8From 0 rest := by
  rw [isUtf8From, if_pos ⟨rfl, (and_eq_zero_iff byte).mpr isAscii⟩]

theorem isUtf8From_lead (rest : List Byte) (other : ¬ IsAscii byte) :
    isUtf8From 0 (byte :: rest) =
      match countOnes (byte.setWidth 32) 8 0 with
      | none => false
      | some ones => if ones < 2 then false else isUtf8From (ones - 1) rest := by
  rw [isUtf8From, if_neg fun both => other ((and_eq_zero_iff byte).mp both.2),
    if_neg fun both => both.1 rfl, if_neg fun both => both.1 rfl]

/-- From any point on, the loop accepts what may follow the bytes before. -/
theorem isUtf8From_iff : isUtf8From owed bytes = true ↔ Owed owed bytes := by
  induction bytes generalizing owed with
  | nil =>
      cases owed with
      | zero => exact ⟨fun _ => .nil, fun _ => rfl⟩
      | succ owed =>
          constructor
          · intro accepted
            cases accepted
          · rintro ⟨_, _, whole, _⟩
            cases whole
  | cons byte rest induction =>
      cases owed with
      | succ owed =>
          rw [isUtf8From_owed, Bool.and_eq_true, decide_eq_true_iff, induction]
          constructor
          · intro follows
            exact ⟨byte, rest, rfl, follows⟩
          · rintro ⟨_, _, whole, follows⟩
            cases whole
            exact follows
      | zero =>
          rw [Owed, utf8_cons_iff]
          by_cases isAscii : IsAscii byte
          · rw [isUtf8From_ascii rest isAscii, induction]
            constructor
            · intro isUtf8
              exact .inl ⟨isAscii, isUtf8⟩
            · rintro (⟨_, isUtf8⟩ | ⟨ones, two, six, isLead, _⟩)
              · exact isUtf8
              · exact absurd isAscii
                  (not_isAscii_of_isLead byte ones (Nat.lt_succ_of_le six) two isLead)
          · rw [isUtf8From_lead rest isAscii]
            cases counted : countOnes (byte.setWidth 32) 8 0 with
            | none =>
                constructor
                · intro accepted
                  cases accepted
                · rintro (⟨ascii, _⟩ | ⟨ones, _, six, isLead, _⟩)
                  · exact absurd ascii isAscii
                  · have some := (countOnes_iff byte ones (Nat.lt_succ_of_le six)).mpr isLead
                    exact (Option.some_ne_none _ (some.symm.trans counted)).elim
            | some ones =>
                have below := countOnes_le byte ones counted
                have isLead := (countOnes_iff byte ones below).mp counted
                dsimp only
                constructor
                · intro accepted
                  split at accepted
                  next => cases accepted
                  next two =>
                    exact .inr ⟨ones, Nat.le_of_not_lt two, Nat.le_of_lt_succ below, isLead,
                      induction.mp accepted⟩
                · rintro (⟨ascii, _⟩ | ⟨other, two, six, otherLead, follows⟩)
                  · exact absurd ascii isAscii
                  · have same := (countOnes_iff byte other (Nat.lt_succ_of_le six)).mpr otherLead
                    cases counted.symm.trans same
                    rw [if_neg (Nat.not_lt_of_le two)]
                    exact induction.mpr follows

theorem rkEncodeIsUtf8_iff (noNul : 0 ∉ bytes) :
    rkEncodeIsUtf8 bytes bytes.length = true ↔ Utf8 bytes := by
  unfold rkEncodeIsUtf8
  split
  next empty =>
    have isNil : bytes = [] := by
      rcases empty with none | head
      · exact List.length_eq_zero_iff.mp none
      · exact absurd (List.mem_of_head? head) noNul
    rw [isNil]
    exact ⟨fun _ => .nil, fun _ => rfl⟩
  next => rw [List.take_length, isUtf8From_iff, Owed]

end Validator

section Converter

variable {c : BitVec 32} {table : Table} {bytes : List Byte}

def Utf8String (bytes : List Byte) : Prop := Utf8 bytes ∧ 0 ∉ bytes

theorem Utf8String.append {first second : List Byte} (before : Utf8String first)
    (after : Utf8String second) : Utf8String (first ++ second) :=
  ⟨before.1.append after.1, fun member =>
    (List.mem_append.mp member).elim before.2 after.2⟩

theorem isLead_or : ∀ bits : Byte,
    IsLead 2 (0xC0 ||| (bits &&& 0x1F)) ∧ IsLead 3 (0xE0 ||| (bits &&& 0x0F)) ∧
      IsLead 4 (0xF0 ||| (bits &&& 0x07)) ∧ IsLead 5 (0xF8 ||| (bits &&& 0x03)) ∧
      IsLead 6 (0xFC ||| (bits &&& 0x01)) := by
  decide

theorem isContinuation_or : ∀ bits : Byte, IsContinuation (0x80 ||| (bits &&& 0x3F)) := by
  decide

theorem ne_zero_of_isContinuation {byte : Byte} (continues : IsContinuation byte) : byte ≠ 0 := by
  rintro rfl
  cases continues

theorem isContinuation_marked (bits : BitVec 32) : IsContinuation (marked 0x80 bits 0x3F) := by
  rw [marked, BitVec.setWidth_or, BitVec.setWidth_and]
  exact isContinuation_or (bits.setWidth 8)

theorem utf8String_multi {ones : Nat} {lead : Byte} {tail : List Byte} (two : 2 ≤ ones)
    (six : ones ≤ 6) (isLead : IsLead ones lead) (length : tail.length = ones - 1)
    (all : ∀ byte ∈ tail, IsContinuation byte) : Utf8String (lead :: tail) := by
  constructor
  · rw [← List.append_nil tail, ← List.cons_append]
    exact .multi two six isLead length all .nil
  · intro member
    rcases List.mem_cons.mp member with isLeadByte | isTail
    · refine not_isAscii_of_isLead lead ones (Nat.lt_succ_of_le six) two isLead ?_
      rw [← isLeadByte]
      exact Nat.zero_lt_succ _
    · exact ne_zero_of_isContinuation (all 0 isTail) rfl

theorem cString_noNul (memory : List Byte) : 0 ∉ cString memory := by
  intro member
  have differs := List.mem_takeWhile_imp member
  exact absurd rfl (of_decide_eq_true differs)

theorem isLead_marked (bits : BitVec 32) :
    IsLead 2 (marked 0xC0 bits 0x1F) ∧ IsLead 3 (marked 0xE0 bits 0x0F) ∧
      IsLead 4 (marked 0xF0 bits 0x07) ∧ IsLead 5 (marked 0xF8 bits 0x03) ∧
      IsLead 6 (marked 0xFC bits 0x01) := by
  simp only [marked, BitVec.setWidth_or, BitVec.setWidth_and]
  exact isLead_or (bits.setWidth 8)

theorem utf8_cString_small (small : c < 0x80) : Utf8 (cString [c.setWidth 8]) := by
  rw [cString, List.takeWhile_cons, List.takeWhile_nil]
  split
  next =>
    refine .ascii ?_ .nil
    rw [BitVec.lt_def] at small
    rw [IsAscii, BitVec.toNat_setWidth]
    exact Nat.lt_of_le_of_lt (Nat.mod_le _ _) small
  next => exact .nil

theorem utf8String_unicodeToUtf8 : Utf8String (unicodeToUtf8 c) := by
  unfold unicodeToUtf8
  split
  next small => exact ⟨utf8_cString_small small, cString_noNul _⟩
  next =>
    split
    next =>
      refine utf8String_multi (Nat.le_refl 2) (by decide) (isLead_marked _).1 rfl ?_
      simp only [List.forall_mem_cons, isContinuation_marked, List.not_mem_nil, false_implies,
        implies_true, and_self]
    next =>
      split
      next =>
        refine utf8String_multi (by decide) (by decide) (isLead_marked _).2.1 rfl ?_
        simp only [List.forall_mem_cons, isContinuation_marked, List.not_mem_nil, false_implies,
          implies_true, and_self]
      next =>
        split
        next =>
          refine utf8String_multi (by decide) (by decide) (isLead_marked _).2.2.1 rfl ?_
          simp only [List.forall_mem_cons, isContinuation_marked, List.not_mem_nil,
            false_implies, implies_true, and_self]
        next =>
          split
          next =>
            refine utf8String_multi (by decide) (by decide) (isLead_marked _).2.2.2.1 rfl ?_
            simp only [List.forall_mem_cons, isContinuation_marked, List.not_mem_nil,
              false_implies, implies_true, and_self]
          next =>
            refine utf8String_multi (by decide) (Nat.le_refl 6) (isLead_marked _).2.2.2.2 rfl ?_
            simp only [List.forall_mem_cons, isContinuation_marked, List.not_mem_nil,
              false_implies, implies_true, and_self]

/-- The table has only words of sixteen bits, so whatever it holds there is an encoding. -/
theorem utf8String_gbkToUtf8 (table : Table) (src : List Byte) :
    Utf8String (gbkToUtf8 table src) := by
  induction src using gbkToUtf8.induct with
  | case1 => exact ⟨.nil, List.not_mem_nil⟩
  | case2 ch rest small induction =>
      rw [gbkToUtf8.eq_def]
      dsimp only
      rw [if_pos small]
      exact utf8String_unicodeToUtf8.append induction
  | case3 ch large =>
      rw [gbkToUtf8, if_neg large]
      exact utf8String_unicodeToUtf8
  | case4 ch large cl rest induction =>
      rw [gbkToUtf8, if_neg large]
      exact utf8String_unicodeToUtf8.append induction

end Converter

end Rkipc.Wifi
