import Rkipc.Param.Users

namespace Rkipc.Param

open Ini

/-! An `int` through the text of its entry and back. -/

/-- Keys that are read as one. -/
def SameEntry (entry other : Text) : Prop := strlwc entry 1025 = strlwc other 1025

/-- `val` can be set, is read whatever the default is, and no other entry changes. -/
def IntSurvives (store : Store) (entry : Text) (val : Int32) : Prop :=
  ∃ next, rkParamSetInt entry val.toInt store = .ok next ∧
    (∀ default, rkParamGetInt entry default next = .ok val.toInt) ∧
    ∀ other, ¬ SameEntry other entry → ∀ default,
      rkParamGetString other default next = rkParamGetString other default store

theorem length_decimal_lt {val : Int} :
    (decimal val).length < 8 ↔ -999999 ≤ val ∧ val ≤ 9999999 := by
  have digits (k : Nat) (positive : 0 < k) :
      (Nat.toDigits 10 val.natAbs).length ≤ k ↔ val.natAbs < 10 ^ k :=
    Nat.length_toDigits_le_iff (by decide) positive
  unfold decimal
  split
  next negative =>
    have six := digits 6 (by decide)
    rw [List.length_cons]
    omega
  next nonneg =>
    have seven := digits 7 (by decide)
    omega

section Writes

variable {store : Store} {d : Dictionary} {entry : Text}

theorem getInt_set (sound : d.Sound) (entry text : Text) (default : Int) :
    iniparserGetnumber strtol (some (iniparserSet d entry (some text))) entry default =
      .ok (strtol text) := by
  unfold iniparserGetnumber iniparserSet
  rw [Option.bind_some, find_set sound, Function.update_self]

theorem find_set_other (sound : d.Sound) {other : Text} (isOther : ¬ SameEntry other entry)
    (val : Option Text) :
    dictionaryFind (iniparserSet d entry val) (strlwc other 1025) =
      dictionaryFind d (strlwc other 1025) := by
  unfold iniparserSet
  rw [find_set sound]
  exact Function.update_of_ne isOther _ _

/-- Seven characters are the room in the buffer. -/
theorem intSurvives_iff (live : store.dict = .ok (some d)) (sound : d.Sound) (entry : Text)
    (val : Int32) : IntSurvives store entry val ↔ -999999 ≤ val.toInt ∧ val.toInt ≤ 9999999 := by
  obtain ⟨next, wrote, isNext⟩ := write_next live
    fun d => iniparserSet d entry (some (decimal val.toInt))
  have ran : rkParamSetInt entry val.toInt store =
      if (decimal val.toInt).length < 8 then .ok next else .error .overflow := by
    unfold rkParamSetInt rkParamSetString
    rw [wrote]
    rfl
  rw [← length_decimal_lt]
  constructor
  · rintro ⟨after, isAfter, _⟩
    by_contra long
    rw [ran, if_neg long] at isAfter
    cases isAfter
  · intro short
    obtain ⟨low, high⟩ := bounds_of_length short
    refine ⟨next, ran.trans (if_pos short), fun default => ?_, fun other isOther default => ?_⟩
    · unfold rkParamGetInt
      rw [isNext]
      exact (getInt_set sound entry _ default).trans (congrArg Except.ok (strtol_decimal low high))
    · unfold rkParamGetString
      rw [isNext, live]
      dsimp only [bind, Except.bind, iniparserGetstring, dictionaryGet]
      rw [find_set_other sound isOther]

end Writes

/-- A configuration with the section of the first stream. -/
def oneSection : Dictionary := iniparserSet (dictionaryNew 0) "video.0".toList none

theorem sound_oneSection : oneSection.Sound := (set_spec (sound_new 0) _ _).1

theorem intSurvives_iff_gop :
    IntSurvives ⟨[some oneSection], some 0, none, none⟩ "video.0:gop".toList (-50) :=
  (intSurvives_iff rfl sound_oneSection _ _).mpr (by decide)

/-- Eight digits and the terminator do not fit. -/
theorem rate_overflows :
    ¬ IntSurvives ⟨[some oneSection], some 0, none, none⟩ "video.0:max_rate".toList 10000000 := by
  rintro ⟨next, isNext, _⟩
  have fault : rkParamSetInt "video.0:max_rate".toList (10000000 : Int32).toInt
      ⟨[some oneSection], some 0, none, none⟩ = .error .overflow := by decide
  rw [fault] at isNext
  cases isNext

end Rkipc.Param
