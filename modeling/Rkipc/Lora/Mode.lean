import Mathlib.Data.List.Basic

namespace Rkipc.Lora

/-! The mode of the module and its pins. -/

inductive Mode
  | config
  | normal
  | sleep
deriving DecidableEq

def Mode.levels : Mode → Bool × Bool
  | .config => (false, false)
  | .normal => (true, false)
  | .sleep => (true, true)

/-- A number of an error. -/
structure Errno where
  value : BitVec 32
  positive : 0 < value.toInt
deriving DecidableEq

/-- How far `rk_gpio_set_value` comes.  When the text of the level cannot be printed or the file
cannot be closed, the level may have `reached` the pin. -/
inductive Sysfs
  | directionFails (errno : Errno)
  | notOut
  | noMemory
  | openFails (errno : Errno)
  | printFails (errno : Errno) (reached : Bool)
  | closeFails (errno : Errno) (reached : Bool)
  | reopenFails (errno : Errno)
  | scanFails (errno : Errno)
  | recloseFails (errno : Errno)
  | differs
  | verified
deriving DecidableEq

namespace Sysfs

def einval : BitVec 32 := 22
def enomem : BitVec 32 := 12

/-- A level is printed as one character. -/
def ret : Sysfs → BitVec 32
  | directionFails errno | openFails errno | printFails errno _ | closeFails errno _
  | reopenFails errno | scanFails errno | recloseFails errno => -errno.value
  | notOut => -einval
  | noMemory => -enomem
  | differs => -1
  | verified => 1

def isReached : Sysfs → Bool
  | directionFails _ | notOut | noMemory | openFails _ | differs => false
  | printFails _ reached | closeFails _ reached => reached
  | reopenFails _ | scanFails _ | recloseFails _ | verified => true

end Sysfs

/-- The value of `rk_gpio_set_value`, with the level of the pin. -/
def rkGpioSetValue (pin value : Bool) (sysfs : Sysfs) : BitVec 32 × Bool :=
  (sysfs.ret, if sysfs.isReached then value else pin)

structure LoraModule where
  mode : Mode
  md0 : Bool
  md1 : Bool
deriving DecidableEq

/-- A call of `setMode`, and how its two writes end. -/
structure SetMode where
  mode : Mode
  first : Sysfs
  second : Sysfs
deriving DecidableEq

namespace LoraModule

def applyGpio (module : LoraModule) (first second : Sysfs) : Bool × LoraModule :=
  let (md0, md1) := module.mode.levels
  let (ret0, md0) := rkGpioSetValue module.md0 md0 first
  let (ret1, md1) := rkGpioSetValue module.md1 md1 second
  let ret := 0 ||| ret0 ||| ret1
  (decide (0 < ret.toInt), { module with md0 := md0, md1 := md1 })

def setMode (module : LoraModule) (call : SetMode) : Bool × LoraModule :=
  { module with mode := call.mode }.applyGpio call.first call.second

def Applied (module : LoraModule) : Prop := module.mode.levels = (module.md0, module.md1)

/-- What a call of `setMode` has to do. -/
structure FollowsPins (module : LoraModule) (call : SetMode) : Prop where
  returns : (module.setMode call).1 = true ↔ call.first = .verified ∧ call.second = .verified
  applied : (module.setMode call).2.Applied
  fails : (module.setMode call).1 = false → (module.setMode call).2 = module

def Written (call : SetMode) : Prop := call.first = .verified ∧ call.second = .verified

/-- The mode is the recorded one, and the pins are at its levels. -/
def Already (module : LoraModule) (call : SetMode) : Prop :=
  module.mode = call.mode ∧ module.Applied

def history (module : LoraModule) : List SetMode → List (LoraModule × SetMode)
  | [] => []
  | call :: calls => (module, call) :: history (module.setMode call).2 calls

end LoraModule

section Returns

variable {sysfs first second : Sysfs}

theorem neg_errno (errno : Errno) : (-errno.value).msb = true := by
  have positive := errno.positive
  rw [BitVec.toInt_eq_toNat_cond] at positive
  rw [BitVec.msb_eq_true_iff_two_mul_ge, BitVec.toNat_neg]
  split at positive
  · omega
  · have isLess := errno.value.isLt
    omega

theorem ret_neg (fails : sysfs ≠ .verified) : sysfs.ret.msb = true := by
  cases sysfs with
  | notOut => decide
  | noMemory => decide
  | differs => decide
  | verified => exact absurd rfl fails
  | directionFails errno | openFails errno | printFails errno _ | closeFails errno _
  | reopenFails errno | scanFails errno | recloseFails errno => exact neg_errno errno

/-- A negative number among the two makes the sum of the bits negative. -/
theorem or_pos_iff :
    0 < (0 ||| first.ret ||| second.ret).toInt ↔ first = .verified ∧ second = .verified := by
  constructor
  · intro positive
    have notNeg : (0 ||| first.ret ||| second.ret).msb = false := by
      by_contra isNeg
      have neg := BitVec.toInt_neg_of_msb_true ((Bool.not_eq_false _).mp isNeg)
      omega
    rw [BitVec.msb_or, BitVec.msb_or, Bool.or_eq_false_iff, Bool.or_eq_false_iff] at notNeg
    constructor
    · by_contra fails
      exact absurd (ret_neg fails) (by rw [notNeg.1.2]; exact Bool.false_ne_true)
    · by_contra fails
      exact absurd (ret_neg fails) (by rw [notNeg.2]; exact Bool.false_ne_true)
  · rintro ⟨rfl, rfl⟩
    decide

end Returns

namespace LoraModule

variable {module : LoraModule} {call : SetMode} {calls : List SetMode}

theorem setMode_returns : (module.setMode call).1 = true ↔ Written call :=
  decide_eq_true_iff.trans or_pos_iff

theorem setMode_written (written : Written call) :
    (module.setMode call).2 = ⟨call.mode, call.mode.levels.1, call.mode.levels.2⟩ := by
  obtain ⟨mode, first, second⟩ := call
  obtain ⟨rfl, rfl⟩ := written
  rfl

theorem setMode_already (already : Already module call) : (module.setMode call).2 = module := by
  obtain ⟨mode, md0, md1⟩ := module
  obtain ⟨rfl, isApplied⟩ := already
  have isLevels : call.mode.levels = (md0, md1) := isApplied
  rw [setMode, applyGpio]
  dsimp only
  rw [isLevels]
  dsimp only [rkGpioSetValue]
  rw [ite_self, ite_self]

theorem follows_iff : module.FollowsPins call ↔ Written call ∨ Already module call := by
  constructor
  · intro follows
    by_cases returned : (module.setMode call).1 = true
    · exact .inl (follows.returns.mp returned)
    · have same := follows.fails ((Bool.not_eq_true _).mp returned)
      have applied := follows.applied
      rw [same] at applied
      exact .inr ⟨(congrArg LoraModule.mode same).symm, applied⟩
  · rintro (written | already)
    · refine ⟨setMode_returns, ?_, fun fails => ?_⟩
      · rw [setMode_written written]
        rfl
      · rw [setMode_returns.mpr written] at fails
        cases fails
    · have same := setMode_already already
      refine ⟨setMode_returns, ?_, fun _ => same⟩
      rw [same]
      exact already.2

/-- Over all calls: each of them writes both pins, or there is nothing to do. -/
theorem setMode_follows_iff (module : LoraModule) (calls : List SetMode) :
    (∀ moment ∈ module.history calls, moment.1.FollowsPins moment.2) ↔
      ∀ moment ∈ module.history calls, Written moment.2 ∨ Already moment.1 moment.2 :=
  forall₂_congr fun _ _ => follows_iff

/-- MD1 fails on the way to sleep. -/
theorem half_written : ¬ ∀ (module : LoraModule) (calls : List SetMode),
    ∀ moment ∈ module.history calls, moment.1.FollowsPins moment.2 := by
  intro general
  have follows := general ⟨.config, false, false⟩
    [⟨.normal, .verified, .verified⟩, ⟨.sleep, .verified, .notOut⟩]
    (⟨.normal, true, false⟩, ⟨.sleep, .verified, .notOut⟩) (.tail _ (.head _))
  have applied : Mode.sleep.levels = (true, false) := follows.applied
  exact absurd applied (by decide)

end LoraModule

end Rkipc.Lora
