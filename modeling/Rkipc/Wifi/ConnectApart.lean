import Mathlib.Data.List.Infix
import Rkipc.Wifi.Connect

namespace Rkipc.Wifi.Connect

open Transition

/-! Runs in which the attempts to connect do not interfere. -/

/-- The caller has marked the network as a saved one. -/
def Attempt.marked (attempt : Attempt) : Bool :=
  attempt.withSsid && !decide (attempt.caller ∈ [.locking, .begun, .marking])

/-- The id that a thread has read is this one, and it has not been cancelled. -/
def Check.Names (own : Option Nat) : Check → Prop
  | .polling id _ => id = own
  | .failing id => id = own
  | .flushing _ => False
  | _ => True

/-- What holds of an attempt by itself. -/
structure Attempt.Settled (attempt : Attempt) : Prop where
  created : attempt.check ≠ none → attempt.caller ∈ [.unlocking, .done]
  names : ∀ check, attempt.check = some check → check.Names attempt.id
  marks : attempt.caller ∈ [.marking, .unmarking] → attempt.withSsid = true
  unlocks : attempt.caller = .unlocking → attempt.withSsid = false

/-- What the shared variables are for the attempt that is in progress. -/
structure Attempt.Fits (attempt : Attempt) (state : State) : Prop where
  mark : state.wifiIsExist = attempt.marked
  id : attempt.caller = .setting ∨ attempt.check = some .reading →
    state.connectingId = attempt.id

/-- What holds of a call that cancels: what it has set stays. -/
structure Cancel.Waits (call : Cancel) (state : State) : Prop where
  set : call.at' ≠ .writing → call.at' ≠ .returned (-1) → state.wifiCancel = true
  result : call.at' ≠ .returned 0

/-- At most one attempt is in progress. -/
def One (attempts : List Attempt) : Prop :=
  ∀ (first second : Nat) (attempt other : Attempt), attempts[first]? = some attempt →
    attempts[second]? = some other → attempt.inProgress = true → other.inProgress = true →
      first = second

structure State.Kept (state : State) : Prop where
  one : One state.attempts
  settled : ∀ attempt ∈ state.attempts, attempt.Settled
  fits : ∀ attempt ∈ state.attempts, attempt.inProgress = true → attempt.Fits state
  free : (∀ attempt ∈ state.attempts, attempt.inProgress = false) → state.wifiIsExist = false
  acts : ∀ act ∈ state.acts, act.Own
  ends : state.ends = []
  cancels : ∀ call ∈ state.cancels, call.Waits state

namespace Attempt

variable {attempt changed : Attempt}

theorem settled_of_none (none : attempt.check = none)
    (marks : attempt.caller ∈ [.marking, .unmarking] → attempt.withSsid = true)
    (unlocks : attempt.caller = .unlocking → attempt.withSsid = false) : attempt.Settled where
  created := fun isSome => absurd none isSome
  names := by
    intro check isCheck
    rw [none] at isCheck
    cases isCheck
  marks := marks
  unlocks := unlocks

theorem Settled.check_none (settled : attempt.Settled) {caller : Caller}
    (isCaller : attempt.caller = caller) (early : caller ∉ [.unlocking, .done]) :
    attempt.check = none := by
  by_contra isSome
  exact early (isCaller ▸ settled.created isSome)

theorem inProgress_of_none (none : attempt.check = none) :
    attempt.inProgress = decide (attempt.caller ≠ .done) := by
  rw [inProgress, none]

theorem inProgress_of_check {check : Check} (isCheck : attempt.check = some check) :
    attempt.inProgress = decide (check ≠ .ended) := by
  rw [inProgress, isCheck]

/-- What a thread has behind its caller is marked if it is an attempt with a saved network. -/
theorem Settled.marked_eq (settled : attempt.Settled) (isSome : attempt.check ≠ none) :
    attempt.marked = attempt.withSsid := by
  have created := settled.created isSome
  have late : attempt.caller ∉ [.locking, .begun, .marking] := by
    intro early
    revert early created
    cases attempt.caller <;> decide
  rw [marked, decide_eq_false late, Bool.not_false, Bool.and_true]

end Attempt

theorem One.set {attempts : List Attempt} {index : Nat} {attempt changed : Attempt}
    (one : One attempts) (isAt : attempts[index]? = some attempt)
    (progress : changed.inProgress = true → attempt.inProgress = true) :
    One (attempts.set index changed) := by
  have before : ∀ (position : Nat) (found : Attempt),
      (attempts.set index changed)[position]? = some found → found.inProgress = true →
        ∃ old, attempts[position]? = some old ∧ old.inProgress = true := by
    intro position found isFound going
    by_cases same : index = position
    · rw [← same, List.getElem?_set_self (List.getElem?_eq_some_iff.mp isAt).1] at isFound
      exact ⟨attempt, same ▸ isAt, progress (Option.some.inj isFound ▸ going)⟩
    · rw [List.getElem?_set_ne same] at isFound
      exact ⟨found, isFound, going⟩
  intro first second found other isFirst isSecond going otherGoing
  obtain ⟨old, isOld, oldGoing⟩ := before first found isFirst going
  obtain ⟨oldOther, isOldOther, oldOtherGoing⟩ := before second other isSecond otherGoing
  exact one first second old oldOther isOld isOldOther oldGoing oldOtherGoing

theorem One.append {attempts : List Attempt}
    (isOver : ∀ attempt ∈ attempts, attempt.inProgress = false) (last : Attempt) :
    One (attempts ++ [last]) := by
  have isLast : ∀ (position : Nat) (found : Attempt),
      (attempts ++ [last])[position]? = some found → found.inProgress = true →
        position = attempts.length := by
    intro position found isFound going
    rcases Nat.lt_trichotomy position attempts.length with earlier | same | later
    · rw [List.getElem?_append_left earlier] at isFound
      rw [isOver found (List.mem_of_getElem? isFound)] at going
      cases going
    · exact same
    · rw [List.getElem?_eq_none (by rw [List.length_append]; exact later)] at isFound
      cases isFound
  intro first second found other isFirst isSecond going otherGoing
  exact (isLast first found isFirst going).trans (isLast second other isSecond otherGoing).symm

namespace State.Kept

variable {state next : State} {index : Nat} {attempt changed : Attempt}

theorem start : start.Kept := by
  refine ⟨?_, ?_, ?_, fun _ => rfl, ?_, rfl, ?_⟩
  · intro first second attempt other isFirst
    cases isFirst
  all_goals
    intro other member
    cases member

theorem accept (kept : state.Kept) (isOver : ∀ other ∈ state.attempts, other.inProgress = false)
    (isNew : attempt.check = none) (early : attempt.caller = .locking ∨ attempt.caller = .begun) :
    State.Kept { state with attempts := state.attempts ++ [attempt] } := by
  have going : attempt.inProgress = true := by
    rw [Attempt.inProgress_of_none isNew]
    rcases early with isCaller | isCaller <;> rw [isCaller] <;> rfl
  have settled : attempt.Settled := by
    refine Attempt.settled_of_none isNew ?_ ?_
    all_goals
      intro late
      rcases early with isCaller | isCaller <;> rw [isCaller] at late <;> simp at late
  have fits : attempt.Fits { state with attempts := state.attempts ++ [attempt] } := by
    refine ⟨?_, ?_⟩
    · have unmarked : attempt.marked = false := by
        rcases early with isCaller | isCaller <;> simp [Attempt.marked, isCaller]
      rw [unmarked]
      exact kept.free isOver
    · rintro (isSetting | isReading)
      · rcases early with isCaller | isCaller <;> rw [isCaller] at isSetting <;> cases isSetting
      · rw [isNew] at isReading
        cases isReading
  refine ⟨One.append isOver attempt, ?_, ?_, ?_, kept.acts, kept.ends, ?_⟩
  · intro other member
    rcases List.mem_append.mp member with isOld | isLast
    · exact kept.settled other isOld
    · exact List.mem_singleton.mp isLast ▸ settled
  · intro other member otherGoing
    rcases List.mem_append.mp member with isOld | isLast
    · rw [isOver other isOld] at otherGoing
      cases otherGoing
    · exact List.mem_singleton.mp isLast ▸ fits
  · intro allOver
    have ended := allOver attempt (List.mem_append_right _ (List.mem_singleton.mpr rfl))
    rw [going] at ended
    cases ended
  · intro call member
    exact ⟨(kept.cancels call member).set, (kept.cancels call member).result⟩

/-- One attempt goes on; the shared variables change only while it is in progress. -/
theorem update (kept : state.Kept) (isAt : state.attempts[index]? = some attempt)
    (isSet : next.attempts = state.attempts.set index changed)
    (cancels : next.cancels = state.cancels) (wifiCancel : next.wifiCancel = state.wifiCancel)
    (ends : next.ends = state.ends) (acts : ∀ act ∈ next.acts, act.Own)
    (settled : changed.Settled)
    (progress : changed.inProgress = true → attempt.inProgress = true)
    (fits : changed.inProgress = true → changed.Fits next)
    (same : attempt.inProgress = false →
      next.wifiIsExist = state.wifiIsExist ∧ next.connectingId = state.connectingId)
    (free : attempt.inProgress = true → changed.inProgress = false → next.wifiIsExist = false) :
    next.Kept := by
  have inside : index < state.attempts.length := (List.getElem?_eq_some_iff.mp isAt).1
  have isNow : next.attempts[index]? = some changed := by
    rw [isSet, List.getElem?_set_self inside]
  refine ⟨?_, ?_, ?_, ?_, acts, ends.trans kept.ends, ?_⟩
  · rw [isSet]
    exact kept.one.set isAt progress
  · intro other member
    rw [isSet] at member
    rcases List.mem_or_eq_of_mem_set member with isOld | isChanged
    · exact kept.settled other isOld
    · exact isChanged ▸ settled
  · intro other member going
    obtain ⟨position, isOther⟩ := List.mem_iff_getElem?.mp member
    by_cases here : index = position
    · rw [← here, isNow] at isOther
      exact Option.some.inj isOther ▸ fits (Option.some.inj isOther ▸ going)
    · rw [isSet, List.getElem?_set_ne here] at isOther
      -- the other attempt is in progress, so this one is not
      have isOver : attempt.inProgress = false :=
        Bool.eq_false_iff.mpr fun alsoGoing =>
          here (kept.one index position attempt other isAt isOther alsoGoing going)
      obtain ⟨isExist, connectingId⟩ := same isOver
      have old := kept.fits other (List.mem_of_getElem? isOther) going
      exact ⟨isExist.trans old.mark, fun early => connectingId.trans (old.id early)⟩
  · intro allOver
    have ended := allOver changed (List.mem_of_getElem? isNow)
    cases going : attempt.inProgress with
    | true => exact free going ended
    | false =>
        rw [(same going).1]
        refine kept.free fun other member => ?_
        obtain ⟨position, isOther⟩ := List.mem_iff_getElem?.mp member
        by_cases here : index = position
        · rw [← here, isAt] at isOther
          exact Option.some.inj isOther ▸ going
        · refine allOver other (List.mem_of_getElem? (i := position) ?_)
          rw [isSet, List.getElem?_set_ne here]
          exact isOther
  · intro call member
    rw [cancels] at member
    obtain ⟨set, result⟩ := kept.cancels call member
    exact ⟨fun started going => wifiCancel.trans (set started going), result⟩

/-- An attempt whose caller is before its last statement is in progress without a thread. -/
theorem early (kept : state.Kept) (isAt : state.attempts[index]? = some attempt) {caller : Caller}
    (isCaller : attempt.caller = caller) (early : caller ∉ [.unlocking, .done]) :
    attempt.check = none ∧ attempt.inProgress = true ∧ attempt.Fits state := by
  have member := List.mem_of_getElem? isAt
  have none : attempt.check = none := (kept.settled attempt member).check_none isCaller early
  have going : attempt.inProgress = true := by
    rw [Attempt.inProgress_of_none none, isCaller, decide_eq_true_eq]
    intro isDone
    rw [isDone] at early
    exact early (List.mem_cons_of_mem _ (List.mem_singleton.mpr rfl))
  exact ⟨none, going, kept.fits attempt member going⟩

/-- The caller of an attempt goes on and has not started the thread. -/
theorem onward (kept : state.Kept) (isAt : state.attempts[index]? = some attempt)
    (isSet : next.attempts = state.attempts.set index changed)
    (cancels : next.cancels = state.cancels) (wifiCancel : next.wifiCancel = state.wifiCancel)
    (ends : next.ends = state.ends) (acts : next.acts = state.acts)
    (going : attempt.inProgress = true)
    (none : changed.check = none) (ahead : changed.caller ≠ .done)
    (marks : changed.caller ∈ [.marking, .unmarking] → changed.withSsid = true)
    (unlocks : changed.caller = .unlocking → changed.withSsid = false)
    (mark : next.wifiIsExist = changed.marked)
    (id : changed.caller = .setting → next.connectingId = changed.id) : next.Kept := by
  have stillGoing : changed.inProgress = true := by
    rw [Attempt.inProgress_of_none none]
    exact decide_eq_true ahead
  refine kept.update isAt isSet cancels wifiCancel ends (acts ▸ kept.acts)
    (Attempt.settled_of_none none marks unlocks) (fun _ => going) (fun _ => ⟨mark, ?_⟩) ?_ ?_
  · rintro (isSetting | isReading)
    · exact id isSetting
    · rw [none] at isReading
      cases isReading
  · intro isOver
    rw [going] at isOver
    cases isOver
  · intro _ isOver
    rw [stillGoing] at isOver
    cases isOver

theorem fails (kept : state.Kept) (isAt : state.attempts[index]? = some attempt)
    (isCaller : attempt.caller = .searching ∨ attempt.caller = .setting) :
    (state.set index (failed attempt)).Kept := by
  obtain ⟨none, going, fits⟩ : attempt.check = none ∧ attempt.inProgress = true ∧
      attempt.Fits state := by
    rcases isCaller with isSearching | isSetting
    · exact kept.early isAt isSearching (by decide)
    · exact kept.early isAt isSetting (by decide)
  have mark : state.wifiIsExist = attempt.withSsid := by
    rw [fits.mark]
    rcases isCaller with isSearching | isSetting <;> simp [Attempt.marked, *]
  cases withSsid : attempt.withSsid with
  | false =>
      refine kept.onward isAt rfl rfl rfl rfl rfl going none ?_ ?_ ?_ ?_ ?_ <;>
        simp [failed, withSsid, Attempt.marked, mark, State.set]
  | true =>
      refine kept.onward isAt rfl rfl rfl rfl rfl going none ?_ ?_ ?_ ?_ ?_ <;>
        simp [failed, withSsid, Attempt.marked, mark, State.set]

theorem caller_locking (kept : state.Kept) (isAt : state.attempts[index]? = some attempt)
    (isCaller : attempt.caller = .locking) :
    State.Kept { state.set index { attempt with caller := .begun } with
      wifiConnectLock := true } := by
  obtain ⟨none, going, fits⟩ := kept.early isAt isCaller (by decide)
  have mark : state.wifiIsExist = false := by
    rw [fits.mark]
    simp [Attempt.marked, isCaller]
  refine kept.onward isAt rfl rfl rfl rfl rfl going none ?_ ?_ ?_ ?_ ?_ <;>
    simp [Attempt.marked, State.set, mark]

theorem caller_begun (kept : state.Kept) (isAt : state.attempts[index]? = some attempt)
    (isCaller : attempt.caller = .begun) :
    State.Kept { state.set index { attempt with
        caller := if attempt.withSsid then .marking else .searching } with
      wifiWrongKey := false } := by
  obtain ⟨none, going, fits⟩ := kept.early isAt isCaller (by decide)
  have mark : state.wifiIsExist = false := by
    rw [fits.mark]
    simp [Attempt.marked, isCaller]
  cases withSsid : attempt.withSsid with
  | false =>
      refine kept.onward isAt rfl rfl rfl rfl rfl going none ?_ ?_ ?_ ?_ ?_ <;>
        simp [Attempt.marked, State.set, mark]
  | true =>
      refine kept.onward isAt rfl rfl rfl rfl rfl going none ?_ ?_ ?_ ?_ ?_ <;>
        simp [Attempt.marked, State.set, mark]

theorem caller_marking (kept : state.Kept) (isAt : state.attempts[index]? = some attempt)
    (isCaller : attempt.caller = .marking) :
    State.Kept { state.set index { attempt with caller := .searching } with
      wifiIsExist := true } := by
  obtain ⟨none, going, -⟩ := kept.early isAt isCaller (by decide)
  have withSsid : attempt.withSsid = true :=
    (kept.settled attempt (List.mem_of_getElem? isAt)).marks (isCaller ▸ List.mem_cons_self)
  refine kept.onward isAt rfl rfl rfl rfl rfl going none ?_ ?_ ?_ ?_ ?_ <;>
    simp [Attempt.marked, withSsid]

theorem caller_searching (kept : state.Kept) (isAt : state.attempts[index]? = some attempt)
    (isCaller : attempt.caller = .searching) (id : Option Nat) (created : Bool) :
    (state.set index { attempt with id := id, created := created, caller := .naming }).Kept := by
  obtain ⟨none, going, fits⟩ := kept.early isAt isCaller (by decide)
  have mark : state.wifiIsExist = attempt.withSsid := by
    rw [fits.mark]
    simp [Attempt.marked, isCaller]
  refine kept.onward isAt rfl rfl rfl rfl rfl going none ?_ ?_ ?_ ?_ ?_ <;>
    simp [Attempt.marked, State.set, mark]

theorem caller_naming (kept : state.Kept) (isAt : state.attempts[index]? = some attempt)
    (isCaller : attempt.caller = .naming) :
    State.Kept { state.set index { attempt with caller := .setting } with
      connectingId := attempt.id } := by
  obtain ⟨none, going, fits⟩ := kept.early isAt isCaller (by decide)
  have mark : state.wifiIsExist = attempt.withSsid := by
    rw [fits.mark]
    simp [Attempt.marked, isCaller]
  refine kept.onward isAt rfl rfl rfl rfl rfl going none ?_ ?_ ?_ ?_ ?_ <;>
    simp [Attempt.marked, State.set, mark]

theorem caller_setting (kept : state.Kept) (isAt : state.attempts[index]? = some attempt)
    (isCaller : attempt.caller = .setting) :
    (state.set index { attempt with
      check := some .reading
      caller := if attempt.withSsid then .done else .unlocking }).Kept := by
  obtain ⟨none, going, fits⟩ := kept.early isAt isCaller (by decide)
  have mark : state.wifiIsExist = attempt.withSsid := by
    rw [fits.mark]
    simp [Attempt.marked, isCaller]
  refine kept.update isAt rfl rfl rfl rfl kept.acts ?_ (fun _ => going) (fun _ => ⟨?_, ?_⟩)
    (fun _ => ⟨rfl, rfl⟩) ?_
  · refine ⟨fun _ => ?_, ?_, ?_, ?_⟩
    · cases attempt.withSsid <;> simp
    · intro check isCheck
      rw [← Option.some.inj isCheck]
      trivial
    · cases attempt.withSsid <;> simp
    · cases attempt.withSsid <;> simp
  · show state.wifiIsExist = _
    rw [mark]
    cases withSsid : attempt.withSsid <;> simp [Attempt.marked]
  · intro _
    exact fits.id (Or.inl isCaller)
  · intro _ isOver
    rw [Attempt.inProgress_of_check rfl] at isOver
    cases isOver

theorem caller_unlocking (kept : state.Kept) (isAt : state.attempts[index]? = some attempt)
    (isCaller : attempt.caller = .unlocking) :
    State.Kept { state.set index { attempt with caller := .done } with
      wifiConnectLock := false } := by
  have member := List.mem_of_getElem? isAt
  have settled := kept.settled attempt member
  have withSsid : attempt.withSsid = false := settled.unlocks isCaller
  have unmarked : attempt.marked = false := by
    rw [Attempt.marked, withSsid, Bool.false_and]
  obtain isCheck | ⟨check, isCheck⟩ := Option.eq_none_or_eq_some attempt.check
  · have going : attempt.inProgress = true := by
      rw [Attempt.inProgress_of_none isCheck, isCaller]
      rfl
    have isOver : ({ attempt with caller := .done } : Attempt).inProgress = false := by
      rw [Attempt.inProgress_of_none (by exact isCheck)]
      rfl
    refine kept.update isAt rfl rfl rfl rfl kept.acts
      (Attempt.settled_of_none isCheck (by simp) (by simp)) (fun _ => going) ?_
      (fun _ => ⟨rfl, rfl⟩) ?_
    · rw [isOver]
      exact fun isTrue => Bool.noConfusion isTrue
    · intro _ _
      exact (kept.fits attempt member going).mark.trans unmarked
  · have same : ({ attempt with caller := .done } : Attempt).inProgress = attempt.inProgress := by
      rw [Attempt.inProgress_of_check isCheck, Attempt.inProgress_of_check (by exact isCheck)]
    refine kept.update isAt rfl rfl rfl rfl kept.acts ⟨fun _ => by simp, settled.names, by simp,
      by simp⟩ (fun going => same ▸ going) ?_ (fun _ => ⟨rfl, rfl⟩) ?_
    · intro going
      have fits := kept.fits attempt member (same ▸ going)
      refine ⟨fits.mark.trans ?_, ?_⟩
      · rw [unmarked, Attempt.marked, withSsid, Bool.false_and]
      · rintro (isSetting | isReading)
        · cases isSetting
        · exact fits.id (Or.inr isReading)
    · intro going isOver
      rw [same, going] at isOver
      cases isOver

theorem caller_unmarking (kept : state.Kept) (isAt : state.attempts[index]? = some attempt)
    (isCaller : attempt.caller = .unmarking) :
    State.Kept { state.set index { attempt with caller := .done } with
      wifiIsExist := false } := by
  obtain ⟨none, going, -⟩ := kept.early isAt isCaller (by decide)
  have isOver : ({ attempt with caller := .done } : Attempt).inProgress = false := by
    rw [Attempt.inProgress_of_none (by exact none)]
    rfl
  refine kept.update isAt rfl rfl rfl rfl kept.acts
    (Attempt.settled_of_none none (by simp) (by simp)) (fun _ => going) ?_ ?_ (fun _ _ => rfl)
  · rw [isOver]
    exact fun isTrue => Bool.noConfusion isTrue
  · intro notGoing
    rw [going] at notGoing
    cases notGoing

theorem polls (kept : state.Kept) (isAt : state.attempts[index]? = some attempt)
    {current : Check} (isCheck : attempt.check = some current) (going : current ≠ .ended)
    (later : Check) (names : later.Names attempt.id) (started : later ≠ .reading)
    (goesOn : later ≠ .ended)
    {acts : List Act} (own : ∀ act ∈ acts, act.Own) :
    State.Kept { state.set index { attempt with check := some later } with acts := acts } := by
  have member := List.mem_of_getElem? isAt
  have settled := kept.settled attempt member
  have wasGoing : attempt.inProgress = true := by
    rw [Attempt.inProgress_of_check isCheck]
    exact decide_eq_true going
  have behind := settled.created (by rw [isCheck]; exact Option.some_ne_none _)
  refine kept.update isAt rfl rfl rfl rfl own ⟨fun _ => behind, ?_, settled.marks, settled.unlocks⟩
    (fun _ => wasGoing) (fun _ => ⟨(kept.fits attempt member wasGoing).mark, ?_⟩)
    (fun _ => ⟨rfl, rfl⟩) ?_
  · intro check isLater
    exact Option.some.inj isLater ▸ names
  · rintro (isSetting | isReading)
    · have isSet : attempt.caller = .setting := isSetting
      rw [isSet] at behind
      exact absurd behind (by decide)
    · exact absurd (Option.some.inj isReading) started
  · intro _ isOver
    rw [Attempt.inProgress_of_check rfl, decide_eq_true goesOn] at isOver
    cases isOver

theorem check_clearing (kept : state.Kept) (isAt : state.attempts[index]? = some attempt)
    (isCheck : attempt.check = some .clearing) :
    State.Kept { state.set index { attempt with check := some .ended } with
      wifiIsExist := false } := by
  have settled := kept.settled attempt (List.mem_of_getElem? isAt)
  have wasGoing : attempt.inProgress = true := Attempt.inProgress_of_check isCheck
  have isOver : ({ attempt with check := some .ended } : Attempt).inProgress = false := rfl
  have behind := settled.created (by rw [isCheck]; exact Option.some_ne_none _)
  refine kept.update isAt rfl rfl rfl rfl kept.acts ⟨fun _ => behind, ?_, settled.marks,
    settled.unlocks⟩ (fun _ => wasGoing) ?_ ?_ (fun _ _ => rfl)
  · intro check isEnded
    rw [← Option.some.inj isEnded]
    trivial
  · rw [isOver]
    exact fun isTrue => Bool.noConfusion isTrue
  · intro notGoing
    rw [wasGoing] at notGoing
    cases notGoing

/-- The thread disables a network that was found and removes one that was added. -/
theorem failProcess_own (kept : state.Kept) (isAt : state.attempts[index]? = some attempt)
    {id : Option Nat} (isCheck : attempt.check = some (.failing id))
    (created : attempt.withSsid = false → attempt.created = true) :
    (state.failProcess attempt id).Own := by
  have member := List.mem_of_getElem? isAt
  have settled := kept.settled attempt member
  have mark : state.wifiIsExist = attempt.withSsid := by
    rw [(kept.fits attempt member (Attempt.inProgress_of_check isCheck)).mark]
    exact settled.marked_eq (by rw [isCheck]; exact Option.some_ne_none _)
  have isOwn : id = attempt.id := settled.names _ isCheck
  unfold State.failProcess
  cases isExist : state.wifiIsExist with
  | true => exact isOwn
  | false => exact ⟨isOwn, created (mark.symm.trans isExist)⟩

theorem caller (kept : state.Kept) (isAt : state.attempts[index]? = some attempt)
    {outcome : Outcome} (stepped : state.caller index attempt outcome = some next) :
    next.Kept := by
  unfold State.caller at stepped
  split at stepped
  next isCaller =>
    cases stepped
    exact kept.caller_locking isAt isCaller
  next isCaller =>
    cases stepped
    exact kept.caller_begun isAt isCaller
  next isCaller =>
    cases stepped
    exact kept.caller_marking isAt isCaller
  next isCaller =>
    cases outcome with
    | goes => cases stepped
    | found id =>
        cases stepped
        exact kept.caller_searching isAt isCaller (some id) attempt.created
    | added id =>
        simp only [Option.ite_none_left_eq_some, Option.some.injEq] at stepped
        obtain ⟨-, rfl⟩ := stepped
        exact kept.caller_searching isAt isCaller (some id) true
    | fails =>
        cases stepped
        exact kept.fails isAt (Or.inl isCaller)
  next isCaller =>
    cases stepped
    exact kept.caller_naming isAt isCaller
  next isCaller =>
    cases outcome with
    | goes =>
        cases stepped
        exact kept.caller_setting isAt isCaller
    | found id => cases stepped
    | added id => cases stepped
    | fails =>
        cases stepped
        exact kept.fails isAt (Or.inr isCaller)
  next isCaller =>
    cases stepped
    exact kept.caller_unlocking isAt isCaller
  next isCaller =>
    cases stepped
    exact kept.caller_unmarking isAt isCaller
  next isCaller => cases stepped

theorem check (kept : state.Kept) (isAt : state.attempts[index]? = some attempt)
    {current : Check} (isCheck : attempt.check = some current) {connected : Bool}
    (clean : Clean state (.check index connected))
    (stepped : state.check index attempt current connected = some next) : next.Kept := by
  have member := List.mem_of_getElem? isAt
  have names := (kept.settled attempt member).names current isCheck
  obtain ⟨created, notCancelled⟩ := clean attempt isAt
  cases current with
  | reading =>
      cases stepped
      have isOwn : state.connectingId = attempt.id :=
        (kept.fits attempt member (Attempt.inProgress_of_check isCheck)).id (Or.inr isCheck)
      exact kept.polls isAt isCheck (by decide) (.polling state.connectingId 50) isOwn (by simp)
        (by simp) kept.acts
  | polling id left =>
      cases left with
      | zero =>
          cases stepped
          exact kept.polls isAt isCheck (by simp) (.failing id) names (by simp) (by simp) kept.acts
      | succ left =>
          have unseen := notCancelled id left isCheck
          rw [State.check] at stepped
          split_ifs at stepped with isConnected wrongKey cancelled
          · cases stepped
            exact kept.polls isAt isCheck (by simp) .clearing trivial (by simp) (by simp) kept.acts
          · cases stepped
            exact kept.polls isAt isCheck (by simp) (.failing id) names (by simp) (by simp)
              kept.acts
          · rw [unseen (Bool.eq_false_iff.mpr isConnected) (Bool.eq_false_iff.mpr wrongKey)]
              at cancelled
            cases cancelled
          · cases stepped
            exact kept.polls isAt isCheck (by simp) (.polling id left) names (by simp) (by simp)
              kept.acts
  | flushing id => exact names.elim
  | failing id =>
      cases stepped
      refine kept.polls isAt isCheck (by simp) .clearing trivial (by simp) (by simp)
        fun act isAct => ?_
      rcases List.mem_append.mp isAct with isOld | isNew
      · exact kept.acts act isOld
      · rw [List.mem_singleton.mp isNew]
        exact kept.failProcess_own isAt isCheck (created id isCheck)
  | clearing =>
      cases stepped
      exact kept.check_clearing isAt isCheck
  | ended => cases stepped

/-- The calls that cancel see what they have set, and nothing resets it. -/
theorem setCancel (kept : state.Kept) {call : Cancel} {wifiCancel : Bool} {setBy : List Nat}
    (stays : state.wifiCancel = true → wifiCancel = true)
    (waits : call.Waits { state with wifiCancel := wifiCancel }) :
    State.Kept { state.setCancel index call with wifiCancel := wifiCancel, setBy := setBy } := by
  refine ⟨kept.one, kept.settled, ?_, kept.free, kept.acts, kept.ends, ?_⟩
  · intro attempt member going
    obtain ⟨mark, id⟩ := kept.fits attempt member going
    exact ⟨mark, id⟩
  · intro other member
    rcases List.mem_or_eq_of_mem_set member with isOld | isChanged
    · obtain ⟨set, result⟩ := kept.cancels other isOld
      exact ⟨fun started goesOn => stays (set started goesOn), result⟩
    · rw [isChanged]
      exact ⟨waits.set, waits.result⟩

theorem cancelling (kept : state.Kept) {call : Cancel} (isAt : state.cancels[index]? = some call)
    (stepped : state.cancelling index call = some next) : next.Kept := by
  obtain ⟨set, -⟩ := kept.cancels call (List.mem_of_getElem? isAt)
  rw [State.cancelling] at stepped
  split at stepped
  next isWriting =>
    cases stepped
    exact kept.setCancel (fun _ => rfl) ⟨fun _ _ => rfl, by simp⟩
  next isLooking =>
    have isSet : state.wifiCancel = true := set (by simp [isLooking]) (by simp [isLooking])
    cases stepped
    exact kept.setCancel (fun _ => isSet) ⟨fun _ _ => isSet, by simp⟩
  next left isLooking =>
    have isSet : state.wifiCancel = true := set (by simp [isLooking]) (by simp [isLooking])
    rw [if_neg (by rw [isSet]; decide)] at stepped
    cases stepped
    exact kept.setCancel (fun _ => isSet) ⟨fun _ _ => isSet, by simp⟩
  next isTesting =>
    have isSet : state.wifiCancel = true := set (by simp [isTesting]) (by simp [isTesting])
    cases stepped
    rw [if_neg (by rw [isSet]; decide)]
    exact kept.setCancel (fun _ => isSet) ⟨fun _ _ => isSet, by simp⟩
  next isReturned => cases stepped

theorem step (kept : state.Kept) {label : Label} (clean : Clean state label)
    (stepped : state.step label = some next) : next.Kept := by
  cases label with
  | connect =>
      cases stepped
      unfold State.connect
      split_ifs with locked
      · exact kept
      · exact kept.accept (clean (Bool.eq_false_iff.mpr locked)) rfl (Or.inl rfl)
  | connectWithSsid =>
      cases stepped
      exact kept.accept clean rfl (Or.inr rfl)
  | caller index outcome =>
      obtain ⟨attempt, isAt, ran⟩ := Option.bind_eq_some_iff.mp stepped
      exact kept.caller isAt ran
  | check index connected =>
      obtain ⟨attempt, isAt, checked⟩ := Option.bind_eq_some_iff.mp stepped
      obtain ⟨current, isCheck, ran⟩ := Option.bind_eq_some_iff.mp checked
      exact kept.check isAt isCheck clean ran
  | cancel =>
      cases stepped
      refine ⟨kept.one, kept.settled, fun attempt member going => ?_, kept.free, kept.acts,
        kept.ends, fun call member => ?_⟩
      · obtain ⟨mark, id⟩ := kept.fits attempt member going
        exact ⟨mark, id⟩
      · rcases List.mem_append.mp member with isOld | isNew
        · obtain ⟨set, result⟩ := kept.cancels call isOld
          exact ⟨set, result⟩
        · rw [List.mem_singleton.mp isNew]
          cases state.wifiConnectLock with
          | true => exact ⟨fun started => absurd rfl started, by simp⟩
          | false => exact ⟨fun _ refused => absurd rfl refused, by simp⟩
  | cancelling index =>
      obtain ⟨call, isAt, ran⟩ := Option.bind_eq_some_iff.mp stepped
      exact kept.cancelling isAt ran
  | wrongKey =>
      cases stepped
      refine ⟨kept.one, kept.settled, fun attempt member going => ?_, kept.free, kept.acts,
        kept.ends, fun call member => ?_⟩
      · obtain ⟨mark, id⟩ := kept.fits attempt member going
        exact ⟨mark, id⟩
      · obtain ⟨set, result⟩ := kept.cancels call member
        exact ⟨set, result⟩

theorem apart (kept : state.Kept) : state.Apart where
  one := kept.one
  acts := kept.acts
  ended := by
    intro index call isAt isDone
    exact absurd isDone (kept.cancels call (List.mem_of_getElem? isAt)).result
  later := by
    intro index call _ _ target isEnd
    rw [kept.ends] at isEnd
    cases isEnd

end State.Kept

theorem attempts_apart {state : State} (reachable : system.Reachable Clean state) :
    state.Apart := by
  have kept : state.Kept := by
    refine reachable.invariant ?_ ?_
    · rintro _ rfl
      exact State.Kept.start
    · intro before label next kept clean stepped
      exact kept.step clean stepped
  exact kept.apart

def cleanly (state : State) : Label → Bool
  | .connect => state.wifiConnectLock ||
      state.attempts.all fun attempt => !attempt.inProgress
  | .connectWithSsid => state.attempts.all fun attempt => !attempt.inProgress
  | .check index connected => state.attempts[index]?.all fun attempt =>
      match attempt.check with
      | some (.failing _) => attempt.withSsid || attempt.created
      | some (.polling _ _) => connected || state.wifiWrongKey || !state.wifiCancel
      | _ => true
  | _ => true

theorem cleanly_clean (state : State) (label : Label) (checked : cleanly state label = true) :
    Clean state label := by
  cases label with
  | connect =>
      intro unlocked attempt member
      rw [cleanly, unlocked, Bool.false_or, List.all_eq_true] at checked
      exact (Bool.not_eq_true' _).mp (checked attempt member)
  | connectWithSsid =>
      intro attempt member
      rw [cleanly, List.all_eq_true] at checked
      exact (Bool.not_eq_true' _).mp (checked attempt member)
  | check index connected =>
      intro attempt isAt
      rw [cleanly, isAt, Option.all_some] at checked
      refine ⟨?_, ?_⟩
      · intro id isFailing notSaved
        rw [isFailing] at checked
        simpa [notSaved] using checked
      · intro id left isPolling notConnected rightKey
        rw [isPolling] at checked
        simpa [notConnected, rightKey] using checked
  | caller index outcome => exact trivial
  | cancel => exact trivial
  | cancelling index => exact trivial
  | wrongKey => exact trivial

/-- A new network that fails with a wrong key and is removed, then a saved one. -/
def oneByOne : List Label :=
  [.connect, .caller 0 .goes, .caller 0 .goes, .caller 0 (.added 1), .caller 0 .goes,
    .caller 0 .goes, .check 0 false, .caller 0 .goes, .cancel, .wrongKey, .check 0 false,
    .check 0 false, .check 0 false, .connectWithSsid, .caller 1 .goes, .caller 1 .goes,
    .caller 1 (.found 2), .caller 1 .goes, .caller 1 .goes, .check 1 false, .check 1 true]

theorem attempts_apart_oneByOne :
    ∃ state, system.Reachable Clean state ∧
      state.acts = [.remove (some 1) (some 1) true] ∧ state.attempts.length = 2 ∧
      state.Apart := by
  let ran := system.guardedRun cleanly start oneByOne
  have made : ran.map (fun state => (state.acts, state.attempts.length)) =
      some ([.remove (some 1) (some 1) true], 2) := by decide
  obtain ⟨state, reached, isMade⟩ := Option.map_eq_some_iff.mp made
  obtain ⟨acts, two⟩ := Prod.mk.inj isMade
  have reachable : system.Reachable Clean state :=
    ⟨start, rfl, System.reaches_of_guardedRun cleanly_clean oneByOne reached⟩
  exact ⟨state, reachable, acts, two, attempts_apart reachable⟩

/-- The thread of the first attempt reads the id after the second one has written it. -/
def overtaken : List Label :=
  [.connect, .caller 0 .goes, .caller 0 .goes, .caller 0 (.added 1), .caller 0 .goes,
    .caller 0 .goes, .caller 0 .goes, .connect, .caller 1 .goes, .caller 1 .goes,
    .caller 1 (.added 2), .caller 1 .goes, .check 0 false, .wrongKey, .check 0 false,
    .check 0 false]

/-- It removes the network of the second attempt. -/
theorem other_removed : ¬ ∀ state, system.Reachable System.anyStep state → state.Apart := by
  intro general
  let ran := system.run start overtaken
  have ends : ran.map State.acts = some [.remove (some 2) (some 1) true] := by decide
  obtain ⟨state, reached, acts⟩ := Option.map_eq_some_iff.mp ends
  have own := (general state (System.reachable_of_run rfl reached)).acts
    (.remove (some 2) (some 1) true) (by rw [acts]; exact List.mem_singleton.mpr rfl)
  exact absurd own.1 (by decide)

end Rkipc.Wifi.Connect
