import Rkipc.Video.Callbacks

namespace Rkipc.Video.Callbacks

open Osd Transition

/-! No callback is called while it is `NULL`. -/

variable {state after : State} {outcome : Bool} {instr : Instr} {rest next : List Instr}
  {thread : Nat}

/-- What may take the place of an instruction: it clears nothing, and it uses what the
instruction uses or what a test has found. -/
def Replaces (state : State) (instr : Instr) (next : List Instr) : Prop :=
  ∀ other ∈ next, (∀ callback, other.clears callback = false) ∧
    ∀ callback, other.uses callback = true →
      instr.uses callback = true ∨ state.registered callback = true

namespace Replaces

theorem nil : Replaces state instr [] := fun _ member => (List.not_mem_nil member).elim

theorem cons {other : Instr} (keeps : ∀ callback, other.clears callback = false)
    (fits : ∀ callback, other.uses callback = true →
      instr.uses callback = true ∨ state.registered callback = true)
    (replaces : Replaces state instr next) : Replaces state instr (other :: next) := by
  intro found member
  rcases List.mem_cons.mp member with rfl | later
  · exact ⟨keeps, fits⟩
  · exact replaces found later

theorem single {other : Instr} (keeps : ∀ callback, other.clears callback = false)
    (fits : ∀ callback, other.uses callback = true → instr.uses callback = true) :
    Replaces state instr [other] :=
  cons keeps (fun callback uses => .inl (fits callback uses)) nil

theorem invoke {kind : Kind} {own : Callback}
    (fits : kind = .bmp → instr.uses own = true)
    (replaces : Replaces state instr next) :
    Replaces state instr (State.invoke kind own :: next) := by
  unfold State.invoke
  split
  next isBmp =>
    refine cons (fun _ => rfl) (fun callback uses => .inl ?_) replaces
    cases of_decide_eq_true uses
    exact fits isBmp
  next => exact cons (fun _ => rfl) (fun _ uses => Bool.noConfusion uses) replaces

theorem needs (replaces : Replaces state instr next) {callback : Callback}
    (needed : effects.needs next callback = true) :
    instr.uses callback = true ∨ state.registered callback = true := by
  obtain ⟨other, member, uses⟩ := Effects.exists_uses_of_needs needed
  exact (replaces other member).2 callback uses

end Replaces

theorem replaces_osdInitEntry {i : Nat} {entry : Entry} :
    Replaces state (.osdInit i) (state.osdInitEntry outcome i entry).2 := by
  unfold State.osdInitEntry
  split
  next => exact .single (fun _ => rfl) fun _ uses => uses
  next kind _ =>
    split
    next =>
      refine .invoke (fun isBmp => ?_) (.single (fun _ => rfl) fun _ uses => uses)
      subst isBmp
      rfl
    next => exact .single (fun _ => rfl) fun _ uses => uses
  next => exact .single (fun _ => rfl) fun _ uses => uses

theorem replaces_osdDeinitEntry {i : Nat} {entry : Entry} :
    Replaces state (.osdDeinit i) (State.osdDeinitEntry i entry) := by
  unfold State.osdDeinitEntry
  split
  next => exact .single (fun _ => rfl) fun _ uses => uses
  next kind _ =>
    refine .invoke (fun isBmp => ?_) (.single (fun _ => rfl) fun _ uses => uses)
    subst isBmp
    rfl

theorem advance_replaces (advanced : state.advance outcome instr = some (after, next)) :
    Replaces state instr next := by
  cases instr with
  | register own | clear own | call own | serverInit | unlock =>
      cases advanced
      exact .nil
  | test own =>
      cases advanced
      split
      next present =>
        refine .cons (fun _ => rfl) (fun callback uses => .inr ?_) .nil
        cases of_decide_eq_true uses
        exact present
      next => exact .nil
  | roiSetAll id =>
      cases advanced
      split
      next =>
        split
        next =>
          refine .cons (fun _ => rfl) (fun callback uses => .inl ?_)
            (.single (fun _ => rfl) fun _ uses => uses)
          exact decide_eq_true (of_decide_eq_true uses).symm
        next => exact .single (fun _ => rfl) fun _ uses => uses
      next => exact .nil
  | regionClipSetAll id =>
      cases advanced
      split
      next =>
        split
        next =>
          exact .cons (fun _ => rfl) (fun _ uses => Bool.noConfusion uses)
            (.single (fun _ => rfl) fun _ uses => uses)
        next => exact .single (fun _ => rfl) fun _ uses => uses
      next => exact .nil
  | lock | join =>
      rw [State.advance] at advanced
      split at advanced
      all_goals
        cases advanced
        try exact .nil
  | osdInit i =>
      simp only [State.advance, Option.some.injEq] at advanced
      split at advanced
      next =>
        have same : (state.osdInitEntry outcome i _).2 = next := congrArg Prod.snd advanced
        rw [← same]
        exact replaces_osdInitEntry
      next =>
        cases advanced
        exact .single (fun _ => rfl) fun _ uses => Bool.noConfusion uses
  | createThread i =>
      cases advanced
      exact .single (fun _ => rfl) fun _ uses => uses
  | createSignal i =>
      cases advanced
      split
      next => exact .single (fun _ => rfl) fun _ uses => uses
      next => exact .single (fun _ => rfl) fun _ uses => Bool.noConfusion uses
  | stopServer =>
      cases advanced
      split <;> exact .single (fun _ => rfl) fun _ uses => uses
  | testRun =>
      cases advanced
      split
      next =>
        exact .cons (fun _ => rfl) (fun _ uses => .inl uses)
          (.single (fun _ => rfl) fun _ uses => uses)
      next => exact .single (fun _ => rfl) fun _ uses => uses
  | destroySignal =>
      cases advanced
      exact .single (fun _ => rfl) fun _ uses => uses
  | osdDeinit i =>
      cases advanced
      split
      next => exact replaces_osdDeinitEntry
      next => exact .single (fun _ => rfl) fun _ uses => Bool.noConfusion uses
  | timeCreated | timeLoop =>
      cases advanced
      split
      next => exact .single (fun _ => rfl) fun _ uses => uses
      next => exact .nil
  | timeWait =>
      cases advanced
      split
      next =>
        refine .cons (fun _ => rfl) (fun callback uses => .inl ?_)
          (.single (fun _ => rfl) fun _ uses => uses)
        exact decide_eq_true (of_decide_eq_true uses).symm
      next => exact .single (fun _ => rfl) fun _ uses => uses

theorem osdInitEntry_frame {i : Nat} {entry : Entry} :
    (state.osdInitEntry outcome i entry).1.threads = state.threads ∧
      (state.osdInitEntry outcome i entry).1.registered = state.registered := by
  unfold State.osdInitEntry
  split
  next => exact ⟨rfl, rfl⟩
  next => split <;> exact ⟨rfl, rfl⟩
  next => exact ⟨rfl, rfl⟩

theorem advance_threads (advanced : state.advance outcome instr = some (after, next)) :
    after.threads = state.threads ∨
      (∃ i, instr = .createThread i) ∧ after.threads = state.threads ++ [osdTimeServer] := by
  cases instr with
  | createThread i =>
      cases advanced
      split
      next => exact .inr ⟨⟨i, rfl⟩, rfl⟩
      next => exact .inl rfl
  | lock | join =>
      rw [State.advance] at advanced
      split at advanced
      all_goals
        cases advanced
        try exact .inl rfl
  | osdInit i =>
      simp only [State.advance, Option.some.injEq] at advanced
      split at advanced
      next =>
        have same : (state.osdInitEntry outcome i _).1 = after := congrArg Prod.fst advanced
        rw [← same]
        exact .inl osdInitEntry_frame.1
      next =>
        cases advanced
        exact .inl rfl
  | _ =>
      cases advanced
      exact .inl rfl

/-- An instruction registers or clears one callback, or leaves them as they are. -/
theorem advance_registered (advanced : state.advance outcome instr = some (after, next)) :
    (∃ callback, instr = .register callback ∧
        after.registered = Function.update state.registered callback true) ∨
      (∃ callback, instr = .clear callback ∧
        after.registered = Function.update state.registered callback false) ∨
      (∀ callback, instr.registers callback = false) ∧
        after.registered = state.registered := by
  cases instr with
  | register own =>
      cases advanced
      exact .inl ⟨own, rfl, rfl⟩
  | clear own =>
      cases advanced
      exact .inr (.inl ⟨own, rfl, rfl⟩)
  | createThread i =>
      cases advanced
      refine .inr (.inr ⟨fun _ => rfl, ?_⟩)
      split <;> rfl
  | lock | join =>
      rw [State.advance] at advanced
      split at advanced
      all_goals
        cases advanced
        try exact .inr (.inr ⟨fun _ => rfl, rfl⟩)
  | osdInit i =>
      simp only [State.advance, Option.some.injEq] at advanced
      split at advanced
      next =>
        have same : (state.osdInitEntry outcome i _).1 = after := congrArg Prod.fst advanced
        rw [← same]
        exact .inr (.inr ⟨fun _ => rfl, osdInitEntry_frame.2⟩)
      next =>
        cases advanced
        exact .inr (.inr ⟨fun _ => rfl, rfl⟩)
  | _ =>
      cases advanced
      exact .inr (.inr ⟨fun _ => rfl, rfl⟩)

/-- What the threads call without a test is registered. -/
structure Ready (state : State) : Prop where
  covered : effects.Covered state.registered state.threads
  tidy : ∀ program ∈ state.threads, effects.Tidy program

instance decidableTidy : (program : List Instr) → Decidable (effects.Tidy program)
  | [] => inferInstanceAs (Decidable True)
  | instr :: rest =>
      have : Decidable (effects.Tidy rest) := decidableTidy rest
      have : Decidable (∀ callback, effects.removes instr callback = true →
          effects.needs rest callback = false) :=
        decidable_of_iff (∀ callback ∈ callbacks, effects.removes instr callback = true →
            effects.needs rest callback = false)
          ⟨fun all callback => all callback (mem_callbacks callback),
            fun all callback _ => all callback⟩
      inferInstanceAs (Decidable (_ ∧ _))

theorem tidy_request (request : Request) : effects.Tidy request.program := by
  cases request <;> decide

namespace Ready

theorem spawn (ready : Ready state) {program : List Instr} (tidy : effects.Tidy program)
    (covers : state.covers program = true) : Ready (state.spawn program) where
  covered := by
    refine ready.covered.append fun callback needed => ?_
    have found := List.all_eq_true.mp covers callback (mem_callbacks callback)
    rw [needed] at found
    exact found
  tidy other member := by
    rcases List.mem_append.mp member with old | new
    · exact ready.tidy other old
    · rw [List.mem_singleton.mp new]
      exact tidy

theorem uses (ready : Ready state) (member : instr :: rest ∈ state.threads)
    {callback : Callback} (used : instr.uses callback = true) :
    state.registered callback = true :=
  ready.covered _ member callback (Effects.needs_cons.mpr (.inl used))

theorem advance_others (ready : Ready state) (member : instr :: rest ∈ state.threads)
    (advanced : state.advance outcome instr = some (after, next)) :
    Ready { state with threads := after.threads } := by
  rcases advance_threads advanced with same | ⟨⟨i, rfl⟩, same⟩
  · rw [same]
    exact ready
  · refine ⟨?_, fun program found => ?_⟩
    · rw [same]
      refine ready.covered.append fun callback needed => ready.uses member ?_
      obtain ⟨other, isOther, uses⟩ := Effects.exists_uses_of_needs needed
      rcases List.mem_cons.mp isOther with rfl | isLast
      · exact decide_eq_true (.inl (of_decide_eq_true uses).symm)
      · rw [List.mem_singleton.mp isLast] at uses
        exact decide_eq_true (.inr (of_decide_eq_true uses))
    · rw [same] at found
      rcases List.mem_append.mp found with old | new
      · exact ready.tidy program old
      · rw [List.mem_singleton.mp new]
        decide

/-- One instruction of a thread. -/
theorem advance (ready : Ready state) (member : instr :: rest ∈ state.threads)
    (alone : ∀ callback, instr = .clear callback →
      ∀ program ∈ state.threads.eraseIdx thread, effects.needs program callback = false)
    (advanced : state.advance outcome instr = some (after, next)) :
    Ready { after with threads := after.threads.set thread (next ++ rest) } := by
  have tidy := ready.tidy _ member
  have replaces := advance_replaces advanced
  have begun := ready.advance_others member advanced
  have later : ∀ callback, instr.registers callback = false →
      effects.needs (next ++ rest) callback = true → state.registered callback = true := by
    intro callback keeps needed
    rcases Effects.needs_append needed with early | late
    · rcases replaces.needs early with used | found
      · exact ready.uses member used
      · exact found
    · exact ready.covered _ member callback (Effects.needs_of_rest keeps late)
  constructor
  · rcases advance_registered advanced with ⟨own, rfl, same⟩ | ⟨own, rfl, same⟩ | ⟨keeps, same⟩
    · have more : ∀ callback, state.registered callback = true →
          after.registered callback = true := by
        intro callback present
        rw [same]
        by_cases isOwn : callback = own
        · rw [isOwn]
          exact Function.update_self ..
        · rwa [Function.update_of_ne isOwn]
      refine .set (begun.covered.erase.mono more) fun callback needed => ?_
      by_cases isOwn : callback = own
      · rw [same, isOwn]
        exact Function.update_self ..
      · exact more callback (later callback (decide_eq_false (Ne.symm isOwn)) needed)
    · cases advanced
      have kept : ∀ programs : List (List Instr),
          effects.Covered state.registered programs →
          (∀ program ∈ programs, effects.needs program own = false) →
          effects.Covered (Function.update state.registered own false) programs := by
        intro programs covered unneeded program found callback needed
        have distinct : callback ≠ own := by
          rintro rfl
          rw [unneeded program found] at needed
          cases needed
        rw [Function.update_of_ne distinct]
        exact covered program found callback needed
      refine .set (kept _ ready.covered.erase (alone own rfl)) ?_
      exact kept [rest] (fun program found callback needed => by
        rw [List.mem_singleton.mp found] at needed
        exact later callback rfl needed) (fun program found => by
          rw [List.mem_singleton.mp found]
          exact tidy.1 own (decide_eq_true rfl)) rest List.mem_cons_self
    · have unchanged : effects.Covered after.registered after.threads := by
        rw [same]
        exact begun.covered
      refine .set unchanged.erase fun callback needed => ?_
      change after.registered callback = true
      rw [same]
      exact later callback (keeps callback) needed
  · intro program found
    rcases Effects.eq_or_mem_eraseIdx_of_mem_set found with rfl | other
    · exact tidy.2.append fun instr isNext => (replaces instr isNext).1
    · exact begun.tidy program (List.mem_of_mem_eraseIdx other)

theorem step (ready : Ready state) {label : Label}
    (allowed : undisturbed state label)
    (stepped : state.step label = some after) : Ready after := by
  cases label with
  | set id entry =>
      cases stepped
      exact ⟨ready.covered, ready.tidy⟩
  | request request =>
      rw [State.step] at stepped
      split at stepped
      next =>
        cases stepped
        exact ready.spawn (tidy_request request) allowed
      next => cases stepped
  | exit =>
      rw [State.step] at stepped
      split at stepped
      next =>
        cases stepped
        have same : Ready { state with exiting := true } := ⟨ready.covered, ready.tidy⟩
        exact same.spawn (by decide) allowed
      next => cases stepped
  | exec thread outcome =>
      rw [State.step, State.exec] at stepped
      split at stepped
      next => cases stepped
      next => cases stepped
      next instr rest isNext =>
        obtain ⟨⟨reached, next⟩, advanced, rfl⟩ := Option.map_eq_some_iff.mp stepped
        refine ready.advance (List.mem_of_getElem? isNext) ?_ advanced
        rintro callback rfl program other
        simp only [undisturbed, allows, isNext] at allowed
        exact Bool.not_eq_true' _ ▸ List.all_eq_true.mp allowed program other

theorem start (entries : Entries) : Ready (.start entries) where
  covered program found callback needed := by
    rw [List.mem_singleton.mp found] at needed
    have none : ∀ callback ∈ callbacks, effects.needs main callback = false := by decide
    rw [none callback (mem_callbacks callback)] at needed
    cases needed
  tidy program found := by
    rw [List.mem_singleton.mp found]
    decide

end Ready

theorem calls_registered (reachable : system.Reachable undisturbed state) :
    CallsRegistered state := by
  have ready : Ready state := by
    refine reachable.invariant (fun _ isStart => ?_) fun _ _ _ ready => ready.step
    obtain ⟨entries, rfl⟩ := isStart
    exact Ready.start entries
  intro callback rest member
  exact ready.uses member (decide_eq_true rfl)

section Runs

def oneClock : Entries := fun id =>
  if id = 0 then ⟨some "dateTime".toList, 1, []⟩ else ⟨none, 0, []⟩

def turns (thread count : Nat) : List Label := List.replicate count (.exec thread true)

/-- The video is restarted while the clock runs, and the regions are set afterwards. -/
def restarted : List Label :=
  turns 0 46 ++ turns 1 4 ++ .request .videoRestart :: turns 2 5 ++ turns 1 2 ++
    turns 2 63 ++ .request .roiSetAll :: turns 4 1

theorem calls_registered_restarted :
    ∃ state, system.Reachable undisturbed state ∧
      (.call .roiSet :: [.roiSetAll 1]) ∈ state.threads ∧ CallsRegistered state := by
  let ran := system.guardedRun allows (.start oneClock) restarted
  have isSome : ran.isSome := by decide
  have reachable : system.Reachable undisturbed (ran.get isSome) :=
    ⟨_, ⟨_, rfl⟩, System.reaches_of_guardedRun (fun _ _ allowed => allowed) restarted
      (Option.some_get isSome).symm⟩
  have member : (ran.get isSome).threads[4]? = some (.call .roiSet :: [.roiSetAll 1]) := rfl
  exact ⟨_, reachable, List.mem_of_getElem? member, calls_registered reachable⟩

/-- The regions are set between the two halves of a restart. -/
def setMeanwhile : List Label :=
  turns 0 46 ++ .request .videoRestart :: turns 2 2 ++ .request .roiSetAll :: turns 3 1

theorem calls_null :
    ¬ ∀ state, system.Reachable System.anyStep state → CallsRegistered state := by
  intro general
  let ran := system.run (.start oneClock) setMeanwhile
  have isSome : ran.isSome := by decide
  have member : (ran.get isSome).threads[3]? = some (.call .roiSet :: [.roiSetAll 1]) := rfl
  have cleared : (ran.get isSome).registered .roiSet = false := rfl
  have registered := general (ran.get isSome)
    (System.reachable_of_run ⟨_, rfl⟩ (Option.some_get isSome).symm) _ _
    (List.mem_of_getElem? member)
  exact Bool.noConfusion (cleared.symm.trans registered)

end Runs

end Rkipc.Video.Callbacks
