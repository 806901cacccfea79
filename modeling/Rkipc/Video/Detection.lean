import Rkipc.Video.Overlap

namespace Rkipc.Video

open Transition

/-! The inference thread over a sequence of restarts: it shares `g_video_run_` with the
encoder threads, and the NPU channel with `rkipc_vi_ext_init` and `rkipc_vi_ext_deinit`. -/

def encoderThreads : List Object := [.vencThread0, .vencThread1, .jpegVencThread]

abbrev Encoder (object : Object) : Prop := object ∈ encoderThreads

def State.rkipcYoloInit (state : State Unit) : State Unit :=
  { state with board := { state.board with yolo := .check } }

/-- `main` has started up; the requests are those before `rkipc_yolo_deinit`. -/
def detection : System (State Unit) (Label Unit) where
  initial state := ∃ before, (restarts ()).Reachable System.anyStep before ∧
    before.control () = [] ∧ state = before.rkipcYoloInit
  step state label :=
    match label with
    | .request _ _ => if state.board.yolo = .absent then none else state.step label
    | label => state.step label

abbrev UnderWay (pending : List Instr) : Prop := Pending (.finishes .storage true) pending

/-- `rkipc_yolo_deinit` leaves the thread `absent`. -/
structure DetectionKept (state : State Unit) : Prop where
  looping : state.control () = [] → state.board.yolo ≠ .ended
  calls : UnderWay (state.control ()) → state.board.yolo = .get →
    state.board.npuChn ≠ .disabled
  spared : state.board.run = false → state.board.phase .video ≠ .stopping →
    ∀ object, Encoder object → state.board.status object ≠ .running

/-- During a restart the inference thread does not look at the flag before it is set again
and the channel is enabled again, and does not wait on the channel when it is disabled.
`rkipc_yolo_deinit` comes when the encoder threads are gone. -/
structure Undisturbed (state : State Unit) (label : Label Unit) : Prop where
  begins : label = .request () .restart → state.board.yolo = .get →
    state.board.npuChn ≠ .disabled
  disables : ∀ ok blocks rest, label = .step () ok →
    state.control () = ⟨blocks, .disableNpuChn⟩ :: rest → state.board.yolo ≠ .get
  looks : label = .infer → UnderWay (state.control ()) → state.board.yolo = .check →
    state.board.run = true ∧ state.board.npuChn ≠ .disabled
  deinit : label = .request () .yoloDeinit →
    ∀ object, Encoder object → state.board.status object ≠ .running

/-! Where `g_video_run_` is cleared in the program, and set again. -/

/-- The flag is not cleared, or is set again. -/
abbrev FlagSet (pending : List Instr) : Prop :=
  ¬ Pending (.setRun true) pending ∨ Pending (.setRun false) pending

abbrev ChecksFlag (instr : Instr) (rest next : List Instr) : Prop :=
  FlagSet next → instr.op = .setRun true ∨
    instr.op ≠ .setRun false ∧ FlagSet (instr :: rest)

abbrev ChecksPoint (pending : List Instr) : Prop :=
  (¬ UnderWay pending → FlagSet pending) ∧
    (¬ FlagSet pending → phaseOf .video pending ≠ .stopping → ∀ object ∈ encoderThreads,
      Takes object pending ∧ ¬ Clears object pending) ∧
    ¬ Pending .joinYolo pending

def checksRun : List Instr → Bool
  | [] => true
  | instr :: rest =>
      decide (ChecksPoint (instr :: rest)) && decide (ChecksFlag instr rest rest) &&
        match instr.op.block with
        | none => true
        | some block => decide (ChecksFlag instr rest (skip block rest))

theorem checksRun_tails :
    (programs.all fun program => program.tails.all checksRun) = true := by
  decide

theorem checksRun_of_isRest {pending : List Instr} (isRest : IsRest pending) :
    checksRun pending = true := by
  obtain ⟨program, member, suffix⟩ := isRest
  exact List.all_eq_true.mp (List.all_eq_true.mp checksRun_tails program member) _
    ((List.mem_tails _ _).mpr suffix)

theorem checksPoint_of_isRest {pending : List Instr} (isRest : IsRest pending) :
    ChecksPoint pending := by
  cases pending with
  | nil => decide
  | cons instr rest =>
      have checked := checksRun_of_isRest isRest
      simp only [checksRun, Bool.and_eq_true, decide_eq_true_eq] at checked
      exact checked.1.1

section Exec

variable {board next : Board} {ok : Bool} {op : Op} {block : Option Block}

/-- What an operation does to the flag, the channel and the inference thread. -/
structure Signals (board : Board) (op : Op) (next : Board) : Prop where
  run : next.run = board.run ∨ op = .setRun next.run
  npuChn : next.npuChn = board.npuChn ∨ next.npuChn = .enabled ∨ op = .disableNpuChn
  yolo : next.yolo = board.yolo ∨ op = .joinYolo ∧ next.yolo = .absent

theorem signals_of_exec (executed : board.exec ok op = some (next, block)) :
    Signals board op next := by
  unfold Board.exec at executed
  cases op with
  | begins | finishes | readEnables | setCycleSnapshot | branch | mpi | set =>
      cases executed
      exact ⟨.inl rfl, .inl rfl, .inl rfl⟩
  | setRun val =>
      cases executed
      exact ⟨.inr rfl, .inl rfl, .inl rfl⟩
  | disableNpuChn =>
      cases executed
      exact ⟨.inl rfl, .inr (.inr rfl), .inl rfl⟩
  | enableNpuChn skipped =>
      dsimp only at executed
      split at executed
      · cases executed
        exact ⟨.inl rfl, .inr (.inl rfl), .inl rfl⟩
      · cases executed
        exact ⟨.inl rfl, .inl rfl, .inl rfl⟩
  | acquire | startClocks =>
      dsimp only at executed
      split at executed <;> cases executed <;> exact ⟨.inl rfl, .inl rfl, .inl rfl⟩
  | release | takeMessage =>
      dsimp only at executed
      split at executed <;> cases executed
      exact ⟨.inl rfl, .inl rfl, .inl rfl⟩
  | joinYolo =>
      dsimp only at executed
      split at executed
      next isAbsent =>
        cases executed
        exact ⟨.inl rfl, .inl rfl, .inl rfl⟩
      next =>
        cases executed
        exact ⟨.inl rfl, .inl rfl, .inr ⟨rfl, rfl⟩⟩
      all_goals cases executed

theorem checksFlag_of_isRest {instr : Instr} {rest : List Instr}
    (isRest : IsRest (instr :: rest))
    (isBlock : block = none ∨ block = instr.op.block) :
    ChecksFlag instr rest (skipOf block rest) := by
  have checked := checksRun_of_isRest isRest
  simp only [checksRun, Bool.and_eq_true, decide_eq_true_eq] at checked
  obtain ⟨⟨_, plain⟩, skipped⟩ := checked
  cases block with
  | none => exact plain
  | some block =>
      rw [← isBlock.resolve_left nofun] at skipped
      exact of_decide_eq_true skipped

theorem flag_of_exec {instr : Instr} {rest : List Instr}
    (isRest : IsRest (instr :: rest))
    (set : FlagSet (instr :: rest) → board.run = true)
    (executed : board.exec ok instr.op = some (next, block))
    (isSet : FlagSet (skipOf block rest)) : next.run = true := by
  have checked := checksFlag_of_isRest isRest (effect_of_exec executed).block isSet
  obtain same | isRun := (signals_of_exec executed).run
  · obtain isTrue | ⟨_, before⟩ := checked
    · rw [isTrue] at executed
      cases executed
      rfl
    · rw [same, set before]
  · obtain isTrue | ⟨notFalse, _⟩ := checked
    · rw [isRun] at isTrue
      exact Op.setRun.inj isTrue
    · refine Bool.of_not_eq_false fun isFalse => notFalse ?_
      rw [isRun, isFalse]

end Exec

/-! From the start to the end of the requests. -/

structure Serving (state : State Unit) : Prop where
  good : Good Encoder state
  set : FlagSet (state.control ()) → state.board.run = true

theorem Good.owned {watched : Object → Prop} {state : State Unit}
    (good : Good watched state) :
    IsRest (state.control ()) ∧ Matches watched (state.control ()) state.board :=
  let ⟨_, _, isRest, matched⟩ := good
  ⟨isRest, matched⟩

/-- One connection alone is always in sequence, and what this is about is joined under the
flags of `rk_video_init`. -/
theorem sequential_of_step {state next : State Unit} {label : Label Unit}
    (stepped : state.step label = some next) : Sequential Encoder state label := by
  constructor
  · rintro thread request rfl other
    unfold State.step at stepped
    dsimp only at stepped
    split at stepped
    next idle => exact idle
    next => cases stepped
  · intro thread ok instr rest _ _
    unfold Op.Kept
    split
    case h_3 => exact fun isEncoder => absurd isEncoder (by simp [Encoder, encoderThreads])
    case h_7 => trivial
    all_goals exact fun isEncoder => absurd isEncoder (by decide)

theorem Serving.step {state next : State Unit} (label : Label Unit)
    (serving : Serving state) (stepped : (restarts ()).step state label = some next) :
    Serving next := by
  have same : state.step label = some next := by
    cases label with
    | request thread request =>
        cases request with
        | restart | message => exact stepped
        | yoloDeinit => cases stepped
    | _ => exact stepped
  refine ⟨serving.good.step (sequential_of_step same) stepped, ?_⟩
  unfold State.step at same
  cases label with
  | request thread request =>
      dsimp only at same
      split at same
      next idle =>
        cases same
        exact fun _ => serving.set (by rw [idle]; decide)
      next => cases same
  | step thread ok =>
      obtain ⟨isRest, _⟩ := serving.good.owned
      dsimp only at same
      split at same
      · cases same
      next instr rest isControl =>
        have isControl : state.control () = instr :: rest := isControl
        obtain ⟨⟨board, block⟩, executed, rfl⟩ := Option.map_eq_some_iff.mp same
        have set := serving.set
        rw [isControl] at isRest set
        simp only [Function.update_self]
        exact flag_of_exec isRest set executed
  | params params =>
      cases same
      exact serving.set
  | leave object =>
      obtain ⟨board, left, rfl⟩ := Option.map_eq_some_iff.mp same
      unfold Board.leave at left
      split at left <;> cases left
      exact serving.set
  | clock ok =>
      obtain ⟨board, ticked, rfl⟩ := Option.map_eq_some_iff.mp same
      unfold Board.clock at ticked
      split at ticked <;> cases ticked
      exact serving.set
  | infer =>
      obtain ⟨board, inferred, rfl⟩ := Option.map_eq_some_iff.mp same
      unfold Board.infer at inferred
      split at inferred <;> cases inferred <;> exact serving.set

theorem serving_of_reachable {state : State Unit}
    (reachable : (restarts ()).Reachable System.anyStep state) : Serving state := by
  refine reachable.invariant ?_ fun _ label _ serving _ stepped => serving.step label stepped
  intro state isInitial
  have good : Good Encoder state := good_of_reachable (.start isInitial)
  obtain ⟨params, rfl⟩ := isInitial
  exact ⟨good, fun _ => rfl⟩

theorem Serving.spared {state : State Unit} (serving : Serving state)
    (cleared : state.board.run = false) (notStopping : state.board.phase .video ≠ .stopping)
    {object : Object} (isEncoder : Encoder object) :
    state.board.status object ≠ .running := by
  obtain ⟨isRest, matched⟩ := serving.good.owned
  have notSet : ¬ FlagSet (state.control ()) := fun set => by
    rw [serving.set set] at cleared
    cases cleared
  rw [matched.phase] at notStopping
  obtain ⟨takes, behind⟩ :=
    (checksPoint_of_isRest isRest).2.1 notSet notStopping object isEncoder
  rw [matched.absent object isEncoder takes behind]
  nofun

/-- The inference thread is in its loop, and not on a channel that a restart disabled. -/
structure Looping (state : State Unit) : Prop where
  serving : Serving state
  yolo : state.board.yolo = .check ∨ state.board.yolo = .get ∨ state.board.yolo = .body
  calls : UnderWay (state.control ()) → state.board.yolo = .get →
    state.board.npuChn ≠ .disabled

/-- From `rkipc_yolo_deinit` on. -/
structure Ending (state : State Unit) : Prop where
  suffix : state.control () <:+ rkipcYoloDeinit
  joined : state.control () = [] → state.board.yolo = .absent
  spared : ∀ object, Encoder object → state.board.status object ≠ .running

section Step

variable {state next : State Unit} {label : Label Unit}

theorem infer_cases {board next : Board} (inferred : board.infer = some next) :
    next = { board with yolo := next.yolo } ∧
      (board.yolo = .check ∧ next.yolo = (if board.run then .get else .ended) ∨
        board.yolo = .get ∧ next.yolo = .body ∨ board.yolo = .body ∧ next.yolo = .check) := by
  unfold Board.infer at inferred
  split at inferred
  · cases inferred
  · cases inferred
  next isCheck =>
    cases inferred
    exact ⟨rfl, .inl ⟨isCheck, rfl⟩⟩
  next isGet =>
    cases inferred
    exact ⟨rfl, .inr (.inl ⟨isGet, rfl⟩)⟩
  next isBody =>
    cases inferred
    exact ⟨rfl, .inr (.inr ⟨isBody, rfl⟩)⟩

theorem Looping.request (looping : Looping state) {request : Request}
    (undisturbed : Undisturbed state (.request () request))
    (stepped : detection.step state (.request () request) = some next) :
    Looping next ∨ Ending next := by
  have stepped :
      (if state.board.yolo = .absent then none else state.step (.request () request)) =
        some next := stepped
  split at stepped
  next => cases stepped
  next =>
    cases request with
    | restart =>
        have serving := looping.serving.step (.request () .restart) stepped
        unfold State.step at stepped
        dsimp only at stepped
        split at stepped <;> cases stepped
        exact .inl ⟨serving, looping.yolo, fun _ => undisturbed.begins rfl⟩
    | message added =>
        have serving := looping.serving.step (.request () (.message added)) stepped
        unfold State.step at stepped
        dsimp only at stepped
        split at stepped <;> cases stepped
        have isOver : ¬ UnderWay (rkipcStorageMsgRecCb added) := by
          cases added <;> decide
        exact .inl ⟨serving, looping.yolo, fun underWay => absurd underWay isOver⟩
    | yoloDeinit =>
        unfold State.step at stepped
        dsimp only at stepped
        split at stepped <;> cases stepped
        refine .inr ⟨List.suffix_refl _, nofun, undisturbed.deinit rfl⟩

theorem Looping.exec (looping : Looping state) {ok : Bool}
    (undisturbed : Undisturbed state (.step () ok))
    (stepped : state.step (.step () ok) = some next) : Looping next := by
  have serving := looping.serving.step (.step () ok) stepped
  obtain ⟨isRest, _⟩ := looping.serving.good.owned
  unfold State.step at stepped
  dsimp only at stepped
  split at stepped
  · cases stepped
  next instr rest isControl =>
    have isControl : state.control () = instr :: rest := isControl
    obtain ⟨⟨board, block⟩, executed, rfl⟩ := Option.map_eq_some_iff.mp stepped
    have signals := signals_of_exec executed
    rw [isControl] at isRest
    have kept : board.yolo = state.board.yolo := signals.yolo.resolve_right fun ⟨isJoin, _⟩ =>
      (checksPoint_of_isRest isRest).2.2 (pending_cons.mpr (.inl isJoin.symm))
    refine ⟨serving, kept ▸ looping.yolo, fun underWay isGet => ?_⟩
    have isGet : state.board.yolo = .get := kept ▸ isGet
    simp only [Function.update_self] at underWay
    have before : UnderWay (state.control ()) := by
      rw [isControl]
      exact pending_cons.mpr (.inr (underWay.of_suffix (skipOf_suffix block rest)))
    obtain same | enabled | disables := signals.npuChn
    · exact same ▸ looping.calls before isGet
    · rw [enabled]
      nofun
    · obtain ⟨blocks, op⟩ := instr
      obtain rfl : op = .disableNpuChn := disables
      exact absurd isGet (undisturbed.disables ok blocks rest rfl isControl)

theorem Looping.infer (looping : Looping state) (undisturbed : Undisturbed state .infer)
    (stepped : state.step .infer = some next) : Looping next := by
  have serving := looping.serving.step .infer stepped
  obtain ⟨isRest, _⟩ := looping.serving.good.owned
  obtain ⟨board, inferred, rfl⟩ := Option.map_eq_some_iff.mp stepped
  obtain ⟨isNext, ⟨isCheck, after⟩ | ⟨_, after⟩ | ⟨_, after⟩⟩ := infer_cases inferred
  · have isRun : state.board.run = true := by
      by_cases underWay : UnderWay (state.control ())
      · exact (undisturbed.looks rfl underWay isCheck).1
      · exact looping.serving.set ((checksPoint_of_isRest isRest).1 underWay)
    rw [isRun] at after
    refine ⟨serving, .inr (.inl after), fun underWay _ => ?_⟩
    rw [isNext]
    exact (undisturbed.looks rfl underWay isCheck).2
  · refine ⟨serving, .inr (.inr after), fun _ isGet => ?_⟩
    rw [after] at isGet
    cases isGet
  · refine ⟨serving, .inl after, fun _ isGet => ?_⟩
    rw [after] at isGet
    cases isGet

theorem leave_spared {board next : Board} {left : Object} (leaves : board.leave left = some next)
    {object : Object} (spared : board.status object ≠ .running) :
    next.status object ≠ .running := by
  unfold Board.leave at leaves
  split at leaves
  next isRunning =>
    cases leaves
    have other : object ≠ left := by
      rintro rfl
      exact spared isRunning.1
    exact fun running => spared ((Function.update_of_ne other _ _).symm.trans running)
  next => cases leaves

theorem clock_spared {board next : Board} {ok : Bool} (ticked : board.clock ok = some next)
    {object : Object} (isEncoder : Encoder object)
    (spared : board.status object ≠ .running) : next.status object ≠ .running := by
  unfold Board.clock at ticked
  split at ticked <;> cases ticked
  have other : object ≠ .osdTimeThread := by
    rintro rfl
    exact absurd isEncoder (by decide)
  exact fun running => spared ((Function.update_of_ne other _ _).symm.trans running)

theorem Looping.step (looping : Looping state) (undisturbed : Undisturbed state label)
    (stepped : detection.step state label = some next) : Looping next ∨ Ending next := by
  cases label with
  | request thread request => exact looping.request undisturbed stepped
  | step thread ok => exact .inl (looping.exec undisturbed stepped)
  | infer => exact .inl (looping.infer undisturbed stepped)
  | params params =>
      have serving := looping.serving.step (.params params) stepped
      cases stepped
      exact .inl ⟨serving, looping.yolo, looping.calls⟩
  | leave object =>
      have serving := looping.serving.step (.leave object) stepped
      have stepped : state.step (.leave object) = some next := stepped
      obtain ⟨board, left, rfl⟩ := Option.map_eq_some_iff.mp stepped
      unfold Board.leave at left
      split at left <;> cases left
      exact .inl ⟨serving, looping.yolo, looping.calls⟩
  | clock ok =>
      have serving := looping.serving.step (.clock ok) stepped
      have stepped : state.step (.clock ok) = some next := stepped
      obtain ⟨board, ticked, rfl⟩ := Option.map_eq_some_iff.mp stepped
      unfold Board.clock at ticked
      split at ticked <;> cases ticked
      exact .inl ⟨serving, looping.yolo, looping.calls⟩

theorem Ending.step (ending : Ending state)
    (stepped : detection.step state label = some next) : Ending next := by
  cases label with
  | request thread request =>
      have stepped :
          (if state.board.yolo = .absent then none
            else state.step (.request thread request)) = some next := stepped
      split at stepped
      next => cases stepped
      next notAbsent =>
        unfold State.step at stepped
        dsimp only at stepped
        split at stepped
        next idle => exact absurd (ending.joined idle) notAbsent
        next => cases stepped
  | step thread ok =>
      have stepped : state.step (.step () ok) = some next := stepped
      unfold State.step at stepped
      dsimp only at stepped
      split at stepped
      · cases stepped
      next instr rest isControl =>
        have isControl : state.control () = instr :: rest := isControl
        obtain ⟨⟨board, block⟩, executed, rfl⟩ := Option.map_eq_some_iff.mp stepped
        have suffix := ending.suffix
        rw [isControl] at suffix
        obtain same | suffix := List.suffix_cons_iff.mp suffix
        · cases same
          cases executed
          exact ⟨List.suffix_cons _ _, nofun, ending.spared⟩
        · obtain same | suffix := List.suffix_cons_iff.mp suffix
          · cases same
            unfold Board.exec at executed
            dsimp only at executed
            split at executed
            next isAbsent =>
              cases executed
              exact ⟨List.nil_suffix, fun _ => isAbsent, ending.spared⟩
            next =>
              cases executed
              exact ⟨List.nil_suffix, fun _ => rfl, ending.spared⟩
            all_goals cases executed
          · cases List.suffix_nil.mp suffix
  | params params =>
      cases stepped
      exact ⟨ending.suffix, ending.joined, ending.spared⟩
  | leave object =>
      have stepped : state.step (.leave object) = some next := stepped
      obtain ⟨board, left, rfl⟩ := Option.map_eq_some_iff.mp stepped
      refine ⟨ending.suffix, fun idle => ?_, fun object isEncoder =>
        leave_spared left (ending.spared object isEncoder)⟩
      unfold Board.leave at left
      split at left <;> cases left
      exact ending.joined idle
  | clock ok =>
      have stepped : state.step (.clock ok) = some next := stepped
      obtain ⟨board, ticked, rfl⟩ := Option.map_eq_some_iff.mp stepped
      refine ⟨ending.suffix, fun idle => ?_, fun object isEncoder =>
        clock_spared ticked isEncoder (ending.spared object isEncoder)⟩
      unfold Board.clock at ticked
      split at ticked <;> cases ticked
      exact ending.joined idle
  | infer =>
      have stepped : state.step .infer = some next := stepped
      obtain ⟨board, inferred, rfl⟩ := Option.map_eq_some_iff.mp stepped
      obtain ⟨isNext, cases⟩ := infer_cases inferred
      refine ⟨ending.suffix, fun idle => ?_, isNext ▸ ending.spared⟩
      rw [ending.joined idle] at cases
      obtain ⟨impossible, _⟩ | ⟨impossible, _⟩ | ⟨impossible, _⟩ := cases
      all_goals cases impossible

end Step

def Detecting (state : State Unit) : Prop := Looping state ∨ Ending state

theorem detecting_of_reachable {state : State Unit}
    (reachable : detection.Reachable Undisturbed state) : Detecting state := by
  refine reachable.invariant ?_ ?_
  · rintro _ ⟨before, rested, idle, rfl⟩
    obtain ⟨⟨owner, others, isRest, matched⟩, set⟩ := serving_of_reachable rested
    exact .inl ⟨⟨⟨owner, others, isRest, matched.others rfl rfl rfl fun _ => id⟩, set⟩,
      .inl rfl, nofun⟩
  · intro before label after detecting undisturbed stepped
    cases detecting with
    | inl looping => exact looping.step undisturbed stepped
    | inr ending => exact .inr (ending.step stepped)

/-- Detection goes on, and the encoder threads too, where nothing comes in between. -/
theorem detectionKept_of_undisturbed {state : State Unit}
    (reachable : detection.Reachable Undisturbed state) : DetectionKept state := by
  cases detecting_of_reachable reachable with
  | inl looping =>
      refine ⟨fun _ ended => ?_, looping.calls,
        fun cleared notStopping _ => looping.serving.spared cleared notStopping⟩
      obtain isYolo | isYolo | isYolo := looping.yolo <;> rw [isYolo] at ended <;> cases ended
  | inr ending =>
      refine ⟨fun idle ended => ?_, fun underWay => ?_, fun _ _ => ending.spared⟩
      · rw [ending.joined idle] at ended
        cases ended
      · exact absurd (underWay.of_suffix ending.suffix) (by decide)

section Examples

/-- A check of the guard. -/
def quiet (state : State Unit) : Label Unit → Bool
  | .request _ .restart => state.board.yolo ≠ .get || state.board.npuChn ≠ .disabled
  | .request _ .yoloDeinit =>
      encoderThreads.all fun object => state.board.status object ≠ .running
  | .step _ _ =>
      (state.control ()).head?.map Instr.op ≠ some .disableNpuChn ||
        state.board.yolo ≠ .get
  | .infer =>
      !decide (UnderWay (state.control ())) || state.board.yolo ≠ .check ||
        state.board.run && state.board.npuChn ≠ .disabled
  | _ => true

theorem undisturbed_of_quiet {state : State Unit} {label : Label Unit}
    (isQuiet : quiet state label = true) : Undisturbed state label := by
  constructor
  · rintro rfl isGet
    simpa [quiet, isGet] using isQuiet
  · rintro ok blocks rest rfl isControl
    simpa [quiet, isControl] using isQuiet
  · rintro rfl underWay isCheck
    simpa [quiet, underWay, isCheck] using isQuiet
  · rintro rfl
    simpa [quiet] using isQuiet

def npuStream : Params where
  enable flag := flag = .venc0 || flag = .npu
  nv12 := false
  cycleSnapshot := false
  clocks := 0
  storage _ := 0

/-- The start-up, and then the labels. -/
def started (allowed : State Unit → Label Unit → Bool) (labels : List (Label Unit)) :
    Option (State Unit) :=
  ((restarts ()).run ⟨.blank npuStream, Function.update (fun _ => []) () startUp⟩
    (List.replicate 40 (.step () true))).bind fun before =>
      if before.control () = [] then
        detection.guardedRun allowed before.rkipcYoloInit labels
      else none

theorem reachable_of_started {allowed : State Unit → Label Unit → Bool}
    {guard : State Unit → Label Unit → Prop} {labels : List (Label Unit)}
    {state : State Unit}
    (checks : ∀ state label, allowed state label = true → guard state label)
    (ran : started allowed labels = some state) : detection.Reachable guard state := by
  obtain ⟨before, up, ran⟩ := Option.bind_eq_some_iff.mp ran
  split at ran
  next idle =>
    refine ⟨_, ⟨before, System.reachable_of_run ⟨npuStream, rfl⟩ up, idle, rfl⟩, ?_⟩
    exact System.reaches_of_guardedRun checks labels ran
  next => cases ran

/-- The thread is in the body of its loop all through a restart. -/
theorem detectionKept_of_undisturbed_body :
    ∃ state, detection.Reachable Undisturbed state ∧ state.control () = [] ∧
      state.board.yolo = .get ∧ DetectionKept state := by
  let labels : List (Label Unit) :=
    [Label.infer, .infer] ++ storageStops () ++ List.replicate 9 (Label.step () true) ++
      [Label.leave .vencThread0] ++ List.replicate 49 (Label.step () true) ++ [Label.infer, .infer]
  have ran : (started quiet labels).map
      (fun state => (state.control (), state.board.yolo)) = some ([], .get) := by
    decide
  obtain ⟨state, ran, found⟩ := Option.map_eq_some_iff.mp ran
  obtain ⟨idle, isGet⟩ := Prod.mk.inj found
  have reachable := reachable_of_started (fun _ _ => undisturbed_of_quiet) ran
  exact ⟨state, reachable, idle, isGet, detectionKept_of_undisturbed reachable⟩

/-- The thread looks at the flag between the two halves of a restart. -/
theorem detection_ends :
    ∃ state, detection.Reachable System.anyStep state ∧ ¬ DetectionKept state := by
  let labels : List (Label Unit) :=
    storageStops () ++ List.replicate 9 (Label.step () true) ++
      [Label.infer, .leave .vencThread0] ++ List.replicate 49 (Label.step () true)
  have ran : (started (fun _ _ => true) labels).map
      (fun state => (state.control (), state.board.yolo)) = some ([], .ended) := by
    decide
  obtain ⟨state, ran, found⟩ := Option.map_eq_some_iff.mp ran
  obtain ⟨idle, ended⟩ := Prod.mk.inj found
  refine ⟨state, reachable_of_started (fun _ _ _ => trivial) ran, fun kept => ?_⟩
  exact kept.looping idle ended

end Examples

end Rkipc.Video
