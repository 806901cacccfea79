import Rkipc.Video.Shutdown

namespace Rkipc.Video

open Transition

/-! The order in which `main` takes the modules down.  The inference thread is started
without a condition, and the only join of it is behind `RK_MPI_SYS_Exit`. -/

variable {τ : Type}

/-- Of what has happened so far. -/
structure OrderlyShutdown [DecidableEq τ] (history : List (Event τ)) : Prop where
  quiet : ∀ before after, history = before ++ .deinitialised .sys :: after →
    ∀ caller, .uses caller .mpi ∉ after
  closed : ∀ before after, history = before ++ .deinitialised .param :: after →
    ∀ caller, .uses caller .config ∉ after
  matched : ∀ before, before <+: history → ∀ part,
    before.count (.deinitialised part) ≤ before.count (.initialised part)
  balanced : .deinitialised .param ∈ history → ∀ part,
    history.count (.initialised part) = history.count (.deinitialised part)
  joined : ∀ before after, history = before ++ .deinitialised .sys :: after →
    ∀ worker, worker.ofVideo = true →
      before.count (.started worker) ≤ before.count (.joined worker)

theorem joined_not_mem_events {board : Board} {caller : Caller τ} {op : Op}
    (other : op ≠ .joinYolo) : .joined .yolo ∉ board.events caller op := by
  intro member
  cases op with
  | joinYolo => exact other rfl
  | finishes module init => cases init <;> simp [Board.events] at member
  | startClocks => simp [Board.events, List.mem_replicate] at member
  | mpi block => cases block <;> simp [Board.events] at member
  | branch cond block | acquire object | release object =>
      simp only [Board.events] at member
      split at member <;> simp at member
  | _ => simp [Board.events] at member

theorem exit_not_mem_events {board : Board} {caller : Caller τ} {op : Op} :
    .deinitialised .sys ∉ board.events caller op := by
  intro member
  cases op with
  | finishes module init =>
      cases init <;> cases module <;> simp [Board.events, Module.part] at member
  | startClocks => simp [Board.events, List.mem_replicate] at member
  | mpi block => cases block <;> simp [Board.events] at member
  | branch cond block | acquire object | release object | joinYolo =>
      simp only [Board.events] at member
      split at member <;> simp at member
  | _ => simp [Board.events] at member

/-! Facts about the text of `main` and of a restart. -/

theorem rkVideoRestart_joins :
    ∀ instr ∈ rkVideoRestart, instr.op ≠ .joinYolo := by
  decide

theorem mainLines_exits : .deinit .sys ∈ mainLines := by
  decide

theorem mainLines_begins : .yoloInit ∈ mainLines := by
  decide

def Line.neverJoins : Line → Bool
  | .instr entry => entry.op ≠ .joinYolo
  | _ => true

theorem mainLines_joins {instr : Instr} (member : .instr instr ∈ mainLines) :
    instr.op ≠ .joinYolo := by
  have all : ∀ line ∈ mainLines, ∀ instr, line = .instr instr → instr.op ≠ .joinYolo := by
    have checked : mainLines.all Line.neverJoins = true := by
      decide
    rintro line member instr rfl
    exact of_decide_eq_true (List.all_eq_true.mp checked _ member)
  exact all _ member _ rfl

/-- `main` has started the inference thread when it calls `RK_MPI_SYS_Exit`, and calls
`rkipc_yolo_deinit` behind that. -/
abbrev ChecksExit (pending : List Line) : Prop :=
  (pending.head? = some (.deinit .sys) → .yoloInit ∉ pending) ∧
    (pending.head? = some .yoloDeinit → .deinit .sys ∉ pending)

theorem checksExit_of_suffix {pending : List Line} (suffix : pending <:+ mainLines) :
    ChecksExit pending := by
  have checked : (mainLines.tails.all fun pending => decide (ChecksExit pending)) = true := by
    decide
  exact of_decide_eq_true
    (List.all_eq_true.mp checked _ ((List.mem_tails _ _).mpr suffix))

theorem skipLines_suffix (block : Option Block) (rest : List Line) :
    skipLines block rest <:+ rest := by
  cases block with
  | none => exact List.suffix_rfl
  | some block => exact List.dropWhile_suffix _

theorem mem_skipLines {block : Option Block} {rest : List Line} {line : Line}
    (isCall : ∀ instr, line ≠ .instr instr) (member : line ∈ rest) :
    line ∈ skipLines block rest := by
  cases block with
  | none => exact member
  | some block =>
      have parts := List.takeWhile_append_dropWhile (p := Line.isIn block) (l := rest)
      rw [← parts] at member
      rcases List.mem_append.mp member with skipped | kept
      case inl =>
        have inside : line.isIn block = true :=
          List.all_eq_true.mp List.all_takeWhile line skipped
        cases line with
        | instr entry => exact absurd rfl (isCall entry)
        | _ => cases inside
      case inr => exact kept

theorem skipOf_subset (block : Option Block) (rest : List Instr) : skipOf block rest ⊆ rest := by
  cases block with
  | none => exact List.Subset.refl _
  | some block => exact (List.dropWhile_suffix _).subset

/-! Before `RK_MPI_SYS_Exit` and behind it. -/

structure Ahead (process : Process τ) : Prop where
  suffix : process.main <:+ mainLines
  exits : .deinit .sys ∈ process.main
  notYet : .deinitialised .sys ∉ process.history
  begun : .yoloInit ∈ process.main ∨ .started .yolo ∈ process.history
  unjoined : .joined .yolo ∉ process.history

def Behind (history : List (Event τ)) : Prop :=
  ∃ before after, history = before ++ .deinitialised .sys :: after ∧
    .started .yolo ∈ before ∧ .joined .yolo ∉ before

theorem Behind.append {history : List (Event τ)} (behind : Behind history)
    (events : List (Event τ)) : Behind (history ++ events) := by
  obtain ⟨before, after, rfl, started, unjoined⟩ := behind
  exact ⟨before, after ++ events, by simp, started, unjoined⟩

theorem Ahead.moves {process next : Process τ} {events : List (Event τ)}
    (ahead : Ahead process) (suffix : next.main <:+ process.main)
    (exits : .deinit .sys ∈ next.main)
    (begun : .yoloInit ∈ process.main → .yoloInit ∈ next.main ∨ .started .yolo ∈ events)
    (grows : next.history = process.history ++ events)
    (notExit : .deinitialised .sys ∉ events) (notJoined : .joined .yolo ∉ events) :
    Ahead next where
  suffix := suffix.trans ahead.suffix
  exits := exits
  notYet := by
    rw [grows, List.mem_append]
    exact not_or.mpr ⟨ahead.notYet, notExit⟩
  begun := by
    rw [grows, List.mem_append]
    rcases ahead.begun with pending | started
    case inl => exact (begun pending).imp_right .inr
    case inr => exact .inr (.inl started)
  unjoined := by
    rw [grows, List.mem_append]
    exact not_or.mpr ⟨ahead.unjoined, notJoined⟩

/-- A restart does not join the inference thread. -/
def NeverJoins (control : τ → List Instr) : Prop :=
  ∀ thread, ∀ instr ∈ control thread, instr.op ≠ .joinYolo

theorem neverJoins_update [DecidableEq τ] {control : τ → List Instr} {thread : τ}
    {instrs : List Instr} (others : NeverJoins control)
    (own : ∀ instr ∈ instrs, instr.op ≠ .joinYolo) :
    NeverJoins (Function.update control thread instrs) :=
  (Function.forall_update_iff control
    fun _ (pending : List Instr) => ∀ instr ∈ pending, instr.op ≠ .joinYolo).mpr
      ⟨own, fun other _ => others other⟩

/-- The inference thread is not joined before `RK_MPI_SYS_Exit`. -/
structure Late (process : Process τ) : Prop where
  connections : NeverJoins process.control
  main : Ahead process ∨ Behind process.history

theorem Late.other {process next : Process τ} {events : List (Event τ)}
    (late : Late process) (main : next.main = process.main)
    (connections : NeverJoins next.control)
    (grows : next.history = process.history ++ events)
    (notExit : .deinitialised .sys ∉ events) (notJoined : .joined .yolo ∉ events) :
    Late next where
  connections := connections
  main := by
    rcases late.main with ahead | behind
    case inl =>
      refine .inl (ahead.moves ?_ ?_ ?_ grows notExit notJoined)
      · rw [main]
      · rw [main]
        exact ahead.exits
      · intro pending
        rw [main]
        exact .inl pending
    case inr =>
      rw [grows]
      exact .inr (behind.append events)

/-- A line of `main` that is neither the start of the inference thread nor
`RK_MPI_SYS_Exit`. -/
theorem Ahead.line {process next : Process τ} {line : Line} {rest : List Line}
    (block : Option Block) {events : List (Event τ)} (ahead : Ahead process)
    (isMain : process.main = line :: rest) (notExit : line ≠ .deinit .sys)
    (notYolo : line ≠ .yoloInit) (main : next.main = skipLines block rest)
    (grows : next.history = process.history ++ events)
    (quiet : .deinitialised .sys ∉ events) (notJoined : .joined .yolo ∉ events) :
    Ahead next := by
  have behind {other : Line} (differs : line ≠ other)
      (isCall : ∀ instr, other ≠ .instr instr) (member : other ∈ process.main) :
      other ∈ next.main := by
    rw [isMain, List.mem_cons] at member
    rw [main]
    exact mem_skipLines isCall (member.resolve_left differs.symm)
  refine ahead.moves ?_ (behind notExit nofun ahead.exits)
    (fun pending => .inl (behind notYolo nofun pending)) grows quiet notJoined
  rw [main, isMain]
  exact (skipLines_suffix block rest).trans (List.suffix_cons line rest)

theorem control_mainStep {process next : Process τ} {ok : Bool}
    (stepped : process.mainStep ok = some next) : next.control = process.control := by
  unfold Process.mainStep at stepped
  split at stepped
  case h_1 => cases stepped
  case h_5 =>
    obtain ⟨⟨board, block⟩, _, rfl⟩ := Option.map_eq_some_iff.mp stepped
    rfl
  case h_8 =>
    cases stepped
    split <;> rfl
  all_goals
    cases stepped
    rfl

theorem history_mainStep {process next : Process τ} {ok : Bool}
    (stepped : process.mainStep ok = some next) :
    ∃ events, next.history = process.history ++ events := by
  unfold Process.mainStep at stepped
  split at stepped
  case h_1 => cases stepped
  case h_5 =>
    obtain ⟨⟨board, block⟩, _, rfl⟩ := Option.map_eq_some_iff.mp stepped
    exact ⟨_, rfl⟩
  case h_8 =>
    cases stepped
    refine ⟨[], ?_⟩
    split <;> exact (List.append_nil _).symm
  all_goals
    cases stepped
    exact ⟨_, rfl⟩

theorem late_mainStep {process next : Process τ} {ok : Bool} (ahead : Ahead process)
    (stepped : process.mainStep ok = some next) :
    Ahead next ∨ Behind next.history := by
  have checks := checksExit_of_suffix ahead.suffix
  unfold Process.mainStep at stepped
  split at stepped
  case h_1 isMain => cases stepped
  case h_2 part rest isMain =>
    cases stepped
    exact .inl (ahead.line none isMain (by simp) (by simp) rfl rfl (by simp) (by simp))
  case h_3 part rest isMain =>
    cases stepped
    rcases eq_or_ne part .sys with rfl | other
    case inl =>
      have started := ahead.begun.resolve_left
        (checks.1 (by rw [isMain, List.head?_cons]))
      exact .inr ⟨process.history, [], rfl, started, ahead.unjoined⟩
    case inr =>
      exact .inl (ahead.line none isMain (by simp [other]) (by simp) rfl rfl
        (by simp [other.symm]) (by simp))
  case h_4 init rest isMain =>
    cases stepped
    refine .inl (ahead.line none isMain (by simp) (by simp) rfl rfl ?_ ?_)
    · cases init <;> split <;> simp
    · cases init <;> split <;> simp
  case h_5 instr rest isMain =>
    obtain ⟨⟨board, block⟩, _, rfl⟩ := Option.map_eq_some_iff.mp stepped
    have joins : instr.op ≠ .joinYolo :=
      mainLines_joins (ahead.suffix.subset (by rw [isMain]; exact List.mem_cons_self))
    exact .inl (ahead.line block isMain (by simp) (by simp) rfl rfl exit_not_mem_events
      (joined_not_mem_events joins))
  case h_6 rest isMain =>
    cases stepped
    exact .inl (ahead.line none isMain (by simp) (by simp) rfl rfl (by simp) (by simp))
  case h_7 rest isMain =>
    cases stepped
    have exits := ahead.exits
    rw [isMain, List.mem_cons] at exits
    refine .inl (ahead.moves ?_ (exits.resolve_left (by simp)) (fun _ => .inr (by simp)) rfl
      (by simp) (by simp))
    rw [isMain]
    exact List.suffix_cons _ rest
  case h_8 rest isMain =>
    cases stepped
    split
    case isTrue => exact .inl ahead
    case isFalse =>
      have same : process.history = process.history ++ [] := (List.append_nil _).symm
      exact .inl (ahead.line none isMain (by simp) (by simp) rfl same (by simp) (by simp))
  case h_9 rest isMain =>
    exact absurd ahead.exits (checks.2 (by rw [isMain, List.head?_cons]))

theorem late_step [DecidableEq τ] {process next : Process τ} {label : ProcessLabel τ}
    (late : Late process) (stepped : process.step label = some next) : Late next := by
  cases label with
  | main ok =>
      constructor
      case connections =>
        rw [control_mainStep stepped]
        exact late.connections
      case main =>
        rcases late.main with ahead | behind
        case inl => exact late_mainStep ahead stepped
        case inr =>
          obtain ⟨events, grows⟩ := history_mainStep stepped
          rw [grows]
          exact .inr (behind.append events)
  | signal =>
      cases stepped
      exact late.other rfl late.connections (List.append_nil _).symm (by simp) (by simp)
  | restart thread =>
      simp only [Process.step] at stepped
      split at stepped
      case isTrue =>
        cases stepped
        exact late.other rfl (neverJoins_update late.connections rkVideoRestart_joins)
          (List.append_nil _).symm (by simp) (by simp)
      case isFalse => cases stepped
  | step thread ok =>
      simp only [Process.step] at stepped
      split at stepped
      case h_1 => cases stepped
      case h_2 instr rest isControl =>
        obtain ⟨⟨board, block⟩, _, rfl⟩ := Option.map_eq_some_iff.mp stepped
        have clean := late.connections thread
        rw [isControl] at clean
        have kept : ∀ instr ∈ skipOf block rest, instr.op ≠ .joinYolo := fun other member =>
          clean other (List.mem_cons_of_mem _ (skipOf_subset block rest member))
        exact late.other rfl (neverJoins_update late.connections kept) rfl
          exit_not_mem_events (joined_not_mem_events (clean instr List.mem_cons_self))
  | serve thread use | setParams thread params audio =>
      simp only [Process.step] at stepped
      split at stepped
      case isTrue =>
        cases stepped
        exact late.other rfl late.connections rfl (by simp) (by simp)
      case isFalse => cases stepped
  | leave object =>
      obtain ⟨board, _, rfl⟩ := Option.map_eq_some_iff.mp stepped
      exact late.other rfl late.connections (List.append_nil _).symm (by simp) (by simp)
  | clock ok =>
      obtain ⟨board, _, rfl⟩ := Option.map_eq_some_iff.mp stepped
      exact late.other rfl late.connections (List.append_nil _).symm (by simp) (by simp)
  | call object use =>
      simp only [Process.step] at stepped
      split at stepped
      case isTrue =>
        cases stepped
        exact late.other rfl late.connections rfl (by simp) (by simp)
      case isFalse => cases stepped
  | infer =>
      simp only [Process.step, Process.infer] at stepped
      split at stepped
      case isTrue =>
        cases stepped
        exact late.other rfl late.connections rfl (by simp) (by simp)
      case isFalse =>
        obtain ⟨board, _, rfl⟩ := Option.map_eq_some_iff.mp stepped
        refine late.other rfl late.connections rfl ?_ ?_
        · split <;> simp
        · split <;> simp

theorem late_of_reachable [DecidableEq τ] {process : Process τ}
    (reachable : (application τ).Reachable System.anyStep process) : Late process := by
  refine reachable.invariant ?_ ?_
  · rintro _ ⟨params, audio, rfl⟩
    constructor
    case connections =>
      intro thread instr member
      cases member
    case main =>
      exact .inl ⟨List.suffix_rfl, mainLines_exits, List.not_mem_nil,
        .inl mainLines_begins, List.not_mem_nil⟩
  · intro state label next late _ stepped
    exact late_step late stepped

/-- No run in which `main` gets past `RK_MPI_SYS_Exit` is in order. -/
theorem neverOrderly [DecidableEq τ] {process : Process τ}
    (reachable : (application τ).Reachable System.anyStep process)
    (exited : .deinitialised .sys ∈ process.history) :
    ¬ OrderlyShutdown process.history := by
  intro orderly
  rcases (late_of_reachable reachable).main with ahead | behind
  case inl => exact ahead.notYet exited
  case inr =>
    obtain ⟨before, after, split, started, unjoined⟩ := behind
    have counts := orderly.joined before after split .yolo rfl
    rw [List.count_eq_zero_of_not_mem unjoined] at counts
    exact absurd (List.count_pos_iff.mpr started) (by omega)

section Examples

def onlyNpu (npu : Bool) : Params where
  enable flag := flag = .npu && npu
  nv12 := false
  cycleSnapshot := false
  clocks := 0
  storage _ := 0

/-- The threads of the storage end when they are told to. -/
def storageStopped : List (ProcessLabel Unit) :=
  List.replicate 7 (.main true) ++ [.leave .eventListenerThread, .main true, .main true,
    .leave .recMsgThread, .main true, .leave .fileScanThread]

set_option maxRecDepth 1024 in
/-- The inference thread is joined, but behind `RK_MPI_SYS_Exit`. -/
theorem neverOrderly_npu :
    ∃ process : Process Unit, (application Unit).Reachable System.anyStep process ∧
      process.main = [] ∧ ¬ OrderlyShutdown process.history := by
  let labels : List (ProcessLabel Unit) :=
    List.replicate 44 (ProcessLabel.main true) ++ [ProcessLabel.infer, .infer, .infer, .signal] ++
      storageStopped ++ List.replicate 23 (ProcessLabel.main true) ++
      [ProcessLabel.infer, .infer, .infer] ++ List.replicate 4 (ProcessLabel.main true)
  have ran : ((application Unit).run (.atStart (onlyNpu true) false) labels).map
      (fun process => (process.main, decide (.deinitialised .sys ∈ process.history))) =
      some ([], true) := by
    decide
  obtain ⟨process, ran, found⟩ := Option.map_eq_some_iff.mp ran
  obtain ⟨returned, exited⟩ := Prod.mk.inj found
  have reachable : (application Unit).Reachable System.anyStep process :=
    System.reachable_of_run ⟨onlyNpu true, false, rfl⟩ ran
  exact ⟨process, reachable, returned, neverOrderly reachable (of_decide_eq_true exited)⟩

/-- Without `video.source:enable_npu` the inference thread is still in its loop when `main`
has returned. -/
theorem frame_after_exit :
    ∃ process : Process Unit, (application Unit).Reachable System.anyStep process ∧
      process.main = [] ∧ ¬ OrderlyShutdown process.history := by
  let labels : List (ProcessLabel Unit) :=
    List.replicate 42 (ProcessLabel.main true) ++ [ProcessLabel.infer, .infer, .infer, .signal] ++
      storageStopped ++ List.replicate 23 (ProcessLabel.main true) ++ [ProcessLabel.infer]
  have ran : ((application Unit).run (.atStart (onlyNpu false) false) labels).map
      (fun process => (process.main, process.history.drop 36)) =
      some ([], [.deinitialised .sys, .deinitialised .isp, .uses .main .config,
        .deinitialised .network, .deinitialised .param, .uses (.worker .yolo) .mpi]) := by
    decide
  obtain ⟨process, ran, found⟩ := Option.map_eq_some_iff.mp ran
  obtain ⟨returned, rest⟩ := Prod.mk.inj found
  refine ⟨process, System.reachable_of_run ⟨onlyNpu false, false, rfl⟩ ran, returned, ?_⟩
  intro orderly
  have parts := List.take_append_drop 36 process.history
  rw [rest] at parts
  exact orderly.quiet _ _ parts.symm (.worker .yolo) (by decide)

end Examples

end Rkipc.Video
