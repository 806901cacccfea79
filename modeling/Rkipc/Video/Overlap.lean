import Mathlib.Data.List.Infix
import Rkipc.Video.Restart

namespace Rkipc.Video

open Transition

/-! Restarts from several connections, with messages about cards in between, and when their
steps keep to the order of `init` and `deinit`. -/

def Board.blank (params : Params) : Board where
  run := true
  cycleSnapshotFlag := false
  enable _ := false
  params := params
  phase _ := .down
  status _ := .absent
  global global := global = .osdServerRun || global = .osdTimeServerRun
  overwritten := false
  npuChn := .never
  yolo := .absent

/-- The connections may only ask for restarts, the kernel may send messages, and `main`
starts up. -/
def restarts {τ : Type} [DecidableEq τ] (main : τ) : System (State τ) (Label τ) where
  initial state := ∃ params, state =
    ⟨.blank params, Function.update (fun _ => []) main startUp⟩
  step state label :=
    match label with
    | .request _ .yoloDeinit => none
    | label => state.step label

def Op.Fine (board : Board) : Op → Prop
  | .begins module init => board.phase module = if init then .down else .up
  | .acquire object => board.status object = .absent
  | _ => True

/-- Whatever comes next is in order, and no clock has been overwritten. -/
structure Orderly {τ : Type} (state : State τ) : Prop where
  next : ∀ thread instr rest, state.control thread = instr :: rest →
    instr.op.Fine state.board
  overwritten : state.board.overwritten = false

/-- What `rk_video_deinit` and `rk_storage_muxer_deinit_by_id` join was started under the same
parameter, `rk_osd_deinit` joins the clock, of which there is one at most, a card that is
recognised is not scanned yet, and there is no thread of the kind that is never joined; this
is only asked of the objects that are watched. -/
def Op.Kept (watched : Object → Prop) (board : Board) (ok : Bool) : Op → Prop
  | .branch .cycleSnapshot .joinCycleSnapshot =>
      watched .cycleSnapshotThread →
        board.params.cycleSnapshot = true ∨ board.status .cycleSnapshotThread = .absent
  | .branch .clockJoined .joinClock =>
      watched .osdTimeThread →
        board.holds .clockJoined = true ∨ board.status .osdTimeThread = .absent
  | .branch (.storage id) (.muxerDeinit _) =>
      watched (.recordThread id) →
        board.params.storage id ≠ 0 ∨ board.status (.recordThread id) = .absent
  | .startClocks => watched .osdTimeThread → board.params.clocks ≤ 1
  | .mpi .deviceAdd =>
      watched .fileScanThread → ok = true → board.status .fileScanThread = .absent
  | .begins .video false =>
      watched .getViThread → board.status .getViThread = .absent
  | _ => True

/-- A restart or a message begins when nothing is under way, and finds its parameters as they
were. -/
structure Sequential {τ : Type} (watched : Object → Prop) (state : State τ)
    (label : Label τ) : Prop where
  alone : ∀ thread request, label = .request thread request →
    ∀ other, state.control other = []
  kept : ∀ thread ok instr rest, label = .step thread ok →
    state.control thread = instr :: rest → instr.op.Kept watched state.board ok

/-! What is still to do says how far the modules and the objects are. -/

def Pending (op : Op) (pending : List Instr) : Prop := op ∈ pending.map Instr.op

instance decidablePending (op : Op) (pending : List Instr) : Decidable (Pending op pending) :=
  inferInstanceAs (Decidable (op ∈ pending.map Instr.op))

def Op.takes (op : Op) (object : Object) : Bool :=
  match op with
  | .acquire other => object = other
  | .startClocks => object = .osdTimeThread
  | _ => false

/-- Behind such an operation an object is free. -/
def Op.clears (op : Op) (object : Object) : Bool :=
  match op with
  | .release other => object = other
  | .begins .video false => object = .getViThread
  | .mpi .deviceAdd => object = .fileScanThread
  | _ => false

abbrev Takes (object : Object) (pending : List Instr) : Prop :=
  (pending.any fun instr => instr.op.takes object) = true

abbrev Clears (object : Object) (pending : List Instr) : Prop :=
  (pending.any fun instr => instr.op.clears object) = true

def phaseOf (module : Module) (pending : List Instr) : Phase :=
  if Pending (.begins module false) pending then .up
  else if Pending (.finishes module false) pending then .stopping
  else if Pending (.begins module true) pending then .down
  else if Pending (.finishes module true) pending then .starting
  else .up

/-- The flag under which a thread is started and joined, with the branch that starts it. -/
def flagOf : Object → Option (Flag × Block)
  | .vencThread0 => some (.venc0, .pipe0Init)
  | .vencThread1 => some (.venc1, .pipe1Init)
  | .jpegVencThread | .cycleSnapshotThread => some (.jpeg, .pipeJpegInit)
  | _ => none

structure Matches (watched : Object → Prop) (pending : List Instr) (board : Board) :
    Prop where
  phase : ∀ module, board.phase module = phaseOf module pending
  absent : ∀ object, watched object → Takes object pending → ¬ Clears object pending →
    board.status object = .absent
  overwritten : watched .osdTimeThread → board.overwritten = false
  flags : ∀ object flag block, watched object → flagOf object = some (flag, block) →
    board.enable flag = false → board.status object = .absent
  taken : ∀ object flag block, flagOf object = some (flag, block) → Takes object pending →
    ¬ Pending (.branch (.enabled flag) block) pending → board.enable flag = true

/-! Facts about the texts of the programs, checked at each of their points. -/

def programs : List (List Instr) :=
  [rkVideoRestart, rkipcStorageMsgRecCb true, rkipcStorageMsgRecCb false]

/-- What is left to do of one of them. -/
def IsRest (pending : List Instr) : Prop := ∃ program ∈ programs, pending <:+ program

def objects : List Object :=
  [.vencThread0, .vencThread1, .jpegVencThread, .cycleSnapshotThread, .getViThread,
    .osdTimeThread, .fileScanThread, .recMsgThread, .eventListenerThread,
    .recordThread 0, .recordThread 1, .recordThread 2, .recordThread 3, .sdHandle, .aiqCtx]

theorem mem_objects (object : Object) : object ∈ objects := by
  cases object with
  | recordThread id =>
      match id with
      | 0 | 1 | 2 | 3 => decide
  | _ => decide

def modules : List Module := [.storage, .video, .isp]

theorem mem_modules (module : Module) : module ∈ modules := by
  cases module <;> decide

/-- The block whose rest an operation may skip. -/
def Op.block : Op → Option Block
  | .branch _ block | .mpi block | .enableNpuChn block => some block
  | _ => none

def Op.phaseAfter (op : Op) (module : Module) (phase : Phase) : Phase :=
  match op with
  | .begins begun init =>
      if begun = module then (if init then .starting else .stopping) else phase
  | .finishes begun init => if begun = module then (if init then .up else .down) else phase
  | _ => phase

/-- A branch may only skip a join where there is nothing to join. -/
def Op.excuses (op : Op) (object : Object) : Bool :=
  match op with
  | .branch (.enabled flag) _ => (flagOf object).any fun (other, _) => other = flag
  | .branch .cycleSnapshot .joinCycleSnapshot => object = .cycleSnapshotThread
  | .branch .clockJoined .joinClock => object = .osdTimeThread
  | .branch (.storage id) (.muxerDeinit _) => object = .recordThread id
  | _ => false

abbrev ChecksPhase (instr : Instr) (rest next : List Instr) : Prop :=
  ∀ module ∈ modules,
    phaseOf module next = instr.op.phaseAfter module (phaseOf module (instr :: rest))

abbrev ChecksClears (instr : Instr) (rest next : List Instr) (skips : Bool) : Prop :=
  ∀ object ∈ objects, Takes object next → Clears object (instr :: rest) →
    ¬ Clears object next →
    if skips then instr.op.excuses object = true else instr.op.clears object = true

abbrev ChecksTaken (instr : Instr) (rest next : List Instr) (skips : Bool) : Prop :=
  ∀ object ∈ objects, ∀ flagBlock ∈ flagOf object, Takes object next →
    Pending (.branch (.enabled flagBlock.1) flagBlock.2) (instr :: rest) →
    ¬ Pending (.branch (.enabled flagBlock.1) flagBlock.2) next →
    skips = false ∧ instr.op = .branch (.enabled flagBlock.1) flagBlock.2

abbrev ChecksOp (instr : Instr) (rest : List Instr) : Prop :=
  (∀ object ∈ objects, instr.op.takes object = true →
    ¬ Clears object (instr :: rest) ∧ ¬ Takes object rest ∧
      ∀ flagBlock ∈ flagOf object,
        ¬ Pending (.branch (.enabled flagBlock.1) flagBlock.2) (instr :: rest)) ∧
  (instr.op = .readEnables → ∀ object ∈ objects, ∀ flagBlock ∈ flagOf object,
    Takes object rest ∧ ¬ Clears object (instr :: rest) ∧
      Pending (.branch (.enabled flagBlock.1) flagBlock.2) rest) ∧
  ∀ module ∈ modules, ∀ init, instr.op = .begins module init →
    phaseOf module (instr :: rest) = if init then .down else .up

abbrev ChecksNext (instr : Instr) (rest next : List Instr) (skips : Bool) : Prop :=
  ChecksPhase instr rest next ∧ ChecksClears instr rest next skips ∧
    ChecksTaken instr rest next skips

def Op.marks : Op → Bool
  | .begins _ _ | .finishes _ _ => true
  | _ => false

/-- What does not hold by itself at a point of a program. -/
def checks : List Instr → Bool
  | [] => true
  | instr :: rest =>
      decide (ChecksOp instr rest) && (!instr.op.marks || decide (ChecksPhase instr rest rest)) &&
        match instr.op.block with
        | none => true
        | some block => decide (ChecksNext instr rest (skip block rest) true)

theorem checks_tails : (programs.all fun program => program.tails.all checks) = true := by
  decide

section Exec

variable {board next : Board} {ok : Bool} {op : Op} {block : Option Block}

/-- All that an operation can do to phases, flags and objects. -/
structure Effect (board : Board) (op : Op) (next : Board) (block : Option Block) : Prop where
  phase : ∀ module, next.phase module = op.phaseAfter module (board.phase module)
  enable : next.enable = board.enable ∨ op = .readEnables ∧ next.status = board.status
  status : ∀ object, next.status object = board.status object ∨ op.takes object = true ∨
    op = .release object
  released : ∀ object, op = .release object → next.status object = .absent
  block : block = none ∨ block = op.block
  overwritten : next.overwritten = board.overwritten ∨ op = .startClocks ∧
    (board.params.clocks ≤ 1 → board.status .osdTimeThread = .absent →
      next.overwritten = board.overwritten)

theorem Effect.still (phase : next.phase = board.phase)
    (same : ∀ module phase, op.phaseAfter module phase = phase)
    (notRelease : ∀ object, op ≠ .release object) (enable : next.enable = board.enable)
    (status : next.status = board.status) (isBlock : block = none ∨ block = op.block)
    (overwritten : next.overwritten = board.overwritten) :
    Effect board op next block where
  phase module := by rw [phase, same]
  enable := .inl enable
  status object := .inl (congrFun status object)
  released object isRelease := absurd isRelease (notRelease object)
  block := isBlock
  overwritten := .inl overwritten

theorem effect_of_exec (executed : board.exec ok op = some (next, block)) :
    Effect board op next block := by
  unfold Board.exec at executed
  cases op with
  | begins begun init | finishes begun init =>
      cases executed
      refine ⟨fun module => ?_, .inl rfl, fun _ => .inl rfl, nofun, .inl rfl, .inl rfl⟩
      exact (Function.update_apply ..).trans (if_congr eq_comm rfl rfl)
  | readEnables =>
      cases executed
      exact ⟨fun _ => rfl, .inr ⟨rfl, rfl⟩, fun _ => .inl rfl, nofun, .inl rfl, .inl rfl⟩
  | setRun val | setCycleSnapshot val | disableNpuChn | set global val =>
      cases executed
      exact .still rfl (fun _ _ => rfl) nofun rfl rfl (.inl rfl) rfl
  | branch _ skipped | mpi skipped =>
      cases executed
      refine .still rfl (fun _ _ => rfl) nofun rfl rfl ?_ rfl
      exact ite_eq_or_eq _ _ _
  | enableNpuChn skipped =>
      dsimp only at executed
      split at executed
      · cases executed
        exact .still rfl (fun _ _ => rfl) nofun rfl rfl (.inl rfl) rfl
      · cases executed
        exact .still rfl (fun _ _ => rfl) nofun rfl rfl (.inr rfl) rfl
  | acquire other =>
      dsimp only at executed
      split at executed
      · cases executed
        exact .still rfl (fun _ _ => rfl) nofun rfl rfl (.inl rfl) rfl
      · cases executed
        refine ⟨fun _ => rfl, .inl rfl, fun object => ?_, nofun, .inl rfl, .inl rfl⟩
        by_cases same : object = other
        · exact .inr (.inl (decide_eq_true same))
        · exact .inl (Function.update_of_ne same _ _)
  | release other =>
      dsimp only at executed
      split at executed
      · cases executed
      · cases executed
        refine ⟨fun _ => rfl, .inl rfl, fun object => ?_, fun object isRelease => ?_,
          .inl rfl, .inl rfl⟩
        · by_cases same : object = other
          · exact .inr (.inr (same ▸ rfl))
          · exact .inl (Function.update_of_ne same _ _)
        · cases isRelease
          exact Function.update_self ..
  | startClocks =>
      dsimp only at executed
      split at executed
      · cases executed
        exact .still rfl (fun _ _ => rfl) nofun rfl rfl (.inl rfl) rfl
      · cases executed
        refine ⟨fun _ => rfl, .inl rfl, fun object => ?_, nofun, .inl rfl, .inr ⟨rfl, ?_⟩⟩
        case refine_2 =>
          intro few isAbsent
          have notInUse : ¬ (1 < board.params.clocks ∨ board.status .osdTimeThread ≠ .absent) :=
            not_or.mpr ⟨Nat.not_lt.mpr few, not_not.mpr isAbsent⟩
          exact (congrArg (board.overwritten || ·) (decide_eq_false notInUse)).trans
            (Bool.or_false _)
        by_cases same : object = .osdTimeThread
        · exact .inr (.inl (decide_eq_true same))
        · exact .inl (Function.update_of_ne same _ _)
  | takeMessage =>
      dsimp only at executed
      split at executed <;> cases executed
      exact .still rfl (fun _ _ => rfl) nofun rfl rfl (.inl rfl) rfl
  | joinYolo =>
      dsimp only at executed
      split at executed
      · cases executed
        exact .still rfl (fun _ _ => rfl) nofun rfl rfl (.inl rfl) rfl
      · cases executed
        exact .still rfl (fun _ _ => rfl) nofun rfl rfl (.inl rfl) rfl
      all_goals cases executed

theorem exec_branch {cond : Cond} {skipped : Block}
    (executed : board.exec ok (.branch cond skipped) = some (next, block)) :
    board.holds cond = block.isNone := by
  cases executed
  cases board.holds cond <;> rfl

theorem exec_mpi {skipped : Block} (executed : board.exec ok (.mpi skipped) = some (next, none)) :
    ok = true := by
  cases ok with
  | true => rfl
  | false => cases executed

end Exec

section Rest

variable {instr : Instr} {rest pending : List Instr} {object : Object}

theorem pending_cons {op : Op} :
    Pending op (instr :: rest) ↔ op = instr.op ∨ Pending op rest := List.mem_cons

theorem takes_cons :
    Takes object (instr :: rest) ↔ instr.op.takes object = true ∨ Takes object rest := by
  rw [Takes, List.any_cons, Bool.or_eq_true]

theorem clears_cons :
    Clears object (instr :: rest) ↔ instr.op.clears object = true ∨ Clears object rest := by
  rw [Clears, List.any_cons, Bool.or_eq_true]

theorem Pending.of_suffix {op : Op} (suffix : pending <:+ rest) (isPending : Pending op pending) :
    Pending op rest := by
  obtain ⟨instr, member, isOp⟩ := List.mem_map.mp isPending
  exact List.mem_map.mpr ⟨instr, suffix.subset member, isOp⟩

theorem takes_of_suffix (suffix : pending <:+ rest) (takes : Takes object pending) :
    Takes object rest := by
  obtain ⟨instr, member, isTaken⟩ := List.any_eq_true.mp takes
  exact List.any_eq_true.mpr ⟨instr, suffix.subset member, isTaken⟩

theorem skipOf_suffix (block : Option Block) (rest : List Instr) : skipOf block rest <:+ rest := by
  cases block with
  | none => exact List.suffix_refl rest
  | some block => exact List.dropWhile_suffix _

theorem IsRest.skipOf (isRest : IsRest (instr :: rest)) (block : Option Block) :
    IsRest (skipOf block rest) := by
  obtain ⟨program, member, suffix⟩ := isRest
  exact ⟨program, member,
    (skipOf_suffix block rest).trans ((List.suffix_cons instr rest).trans suffix)⟩

theorem phaseOf_cons (module : Module) (unmarked : instr.op.marks = false) :
    phaseOf module (instr :: rest) = phaseOf module rest := by
  have begins : ∀ init, Pending (.begins module init) (instr :: rest) ↔
      Pending (.begins module init) rest := by
    intro init
    refine pending_cons.trans (or_iff_right fun isBegins => ?_)
    rw [← isBegins] at unmarked
    cases unmarked
  have finishes : ∀ init, Pending (.finishes module init) (instr :: rest) ↔
      Pending (.finishes module init) rest := by
    intro init
    refine pending_cons.trans (or_iff_right fun isFinishes => ?_)
    rw [← isFinishes] at unmarked
    cases unmarked
  simp only [phaseOf, begins, finishes]

theorem phaseAfter_unmarked {op : Op} (unmarked : op.marks = false) (module : Module)
    (phase : Phase) : op.phaseAfter module phase = phase := by
  cases op with
  | begins | finishes => cases unmarked
  | _ => rfl

theorem checks_of_isRest (isRest : IsRest (instr :: rest)) :
    ChecksOp instr rest ∧ (instr.op.marks = true → ChecksPhase instr rest rest) ∧
      ∀ block, instr.op.block = some block →
        ChecksNext instr rest (skip block rest) true := by
  obtain ⟨program, member, suffix⟩ := isRest
  have checked := List.all_eq_true.mp (List.all_eq_true.mp checks_tails program member) _
    ((List.mem_tails _ _).mpr suffix)
  simp only [checks, Bool.and_eq_true, Bool.or_eq_true, Bool.not_eq_true',
    decide_eq_true_eq] at checked
  obtain ⟨⟨checksOp, plain⟩, skipped⟩ := checked
  refine ⟨checksOp, fun marks => plain.resolve_left ?_, fun block isBlock => ?_⟩
  · rw [marks]
    exact Bool.noConfusion
  · rw [isBlock] at skipped
    exact of_decide_eq_true skipped

theorem checksNext_of_isRest {block : Option Block} (isRest : IsRest (instr :: rest))
    (isBlock : block = none ∨ block = instr.op.block) :
    ChecksNext instr rest (Video.skipOf block rest) block.isSome := by
  obtain ⟨_, plain, skipped⟩ := checks_of_isRest isRest
  cases block with
  | some block => exact skipped block (isBlock.resolve_left nofun).symm
  | none =>
      -- of what is behind one operation only the phase has to be looked at
      refine ⟨fun module member => ?_, fun object _ _ cleared lost => ?_,
        fun object _ flagBlock _ _ isPending passed => ⟨rfl, ?_⟩⟩
      · cases marks : instr.op.marks with
        | true => exact plain marks module member
        | false =>
            exact (phaseOf_cons module marks).symm.trans
              (phaseAfter_unmarked marks module _).symm
      · exact (clears_cons.mp cleared).resolve_right lost
      · exact ((pending_cons.mp isPending).resolve_right passed).symm

end Rest

section Match

variable {watched : Object → Prop} {board next : Board} {ok : Bool}
  {block : Option Block} {instr : Instr} {rest : List Instr}

theorem Matches.absent_of_excuses (matched : Matches watched (instr :: rest) board)
    (kept : instr.op.Kept watched board ok) {skipped : Block}
    (executed : board.exec ok instr.op = some (next, some skipped)) {object : Object}
    (isWatched : watched object) (excuses : instr.op.excuses object = true) :
    board.status object = .absent := by
  unfold Op.excuses at excuses
  split at excuses
  next flag blockOf isOp =>
    rw [isOp] at executed
    have off : board.enable flag = false := exec_branch executed
    cases isFlag : flagOf object with
    | none =>
        rw [isFlag] at excuses
        cases excuses
    | some flagBlock =>
        rw [isFlag] at excuses
        have same : flagBlock.1 = flag := of_decide_eq_true excuses
        exact matched.flags object flagBlock.1 flagBlock.2 isWatched isFlag (same ▸ off)
  next isOp =>
    rw [isOp] at executed kept
    obtain rfl : object = .cycleSnapshotThread := of_decide_eq_true excuses
    exact (kept isWatched).resolve_left (Bool.eq_false_iff.mp (exec_branch executed))
  next isOp =>
    rw [isOp] at executed kept
    obtain rfl : object = .osdTimeThread := of_decide_eq_true excuses
    exact (kept isWatched).resolve_left (Bool.eq_false_iff.mp (exec_branch executed))
  next id blockId isOp =>
    rw [isOp] at executed kept
    obtain rfl : object = .recordThread id := of_decide_eq_true excuses
    exact (kept isWatched).resolve_left (of_decide_eq_false (exec_branch executed))
  next => cases excuses

theorem absent_of_clears (kept : instr.op.Kept watched board ok)
    (executed : board.exec ok instr.op = some (next, none)) {object : Object}
    (isWatched : watched object) (clears : instr.op.clears object = true)
    (same : next.status object = board.status object ∨ instr.op = .release object) :
    next.status object = .absent := by
  have effect := effect_of_exec executed
  rcases same with same | isRelease
  case inr => exact effect.released object isRelease
  case inl =>
    unfold Op.clears at clears
    split at clears
    next other isOp =>
      obtain rfl : object = other := of_decide_eq_true clears
      exact effect.released object isOp
    next isOp =>
      rw [isOp] at kept
      obtain rfl : object = .getViThread := of_decide_eq_true clears
      exact same.trans (kept isWatched)
    next isOp =>
      rw [isOp] at kept executed
      obtain rfl : object = .fileScanThread := of_decide_eq_true clears
      exact same.trans (kept isWatched (exec_mpi executed))
    next => cases clears

theorem Matches.step_absent (matched : Matches watched (instr :: rest) board)
    (isRest : IsRest (instr :: rest)) (kept : instr.op.Kept watched board ok)
    (executed : board.exec ok instr.op = some (next, block)) (object : Object)
    (isWatched : watched object) (takes : Takes object (skipOf block rest))
    (cleared : ¬ Clears object (skipOf block rest)) :
    next.status object = .absent := by
  have effect := effect_of_exec executed
  obtain ⟨_, checksClears, _⟩ := checksNext_of_isRest isRest effect.block
  obtain ⟨checksTakes, _⟩ := (checks_of_isRest isRest).1
  have takesRest := takes_of_suffix (skipOf_suffix block rest) takes
  have notTaken : ¬ instr.op.takes object = true := fun isTaken =>
    (checksTakes object (mem_objects object) isTaken).2.1 takesRest
  have status := (effect.status object).imp_right fun either => either.resolve_left notTaken
  by_cases before : Clears object (instr :: rest)
  · have lost := checksClears object (mem_objects object) takes before cleared
    cases block with
    | none => exact absent_of_clears kept executed isWatched lost status
    | some skipped =>
        rcases status with same | isRelease
        · exact same.trans (matched.absent_of_excuses kept executed isWatched lost)
        · exact effect.released object isRelease
  · rcases status with same | isRelease
    · exact same.trans
        (matched.absent object isWatched (takes_cons.mpr (.inr takesRest)) before)
    · exact effect.released object isRelease

theorem Matches.step (matched : Matches watched (instr :: rest) board)
    (isRest : IsRest (instr :: rest)) (kept : instr.op.Kept watched board ok)
    (executed : board.exec ok instr.op = some (next, block)) :
    Matches watched (skipOf block rest) next := by
  have effect := effect_of_exec executed
  obtain ⟨checksPhase, _, checksTaken⟩ := checksNext_of_isRest isRest effect.block
  obtain ⟨checksTakes, checksRead, _⟩ := (checks_of_isRest isRest).1
  constructor
  case phase =>
    intro module
    rw [effect.phase, matched.phase, checksPhase module (mem_modules module)]
  case absent => exact matched.step_absent isRest kept executed
  case overwritten =>
    intro isWatched
    obtain same | ⟨isStart, keeps⟩ := effect.overwritten
    · exact same.trans (matched.overwritten isWatched)
    · rw [isStart] at kept checksTakes
      have isTaken : Op.startClocks.takes .osdTimeThread = true := rfl
      obtain ⟨cleared, _⟩ := checksTakes .osdTimeThread (mem_objects _) isTaken
      have free := matched.absent .osdTimeThread isWatched
        (takes_cons.mpr (.inl (by rw [isStart]; rfl))) cleared
      exact (keeps (kept isWatched) free).trans (matched.overwritten isWatched)
  case flags =>
    intro object flag flagBlock isWatched isFlag off
    obtain same | isTaken | isRelease := effect.status object
    · rw [same]
      obtain unread | ⟨isRead, _⟩ := effect.enable
      · exact matched.flags object flag flagBlock isWatched isFlag (unread ▸ off)
      · obtain ⟨takes, cleared, _⟩ := checksRead isRead object (mem_objects object) _ isFlag
        exact matched.absent object isWatched (takes_cons.mpr (.inr takes)) cleared
    · have on : board.enable flag = true :=
        matched.taken object flag flagBlock isFlag (takes_cons.mpr (.inl isTaken))
          ((checksTakes object (mem_objects object) isTaken).2.2 _ isFlag)
      obtain unread | ⟨isRead, _⟩ := effect.enable
      · rw [unread, on] at off
        cases off
      · rw [isRead] at isTaken
        cases isTaken
    · exact effect.released object isRelease
  case taken =>
    intro object flag flagBlock isFlag takes passed
    obtain unread | ⟨isRead, _⟩ := effect.enable
    · rw [unread]
      by_cases before : Pending (.branch (.enabled flag) flagBlock) (instr :: rest)
      · obtain ⟨plain, isBranch⟩ := checksTaken object (mem_objects object) _ isFlag takes
          before passed
        rw [isBranch] at executed
        have holds := exec_branch executed
        cases block with
        | none => exact holds
        | some skipped => cases plain
      · exact matched.taken object flag flagBlock isFlag
          (takes_cons.mpr (.inr (takes_of_suffix (skipOf_suffix block rest) takes))) before
    · have isNone : block = none := by
        have isBlock := effect.block
        rw [isRead] at isBlock
        exact isBlock.elim id id
      rw [isNone] at passed
      exact absurd (checksRead isRead object (mem_objects object) _ isFlag).2.2 passed

/-- What the threads do by themselves: an object that is free stays free. -/
theorem Matches.others {pending : List Instr} (matched : Matches watched pending board)
    (phase : next.phase = board.phase) (enable : next.enable = board.enable)
    (overwritten : next.overwritten = board.overwritten)
    (keeps : ∀ object, board.status object = .absent → next.status object = .absent) :
    Matches watched pending next where
  phase module := (congrFun phase module).trans (matched.phase module)
  absent object isWatched takes cleared :=
    keeps object (matched.absent object isWatched takes cleared)
  overwritten isWatched := overwritten.trans (matched.overwritten isWatched)
  flags object flag block isWatched isFlag off :=
    keeps object (matched.flags object flag block isWatched isFlag (enable ▸ off))
  taken object flag block isFlag takes passed :=
    enable ▸ matched.taken object flag block isFlag takes passed

theorem setStatus_keeps {object : Object} {status : Status}
    (running : board.status object = .running) (other : Object)
    (isAbsent : board.status other = .absent) :
    (board.setStatus object status).status other = .absent := by
  refine (Function.update_of_ne ?_ _ _).trans isAbsent
  rintro rfl
  rw [running] at isAbsent
  cases isAbsent

end Match

section Runs

variable {τ : Type} [DecidableEq τ] {watched : Object → Prop}

/-- One thread at most has something to do. -/
def Good (watched : Object → Prop) (state : State τ) : Prop :=
  ∃ owner, (∀ other, other ≠ owner → state.control other = []) ∧
    IsRest (state.control owner) ∧ Matches watched (state.control owner) state.board

theorem matches_startUp (params : Params) : Matches watched startUp (.blank params) where
  phase module := by
    show Phase.down = phaseOf module startUp
    cases module <;> decide
  absent _ _ _ _ := rfl
  overwritten _ := rfl
  flags _ _ _ _ _ _ := rfl
  taken object flag block isFlag takes passed := by
    refine absurd ?_ passed
    unfold flagOf at isFlag
    split at isFlag <;> cases isFlag <;> decide

/-- A program clears what it takes, and starts a thread of the video under its flag. -/
theorem programs_begin : ∀ program ∈ programs,
    (∀ module ∈ modules, phaseOf module program = .up) ∧
      ∀ object ∈ objects, Takes object program → Clears object program ∧
        ∀ flagBlock ∈ flagOf object,
          Pending (.branch (.enabled flagBlock.1) flagBlock.2) program := by
  decide

theorem Matches.request {board : Board} {program : List Instr}
    (matched : Matches watched [] board) (member : program ∈ programs) :
    Matches watched program board where
  phase module := by
    rw [matched.phase, (programs_begin program member).1 module (mem_modules module)]
    rfl
  absent object _ takes cleared :=
    absurd ((programs_begin program member).2 object (mem_objects object) takes).1 cleared
  overwritten := matched.overwritten
  flags := matched.flags
  taken object flag block isFlag takes passed :=
    absurd (((programs_begin program member).2 object (mem_objects object) takes).2 _ isFlag)
      passed

theorem Matches.leave {pending : List Instr} {board next : Board} {object : Object}
    (matched : Matches watched pending board) (left : board.leave object = some next) :
    Matches watched pending next := by
  unfold Board.leave at left
  split at left
  next running =>
    cases left
    exact matched.others rfl rfl rfl (setStatus_keeps running.1)
  next => cases left

theorem Matches.clock {pending : List Instr} {board next : Board} {ok : Bool}
    (matched : Matches watched pending board) (ticked : board.clock ok = some next) :
    Matches watched pending next := by
  unfold Board.clock at ticked
  split at ticked
  next running =>
    cases ticked
    have isRunning : (board.setGlobal .osdTimeServerRun ok).status .osdTimeThread = .running :=
      running
    exact matched.others rfl rfl rfl (setStatus_keeps isRunning)
  next => cases ticked

theorem Matches.infer {pending : List Instr} {board next : Board}
    (matched : Matches watched pending board) (inferred : board.infer = some next) :
    Matches watched pending next := by
  unfold Board.infer at inferred
  split at inferred <;> cases inferred <;>
    exact matched.others rfl rfl rfl fun _ => id

theorem Good.request {state next : State τ} {thread : τ} {request : Request}
    (good : Good watched state) (idle : ∀ other, state.control other = [])
    (member : request.instrs ∈ programs)
    (stepped : state.step (.request thread request) = some next) : Good watched next := by
  unfold State.step at stepped
  dsimp only at stepped
  rw [if_pos (idle thread)] at stepped
  cases stepped
  obtain ⟨owner, _, _, matched⟩ := good
  rw [idle owner] at matched
  refine ⟨thread, fun other isOther => ?_, ?_, ?_⟩
  · exact (Function.update_of_ne isOther _ _).trans (idle other)
  · simp only [Function.update_self]
    exact ⟨request.instrs, member, List.suffix_rfl⟩
  · simp only [Function.update_self]
    exact matched.request member

theorem owner_of_control {state : State τ} {thread owner : τ} {instr : Instr} {rest : List Instr}
    (others : ∀ other, other ≠ owner → state.control other = [])
    (isControl : state.control thread = instr :: rest) : thread = owner := by
  by_contra isOther
  rw [others thread isOther] at isControl
  cases isControl

theorem Good.step {main : τ} {state next : State τ} {label : Label τ}
    (good : Good watched state) (sequential : Sequential watched state label)
    (stepped : (restarts main).step state label = some next) : Good watched next := by
  cases label with
  | request thread request =>
      have idle := sequential.alone thread request rfl
      cases request with
      | restart => exact good.request idle List.mem_cons_self stepped
      | message added => exact good.request idle (by cases added <;> decide) stepped
      | yoloDeinit => cases stepped
  | step thread ok =>
      have stepped : state.step (.step thread ok) = some next := stepped
      obtain ⟨owner, others, isRest, matched⟩ := good
      unfold State.step at stepped
      dsimp only at stepped
      cases isControl : state.control thread with
      | nil =>
          rw [isControl] at stepped
          cases stepped
      | cons instr rest =>
          rw [isControl] at stepped
          obtain ⟨⟨board, block⟩, executed, rfl⟩ := Option.map_eq_some_iff.mp stepped
          obtain rfl := owner_of_control others isControl
          rw [isControl] at isRest matched
          refine ⟨thread, fun other isOther => ?_, ?_, ?_⟩
          · exact (Function.update_of_ne isOther _ _).trans (others other isOther)
          · simp only [Function.update_self]
            exact isRest.skipOf block
          · simp only [Function.update_self]
            exact matched.step isRest (sequential.kept thread ok instr rest rfl isControl)
              executed
  | params params =>
      cases stepped
      obtain ⟨owner, others, isRest, matched⟩ := good
      exact ⟨owner, others, isRest, matched.others rfl rfl rfl fun _ => id⟩
  | leave object =>
      have stepped : state.step (.leave object) = some next := stepped
      obtain ⟨board, left, rfl⟩ := Option.map_eq_some_iff.mp stepped
      obtain ⟨owner, others, isRest, matched⟩ := good
      exact ⟨owner, others, isRest, matched.leave left⟩
  | clock ok =>
      have stepped : state.step (.clock ok) = some next := stepped
      obtain ⟨board, ticked, rfl⟩ := Option.map_eq_some_iff.mp stepped
      obtain ⟨owner, others, isRest, matched⟩ := good
      exact ⟨owner, others, isRest, matched.clock ticked⟩
  | infer =>
      have stepped : state.step .infer = some next := stepped
      obtain ⟨board, inferred, rfl⟩ := Option.map_eq_some_iff.mp stepped
      obtain ⟨owner, others, isRest, matched⟩ := good
      exact ⟨owner, others, isRest, matched.infer inferred⟩

theorem good_of_reachable {main : τ} {state : State τ}
    (reachable : (restarts main).Reachable (Sequential watched) state) :
    Good watched state := by
  refine reachable.invariant ?_ fun _ _ _ good sequential stepped =>
    good.step sequential stepped
  rintro _ ⟨params, rfl⟩
  refine ⟨main, fun other isOther => ?_, ?_, ?_⟩
  · show Function.update (fun _ : τ => ([] : List Instr)) main startUp other = []
    exact Function.update_of_ne isOther _ _
  · simp only [Function.update_self]
    exact ⟨rkVideoRestart, List.mem_cons_self, List.suffix_append _ _⟩
  · simp only [Function.update_self]
    exact matches_startUp params

/-- Nothing that is watched is taken while it is in use, and the phases alternate. -/
theorem Good.fine {state : State τ} (good : Good watched state) {thread : τ}
    {instr : Instr} {rest : List Instr} (isControl : state.control thread = instr :: rest)
    (isWatched : ∀ object, instr.op = .acquire object → watched object) :
    instr.op.Fine state.board := by
  obtain ⟨owner, others, isRest, matched⟩ := good
  obtain rfl := owner_of_control others isControl
  rw [isControl] at isRest matched
  obtain ⟨checksTakes, _, checksBegins⟩ := (checks_of_isRest isRest).1
  unfold Op.Fine
  split
  next module init isOp =>
    rw [matched.phase, checksBegins module (mem_modules module) init isOp]
  next object isOp =>
    have isTaken : instr.op.takes object = true := by
      rw [isOp]
      exact decide_eq_true rfl
    exact matched.absent object (isWatched object isOp) (takes_cons.mpr (.inl isTaken))
      (checksTakes object (mem_objects object) isTaken).1
  next => trivial

end Runs

/-- Restarts that do not overlap, under parameters that stay, keep to the order. -/
theorem orderly_of_sequential {τ : Type} [DecidableEq τ] {main : τ} {state : State τ}
    (reachable : (restarts main).Reachable (Sequential fun _ => True) state) :
    Orderly state := by
  have good := good_of_reachable reachable
  refine ⟨fun _ _ _ isControl => good.fine isControl fun _ _ => trivial, ?_⟩
  obtain ⟨_, _, _, matched⟩ := good
  exact matched.overwritten trivial

section Examples

def calm {τ : Type} (threads : List τ) (state : State τ) : Label τ → Bool
  | .request _ _ => threads.all fun thread => state.control thread = []
  | .step thread ok =>
      match (state.control thread).head?.map Instr.op with
      | some (.branch .cycleSnapshot _) => state.board.params.cycleSnapshot
      | some (.branch .clockJoined _) =>
          state.board.holds .clockJoined || state.board.status .osdTimeThread = .absent
      | some (.branch (.storage id) _) =>
          state.board.params.storage id ≠ 0 || state.board.status (.recordThread id) = .absent
      | some .startClocks => state.board.params.clocks ≤ 1
      | some (.mpi .deviceAdd) => !ok || state.board.status .fileScanThread = .absent
      | some (.begins .video false) => state.board.status .getViThread = .absent
      | _ => true
  | _ => true

theorem sequential_of_calm {τ : Type} {watched : Object → Prop} {threads : List τ}
    (all : ∀ thread, thread ∈ threads) {state : State τ} {label : Label τ}
    (isCalm : calm threads state label = true) : Sequential watched state label := by
  constructor
  · rintro thread request rfl other
    exact of_decide_eq_true (List.all_eq_true.mp isCalm other (all other))
  · rintro thread ok instr rest rfl isControl
    simp only [calm, isControl, List.head?_cons, Option.map_some] at isCalm
    unfold Op.Kept
    split
    next isOp =>
      rw [isOp] at isCalm
      exact fun _ => .inl isCalm
    next isOp =>
      rw [isOp] at isCalm
      simp only [Bool.or_eq_true, decide_eq_true_eq] at isCalm
      exact fun _ => isCalm
    next id _ isOp =>
      rw [isOp] at isCalm
      simp only [Bool.or_eq_true, decide_eq_true_eq] at isCalm
      exact fun _ => isCalm
    next isOp =>
      rw [isOp] at isCalm
      exact fun _ => of_decide_eq_true isCalm
    next isOp =>
      rw [isOp] at isCalm
      simp only [Bool.or_eq_true, Bool.not_eq_true', decide_eq_true_eq] at isCalm
      rintro _ rfl
      exact isCalm.resolve_left Bool.noConfusion
    next isOp =>
      rw [isOp] at isCalm
      exact fun _ => of_decide_eq_true isCalm
    next => trivial

/-- A restart up to the joins of the storage, where nothing is recorded. -/
def storageStops {τ : Type} (thread : τ) : List (Label τ) :=
  [.request thread .restart] ++ List.replicate 6 (.step thread true) ++
    [.leave .eventListenerThread, .step thread true, .step thread true, .leave .recMsgThread,
      .step thread true, .leave .fileScanThread]

/-- One stream, which is recorded, and a clock on it. -/
def onlyVenc0 : Params where
  enable flag := flag = .venc0
  nv12 := false
  cycleSnapshot := false
  clocks := 1
  storage id := if id = 0 then 1 else 0

/-- The card is taken out and put back, and then a connection restarts; everything is up
again. -/
theorem orderly_of_sequential_once :
    ∃ state, (restarts false).Reachable (Sequential fun _ => True) state ∧
      state.control true = [] ∧ state.board.status .vencThread0 = .running ∧
        Orderly state := by
  let steps (count : Nat) : List (Label Bool) := List.replicate count (.step true true)
  let labels : List (Label Bool) :=
    List.replicate 40 (Label.step false true) ++ [.clock true, .request true (.message false)] ++
      steps 2 ++ [.leave .fileScanThread] ++ steps 2 ++ [.leave (.recordThread 0)] ++
      steps 4 ++ [.request true (.message true)] ++ steps 19 ++ [.request true .restart] ++
      steps 2 ++ [.leave (.recordThread 0)] ++ steps 5 ++ [.leave .eventListenerThread] ++
      steps 2 ++ [.leave .recMsgThread] ++ steps 1 ++ [.leave .fileScanThread] ++
      steps 7 ++ [.leave .osdTimeThread] ++ steps 3 ++ [.leave .vencThread0] ++ steps 48
  have ran : ((restarts false).guardedRun (calm [true, false])
      ⟨.blank onlyVenc0, Function.update (fun _ => []) false startUp⟩ labels).map
        (fun state => (state.control true, state.board.status .vencThread0)) =
      some ([], .running) := by
    decide +kernel
  obtain ⟨state, ran, found⟩ := Option.map_eq_some_iff.mp ran
  obtain ⟨idle, running⟩ := Prod.mk.inj found
  have reachable : (restarts false).Reachable (Sequential fun _ => True) state :=
    ⟨_, ⟨onlyVenc0, rfl⟩,
      System.reaches_of_guardedRun (fun _ _ => sequential_of_calm (by decide)) labels ran⟩
  exact ⟨state, reachable, idle, running, orderly_of_sequential reachable⟩

/-- A second restart begins while the first one is taking the storage down. -/
theorem storage_stopped_twice :
    ∃ state, (restarts false).Reachable System.anyStep state ∧ ¬ Orderly state := by
  let labels : List (Label Bool) :=
    List.replicate 40 (Label.step false true) ++
      [Label.request false .restart, .step false true, .request true .restart]
  have ran : ((restarts false).run
      ⟨.blank onlyVenc0, Function.update (fun _ => []) false startUp⟩ labels).map
        (fun state => ((state.control true).head?.map Instr.op,
          state.board.phase .storage)) =
      some (some (.begins .storage false), .stopping) := by
    decide
  obtain ⟨state, ran, found⟩ := Option.map_eq_some_iff.mp ran
  obtain ⟨isHead, stopping⟩ := Prod.mk.inj found
  refine ⟨state, System.reachable_of_run ⟨onlyVenc0, rfl⟩ ran, fun orderly => ?_⟩
  cases isControl : state.control true with
  | nil =>
      rw [isControl] at isHead
      cases isHead
  | cons instr rest =>
      rw [isControl, List.head?_cons, Option.map_some, Option.some.injEq] at isHead
      have fine := orderly.next true instr rest isControl
      rw [isHead] at fine
      have up : state.board.phase .storage = .up := fine
      rw [stopping] at up
      cases up

end Examples

end Rkipc.Video
