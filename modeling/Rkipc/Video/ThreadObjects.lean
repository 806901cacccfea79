import Rkipc.Video.Overlap

namespace Rkipc.Video

open Transition

/-! The `std::thread` globals of the video module over a sequence of restarts by one
connection, with parameters that change at any time. -/

def videoThreads : List Object :=
  [.vencThread0, .vencThread1, .jpegVencThread, .cycleSnapshotThread, .getViThread]

/-- To assign to a thread object that is joinable ends the process. -/
structure ThreadsKept (state : State Unit) : Prop where
  assigned : ∀ object ∈ videoThreads, ∀ blocks rest,
    state.control () = ⟨blocks, .acquire object⟩ :: rest →
      state.board.status object = .absent
  stopped : state.board.phase .video = .down →
    ∀ object ∈ videoThreads, state.board.status object ≠ .running

/-- Between `rk_video_deinit` and `rk_video_init` all threads are to be started, and those
that were there are behind. -/
abbrev ChecksDown (pending : List Instr) : Prop :=
  phaseOf .video pending = .down → ∀ object ∈ videoThreads,
    Takes object pending ∧ ¬ Clears object pending

theorem checksDown_tails :
    (programs.all fun program =>
      program.tails.all fun pending => decide (ChecksDown pending)) = true := by
  decide

theorem checksDown_of_isRest {pending : List Instr} (isRest : IsRest pending) :
    ChecksDown pending := by
  obtain ⟨program, member, suffix⟩ := isRest
  have checked := List.all_eq_true.mp checksDown_tails program member
  exact of_decide_eq_true
    (List.all_eq_true.mp checked _ ((List.mem_tails _ _).mpr suffix))

theorem Matches.absent_of_down {watched : Object → Prop} {pending : List Instr}
    {board : Board} (matched : Matches watched pending board) (isRest : IsRest pending)
    (isDown : board.phase .video = .down) {object : Object}
    (member : object ∈ videoThreads) (isWatched : watched object) :
    board.status object = .absent := by
  rw [matched.phase] at isDown
  obtain ⟨takes, cleared⟩ := checksDown_of_isRest isRest isDown object member
  exact matched.absent object isWatched takes cleared

/-- Every thread is joined under the parameter under which it was started, and there is
none of the kind that is never joined. -/
theorem threadsKept_of_sequential {state : State Unit}
    (reachable : (restarts ()).Reachable (Sequential fun object => object ∈ videoThreads)
      state) :
    ThreadsKept state := by
  have good := good_of_reachable reachable
  constructor
  case assigned =>
    intro object member blocks rest isControl
    refine good.fine isControl ?_
    rintro _ ⟨⟩
    exact member
  case stopped =>
    intro isDown object member running
    obtain ⟨owner, _, isRest, matched⟩ := good
    rw [matched.absent_of_down isRest isDown member member] at running
    cases running

section Examples

def withCycleSnapshot (cycleSnapshot : Bool) : Params where
  enable flag := flag = .jpeg
  nv12 := false
  cycleSnapshot := cycleSnapshot
  clocks := 0
  storage _ := 0

/-- A restart under parameters that stay, up to the point between the two halves. -/
theorem threadsKept_of_sequential_down :
    ∃ state, (restarts ()).Reachable (Sequential fun object => object ∈ videoThreads)
        state ∧ state.board.phase .video = .down ∧ state.board.phase .storage = .down ∧
      ThreadsKept state := by
  let labels : List (Label Unit) :=
    List.replicate 38 (Label.step () true) ++ storageStops () ++
      List.replicate 13 (Label.step () true) ++
      [Label.leave .cycleSnapshotThread, .step () true, .leave .jpegVencThread] ++
      List.replicate 3 (Label.step () true)
  have ran : ((restarts ()).guardedRun (calm [()])
      ⟨.blank (withCycleSnapshot true), Function.update (fun _ => []) () startUp⟩
        labels).map
        (fun state => (state.board.phase .video, state.board.phase .storage)) =
      some (.down, .down) := by
    decide
  obtain ⟨state, ran, found⟩ := Option.map_eq_some_iff.mp ran
  obtain ⟨isDown, storageDown⟩ := Prod.mk.inj found
  have all : ∀ thread, thread ∈ [()] := fun _ => List.mem_singleton.mpr rfl
  have reachable : (restarts ()).Reachable
      (Sequential fun object => object ∈ videoThreads) state :=
    ⟨_, ⟨withCycleSnapshot true, rfl⟩,
      System.reaches_of_guardedRun (fun _ _ => sequential_of_calm all) labels ran⟩
  exact ⟨state, reachable, isDown, storageDown, threadsKept_of_sequential reachable⟩

def nv12Stream : Params where
  enable flag := flag = .venc0
  nv12 := true
  cycleSnapshot := false
  clocks := 0
  storage _ := 0

/-- The thread that `rk_video_init` starts for NV12 is still there at the next one. -/
theorem joinable_thread_assigned :
    ∃ state, (restarts ()).Reachable System.anyStep state ∧ ¬ ThreadsKept state := by
  let labels : List (Label Unit) :=
    List.replicate 37 (Label.step () true) ++ storageStops () ++
      List.replicate 26 (Label.step () true)
  have ran : ((restarts ()).run
      ⟨.blank nv12Stream, Function.update (fun _ => []) () startUp⟩ labels).map
        (fun state => ((state.control ()).head?.map Instr.op,
          state.board.status .getViThread)) =
      some (some (.acquire .getViThread), .running) := by
    decide
  obtain ⟨state, ran, found⟩ := Option.map_eq_some_iff.mp ran
  obtain ⟨isHead, running⟩ := Prod.mk.inj found
  refine ⟨state, System.reachable_of_run ⟨nv12Stream, rfl⟩ ran, fun kept => ?_⟩
  cases isControl : state.control () with
  | nil =>
      rw [isControl] at isHead
      cases isHead
  | cons instr rest =>
      obtain ⟨blocks, op⟩ := instr
      rw [isControl, List.head?_cons, Option.map_some, Option.some.injEq] at isHead
      obtain rfl : op = .acquire .getViThread := isHead
      rw [kept.assigned .getViThread (by decide) blocks rest isControl] at running
      cases running

end Examples

end Rkipc.Video
