import Rkipc.Storage.FileScan

namespace Rkipc.Storage

/-! What each way out of the scan thread and of the initialiser leaves behind. -/

namespace Folder

theorem freeFrom_fileListFirst :
    ∀ (nodes : List File) (folder : Folder), folder.fileListFirst = nodes →
      (folder.freeFrom nodes).fileListFirst = []
  | [], _, isFirst => isFirst
  | _ :: next, _, _ => freeFrom_fileListFirst next _ rfl

@[simp] theorem freeNodes_fileListFirst (folder : Folder) :
    folder.freeNodes.fileListFirst = [] :=
  freeFrom_fileListFirst _ folder rfl

theorem nodesOf_freeLists :
    ∀ (folders : List Folder),
      nodesOf (some (freeLists folders.length folders)) = []
  | [] => rfl
  | folder :: rest => by
      have induction := nodesOf_freeLists rest
      simp only [nodesOf, Option.getD_some] at induction ⊢
      simp [freeLists, induction]

end Folder

theorem scanFolders_length (mountPath : String) (answers : ScanAnswers) :
    ∀ (attrs : List FolderAttr) (i : Nat),
      (scanFolders mountPath answers i attrs).1.length = attrs.length
  | [], _ => rfl
  | attr :: rest, i => by
      unfold scanFolders
      simp only
      split
      · simp [scanFolders_length mountPath answers rest (i + 1)]
      · simp

theorem scanFolders_created (mountPath : String) (answers : ScanAnswers) :
    ∀ (attrs : List FolderAttr) (i : Nat),
      (scanFolders mountPath answers i attrs).2 = true ↔
        ∀ j, i ≤ j → j < i + attrs.length → answers.createFolder j = true
  | [], i => by
      simp only [scanFolders, List.length_nil, Nat.add_zero, true_iff]
      intro j atLeast below
      omega
  | attr :: rest, i => by
      have induction := scanFolders_created mountPath answers rest (i + 1)
      unfold scanFolders
      simp only
      split
      next isCreated =>
        simp only [induction, List.length_cons]
        constructor
        · intro created j atLeast below
          rcases Nat.eq_or_lt_of_le atLeast with rfl | greater
          · exact isCreated
          · exact created j greater (by omega)
        · intro created j atLeast below
          exact created j (by omega) (by omega)
      next notCreated =>
        simp only [Bool.false_eq_true, List.length_cons, false_iff]
        intro created
        exact notCreated (created i (by omega) (by omega))

def ScanAnswers.Sized (answers : ScanAnswers) : Prop :=
  answers.third ≠ .unmounted → answers.diskSize ≠ none

namespace ScanHandle

/-- Nothing is left running, allocated or lost. -/
structure Clean (handle : ScanHandle) : Prop where
  monitor : handle.monitor ≠ .running
  nodes : handle.lost = []
  folder : handle.folder = none
  folderNum : handle.folderNum = 0

/-- The folder array has the length that the loops take it to have, and no node
is lost. -/
structure Held (handle : ScanHandle) : Prop where
  length : ∀ folders, handle.folder = some folders →
    folders.length = handle.folderNum
  nodes : handle.lost = []

variable {handle : ScanHandle} {answers : ScanAnswers} {attr : ScanAttr}

theorem freeFolders_folder (handle : ScanHandle) :
    handle.freeFolders.folder = none := by
  unfold freeFolders
  split
  next isNone => exact isNone
  next => rfl

theorem freeFolders_monitor (handle : ScanHandle) :
    handle.freeFolders.monitor = handle.monitor := by
  unfold freeFolders
  split <;> rfl

theorem joinMonitor_monitor (handle : ScanHandle) :
    handle.joinMonitor.monitor ≠ .running := by
  unfold joinMonitor
  split <;> simp

theorem fileScanOut_monitor (handle : ScanHandle) :
    handle.fileScanOut.monitor ≠ .running := by
  have sameMonitor := freeFolders_monitor handle.joinMonitor
  intro isRunning
  exact joinMonitor_monitor handle (sameMonitor.symm.trans isRunning)

theorem Held.freeFolders_lost (held : handle.Held) :
    handle.freeFolders.lost = [] := by
  unfold freeFolders
  split
  next => exact held.nodes
  next folders isFolder =>
    have freed := Folder.nodesOf_freeLists folders
    rw [held.length folders isFolder] at freed
    simp [held.nodes, freed]

theorem Held.clean_fileScanOut (held : handle.Held) :
    handle.fileScanOut.Clean where
  monitor := fileScanOut_monitor handle
  nodes := by
    have joined : handle.joinMonitor.Held := ⟨held.length, held.nodes⟩
    exact joined.freeFolders_lost
  folder := freeFolders_folder _
  folderNum := rfl

theorem foldl_apply_length (changes : List ListChange) :
    ∀ folders : List Folder,
      (changes.foldl (fun folders change => change.apply folders)
        folders).length = folders.length := by
  induction changes with
  | nil => exact fun _ => rfl
  | cons change rest induction =>
      intro folders
      rw [List.foldl_cons, induction]
      simp [ListChange.apply]

theorem Held.change (held : handle.Held) (changes : List ListChange) :
    (handle.change changes).Held where
  length folders isFolder := by
    obtain ⟨before, wasFolder, rfl⟩ := Option.map_eq_some_iff.mp isFolder
    rw [foldl_apply_length]
    exact held.length before wasFolder
  nodes := held.nodes

theorem Held.autoDelete :
    ∀ (passes : List ScanPass) {handle : ScanHandle}, handle.Held →
      (autoDelete passes handle).Held
  | [], _, held => held
  | pass :: rest, handle, held => by
      have counted : (handle.change pass.byNumLimit).Held := held.change _
      unfold ScanHandle.autoDelete
      split
      next => exact held
      next =>
        simp only
        split
        next => exact counted
        next totalSize freeSize _ =>
          refine Held.autoDelete rest (Held.change ?_ _)
          exact ⟨counted.length, counted.nodes⟩

theorem Held.clean_watch (held : handle.Held) :
    (handle.watch answers).Clean ↔
      (answers.monitorCreate = true → answers.signalCreate = true) := by
  cases monitors : answers.monitorCreate with
  | false =>
      simp only [watch, monitors, Bool.false_eq_true, if_false, false_implies,
        iff_true]
      exact held.clean_fileScanOut
  | true =>
      cases signals : answers.signalCreate with
      | false =>
          simp only [watch, monitors, signals, if_true, Bool.false_eq_true,
            if_false, forall_const, iff_false]
          intro clean
          exact clean.monitor rfl
      | true =>
          simp only [watch, monitors, signals, if_true, forall_const, iff_true]
          refine (Held.autoDelete answers.passes ?_).clean_fileScanOut
          exact ⟨held.length, held.nodes⟩

/-- From the second look on, the handle may also have been clean already. -/
theorem Held.clean_mount (held : handle.Held) :
    (handle.mount answers).Clean ↔
      (answers.second ≠ .unmounted → (answers.Sized ∨ handle.Clean) ∧
        (answers.Sized → answers.monitorCreate = true →
          answers.signalCreate = true)) := by
  unfold ScanAnswers.Sized
  by_cases isUnmounted : answers.second = .unmounted
  · simp only [mount, isUnmounted, if_true, ne_eq, not_true_eq_false,
      false_implies, iff_true]
    exact held.clean_fileScanOut
  · simp only [mount, isUnmounted, if_false, ne_eq, not_false_eq_true,
      forall_const]
    by_cases removed : answers.third = .unmounted
    · simp only [removed, not_true_eq_false, if_false, false_implies, true_or,
        true_and, forall_const]
      exact Held.clean_watch ⟨held.length, held.nodes⟩
    · simp only [removed, not_false_eq_true, if_true, forall_const]
      cases sizes : answers.diskSize with
      | none =>
          simp only [not_true_eq_false, false_or, false_implies, and_true]
          constructor
          · intro clean
            exact ⟨clean.monitor, clean.nodes, clean.folder, clean.folderNum⟩
          · intro clean
            exact ⟨clean.monitor, clean.nodes, clean.folder, clean.folderNum⟩
      | some _ =>
          simp only [reduceCtorEq, not_false_eq_true, true_or, true_and,
            forall_const]
          exact Held.clean_watch ⟨held.length, held.nodes⟩

end ScanHandle

namespace ScanAnswers

/-- The thread gets as far as setting the status to mounted. -/
structure Mounts (attr : ScanAttr) (answers : ScanAnswers) : Prop where
  scanned : answers.first ≠ .unmounted → answers.folderMalloc = true ∧
    ∀ i < attr.folderAttr.length, answers.createFolder i = true
  second : answers.second ≠ .unmounted

/-- A created monitor thread is not left behind. -/
def JoinsMonitor (attr : ScanAttr) (answers : ScanAnswers) : Prop :=
  answers.Mounts attr → answers.Sized → answers.monitorCreate = true →
    answers.signalCreate = true

/-- None of the three plain returns in the middle of the thread is taken with
something to clean up. -/
structure CleansUp (attr : ScanAttr) (answers : ScanAnswers) : Prop where
  folders : answers.first ≠ .unmounted → answers.folderMalloc = false →
    attr.folderAttr = []
  diskSize : answers.first ≠ .unmounted → answers.Mounts attr → answers.Sized
  signal : answers.JoinsMonitor attr

end ScanAnswers

namespace ScanHandle

variable {handle : ScanHandle}

/-- No folders are allocated and no monitor thread is there. -/
structure Unused (handle : ScanHandle) : Prop where
  folder : handle.folder = none
  folderNum : handle.folderNum = 0
  monitor : handle.monitor = .absent
  nodes : handle.lost = []

/-- The handle when the folders of the thread are allocated and scanned. -/
def allocated (attr : ScanAttr) (folder : Option (List Folder))
    (handle : ScanHandle) : ScanHandle :=
  { handle with
    folderNum := attr.folderAttr.length
    folder := folder
    lost := handle.lost ++ nodesOf handle.folder }

variable {attr : ScanAttr} {answers : ScanAnswers}

theorem Unused.held (unused : handle.Unused) : handle.Held where
  length folders isFolder := by simp [unused.folder] at isFolder
  nodes := unused.nodes

theorem Unused.clean (unused : handle.Unused) : handle.Clean where
  monitor := by simp [unused.monitor]
  nodes := unused.nodes
  folder := unused.folder
  folderNum := unused.folderNum

theorem Unused.held_allocated (unused : handle.Unused) {folders : List Folder}
    (isLength : folders.length = attr.folderAttr.length) :
    (handle.allocated attr (some folders)).Held where
  length _ isFolder := by
    cases isFolder
    exact isLength
  nodes := by simp [allocated, unused.nodes, unused.folder, nodesOf]

/-- The four ways from the start of the thread to the second look at the mount
status or out. -/
theorem fileScanThread_cases (attr : ScanAttr) (answers : ScanAnswers)
    (handle : ScanHandle) :
    (answers.first = .unmounted ∧
      handle.fileScanThread attr answers = handle.mount answers) ∨
    (answers.first ≠ .unmounted ∧ answers.folderMalloc = false ∧
      handle.fileScanThread attr answers = handle.allocated attr none) ∨
    ∃ folders, folders.length = attr.folderAttr.length ∧
      answers.first ≠ .unmounted ∧ answers.folderMalloc = true ∧
      (((∀ i < attr.folderAttr.length, answers.createFolder i = true) ∧
        handle.fileScanThread attr answers =
          (handle.allocated attr (some folders)).mount answers) ∨
      (¬(∀ i < attr.folderAttr.length, answers.createFolder i = true) ∧
        handle.fileScanThread attr answers =
          (handle.allocated attr (some folders)).fileScanOut)) := by
  by_cases isUnmounted : answers.first = .unmounted
  · left
    refine ⟨isUnmounted, ?_⟩
    simp [fileScanThread, isUnmounted]
  · cases hasFolders : answers.folderMalloc with
    | false =>
        right; left
        refine ⟨isUnmounted, rfl, ?_⟩
        simp [fileScanThread, isUnmounted, hasFolders, allocated]
    | true =>
        right; right
        have created := scanFolders_created attr.mountPath answers
          attr.folderAttr 0
        simp only [Nat.zero_le, forall_const, Nat.zero_add] at created
        refine ⟨_, scanFolders_length attr.mountPath answers attr.folderAttr 0,
          isUnmounted, rfl, ?_⟩
        rw [← created]
        cases isCreated : (scanFolders attr.mountPath answers 0
            attr.folderAttr).2 with
        | false =>
            right
            simp [fileScanThread, isUnmounted, hasFolders, isCreated, allocated]
        | true =>
            left
            simp [fileScanThread, isUnmounted, hasFolders, isCreated, allocated]

theorem clean_fileScanThread_iff (attr : ScanAttr) (answers : ScanAnswers)
    (unused : handle.Unused) :
    (handle.fileScanThread attr answers).Clean ↔ answers.CleansUp attr := by
  rcases fileScanThread_cases attr answers handle with ⟨isUnmounted, ends⟩ |
    ⟨isMounted, noFolders, ends⟩ |
    ⟨folders, isLength, isMounted, hasFolders, ⟨created, ends⟩ | ⟨notCreated, ends⟩⟩
  · have mounts (second : answers.second ≠ .unmounted) : answers.Mounts attr :=
      ⟨absurd isUnmounted, second⟩
    rw [ends, unused.held.clean_mount]
    constructor
    · intro exits
      exact ⟨absurd isUnmounted, absurd isUnmounted,
        fun mounts => (exits mounts.second).2⟩
    · intro cleansUp second
      exact ⟨.inr unused.clean, cleansUp.signal (mounts second)⟩
  · have notMounts : ¬answers.Mounts attr := fun mounts =>
      Bool.false_ne_true (noFolders.symm.trans (mounts.scanned isMounted).1)
    rw [ends]
    constructor
    · intro clean
      exact ⟨fun _ _ => List.length_eq_zero_iff.mp clean.folderNum,
        fun _ mounts => absurd mounts notMounts,
        fun mounts => absurd mounts notMounts⟩
    · intro cleansUp
      have noAttrs := cleansUp.folders isMounted noFolders
      refine ⟨?_, ?_, rfl, ?_⟩
      · simp [allocated, unused.monitor]
      · simp [allocated, unused.nodes, unused.folder, nodesOf]
      · simp [allocated, noAttrs]
  · have notClean : ¬(handle.allocated attr (some folders)).Clean := by
      intro clean
      cases clean.folder
    rw [ends, (unused.held_allocated isLength).clean_mount]
    constructor
    · intro exits
      exact ⟨fun _ noFolders => by simp [hasFolders] at noFolders,
        fun _ mounts => (exits mounts.second).1.resolve_right notClean,
        fun mounts => (exits mounts.second).2⟩
    · intro cleansUp second
      have mounts : answers.Mounts attr :=
        ⟨fun _ => ⟨hasFolders, created⟩, second⟩
      exact ⟨.inl (cleansUp.diskSize isMounted mounts), cleansUp.signal mounts⟩
  · have notMounts : ¬answers.Mounts attr := fun mounts =>
      notCreated (mounts.scanned isMounted).2
    rw [ends, iff_true_left (unused.held_allocated isLength).clean_fileScanOut]
    exact ⟨fun _ noFolders => by simp [hasFolders] at noFolders,
      fun _ mounts => absurd mounts notMounts,
      fun mounts => absurd mounts notMounts⟩

theorem watch_monitor_iff :
    (handle.watch answers).monitor ≠ .running ↔
      (answers.monitorCreate = true → answers.signalCreate = true) := by
  cases monitors : answers.monitorCreate with
  | false => simp [watch, monitors, fileScanOut_monitor]
  | true =>
      cases signals : answers.signalCreate with
      | false => simp [watch, monitors, signals]
      | true => simp [watch, monitors, signals, fileScanOut_monitor]

theorem mount_monitor_iff (isAbsent : handle.monitor = .absent) :
    (handle.mount answers).monitor ≠ .running ↔
      (answers.second ≠ .unmounted → answers.Sized →
        answers.monitorCreate = true → answers.signalCreate = true) := by
  unfold ScanAnswers.Sized
  by_cases isUnmounted : answers.second = .unmounted
  · simp [mount, isUnmounted, fileScanOut_monitor]
  · by_cases removed : answers.third = .unmounted
    · simp only [mount, isUnmounted, removed, if_false, ne_eq, not_true_eq_false,
        not_false_eq_true, false_implies, forall_const]
      exact watch_monitor_iff
    · cases sizes : answers.diskSize with
      | none => simp [mount, isUnmounted, removed, sizes, isAbsent]
      | some _ =>
          simp only [mount, isUnmounted, removed, sizes, if_false, if_true,
            ne_eq, not_false_eq_true, reduceCtorEq, forall_const]
          exact watch_monitor_iff

theorem monitor_fileScanThread_iff (attr : ScanAttr) (answers : ScanAnswers)
    (unused : handle.Unused) :
    (handle.fileScanThread attr answers).monitor ≠ .running ↔
      answers.JoinsMonitor attr := by
  rcases fileScanThread_cases attr answers handle with ⟨isUnmounted, ends⟩ |
    ⟨isMounted, noFolders, ends⟩ |
    ⟨folders, _, isMounted, hasFolders, ⟨created, ends⟩ | ⟨notCreated, ends⟩⟩
  · rw [ends, mount_monitor_iff unused.monitor]
    constructor
    · intro exits mounts
      exact exits mounts.second
    · intro joins second
      exact joins ⟨absurd isUnmounted, second⟩
  · have isAbsent : (handle.allocated attr none).monitor ≠ .running := by
      simp [allocated, unused.monitor]
    rw [ends, iff_true_left isAbsent]
    exact fun mounts => absurd
      (noFolders.symm.trans (mounts.scanned isMounted).1) Bool.false_ne_true
  · have isAbsent : (handle.allocated attr (some folders)).monitor = .absent :=
      unused.monitor
    rw [ends, mount_monitor_iff isAbsent]
    constructor
    · intro exits mounts
      exact exits mounts.second
    · intro joins second
      exact joins ⟨fun _ => ⟨hasFolders, created⟩, second⟩
  · rw [ends, iff_true_left (fileScanOut_monitor _)]
    exact fun mounts => absurd (mounts.scanned isMounted).2 notCreated

theorem unused_zero : zero.Unused := ⟨rfl, rfl, rfl, rfl⟩

end ScanHandle

/-- A failing initialiser leaves no thread on the handle that it frees. -/
def InitResult.LeavesNothing (result : InitResult) : Prop :=
  result.returns = -1 → result.running = []

/-- The scan thread was not started, or it is gone with its monitor thread. -/
def InitAnswers.ScanGone (attr : ScanAttr) (answers : InitAnswers) : Prop :=
  answers.mountDev = true → answers.scanCreate = true →
    ∃ scan, answers.scan = some scan ∧ scan.JoinsMonitor attr

/-- A failure after the start of a thread finds the thread gone. -/
def InitAnswers.FailsEarly (attr : ScanAttr) (answers : InitAnswers) : Prop :=
  answers.inited = false → answers.malloc = true → answers.paraInit = true →
    (answers.messageCreate = false → answers.ScanGone attr) ∧
      (answers.messageCreate = true → answers.listenerCreate = true)

theorem autoDeleteInit_iff (attr : ScanAttr) (answers : InitAnswers) :
    autoDeleteInit attr answers = [] ↔ answers.ScanGone attr := by
  unfold autoDeleteInit InitAnswers.ScanGone
  cases answers.mountDev with
  | false => simp
  | true =>
      cases answers.scanCreate with
      | false => simp
      | true =>
          cases answers.scan with
          | none => simp [scanRunning]
          | some scan =>
              have joins := ScanHandle.monitor_fileScanThread_iff attr scan
                ScanHandle.unused_zero
              simp [scanRunning, ← joins]

theorem managerInit_iff (attr : ScanAttr) (answers : InitAnswers) :
    (managerInit attr answers).LeavesNothing ↔ answers.FailsEarly attr := by
  unfold managerInit InitAnswers.FailsEarly InitResult.LeavesNothing
  cases answers.inited with
  | true => simp
  | false =>
      cases answers.malloc with
      | false => simp
      | true =>
          cases answers.paraInit with
          | false => simp
          | true =>
              cases messages : answers.messageCreate with
              | false => simp [listenMsgInit, messages, autoDeleteInit_iff]
              | true =>
                  cases listens : answers.listenerCreate with
                  | false => simp [listenMsgInit, messages, listens]
                  | true => simp [listenMsgInit, messages, listens]

/-- A scan thread cleans up, and a failing initialiser leaves nothing running,
just when no failure comes between the start of a thread and the next clean way
out. -/
theorem nothing_left_iff (attr : ScanAttr) (scan : ScanAnswers)
    (init : InitAnswers) (handle : ScanHandle) (unused : handle.Unused) :
    ((handle.fileScanThread attr scan).Clean ↔ scan.CleansUp attr) ∧
      ((managerInit attr init).LeavesNothing ↔ init.FailsEarly attr) :=
  ⟨ScanHandle.clean_fileScanThread_iff attr scan unused,
    managerInit_iff attr init⟩

def oneFolder : ScanAttr := ⟨"/userdata", [⟨"video0", false, 30⟩]⟩

theorem oneName_fits : ([97] : List UInt8).length < 256 := by decide

theorem oneName_nulFree : (0 : UInt8) ∉ [97] := by decide

def oneEntry : Folder.DirStream where
  entries :=
    [{ dName := ⟨[97], oneName_fits, oneName_nulFree⟩
       dType := .regular
       lstat := some ⟨.regular, 1, 8, 0⟩
       malloc := true }]
  distinct := by decide

/-- A thread that gets to its loop, if it gets its signal. -/
def untilLoop (signal : Bool) : ScanAnswers where
  first := .scanning
  folderMalloc := true
  createFolder _ := true
  dir _ := some oneEntry
  second := .scanning
  third := .mounted
  diskSize := some (1000, 500)
  monitorCreate := true
  signalCreate := signal
  passes := [⟨.unmounted, [], none, []⟩]

/-- The listener thread cannot be started while the first scan runs. -/
def listenerFails : InitAnswers where
  inited := false
  malloc := true
  paraInit := true
  mountDev := true
  scanCreate := true
  messageCreate := true
  listenerCreate := false
  scan := none

theorem nothing_left_iff_untilLoop :
    (ScanHandle.zero.fileScanThread oneFolder (untilLoop true)).Clean ∧
      (managerInit oneFolder
        { listenerFails with listenerCreate := true }).LeavesNothing := by
  have exits := nothing_left_iff oneFolder (untilLoop true)
    { listenerFails with listenerCreate := true } .zero ⟨rfl, rfl, rfl, rfl⟩
  refine ⟨exits.1.mpr ⟨?_, ?_, ?_⟩, exits.2.mpr ?_⟩
  · intro _ noFolders
    cases noFolders
  · intro _ _ _ noSize
    cases noSize
  · intro _ _ _
    rfl
  · intro _ _ _
    refine ⟨?_, fun _ => rfl⟩
    intro noMessage
    cases noMessage

/-- Without the signal the monitor thread goes on and a node stays in the folder;
without the listener thread two threads go on with the freed handle. -/
theorem failed_calls_leave_threads :
    ¬(ScanHandle.zero.fileScanThread oneFolder (untilLoop false)).Clean ∧
      nodesOf (ScanHandle.zero.fileScanThread oneFolder
        (untilLoop false)).folder ≠ [] ∧
      managerInit oneFolder listenerFails = ⟨-1, true, [.scan, .message]⟩ ∧
      ¬(managerInit oneFolder listenerFails).LeavesNothing := by
  refine ⟨?_, ?_, rfl, ?_⟩
  · intro clean
    exact clean.monitor rfl
  · decide
  · intro leavesNothing
    cases leavesNothing rfl

end Rkipc.Storage
