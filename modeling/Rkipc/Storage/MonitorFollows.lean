import Rkipc.Storage.MonitorPending

namespace Rkipc.Storage

open Folder Transition

/-! The index follows the directory. -/

namespace Directory

variable {directory after : Directory} {name : FileName} {stat : Stat}

theorem lstat_eq_none : directory.lstat name = none ↔
    directory.lookup name = none := by
  simp [lstat]

theorem lookup_write (directory : Directory) (name : FileName) (stat : Stat) :
    ∃ earlier, (directory.write name stat).lookup name = some ⟨stat, earlier⟩ ∧
      ∀ present, directory.lookup name = some present →
        ∀ old ∈ present.stat :: present.earlier, old ∈ earlier := by
  refine ⟨_, AList.lookup_insert _, ?_⟩
  intro present isPresent old member
  simpa [isPresent] using member

theorem lookup_write_ne {other : FileName} (distinct : other ≠ name) :
    (directory.write name stat).lookup other = directory.lookup other :=
  AList.lookup_insert_ne distinct

end Directory

/-- The index is in order, and every name is as the queue says. -/
structure Mirrors (watched : Watched) : Prop where
  indexed : watched.folder.Indexed
  tracks : ∀ name, Tracks watched.folder.wd name watched.folder.fileListFirst
    (watched.directory.lookup name) watched.events

/-- Only non-empty regular files are moved in, and `malloc` and `remove` do not
fail. -/
def Watched.Label.supported : Label → Bool
  | .operation (.moveIn _ stat) => stat.kind = .regular ∧ stat.stSize ≠ 0
  | .operation _ => true
  | .elsewhere _ => true
  | .handle malloc remove => malloc ∧ remove

def Watched.Label.succeeds : Label → Bool
  | .operation _ => true
  | .elsewhere _ => true
  | .handle malloc remove => malloc ∧ remove

def Watched.Supported (_ : Watched) (label : Label) : Prop :=
  label.supported = true

namespace Mirrors

variable {watched after : Watched}

private theorem queued (mirrors : Mirrors watched) {directory : Directory}
    {mask : Mask} {name : FileName}
    (others : ∀ other, other ≠ name →
      directory.lookup other = watched.directory.lookup other)
    (own : Tracks watched.folder.wd name watched.folder.fileListFirst
      (watched.directory.lookup name) watched.events →
      Tracks watched.folder.wd name watched.folder.fileListFirst
        (directory.lookup name)
        (watched.events ++ [⟨watched.folder.wd, mask, some name⟩])) :
    Mirrors { watched with
      directory := directory
      events := watched.events ++ [⟨watched.folder.wd, mask, some name⟩] } where
  indexed := mirrors.indexed
  tracks other := by
    by_cases same : other = name
    · subst same
      exact own (mirrors.tracks other)
    · simp only [others other same]
      exact (mirrors.tracks other).push (Event.silent_of_ne (Ne.symm same))

private theorem written (mirrors : Mirrors watched) (mask : Mask)
    (name : FileName) {stat : Stat} (regular : stat.kind = .regular)
    (announces : mask = .closeWrite ∨ mask = .movedTo ∧ stat.stSize ≠ 0) :
    Mirrors { watched with
      directory := watched.directory.write name stat
      events := watched.events ++ [⟨watched.folder.wd, mask, some name⟩] } := by
  obtain ⟨earlier, isWritten, keeps⟩ :=
    watched.directory.lookup_write name stat
  refine mirrors.queued (fun other => Directory.lookup_write_ne) fun tracks => ?_
  rw [isWritten]
  refine tracks.announce ?_ regular keeps fun isEmpty => ?_
  · rcases announces with rfl | ⟨rfl, _⟩ <;> simp [Event.announces]
  · rcases announces with rfl | ⟨rfl, nonempty⟩
    · rfl
    · exact (nonempty isEmpty).elim

private theorem withdrawn (mirrors : Mirrors watched) {mask : Mask}
    {name : FileName} (removes : mask = .delete ∨ mask = .movedFrom) :
    Mirrors { watched with
      directory := watched.directory.erase name
      events := watched.events ++ [⟨watched.folder.wd, mask, some name⟩] } := by
  refine mirrors.queued (fun other => AList.lookup_erase_ne) fun tracks => ?_
  rw [AList.lookup_erase]
  refine Tracks.withdraw ?_ ?_ <;> rcases removes with rfl | rfl <;>
    simp [Event.removes, Event.announces]

private theorem push (mirrors : Mirrors watched) {event : Event}
    (silent : ∀ name, event.Silent watched.folder.wd name) :
    Mirrors { watched with events := watched.events ++ [event] } where
  indexed := mirrors.indexed
  tracks name := (mirrors.tracks name).push (silent name)

private theorem occupied (mirrors : Mirrors watched) {name : FileName}
    {stat : Stat} (irregular : stat.kind ≠ .regular)
    (free : watched.directory.lookup name = none) :
    Mirrors { watched with
      directory := watched.directory.write name stat
      events := watched.events ++
        [⟨watched.folder.wd, .create, some name⟩] } := by
  obtain ⟨earlier, isWritten, _⟩ := watched.directory.lookup_write name stat
  refine mirrors.queued (fun other => Directory.lookup_write_ne) fun tracks => ?_
  rw [isWritten]
  rw [free] at tracks
  exact (tracks.occupy irregular).push
    (by simp [Event.Silent, Event.removes, Event.announces])

private theorem perform (mirrors : Mirrors watched) {operation : FileOperation}
    (supported : watched.Supported (.operation operation))
    (performed : watched.perform operation = some after) : Mirrors after := by
  obtain ⟨⟨directory, events⟩, happens, rfl⟩ :=
    Option.map_eq_some_iff.mp performed
  cases operation with
  | create name stat =>
      obtain ⟨⟨free, regular⟩, isResult⟩ := Option.ite_none_right_eq_some.mp happens
      cases isResult
      have created : ∀ name', Event.Silent watched.folder.wd name'
          ⟨watched.folder.wd, .create, some name⟩ := by
        simp [Event.Silent, Event.removes, Event.announces]
      have closed :=
        (mirrors.push created).written .closeWrite name regular (.inl rfl)
      simpa using closed
  | rewrite name stat =>
      obtain ⟨⟨_, regular⟩, isResult⟩ := Option.ite_none_right_eq_some.mp happens
      cases isResult
      exact mirrors.written .closeWrite name regular (.inl rfl)
  | moveIn name stat =>
      obtain ⟨_, isResult⟩ := Option.ite_none_right_eq_some.mp happens
      cases isResult
      have proper : stat.kind = .regular ∧ stat.stSize ≠ 0 := by
        simpa [Watched.Supported, Watched.Label.supported] using supported
      exact mirrors.written .movedTo name proper.1 (.inr ⟨rfl, proper.2⟩)
  | moveOut name =>
      obtain ⟨_, isResult⟩ := Option.ite_none_right_eq_some.mp happens
      cases isResult
      exact mirrors.withdrawn (.inr rfl)
  | delete name =>
      obtain ⟨_, isResult⟩ := Option.ite_none_right_eq_some.mp happens
      cases isResult
      exact mirrors.withdrawn (.inl rfl)
  | makeNode name stat =>
      obtain ⟨⟨free, irregular⟩, isResult⟩ :=
        Option.ite_none_right_eq_some.mp happens
      cases isResult
      exact mirrors.occupied irregular (Directory.lstat_eq_none.mp free)

private theorem popped {mountStatus : MountStatus} {event : Event}
    {events : List Event} (mirrors : Mirrors watched)
    (isHead : watched.events = event :: events)
    (silent : ∀ name, event.Silent watched.folder.wd name) :
    Mirrors { watched with mountStatus, events } where
  indexed := mirrors.indexed
  tracks name := (isHead ▸ mirrors.tracks name).pop (silent name)

private theorem handled {mountStatus : MountStatus} {mask : Mask}
    {name : FileName} {events : List Event} {folder : Folder}
    (mirrors : Mirrors watched)
    (isHead : watched.events = ⟨watched.folder.wd, mask, some name⟩ :: events)
    (indexed : folder.Indexed) (sameWd : folder.wd = watched.folder.wd)
    (others : ∀ file, file.filename ≠ name →
      (file ∈ folder.fileListFirst ↔ file ∈ watched.folder.fileListFirst))
    (own : Tracks watched.folder.wd name watched.folder.fileListFirst
      (watched.directory.lookup name)
      (⟨watched.folder.wd, mask, some name⟩ :: events) →
      Tracks watched.folder.wd name folder.fileListFirst
        (watched.directory.lookup name) events) :
    Mirrors { watched with mountStatus, folder, events } where
  indexed := indexed
  tracks other := by
    simp only [sameWd]
    have tracks := mirrors.tracks other
    rw [isHead] at tracks
    by_cases same : other = name
    · subst same
      exact own tracks
    · exact (tracks.pop (Event.silent_of_ne (Ne.symm same))).congr
        fun file isOther => others file (isOther ▸ same)

private theorem handledRemoval {mountStatus : MountStatus} {mask : Mask}
    {name : FileName} {events : List Event} (mirrors : Mirrors watched)
    (isHead : watched.events = ⟨watched.folder.wd, mask, some name⟩ :: events)
    (removes : mask = .delete ∨ mask = .movedFrom) :
    Mirrors { watched with
      mountStatus, events
      folder := watched.folder.fileListDel name } := by
  have files := fileListDel_files mirrors.indexed name
  refine mirrors.handled isHead (mirrors.indexed.fileListDel name)
    (fileListDel_path _ _).2 (fun file isOther => ?_) fun tracks => ?_
  · rw [files, mem_without]
    exact and_iff_left isOther
  · rw [files]
    refine tracks.popRemoval ?_
    rcases removes with rfl | rfl <;> simp [Event.removes]

private theorem handledAdd {mountStatus : MountStatus} {mask : Mask}
    {name : FileName} {events : List Event} {present : Present}
    (mirrors : Mirrors watched)
    (isHead : watched.events = ⟨watched.folder.wd, mask, some name⟩ :: events)
    (announces : mask = .movedTo ∨
      mask = .closeWrite ∧ present.stat.stSize ≠ 0)
    (isPresent : watched.directory.lookup name = some present) :
    Mirrors { watched with
      mountStatus, events
      folder := watched.folder.guardedAdd name present.stat true } := by
  refine mirrors.handled isHead
    (mirrors.indexed.guardedAdd name present.stat true)
    (guardedAdd_path _ _ _ _).2 (fun file isOther => ?_) fun tracks => ?_
  · rw [mem_guardedAdd]
    refine or_iff_left fun added => isOther ?_
    rw [added.2]
    rfl
  · rw [isPresent] at tracks ⊢
    refine tracks.popAnnounced ?_ ?_ fun file => mem_guardedAdd
    · rcases announces with rfl | ⟨rfl, _⟩ <;> simp [Event.announces]
    · rcases announces with rfl | ⟨rfl, nonempty⟩
      · simp
      · exact fun _ => nonempty

private theorem handledMissing {mountStatus : MountStatus} {mask : Mask}
    {name : FileName} {events : List Event} (mirrors : Mirrors watched)
    (isHead : watched.events = ⟨watched.folder.wd, mask, some name⟩ :: events)
    (announces : mask = .movedTo ∨ mask = .closeWrite)
    (missing : watched.directory.lookup name = none) :
    Mirrors { watched with mountStatus, events } := by
  refine mirrors.handled isHead mirrors.indexed rfl (fun _ _ => .rfl)
    fun tracks => ?_
  rw [missing] at tracks ⊢
  refine tracks.popMissing ?_
  rcases announces with rfl | rfl <;> simp [Event.announces]

private theorem handledEmpty {mountStatus : MountStatus} {mask : Mask}
    {name : FileName} {events : List Event} (mirrors : Mirrors watched)
    (isHead : watched.events = ⟨watched.folder.wd, mask, some name⟩ :: events) :
    Mirrors { watched with
      mountStatus
      directory := watched.directory.erase name
      events := events ++ [⟨watched.folder.wd, .delete, some name⟩] } where
  indexed := mirrors.indexed
  tracks other := by
    have tracks := mirrors.tracks other
    rw [isHead] at tracks
    by_cases same : other = name
    · subst same
      rw [AList.lookup_erase]
      exact .withdraw (by simp [Event.removes]) (by simp [Event.announces])
    · rw [AList.lookup_erase_ne same]
      exact (tracks.pop (Event.silent_of_ne (Ne.symm same))).push
        (Event.silent_of_ne (Ne.symm same))

private theorem handleOwn {mountStatus : MountStatus} {mask : Mask}
    {name : FileName} {events : List Event} (mirrors : Mirrors watched)
    (isHead : watched.events =
      ⟨watched.folder.wd, mask, some name⟩ :: events) :
    Mirrors (({ watched with mountStatus, events } : Watched).handleOwn
      mask name true true) := by
  cases mask with
  | create | unmount =>
      refine mirrors.handled isHead mirrors.indexed rfl (fun _ _ => .rfl)
        fun tracks => tracks.pop ?_
      simp [Event.Silent, Event.removes, Event.announces]
  | delete => exact mirrors.handledRemoval isHead (.inl rfl)
  | movedFrom => exact mirrors.handledRemoval isHead (.inr rfl)
  | movedTo =>
      cases isPresent : watched.directory.lookup name with
      | none =>
          simp only [Watched.handleOwn, Folder.monitor, Directory.lstat,
            isPresent, Option.map_none]
          exact mirrors.handledMissing isHead (.inl rfl) isPresent
      | some present =>
          simp only [Watched.handleOwn, Folder.monitor, Directory.lstat,
            isPresent, Option.map_some]
          exact mirrors.handledAdd isHead (.inl rfl) isPresent
  | closeWrite =>
      cases isPresent : watched.directory.lookup name with
      | none =>
          simp only [Watched.handleOwn, Folder.monitor, Directory.lstat,
            isPresent, Option.map_none]
          exact mirrors.handledMissing isHead (.inr rfl) isPresent
      | some present =>
          simp only [Watched.handleOwn, Folder.monitor, Directory.lstat,
            isPresent, Option.map_some]
          by_cases isEmpty : present.stat.stSize = 0
          · simp only [isEmpty, if_true]
            exact mirrors.handledEmpty isHead
          · simp only [isEmpty, if_false]
            exact mirrors.handledAdd isHead (.inr ⟨rfl, isEmpty⟩) isPresent

private theorem handle (mirrors : Mirrors watched)
    (handles : watched.handle true true = some after) : Mirrors after := by
  unfold Watched.handle at handles
  split at handles
  next => contradiction
  next event events isHead =>
    obtain ⟨wd, mask, name⟩ := event
    cases name with
    | none =>
        cases handles
        exact mirrors.popped isHead fun name => by
          simp [Event.Silent, Event.removes, Event.announces]
    | some name =>
        simp only at handles
        split at handles
        next isWatch =>
          subst isWatch
          cases handles
          exact mirrors.handleOwn isHead
        next elsewhere =>
          cases handles
          exact mirrors.popped isHead fun _ =>
            Event.silent_of_wd_ne elsewhere

theorem step {label : Watched.Label} (mirrors : Mirrors watched)
    (supported : watched.Supported label)
    (stepped : watched.step label = some after) : Mirrors after := by
  cases label with
  | operation operation => exact mirrors.perform supported stepped
  | elsewhere event =>
      obtain ⟨elsewhere, isAfter⟩ :=
        Option.ite_none_right_eq_some.mp stepped
      cases isAfter
      exact mirrors.push fun _ => Event.silent_of_wd_ne elsewhere
  | handle malloc remove =>
      obtain ⟨rfl, rfl⟩ : malloc = true ∧ remove = true := by
        simpa [Watched.Supported, Watched.Label.supported] using supported
      exact mirrors.handle stepped

theorem reaches (mirrors : Mirrors watched)
    (reaches : Watched.system.Reaches Watched.Supported watched after) :
    Mirrors after :=
  reaches.invariant (fun _ _ _ holds supported stepped =>
    Mirrors.step holds supported stepped) mirrors

theorem scan {cpath : String} {wd : Int} {attr : FolderAttr}
    {stream : DirStream} {directory : Directory}
    (reads : Watched.Reads stream directory)
    (within : stream.entries.length ≤ attr.limit + 301)
    (nonempty : ∀ name present, directory.lookup name = some present →
      present.stat.kind = .regular → present.stat.stSize ≠ 0)
    (scanned : Watched.scan cpath wd attr stream directory = some watched) :
    Mirrors watched := by
  obtain ⟨folder, read, indexed, listed⟩ :=
    (indexed_empty cpath wd).mem_readFileList within
  rw [Watched.scan, read] at scanned
  cases scanned
  have gives : ∀ file, file ∈ folder.fileListFirst ↔ ∃ present,
      directory.lookup file.filename = some present ∧
        present.stat.kind = .regular ∧
        file = File.ofStat file.filename present.stat := by
    intro file
    rw [listed]
    constructor
    · rintro ⟨ptr, member, notDot, notDotDot, regular, statbuf, isStat, _, rfl⟩
      obtain ⟨present, isPresent, isKind, lstat, _⟩ :=
        reads.entries ptr member notDot notDotDot
      rw [isStat] at lstat
      cases lstat
      exact ⟨present, isPresent, isKind.symm.trans regular, rfl⟩
    · intro both
      obtain ⟨present, isPresent, regular, isFile⟩ := both
      obtain ⟨notDot, notDotDot, isRead⟩ := reads.names file.filename
        (AList.lookup_isSome.mp (by simp [isPresent]))
      obtain ⟨ptr, member, isName⟩ := List.mem_map.mp isRead
      rw [← isName] at notDot notDotDot
      obtain ⟨other, isOther, isKind, lstat, malloc⟩ :=
        reads.entries ptr member notDot notDotDot
      rw [isName, isPresent] at isOther
      cases isOther
      exact ⟨ptr, member, notDot, notDotDot, isKind.trans regular, _, lstat,
        malloc, isName ▸ isFile⟩
  refine ⟨indexed, fun name => ⟨?_, ?_, ?_, ?_⟩⟩
  · intro both
    obtain ⟨present, isPresent, regular⟩ := both
    exact .inr ⟨List.mem_map.mpr ⟨File.ofStat name present.stat,
      (gives _).mpr ⟨present, isPresent, regular, rfl⟩, rfl⟩, rfl⟩
  · refine fun irregular => ⟨rfl, fun member => (irregular ?_).elim⟩
    obtain ⟨file, listed, rfl⟩ := List.mem_map.mp member
    obtain ⟨present, isPresent, regular, _⟩ := (gives file).mp listed
    exact ⟨present, isPresent, regular⟩
  · intro present isPresent regular isEmpty
    exact (nonempty name present isPresent regular isEmpty).elim
  · rintro file listed rfl _
    obtain ⟨present, isPresent, _, isFile⟩ := (gives file).mp listed
    exact ⟨present, isPresent, present.stat, List.mem_cons_self, isFile⟩

theorem mem_names (mirrors : Mirrors watched) (quiet : watched.events = [])
    (name : FileName) :
    name ∈ watched.folder.fileListFirst.map File.filename ↔
      ∃ present, watched.directory.lookup name = some present ∧
        present.stat.kind = .regular ∧ present.stat.stSize ≠ 0 := by
  have tracks := mirrors.tracks name
  rw [quiet] at tracks
  constructor
  · intro listed
    by_contra missing
    have irregular : ¬ IsRegular (watched.directory.lookup name) := by
      intro both
      obtain ⟨present, isPresent, regular⟩ := both
      refine missing ⟨present, isPresent, regular, fun isEmpty => ?_⟩
      cases tracks.emptied present isPresent regular isEmpty
    cases (tracks.unlisted irregular).2 listed
  · intro both
    obtain ⟨present, isPresent, regular, _⟩ := both
    rcases tracks.listed ⟨present, isPresent, regular⟩ with pending | listed
    · cases pending
    · exact listed.1

end Mirrors

/-! The index and the directory once every event is handled. -/

namespace Directory

theorem mem_current {directory : Directory} {file : File} :
    file ∈ directory.current ↔ ∃ present,
      directory.lookup file.filename = some present ∧
        present.stat.kind = .regular ∧ present.stat.stSize ≠ 0 ∧
        file = File.ofStat file.filename present.stat := by
  unfold current
  rw [List.mem_map]
  constructor
  · rintro ⟨⟨name, present⟩, member, rfl⟩
    obtain ⟨isEntry, counts⟩ := List.mem_filter.mp member
    simp only [ne_eq, Bool.decide_and, decide_not, Bool.and_eq_true,
      decide_eq_true_eq, Bool.not_eq_eq_eq_not, Bool.not_true,
      decide_eq_false_iff_not] at counts
    exact ⟨present, AList.mem_lookup_iff.mpr isEntry, counts.1, counts.2, rfl⟩
  · intro both
    obtain ⟨present, isPresent, regular, nonempty, isFile⟩ := both
    refine ⟨⟨file.filename, present⟩, List.mem_filter.mpr
      ⟨AList.mem_lookup_iff.mp isPresent, ?_⟩, isFile.symm⟩
    simp [regular, nonempty]

theorem current_distinct (directory : Directory) :
    (directory.current.map File.filename).Nodup := by
  have sublist : (directory.current.map File.filename).Sublist
      directory.keys := by
    unfold current
    rw [List.map_map]
    exact List.filter_sublist.map _
  exact directory.keys_nodup.sublist sublist

theorem mem_current_names {directory : Directory} {name : FileName} :
    name ∈ directory.current.map File.filename ↔ ∃ present,
      directory.lookup name = some present ∧
        present.stat.kind = .regular ∧ present.stat.stSize ≠ 0 := by
  rw [List.mem_map]
  constructor
  · rintro ⟨file, member, rfl⟩
    obtain ⟨present, isPresent, regular, nonempty, _⟩ := mem_current.mp member
    exact ⟨present, isPresent, regular, nonempty⟩
  · intro both
    obtain ⟨present, isPresent, regular, nonempty⟩ := both
    exact ⟨File.ofStat name present.stat,
      mem_current.mpr ⟨present, isPresent, regular, nonempty, rfl⟩, rfl⟩

end Directory

/-- The index is the list of the non-empty regular files as they are. -/
def Watched.Exact (watched : Watched) : Prop :=
  watched.folder.fileListFirst.Perm watched.directory.current ∧
    watched.folder.totalSpace =
      (watched.directory.current.map File.space).sum

/-- The index lists every non-empty regular file once and nothing else, each as
it was at some time since there is a file of this name. -/
structure Watched.Follows (watched : Watched) : Prop where
  names : (watched.folder.fileListFirst.map File.filename).Perm
    (watched.directory.current.map File.filename)
  values : ∀ file ∈ watched.folder.fileListFirst, ∃ present,
    watched.directory.lookup file.filename = some present ∧
      ∃ stat ∈ present.stat :: present.earlier,
        file = File.ofStat file.filename stat
  fileNum : watched.folder.fileNum = watched.folder.fileListFirst.length
  totalSize : watched.folder.totalSize =
    (watched.folder.fileListFirst.map File.size).sum
  totalSpace : watched.folder.totalSpace =
    (watched.folder.fileListFirst.map File.space).sum
  exact : (∀ name present, watched.directory.lookup name = some present →
    present.stat.kind = .regular → present.earlier = []) → watched.Exact

theorem Mirrors.follows {watched : Watched} (mirrors : Mirrors watched)
    (quiet : watched.events = []) : watched.Follows := by
  have distinct := mirrors.indexed.distinct
  have names : (watched.folder.fileListFirst.map File.filename).Perm
      (watched.directory.current.map File.filename) :=
    (List.perm_ext_iff_of_nodup distinct
      watched.directory.current_distinct).mpr fun name => by
        rw [mirrors.mem_names quiet, Directory.mem_current_names]
  have values : ∀ file ∈ watched.folder.fileListFirst, ∃ present,
      watched.directory.lookup file.filename = some present ∧
        ∃ stat ∈ present.stat :: present.earlier,
          file = File.ofStat file.filename stat := fun file listed =>
    (mirrors.tracks file.filename).value file listed rfl (by simp [quiet])
  refine ⟨names, values, mirrors.indexed.fileNum, mirrors.indexed.totalSize,
    mirrors.indexed.totalSpace, fun unchanged => ?_⟩
  have isCurrent : ∀ file ∈ watched.folder.fileListFirst,
      file ∈ watched.directory.current := by
    intro file listed
    obtain ⟨present, isPresent, stat, isStat, isFile⟩ := values file listed
    obtain ⟨other, isOther, regular, nonempty⟩ :=
      (mirrors.mem_names quiet _).mp (List.mem_map_of_mem listed)
    rw [isPresent] at isOther
    cases isOther
    rw [unchanged _ _ isPresent regular, List.mem_singleton] at isStat
    subst isStat
    exact Directory.mem_current.mpr
      ⟨present, isPresent, regular, nonempty, isFile⟩
  have permuted : watched.folder.fileListFirst.Perm
      watched.directory.current :=
    (List.subperm_of_subset (.of_map _ distinct) isCurrent).perm_of_length_le
      (by simpa using names.length_eq.ge)
  exact ⟨permuted, mirrors.indexed.totalSpace.trans
    (permuted.map File.space).sum_nat⟩

/-- Once every event is handled, the index follows the directory. -/
theorem index_follows_directory {cpath : String} {wd : Int}
    (attr : FolderAttr) {stream : DirStream} {directory : Directory}
    {first last : Watched} (reads : Watched.Reads stream directory)
    (within : stream.entries.length ≤ attr.limit + 301)
    (nonempty : ∀ name present, directory.lookup name = some present →
      present.stat.kind = .regular → present.stat.stSize ≠ 0)
    (scanned : Watched.scan cpath wd attr stream directory = some first)
    (reaches : Watched.system.Reaches Watched.Supported first last)
    (handled : last.events = []) : last.Follows :=
  ((Mirrors.scan reads within nonempty scanned).reaches reaches).follows
    handled

def clip : FileName := ⟨[99, 46, 109, 112, 52], by decide, by decide⟩

def blank : Watched := ⟨.mounted, .empty "/mnt/sdcard/video0" 1, ∅, []⟩

def clipStat (size : Nat) : Stat := ⟨.regular, size, 8, 0⟩

def oneClip : Watched := { blank with
  folder := (Folder.empty "/mnt/sdcard/video0" 1).guardedAdd clip (clipStat 1)
    true
  directory := blank.directory.write clip (clipStat 1) }

private theorem reads_blank : Watched.Reads ⟨[], .nil⟩ blank.directory where
  entries := by simp
  names := by simp [blank]

private theorem reaches_oneClip :
    Watched.system.Reaches Watched.Supported blank oneClip :=
  System.reaches_of_guardedRun (fun _ _ supported => supported)
    [.operation (.create clip (clipStat 1)), .handle true true,
      .handle true true] rfl

theorem index_follows_directory_oneClip : oneClip.Follows :=
  index_follows_directory ⟨"video0", false, 30⟩ reads_blank
    (by decide) (by simp [blank]) rfl reaches_oneClip rfl

/-- A listed file keeps its entry when it is written again. -/
theorem rewritten_file_keeps_entry :
    ¬ ∀ (cpath : String) (wd : Int) (attr : FolderAttr) (stream : DirStream)
      (directory : Directory) (first last : Watched),
      Watched.Reads stream directory →
      Watched.scan cpath wd attr stream directory = some first →
      Watched.system.Reaches (fun _ label => label.succeeds = true) first
        last →
      last.events = [] → last.Exact := by
  intro general
  have reaches : Watched.system.Reaches (fun _ label => label.succeeds = true)
      blank { oneClip with
        directory := oneClip.directory.write clip (clipStat 2) } :=
    System.reaches_of_guardedRun (fun _ _ succeeds => succeeds)
      [.operation (.create clip (clipStat 1)), .handle true true,
        .handle true true, .operation (.rewrite clip (clipStat 2)),
        .handle true true] rfl
  have exact := general "/mnt/sdcard/video0" 1 ⟨"video0", false, 30⟩ ⟨[], .nil⟩ ∅
    _ _ reads_blank rfl reaches rfl
  exact absurd exact.1 (by decide)

/-- Of a folder with more files than the scan looks at, some stay out of the
index. -/
theorem scan_leaves_files_out {cpath : String} {wd : Int} {attr : FolderAttr}
    {stream : DirStream} {directory : Directory} {watched : Watched}
    (nonneg : 0 ≤ attr.limit)
    (tooMany : attr.limit + 301 < directory.current.length)
    (scanned : Watched.scan cpath wd attr stream directory = some watched) :
    ¬ watched.Exact := by
  intro exact
  obtain ⟨cleared, clears, _, isEmpty, _⟩ :=
    (indexed_empty cpath wd).clearList (Nat.lt_succ_self _)
  rw [Watched.scan, Folder.readFileList, clears] at scanned
  cases scanned
  have short : ((Folder.readEntries attr.limit 0 stream.entries
      cleared).fileListFirst.length : Int) + 0 ≤
        cleared.fileListFirst.length + (attr.limit + 301) :=
    readEntries_length_le cleared (by omega)
  rw [isEmpty] at short
  have same := exact.1.length_eq
  simp only [List.length_nil] at short same
  omega

end Rkipc.Storage
