import Rkipc.Storage.Monitor

namespace Rkipc.Storage

open Folder

/-! What the queued events of a watched folder still do to one name. -/

namespace Event

def removes (wd : Int) (name : FileName) (event : Event) : Bool :=
  event = ⟨wd, .delete, some name⟩ ∨ event = ⟨wd, .movedFrom, some name⟩

def announces (wd : Int) (name : FileName) (event : Event) : Bool :=
  event = ⟨wd, .movedTo, some name⟩ ∨ event = ⟨wd, .closeWrite, some name⟩

theorem removes_of_announces {wd : Int} {name : FileName} {event : Event}
    (announces : event.announces wd name = true) :
    event.removes wd name = false := by
  simp only [Event.announces, decide_eq_true_eq] at announces
  rcases announces with rfl | rfl <;> simp [removes]

def Silent (wd : Int) (name : FileName) (event : Event) : Prop :=
  event.removes wd name = false ∧ event.announces wd name = false

theorem silent_of_ne {wd : Int} {name other : FileName} {mask : Mask}
    (distinct : other ≠ name) : Silent wd name ⟨wd, mask, some other⟩ := by
  simp [Silent, removes, announces, distinct]

theorem silent_of_wd_ne {wd : Int} {name : FileName} {event : Event}
    (elsewhere : event.wd ≠ wd) : event.Silent wd name := by
  constructor <;> simp only [removes, announces, decide_eq_false_iff_not] <;>
    rintro (rfl | rfl) <;> exact elsewhere rfl

end Event

def removalPending (wd : Int) (name : FileName) (events : List Event) : Bool :=
  events.any (Event.removes wd name)

/-- An event announces the name and no later one removes it. -/
def announced (wd : Int) (name : FileName) : List Event → Bool
  | [] => false
  | event :: rest =>
      announced wd name rest ||
        (event.announces wd name && !removalPending wd name rest)

section Append

variable {wd : Int} {name : FileName}

@[simp] theorem removalPending_nil : removalPending wd name [] = false := rfl

@[simp] theorem removalPending_cons (event : Event) (rest : List Event) :
    removalPending wd name (event :: rest) =
      (event.removes wd name || removalPending wd name rest) := rfl

@[simp] theorem removalPending_append (events : List Event) (event : Event) :
    removalPending wd name (events ++ [event]) =
      (removalPending wd name events || event.removes wd name) := by
  simp [removalPending]

@[simp] theorem announced_append (events : List Event) (event : Event) :
    announced wd name (events ++ [event]) =
      (event.announces wd name ||
        (announced wd name events && !event.removes wd name)) := by
  induction events with
  | nil => simp [announced]
  | cons first rest induction =>
      simp only [List.cons_append, announced, induction,
        removalPending_append]
      cases event.announces wd name <;> cases event.removes wd name <;> simp

end Append

def IsRegular (entry : Option Present) : Prop :=
  ∃ present, entry = some present ∧ present.stat.kind = .regular

/-- What holds between the index, the directory and the queue at one name. -/
structure Tracks (wd : Int) (name : FileName) (files : List File)
    (entry : Option Present) (events : List Event) : Prop where
  listed : IsRegular entry → announced wd name events = true ∨
    name ∈ files.map File.filename ∧ removalPending wd name events = false
  unlisted : ¬ IsRegular entry → announced wd name events = false ∧
    (name ∈ files.map File.filename → removalPending wd name events = true)
  emptied : ∀ present, entry = some present → present.stat.kind = .regular →
    present.stat.stSize = 0 → ⟨wd, .closeWrite, some name⟩ ∈ events
  value : ∀ file ∈ files, file.filename = name →
    removalPending wd name events = false →
    ∃ present, entry = some present ∧
      ∃ stat ∈ present.stat :: present.earlier, file = File.ofStat name stat

namespace Tracks

variable {wd : Int} {name : FileName} {files : List File}
  {entry : Option Present} {event : Event} {events : List Event}

/-! Queueing. -/

theorem push (tracks : Tracks wd name files entry events)
    (silent : event.Silent wd name) :
    Tracks wd name files entry (events ++ [event]) where
  listed regular := by
    simpa [silent.1, silent.2] using tracks.listed regular
  unlisted irregular := by
    simpa [silent.1, silent.2] using tracks.unlisted irregular
  emptied present isPresent regular isEmpty :=
    List.mem_append_left _
      (tracks.emptied present isPresent regular isEmpty)
  value file member isName := by
    simpa [silent.1] using tracks.value file member isName

theorem announce (tracks : Tracks wd name files entry events)
    (announces : event.announces wd name = true) {stat : Stat}
    {earlier : List Stat} (regular : stat.kind = .regular)
    (keeps : ∀ present, entry = some present →
      ∀ old ∈ present.stat :: present.earlier, old ∈ earlier)
    (nonempty : stat.stSize = 0 → event = ⟨wd, .closeWrite, some name⟩) :
    Tracks wd name files (some ⟨stat, earlier⟩) (events ++ [event]) where
  listed _ := by simp [announces]
  unlisted irregular := (irregular ⟨_, rfl, regular⟩).elim
  emptied present isPresent _ isEmpty := by
    cases isPresent
    simp [nonempty isEmpty]
  value file member isName pending := by
    simp only [removalPending_append, Event.removes_of_announces announces,
      Bool.or_false] at pending
    obtain ⟨present, isPresent, old, isOld, isFile⟩ :=
      tracks.value file member isName pending
    exact ⟨_, rfl, old, List.mem_cons_of_mem _ (keeps _ isPresent old isOld),
      isFile⟩

theorem withdraw (removes : event.removes wd name = true)
    (silent : event.announces wd name = false) :
    Tracks wd name files none (events ++ [event]) where
  listed regular := by
    obtain ⟨_, isPresent, _⟩ := regular
    cases isPresent
  unlisted _ := by simp [removes, silent]
  emptied _ isPresent := by cases isPresent
  value _ _ _ pending := by simp [removes] at pending

theorem occupy (tracks : Tracks wd name files none events) {stat : Stat}
    {earlier : List Stat} (irregular : stat.kind ≠ .regular) :
    Tracks wd name files (some ⟨stat, earlier⟩) events := by
  obtain ⟨silent, withdrawn⟩ := tracks.unlisted (by
    intro both
    obtain ⟨_, isPresent, _⟩ := both
    cases isPresent)
  refine ⟨?_, fun _ => ⟨silent, withdrawn⟩, ?_, ?_⟩
  · intro both
    obtain ⟨_, isPresent, regular⟩ := both
    cases isPresent
    exact (irregular regular).elim
  · intro _ isPresent regular _
    cases isPresent
    exact (irregular regular).elim
  · intro file member isName pending
    rw [withdrawn (List.mem_map.mpr ⟨file, member, isName⟩)] at pending
    contradiction

/-! Handling. -/

theorem pop (tracks : Tracks wd name files entry (event :: events))
    (silent : event.Silent wd name) :
    Tracks wd name files entry events where
  listed regular := by
    simpa [announced, silent.1, silent.2] using tracks.listed regular
  unlisted irregular := by
    simpa [announced, silent.1, silent.2] using tracks.unlisted irregular
  emptied present isPresent regular isEmpty := by
    rcases List.mem_cons.mp
      (tracks.emptied present isPresent regular isEmpty) with rfl | later
    · have announces := silent.2
      simp [Event.announces] at announces
    · exact later
  value file member isName pending :=
    tracks.value file member isName (by simp [silent.1, pending])

theorem popRemoval (tracks : Tracks wd name files entry (event :: events))
    (removes : event.removes wd name = true) :
    Tracks wd name (without name files) entry events := by
  have absent : name ∉ (without name files).map File.filename := by
    intro member
    obtain ⟨file, kept, isName⟩ := List.mem_map.mp member
    exact (mem_without.mp kept).2 isName
  have silent : event.announces wd name = false := by
    by_contra announces
    rw [Event.removes_of_announces (by simpa using announces)] at removes
    contradiction
  refine ⟨fun regular => ?_, fun irregular => ?_, ?_, ?_⟩
  · have before := tracks.listed regular
    simp only [announced, silent, Bool.false_and, Bool.or_false,
      removalPending_cons, removes, Bool.true_or] at before
    exact before.imp_right fun pending => nomatch pending.2
  · have before := tracks.unlisted irregular
    simp only [announced, silent, Bool.false_and, Bool.or_false] at before
    exact ⟨before.1, fun member => (absent member).elim⟩
  · intro present isPresent regular isEmpty
    rcases List.mem_cons.mp
      (tracks.emptied present isPresent regular isEmpty) with rfl | later
    · simp [Event.announces] at silent
    · exact later
  · intro file member isName
    exact (absent (List.mem_map.mpr ⟨file, member, isName⟩)).elim

theorem popMissing (tracks : Tracks wd name files none (event :: events))
    (announces : event.announces wd name = true) :
    Tracks wd name files none events := by
  have keeps := Event.removes_of_announces announces
  have irregular : ¬ IsRegular none := by
    intro both
    obtain ⟨_, isPresent, _⟩ := both
    cases isPresent
  obtain ⟨silent, withdrawn⟩ := tracks.unlisted irregular
  simp only [announced, Bool.or_eq_false_iff] at silent
  simp only [removalPending_cons, keeps, Bool.false_or] at withdrawn
  refine ⟨fun regular => (irregular regular).elim,
    fun _ => ⟨silent.1, withdrawn⟩, ?_, ?_⟩
  · intro _ isPresent
    cases isPresent
  · intro file member isName pending
    rw [withdrawn (List.mem_map.mpr ⟨file, member, isName⟩)] at pending
    contradiction

theorem popAnnounced {present : Present} {after : List File}
    (tracks : Tracks wd name files (some present) (event :: events))
    (announces : event.announces wd name = true)
    (nonempty : event = ⟨wd, .closeWrite, some name⟩ →
      present.stat.stSize ≠ 0)
    (added : ∀ file, file ∈ after ↔ file ∈ files ∨
      name ∉ files.map File.filename ∧
        file = File.ofStat name present.stat) :
    Tracks wd name after (some present) events := by
  have keeps := Event.removes_of_announces announces
  have nameListed : name ∈ after.map File.filename := by
    by_cases already : name ∈ files.map File.filename
    · obtain ⟨file, member, isName⟩ := List.mem_map.mp already
      exact List.mem_map.mpr ⟨file, (added file).mpr (.inl member), isName⟩
    · exact List.mem_map.mpr ⟨File.ofStat name present.stat,
        (added _).mpr (.inr ⟨already, rfl⟩), rfl⟩
  refine ⟨fun regular => ?_, fun irregular => ?_, ?_, ?_⟩
  · cases pending : removalPending wd name events with
    | false => exact .inr ⟨nameListed, rfl⟩
    | true =>
        have before := tracks.listed regular
        simpa [announced, announces, pending, keeps] using before
  · have before := (tracks.unlisted irregular).1
    simp only [announced, announces, Bool.true_and, Bool.or_eq_false_iff,
      Bool.not_eq_false'] at before
    exact ⟨before.1, fun _ => before.2⟩
  · intro other isPresent regular isEmpty
    cases isPresent
    rcases List.mem_cons.mp
      (tracks.emptied _ rfl regular isEmpty) with isEvent | later
    · exact (nonempty isEvent.symm isEmpty).elim
    · exact later
  · intro file member isName pending
    rcases (added file).mp member with before | ⟨_, rfl⟩
    · exact tracks.value file before isName (by simp [keeps, pending])
    · exact ⟨present, rfl, present.stat, List.mem_cons_self, rfl⟩

theorem congr {after : List File} (tracks : Tracks wd name files entry events)
    (same : ∀ file, file.filename = name → (file ∈ after ↔ file ∈ files)) :
    Tracks wd name after entry events := by
  have sameNames : name ∈ after.map File.filename ↔
      name ∈ files.map File.filename := by
    simp only [List.mem_map]
    exact exists_congr fun file => and_congr_left (same file)
  refine ⟨?_, ?_, tracks.emptied, ?_⟩
  · rw [sameNames]
    exact tracks.listed
  · rw [sameNames]
    exact tracks.unlisted
  · intro file member isName
    exact tracks.value file ((same file isName).mp member) isName

end Tracks

end Rkipc.Storage
