import Rkipc.Osd.Buffers

namespace Rkipc.Osd.Buffers

open Libc Overlay

/-! When every buffer of a run of `rk_osd_init` is owned. -/

def FreshFrom (blocks : Blocks OsdId) (next : Nat) : Prop :=
  ∀ number, next ≤ number → blocks number = .fresh

/-- An entry owns nothing. -/
def Without (blocks : Blocks OsdId) (id : OsdId) : Prop :=
  ∀ number filled, blocks number ≠ .allocated id filled

/-- The blocks when those that an entry has made have a status. -/
def within (blocks : Blocks OsdId) (next bound : Nat) (status : BlockStatus OsdId) :
    Blocks OsdId :=
  fun number => if next ≤ number ∧ number < bound then status else blocks number

/-- The run gets through an entry, which has given its own blocks a status. -/
structure Round.Leaves (round : Round) (next : Nat) (blocks : Blocks OsdId)
    (status : BlockStatus OsdId) : Prop where
  runs : blocks.run round.events = some (within blocks next round.next status)
  later : next ≤ round.next

variable {round : Round} {id other : OsdId} {next number bound : Nat} {blocks : Blocks OsdId}
  {buffer : Pointer} {filled : Bool} {status : BlockStatus OsdId}

theorem freshFrom_within (isFresh : FreshFrom blocks next) (later : next ≤ bound) :
    FreshFrom (within blocks next bound status) bound := by
  intro number above
  rw [within, if_neg fun inside => Nat.not_lt.mpr above inside.2]
  exact isFresh number (Nat.le_trans later above)

theorem without_within (owns : ∀ filled, status ≠ .allocated id filled)
    (holds : Without blocks id) : Without (within blocks next bound status) id := by
  intro number filled held
  rw [within] at held
  split at held
  · exact owns filled held
  · exact holds number filled held

theorem within_of_lt (below : number < next) :
    within blocks next bound status number = blocks number :=
  if_neg fun inside => Nat.not_lt.mpr inside.1 below

theorem within_self (more : next < bound) : within blocks next bound status next = status :=
  if_pos ⟨Nat.le_refl next, more⟩

theorem within_empty : within blocks next next status = blocks := by
  funext number
  exact if_neg fun inside => Nat.not_lt.mpr inside.1 inside.2

theorem within_one : within blocks next (next + 1) status = Function.update blocks next status := by
  funext number
  rw [within, Function.update_apply]
  exact if_congr (by omega) rfl rfl

theorem leaves_nothing (goesOn : Bool) :
    (Round.mk [] buffer next goesOn).Leaves next blocks status where
  runs := congrArg some within_empty.symm
  later := Nat.le_refl next

section Image

variable {file : ImageFile}

/-- A buffer that is loaded is handed over and freed, as is the data that was read. -/
theorem imageEntry_loads (loads : file.Loads) (isFresh : FreshFrom blocks next) :
    (imageEntry file id buffer next).Leaves next blocks .freed ∧
      (imageEntry file id buffer next).goesOn = true := by
  obtain ⟨opens, checked, dataAllocated, read, bufferAllocated⟩ := loads
  have entry : imageEntry file id buffer next =
      ⟨[.malloc next id, .malloc (next + 1) id, .write (.block (next + 1)),
        .fill (.block (next + 1)) id, .free (.block next), .pass (.block (next + 1)) id,
        .free (.block (next + 1))], .block (next + 1), next + 2, true⟩ := by
    simp [imageEntry, loadBmpFormFile, opens, checked, dataAllocated, read, bufferAllocated]
  have isFree := isFresh next (Nat.le_refl next)
  have nextIsFree := isFresh (next + 1) (Nat.le_succ next)
  rw [entry]
  refine ⟨⟨?runs, Nat.le_add_right next 2⟩, rfl⟩
  simp only [Blocks.run, Blocks.handle, isFree, Option.bind_some, ne_eq, Nat.add_eq_left,
    Nat.one_ne_zero, not_false_eq_true, Function.update_of_ne, nextIsFree, Function.update_self,
    if_true, Nat.left_eq_add]
  refine congrArg some (funext fun number => ?_)
  simp only [within, Function.update_apply]
  by_cases second : number = next + 1
  · simp [second]
  · by_cases isFirst : number = next
    · simp [isFirst]
    · rw [if_neg second, if_neg isFirst, if_neg second, if_neg second, if_neg isFirst, if_neg]
      omega

/-- An image that is not loaded is handed over when nothing of its own is filled. -/
theorem imageEntry_fails (fails : ¬ file.Loads) (isFresh : FreshFrom blocks next)
    (nothing : Without blocks id) :
    blocks.run (imageEntry file id buffer next).events = none := by
  have handedOver : ∀ rest, blocks.run (.pass buffer id :: rest) = none := fun rest =>
    Blocks.run_pass_of_nothing fun number => nothing number true
  have isFree := isFresh next (Nat.le_refl next)
  unfold imageEntry loadBmpFormFile
  split
  · exact handedOver _
  next accepted =>
    split
    · have stillNothing : ∀ number, Function.update blocks next (.allocated id false) number ≠
          .allocated id true := by
        intro number held
        rw [Function.update_apply] at held
        split at held
        · exact Bool.noConfusion (BlockStatus.allocated.inj held).2
        · exact nothing number true held
      simp only [if_true, List.cons_append, List.nil_append]
      rw [Blocks.run, Blocks.handle, isFree, Option.bind_some]
      exact Blocks.run_pass_of_nothing stillNothing
    next isRead =>
      split
      · simp [Blocks.run, Blocks.handle, isFree]
      next isAllocated =>
        simp only [not_or, Bool.not_eq_false] at accepted isAllocated
        exact absurd ⟨accepted.1, accepted.2.1, accepted.2.2, isRead, isAllocated⟩ fails

end Image

section Init

variable {config : Config} {outside : Outside} {memory : Memory} {ids : List OsdId}

/-- An entry with which nothing goes wrong frees all that it makes. -/
theorem initEntry_suits (buffer : Pointer) (suits : Suits config outside memory id)
    (isFresh : FreshFrom blocks next) :
    (initEntry config outside memory id buffer next).Leaves next blocks .freed ∧
      (initEntry config outside memory id buffer next).goesOn = passes config outside id := by
  unfold Suits at suits
  unfold initEntry passes
  cases kind : branch config id with
  | skip => exact ⟨leaves_nothing true, rfl⟩
  | privacyMask => exact ⟨leaves_nothing true, rfl⟩
  | null => exact ⟨leaves_nothing false, rfl⟩
  | dateTime => exact ⟨leaves_nothing _, rfl⟩
  | image =>
      rw [kind] at suits
      exact imageEntry_loads suits isFresh
  | text advance =>
      rw [kind] at suits
      obtain ⟨allocated, hasPath, isPlaced⟩ := suits
      have isFree := isFresh next (Nat.le_refl next)
      simp only [textEntry, allocated, fillText, hasPath, isPlaced, if_true, if_false]
      refine ⟨⟨?_, Nat.le_succ next⟩, trivial⟩
      rw [within_one]
      simp [Blocks.run, Blocks.handle, isFree]

/-- Any other entry is the end of the run, or leaves its block allocated. -/
theorem initEntry_fails (buffer : Pointer) (fails : ¬ Suits config outside memory id)
    (isFresh : FreshFrom blocks next) (nothing : Without blocks id) :
    blocks.run (initEntry config outside memory id buffer next).events = none ∨
      next < (initEntry config outside memory id buffer next).next ∧ ∃ filled,
        (initEntry config outside memory id buffer next).Leaves next blocks
          (.allocated id filled) := by
  unfold Suits at fails
  unfold initEntry
  cases kind : branch config id with
  | skip | privacyMask | null | dateTime =>
      rw [kind] at fails
      exact absurd trivial fails
  | image =>
      rw [kind] at fails
      exact Or.inl (imageEntry_fails fails isFresh nothing)
  | text advance =>
      rw [kind] at fails
      have isFree := isFresh next (Nat.le_refl next)
      simp only [textEntry]
      split
      next allocated =>
        by_cases isPlaced : placed config outside id advance = true
        · have noPath : memory.fontPath = none :=
            Classical.byContradiction fun hasPath => fails ⟨allocated, hasPath, isPlaced⟩
          refine Or.inl ?_
          simp [fillText, noPath, isPlaced, Blocks.run, Blocks.handle, isFree]
        · refine Or.inr ⟨Nat.lt_succ_self next, decide (memory.fontPath ≠ none), ?_,
            Nat.le_succ next⟩
          rw [within_one, if_neg isPlaced]
          by_cases noPath : memory.fontPath = none
          · simp [fillText, noPath, Blocks.run, Blocks.handle, isFree]
          · simp [fillText, noPath, Blocks.run, Blocks.handle, isFree]
      next notAllocated => exact Or.inl rfl

/-- What an entry makes of its blocks, if the run gets through it. -/
theorem initEntry_leaves {mid : Blocks OsdId} (isFresh : FreshFrom blocks next)
    (nothing : Without blocks id)
    (run : blocks.run (initEntry config outside memory id buffer next).events = some mid) :
    ∃ status, (initEntry config outside memory id buffer next).Leaves next blocks status ∧
      mid = within blocks next (initEntry config outside memory id buffer next).next status ∧
      ∀ other ≠ id, ∀ filled, status ≠ .allocated other filled := by
  by_cases suits : Suits config outside memory id
  · have leaves := (initEntry_suits buffer suits isFresh).1
    refine ⟨.freed, leaves, Option.some.inj (run.symm.trans leaves.runs), ?_⟩
    intro other differ filled held
    cases held
  · rcases initEntry_fails buffer suits isFresh nothing with stops | ⟨more, filled, leaves⟩
    · rw [stops] at run
      exact absurd run.symm (Option.some_ne_none mid)
    · refine ⟨_, leaves, Option.some.inj (run.symm.trans leaves.runs), ?_⟩
      intro other differ _ held
      exact differ (BlockStatus.allocated.inj held).1.symm

theorem not_owned_nil {owner : OsdId} (held : blocks number = .allocated owner filled) :
    ¬ blocks.Owned [] := by
  rintro ⟨last, run, freed⟩
  cases run
  exact freed number owner filled held

/-- A block that an entry has left allocated is not freed by the ones behind it. -/
theorem rounds_leak {owner : OsdId} (held : blocks number = .allocated owner filled)
    (below : number < next) (isFresh : FreshFrom blocks next)
    (nothing : ∀ id ∈ ids, Without blocks id) (distinct : ids.Nodup) :
    ¬ blocks.Owned (rounds config outside memory ids buffer next) := by
  induction ids generalizing blocks buffer next with
  | nil => exact not_owned_nil held
  | cons id ids induction =>
      obtain ⟨isNew, distinct⟩ := List.nodup_cons.mp distinct
      intro owned
      obtain ⟨mid, run, owned⟩ := Blocks.owned_append.mp owned
      obtain ⟨status, leaves, rfl, owns⟩ :=
        initEntry_leaves isFresh (nothing id List.mem_cons_self) run
      have stillHeld : within blocks next (initEntry config outside memory id buffer next).next
          status number = .allocated owner filled := (within_of_lt below).trans held
      split at owned
      · refine induction stillHeld (Nat.lt_of_lt_of_le below leaves.later)
          (freshFrom_within isFresh leaves.later) ?_ distinct owned
        intro other member
        have differ : other ≠ id := fun same => isNew (same ▸ member)
        exact without_within (owns other differ) (nothing other (List.mem_cons_of_mem id member))
      · exact not_owned_nil stillHeld owned

/-- Nothing goes wrong with an entry that the loop reaches. -/
def AllSuit (config : Config) (outside : Outside) (memory : Memory) : List OsdId → Prop
  | [] => True
  | id :: rest =>
      Suits config outside memory id ∧
        (passes config outside id = true → AllSuit config outside memory rest)

theorem rounds_owned (isFresh : FreshFrom blocks next) (nothing : ∀ id, Without blocks id)
    (distinct : ids.Nodup) :
    blocks.Owned (rounds config outside memory ids buffer next) ↔
      AllSuit config outside memory ids := by
  induction ids generalizing blocks buffer next with
  | nil =>
    exact ⟨fun _ => trivial, fun _ =>
      ⟨blocks, rfl, fun number owner => nothing owner number⟩⟩
  | cons id ids induction =>
      obtain ⟨isNew, distinct⟩ := List.nodup_cons.mp distinct
      by_cases suits : Suits config outside memory id
      · obtain ⟨leaves, goesOn⟩ := initEntry_suits buffer suits isFresh
        have stillNothing : ∀ other, Without (within blocks next
            (initEntry config outside memory id buffer next).next .freed) other :=
          fun other => without_within (fun filled held => by cases held) (nothing other)
        rw [rounds, Blocks.owned_append, leaves.runs, AllSuit, goesOn]
        cases isPassed : passes config outside id with
        | false =>
            constructor
            · intro _
              exact ⟨suits, fun same => absurd same Bool.false_ne_true⟩
            · intro _
              exact ⟨_, rfl, _, rfl, fun number owner => stillNothing owner number⟩
        | true =>
            have isFreshAfter : FreshFrom (within blocks next
                (initEntry config outside memory id buffer next).next .freed)
                (initEntry config outside memory id buffer next).next :=
              freshFrom_within isFresh leaves.later
            constructor
            · rintro ⟨mid, run, owned⟩
              cases run
              exact ⟨suits, fun _ => (induction isFreshAfter stillNothing distinct).mp owned⟩
            · rintro ⟨_, all⟩
              exact ⟨_, rfl, (induction isFreshAfter stillNothing distinct).mpr (all rfl)⟩
      · refine ⟨fun owned => ?_, fun all => absurd all.1 suits⟩
        obtain ⟨mid, run, owned⟩ := Blocks.owned_append.mp owned
        rcases initEntry_fails buffer suits isFresh (nothing id) with stops | ⟨more, filled, leaves⟩
        · rw [stops] at run
          exact absurd run.symm (Option.some_ne_none mid)
        · cases run.symm.trans leaves.runs
          have held : within blocks next (initEntry config outside memory id buffer next).next
              (.allocated id filled) next = .allocated id filled := within_self more
          exfalso
          split at owned
          · refine rounds_leak held more (freshFrom_within isFresh leaves.later) ?_ distinct owned
            intro other member
            refine without_within (fun _ held => isNew ?_) (nothing other)
            exact (BlockStatus.allocated.inj held).1 ▸ member
          · exact not_owned_nil held owned

/-- In an order of the indices an entry is reached when all smaller ones let the loop pass. -/
theorem allSuit_iff (sorted : ids.Pairwise (· < ·)) : AllSuit config outside memory ids ↔
    ∀ id ∈ ids, (∀ earlier ∈ ids, earlier < id → passes config outside earlier = true) →
      Suits config outside memory id := by
  induction ids with
  | nil => simp [AllSuit]
  | cons first rest induction =>
      obtain ⟨isFirst, sorted⟩ := List.pairwise_cons.mp sorted
      rw [AllSuit, induction sorted]
      constructor
      · rintro ⟨suits, rest⟩ id member passed
        rcases List.mem_cons.mp member with rfl | inRest
        · exact suits
        · refine rest (passed first List.mem_cons_self (isFirst id inRest)) id inRest ?_
          intro earlier earlierInRest
          exact passed earlier (List.mem_cons_of_mem first earlierInRest)
      · intro all
        constructor
        · refine all first List.mem_cons_self fun earlier member less => ?_
          rcases List.mem_cons.mp member with rfl | inRest
          · exact absurd less (lt_irrefl earlier)
          · exact absurd less (lt_asymm (isFirst earlier inRest))
        · intro firstPasses id inRest passed
          refine all id (List.mem_cons_of_mem first inRest) fun earlier member less => ?_
          rcases List.mem_cons.mp member with rfl | earlierInRest
          · exact firstPasses
          · exact passed earlier earlierInRest less

variable (config outside memory)

theorem rkOsdInit_owned : Blocks.start.Owned (rkOsdInit config outside memory) ↔
    ∀ id, (∀ earlier, earlier < id → passes config outside earlier = true) →
      Suits config outside memory id := by
  have nothing : ∀ id, Without Blocks.start id := by
    intro id number filled held
    cases held
  have isFresh : FreshFrom Blocks.start 0 := fun _ _ => rfl
  rw [rkOsdInit, rounds_owned isFresh nothing (List.nodup_finRange 8),
    allSuit_iff (List.pairwise_lt_finRange 8)]
  simp only [List.mem_finRange, true_imp_iff]

end Init

section Reused

def twoImages : Config where
  entries id :=
    { osdType := if id < 2 then some "image".toList else none
      enabled := 1
      style := []
      position := fun _ => 0
      maskSize := fun _ => 0
      bitmap := some fun _ => 64
      text := .unconverted
      time := 0 }
  normalized := fun _ => 1080
  main := fun _ => 1080
  sub := fun _ => 576
  jpeg := fun _ => 1080
  enableVenc0 := true
  enableVenc1 := true
  enableJpeg := true
  fontColor := none
  fontSize := 32

def plainScale : Outside where
  scale value frame normalized := (value * frame).tdiv normalized
  threadCreated _ := true
  signalCreated _ := true

def secondMissing : Memory where
  image id :=
    { opens := id ≠ 1
      fileType := 0x4d42
      biBitCount := 32
      bfOffBits := 54
      dataAllocated := true
      read := 16384
      bufferAllocated := true }
  textAllocated _ := true
  fontPath := none

/-- The freed buffer of the first image is handed over and freed again for the second. -/
theorem buffer_reused :
    rkOsdInit twoImages plainScale secondMissing =
        [.malloc 0 0, .malloc 1 0, .write (.block 1), .fill (.block 1) 0, .free (.block 0),
          .pass (.block 1) 0, .free (.block 1), .pass (.block 1) 1, .free (.block 1)] ∧
      ¬ Blocks.start.Owned (rkOsdInit twoImages plainScale secondMissing) := by
  have events : rkOsdInit twoImages plainScale secondMissing =
      [.malloc 0 0, .malloc 1 0, .write (.block 1), .fill (.block 1) 0, .free (.block 0),
        .pass (.block 1) 0, .free (.block 1), .pass (.block 1) 1, .free (.block 1)] := by
    decide
  refine ⟨events, ?_⟩
  rw [events]
  rintro ⟨last, run, _⟩
  have stops : ((Blocks.start : Blocks OsdId).run _).isSome = true := Option.isSome_of_eq_some run
  exact absurd stops (by decide)

end Reused

end Rkipc.Osd.Buffers
