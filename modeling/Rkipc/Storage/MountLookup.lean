import Rkipc.Storage.MountPieces

namespace Rkipc.Storage.Mounts

open Ini Libc Listener

/-! When the lookups find the line they look for. -/

section Clear

/-- No line before the one that is asked for holds the key in one of its pieces. -/
def Untouched (isAsked : Text → Bool) (key content : Text) : Prop :=
  ∀ line ∈ (lines content).takeWhile (!isAsked ·), ∀ text ∈ cut line, ¬ holds key text = true

/-- No piece holds the path, where no line has it as its mount point; else the first piece that
does is of the first such line, and its words fit and begin with the device. -/
def DevClear (room : Room) (before : Attr) (path strLine content : Text) : Prop :=
  (wanted (isMountedAt path) device content = none ∧
      ∀ piece ∈ tested ⟨0, strLine⟩ 0 content, ¬ hasKey path piece = true) ∨
    ∃ line number, first (isMountedAt path) content = some (line, number) ∧
      Untouched (isMountedAt path) path content ∧
      ∃ text, (cut line).find? (holds path) = some text ∧
        fits room (cString nul text) = true ∧
        device line = some ((words (cString nul text))[0]?.getD before.dev)

/-- Where no mount point is to be found, what is between the blanks of the first piece with
the device does not fit; else that piece is of the first line of the device and has its mount
point between the blanks. -/
def PathClear (pathLen : Nat) (dev strLine content : Text) : Prop :=
  (wanted (isOfDevice dev) (fittingMountPoint pathLen) content = none ∧
      ∀ piece, (tested ⟨0, strLine⟩ 0 content).find? (hasKey dev) = some piece →
        ∃ path, between piece.text = some path ∧ pathFits pathLen path = false) ∨
    ∃ line number, first (isOfDevice dev) content = some (line, number) ∧
      Untouched (isOfDevice dev) dev content ∧
      ∃ text path, (cut line).find? (holds dev) = some text ∧
        between text = some path ∧ fittingMountPoint pathLen line = some path

end Clear

section Search

variable {isAsked : Text → Bool} {value : Text → Option Text} {key content line text : Text}
  {number : Nat} {all : List Text}

theorem find?_cutEntry (entry : Text × Nat) :
    (cutEntry entry).find? (hasKey key) =
      ((cut entry.1).find? (holds key)).map (Piece.mk entry.2) :=
  List.find?_map

theorem le_line_of_find? {piece : Piece}
    (isFound : ((all.zipIdx number).flatMap cutEntry).find? (hasKey key) = some piece) :
    number ≤ piece.line := by
  obtain ⟨entry, isEntry, isIn⟩ := List.mem_flatMap.mp (List.mem_of_find?_eq_some isFound)
  obtain ⟨text, -, rfl⟩ := List.mem_map.mp isIn
  exact List.le_snd_of_mem_zipIdx isEntry

theorem find?_pieces_iff
    (isFirst : (all.zipIdx number).find? (isAsked ∘ Prod.fst) = some (line, n)) :
    ((all.zipIdx number).flatMap cutEntry).find? (hasKey key) = some ⟨n, text⟩ ↔
      (∀ earlier ∈ all.takeWhile (!isAsked ·), ∀ text ∈ cut earlier, ¬ holds key text = true) ∧
        (cut line).find? (holds key) = some text := by
  induction all generalizing number with
  | nil => cases isFirst
  | cons head all induction =>
      rw [List.zipIdx_cons] at isFirst ⊢
      rw [List.flatMap_cons, List.find?_append, find?_cutEntry]
      by_cases isHead : isAsked head = true
      · have isHead' : (isAsked ∘ Prod.fst) (head, number) = true := isHead
        rw [List.find?_cons_of_pos isHead'] at isFirst
        cases isFirst
        rw [List.takeWhile_cons_of_neg (by rw [isHead]; decide)]
        cases isFound : (cut line).find? (holds key) with
        | none =>
            refine iff_of_false (fun isLater => ?_) (fun both => nomatch both.2)
            rw [Option.map_none, Option.none_or] at isLater
            have isGreater : n + 1 ≤ n := le_line_of_find? isLater
            exact Nat.not_succ_le_self _ isGreater
        | some found =>
            rw [Option.map_some, Option.some_or, Option.some_inj, Option.some_inj,
              Piece.mk.injEq]
            simp only [true_and, List.not_mem_nil, false_implies, implies_true]
      · have notHead : ¬ (isAsked ∘ Prod.fst) (head, number) = true := isHead
        rw [List.find?_cons_of_neg notHead] at isFirst
        rw [List.takeWhile_cons_of_pos (by rw [Bool.not_eq_true] at isHead; rw [isHead]; rfl),
          List.forall_mem_cons]
        cases isFound : (cut head).find? (holds key) with
        | none =>
            have noneHolds : ∀ text ∈ cut head, ¬ holds key text = true :=
              fun text isIn => List.find?_eq_none.mp isFound text isIn
            rw [Option.map_none, Option.none_or, induction isFirst, and_assoc]
            exact (and_iff_right noneHolds).symm
        | some found =>
            refine iff_of_false (fun same => ?_) (fun both => ?_)
            · have isLater := List.le_snd_of_mem_zipIdx (List.mem_of_find?_eq_some isFirst)
              rw [Option.map_some, Option.some_or, Option.some_inj, Piece.mk.injEq] at same
              exact Nat.not_succ_le_self _ (same.1 ▸ isLater)
            · exact both.1.1 found (List.mem_of_find?_eq_some isFound)
                (List.find?_some isFound)

theorem tested_of_first {strLine : Piece} (isFirst : first isAsked content = some (line, number)) :
    tested strLine 0 content = ((lines content).zipIdx).flatMap cutEntry := by
  have notNil : content ≠ [] := fun isNil => by
    rw [isNil] at isFirst
    cases isFirst
  rw [tested, if_neg notNil, pieces_eq]

theorem find?_tested_iff {strLine : Piece}
    (isFirst : first isAsked content = some (line, number)) :
    (tested strLine 0 content).find? (hasKey key) = some ⟨number, text⟩ ↔
      Untouched isAsked key content ∧ (cut line).find? (holds key) = some text := by
  rw [tested_of_first isFirst]
  exact find?_pieces_iff isFirst

theorem wanted_eq_some_iff {found : Nat × Text} :
    wanted isAsked value content = some found ↔
      ∃ line, first isAsked content = some (line, found.1) ∧ value line = some found.2 := by
  rw [wanted, Option.bind_eq_some_iff]
  refine ⟨fun ⟨entry, isFirst, isValue⟩ => ?_, fun ⟨line, isFirst, isValue⟩ => ?_⟩
  · obtain ⟨text, isText, rfl⟩ := Option.map_eq_some_iff.mp isValue
    exact ⟨entry.1, isFirst, isText⟩
  · exact ⟨_, isFirst, Option.map_eq_some_iff.mpr ⟨_, isValue, rfl⟩⟩

variable {use : Text → Lookup α} {isFailure : Int → Prop} {get : α → Text} {strLine : Text}

/-- What a lookup of this kind comes to is right in just two cases. -/
theorem right_lookup_iff (isFail : isFailure (-1)) :
    Right isFailure get (wanted isAsked value content) (lookup use key strLine content) ↔
      (wanted isAsked value content = none ∧
          ∀ piece, (tested ⟨0, strLine⟩ 0 content).find? (hasKey key) = some piece →
            ∃ ret, use piece.text = .fails ret ∧ isFailure ret) ∨
        ∃ line number, first isAsked content = some (line, number) ∧
          Untouched isAsked key content ∧
          ∃ text found, (cut line).find? (holds key) = some text ∧
            use text = .found found ∧ value line = some (get found) := by
  have found_iff : (∃ line number, first isAsked content = some (line, number) ∧
        Untouched isAsked key content ∧
        ∃ text found, (cut line).find? (holds key) = some text ∧
          use text = .found found ∧ value line = some (get found)) ↔
      ∃ piece found, (tested ⟨0, strLine⟩ 0 content).find? (hasKey key) = some piece ∧
        use piece.text = .found found ∧
          wanted isAsked value content = some (piece.line, get found) := by
    constructor
    · rintro ⟨line, number, isFirst, untouched, text, found, isFound, isUse, isValue⟩
      exact ⟨⟨number, text⟩, found, (find?_tested_iff isFirst).mpr ⟨untouched, isFound⟩, isUse,
        wanted_eq_some_iff.mpr ⟨line, isFirst, isValue⟩⟩
    · rintro ⟨piece, found, isPiece, isUse, isWanted⟩
      obtain ⟨line, isFirst, isValue⟩ := wanted_eq_some_iff.mp isWanted
      obtain ⟨untouched, isFound⟩ := (find?_tested_iff isFirst).mp isPiece
      exact ⟨line, piece.line, isFirst, untouched, piece.text, found, isFound, isUse, isValue⟩
  rw [lookup, search_eq, found_iff]
  cases isPiece : (tested ⟨0, strLine⟩ 0 content).find? (hasKey key) with
  | none => simp [Right, isFail]
  | some piece =>
      rw [Option.elim_some]
      cases isUse : use piece.text with
      | undefined => simp [Right, Lookup.map, isUse]
      | fails ret => simp [Right, Lookup.map, isUse, and_comm]
      | found value' => simp [Right, Lookup.map, isUse]

end Search

section Lookups

variable {room : Room} {before : Attr} {pathLen : Nat} {path dev strLine content text : Text}
  {attr : Attr} {ret : Int}

theorem scan_eq_found_iff :
    (∃ attr, scan room before text = .found attr ∧ value = some attr.dev) ↔
      fits room (cString nul text) = true ∧
        value = some ((words (cString nul text))[0]?.getD before.dev) := by
  unfold scan
  dsimp only
  split
  next isFit =>
    refine ⟨fun ⟨attr, same, isDev⟩ => ?_, fun ⟨_, isDev⟩ => ⟨_, rfl, isDev⟩⟩
    cases same
    exact ⟨isFit, isDev⟩
  next notFit =>
    exact iff_of_false (fun ⟨_, same, _⟩ => nomatch same) (fun both => notFit both.1)

theorem scan_ne_fails : scan room before text ≠ .fails ret := by
  unfold scan
  dsimp only
  split <;> nofun

theorem copyPath_eq_found_iff :
    copyPath pathLen text = .found path ↔
      between text = some path ∧ pathFits pathLen path = true := by
  rw [copyPath]
  cases isBetween : between text with
  | none => exact iff_of_false (fun same => nomatch same) (fun both => nomatch both.1)
  | some found =>
      rw [Option.elim_some, Option.some_inj]
      split
      next isFit =>
        refine ⟨fun same => ?_, fun both => both.1 ▸ rfl⟩
        cases same
        exact ⟨rfl, isFit⟩
      next notFit =>
        refine iff_of_false (fun same => nomatch same) (fun both => ?_)
        exact notFit (both.1 ▸ both.2)

theorem copyPath_fails_iff :
    (∃ ret, copyPath pathLen text = .fails ret ∧ ret < 0) ↔
      ∃ path, between text = some path ∧ pathFits pathLen path = false := by
  rw [copyPath]
  cases isBetween : between text with
  | none => exact iff_of_false (fun ⟨_, same, _⟩ => nomatch same) (fun ⟨_, same, _⟩ => nomatch same)
  | some found =>
      rw [Option.elim_some]
      split
      next isFit =>
        refine iff_of_false (fun ⟨_, same, _⟩ => nomatch same) (fun ⟨path, same, notFit⟩ => ?_)
        cases same
        rw [isFit] at notFit
        cases notFit
      next notFit =>
        exact iff_of_true ⟨-2, rfl, by decide⟩ ⟨found, rfl, Bool.eq_false_iff.mpr notFit⟩

theorem devRight_iff :
    DevRight room before path strLine content ↔ DevClear room before path strLine content := by
  rw [DevRight, getMountDev, DevClear]
  refine Iff.trans (right_lookup_iff rfl) (or_congr (and_congr_right fun _ => ?_) ?_)
  · rw [← List.find?_eq_none, Option.eq_none_iff_forall_ne_some]
    refine forall_congr' fun piece => imp_congr_right fun _ => ?_
    exact iff_of_false (fun ⟨_, isFails, _⟩ => scan_ne_fails isFails) id
  · refine exists_congr fun line => exists_congr fun number => and_congr_right fun _ =>
      and_congr_right fun _ => exists_congr fun text => ?_
    rw [exists_and_left, scan_eq_found_iff]

theorem pathRight_iff :
    PathRight pathLen dev strLine content ↔ PathClear pathLen dev strLine content := by
  rw [PathRight, getMountPath, PathClear]
  refine Iff.trans (right_lookup_iff (by decide)) (or_congr (and_congr_right fun _ => ?_) ?_)
  · exact forall_congr' fun piece => imp_congr_right fun _ => copyPath_fails_iff
  · refine exists_congr fun line => exists_congr fun number => and_congr_right fun _ =>
      and_congr_right fun _ => exists_congr fun text => exists_congr fun path =>
        and_congr_right fun _ => ?_
    rw [copyPath_eq_found_iff, and_assoc]
    refine and_congr_right fun _ => and_iff_right_of_imp fun isFitting => ?_
    exact (Option.filter_eq_some_iff.mp isFitting).2

/-- The lookups are right in the clear cases and in no others. -/
theorem looksUp_iff (room : Room) (before : Attr) (pathLen : Nat)
    (path dev strLine content : Text) :
    (DevRight room before path strLine content ↔ DevClear room before path strLine content) ∧
      (PathRight pathLen dev strLine content ↔ PathClear pathLen dev strLine content) :=
  ⟨devRight_iff, pathRight_iff⟩

def longerFirst : Text :=
  "/dev/sda10 /userdata2 vfat rw 0 0\n/dev/sda1 /userdata vfat rw 0 0\n".toList

/-- A device and a mount point that go on further are taken for those that are looked for. -/
theorem longer_chosen :
    ¬ DevRight ⟨64, 64, 128⟩ ⟨[], [], []⟩ "/userdata".toList [] longerFirst ∧
      ¬ PathRight rkipcMaxFilePathLen "/dev/sda1".toList [] longerFirst := by
  constructor
  · have isFound : getMountDev ⟨64, 64, 128⟩ ⟨[], [], []⟩ "/userdata".toList [] longerFirst =
        .found (0, ⟨"/dev/sda10".toList, "vfat".toList, "rw".toList⟩) := by decide
    have isWanted : wanted (isMountedAt "/userdata".toList) device longerFirst =
        some (1, "/dev/sda1".toList) := by decide
    rw [DevRight, isFound, isWanted]
    intro same
    cases same
  · have isFound : getMountPath rkipcMaxFilePathLen "/dev/sda1".toList [] longerFirst =
        .found (0, "/userdata2".toList) := by decide
    have isWanted : wanted (isOfDevice "/dev/sda1".toList)
        (fittingMountPoint rkipcMaxFilePathLen) longerFirst =
          some (1, "/userdata".toList) := by decide
    rw [PathRight, isFound, isWanted]
    intro same
    cases same

end Lookups

end Rkipc.Storage.Mounts
