import Rkipc.Ini.DumpLoad
import Rkipc.Storage.Mounts

namespace Rkipc.Storage.Mounts

open Ini Libc Listener

/-! How `fgets` cuts the lines of a file into pieces. -/

section Pieces

variable {content text rest line body key strLine : Text} {number count : Nat}

theorem takeLine_append (count : Nat) (content : Text) :
    (takeLine count content).1 ++ (takeLine count content).2 = content := by
  induction count generalizing content with
  | zero => rfl
  | succ count induction =>
      cases content with
      | nil => rfl
      | cons char content =>
          rw [takeLine]
          split
          next => rfl
          next => exact congrArg (char :: ·) (induction content)

theorem takeLine_short (count : Nat) (content : Text)
    (noNewline : (takeLine count content).1.getLast? ≠ some '\n')
    (short : (takeLine count content).1.length < count) : (takeLine count content).2 = [] := by
  induction count generalizing content with
  | zero => exact absurd short (Nat.not_lt_zero _)
  | succ count induction =>
      cases content with
      | nil => rfl
      | cons char content =>
          rw [takeLine] at noNewline short ⊢
          split at noNewline
          next isNewline => exact absurd (congrArg some isNewline) noNewline
          next isOther =>
            rw [if_neg isOther] at short ⊢
            refine induction content (fun isLast => noNewline ?_) (Nat.lt_of_succ_lt_succ short)
            have notNil : (takeLine count content).1 ≠ [] := fun isNil => by
              rw [isNil] at isLast
              cases isLast
            rw [List.getLast?_cons_of_ne_nil notNil]
            exact isLast

theorem takeLine_long (free : '\n' ∉ body) (long : count ≤ body.length) :
    takeLine count (body ++ rest) = (body.take count, body.drop count ++ rest) := by
  induction count generalizing body with
  | zero => rfl
  | succ count induction =>
      cases body with
      | nil => exact absurd long (Nat.not_succ_le_zero _)
      | cons char body =>
          obtain ⟨isChar, free⟩ := not_or.mp (mt List.mem_cons.mpr free)
          rw [List.cons_append, takeLine, if_neg (Ne.symm isChar),
            induction free (Nat.le_of_succ_le_succ long)]
          rfl

theorem fgets_of_ne_nil (notNil : content ≠ []) :
    fgets maxStrlineLen content = some (takeLine 1023 content) := by
  rw [fgets, if_neg (by decide), if_neg notNil]
  rfl

theorem append_of_read (isRead : fgets maxStrlineLen content = some (text, rest)) :
    text ++ rest = content := by
  cases content with
  | nil => cases isRead
  | cons char content =>
      rw [fgets_of_ne_nil (List.cons_ne_nil _ _), Option.some_inj] at isRead
      have rejoined := takeLine_append 1023 (char :: content)
      rwa [isRead] at rejoined

theorem length_rest (isRead : fgets maxStrlineLen content = some (text, rest)) :
    rest.length < content.length := by
  cases content with
  | nil => cases isRead
  | cons char content =>
      rw [← append_of_read isRead, List.length_append]
      have notNil : text ≠ [] := by
        rw [fgets_of_ne_nil (List.cons_ne_nil _ _), Option.some_inj, takeLine] at isRead
        split at isRead
        next => exact (Prod.mk.inj isRead).1 ▸ List.cons_ne_nil _ _
        next => exact (Prod.mk.inj isRead).1 ▸ List.cons_ne_nil _ _
      exact Nat.lt_add_of_pos_left (List.length_pos_of_ne_nil notNil)

/-- The strings that `fgets` reads one after another. -/
def pieces (number : Nat) (content : Text) : List Piece :=
  match _ : fgets maxStrlineLen content with
  | none => []
  | some (text, rest) => ⟨number, text⟩ :: pieces (number + text.count '\n') rest
termination_by content.length
decreasing_by exact length_rest ‹_›

theorem pieces_nil : pieces number [] = [] := by
  rw [pieces]
  rfl

theorem pieces_of_read (isRead : fgets maxStrlineLen content = some (text, rest)) :
    pieces number content = ⟨number, text⟩ :: pieces (number + text.count '\n') rest := by
  rw [pieces]
  split
  next atEnd => rw [isRead] at atEnd; cases atEnd
  next text' rest' isRead' =>
    rw [isRead] at isRead'
    cases isRead'
    rfl

theorem rest_of_feof (isRead : fgets maxStrlineLen content = some (text, rest))
    (atEnd : feof text = true) : rest = [] := by
  cases content with
  | nil => cases isRead
  | cons char content =>
      rw [fgets_of_ne_nil (List.cons_ne_nil _ _), Option.some_inj] at isRead
      have short := takeLine_short 1023 (char :: content)
      rw [isRead] at short
      rw [feof, Bool.and_eq_true, decide_eq_true_eq, decide_eq_true_eq] at atEnd
      exact short atEnd.1 atEnd.2

def hasKey (key : Text) (piece : Piece) : Bool := holds key piece.text

/-- What the loop looks at. -/
def tested (strLine : Piece) (number : Nat) (content : Text) : List Piece :=
  if content = [] then [strLine] else pieces number content

theorem searchLoop_eq {strLine : Piece} (fuel : Nat) (enough : content.length < fuel) :
    searchLoop key fuel strLine number content =
      (tested strLine number content).find? (hasKey key) := by
  induction fuel generalizing content strLine number with
  | zero => exact absurd enough (Nat.not_lt_zero _)
  | succ fuel induction =>
      rw [searchLoop]
      cases isRead : fgets maxStrlineLen content with
      | none =>
          have isNil : content = [] := by
            by_contra notNil
            rw [fgets_of_ne_nil notNil] at isRead
            cases isRead
          rw [tested, if_pos isNil, List.find?_singleton]
          rfl
      | some read =>
          obtain ⟨text, rest⟩ := read
          have notNil : content ≠ [] := fun isNil => by
            rw [isNil] at isRead
            cases isRead
          rw [tested, if_neg notNil, pieces_of_read isRead]
          dsimp only
          split
          next isHeld =>
            rw [List.find?_cons_of_pos (show hasKey key ⟨number, text⟩ = true from isHeld)]
          next isOther =>
            have notHeld : ¬ hasKey key ⟨number, text⟩ = true := isOther
            rw [List.find?_cons_of_neg notHeld]
            -- A last piece that is looked at again does not hold the key either.
            have again : (tested ⟨number, text⟩ (number + text.count '\n') rest).find?
                (hasKey key) =
                  (pieces (number + text.count '\n') rest).find? (hasKey key) := by
              rw [tested]
              split
              next isNil => rw [isNil, pieces_nil, List.find?_cons_of_neg notHeld]
              next => rfl
            split
            next atEnd => rw [rest_of_feof isRead atEnd, pieces_nil, List.find?_nil]
            next =>
              rw [induction (Nat.lt_of_lt_of_le (length_rest isRead) (Nat.lt_succ_iff.mp enough)),
                again]

theorem search_eq :
    search key strLine content =
      (tested ⟨0, strLine⟩ 0 content).find? (hasKey key) :=
  searchLoop_eq _ (Nat.lt_succ_self _)

/-- The strings of one line. -/
def cut (line : Text) : List Text := (pieces 0 line).map Piece.text

def cutEntry (entry : Text × Nat) : List Piece := (cut entry.1).map (Piece.mk entry.2)

theorem map_text_pieces (other : Nat) :
    (pieces number content).map Piece.text = (pieces other content).map Piece.text := by
  induction number, content using pieces.induct generalizing other with
  | case1 number content atEnd =>
      rw [pieces, pieces]
      split
      next => rfl
      next isRead => rw [atEnd] at isRead; cases isRead
  | case2 number content text rest isRead induction =>
      rw [pieces_of_read isRead, pieces_of_read isRead, List.map_cons, List.map_cons,
        induction (other + text.count '\n')]

theorem lines_line (free : '\n' ∉ body) :
    lines (body ++ '\n' :: rest) = (body ++ ['\n']) :: lines rest := by
  induction body with
  | nil => rw [List.nil_append, lines, if_pos rfl, List.nil_append]
  | cons char body induction =>
      obtain ⟨isChar, free⟩ := not_or.mp (mt List.mem_cons.mpr free)
      rw [List.cons_append, lines, if_neg (Ne.symm isChar), induction free]
      rfl

theorem lines_last (free : '\n' ∉ body) (notNil : body ≠ []) : lines body = [body] := by
  induction body with
  | nil => exact absurd rfl notNil
  | cons char body induction =>
      obtain ⟨isChar, free⟩ := not_or.mp (mt List.mem_cons.mpr free)
      rw [lines, if_neg (Ne.symm isChar)]
      by_cases isNil : body = []
      · subst isNil
        rfl
      · rw [induction free isNil]

theorem pieces_line (free : '\n' ∉ body) :
    pieces number (body ++ '\n' :: rest) =
      pieces number (body ++ ['\n']) ++ pieces (number + 1) rest := by
  induction length : body.length using Nat.strongRecOn generalizing body with
  | ind size induction =>
  have notNil (rest : Text) : body ++ '\n' :: rest ≠ [] :=
    List.append_ne_nil_of_right_ne_nil _ (List.cons_ne_nil _ _)
  by_cases short : body.length + 1 ≤ 1023
  · have isRead (rest : Text) :
        fgets maxStrlineLen (body ++ '\n' :: rest) = some (body ++ ['\n'], rest) := by
      rw [fgets_of_ne_nil (notNil rest), takeLine_newline free rest short]
    have once : (body ++ ['\n']).count '\n' = 1 := by
      rw [List.count_append, List.count_eq_zero_of_not_mem free]
      rfl
    rw [pieces_of_read (isRead rest), pieces_of_read (isRead []), pieces_nil, once]
    rfl
  · have long : 1023 ≤ body.length := by omega
    have isRead (rest : Text) : fgets maxStrlineLen (body ++ '\n' :: rest) =
        some (body.take 1023, body.drop 1023 ++ '\n' :: rest) := by
      rw [fgets_of_ne_nil (notNil rest), takeLine_long free long]
    have freeRest : '\n' ∉ body.drop 1023 := mt List.mem_of_mem_drop free
    have never : (body.take 1023).count '\n' = 0 :=
      List.count_eq_zero_of_not_mem (mt List.mem_of_mem_take free)
    have less : (body.drop 1023).length < size := by
      rw [← length, List.length_drop]
      omega
    rw [pieces_of_read (isRead rest), pieces_of_read (isRead []), never, Nat.add_zero,
      induction _ less freeRest rfl, List.cons_append]

theorem pieces_of_line {line : Text} (isLine : '\n' ∉ line.dropLast) :
    pieces number line = cutEntry (line, number) := by
  have numbers (piece : Piece) (isIn : piece ∈ pieces number line) : piece.line = number := by
    induction number, line using pieces.induct with
    | case1 number line atEnd =>
        rw [pieces] at isIn
        split at isIn
        next => exact absurd isIn List.not_mem_nil
        next isRead => rw [atEnd] at isRead; cases isRead
    | case2 number line text rest isRead induction =>
        rw [pieces_of_read isRead] at isIn
        obtain rfl | isIn := List.mem_cons.mp isIn
        · rfl
        · cases rest with
          | nil =>
              rw [pieces_nil] at isIn
              exact absurd isIn List.not_mem_nil
          | cons char rest =>
              rw [← append_of_read isRead,
                List.dropLast_append_of_ne_nil (List.cons_ne_nil _ _), List.mem_append,
                not_or] at isLine
              rw [List.count_eq_zero_of_not_mem isLine.1, Nat.add_zero] at isIn induction
              exact induction isLine.2 isIn
  rw [cutEntry, cut, map_text_pieces number, List.map_map]
  conv_lhs => rw [← List.map_id (pieces number line)]
  exact List.map_congr_left fun piece isIn => congrArg (Piece.mk · piece.text) (numbers piece isIn)

theorem pieces_eq :
    pieces number content = ((lines content).zipIdx number).flatMap cutEntry := by
  induction length : content.length using Nat.strongRecOn generalizing content number with
  | ind size induction =>
  by_cases newline : '\n' ∈ content
  · obtain ⟨body, rest, rfl, free⟩ := List.eq_append_cons_of_mem newline
    have isLine : '\n' ∉ (body ++ ['\n']).dropLast := by rwa [List.dropLast_concat]
    have less : rest.length < size := by
      rw [← length, List.length_append, List.length_cons]
      omega
    rw [lines_line free, List.zipIdx_cons, List.flatMap_cons, pieces_line free,
      pieces_of_line isLine, induction _ less rfl]
  · by_cases isNil : content = []
    · rw [isNil, pieces_nil]
      rfl
    · rw [lines_last newline isNil, pieces_of_line (mt List.mem_of_mem_dropLast newline)]
      exact (List.append_nil _).symm

end Pieces

end Rkipc.Storage.Mounts
