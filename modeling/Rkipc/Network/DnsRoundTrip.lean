import Rkipc.Libc.Store
import Rkipc.Network.Getters

namespace Rkipc.Network

open Libc

/-! The two name servers as they are written and as they are read. -/

section Source

/-- The bytes that `net_stringcopy` writes for a size that is not 0. -/
def copied : Nat → List UInt8 → List UInt8
  | 0, _ => []
  | 1, _ => [0]
  | _ + 2, [] => [0]
  | size + 2, byte :: src => byte :: copied (size + 1) src

/-- Into an array from `pos` on, nothing when a byte goes behind the array; the number is the
length of the string, cut or not. -/
def netStringcopy (array : List UInt8) (pos : Nat) (src : List UInt8) (size : Nat) :
    Option (List UInt8 × Nat) :=
  if size = 0 then some (array, src.length)
  else (store array pos (copied size src)).map fun array => (array, src.length)

def reqLen : Nat := 64

/-- `pos += net_stringcopy(&buf[pos], piece, pos < req_len ? req_len - pos : 0)` for one piece
after the other. -/
def assemble : List (List UInt8) → Nat → List UInt8 → Option (List UInt8)
  | [], _, buf => some buf
  | piece :: pieces, pos, buf =>
      (netStringcopy buf pos piece (if pos < reqLen then reqLen - pos else 0)).bind
        fun (buf, count) => assemble pieces (pos + count) buf

/-- The file that `rk_network_dns_set` writes; `garbage` is what `malloc` gives. -/
def rkNetworkDnsSet (garbage : Fin reqLen → UInt8) (dns dns2 : List UInt8) :
    Option (List UInt8) :=
  (assemble [chars "nameserver ", dns, [newline], chars "nameserver ", dns2, [newline]] 0
    (List.ofFn garbage)).map cString

end Source

/-- One to three digits. -/
structure Part where
  digits : List UInt8
  notNil : digits ≠ []
  short : digits.length ≤ 3
  isDigit : ∀ byte ∈ digits, 0x30 ≤ byte ∧ byte ≤ 0x39

def dot : UInt8 := 0x2e

structure DottedQuad where
  first : Part
  second : Part
  third : Part
  fourth : Part

def DottedQuad.text (quad : DottedQuad) : List UInt8 :=
  quad.first.digits ++ dot :: quad.second.digits ++ dot :: quad.third.digits ++
    dot :: quad.fourth.digits

def resolvConf (dns dns2 : List UInt8) : List UInt8 :=
  chars "nameserver " ++ dns ++ [newline] ++ chars "nameserver " ++ dns2 ++ [newline]

section Copying

variable {src front back piece : List UInt8} {pieces : List (List UInt8)} {size : Nat}

theorem copied_eq (fits : src.length < size) : copied size src = src ++ [0] := by
  induction src generalizing size with
  | nil =>
      match size, fits with
      | 1, _ => rfl
      | size + 2, _ => rfl
  | cons byte src induction =>
      match size, fits with
      | size + 2, fits =>
          rw [copied, induction (Nat.lt_of_succ_lt_succ fits)]
          rfl

theorem assemble_cons (isFront : front.length + back.length = reqLen)
    (fits : front.length + piece.length < reqLen) :
    assemble (piece :: pieces) front.length (front ++ back) =
      assemble pieces (front ++ piece).length
        (front ++ piece ++ 0 :: back.drop (piece.length + 1)) := by
  have size : (if front.length < reqLen then reqLen - front.length else 0) = back.length := by
    rw [if_pos (by omega)]
    omega
  have copies : netStringcopy (front ++ back) front.length piece back.length =
      some (front ++ piece ++ 0 :: back.drop (piece.length + 1), piece.length) := by
    rw [netStringcopy, if_neg (by omega), copied_eq (by omega), store_append, List.length_append,
      List.length_singleton, if_pos (by omega), Option.map_some, ← List.append_assoc,
      List.append_assoc (front ++ piece), List.singleton_append]
  rw [assemble, size, copies, Option.bind_some, List.length_append]

theorem assemble_eq (front back : List UInt8) (pieces : List (List UInt8))
    (isFront : front.length + back.length = reqLen)
    (fits : front.length + pieces.flatten.length < reqLen) :
    ∃ rest, assemble pieces front.length (front ++ back) =
        some (front ++ pieces.flatten ++ rest) ∧
      (pieces ≠ [] ∨ back.head? = some 0 → rest.head? = some 0) := by
  induction pieces generalizing front back with
  | nil =>
      refine ⟨back, ?_, fun ends => ends.resolve_left fun notNil => notNil rfl⟩
      rw [assemble, List.flatten_nil, List.append_nil]
  | cons piece pieces induction =>
      rw [List.flatten_cons, List.length_append] at fits
      obtain ⟨rest, assembled, ends⟩ := induction (front ++ piece)
        (0 :: back.drop (piece.length + 1))
        (by simp only [List.length_append, List.length_cons, List.length_drop]; omega)
        (by rw [List.length_append]; omega)
      refine ⟨rest, ?_, fun _ => ends (.inr rfl)⟩
      rw [assemble_cons isFront (by omega), assembled, List.flatten_cons, List.append_assoc front]

end Copying

section Reading

variable {line text tail buf : List UInt8}

theorem fgetsLines_line {seen file : List UInt8} (noNewline : newline ∉ line)
    (short : seen.length + line.length + 1 < lineSize) :
    fgetsLines seen (line ++ newline :: file) =
      (seen ++ line ++ [newline]) :: fgetsLines [] file := by
  induction line generalizing seen with
  | nil =>
      rw [List.nil_append, fgetsLines, if_pos (.inl rfl), List.append_nil]
  | cons byte line induction =>
      obtain ⟨isByte, noNewline⟩ := not_or.mp (mt List.mem_cons.mpr noNewline)
      rw [List.length_cons] at short
      have goesOn : ¬ (byte = newline ∨ (seen ++ [byte]).length + 1 = lineSize) := by
        rw [List.length_append, List.length_singleton]
        exact not_or.mpr ⟨Ne.symm isByte, by omega⟩
      have fits : (seen ++ [byte]).length + line.length + 1 < lineSize := by
        rw [List.length_append, List.length_singleton]
        omega
      rw [List.cons_append, fgetsLines, if_neg goesOn, induction noNewline fits,
        List.append_assoc seen]
      rfl

def nameserver : List UInt8 :=
  [0x6e, 0x61, 0x6d, 0x65, 0x73, 0x65, 0x72, 0x76, 0x65, 0x72, 0x20]

theorem chars_nameserver : chars "nameserver " = nameserver := by
  rw [chars, String.toList_ofList]
  rfl

theorem bounds_nameserver (tail : List UInt8) :
    bounds (nameserver ++ tail) (List.range' 1 126) 0 =
      bounds (nameserver ++ tail) (List.range' 11 116) 11 := by
  rfl

theorem bounds_step {front : List UInt8} {last next : UInt8} (notMark : last ≠ 0x65)
    (count : Nat) (start : Int) :
    bounds (front ++ last :: next :: tail) (List.range' (front.length + 1) (count + 1)) start =
      if next = newline then (start, (front.length : Int))
      else bounds (front ++ last :: next :: tail) (List.range' (front.length + 2) count) start := by
  have isLast : (front ++ last :: next :: tail).getD front.length 0 = last := by simp
  have isNext : (front ++ last :: next :: tail).getD (front.length + 1) 0 = next := by simp
  have mark : chars "er " = [0x65, 0x72, 0x20] := by
    rw [chars, String.toList_ofList]
    rfl
  rw [List.range'_succ, bounds, Nat.add_sub_cancel, isLast, isNext, mark,
    if_neg fun same => notMark (List.cons.inj same).1]
  refine if_congr Iff.rfl (congrArg (Prod.mk start) ?_) rfl
  omega

theorem bounds_line (tail front : List UInt8) (last : UInt8) {count : Nat} (start : Int)
    (notMark : last ≠ 0x65) (plain : ∀ byte ∈ line, byte ≠ 0x65 ∧ byte ≠ newline)
    (enough : line.length < count) :
    bounds (front ++ last :: (line ++ newline :: tail)) (List.range' (front.length + 1) count)
      start = (start, ((front.length + line.length : Nat) : Int)) := by
  induction line generalizing front last count with
  | nil =>
      have isSucc : count = count - 1 + 1 := (Nat.sub_add_cancel enough).symm
      rw [isSucc, List.nil_append, bounds_step notMark, if_pos rfl]
      rfl
  | cons byte line induction =>
      obtain ⟨first, plain⟩ := List.forall_mem_cons.mp plain
      rw [List.length_cons] at enough
      have isSucc : count = count - 1 + 1 := by omega
      have step := induction (front ++ [last]) byte first.1 plain
        (show line.length < count - 1 by omega)
      rw [List.append_assoc, List.length_append] at step
      rw [isSucc, List.cons_append, bounds_step notMark, if_neg first.2, List.length_cons]
      refine Eq.trans step (congrArg (Prod.mk start) ?_)
      rw [List.length_singleton]
      omega

/-- A character of a word that is not the one before the start of an address. -/
def Plain (byte : UInt8) : Prop := isSpace byte = false ∧ byte ≠ 0 ∧ byte ≠ 0x65

theorem Plain.ne_newline {byte : UInt8} (plain : Plain byte) : byte ≠ newline := by
  rintro rfl
  exact absurd plain.1 (by decide)

theorem isServer_line (plain : ∀ byte ∈ line, Plain byte) (two : 2 ≤ line.length)
    (short : line.length < 116) :
    isServer (nameserver ++ (line ++ newline :: tail)) = true := by
  have scanned := bounds_line tail nameserver.dropLast 0x20 11 (by decide)
    (fun byte member => ⟨(plain byte member).2.2, (plain byte member).ne_newline⟩) short
  have isBounds : bounds (nameserver ++ (line ++ newline :: tail)) (List.range' 1 126) 0 =
      (11, ((10 + line.length : Nat) : Int)) := (bounds_nameserver _).trans scanned
  have isPrefix : (chars "nameserver").isPrefixOf
      (nameserver ++ (line ++ newline :: tail)) = true := by
    rw [chars, String.toList_ofList]
    rfl
  rw [isServer, isBounds, isPrefix, Bool.true_and, decide_eq_true_eq]
  dsimp only
  omega

theorem secondWord_line (notNil : line ≠ []) (plain : ∀ byte ∈ line, Plain byte) :
    secondWord (nameserver ++ (line ++ newline :: 0 :: tail)) = some line := by
  have isString : cString (nameserver ++ (line ++ newline :: 0 :: tail)) =
      nameserver ++ (line ++ [newline]) := by
    rw [cString, List.takeWhile_append_of_pos (by decide +kernel), List.takeWhile_append_of_pos
      fun byte member => decide_eq_true (plain byte member).2.1]
    rfl
  have skips : (line ++ [newline]).dropWhile isSpace = line ++ [newline] := by
    obtain ⟨byte, rest, rfl⟩ := List.exists_cons_of_ne_nil notNil
    exact List.dropWhile_cons_of_neg (by rw [(plain byte List.mem_cons_self).1]; decide)
  have word : ((line ++ [newline]).takeWhile fun byte => !isSpace byte) = line := by
    rw [List.takeWhile_append_of_pos fun byte member => by rw [(plain byte member).1]; rfl]
    exact List.append_nil line
  have second : ((((nameserver ++ (line ++ [newline])).dropWhile isSpace).dropWhile
      fun byte => !isSpace byte).dropWhile isSpace) = line ++ [newline] := skips
  rw [secondWord, isString, second, word, if_neg notNil]

end Reading

section Quads

theorem plain_digit {byte : UInt8} (isDigit : 0x30 ≤ byte ∧ byte ≤ 0x39) : Plain byte := by
  have differs (other : UInt8) (outside : ¬ (0x30 ≤ other ∧ other ≤ 0x39)) : byte ≠ other :=
    fun same => outside (same ▸ isDigit)
  have above : ¬ byte ≤ 0x0d := fun below => absurd (UInt8.le_trans isDigit.1 below) (by decide)
  refine ⟨?_, differs 0 (by decide), differs 0x65 (by decide)⟩
  rw [isSpace, decide_eq_false (differs 0x20 (by decide)), decide_eq_false above, Bool.and_false]
  rfl

theorem DottedQuad.plain (quad : DottedQuad) : ∀ byte ∈ quad.text, Plain byte := by
  have isDot : Plain dot := ⟨by decide, by decide, by decide⟩
  have parts (part : Part) : ∀ byte ∈ part.digits, Plain byte :=
    fun byte member => plain_digit (part.isDigit byte member)
  simp only [text, List.forall_mem_append, List.forall_mem_cons]
  exact ⟨⟨⟨parts _, isDot, parts _⟩, isDot, parts _⟩, isDot, parts _⟩

theorem DottedQuad.length (quad : DottedQuad) : 2 ≤ quad.text.length ∧ quad.text.length ≤ 15 := by
  have first := quad.first.short
  have second := quad.second.short
  have third := quad.third.short
  have fourth := quad.fourth.short
  simp only [text, List.length_append, List.length_cons]
  omega

end Quads

section RoundTrip

variable {dns dns2 : List UInt8}

theorem length_resolvConf (short : dns.length ≤ 15) (short2 : dns2.length ≤ 15) :
    (resolvConf dns dns2).length < reqLen := by
  rw [resolvConf, chars_nameserver]
  simp only [List.length_append, nameserver, List.length_cons,
    List.length_nil, reqLen]
  omega

theorem rkNetworkDnsSet_eq (garbage : Fin reqLen → UInt8) (plain : ∀ byte ∈ dns, Plain byte)
    (plain2 : ∀ byte ∈ dns2, Plain byte) (short : dns.length ≤ 15) (short2 : dns2.length ≤ 15) :
    rkNetworkDnsSet garbage dns dns2 = some (resolvConf dns dns2) := by
  have whole : [chars "nameserver ", dns, [newline], chars "nameserver ", dns2,
      [newline]].flatten = resolvConf dns dns2 := by
    simp only [List.flatten_cons, List.flatten_nil, resolvConf, List.append_assoc, List.append_nil]
  have clean : ∀ byte ∈ resolvConf dns dns2, decide (byte ≠ 0) = true := by
    have isName : ∀ byte ∈ nameserver, decide (byte ≠ 0) = true := by decide +kernel
    have isEnd : ∀ byte ∈ [newline], decide (byte ≠ 0) = true := by decide +kernel
    rw [resolvConf, chars_nameserver]
    simp only [List.forall_mem_append]
    exact ⟨⟨⟨⟨⟨isName, fun byte member => decide_eq_true (plain byte member).2.1⟩, isEnd⟩, isName⟩,
      fun byte member => decide_eq_true (plain2 byte member).2.1⟩, isEnd⟩
  obtain ⟨rest, assembled, ends⟩ := assemble_eq [] (List.ofFn garbage)
    ([chars "nameserver ", dns, [newline], chars "nameserver ", dns2, [newline]])
    (by rw [List.length_ofFn]; rfl)
    (by rw [whole, List.length_nil, Nat.zero_add]; exact length_resolvConf short short2)
  rw [List.length_nil, List.nil_append, List.nil_append, whole] at assembled
  obtain ⟨others, rfl⟩ := List.head?_eq_some_iff.mp (ends (.inl (List.cons_ne_nil _ _)))
  rw [rkNetworkDnsSet, assembled, Option.map_some, cString, List.takeWhile_append_of_pos clean]
  exact congrArg some (List.append_nil _)

theorem newline_notMem_line (plain : ∀ byte ∈ dns, Plain byte) :
    newline ∉ nameserver ++ dns := by
  intro member
  rcases List.mem_append.mp member with isName | isAddress
  · exact absurd isName (by decide)
  · exact (plain _ isAddress).ne_newline rfl

theorem fgetsLines_resolvConf (plain : ∀ byte ∈ dns, Plain byte)
    (plain2 : ∀ byte ∈ dns2, Plain byte) (short : dns.length ≤ 15) (short2 : dns2.length ≤ 15) :
    fgetsLines [] (resolvConf dns dns2) =
      [nameserver ++ dns ++ [newline], nameserver ++ dns2 ++ [newline]] := by
  have fits (address : List UInt8) (isShort : address.length ≤ 15) :
      ([] : List UInt8).length + (nameserver ++ address).length + 1 < lineSize := by
    rw [List.length_append, List.length_nil, nameserver, lineSize]
    simp only [List.length_cons, List.length_nil]
    omega
  have whole : resolvConf dns dns2 =
      (nameserver ++ dns) ++ newline :: ((nameserver ++ dns2) ++ newline :: []) := by
    rw [resolvConf, chars_nameserver]
    simp only [List.append_assoc, List.cons_append, List.nil_append]
  rw [whole, fgetsLines_line (newline_notMem_line plain) (fits dns short),
    fgetsLines_line (newline_notMem_line plain2) (fits dns2 short2)]
  rfl

/-- Each line stores its address, whatever the line before has left in `buf`. -/
theorem servers_line (plain : ∀ byte ∈ dns, Plain byte) (two : 2 ≤ dns.length)
    (short : dns.length ≤ 15) (buf : List UInt8) (lines : List (List UInt8)) :
    ∃ next, servers buf ((nameserver ++ dns ++ [newline]) :: lines) =
      some dns :: servers next lines := by
  have notNil : dns ≠ [] := List.ne_nil_of_length_pos (Nat.lt_of_lt_of_le Nat.zero_lt_two two)
  have isLine (rest : List UInt8) : nameserver ++ dns ++ [newline] ++ 0 :: rest =
      nameserver ++ (dns ++ newline :: 0 :: rest) := by
    simp only [List.append_assoc, List.singleton_append]
  refine ⟨nameserver ++ dns ++ [newline] ++
    0 :: buf.drop ((nameserver ++ dns ++ [newline]).length + 1), ?_⟩
  rw [servers, isLine, if_pos (isServer_line plain two (by omega)), secondWord_line notNil plain]

end RoundTrip

/-- What `rk_network_dns_set` writes fits its array as a whole, and `rk_network_dns_get` reads
both addresses back. -/
theorem dns_roundTrip (garbage : Fin reqLen → UInt8) (dns dns2 : DottedQuad) :
    rkNetworkDnsSet garbage dns.text dns2.text = some (resolvConf dns.text dns2.text) ∧
      (resolvConf dns.text dns2.text).length < reqLen ∧
      rkNetworkDnsGet (rkNetworkDnsSet garbage dns.text dns2.text) =
        .stores 2 [] [some dns.text, some dns2.text] := by
  have plain := dns.plain
  have plain2 := dns2.plain
  obtain ⟨two, short⟩ := dns.length
  obtain ⟨two2, short2⟩ := dns2.length
  have written := rkNetworkDnsSet_eq garbage plain plain2 short short2
  refine ⟨written, length_resolvConf short short2, ?_⟩
  obtain ⟨next, first⟩ := servers_line plain two short (List.replicate lineSize 0)
    [nameserver ++ dns2.text ++ [newline]]
  obtain ⟨last, second⟩ := servers_line plain2 two2 short2 next []
  have found : resolvers (resolvConf dns.text dns2.text) = [some dns.text, some dns2.text] := by
    rw [resolvers, fgetsLines_resolvConf plain plain2 short short2, first, second]
    rfl
  have fits : ¬ [some dns.text, some dns2.text].any
      (fun word => word.any fun word => bufferSize ≤ word.length) = true := by
    have isShort (address : List UInt8) (fits : address.length ≤ 15) :
        ¬ bufferSize ≤ address.length := by
      rw [bufferSize]
      omega
    simp [isShort dns.text short, isShort dns2.text short2]
  rw [written, rkNetworkDnsGet, found]
  exact if_neg fits

example :
    let eight : Part := ⟨[0x38], nofun, by decide, List.forall_mem_singleton.mpr (by decide)⟩
    (DottedQuad.mk eight eight eight eight).text = chars "8.8.8.8" :=
  rfl

end Rkipc.Network
