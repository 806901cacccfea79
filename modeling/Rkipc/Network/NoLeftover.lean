import Rkipc.Network.Exchange
import Rkipc.Network.Stored

namespace Rkipc.Network

open Interaction Rpc

/-! When an answer shows nothing of what was left in memory. -/

section Handed

variable {sent : List Sent} {writes more other : List (List UInt8)} {string : List UInt8}

theorem handed_append_of_closed (closed : .closed ∈ sent.take writes.length) :
    handed sent (writes ++ more) = handed sent writes := by
  induction writes generalizing sent with
  | nil => cases closed
  | cons write writes induction =>
      cases sent with
      | nil => cases closed
      | cons first rest =>
          rw [List.cons_append, handed, handed]
          by_cases isClosed : first = .closed
          · rw [isClosed]
            rfl
          · have later : .closed ∈ rest.take writes.length :=
              (List.mem_cons.mp closed).resolve_left (Ne.symm isClosed)
            rw [List.tail_cons, induction later]

theorem handed_append_of_open (isOpen : .closed ∉ sent.take writes.length) :
    handed sent (writes ++ more) = writes ++ handed (sent.drop writes.length) more := by
  induction writes generalizing sent with
  | nil => rfl
  | cons write writes induction =>
      rw [List.cons_append, handed]
      cases sent with
      | nil =>
          have rest : handed [] (writes ++ more) = writes ++ handed [] more := by
            have isOpen : Sent.closed ∉ List.take writes.length [] := by simp
            rw [induction isOpen, List.drop_nil]
          rw [List.head?_nil, if_neg (by decide), List.tail_nil, rest, List.drop_nil,
            List.cons_append]
      | cons first rest =>
          rw [List.length_cons, List.take_succ_cons, List.mem_cons, not_or] at isOpen
          rw [List.head?_cons, if_neg (fun same => isOpen.1 (Option.some.inj same).symm),
            List.tail_cons, induction isOpen.2, List.cons_append, List.length_cons,
            List.drop_succ_cons]

theorem mem_of_mem_handed {bytes : List UInt8} (member : bytes ∈ handed sent writes) :
    bytes ∈ writes := by
  induction writes generalizing sent with
  | nil => cases member
  | cons write writes induction =>
      rw [handed] at member
      rcases List.mem_cons.mp member with first | later
      · exact first ▸ List.mem_cons_self
      · split_ifs at later
        · cases later
        · exact List.mem_cons_of_mem write (induction later)

theorem stringWrites_of_fits (fits : Fits string) :
    stringWrites string = [Word.bytes (BitVec.ofNat 32 string.length), string] := by
  obtain ⟨notEmpty, short⟩ := fits
  have positive : 0 < string.length := List.length_pos_iff.mpr notEmpty
  rw [bufferSize] at short
  have natural : (BitVec.ofNat 32 string.length).toNat = string.length := by
    rw [BitVec.toNat_ofNat, Nat.mod_eq_of_lt (by omega)]
  have value : (BitVec.ofNat 32 string.length).toInt = string.length := by
    rw [BitVec.toInt_eq_toNat_of_lt (by omega), natural]
  rw [stringWrites]
  simp only [value, natural, List.take_length]
  rw [if_neg (by omega)]

theorem length_lt_of_mem_stringWrites (fits : Fits string) {bytes : List UInt8}
    (member : bytes ∈ stringWrites string) : bytes.length < bufferSize := by
  rw [stringWrites_of_fits fits] at member
  rcases List.mem_cons.mp member with isLength | isString
  · rw [isLength, Word.bytes_length]
    decide
  · rw [List.mem_singleton.mp isString]
    exact fits.2

/-- The lengths of two strings of which one is empty and one has a character. -/
theorem handed_stringWrites_ne (rest others : List (List UInt8)) :
    handed sent (stringWrites [] ++ rest) ≠ handed sent (stringWrites [0x41] ++ others) := by
  intro same
  have heads := congrArg List.head? same
  exact absurd (Option.some.inj heads) (by decide)

end Handed

section Answers

variable {getter : Getter} {world : World} {sent : List Sent} {interface : Pointer}
  {memory : Memory} {status : Word}

/-- A condition for a handler to hand the same to `sock_write` whatever was left, with the
name that it has been asked about. -/
def Getter.Stored (getter : Getter) (world : World) (sent : List Sent)
    (interface : List UInt8) : Prop :=
  match getter with
  | .ipv4 => world.interfaces.socket = true ∧ ∃ entries, world.interfaces.ifconf = some entries ∧
      let read := served interface entries.tail.reverse
      read ≠ [] ∧ (cString (netmodeOrDhcp world.interfaces.netmode)).length < bufferSize ∧
        (read.any Entry.hasGateway = true ∨ .closed ∈ sent.take 6)
  | .dns => ∃ file first, world.resolvConf = some file ∧ (resolvers file)[0]? = some (some first) ∧
      (∀ word, some word ∈ resolvers file → word.length < bufferSize) ∧
        ((∃ second, (resolvers file)[1]? = some (some second)) ∨ .closed ∈ sent.take 2)
  | .mac => world.hardware.socket = true ∧ interface.length < ifreqSize ∧
      ∃ address, world.hardware.hwaddr = some address
  | .nicspeed => world.settings.socket = true ∧ interface.length < ifreqSize ∧
      ∃ ecmd, world.settings.ecmd = some ecmd ∧ ecmd.speed ∈ [10, 100, 1000] ∧
        (ecmd.duplex ∈ [0, 1] ∨ sent.head? = some .closed)

/-- The getter does not go on without a name. -/
def Getter.Reads (getter : Getter) (world : World) : Prop :=
  match getter with
  | .ipv4 => world.interfaces.socket = true ∧
      ∃ entries, world.interfaces.ifconf = some entries ∧ entries.tail ≠ []
  | .dns => False
  | .mac => world.hardware.socket = true
  | .nicspeed => True

/-- The answer about a name is always the same and runs over no array. -/
structure Getter.Fixed (getter : Getter) (world : World) (sent : List Sent)
    (interface : Pointer) : Prop where
  same : ∀ memory other, getter.answers world sent memory interface =
    getter.answers world sent other interface
  fits : ∀ memory, ∀ bytes ∈ getter.answers world sent memory interface,
    bytes.length < bufferSize

def Memory.withString (memory : Memory) (string : List UInt8) : Memory :=
  { memory with strings := fun _ => string }

def Memory.withInt (memory : Memory) (value : Word) : Memory :=
  { memory with ints := fun _ => value }

theorem ran_withString (string : List UInt8) :
    getter.ran world (memory.withString string) interface = getter.ran world memory interface := by
  cases getter <;> cases interface <;> rfl

theorem not_fixed_of_overruns (overruns : getter.ran world memory interface = .overruns) :
    ¬ getter.Fixed world sent interface := by
  intro fixed
  have ran (overrun : Option Found) :
      getter.ran world { memory with overrun := overrun } interface = .overruns := by
    rw [← overruns]
    cases getter <;> cases interface <;> rfl
  have stops : getter.answers world sent { memory with overrun := none } interface = [] := by
    rw [Getter.answers, ran]
    rfl
  have goesOn : getter.answers world sent
      { memory with overrun := some ⟨0, fun _ => 0, fun _ => []⟩ } interface ≠ [] := by
    rw [Getter.answers, ran]
    cases getter <;> exact List.cons_ne_nil _ _
  exact goesOn ((fixed.same _ _).trans stops)

theorem not_fixed_of_string (asks : getter ≠ .nicspeed) {ints : List (Option Word)}
    {strings : List (Option (List UInt8))}
    (ran : getter.ran world memory interface = .stores status ints (none :: strings)) :
    ¬ getter.Fixed world sent interface := by
  intro fixed
  have same := fixed.same (memory.withString []) (memory.withString [0x41])
  rw [Getter.answers, Getter.answers, ran_withString, ran_withString, ran] at same
  cases getter with
  | ipv4 => exact handed_stringWrites_ne _ _ same
  | dns => exact handed_stringWrites_ne _ _ same
  | mac => exact handed_stringWrites_ne _ _ same
  | nicspeed => exact asks rfl

theorem not_fixed_of_heads {other : Memory} {first second : List UInt8}
    (isFirst : (getter.answers world sent memory interface).head? = some first)
    (isSecond : (getter.answers world sent other interface).head? = some second)
    (differ : first ≠ second) : ¬ getter.Fixed world sent interface := by
  intro fixed
  rw [fixed.same memory other, isSecond] at isFirst
  exact differ (Option.some.inj isFirst).symm

/-- The writes before a value, the value and those behind it. -/
structure Getter.Around (getter : Getter) (world : World) (sent : List Sent)
    (interface : Pointer) (before : List (List UInt8)) (value : Memory → List (List UInt8))
    (behind : List (List UInt8)) : Prop where
  answers : ∀ memory, getter.answers world sent memory interface =
    handed sent (before ++ (value memory ++ behind))
  before : ∀ bytes ∈ before, bytes.length < bufferSize
  behind : ∀ bytes ∈ behind, bytes.length < bufferSize

section Around

variable {before behind : List (List UInt8)} {value : Memory → List (List UInt8)}

theorem Getter.Around.fixed_of_closed
    (around : getter.Around world sent interface before value behind)
    (closed : .closed ∈ sent.take before.length) : getter.Fixed world sent interface where
  same := by
    intro memory other
    rw [around.answers, around.answers, handed_append_of_closed closed,
      handed_append_of_closed closed]
  fits := by
    intro memory bytes member
    rw [around.answers, handed_append_of_closed closed] at member
    exact around.before bytes (mem_of_mem_handed member)

theorem Getter.Around.fixed_of_stored
    (around : getter.Around world sent interface before value behind)
    {stored : List (List UInt8)} (isStored : ∀ memory, value memory = stored)
    (fits : ∀ bytes ∈ stored, bytes.length < bufferSize) :
    getter.Fixed world sent interface where
  same := by
    intro memory other
    rw [around.answers, around.answers, isStored, isStored]
  fits := by
    intro memory bytes member
    rw [around.answers, isStored] at member
    rcases List.mem_append.mp (mem_of_mem_handed member) with first | rest
    · exact around.before bytes first
    · rcases List.mem_append.mp rest with middle | last
      · exact fits bytes middle
      · exact around.behind bytes last

theorem Getter.Around.not_fixed
    (around : getter.Around world sent interface before value behind)
    (isOpen : .closed ∉ sent.take before.length) {memory other : Memory}
    {first second : List UInt8} {rest others : List (List UInt8)}
    (isFirst : value memory = first :: rest) (isSecond : value other = second :: others)
    (differ : first ≠ second) : ¬ getter.Fixed world sent interface := by
  intro fixed
  have same := fixed.same memory other
  rw [around.answers, around.answers, isFirst, isSecond, handed_append_of_open isOpen,
    handed_append_of_open isOpen] at same
  have heads := congrArg List.head? (List.append_cancel_left same)
  exact differ (Option.some.inj heads)

theorem Getter.Around.fixed_iff_string {index : Nat} {stored : Option (List UInt8)}
    (around : getter.Around world sent interface before (fun memory =>
      stringWrites (stored.getD (cString (memory.strings index)))) behind)
    (fits : ∀ string, stored = some string → Fits string) (memory : Memory) :
    getter.Fixed world sent interface ↔
      (∃ string, stored = some string) ∨ .closed ∈ sent.take before.length := by
  cases stored with
  | some string =>
      have fixed := around.fixed_of_stored (fun _ => rfl) fun bytes =>
        length_lt_of_mem_stringWrites (fits string rfl)
      exact iff_of_true fixed (Or.inl ⟨string, rfl⟩)
  | none =>
      refine ⟨fun fixed => Or.inr ?_, fun found => ?_⟩
      · by_contra isOpen
        have isEmpty : stringWrites ((none : Option (List UInt8)).getD
            (cString ((memory.withString []).strings index))) = [Word.bytes 0] := rfl
        have isOne : stringWrites ((none : Option (List UInt8)).getD
            (cString ((memory.withString [0x41]).strings index))) = [Word.bytes 1, [0x41]] := rfl
        exact around.not_fixed isOpen isEmpty isOne (by decide) fixed
      · rcases found with ⟨string, isSome⟩ | closed
        · cases isSome
        · exact around.fixed_of_closed closed

end Around

def Memory.empty : Memory := ⟨[], fun _ => 0, fun _ => [], ⟨0, 0, 0⟩, none⟩

variable {size : Nat} {received : List UInt8}

theorem string_of_terminated (terminated : 0 ∈ received) (memory : Memory) :
    memory.string (.buffer size received) = some (cString received) := by
  rw [Memory.string, cString_append terminated]

theorem length_lt_of_mem_two {first second : List UInt8} (isFirst : Fits first)
    (isSecond : Fits second) {bytes : List UInt8}
    (member : bytes ∈ stringWrites first ++ stringWrites second) : bytes.length < bufferSize := by
  rcases List.mem_append.mp member with before | after
  · exact length_lt_of_mem_stringWrites isFirst before
  · exact length_lt_of_mem_stringWrites isSecond after

theorem length_lt_of_mem_word {word : Word} {bytes : List UInt8}
    (member : bytes ∈ [Word.bytes word]) : bytes.length < bufferSize := by
  rw [List.mem_singleton.mp member, Word.bytes_length]
  decide

theorem mac_fixed_iff (terminated : 0 ∈ received) :
    Getter.mac.Fixed world sent (.buffer size received) ↔
      Getter.mac.Stored world sent (cString received) := by
  have ran (memory : Memory) : Getter.mac.ran world memory (.buffer size received) =
      rkNetworkGetMac world.hardware (some (cString received)) := by
    rw [Getter.ran, string_of_terminated terminated]
  rw [Getter.Stored]
  cases socket : world.hardware.socket with
  | false =>
      have nothing : Getter.mac.ran world .empty (.buffer size received) =
          .stores (-1) [] [none] := by
        rw [ran, rkNetworkGetMac, if_pos socket]
      exact iff_of_false (not_fixed_of_string (by decide) nothing) (by simp)
  | true =>
      by_cases long : ifreqSize ≤ (cString received).length
      · have overruns : Getter.mac.ran world .empty (.buffer size received) = .overruns := by
          rw [ran, rkNetworkGetMac, if_neg (by rw [socket]; decide)]
          exact if_pos long
        exact iff_of_false (not_fixed_of_overruns overruns) (by omega)
      · have isOpen : ¬ world.hardware.socket = false := by simp [socket]
        cases isAddress : world.hardware.hwaddr with
        | none =>
            have nothing : Getter.mac.ran world .empty (.buffer size received) =
                .stores (-1) [] [none] := by
              rw [ran, rkNetworkGetMac, if_neg isOpen]
              simp only [if_neg long, isAddress]
            exact iff_of_false (not_fixed_of_string (by decide) nothing) (by simp)
        | some address =>
            have stores (memory : Memory) : Getter.mac.ran world memory (.buffer size received) =
                .stores 0 [] [some (macText address)] := by
              rw [ran, rkNetworkGetMac, if_neg isOpen]
              simp only [if_neg long, isAddress]
            have around : Getter.mac.Around world sent (.buffer size received) []
                (fun _ => stringWrites (macText address)) [Word.bytes 0] := by
              refine ⟨fun memory => ?_, by simp, fun bytes => length_lt_of_mem_word⟩
              rw [Getter.answers, stores]
              rfl
            refine iff_of_true (around.fixed_of_stored (fun _ => rfl) fun bytes =>
              length_lt_of_mem_stringWrites (fits_macText address)) ?_
            exact ⟨rfl, by omega, address, rfl⟩

theorem closed_mem_take_one : Sent.closed ∈ sent.take 1 ↔ sent.head? = some .closed := by
  cases sent with
  | nil => simp
  | cons first rest => simp [eq_comm]

theorem nicspeed_fixed_iff_duplex {ecmd : EthtoolCmd}
    (stores : ∀ memory, Getter.nicspeed.ran world memory interface = ecmd.ran)
    (known : ecmd.speed ∈ [10, 100, 1000]) :
    Getter.nicspeed.Fixed world sent interface ↔
      ecmd.duplex ∈ [0, 1] ∨ sent.head? = some .closed := by
  have around (duplex : Memory → Word)
      (isDuplex : ∀ memory : Memory, (if ecmd.duplex ∈ [0, 1] then some (ecmd.duplex.setWidth 32)
        else none).getD (memory.ints 1) = duplex memory) :
      Getter.nicspeed.Around world sent interface [Word.bytes (ecmd.speed.setWidth 32)]
        (fun memory => [Word.bytes (duplex memory)])
        ([Word.bytes (ecmd.autoneg.setWidth 32)] ++ [Word.bytes 0]) := by
    refine ⟨fun memory => ?_, fun bytes => length_lt_of_mem_word, fun bytes member => ?_⟩
    · rw [Getter.answers, stores, EthtoolCmd.ran, if_pos known, ← isDuplex]
      rfl
    · exact (List.mem_append.mp member).elim length_lt_of_mem_word length_lt_of_mem_word
  by_cases either : ecmd.duplex ∈ [0, 1]
  · have fixed := (around (fun _ => ecmd.duplex.setWidth 32)
        fun memory => by rw [if_pos either]; rfl)
      |>.fixed_of_stored (fun _ => rfl) fun bytes => length_lt_of_mem_word
    exact iff_of_true fixed (Or.inl either)
  · have unknown := around (fun memory => memory.ints 1) fun memory => by rw [if_neg either]; rfl
    rw [← closed_mem_take_one]
    refine ⟨fun fixed => Or.inr ?_,
      fun found => unknown.fixed_of_closed (found.resolve_left either)⟩
    by_contra isOpen
    have zero : [Word.bytes (Memory.empty.ints 1)] = [Word.bytes 0] := rfl
    have one : [Word.bytes ((Memory.empty.withInt 1).ints 1)] = [Word.bytes 1] := rfl
    exact unknown.not_fixed isOpen zero one (by decide) fixed

theorem nicspeed_fixed_iff (terminated : 0 ∈ received) :
    Getter.nicspeed.Fixed world sent (.buffer size received) ↔
      Getter.nicspeed.Stored world sent (cString received) := by
  have ran (memory : Memory) : Getter.nicspeed.ran world memory (.buffer size received) =
      rkNetworkNicspeedGet world.settings memory.ecmd (some (cString received)) := by
    rw [Getter.ran, string_of_terminated terminated]
  rw [Getter.Stored]
  by_cases long : ifreqSize ≤ (cString received).length
  · have overruns : Getter.nicspeed.ran world .empty (.buffer size received) = .overruns := by
      rw [ran]
      exact if_pos long
    exact iff_of_false (not_fixed_of_overruns overruns) (by omega)
  · have found (memory : Memory) : Getter.nicspeed.ran world memory (.buffer size received) =
        if world.settings.socket = false then .stores (-1) [none, none, none] []
        else (world.settings.ecmd.getD memory.ecmd).ran := by
      rw [ran]
      exact if_neg long
    cases socket : world.settings.socket with
    | false =>
        have nothing (memory : Memory) :
            Getter.nicspeed.ran world memory (.buffer size received) =
              .stores (-1) [none, none, none] [] := by
          rw [found, if_pos socket]
        have zero : (Getter.nicspeed.answers world sent .empty (.buffer size received)).head? =
            some (Word.bytes 0) := by
          rw [Getter.answers, nothing]
          rfl
        have one : (Getter.nicspeed.answers world sent (Memory.empty.withInt 1)
            (.buffer size received)).head? = some (Word.bytes 1) := by
          rw [Getter.answers, nothing]
          rfl
        exact iff_of_false (not_fixed_of_heads zero one (by decide)) (by simp)
    | true =>
        have read (memory : Memory) : Getter.nicspeed.ran world memory (.buffer size received) =
            (world.settings.ecmd.getD memory.ecmd).ran := by
          rw [found, if_neg (by rw [socket]; decide)]
        cases isEcmd : world.settings.ecmd with
        | none =>
            -- the request has failed, so a speed may be found in `ecmd` or another one
            have leaks (speed : BitVec 16) (known : speed ∈ [10, 100, 1000]) :
                (Getter.nicspeed.answers world sent { Memory.empty with ecmd := ⟨speed, 0, 0⟩ }
                  (.buffer size received)).head? = some (Word.bytes (speed.setWidth 32)) := by
              rw [Getter.answers, read, isEcmd, Option.getD_none, EthtoolCmd.ran, if_pos known]
              rfl
            exact iff_of_false
              (not_fixed_of_heads (leaks 10 (by decide)) (leaks 100 (by decide)) (by decide))
              (by simp)
        | some ecmd =>
            have stores (memory : Memory) :
                Getter.nicspeed.ran world memory (.buffer size received) = ecmd.ran := by
              rw [read, isEcmd, Option.getD_some]
            by_cases known : ecmd.speed ∈ [10, 100, 1000]
            · rw [nicspeed_fixed_iff_duplex stores known]
              refine ⟨fun stored => ⟨rfl, by omega, ecmd, rfl, known, stored⟩, ?_⟩
              rintro ⟨-, -, found, isFound, -, stored⟩
              exact Option.some.inj isFound ▸ stored
            · have unknown (value : Word) :
                  (Getter.nicspeed.answers world sent (Memory.empty.withInt value)
                    (.buffer size received)).head? = some (Word.bytes value) := by
                rw [Getter.answers, stores, EthtoolCmd.ran, if_neg known]
                rfl
              refine iff_of_false (not_fixed_of_heads (unknown 0) (unknown 1) (by decide)) ?_
              rintro ⟨-, -, found, isFound, isKnown, -⟩
              exact known (Option.some.inj isFound ▸ isKnown)

theorem ipv4_none_not_fixed (status : Word)
    (stores : Getter.ipv4.ran world memory interface = Ipv4.none.ran status) :
    ¬ Getter.ipv4.Fixed world sent interface :=
  not_fixed_of_string (by decide) stores

theorem ipv4_fixed_iff_visit {entries : List Entry} {name : List UInt8} {last : Ipv4}
    (isVisited : Visited world.interfaces.netmode (served name entries) Ipv4.none last)
    (ran : ∀ memory, Getter.ipv4.ran world memory interface = last.ran status) :
    Getter.ipv4.Fixed world sent interface ↔
      served name entries ≠ [] ∧
        (cString (netmodeOrDhcp world.interfaces.netmode)).length < bufferSize ∧
          ((served name entries).any Entry.hasGateway = true ∨ .closed ∈ sent.take 6) := by
  by_cases none : served name entries = []
  · have noMethod : last.method = .none := by
      rw [isVisited.method, if_pos none]
      rfl
    have nothing : Getter.ipv4.ran world .empty interface =
        .stores status [] (.none :: [last.address, last.netmask, last.gateway]) := by
      rw [ran, Ipv4.ran, noMethod]
      rfl
    exact iff_of_false (not_fixed_of_string (by decide) nothing) (fun stored => stored.1 none)
  · have method : last.method = some (cString (netmodeOrDhcp world.interfaces.netmode)) := by
      rw [isVisited.method, if_neg none]
    by_cases long : bufferSize ≤ (cString (netmodeOrDhcp world.interfaces.netmode)).length
    · have overruns : Getter.ipv4.ran world .empty interface = .overruns := by
        rw [ran, Ipv4.ran, method]
        exact if_pos (decide_eq_true long)
      exact iff_of_false (not_fixed_of_overruns overruns) (fun stored => by omega)
    · have stores (memory : Memory) : Getter.ipv4.ran world memory interface =
          .stores status [] [last.method, last.address, last.netmask, last.gateway] := by
        rw [ran, Ipv4.ran, method]
        exact if_neg (by simpa using long)
      obtain ⟨address, isAddress⟩ := isVisited.address (Or.inl none)
      obtain ⟨netmask, isNetmask⟩ := isVisited.netmask (Or.inl none)
      have fitsMethod : Fits (cString (netmodeOrDhcp world.interfaces.netmode)) :=
        ⟨netmodeOrDhcp_ne_nil _, by omega⟩
      have around : Getter.ipv4.Around world sent interface
          (stringWrites (cString (netmodeOrDhcp world.interfaces.netmode)) ++
            (stringWrites (inetNtoa address) ++ stringWrites (inetNtoa netmask)))
          (fun memory => stringWrites (last.gateway.getD (cString (memory.strings 3))))
          [Word.bytes 0] := by
        refine ⟨fun memory => ?_, fun bytes member => ?_, fun bytes => length_lt_of_mem_word⟩
        · rw [Getter.answers, stores, method, isAddress, isNetmask]
          simp only [List.append_assoc]
          rfl
        · rcases List.mem_append.mp member with isMethod | rest
          · exact length_lt_of_mem_stringWrites fitsMethod isMethod
          · exact length_lt_of_mem_two (fits_inetNtoa address) (fits_inetNtoa netmask) rest
      have six : (stringWrites (cString (netmodeOrDhcp world.interfaces.netmode)) ++
          (stringWrites (inetNtoa address) ++ stringWrites (inetNtoa netmask))).length = 6 := by
        rw [stringWrites_of_fits fitsMethod, stringWrites_of_fits (fits_inetNtoa address),
          stringWrites_of_fits (fits_inetNtoa netmask)]
        rfl
      have gatewayIff : (∃ gateway, last.gateway = some gateway) ↔
          (served name entries).any Entry.hasGateway = true := by
        refine ⟨fun found => ?_, fun found => ?_⟩
        · by_contra missing
          rw [isVisited.noGateway (Bool.eq_false_iff.mpr missing)] at found
          obtain ⟨gateway, isGateway⟩ := found
          cases isGateway
        · obtain ⟨gateway, isGateway⟩ := isVisited.gateway (Or.inl found)
          exact ⟨_, isGateway⟩
      have fits (gateway : List UInt8) (isGateway : last.gateway = some gateway) :
          Fits gateway := by
        obtain ⟨address, isAddress⟩ := isVisited.gateway (Or.inl (gatewayIff.mp ⟨_, isGateway⟩))
        rw [isAddress] at isGateway
        exact Option.some.inj isGateway ▸ fits_inetNtoa address
      rw [around.fixed_iff_string fits .empty, six, gatewayIff]
      exact ⟨fun stored => ⟨none, by omega, stored⟩, fun stored => stored.2.2⟩

theorem ipv4_fixed_iff (terminated : 0 ∈ received) :
    Getter.ipv4.Fixed world sent (.buffer size received) ↔
      Getter.ipv4.Stored world sent (cString received) := by
  have ran (memory : Memory) : Getter.ipv4.ran world memory (.buffer size received) =
      rkNetworkIpv4Get world.interfaces (some (cString received)) := by
    rw [Getter.ran, string_of_terminated terminated]
  rw [Getter.Stored]
  cases socket : world.interfaces.socket with
  | false =>
      have nothing : Getter.ipv4.ran world .empty (.buffer size received) = Ipv4.none.ran (-1) := by
        rw [ran, rkNetworkIpv4Get, if_pos socket]
      exact iff_of_false (ipv4_none_not_fixed _ nothing) (by simp)
  | true =>
      cases isFound : world.interfaces.ifconf with
      | none =>
          have nothing : Getter.ipv4.ran world .empty (.buffer size received) =
              Ipv4.none.ran (-1) := by
            rw [ran, rkNetworkIpv4Get, if_neg (by rw [socket]; decide), isFound]
          exact iff_of_false (ipv4_none_not_fixed _ nothing) (by simp)
      | some entries =>
          have visits (memory : Memory) : Getter.ipv4.ran world memory (.buffer size received) =
              let last := visit world.interfaces.netmode (cString received) entries.tail.reverse
                Ipv4.none
              last.2.ran last.1 := by
            rw [ran, rkNetworkIpv4Get, if_neg (by rw [socket]; decide), isFound]
          rw [ipv4_fixed_iff_visit (visited _ _ _ _) visits]
          simp

theorem dns_fixed_iff_words {found : List (Option (List UInt8))}
    (fits : ∀ word, some word ∈ found → Fits word)
    (stores : ∀ memory, Getter.dns.ran world memory interface =
      .stores status [] [found[0]?.join, found[1]?.join]) :
    Getter.dns.Fixed world sent interface ↔
      ∃ first, found[0]? = some (some first) ∧
        ((∃ second, found[1]? = some (some second)) ∨ .closed ∈ sent.take 2) := by
  cases isFirst : found[0]?.join with
  | none =>
      have nothing : Getter.dns.ran world .empty interface =
          .stores status [] (none :: [found[1]?.join]) := by
        rw [stores, isFirst]
      refine iff_of_false (not_fixed_of_string (by decide) nothing) ?_
      rintro ⟨first, isSome, -⟩
      rw [isSome] at isFirst
      cases isFirst
  | some first =>
      have firstSome : found[0]? = some (some first) := Option.join_eq_some_iff.mp isFirst
      have fitsFirst : Fits first := fits first (List.mem_of_getElem? firstSome)
      have around : Getter.dns.Around world sent interface (stringWrites first)
          (fun memory => stringWrites (found[1]?.join.getD (cString (memory.strings 1))))
          [Word.bytes 0] := by
        refine ⟨fun memory => ?_, fun bytes => length_lt_of_mem_stringWrites fitsFirst,
          fun bytes => length_lt_of_mem_word⟩
        rw [Getter.answers, stores, isFirst]
        rfl
      have two : (stringWrites first).length = 2 := by
        rw [stringWrites_of_fits fitsFirst]
        rfl
      have fitsSecond (second : List UInt8) (isSecond : found[1]?.join = some second) :
          Fits second :=
        fits second (List.mem_of_getElem? (Option.join_eq_some_iff.mp isSecond))
      rw [around.fixed_iff_string fitsSecond .empty, two]
      simp only [Option.join_eq_some_iff]
      refine ⟨fun stored => ⟨first, firstSome, stored⟩, ?_⟩
      rintro ⟨-, -, stored⟩
      exact stored

theorem dns_fixed_iff :
    Getter.dns.Fixed world sent interface ↔ Getter.dns.Stored world sent [] := by
  have ran (memory : Memory) : Getter.dns.ran world memory interface =
    rkNetworkDnsGet world.resolvConf := rfl
  rw [Getter.Stored]
  cases isFile : world.resolvConf with
  | none =>
      have nothing : Getter.dns.ran world .empty interface = .stores 0 [] (none :: [none]) := by
        rw [ran, isFile, rkNetworkDnsGet]
      exact iff_of_false (not_fixed_of_string (by decide) nothing) (by simp)
  | some file =>
      have test : ((resolvers file).any fun word => word.any fun word =>
          bufferSize ≤ word.length) = true ↔
            ¬ ∀ word, some word ∈ resolvers file → word.length < bufferSize := by
        simp only [List.any_eq_true, Option.any_eq_true, decide_eq_true_eq]
        push Not
        constructor
        · rintro ⟨_, member, word, rfl, long⟩
          exact ⟨word, member, long⟩
        · rintro ⟨word, member, long⟩
          exact ⟨some word, member, word, rfl, long⟩
      by_cases short : ∀ word, some word ∈ resolvers file → word.length < bufferSize
      · have stores (memory : Memory) : Getter.dns.ran world memory interface =
            .stores (BitVec.ofNat 32 (resolvers file).length) []
              [(resolvers file)[0]?.join, (resolvers file)[1]?.join] := by
          rw [ran, isFile, rkNetworkDnsGet]
          exact if_neg (mt test.mp (not_not.mpr short))
        rw [dns_fixed_iff_words (fun word member => ⟨resolvers_ne_nil member, short word member⟩)
          stores]
        constructor
        · rintro ⟨first, isFirst, second⟩
          exact ⟨file, first, rfl, isFirst, short, second⟩
        · rintro ⟨_, first, isSame, isFirst, -, second⟩
          cases isSame
          exact ⟨first, isFirst, second⟩
      · have overruns : Getter.dns.ran world .empty interface = .overruns := by
          rw [ran, isFile, rkNetworkDnsGet]
          exact if_pos (test.mpr short)
        refine iff_of_false (not_fixed_of_overruns overruns) ?_
        rintro ⟨_, first, isSame, -, fits, -⟩
        cases isSame
        exact short fits

theorem Getter.fixed_iff (asks : getter ≠ .dns) (terminated : 0 ∈ received) :
    getter.Fixed world sent (.buffer size received) ↔
      getter.Stored world sent (cString received) := by
  cases getter with
  | ipv4 => exact ipv4_fixed_iff terminated
  | dns => exact absurd rfl asks
  | mac => exact mac_fixed_iff terminated
  | nicspeed => exact nicspeed_fixed_iff terminated

/-- A name whose end has not been received goes on in what was left. -/
def Memory.named (length : Nat) : Memory :=
  { Memory.empty with name := List.replicate length 0x41 }

theorem string_of_unterminated (unterminated : 0 ∉ received) (length : Nat) :
    (Memory.named length).string (.buffer size received) =
      some (received ++ List.replicate length 0x41) := by
  have noZero : 0 ∉ received ++ List.replicate length (0x41 : UInt8) := by
    intro member
    rcases List.mem_append.mp member with isReceived | isLeft
    · exact unterminated isReceived
    · exact absurd (List.eq_of_mem_replicate isLeft) (by decide)
  rw [Memory.string, Memory.named, cString_of_all noZero]

theorem length_lt_of_mem_entries (entries : List Entry) :
    ∃ length, ∀ entry ∈ entries, entry.ifrName.length < length := by
  induction entries with
  | nil => exact ⟨0, fun entry member => absurd member List.not_mem_nil⟩
  | cons first rest induction =>
      obtain ⟨length, longer⟩ := induction
      refine ⟨first.ifrName.length + length + 1, fun entry member => ?_⟩
      rcases List.mem_cons.mp member with isFirst | isRest
      · rw [isFirst]
        omega
      · have shorter := longer entry isRest
        omega

theorem not_fixed_of_unterminated (asks : getter ≠ .dns) (unterminated : 0 ∉ received) :
    ¬ getter.Fixed world sent (.buffer size received) := by
  have isLong : ifreqSize ≤ (received ++ List.replicate ifreqSize (0x41 : UInt8)).length := by
    rw [List.length_append, List.length_replicate]
    omega
  cases getter with
  | ipv4 =>
      cases isFound : world.interfaces.ifconf with
      | none =>
          have nothing : Getter.ipv4.ran world .empty (.buffer size received) =
              Ipv4.none.ran (-1) := by
            rw [Getter.ran, rkNetworkIpv4Get, isFound, ite_self]
          exact ipv4_none_not_fixed (-1) nothing
      | some entries =>
          obtain ⟨length, longer⟩ := length_lt_of_mem_entries entries.tail.reverse
          have unnamed : ∀ entry ∈ entries.tail.reverse,
              received ++ List.replicate length 0x41 ≠ entry.ifrName := by
            intro entry member same
            have shorter := longer entry member
            rw [← same, List.length_append, List.length_replicate] at shorter
            omega
          have nothing : Getter.ipv4.ran world (.named length) (.buffer size received) =
              Ipv4.none.ran (if world.interfaces.socket = false then -1 else 0) := by
            rw [Getter.ran, rkNetworkIpv4Get, string_of_unterminated unterminated, isFound]
            dsimp only
            rw [visit_of_unnamed unnamed]
            split_ifs <;> rfl
          exact ipv4_none_not_fixed _ nothing
  | dns => exact absurd rfl asks
  | mac =>
      have ran : Getter.mac.ran world (.named ifreqSize) (.buffer size received) =
          if world.hardware.socket = false then .stores (-1) [] [none] else .overruns := by
        rw [Getter.ran, string_of_unterminated unterminated, rkNetworkGetMac, if_pos isLong]
      by_cases socket : world.hardware.socket = false
      · exact not_fixed_of_string (by decide) (ran.trans (if_pos socket))
      · exact not_fixed_of_overruns (ran.trans (if_neg socket))
  | nicspeed =>
      have ran : Getter.nicspeed.ran world (.named ifreqSize) (.buffer size received) =
          .overruns := by
        rw [Getter.ran, string_of_unterminated unterminated]
        exact if_pos isLong
      exact not_fixed_of_overruns ran

theorem not_fixed_of_null (asks : getter ≠ .dns) (unread : ¬ getter.Reads world) :
    ¬ getter.Fixed world sent .null := by
  cases getter with
  | ipv4 =>
      have nothing : ∃ status, Getter.ipv4.ran world .empty .null = Ipv4.none.ran status := by
        rw [Getter.ran, rkNetworkIpv4Get]
        cases socket : world.interfaces.socket with
        | false => exact ⟨-1, rfl⟩
        | true =>
            cases isFound : world.interfaces.ifconf with
            | none => exact ⟨-1, rfl⟩
            | some entries =>
                have short : entries.tail = [] := by
                  by_contra more
                  exact unread ⟨socket, entries, isFound, more⟩
                refine ⟨0, ?_⟩
                rw [if_neg (by decide)]
                exact if_pos short
      obtain ⟨status, isNone⟩ := nothing
      exact ipv4_none_not_fixed status isNone
  | dns => exact absurd rfl asks
  | mac =>
      have nothing : Getter.mac.ran world .empty .null = .stores (-1) [] (none :: []) := by
        exact if_pos (Bool.eq_false_iff.mpr unread)
      exact not_fixed_of_string (by decide) nothing
  | nicspeed => exact absurd trivial unread

theorem answers_of_null (reads : getter.Reads world) :
    getter.answers world sent memory .null = [] := by
  have crashes : getter.ran world memory .null = .crashes := by
    cases getter with
    | ipv4 =>
        obtain ⟨socket, entries, isFound, more⟩ := reads
        rw [Getter.ran, rkNetworkIpv4Get, if_neg (by rw [socket]; decide), isFound]
        exact if_neg more
    | dns => exact reads.elim
    | mac =>
        have socket : world.hardware.socket = true := reads
        exact if_neg (by rw [socket]; decide)
    | nicspeed => rfl
  rw [Getter.answers, crashes]
  rfl

theorem Ipv4.ran_ne_crashes (stored : Ipv4) : stored.ran status ≠ .crashes := by
  rw [Ipv4.ran]
  split_ifs
  · exact Ran.noConfusion
  · exact Ran.noConfusion

theorem ran_ne_crashes : getter.ran world memory (.buffer size received) ≠ .crashes := by
  cases getter with
  | ipv4 =>
      rw [Getter.ran, Memory.string, rkNetworkIpv4Get]
      split_ifs
      · exact Ipv4.ran_ne_crashes _
      · cases world.interfaces.ifconf with
        | none => exact Ipv4.ran_ne_crashes _
        | some entries => exact Ipv4.ran_ne_crashes _
  | dns =>
      rw [Getter.ran]
      cases world.resolvConf with
      | none => exact Ran.noConfusion
      | some file =>
          rw [rkNetworkDnsGet]
          split_ifs
          · exact Ran.noConfusion
          · exact Ran.noConfusion
  | mac =>
      rw [Getter.ran, Memory.string, rkNetworkGetMac]
      split_ifs
      · exact Ran.noConfusion
      · exact Ran.noConfusion
      · cases world.hardware.hwaddr <;> exact Ran.noConfusion
  | nicspeed =>
      rw [Getter.ran, Memory.string, rkNetworkNicspeedGet]
      split_ifs
      · exact Ran.noConfusion
      · exact Ran.noConfusion
      · exact Ran.noConfusion

theorem answers_ne_nil :
    ∃ memory, getter.answers world sent memory (.buffer size received) ≠ [] := by
  let goesOn : Memory := { Memory.empty with overrun := some ⟨0, fun _ => 0, fun _ => []⟩ }
  refine ⟨goesOn, ?_⟩
  obtain ⟨found, isFound⟩ : ∃ found,
      goesOn.found (getter.ran world goesOn (.buffer size received)) = some found := by
    cases ran : getter.ran world goesOn (.buffer size received) with
    | crashes => exact absurd ran ran_ne_crashes
    | overruns => exact ⟨_, rfl⟩
    | stores status ints strings => exact ⟨_, rfl⟩
  rw [Getter.answers, isFound]
  cases getter <;> exact List.cons_ne_nil _ _

end Answers

section Requests

variable {getter : Getter} {world : World} {client : Client}

theorem toNat_ofBytes (first second third fourth : UInt8) :
    (Word.ofBytes [first, second, third, fourth]).toNat =
      (first.toNat + 2 ^ 8 * (second.toNat + 2 ^ 8 * (third.toNat +
        2 ^ 8 * (fourth.toNat + 2 ^ 8 * 0)))) % 2 ^ 32 := by
  rw [Word.ofBytes, BitVec.toNat_ofNat, List.foldr_cons, List.foldr_cons, List.foldr_cons,
    List.foldr_cons, List.foldr_nil]

theorem large_of_last {first second third value : Nat} (firstLt : first < 2 ^ 8)
    (secondLt : second < 2 ^ 8) (thirdLt : third < 2 ^ 8)
    (isValue : value =
      (first + 2 ^ 8 * (second + 2 ^ 8 * (third + 2 ^ 8 * (255 + 2 ^ 8 * 0)))) % 2 ^ 32) :
    2 ^ 32 ≤ 2 * value := by
  omega

theorem negative_of_last (first second third : UInt8) {fourth : UInt8}
    (isLast : fourth.toNat = 255) :
    (Word.ofBytes [first, second, third, fourth]).toInt < 0 := by
  have value := toNat_ofBytes first second third fourth
  rw [isLast] at value
  exact BitVec.toInt_neg_iff.mpr
    (large_of_last first.toNat_lt second.toNat_lt third.toNat_lt value)

theorem cut_length {bytes : List UInt8} (cut : bytes.length < 4) :
    (Word.ofBytes (bytes ++ firstBytes (fun _ => 0xff) (4 - bytes.length))).toInt < 0 := by
  rcases bytes with _ | ⟨first, _ | ⟨second, _ | ⟨third, _ | ⟨fourth, rest⟩⟩⟩⟩
  · exact negative_of_last 0xff 0xff 0xff rfl
  · exact negative_of_last first 0xff 0xff rfl
  · exact negative_of_last first second 0xff rfl
  · exact negative_of_last first second third rfl
  · simp only [List.length_cons] at cut
    omega

theorem readBuffer_of_negative {length : Word} (negative : length.toInt < 0) :
    client.readBuffer length = some (.null, client) := by
  have isNull : decide (0 ≤ length.toInt) = false := decide_eq_false (Int.not_le.mpr negative)
  unfold Client.readBuffer
  rw [isNull, Bool.and_false]
  exact if_pos (Int.le_of_lt negative)

theorem readInterface_of_negative {length : Nat → UInt8} {word : Word} {next : Client}
    (isRead : client.readWord length = some (word, next)) (negative : word.toInt < 0) :
    client.readInterface length = some (.null, next) := by
  have notZero : word ≠ 0 := by
    intro isZero
    rw [isZero] at negative
    exact absurd negative (by decide)
  rw [Client.readInterface, isRead, Option.bind_some, if_neg notZero]
  exact readBuffer_of_negative negative

/-- Either what is asked does not depend on what was left, or there may be no name. -/
theorem readInterface_cases (client : Client) :
    (∀ length other, client.readInterface length = client.readInterface other) ∨
      ∃ length after, client.readInterface length = some (.null, after) := by
  obtain ⟨received, next, isRead⟩ : ∃ received next, client.recv 4 true = (received, next) :=
    ⟨_, _, rfl⟩
  cases received with
  | closed =>
      refine Or.inl fun length other => ?_
      simp only [Client.readInterface, Client.readWord, isRead]
  | all bytes =>
      refine Or.inl fun length other => ?_
      simp only [Client.readInterface, Client.readWord, isRead]
  | failed bytes =>
      have cut : bytes.length < 4 := by
        unfold Client.recv at isRead
        rw [if_neg (by decide)] at isRead
        split at isRead
        · cases isRead
        · split_ifs at isRead with enough isLast
          · cases isRead
          · cases isRead
          · cases isRead
            omega
      refine Or.inr ⟨fun _ => 0xff, next, readInterface_of_negative ?_ (cut_length cut)⟩
      rw [Client.readWord, isRead]

/-- The handler comes to no answer, whatever was left. -/
def Getter.Unanswered (getter : Getter) (world : World) (client : Client) : Prop :=
  ∀ length interface after, client.readInterface length = some (interface, after) →
    interface = .null ∧ getter.Reads world

/-- The name has come with its end, and what is sent about it has been stored. -/
def Getter.Answered (getter : Getter) (world : World) (client : Client) : Prop :=
  ∃ size received, (∀ length, ∃ after,
      client.readInterface length = some (.buffer size received, after)) ∧
    0 ∈ received ∧ getter.Stored world client.sent (cString received)

def Getter.Holds (getter : Getter) (world : World) (client : Client) : Prop :=
  if getter = .dns then getter.Stored world client.sent []
  else getter.Unanswered world client ∨ getter.Answered world client

theorem dns_clean_iff :
    Getter.dns.Clean world client ↔ Getter.dns.Fixed world client.sent .null := by
  constructor
  · rintro ⟨same, fits⟩
    refine ⟨fun memory other => ?_, fun memory => ?_⟩
    · have both := same ⟨fun _ => 0, memory⟩ ⟨fun _ => 0, other⟩
      rw [sends_of_dns, sends_of_dns] at both
      exact both
    · have all := fits ⟨fun _ => 0, memory⟩
      rw [sends_of_dns] at all
      exact all
  · rintro ⟨same, fits⟩
    refine ⟨fun left other => ?_, fun left => ?_⟩
    · rw [sends_of_dns, sends_of_dns]
      exact same _ _
    · rw [sends_of_dns]
      exact fits _

theorem sends_of_named (asks : getter ≠ .dns) {length : Nat → UInt8} {interface : Pointer}
    {after : Client} (isRead : client.readInterface length = some (interface, after))
    (memory : Memory) : getter.sends world client ⟨length, memory⟩ =
      getter.answers world client.sent memory interface := by
  rw [sends_of_interface asks, isRead]

/-- A clean handler answers the same about every name that it can come to. -/
theorem Getter.Clean.fixed (clean : getter.Clean world client) (asks : getter ≠ .dns)
    {length : Nat → UInt8} {interface : Pointer} {after : Client}
    (isRead : client.readInterface length = some (interface, after)) :
    getter.Fixed world client.sent interface where
  same := by
    intro memory other
    have both := clean.same ⟨length, memory⟩ ⟨length, other⟩
    rw [sends_of_named asks isRead memory, sends_of_named asks isRead other] at both
    exact both
  fits := by
    intro memory
    have all := clean.fits ⟨length, memory⟩
    rw [sends_of_named asks isRead memory] at all
    exact all

theorem clean_of_unanswered (asks : getter ≠ .dns) (unanswered : getter.Unanswered world client) :
    getter.Clean world client := by
  have silent (left : Leftover) : getter.sends world client left = [] := by
    rw [sends_of_interface asks]
    cases isRead : client.readInterface left.length with
    | none => rfl
    | some read =>
        obtain ⟨interface, after⟩ := read
        obtain ⟨isNull, reads⟩ := unanswered left.length interface after isRead
        rw [isNull]
        exact answers_of_null reads
  refine ⟨fun left other => (silent left).trans (silent other).symm, fun left bytes member => ?_⟩
  rw [silent] at member
  cases member

theorem clean_of_answered (asks : getter ≠ .dns) (answered : getter.Answered world client) :
    getter.Clean world client := by
  obtain ⟨size, received, isRead, terminated, stored⟩ := answered
  have fixed : getter.Fixed world client.sent (.buffer size received) :=
    (getter.fixed_iff asks terminated).mpr stored
  have sends (left : Leftover) : getter.sends world client left =
      getter.answers world client.sent left.memory (.buffer size received) := by
    obtain ⟨after, isNamed⟩ := isRead left.length
    exact sends_of_named asks isNamed left.memory
  refine ⟨fun left other => ?_, fun left => ?_⟩
  · rw [sends, sends]
    exact fixed.same _ _
  · rw [sends]
    exact fixed.fits _

/-- When there may be no name, a clean handler comes to no answer about any. -/
theorem unanswered_of_null (asks : getter ≠ .dns) (clean : getter.Clean world client)
    {length : Nat → UInt8} {after : Client}
    (isNull : client.readInterface length = some (.null, after)) :
    getter.Unanswered world client := by
  have reads : getter.Reads world := by
    by_contra unread
    exact not_fixed_of_null asks unread (clean.fixed asks isNull)
  intro other interface behind isRead
  refine ⟨?_, reads⟩
  cases interface with
  | null => rfl
  | buffer size received =>
      obtain ⟨memory, goesOn⟩ : ∃ memory,
          getter.answers world client.sent memory (.buffer size received) ≠ [] := answers_ne_nil
      have same := clean.same ⟨other, memory⟩ ⟨length, memory⟩
      rw [sends_of_named asks isRead memory, sends_of_named asks isNull memory,
        answers_of_null reads] at same
      exact absurd same goesOn

theorem unanswered_or_answered (asks : getter ≠ .dns) (clean : getter.Clean world client) :
    getter.Unanswered world client ∨ getter.Answered world client := by
  rcases readInterface_cases client with always | ⟨length, after, isNull⟩
  · cases isRead : client.readInterface fun _ => 0 with
    | none =>
        refine Or.inl fun length interface after isSome => ?_
        rw [always length fun _ => 0, isRead] at isSome
        cases isSome
    | some read =>
        obtain ⟨interface, after⟩ := read
        cases interface with
        | null => exact Or.inl (unanswered_of_null asks clean isRead)
        | buffer size received =>
            have fixed := clean.fixed asks isRead
            have terminated : 0 ∈ received := by
              by_contra unterminated
              exact not_fixed_of_unterminated asks unterminated fixed
            refine Or.inr ⟨size, received, fun length => ⟨after, ?_⟩, terminated,
              (getter.fixed_iff asks terminated).mp fixed⟩
            rw [always length fun _ => 0, isRead]
  · exact Or.inl (unanswered_of_null asks clean isNull)

theorem clean_iff (getter : Getter) (world : World) (client : Client) :
    getter.Clean world client ↔ getter.Holds world client := by
  by_cases asks : getter = .dns
  · rw [asks, Getter.Holds, if_pos rfl, dns_clean_iff, dns_fixed_iff]
  · rw [Getter.Holds, if_neg asks]
    refine ⟨unanswered_or_answered asks, fun holds => ?_⟩
    rcases holds with unanswered | answered
    · exact clean_of_unanswered asks unanswered
    · exact clean_of_answered asks answered

end Requests

def unresolved : World := ⟨⟨false, none, []⟩, none, ⟨false, none⟩, ⟨false, none⟩⟩

/-- What was left in the arrays is sent. -/
theorem leftover_sent :
    ¬ ∀ (getter : Getter) (world : World) (client : Client), getter.Clean world client := by
  intro general
  have fixed := dns_clean_iff.mp (general .dns unresolved ⟨[], true, false, []⟩)
  have nothing : Getter.dns.ran unresolved .empty .null = .stores 0 [] (none :: [none]) := rfl
  exact not_fixed_of_string (by decide) nothing fixed

end Rkipc.Network
