import Mathlib.Data.List.TakeWhile
import Rkipc.Network.Getters

namespace Rkipc.Network

open Rpc

/-! What the getters store. -/

/-- A string that is sent with its characters and fits a buffer. -/
def Fits (string : List UInt8) : Prop := string ≠ [] ∧ string.length < bufferSize

theorem decimal_length (byte : UInt8) : (decimal byte).length ≤ 3 := by
  rw [decimal, List.length_map, Nat.length_toDigits_le_iff (by decide) (by decide)]
  exact Nat.lt_trans byte.toNat_lt (by decide)

theorem hex_length (byte : UInt8) : (hex byte).length ≤ 2 := by
  rw [hex, List.length_map, Nat.length_toDigits_le_iff (by decide) (by decide)]
  exact byte.toNat_lt

theorem fits_inetNtoa (address : InAddr) : Fits (inetNtoa address) := by
  have first := decimal_length address.first
  have second := decimal_length address.second
  have third := decimal_length address.third
  have fourth := decimal_length address.fourth
  refine ⟨by simp [inetNtoa], ?_⟩
  simp only [inetNtoa, bufferSize, List.length_append, List.length_cons]
  omega

theorem fits_macText (address : Fin 6 → UInt8) : Fits (macText address) := by
  have short (index : Fin 6) := hex_length (address index)
  have text : macText address = hex (address 0) ++ 0x3a :: (hex (address 1) ++ 0x3a ::
      (hex (address 2) ++ 0x3a :: (hex (address 3) ++ 0x3a :: (hex (address 4) ++ 0x3a ::
        hex (address 5))))) := by
    simp [macText, List.intercalate, List.ofFn_succ, List.intersperse]
  rw [text]
  refine ⟨by simp, ?_⟩
  have h0 := short 0
  have h1 := short 1
  have h2 := short 2
  have h3 := short 3
  have h4 := short 4
  have h5 := short 5
  simp only [bufferSize, List.length_append, List.length_cons]
  omega

section Ipv4

variable {netmode interface : List UInt8} {entry : Entry} {entries : List Entry} {stored : Ipv4}
  {routes : List Route} {gateway : Option (List UInt8)}

/-- All that is asked about the entry is answered. -/
def Entry.answers (entry : Entry) : Bool :=
  entry.flags && entry.address.isSome && entry.netmask.isSome

def served (interface : List UInt8) (entries : List Entry) : List Entry :=
  (entries.filter fun entry => interface = entry.ifrName).takeWhile Entry.answers

def Entry.hasGateway (entry : Entry) : Bool := entry.routes.any Route.isDefault

def IsAddress (string : Option (List UInt8)) : Prop :=
  ∃ address, string = some (inetNtoa address)

theorem getGateway_cons (route : Route) :
    getGateway (route :: routes) gateway = getGateway routes (parseRoutes gateway route) := rfl

theorem getGateway_of_none (noDefault : routes.any Route.isDefault = false) :
    getGateway routes gateway = gateway := by
  induction routes generalizing gateway with
  | nil => rfl
  | cons route routes induction =>
      rw [List.any_cons, Bool.or_eq_false_iff] at noDefault
      rw [getGateway_cons, parseRoutes, noDefault.1, if_neg (by decide), induction noDefault.2]

theorem getGateway_of_default (isDefault : routes.any Route.isDefault = true) :
    IsAddress (getGateway routes gateway) := by
  induction routes generalizing gateway with
  | nil => cases isDefault
  | cons route routes induction =>
      rw [getGateway_cons]
      cases others : routes.any Route.isDefault with
      | true => exact induction others
      | false =>
          rw [List.any_cons, others, Bool.or_false] at isDefault
          rw [getGateway_of_none others, parseRoutes, if_pos isDefault]
          exact ⟨route.gateWay, rfl⟩

/-- What the loop leaves, from what was stored before it. -/
structure Visited (netmode : List UInt8) (served : List Entry) (stored last : Ipv4) : Prop where
  method : last.method =
    if served = [] then stored.method else some (cString (netmodeOrDhcp netmode))
  address : served ≠ [] ∨ IsAddress stored.address → IsAddress last.address
  netmask : served ≠ [] ∨ IsAddress stored.netmask → IsAddress last.netmask
  gateway : served.any Entry.hasGateway = true ∨ IsAddress stored.gateway →
    IsAddress last.gateway
  noGateway : served.any Entry.hasGateway = false → last.gateway = stored.gateway

theorem Visited.stop (address : IsAddress stored.address → IsAddress last.address)
    (rest : last.method = stored.method ∧ last.netmask = stored.netmask ∧
      last.gateway = stored.gateway) : Visited netmode [] stored last where
  method := rest.1
  address := fun found => found.elim (fun some => absurd rfl some) address
  netmask := fun found => found.elim (fun some => absurd rfl some) fun known => rest.2.1 ▸ known
  gateway := fun found => found.elim (fun some => Bool.noConfusion some) fun known =>
    rest.2.2 ▸ known
  noGateway := fun _ => rest.2.2

theorem Visited.read {address netmask : InAddr} {last : Ipv4} {others : List Entry}
    (rest : Visited netmode others
      { stored with
        address := some (inetNtoa address)
        netmask := some (inetNtoa netmask)
        gateway := getGateway entry.routes stored.gateway
        method := some (cString (netmodeOrDhcp netmode)) } last) :
    Visited netmode (entry :: others) stored last where
  method := by
    rw [rest.method, if_neg (List.cons_ne_nil entry others), ite_self]
  address := fun _ => rest.address (Or.inr ⟨address, rfl⟩)
  netmask := fun _ => rest.netmask (Or.inr ⟨netmask, rfl⟩)
  gateway := by
    intro found
    refine rest.gateway ?_
    cases others : entry.hasGateway with
    | true => exact Or.inr (getGateway_of_default others)
    | false =>
        rw [List.any_cons, others, Bool.false_or] at found
        exact found.imp_right fun known => (getGateway_of_none others).symm ▸ known
  noGateway := by
    intro missing
    rw [List.any_cons, Bool.or_eq_false_iff] at missing
    rw [rest.noGateway missing.2]
    exact getGateway_of_none missing.1

theorem visited (netmode interface : List UInt8) (entries : List Entry) (stored : Ipv4) :
    Visited netmode (served interface entries) stored
      (visit netmode interface entries stored).2 := by
  induction entries generalizing stored with
  | nil => exact Visited.stop id ⟨rfl, rfl, rfl⟩
  | cons entry rest induction =>
      by_cases named : interface = entry.ifrName
      · have kept : served interface (entry :: rest) =
            if entry.answers = true then entry :: served interface rest else [] := by
          rw [served, List.filter_cons_of_pos (by simpa using named), List.takeWhile_cons, served]
        rw [kept, visit, if_neg (not_not.mpr named), Entry.answers]
        cases flags : entry.flags with
        | false => exact Visited.stop id ⟨rfl, rfl, rfl⟩
        | true =>
            cases entry.address with
            | none => exact Visited.stop id ⟨rfl, rfl, rfl⟩
            | some address =>
                cases entry.netmask with
                | none => exact Visited.stop (fun _ => ⟨address, rfl⟩) ⟨rfl, rfl, rfl⟩
                | some netmask => exact (induction _).read
      · have skipped : served interface (entry :: rest) = served interface rest := by
          rw [served, List.filter_cons_of_neg (by simpa using named), served]
        rw [skipped, visit, if_pos named]
        exact induction stored

theorem visit_of_unnamed (unnamed : ∀ entry ∈ entries, interface ≠ entry.ifrName) :
    visit netmode interface entries stored = (0, stored) := by
  induction entries with
  | nil => rfl
  | cons entry rest induction =>
      rw [visit, if_pos (unnamed entry List.mem_cons_self)]
      exact induction fun other member => unnamed other (List.mem_cons_of_mem entry member)

theorem cString_of_all {bytes : List UInt8} (noZero : 0 ∉ bytes) : cString bytes = bytes := by
  refine List.takeWhile_eq_self_iff.mpr fun byte member => ?_
  exact decide_eq_true fun isZero => noZero (isZero ▸ member)

theorem cString_append {bytes : List UInt8} (terminated : 0 ∈ bytes) (memory : List UInt8) :
    cString (bytes ++ memory) = cString bytes := by
  induction bytes with
  | nil => cases terminated
  | cons byte rest induction =>
      by_cases isZero : byte = 0
      · rw [isZero]
        rfl
      · have later : 0 ∈ rest := (List.mem_cons.mp terminated).resolve_left (Ne.symm isZero)
        rw [cString, List.cons_append, List.takeWhile_cons, ← cString, induction later, cString,
          cString, List.takeWhile_cons]

theorem netmodeOrDhcp_ne_nil (netmode : List UInt8) : cString (netmodeOrDhcp netmode) ≠ [] := by
  rw [netmodeOrDhcp]
  split_ifs with empty
  · exact List.cons_ne_nil _ _
  · exact empty

end Ipv4

section Dns

theorem secondWord_ne_nil {buf word : List UInt8} (found : secondWord buf = some word) :
    word ≠ [] := by
  intro empty
  rw [secondWord, empty] at found
  split_ifs at found with isEmpty
  exact isEmpty (Option.some.inj found)

theorem servers_ne_nil {buf : List UInt8} {lines : List (List UInt8)} {word : List UInt8}
    (found : some word ∈ servers buf lines) : word ≠ [] := by
  induction lines generalizing buf with
  | nil => cases found
  | cons line lines induction =>
      rw [servers] at found
      split_ifs at found with accepted
      · rcases List.mem_cons.mp found with first | later
        · exact secondWord_ne_nil first.symm
        · exact induction later
      · exact induction found

theorem resolvers_ne_nil {file word : List UInt8} (found : some word ∈ resolvers file) :
    word ≠ [] :=
  servers_ne_nil (List.mem_of_mem_take found)

end Dns

end Rkipc.Network
