import Mathlib.Data.List.GetD
import Rkipc.Network.RouteDump

namespace Rkipc.Network

open Libc

/-! Which gateway is found in a dump. -/

section Headers

variable {message : Message} {rtAttr : Attribute} {rest : List UInt8}

theorem padded_message (message : Message) (rest : List UInt8) : ∃ behind,
    padded 0 message.bytes ++ rest =
      leBytes 4 (message.payload.length + 16) ++ (leBytes 2 message.type.toNat ++
        (leBytes 2 message.flags.toNat ++ (leBytes 4 message.seq.toNat ++
          (leBytes 4 message.pid.toNat ++ (message.payload ++ behind))))) := by
  refine ⟨List.replicate (alignTo4 message.bytes.length - message.bytes.length) 0 ++ rest, ?_⟩
  simp only [padded, Message.bytes, List.append_assoc]

theorem padded_attribute (rtAttr : Attribute) (rest : List UInt8) : ∃ behind,
    padded 0 rtAttr.bytes ++ rest = leBytes 2 (rtAttr.payload.length + 4) ++
      (leBytes 2 rtAttr.type.toNat ++ (rtAttr.payload ++ behind)) := by
  refine ⟨List.replicate (alignTo4 rtAttr.bytes.length - rtAttr.bytes.length) 0 ++ rest, ?_⟩
  simp only [padded, Attribute.bytes, List.append_assoc]

theorem length_message (message : Message) :
    message.bytes.length = message.payload.length + 16 := by
  simp only [Message.bytes, List.length_append, length_leBytes]
  omega

theorem length_attribute : rtAttr.bytes.length = rtAttr.payload.length + 4 := by
  simp only [Attribute.bytes, List.length_append, length_leBytes]
  omega

theorem nlmsgLen_message (small : message.bytes.length < 2 ^ 32) :
    NlHdr.nlmsgLen (padded 0 message.bytes ++ rest) = message.bytes.length := by
  obtain ⟨behind, isRecord⟩ := padded_message message rest
  rw [length_message] at small ⊢
  rw [isRecord]
  exact numberAt_zero small

theorem nlmsgType_message :
    NlHdr.nlmsgType (padded 0 message.bytes ++ rest) = message.type.toNat := by
  obtain ⟨behind, isRecord⟩ := padded_message message rest
  rw [isRecord, NlHdr.nlmsgType, numberAt_append (by simp), length_leBytes]
  exact numberAt_zero message.type.toNat_lt

theorem nlmsgFlags_message :
    NlHdr.nlmsgFlags (padded 0 message.bytes ++ rest) = message.flags.toNat := by
  obtain ⟨behind, isRecord⟩ := padded_message message rest
  rw [isRecord, NlHdr.nlmsgFlags, numberAt_append (by simp), length_leBytes,
    numberAt_append (by simp), length_leBytes]
  exact numberAt_zero message.flags.toNat_lt

theorem nlmsgSeq_message :
    NlHdr.nlmsgSeq (padded 0 message.bytes ++ rest) = message.seq.toNat := by
  obtain ⟨behind, isRecord⟩ := padded_message message rest
  rw [isRecord, NlHdr.nlmsgSeq, numberAt_append (by simp), length_leBytes,
    numberAt_append (by simp), length_leBytes, numberAt_append (by simp), length_leBytes]
  exact numberAt_zero message.seq.toNat_lt

theorem drop_message (message : Message) (rest : List UInt8) : ∃ behind,
    (padded 0 message.bytes ++ rest).drop 16 = message.payload ++ behind := by
  obtain ⟨behind, isRecord⟩ := padded_message message rest
  refine ⟨behind, ?_⟩
  rw [isRecord]
  simp [List.drop_append, List.drop_eq_nil_of_le]

theorem rtaLen_attribute (small : rtAttr.bytes.length < 2 ^ 16) :
    numberAt 0 2 (padded 0 rtAttr.bytes ++ rest) = rtAttr.bytes.length := by
  obtain ⟨behind, isRecord⟩ := padded_attribute rtAttr rest
  rw [length_attribute] at small ⊢
  rw [isRecord]
  exact numberAt_zero small

theorem rtaType_attribute :
    numberAt 2 2 (padded 0 rtAttr.bytes ++ rest) = rtAttr.type.toNat := by
  obtain ⟨behind, isRecord⟩ := padded_attribute rtAttr rest
  rw [isRecord, numberAt_append (by simp), length_leBytes]
  exact numberAt_zero rtAttr.type.toNat_lt

theorem address_attribute (four : rtAttr.payload.length = 4) :
    address ((padded 0 rtAttr.bytes ++ rest).drop 4) = address rtAttr.payload := by
  obtain ⟨behind, isRecord⟩ := padded_attribute rtAttr rest
  have isPayload : (padded 0 rtAttr.bytes ++ rest).drop 4 = rtAttr.payload ++ behind := by
    rw [isRecord]
    simp [List.drop_append]
  have inside (index : Nat) (less : index < 4) :
      (rtAttr.payload ++ behind).getD index 0 = rtAttr.payload.getD index 0 :=
    List.getD_append _ _ _ _ (by omega)
  rw [isPayload]
  simp only [address, inside 0 (by omega), inside 1 (by omega), inside 2 (by omega),
    inside 3 (by omega)]

end Headers

section Parsing

def Attribute.into (rtAttr : Attribute) (route : Route) : Route :=
  if rtAttr.type.toNat = rtaGateway then { route with gateWay := address rtAttr.payload }
  else if rtAttr.type.toNat = rtaDst then { route with dstAddr := address rtAttr.payload }
  else route

def RouteMessage.parsed (route : RouteMessage) : Route :=
  if route.InMain then ⟨true, route.dstAddr, route.gateWay⟩ else ⟨false, noAddress, noAddress⟩

variable {route : RouteMessage} {rtAttr : Attribute} {attributes : List Attribute}

theorem readAttr_attribute (rest : List UInt8)
    (isAddress : rtAttr.type.toNat = rtaDst ∨ rtAttr.type.toNat = rtaGateway →
      rtAttr.payload.length = 4) (route : Route) :
    route.readAttr (padded 0 rtAttr.bytes ++ rest) = rtAttr.into route := by
  rw [Route.readAttr, rtaType_attribute, Attribute.into]
  split
  next isGateway => rw [address_attribute (isAddress (.inr isGateway))]
  next =>
    split
    next isDst => rw [address_attribute (isAddress (.inl isDst))]
    next => rfl

theorem foldl_into (attributes : List Attribute) (route : Route) :
    attributes.foldl (fun route rtAttr => rtAttr.into route) route =
      let writes := attributes.map fun rtAttr => (rtAttr.type.toNat, rtAttr.payload)
      ⟨route.inMainTable, ((lastWrite rtaDst writes).map address).getD route.dstAddr,
        ((lastWrite rtaGateway writes).map address).getD route.gateWay⟩ := by
  induction attributes generalizing route with
  | nil => rfl
  | cons rtAttr attributes induction =>
      rw [List.foldl_cons, induction]
      dsimp only
      rw [List.map_cons, lastWrite, lastWrite, Attribute.into]
      generalize (attributes.map fun rtAttr => (rtAttr.type.toNat, rtAttr.payload)) = writes
      by_cases isGateway : rtAttr.type.toNat = rtaGateway
      · have notDst : ¬ rtAttr.type.toNat = rtaDst := by
          rw [isGateway]
          decide
        rw [if_pos isGateway, if_pos isGateway, if_neg notDst, Option.or_none]
        cases lastWrite rtaGateway writes <;> rfl
      · rw [if_neg isGateway, if_neg isGateway, Option.or_none]
        by_cases isDst : rtAttr.type.toNat = rtaDst
        · rw [if_pos isDst, if_pos isDst]
          cases lastWrite rtaDst writes <;> rfl
        · rw [if_neg isDst, if_neg isDst, Option.or_none]

theorem length_le_flatMap {α β : Type} (part : α → List β) {members : List α} {member : α}
    (isIn : member ∈ members) : (part member).length ≤ (members.flatMap part).length :=
  (List.sublist_flatten_of_mem (List.mem_map.mpr ⟨member, isIn, rfl⟩)).length_le

theorem route_message (small : route.message.bytes.length < 2 ^ 16) (rest : List UInt8) :
    NlHdr.route (padded 0 route.message.bytes ++ rest) = route.parsed := by
  obtain ⟨behind, isPayload⟩ := drop_message route.message rest
  have isLen : NlHdr.nlmsgLen (padded 0 route.message.bytes ++ rest) =
      route.message.bytes.length := nlmsgLen_message (by omega)
  generalize padded 0 route.message.bytes ++ rest = nlHdr at isPayload isLen ⊢
  have isFamily : numberAt 16 1 nlHdr = route.family.toNat := by
    rw [numberAt, isPayload]
    rfl
  have isTable : numberAt 20 1 nlHdr = route.table.toNat := by
    rw [numberAt, show 20 = 16 + 4 from rfl, ← List.drop_drop, isPayload]
    rfl
  have isAttributes : nlHdr.drop 28 =
      (route.attributes.flatMap fun rtAttr => padded 0 rtAttr.bytes) ++ behind := by
    rw [show 28 = 16 + 12 from rfl, ← List.drop_drop, isPayload, RouteMessage.message,
      List.append_assoc]
    exact List.drop_left' rfl
  rw [length_message, RouteMessage.message, List.length_append] at isLen small
  have isRest : NlHdr.nlmsgLen nlHdr - 28 =
      (route.attributes.flatMap fun rtAttr => padded 0 rtAttr.bytes).length := by
    have twelve : route.rtmsg.length = 12 := rfl
    omega
  rw [NlHdr.route, RouteMessage.parsed, isFamily, isTable, isAttributes, isRest]
  refine if_ctx_congr Iff.rfl (fun inMain => ?_) fun _ => rfl
  have isMap : (records 4 (numberAt 0 2)
      ((route.attributes.flatMap fun rtAttr => padded 0 rtAttr.bytes) ++ behind)
      (route.attributes.flatMap fun rtAttr => padded 0 rtAttr.bytes).length).map
        (fun memory route => Route.readAttr route memory) =
          route.attributes.map Attribute.into := by
    refine map_records (fun rtAttr _ => ?_) (fun rtAttr isIn rest => ?_)
      (fun rtAttr isIn rest => funext fun before => ?_) behind
    · rw [length_attribute]
      exact Nat.le_add_left 4 _
    · have inside := length_le_flatMap (fun rtAttr => padded 0 rtAttr.bytes) isIn
      have grows := le_alignTo4 rtAttr.bytes.length
      rw [length_padded] at inside
      exact rtaLen_attribute (by omega)
    · exact readAttr_attribute rest (route.isAddress inMain.1 rtAttr isIn) before
  have isFold := congrArg
    (List.foldl (fun route change => change route) ⟨true, noAddress, noAddress⟩) isMap
  rw [List.foldl_map, List.foldl_map] at isFold
  exact isFold.trans (foldl_into route.attributes ⟨true, noAddress, noAddress⟩)

end Parsing

section Receiving

variable {routes : List RouteMessage} {earlier : List (List RouteMessage)} (pId : Nat)
  (received : List (Option (List UInt8))) {front back : List UInt8}

theorem length_le_datagram {messages : List Message} {message : Message}
    (isIn : message ∈ messages) : message.bytes.length ≤ (datagram messages).length := by
  have inside := length_le_flatMap (fun message : Message => padded 0 message.bytes) isIn
  have grows := le_alignTo4 message.bytes.length
  rw [length_padded] at inside
  exact grows.trans inside

theorem readNlSock_cons {first : Message} {others : List Message}
    (isBuf : front.length + back.length = msgBufSize)
    (fits : front.length + (datagram (first :: others)).length ≤ msgBufSize) (seqNum : Nat) :
    ∃ behind, (front ++ datagram (first :: others) ++ behind).length = msgBufSize ∧
      readNlSock seqNum pId (some (datagram (first :: others)) :: received) (front ++ back)
          front.length =
        if first.type.toNat = nlmsgError then .fails
        else if first.type.toNat = nlmsgDone then
          .reads front.length (front ++ datagram (first :: others) ++ behind)
        else
          let msgLen := (front ++ datagram (first :: others)).length
          let msgBuf := front ++ datagram (first :: others) ++ behind
          if first.flags.toNat.testBit 1 = false then .reads msgLen msgBuf
          else if first.seq.toNat ≠ seqNum ∨
              NlHdr.nlmsgPid (datagram (first :: others) ++ behind) ≠ pId then
            readNlSock seqNum pId received msgBuf msgLen
          else .reads msgLen msgBuf := by
  have whole : (datagram (first :: others)).take (msgBufSize - front.length) =
      datagram (first :: others) := List.take_of_length_le (by omega)
  have inside := length_le_datagram (List.mem_cons_self : first ∈ first :: others)
  have isRecord : ∃ rest, datagram (first :: others) = padded 0 first.bytes ++ rest := ⟨_, rfl⟩
  generalize datagram (first :: others) = bytes at *
  obtain ⟨rest, isRecord⟩ := isRecord
  have small : first.bytes.length < 2 ^ 32 := by
    have isSize : msgBufSize = 8192 := rfl
    omega
  have long := length_message first
  refine ⟨back.drop bytes.length, ?_, ?_⟩
  · rw [List.length_append, List.length_append, List.length_drop]
    omega
  · have isHeader : (front ++ bytes ++ back.drop bytes.length).drop front.length =
        padded 0 first.bytes ++ (rest ++ back.drop bytes.length) := by
      rw [List.append_assoc, List.drop_left, isRecord, List.append_assoc]
    have isOk : NlHdr.isOk (padded 0 first.bytes ++ (rest ++ back.drop bytes.length))
        bytes.length = true := by
      rw [NlHdr.isOk, nlmsgLen_message small]
      exact decide_eq_true (by omega)
    rw [readNlSock, whole, store_append, if_pos (by omega)]
    dsimp only
    rw [isHeader, isOk, nlmsgType_message, nlmsgFlags_message, nlmsgSeq_message,
      List.length_append, isRecord, List.append_assoc]
    simp

theorem readNlSock_route {route : RouteMessage} (isBuf : front.length + back.length = msgBufSize)
    (others : List Message)
    (fits : front.length + (datagram (route.message :: others)).length ≤ msgBufSize) :
    ∃ behind, (front ++ datagram (route.message :: others) ++ behind).length = msgBufSize ∧
      readNlSock (msgSeq + 1) pId (some (datagram (route.message :: others)) :: received)
          (front ++ back) front.length =
        readNlSock (msgSeq + 1) pId received
          (front ++ datagram (route.message :: others) ++ behind)
          (front ++ datagram (route.message :: others)).length := by
  obtain ⟨behind, isSize, isRead⟩ := readNlSock_cons pId received isBuf fits
    (msgSeq + 1)
  have isType : route.message.type.toNat = 24 := rfl
  have isMulti : ¬ route.message.flags.toNat.testBit 1 = false := by
    rw [show route.message.flags = route.flags from rfl, route.multi]
    decide
  have notSeq : route.message.seq.toNat ≠ msgSeq + 1 := by
    rw [show route.message.seq.toNat = 0 from rfl]
    decide
  refine ⟨behind, isSize, isRead.trans ?_⟩
  rw [isType, if_neg (by decide), if_neg (by decide), if_neg isMulti, if_pos (.inl notSeq)]

/-- Whatever was sent before the last datagram is gathered, one after another. -/
theorem readNlSock_earlier (notEmpty : ∀ routes ∈ earlier, routes ≠ [])
    (isBuf : front.length + back.length = msgBufSize)
    (fits : front.length + (earlier.flatMap routeDatagram).length ≤ msgBufSize) :
    ∃ behind, (front ++ earlier.flatMap routeDatagram ++ behind).length = msgBufSize ∧
      readNlSock (msgSeq + 1) pId ((earlier.map routeDatagram).map some ++ received)
          (front ++ back) front.length =
        readNlSock (msgSeq + 1) pId received
          (front ++ earlier.flatMap routeDatagram ++ behind)
          (front ++ earlier.flatMap routeDatagram).length := by
  induction earlier generalizing front back with
  | nil =>
      refine ⟨back, ?_, ?_⟩
      · rw [List.flatMap_nil, List.append_nil, List.length_append, isBuf]
      · rw [List.flatMap_nil, List.append_nil, List.map_nil, List.map_nil, List.nil_append]
  | cons routes earlier induction =>
      obtain ⟨isCons, others'⟩ := List.forall_mem_cons.mp notEmpty
      obtain ⟨route, others, rfl⟩ := List.exists_cons_of_ne_nil isCons
      rw [List.flatMap_cons, List.length_append] at fits
      have isDatagram : routeDatagram (route :: others) =
          datagram (route.message :: others.map RouteMessage.message) := rfl
      obtain ⟨behind, isSize, isRead⟩ := readNlSock_route pId
        ((earlier.map routeDatagram).map some ++ received) isBuf
        (others.map RouteMessage.message) (by rw [← isDatagram]; omega)
      rw [← isDatagram] at isSize isRead
      obtain ⟨last, isLast, reads⟩ := induction others'
        (by rw [← List.length_append]; exact isSize) (by rw [List.length_append]; omega)
      rw [List.flatMap_cons, ← List.append_assoc]
      exact ⟨last, isLast, isRead.trans reads⟩

theorem length_request (pId : Nat) : (request pId).length = msgBufSize := by
  rw [request, List.length_append, List.length_replicate]
  refine Nat.add_sub_cancel' ?_
  simp only [List.length_append, length_leBytes]
  decide

theorem flatMap_routeDatagram (earlier : List (List RouteMessage)) :
    earlier.flatMap routeDatagram =
      earlier.flatten.flatMap fun route => padded 0 route.message.bytes := by
  induction earlier with
  | nil => rfl
  | cons routes earlier induction =>
      rw [List.flatMap_cons, induction, List.flatten_cons, List.flatMap_append, routeDatagram,
        datagram, List.flatMap_map]

theorem records_routes
    (small : (routes.flatMap fun route => padded 0 route.message.bytes).length ≤ msgBufSize)
    (rest : List UInt8) :
    (records 16 NlHdr.nlmsgLen
      ((routes.flatMap fun route => padded 0 route.message.bytes) ++ rest)
      (routes.flatMap fun route => padded 0 route.message.bytes).length).map NlHdr.route =
        routes.map RouteMessage.parsed := by
  have isSize : msgBufSize = 8192 := rfl
  have short (route : RouteMessage) (isIn : route ∈ routes) :
      route.message.bytes.length < 2 ^ 16 := by
    have inside := length_le_flatMap (fun route : RouteMessage => padded 0 route.message.bytes) isIn
    have grows := le_alignTo4 route.message.bytes.length
    rw [length_padded] at inside
    omega
  refine map_records (fun route _ => ?_) (fun route isIn rest => ?_)
    (fun route isIn => route_message (short route isIn)) rest
  · rw [length_message]
    exact Nat.le_add_left 16 _
  · have bound := short route isIn
    exact nlmsgLen_message (by omega)

/-- With the end of the dump first in the last datagram the routes are read, else one more
datagram is waited for. -/
theorem getGatewayOfDump_eq (dump : Dump) (pId : Nat) (gateway : Option (List UInt8)) :
    getGatewayOfDump true pId (dump.datagrams.map some) gateway =
      if dump.last = [] then
        .returns 0 (getGateway (dump.routes.map RouteMessage.parsed) gateway)
      else .waits := by
  have fits := dump.fits
  have isRequest : ([] : List UInt8).length + (request pId).length = msgBufSize := by
    rw [length_request, List.length_nil, Nat.zero_add]
  obtain ⟨behind, isSize, isRead⟩ := readNlSock_earlier pId
    ([some (datagram (dump.last.map RouteMessage.message ++ dump.done :: dump.behind))])
    dump.notEmpty isRequest (by rw [List.length_nil]; omega)
  rw [List.nil_append, List.nil_append, List.length_nil] at isRead
  rw [List.nil_append, List.length_append] at isSize
  rw [getGatewayOfDump, if_neg (by decide), Dump.datagrams, List.map_append, List.map_singleton,
    isRead]
  cases isLast : dump.last with
  | cons route others =>
      rw [isLast] at fits
      obtain ⟨_, _, isWait⟩ := readNlSock_route pId [] isSize
        (others.map RouteMessage.message ++ dump.done :: dump.behind) fits
      rw [List.map_cons, List.cons_append, isWait, readNlSock, if_neg (List.cons_ne_nil _ _)]
  | nil =>
      rw [isLast] at fits
      obtain ⟨rest, _, isDone⟩ := readNlSock_cons pId [] isSize fits
        (msgSeq + 1)
      rw [dump.isDone, if_neg (by decide), if_pos rfl] at isDone
      have isRoutes : dump.routes = dump.earlier.flatten := by
        rw [Dump.routes, isLast, List.append_nil]
      rw [List.map_nil, List.nil_append, isDone, if_pos rfl, isRoutes]
      dsimp only
      rw [List.append_assoc, flatMap_routeDatagram, records_routes]
      rw [← flatMap_routeDatagram]
      omega

end Receiving

section Printed

variable {left left' right right' : List UInt8} {addr addr' : InAddr}

set_option maxRecDepth 20000 in
/-- The printed bytes: they are read back, and only those of whole tens end in a zero. -/
theorem decimal_cases : ∀ number < 256,
    0x2e ∉ decimal (UInt8.ofNat number) ∧
      ((decimal (UInt8.ofNat number)).getLast? = some 0x30 ↔ 10 ∣ number) ∧
      ((decimal (UInt8.ofNat number)).head? = some 0x30 ↔ number = 0) ∧
      (decimal (UInt8.ofNat number)).foldl (fun value digit => value * 10 + (digit.toNat - 48)) 0 =
        number := by
  decide

theorem decimal_byte (byte : UInt8) :
    0x2e ∉ decimal byte ∧ ((decimal byte).getLast? = some 0x30 ↔ 10 ∣ byte.toNat) ∧
      ((decimal byte).head? = some 0x30 ↔ byte = 0) ∧
      (decimal byte).foldl (fun value digit => value * 10 + (digit.toNat - 48)) 0 =
        byte.toNat := by
  have cases := decimal_cases byte.toNat byte.toNat_lt
  rw [UInt8.ofNat_toNat] at cases
  have isZero : byte.toNat = (0 : UInt8).toNat ↔ byte = 0 := UInt8.toNat_inj
  exact ⟨cases.1, cases.2.1, cases.2.2.1.trans isZero, cases.2.2.2⟩

theorem decimal_inj {byte byte' : UInt8} (same : decimal byte = decimal byte') : byte = byte' := by
  rw [← UInt8.toNat_inj, ← (decimal_byte byte).2.2.2, same, (decimal_byte byte').2.2.2]

theorem append_dot_inj (free : 0x2e ∉ left) (free' : 0x2e ∉ left')
    (same : left ++ 0x2e :: right = left' ++ 0x2e :: right') : left = left' ∧ right = right' := by
  have fronts := congrArg (Libc.cString 0x2e) same
  rw [cString_append free, cString_append free', cString_nul, cString_nul, List.append_nil,
    List.append_nil] at fronts
  rw [fronts] at same
  exact ⟨fronts, (List.cons.inj (List.append_cancel_left same)).2⟩

theorem inetNtoa_eq (addr : InAddr) : inetNtoa addr =
    decimal addr.first ++ 0x2e :: (decimal addr.second ++ 0x2e :: (decimal addr.third ++
      0x2e :: decimal addr.fourth)) := by
  simp only [inetNtoa, List.append_assoc, List.cons_append]

theorem inetNtoa_inj (same : inetNtoa addr = inetNtoa addr') : addr = addr' := by
  rw [inetNtoa_eq, inetNtoa_eq] at same
  obtain ⟨first, same⟩ := append_dot_inj (decimal_byte _).1 (decimal_byte _).1 same
  obtain ⟨second, same⟩ := append_dot_inj (decimal_byte _).1 (decimal_byte _).1 same
  obtain ⟨third, fourth⟩ := append_dot_inj (decimal_byte _).1 (decimal_byte _).1 same
  obtain ⟨a, b, c, d⟩ := addr
  obtain ⟨a', b', c', d'⟩ := addr'
  rw [InAddr.mk.injEq]
  exact ⟨decimal_inj first, decimal_inj second, decimal_inj third, decimal_inj fourth⟩

theorem strstr_zeros_iff (addr : InAddr) :
    strstr (inetNtoa addr) (chars "0.0.0.0") = true ↔
      10 ∣ addr.first.toNat ∧ addr.second = 0 ∧ addr.third = 0 ∧ addr.fourth = 0 := by
  have isChars : chars "0.0.0.0" = [0x30, 0x2e, 0x30, 0x2e, 0x30, 0x2e, 0x30] := by decide
  have noDot : (0x2e : UInt8) ∉ [0x30] := by decide
  have isZero : decimal 0 = [0x30] := by decide
  rw [isChars, inetNtoa_eq, strstr, List.any_eq_true]
  constructor
  · rintro ⟨tail, isTail, isPrefix⟩
    obtain ⟨front, isText⟩ := (List.mem_tails _ _).mp isTail
    obtain ⟨behind, rfl⟩ := List.isPrefixOf_iff_prefix.mp isPrefix
    have isText : front ++ [0x30] ++ 0x2e :: ([0x30] ++ 0x2e :: ([0x30] ++ 0x2e ::
        ([0x30] ++ behind))) = decimal addr.first ++ 0x2e :: (decimal addr.second ++
          0x2e :: (decimal addr.third ++ 0x2e :: decimal addr.fourth)) := by
      rw [← isText, List.append_assoc]
      rfl
    have dots := congrArg (List.count 0x2e) isText
    simp only [List.count_append, List.count_cons, List.count_nil,
      List.count_eq_zero.mpr (decimal_byte _).1] at dots
    have noFront : 0x2e ∉ front ++ [0x30] := by
      rw [List.mem_append, not_or]
      exact ⟨List.count_eq_zero.mp (by simp at dots; omega), noDot⟩
    obtain ⟨first, isText⟩ := append_dot_inj noFront (decimal_byte _).1 isText
    obtain ⟨second, isText⟩ := append_dot_inj noDot (decimal_byte _).1 isText
    obtain ⟨third, fourth⟩ := append_dot_inj noDot (decimal_byte _).1 isText
    refine ⟨(decimal_byte addr.first).2.1.mp ?_, (decimal_byte addr.second).2.2.1.mp ?_,
      (decimal_byte addr.third).2.2.1.mp ?_, (decimal_byte addr.fourth).2.2.1.mp ?_⟩
    · rw [← first, List.getLast?_append]
      rfl
    · rw [← second]
      rfl
    · rw [← third]
      rfl
    · rw [← fourth]
      rfl
  · rintro ⟨tens, second, third, fourth⟩
    obtain ⟨front, isFirst⟩ := List.getLast?_eq_some_iff.mp ((decimal_byte _).2.1.mpr tens)
    rw [isFirst, second, third, fourth, isZero]
    refine ⟨[0x30, 0x2e, 0x30, 0x2e, 0x30, 0x2e, 0x30], (List.mem_tails _ _).mpr ⟨front, ?_⟩, ?_⟩
    · rw [List.append_assoc]
      rfl
    · decide

end Printed

section Shown

variable {dump : Dump} {route : RouteMessage}

theorem isDefault_parsed (route : RouteMessage) :
    route.parsed.isDefault = decide route.TakenForDefault := by
  rw [RouteMessage.parsed, Bool.eq_iff_iff, decide_eq_true_iff, RouteMessage.TakenForDefault]
  by_cases inMain : route.InMain
  · rw [if_pos inMain, and_iff_right inMain]
    exact strstr_zeros_iff route.dstAddr
  · rw [if_neg inMain]
    exact iff_of_false Bool.false_ne_true fun taken => inMain taken.1

/-- The last of the routes that are taken for default ones is shown. -/
theorem getGateway_parsed (routes : List RouteMessage) (gateway : Option (List UInt8)) :
    getGateway (routes.map RouteMessage.parsed) gateway =
      ((routes.filter fun route => route.TakenForDefault).getLast?.map
        fun route => inetNtoa route.gateWay).or gateway := by
  induction routes using List.reverseRecOn with
  | nil => rfl
  | append_singleton routes route induction =>
      rw [List.map_append, List.map_singleton, getGateway, List.foldl_append, List.foldl_cons,
        List.foldl_nil, parseRoutes, isDefault_parsed, List.filter_append, List.filter_singleton]
      by_cases taken : route.TakenForDefault
      · have isGateWay : route.parsed.gateWay = route.gateWay := by
          rw [RouteMessage.parsed, if_pos taken.1]
        rw [if_pos (decide_eq_true taken), decide_eq_true taken, cond_true, List.getLast?_append,
          isGateWay]
        rfl
      · rw [if_neg (by simpa using taken), decide_eq_false taken, cond_false, List.append_nil]
        exact induction

theorem taken_of_isDefault (isDefault : route.IsDefault) : route.TakenForDefault := by
  have isZero : route.dstAddr = noAddress := by
    rw [RouteMessage.dstAddr, isDefault.2]
    rfl
  rw [RouteMessage.TakenForDefault, isZero]
  exact ⟨isDefault.1, by decide⟩

theorem hasDefault_of_isGateway {address : InAddr} (isGateway : dump.IsGateway address) :
    dump.HasDefault := by
  obtain ⟨route, isIn, isDefault, _⟩ := isGateway
  exact ⟨route, isIn, isDefault⟩

/-- Without a route that is taken for it there is no default route. -/
theorem not_hasDefault (none : dump.taken = none) : ¬ dump.HasDefault := by
  rintro ⟨route, isIn, isDefault⟩
  have isFiltered : route ∈ dump.routes.filter fun route => route.TakenForDefault :=
    List.mem_filter.mpr ⟨isIn, decide_eq_true (taken_of_isDefault isDefault)⟩
  rw [Dump.taken, List.getLast?_eq_none_iff] at none
  rw [none] at isFiltered
  cases isFiltered

theorem showsDefault_of_last (isLast : dump.last = []) (pId : Nat) :
    dump.ShowsDefault pId ↔ ∀ gateway,
      (dump.HasDefault → ∃ address, dump.IsGateway address ∧
        (dump.taken.map fun route => inetNtoa route.gateWay).or gateway =
          some (inetNtoa address)) ∧
      (¬ dump.HasDefault →
        (dump.taken.map fun route => inetNtoa route.gateWay).or gateway = gateway) := by
  refine forall_congr' fun gateway => ?_
  rw [getGatewayOfDump_eq, if_pos isLast, getGateway_parsed]
  constructor
  · rintro ⟨_, _, ⟨⟩, shows⟩
    exact shows
  · intro shows
    exact ⟨_, _, rfl, shows⟩

end Shown

/-- The right gateway is shown if the end of the dump is sent in a datagram of its own, or
before anything else in it, and the last route of the main table whose destination is none, or
ends in three zeros behind whole tens, has the gateway of a default route. -/
theorem showsDefault_iff (dump : Dump) (pId : Nat) :
    dump.ShowsDefault pId ↔
      dump.last = [] ∧ ∀ route ∈ dump.taken, dump.IsGateway route.gateWay := by
  by_cases isLast : dump.last = []
  · rw [showsDefault_of_last isLast, and_iff_right isLast]
    constructor
    · intro shows route isTaken
      obtain ⟨found, notFound⟩ := shows none
      rw [Option.mem_def.mp isTaken, Option.map_some, Option.or_none] at found notFound
      by_cases hasDefault : dump.HasDefault
      · obtain ⟨address, isGateway, same⟩ := found hasDefault
        rw [inetNtoa_inj (Option.some_inj.mp same)]
        exact isGateway
      · cases notFound hasDefault
    · intro right gateway
      cases isTaken : dump.taken with
      | none =>
          have noDefault := not_hasDefault isTaken
          exact ⟨fun hasDefault => absurd hasDefault noDefault, fun _ => rfl⟩
      | some route =>
          have isGateway := right route isTaken
          exact ⟨fun _ => ⟨_, isGateway, rfl⟩,
            fun noDefault => absurd (hasDefault_of_isGateway isGateway) noDefault⟩
  · refine iff_of_false (fun shows => ?_) fun right => isLast right.1
    obtain ⟨_, _, returns, _⟩ := shows none
    rw [getGatewayOfDump_eq, if_neg isLast] at returns
    cases returns

def overRouter : RouteMessage where
  flags := 2
  pid := 0
  family := 2
  dstLen := 0
  srcLen := 0
  tos := 0
  table := 254
  protocol := 3
  scope := 0
  type := 1
  rtmFlags := 0
  attributes := [⟨5, [192, 168, 1, 1]⟩, ⟨4, [2, 0, 0, 0]⟩]
  multi := by decide
  isAddress := by decide

def oneDatagram : Dump where
  earlier := []
  last := [overRouter]
  done := ⟨3, 2, 0, 0, [0, 0, 0, 0]⟩
  behind := []
  notEmpty := List.forall_mem_nil _
  isDone := by decide
  fits := by decide

theorem gateway_waits : ¬ ∀ (dump : Dump) (pId : Nat), dump.ShowsDefault pId := by
  intro general
  obtain ⟨_, _, returns, _⟩ := general oneDatagram 0 none
  have notNil : oneDatagram.last ≠ [] := List.cons_ne_nil _ _
  rw [getGatewayOfDump_eq, if_neg notNil] at returns
  cases returns

end Rkipc.Network
