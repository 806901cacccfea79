import Rkipc.Libc.LastWrite
import Rkipc.Libc.Records
import Rkipc.Libc.Search
import Rkipc.Libc.Store
import Rkipc.Network.Getters

namespace Rkipc.Network

open Libc Rpc

/-! The dump of the routing tables, and the gateway that is read from it. -/

section Source

/-- `BUFSIZE` -/
def msgBufSize : Nat := 8192

def nlmsgError : Nat := 2
def nlmsgDone : Nat := 3
def rtmNewroute : Nat := 24
def rtmGetroute : Nat := 26

def afInet : Nat := 2
def rtTableMain : Nat := 254

def rtaDst : Nat := 1
def rtaGateway : Nat := 5
def rtaMultipath : Nat := 9

/-- The sequence number of the request. -/
def msgSeq : Nat := 0

/-- The header that stands where a pointer points to. -/
abbrev NlHdr := List UInt8

def NlHdr.nlmsgLen (nlHdr : NlHdr) : Nat := numberAt 0 4 nlHdr
def NlHdr.nlmsgType (nlHdr : NlHdr) : Nat := numberAt 4 2 nlHdr
def NlHdr.nlmsgFlags (nlHdr : NlHdr) : Nat := numberAt 6 2 nlHdr
def NlHdr.nlmsgSeq (nlHdr : NlHdr) : Nat := numberAt 8 4 nlHdr
def NlHdr.nlmsgPid (nlHdr : NlHdr) : Nat := numberAt 12 4 nlHdr

/-- `NLMSG_OK` -/
def NlHdr.isOk (nlHdr : NlHdr) (len : Nat) : Bool :=
  decide (16 ≤ len ∧ 16 ≤ nlHdr.nlmsgLen ∧ nlHdr.nlmsgLen ≤ len)

/-- How `readNlSock` ends; it waits when there is no datagram to receive, and a write behind
the buffer is not carried out. -/
inductive Reading
  | waits
  | overruns
  | fails
  | reads (msgLen : Nat) (msgBuf : List UInt8)

/-- What `recv` gives one call after the other, none for an error.  The pointer is always
`msgLen` bytes into the buffer. -/
def readNlSock (seqNum pId : Nat) :
    List (Option (List UInt8)) → List UInt8 → Nat → Reading
  | [], _, _ => .waits
  | none :: _, _, _ => .fails
  | some datagram :: received, msgBuf, msgLen =>
      let read := datagram.take (msgBufSize - msgLen)
      match store msgBuf msgLen read with
      | none => .overruns
      | some msgBuf =>
          let nlHdr : NlHdr := msgBuf.drop msgLen
          if nlHdr.isOk read.length = false ∨ nlHdr.nlmsgType = nlmsgError then .fails
          else if nlHdr.nlmsgType = nlmsgDone then .reads msgLen msgBuf
          else
            let msgLen := msgLen + read.length
            if nlHdr.nlmsgFlags.testBit 1 = false then .reads msgLen msgBuf
            else if nlHdr.nlmsgSeq ≠ seqNum ∨ nlHdr.nlmsgPid ≠ pId then
              readNlSock seqNum pId received msgBuf msgLen
            else .reads msgLen msgBuf

def address (memory : List UInt8) : InAddr :=
  ⟨memory.getD 0 0, memory.getD 1 0, memory.getD 2 0, memory.getD 3 0⟩

def noAddress : InAddr := ⟨0, 0, 0, 0⟩

/-- The `switch` over the type of an attribute. -/
def Route.readAttr (route : Route) (rtAttr : List UInt8) : Route :=
  if numberAt 2 2 rtAttr = rtaGateway then { route with gateWay := address (rtAttr.drop 4) }
  else if numberAt 2 2 rtAttr = rtaDst then { route with dstAddr := address (rtAttr.drop 4) }
  else route

/-- What `parseRoutes` takes from a message; the attributes of other routes are not read. -/
def NlHdr.route (nlHdr : NlHdr) : Route :=
  if numberAt 16 1 nlHdr = afInet ∧ numberAt 20 1 nlHdr = rtTableMain then
    (records 4 (numberAt 0 2) (nlHdr.drop 28) (nlHdr.nlmsgLen - 28)).foldl Route.readAttr
      ⟨true, noAddress, noAddress⟩
  else ⟨false, noAddress, noAddress⟩

def request (pId : Nat) : List UInt8 :=
  let nlMsg := leBytes 4 28 ++ leBytes 2 rtmGetroute ++ leBytes 2 0x301 ++ leBytes 4 msgSeq ++
    leBytes 4 pId
  nlMsg ++ List.replicate (msgBufSize - nlMsg.length) 0

/-- How `get_gateway` ends. -/
inductive Gateway
  | waits
  | overruns
  | returns (status : Word) (gateway : Option (List UInt8))

/-- `get_gateway`, with what was in `gateway` before. -/
def getGatewayOfDump (sent : Bool) (pId : Nat) (received : List (Option (List UInt8)))
    (gateway : Option (List UInt8)) : Gateway :=
  if sent = false then .returns (-1) gateway
  else
    match readNlSock (msgSeq + 1) pId received (request pId) 0 with
    | .waits => .waits
    | .overruns => .overruns
    | .fails => .returns (-1) gateway
    | .reads msgLen msgBuf =>
        let routes := (records 16 NlHdr.nlmsgLen msgBuf msgLen).map NlHdr.route
        .returns 0 (getGateway routes gateway)

end Source

section Kernel

/-! What the kernel sends. -/

structure Attribute where
  type : UInt16
  payload : List UInt8

def Attribute.bytes (rtAttr : Attribute) : List UInt8 :=
  leBytes 2 (rtAttr.payload.length + 4) ++
    (leBytes 2 rtAttr.type.toNat ++ rtAttr.payload)

structure Message where
  type : UInt16
  flags : UInt16
  seq : UInt32
  pid : UInt32
  payload : List UInt8

def Message.bytes (message : Message) : List UInt8 :=
  leBytes 4 (message.payload.length + 16) ++ (leBytes 2 message.type.toNat ++
    (leBytes 2 message.flags.toNat ++ (leBytes 4 message.seq.toNat ++
      (leBytes 4 message.pid.toNat ++ message.payload))))

def datagram (messages : List Message) : List UInt8 :=
  messages.flatMap fun message => padded 0 message.bytes

/-- A route of any table and family.  Each message of a dump is one of many, and the addresses
of IPv4 have four bytes. -/
structure RouteMessage where
  flags : UInt16
  pid : UInt32
  family : UInt8
  dstLen : UInt8
  srcLen : UInt8
  tos : UInt8
  table : UInt8
  protocol : UInt8
  scope : UInt8
  type : UInt8
  rtmFlags : UInt32
  attributes : List Attribute
  multi : flags.toNat.testBit 1 = true
  isAddress : family.toNat = afInet → ∀ rtAttr ∈ attributes,
    rtAttr.type.toNat = rtaDst ∨ rtAttr.type.toNat = rtaGateway → rtAttr.payload.length = 4

namespace RouteMessage

variable (route : RouteMessage)

def rtmsg : List UInt8 :=
  [route.family, route.dstLen, route.srcLen, route.tos, route.table, route.protocol, route.scope,
    route.type] ++ leBytes 4 route.rtmFlags.toNat

def message : Message :=
  ⟨UInt16.ofNat rtmNewroute, route.flags, UInt32.ofNat msgSeq, route.pid,
    route.rtmsg ++ route.attributes.flatMap fun rtAttr => padded 0 rtAttr.bytes⟩

def payload (type : Nat) : Option (List UInt8) :=
  lastWrite type (route.attributes.map fun rtAttr => (rtAttr.type.toNat, rtAttr.payload))

/-- A route of the main IPv4 table. -/
def InMain : Prop := route.family.toNat = afInet ∧ route.table.toNat = rtTableMain

/-- A route without destination. -/
def IsDefault : Prop := route.InMain ∧ route.payload rtaDst = none

/-- Its own gateway or those of its next hops; a route to the link itself has the address
`0.0.0.0` for one. -/
def gateways : List InAddr :=
  match route.payload rtaGateway, route.payload rtaMultipath with
  | some payload, _ => [address payload]
  | none, some payload =>
      (records 8 (numberAt 0 2) payload payload.length).map fun nexthop =>
        (((records 4 (numberAt 0 2) (nexthop.drop 8) (numberAt 0 2 nexthop - 8)).filter
          fun rtAttr => numberAt 2 2 rtAttr = rtaGateway).getLast?.map
            fun rtAttr => address (rtAttr.drop 4)).getD noAddress
  | none, none => [noAddress]

def dstAddr : InAddr := ((route.payload rtaDst).map address).getD noAddress

def gateWay : InAddr := ((route.payload rtaGateway).map address).getD noAddress

/-- A route of the main table to `0.0.0.0`, `10.0.0.0` and so on up to `250.0.0.0`. -/
def TakenForDefault : Prop :=
  route.InMain ∧ 10 ∣ route.dstAddr.first.toNat ∧ route.dstAddr.second = 0 ∧
    route.dstAddr.third = 0 ∧ route.dstAddr.fourth = 0

instance : Decidable route.InMain := by
  unfold InMain
  infer_instance

instance : Decidable route.TakenForDefault := by
  unfold TakenForDefault
  infer_instance

end RouteMessage

def routeDatagram (routes : List RouteMessage) : List UInt8 :=
  datagram (routes.map RouteMessage.message)

/-- A dump that fits into the buffer: the datagrams before the last one, and in that one the
routes before the end of the dump and whatever is behind it. -/
structure Dump where
  earlier : List (List RouteMessage)
  last : List RouteMessage
  done : Message
  behind : List Message
  notEmpty : ∀ routes ∈ earlier, routes ≠ []
  isDone : done.type.toNat = nlmsgDone
  fits : (earlier.flatMap routeDatagram).length +
    (datagram (last.map RouteMessage.message ++ done :: behind)).length ≤ msgBufSize

namespace Dump

variable (dump : Dump)

def datagrams : List (List UInt8) :=
  dump.earlier.map routeDatagram ++
    [datagram (dump.last.map RouteMessage.message ++ dump.done :: dump.behind)]

def routes : List RouteMessage := dump.earlier.flatten ++ dump.last

def taken : Option RouteMessage :=
  (dump.routes.filter fun route => route.TakenForDefault).getLast?

def HasDefault : Prop := ∃ route : RouteMessage, route ∈ dump.routes ∧ route.IsDefault

def IsGateway (address : InAddr) : Prop :=
  ∃ route : RouteMessage, route ∈ dump.routes ∧ route.IsDefault ∧ address ∈ route.gateways

/-- When there are no more datagrams, `get_gateway` returns, and has stored the gateway of a
default route if there is one. -/
def ShowsDefault (pId : Nat) : Prop :=
  ∀ gateway, ∃ status shown,
    getGatewayOfDump true pId (dump.datagrams.map some) gateway = .returns status shown ∧
      (dump.HasDefault → ∃ address, dump.IsGateway address ∧ shown = some (inetNtoa address)) ∧
      (¬ dump.HasDefault → shown = gateway)

end Dump

end Kernel

end Rkipc.Network
