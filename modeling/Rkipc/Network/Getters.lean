import Mathlib.Data.List.Infix
import Rkipc.Rpc.Socket

namespace Rkipc.Network

open Rpc

/-! The getters of the network module: what they store for their caller. -/

def chars (string : String) : List UInt8 := string.toList.map fun char => UInt8.ofNat char.toNat

def cString (memory : List UInt8) : List UInt8 := memory.takeWhile fun byte => byte ≠ 0

/-- Whether the string is found. -/
def strstr (string part : List UInt8) : Bool := string.tails.any fun tail => part.isPrefixOf tail

def decimal (byte : UInt8) : List UInt8 :=
  (Nat.toDigits 10 byte.toNat).map fun char => UInt8.ofNat char.toNat

/-- `%X` of a byte -/
def hex (byte : UInt8) : List UInt8 :=
  (Nat.toDigits 16 byte.toNat).map fun char => UInt8.ofNat char.toUpper.toNat

structure InAddr where
  first : UInt8
  second : UInt8
  third : UInt8
  fourth : UInt8
deriving DecidableEq

def inetNtoa (address : InAddr) : List UInt8 :=
  decimal address.first ++ 0x2e :: decimal address.second ++
    0x2e :: decimal address.third ++ 0x2e :: decimal address.fourth

/-- What a call leaves behind: a read through NULL, a write behind the end of an object, or
its status with the integers and strings that it has stored. -/
inductive Ran
  | crashes
  | overruns
  | stores (status : Word) (ints : List (Option Word)) (strings : List (Option (List UInt8)))
deriving DecidableEq

section Ipv4

/-- A message about a route, with the attributes that are set; the others are zero. -/
structure Route where
  inMainTable : Bool
  dstAddr : InAddr
  gateWay : InAddr
deriving DecidableEq

def Route.isDefault (route : Route) : Bool :=
  route.inMainTable && strstr (inetNtoa route.dstAddr) (chars "0.0.0.0")

def parseRoutes (gateway : Option (List UInt8)) (route : Route) : Option (List UInt8) :=
  if route.isDefault then some (inetNtoa route.gateWay) else gateway

/-- There are no messages when the request or the answer fails. -/
def getGateway (routes : List Route) (gateway : Option (List UInt8)) : Option (List UInt8) :=
  routes.foldl parseRoutes gateway

/-- An entry of `SIOCGIFCONF` and what the further requests about it give. -/
structure Entry where
  ifrName : List UInt8
  flags : Bool
  address : Option InAddr
  netmask : Option InAddr
  routes : List Route
deriving DecidableEq

/-- What `rk_network_ipv4_get` has stored. -/
structure Ipv4 where
  method : Option (List UInt8)
  address : Option (List UInt8)
  netmask : Option (List UInt8)
  gateway : Option (List UInt8)
deriving DecidableEq

/-- The array `netmode` behind the test for the empty string. -/
def netmodeOrDhcp (netmode : List UInt8) : List UInt8 :=
  if cString netmode = [] then chars "dhcp" ++ netmode.drop 4 else netmode

def visit (netmode interface : List UInt8) : List Entry → Ipv4 → Word × Ipv4
  | [], stored => (0, stored)
  | entry :: rest, stored =>
      if interface ≠ entry.ifrName then visit netmode interface rest stored
      else if entry.flags = false then (-1, stored)
      else
        match entry.address with
        | none => (-1, stored)
        | some address =>
            let stored := { stored with address := some (inetNtoa address) }
            match entry.netmask with
            | none => (-1, stored)
            | some netmask =>
                visit netmode interface rest
                  { stored with
                    netmask := some (inetNtoa netmask)
                    gateway := getGateway entry.routes stored.gateway
                    method := some (cString (netmodeOrDhcp netmode)) }

/-- The outcomes of the calls of `rk_network_ipv4_get`. -/
structure Interfaces where
  socket : Bool
  ifconf : Option (List Entry)
  netmode : List UInt8

def Ipv4.none : Ipv4 := ⟨.none, .none, .none, .none⟩

/-- A buffer of the caller with the terminator. -/
def bufferSize : Nat := 64

def Ipv4.ran (status : Word) (stored : Ipv4) : Ran :=
  if stored.method.any fun method => bufferSize ≤ method.length then .overruns
  else .stores status [] [stored.method, stored.address, stored.netmask, stored.gateway]

/-- Without a name it ends at the first comparison.  The first entry is never compared. -/
def rkNetworkIpv4Get (world : Interfaces) (interface : Option (List UInt8)) : Ran :=
  if world.socket = false then Ipv4.none.ran (-1)
  else
    match world.ifconf with
    | none => Ipv4.none.ran (-1)
    | some entries =>
        match interface with
        | none => if entries.tail = [] then Ipv4.none.ran 0 else .crashes
        | some interface =>
            let visited := visit world.netmode interface entries.tail.reverse Ipv4.none
            visited.2.ran visited.1

end Ipv4

section Dns

def newline : UInt8 := 0x0a

def lineSize : Nat := 128

/-- The lines that `fgets` gives one after another; `line` is what it has of the next one. -/
def fgetsLines (line : List UInt8) : List UInt8 → List (List UInt8)
  | [] => if line = [] then [] else [line]
  | byte :: file =>
      let line := line ++ [byte]
      if byte = newline ∨ line.length + 1 = lineSize then line :: fgetsLines [] file
      else fgetsLines line file

/-- `start` and `end` behind the loop over the characters. -/
def bounds (buf : List UInt8) : List Nat → Int → Int × Int
  | [], start => (start, 0)
  | i :: rest, start =>
      let start := if [buf.getD (i - 1) 0, buf.getD i 0, buf.getD (i + 1) 0] = chars "er "
        then (i : Int) + 2 else start
      if buf.getD i 0 = newline then (start, (i : Int) - 1) else bounds buf rest start

/-- The test of a line. -/
def isServer (buf : List UInt8) : Bool :=
  let found := bounds buf (List.range' 1 126) 0
  (chars "nameserver").isPrefixOf buf && decide (0 < found.2 - found.1)

def isSpace (byte : UInt8) : Bool := byte = 0x20 || (0x09 ≤ byte && byte ≤ 0x0d)

/-- `sscanf` with `%*s%s`, which stores nothing when there is no second word. -/
def secondWord (buf : List UInt8) : Option (List UInt8) :=
  let first := (cString buf).dropWhile isSpace
  let second := (first.dropWhile fun byte => !isSpace byte).dropWhile isSpace
  let word := second.takeWhile fun byte => !isSpace byte
  if word = [] then none else some word

/-- What the lines with a server store, each read over the last one in `buf`. -/
def servers (buf : List UInt8) : List (List UInt8) → List (Option (List UInt8))
  | [] => []
  | line :: lines =>
      let buf := line ++ 0 :: buf.drop (line.length + 1)
      if isServer buf then secondWord buf :: servers buf lines else servers buf lines

def resolvers (file : List UInt8) : List (Option (List UInt8)) :=
  (servers (List.replicate lineSize 0) (fgetsLines [] file)).take 2

/-- `file` is none if `/etc/resolv.conf` cannot be opened. -/
def rkNetworkDnsGet (file : Option (List UInt8)) : Ran :=
  match file with
  | none => .stores 0 [] [none, none]
  | some file =>
      let found := resolvers file
      if found.any fun word => word.any fun word => bufferSize ≤ word.length then .overruns
      else .stores (BitVec.ofNat 32 found.length) [] [found[0]?.join, found[1]?.join]

end Dns

/-- The size of a `struct ifreq`, whose first member is the name. -/
def ifreqSize : Nat := 32

/-- The outcomes of the calls of `rk_network_get_mac`. -/
structure Hardware where
  socket : Bool
  hwaddr : Option (Fin 6 → UInt8)

def macText (address : Fin 6 → UInt8) : List UInt8 :=
  List.intercalate [0x3a] ((List.ofFn address).map hex)

def rkNetworkGetMac (world : Hardware) (interface : Option (List UInt8)) : Ran :=
  if world.socket = false then .stores (-1) [] [none]
  else
    match interface with
    | none => .crashes
    | some interface =>
        if ifreqSize ≤ interface.length then .overruns
        else
          match world.hwaddr with
          | none => .stores (-1) [] [none]
          | some address => .stores 0 [] [some (macText address)]

/-- The members of a `struct ethtool_cmd` that are read. -/
structure EthtoolCmd where
  speed : BitVec 16
  duplex : BitVec 8
  autoneg : BitVec 8
deriving DecidableEq

/-- The outcomes of the calls of `rk_network_nicspeed_get`. -/
structure Settings where
  socket : Bool
  ecmd : Option EthtoolCmd

def EthtoolCmd.ran (ecmd : EthtoolCmd) : Ran :=
  .stores 0
    [if ecmd.speed ∈ [10, 100, 1000] then some (ecmd.speed.setWidth 32) else none,
      if ecmd.duplex ∈ [0, 1] then some (ecmd.duplex.setWidth 32) else none,
      some (ecmd.autoneg.setWidth 32)] []

/-- `unset` is what is found in `ecmd` before the request, which may fail. -/
def rkNetworkNicspeedGet (world : Settings) (unset : EthtoolCmd)
    (interface : Option (List UInt8)) : Ran :=
  match interface with
  | none => .crashes
  | some interface =>
      if ifreqSize ≤ interface.length then .overruns
      else if world.socket = false then .stores (-1) [none, none, none] []
      else (world.ecmd.getD unset).ran

end Rkipc.Network
