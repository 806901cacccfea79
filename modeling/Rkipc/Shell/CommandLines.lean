import Rkipc.Param.Decimal
import Rkipc.Shell.Lines
import Rkipc.Wifi.Encode

namespace Rkipc.Shell

open Ini Wifi

/-! The lines given to `system` and `popen` with the strings of a client in them. -/

/-- A line that is printed into an array of some size, and the tokens that the code means,
where a string is one argument or file. -/
structure CommandLine where
  size : Nat
  text : Text
  meant : List Token
deriving DecidableEq

/-- `snprintf` cuts what does not fit. -/
def CommandLine.Runs (line : CommandLine) : Prop :=
  read (line.text.take (line.size - 1)) = some line.meant

def CommandLine.Fits (line : CommandLine) : Prop := line.text.length < line.size

instance (line : CommandLine) : Decidable line.Runs := inferInstanceAs (Decidable (_ = _))

/-- `%s` for a pointer that may be NULL. -/
def shown (text : Option Text) : Text := text.getD "(null)".toList

section Network

/-- `strcasecmp(method, "static") == 0`, which ends the process for NULL. -/
def isStatic (method : Option Text) : Bool :=
  method.any fun method => method.map Char.toLower = "static".toList

/-- `rk_network_ipv4_set`, without the line for DHCP, in which there is no string. -/
def rkNetworkIpv4Set (interface : Text) (method address netmask gateway : Option Text) :
    List CommandLine :=
  if isStatic method then
    [⟨512, "ifconfig ".toList ++ interface ++ " ".toList ++ shown address ++
        " netmask ".toList ++ shown netmask,
      ["ifconfig".toList, interface, shown address, "netmask".toList, shown netmask].map
        .argument⟩,
    ⟨512, "route add -net default gw ".toList ++ shown gateway,
      ["route".toList, "add".toList, "-net".toList, "default".toList, "gw".toList,
        shown gateway].map .argument⟩]
  else []

def rkNetworkSetMac (ifname mac : Text) : List CommandLine :=
  [⟨128, "ifconfig ".toList ++ ifname ++ " down".toList,
    ["ifconfig".toList, ifname, "down".toList].map .argument⟩,
  ⟨128, "ifconfig ".toList ++ ifname ++ " hw ether ".toList ++ mac,
    ["ifconfig".toList, ifname, "hw".toList, "ether".toList, mac].map .argument⟩,
  ⟨128, "ifconfig ".toList ++ ifname ++ " up".toList,
    ["ifconfig".toList, ifname, "up".toList].map .argument⟩]

end Network

section System

def cmdList : List Text :=
  ["cat /tmp/messages", "cat /tmp/nginx/error.log", "cat /tmp/nginx/access.log",
    "cat /proc/uptime", "cat /proc/meminfo", "cat /proc/net/snmp", "cat /proc/interrupts",
    "cat /sys/kernel/debug/clk/clk_summary", "cat /sys/class/thermal/thermal_zone0/temp",
    "top -b -n 1", "cat /sys/class/net/eth0/speed", "netstat -an", "ifconfig -a", "route -n",
    "cat /etc/resolv.conf", "cat /proc/net/wireless", "cat /proc/mpp_service/session_summary",
    "cat /sys/kernel/debug/rkrga/driver_version", "cat /proc/rkrga/driver_version",
    "cat /sys/kernel/debug/rkrga/load", "cat /proc/rkrga/load", "media-ctl -p -d /dev/media0",
    "media-ctl -p -d /dev/media1", "media-ctl -p -d /dev/media2", "media-ctl -p -d /dev/media3",
    "media-ctl -p -d /dev/media4", "media-ctl -p -d /dev/media5", "cat /proc/rkcif*",
    "cat /proc/rkisp*", "dumpsys", "dumpsys version", "dumpsys mb d",
    "cat /proc/rk_dma_heap/dma_heap_info", "cat /dev/mpi/valloc", "cat /proc/vcodec/enc/venc_info",
    "cat /dev/mpi/vsys"].map String.toList

/-- A fixed command with a string as the file behind it. -/
def appended (command path : Text) : CommandLine :=
  ⟨127, command ++ " >> ".toList ++ path, (read command).getD [] ++ [.append path]⟩

def rkSystemExportLog (pathExists : Bool) (path : Text) : List CommandLine :=
  (if pathExists then
    [⟨127, "rm -f ".toList ++ path, ["rm".toList, "-f".toList, path].map .argument⟩]
  else []) ++
    cmdList.flatMap fun cmd => [appended ("echo ".toList ++ cmd) path, appended cmd path]

def rkSystemExportDb (path : Text) : List CommandLine :=
  [⟨127, "cp /userdata/rkipc.ini ".toList ++ path,
    ["cp".toList, "/userdata/rkipc.ini".toList, path].map .argument⟩]

def rkSystemImportDb (path : Text) : List CommandLine :=
  [⟨127, "cp ".toList ++ path ++ " /userdata/rkipc.ini".toList,
    ["cp".toList, path, "/userdata/rkipc.ini".toList].map .argument⟩]

def rkSystemUpgrade (path : Text) : List CommandLine :=
  [⟨127, "updateEngine --image_url=".toList ++ path ++
      " --misc=update --savepath=".toList ++ path ++ " --reboot &".toList,
    ["updateEngine".toList, "--image_url=".toList ++ path, "--misc=update".toList,
      "--savepath=".toList ++ path, "--reboot".toList].map .argument ++ [.background]⟩]

end System

section Wifi

inductive Encryp
  | none
  | wpa
  | wep
deriving DecidableEq

/-- `"%02x"` for each byte. -/
def hex (ssid : List Byte) : Text :=
  ssid.flatMap fun byte => [Nat.digitChar (byte.toNat / 16), Nat.digitChar (byte.toNat % 16)]

def number (id : Nat) : Text := Nat.toDigits 10 id

def setting (id : Nat) : Text := "wpa_cli -iwlan0 set_network ".toList ++ number id

def settingWords (id : Nat) : List Text :=
  ["wpa_cli".toList, "-iwlan0".toList, "set_network".toList, number id]

/-- The lines of `set_network`, none if an array of 128 characters overflows.  Lines without
a string are left out, `answers` are those to all lines. -/
def setNetwork (answers : Nat → Bool) (id : Nat) (ssid : List Byte) (psk : Text)
    (encryp : Encryp) : Option (List CommandLine) :=
  if 128 ≤ 2 * ssid.length ∨ 128 ≤ psk.length then .none
  else
    let ssidLine : CommandLine :=
      ⟨128, setting id ++ " ssid ".toList ++ hex ssid,
        (settingWords id ++ ["ssid".toList, hex ssid]).map .argument⟩
    if answers 0 = false then some [ssidLine]
    else if psk = [] ∧ encryp = .none then some [ssidLine]
    else if encryp = .wep then
      if answers 1 = false then some [ssidLine]
      else
        some [ssidLine, ⟨128, setting id ++ " wep_key0 \\\"".toList ++ psk ++
            "\\\"".toList,
          (settingWords id ++ ["wep_key0".toList, '"' :: psk ++ ['"']]).map .argument⟩]
    else if psk ≠ [] ∨ encryp = .wpa then
      if 128 ≤ 2 * psk.length then .none
      else
        some [ssidLine, ⟨128, setting id ++ " psk \\\"".toList ++ escape psk ++
            "\\\"".toList,
          (settingWords id ++ ["psk".toList, '"' :: psk ++ ['"']]).map .argument⟩]
    else some [ssidLine]

end Wifi

/-- What the requests meet: the files there are, whether another connection is being made,
the network that is found or added, the original name of a network, whether it has no pass
phrase, and whether `wpa_cli` answers `OK`. -/
structure Outside where
  pathExists : Text → Bool
  connecting : Bool
  network : List Byte → Option Nat
  original : List Byte → List Byte
  isNonPsk : List Byte → Bool
  answers : Nat → Bool

/-- `RK_wifi_connect`, where `ori` has room for the name that was sent. -/
def rkWifiConnect (outside : Outside) (ssid : List Byte) (psk : Text) :
    Option (List CommandLine) :=
  if outside.connecting then some []
  else
    match outside.network ssid with
    | none => some []
    | some id =>
        let ori := outside.original ssid
        if ssid.length < ori.length then none
        else if outside.isNonPsk ssid then setNetwork outside.answers id ori [] .none
        else setNetwork outside.answers id ori psk .wpa

inductive Request
  | ipv4Set (interface : Text) (method address netmask gateway : Option Text)
  | setMac (ifname mac : Text)
  | exportLog (path : Text)
  | exportDb (path : Text)
  | importDb (path : Text)
  | upgrade (path : Text)
  | wifiConnect (ssid : List Byte) (psk : Text)

def Request.lines (outside : Outside) : Request → Option (List CommandLine)
  | ipv4Set interface method address netmask gateway =>
      some (rkNetworkIpv4Set interface method address netmask gateway)
  | setMac ifname mac => some (rkNetworkSetMac ifname mac)
  | exportLog path => some (rkSystemExportLog (outside.pathExists path) path)
  | exportDb path => some (rkSystemExportDb path)
  | importDb path => some (rkSystemImportDb path)
  | upgrade path => some (rkSystemUpgrade path)
  | wifiConnect ssid psk => rkWifiConnect outside ssid psk

/-- No string is more or less than one argument or file of a command. -/
def Request.OneArgument (outside : Outside) (request : Request) : Prop :=
  ∃ lines, request.lines outside = some lines ∧ ∀ line ∈ lines, line.Runs

end Rkipc.Shell
