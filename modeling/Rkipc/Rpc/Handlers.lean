import Rkipc.Rpc.Socket

namespace Rkipc.Rpc

/-! The forms that the handlers of the socket server have in common. -/

def replyStatus (backend : String) (arguments : List Argument) : Handler :=
  call backend arguments fun reply => writeWord reply.status (.done 0)

def replyWord (backend : String) (arguments : List Argument) : Handler :=
  call backend arguments fun reply =>
    writeWord (reply.int 0) (writeWord reply.status (.done 0))

def replyString (backend : String) (arguments : List Argument) : Handler :=
  call backend arguments fun reply =>
    writeString (reply.string 0) (writeWord reply.status (.done 0))

/-- The caller's array holds the empty string before the call. -/
def replyArray (backend : String) : Handler :=
  call backend [] fun reply =>
    writeString (some ((reply.string 0).getD []))
      (writeWord reply.status (.done 0))

def getWordById (backend : String) : Handler :=
  readWord fun id => replyWord backend [.int id]

def getStringById (backend : String) : Handler :=
  readWord fun id => replyString backend [.int id]

/-- Also the form of an action on the camera that the client names. -/
def setWord (backend : String) : Handler :=
  readWord fun value => replyStatus backend [.int value]

def setWordById (backend : String) : Handler :=
  readWord fun id => readWord fun value =>
    replyStatus backend [.int id, .int value]

/-- Everything after the length is inside `if (len)`. -/
def setString (backend : String) : Handler :=
  readWord fun len =>
    if len = 0 then .done 0
    else readBuffer len fun value =>
      debug [value] (replyStatus backend [.string value])

def setStringById (backend : String) : Handler :=
  readWord fun id => readWord fun len =>
    if len = 0 then .done 0
    else readBuffer len fun value =>
      debug [value] (replyStatus backend [.int id, .string value])

/-- The three handlers that only log what they get. -/
def logJson : Handler :=
  readWord fun len =>
    if len = 0 then .done 0
    else readBuffer len fun json => debug [json] (.done 0)

def serRkIspSetHdr : Handler :=
  readWord fun id => readWord fun len =>
    if len = 0 then .done 0
    else readBuffer len fun value =>
      replyStatus "rk_isp_set_hdr" [.int id, .string value]

/-- Every exit of this handler frees the text and returns 0. -/
def serRkVideoGetResolution : Handler :=
  readWordOr (.done 0) fun id =>
    call "rk_video_get_resolution" [.int id] fun reply =>
      writeStringOr (.done 0) (reply.string 0)
        (writeOr (.done 0) (Word.bytes reply.status) (.done 0))

/-! The network handlers send a status `err` of their own and return that of the
call. -/

/-- The interface names of the getters are not empty. -/
def readInterface (next : Pointer → Handler) : Handler :=
  readWord fun len =>
    if len = 0 then .done (-1) else readBuffer len next

def readOptional (next : Pointer → Handler) : Handler :=
  readWord fun len =>
    if len = 0 then next .null else readBuffer len next

def readString (next : Pointer → Handler) : Handler :=
  readWord fun len => readBuffer len next

def serRkNetworkIpv4Get : Handler :=
  readInterface fun interface => debug [interface] <|
    call "rk_network_ipv4_get" [.string interface] fun reply =>
      writeString (reply.string 0) <| writeString (reply.string 1) <|
        writeString (reply.string 2) <| writeString (reply.string 3) <|
          writeWord 0 (.done reply.status)

def serRkNetworkIpv4Set : Handler :=
  readString fun interface => readOptional fun method =>
    readOptional fun address => readOptional fun netmask =>
      readOptional fun gateway =>
        call "rk_network_ipv4_set"
          [.string interface, .string method, .string address,
            .string netmask, .string gateway] fun reply =>
          writeWord 0 (.done reply.status)

def serRkNetworkDnsGet : Handler :=
  call "rk_network_dns_get" [] fun reply =>
    writeString (reply.string 0) <| writeString (reply.string 1) <|
      writeWord 0 (.done reply.status)

def serRkNetworkDnsSet : Handler :=
  readString fun dns1 => readString fun dns2 => debug [dns1, dns2] <|
    call "rk_network_dns_set" [.string dns1, .string dns2] fun reply =>
      writeWord 0 (.done reply.status)

/-- `rk_network_get_mac` and `rk_network_nicspeed_support_get`: the interface is
logged after the call. -/
def getStringOfInterface (backend : String) : Handler :=
  readInterface fun interface =>
    call backend [.string interface] fun reply => debug [interface] <|
      writeString (reply.string 0) (writeWord 0 (.done reply.status))

def serRkNetworkNicspeedGet : Handler :=
  readInterface fun interface =>
    call "rk_network_nicspeed_get" [.string interface] fun reply =>
      debug [interface] <| writeWord (reply.int 0) <|
        writeWord (reply.int 1) <| writeWord (reply.int 2) <|
          writeWord 0 (.done reply.status)

def serRkNetworkNicspeedSet : Handler :=
  readString fun interface => readWord fun speed => readWord fun duplex =>
    readWord fun autoneg => debug [interface] <|
      call "rk_network_nicspeed_set"
        [.string interface, .int speed, .int duplex, .int autoneg] fun reply =>
        writeWord 0 (.done reply.status)

/-- The status of the call goes to `on`, and `err` is sent. -/
def serRkWifiPowerSet : Handler :=
  readWord fun on =>
    call "rk_wifi_power_set" [.int on] fun _ => writeWord 0 (.done 0)

def serRkWifiConnectWithSsid : Handler :=
  readString fun ssid => readString fun psk => debug [ssid, psk] <|
    replyStatus "rk_wifi_connect_with_ssid" [.string ssid, .string psk]

def serRkWifiForgetWithSsid : Handler :=
  readString fun ssid => debug [ssid] <|
    replyStatus "rk_wifi_forget_with_ssid" [.string ssid]

def serRkSystemAddUser : Handler :=
  readWord fun id => readWord fun userLevel =>
    readString fun userName => readString fun password =>
      debug [userName, password] <|
        replyStatus "rk_system_add_user"
          [.int id, .int userLevel, .string userName, .string password]

end Rkipc.Rpc
