import Mathlib.Data.List.Forall2
import Rkipc.Rpc.FunMap

namespace Rkipc.Rpc

/-! Every handler of the table is one of a few forms. -/

inductive Shape
  | word (arguments : List Argument)
  | wordById
  | status (arguments : List Argument)
  | setWord
  | setWordById
  | string (arguments : List Argument)
  | stringById
  | array
  | setString
  | setStringById
  | json
  | setHdr
  | videoResolution
  | ipv4Get
  | ipv4Set
  | dnsGet
  | dnsSet
  | ofInterface
  | nicspeedGet
  | nicspeedSet
  | wifiPowerSet
  | wifiConnect
  | wifiForget
  | addUser

def Shape.serve (backend : String) : Shape → Handler
  | .word arguments => replyWord backend arguments
  | .wordById => getWordById backend
  | .status arguments => replyStatus backend arguments
  | .setWord => Rpc.setWord backend
  | .setWordById => Rpc.setWordById backend
  | .string arguments => replyString backend arguments
  | .stringById => getStringById backend
  | .array => replyArray backend
  | .setString => Rpc.setString backend
  | .setStringById => Rpc.setStringById backend
  | .json => logJson
  | .setHdr => serRkIspSetHdr
  | .videoResolution => serRkVideoGetResolution
  | .ipv4Get => serRkNetworkIpv4Get
  | .ipv4Set => serRkNetworkIpv4Set
  | .dnsGet => serRkNetworkDnsGet
  | .dnsSet => serRkNetworkDnsSet
  | .ofInterface => getStringOfInterface backend
  | .nicspeedGet => serRkNetworkNicspeedGet
  | .nicspeedSet => serRkNetworkNicspeedSet
  | .wifiPowerSet => serRkWifiPowerSet
  | .wifiConnect => serRkWifiConnectWithSsid
  | .wifiForget => serRkWifiForgetWithSsid
  | .addUser => serRkSystemAddUser

/-- The handlers that keep the status of their call in one variable and send
another. -/
def statusDropped : List String :=
  ["rk_network_ipv4_get", "rk_network_ipv4_set", "rk_network_dns_get",
    "rk_network_dns_set", "rk_network_get_mac", "rk_network_nicspeed_get",
    "rk_network_nicspeed_set", "rk_network_nicspeed_support_get",
    "rk_wifi_power_set"]

def Shape.dropsStatus : Shape → Bool
  | .ipv4Get | .ipv4Set | .dnsGet | .dnsSet | .ofInterface | .nicspeedGet
  | .nicspeedSet | .wifiPowerSet => true
  | _ => false

/-- Which of the strings that its call gives a handler sends with no test for NULL. -/
def Shape.strings : Shape → List Nat
  | .string _ | .stringById | .videoResolution | .ofInterface => [0]
  | .dnsGet => [0, 1]
  | .ipv4Get => [0, 1, 2, 3]
  | _ => []

structure FunMap.HasShape (entry : FunMap) (shape : Shape) : Prop where
  serves : entry.serve = shape.serve entry.funName
  drops : entry.funName ∈ statusDropped ↔ shape.dropsStatus = true

attribute [local simp] statusDropped Shape.dropsStatus

private theorem mapGeneral_shapes :
    List.Forall₂ FunMap.HasShape mapGeneral
      [.json, .json, .json] := by
  unfold mapGeneral
  repeat' first
    | exact .nil
    | refine .cons ⟨rfl, by simp⟩ ?_

private theorem mapIspScenario_shapes :
    List.Forall₂ FunMap.HasShape mapIspScenario
      [.stringById, .setStringById] := by
  unfold mapIspScenario
  repeat' first
    | exact .nil
    | refine .cons ⟨rfl, by simp⟩ ?_

private theorem mapIspAdjustment_shapes :
    List.Forall₂ FunMap.HasShape mapIspAdjustment
      [.wordById, .setWordById, .wordById, .setWordById, .wordById,
        .setWordById, .wordById, .setWordById, .wordById, .setWordById] := by
  unfold mapIspAdjustment
  repeat' first
    | exact .nil
    | refine .cons ⟨rfl, by simp⟩ ?_

private theorem mapIspExposure_shapes :
    List.Forall₂ FunMap.HasShape mapIspExposure
      [.stringById, .setStringById, .stringById, .setStringById, .stringById,
        .setStringById, .wordById, .setWordById, .wordById, .setWordById] := by
  unfold mapIspExposure
  repeat' first
    | exact .nil
    | refine .cons ⟨rfl, by simp⟩ ?_

private theorem mapIspNightToDay_shapes :
    List.Forall₂ FunMap.HasShape mapIspNightToDay
      [.stringById, .setStringById, .stringById, .setStringById, .wordById,
        .setWordById, .wordById, .setWordById, .wordById, .setWordById] := by
  unfold mapIspNightToDay
  repeat' first
    | exact .nil
    | refine .cons ⟨rfl, by simp⟩ ?_

private theorem mapIspBlc_shapes :
    List.Forall₂ FunMap.HasShape mapIspBlc
      [.stringById, .setHdr, .stringById, .setStringById, .stringById,
        .setStringById, .wordById, .setWordById, .wordById, .setWordById,
        .wordById, .setWordById, .wordById, .setWordById] := by
  unfold mapIspBlc
  repeat' first
    | exact .nil
    | refine .cons ⟨rfl, by simp⟩ ?_

private theorem mapIspWhiteBlance_shapes :
    List.Forall₂ FunMap.HasShape mapIspWhiteBlance
      [.stringById, .setStringById, .wordById, .setWordById, .wordById,
        .setWordById, .wordById, .setWordById] := by
  unfold mapIspWhiteBlance
  repeat' first
    | exact .nil
    | refine .cons ⟨rfl, by simp⟩ ?_

private theorem mapIspEnhancement_shapes :
    List.Forall₂ FunMap.HasShape mapIspEnhancement
      [.stringById, .setStringById, .stringById, .setStringById, .stringById,
        .setStringById, .stringById, .setStringById, .wordById, .setWordById,
        .wordById, .setWordById, .wordById, .setWordById, .wordById,
        .setWordById, .wordById, .setWordById] := by
  unfold mapIspEnhancement
  repeat' first
    | exact .nil
    | refine .cons ⟨rfl, by simp⟩ ?_

private theorem mapIspVideoAdjustment_shapes :
    List.Forall₂ FunMap.HasShape mapIspVideoAdjustment
      [.stringById, .setStringById, .stringById, .setStringById] := by
  unfold mapIspVideoAdjustment
  repeat' first
    | exact .nil
    | refine .cons ⟨rfl, by simp⟩ ?_

private theorem mapIspAutoFocus_shapes :
    List.Forall₂ FunMap.HasShape mapIspAutoFocus
      [.stringById, .setStringById, .wordById, .wordById, .setWord, .setWord,
        .setWord, .setWord, .setWord] := by
  unfold mapIspAutoFocus
  repeat' first
    | exact .nil
    | refine .cons ⟨rfl, by simp⟩ ?_

private theorem mapAudio_shapes :
    List.Forall₂ FunMap.HasShape mapAudio
      [.status [], .wordById, .setWordById, .wordById, .setWordById, .wordById,
        .setWordById, .wordById, .setWordById, .stringById, .setStringById] := by
  unfold mapAudio
  repeat' first
    | exact .nil
    | refine .cons ⟨rfl, by simp⟩ ?_

private theorem mapVideo_shapes :
    List.Forall₂ FunMap.HasShape mapVideo
      [.status [], .wordById, .setWordById, .wordById, .setWordById,
        .stringById, .setStringById, .stringById, .setStringById, .stringById,
        .setStringById, .stringById, .setStringById, .stringById,
        .setStringById, .stringById, .setStringById, .stringById,
        .setStringById, .videoResolution, .setStringById, .stringById,
        .setStringById, .stringById, .setStringById, .word [], .setWord] := by
  unfold mapVideo
  repeat' first
    | exact .nil
    | refine .cons ⟨rfl, by simp⟩ ?_

private theorem mapJpeg_shapes :
    List.Forall₂ FunMap.HasShape mapJpeg
      [.word [], .setWord, .word [], .setWord, .word [], .setWord, .string [],
        .setString] := by
  unfold mapJpeg
  repeat' first
    | exact .nil
    | refine .cons ⟨rfl, by simp⟩ ?_

private theorem mapOsdCommon_shapes :
    List.Forall₂ FunMap.HasShape mapOsdCommon
      [.word [], .setWord, .word [], .setWord, .word [], .setWord, .word [],
        .word [], .string [], .setString, .string [], .setString, .string [],
        .setString, .string [], .setString, .string [], .setString] := by
  unfold mapOsdCommon
  repeat' first
    | exact .nil
    | refine .cons ⟨rfl, by simp⟩ ?_

private theorem mapOsd_shapes :
    List.Forall₂ FunMap.HasShape mapOsd
      [.wordById, .setWordById, .wordById, .setWordById, .wordById,
        .setWordById, .wordById, .setWordById, .wordById, .setWordById,
        .wordById, .setWordById, .stringById, .setStringById, .stringById,
        .setStringById, .stringById, .setStringById, .stringById,
        .setStringById, .stringById, .setStringById, .stringById,
        .setStringById, .status []] := by
  unfold mapOsd
  repeat' first
    | exact .nil
    | refine .cons ⟨rfl, by simp⟩ ?_

private theorem mapRoi_shapes :
    List.Forall₂ FunMap.HasShape mapRoi
      [.stringById, .setStringById, .stringById, .setStringById, .wordById,
        .setWordById, .wordById, .setWordById, .wordById, .setWordById,
        .wordById, .setWordById, .wordById, .setWordById, .wordById,
        .setWordById, .wordById, .setWordById, .status []] := by
  unfold mapRoi
  repeat' first
    | exact .nil
    | refine .cons ⟨rfl, by simp⟩ ?_

private theorem mapRegionClip_shapes :
    List.Forall₂ FunMap.HasShape mapRegionClip
      [.wordById, .setWordById, .wordById, .setWordById, .wordById,
        .setWordById, .wordById, .setWordById, .wordById, .setWordById,
        .status []] := by
  unfold mapRegionClip
  repeat' first
    | exact .nil
    | refine .cons ⟨rfl, by simp⟩ ?_

private theorem mapNetwork_shapes :
    List.Forall₂ FunMap.HasShape mapNetwork
      [.ipv4Get, .ipv4Set, .dnsGet, .dnsSet, .ofInterface, .nicspeedGet,
        .nicspeedSet, .ofInterface, .word [], .wifiPowerSet, .status [],
        .string [], .wifiConnect, .wifiForget] := by
  unfold mapNetwork
  repeat' first
    | exact .nil
    | refine .cons ⟨rfl, by simp⟩ ?_

private theorem mapStorage_shapes :
    List.Forall₂ FunMap.HasShape mapStorage
      [.status [.int 0], .status [.int 0], .word [.int 0], .status []] := by
  unfold mapStorage
  repeat' first
    | exact .nil
    | refine .cons ⟨rfl, by simp⟩ ?_

private theorem mapEvent_shapes :
    List.Forall₂ FunMap.HasShape mapEvent
      [.word [], .setWord, .word [], .setWord, .word [], .setWord, .word [],
        .setWord, .word [], .setWord, .word [], .setWord, .word [], .setWord,
        .word [], .setWord] := by
  unfold mapEvent
  repeat' first
    | exact .nil
    | refine .cons ⟨rfl, by simp⟩ ?_

private theorem mapSystem_shapes :
    List.Forall₂ FunMap.HasShape mapSystem
      [.array, .array, .array, .array, .array, .array, .array, .array,
        .string [], .string [], .string [], .string [], .string [], .string [],
        .string [], .string [], .string [], .string [], .string [], .string [],
        .string [], .string [], .string [], .setString, .setString, .status [],
        .status [], .setString, .setString, .setString, .setString, .word [],
        .setWord, .wordById, .setWordById, .stringById, .setStringById,
        .stringById, .setStringById, .addUser, .setWord] := by
  unfold mapSystem
  repeat' first
    | exact .nil
    | refine .cons ⟨rfl, by simp⟩ ?_

def Shaped (entries : List FunMap) : Prop :=
  ∀ entry ∈ entries, ∃ shape, entry.HasShape shape

private theorem Shaped.of {entries : List FunMap} {shapes : List Shape}
    (related : List.Forall₂ FunMap.HasShape entries shapes) :
    Shaped entries := by
  induction related with
  | nil => simp [Shaped]
  | cons isShaped _ induction =>
      exact List.forall_mem_cons.mpr ⟨⟨_, isShaped⟩, induction⟩

private theorem Shaped.append {left right : List FunMap}
    (shapedLeft : Shaped left) (shapedRight : Shaped right) :
    Shaped (left ++ right) :=
  List.forall_mem_append.mpr ⟨shapedLeft, shapedRight⟩

theorem shaped_map : Shaped map := by
  unfold map
  repeat' apply Shaped.append
  · exact .of mapGeneral_shapes
  · exact .of mapIspScenario_shapes
  · exact .of mapIspAdjustment_shapes
  · exact .of mapIspExposure_shapes
  · exact .of mapIspNightToDay_shapes
  · exact .of mapIspBlc_shapes
  · exact .of mapIspWhiteBlance_shapes
  · exact .of mapIspEnhancement_shapes
  · exact .of mapIspVideoAdjustment_shapes
  · exact .of mapIspAutoFocus_shapes
  · exact .of mapAudio_shapes
  · exact .of mapVideo_shapes
  · exact .of mapJpeg_shapes
  · exact .of mapOsdCommon_shapes
  · exact .of mapOsd_shapes
  · exact .of mapRoi_shapes
  · exact .of mapRegionClip_shapes
  · exact .of mapNetwork_shapes
  · exact .of mapStorage_shapes
  · exact .of mapEvent_shapes
  · exact .of mapSystem_shapes

/-- The steps that handlers are made of. -/
inductive Built : Handler → Prop
  | done (value : Word) : Built (.done value)
  | readWordOr (value : Word) {next : Word → Handler}
      (rest : ∀ word, Built (next word)) :
      Built (readWordOr (.done value) next)
  | readBuffer (length : Word) {next : Pointer → Handler}
      (rest : ∀ pointer, Built (next pointer)) : Built (readBuffer length next)
  | writeOr (value : Word) (bytes : List UInt8) {next : Handler}
      (rest : Built next) : Built (writeOr (.done value) bytes next)
  | crash (next : Empty → Handler) : Built (.ask .crash next)
  | call (backend : String) (arguments : List Argument)
      {next : Reply → Handler} (rest : ∀ reply, Built (next reply)) :
      Built (call backend arguments next)
  | debug (strings : List Pointer) {next : Handler} (rest : Built next) :
      Built (debug strings next)

namespace Built

theorem readWord {next : Word → Handler} (rest : ∀ word, Built (next word)) :
    Built (Rpc.readWord next) :=
  .readWordOr _ rest

theorem writeWord (word : Word) {next : Handler} (rest : Built next) :
    Built (Rpc.writeWord word next) :=
  .writeOr _ _ rest

theorem writeStringOr (value : Word) (string : Option (List UInt8))
    {next : Handler} (rest : Built next) :
    Built (Rpc.writeStringOr (.done value) string next) := by
  cases string with
  | none => exact .crash _
  | some string =>
      refine .writeOr _ _ ?_
      unfold writeCharsOr
      split
      · exact rest
      · exact .writeOr _ _ rest

theorem writeString (string : Option (List UInt8)) {next : Handler}
    (rest : Built next) : Built (Rpc.writeString string next) :=
  writeStringOr _ string rest

theorem unlessEmpty {onEmpty : Handler} {next : Pointer → Handler}
    (empty : Built onEmpty) (rest : ∀ pointer, Built (next pointer)) :
    Built (Rpc.readWord fun len =>
      if len = 0 then onEmpty else Rpc.readBuffer len next) := by
  refine .readWord fun len => ?_
  split
  · exact empty
  · exact .readBuffer len rest

theorem readString {next : Pointer → Handler}
    (rest : ∀ pointer, Built (next pointer)) : Built (Rpc.readString next) :=
  .readWord fun len => .readBuffer len rest

theorem readOptional {next : Pointer → Handler}
    (rest : ∀ pointer, Built (next pointer)) : Built (Rpc.readOptional next) := by
  refine .readWord fun len => ?_
  split
  · exact rest _
  · exact .readBuffer len rest

theorem replyStatus (backend : String) (arguments : List Argument) :
    Built (Rpc.replyStatus backend arguments) :=
  .call _ _ fun _ => .writeWord _ (.done 0)

theorem replyWord (backend : String) (arguments : List Argument) :
    Built (Rpc.replyWord backend arguments) :=
  .call _ _ fun _ => .writeWord _ (.writeWord _ (.done 0))

theorem replyString (backend : String) (arguments : List Argument) :
    Built (Rpc.replyString backend arguments) :=
  .call _ _ fun _ => .writeString _ (.writeWord _ (.done 0))

end Built

theorem built_shape (backend : String) (shape : Shape) :
    Built (shape.serve backend) := by
  unfold Shape.serve
  cases shape with
  | word arguments => exact .replyWord backend arguments
  | status arguments => exact .replyStatus backend arguments
  | string arguments => exact .replyString backend arguments
  | wordById => exact .readWord fun _ => .replyWord _ _
  | stringById => exact .readWord fun _ => .replyString _ _
  | setWord => exact .readWord fun _ => .replyStatus _ _
  | setWordById => exact .readWord fun _ => .readWord fun _ => .replyStatus _ _
  | array => exact .call _ _ fun _ => .writeString _ (.writeWord _ (.done 0))
  | setString =>
      exact .unlessEmpty (.done 0) fun _ => .debug _ (.replyStatus _ _)
  | setStringById =>
      refine .readWord fun id => ?_
      exact .unlessEmpty (.done 0) fun _ => .debug _ (.replyStatus _ _)
  | json => exact .unlessEmpty (.done 0) fun _ => .debug _ (.done 0)
  | setHdr =>
      refine .readWord fun id => ?_
      exact .unlessEmpty (.done 0) fun _ => .replyStatus _ _
  | videoResolution =>
      exact .readWordOr 0 fun _ => .call _ _ fun _ =>
        .writeStringOr 0 _ (.writeOr 0 _ (.done 0))
  | ipv4Get =>
      exact .unlessEmpty (.done _) fun _ => .debug _ <| .call _ _ fun _ =>
        .writeString _ <| .writeString _ <| .writeString _ <|
          .writeString _ <| .writeWord _ (.done _)
  | ipv4Set =>
      exact .readString fun _ => .readOptional fun _ => .readOptional fun _ =>
        .readOptional fun _ => .readOptional fun _ => .call _ _ fun _ =>
          .writeWord _ (.done _)
  | dnsGet =>
      exact .call _ _ fun _ => .writeString _ <| .writeString _ <|
        .writeWord _ (.done _)
  | dnsSet =>
      exact .readString fun _ => .readString fun _ => .debug _ <|
        .call _ _ fun _ => .writeWord _ (.done _)
  | ofInterface =>
      exact .unlessEmpty (.done _) fun _ => .call _ _ fun _ => .debug _ <|
        .writeString _ <| .writeWord _ (.done _)
  | nicspeedGet =>
      exact .unlessEmpty (.done _) fun _ => .call _ _ fun _ => .debug _ <|
        .writeWord _ <| .writeWord _ <| .writeWord _ <| .writeWord _ (.done _)
  | nicspeedSet =>
      exact .readString fun _ => .readWord fun _ => .readWord fun _ =>
        .readWord fun _ => .debug _ <| .call _ _ fun _ =>
          .writeWord _ (.done _)
  | wifiPowerSet =>
      exact .readWord fun _ => .call _ _ fun _ => .writeWord _ (.done _)
  | wifiConnect =>
      exact .readString fun _ => .readString fun _ => .debug _ <|
        .replyStatus _ _
  | wifiForget => exact .readString fun _ => .debug _ (.replyStatus _ _)
  | addUser =>
      exact .readWord fun _ => .readWord fun _ => .readString fun _ =>
        .readString fun _ => .debug _ (.replyStatus _ _)

theorem built_of_mem {entry : FunMap} (member : entry ∈ map) :
    Built entry.serve := by
  obtain ⟨shape, shaped⟩ := shaped_map entry member
  rw [shaped.serves]
  exact built_shape _ shape

end Rkipc.Rpc
