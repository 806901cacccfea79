import Rkipc.Engine.OneModel
import Rkipc.Engine.PoolCrowd
import Rkipc.Engine.RknnInOrder
import Rkipc.Linked.Chain
import Rkipc.Param.Crash
import Rkipc.Param.LifeCycle
import Rkipc.Param.Lifetime
import Rkipc.Param.UserTable
import Rkipc.Rpc.BrokenConnection
import Rkipc.Rpc.InStep
import Rkipc.Rpc.ReplyStatus
import Rkipc.Rpc.StringArguments
import Rkipc.Storage.DeletionPass
import Rkipc.Storage.DeleteByName
import Rkipc.Storage.FileListing
import Rkipc.Storage.MessageBuffer
import Rkipc.Storage.FileScanExit
import Rkipc.Storage.HotplugRun
import Rkipc.Storage.MonitorFollows
import Rkipc.Storage.OneScanThread
import Rkipc.Storage.RecordStop
import Rkipc.Storage.RecorderLifecycle
import Rkipc.Storage.SpaceLimit
import Rkipc.Transition.Lock
import Rkipc.Video.Detection
import Rkipc.Video.Frames
import Rkipc.Video.RateControlFollows
import Rkipc.Video.ThreadObjects
import Rkipc.Lora.SerialPort
import Rkipc.Rtmp.Channels
import Rkipc.Rtmp.OpenPush
import Rkipc.Rtsp.InStep
import Rkipc.Video.ShutdownOrder
import Rkipc.Video.Snapshot
import Rkipc.Osd.OneRegion
import Rkipc.Video.RegisteredCalls
import Rkipc.Param.BoundedStrings
import Rkipc.Osd.OverlayInside
import Rkipc.Audio.Mp3
import Rkipc.Lvgl.Delivery
import Rkipc.Lvgl.MessageLists
import Rkipc.Network.NoLeftover
import Rkipc.Network.Ntp
import Rkipc.Osd.BitmapUpdate
import Rkipc.Osd.BuffersOwned
import Rkipc.Osd.Font
import Rkipc.Shell.OneArgument
import Rkipc.Player.CleanFailure
import Rkipc.Player.Reports
import Rkipc.Ui.PageRuns
import Rkipc.Regions.Cover
import Rkipc.Regions.RegionClip
import Rkipc.Regions.Roi
import Rkipc.Storage.ListenerRecords
import Rkipc.Storage.MountLookup
import Rkipc.Video.Inference
import Rkipc.Video.WrapBuffer
import Rkipc.Wifi.ConnectApart
import Rkipc.Wifi.MonitorCycle
import Rkipc.Wifi.ScanJson
import Rkipc.Yolo.ReportsNothing
import Rkipc.Common.Signal
import Rkipc.Osd.BmpReader
import Rkipc.Osd.HeldMutexes
import Rkipc.Osd.TextDrawing
import Rkipc.Param.Capabilities
import Rkipc.Storage.DiskSize
import Rkipc.Storage.MuxerParams
import Rkipc.Video.RateStrings
import Rkipc.Libc.Store
import Rkipc.Libc.Records
import Rkipc.Wifi.ExecCommand
import Rkipc.Wifi.EventBounds
import Rkipc.Shell.SetNetwork
import Rkipc.Network.DnsRoundTrip
import Rkipc.Network.DefaultGateway
import Rkipc.Isp.LensPosition
import Rkipc.Audio.DecodeClock
import Rkipc.Audio.PlayerOpen
import Rkipc.Isp.Setters
import Rkipc.Lora.Mode
import Rkipc.Player.Jpeg
import Rkipc.Player.Times
import Rkipc.Rpc.SockTransfer
import Rkipc.Ui.LangRes
import Rkipc.Lvgl.ListsStored
import Rkipc.Param.SettingsKept
import Rkipc.Osd.DateTime
