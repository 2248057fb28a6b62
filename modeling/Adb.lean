import Adb.IoVectorRuns
import Adb.FdEventLoopTheorems
import Adb.RunQueue
import Adb.ForwardRequests
import Adb.Shutdown
import Adb.Isolation
import Adb.Streams
import Adb.Aborts
import Adb.AuthGate
import Adb.SocketGraph
import Adb.PatchSelection
import Adb.Install
import Adb.SyncSession
import Adb.Selection
import Adb.HostCommand
import Adb.UsbRead
import Adb.UsbAio
import Adb.PacketChannel
import Adb.ShellWatch
import Adb.EmulatorTable
import Adb.Banner
import Adb.SyncTreeTheorems
import Adb.MkdirCommands
import Adb.PatchSafety
import Adb.Bugreport
