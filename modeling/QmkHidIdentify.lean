import QmkHidIdentify.Lib.Transducer
import QmkHidIdentify.Common.Types
import QmkHidIdentify.Common.HidDevice
import QmkHidIdentify.Common.Device
import QmkHidIdentify.Linux.ReportDesc
import QmkHidIdentify.Linux.Tokens
import QmkHidIdentify.Linux.Items
import QmkHidIdentify.Linux.RoundTrip
import QmkHidIdentify.Linux.Control
import QmkHidIdentify.Linux.Leak
import QmkHidIdentify.Linux.Globals
import QmkHidIdentify.Linux.Nesting
import QmkHidIdentify.Linux.Calls
import QmkHidIdentify.Linux.Walk
import QmkHidIdentify.Linux.SafeParse
import QmkHidIdentify.Linux.Fallback
import QmkHidIdentify.Linux.LongItems
import QmkHidIdentify.Linux.Decoding
import QmkHidIdentify.Linux.Locality
import QmkHidIdentify.Linux.HidIdentify
import QmkHidIdentify.Windows.HidIdentify
import QmkHidIdentify.Identify.Message
import QmkHidIdentify.Identify.Session
import QmkHidIdentify.Lib.Transition
import QmkHidIdentify.Windows.Service
import QmkHidIdentify.Windows.ServiceQueue
import QmkHidIdentify.Windows.ServiceStatus
import QmkHidIdentify.Windows.ServiceStop
import QmkHidIdentify.Windows.ServiceResources
import QmkHidIdentify.Windows.InterfaceNumber
import QmkHidIdentify.Windows.Win32
import QmkHidIdentify.Windows.HidEnumerate
import QmkHidIdentify.Windows.ServiceControl
import QmkHidIdentify.Lib.Arguments
import QmkHidIdentify.Windows.RunElevated
import QmkHidIdentify.Lib.Program
import QmkHidIdentify.Windows.SystemCalls
import QmkHidIdentify.Windows.Registry
import QmkHidIdentify.Windows.ServiceCommands
import QmkHidIdentify.Windows.ServiceInstall
import QmkHidIdentify.Windows.ServiceUninstall
import QmkHidIdentify.Lib.Monitor
import QmkHidIdentify.Identify.Protocol
import QmkHidIdentify.Identify.DeviceLoop
import QmkHidIdentify.Linux.Main
import QmkHidIdentify.Linux.UniqueFd
import QmkHidIdentify.Windows.Report
import QmkHidIdentify.Windows.Main
import QmkHidIdentify.Windows.History
import QmkHidIdentify.Windows.ServiceProgress
import QmkHidIdentify.Windows.ServiceObjects
import QmkHidIdentify.Windows.SendReport
