import G2Common.Transition
import G2Common.Progress
import G2Common.Lease
import G2Common.Refinement
import G2Common.Replica
import G2Common.DoublyLinked
import G2Common.StringSearch
import G2Common.Pattern
import G2Common.Settings
import G2Common.CheckedArray
import G2Common.CString
import G2Common.Slots
import G2Common.Decimal
import G2Common.Printf
import G2Common.Hex
import G2Common.Paging
import G2Common.SetBits
import G2Common.ByteMemory
import G2Common.Utils.LinkedList
import G2Common.Utils.Ownership
import G2Common.Utils.MsgQ
import G2Common.Utils.LocTimer
import G2Common.Utils.LocCfg
import G2Common.Utils.LocCfgUpdate
import G2Common.Utils.LocCfgRead
import G2Common.Utils.LocCfgRoundTrip
import G2Common.Utils.LocMiscUtils
import G2Common.Utils.LocTarget
import G2Common.Utils.LoggerParams
import G2Common.Core.MsgTask
import G2Common.Core.LocApiBase
import G2Common.Core.AddressCode
import G2Common.Core.Contexts
import G2Common.Core.ContextAdapters
import G2Common.Agps.Subscriber
import G2Common.Agps.StateMachine
import G2Common.Agps.Notify
import G2Common.Agps.NotifyStore
import G2Common.Agps.NotifyExact
import G2Common.Agps.Nif
import G2Common.Agps.NifLease
import G2Common.Agps.NifClients
import G2Common.Agps.BitClients
import G2Common.Agps.NifFramework
import G2Common.Agps.DataServices
import G2Common.Agps.DataCallStep
import G2Common.Agps.DataCallLog
import G2Common.Agps.DataCallCovered
import G2Common.Agps.DataCallClosed
import G2Common.Agps.DataCallGranted
import G2Common.Agps.DataCallFallback
import G2Common.Agps.DataCallRetry
import G2Common.Agps.LocEng
import G2Common.Agps.Handover
import G2Common.Agps.HandoverReports
import G2Common.Agps.HandoverMachines
import G2Common.Eng.Session
import G2Common.Eng.AidingData
import G2Common.Eng.Resume
import G2Common.Eng.RawData
import G2Common.Eng.Server
import G2Common.Eng.ConfigUpdate
import G2Common.Eng.Certificates
import G2Common.Eng.Commands
import G2Common.Eng.CommandsModes
import G2Common.Eng.Lifetime
import G2Common.Eng.Reinit
import G2Common.Eng.Xtra
import G2Common.Eng.Capabilities
import G2Common.Ni.Session
import G2Common.Ni.Privacy
import G2Common.Ni.Slots
import G2Common.Ni.Payload
import G2Common.Ni.PayloadFreed
import G2Common.Ni.PayloadCancelled
import G2Common.Daemon.Server
import G2Common.Daemon.Delivery
import G2Common.Daemon.Receive
import G2Common.Daemon.Dispatch
import G2Common.Daemon.ThreadHelper
import G2Common.Daemon.ThreadCallbacks
import G2Common.Daemon.ThreadLaunch
import G2Common.Daemon.Responses
import G2Common.Daemon.Shutdown
import G2Common.Camera.FixedParams
import G2Common.Camera.DeviceOpen
import G2Common.Nmea.Gsa
import G2Common.Nmea.Sentence
import G2Common.Nmea.Gsv
import G2Common.Nmea.Checksum
import G2Common.Nmea.Position
import G2Common.Nmea.Exact
import G2Common.Nmea.Mode
import G2Common.Nmea.Coordinates
import G2Common.Nmea.MagneticTrack
import G2Common.Nmea.Format
import G2Common.Recovery.BmSearch
import G2Common.Recovery.BmBounds
import G2Common.Recovery.TrustZone
import G2Common.Releasetools.OpenBump
import G2Common.Releasetools.Assertions
import G2Common.Liblight.Lights
