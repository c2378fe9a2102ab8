import RioFabric.Packet.Message
import RioFabric.Libdid.Holders
import RioFabric.RouteTable.LostUpdate
import RioFabric.RouteTable.Probe
import RioFabric.RouteTable.CpsProbe
import RioFabric.Libct.Recycling
import RioFabric.Libct.Atomicity
import RioFabric.Libct.FromValue
import RioFabric.Libcfg.Symmetry
import RioFabric.Libcfg.Termination
import RioFabric.Libcfg.RangeRoutes
import RioFabric.Librsvdmem.Aligned
import RioFabric.Fmd.Apps
import RioFabric.Riocp.Exclusion
import RioFabric.Riocp.Balance
import RioFabric.FileTransfer.Dispatch
import RioFabric.FileTransfer.Delivery
import RioFabric.RouteTable.ProbeCoherence
import RioFabric.RouteTable.Tsi57xFlags
import RioFabric.Fmd.Agreement
import RioFabric.Fmd.Deletion
import RioFabric.Libfmdd.DidList
import RioFabric.Riocp.PeerLinks
import RioFabric.Riocp.AnyIdRoute
import RioFabric.Riocp.OneHandle
import RioFabric.Fmd.TraverseEnds
import RioFabric.StatCounters.RxsAccumulate
import RioFabric.StatCounters.Tsi57xRead
import RioFabric.RxsPort.Bystanders
import RioFabric.ErrorManagement.RateInfo
import RioFabric.Dar.Lockout
import RioFabric.Dar.Discovery
import RioFabric.Dar.Tsi57xShadow
import RioFabric.RxsEvents.Completeness
import RioFabric.RxsEvents.Acceptance
import RioFabric.CpsPort.Secured
import RioFabric.PortConfig.ResetScope
import RioFabric.Tsi57xPort.PowerLoss
import RioFabric.ControlSymbol.Burst
import RioFabric.ControlSymbol.SingleBits
import RioFabric.ControlSymbol.Delimiters
import RioFabric.Libdid.GroupSearch
import RioFabric.Libdid.GroupEntries
import RioFabric.Packet.WellFramed
import RioFabric.Packet.Update
import RioFabric.Packet.Received
import RioFabric.PortConfig.StatusQueries
import RioFabric.Libset
import RioFabric.CircBuf
import RioFabric.TimeUtils
import RioFabric.Riocp.Llist
import RioFabric.Libcli.CmdLine
import RioFabric.Libcli.CmdDb
import RioFabric.Riocp.Address
