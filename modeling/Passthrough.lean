import Passthrough.Text.Quoted
import Passthrough.Text.Decimal
import Passthrough.SystemError
import Passthrough.Command.Word
import Passthrough.Tile.Call
import Passthrough.ObjectName
import Passthrough.Staging
import Passthrough.ContainerName
import Passthrough.Action
import Passthrough.BusPath
import Passthrough.Files.Creation
import Passthrough.Platform.Gate
import Passthrough.Portal.Scripted
import Passthrough.Pool.Acquire
import Passthrough.Pool.Release
import Passthrough.DmaSpace
import Passthrough.Session.Start
import Passthrough.Session.Load
import Passthrough.Simulator.Firmware
import Passthrough.Simulator.Platform
import Passthrough.Kernel.Platform
import Passthrough.Kernel.Scripted
import Passthrough.Tool.Report
import Passthrough.Main
import Passthrough.Proofs.Tile.CallCodec
import Passthrough.Proofs.Simulator.FirmwareCases
import Passthrough.Proofs.Simulator.PortalService
import Passthrough.Proofs.Action.Yields
import Passthrough.Proofs.Simulator.CallCases
import Passthrough.Proofs.Simulator.Reachable
import Passthrough.Proofs.Table.Comprises
import Passthrough.Proofs.Platform.Fronts
import Passthrough.Proofs.Session.Ledger
import Passthrough.Proofs.Session.LoadCourse
import Passthrough.Proofs.Simulator.CallFrames
import Passthrough.Proofs.Session.Custody
import Passthrough.Proofs.Session.LoadUnwind
import Passthrough.Proofs.Session.Passing
import Passthrough.Proofs.Station.Owns
import Passthrough.Proofs.Session.ChannelFrame
import Passthrough.Proofs.Station.Live
import Passthrough.Proofs.Station.StartCourse
import Passthrough.Proofs.Station.Run
import Passthrough.Proofs.Session.Tally
import Passthrough.Proofs.Session.LoadOutcome
import Passthrough.Proofs.Session.Takings
import Passthrough.Proofs.Station.LoadReport
import Passthrough.Proofs.Watch.Basic
import Passthrough.Proofs.Watch.Mirror
import Passthrough.Proofs.Watch.Record
import Passthrough.Proofs.Watch.LoadRecord
import Passthrough.Proofs.Station.LoadHistory
import Passthrough.Proofs.Pool.SlotLaws
import Passthrough.Proofs.Pool.Sound
import Passthrough.Proofs.Pool.Course
import Passthrough.Proofs.Pool.History
import Passthrough.Proofs.Simulator.Orderly
import Passthrough.Proofs.Platform.Hosts
import Passthrough.Proofs.Stock.Keeping
import Passthrough.Proofs.Journal.Basic
import Passthrough.Proofs.Journal.InOrder
import Passthrough.Proofs.Table.Loses
import Passthrough.Proofs.Journal.Shed
import Passthrough.Proofs.Journal.Minds
import Passthrough.Proofs.Journal.Minding
import Passthrough.Proofs.Stock.Tenancy
import Passthrough.Proofs.Stock.SessionCourse
import Passthrough.Proofs.Stock.SessionStart
import Passthrough.Proofs.Session.StartUnwind
import Passthrough.Proofs.Stock.PoolStock
import Passthrough.Proofs.Stock.PoolCourse
import Passthrough.Proofs.Estate.Run
import Passthrough.Proofs.Dialogue.Heard
import Passthrough.Proofs.Dialogue.Script
import Passthrough.Proofs.Dialogue.Discipline
import Passthrough.Proofs.Portal.Access
import Passthrough.Proofs.Portal.Cells
import Passthrough.Proofs.Portal.Handshake
import Passthrough.Proofs.Portal.Conversation
import Passthrough.Proofs.Simulator.FirmwareRules
import Passthrough.Proofs.Simulator.PortalRefinement
import Passthrough.Proofs.Depot.Carries
import Passthrough.Proofs.Depot.Basic
import Passthrough.Proofs.Depot.Run
import Passthrough.Proofs.Session.Keeps
import Passthrough.Proofs.Session.TileChannel
import Passthrough.Proofs.Session.Quiet
import Passthrough.Proofs.Journal.Giving
import Passthrough.Proofs.Yard.Basic
import Passthrough.Proofs.Yard.Tended
import Passthrough.Proofs.Yard.Tile
import Passthrough.Proofs.Yard.Teardown
import Passthrough.Proofs.Yard.Proper
import Passthrough.Proofs.Tool.Course
import Passthrough.Proofs.Tool.Restores
import Passthrough.Proofs.Simulator.Stimuli
import Passthrough.Proofs.Simulator.Dealings
import Passthrough.Proofs.Simulator.Tokens
import Passthrough.Proofs.Simulator.WellKept
import Passthrough.Proofs.Simulator.TokenRounds
import Passthrough.Proofs.Pool.Handles
import Passthrough.Proofs.Estate.Handles
import Passthrough.Proofs.Estate.Handover
import Passthrough.Proofs.Command.FieldAlgebra
import Passthrough.Proofs.Tile.CallEncoding
import Passthrough.Proofs.Pool.Capacity
import Passthrough.Proofs.Simulator.Offers
import Passthrough.Proofs.Estate.Capacity
import Passthrough.Proofs.Device.Binding
import Passthrough.Proofs.Device.ObjectNumber
import Passthrough.Proofs.Files.GroupLink
import Passthrough.Proofs.Files.Leading
import Passthrough.Proofs.Session.Validation
import Passthrough.Proofs.Action.Notes
import Passthrough.Proofs.Platform.Silent
import Passthrough.Proofs.Session.Reports
import Passthrough.Proofs.Journal.Asked
import Passthrough.Proofs.Session.StartReports
import Passthrough.Proofs.Session.FailureReports
