import SmpClient.Bench.Acts
import SmpClient.Bench.Folder
import SmpClient.Bench.Link
import SmpClient.Bench.Port
import SmpClient.Bench.Run
import SmpClient.Bench.Script
import SmpClient.Bench.Transfer
import SmpClient.Bytes.Base64
import SmpClient.Bytes.Basic
import SmpClient.Bytes.Crc16
import SmpClient.Bytes.Hex
import SmpClient.Bytes.Sha256
import SmpClient.Cbor.Canonical
import SmpClient.Cbor.Decode
import SmpClient.Cbor.Encode
import SmpClient.Cbor.Float
import SmpClient.Cbor.Listing
import SmpClient.Cbor.Reader
import SmpClient.Cbor.Value
import SmpClient.Cli.CommandLine
import SmpClient.Cli.Duration
import SmpClient.Cli.Grammar
import SmpClient.Cli.Job
import SmpClient.Cli.Report
import SmpClient.Command.Basic
import SmpClient.Command.File
import SmpClient.Command.Image
import SmpClient.Command.LogReader
import SmpClient.Command.Record
import SmpClient.Command.System
import SmpClient.Decimal.Fixed
import SmpClient.Decimal.Shortest
import SmpClient.Error
import SmpClient.Firmware.Container
import SmpClient.Firmware.ImageSet
import SmpClient.Link.Basic
import SmpClient.Link.Observers
import SmpClient.Link.Serial.Frame
import SmpClient.Link.Serial.Link
import SmpClient.Link.Serial.Port
import SmpClient.Link.Udp
import SmpClient.Machine.Basic
import SmpClient.Main
import SmpClient.Message.Basic
import SmpClient.Message.File
import SmpClient.Message.Image
import SmpClient.Message.Log
import SmpClient.Message.Os
import SmpClient.Packet.Envelope
import SmpClient.Packet.Header
import SmpClient.Packet.Reassembler
import SmpClient.Packet.Response
import SmpClient.Text.Blank
import SmpClient.Text.Lossy
import SmpClient.Text.Printable
import SmpClient.Text.Quoted
import SmpClient.Transfer.Background
import SmpClient.Transfer.Chunk
import SmpClient.Transfer.Control
import SmpClient.Transfer.Download
import SmpClient.Transfer.MtuRetry
import SmpClient.Transfer.Single
import SmpClient.Transfer.Stepwise
import SmpClient.Transfer.UploadJob
import SmpClient.Transfer.Window
import SmpClient.Upgrade.Plan
import SmpClient.Upgrade.Session
import SmpClient.Upgrade.Task
import SmpClient.Proofs.General
import SmpClient.Proofs.Bytes
import SmpClient.Proofs.Cbor.Floats
import SmpClient.Proofs.Cbor.Reading
import SmpClient.Proofs.Cbor.Entries
import SmpClient.Proofs.Cbor.CanonicalForm
import SmpClient.Proofs.Packet.ShortAcknowledgement
import SmpClient.Proofs.Packet.Payload
import SmpClient.Proofs.Packet.RoundTrip
import SmpClient.Proofs.Transfer.StoreRequest
import SmpClient.Proofs.Transfer.ChunkPackets
import SmpClient.Proofs.Transfer.AnyOrder
import SmpClient.Proofs.Transfer.Chunk
import SmpClient.Proofs.Machine.Network
import SmpClient.Proofs.Machine.OpenLink
import SmpClient.Proofs.Transfer.WindowSteps
import SmpClient.Proofs.Transfer.Generations
import SmpClient.Proofs.Transfer.Storage
import SmpClient.Proofs.Transfer.Reordering
import SmpClient.Proofs.Transfer.WindowQueue
import SmpClient.Proofs.Transfer.StepwiseSteps
import SmpClient.Proofs.Transfer.SingleSteps
import SmpClient.Proofs.Transfer.JobSteps
import SmpClient.Proofs.Transfer.InOrder
import SmpClient.Proofs.Transfer.DownloadContent
import SmpClient.Proofs.Machine.Logged
import SmpClient.Proofs.Transfer.Aborts
import SmpClient.Proofs.Transfer.Cancellation
import SmpClient.Proofs.Transfer.BackgroundNotes
import SmpClient.Proofs.Packet.PacketLength
import SmpClient.Proofs.Machine.AtOnce
import SmpClient.Proofs.Transfer.ChunkFits
import SmpClient.Proofs.Transfer.AnnouncedLength
import SmpClient.Proofs.Transfer.Course
import SmpClient.Proofs.Transfer.Agreement
import SmpClient.Proofs.Machine.Trace
import SmpClient.Proofs.Transfer.Halt
import SmpClient.Proofs.Transfer.Stops
import SmpClient.Proofs.Transfer.LinkLimit
import SmpClient.Proofs.Upgrade.TaskOrder
import SmpClient.Proofs.Upgrade.History
import SmpClient.Proofs.Upgrade.SessionSteps
import SmpClient.Proofs.Upgrade.PlanTasks
import SmpClient.Proofs.Upgrade.TaskSequence
import SmpClient.Proofs.Upgrade.Moments
import SmpClient.Proofs.Upgrade.PlanOrder
import SmpClient.Proofs.Upgrade.Requests
import SmpClient.Proofs.Upgrade.MarkedByMode
import SmpClient.Proofs.Upgrade.NamedWrites
import SmpClient.Proofs.Upgrade.Reporting
import SmpClient.Proofs.Upgrade.Leftover
import SmpClient.Proofs.Upgrade.Silence
import SmpClient.Proofs.Upgrade.TaskCounts
import SmpClient.Proofs.Upgrade.BlockedDevice
import SmpClient.Proofs.Upgrade.Calls
import SmpClient.Proofs.Upgrade.Pausing
import SmpClient.Proofs.Upgrade.Reconnecting
import SmpClient.Proofs.Transfer.ChunkSize
import SmpClient.Proofs.Transfer.Bounds
import SmpClient.Proofs.Link.Base64
import SmpClient.Proofs.Link.SerialFrame
import SmpClient.Proofs.Indexing
import SmpClient.Proofs.Link.FrameLines
import SmpClient.Proofs.Link.FrameReading
import SmpClient.Proofs.Firmware.ContainerFormat
import SmpClient.Proofs.Machine.Rounds
import SmpClient.Proofs.Transfer.Advancing
import SmpClient.Proofs.Transfer.WindowEnding
import SmpClient.Proofs.Transfer.Ending
import SmpClient.Proofs.Transfer.ChunkReplies
import SmpClient.Proofs.Transfer.ServedFile
import SmpClient.Proofs.Transfer.FirstChunk
import SmpClient.Proofs.Machine.Contract
import SmpClient.Proofs.Transfer.Alignment
import SmpClient.Proofs.Transfer.ForwardProgress
import SmpClient.Proofs.Transfer.StepwiseCourse
import SmpClient.Proofs.Upgrade.SlotReports
import SmpClient.Proofs.Upgrade.PlanContents
import SmpClient.Proofs.Upgrade.SlotOrder
import SmpClient.Proofs.Upgrade.MarkChecks
import SmpClient.Proofs.Packet.Reassembly
import SmpClient.Proofs.Link.Datagrams
import SmpClient.Proofs.Command.LogPages
import SmpClient.Proofs.Command.LogReplies
import SmpClient.Proofs.Command.LogContents
import SmpClient.Proofs.Command.LogOrder
import SmpClient.Proofs.Firmware.LatestImages
import SmpClient.Proofs.Upgrade.WaitingTasks
import SmpClient.Proofs.Upgrade.NumberedHeap
