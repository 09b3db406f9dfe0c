import PlayerLink.Checksum
import PlayerLink.Command
import PlayerLink.CommandLine.Invocation
import PlayerLink.CommandLine.Parsing
import PlayerLink.CommandLine.Value
import PlayerLink.Container.Header
import PlayerLink.Container.Writer
import PlayerLink.Engine.Basic
import PlayerLink.Engine.Error
import PlayerLink.Engine.Operations
import PlayerLink.Files.Error
import PlayerLink.Files.Folder
import PlayerLink.Files.Medium
import PlayerLink.Files.Place
import PlayerLink.Firmware.Entry
import PlayerLink.Firmware.Error
import PlayerLink.Firmware.Header
import PlayerLink.Firmware.Reading
import PlayerLink.Layout
import PlayerLink.Log
import PlayerLink.Main
import PlayerLink.Program.Desk
import PlayerLink.Program.Dump
import PlayerLink.Program.Enumeration
import PlayerLink.Program.Failure
import PlayerLink.Program.Firmware
import PlayerLink.Program.Medium
import PlayerLink.Program.Memory
import PlayerLink.Program.Run
import PlayerLink.Program.Session
import PlayerLink.Progress
import PlayerLink.Reply
import PlayerLink.SectorRange
import PlayerLink.Simulation.Playback
import PlayerLink.Simulation.Player
import PlayerLink.Simulation.RuleBook
import PlayerLink.Storage
import PlayerLink.SystemInfo
import PlayerLink.Text.Numeral
import PlayerLink.Text.Quoted
import PlayerLink.Text.Size
import PlayerLink.Text.Stored
import PlayerLink.Usb.Bus
import PlayerLink.Usb.Descriptor
import PlayerLink.Usb.Error
import PlayerLink.Usb.Link
import PlayerLink.Word
import PlayerLink.Wrapper.Command
import PlayerLink.Wrapper.Status
import PlayerLink.Proofs.Files.Content
import PlayerLink.Proofs.Files.Writing
import PlayerLink.Proofs.Files.Stopping
import PlayerLink.Proofs.Steps
import PlayerLink.Proofs.Container.Directory
import PlayerLink.Proofs.Container.Operations
import PlayerLink.Proofs.Container.Preservation
import PlayerLink.Proofs.Container.Growth
import PlayerLink.Proofs.Container.Trials
import PlayerLink.Proofs.Container.Acknowledgement
import PlayerLink.Proofs.Container.Validity
import PlayerLink.Proofs.Container.Refusal
import PlayerLink.Proofs.Engine.Simulated
import PlayerLink.Proofs.Engine.Pairing
import PlayerLink.Proofs.Engine.Transcript
import PlayerLink.Proofs.Engine.Courses
import PlayerLink.Proofs.Engine.Verdict
import PlayerLink.Proofs.Firmware.Image
import PlayerLink.Proofs.Firmware.Sectors
import PlayerLink.Proofs.Firmware.Serving
import PlayerLink.Proofs.Firmware.Fetching
import PlayerLink.Proofs.Program.Session
import PlayerLink.Proofs.Files.Folder
import PlayerLink.Proofs.Program.Packing
import PlayerLink.Proofs.Program.ContainerDump
import PlayerLink.Proofs.Usb.Records
import PlayerLink.Proofs.Program.Delivery
import PlayerLink.Proofs.Program.Guarding
import PlayerLink.Proofs.Engine.Synchrony
import PlayerLink.Proofs.Program.Interruption
import PlayerLink.Proofs.Program.Agreement
import PlayerLink.Proofs.Engine.Dialogue
import PlayerLink.Proofs.Usb.Presence
import PlayerLink.Proofs.Program.Conduct
import PlayerLink.Proofs.Program.Shape
import PlayerLink.Proofs.Checksum
import PlayerLink.Proofs.Alteration
import PlayerLink.Proofs.Container.Streaming
import PlayerLink.Proofs.Command.Decoding
import PlayerLink.Proofs.Usb.Selection
import PlayerLink.Proofs.Usb.Availability
import PlayerLink.Proofs.Engine.Disk
import PlayerLink.Proofs.Program.Dumping
import PlayerLink.Proofs.Program.SectorRoundTrip
import PlayerLink.Proofs.Formats
import PlayerLink.Proofs.Usb.Visits
import PlayerLink.Proofs.Program.Visiting
import PlayerLink.Proofs.Program.Identification
import PlayerLink.Proofs.Program.Enumeration
import PlayerLink.Proofs.Firmware.Repair
import PlayerLink.Proofs.Firmware.Readout
import PlayerLink.Proofs.Firmware.Searching
import PlayerLink.Proofs.Program.Writeout
import PlayerLink.Proofs.Program.Keeping
import PlayerLink.Proofs.Program.Selection
import PlayerLink.Proofs.Container.Tenure
import PlayerLink.Proofs.Text.Numeral
import PlayerLink.Proofs.Text.Utf16
import PlayerLink.Proofs.CommandLine.Value
import PlayerLink.Proofs.Firmware.UsbString
import PlayerLink.Proofs.Text.Size
