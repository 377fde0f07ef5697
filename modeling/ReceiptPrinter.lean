import ReceiptPrinter.Base64
import ReceiptPrinter.Bluetooth.Backend
import ReceiptPrinter.Bluetooth.Errand
import ReceiptPrinter.Bluetooth.Host
import ReceiptPrinter.Bluetooth.Listing
import ReceiptPrinter.Bluetooth.Script
import ReceiptPrinter.Bytes
import ReceiptPrinter.Command
import ReceiptPrinter.CommandLine.Request
import ReceiptPrinter.CommandLine.Run
import ReceiptPrinter.CommandLine.Syntax
import ReceiptPrinter.CommandLine.Usage
import ReceiptPrinter.Completion
import ReceiptPrinter.Deflate.Bits
import ReceiptPrinter.Deflate.Code
import ReceiptPrinter.Deflate.Inflate
import ReceiptPrinter.Device.Identity
import ReceiptPrinter.Device.Mac
import ReceiptPrinter.Device.Transport
import ReceiptPrinter.Device.Usb
import ReceiptPrinter.Device.UsbFault
import ReceiptPrinter.Device.Wire
import ReceiptPrinter.Disk
import ReceiptPrinter.Error
import ReceiptPrinter.Event.Basic
import ReceiptPrinter.Event.Bus
import ReceiptPrinter.Fetch.Host
import ReceiptPrinter.Fetch.Host.Folding
import ReceiptPrinter.Fetch.Host.Name
import ReceiptPrinter.Fetch.Host.Numeric
import ReceiptPrinter.Fetch.Host.Punycode
import ReceiptPrinter.Fetch.Host.Wide
import ReceiptPrinter.Fetch.Picture
import ReceiptPrinter.Fetch.Status
import ReceiptPrinter.Fetch.Url
import ReceiptPrinter.Json.Failure
import ReceiptPrinter.Json.Read
import ReceiptPrinter.Json.Reader
import ReceiptPrinter.Json.Record
import ReceiptPrinter.Json.Scalar
import ReceiptPrinter.Json.Skip
import ReceiptPrinter.Json.Value
import ReceiptPrinter.Main
import ReceiptPrinter.Markup.Convert
import ReceiptPrinter.Markup.Grammar
import ReceiptPrinter.Markup.Tag
import ReceiptPrinter.Markup.Wire
import ReceiptPrinter.Net.Address
import ReceiptPrinter.Net.Backend
import ReceiptPrinter.Net.Script
import ReceiptPrinter.Number.Shortest
import ReceiptPrinter.OsError
import ReceiptPrinter.Permission
import ReceiptPrinter.Picture.File.Bmp
import ReceiptPrinter.Picture.File.Bmp.Fault
import ReceiptPrinter.Picture.File.Bmp.Header
import ReceiptPrinter.Picture.File.Farbfeld
import ReceiptPrinter.Picture.File.Foreign
import ReceiptPrinter.Picture.File.Format
import ReceiptPrinter.Picture.File.Trouble
import ReceiptPrinter.Picture.File.Png
import ReceiptPrinter.Picture.File.Png.Chunk
import ReceiptPrinter.Picture.File.Png.Fault
import ReceiptPrinter.Picture.File.Png.Header
import ReceiptPrinter.Picture.File.Png.Row
import ReceiptPrinter.Picture.File.Pnm
import ReceiptPrinter.Picture.File.Pnm.Fault
import ReceiptPrinter.Picture.File.Pnm.Header
import ReceiptPrinter.Picture.Fit
import ReceiptPrinter.Picture.Matrix
import ReceiptPrinter.Picture.Pixel
import ReceiptPrinter.Picture.Resample
import ReceiptPrinter.Picture.Sample
import ReceiptPrinter.Proofs.Session.Eval
import ReceiptPrinter.Qr.Check
import ReceiptPrinter.Qr.Mode
import ReceiptPrinter.Qr.Pack
import ReceiptPrinter.Qr.Picture
import ReceiptPrinter.Qr.Scan
import ReceiptPrinter.Qr.Symbol
import ReceiptPrinter.Qr.Version
import ReceiptPrinter.Raster.Decode
import ReceiptPrinter.Raster.Encode
import ReceiptPrinter.Record
import ReceiptPrinter.Registry
import ReceiptPrinter.Scan.Scanner
import ReceiptPrinter.Scan.Schedule
import ReceiptPrinter.Scan.Sweep
import ReceiptPrinter.Scan.Window
import ReceiptPrinter.Session.Connection
import ReceiptPrinter.Session.Job
import ReceiptPrinter.Session.Life
import ReceiptPrinter.Session.Operation
import ReceiptPrinter.Session.Printer
import ReceiptPrinter.Session.Schedule
import ReceiptPrinter.Settings
import ReceiptPrinter.Stream
import ReceiptPrinter.Text.Basic
import ReceiptPrinter.Text.Composed
import ReceiptPrinter.Text.Cursive
import ReceiptPrinter.Text.Direction
import ReceiptPrinter.Text.Lossy
import ReceiptPrinter.Text.Mark
import ReceiptPrinter.Text.Shown
import ReceiptPrinter.Text.Upper
import ReceiptPrinter.Transport.Backend
import ReceiptPrinter.Transport.Fault
import ReceiptPrinter.Transport.Journal
import ReceiptPrinter.Transport.Memory
import ReceiptPrinter.Transport.Passage
import ReceiptPrinter.Proofs.Session.Act
import ReceiptPrinter.Session.Journaled
import ReceiptPrinter.Proofs.Session.Simulation
import ReceiptPrinter.Proofs.Session.Journaled
import ReceiptPrinter.Proofs.Session.LifeCycle
import ReceiptPrinter.Proofs.Transport.Memory
import ReceiptPrinter.Session.Wire
import ReceiptPrinter.Proofs.Session.Course
import ReceiptPrinter.Proofs.Session.Traffic
import ReceiptPrinter.Proofs.Session.Wire
import ReceiptPrinter.Proofs.Session.Destination
import ReceiptPrinter.Proofs.Session.Outcome
import ReceiptPrinter.Proofs.Raster.Grammar
import ReceiptPrinter.Proofs.Raster.RoundTrip
import ReceiptPrinter.Proofs.Record
import ReceiptPrinter.Proofs.Bluetooth.Open
import ReceiptPrinter.Proofs.Bluetooth.Backend
import ReceiptPrinter.Proofs.Bluetooth.History
import ReceiptPrinter.Proofs.Bluetooth.Release
import ReceiptPrinter.Proofs.Bluetooth.Discipline
import ReceiptPrinter.CommandLine.Errand
import ReceiptPrinter.Proofs.Session.Recorded
import ReceiptPrinter.Proofs.CommandLine.Errand
import ReceiptPrinter.Proofs.CommandLine.Run
import ReceiptPrinter.Proofs.Session.Reach
import ReceiptPrinter.Proofs.Transport.Gate
import ReceiptPrinter.Proofs.Session.Permission
import ReceiptPrinter.Proofs.Event.Bus
import ReceiptPrinter.Proofs.Session.Watch
import ReceiptPrinter.Proofs.Qr.Picture
import ReceiptPrinter.Proofs.Session.Code
import ReceiptPrinter.Text.Offset
import ReceiptPrinter.Markup.Offset
import ReceiptPrinter.Proofs.Markup.Scan
import ReceiptPrinter.Scan.Account
import ReceiptPrinter.Scan.Bracket
import ReceiptPrinter.Scan.Finding
import ReceiptPrinter.Proofs.Scan.Account
import ReceiptPrinter.Proofs.Scan.Protocol
import ReceiptPrinter.Proofs.Scan.Bracket
import ReceiptPrinter.Proofs.Scan.Sweep
import ReceiptPrinter.Proofs.Scan.Window
import ReceiptPrinter.Proofs.Scan.Finding
import ReceiptPrinter.Proofs.Markup.Compose
import ReceiptPrinter.Proofs.Markup.Escape
import ReceiptPrinter.Proofs.Session.Select
import ReceiptPrinter.Proofs.Device.Mac
import ReceiptPrinter.Proofs.Session.Reselect
import ReceiptPrinter.Base64.Grammar
import ReceiptPrinter.Proofs.Base64.Reading
import ReceiptPrinter.Proofs.Session.Payload
import ReceiptPrinter.Proofs.Qr.Geometry
import ReceiptPrinter.Proofs.Raster.Chunks
import ReceiptPrinter.Scan.Answer
import ReceiptPrinter.Proofs.Scan.Answer
import ReceiptPrinter.Device.Grammar
import ReceiptPrinter.Bluetooth.Evidence
import ReceiptPrinter.Bluetooth.Row
import ReceiptPrinter.Bluetooth.Delivery
import ReceiptPrinter.Proofs.Text.Split
import ReceiptPrinter.Proofs.Text.Blank
import ReceiptPrinter.Proofs.Device.Address
import ReceiptPrinter.Proofs.Session.Spelling
import ReceiptPrinter.Proofs.Bluetooth.Verdict
import ReceiptPrinter.Proofs.Bluetooth.Listing
import ReceiptPrinter.Proofs.Bluetooth.Lookup
import ReceiptPrinter.Proofs.Bluetooth.Delivery
import ReceiptPrinter.Proofs.Device.Usb
import ReceiptPrinter.Proofs.Text.Upper
import ReceiptPrinter.Proofs.Json.Written
import ReceiptPrinter.Proofs.Device.Identity
import ReceiptPrinter.Proofs.Picture.Fit
import ReceiptPrinter.Proofs.Number.Double
import ReceiptPrinter.Proofs.Picture.Bound
import ReceiptPrinter.Proofs.Raster.Read
import ReceiptPrinter.Proofs.Picture.Matrix
import ReceiptPrinter.Proofs.Permission
