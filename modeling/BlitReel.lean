import BlitReel.Assembler
import BlitReel.Command.Announcement
import BlitReel.Command.Convert
import BlitReel.Command.Exit
import BlitReel.Command.PictureQuality
import BlitReel.Command.QualityTest
import BlitReel.Command.Serve
import BlitReel.CommandLine.Distance
import BlitReel.CommandLine.Reading
import BlitReel.CommandLine.Spec
import BlitReel.Conversion.Basic
import BlitReel.Conversion.Options
import BlitReel.Conversion.Run
import BlitReel.Conversion.Source
import BlitReel.Decoder
import BlitReel.Failure
import BlitReel.Files.FileTree
import BlitReel.Files.Path
import BlitReel.Frame.Basic
import BlitReel.Frame.ColourError
import BlitReel.Frame.Parser
import BlitReel.Frame.Sink
import BlitReel.Geometry
import BlitReel.Host.Basic
import BlitReel.Host.Decoder
import BlitReel.Input.Download
import BlitReel.Input.Metadata
import BlitReel.Input.Name
import BlitReel.Input.Open
import BlitReel.Input.Probe
import BlitReel.Input.Report
import BlitReel.Input.Still
import BlitReel.Journal.Basic
import BlitReel.Journal.Console
import BlitReel.Journal.Lexicon
import BlitReel.Json.Fields
import BlitReel.Json.Reader
import BlitReel.Json.Value
import BlitReel.Json.Writer
import BlitReel.Main
import BlitReel.Manifest.Basic
import BlitReel.Manifest.Storage
import BlitReel.Movie.Box
import BlitReel.Movie.Header
import BlitReel.Number.Binary64
import BlitReel.Number.Layout
import BlitReel.Number.Numeral
import BlitReel.Number.Shortest
import BlitReel.Number.Sine
import BlitReel.Palette.Basic
import BlitReel.Palette.Lab
import BlitReel.Picture.Bmp
import BlitReel.Picture.Checksum
import BlitReel.Picture.File
import BlitReel.Picture.Gif
import BlitReel.Picture.Grid
import BlitReel.Picture.Inflate
import BlitReel.Picture.Lzw
import BlitReel.Picture.Png
import BlitReel.Picture.Resample
import BlitReel.Picture.Sample
import BlitReel.Preview
import BlitReel.Service.Library
import BlitReel.Service.Manager
import BlitReel.Service.Packet
import BlitReel.Service.Request
import BlitReel.Service.Status
import BlitReel.Service.Subscription
import BlitReel.Settings.Basic
import BlitReel.Settings.File
import BlitReel.Settings.Options
import BlitReel.TailBuffer
import BlitReel.Template.Basic
import BlitReel.Template.Spec
import BlitReel.Template.Value
import BlitReel.Text.Blank
import BlitReel.Text.Octets
import BlitReel.Text.Printable
import BlitReel.Text.Quoted
import BlitReel.Text.Utf8
import BlitReel.Timestamp
import BlitReel.Web.Address
import BlitReel.Web.Listening
import BlitReel.Web.MediaType
import BlitReel.Web.Server
import BlitReel.Yaml.Character
import BlitReel.Yaml.Node
import BlitReel.Yaml.Resolve
import BlitReel.Yaml.Token.Basic
import BlitReel.Yaml.Token.Fetch
import BlitReel.Yaml.Token.Scalar
import BlitReel.Proofs.Number.Numeral
import BlitReel.Proofs.Frame.Encoding
import BlitReel.Proofs.Frame.RoundTrip
import BlitReel.Proofs.Files.FileTree
import BlitReel.Proofs.Files.Operations
import BlitReel.Proofs.Frame.FileName
import BlitReel.Proofs.Manifest.Storage
import BlitReel.Proofs.Assembler
import BlitReel.Proofs.Conversion.Step
import BlitReel.Proofs.Conversion.Reader
import BlitReel.Proofs.Conversion.Invariant
import BlitReel.Proofs.Number.Binary64
import BlitReel.Proofs.Conversion.Outcome
import BlitReel.Proofs.Conversion.Progress
import BlitReel.Proofs.Conversion.Schedule
import BlitReel.Proofs.Conversion.Footprint
import BlitReel.Proofs.Json.Literal
import BlitReel.Proofs.Json.Number
import BlitReel.Proofs.Json.RoundTrip
import BlitReel.Proofs.Manifest.Document
import BlitReel.Proofs.Conversion.History
import BlitReel.Proofs.Service.Errand
import BlitReel.Proofs.Files.Cleaning
import BlitReel.Proofs.Manifest.RoundTrip
import BlitReel.Proofs.Service.Exclusion
import BlitReel.Proofs.Service.Library
import BlitReel.Proofs.Service.Publication
import BlitReel.Proofs.Conversion.Report
import BlitReel.Proofs.Service.Transition
import BlitReel.Proofs.Service.Cancellation
import BlitReel.Proofs.Service.Answer
import BlitReel.Proofs.Service.StatusPackets
import BlitReel.Proofs.Service.Announcement
import BlitReel.Proofs.Assembler.Queue
import BlitReel.Proofs.Files.Child
import BlitReel.Proofs.Service.Admission
import BlitReel.Proofs.Conversion.Preview
import BlitReel.Proofs.Conversion.Cause
import BlitReel.Proofs.Input.Opening
import BlitReel.Proofs.Settings
import BlitReel.Proofs.Palette.Nearest
import BlitReel.Proofs.Text.Words
import BlitReel.Proofs.Frame.Layout
import BlitReel.Proofs.Frame.Reading
import BlitReel.Proofs.Frame.Normal
import BlitReel.Proofs.Palette.Digits
import BlitReel.Proofs.Frame.Repainting
import BlitReel.Proofs.Frame.Legend
import BlitReel.Proofs.Manifest.Builder
import BlitReel.Proofs.Manifest.Atomicity
import BlitReel.Proofs.TailBuffer
import BlitReel.Proofs.Frame.Buffer
import BlitReel.Proofs.Frame.Writing
import BlitReel.Proofs.Picture.Grid
import BlitReel.Proofs.Preview
import BlitReel.Proofs.Number.Whole
import BlitReel.Proofs.Timestamp
import BlitReel.Proofs.Input.Probe
import BlitReel.Proofs.Input.Report
import BlitReel.Proofs.Picture.Resample
import BlitReel.Proofs.Conversion.Writable
import BlitReel.Proofs.Input.Still
import BlitReel.Proofs.Frame.NameOrder
import BlitReel.Proofs.Frame.Offsets
import BlitReel.Proofs.Number.Quotient
import BlitReel.Proofs.Command.QualityTest
