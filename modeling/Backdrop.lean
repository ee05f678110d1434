import Backdrop.Command.Arguments
import Backdrop.Command.Control
import Backdrop.Command.Ending
import Backdrop.Command.Serve
import Backdrop.Daemon.Basic
import Backdrop.Daemon.Boot
import Backdrop.Daemon.Error
import Backdrop.Daemon.Loop
import Backdrop.Daemon.Occasion
import Backdrop.Daemon.Readiness
import Backdrop.Daemon.Round
import Backdrop.Daemon.Status
import Backdrop.Host.Environment
import Backdrop.Host.Errno
import Backdrop.Host.Path
import Backdrop.Host.Sockets
import Backdrop.Host.Tree
import Backdrop.Log
import Backdrop.Log.Directive
import Backdrop.Log.Pattern
import Backdrop.Log.Record
import Backdrop.Main
import Backdrop.Memory.Error
import Backdrop.Memory.Sealed
import Backdrop.Memory.Source
import Backdrop.Picture.Basic
import Backdrop.Picture.Bitmap
import Backdrop.Picture.Bits
import Backdrop.Picture.Decode
import Backdrop.Picture.Inflate
import Backdrop.Picture.Png
import Backdrop.Pixel.Checked
import Backdrop.Pixel.Cover
import Backdrop.Pixel.Extent
import Backdrop.Pixel.Filter
import Backdrop.Pixel.Resample
import Backdrop.Proofs.Command.Complaint
import Backdrop.Proofs.Daemon.Course
import Backdrop.Proofs.Daemon.Lease
import Backdrop.Proofs.Daemon.Rejection
import Backdrop.Proofs.Daemon.Tally
import Backdrop.Proofs.Delivery
import Backdrop.Proofs.Host.Change
import Backdrop.Proofs.Host.Path
import Backdrop.Proofs.Host.Way
import Backdrop.Proofs.Memory.Mapping
import Backdrop.Proofs.Memory.Steady
import Backdrop.Proofs.Pixel.Checked
import Backdrop.Proofs.Pixel.Verbatim
import Backdrop.Proofs.Pixel.Window
import Backdrop.Proofs.Pixel.Written
import Backdrop.Proofs.Report.Hint
import Backdrop.Proofs.Session.Alike
import Backdrop.Proofs.Session.Greeting
import Backdrop.Proofs.Session.Opening
import Backdrop.Proofs.Session.Pool
import Backdrop.Proofs.Settings.Locate
import Backdrop.Proofs.Table
import Backdrop.Proofs.Wall.Asking
import Backdrop.Proofs.Wall.Attempt
import Backdrop.Proofs.Wall.Backend
import Backdrop.Proofs.Wall.Broadcast
import Backdrop.Proofs.Wall.Exit
import Backdrop.Proofs.Wall.Flight
import Backdrop.Proofs.Wall.Geometry
import Backdrop.Proofs.Wall.Handshake
import Backdrop.Proofs.Wall.Lifetime
import Backdrop.Proofs.Wall.Locality
import Backdrop.Proofs.Wall.Mirror
import Backdrop.Proofs.Wall.Move
import Backdrop.Proofs.Wall.Release
import Backdrop.Proofs.Wall.Repertoire
import Backdrop.Proofs.Wall.Revival
import Backdrop.Proofs.Wall.Roll
import Backdrop.Proofs.Wall.Sound
import Backdrop.Proofs.Wall.Surfaces
import Backdrop.Proofs.Wall.Sweep
import Backdrop.Proofs.Wall.Timeline
import Backdrop.Proofs.Wall.Turn
import Backdrop.Proofs.Wall.Verdict
import Backdrop.Proofs.Wire.Crowd
import Backdrop.Proofs.Wire.Departure
import Backdrop.Proofs.Wire.Grammar
import Backdrop.Proofs.Wire.Header
import Backdrop.Proofs.Wire.Outflow
import Backdrop.Proofs.Wire.Premises
import Backdrop.Proofs.Wire.RoundTrip
import Backdrop.Proofs.Wire.Tenure
import Backdrop.Report.Chain
import Backdrop.Report.Diagnostics
import Backdrop.Report.Hint
import Backdrop.Report.Kind
import Backdrop.Session.Basic
import Backdrop.Session.Buffer
import Backdrop.Session.Dispatch
import Backdrop.Session.Notation
import Backdrop.Session.Protocol
import Backdrop.Settings.Basic
import Backdrop.Settings.Decode
import Backdrop.Settings.Locate
import Backdrop.Table
import Backdrop.Text.Alphanumeric
import Backdrop.Text.Quoted
import Backdrop.Text.Unprintable
import Backdrop.Text.Utf8
import Backdrop.Toml.Document
import Backdrop.Toml.Item
import Backdrop.Toml.Scalar
import Backdrop.Wall.Basic
import Backdrop.Wall.Draw
import Backdrop.Wall.Operation
import Backdrop.Wall.Phase
import Backdrop.Wall.Rehearsal
import Backdrop.Wall.Request
import Backdrop.Wall.Surface
import Backdrop.Wire.Channel
import Backdrop.Wire.Chunks
import Backdrop.Wire.Error
import Backdrop.Wire.Exchange
import Backdrop.Wire.Header
import Backdrop.Wire.LittleEndian
import Backdrop.Wire.Notes
import Backdrop.Wire.Request
import Backdrop.Wire.Server
import Backdrop.Wire.Stream
