import NanoKvm.Audio.Device
import NanoKvm.Audio.Flow
import NanoKvm.Audio.Outage
import NanoKvm.Audio.Ring
import NanoKvm.Audio.RingLaws
import NanoKvm.Audio.Stats
import NanoKvm.Audio.Warning
import NanoKvm.Audio.Workers
import NanoKvm.Capture.Conservation
import NanoKvm.Capture.Decoder
import NanoKvm.Capture.Handoff
import NanoKvm.Capture.Header
import NanoKvm.Capture.Jpeg
import NanoKvm.Capture.Ladder
import NanoKvm.Capture.Polling
import NanoKvm.Capture.Recovery
import NanoKvm.Capture.Stages
import NanoKvm.Capture.Streaming
import NanoKvm.Capture.V4l2
import NanoKvm.Capture.Watchdog
import NanoKvm.Cli.Commands
import NanoKvm.Cli.Deliver
import NanoKvm.Cli.DryRun
import NanoKvm.Cli.Guard
import NanoKvm.Cli.Naming
import NanoKvm.Cli.Pick
import NanoKvm.Cli.Saving
import NanoKvm.Cli.Shot
import NanoKvm.Cli.Target
import NanoKvm.Discovery.Choice
import NanoKvm.Discovery.Inventory
import NanoKvm.Discovery.Path
import NanoKvm.Discovery.Reopen
import NanoKvm.Discovery.Topology
import NanoKvm.Input.Agreement
import NanoKvm.Input.Coalesce
import NanoKvm.Input.Deltas
import NanoKvm.Input.Depth
import NanoKvm.Input.Fifo
import NanoKvm.Input.Freshness
import NanoKvm.Input.Held
import NanoKvm.Input.Ledger
import NanoKvm.Input.Motion
import NanoKvm.Input.Moves
import NanoKvm.Input.Order
import NanoKvm.Input.Pointer
import NanoKvm.Input.Projection
import NanoKvm.Input.Queue
import NanoKvm.Input.Record
import NanoKvm.Input.Release
import NanoKvm.Input.Session
import NanoKvm.Input.Shared
import NanoKvm.Input.Simulation
import NanoKvm.Input.Wake
import NanoKvm.Input.Writer
import NanoKvm.Lib.Blocks
import NanoKvm.Lib.Checked
import NanoKvm.Lib.Choice
import NanoKvm.Lib.Civil
import NanoKvm.Lib.Deferred
import NanoKvm.Lib.Digits
import NanoKvm.Lib.Driven
import NanoKvm.Lib.Log
import NanoKvm.Lib.Lossy
import NanoKvm.Lib.Mask
import NanoKvm.Lib.Noticed
import NanoKvm.Lib.Published
import NanoKvm.Lib.Spacing
import NanoKvm.Lib.Spans
import NanoKvm.Lib.Transition
import NanoKvm.Lib.Utf8
import NanoKvm.Proto.Absolute
import NanoKvm.Proto.Bounded
import NanoKvm.Proto.Frame
import NanoKvm.Proto.FrameSplit
import NanoKvm.Proto.FrameStream
import NanoKvm.Proto.GarbageCount
import NanoKvm.Proto.Hex
import NanoKvm.Proto.Keymap
import NanoKvm.Proto.Placed
import NanoKvm.Proto.Reply
import NanoKvm.Proto.Report
import NanoKvm.Proto.UsbString
import NanoKvm.Script.Chord
import NanoKvm.Script.Compile
import NanoKvm.Script.Exact
import NanoKvm.Script.Macro
import NanoKvm.Script.OnePass
import NanoKvm.Script.Spelling
import NanoKvm.Script.Taps
import NanoKvm.Script.Target
import NanoKvm.Script.Text
import NanoKvm.Serial.Forward
import NanoKvm.Serial.Matcher
import NanoKvm.Serial.Reader
import NanoKvm.Serial.Recovery
import NanoKvm.Viewer.App
import NanoKvm.Viewer.Chrome
import NanoKvm.Viewer.Clipboard
import NanoKvm.Viewer.Exclusive
import NanoKvm.Viewer.Feed
import NanoKvm.Viewer.Fetching
import NanoKvm.Viewer.History
import NanoKvm.Viewer.Inhibit
import NanoKvm.Viewer.Inhibited
import NanoKvm.Viewer.Job
import NanoKvm.Viewer.Menu
import NanoKvm.Viewer.Outstanding
import NanoKvm.Viewer.Owed
import NanoKvm.Viewer.Ownership
import NanoKvm.Viewer.Painted
import NanoKvm.Viewer.Paste
import NanoKvm.Viewer.Replay
import NanoKvm.Viewer.Response
import NanoKvm.Viewer.Route
import NanoKvm.Viewer.Settings
import NanoKvm.Viewer.Shield
import NanoKvm.Viewer.State
import NanoKvm.Viewer.Steps
import NanoKvm.Viewer.Strokes
import NanoKvm.Viewer.Typing
import NanoKvm.Viewer.Unsent
