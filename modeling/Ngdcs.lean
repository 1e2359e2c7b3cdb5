import Ngdcs.AppFrame.EnsureDirectory
import Ngdcs.Cipher.Blowfish
import Ngdcs.Cipher.Tables
import Ngdcs.Display.Conversion
import Ngdcs.Display.CopyFile
import Ngdcs.Display.CpuLight
import Ngdcs.Display.ImageDisplay
import Ngdcs.Display.Plots
import Ngdcs.Display.Screen
import Ngdcs.Display.Stretch
import Ngdcs.Display.TimingLights
import Ngdcs.FrameRing.Accounting
import Ngdcs.FrameRing.Model
import Ngdcs.FrameRing.Reuse
import Ngdcs.Ftp.Connection
import Ngdcs.Ftp.Dropped
import Ngdcs.Ftp.EcsData
import Ngdcs.Ftp.GetFile
import Ngdcs.Ftp.Lines
import Ngdcs.Ftp.Listing
import Ngdcs.Ftp.ListingReplies
import Ngdcs.Ftp.PassiveReply
import Ngdcs.Ftp.Scripts
import Ngdcs.Gps.Framing
import Ngdcs.Gps.InitCommand
import Ngdcs.Gps.Invariant
import Ngdcs.Gps.Line1
import Ngdcs.Gps.Parser
import Ngdcs.Gps.Scanner
import Ngdcs.Gps.Simulator.Decoding
import Ngdcs.Gps.Simulator.Model
import Ngdcs.Gps.Simulator.Queue
import Ngdcs.Gps.Simulator.Rates
import Ngdcs.Gps.Simulator.RoundTrip
import Ngdcs.Headless.Commands
import Ngdcs.Headless.Interface
import Ngdcs.Headless.Stream
import Ngdcs.Ipc.Accepts
import Ngdcs.Ipc.Accounting
import Ngdcs.Ipc.Canonical
import Ngdcs.Ipc.Channels
import Ngdcs.Ipc.Delivery
import Ngdcs.Ipc.RoundTrip
import Ngdcs.Ipc.Sends
import Ngdcs.Ipc.Socket
import Ngdcs.Ipc.Terminated
import Ngdcs.Ipc.Traced
import Ngdcs.Ipc.Typed
import Ngdcs.Lib.Actions
import Ngdcs.Lib.Alarms
import Ngdcs.Lib.Averages
import Ngdcs.Lib.Backlog
import Ngdcs.Lib.CStrings
import Ngdcs.Lib.CountDown
import Ngdcs.Lib.Cursors
import Ngdcs.Lib.Dialogue
import Ngdcs.Lib.Doubles
import Ngdcs.Lib.ExchangeSort
import Ngdcs.Lib.Feistel
import Ngdcs.Lib.FileTree
import Ngdcs.Lib.FillLoop
import Ngdcs.Lib.MakePath
import Ngdcs.Lib.Numerals
import Ngdcs.Lib.Pieces
import Ngdcs.Lib.Raster
import Ngdcs.Lib.Recency
import Ngdcs.Lib.Ring
import Ngdcs.Lib.Runs
import Ngdcs.Lib.Scan
import Ngdcs.Lib.Stores
import Ngdcs.Lib.TextLines
import Ngdcs.Lib.Window
import Ngdcs.Lists.Careful
import Ngdcs.Lists.Model
import Ngdcs.Lists.Refinement
import Ngdcs.Lists.Scans
import Ngdcs.Lists.Watches
import Ngdcs.Mount.GivesUp
import Ngdcs.Mount.Handler
import Ngdcs.Mount.Replies
import Ngdcs.Obc.Gpio
import Ngdcs.Recorder.Abort
import Ngdcs.Recorder.Calibration
import Ngdcs.Recorder.CalibrationEnd
import Ngdcs.Recorder.Dark.Accumulation
import Ngdcs.Recorder.Dark.Average
import Ngdcs.Recorder.Dark.Files
import Ngdcs.Recorder.Fms.Overlap
import Ngdcs.Recorder.Fms.Presses
import Ngdcs.Recorder.Fms.Questions
import Ngdcs.Recorder.Fms.Stops
import Ngdcs.Recorder.Fms.Toggle
import Ngdcs.Recorder.Fms.ToggleSafe
import Ngdcs.Recorder.Headers
import Ngdcs.Recorder.Machine
import Ngdcs.Recorder.ObcMode
import Ngdcs.Recorder.OpenFiles
import Ngdcs.Recorder.Operational
import Ngdcs.Recorder.Phases
import Ngdcs.Recorder.State
import Ngdcs.Recorder.Steps
import Ngdcs.Recorder.Writes
import Ngdcs.Recordings.Dates
import Ngdcs.Recordings.DiskChanges
import Ngdcs.Recordings.FileNames
import Ngdcs.Recordings.FileSets
import Ngdcs.Recordings.OrderFree
import Ngdcs.Recordings.Orphans
import Ngdcs.Recordings.RecorderTab
import Ngdcs.Recordings.ScanDirs
import Ngdcs.Recordings.Tab
import Ngdcs.Recordings.TabSession
import Ngdcs.Serial.ReadPCSerial
import Ngdcs.Settings.Block
import Ngdcs.Settings.CipherBuffers
import Ngdcs.Settings.DataDirs
import Ngdcs.Settings.File
import Ngdcs.Settings.GetValue
import Ngdcs.Settings.Libtomcrypt
import Ngdcs.Settings.Loading
import Ngdcs.Settings.Mru
import Ngdcs.Settings.Password
import Ngdcs.Settings.Restart
import Ngdcs.Settings.SaveLoad
import Ngdcs.Settings.Session
import Ngdcs.Shutter.Combo
import Ngdcs.Shutter.Maxon
import Ngdcs.Shutter.Motor
