import ZsaSdk.Lib.IntTypes
import ZsaSdk.Lib.CString
import ZsaSdk.Capturesync.Simulation
import ZsaSdk.Capturesync.Steps
import ZsaSdk.Capturesync.Settings
import ZsaSdk.Capturesync.Invariant
import ZsaSdk.Capturesync.Representation
import ZsaSdk.Capturesync.Window
import ZsaSdk.Capturesync.Heads
import ZsaSdk.Capturesync.Session
import ZsaSdk.Capturesync.Start
import ZsaSdk.Capturesync.Pushed
import ZsaSdk.Capturesync.Isolation
import ZsaSdk.Capturesync.Pairs
import ZsaSdk.Capturesync.Conservation
import ZsaSdk.Capturesync.Merge
import ZsaSdk.Capturesync.References
import ZsaSdk.Queue.Threads
import ZsaSdk.Queue.Blocking
import ZsaSdk.Queue.Shutdown
import ZsaSdk.Queue.Memory
import ZsaSdk.Queue.Creation
import ZsaSdk.Capturesync.Creation
import ZsaSdk.Lib.Framing
import ZsaSdk.Usbcommand.Model
import ZsaSdk.Usbcommand.Matching
import ZsaSdk.Usbcommand.Devices
import ZsaSdk.Usbcommand.Selection
import ZsaSdk.Usbcommand.Counting
import ZsaSdk.Usbcommand.Creation
import ZsaSdk.Allocator.Model
import ZsaSdk.Allocator.Accounting
import ZsaSdk.Allocator.Pairing
import ZsaSdk.Image.Model
import ZsaSdk.Image.References
import ZsaSdk.Image.Handover
import ZsaSdk.Image.Sizes
import ZsaSdk.Lib.Raster
import ZsaSdk.Image.Pixels
import ZsaSdk.Image.Creation
import ZsaSdk.Image.Getters
import ZsaSdk.Capturesync.Failure
import ZsaSdk.Usbstreaming.Model
import ZsaSdk.Usbstreaming.Transfers
import ZsaSdk.Usbstreaming.Setup
import ZsaSdk.Usbstreaming.Completion
import ZsaSdk.Usbstreaming.Threads
import ZsaSdk.Color.Model
import ZsaSdk.Color.Capabilities
import ZsaSdk.Lib.Conversions
import ZsaSdk.Color.Controls
import ZsaSdk.Lib.RoundUp
import ZsaSdk.Color.Exposure
import ZsaSdk.Lib.Bytes
import ZsaSdk.Color.Metadata
import ZsaSdk.Color.Items
import ZsaSdk.Uvc.Payload
import ZsaSdk.Uvc.Assembly
import ZsaSdk.Uvc.Delivery
import ZsaSdk.Color.Frame
import ZsaSdk.Color.Geometry
import ZsaSdk.Color.Samples
import ZsaSdk.Device.Model
import ZsaSdk.Device.Sessions
import ZsaSdk.Device.Open
import ZsaSdk.Device.Delays
import ZsaSdk.Capturesync.Stopped
import ZsaSdk.Device.Start
import ZsaSdk.Wrapper.ClampCast
import ZsaSdk.Lib.SharedHandles
import ZsaSdk.Wrapper.Objects
import ZsaSdk.Logging.Model
import ZsaSdk.Logging.LogFile
import ZsaSdk.Lib.RwLock
import ZsaSdk.Logging.Threads
import ZsaSdk.Logging.Callbacks
import ZsaSdk.Lib.Nested
import ZsaSdk.Lib.Slots
import ZsaSdk.Uvc.Transfers
import ZsaSdk.Color.Reader
import ZsaSdk.Color.Streaming
import ZsaSdk.Color.Stopping
import ZsaSdk.Lib.Blocks
import ZsaSdk.Uvc.Descriptors
import ZsaSdk.Uvc.DescriptorBlocks
import ZsaSdk.Lib.Search
import ZsaSdk.Uvc.Negotiation
import ZsaSdk.Uvc.FormatSearch
import ZsaSdk.Uvc.StreamSetup
import ZsaSdk.Capturesync.ColorOnly
import ZsaSdk.Device.Streaming
import ZsaSdk.Uvc.Controls
