import JSCameraKit.Library.Machine
import JSCameraKit.Library.KeyedQueue
import JSCameraKit.Library.Stream
import JSCameraKit.Library.ListEdit
import JSCameraKit.Library.ForEach
import JSCameraKit.Library.LiveWalk
import JSCameraKit.Library.Chunks
import JSCameraKit.Library.Links
import JSCameraKit.Library.Blocks
import JSCameraKit.Library.SecureHash
import JSCameraKit.Library.Matcher
import JSCameraKit.Library.Paths
import JSCameraKit.Libwebsockets.RxParser
import JSCameraKit.Libwebsockets.Reads
import JSCameraKit.Libwebsockets.Frames
import JSCameraKit.Libwebsockets.Write
import JSCameraKit.Libwebsockets.Messages
import JSCameraKit.Libwebsockets.Output
import JSCameraKit.Libwebsockets.StoredSends
import JSCameraKit.Libwebsockets.Timeouts
import JSCameraKit.Libwebsockets.PollFds
import JSCameraKit.Libwebsockets.HeaderTable
import JSCameraKit.Libwebsockets.ServiceThread
import JSCameraKit.Libwebsockets.ThreadRuns
import JSCameraKit.Libwebsockets.Sha1
import JSCameraKit.Libwebsockets.Base64
import JSCameraKit.Libwebsockets.Lextable
import JSCameraKit.Libwebsockets.HeaderParser
import JSCameraKit.Libwebsockets.ParsedHeaders
import JSCameraKit.Libwebsockets.UriPath
import JSCameraKit.Libwebsockets.HeaderLines
import JSCameraKit.Libwebsockets.Handshake
import JSCameraKit.AVRecorder.ConstraintsManager
import JSCameraKit.AVRecorder.PresetChoice
import JSCameraKit.AVRecorder.FormatChoice
import JSCameraKit.AVRecorder.Recorder
import JSCameraKit.AVRecorder.Unwraps
import JSCameraKit.AVRecorder.DeviceSwitch
import JSCameraKit.AVRecorder.Capture
import JSCameraKit.AVRecorder.PlaneSizes
import JSCameraKit.AVRecorder.ScaledSamples
import JSCameraKit.WebSocketCamera.Handlers
import JSCameraKit.WebSocketCamera.SendLock
import JSCameraKit.WebSocketCamera.Configuration
import JSCameraKit.WebSocketCamera.ActivityTimer
import JSCameraKit.WebSocketCamera.FrameRequests
import JSCameraKit.WebSocketCamera.Freshness
import JSCameraKit.WebSocketServer.WriteQueue
import JSCameraKit.WebSocketServer.QueueDiscipline
import JSCameraKit.WebSocketServer.ServiceLoop
import JSCameraKit.WebSocketServer.Lifecycle
import JSCameraKit.WebSocketServer.Broadcast
import JSCameraKit.WebSocketServer.WriteCalls
import JSCameraKit.WebSocketServer.SendBuffer
import JSCameraKit.WebSocketServer.Orphans
import JSCameraKit.WebSocketServer.Completion
import JSCameraKit.WebSocketServer.Streams
import JSCameraKit.WebSocketServer.ClientMutex
import JSCameraKit.WebSocketServer.Reception
import JSCameraKit.WebSocketServer.WholeMessages
import JSCameraKit.WebSocketController.Handlers
import JSCameraKit.WebSocketController.Dispatch
import JSCameraKit.WebSocketController.ForcedUnwraps
import JSCameraKit.WebSocketController.Answers
import JSCameraKit.Browser.Camera
import JSCameraKit.Browser.EventEmitter
import JSCameraKit.Browser.OneShot
import JSCameraKit.Browser.MessageEvents
import JSCameraKit.Browser.SceneEffects
import JSCameraKit.Browser.AnimationLoop
import JSCameraKit.Browser.WebSocketController
import JSCameraKit.Browser.Reconnection
import JSCameraKit.Browser.Waits
import JSCameraKit.Browser.WaitingSends
import JSCameraKit.Browser.PendingRequests
import JSCameraKit.Session.BinaryPayloads
import JSCameraKit.Session.TextPayloads
import JSCameraKit.Session.System
import JSCameraKit.Session.Delivery
import JSCameraKit.Session.Messages
import JSCameraKit.Session.FrameIntegrity
import JSCameraKit.Session.Correlation
import JSCameraKit.Session.AnnouncedSize
