import Fx5Slmp.FrameSelection
import Fx5Slmp.Lib.LittleEndian
import Fx5Slmp.Lib.PackedBits
import Fx5Slmp.Lib.StreamScan
import Fx5Slmp.PayloadStage
import Fx5Slmp.ParseResponse
import Fx5Slmp.RequestEncoding
import Fx5Slmp.ApiSpecs
import Fx5Slmp.Lib.Runs
import Fx5Slmp.Pool
import Fx5Slmp.Atomicity
import Fx5Slmp.FrameBoundary
import Fx5Slmp.ResponseDecoding
import Fx5Slmp.RequestDecoding
import Fx5Slmp.Segmentation
import Fx5Slmp.Recovery
import Fx5Slmp.StaleResponse
import Fx5Slmp.Client
import Fx5Slmp.Correlation
import Fx5Slmp.Lib.BoundedQueue
import Fx5Slmp.Lib.Machine
import Fx5Slmp.RingQueue
import Fx5Slmp.ParseEffects
import Fx5Slmp.Traces
import Fx5Slmp.Serials
import Fx5Slmp.Exposure
import Fx5Slmp.Isolation
import Fx5Slmp.ClientParser
import Fx5Slmp.ClientParserBounds
import Fx5Slmp.TextToWire
import Fx5Slmp.Lib.Instrumented
import Fx5Slmp.InstrumentedParser
import Fx5Slmp.FaithfulParser
import Fx5Slmp.CheckedArithmetic
import Fx5Slmp.ExactSizes
import Fx5Slmp.Lib.TextFields
import Fx5Slmp.ValueList
import Fx5Slmp.WrittenNumerals
import Fx5Slmp.ValueArray
import Fx5Slmp.AddressText
import Fx5Slmp.Replay
import Fx5Slmp.ClientConfig
import Fx5Slmp.Lib.LastUpdate
import Fx5Slmp.IniFields
import Fx5Slmp.Lib.StoppingRun
import Fx5Slmp.Script
import Fx5Slmp.ScriptLines
import Fx5Slmp.ScriptFailure
import Fx5Slmp.ParseAccounting
import Fx5Slmp.NoInventedByte
import Fx5Slmp.DeviceMemory
import Fx5Slmp.FrameDelivery
import Fx5Slmp.Session
import Fx5Slmp.SessionMemory
import Fx5Slmp.Repl
import Fx5Slmp.AnyPeer
import Fx5Slmp.Lib.StreamDecoder
import Fx5Slmp.Receiver
import Fx5Slmp.Ownership
import Fx5Slmp.ClientTransport
import Fx5Slmp.Wire
import Fx5Slmp.ClientCalls
import Fx5Slmp.AppLifecycle
import Fx5Slmp.Lib.SignedNumerals
import Fx5Slmp.ClientMain
import Fx5Slmp.CallHistory
import Fx5Slmp.PlainClient
import Fx5Slmp.ClientOutput
import Fx5Slmp.OutputLog
import Fx5Slmp.Transcript
import Fx5Slmp.Diagnostics
