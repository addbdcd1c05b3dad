import DemoColombia.DataStructures.Dict
import DemoColombia.DataStructures.Json
import DemoColombia.DataStructures.Printf
import DemoColombia.TransitionSystems.Runs
import DemoColombia.TransitionSystems.Watchdog
import DemoColombia.Backend.Sessions
import DemoColombia.Backend.Undisturbed
import DemoColombia.Backend.ExitRace
import DemoColombia.Backend.Delays
import DemoColombia.Backend.Payload
import DemoColombia.Backend.LoopForever
import DemoColombia.Perception.Iteration
import DemoColombia.Perception.Shutdown
import DemoColombia.Perception.Frames
import DemoColombia.Perception.Entries
import DemoColombia.Chain.RoiGating
import DemoColombia.Chain.Tracks
import DemoColombia.Streams.Recovery
import DemoColombia.Streams.Names
import DemoColombia.Streams.Isolation
import DemoColombia.Perception.RedisKeys
import DemoColombia.Perception.Joining
import DemoColombia.Perception.CrossTalk
import DemoColombia.Perception.WakeUp
import DemoColombia.DataStructures.Heap
import DemoColombia.Perception.Ownership
import DemoColombia.Perception.Payloads
import DemoColombia.Backend.Handling
import DemoColombia.Chain.System
import DemoColombia.Chain.Drain
import DemoColombia.DataStructures.Codec
import DemoColombia.Detector.Boxes
import DemoColombia.Detector.BoxesCuda
import DemoColombia.Detector.Detections
import DemoColombia.Perception.Base64
import DemoColombia.DataStructures.Dataflow
import DemoColombia.DataStructures.Texts
import DemoColombia.Detector.Configured
