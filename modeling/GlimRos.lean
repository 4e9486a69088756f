import GlimRos.Library.Transition
import GlimRos.Library.Fairness
import GlimRos.Library.Channel
import GlimRos.Library.History
import GlimRos.Library.AsyncStage
import GlimRos.Library.Transducer
import GlimRos.Library.RateLimit
import GlimRos.Library.Rotation
import GlimRos.Library.RigidTransform
import GlimRos.Library.RealQuaternion
import GlimRos.Library.Numeral
import GlimRos.Ros
import GlimRos.RosQos
import GlimRos.Node.Basic
import GlimRos.Node.Step
import GlimRos.Node.Inversion
import GlimRos.Node.Causality
import GlimRos.Node.Joins
import GlimRos.Node.Flush
import GlimRos.Node.Unload
import GlimRos.Node.ImuStream
import GlimRos.Node.FrontEnd
import GlimRos.Node.SensorStreams
import GlimRos.Node.AtRest
import GlimRos.Node.Returns
import GlimRos.Node.Liveness
import GlimRos.Node.Backlog
import GlimRos.Rosbag.Basic
import GlimRos.Rosbag.Inversion
import GlimRos.Rosbag.Reference
import GlimRos.Rosbag.Refinement
import GlimRos.Rosbag.Progress
import GlimRos.Rosbag.Extensions
import GlimRos.Rosbag.StartOffset
import GlimRos.Rosbag.Throttle
import GlimRos.Rosbag.FileOrder
import GlimRos.Rosbag.Pause
import GlimRos.Rosbag.SpeedCounter
import GlimRos.Viewer.Basic
import GlimRos.Viewer.OdometryNewFrame
import GlimRos.Viewer.GlobalMap
import GlimRos.Viewer.Threads
import GlimRos.Viewer.RealApi
import GlimRos.Viewer.Consistency
import GlimRos.Viewer.FrameIds
import GlimRos.Viewer.TransformForest
import GlimRos.Viewer.LidarEdges
import GlimRos.Viewer.AlignedPoints
import GlimRos.Viewer.Merge
import GlimRos.Viewer.MapQueue
import GlimRos.Viewer.MapRate
import GlimRos.Viewer.Serial
import GlimRos.Viewer.Lifecycle
import GlimRos.Viewer.Liveness
import GlimRos.Viewer.SubmapAlignment
import GlimRos.Executable.Constructor
import GlimRos.Executable.RosbagMain
import GlimRos.Executable.Coupling
import GlimRos.Executable.Playback
import GlimRos.Executable.Completion
import GlimRos.Executable.Recording
import GlimRos.Executable.Deliveries
import GlimRos.Executable.Exit
import GlimRos.Executable.Clock
import GlimRos.Executable.Termination
import GlimRos.Executable.Rosnode
import GlimRos.Executable.RosnodeExit
import GlimRos.Executable.Backlog
import GlimRos.Executable.Shutdown
