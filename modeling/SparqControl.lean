import SparqControl.Lib.Trace
import SparqControl.Lib.Quantize
import SparqControl.Lib.Packed
import SparqControl.Lib.Dict
import SparqControl.Lib.Window
import SparqControl.Lib.Slots
import SparqControl.Lib.Loop
import SparqControl.Lib.Seqlock
import SparqControl.Hal.PyValue
import SparqControl.Hal.FloatArith
import SparqControl.Hal.CanFrame
import SparqControl.Hal.ActuatorDriver
import SparqControl.Hal.ProcessTransport
import SparqControl.CanDaemon.TxLoop
import SparqControl.CanDaemon.RxSubscribers
import SparqControl.Hw.DongilcProtocol
import SparqControl.Hw.FloatRange
import SparqControl.Sim.SpgFirmware
import SparqControl.Sim.SpgDevice
import SparqControl.Sim.E2BoxImuFirmware
import SparqControl.Sim.MujocoCanBridge
import SparqControl.Link.MitCodec
import SparqControl.Link.StatusCodec
import SparqControl.Link.Damping
import SparqControl.Link.EnableAck
import SparqControl.Shm.OperatorCommand
import SparqControl.SparqCan.ControlStruct
import SparqControl.SparqCan.ControlShm
import SparqControl.SparqCan.RobstrideMotor
import SparqControl.SparqCan.RxHandler
import SparqControl.SparqCan.MotorProcess
import SparqControl.SparqCan.CommandSlots
import SparqControl.SparqCan.Feedback
import SparqControl.SparqCan.Calibration
import SparqControl.Supervisor.ProcessSupervisor
import SparqControl.Config.Yaml
import SparqControl.Config.PlatformConfig
import SparqControl.Config.RobotControllerConfig
import SparqControl.Controller.StateMachine
import SparqControl.Controller.RobotController
import SparqControl.Controller.Tick
import SparqControl.Controller.PolicyDispatch
import SparqControl.Controller.Shutdown
import SparqControl.Controller.EstopLatch
import SparqControl.Controller.Arming
import SparqControl.Controller.Mailbox
import SparqControl.Controller.ZeroSet
import SparqControl.Controller.ZeroReference
import SparqControl.Controller.CommandLoss
import SparqControl.Controller.LoadedController
import SparqControl.Controller.SafetyOutputs
import SparqControl.Telemetry.RobotState
import SparqControl.Telemetry.Snapshot
import SparqControl.Link.SetZero
import SparqControl.Dashboard.CanDecode
import SparqControl.Dashboard.CommandService
import SparqControl.Dashboard.MonitorState
import SparqControl.Dashboard.MotorReadings
import SparqControl.Link.TwoEncoders
import SparqControl.Hw.ActuatorFeedback
import SparqControl.Hal.CommManager
import SparqControl.Hal.ImuDriver
import SparqControl.Hw.E2boxProtocol
import SparqControl.Hw.ImuStreams
import SparqControl.Lib.UnitQuat
import SparqControl.Link.ImuCodec
import SparqControl.Telemetry.PolicyGravity
import SparqControl.Link.SocketRecords
import SparqControl.Hal.EchoFilter
import SparqControl.Hal.ProcessClient
import SparqControl.Hal.TransportConnection
import SparqControl.Hw.EncoderOffset
import SparqControl.Lib.Multimap
import SparqControl.Hal.Dispatcher
import SparqControl.Lib.Broadcast
import SparqControl.TaskController.PolicyRunner
import SparqControl.TaskController.TaskLoop
import SparqControl.Sim.DeviceConfig
import SparqControl.Link.PlatformActuators
import SparqControl.Supervisor.PidReuse
import SparqControl.CanDaemon.RxStream
import SparqControl.Controller.RunLoop
import SparqControl.Link.OperatorConsole
import SparqControl.Controller.Lifecycle
import SparqControl.TaskController.AuxReader
import SparqControl.Hal.Transactions
import SparqControl.Link.StoppedRobot
import SparqControl.Dashboard.MotorRows
import SparqControl.Dashboard.RecentFrames
