import Mathlib.Data.Int.Init

/-!
# Constants of the server

Result codes, the backlog of the listening socket, the kinds of tasks and the
names of the interface types. The interface types are one enumeration; their
names and the order in which the else-if chains test them are tables over it.
-/

namespace SigIf.Constants

/-- `MAX_LISTEN_QUEUE`. -/
def maxListenQueue : ℤ := 1024

/-- `RETURN::ERROR`. -/
def ERROR : ℤ := -1

/-- `TASKTYPE`. -/
inductive TaskType where
  | NEWCLIENT
  | TCPPACKET
  | UDPPACKET
  deriving DecidableEq

/-- The constants of the namespace `IFTYPE`. -/
inductive IfType where
  | ActionTable
  | CharacterParameterVersion
  | Detector
  | FailureConfig
  | Failure
  | FollowPhaseTable
  | IdentificationCode
  | LightStatus
  | PedestrianDetector
  | Phase
  | PhaseSequenceTable
  | PriorityConfig
  | RemoteControl
  | Schedule
  | SchemaTable
  | SemaphoreGroup
  | Time
  | TimeTable
  | TimingScheme
  | TrafficInfo
  | UnitParameter
  | Version
  | WorkMode
  | WorkStatus
  deriving DecidableEq

/-- The string that the constant holds. -/
def IfType.name : IfType → String
  | .ActionTable => "ActionTable"
  | .CharacterParameterVersion => "CharacterParameterVersion"
  | .Detector => "Detector"
  | .FailureConfig => "FailureConfig"
  | .Failure => "Failure"
  | .FollowPhaseTable => "FollowPhaseTable"
  | .IdentificationCode => "IdentificationCode"
  | .LightStatus => "LightStatus"
  | .PedestrianDetector => "PedestrianDetector"
  | .Phase => "Phase"
  | .PhaseSequenceTable => "PhaseSequenceTable"
  | .PriorityConfig => "PriorityConfig"
  | .RemoteControl => "RemoteControl"
  | .Schedule => "Schedule"
  | .SchemaTable => "SchemaTable"
  | .SemaphoreGroup => "SemaphoreGroup"
  | .Time => "Time"
  | .TimeTable => "TimeTable"
  | .TimingScheme => "TimingScheme"
  | .TrafficInfo => "TrafficInfo"
  | .UnitParameter => "UnitParameter"
  | .Version => "Version"
  | .WorkMode => "WorkMode"
  | .WorkStatus => "WorkStatus"

/-- The order in which both else-if chains test the constants. -/
def IfType.chain : List IfType :=
  [.ActionTable, .CharacterParameterVersion, .Detector, .FailureConfig, .Failure,
    .FollowPhaseTable, .IdentificationCode, .LightStatus, .PedestrianDetector, .Phase,
    .PhaseSequenceTable, .PriorityConfig, .RemoteControl, .Schedule, .SchemaTable,
    .SemaphoreGroup, .Time, .TimeTable, .TimingScheme, .TrafficInfo, .UnitParameter,
    .Version, .WorkMode, .WorkStatus]

end SigIf.Constants
