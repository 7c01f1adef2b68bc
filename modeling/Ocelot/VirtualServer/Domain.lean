/-
# Nodes, services, instances and volumes (`virtualserver/domain`).
-/
import Ocelot.Tracker.Types
import Mathlib.Data.List.Lex

namespace Ocelot.VirtualServer

open Tracker (Bytes lit)

abbrev NodeID := Bytes
abbrev InstanceID := Bytes
abbrev ServiceID := ℤ
abbrev VolumeID := Bytes
abbrev MountID := ℕ

abbrev Nanos := ℤ

abbrev Seconds := ℤ

def second : Nanos := 1000000000

def unix (t : Nanos) : Seconds := t / second

abbrev StringMap := List (Bytes × Bytes)

def StringMap.get (m : StringMap) (k : Bytes) : Bytes := ((m.find? fun e => e.1 = k).map Prod.snd).getD []

def byteOrder (b : Bytes) : List ℕ := b.map UInt8.toNat

inductive InstanceState where
  | declared | scheduled | provisioning | starting | running | degraded | stopping | failed | terminated
  deriving DecidableEq

namespace InstanceState

def allowedInstanceTransitions : InstanceState → List InstanceState
  | declared => [scheduled, failed]
  | scheduled => [provisioning, failed]
  | provisioning => [starting, failed]
  | starting => [running, failed]
  | running => [degraded, stopping]
  | degraded => [running, stopping, failed]
  | stopping => [terminated]
  | failed => [declared, terminated]
  | terminated => []

def validateInstanceTransition (src dst : InstanceState) : Bool := (allowedInstanceTransitions src).contains dst

def isTerminal (s : InstanceState) : Bool := s = terminated

theorem not_validate_terminated (s : InstanceState) : validateInstanceTransition terminated s = false := rfl

end InstanceState

structure ServiceInstance where
  serviceID : ServiceID
  /-- Empty where the column is `NULL`. -/
  nodeID : NodeID
  vsPath : Bytes
  state : InstanceState
  retryCount : ℤ
  runtimeHandle : StringMap
  createdAt : Seconds
  updatedAt : Seconds
  deriving DecidableEq

inductive NodeState where
  | discovered | ready | degraded | draining | maintenance | quarantined | retired
  deriving DecidableEq

namespace NodeState

def allowedNodeTransitions : NodeState → List NodeState
  | discovered => [ready, quarantined]
  | ready => [degraded, draining, maintenance, quarantined]
  | degraded => [ready, draining, quarantined]
  | draining => [maintenance, quarantined, retired]
  | maintenance => [ready, quarantined]
  | quarantined => [maintenance, retired]
  | retired => []

def validateNodeTransition (src dst : NodeState) : Bool := (allowedNodeTransitions src).contains dst

def isProtected : NodeState → Bool
  | quarantined | retired | draining | maintenance => true
  | _ => false

end NodeState

structure GPUDevice where
  index : ℤ
  vramMiB : ℤ
  allocated : Bool
  deriving DecidableEq

structure NodeRow where
  name : Bytes
  arch : Bytes
  cpuThreads : ℤ
  availCPUThreads : ℤ
  totalRAMMiB : ℤ
  availRAMMiB : ℤ
  labels : StringMap
  location : Bytes
  state : NodeState
  lastHeartbeat : Option Seconds
  deriving DecidableEq

structure Node extends NodeRow where
  id : NodeID
  gpuDevices : List GPUDevice
  activeInstances : ℤ
  deriving DecidableEq

namespace Node

def eligibleGPUs (n : Node) (minVRAMMiB : ℤ) : List GPUDevice :=
  n.gpuDevices.filter fun g => !g.allocated && minVRAMMiB ≤ g.vramMiB

def totalGPUVRAMMiB (n : Node) : ℤ := (n.gpuDevices.map GPUDevice.vramMiB).sum

end Node

structure GPURequest where
  required : Bool
  count : ℤ
  minVRAMMiB : ℤ
  deriving DecidableEq

structure ResourceRequest where
  cpuThreads : ℤ
  ramMiB : ℤ
  gpu : GPURequest
  deriving DecidableEq

structure PlacementPolicy where
  requiredLabels : StringMap
  preferredNodes : List Bytes
  excludedNodes : List Bytes
  requiredArch : Bytes
  preferredLocation : Bytes
  deriving DecidableEq

structure RestartPolicy where
  policy : Bytes
  maximumAttempts : ℤ
  deriving DecidableEq

structure ArtifactReference where
  type : Bytes
  infoHash : Bytes
  deriving DecidableEq

structure ServiceVolumeMount where
  volumeName : Bytes
  targetPath : Bytes
  readOnly : Bool
  deriving DecidableEq

structure ServiceSpec where
  artifact : ArtifactReference
  runtime : Bytes
  resources : ResourceRequest
  placement : PlacementPolicy
  restart : RestartPolicy
  mounts : List ServiceVolumeMount
  deriving DecidableEq

structure ServiceManifest where
  nspace : Bytes
  name : Bytes
  spec : ServiceSpec
  deriving DecidableEq

structure Service where
  manifest : ServiceManifest
  desiredCount : ℤ
  deriving DecidableEq

inductive VolumeAccessMode where
  | rwo | rox | rwx
  deriving DecidableEq

inductive VolumeState where
  | declared | provisioning | ready | bound | releasing | released | failed | quotaExceeded
  deriving DecidableEq

namespace VolumeState

def allowedVolumeTransitions : VolumeState → List VolumeState
  | declared => [provisioning, releasing]
  | provisioning => [ready, failed]
  | ready => [bound, releasing]
  | bound => [ready, releasing, quotaExceeded]
  | releasing => [released, failed]
  | released => []
  | failed => [declared, releasing]
  | quotaExceeded => [bound, releasing]

def validateVolumeTransition (src dst : VolumeState) : Bool := (allowedVolumeTransitions src).contains dst

end VolumeState

inductive VolumeMountState where
  | pending | active | releasing | released | failed
  deriving DecidableEq

structure VolumeSpec where
  cls : Bytes
  capacityMiB : ℤ
  accessMode : VolumeAccessMode
  deriving DecidableEq

structure VolumeManifest where
  nspace : Bytes
  name : Bytes
  spec : VolumeSpec
  deriving DecidableEq

structure Volume where
  manifest : VolumeManifest
  state : VolumeState
  boundNodeID : NodeID
  driverHandle : StringMap
  failureReason : Bytes
  createdAt : Seconds
  deriving DecidableEq

structure VolumeMount where
  volumeID : VolumeID
  instanceID : InstanceID
  targetPath : Bytes
  readOnly : Bool
  state : VolumeMountState
  deriving DecidableEq

def VolumeMount.isHeld (m : VolumeMount) : Bool := m.state ≠ .released

end Ocelot.VirtualServer
