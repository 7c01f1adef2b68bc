/-
# The tables of `compute.db` (`compute/schema/schema.sql`, `compute/node/types.go`), with the
columns that the scheduler, the monitors and the handlers use.
-/
import Ocelot.Lib.Table
import Ocelot.Lib.Decimal
import Ocelot.Tracker.Types

namespace Ocelot.Compute

open Tracker (Bytes lit)

abbrev WorkloadID := Bytes
abbrev NodeID := Bytes
abbrev GPUID := Bytes
abbrev ReservationID := Bytes
abbrev OrgID := Bytes
abbrev AccountID := Bytes

abbrev Millis := ℤ

inductive WorkloadStatus where
  | submitted | queued | scheduling | reserved | dispatched | running | checkpointing | stopping
  | completed | failed | timedOut | cancelled
  deriving DecidableEq

namespace WorkloadStatus

def isPending : WorkloadStatus → Bool
  | submitted | queued => true
  | _ => false

def isRunning : WorkloadStatus → Bool
  | running | checkpointing => true
  | _ => false

def isActive : WorkloadStatus → Bool
  | dispatched | running | checkpointing | stopping => true
  | _ => false

def isRetryable : WorkloadStatus → Bool
  | failed | timedOut => true
  | _ => false

def isTerminal : WorkloadStatus → Bool
  | completed | failed | timedOut | cancelled => true
  | _ => false

theorem isActive_eq (s : WorkloadStatus) : s.isActive = (s = dispatched || s.isRunning || s = stopping) := by
  cases s <;> rfl

variable {s : WorkloadStatus}

theorem not_isActive_of_isTerminal (h : s.isTerminal = true) : s.isActive = false := by
  revert h
  cases s <;> decide

theorem not_isActive_of_isPending (h : s.isPending = true) : s.isActive = false := by
  revert h
  cases s <;> decide

theorem isTerminal_of_isRetryable (h : s.isRetryable = true) : s.isTerminal = true := by
  revert h
  cases s <;> decide

def text : WorkloadStatus → Bytes
  | submitted => lit "submitted"
  | queued => lit "queued"
  | scheduling => lit "scheduling"
  | reserved => lit "reserved"
  | dispatched => lit "dispatched"
  | running => lit "running"
  | checkpointing => lit "checkpointing"
  | stopping => lit "stopping"
  | completed => lit "completed"
  | failed => lit "failed"
  | timedOut => lit "timed_out"
  | cancelled => lit "cancelled"

end WorkloadStatus

structure ResourceSpec where
  cpuMillicores : ℤ
  ramMb : ℤ
  gpuCount : ℤ
  gpuVRAMMb : ℤ
  deriving DecidableEq

structure WorkloadManifest where
  name : Bytes
  type : Bytes
  resources : ResourceSpec
  timeoutSec : ℤ
  deriving DecidableEq

structure Workload where
  orgID : OrgID
  projectID : Option Bytes
  accountID : AccountID
  name : Bytes
  status : WorkloadStatus
  priority : ℤ
  manifest : WorkloadManifest
  nodeID : Option NodeID
  submittedAt : Millis
  deadline : Option Millis
  queuedAt : Option Millis
  scheduledAt : Option Millis
  startedAt : Option Millis
  finishedAt : Option Millis
  exitCode : Option ℤ
  failureMsg : Option Bytes
  retryCount : ℤ
  maxRetries : ℤ
  deriving DecidableEq

inductive NodeStatus where
  | joining | ready | draining | busy | degraded | lost | dead | stopping
  deriving DecidableEq

namespace NodeStatus

def ofText (s : Bytes) : Option NodeStatus :=
  if s = lit "joining" then some joining
  else if s = lit "ready" then some ready
  else if s = lit "draining" then some draining
  else if s = lit "busy" then some busy
  else if s = lit "degraded" then some degraded
  else if s = lit "lost" then some lost
  else if s = lit "dead" then some dead
  else if s = lit "stopping" then some stopping
  else none

def isSchedulable : NodeStatus → Bool
  | ready | busy => true
  | _ => false

def isGone : NodeStatus → Bool
  | lost | dead => true
  | _ => false

theorem not_isSchedulable_of_isGone {s : NodeStatus} (h : s.isGone = true) : s.isSchedulable = false := by
  revert h
  cases s <;> decide

end NodeStatus

structure Node where
  hostname : Bytes
  cpuCores : ℤ
  ramMb : ℤ
  storageGb : ℤ
  status : NodeStatus
  lastHeartbeat : Option Millis
  agentVersion : Bytes
  drainAt : Option Millis
  deriving DecidableEq

inductive GPUHealth where
  | ready | degraded | failed
  deriving DecidableEq

def GPUHealth.ofText (s : Bytes) : Option GPUHealth :=
  if s = lit "ready" then some ready
  else if s = lit "degraded" then some degraded
  else if s = lit "failed" then some failed
  else none

structure NodeGPU where
  nodeID : NodeID
  deviceIndex : ℤ
  model : Bytes
  vramMb : ℤ
  cudaCap : Bytes
  health : GPUHealth
  vramReserved : ℤ
  workloadID : Option WorkloadID
  deriving DecidableEq

inductive ReservationState where
  | reserved | allocated | running | released
  deriving DecidableEq

structure Reservation where
  nodeID : NodeID
  workloadID : WorkloadID
  cpuMcores : ℤ
  ramMb : ℤ
  gpuID : Option GPUID
  gpuVRAMMb : ℤ
  state : ReservationState
  createdAt : Millis
  releasedAt : Option Millis
  deriving DecidableEq

def Reservation.isHeld (r : Reservation) : Bool := r.state ≠ .released

def Reservation.heldBy (w : WorkloadID) (r : Reservation) : Bool := r.workloadID = w && r.isHeld

def Reservation.release (finishedAt : Millis) (r : Reservation) : Reservation :=
  { r with state := .released, releasedAt := some finishedAt }

structure EventRow where
  ts : Millis
  actor : Bytes
  kind : Bytes
  subjectType : Bytes
  subjectID : Bytes
  deriving DecidableEq

structure Tables where
  workloads : Table WorkloadID Workload
  nodes : Table NodeID Node
  nodeGPUs : Table GPUID NodeGPU
  reservations : Table ReservationID Reservation
  events : List EventRow

namespace Tables

def empty : Tables := ⟨.empty, .empty, .empty, .empty, []⟩

def held (t : Tables) (w : WorkloadID) : List Reservation :=
  (t.reservations.select fun _ r => r.heldBy w).map Prod.snd

def cpuReserved (t : Tables) (n : NodeID) : ℤ :=
  ((t.reservations.select fun _ r => r.nodeID = n && r.isHeld).map fun e => e.2.cpuMcores).sum

def ramReserved (t : Tables) (n : NodeID) : ℤ :=
  ((t.reservations.select fun _ r => r.nodeID = n && r.isHeld).map fun e => e.2.ramMb).sum

theorem mem_held {t : Tables} {w : WorkloadID} {r : Reservation} :
    r ∈ t.held w ↔ ∃ id, t.reservations.lookup id = some r ∧ r.workloadID = w ∧ r.isHeld = true := by
  unfold held Reservation.heldBy
  simp only [List.mem_map, Prod.exists, exists_eq_right, Table.mem_select, Bool.and_eq_true, decide_eq_true_eq]

end Tables

end Ocelot.Compute
