/-
# Managed nodes (`tracker/node_registry.go`).
-/
import Ocelot.Tracker.Types
import Ocelot.Lib.Run

namespace Ocelot.Tracker

abbrev NodeID := UInt64

structure FailureDomainLabels where
  host : Bytes := []
  rack : Bytes := []
  site : Bytes := []
  network : Bytes := []
  power : Bytes := []
  deriving DecidableEq

inductive NodeTier where
  | edge | regional | core
  deriving DecidableEq

inductive ReachState where
  | reachable | flapping | unreachable
  deriving DecidableEq

def flapThreshold : ℕ := 3

def graceTTL : ℤ := 600000000000

structure WANBudget where
  limitBytesPerDay : Int64 := 0
  usedBytesThisDay : Int64 := 0
  lastReset : Time := 0
  deriving DecidableEq

def startOfDay (t : Time) : Time := t - t % 86400000000000

namespace WANBudget

def resetIfNewDay (b : WANBudget) (now : Time) : WANBudget :=
  if b.limitBytesPerDay = 0 then b
  else if b.lastReset = 0 then { b with lastReset := startOfDay now }
  else if startOfDay now ≠ startOfDay b.lastReset then
    { b with usedBytesThisDay := 0, lastReset := startOfDay now }
  else b

def recordUpload (b : WANBudget) (bytes : Int64) (now : Time) : WANBudget :=
  if bytes ≤ 0 then b
  else
    let b := b.resetIfNewDay now
    { b with usedBytesThisDay := b.usedBytesThisDay + bytes }

end WANBudget

structure NodeCapabilities where
  storageFreeBytes : Int64 := 0
  storageTotalBytes : Int64 := 0
  deriving DecidableEq

structure NodeIdentity where
  nodeID : NodeID
  hostname : Bytes := []
  lastIP : Bytes := []
  domains : FailureDomainLabels := {}
  tier : NodeTier := .edge
  asn : UInt32 := 0
  wan : WANBudget := {}
  caps : NodeCapabilities := {}
  lastSeen : Time := 0
  reachState : ReachState := .reachable
  flapCount : ℕ := 0
  lastFlap : Time := 0
  deriving DecidableEq

namespace NodeIdentity

variable (n : NodeIdentity)

def heartbeat (ip : Bytes) (caps : NodeCapabilities) (now : Time) : NodeIdentity :=
  { n with lastIP := ip, caps := caps, lastSeen := now, reachState := .reachable, flapCount := 0 }

def heartbeatWithGeo (ip : Bytes) (caps : NodeCapabilities) (asn : UInt32) (now : Time) : NodeIdentity :=
  let n := n.heartbeat ip caps now
  if asn ≠ 0 then { n with asn := asn } else n

def isDirectable : Bool := n.reachState = .reachable

variable (n : NodeIdentity) (ip : Bytes) (caps : NodeCapabilities) (asn : UInt32) (now : Time)

@[simp] theorem heartbeatWithGeo_lastIP : (n.heartbeatWithGeo ip caps asn now).lastIP = ip := by
  unfold heartbeatWithGeo
  split_ifs <;> rfl

@[simp] theorem heartbeatWithGeo_reachState : (n.heartbeatWithGeo ip caps asn now).reachState = .reachable := by
  unfold heartbeatWithGeo
  split_ifs <;> rfl

@[simp] theorem heartbeatWithGeo_flapCount : (n.heartbeatWithGeo ip caps asn now).flapCount = 0 := by
  unfold heartbeatWithGeo
  split_ifs <;> rfl

end NodeIdentity

structure NodeRegistry where
  nodes : Finmap fun _ : NodeID => NodeIdentity
  byIP : Finmap fun _ : Bytes => NodeID
  deriving DecidableEq

namespace NodeRegistry

def empty : NodeRegistry := ⟨∅, ∅⟩

variable (r : NodeRegistry)

def register (n : NodeIdentity) : NodeRegistry where
  nodes := r.nodes.insert n.nodeID n
  byIP := if n.lastIP ≠ [] then r.byIP.insert n.lastIP n.nodeID else r.byIP

def get (id : NodeID) : Option NodeIdentity := r.nodes.lookup id

def getByIP (ip : Bytes) : Option NodeIdentity := (r.byIP.lookup ip).bind r.get

/-- `Unregister`: the entry deleted from the index is the one under the node's current address. -/
def unregister (id : NodeID) : NodeRegistry where
  nodes := r.nodes.erase id
  byIP :=
    match r.nodes.lookup id with
    | some n => r.byIP.erase n.lastIP
    | none => r.byIP

def update (id : NodeID) (f : NodeIdentity → NodeIdentity) : NodeRegistry :=
  match r.nodes.lookup id with
  | some n => { r with nodes := r.nodes.insert id (f n) }
  | none => r

structure HeartbeatPayload where
  nodeID : NodeID
  caps : NodeCapabilities := {}
  asn : UInt32 := 0
  uploadDeltaBytes : Int64 := 0
  deriving DecidableEq

variable (payload : HeartbeatPayload)

def HeartbeatPayload.apply (ip : Bytes) (now : Time) (n : NodeIdentity) : NodeIdentity :=
  let n := n.heartbeatWithGeo ip payload.caps payload.asn now
  if 0 < payload.uploadDeltaBytes then { n with wan := n.wan.recordUpload payload.uploadDeltaBytes now } else n

def agentHeartbeat (ip : Bytes) (now : Time) : NodeRegistry :=
  if payload.nodeID = 0 then r else r.update payload.nodeID (payload.apply ip now)

@[simp] theorem HeartbeatPayload.apply_lastIP (ip : Bytes) (now : Time)
    (n : NodeIdentity) : (payload.apply ip now n).lastIP = ip := by
  unfold HeartbeatPayload.apply
  split_ifs <;> simp

variable {r : NodeRegistry} {id : NodeID} {n : NodeIdentity}

theorem update_of_some (h : r.nodes.lookup id = some n)
    (f : NodeIdentity → NodeIdentity) : r.update id f = { r with nodes := r.nodes.insert id (f n) } := by
  unfold update
  rw [h]

theorem update_of_none (h : r.nodes.lookup id = none) (f : NodeIdentity → NodeIdentity) : r.update id f = r := by
  unfold update
  rw [h]

theorem getByIP_eq_some {ip : Bytes} :
    r.getByIP ip = some n ↔ ∃ id, r.byIP.lookup ip = some id ∧ r.nodes.lookup id = some n :=
  Option.bind_eq_some_iff

end NodeRegistry

end Ocelot.Tracker
