/-
# The tables of `vs.db`, its queries and its writes (`virtualserver/store`).
-/
import Ocelot.Lib.Table
import Ocelot.VirtualServer.Domain

namespace Ocelot.VirtualServer

open Tracker (Bytes)

/-! ## The tables -/

structure GPURow where
  nodeID : NodeID
  deviceIndex : ℤ
  vramMiB : ℤ
  allocated : Bool
  deriving DecidableEq

def GPURow.isDevice (node : NodeID) (device : ℤ) (g : GPURow) : Bool := g.nodeID = node && g.deviceIndex = device

theorem GPURow.isDevice_iff {node : NodeID} {device : ℤ} {g : GPURow} :
    g.isDevice node device = true ↔ g.nodeID = node ∧ g.deviceIndex = device := by
  simp [isDevice]

structure Allocation where
  nodeID : NodeID
  cpuThreads : ℤ
  ramMiB : ℤ
  gpuDeviceIndex : Option ℤ
  allocatedAt : Seconds
  releasedAt : Option Seconds
  deriving DecidableEq

def Allocation.isActive (a : Allocation) : Bool := a.releasedAt = none

structure VolumeSnapshot where
  volumeID : VolumeID
  deriving DecidableEq

structure Tables where
  nodes : Table NodeID NodeRow
  gpus : Table ℕ GPURow
  services : Table ServiceID Service
  instances : Table InstanceID ServiceInstance
  allocations : Table InstanceID Allocation
  volumes : Table VolumeID Volume
  mounts : Table MountID VolumeMount
  snapshots : Table Bytes VolumeSnapshot

namespace Tables

def empty : Tables := ⟨.empty, .empty, .empty, .empty, .empty, .empty, .empty, .empty⟩

def activeAllocation (t : Tables) (i : InstanceID) : Option Allocation :=
  (t.allocations.lookup i).filter Allocation.isActive

end Tables

inductive StoreError where
  /-- `ErrNotFound`, or no row to scan. -/
  | notFound
  /-- `ErrConflict`. -/
  | conflict
  /-- `ErrAllocationConflict`. -/
  | allocationConflict
  | invalidTransition
  | concurrentChange
  | constraint
  | database
  deriving DecidableEq

structure Env where
  fails : Bool
  /-- The query for a GPU fails, which `AllocateResources` does not look at. -/
  gpuQueryFails : Bool
  /-- The update that frees a GPU fails, which `ReleaseAllocation` does not look at. -/
  gpuFreeFails : Bool
  now : Nanos
  rank : Bytes → ℕ
  rowRank : ℕ → ℕ
  newID : Bytes
  message : Bytes
  handle : StringMap
  hostPath : Bytes
  usedMiB : ℤ
  /-- What `Inspect`, `Health`, `Stat` and `Lookup` find: running, healthy, available. -/
  up : Bool

/-! ## Writes -/

namespace Tables

variable (t : Tables) (env : Env) (node : NodeID)

def gpuAllocated (device : ℤ) : Bool :=
  if env.gpuQueryFails then false
  else ((t.gpus.least (fun _ g => g.isDevice node device) (fun _ _ => 0) env.rowRank).map fun e =>
    e.2.allocated).getD false

def flagGPU (device : Option ℤ) (allocated : Bool) : Table ℕ GPURow :=
  match device with
  | none => t.gpus
  | some d => t.gpus.modify (fun _ g => g.isDevice node d) fun g => { g with allocated }

def giveBack (cpuThreads ramMiB : ℤ) : Table NodeID NodeRow :=
  t.nodes.modify (fun id _ => id = node) fun n =>
    { n with availRAMMiB := n.availRAMMiB + ramMiB, availCPUThreads := n.availCPUThreads + cpuThreads }

def allocateResources (i : InstanceID) (node : NodeID) (cpuThreads ramMiB : ℤ)
    (gpuDeviceIndex : Option ℤ) : Except StoreError Tables :=
  match t.nodes.lookup node with
  | none => .error .notFound
  | some n =>
    if n.availRAMMiB < ramMiB then .error .allocationConflict
    else if 0 < cpuThreads ∧ n.availCPUThreads < cpuThreads then .error .allocationConflict
    else if gpuDeviceIndex.any (t.gpuAllocated env node) then .error .allocationConflict
    -- the instance that the row refers to
    else if t.instances.lookup i = none then .error .constraint
    else
      match t.allocations.insert i
          { nodeID := node, cpuThreads, ramMiB, gpuDeviceIndex, allocatedAt := unix env.now,
            releasedAt := none } with
      | none => .error .constraint
      | some allocations =>
        .ok { t with
          allocations
          nodes := t.giveBack node (-cpuThreads) (-ramMiB)
          gpus := t.flagGPU node gpuDeviceIndex true }

def releaseAllocation (i : InstanceID) : Tables :=
  match t.activeAllocation i with
  | none => t
  | some a =>
    { t with
      allocations := t.allocations.modify (fun k _ => k = i) fun a => { a with releasedAt := some (unix env.now) }
      nodes := t.giveBack a.nodeID a.cpuThreads a.ramMiB
      gpus := if env.gpuFreeFails then t.gpus else t.flagGPU a.nodeID a.gpuDeviceIndex false }

def newNodeRow (n : Node) : NodeRow := { n.toNodeRow with
    availCPUThreads := if n.availCPUThreads = 0 then n.cpuThreads else n.availCPUThreads
    lastHeartbeat := none }

def addGPUs (gpus : Table ℕ GPURow) (devices : List GPUDevice) : Table ℕ GPURow := devices.foldl
    (fun gpus g => gpus.add
      { nodeID := node, deviceIndex := g.index, vramMiB := g.vramMiB, allocated := g.allocated })
    gpus

def newNodeID (n : Node) : NodeID := if n.id = [] then env.newID else n.id

def createNode (n : Node) : Except StoreError (Tables × NodeID) :=
  if 0 < t.nodes.count fun _ row => row.name = n.name then .error .constraint
  else
    match t.nodes.insert (newNodeID env n) (newNodeRow n) with
    | none => .error .constraint
    | some nodes => .ok ({ t with nodes, gpus := addGPUs (newNodeID env n) t.gpus n.gpuDevices }, newNodeID env n)

def setNode (id : NodeID) (f : NodeRow → NodeRow) : Tables :=
  { t with nodes := t.nodes.modify (fun k _ => k = id) f }

def writeNodeState (id : NodeID) (src dst : NodeState) : Except StoreError Tables :=
  if (t.nodes.lookup id).any fun n => n.state = src then .ok (t.setNode id fun n => { n with state := dst })
  else .error .concurrentChange

def writeHeartbeat (id : NodeID) (availRAMMiB availCPU : ℤ) (state : NodeState) : Tables :=
  t.setNode id fun n =>
    { n with lastHeartbeat := some (unix env.now), availRAMMiB, availCPUThreads := availCPU, state }

variable (id : InstanceID)

def setInstance (f : ServiceInstance → ServiceInstance) : Tables :=
  { t with instances := t.instances.modify (fun k _ => k = id) f }

def newInstanceRow (service : ServiceID) (vsPath : Bytes) : ServiceInstance where
  serviceID := service
  nodeID := []
  vsPath := vsPath
  state := .declared
  retryCount := 0
  runtimeHandle := []
  createdAt := unix env.now
  updatedAt := unix env.now

def createInstance (service : ServiceID) (vsPath : Bytes) : Except StoreError (Tables × InstanceID) :=
  if t.services.lookup service = none then .error .constraint
  else
    match t.instances.insert env.newID (newInstanceRow env service vsPath) with
    | none => .error .constraint
    | some instances => .ok ({ t with instances }, env.newID)

def writeInstanceState (src dst : InstanceState) : Except StoreError Tables :=
  if (t.instances.lookup id).any fun i => i.state = src then
    .ok (t.setInstance id fun i => { i with state := dst, updatedAt := unix env.now })
  else .error .concurrentChange

def writeAssignment (node : NodeID) (src : InstanceState) : Except StoreError Tables :=
  if (t.instances.lookup id).any fun i => i.state = src then
    if t.nodes.lookup node = none then .error .constraint
    else .ok (t.setInstance id fun i => { i with nodeID := node, state := .scheduled, updatedAt := unix env.now })
  else .error .concurrentChange

def updateRuntimeHandle (handle : StringMap) : Tables :=
  t.setInstance id fun i => { i with runtimeHandle := handle, updatedAt := unix env.now }

def incrementRetryCount : Tables :=
  t.setInstance id fun i =>
    { i with retryCount := i.retryCount + 1, state := .declared, updatedAt := unix env.now }

variable (id : VolumeID)

def setVolume (f : Volume → Volume) : Tables :=
  { t with volumes := t.volumes.modify (fun k _ => k = id) f }

def updateVolumeState (dst : VolumeState) : Except StoreError Tables :=
  match t.volumes.lookup id with
  | none => .error .notFound
  | some v =>
    if v.state.validateVolumeTransition dst then .ok (t.setVolume id fun v => { v with state := dst })
    else .error .invalidTransition

def updateVolumeFailure (reason : Bytes) : Tables :=
  t.setVolume id fun v => { v with state := .failed, failureReason := reason }

def volumeIsReferred : Bool :=
  0 < (t.mounts.count fun _ m => m.volumeID = id) || 0 < (t.snapshots.count fun _ s => s.volumeID = id)

def deleteVolume : Except StoreError Tables :=
  match t.volumes.lookup id with
  | none => .error .notFound
  | some v =>
    if v.state ≠ .released then .error .conflict
    else if t.volumeIsReferred id then .error .constraint
    else .ok { t with volumes := t.volumes.delete id }

def bindMount (volume : VolumeID) (i : InstanceID) (targetPath : Bytes) (readOnly : Bool) :
    Except StoreError (Tables × MountID) :=
  if t.volumes.lookup volume = none ∨ t.instances.lookup i = none then .error .constraint
  else
    .ok
      ({ t with
          mounts := t.mounts.add
            { volumeID := volume, instanceID := i, targetPath, readOnly, state := .pending } },
        t.mounts.nextKey)

def updateMountState (id : MountID) (dst : VolumeMountState) : Tables :=
  { t with mounts := t.mounts.modify (fun k _ => k = id) fun m => { m with state := dst } }

end Tables

inductive Write where
  | createNode (n : Node)
  | writeNodeState (id : NodeID) (src dst : NodeState)
  | writeHeartbeat (id : NodeID) (availRAMMiB availCPU : ℤ) (state : NodeState)
  | allocateResources (i : InstanceID) (node : NodeID) (cpuThreads ramMiB : ℤ) (gpuDeviceIndex : Option ℤ)
  | releaseAllocation (i : InstanceID)
  | createInstance (service : ServiceID) (vsPath : Bytes)
  | writeInstanceState (id : InstanceID) (src dst : InstanceState)
  | writeAssignment (id : InstanceID) (node : NodeID) (src : InstanceState)
  | updateRuntimeHandle (id : InstanceID) (handle : StringMap)
  | incrementRetryCount (id : InstanceID)
  | updateVolumeState (id : VolumeID) (dst : VolumeState)
  | updateVolumeHandle (id : VolumeID) (handle : StringMap)
  | updateVolumeBoundNode (id : VolumeID) (node : NodeID)
  | updateVolumeFailure (id : VolumeID) (reason : Bytes)
  | deleteVolume (id : VolumeID)
  | bindMount (volume : VolumeID) (i : InstanceID) (targetPath : Bytes) (readOnly : Bool)
  | updateMountState (id : MountID) (dst : VolumeMountState)

namespace Write

def Ans : Write → Type
  | createNode _ => NodeID
  | createInstance _ _ => InstanceID
  | bindMount _ _ _ _ => MountID
  | _ => Unit

def commit (env : Env) (t : Tables) : (w : Write) → Except StoreError (Tables × w.Ans)
  | .createNode n => t.createNode env n
  | .writeNodeState id src dst => (t.writeNodeState id src dst).map (·, ())
  | .writeHeartbeat id ram cpu state => .ok (t.writeHeartbeat env id ram cpu state, ())
  | .allocateResources i node cpu ram gpu => (t.allocateResources env i node cpu ram gpu).map (·, ())
  | .releaseAllocation i => .ok (t.releaseAllocation env i, ())
  | .createInstance service vsPath => t.createInstance env service vsPath
  | .writeInstanceState id src dst => (t.writeInstanceState env id src dst).map (·, ())
  | .writeAssignment id node src => (t.writeAssignment env id node src).map (·, ())
  | .updateRuntimeHandle id handle => .ok (t.updateRuntimeHandle env id handle, ())
  | .incrementRetryCount id => .ok (t.incrementRetryCount env id, ())
  | .updateVolumeState id dst => (t.updateVolumeState id dst).map (·, ())
  | .updateVolumeHandle id handle => .ok (t.setVolume id fun v => { v with driverHandle := handle }, ())
  | .updateVolumeBoundNode id node => .ok (t.setVolume id fun v => { v with boundNodeID := node }, ())
  | .updateVolumeFailure id reason => .ok (t.updateVolumeFailure id reason, ())
  | .deleteVolume id => (t.deleteVolume id).map (·, ())
  | .bindMount volume i targetPath readOnly => t.bindMount volume i targetPath readOnly
  | .updateMountState id dst => .ok (t.updateMountState id dst, ())

/-- **A write**: it commits, or it fails and is rolled back. -/
def exec (env : Env) (t : Tables) (w : Write) : Tables × Except StoreError w.Ans :=
  if env.fails then (t, .error .database)
  else
    match w.commit env t with
    | .ok (t', ans) => (t', .ok ans)
    | .error e => (t, .error e)

theorem exec_of_fails {env : Env} (h : env.fails = true) (t : Tables) (w : Write) :
    w.exec env t = (t, .error .database) := by
  rw [exec, if_pos h]

theorem exec_of_ok {env : Env} {t t' : Tables} {w : Write} {ans : w.Ans} (h : env.fails = false)
    (hcom : w.commit env t = .ok (t', ans)) : w.exec env t = (t', .ok ans) := by
  rw [exec, if_neg (by simp [h]), hcom]

theorem exec_of_error {env : Env} {t : Tables} {w : Write} {e : StoreError} (h : env.fails = false)
    (hcom : w.commit env t = .error e) : w.exec env t = (t, .error e) := by
  rw [exec, if_neg (by simp [h]), hcom]

theorem exec_cases (env : Env) (t : Tables) (w : Write) : (∃ e, w.exec env t = (t, .error e)) ∨
      ∃ t' ans, env.fails = false ∧ w.commit env t = .ok (t', ans) ∧ w.exec env t = (t', .ok ans) := by
  cases hfails : env.fails with
  | true => exact .inl ⟨_, exec_of_fails hfails t w⟩
  | false =>
    rcases hcom : w.commit env t with e | ⟨t', ans⟩
    · exact .inl ⟨e, exec_of_error hfails hcom⟩
    · exact .inr ⟨t', ans, rfl, rfl, exec_of_ok hfails hcom⟩

end Write

/-! ## Queries -/

namespace Tables

variable (t : Tables) (env : Env)

def nodeOf (id : NodeID) (row : NodeRow) : Node := { row with
    id
    gpuDevices :=
      (t.gpus.ordered (fun _ g => g.nodeID = id) (fun _ g => g.deviceIndex) env.rowRank).map fun e =>
        { index := e.2.deviceIndex, vramMiB := e.2.vramMiB, allocated := e.2.allocated }
    activeInstances := 0 }

def listNodes (state : Option NodeState) : List Node :=
  (t.nodes.ordered (fun _ n => state.all fun s => n.state = s) (fun _ n => byteOrder n.name) env.rank).map fun e =>
    t.nodeOf env e.1 e.2

def listInstances (state : Option InstanceState) : List (InstanceID × ServiceInstance) :=
  t.instances.ordered (fun _ i => state.all fun s => i.state = s) (fun _ i => i.createdAt) env.rank

def listInstancesByService (service : ServiceID) : List (InstanceID × ServiceInstance) :=
  t.instances.ordered (fun _ i => i.serviceID = service) (fun _ i => i.createdAt) env.rank

def listServices : List (ServiceID × Service) :=
  t.services.ordered (fun _ _ => true) (fun _ s => toLex (byteOrder s.manifest.nspace, byteOrder s.manifest.name))
    fun _ => 0

def listVolumesByState (state : VolumeState) : List (VolumeID × Volume) :=
  t.volumes.ordered (fun _ v => v.state = state) (fun _ v => v.createdAt) env.rank

def getVolumeByName (nspace name : Bytes) : Option (VolumeID × Volume) :=
  t.volumes.rows.find? fun e => e.2.manifest.nspace = nspace && e.2.manifest.name = name

def listMountsByInstance (i : InstanceID) : List (MountID × VolumeMount) :=
  t.mounts.ordered (fun _ m => m.instanceID = i) (fun id _ => id) fun _ => 0

def listActiveMountsByVolume (volume : VolumeID) : List (MountID × VolumeMount) :=
  t.mounts.ordered (fun _ m => m.volumeID = volume && m.isHeld) (fun id _ => id) fun _ => 0

end Tables

inductive Query where
  | listNodes (state : Option NodeState)
  | getNode (id : NodeID)
  | listServices
  | getService (id : ServiceID)
  | listInstances (state : Option InstanceState)
  | listInstancesByService (service : ServiceID)
  | getInstance (id : InstanceID)
  | getActiveAllocation (i : InstanceID)
  | listVolumesByState (state : VolumeState)
  | getVolume (id : VolumeID)
  | getVolumeByName (nspace name : Bytes)
  | listMountsByInstance (i : InstanceID)
  | listActiveMountsByVolume (volume : VolumeID)

namespace Query

def Ans : Query → Type
  | listNodes _ => List Node
  | getNode _ => Node
  | listServices => List (ServiceID × Service)
  | getService _ => Service
  | listInstances _ => List (InstanceID × ServiceInstance)
  | listInstancesByService _ => List (InstanceID × ServiceInstance)
  | getInstance _ => ServiceInstance
  | getActiveAllocation _ => Allocation
  | listVolumesByState _ => List (VolumeID × Volume)
  | getVolume _ => Volume
  | getVolumeByName _ _ => VolumeID × Volume
  | listMountsByInstance _ => List (MountID × VolumeMount)
  | listActiveMountsByVolume _ => List (MountID × VolumeMount)

def find (env : Env) (t : Tables) : (q : Query) → Option q.Ans
  | listNodes state => some (t.listNodes env state)
  | getNode id => (t.nodes.lookup id).map (t.nodeOf env id)
  | listServices => some t.listServices
  | getService id => t.services.lookup id
  | listInstances state => some (t.listInstances env state)
  | listInstancesByService service => some (t.listInstancesByService env service)
  | getInstance id => t.instances.lookup id
  | getActiveAllocation i => t.activeAllocation i
  | listVolumesByState state => some (t.listVolumesByState env state)
  | getVolume id => t.volumes.lookup id
  | getVolumeByName nspace name => t.getVolumeByName nspace name
  | listMountsByInstance i => some (t.listMountsByInstance i)
  | listActiveMountsByVolume volume => some (t.listActiveMountsByVolume volume)

def eval (env : Env) (t : Tables) (q : Query) : Except StoreError q.Ans :=
  if env.fails then .error .database
  else
    match q.find env t with
    | none => .error .notFound
    | some ans => .ok ans

variable {env : Env} {t : Tables} {q : Query} {ans : q.Ans}

theorem find_of_eval (h : q.eval env t = .ok ans) : q.find env t = some ans := by
  unfold eval at h
  split_ifs at h
  split at h
  · cases h
  · rename_i ans' hfind
    cases h
    exact hfind

theorem error_cases {e : StoreError} (h : q.eval env t = .error e) : env.fails = true ∨ q.find env t = none := by
  unfold eval at h
  split_ifs at h with hfails
  · exact .inl hfails
  · split at h
    · rename_i hnone
      exact .inr hnone
    · cases h

theorem eval_of_find (hok : env.fails = false) (h : q.find env t = some ans) : q.eval env t = .ok ans := by
  rw [eval, if_neg (by simp [hok]), h]

end Query

end Ocelot.VirtualServer
