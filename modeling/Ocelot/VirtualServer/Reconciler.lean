/-
# One reconcile pass (`virtualserver/reconciler`).
-/
import Ocelot.Lib.Decimal
import Ocelot.VirtualServer.Scheduler

namespace Ocelot.VirtualServer

open Tracker (Bytes lit)

structure Config (F : Type) where
  adapters : Bytes → Option Bytes
  classDrivers : Bytes → Option Bytes
  weights : Weights F
  catalog : Bool
  nodeTTL : Nanos

def retryBaseDelay : Nanos := 2 * second
def degradedFailTimeout : Nanos := 300 * second

def attempt {α : Type} (p : Program α) : Program Unit := (fun _ => ()) <$> p

def whenever (c : Bool) (p : Program Unit) : Program Unit := if c then p else return ()

/-! ## Nodes and volumes -/

variable {F : Type} (cfg : Config F)

def expireNode (t : Nanos) (n : Node) : Program Unit :=
  match n.lastHeartbeat with
  | none => return ()
  | some beat => if t - beat * second ≤ cfg.nodeTTL then return () else attempt (updateNodeState n.id .degraded)

def reconcileNodeHeartbeats : Program Unit := do
  match ← query (.listNodes (some .ready)) with
  | .error _ => return ()
  | .ok nodes =>
    let t ← now
    Prog.forEach (expireNode cfg t) nodes

variable (v : VolumeID × Volume)

def provisionVolume : Program Unit :=
  match cfg.classDrivers v.2.manifest.spec.cls with
  | none => return ()
  | some drv => do
    match ← write (.updateVolumeState v.1 .provisioning) with
    | .error _ => return ()
    | .ok _ =>
      match ← (driver drv (.create v.2.manifest.nspace v.2.manifest.name v.2.manifest.spec) :
        Program (Except Bytes StringMap)) with
      | .error message => attempt (write (.updateVolumeFailure v.1 message))
      | .ok handle =>
        attempt (write (.updateVolumeHandle v.1 handle))
        attempt (write (.updateVolumeState v.1 .ready))

def dropVolume (id : VolumeID) : Program Unit := do
  attempt (write (.updateVolumeState id .released))
  attempt (write (.deleteVolume id))

def releaseVolume : Program Unit :=
  if v.2.driverHandle = [] then dropVolume v.1
  else
    match cfg.classDrivers v.2.manifest.spec.cls with
    | none => attempt (write (.updateVolumeFailure v.1
      (lit "no driver for class \"" ++ v.2.manifest.spec.cls ++ lit "\"")))
    | some drv => do
      match ← (driver drv (.delete v.2.driverHandle) : Program (Except Bytes Unit)) with
      | .error message => attempt (write (.updateVolumeFailure v.1 message))
      | .ok _ => dropVolume v.1

def checkQuota : Program Unit :=
  match cfg.classDrivers v.2.manifest.spec.cls with
  | none => return ()
  | some drv => do
    match ← (driver drv (.stat v.2.driverHandle) : Program (Except Bytes (Option ℤ))) with
    | .error _ | .ok none => return ()
    | .ok (some used) =>
      let overQuota := decide (0 < v.2.manifest.spec.capacityMiB ∧ v.2.manifest.spec.capacityMiB ≤ used)
      if overQuota && v.2.state = .bound then attempt (write (.updateVolumeState v.1 .quotaExceeded))
      else if !overQuota && v.2.state = .quotaExceeded then attempt (write (.updateVolumeState v.1 .bound))
      else return ()

def volumesIn (state : VolumeState) : Program (List (VolumeID × Volume)) :=
  (fun found => found.toOption.getD []) <$> query (.listVolumesByState state)

def reconcileVolumes : Program Unit := do
  match ← query (.listVolumesByState .declared) with
  | .error _ => return ()
  | .ok declared =>
    Prog.forEach (provisionVolume cfg) declared
    let releasing ← volumesIn .releasing
    Prog.forEach (releaseVolume cfg) releasing
    let bound ← volumesIn .bound
    let exceeded ← volumesIn .quotaExceeded
    Prog.forEach (checkQuota cfg) (bound ++ exceeded)

/-! ## Scheduling -/

def slotPath (m : ServiceManifest) (slot : ℕ) : Bytes :=
  lit "vs://" ++ m.nspace ++ lit "/" ++ m.name ++ lit "/" ++ Decimal.numeral slot

def fillService (s : ServiceID × Service) : Program Unit :=
  if s.2.desiredCount ≤ 0 then return ()
  else do
    match ← query (.listInstancesByService s.1) with
    | .error _ => return ()
    | .ok insts =>
      let active := insts.countP fun x => !x.2.state.isTerminal
      Prog.forEach (fun idx => attempt (write (.createInstance s.1 (slotPath s.2.manifest (insts.length + idx)))))
        (List.range (s.2.desiredCount - active).toNat)

def reconcileDesiredCount : Program Unit := do
  match ← query .listServices with
  | .error _ => return ()
  | .ok services => Prog.forEach fillService services

def localVolumePinnedNode (cfg : Config F) (nspace : Bytes) : List ServiceVolumeMount → Program NodeID
  | [] => return []
  | m :: mounts => do
    match ← query (.getVolumeByName nspace m.volumeName) with
    | .error _ => localVolumePinnedNode cfg nspace mounts
    | .ok vol =>
      if cfg.classDrivers vol.2.manifest.spec.cls = some (lit "local") ∧ vol.2.boundNodeID ≠ [] then
        return vol.2.boundNodeID
      else localVolumePinnedNode cfg nspace mounts

def eligibleNodes (nodes : List Node) (pinned : NodeID) : List Node :=
  let ready := nodes.filter fun n => n.state = .ready
  if pinned = [] then ready else (ready.find? fun n => n.id = pinned).toList

def firstGPU (eligible : List Node) (selected : NodeID) (gpu : GPURequest) : Option ℤ :=
  if gpu.required then
    (eligible.find? fun n => n.id = selected).bind fun n =>
      ((n.eligibleGPUs gpu.minVRAMMiB).map GPUDevice.index).head?
  else none

def scheduleInstance [Float64 F] (cfg : Config F) (nodes : List Node)
    (x : InstanceID × ServiceInstance) : Program Unit := do
  match ← query (.getService x.2.serviceID) with
  | .error _ => return ()
  | .ok svc =>
    let spec := svc.manifest.spec
    let pinned ← localVolumePinnedNode cfg svc.manifest.nspace spec.mounts
    let eligible := eligibleNodes nodes pinned
    match ← schedule spec (computeScore cfg.catalog cfg.weights spec) eligible with
    | none => return ()
    | some n =>
      match ← assignNode x.1 n.id with
      | .error _ => return ()
      | .ok _ =>
        match ← write (.allocateResources x.1 n.id spec.resources.cpuThreads spec.resources.ramMiB
          (firstGPU eligible n.id spec.resources.gpu)) with
        | .error _ => attempt (updateInstanceState x.1 .declared)
        | .ok _ => return ()

def resolveMounts (cfg : Config F) (nspace : Bytes) (i : InstanceID) (node : NodeID) :
    List ServiceVolumeMount → Program (Option (List ResolvedMount))
  | [] => return some []
  | decl :: decls => do
    match ← query (.getVolumeByName nspace decl.volumeName) with
    | .error _ => return none
    | .ok vol =>
      if vol.2.state ≠ .ready ∧ vol.2.state ≠ .bound then return none
      else
        match cfg.classDrivers vol.2.manifest.spec.cls with
        | none => return none
        | some drv =>
          match ← (driver drv (.mount i
            { volumeID := vol.1, nodeID := node, handle := vol.2.driverHandle, targetPath := decl.targetPath,
              readOnly := decl.readOnly }) : Program (Except Bytes Bytes)) with
          | .error _ => return none
          | .ok hostPath =>
            match ← write (.bindMount vol.1 i decl.targetPath decl.readOnly) with
            | .error _ => return none
            | .ok mountID =>
              attempt (write (.updateMountState mountID .active))
              whenever (vol.2.boundNodeID = [] && drv = lit "local")
                (attempt (write (.updateVolumeBoundNode vol.1 node)))
              whenever (vol.2.state = .ready) (attempt (write (.updateVolumeState vol.1 .bound)))
              let rest ← resolveMounts cfg nspace i node decls
              return rest.map fun mounts =>
                { hostPath, targetPath := decl.targetPath, readOnly := decl.readOnly } :: mounts

/-! ## Instances -/

def handleOf (ad : Bytes) (x : InstanceID × ServiceInstance) : RuntimeHandle := ⟨ad, x.1, x.2.runtimeHandle⟩

variable (x : InstanceID × ServiceInstance)

def withAdapter (body : Service → Bytes → Program Unit) : Program Unit := do
  match ← query (.getService x.2.serviceID) with
  | .error _ => return ()
  | .ok svc =>
    match cfg.adapters svc.manifest.spec.runtime with
    | none => return ()
    | some ad => body svc ad

def provisionRuntime (svc : Service) (ad : Bytes) : Program Unit := do
  let alloc ← query (.getActiveAllocation x.1)
  match ← resolveMounts cfg svc.manifest.nspace x.1 x.2.nodeID svc.manifest.spec.mounts with
  | none => attempt (updateInstanceState x.1 .failed)
  | some mounts =>
    match ← (adapter (.provision ad
      { instanceID := x.1, nodeID := x.2.nodeID, manifest := svc.manifest, mounts,
        allocation := (alloc.toOption.map fun a => (a.cpuThreads, a.ramMiB, a.gpuDeviceIndex)).getD
          (0, 0, none) }) :
      Program (Except Bytes StringMap)) with
    | .error _ => attempt (updateInstanceState x.1 .failed)
    | .ok handle => attempt (write (.updateRuntimeHandle x.1 handle))

def provisionInstance : Program Unit :=
  withAdapter cfg x fun svc ad => do
    match ← updateInstanceState x.1 .provisioning with
    | .error _ => return ()
    | .ok _ => provisionRuntime cfg x svc ad

def startInstance : Program Unit := withAdapter cfg x fun _ ad => do
    match ← updateInstanceState x.1 .starting with
    | .error _ => return ()
    | .ok _ =>
      match ← (adapter (.start (handleOf ad x)) : Program (Except Bytes Unit)) with
      | .error _ => attempt (updateInstanceState x.1 .failed)
      | .ok _ => attempt (updateInstanceState x.1 .running)

def unmount (vol : Volume) (m : VolumeMount) : Program Unit :=
  match cfg.classDrivers vol.manifest.spec.cls with
  | none => return ()
  | some drv => attempt (driver drv (.unmount (vol.driverHandle.get (lit "path")) m.readOnly))

def unbind (id : VolumeID) : Program Unit := do
  match ← query (.listActiveMountsByVolume id) with
  | .ok [] => attempt (write (.updateVolumeState id .ready))
  | _ => return ()

def teardownMount (m : MountID × VolumeMount) : Program Unit :=
  if m.2.state ≠ .active ∧ m.2.state ≠ .pending then return ()
  else do
    attempt (write (.updateMountState m.1 .released))
    match ← query (.getVolume m.2.volumeID) with
    | .error _ => return ()
    | .ok vol =>
      unmount cfg vol m.2
      whenever (vol.state = .bound) (unbind m.2.volumeID)

def teardownMounts (i : InstanceID) : Program Unit := do
  match ← query (.listMountsByInstance i) with
  | .error _ => return ()
  | .ok mounts => Prog.forEach (teardownMount cfg) mounts

def destroyInstance (svc : Service) (x : InstanceID × ServiceInstance) : Program Unit :=
  if x.2.runtimeHandle = [] then return ()
  else
    match cfg.adapters svc.manifest.spec.runtime with
    | none => return ()
    | some ad => attempt (adapter (.destroy (handleOf ad x)))

def RestartPolicy.retries (p : RestartPolicy) (retryCount : ℤ) : Bool :=
  (p.policy = lit "on-failure" || p.policy = lit "always") &&
    !(0 < p.maximumAttempts && p.maximumAttempts ≤ retryCount)

def retryDelay (retryCount : ℤ) : Nanos := retryBaseDelay * 2 ^ min retryCount.toNat 6

def handleFailedInstance : Program Unit := do
  match ← query (.getService x.2.serviceID) with
  | .error _ => return ()
  | .ok svc =>
    if svc.manifest.spec.restart.retries x.2.retryCount then
      let t ← now
      if t - x.2.updatedAt * second < retryDelay x.2.retryCount then return ()
      else
        teardownMounts cfg x.1
        attempt (write (.releaseAllocation x.1))
        attempt (write (.incrementRetryCount x.1))
    else
      destroyInstance cfg svc x
      attempt (updateInstanceState x.1 .terminated)

def inspectInstance : Program Unit := withAdapter cfg x fun _ ad => do
    match ← (adapter (.inspect (handleOf ad x)) : Program (Except Bytes Bool)) with
    | .ok true =>
      match ← (adapter (.health (handleOf ad x)) : Program (Except Bytes Bool)) with
      | .ok true => return ()
      | _ => attempt (updateInstanceState x.1 .degraded)
    | _ =>
      teardownMounts cfg x.1
      attempt (write (.releaseAllocation x.1))
      attempt (updateInstanceState x.1 .failed)

def handleDegradedInstance : Program Unit :=
  withAdapter cfg x fun _ ad => do
    match ← (adapter (.health (handleOf ad x)) : Program (Except Bytes Bool)) with
    | .ok true => attempt (updateInstanceState x.1 .running)
    | _ =>
      let t ← now
      if t - x.2.updatedAt * second ≤ degradedFailTimeout then return ()
      else
        teardownMounts cfg x.1
        attempt (write (.releaseAllocation x.1))
        attempt (updateInstanceState x.1 .failed)

def stopInstance : Program Unit := withAdapter cfg x fun _ ad => do
    attempt (adapter (.stop (handleOf ad x)))
    attempt (adapter (.destroy (handleOf ad x)))
    teardownMounts cfg x.1
    attempt (write (.releaseAllocation x.1))
    attempt (updateInstanceState x.1 .terminated)

/-! ## The pass -/

def sweep (state : InstanceState) (handle : InstanceID × ServiceInstance → Program Unit) :
    Program (Except StoreError Unit) := do
  match ← query (.listInstances (some state)) with
  | .error e => return .error e
  | .ok found =>
    Prog.forEach handle found
    return .ok ()

def countActive (nodes : List Node) : Program (List Node) := do
  match ← query (.listInstances none) with
  | .error _ => return nodes
  | .ok insts =>
    return nodes.map fun n =>
      { n with activeInstances := insts.countP fun x => !x.2.state.isTerminal && x.2.nodeID ≠ [] &&
        x.2.nodeID = n.id }

def reconcileInstances [Float64 F] (cfg : Config F) (nodes : List Node) : Program (Except StoreError Unit) := do
  match ← sweep .declared (scheduleInstance cfg nodes) with
  | .error e => return .error e
  | .ok _ =>
    match ← sweep .scheduled (provisionInstance cfg) with
    | .error e => return .error e
    | .ok _ =>
      match ← sweep .provisioning (startInstance cfg) with
      | .error e => return .error e
      | .ok _ =>
        match ← sweep .failed (handleFailedInstance cfg) with
        | .error e => return .error e
        | .ok _ =>
          let _ ← sweep .running (inspectInstance cfg)
          let _ ← sweep .degraded (handleDegradedInstance cfg)
          let _ ← sweep .stopping (stopInstance cfg)
          return .ok ()

def reconcile [Float64 F] (cfg : Config F) : Program (Except StoreError Unit) := do
  reconcileNodeHeartbeats cfg
  reconcileVolumes cfg
  reconcileDesiredCount
  match ← query (.listNodes none) with
  | .error e => return .error e
  | .ok nodes =>
    let nodes ← countActive nodes
    reconcileInstances cfg nodes

end Ocelot.VirtualServer
