/-
# What the control plane asks of its database, one statement at a time.

A statement can fail, and a transaction then changes nothing. `Acts`, `Effect` and `HeldEffect`
say once what an operation can do; the invariants of the other modules are derived from them.
-/
import Ocelot.Compute.Schema
import Ocelot.Lib.Program

namespace Ocelot.Compute

open Table Option Bool Reservation Tables
open Tracker (Bytes lit)

/-! ## Statements -/

inductive Outcome where
  | completed | failed | timedOut
  deriving DecidableEq

def Outcome.status : Outcome → WorkloadStatus
  | completed => .completed
  | failed => .failed
  | timedOut => .timedOut

inductive WorkloadStmt where
  /-- `handleCancel`. -/
  | cancel (id : WorkloadID) (org : OrgID) (now : Millis)
  /-- `handleStop`. -/
  | stop (id : WorkloadID) (org : OrgID)
  /-- `applyHealthEvent`, for `started`. -/
  | markStarted (id : WorkloadID) (node : NodeID) (ts : Millis)
  /-- `applyHealthEvent`, for the events that end a workload. -/
  | markFinished (id : WorkloadID) (node : NodeID) (outcome : Outcome) (ts : Millis) (exitCode : ℤ)
    (message : Bytes)
  /-- `tryRequeueIfEligible`. -/
  | requeue (id : WorkloadID) (now : Millis) (reason : Bytes)
  /-- `recoverNodeWorkloads`. -/
  | failLost (id : WorkloadID) (now : Millis)
  /-- `WorkloadTimeoutMonitor.check`. -/
  | timeOut (id : WorkloadID) (now : Millis)

namespace WorkloadStmt

def id : WorkloadStmt → WorkloadID
  | cancel id _ _ | stop id _ | markStarted id _ _ | markFinished id _ _ _ _ _ | requeue id _ _ | failLost id _
  | timeOut id _ => id

def guard : WorkloadStmt → Workload → Bool
  | cancel _ org _, w => w.orgID = org && !(w.status.isTerminal || w.status = .stopping)
  | stop _ org, w => w.orgID = org && w.status.isRunning
  | markStarted _ node _, w => w.nodeID = some node
  | markFinished _ node _ _ _ _, w => w.nodeID = some node
  | requeue _ _ _, w => w.retryCount < w.maxRetries && w.status.isRetryable
  | failLost _ _, w => !w.status.isTerminal
  | timeOut _ _, w => w.status.isRunning

def set : WorkloadStmt → Workload → Workload
  | cancel _ _ now, w =>
    if w.status.isRunning then { w with status := .stopping, finishedAt := none }
    else { w with status := .cancelled, finishedAt := some now }
  | stop _ _, w => { w with status := .stopping }
  | markStarted _ _ ts, w => { w with status := .running, startedAt := some ts }
  | markFinished _ _ outcome ts exitCode message, w =>
    { w with
      status := outcome.status
      finishedAt := some ts
      exitCode := some exitCode
      failureMsg := some message }
  | requeue _ now reason, w =>
    { w with
      status := .queued
      queuedAt := some now
      nodeID := none
      retryCount := w.retryCount + 1
      failureMsg := some reason }
  | failLost _ now, w => { w with status := .failed, finishedAt := some now, failureMsg := some (lit "node lost") }
  | timeOut _ now, w => { w with status := .timedOut, finishedAt := some now }

def applies (s : WorkloadStmt) (id : WorkloadID) (w : Workload) : Bool := id = s.id && s.guard w

end WorkloadStmt

inductive NodeStmt where
  | heartbeat (id : NodeID) (status : Bytes) (now : Millis)
  | inventory (id : NodeID) (cpuCores ramMb storageGb : ℤ) (agentVersion : Bytes) (now : Millis)
  | drain (id : NodeID) (now : Millis)
  | setDead (id : NodeID)
  /-- `NodeLossMonitor.check`. -/
  | markLost (id : NodeID)

namespace NodeStmt

def id : NodeStmt → NodeID
  | heartbeat id _ _ | inventory id _ _ _ _ _ | drain id _ | setDead id | markLost id => id

def guard : NodeStmt → Node → Bool
  | heartbeat _ _ _, _ => true
  | inventory _ _ _ _ _ _, _ => true
  | drain _ _, n => !n.status.isGone
  | setDead _, n => n.status ≠ .dead
  | markLost _, n => !n.status.isGone

def set : NodeStmt → Node → Option Node
  | heartbeat _ status now, n => do
    let status ← NodeStatus.ofText status
    return { n with status, lastHeartbeat := some now }
  | inventory _ cpuCores ramMb storageGb agentVersion now, n =>
    if 0 < cpuCores ∧ 0 < ramMb then
      some { n with cpuCores, ramMb, storageGb, agentVersion, lastHeartbeat := some now }
    else none
  | drain _ now, n => some { n with status := .draining, drainAt := some now }
  | setDead _, n => some { n with status := .dead }
  | markLost _, n => some { n with status := .lost }

end NodeStmt

structure InventoryGPU where
  deviceIndex : ℤ
  model : Bytes
  vramMb : ℤ
  cudaCap : Bytes
  health : Bytes
  deriving DecidableEq

inductive Stmt where
  | insertWorkload (id : WorkloadID) (row : Workload)
  | updateWorkload (s : WorkloadStmt)
  | updateNode (s : NodeStmt)
  /-- `releaseWorkloadResources`, first statement. -/
  | releaseReservations (workload : WorkloadID) (finishedAt : Millis)
  /-- `releaseWorkloadResources`, second statement. -/
  | freeGPUs (workload : WorkloadID)
  /-- `handleInventory`: `INSERT … ON CONFLICT(node_id, device_index) DO UPDATE`. -/
  | upsertGPU (id : GPUID) (node : NodeID) (gpu : InventoryGPU)
  | insertEvent (row : EventRow)

namespace Tables

def updateNode (t : Tables) (s : NodeStmt) : Tables × Option ℕ :=
  match t.nodes.lookup s.id with
  | none => (t, some 0)
  | some n =>
    if s.guard n then
      match s.set n with
      | none => (t, none)
      | some n' => ({ t with nodes := t.nodes.modify (fun id _ => id = s.id) fun _ => n' }, some 1)
    else (t, some 0)

def slotTaken (gpus : Table GPUID NodeGPU) (node : NodeID) (deviceIndex : ℤ) : Bool :=
  0 < gpus.count fun _ g => g.nodeID = node && g.deviceIndex = deviceIndex

def insertGPU (gpus : Table GPUID NodeGPU) (id : GPUID) (g : NodeGPU) : Option (Table GPUID NodeGPU) :=
  if 0 ≤ g.deviceIndex ∧ 0 < g.vramMb ∧ slotTaken gpus g.nodeID g.deviceIndex = false then gpus.insert id g
  else none

def upsertGPU (t : Tables) (id : GPUID) (node : NodeID) (gpu : InventoryGPU) : Tables × Option ℕ :=
  match GPUHealth.ofText gpu.health with
  | none => (t, none)
  | some health =>
    if slotTaken t.nodeGPUs node gpu.deviceIndex then
      if 0 < gpu.vramMb then
        ({ t with
            nodeGPUs := t.nodeGPUs.modify (fun _ g => g.nodeID = node && g.deviceIndex = gpu.deviceIndex) fun g =>
              { g with model := gpu.model, vramMb := gpu.vramMb, cudaCap := gpu.cudaCap, health } }, some 1)
      else (t, none)
    else
      match insertGPU t.nodeGPUs id
          { nodeID := node, deviceIndex := gpu.deviceIndex, model := gpu.model, vramMb := gpu.vramMb,
            cudaCap := gpu.cudaCap, health, vramReserved := 0, workloadID := none } with
      | none => (t, none)
      | some gpus => ({ t with nodeGPUs := gpus }, some 1)

end Tables

def Stmt.exec (t : Tables) : Stmt → Tables × Option ℕ
  | .insertWorkload id row =>
    if 0 ≤ row.priority ∧ row.priority ≤ 100 then
      match t.workloads.insert id row with
      | none => (t, none)
      | some workloads => ({ t with workloads }, some 1)
    else (t, none)
  | .updateWorkload s =>
    ({ t with workloads := t.workloads.modify s.applies s.set }, some (t.workloads.count s.applies))
  | .updateNode s => t.updateNode s
  | .releaseReservations w finishedAt =>
    ({ t with reservations := t.reservations.modify (fun _ r => r.heldBy w) (release finishedAt) },
      some (t.reservations.count fun _ r => r.heldBy w))
  | .freeGPUs w =>
    ({ t with
        nodeGPUs := t.nodeGPUs.modify (fun _ g => g.workloadID = some w) fun g =>
          { g with workloadID := none, vramReserved := 0 } },
            some (t.nodeGPUs.count fun _ g => g.workloadID = some w))
  | .upsertGPU id node gpu => t.upsertGPU id node gpu
  | .insertEvent row => ({ t with events := t.events ++ [row] }, some 1)

/-! ## Transactions -/

structure Env where
  fails : Bool
  now : Millis
  rank : Bytes → ℕ
  newID : ℕ → Bytes

structure PendingWork where
  id : WorkloadID
  orgID : OrgID
  manifest : WorkloadManifest
  priority : ℤ
  deriving DecidableEq

def schedulerBatchSize : ℕ := 16

namespace Tables

variable (t : Tables)

def pending (rank : Bytes → ℕ) : List PendingWork := ((t.workloads.ordered (fun _ w => w.status.isPending)
      (fun _ w => toLex (-w.priority, w.queuedAt.getD w.submittedAt)) rank).take schedulerBatchSize).map
    fun e => ⟨e.1, e.2.orgID, e.2.manifest, e.2.priority⟩

def gpuFits (node : NodeID) (minVRAMMb : ℤ) (g : NodeGPU) : Bool :=
  g.nodeID = node && g.workloadID = none && g.health = .ready && minVRAMMb ≤ g.vramMb

variable (res : ResourceSpec)

def capable (id : NodeID) (n : Node) : Bool :=
  n.status.isSchedulable && res.cpuMillicores ≤ n.cpuCores * 1000 - t.cpuReserved id &&
    res.ramMb ≤ n.ramMb - t.ramReserved id &&
    (res.gpuCount = 0 || 0 < t.nodeGPUs.count fun _ g => gpuFits id res.gpuVRAMMb g)

def findNode (rank : Bytes → ℕ) : Option NodeID :=
  (t.nodes.least (t.capable res) (fun id n => n.ramMb - t.ramReserved id) rank).map Prod.fst

def findFreeGPU (node : NodeID) (minVRAMMb : ℤ) (rank : Bytes → ℕ) : Option (GPUID × ℤ) :=
  (t.nodeGPUs.least (fun _ g => gpuFits node minVRAMMb g) (fun _ g => g.vramMb) rank).map fun e =>
    (e.1, e.2.vramMb)

def claimGPU (node : NodeID) (rank : Bytes → ℕ) : Option (Option (GPUID × ℤ)) :=
  if res.gpuCount = 1 then (t.findFreeGPU node res.gpuVRAMMb rank).map some else some none

def dispatchable (id : WorkloadID) : WorkloadID → Workload → Bool := fun k w => k = id && w.status.isPending

def dispatch (node : NodeID) (now : Millis) (w : Workload) : Workload := { w with
    status := .dispatched
    nodeID := some node
    scheduledAt := some now
    queuedAt := some (w.queuedAt.getD now) }

def book (pw : PendingWork) (node : NodeID) (gpu : Option (GPUID × ℤ))
    (reservations : Table ReservationID Reservation) (now : Millis) : Tables where
  reservations := reservations
  nodeGPUs :=
    match gpu with
    | none => t.nodeGPUs
    | some (id, vramMb) =>
      t.nodeGPUs.modify (fun k _ => k = id) fun g => { g with workloadID := some pw.id, vramReserved := vramMb }
  workloads := t.workloads.modify (dispatchable pw.id) (dispatch node now)
  nodes := t.nodes
  events :=
    t.events ++ [{ ts := now, actor := lit "system", kind := lit "workload.scheduled",
                   subjectType := lit "workload", subjectID := pw.id }]

end Tables

def PendingWork.reservation (pw : PendingWork) (node : NodeID) (gpu : Option (GPUID × ℤ))
    (now : Millis) : Reservation where
  nodeID := node
  workloadID := pw.id
  cpuMcores := pw.manifest.resources.cpuMillicores
  ramMb := pw.manifest.resources.ramMb
  gpuID := gpu.map Prod.fst
  gpuVRAMMb := (gpu.map Prod.snd).getD 0
  state := .reserved
  createdAt := now
  releasedAt := none

variable (env : Env)

def scheduleTx (pw : PendingWork) (t : Tables) : Tables × Option Bool :=
  let res := pw.manifest.resources
  match t.findNode res env.rank with
  | none => (t, some false)
  | some node =>
    match t.claimGPU res node env.rank with
    | none => (t, some false)
    | some gpu =>
      match t.reservations.insert (env.newID 0) (pw.reservation node gpu env.now) with
      | none => (t, none)
      | some reservations =>
        -- no row is affected: the workload is not pending any more, and the transaction is rolled back
        if t.workloads.count (dispatchable pw.id) = 0 then (t, some false)
        else (t.book pw node gpu reservations env.now, some true)

structure GPUSpec where
  deviceIndex : ℤ
  model : Bytes
  vramMb : ℤ
  cudaCap : Bytes
  deriving DecidableEq

structure RegisterRequest where
  hostname : Bytes
  arch : Bytes
  agentVersion : Bytes
  cpuCores : ℤ
  ramMb : ℤ
  storageGb : ℤ
  gpus : List GPUSpec
  labels : List (Bytes × Bytes)
  deriving DecidableEq

def insertGPUs (newID : ℕ → Bytes) (node : NodeID) :
    ℕ → List GPUSpec → Table GPUID NodeGPU → Option (Table GPUID NodeGPU)
  | _, [], gpus => some gpus
  | i, g :: rest, gpus => do
    let gpus ← insertGPU gpus (newID i)
      { nodeID := node, deviceIndex := g.deviceIndex, model := g.model, vramMb := g.vramMb, cudaCap := g.cudaCap,
        health := .ready, vramReserved := 0, workloadID := none }
    insertGPUs newID node (i + 1) rest gpus

variable (req : RegisterRequest)

def RegisterRequest.row (now : Millis) : Node where
  hostname := req.hostname
  cpuCores := req.cpuCores
  ramMb := req.ramMb
  storageGb := req.storageGb
  status := .joining
  lastHeartbeat := some now
  agentVersion := req.agentVersion
  drainAt := none

def joinedEvent (node : NodeID) (now : Millis) : EventRow where
  ts := now
  actor := node
  kind := lit "node.joined"
  subjectType := lit "node"
  subjectID := node

def insertNode (t : Tables) : Option Tables := do
  if 0 < req.cpuCores ∧ 0 < req.ramMb ∧ (t.nodes.count fun _ n => n.hostname = req.hostname) = 0 then
    let nodes ← t.nodes.insert (env.newID 0) (req.row env.now)
    let nodeGPUs ← insertGPUs env.newID (env.newID 0) 1 req.gpus t.nodeGPUs
    return { t with nodes, nodeGPUs, events := t.events ++ [joinedEvent (env.newID 0) env.now] }
  else none

def registerTx (t : Tables) : Tables × Option NodeID :=
  match insertNode env req t with
  | none => (t, none)
  | some t' => (t', some (env.newID 0))

/-! ## Operations -/

inductive Op where
  | nowMs
  | newUUID
  | exec (stmt : Stmt)
  | scheduleOne (pw : PendingWork)
  | register (req : RegisterRequest)
  | selectPending
  /-- `NodeLossMonitor.check`'s query. -/
  | staleNodes (threshold : Millis)
  /-- `recoverNodeWorkloads`' query. -/
  | nodeWorkloads (node : NodeID)
  /-- `WorkloadTimeoutMonitor.check`'s query. -/
  | expiredWorkloads (now : Millis)
  /-- `SELECT COUNT(*) FROM workloads WHERE id=? AND org_id=?`. -/
  | countWorkload (id : WorkloadID) (org : OrgID)
  /-- `SELECT status FROM workloads WHERE id=?`, for one organisation if it is given. -/
  | workloadStatus (id : WorkloadID) (org : Option OrgID)
  | nodeByHostname (hostname : Bytes)

def Op.Ans : Op → Type
  | .nowMs => Millis
  | .newUUID => Bytes
  | .exec _ => Option ℕ
  | .scheduleOne _ => Option Bool
  | .register _ => Option NodeID
  | .selectPending => Option (List PendingWork)
  | .staleNodes _ => Option (List NodeID)
  | .nodeWorkloads _ => Option (List WorkloadID)
  | .expiredWorkloads _ => Option (List WorkloadID)
  | .countWorkload _ _ => Option ℕ
  | .workloadStatus _ _ => Option (Option WorkloadStatus)
  | .nodeByHostname _ => Option (Option NodeID)

def keysWhere {ρ : Type} (table : Table Bytes ρ) (p : Bytes → ρ → Bool) (rank : Bytes → ℕ) : List Bytes :=
  (table.ordered p (fun _ _ => ()) rank).map Prod.fst

def Node.isStale (threshold : Millis) (n : Node) : Bool := (match n.lastHeartbeat with
    | none => false
    | some heard => heard < threshold) && !n.status.isGone

def Workload.isExpired (now : Millis) (w : Workload) : Bool := w.status.isRunning && (match w.deadline with
      | none => false
      | some deadline => deadline < now)

def perform : (op : Op) → Tables → Tables × op.Ans
  | .nowMs, t => (t, env.now)
  | .newUUID, t => (t, env.newID 0)
  | .exec stmt, t => stmt.exec t
  | .scheduleOne pw, t => scheduleTx env pw t
  | .register req, t => registerTx env req t
  | .selectPending, t => (t, some (t.pending env.rank))
  | .staleNodes threshold, t => (t, some (keysWhere t.nodes (fun _ n => n.isStale threshold) env.rank))
  | .nodeWorkloads node, t =>
    (t, some (keysWhere t.workloads (fun _ w => w.nodeID = some node && w.status.isActive) env.rank))
  | .expiredWorkloads now, t => (t, some (keysWhere t.workloads (fun _ w => w.isExpired now) env.rank))
  | .countWorkload id org, t => (t, some (t.workloads.count fun k w => k = id && w.orgID = org))
  | .workloadStatus id org, t =>
    (t, some (((t.workloads.lookup id).filter fun w => org.all fun o => w.orgID = o).map Workload.status))
  | .nodeByHostname hostname, t =>
    (t, some ((keysWhere t.nodes (fun _ n => n.hostname = hostname) env.rank).head?))

def refuse : (op : Op) → op.Ans
  | .nowMs => env.now
  | .newUUID => env.newID 0
  | .exec _ | .scheduleOne _ | .register _ | .selectPending | .staleNodes _ | .nodeWorkloads
    _ | .expiredWorkloads _
  | .countWorkload _ _ | .workloadStatus _ _ | .nodeByHostname _ => none

/-- **One operation** on the tables. -/
def act (op : Op) (t : Tables) : Tables × op.Ans :=
  if env.fails then (t, refuse env op) else perform env op t

theorem act_of_not_fails {env : Env} (h : env.fails = false) (op : Op) (t : Tables) :
    act env op t = perform env op t := by
  rw [act, h]
  rfl

/-! ## What an operation does -/

def SameBookings (gpus gpus' : Table GPUID NodeGPU) : Prop :=
  ∀ g row, gpus.lookup g = some row → ∃ row', gpus'.lookup g = some row' ∧ row'.workloadID = row.workloadID

namespace SameBookings

theorem refl (gpus : Table GPUID NodeGPU) : SameBookings gpus gpus := fun _ row h => ⟨row, h, rfl⟩

theorem trans {a b c : Table GPUID NodeGPU} (hab : SameBookings a b) (hbc : SameBookings b c) :
    SameBookings a c := by
  intro g row hrow
  obtain ⟨row', hrow', heq'⟩ := hab g row hrow
  obtain ⟨row'', hrow'', heq''⟩ := hbc g row' hrow'
  exact ⟨row'', hrow'', heq''.trans heq'⟩

theorem insertGPU {gpus gpus' : Table GPUID NodeGPU} {id : GPUID} {g : NodeGPU}
    (h : Tables.insertGPU gpus id g = some gpus') : SameBookings gpus gpus' := by
  unfold Tables.insertGPU at h
  split_ifs at h
  intro k row hrow
  refine ⟨row, ?_, rfl⟩
  rw [lookup_insert h]
  split_ifs with hk
  · rw [hk, lookup_of_insert h] at hrow
    cases hrow
  · exact hrow

theorem insertGPUs {newID : ℕ → Bytes} {node : NodeID} {specs : List GPUSpec} :
    ∀ {i : ℕ} {gpus gpus' : Table GPUID NodeGPU}, Compute.insertGPUs newID node i specs gpus = some gpus' →
      SameBookings gpus gpus' := by
  induction specs with
  | nil =>
    intro i gpus gpus' h
    cases h
    exact refl gpus
  | cons _ _ ih =>
    intro i gpus gpus' h
    obtain ⟨_, hmid, hrest⟩ := bind_eq_some_iff.1 h
    exact (insertGPU hmid).trans (ih hrest)

end SameBookings

variable (s : WorkloadStmt) (row : Workload) (env : Env) (pw : PendingWork) (req : RegisterRequest) (op : Op)
  (t : Tables) (stmt : Stmt) (u : WorkloadID) (id : GPUID) (node : NodeID) (gpu : InventoryGPU) (w : WorkloadID)
  (finishedAt : Millis)

theorem upsertGPU_eq : ∃ nodeGPUs, (t.upsertGPU id node gpu).1 = { t with nodeGPUs } ∧
    SameBookings t.nodeGPUs nodeGPUs := by
  unfold upsertGPU
  split
  · exact ⟨t.nodeGPUs, rfl, .refl _⟩
  · split_ifs
    · refine ⟨_, rfl, ?_⟩
      intro g row hrow
      rw [lookup_modify, hrow, map_some]
      refine ⟨_, rfl, ?_⟩
      split_ifs <;> rfl
    · exact ⟨t.nodeGPUs, rfl, .refl _⟩
    · split
      · exact ⟨t.nodeGPUs, rfl, .refl _⟩
      · rename_i hins
        exact ⟨_, rfl, .insertGPU hins⟩

theorem lookup_updateWorkload (s : WorkloadStmt) (w : WorkloadID) :
    (Stmt.exec t (.updateWorkload s)).1.workloads.lookup w =
      (t.workloads.lookup w).map fun row => if w = s.id ∧ s.guard row = true then s.set row else row := by
  show (t.workloads.modify s.applies s.set).lookup w = _
  rw [lookup_modify]
  unfold WorkloadStmt.applies
  simp only [and_eq_true, decide_eq_true_eq]

/-- A statement was executed, and it found a row. -/
def affects (ans : Option ℕ) : Prop := ∃ n ∈ ans, n ≠ 0

theorem updateNode_cases (s : NodeStmt) : ((t.updateNode s).1 = t ∧ ¬ affects (t.updateNode s).2) ∨
      ∃ row row', t.nodes.lookup s.id = some row ∧ s.guard row = true ∧ s.set row = some row' ∧
        t.updateNode s = ({ t with nodes := t.nodes.modify (fun id _ => id = s.id) fun _ => row' }, some 1) := by
  cases hrow : t.nodes.lookup s.id with
  | none => simp [updateNode, hrow, affects]
  | some row =>
    cases hguard : s.guard row with
    | false => simp [updateNode, hrow, hguard, affects]
    | true =>
      cases hset : s.set row with
      | none => simp [updateNode, hrow, hguard, hset, affects]
      | some row' =>
        right
        refine ⟨row, row', rfl, hguard, hset, ?_⟩
        simp [updateNode, hrow, hguard, hset]

theorem scheduleTx_cases :
    ((scheduleTx env pw t).1 = t ∧ (scheduleTx env pw t).2 ≠ some true) ∨ ∃ node gpu reservations,
        t.findNode pw.manifest.resources env.rank = some node ∧
          t.claimGPU pw.manifest.resources node env.rank = some gpu ∧
        t.reservations.insert (env.newID 0) (pw.reservation node gpu env.now) = some reservations ∧
        0 < t.workloads.count (dispatchable pw.id) ∧
        scheduleTx env pw t = (t.book pw node gpu reservations env.now, some true) := by
  cases hnode : t.findNode pw.manifest.resources env.rank with
  | none =>
    left
    simp [scheduleTx, hnode]
  | some node =>
    cases hgpu : t.claimGPU pw.manifest.resources node env.rank with
    | none =>
      left
      simp [scheduleTx, hnode, hgpu]
    | some gpu =>
      cases hins : t.reservations.insert (env.newID 0) (pw.reservation node gpu env.now) with
      | none =>
        left
        simp [scheduleTx, hnode, hgpu, hins]
      | some reservations =>
        by_cases hcnt : t.workloads.count (dispatchable pw.id) = 0
        · left
          simp [scheduleTx, hnode, hgpu, hins, hcnt]
        · right
          refine ⟨node, gpu, reservations, rfl, hgpu, hins, Nat.pos_of_ne_zero hcnt, ?_⟩
          simp [scheduleTx, hnode, hgpu, hins, hcnt]

theorem registerTx_cases : (registerTx env req t).1 = t ∨
      ∃ nodes nodeGPUs, t.nodes.insert (env.newID 0) (req.row env.now) = some nodes ∧
        insertGPUs env.newID (env.newID 0) 1 req.gpus t.nodeGPUs = some nodeGPUs ∧ (registerTx env req t).1 =
          { t with nodes, nodeGPUs, events := t.events ++ [joinedEvent (env.newID 0) env.now] } := by
  unfold registerTx
  cases hins : insertNode env req t with
  | none => exact .inl rfl
  | some =>
    right
    unfold insertNode at hins
    split_ifs at hins
    obtain ⟨nodes, hnodes, hins⟩ := bind_eq_some_iff.1 hins
    obtain ⟨nodeGPUs, hgpus, hins⟩ := bind_eq_some_iff.1 hins
    cases hins
    exact ⟨nodes, nodeGPUs, hnodes, hgpus, rfl⟩

/-- **What an operation does to the tables**, one constructor for each way in which it changes
them. -/
inductive Acts (env : Env) (t : Tables) : Op → Tables → Prop
  | unchanged (op : Op) : Acts env t op t
  | inserted (id : WorkloadID) (row : Workload) {workloads : Table WorkloadID Workload}
      (hins : t.workloads.insert id row = some workloads) :
      Acts env t (.exec (.insertWorkload id row)) { t with workloads }
  | updated (s : WorkloadStmt) : Acts env t (.exec (.updateWorkload s)) (Stmt.exec t (.updateWorkload s)).1
  | nodeUpdated (s : NodeStmt) {row row' : Node} (hrow : t.nodes.lookup s.id = some row)
      (hguard : s.guard row = true) (hset : s.set row = some row') :
      Acts env t (.exec (.updateNode s)) { t with nodes := t.nodes.modify (fun id _ => id = s.id) fun _ => row' }
  | released (w : WorkloadID) (finishedAt : Millis) :
      Acts env t (.exec (.releaseReservations w finishedAt)) (Stmt.exec t (.releaseReservations w finishedAt)).1
  | freed (w : WorkloadID) : Acts env t (.exec (.freeGPUs w)) (Stmt.exec t (.freeGPUs w)).1
  | equipped (id : GPUID) (node : NodeID) (gpu : InventoryGPU) {nodeGPUs : Table GPUID NodeGPU}
      (hsame : SameBookings t.nodeGPUs nodeGPUs) : Acts env t (.exec (.upsertGPU id node gpu)) { t with nodeGPUs }
  | noted (row : EventRow) : Acts env t (.exec (.insertEvent row)) { t with events := t.events ++ [row] }
  | booked (pw : PendingWork) (node : NodeID) (gpu : Option (GPUID × ℤ))
    {reservations : Table ReservationID Reservation}
      (hnode : t.findNode pw.manifest.resources env.rank = some node)
      (hclaim : t.claimGPU pw.manifest.resources node env.rank = some gpu)
      (hins : t.reservations.insert (env.newID 0) (pw.reservation node gpu env.now) = some reservations) :
      Acts env t (.scheduleOne pw) (t.book pw node gpu reservations env.now)
  | registered (req : RegisterRequest) {nodes : Table NodeID Node} {nodeGPUs : Table GPUID NodeGPU}
      (hins : t.nodes.insert (env.newID 0) (req.row env.now) = some nodes)
      (hgpus : insertGPUs env.newID (env.newID 0) 1 req.gpus t.nodeGPUs = some nodeGPUs) :
      Acts env t (.register req)
        { t with nodes, nodeGPUs, events := t.events ++ [joinedEvent (env.newID 0) env.now] }

theorem exec_acts : Acts env t (.exec stmt) (stmt.exec t).1 := by
  cases stmt with
  | insertWorkload id row =>
    simp only [Stmt.exec]
    split_ifs
    · cases hins : t.workloads.insert id row with
      | none => exact .unchanged _
      | some => exact .inserted id row hins
    · exact .unchanged _
  | updateWorkload s => exact .updated s
  | updateNode s =>
    show Acts env t _ (t.updateNode s).1
    rcases updateNode_cases t s with ⟨hsame, -⟩ | ⟨_, _, hrow, hguard, hset, hupd⟩
    · rw [hsame]
      exact .unchanged _
    · rw [hupd]
      exact .nodeUpdated s hrow hguard hset
  | releaseReservations w finishedAt => exact .released w finishedAt
  | freeGPUs w => exact .freed w
  | upsertGPU id node gpu =>
    obtain ⟨_, hgpus, hsame⟩ := upsertGPU_eq t id node gpu
    show Acts env t _ (t.upsertGPU id node gpu).1
    rw [hgpus]
    exact .equipped id node gpu hsame
  | insertEvent row => exact .noted row

theorem act_acts : Acts env t op (act env op t).1 := by
  unfold act
  split_ifs
  · exact .unchanged _
  · cases op with
    | exec stmt => exact exec_acts env t stmt
    | scheduleOne pw =>
      show Acts env t _ (scheduleTx env pw t).1
      rcases scheduleTx_cases env pw t with ⟨hsame, -⟩ | ⟨node, gpu, _, hnode, hclaim, hins, -, hbook⟩
      · rw [hsame]
        exact .unchanged _
      · rw [hbook]
        exact .booked pw node gpu hnode hclaim hins
    | register req =>
      show Acts env t _ (registerTx env req t).1
      rcases registerTx_cases env req t with hsame | ⟨_, _, hins, hgpus, hreg⟩
      · rw [hsame]
        exact .unchanged _
      · rw [hreg]
        exact .registered req hins hgpus
    | _ => exact .unchanged _

/-- **What an operation can do to the row of a workload.** -/
inductive Effect (op : Op) (w : WorkloadID) : Option Workload → Option Workload → Prop
  | unchanged (row : Option Workload) : Effect op w row row
  | inserted (row : Workload) (hop : op = .exec (.insertWorkload w row)) : Effect op w none (some row)
  | updated (s : WorkloadStmt) (row : Workload) (hop : op = .exec (.updateWorkload s)) (hid : w = s.id)
      (hguard : s.guard row = true) : Effect op w (some row) (some (s.set row))
  | dispatched (pw : PendingWork) (node : NodeID) (now : Millis) (row : Workload) (hop : op = .scheduleOne pw)
      (hid : w = pw.id) (hpending : row.status.isPending = true) :
      Effect op w (some row) (some (dispatch node now row))

theorem act_effect : Effect op w (t.workloads.lookup w) ((act env op t).1.workloads.lookup w) := by
  have hacts := act_acts env op t
  generalize (act env op t).1 = t' at hacts ⊢
  cases hacts with
  | inserted id row hins =>
    rw [lookup_insert hins]
    split_ifs with hw
    · subst hw
      rw [lookup_of_insert hins]
      exact .inserted row rfl
    · exact .unchanged _
  | updated s =>
    rw [lookup_updateWorkload]
    cases t.workloads.lookup w with
    | none => exact .unchanged _
    | some row =>
      simp only [map_some]
      split_ifs with happ
      · exact .updated s row rfl happ.1 happ.2
      · exact .unchanged _
  | booked pw node =>
    show Effect _ w _ ((t.workloads.modify (dispatchable pw.id) (dispatch node env.now)).lookup w)
    rw [lookup_modify]
    cases t.workloads.lookup w with
    | none => exact .unchanged _
    | some row =>
      simp only [map_some, dispatchable, and_eq_true, decide_eq_true_eq]
      split_ifs with hdisp
      · exact .dispatched pw node env.now row rfl hdisp.1 hdisp.2
      · exact .unchanged _
  | _ => exact .unchanged _

theorem WorkloadStmt.manifest_set : (s.set row).manifest = row.manifest := by
  cases s with
  | cancel =>
    simp only [WorkloadStmt.set]
    split_ifs <;> rfl
  | _ => rfl

theorem act_row {t : Tables} {w : WorkloadID} {row : Workload} (h : t.workloads.lookup w = some row) (env : Env)
    (op : Op) : ∃ row', (act env op t).1.workloads.lookup w = some row' ∧ row'.manifest = row.manifest := by
  have heff := act_effect env op t w
  rw [h] at heff
  generalize (act env op t).1.workloads.lookup w = after at heff
  cases heff with
  | unchanged => exact ⟨row, rfl, rfl⟩
  | updated s row => exact ⟨_, rfl, s.manifest_set row⟩
  | dispatched => exact ⟨_, rfl, rfl⟩

theorem held_releaseReservations :
    (Stmt.exec t (.releaseReservations u finishedAt)).1.held w = if w = u then [] else t.held w := by
  split_ifs with hw
  · subst hw
    rw [List.eq_nil_iff_forall_not_mem]
    intro r hr
    obtain ⟨id, hrow, hworkload, hheld⟩ := mem_held.1 hr
    have hmod : (t.reservations.modify (fun _ r => r.heldBy w) (.release finishedAt)).lookup id = some r := hrow
    rw [lookup_modify] at hmod
    obtain ⟨r0, -, rfl⟩ := map_eq_some_iff.1 hmod
    -- a row that is not rewritten is not held by the workload, and one that is rewritten is released
    by_cases hmatch : r0.heldBy w = true
    · rw [if_pos hmatch] at hheld
      simp [release, isHeld] at hheld
    · rw [if_neg hmatch] at hworkload hheld
      simp [heldBy, hworkload, hheld] at hmatch
  · show ((t.reservations.modify (fun _ r => r.heldBy u) (.release finishedAt)).select
        fun _ r => r.heldBy w).map Prod.snd = t.held w
    rw [select_modify_of_unseen]
    · rfl
    · intro id r hr
      have hne : ¬ u = w := fun h => hw h.symm
      simp only [heldBy, and_eq_true, decide_eq_true_eq] at hr
      simp [heldBy, release, hr.1, hne]

theorem held_book (pw : PendingWork) (node : NodeID) (gpu : Option (GPUID × ℤ)) (now : Millis)
    {id : ReservationID} {reservations : Table ReservationID Reservation}
    (h : t.reservations.insert id (pw.reservation node gpu now) = some reservations)
    (w : WorkloadID) : (t.book pw node gpu reservations now).held w = t.held w ++ if w = pw.id then
      [pw.reservation node gpu now] else [] := by
  show (reservations.select fun _ r => r.heldBy w).map Prod.snd = _
  rw [select_insert h, List.map_append]
  congr 1
  have hheld : (pw.reservation node gpu now).heldBy w = decide (pw.id = w) := by
    show (decide (pw.id = w) && true) = decide (pw.id = w)
    rw [Bool.and_true]
  rw [hheld]
  by_cases hw : w = pw.id
  · simp [hw]
  · have hne : ¬ pw.id = w := fun h => hw h.symm
    simp [hw, hne]

/-- **What an operation can do to the reservations a workload holds.** -/
inductive HeldEffect (op : Op) (w : WorkloadID) : List Reservation → List Reservation → Prop
  | unchanged (hs : List Reservation) : HeldEffect op w hs hs
  | released (finishedAt : Millis) (hs : List Reservation) (hop : op = .exec (.releaseReservations w finishedAt)) :
      HeldEffect op w hs []
  | booked (pw : PendingWork) (node : NodeID) (gpu : Option (GPUID × ℤ)) (now : Millis) (hs : List Reservation)
      (hop : op = .scheduleOne pw) (hid : w = pw.id) : HeldEffect op w hs (hs ++ [pw.reservation node gpu now])

theorem act_heldEffect : HeldEffect op w (t.held w) ((act env op t).1.held w) := by
  have hacts := act_acts env op t
  generalize (act env op t).1 = t' at hacts ⊢
  cases hacts with
  | released u finishedAt =>
    rw [held_releaseReservations]
    split_ifs with hw
    · subst hw
      exact .released finishedAt _ rfl
    · exact .unchanged _
  | booked pw node gpu _ _ hins =>
    rw [held_book t pw node gpu env.now hins]
    split_ifs with hw
    · exact .booked pw node gpu env.now _ rfl hw
    · rw [List.append_nil]
      exact .unchanged _
  | _ => exact .unchanged _

end Ocelot.Compute
