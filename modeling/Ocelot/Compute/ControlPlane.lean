/-
# The handlers, monitors and the scheduler of `compute/api`.
-/
import Ocelot.Compute.Statements

namespace Ocelot.Compute

open Tracker (Bytes lit)
open Prog (forEach)

abbrev Program := Prog Op Op.Ans

/-! ## Common parts -/

def nowMs : Program Millis := Prog.perform Op.nowMs
def newUUID : Program Bytes := Prog.perform Op.newUUID
def exec (stmt : Stmt) : Program (Option ℕ) := Prog.perform (Op.exec stmt)
def countWorkload (id : WorkloadID) (org : OrgID) : Program (Option ℕ) := Prog.perform (Op.countWorkload id org)

def workloadStatus (id : WorkloadID) (org : Option OrgID) : Program (Option (Option WorkloadStatus)) :=
  Prog.perform (Op.workloadStatus id org)

def nodeByHostname (hostname : Bytes) : Program (Option (Option NodeID)) :=
  Prog.perform (Op.nodeByHostname hostname)
def nodeWorkloads (node : NodeID) : Program (Option (List WorkloadID)) := Prog.perform (Op.nodeWorkloads node)
def staleNodes (threshold : Millis) : Program (Option (List NodeID)) := Prog.perform (Op.staleNodes threshold)
def expiredWorkloads (now : Millis) : Program (Option (List WorkloadID)) := Prog.perform (Op.expiredWorkloads now)
def registerNode (req : RegisterRequest) : Program (Option NodeID) := Prog.perform (Op.register req)
def selectPending : Program (Option (List PendingWork)) := Prog.perform Op.selectPending

inductive Response where
  | error (status : ℕ) (code message : Bytes) (retry : Bool)
  /-- `201`: a workload that was submitted. -/
  | submitted (id : WorkloadID) (submittedAt : Millis)
  /-- `201`: a node that was registered. -/
  | registered (node : NodeID)
  /-- `200`: a workload that is cancelled or asked to stop. -/
  | stopped (id : WorkloadID) (status : Option WorkloadStatus)
  /-- `200`: a node that is drained. -/
  | draining (node : NodeID) (drainAt : Millis)
  | ok
  | noContent
  deriving DecidableEq

def Response.status : Response → ℕ
  | error status _ _ _ => status
  | submitted _ _ | registered _ => 201
  | stopped _ _ | draining _ _ | ok => 200
  | noContent => 204

def badRequest (message : Bytes) : Response := .error 400 (lit "BAD_REQUEST") message false
def databaseError : Response := .error 500 (lit "INTERNAL_ERROR") (lit "database error") true

def insertEvent (actor subjectType subjectID kind : Bytes) : Program Unit := do
  let ts ← nowMs
  let _ ← exec (.insertEvent { ts, actor, kind, subjectType, subjectID })
  return ()

def releaseWorkloadResources (workload : WorkloadID) (finishedAt : Millis) : Program Unit := do
  let _ ← exec (.releaseReservations workload finishedAt)
  let _ ← exec (.freeGPUs workload)
  return ()

def tryRequeueIfEligible (workload : WorkloadID) (reason : Bytes) : Program Bool := do
  let now ← nowMs
  match ← exec (.updateWorkload (.requeue workload now reason)) with
  | none => return false
  | some n =>
    if n = 0 then return false
    else
      insertEvent (lit "system") (lit "workload") workload (lit "workload.requeued")
      return true

/-! ## Health reports -/

inductive EventKind where
  | started | checkpoint | failed | completed | oomKilled | timedOut | stopped
  | unknown (kind : Bytes)
  deriving DecidableEq

namespace EventKind

def retryable : EventKind → Bool
  | failed | oomKilled | timedOut => true
  | _ => false

def text : EventKind → Bytes
  | started => lit "started"
  | checkpoint => lit "checkpoint"
  | failed => lit "failed"
  | completed => lit "completed"
  | oomKilled => lit "oom_killed"
  | timedOut => lit "timed_out"
  | stopped => lit "stopped"
  | unknown kind => kind

end EventKind

structure HealthEvent where
  workloadID : WorkloadID
  kind : EventKind
  ts : Millis
  exitCode : Option ℤ
  message : Bytes
  deriving DecidableEq

variable (node : NodeID) (ev : HealthEvent)

def recordEvent : Program Unit :=
  insertEvent node (lit "workload") ev.workloadID (lit "workload." ++ ev.kind.text)

def finishWorkload (outcome : Outcome) : Program Unit := do
  let _ ← exec (.updateWorkload (.markFinished ev.workloadID node outcome ev.ts (ev.exitCode.getD 0) ev.message))
  releaseWorkloadResources ev.workloadID ev.ts
  if ev.kind.retryable then
    let _ ← tryRequeueIfEligible ev.workloadID ev.message
  recordEvent node ev

def applyHealthEvent : Program Unit :=
  match ev.kind with
  | .started => do
    let _ ← exec (.updateWorkload (.markStarted ev.workloadID node ev.ts))
    recordEvent node ev
  | .completed | .stopped => finishWorkload node ev .completed
  | .failed | .oomKilled => finishWorkload node ev .failed
  | .timedOut => finishWorkload node ev .timedOut
  | .checkpoint => insertEvent node (lit "workload") ev.workloadID (lit "workload.checkpoint")
  | .unknown _ => return ()

def handleHealth (events : List HealthEvent) : Program Response := do
  forEach (applyHealthEvent node) events
  return .ok

/-! ## Nodes -/

def validateGPU (i : ℕ) (g : GPUSpec) : Except Bytes Unit :=
  let field := fun name => lit "gpus[" ++ Decimal.numeral i ++ lit name
  if g.deviceIndex < 0 ∨ 15 < g.deviceIndex then .error (field "].device_index: must be 0–15")
  else if g.model = [] ∨ 128 < g.model.length then .error (field "].model: required, max 128 chars")
  else if g.vramMb < 1 ∨ 2097152 < g.vramMb then .error (field "].vram_mb: must be 1–2097152")
  else .ok ()

def validateGPUs : ℕ → List GPUSpec → Except Bytes Unit
  | _, [] => .ok ()
  | i, g :: rest => do
    validateGPU i g
    validateGPUs (i + 1) rest

def validateRegisterRequest (req : RegisterRequest) : Except Bytes Unit :=
  if req.hostname = [] ∨ 253 < req.hostname.length then .error (lit "hostname: required, max 253 chars")
  else if req.arch ≠ lit "amd64" ∧ req.arch ≠ lit "arm64" then .error (lit "arch: must be amd64 or arm64")
  else if req.agentVersion = [] then .error (lit "agent_version: required")
  else if req.cpuCores < 1 ∨ 65535 < req.cpuCores then .error (lit "cpu_cores: must be 1–65535")
  else if req.ramMb < 1 ∨ 67108864 < req.ramMb then .error (lit "ram_mb: must be 1–67108864")
  else if req.storageGb < 0 ∨ 1048576 < req.storageGb then .error (lit "storage_gb: must be 0–1048576")
  else if 16 < req.gpus.length then .error (lit "gpus: max 16 entries")
  else do
    validateGPUs 0 req.gpus
    if 32 < req.labels.length then .error (lit "labels: max 32 pairs") else .ok ()

def handleRegister (req : RegisterRequest) : Program Response :=
  match validateRegisterRequest req with
  | .error message => return badRequest message
  | .ok () => do
    match ← nodeByHostname req.hostname with
    | none => return databaseError
    | some (some existing) =>
      return .error 409 (lit "HOSTNAME_CONFLICT")
        (lit "hostname " ++ req.hostname ++ lit " already registered as node " ++ existing) false
    | some none =>
      match ← registerNode req with
      | none => return databaseError
      | some node => return .registered node

def nodeGone : Response := .error 410 (lit "NODE_GONE") (lit "node not registered") false

def handleHeartbeat (status : Bytes) : Program Response := do
  let now ← nowMs
  match ← exec (.updateNode (.heartbeat node status now)) with
  | none => return databaseError
  | some n => return if n = 0 then nodeGone else .ok

structure InventoryRequest where
  cpuCores : ℤ
  ramMb : ℤ
  storageGb : ℤ
  gpus : List InventoryGPU
  agentVersion : Bytes
  deriving DecidableEq

def upsertGPU (gpu : InventoryGPU) : Program Unit := do
  let id ← newUUID
  let _ ← exec (.upsertGPU id node gpu)
  return ()

def handleInventory (req : InventoryRequest) : Program Response := do
  let now ← nowMs
  match ← exec (.updateNode (.inventory node req.cpuCores req.ramMb req.storageGb req.agentVersion now)) with
  | none => return databaseError
  | some n =>
    if n = 0 then return nodeGone
    else
      forEach (upsertGPU node) req.gpus
      return .ok

def handleDrain : Program Response := do
  let now ← nowMs
  match ← exec (.updateNode (.drain node now)) with
  | none => return databaseError
  | some n =>
    if n = 0 then return .error 404 (lit "NOT_FOUND") (lit "node not found or already dead/lost") false
    else
      insertEvent (lit "system") (lit "node") node (lit "node.drained")
      return .draining node now

def handleSetDead : Program Response := do
  let _now ← nowMs
  match ← exec (.updateNode (.setDead node)) with
  | none => return databaseError
  | some n =>
    if n = 0 then return .error 404 (lit "NOT_FOUND") (lit "node not found or already dead") false
    else
      insertEvent (lit "system") (lit "node") node (lit "node.drained")
      return .noContent

/-! ## Workloads -/

structure SubmitWorkloadRequest where
  name : Bytes
  priority : ℤ
  maxRetries : ℤ
  deadline : Option Millis
  projectID : Bytes
  manifest : WorkloadManifest
  deriving DecidableEq

def isBlank : Bytes → Bool
  | [] => true
  | 0xC2 :: b :: rest => (b = 0x85 || b = 0xA0) && isBlank rest
  | 0xE1 :: 0x9A :: 0x80 :: rest => isBlank rest
  | 0xE2 :: 0x80 :: b :: rest => ((0x80 ≤ b && b ≤ 0x8A) || b = 0xA8 || b = 0xA9 || b = 0xAF) && isBlank rest
  | 0xE2 :: 0x81 :: 0x9F :: rest => isBlank rest
  | 0xE3 :: 0x80 :: 0x80 :: rest => isBlank rest
  | b :: rest => ((0x09 ≤ b && b ≤ 0x0D) || b = 0x20) && isBlank rest

def validTypes : List Bytes :=
  [lit "binary", lit "container", lit "model", lit "dataset", lit "archive", lit "vm_image", lit "script"]

variable (req : SubmitWorkloadRequest)

def validateSubmitRequest : Except Bytes Unit :=
  let res := req.manifest.resources
  if isBlank req.name ∨ 256 < req.name.length then .error (lit "name: required, max 256 chars")
  else if !validTypes.contains req.manifest.type then
    .error (lit "manifest.type: must be one of binary, container, model, dataset, archive, vm_image, script")
  else if res.cpuMillicores < 1 then .error (lit "manifest.resources.cpu_millicores: must be >= 1")
  else if res.ramMb < 1 then .error (lit "manifest.resources.ram_mb: must be >= 1")
  else if res.gpuCount < 0 ∨ 16 < res.gpuCount then .error (lit "manifest.resources.gpu_count: must be 0–16")
  else if 0 < res.gpuCount ∧ res.gpuVRAMMb < 1 then
    .error (lit "manifest.resources.gpu_vram_mb: required when gpu_count > 0")
  else if req.maxRetries < 0 ∨ 10 < req.maxRetries then .error (lit "max_retries: must be 0–10")
  else .ok ()

def SubmitWorkloadRequest.deadlineAt (now : Millis) : Option Millis :=
  match req.deadline with
  | some deadline => some deadline
  | none =>
    if 0 < req.manifest.timeoutSec then some ((now + req.manifest.timeoutSec * 1000).bmod (2 ^ 64)) else none

variable (org : OrgID) (account : AccountID)

def SubmitWorkloadRequest.row (now : Millis) : Workload where
  orgID := org
  projectID := if req.projectID = [] then none else some req.projectID
  accountID := account
  name := req.name
  status := .submitted
  priority := if req.priority = 0 then 50 else req.priority
  manifest := { req.manifest with name := req.name }
  nodeID := none
  submittedAt := now
  deadline := req.deadlineAt now
  queuedAt := none
  scheduledAt := none
  startedAt := none
  finishedAt := none
  exitCode := none
  failureMsg := none
  retryCount := 0
  maxRetries := req.maxRetries

def handleSubmit (req : SubmitWorkloadRequest) : Program Response :=
  match validateSubmitRequest req with
  | .error message => return badRequest message
  | .ok () => do
    let id ← newUUID
    let now ← nowMs
    match ← exec (.insertWorkload id (req.row org account now)) with
    | none => return databaseError
    | some _ =>
      insertEvent account (lit "workload") id (lit "workload.queued")
      return .submitted id now

def workloadNotFound : Response := .error 404 (lit "NOT_FOUND") (lit "workload not found") false

def handleCancel (id : WorkloadID) : Program Response := do
  let now ← nowMs
  match ← exec (.updateWorkload (.cancel id org now)) with
  | none => return databaseError
  | some n =>
    if n = 0 then
      -- the error of this query is ignored, and leaves the count at zero
      let count ← countWorkload id org
      if count.getD 0 = 0 then return workloadNotFound
      else
        return .error 409 (lit "ALREADY_TERMINAL")
          (lit "workload is already in a terminal or stopping state") false
    else
      let status ← workloadStatus id none
      insertEvent account (lit "workload") id (lit "workload.cancelled")
      return .stopped id (status.getD none)

def handleStop (id : WorkloadID) : Program Response := do
  match ← exec (.updateWorkload (.stop id org)) with
  | none => return databaseError
  | some n =>
    if n = 0 then
      match ← workloadStatus id (some org) with
      | some (some status) =>
        return .error 409 (lit "NOT_RUNNING")
          (lit "workload is not running (status=" ++ status.text ++ lit ")") false
      | _ => return workloadNotFound
    else return .stopped id (some .stopping)

/-! ## Monitors and scheduler -/

def recoverWorkload (now : Millis) (workload : WorkloadID) : Program Unit := do
  match ← exec (.updateWorkload (.failLost workload now)) with
  | none => return ()
  | some _ =>
    releaseWorkloadResources workload now
    if ← tryRequeueIfEligible workload (lit "node_lost") then return ()
    else insertEvent (lit "system") (lit "workload") workload (lit "workload.failed")

def recoverNodeWorkloads : Program Unit := do
  match ← nodeWorkloads node with
  | none => return ()
  | some workloads =>
    let now ← nowMs
    forEach (recoverWorkload now) workloads

def loseNode : Program Unit := do
  match ← exec (.updateNode (.markLost node)) with
  | none => return ()
  | some n =>
    if n = 0 then return ()
    else
      insertEvent (lit "system") (lit "node") node (lit "node.lost")
      recoverNodeWorkloads node

def checkNodes (lossAfter : Millis) : Program Unit := do
  let now ← nowMs
  match ← staleNodes (now - lossAfter) with
  | none => return ()
  | some stale => forEach loseNode stale

def expireWorkload (now : Millis) (workload : WorkloadID) : Program Unit := do
  match ← exec (.updateWorkload (.timeOut workload now)) with
  | none => return ()
  | some n =>
    if n = 0 then return ()
    else
      releaseWorkloadResources workload now
      insertEvent (lit "system") (lit "workload") workload (lit "workload.timed_out")

def checkDeadlines : Program Unit := do
  let now ← nowMs
  match ← expiredWorkloads now with
  | none => return ()
  | some expired => forEach (expireWorkload now) expired

def scheduleOne (pw : PendingWork) : Program Unit :=
  if 1 < pw.manifest.resources.gpuCount then return ()
  else do
    let _ ← Prog.perform (Op.scheduleOne pw)
    return ()

def scheduleBatch : Program Unit := do
  match ← selectPending with
  | none => return ()
  | some pending => forEach scheduleOne pending

/-! ## The plane -/

inductive Call where
  | submit (org : OrgID) (account : AccountID) (req : SubmitWorkloadRequest)
  | cancel (org : OrgID) (account : AccountID) (id : WorkloadID)
  | stop (org : OrgID) (id : WorkloadID)
  | register (req : RegisterRequest)
  | heartbeat (node : NodeID) (status : Bytes)
  | inventory (node : NodeID) (req : InventoryRequest)
  | drain (node : NodeID)
  | setDead (node : NodeID)
  | checkNodes (lossAfter : Millis)
  | checkDeadlines

def Call.code : Call → Program (Option Response)
  | submit org account req => some <$> handleSubmit org account req
  | cancel org account id => some <$> handleCancel org account id
  | stop org id => some <$> handleStop org id
  | register req => some <$> handleRegister req
  | heartbeat node status => some <$> handleHeartbeat node status
  | inventory node req => some <$> handleInventory node req
  | drain node => some <$> handleDrain node
  | setDead node => some <$> handleSetDead node
  | checkNodes lossAfter => (fun _ => none) <$> Compute.checkNodes lossAfter
  | checkDeadlines => (fun _ => none) <$> Compute.checkDeadlines

structure Plane where
  tables : Tables
  batch : List PendingWork

namespace Plane

def initial : Plane := ⟨.empty, []⟩

inductive Label where
  | call (c : Call) (env : ℕ → Env)
  | event (node : NodeID) (ev : HealthEvent) (env : ℕ → Env)
  | select (env : Env)
  | scheduleOne (env : Env)

def step (p : Plane) : Label → Option Plane
  | .call c env => some { p with tables := (c.code.run act env p.tables).1 }
  | .event node ev env => some { p with tables := ((applyHealthEvent node ev).run act env p.tables).1 }
  | .select env => some
    { p with batch := ((act env .selectPending p.tables).2 : Option (List PendingWork)).getD [] }
  | .scheduleOne env =>
    match p.batch with
    | [] => none
    | pw :: rest => some ⟨((Compute.scheduleOne pw).run act (fun _ => env) p.tables).1, rest⟩

theorem step_scheduleOne {p p' : Plane} {env : Env} (h : p.step (.scheduleOne env) = some p') :
    ∃ pw, p.batch = pw :: p'.batch ∧ (1 < pw.manifest.resources.gpuCount ∧ p'.tables = p.tables ∨
        pw.manifest.resources.gpuCount ≤ 1 ∧ p'.tables = (act env (.scheduleOne pw) p.tables).1) := by
  cases hbatch : p.batch with
  | nil => simp [step, hbatch] at h
  | cons pw =>
    simp only [step, hbatch, Option.some.injEq] at h
    subst h
    refine ⟨pw, rfl, ?_⟩
    by_cases hgpu : 1 < pw.manifest.resources.gpuCount
    · refine .inl ⟨hgpu, ?_⟩
      rw [Compute.scheduleOne, if_pos hgpu]
      rfl
    · refine .inr ⟨not_lt.1 hgpu, ?_⟩
      rw [Compute.scheduleOne, if_neg hgpu]
      rfl

/-- **What every operation keeps is kept by every step.** -/
theorem step_keeps {I : Tables → Prop} (hI : ∀ env op t, I t → I (act env op t).1) {p p' : Plane}
    {l : Label} (h : I p.tables) (hstep : p.step l = some p') : I p'.tables := by
  have hprogram : ∀ {α : Type} (prog : Program α) (env : ℕ → Env), I (prog.run act env p.tables).1 := by
    intro α prog env
    exact Prog.Triple.invariant (E := fun _ => True) (fun e op t _ => hI e op t) prog env
      (fun _ => trivial) p.tables h
  cases l with
  | call c env =>
    cases hstep
    exact hprogram c.code env
  | event _ _ env =>
    cases hstep
    exact hprogram _ env
  | select =>
    cases hstep
    exact h
  | scheduleOne env =>
    obtain ⟨pw, -, ⟨-, hsame⟩ | ⟨-, htables⟩⟩ := step_scheduleOne hstep
    · rw [hsame]
      exact h
    · rw [htables]
      exact hI env _ _ h

end Plane

inductive Handler where
  | call (c : Call)
  | health (node : NodeID) (events : List HealthEvent)
  | scheduleBatch

def Handler.code : Handler → Program (Option Response)
  | call c => c.code
  | health node events => some <$> handleHealth node events
  | scheduleBatch => (fun _ => none) <$> Compute.scheduleBatch

abbrev Server := Pool Tables Op Op.Ans (Option Response)

namespace Server

def initial : Server := ⟨.empty, []⟩

def step : Server → Move Handler Env → Option Server := Pool.step act Handler.code

def performed (s : Server) : Move Handler Env → Option (Env × Op)
  | .start _ => none
  | .step i env =>
    if env.fails then none else (s.issued (.step i env : Move Handler Env)).map fun op => (env, op)

theorem issued_of_performed {s : Server} {m : Move Handler Env} {env : Env} {op : Op}
    (h : s.performed m = some (env, op)) : s.issued m = some op := by
  cases m with
  | start => cases h
  | step =>
    simp only [performed] at h
    split_ifs at h
    obtain ⟨_, hiss, heq⟩ := Option.map_eq_some_iff.1 h
    cases heq
    exact hiss

theorem step_cases {s s' : Server} {m : Move Handler Env} (h : step s m = some s') :
    (s.performed m = none ∧ s'.shared = s.shared) ∨
      ∃ env op, s.performed m = some (env, op) ∧ env.fails = false ∧ s'.shared = (act env op s.shared).1 := by
  rcases Pool.step_shared act Handler.code h with ⟨hiss, hsame⟩ | ⟨i, env, op, rfl, hiss, hsh⟩
  · left
    refine ⟨?_, hsame⟩
    cases m with
    | start => rfl
    | step => simp [performed, hiss]
  · cases hfails : env.fails with
    | true =>
      left
      refine ⟨by simp [performed, hfails], ?_⟩
      rw [hsh, act, if_pos hfails]
    | false => exact .inr ⟨env, op, by simp [performed, hfails, hiss], hfails, hsh⟩

theorem exec_call (s : Server) (c : Call) (env : ℕ → Env) :
    ∃ n, Run.exec step s (.start (.call c) :: (List.range n).map fun j => .step s.threads.length (env j)) =
      some ⟨(c.code.run act env s.shared).1, s.threads ++ [.ret (c.code.run act env s.shared).2]⟩ := by
  obtain ⟨n, hn⟩ := Pool.exec_alone act Handler.code s.threads.length c.code env s.shared
    (s.threads ++ [c.code]) (by simp)
  refine ⟨n, ?_⟩
  rw [Run.exec]
  show Run.exec step ⟨s.shared, s.threads ++ [c.code]⟩ _ = _
  rw [step, hn, List.set_append_right _ _ le_rfl, Nat.sub_self, List.set_cons_zero]

end Server

namespace Sample

def env (k : UInt8) : Env where
  fails := false
  now := 0
  rank := fun _ => 0
  newID := fun n => [k, UInt8.ofNat n]

def machine : RegisterRequest where
  hostname := lit "a"
  arch := lit "amd64"
  agentVersion := lit "1"
  cpuCores := 4
  ramMb := 1000
  storageGb := 0
  gpus := [⟨0, lit "gpu", 100, []⟩]
  labels := []

def job (gpuCount : ℤ) : SubmitWorkloadRequest where
  name := lit "job"
  priority := 0
  maxRetries := 1
  deadline := none
  projectID := []
  manifest := ⟨[], lit "script", ⟨1000, 500, gpuCount, 100⟩, 0⟩

def tell (w : WorkloadID) (kind : EventKind) : HealthEvent := ⟨w, kind, 0, none, []⟩

def alone (k : UInt8) (i : ℕ) (h : Handler) (n : ℕ) : List (Move Handler Env) :=
  .start h :: List.replicate n (.step i (env k))

def oneJob : List (Move Handler Env) :=
  alone 1 0 (.call (.register machine)) 2 ++ alone 1 1 (.call (.heartbeat [1, 0] (lit "ready"))) 2 ++
    alone 2 2 (.call (.submit (lit "org") (lit "user") (job 0))) 5 ++ alone 3 3 .scheduleBatch 2 ++
    alone 3 4 (.health [1, 0] [tell [2, 0] .started]) 3

end Sample

end Ocelot.Compute
