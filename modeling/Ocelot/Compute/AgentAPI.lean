/-
# The requests of the agents (`agent_handler.go`).
-/
import Ocelot.Agent.Client
import Ocelot.Compute.ControlPlane
import Ocelot.Tracker.Update

namespace Ocelot.Compute

open Agent (isHex)
open Tracker (Bytes lit atoi)

structure WorkloadMetrics where
  workloadID : WorkloadID
  cpuMillicoreSec : ℤ
  ramMbSec : ℤ
  gpuVRAMMbSec : ℤ
  bytesRead : ℤ
  bytesWritten : ℤ
  netBytesIn : ℤ
  netBytesOut : ℤ
  deriving DecidableEq

structure NodeMetrics where
  cpuMillicoreSec : ℤ
  ramMbSec : ℤ
  wattsSec : UInt64
  deriving DecidableEq

structure MetricsRequest where
  ts : Millis
  intervalSec : ℤ
  workloads : List WorkloadMetrics
  node : NodeMetrics
  deriving DecidableEq

structure Database where
  tables : Tables
  secrets : Table NodeID Bytes
  workloadMetrics : Table (WorkloadID × Millis) (ℤ × WorkloadMetrics)
  nodeMetrics : Table (NodeID × Millis) (ℤ × NodeMetrics)

def insertWorkloadMetrics (env : Env) (req : MetricsRequest) (wm : WorkloadMetrics) (db : Database) : Database :=
  if env.fails ∨ db.tables.workloads.lookup wm.workloadID = none then db
  else
    match db.workloadMetrics.insert (wm.workloadID, req.ts) (req.intervalSec, wm) with
    | none => db
    | some workloadMetrics => { db with workloadMetrics }

def insertNodeMetrics (env : Env) (node : NodeID) (req : MetricsRequest) (db : Database) : Database :=
  if env.fails ∨ db.tables.nodes.lookup node = none then db
  else
    match db.nodeMetrics.insert (node, req.ts) (req.intervalSec, req.node) with
    | none => db
    | some nodeMetrics => { db with nodeMetrics }

def insertMetrics (req : MetricsRequest) : (ℕ → Env) → List WorkloadMetrics → Database → Database
  | _, [], db => db
  | env, wm :: rest, db => insertMetrics req (fun k => env (k + 1)) rest (insertWorkloadMetrics (env 0) req wm db)

def handleMetrics (env : ℕ → Env) (node : NodeID) (req : MetricsRequest) (db : Database) : Database :=
  insertNodeMetrics (env req.workloads.length) node req (insertMetrics req env req.workloads db)

inductive WorkloadAction where
  | run | stop | checkpoint
  deriving DecidableEq

structure DesiredWorkload where
  id : WorkloadID
  action : WorkloadAction
  manifest : WorkloadManifest
  deriving DecidableEq

def WorkloadStatus.action : WorkloadStatus → WorkloadAction
  | stopping => .stop
  | checkpointing => .checkpoint
  | _ => .run

def Tables.desired (t : Tables) (node : NodeID) (rank : Bytes → ℕ) : List DesiredWorkload :=
  (t.workloads.ordered (fun _ w => w.nodeID = some node && w.status.isActive) (fun _ _ => ()) rank).map fun e =>
    ⟨e.1, e.2.status.action, e.2.manifest⟩

inductive Endpoint where
  | heartbeat | inventory | desired | health | metrics
  deriving DecidableEq

inductive Body where
  | heartbeat (ts : Millis) (status : Bytes)
  | inventory (ts : Millis) (req : InventoryRequest)
  | health (ts : Millis) (events : List HealthEvent)
  | metrics (req : MetricsRequest)
  | empty
  deriving DecidableEq

namespace Body

def endpoint : Body → Endpoint
  | heartbeat _ _ => .heartbeat
  | inventory _ _ => .inventory
  | health _ _ => .health
  | metrics _ => .metrics
  | empty => .desired

def asHeartbeat : Body → Option Bytes
  | heartbeat _ status => some status
  | inventory _ _ | health _ _ | metrics _ => some []
  | empty => none

def asInventory : Body → Option InventoryRequest
  | inventory _ req => some req
  | heartbeat _ _ | health _ _ | metrics _ => some ⟨0, 0, 0, [], []⟩
  | empty => none

def asHealth : Body → Option (List HealthEvent)
  | health _ events => some events
  | heartbeat _ _ | inventory _ _ | metrics _ => some []
  | empty => none

def asMetrics : Body → Option MetricsRequest
  | metrics req => some req
  | heartbeat ts _ | inventory ts _ | health ts _ => some ⟨ts, 0, [], ⟨0, 0, 0⟩⟩
  | empty => none

end Body

structure Message where
  nodeID : NodeID
  timestamp : Bytes
  body : Body
  deriving DecidableEq

structure Signature where
  secret : Bytes
  message : Message
  deriving DecidableEq

structure Request where
  nodeID : Bytes
  timestamp : Bytes
  signature : Option Signature
  body : Body
  deriving DecidableEq

structure Signed where
  node : NodeID
  secret : Bytes
  ts : Millis
  body : Body
  deriving DecidableEq

def Signed.request (s : Signed) : Request where
  nodeID := s.node
  timestamp := Decimal.integer s.ts
  signature := some ⟨s.secret, ⟨s.node, Decimal.integer s.ts, s.body⟩⟩
  body := s.body

def replayWindowMs : ℤ := 60000

def abs64 (x : ℤ) : ℤ := if x < 0 then (-x).bmod (2 ^ 64) else x

def outsideWindow (now ts : Millis) : Bool := replayWindowMs < abs64 ((now - ts).bmod (2 ^ 64))

def unauthorized (message : Bytes) : Response := .error 401 (lit "UNAUTHORIZED") message false

def verifyAuth (env : Env) (db : Database) (path : NodeID) (req : Request) (body : Body) : Option Response :=
  match req.signature with
  | none => some (unauthorized (lit "missing auth headers"))
  | some signature =>
    if req.nodeID = [] ∨ req.timestamp = [] then some (unauthorized (lit "missing auth headers"))
    else if req.nodeID ≠ path then some (unauthorized (lit "node_id header/path mismatch"))
    else
      match atoi req.timestamp with
      | none => some (unauthorized (lit "invalid timestamp format"))
      | some ts =>
        if outsideWindow env.now ts then some (unauthorized (lit "request outside replay window"))
        else if env.fails then some databaseError
        else
          match db.secrets.lookup path with
          | none => some (.error 410 (lit "NODE_GONE") (lit "node " ++ path ++ lit " not registered") false)
          | some secret =>
            if !isHex secret then some (.error 500 (lit "INTERNAL_ERROR") (lit "invalid stored secret") true)
            else if signature = ⟨secret, ⟨path, req.timestamp, body⟩⟩ then none
            else some (unauthorized (lit "signature mismatch"))

inductive Reply where
  | response (r : Response)
  | desired (workloads : List DesiredWorkload)
  deriving DecidableEq

def invalidJSON : Reply := .response (badRequest (lit "invalid JSON"))

variable (env : ℕ → Env)

def onTables (p : Program Response) (db : Database) : Database × Reply :=
  let out := p.run act env db.tables
  ({ db with tables := out.1 }, .response out.2)

def serve (node : NodeID) (endpoint : Endpoint) (body : Body) (db : Database) : Database × Reply :=
  match endpoint with
  | .heartbeat =>
    match body.asHeartbeat with
    | none => (db, invalidJSON)
    | some status => onTables env (handleHeartbeat node status) db
  | .inventory =>
    match body.asInventory with
    | none => (db, invalidJSON)
    | some req => onTables env (handleInventory node req) db
  | .desired =>
    if (env 0).fails then (db, .response databaseError) else (db, .desired (db.tables.desired node (env 0).rank))
  | .health =>
    match body.asHealth with
    | none => (db, invalidJSON)
    | some events => onTables env (handleHealth node events) db
  | .metrics =>
    match body.asMetrics with
    | none => (db, invalidJSON)
    | some req => (handleMetrics env node req db, .response .ok)

def Endpoint.verifies (endpoint : Endpoint) (body : Body) : Body := if endpoint = .desired then .empty else body

def handle (endpoint : Endpoint) (path : NodeID) (req : Request) (db : Database) : Database × Reply :=
  match verifyAuth (env 0) db path req (endpoint.verifies req.body) with
  | some error => (db, .response error)
  | none => serve (fun k => env (k + 1)) path endpoint req.body db

def handleReregister (node : NodeID) (secretHex : Bytes) (db : Database) : Database :=
  if (env 0).fails ∨ db.tables.nodes.lookup node = none ∨ (env 1).fails then db
  else
    { db with
      tables := ((insertEvent node (lit "node") node (lit "node.reregistered")).run act
        (fun k => env (k + 2)) db.tables).1
      secrets := db.secrets.modify (fun id _ => id = node) fun _ => secretHex }

def registerAgent (req : RegisterRequest) (secretHex : Bytes) (db : Database) : Database :=
  let out := (handleRegister req).run act env db.tables
  match out.2 with
  | .registered node =>
    { db with tables := out.1, secrets := (db.secrets.insert node secretHex).getD db.secrets }
  | _ => { db with tables := out.1 }

end Ocelot.Compute
