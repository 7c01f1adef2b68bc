/-
# The steps of the VirtualServer, and the store functions that take two.
-/
import Ocelot.Lib.Program
import Ocelot.VirtualServer.Store

namespace Ocelot.VirtualServer

open Tracker (Bytes)

structure RuntimeHandle where
  adapterName : Bytes
  instanceID : InstanceID
  data : StringMap
  deriving DecidableEq

structure ResolvedMount where
  hostPath : Bytes
  targetPath : Bytes
  readOnly : Bool
  deriving DecidableEq

/-- `adapter.ProvisionRequest`; the allocation is `(cpuThreads, ramMiB, gpuDeviceIndex)`. -/
structure ProvisionRequest where
  instanceID : InstanceID
  nodeID : NodeID
  manifest : ServiceManifest
  allocation : ℤ × ℤ × Option ℤ
  mounts : List ResolvedMount
  deriving DecidableEq

inductive AdapterCall where
  | provision (adapterName : Bytes) (req : ProvisionRequest)
  | start (handle : RuntimeHandle)
  /-- With `StopGraceful`. -/
  | stop (handle : RuntimeHandle)
  | inspect (handle : RuntimeHandle)
  | health (handle : RuntimeHandle)
  | destroy (handle : RuntimeHandle)

structure MountRequest where
  volumeID : VolumeID
  nodeID : NodeID
  handle : StringMap
  targetPath : Bytes
  readOnly : Bool
  deriving DecidableEq

inductive DriverCall where
  | create (nspace name : Bytes) (spec : VolumeSpec)
  | delete (handle : StringMap)
  /-- `Mount`, on behalf of an instance. -/
  | mount (i : InstanceID) (req : MountRequest)
  | unmount (hostPath : Bytes) (readOnly : Bool)
  | stat (handle : StringMap)

inductive Op where
  | now
  | query (q : Query)
  | write (w : Write)
  | adapter (c : AdapterCall)
  | driver (driverName : Bytes) (c : DriverCall)
  | lookup (infoHash : Bytes)

def AdapterCall.Ans : AdapterCall → Type
  | provision _ _ => Except Bytes StringMap
  | inspect _ | health _ => Except Bytes Bool
  | start _ | stop _ | destroy _ => Except Bytes Unit

def DriverCall.Ans : DriverCall → Type
  | create _ _ _ => Except Bytes StringMap
  | mount _ _ => Except Bytes Bytes
  | stat _ => Except Bytes (Option ℤ)
  | delete _ | unmount _ _ => Except Bytes Unit

def Op.Ans : Op → Type
  | now => Nanos
  | query q => Except StoreError q.Ans
  | write w => Except StoreError w.Ans
  | adapter c => c.Ans
  | driver _ c => c.Ans
  | lookup _ => Bool

inductive Event where
  | declared (i : InstanceID)
  /-- A `Provision` call that succeeded, with the handle it returned. -/
  | provisioned (i : InstanceID) (data : StringMap)
  | started (i : InstanceID) (data : StringMap)
  | destroyed (i : InstanceID) (data : StringMap) (ok : Bool)
  deriving DecidableEq

structure World where
  tables : Tables
  events : List Event

def Env.reply {α : Type} (env : Env) (a : α) : Except Bytes α := if env.fails then .error env.message else .ok a

variable (env : Env)

def AdapterCall.answer : (c : AdapterCall) → c.Ans
  | provision _ _ => env.reply env.handle
  | start _ => env.reply ()
  | stop _ => env.reply ()
  | inspect _ => env.reply env.up
  | health _ => env.reply env.up
  | destroy _ => env.reply ()

def DriverCall.answer : (c : DriverCall) → c.Ans
  | create _ _ _ => env.reply env.handle
  | delete _ => env.reply ()
  | mount _ _ => env.reply env.hostPath
  | unmount _ _ => env.reply ()
  | stat _ => env.reply (if env.up then some env.usedMiB else none)

def AdapterCall.events : AdapterCall → List Event
  | provision _ req => if env.fails then [] else [.provisioned req.instanceID env.handle]
  | start h => [.started h.instanceID h.data]
  | destroy h => [.destroyed h.instanceID h.data (!env.fails)]
  | stop _ | inspect _ | health _ => []

def Write.events : (w : Write) → Except StoreError w.Ans → List Event
  | .createInstance _ _, .ok id => [.declared id]
  | .incrementRetryCount id, .ok _ => [.declared id]
  | _, _ => []

/-- **One step.** -/
def act (op : Op) (w : World) : World × op.Ans :=
  match op with
  | .now => (w, env.now)
  | .query q => (w, q.eval env w.tables)
  | .write wr =>
    let out := wr.exec env w.tables
    ({ tables := out.1, events := w.events ++ wr.events out.2 }, out.2)
  | .adapter c => ({ w with events := w.events ++ c.events env }, c.answer env)
  | .driver _ c => (w, c.answer env)
  | .lookup _ => (w, !env.fails && env.up)

abbrev Program := Prog Op Op.Ans

def now : Program Nanos := Prog.perform Op.now
def query (q : Query) : Program (Except StoreError q.Ans) := Prog.perform (Op.query q)
def write (w : Write) : Program (Except StoreError w.Ans) := Prog.perform (Op.write w)
def adapter (c : AdapterCall) : Program c.Ans := Prog.perform (Op.adapter c)
def driver (name : Bytes) (c : DriverCall) : Program c.Ans := Prog.perform (Op.driver name c)
def lookup (infoHash : Bytes) : Program Bool := Prog.perform (Op.lookup infoHash)

def updateInstanceState (id : InstanceID) (dst : InstanceState) : Program (Except StoreError Unit) := do
  match ← query (.getInstance id) with
  | .error e => return .error e
  | .ok inst =>
    if inst.state.validateInstanceTransition dst then write (.writeInstanceState id inst.state dst)
    else return .error .invalidTransition

def assignNode (id : InstanceID) (node : NodeID) : Program (Except StoreError Unit) := do
  match ← query (.getInstance id) with
  | .error e => return .error e
  | .ok inst =>
    if inst.state.validateInstanceTransition .scheduled then write (.writeAssignment id node inst.state)
    else return .error .invalidTransition

def updateNodeState (id : NodeID) (dst : NodeState) : Program (Except StoreError Unit) := do
  match ← query (.getNode id) with
  | .error e => return .error e
  | .ok n =>
    if n.state.validateNodeTransition dst then write (.writeNodeState id n.state dst)
    else return .error .invalidTransition

def NodeState.afterHeartbeat (s : NodeState) : NodeState :=
  if s.isProtected then s else if s = .discovered then .ready else s

def heartbeat (id : NodeID) (availRAMMiB availCPU : ℤ) : Program (Except StoreError Unit) := do
  match ← query (.getNode id) with
  | .error e => return .error e
  | .ok n => write (.writeHeartbeat id availRAMMiB availCPU n.state.afterHeartbeat)

end Ocelot.VirtualServer
