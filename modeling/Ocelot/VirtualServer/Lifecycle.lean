/-
# The life cycle of an instance, whatever is interleaved.
-/
import Ocelot.VirtualServer.Books
import Ocelot.VirtualServer.Effects
import Ocelot.VirtualServer.Footprint

namespace Ocelot.VirtualServer

open Sample Run
open Tracker (Bytes lit)
open Prog (Issues)

def ServiceInstance.Lawful (row row' : ServiceInstance) : Prop :=
  row'.state = row.state ∨ row.state.validateInstanceTransition row'.state = true

def Tables.Lawful (t t' : Tables) : Prop :=
  ∀ i row, t.instances.lookup i = some row → ∃ row', t'.instances.lookup i = some row' ∧ row.Lawful row'

def Op.Checked : Op → Prop
  | .write (.writeInstanceState _ src dst) => src.validateInstanceTransition dst = true
  | .write (.writeAssignment _ _ src) => src.validateInstanceTransition .scheduled = true
  | _ => True

variable {op : Op}

theorem Op.checked_of_isQuiet (h : op.isQuiet = true) : op.Checked := by
  cases op with
  | write => cases h
  | now | query | adapter | driver | lookup => trivial

def Op.retried : Op → Option InstanceID
  | .write (.incrementRetryCount i) => some i
  | _ => none

def Op.RetriesFailed (env : Env) (t : Tables) (op : Op) : Prop :=
  env.fails = false → ∀ i ∈ op.retried, ∀ row ∈ t.instances.lookup i, row.state = .failed ∨ row.state = .declared

instance (env : Env) (t : Tables) (op : Op) : Decidable (op.RetriesFailed env t) := by
  unfold Op.RetriesFailed
  infer_instance

theorem Op.retried_eq_some {i : InstanceID} (h : op.retried = some i) : op = .write (.incrementRetryCount i) := by
  unfold retried at h
  split at h
  · cases h
    rfl
  · cases h

theorem act_lawful_iff (hop : op.Checked) (env : Env) (w : World) :
    w.tables.Lawful (act env op w).1.tables ↔ op.RetriesFailed env w.tables := by
  constructor
  · intro hlaw hok i hi row hrow
    obtain rfl := Op.retried_eq_some hi
    obtain ⟨_, hrow', hmay⟩ := hlaw i row hrow
    have hdone : (act env (.write (.incrementRetryCount i)) w).1.tables = w.tables.incrementRetryCount env i := by
      show ((Write.incrementRetryCount i).exec env w.tables).1 = _
      have hcom : (Write.incrementRetryCount i).commit env w.tables = .ok
        (w.tables.incrementRetryCount env i, ()) := rfl
      rw [Write.exec_of_ok hok hcom]
    rw [hdone, Tables.incrementRetryCount, Tables.lookup_setInstance_self hrow] at hrow'
    cases hrow'
    revert hmay
    show InstanceState.declared = row.state ∨ row.state.validateInstanceTransition .declared = true → _
    cases row.state <;> decide
  · intro hretries i row hrow
    have heff := act_instanceEffect env op w i
    rw [hrow] at heff
    generalize (act env op w).1.tables.instances.lookup i = after at heff
    cases heff with
    | unchanged => exact ⟨row, rfl, .inl rfl⟩
    | moved _ _ hwr | assigned _ _ hwr =>
      subst hwr
      exact ⟨_, rfl, .inr hop⟩
    | stored => exact ⟨_, rfl, .inl rfl⟩
    | retried row hwr hok =>
      subst hwr
      refine ⟨_, rfl, ?_⟩
      rcases hretries hok i rfl row hrow with hfail | hdecl
      · right
        rw [hfail]
        rfl
      · exact .inl hdecl.symm

inductive Caller where
  | reconcile
  | updateInstanceState (i : InstanceID) (dst : InstanceState)

variable {F : Type} [Float64 F]

def Caller.program (cfg : Config F) : Caller → Program Unit
  | reconcile => attempt (VirtualServer.reconcile cfg)
  | updateInstanceState i dst => attempt (VirtualServer.updateInstanceState i dst)

theorem issues_checked_reconcile (cfg : Config F) : Issues Op.Checked (reconcile cfg) := by
  have hO : ∀ op : Op, op.isQuiet = true → op.Checked := fun op => Op.checked_of_isQuiet
  have hst : ∀ (i : InstanceID) (src dst : InstanceState), src.validateInstanceTransition dst = true →
      Op.Checked (.write (.writeInstanceState i src dst)) := fun _ _ _ hval => hval
  refine issues_reconcile hO (issues_reconcileNodeHeartbeats hO fun _ _ _ => trivial)
    (issues_reconcileVolumes hO (fun _ _ => trivial) (fun _ _ => trivial) (fun _ _ => trivial) fun _ => trivial)
    (issues_reconcileDesiredCount hO fun _ _ => trivial) ?_ ?_ ?_ ?_ ?_ ?_ ?_
  · intro _ x
    exact issues_scheduleInstance hO (fun _ _ hval => hval) (fun _ _ _ _ => trivial) fun src => hst x.1 src _
  · intro x
    exact issues_provisionInstance hO (fun src dst hval _ => hst x.1 src dst hval) (fun _ _ _ => trivial)
      (fun _ => trivial) (fun _ => trivial) (fun _ => trivial) (fun _ _ _ => trivial) fun _ => trivial
  · intro x
    exact issues_startInstance hO (fun src dst hval _ => hst x.1 src dst hval) fun _ => trivial
  · intro x
    exact issues_handleFailedInstance hO (fun _ => trivial) (fun _ => trivial) trivial
      (fun src => hst x.1 src _) trivial
      fun _ => trivial
  · intro x
    exact issues_inspectInstance hO (fun _ => trivial) (fun _ => trivial) trivial
      (fun src dst hval _ => hst x.1 src dst hval) (fun _ => trivial) fun _ => trivial
  · intro x
    exact issues_handleDegradedInstance hO (fun _ => trivial) (fun _ => trivial) trivial
      (fun src dst hval _ => hst x.1 src dst hval) fun _ => trivial
  · intro x
    exact issues_stopInstance hO (fun _ => trivial) (fun _ => trivial) trivial
      (fun src => hst x.1 src _) (fun _ => trivial) fun _ => trivial

theorem Caller.issues_checked (cfg : Config F) (c : Caller) : Issues Op.Checked (c.program cfg) := by
  cases c with
  | reconcile => exact (issues_checked_reconcile cfg).attempt
  | updateInstanceState =>
    exact (issues_updateInstanceState (fun _ => Op.checked_of_isQuiet) fun _ hval => hval).attempt

abbrev Server := Pool World Op Op.Ans Unit

namespace Server

def step (cfg : Config F) : Server → Move Caller Env → Option Server := Pool.step act (Caller.program cfg)

/-- **What a move must meet.** -/
def RetriesFailed (s : Server) : Move Caller Env → Prop
  | .start _ => True
  | .step k env => ∀ op ∈ s.issued (.step k env : Move Caller Env), op.RetriesFailed env s.shared.tables

instance (s : Server) (m : Move Caller Env) : Decidable (s.RetriesFailed m) := by
  unfold RetriesFailed
  split <;> infer_instance

variable {cfg : Config F} {m : Move Caller Env}

theorem step_lawful_iff {s s' : Server} (hs : ∀ p ∈ s.threads, p.Issues Op.Checked)
    (hstep : step cfg s m = some s') : s.shared.tables.Lawful s'.shared.tables ↔ s.RetriesFailed m := by
  rcases Pool.step_shared act (Caller.program cfg) hstep with ⟨hiss, hsame⟩ | ⟨k, _, op, rfl, hiss, hsh⟩
  · rw [hsame]
    refine iff_of_true (fun i row hrow => ⟨row, hrow, .inl rfl⟩) ?_
    cases m with
    | start => trivial
    | step =>
      intro op hop
      rw [hiss] at hop
      cases hop
  · rw [hsh, act_lawful_iff (Pool.issued_mem hs hiss)]
    constructor
    · intro hretries _ hop'
      rw [hiss] at hop'
      cases hop'
      exact hretries
    · intro hretries
      exact hretries op hiss

theorem retriesFailed_of_stuck {s : Server} (h : step cfg s m = none) : s.RetriesFailed m := by
  cases m with
  | start => trivial
  | step k =>
    intro _ hop
    rcases hth : s.threads[k]? with _ | (a | ⟨op', rest⟩)
    · simp [Pool.issued, hth] at hop
    · simp [Pool.issued, hth] at hop
    · simp [step, Pool.step, hth] at h

end Server

/-- **The life cycle is followed** throughout a run. -/
structure FollowsLifecycle (cfg : Config F) (s : Server) (ms : List (Move Caller Env)) : Prop where
  allowed : ∀ pre m post u v, ms = pre ++ m :: post → exec (Server.step cfg) s pre = some u →
    Server.step cfg u m = some v → u.shared.tables.Lawful v.shared.tables
  terminated : ∀ pre mid post u v, ms = pre ++ mid ++ post → exec (Server.step cfg) s pre = some u →
    exec (Server.step cfg) u mid = some v → ∀ i row, u.shared.tables.instances.lookup i = some row →
      row.state = .terminated → ∃ row', v.shared.tables.instances.lookup i = some row' ∧ row'.state = .terminated

theorem followsLifecycle_of_lawful {cfg : Config F} {s : Server} {ms : List (Move Caller Env)}
    (h : ∀ pre m post u v, ms = pre ++ m :: post → exec (Server.step cfg) s pre = some u →
      Server.step cfg u m = some v → u.shared.tables.Lawful v.shared.tables) : FollowsLifecycle cfg s ms := by
  refine ⟨h, ?_⟩
  rintro pre _ post u v rfl hu hv i row hrow hterm
  refine exec_between (I := fun x : Server => ∃ row', x.shared.tables.instances.lookup i = some row' ∧
    row'.state = .terminated) h ?_ hu ⟨row, hrow, hterm⟩ hv
  rintro x y ⟨row1, hrow1, hst1⟩ hlaw
  obtain ⟨row2, hrow2, hmay⟩ := hlaw i row1 hrow1
  refine ⟨row2, hrow2, ?_⟩
  rcases hmay with hsame | hval
  · rw [hsame, hst1]
  · rw [hst1, InstanceState.not_validate_terminated] at hval
    cases hval

/-- **The life cycle is followed exactly if retries meet failed instances.** -/
theorem follows_lifecycle_iff (cfg : Config F) (w : World) (ms : List (Move Caller Env)) :
    FollowsLifecycle cfg ⟨w, []⟩ ms ↔ Meets (Server.step cfg) Server.RetriesFailed ⟨w, []⟩ ms := by
  have hths : ∀ pre u, exec (Server.step cfg) ⟨w, []⟩ pre = some u → ∀ p ∈ u.threads, p.Issues Op.Checked := by
    intro pre u hu
    refine exec_invariant (I := fun x : Server => ∀ p ∈ x.threads, p.Issues Op.Checked) ?_ (by simp) hu
    intro x m y hx hstep
    exact Pool.step_issues (Caller.issues_checked cfg) hx hstep
  constructor
  · intro h pre m post u hms hu
    cases hv : Server.step cfg u m with
    | none => exact Server.retriesFailed_of_stuck hv
    | some v => exact (Server.step_lawful_iff (hths pre u hu) hv).1 (h.allowed pre m post u v hms hu hv)
  · intro h
    apply followsLifecycle_of_lawful
    intro pre m post u v hms hu hv
    exact (Server.step_lawful_iff (hths pre u hu) hv).2 (h pre m post u hms hu)

namespace Sample

def config : Config ℚ where
  adapters := fun _ => some (lit "mock")
  classDrivers := fun _ => some (lit "local")
  weights := defaultWeights
  catalog := false
  nodeTTL := 90 * second

def web (policy : Bytes) (maximumAttempts : ℤ) (mounts : List ServiceVolumeMount) : Service where
  manifest :=
    { nspace := lit "d"
      name := lit "web"
      spec :=
        { artifact := ⟨lit "ocelot", []⟩
          runtime := lit "mock"
          resources := ⟨2, 512, ⟨false, 0, 0⟩⟩
          placement := ⟨[], [], [], [], []⟩
          restart := ⟨policy, maximumAttempts⟩
          mounts } }
  desiredCount := 1

def inState (state : InstanceState) : ServiceInstance :=
  { Tables.newInstanceRow calm 1 (lit "vs://d/web/0") with state, updatedAt := 0 }

def deployed (svc : Service) (inst : ServiceInstance) : Tables := { Tables.empty with
    services := ⟨[(1, svc)], List.nodup_singleton _⟩
    instances := ⟨[(lit "i1", inst)], List.nodup_singleton _⟩ }

def justListed : List (Move Caller Env) := .start .reconcile :: List.replicate 14 (.step 0 calm)

def meanwhile : List (Move Caller Env) :=
  [.start (.updateInstanceState (lit "i1") .terminated), .step 1 calm, .step 1 calm]

def goesOn : List (Move Caller Env) := List.replicate 5 (.step 0 calm)

end Sample

/-- The instance was terminated, and is declared again. -/
theorem terminated_is_declared : ¬ FollowsLifecycle config
      ⟨⟨deployed (web (lit "on-failure") 0 []) (inState .failed), []⟩, []⟩
      (justListed ++ meanwhile ++ goesOn) := by
  intro hfols
  obtain ⟨u, hu, ⟨row, hrow, hterm⟩, v, hv, haft⟩ : ∃ u, exec (Server.step config)
          ⟨⟨deployed (web (lit "on-failure") 0 []) (inState .failed), []⟩, []⟩
          (justListed ++ meanwhile) = some u ∧
        (∃ row, u.shared.tables.instances.lookup (lit "i1") = some row ∧ row.state = .terminated) ∧
        ∃ v, exec (Server.step config) u goesOn = some v ∧
          (v.shared.tables.instances.lookup (lit "i1")).map ServiceInstance.state = some .declared := by
    decide +kernel
  obtain ⟨_, hrow', hst⟩ := hfols.terminated _ goesOn [] u v (by simp) hu hv _ row hrow hterm
  rw [hrow', Option.map_some, hst] at haft
  cases haft

end Ocelot.VirtualServer
