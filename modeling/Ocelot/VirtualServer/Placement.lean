/-
# A placed instance holds its resources.

It does between passes, if every step is granted what it asks for: the scheduler stores the node
before it allocates, and an instance whose allocation is refused stays scheduled.
-/
import Ocelot.VirtualServer.Lifecycle
import Ocelot.VirtualServer.Passes

namespace Ocelot.VirtualServer

open Tables Option List Sample
open Tracker (Bytes lit)
open Prog (Issues Wp)

/-! ## Placed instances -/

def InstanceState.isPlaced : InstanceState → Bool
  | scheduled | provisioning | starting | running | degraded | stopping => true
  | declared | failed | terminated => false

namespace Tables

def Holds (t : Tables) (i : InstanceID) (row : ServiceInstance) : Prop :=
  ∃ svc a, t.services.lookup row.serviceID = some svc ∧ t.activeAllocation i = some a ∧ a.nodeID = row.nodeID ∧
    a.cpuThreads = svc.manifest.spec.resources.cpuThreads ∧ a.ramMiB = svc.manifest.spec.resources.ramMiB

/-- **Every placed instance holds its resources.** -/
def Placed (t : Tables) : Prop :=
  ∀ i row, t.instances.lookup i = some row → row.state.isPlaced = true → t.Holds i row

def PlacedBut (t : Tables) (i : InstanceID) : Prop :=
  ∀ j row, j ≠ i → t.instances.lookup j = some row → row.state.isPlaced = true → t.Holds j row

theorem Placed.but {t : Tables} (h : t.Placed) (i : InstanceID) : t.PlacedBut i := fun j row _ => h j row

theorem PlacedBut.placed {t : Tables} {i : InstanceID} (h : t.PlacedBut i)
    (hi : ∀ row, t.instances.lookup i = some row → row.state.isPlaced = true → t.Holds i row) : t.Placed := by
  intro j row hrow hpl
  by_cases hj : j = i
  · subst hj
    exact hi row hrow hpl
  · exact h j row hj hrow hpl

theorem Holds.congr {t t' : Tables} {i : InstanceID} {row row' : ServiceInstance} (h : t.Holds i row)
    (hsvcs : t'.services = t.services) (halloc : t'.allocations.lookup i = t.allocations.lookup i)
    (hservice : row'.serviceID = row.serviceID) (hnode : row'.nodeID = row.nodeID) : t'.Holds i row' := by
  obtain ⟨svc, a, hsvc, ha, hrest⟩ := h
  refine ⟨svc, a, by rw [hsvcs, hservice]; exact hsvc, ?_, by rw [hnode]; exact hrest⟩
  unfold activeAllocation at ha ⊢
  rw [halloc]
  exact ha

end Tables

def Op.keepsPlaced : Op → Bool
  | .write (.releaseAllocation _) | .write (.writeAssignment _ _ _)
  | .write (.writeInstanceState _ _ .scheduled) => false
  | _ => true

theorem InstanceState.isPlaced_of_validate {src dst : InstanceState}
    (h : src.validateInstanceTransition dst = true)
    (hdst : dst ≠ .scheduled) (hpl : dst.isPlaced = true) : src.isPlaced = true := by
  revert h hdst hpl
  cases src <;> cases dst <;> decide

variable {env : Env} {op : Op} {w : World}

theorem placed_before (hcheck : op.Checked) (hop : op.keepsPlaced = true) {i : InstanceID}
    {row' : ServiceInstance} (hrow' : (act env op w).1.tables.instances.lookup i = some row')
    (hpl : row'.state.isPlaced = true) :
    ∃ row, w.tables.instances.lookup i = some row ∧ row.state.isPlaced = true ∧
      row'.serviceID = row.serviceID ∧ row'.nodeID = row.nodeID := by
  have heff := act_instanceEffect env op w i
  rw [hrow'] at heff
  generalize w.tables.instances.lookup i = pre at heff ⊢
  cases heff with
  | unchanged => exact ⟨row', rfl, hpl, rfl, rfl⟩
  | created | retried => cases hpl
  | moved row _ hwr =>
    subst hwr
    refine ⟨row, rfl, ?_, rfl, rfl⟩
    refine InstanceState.isPlaced_of_validate hcheck ?_ hpl
    rintro rfl
    cases hop
  | assigned _ _ hwr =>
    subst hwr
    cases hop
  | stored row => exact ⟨row, rfl, hpl, rfl, rfl⟩

theorem lookup_allocations_of_active {i : InstanceID} {a : Allocation}
    (hop : op ≠ .write (.releaseAllocation i)) (ha : w.tables.activeAllocation i = some a) :
    (act env op w).1.tables.allocations.lookup i = w.tables.allocations.lookup i := by
  have hrow := (activeAllocation_eq_some.1 ha).1
  have heff := act_allocationEffect env op w i
  rw [hrow] at heff ⊢
  generalize (act env op w).1.tables.allocations.lookup i = after at heff ⊢
  cases heff with
  | unchanged => rfl
  | freed _ hwr => exact absurd hwr hop

theorem Op.ne_release_of_keepsPlaced (h : op.keepsPlaced = true) (i : InstanceID) :
    op ≠ .write (.releaseAllocation i) := by
  rintro rfl
  cases h

theorem Tables.Placed.step (h : w.tables.Placed) (hcheck : op.Checked)
    (hop : op.keepsPlaced = true) : (act env op w).1.tables.Placed := by
  intro j _ hrow' hpl'
  obtain ⟨row, hrow, hpl, hsvc, hnode⟩ := placed_before hcheck hop hrow' hpl'
  have hholds := h j row hrow hpl
  obtain ⟨_, a, -, ha, -⟩ := id hholds
  exact hholds.congr (services_act env op w)
    (lookup_allocations_of_active (op.ne_release_of_keepsPlaced hop j) ha) hsvc
    hnode

namespace Tables

instance (t : Tables) (i : InstanceID) (node : NodeID) (cpu ram : ℤ) : Decidable (t.Admits i node cpu ram) :=
  decidable_of_iff
    ((∃ row, t.nodes.lookup node = some row ∧ ram ≤ row.availRAMMiB ∧ (0 < cpu → cpu ≤ row.availCPUThreads)) ∧
      t.instances.lookup i ≠ none ∧ t.allocations.lookup i = none)
    ⟨fun h => ⟨h.1, h.2.1, h.2.2⟩, fun h => ⟨h.node, h.known, h.fresh⟩⟩

def isBare (t : Tables) (i : InstanceID) : Bool :=
  (t.instances.lookup i).any (fun row => row.state.isPlaced) && (t.activeAllocation i).isNone

end Tables

/-! ## Giving back -/

/-- **What a step must meet**: an allocation is granted, a process is found running, and an instance
that has given its resources back can be read and written. -/
def Granted (env : Env) (op : Op) (w : World) : Prop :=
  match op with
  | .write (.allocateResources i node cpu ram gpu) =>
    env.fails = false ∧ w.tables.Admits i node cpu ram ∧ gpu.any (w.tables.gpuAllocated env node) = false
  | .adapter (.inspect _) => env.fails = false ∧ env.up = true
  | .query (.getInstance i) | .write (.writeInstanceState i _ _) => w.tables.isBare i = true → env.fails = false
  | _ => True

instance (env : Env) (op : Op) (w : World) : Decidable (Granted env op w) := by
  unfold Granted
  split <;> infer_instance

structure GivingBack (i : InstanceID) (inst : ServiceInstance) (w : World) : Prop where
  others : w.tables.PlacedBut i
  row : w.tables.instances.lookup i = some inst
  own : w.tables.Holds i inst ∨ w.tables.activeAllocation i = none

variable {i : InstanceID} {inst : ServiceInstance} {w : World} {op : Op} {env : Env}

theorem Tables.Placed.givingBack (h : w.tables.Placed)
    (hrow : w.tables.instances.lookup i = some inst) (hpl : inst.state.isPlaced = true) : GivingBack i inst w :=
  ⟨h.but i, hrow, .inl (h i inst hrow hpl)⟩

def Op.givesBack (i : InstanceID) : Op → Bool
  | .write (.releaseAllocation j) => j = i
  | .write (.updateMountState _ _) | .write (.updateVolumeState _ _) => true
  | .write _ => false
  | _ => true

theorem Op.givesBack_of_isQuiet (h : op.isQuiet = true) : op.givesBack i = true := by
  cases op <;> first | rfl | cases h

theorem lookup_instances_of_givesBack (hop : op.givesBack i = true)
    (j : InstanceID) : (act env op w).1.tables.instances.lookup j = w.tables.instances.lookup j := by
  have heff := act_instanceEffect env op w j
  generalize (act env op w).1.tables.instances.lookup j = post, w.tables.instances.lookup j = pre at heff ⊢
  cases heff with
  | unchanged => rfl
  | created _ _ hwr | moved _ _ hwr | assigned _ _ hwr | stored _ _ hwr | retried _ hwr =>
    subst hwr
    cases hop

theorem GivingBack.step (h : GivingBack i inst w) (hop : op.givesBack i = true) :
    GivingBack i inst (act env op w).1 := by
  have hrows : ∀ j, (act env op w).1.tables.instances.lookup j = w.tables.instances.lookup j :=
    lookup_instances_of_givesBack hop
  have hsvcs := services_act env op w
  have hne : ∀ j, j ≠ i → op ≠ .write (.releaseAllocation j) := by
    rintro j hj rfl
    exact hj (of_decide_eq_true hop)
  refine ⟨fun j row hj hrow hpl => ?_, (hrows i).trans h.row, ?_⟩
  · rw [hrows] at hrow
    have hholds := h.others j row hj hrow hpl
    obtain ⟨_, a, -, ha, -⟩ := id hholds
    exact hholds.congr hsvcs (lookup_allocations_of_active (hne j hj) ha) rfl rfl
  · -- its own allocation is as it was, or is released
    have heff := act_allocationEffect env op w i
    generalize haft : (act env op w).1.tables.allocations.lookup i = post at heff
    generalize hbef : w.tables.allocations.lookup i = pre at heff
    cases heff with
    | unchanged =>
      rcases h.own with hholds | hnone
      · exact .inl (hholds.congr hsvcs (haft.trans hbef.symm) rfl rfl)
      · right
        unfold activeAllocation at hnone ⊢
        rw [haft, ← hbef]
        exact hnone
    | booked _ _ _ _ hwr =>
      subst hwr
      cases hop
    | freed =>
      right
      unfold activeAllocation
      rw [haft]
      rfl

theorem GivingBack.wp_leave {dst : InstanceState}
    (h : GivingBack i inst w) (hval : inst.state.validateInstanceTransition dst = true)
    (hdst : dst.isPlaced = false) :
    Wp act Granted (fun _ => True) (attempt (updateInstanceState i dst)) (fun _ u => u.tables.Placed) w := by
  -- an error of the database is only met while the resources are still held
  have hkept : ∀ env : Env, (w.tables.isBare i = true → env.fails = false) → env.fails = true →
      w.tables.Placed := by
    intro env hbare hfails
    refine h.others.placed fun row hrow hpl => ?_
    obtain rfl := mem_unique h.row hrow
    rcases h.own with hholds | hnone
    · exact hholds
    · have hisBare : w.tables.isBare i = true := by
        simp [isBare, h.row, hpl, hnone]
      rw [hbare hisBare] at hfails
      cases hfails
  refine wp_attempt (wp_updateInstanceState trivial ?_ ?_)
  · rintro e (hmiss | ⟨row, hrow, hillegal⟩ | ⟨env, hG, hfails⟩ | ⟨env, src, hG, hfails⟩)
    · rw [h.row] at hmiss
      cases hmiss
    · obtain rfl := mem_unique h.row hrow
      rw [hval] at hillegal
      cases hillegal
    · exact hkept env hG hfails
    · exact hkept env hG hfails
  · intro env row hrow _ _ _
    refine ⟨trivial, fun j row' hrow' hpl' => ?_⟩
    by_cases hj : j = i
    · subst hj
      rw [World.move, lookup_setInstance_self hrow] at hrow'
      cases hrow'
      rw [hdst] at hpl'
      cases hpl'
    · rw [World.move, lookup_setInstance_of_ne hj] at hrow'
      exact (h.others j row' hj hrow' hpl').congr rfl rfl rfl rfl

structure Unplaced (i : InstanceID) (w : World) : Prop where
  placed : w.tables.Placed
  own : ∀ row, w.tables.instances.lookup i = some row → row.state.isPlaced = false

def Op.unplaces (i : InstanceID) : Op → Bool
  | .write (.releaseAllocation j) | .write (.incrementRetryCount j) => j = i
  | .write (.writeInstanceState j src dst) => j = i && (src.validateInstanceTransition dst && !dst.isPlaced)
  | .write (.updateMountState _ _) | .write (.updateVolumeState _ _) => true
  | .write _ => false
  | _ => true

theorem unplaced_of_unplaces {j : InstanceID} {row' : ServiceInstance}
    (hop : op.unplaces i = true) (hrow' : (act env op w).1.tables.instances.lookup j = some row') :
    w.tables.instances.lookup j = some row' ∨ row'.state.isPlaced = false := by
  have heff := act_instanceEffect env op w j
  rw [hrow'] at heff
  generalize w.tables.instances.lookup j = pre at heff ⊢
  cases heff with
  | unchanged => exact .inl rfl
  | created | retried => exact .inr rfl
  | moved _ _ hwr =>
    subst hwr
    simp only [Op.unplaces, Bool.and_eq_true, Bool.not_eq_true'] at hop
    exact .inr hop.2.2
  | assigned _ _ hwr | stored _ _ hwr =>
    subst hwr
    cases hop

theorem Unplaced.step (h : Unplaced i w) (hop : op.unplaces i = true) : Unplaced i (act env op w).1 := by
  constructor
  · intro j row hrow hpl
    rcases unplaced_of_unplaces hop hrow with hbef | hunpl
    · have hj : op ≠ .write (.releaseAllocation j) := by
        rintro rfl
        rw [of_decide_eq_true hop] at hbef
        rw [h.own row hbef] at hpl
        cases hpl
      have hholds := h.placed j row hbef hpl
      obtain ⟨_, a, -, ha, -⟩ := id hholds
      exact hholds.congr (services_act env op w) (lookup_allocations_of_active hj ha) rfl rfl
    · rw [hunpl] at hpl
      cases hpl
  · intro row hrow
    rcases unplaced_of_unplaces hop hrow with hbef | hunpl
    · exact h.own row hbef
    · exact hunpl

/-! ## The handlers -/

section

variable {F : Type} {cfg : Config F} {i : InstanceID} {inst : ServiceInstance} {w : World}
  {dst : InstanceState} {env : Env} {node : NodeID} {gpu : Option ℤ}

theorem GivingBack.wp_giveBack (h : GivingBack i inst w)
    (hval : inst.state.validateInstanceTransition dst = true) (hdst : dst.isPlaced = false) :
    Wp act Granted (fun _ => True) (do
      teardownMounts cfg i
      attempt (write (.releaseAllocation i))
      attempt (updateInstanceState i dst)) (fun _ u => u.tables.Placed) w := by
  have hquiet : ∀ op : Op, op.isQuiet = true → op.givesBack i = true := fun op => Op.givesBack_of_isQuiet
  have hgives : ∀ {p : Program Unit} {u : World}, p.Issues (fun op => op.givesBack i = true) →
    GivingBack i inst u →
      Wp act Granted (fun _ => True) p (fun _ => GivingBack i inst) u := by
    intro p u hp hu
    exact .of_issues hp (fun _ op v _ hop hv => hv.step hop) (fun _ _ => trivial) hu
  refine .seq ((hgives (issues_teardownMounts hquiet (fun _ => rfl) fun _ => rfl) h).mono fun _ u hu => ?_)
  refine .seq ((hgives (issues_write (decide_eq_true rfl)).attempt hu).mono fun _ v hv => ?_)
  exact hv.wp_leave hval hdst

theorem wp_placed {α : Type} {p : Program α} (hp : p.Issues fun op => op.Checked ∧ op.keepsPlaced = true)
    (h : w.tables.Placed) : Wp act Granted (fun _ => True) p (fun _ u => u.tables.Placed) w :=
  Wp.of_issues hp (fun _ _ _ _ hop hu => hu.step hop.1 hop.2) (fun _ _ => trivial) h

private theorem placed_quiet (op : Op) (h : op.isQuiet = true) : op.Checked ∧ op.keepsPlaced = true := by
  cases op with
  | write | adapter => cases h
  | now | query | driver | lookup => exact ⟨trivial, rfl⟩

theorem act_allocateResources {cpu ram : ℤ} (h : Granted env (.write (.allocateResources i node cpu ram gpu)) w) :
    ∃ t', w.tables.Booked t' env i node cpu ram gpu ∧
      act env (.write (.allocateResources i node cpu ram gpu)) w = ({ w with tables := t' }, .ok ()) := by
  obtain ⟨hok, hadmits, hgpu⟩ := h
  rcases exec_allocateResources hok w.tables i node cpu ram gpu with ⟨t', hexec, -, -, hbook⟩ | ⟨-, href⟩
  · refine ⟨t', hbook, ?_⟩
    simp only [act, hexec, Write.events, append_nil]
  · exact absurd ⟨hadmits, hgpu⟩ href

theorem placed_of_booked {row : ServiceInstance} {svc : Service} {env' : Env}
    {t' : Tables} (h : w.tables.Placed) (hrow : w.tables.instances.lookup i = some row)
    (hsvc : w.tables.services.lookup row.serviceID = some svc)
    (hbook : (w.assign env i node).tables.Booked t' env' i node svc.manifest.spec.resources.cpuThreads
      svc.manifest.spec.resources.ramMiB gpu) : t'.Placed := by
  have halls := hbook.lookup_allocations
  obtain ⟨_, -, rfl⟩ := hbook
  intro j row' hrow' hpl'
  have hrow'' : (w.assign env i node).tables.instances.lookup j = some row' := hrow'
  by_cases hj : j = i
  · subst hj
    rw [World.assign, lookup_setInstance_self hrow] at hrow''
    cases hrow''
    refine ⟨svc, newAllocation env' node _ _ gpu, hsvc, ?_, rfl, rfl, rfl⟩
    rw [activeAllocation_eq_some, halls, if_pos rfl]
    exact ⟨rfl, rfl⟩
  · rw [World.assign, lookup_setInstance_of_ne hj] at hrow''
    refine (h j row' hrow'' hpl').congr rfl ?_ rfl rfl
    rw [halls, if_neg hj]
    rfl

private theorem unplaces_quiet (op : Op) (h : op.isQuiet = true) : op.unplaces i = true := by
  cases op <;> first | rfl | cases h

private theorem issues_placed_update {x : InstanceID} (hdst : dst ≠ .scheduled) :
    Issues (fun op => op.Checked ∧ op.keepsPlaced = true) (attempt (updateInstanceState x dst)) := by
  refine (issues_updateInstanceState placed_quiet fun _ hval => ⟨hval, ?_⟩).attempt
  cases dst with
  | scheduled => exact absurd rfl hdst
  | _ => rfl

theorem keeps_placed [Float64 F] (cfg : Config F) :
    Keeps cfg Granted (fun w => w.tables.Placed) fun _ => True where
  during _ _ := trivial
  background env op w _ hop h := by
    refine h.step ?_ ?_
    · cases op with
      | write wr => cases wr <;> trivial
      | now | query | adapter | driver | lookup => trivial
    · cases op with
      | write wr => cases wr <;> first | rfl | cases hop
      | now | query | adapter | driver | lookup => rfl
  schedule nodes i inst w h hrow _ := by
    refine wp_scheduleInstance hrow trivial (fun _ => h) (fun _ _ _ => trivial) fun _ _ _ _ _ _ hsvc
      hgrant => ⟨trivial, ?_⟩
    obtain ⟨_, hbook, hact⟩ := act_allocateResources hgrant
    rw [hact]
    exact placed_of_booked h hrow hsvc hbook
  provision i inst w h _ _ := by
    refine wp_placed (issues_provisionInstance placed_quiet (fun _ _ hval hdst => ⟨hval, ?_⟩)
      (fun _ _ _ => ⟨trivial, rfl⟩) (fun _ => ⟨trivial, rfl⟩) (fun _ => ⟨trivial, rfl⟩) (fun _ => ⟨trivial, rfl⟩)
      (fun _ _ _ => ⟨trivial, rfl⟩) fun _ => ⟨trivial, rfl⟩) h
    rcases hdst with rfl | rfl <;> rfl
  start i inst w h _ _ := by
    refine wp_placed (issues_startInstance placed_quiet (fun _ _ hval hdst => ⟨hval, ?_⟩) fun _ =>
      ⟨trivial, rfl⟩) h
    rcases hdst with rfl | rfl | rfl <;> rfl
  failed i inst w h hrow hst := by
    have hunpl : Unplaced i w := by
      refine ⟨h, fun _ hrow' => ?_⟩
      obtain rfl := mem_unique hrow hrow'
      rw [hst]
      rfl
    have hiss : Issues (fun op => op.unplaces i = true) (handleFailedInstance cfg (i, inst)) := by
      refine issues_handleFailedInstance unplaces_quiet (fun _ => rfl) (fun _ => rfl)
        (decide_eq_true rfl) ?_ (decide_eq_true rfl) fun _ => rfl
      intro _ hval
      simp [Op.unplaces, hval, InstanceState.isPlaced]
    exact (Wp.of_issues hiss (fun _ _ _ _ hop hu => hu.step hop) (fun _ _ => trivial) hunpl).mono
      fun _ _ hu => hu.placed
  inspect i inst w h _ _ := by
    refine wp_withAdapter trivial (fun _ => h) fun _ ad _ _ => wp_ask (fun _ => rfl) trivial fun env hgrant => ?_
    have hup : (AdapterCall.inspect (handleOf ad (i, inst))).answer env = .ok true := by
      show env.reply env.up = .ok true
      simp [Env.reply, hgrant.1, hgrant.2]
    rw [hup]
    refine wp_placed (.perform ⟨trivial, rfl⟩ fun (ans : Except Bytes Bool) => ?_) h
    rcases ans with e | (_ | _)
    · exact issues_placed_update (by decide)
    · exact issues_placed_update (by decide)
    · exact .ret _
  degraded i inst w h hrow hst := by
    have hgiving : GivingBack i inst w := by
      refine h.givingBack hrow ?_
      rw [hst]
      rfl
    have hval : inst.state.validateInstanceTransition .failed = true := by
      rw [hst]
      rfl
    refine wp_withAdapter trivial (fun _ => h) fun _ ad _ _ => wp_ask (fun _ => rfl) trivial fun env _ => ?_
    rcases hans : (AdapterCall.health (handleOf ad (i, inst))).answer env with e | (_ | _)
    · exact wp_now trivial fun t => .ite (fun _ => h) fun _ => hgiving.wp_giveBack hval rfl
    · exact wp_now trivial fun t => .ite (fun _ => h) fun _ => hgiving.wp_giveBack hval rfl
    · exact wp_placed (issues_placed_update (by decide)) h
  stop i inst w h hrow hst := by
    refine wp_withAdapter trivial (fun _ => h) fun _ ad _ _ => ?_
    refine .seq (wp_attempt (.perform fun env _ => ⟨trivial, ?_⟩))
    refine .seq (wp_attempt (.perform fun env' _ => ⟨trivial, ?_⟩))
    have hgiving : GivingBack i inst (act env' (.adapter (.destroy (handleOf ad (i, inst))))
        (act env (.adapter (.stop (handleOf ad (i, inst)))) w).1).1 := by
      refine Placed.givingBack h hrow ?_
      rw [hst]
      rfl
    refine hgiving.wp_giveBack ?_ rfl
    rw [hst]
    rfl

end

namespace Reconciler

variable {F : Type} [Float64 F]

/-- **Between passes, every placed instance holds its resources**, in every run of whole passes
whose steps are granted what they ask for. -/
theorem placed_of_granted (cfg : Config F) {w : World} {s : Reconciler} {ls : List (Turn Unit Env)}
    (hw : w.tables.Placed)
    (hmeets : Run.Meets (step cfg) (Worker.Guarded Granted fun _ => False) ⟨w, none⟩ ls)
    (hrun : Run.exec (step cfg) ⟨w, none⟩ ls = some s) (hidle : s.isIdle = true) : s.shared.tables.Placed :=
  (exec_keeps (keeps_placed cfg) (fun _ _ hstop => hstop.elim) hw hmeets hrun).2 hidle

end Reconciler

namespace Sample

def contested (ram : ℤ) : Tables := { empty with
    nodes := ⟨[(lit "n1", { host.toNodeRow with availRAMMiB := ram, availCPUThreads := 8 })], nodup_singleton _⟩
    services := ⟨[(1, { web (lit "never") 0 [] with desiredCount := 2 })], nodup_singleton _⟩
    instances := ⟨[(lit "i1", inState .declared), (lit "i2", inState .declared)], by decide +kernel⟩ }

theorem placed_contested (ram : ℤ) : (contested ram).Placed := by
  intro i _ hrow hpl
  have hmem := Table.lookup_eq_some_iff.1 hrow
  simp only [contested, mem_cons, Prod.mk.injEq, not_mem_nil, or_false] at hmem
  rcases hmem with ⟨-, rfl⟩ | ⟨-, rfl⟩ <;> cases hpl

def smooth (n : ℕ) : List (Turn Unit Env) := .begin () :: replicate n (.step calm)

end Sample

namespace Reconciler

/-- There is room for one of two instances, and at the end of a pass both run. -/
theorem scheduled_without_allocation : ∃ w ls s, w.tables.Placed ∧ Turn.stop ∉ ls ∧
    Run.exec (step config) ⟨w, none⟩ ls = some s ∧ s.isIdle = true ∧ ¬ s.shared.tables.Placed := by
  obtain ⟨s, hrun, hidle, hbare⟩ : ∃ s, Run.exec (step config) ⟨⟨contested 512, []⟩, none⟩ (smooth 56) =
      some s ∧ s.isIdle = true ∧ ∃ row, s.shared.tables.instances.lookup (lit "i2") = some row ∧
        row.state.isPlaced = true ∧ s.shared.tables.activeAllocation (lit "i2") = none := by decide +kernel
  obtain ⟨row, hrow, hpl, hnone⟩ := hbare
  refine ⟨_, _, s, placed_contested 512, by simp [smooth], hrun, hidle, fun hall => ?_⟩
  obtain ⟨_, a, -, ha, -⟩ := hall _ row hrow hpl
  rw [hnone] at ha
  cases ha

theorem placed_contested_pass : ∃ s, Run.exec (step config) ⟨⟨contested 1024, []⟩, none⟩ (smooth 55) =
    some s ∧ s.isIdle = true ∧ s.shared.tables.Placed := by
  refine Run.ends_and (by decide +kernel) fun s hrun hidle => ?_
  exact placed_of_granted config (placed_contested 1024) (by decide +kernel) hrun hidle

end Reconciler

end Ocelot.VirtualServer
