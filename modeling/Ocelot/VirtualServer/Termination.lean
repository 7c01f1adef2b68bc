/-
# A terminated instance holds nothing.
-/
import Ocelot.VirtualServer.Mounting
import Ocelot.VirtualServer.StartOrder

namespace Ocelot.VirtualServer

open Tables Option Sample Table AdapterCall Run
open Tracker (lit)
open Prog (Wp)

/-! ## Instances that ended -/

namespace Tables

def Holdless (t : Tables) (i : InstanceID) : Prop := t.activeAllocation i = none ∧ t.Unmounted i

instance (t : Tables) (i : InstanceID) : Decidable (t.Holdless i) :=
  decidable_of_iff (t.activeAllocation i = none ∧ ∀ x ∈ t.mounts.rows, x.2.instanceID = i → x.2.state = .released)
    ⟨fun h => ⟨h.1, fun m row hrow => h.2 (m, row) (lookup_eq_some_iff.1 hrow)⟩,
      fun h => ⟨h.1, fun x hx => h.2 x.1 x.2 (lookup_eq_some_iff.2 hx)⟩⟩

def isSpent (t : Tables) (row : ServiceInstance) : Bool :=
  (t.services.lookup row.serviceID).any fun svc => !svc.manifest.spec.restart.retries row.retryCount

def isDone (t : Tables) (row : ServiceInstance) : Bool :=
  row.state = .terminated || row.state = .failed && t.isSpent row

end Tables

/-- **Terminated instances hold nothing.** -/
def Ended (w : World) : Prop :=
  ∀ i row, w.tables.instances.lookup i = some row → row.state = .terminated → w.tables.Holdless i

def StoreOk (env : Env) (op : Op) (_ : World) : Prop := op.isStore = true → env.fails = false

instance (env : Env) (op : Op) (w : World) : Decidable (StoreOk env op w) :=
  inferInstanceAs (Decidable (op.isStore = true → env.fails = false))

/-- **What a step must meet**: the database does not fail, and an instance that fails, unless it was
degraded, may be retried or holds nothing. -/
def Parted (env : Env) (op : Op) (w : World) : Prop := StoreOk env op w ∧ match op with
    | .write (.writeInstanceState i src .failed) =>
      src ≠ .degraded → ∀ row ∈ w.tables.instances.lookup i, w.tables.isSpent row = true → w.tables.Holdless i
    | _ => True

instance (env : Env) (op : Op) (w : World) : Decidable (Parted env op w) := by
  unfold Parted
  refine @instDecidableAnd _ _ inferInstance ?_
  split <;> infer_instance

def BareAt (w : World) (i : InstanceID) : Prop :=
  ∀ row, w.tables.instances.lookup i = some row → w.tables.isDone row = true → w.tables.Holdless i

/-- **The invariant.** -/
structure Bare (w : World) : Prop where
  done : ∀ i, BareAt w i
  states : ∀ m row, w.tables.mounts.lookup m = some row → row.state.isUsed = true

theorem Bare.ended {w : World} (h : Bare w) : Ended w := by
  intro i row hrow hst
  exact h.done i row hrow (by simp [isDone, hst])

def Op.gives (i : InstanceID) (w : World) : Op → Prop
  | .write (.allocateResources j _ _ _ _) | .write (.bindMount _ j _ _) => j = i
  | .write (.updateMountState m dst) =>
    dst ≠ .released ∧ ∃ row, w.tables.mounts.lookup m = some row ∧ row.instanceID = i
  | _ => False

section

variable {env : Env} {op : Op} {w : World} {i : InstanceID} {inst : ServiceInstance}

theorem Tables.Holdless.act (h : w.tables.Holdless i) (hop : ¬ op.gives i w) :
    (act env op w).1.tables.Holdless i := by
  constructor
  · have heff := act_allocationEffect env op w i
    have hnone := h.1
    unfold activeAllocation at hnone ⊢
    generalize (VirtualServer.act env op w).1.tables.allocations.lookup i = post at heff ⊢
    generalize w.tables.allocations.lookup i = pre at heff hnone
    cases heff with
    | unchanged => exact hnone
    | booked _ _ _ _ hwr =>
      subst hwr
      exact absurd rfl hop
    | freed => rfl
  · intro m row' hrow' hi
    have heff := act_mountEffect env op w m
    rw [hrow'] at heff
    generalize hbef : w.tables.mounts.lookup m = pre at heff
    cases heff with
    | unchanged => exact h.2 m row' hbef hi
    | mounted _ _ _ _ hwr =>
      subst hwr
      exact absurd hi hop
    | moved row _ hwr =>
      subst hwr
      by_contra hne
      exact hop ⟨hne, row, hbef, hi⟩

theorem BareAt.act (h : BareAt w i) (hgives : ¬ op.gives i w)
    (hends : ∀ src dst, op = .write (.writeInstanceState i src dst) → dst ≠ .terminated ∧
    dst ≠ .failed) : BareAt (act env op w).1 i := by
  intro row' hrow' hdone'
  have heff := act_instanceEffect env op w i
  rw [hrow'] at heff
  generalize hbef : w.tables.instances.lookup i = pre at heff
  simp only [isDone, isSpent, services_act] at hdone'
  cases heff with
  | unchanged => exact (h row' hbef hdone').act hgives
  | created | assigned | retried => cases hdone'
  | moved row dst hwr =>
    obtain ⟨hterm, hfail⟩ := hends row.state dst hwr
    simp [hterm, hfail] at hdone'
  | stored row => exact (h row hbef hdone').act hgives

theorem states_act (h : ∀ m row, w.tables.mounts.lookup m = some row → row.state.isUsed = true)
    (hop : ∀ m dst, op = .write (.updateMountState m dst) → dst.isUsed = true) (m : MountID) (row : VolumeMount)
    (hrow : (act env op w).1.tables.mounts.lookup m = some row) : row.state.isUsed = true := by
  have heff := act_mountEffect env op w m
  rw [hrow] at heff
  generalize hbef : w.tables.mounts.lookup m = pre at heff
  cases heff with
  | unchanged => exact h m row hbef
  | mounted => rfl
  | moved _ dst hwr => exact hop m dst hwr

theorem Bare.set {f : ServiceInstance → ServiceInstance} (h : Bare w)
    (hrow : w.tables.instances.lookup i = some inst)
    (hf : w.tables.isDone (f inst) = true → w.tables.Holdless i) :
    Bare { w with tables := w.tables.setInstance i f } := by
  refine ⟨fun j row' hrow' hdone => ?_, h.states⟩
  by_cases hj : j = i
  · subst hj
    rw [lookup_setInstance_self hrow] at hrow'
    cases hrow'
    exact hf hdone
  · rw [lookup_setInstance_of_ne hj] at hrow'
    exact h.done j row' hrow' hdone

def Op.isGentle : Op → Bool
  | .write (.allocateResources _ _ _ _ _) | .write (.bindMount _ _ _ _)
  | .write (.writeInstanceState _ _ .terminated)
  | .write (.writeInstanceState _ _ .failed) => false
  | .write (.updateMountState _ dst) => dst = .released
  | _ => true

theorem Bare.act (h : Bare w) (hop : op.isGentle = true) : Bare (act env op w).1 := by
  constructor
  · intro j
    refine (h.done j).act ?_ ?_
    · intro hgives
      cases op with
      | write wr =>
        cases wr with
        | updateMountState => exact hgives.1 (of_decide_eq_true hop)
        | allocateResources | bindMount => cases hop
        | _ => cases hgives
      | now | query | adapter | driver | lookup => cases hgives
    · rintro _ dst rfl
      constructor <;> rintro rfl <;> cases hop
  · refine states_act h.states ?_
    rintro m dst rfl
    rw [of_decide_eq_true hop]
    rfl

end

/-! ## The handlers -/

section

variable {F : Type} {cfg : Config F} {w u : World} {i : InstanceID} {inst : ServiceInstance}

private theorem gentle_quiet (op : Op) (h : op.isQuiet = true) : op.isGentle = true := by
  cases op <;> first | rfl | cases h

theorem wp_gentle {α : Type} {p : Program α} (hp : p.Issues fun op => op.isGentle = true)
    (h : Bare w) : Wp act Parted Ended p (fun _ => Bare) w :=
  Wp.of_issues hp (fun _ _ _ _ hop hu => hu.act hop) (fun _ hu => hu.ended) h

theorem wp_moves {dst : InstanceState} (h : Bare w) (hend : dst ≠ .terminated) (hfail : dst ≠ .failed) :
    Wp act Parted Ended (attempt (updateInstanceState i dst)) (fun _ => Bare) w := by
  refine wp_gentle (issues_updateInstanceState gentle_quiet fun _ _ => ?_).attempt h
  cases dst with
  | terminated => exact absurd rfl hend
  | failed => exact absurd rfl hfail
  | _ => rfl

theorem wp_ends {dst : InstanceState} (h : Bare w) (hi : w.tables.Holdless i) :
    Wp act Parted Ended (attempt (updateInstanceState i dst)) (fun _ => Bare) w := by
  refine wp_attempt (wp_updateInstanceState h.ended (fun _ _ => h) fun env _ hrow _ _ _ => ?_)
  have hset : Bare (w.move env i dst) := h.set hrow fun _ => hi
  exact ⟨hset.ended, hset⟩

theorem wp_fails (h : Bare w) (hrow : w.tables.instances.lookup i = some inst) (hst : inst.state ≠ .degraded) :
    Wp act Parted Ended (attempt (updateInstanceState i .failed)) (fun _ => Bare) w := by
  refine wp_attempt (wp_updateInstanceState h.ended (fun _ _ => h) fun env _ hrow' _ hG _ => ?_)
  obtain rfl := mem_unique hrow hrow'
  have hset : Bare (w.move env i .failed) := by
    refine h.set hrow fun hdone => hG.2 hst inst hrow ?_
    simpa [isDone, isSpent] using hdone
  exact ⟨hset.ended, hset⟩

theorem holdless_act_releaseAllocation {env : Env} (hok : env.fails = false) (h : w.tables.Unmounted i) :
    (act env (.write (.releaseAllocation i)) w).1.tables.Holdless i := by
  have hact : (act env (.write (.releaseAllocation i)) w).1.tables = w.tables.releaseAllocation env i := by
    simp only [act, Write.exec_of_ok hok (w := .releaseAllocation i) rfl]
  rw [hact]
  rcases w.tables.releaseAllocation_cases env i with ⟨hnone, hsame⟩ | ⟨a, ha, hfreed⟩
  · rw [hsame]
    exact ⟨hnone, h⟩
  · constructor
    · rw [activeAllocation, hfreed.lookup_allocations, (activeAllocation_eq_some.1 ha).1]
      simp [Allocation.isActive]
    · rw [hfreed]
      exact h

theorem wp_giveBack {p : Program Unit} (h : Bare w) (hrow : w.tables.instances.lookup i = some inst)
    (hp : ∀ u, Bare u → u.tables.instances.lookup i = some inst → u.tables.Holdless i →
      Wp act Parted Ended p (fun _ => Bare) u) : Wp act Parted Ended (do
      teardownMounts cfg i
      attempt (write (.releaseAllocation i))
      p) (fun _ => Bare) w := by
  have hteardown : Wp act Parted Ended (teardownMounts cfg i)
      (fun _ u => (Bare u ∧ u.tables.instances.lookup i = some inst) ∧ u.tables.Unmounted i) w := by
    refine wp_teardownMounts (fun _ _ _ hG => hG.1) (fun _ hu => hu.1.ended)
      (fun env op u _ hop hu => ?_) h.states ⟨h, hrow⟩
    have haside : op.isAside = true ∧ op.isGentle = true := by
      cases op with
      | write wr =>
        cases wr with
        | updateMountState _ dst => cases dst <;> first | exact ⟨rfl, rfl⟩ | cases hop
        | _ => first | exact ⟨rfl, rfl⟩ | cases hop
      | adapter => cases hop
      | now | query | driver | lookup => exact ⟨rfl, rfl⟩
    refine ⟨hu.1.act haside.2, ?_⟩
    rw [(.act ⟨rfl, rfl, rfl⟩ haside.1 : Beside u (act env op u).1).instances]
    exact hu.2
  refine .seq (hteardown.mono fun _ u hu => .seq (wp_attempt fun env hG => ?_))
  have hbare : Bare (act env (.write (.releaseAllocation i)) u).1 := hu.1.1.act rfl
  refine ⟨hbare.ended, hp _ hbare ?_ (holdless_act_releaseAllocation (hG.1 rfl) hu.2)⟩
  rw [(.act ⟨rfl, rfl, rfl⟩ rfl : Beside u (act env (.write (.releaseAllocation i)) u).1).instances]
  exact hu.1.2

structure Mounted (i : InstanceID) (w : World) : Prop where
  bare : Bare w
  row : ∃ row, w.tables.instances.lookup i = some row ∧ row.state = .provisioning

theorem Mounted.act {env : Env} {op : Op} (h : Mounted i w) (hop : op.mounts i w) :
    Mounted i (act env op w).1 := by
  obtain ⟨row, hrow, hst⟩ := h.row
  have hmounts : op.isAside = true ∧ (∀ m dst, op = .write (.updateMountState m dst) →
      dst = .active) ∧ ∀ j, op.gives j w → j = i := by
    unfold Op.mounts at hop
    split at hop
    · exact ⟨rfl, fun m dst hwr => (by cases hwr), fun j hgives => hgives.symm.trans hop⟩
    · refine ⟨rfl, fun m dst hwr => (by cases hwr; rfl), fun j hgives => ?_⟩
      obtain ⟨-, row1, hrow1, rfl⟩ := hgives
      obtain ⟨_, hrow2, rfl⟩ := hop
      rw [mem_unique hrow1 hrow2]
    · exact ⟨rfl, fun m dst hwr => (by cases hwr), fun j hgives => hgives.elim⟩
    · exact ⟨rfl, fun m dst hwr => (by cases hwr), fun j hgives => hgives.elim⟩
    · exact hop.elim
  obtain ⟨haside, hact, hgives⟩ := hmounts
  have hrow' : (VirtualServer.act env op w).1.tables.instances.lookup i = some row := by
    rw [(Beside.act ⟨rfl, rfl, rfl⟩ haside : Beside w (VirtualServer.act env op w).1).instances]
    exact hrow
  refine ⟨⟨fun j => ?_, states_act h.bare.states fun m dst hwr => by rw [hact m dst hwr]; rfl⟩, row, hrow', hst⟩
  by_cases hj : j = i
  · subst hj
    intro row1 hrow1 hdone
    obtain rfl := mem_unique hrow' hrow1
    simp [isDone, hst] at hdone
  · refine (h.bare.done j).act (fun hg => hj (hgives j hg)) ?_
    rintro _ dst rfl
    cases haside

theorem wp_handleFailedInstance_bare (h : Bare w)
    (hrow : w.tables.instances.lookup i = some inst) (hst : inst.state = .failed) :
    Wp act Parted Ended (handleFailedInstance cfg (i, inst)) (fun _ => Bare) w := by
  refine wp_handleFailedInstance h.ended h (fun svc _ _ => ?_) fun svc hsvc hretries => ?_
  · refine wp_gentle ?_ h
    refine .bind (issues_teardownMounts gentle_quiet (fun _ => rfl) fun _ => rfl) fun _ => ?_
    exact .bind (.attempt (.call rfl fun _ => .ret _)) fun _ => .attempt (.call rfl fun _ => .ret _)
  · -- it may not be retried, so it holds nothing
    have hi : w.tables.Holdless i := by
      refine h.done i inst hrow ?_
      have hretries' : svc.manifest.spec.restart.retries inst.retryCount = false := hretries
      have hsvc' : w.tables.services.lookup inst.serviceID = some svc := hsvc
      simp [isDone, isSpent, hst, hsvc', hretries']
    have hdestr : Wp act Parted Ended (destroyInstance cfg svc (i, inst)) (fun _ u => u.tables = w.tables) w := by
      refine .of_issues (O := fun op => ∃ c, op = .adapter c) (issues_destroyInstance fun _ => ⟨_, rfl⟩) ?_ ?_ rfl
      · rintro _ op u - ⟨c, rfl⟩ hu
        exact hu
      · intro u hu
        unfold Ended
        rw [hu]
        exact h.ended
    refine .seq (hdestr.mono fun _ u hu => ?_)
    have hu' : Bare u := by
      refine ⟨fun j => ?_, ?_⟩
      · unfold BareAt
        rw [hu]
        exact h.done j
      · rw [hu]
        exact h.states
    exact wp_ends hu' (hu ▸ hi)

theorem keeps_bare [Float64 F] (cfg : Config F) : Keeps cfg Parted Bare Ended where
  during w h := h.ended
  background env op w _ hop h := by
    refine h.act ?_
    cases op with
    | write wr => cases wr <;> first | rfl | cases hop
    | adapter => cases hop
    | now | query | driver | lookup => rfl
  schedule nodes i inst w h hrow _ := by
    have hasg : ∀ env node, Bare (w.assign env i node) := fun env node => h.set hrow fun hdone => by cases hdone
    refine wp_scheduleInstance hrow h.ended (fun _ => h) (fun env node _ => (hasg env node).ended) ?_
    intro env node env' svc gpu _ _ _
    have hall : Bare (act env' (allocationOf i node svc gpu) (w.assign env i node)).1 := by
      refine ⟨fun j => ?_, states_act (hasg env node).states fun m dst hwr => by cases hwr⟩
      by_cases hj : j = i
      · -- it is scheduled
        subst hj
        intro _ hrow' hdone
        rw [(Beside.act ⟨rfl, rfl, rfl⟩ rfl : Beside (w.assign env j node) _).instances,
          World.assign, lookup_setInstance_self hrow] at hrow'
        cases hrow'
        cases hdone
      · exact ((hasg env node).done j).act (fun hgives => hj hgives.symm) fun _ dst hwr => by cases hwr
    exact ⟨hall.ended, hall⟩
  provision i inst w h hrow _ := by
    refine wp_provisionInstance (K := fun _ _ u => Mounted i u) hrow h.ended (fun _ => h) ?_ ?_ ?_
    · intro env _ _
      have hmv : Mounted i (w.move env i .provisioning) :=
        ⟨h.set hrow fun hdone => (by cases hdone), _, lookup_setInstance_self hrow _, rfl⟩
      refine ⟨hmv.bare.ended, ?_⟩
      exact (wp_resolveMounts (fun u hu => hu.bare.ended) (fun _ _ _ _ hop _ hu => hu.act hop) _
        hmv).mono fun _ _ hu => hu.1
    · intro env _ u hu _
      obtain ⟨row, hrow', hst⟩ := hu.row
      refine ⟨hu.bare.ended, wp_fails hu.bare hrow' ?_⟩
      rw [hst]
      decide
    · intro env _ u env' _ _ _ hu _ _ _ _
      have hmark : Bare (u.mark (.provisioned i env'.handle)) := ⟨hu.bare.done, hu.bare.states⟩
      exact ⟨hmark.ended, wp_gentle (.attempt (.call rfl fun _ => .ret _)) hmark⟩
  start i inst w h _ _ := by
    refine wp_withAdapter h.ended (fun _ => h) fun _ ad _ _ => .seq ?_
    refine wp_updateInstanceState h.ended (fun _ _ => h) fun env _ hrow' _ _ _ => ?_
    have hmv : Bare (w.move env i .starting) := h.set hrow' fun hdone => by cases hdone
    refine ⟨hmv.ended, .perform fun env' _ => ?_⟩
    have hstart : Bare ((w.move env i .starting).mark (.started i inst.runtimeHandle)) := ⟨hmv.done, hmv.states⟩
    refine ⟨hstart.ended, ?_⟩
    rcases (act env' (.adapter (.start (handleOf ad (i, inst)))) (w.move env i .starting)).2 with e | u
    · exact wp_fails hstart (lookup_setInstance_self hrow' _) (by simp)
    · exact wp_moves hstart (by decide) (by decide)
  failed i inst w h hrow hst := wp_handleFailedInstance_bare h hrow hst
  inspect i inst w h hrow _ := by
    refine wp_withAdapter h.ended (fun _ => h) fun _ ad _ _ => wp_ask (fun _ => rfl) h.ended fun env _ => ?_
    rcases (inspect (handleOf ad (i, inst))).answer env with e | (_ | _)
    · exact wp_giveBack h hrow fun u hu _ hi => wp_ends hu hi
    · exact wp_giveBack h hrow fun u hu _ hi => wp_ends hu hi
    · refine wp_ask (fun _ => rfl) h.ended fun env' _ => ?_
      rcases (health (handleOf ad (i, inst))).answer env' with e | (_ | _)
      · exact wp_moves h (by decide) (by decide)
      · exact wp_moves h (by decide) (by decide)
      · exact h
  degraded i inst w h hrow _ := by
    refine wp_withAdapter h.ended (fun _ => h) fun _ ad _ _ => wp_ask (fun _ => rfl) h.ended fun env _ => ?_
    rcases (health (handleOf ad (i, inst))).answer env with e | (_ | _)
    · exact wp_now h.ended fun t => .ite (fun _ => h) fun _ => wp_giveBack h hrow fun u hu _ hi => wp_ends hu hi
    · exact wp_now h.ended fun t => .ite (fun _ => h) fun _ => wp_giveBack h hrow fun u hu _ hi => wp_ends hu hi
    · exact wp_moves h (by decide) (by decide)
  stop i inst w h hrow _ := by
    refine wp_withAdapter h.ended (fun _ => h) fun _ _ _ _ => ?_
    refine .seq (wp_attempt fun _ _ => ⟨h.ended, .seq (wp_attempt fun _ _ => ⟨h.ended, ?_⟩)⟩)
    exact wp_giveBack ⟨h.done, h.states⟩ hrow fun u hu _ hi => wp_ends hu hi

end

namespace Reconciler

/-- **At all times, terminated instances hold nothing**, in every run of whole passes without errors
of the database in which an instance that fails, unless it was degraded, may be retried or holds
nothing. -/
theorem ended_of_parted {F : Type} [Float64 F] (cfg : Config F) {w : World} {s : Reconciler}
    {ls : List (Turn Unit Env)}
    (hw : Bare w) (hmeets : Meets (step cfg) (Worker.Guarded Parted fun _ => False) ⟨w, none⟩ ls)
    (hrun : exec (step cfg) ⟨w, none⟩ ls = some s) : Ended s.shared :=
  (exec_keeps (keeps_bare cfg) (fun _ _ hstop => hstop.elim) hw hmeets hrun).1

end Reconciler

namespace Sample

/-- An instance that is to be stopped, with what it holds. -/
def holding : Tables := { housed (web (lit "never") 0 []) (inState .stopping) with
    allocations := ⟨[(lit "i1", ⟨lit "n1", 2, 512, none, 0, none⟩)], List.nodup_singleton _⟩
    mounts := ⟨[(1, ⟨lit "v1", lit "i1", lit "/data", false, .active⟩)], List.nodup_singleton _⟩ }

theorem bare_of_unfinished {t : Tables} {state : InstanceState}
    (ht : t.instances.rows = [(lit "i1", inState state)])
    (hend : state ≠ .terminated) (hfail : state ≠ .failed)
    (hmounts : ∀ x ∈ t.mounts.rows, x.2.state.isUsed = true) :
    Bare ⟨t, []⟩ := by
  refine ⟨fun i row hrow hdone => ?_, fun m row hrow => hmounts (m, row) (lookup_eq_some_iff.1 hrow)⟩
  have hmem := lookup_eq_some_iff.1 hrow
  rw [ht, List.mem_singleton, Prod.mk.injEq] at hmem
  obtain ⟨-, rfl⟩ := hmem
  simp [isDone, inState, hend, hfail] at hdone

end Sample

namespace Reconciler

/-- `Start` fails, the instance may not be retried, and is terminated with its allocation. -/
theorem terminated_with_allocation : ∃ w ls s, Bare w ∧
    Run.Meets (step Sample.config) (Worker.Guarded StoreOk fun _ => False) ⟨w, none⟩ ls ∧
      Run.exec (step Sample.config) ⟨w, none⟩ ls = some s ∧ ¬ Ended s.shared := by
  obtain ⟨s, hrun, ⟨row, hrow, hst⟩, hact⟩ : ∃ s, Run.exec (step config)
      ⟨⟨housed (web (lit "never") 0 []) (inState .declared), []⟩, none⟩
        (smooth 26 ++ .step failing :: List.replicate 10 (.step calm)) = some s ∧
      (∃ row, s.shared.tables.instances.lookup (lit "i1") = some row ∧ row.state = .terminated) ∧
        s.shared.tables.activeAllocation (lit "i1") ≠ none := by decide +kernel
  refine ⟨_, _, s, bare_of_unfinished rfl (by decide) (by decide)
    (by simp [housed, deployed, Tables.empty, Table.empty]),
    by decide +kernel, hrun, fun hend => ?_⟩
  exact hact (hend _ row hrow hst).1

theorem ended_stopped : ¬ holding.Holdless (lit "i1") ∧
    ∃ s, exec (step config) ⟨⟨holding, []⟩, none⟩ (smooth 26) = some s ∧
      (∃ row, s.shared.tables.instances.lookup (lit "i1") = some row ∧ row.state = .terminated) ∧
          Ended s.shared := by
  refine ⟨by decide +kernel, ends_and (by decide +kernel) fun s hrun _ => ended_of_parted config ?_
    (by decide +kernel) hrun⟩
  exact bare_of_unfinished rfl (by decide) (by decide) (by decide +kernel)

end Reconciler

end Ocelot.VirtualServer
