/-
# At most one live runtime per instance.

The events tell which runtimes are live. The invariant ties them to the handle that is stored, so
it breaks where an instance with a handle is retried.
-/
import Ocelot.VirtualServer.Placement

namespace Ocelot.VirtualServer

open List Option Tables Sample
open Tracker (lit)
open Prog (Wp)

/-! ## Live runtimes -/

def Event.follow (i : InstanceID) (live : List StringMap) : Event → List StringMap
  | .provisioned j data => if j = i then live ++ [data] else live
  | .destroyed j data ok => if j = i ∧ ok = true then live.erase data else live
  | _ => live

def live (i : InstanceID) (events : List Event) : List StringMap := events.foldl (Event.follow i) []

theorem live_append (i : InstanceID) (es ms : List Event) :
    live i (es ++ ms) = ms.foldl (Event.follow i) (live i es) := by
  rw [live, foldl_append]
  rfl

theorem live_append_of_unseen {i : InstanceID} {es ms : List Event}
    (h : ∀ e ∈ ms, ∀ ls, e.follow i ls = ls) : live i (es ++ ms) = live i es := by
  rw [live_append]
  induction ms with
  | nil => rfl
  | cons e _ ih =>
    rw [foldl_cons, h e mem_cons_self]
    exact ih fun e' he' => h e' (mem_cons_of_mem e he')

def Op.isNeutral : Op → Bool
  | .adapter (.provision _ _) | .adapter (.destroy _) => false
  | _ => true

theorem live_act_of_isNeutral {env : Env} {op : Op} {w : World} (h : op.isNeutral = true)
    (i : InstanceID) : live i (act env op w).1.events = live i w.events := by
  rw [events_act]
  refine live_append_of_unseen fun e he _ => ?_
  cases op with
  | write =>
    obtain ⟨j, rfl⟩ := marks_write he
    rfl
  | adapter c =>
    cases c with
    | provision | destroy => cases h
    | start =>
      rw [mem_singleton.1 he]
      rfl
    | stop | inspect | health => cases he
  | now | query | driver | lookup => cases he

/-! ## The invariant -/

/-- **At most one live runtime per instance**, and none of a terminated one unless its destruction
failed. -/
structure SingleRuntime (w : World) : Prop where
  single : ∀ i, (live i w.events).length ≤ 1
  ended : ∀ i row, w.tables.instances.lookup i = some row → row.state = .terminated →
    ∀ data ∈ live i w.events, Event.destroyed i data false ∈ w.events

structure RuntimeOf {F : Type} (cfg : Config F) (w : World) (i : InstanceID) (row : ServiceInstance) : Prop where
  fresh : row.state = .declared ∨ row.state = .scheduled → live i w.events = []
  stored : live i w.events = [] ∨ live i w.events = [row.runtimeHandle] ∧ row.runtimeHandle ≠ [] ∧
    ∀ svc, w.tables.services.lookup row.serviceID = some svc → cfg.adapters svc.manifest.spec.runtime ≠ none
  ended : row.state = .terminated → ∀ data ∈ live i w.events, Event.destroyed i data false ∈ w.events

structure TrackedAt {F : Type} (cfg : Config F) (w : World) (i : InstanceID) : Prop where
  absent : w.tables.instances.lookup i = none → live i w.events = []
  row : ∀ row, w.tables.instances.lookup i = some row → RuntimeOf cfg w i row

/-- **The invariant**, but for the instance that is being handled. -/
def TrackedBut {F : Type} (cfg : Config F) (i : InstanceID) (w : World) : Prop := ∀ j, j ≠ i → TrackedAt cfg w j

/-- **The invariant.** -/
def Tracked {F : Type} (cfg : Config F) (w : World) : Prop := ∀ i, TrackedAt cfg w i

def InstanceState.isMiddle : InstanceState → Bool
  | declared | scheduled | terminated => false
  | _ => true

section

variable {F : Type} {cfg : Config F} {env : Env} {op : Op} {w u : World} {i j : InstanceID}
  {row row' : ServiceInstance}

theorem RuntimeOf.of_middle (hst : row.state.isMiddle = true)
    (hsto : live i w.events = [] ∨ live i w.events = [row.runtimeHandle] ∧ row.runtimeHandle ≠ [] ∧
      ∀ svc, w.tables.services.lookup row.serviceID = some svc →
    cfg.adapters svc.manifest.spec.runtime ≠ none) : RuntimeOf cfg w i row := by
  refine ⟨fun hfresh => ?_, hsto, fun hend => ?_⟩
  · rcases hfresh with hfresh | hfresh <;> rw [hfresh] at hst <;> cases hst
  · rw [hend] at hst
    cases hst

theorem RuntimeOf.length_le (h : RuntimeOf cfg w i row) : (live i w.events).length ≤ 1 := by
  rcases h.stored with hnone | ⟨hone, -⟩
  · simp [hnone]
  · simp [hone]

theorem TrackedAt.length_le (h : TrackedAt cfg w i) : (live i w.events).length ≤ 1 := by
  cases hrow : w.tables.instances.lookup i with
  | none => simp [h.absent hrow]
  | some row => exact (h.row row hrow).length_le

theorem Tracked.single (h : Tracked cfg w) : SingleRuntime w :=
  ⟨fun i => (h i).length_le, fun i row hrow => ((h i).row row hrow).ended⟩

theorem Tracked.beside (h : Tracked cfg w) (hu : Beside w u) : Tracked cfg u := by
  intro i
  constructor
  · rw [hu.instances, hu.events]
    exact (h i).absent
  · intro row hrow
    rw [hu.instances] at hrow
    obtain ⟨hfresh, hsto, hend⟩ := (h i).row row hrow
    rw [← hu.events] at hfresh hsto hend
    rw [← hu.services] at hsto
    exact ⟨hfresh, hsto, hend⟩

theorem TrackedBut.set {f : ServiceInstance → ServiceInstance} (h : TrackedBut cfg i w)
    (hrow : w.tables.instances.lookup i = some row) (hf : RuntimeOf cfg w i (f row)) :
    Tracked cfg { w with tables := w.tables.setInstance i f } := by
  intro j
  by_cases hj : j = i
  · subst hj
    constructor
    · intro hnone
      rw [lookup_setInstance_self hrow] at hnone
      cases hnone
    · intro row' hrow'
      rw [lookup_setInstance_self hrow] at hrow'
      cases hrow'
      exact ⟨hf.fresh, hf.stored, hf.ended⟩
  · have hsame : (w.tables.setInstance i f).instances.lookup j = w.tables.instances.lookup j :=
      lookup_setInstance_of_ne hj f
    constructor
    · intro hnone
      exact (h j hj).absent (hsame.symm.trans hnone)
    · intro row' hrow'
      obtain ⟨hfresh, hsto, hend⟩ := (h j hj).row row' (hsame.symm.trans hrow')
      exact ⟨hfresh, hsto, hend⟩

theorem RuntimeOf.congr (h : RuntimeOf cfg w i row) (hlive : live i (act env op w).1.events = live i w.events)
    (hst : row'.state = row.state) (hhandle : row'.runtimeHandle = row.runtimeHandle)
    (hsvc : row'.serviceID = row.serviceID) : RuntimeOf cfg (act env op w).1 i row' := by
  constructor
  · rw [hlive, hst]
    exact h.fresh
  · rw [hlive, hhandle, hsvc, services_act]
    exact h.stored
  · rw [hlive, hst, events_act]
    exact fun hend data hdata => mem_append_left _ (h.ended hend data hdata)

theorem TrackedBut.mark {e : Event} (h : TrackedBut cfg i w)
    (he : ∀ j, j ≠ i → ∀ ls, e.follow j ls = ls) : TrackedBut cfg i (w.mark e) := by
  intro j hj
  have hlive : live j (w.mark e).events = live j w.events :=
    live_append_of_unseen fun _ he' => mem_singleton.1 he' ▸ he j hj
  constructor
  · rw [hlive]
    exact (h j hj).absent
  · intro row hrow
    obtain ⟨hfresh, hsto, hend⟩ := (h j hj).row row hrow
    rw [← hlive] at hfresh hsto hend
    exact ⟨hfresh, hsto, fun hterm data hdata => mem_append_left _ (hend hterm data hdata)⟩

theorem TrackedBut.single (h : TrackedBut cfg i w) (hrow : w.tables.instances.lookup i = some row)
    (hi : RuntimeOf cfg w i row') (hst : row.state = row'.state) : SingleRuntime w := by
  constructor
  · intro j
    by_cases hj : j = i
    · rw [hj]
      exact hi.length_le
    · exact (h j hj).length_le
  · intro j row1 hrow1 hend
    by_cases hj : j = i
    · subst hj
      obtain rfl := mem_unique hrow hrow1
      exact hi.ended (hst.symm.trans hend)
    · exact ((h j hj).row row1 hrow1).ended hend

/-- **What a step must meet**: a runtime that is provisioned has a handle, the handle is stored, and
an instance that is retried has none. -/
def Handled (env : Env) (op : Op) (w : World) : Prop :=
  match op with
  | .adapter (.provision _ _) => env.fails = false → env.handle ≠ []
  | .write (.updateRuntimeHandle _ _) => env.fails = false
  | .write (.incrementRetryCount i) =>
    env.fails = false → ∀ row ∈ w.tables.instances.lookup i, row.runtimeHandle = []
  | _ => True

instance (env : Env) (op : Op) (w : World) : Decidable (Handled env op w) := by
  unfold Handled
  split <;> infer_instance

def Op.isRoutine : Op → Bool
  | .write (.updateRuntimeHandle _ _) | .write (.writeAssignment _ _ _) => false
  | .write (.writeInstanceState _ src dst) => src.validateInstanceTransition dst && dst.isMiddle
  | op => op.isNeutral

theorem Op.isNeutral_of_isRoutine {op : Op} (h : op.isRoutine = true) : op.isNeutral = true := by
  cases op with
  | write => rfl
  | now | query | adapter | driver | lookup => exact h

theorem TrackedAt.routine (h : TrackedAt cfg w i) (hop : op.isRoutine = true)
    (hG : Handled env op w) : TrackedAt cfg (act env op w).1 i := by
  have hlive : live i (act env op w).1.events = live i w.events :=
    live_act_of_isNeutral (Op.isNeutral_of_isRoutine hop) i
  have heff := act_instanceEffect env op w i
  constructor
  · intro hnone
    rw [hnone] at heff
    rw [hlive]
    generalize hbef : w.tables.instances.lookup i = pre at heff
    cases heff with
    | unchanged => exact h.absent hbef
  · intro row' hrow'
    rw [hrow'] at heff
    generalize hbef : w.tables.instances.lookup i = pre at heff
    cases heff with
    | unchanged => exact (h.row row' hbef).congr hlive rfl rfl rfl
    | created =>
      have hnone := hlive.trans (h.absent hbef)
      exact ⟨fun _ => hnone, .inl hnone, fun hend => by cases hend⟩
    | moved row _ hwr =>
      subst hwr
      obtain ⟨-, hsto, -⟩ := h.row row hbef
      simp only [Op.isRoutine, Bool.and_eq_true] at hop
      refine .of_middle hop.2 ?_
      rw [hlive, services_act]
      exact hsto
    | assigned _ _ hwr | stored _ _ hwr =>
      subst hwr
      cases hop
    | retried row hwr hok =>
      subst hwr
      -- the instance has no handle, so it has no runtime
      have hhandle : row.runtimeHandle = [] := hG hok row hbef
      have hnone : live i w.events = [] := by
        rcases (h.row row hbef).stored with hnone | ⟨-, hne, -⟩
        · exact hnone
        · exact absurd hhandle hne
      exact ⟨fun _ => hlive.trans hnone, .inl (hlive.trans hnone), fun hend => by cases hend⟩

theorem wp_routine {p : Program Unit} (hp : p.Issues fun op => op.isRoutine = true)
    (h : Tracked cfg w) : Wp act Handled SingleRuntime p (fun _ => Tracked cfg) w :=
  Wp.of_issues hp (fun _ _ _ hG hop hu i => (hu i).routine hop hG) (fun _ hu => hu.single) h

end

/-! ## The handlers -/

section

variable {F : Type} {cfg : Config F} {i : InstanceID} {inst : ServiceInstance} {w u : World}

private theorem routine_quiet (op : Op) (h : op.isQuiet = true) : op.isRoutine = true := by
  cases op <;> first | rfl | cases h

private theorem routine_move {dst : InstanceState} (hdst : dst.isMiddle = true) (j : InstanceID)
    (src : InstanceState) (hval : src.validateInstanceTransition dst = true) :
    (Op.write (.writeInstanceState j src dst)).isRoutine = true := by
  simp [Op.isRoutine, hval, hdst]

theorem wp_updateRuntimeHandle {data : StringMap} (h : TrackedBut cfg i w)
    (hrow : w.tables.instances.lookup i = some inst)
    (hf : RuntimeOf cfg w i { inst with runtimeHandle := data }) :
    Wp act Handled SingleRuntime (attempt (write (.updateRuntimeHandle i data))) (fun _ => Tracked cfg) w := by
  refine wp_attempt fun env hok => ?_
  have hsto : Tracked cfg { w with tables := w.tables.updateRuntimeHandle env i data } :=
    h.set hrow ⟨hf.fresh, hf.stored, hf.ended⟩
  rw [act_updateRuntimeHandle hok]
  exact ⟨hsto.single, hsto⟩

theorem wp_provisionInstance_tracked (h : Tracked cfg w)
    (hrow : w.tables.instances.lookup i = some inst) (hst : inst.state = .scheduled) :
    Wp act Handled SingleRuntime (provisionInstance cfg (i, inst)) (fun _ => Tracked cfg) w := by
  obtain ⟨hfresh, hsto, -⟩ := (h i).row inst hrow
  have hmv : ∀ env u, Beside (w.move env i .provisioning) u → Tracked cfg u := by
    intro env u hu
    exact Tracked.beside (TrackedBut.set (fun j _ => h j) hrow (.of_middle rfl hsto)) hu
  refine wp_provisionInstance (K := fun env _ u => Beside (w.move env i .provisioning) u) hrow
    h.single (fun _ => h) ?_ ?_ ?_
  · intro env svc _
    exact ⟨(hmv env _ ⟨rfl, rfl, rfl⟩).single,
      wp_aside (aside_resolveMounts cfg _ _ _ _) fun u hu => (hmv env u hu).single⟩
  · intro env _ u hu _
    refine ⟨(hmv env u hu).single, wp_routine ?_ (hmv env u hu)⟩
    exact (issues_updateInstanceState routine_quiet (routine_move rfl i)).attempt
  · intro env _ u env' svc ad _ hu hsvc had hG hok
    have hrow' : (u.mark (.provisioned i env'.handle)).tables.instances.lookup i =
        some { inst with state := .provisioning, updatedAt := unix env.now } := by
      rw [World.mark, hu.instances]
      exact lookup_setInstance_self hrow _
    have hlive : live i (u.mark (.provisioned i env'.handle)).events = [env'.handle] := by
      rw [World.mark, live_append, hu.events]
      show (if i = i then live i w.events ++ [env'.handle] else live i w.events) = _
      rw [if_pos rfl, hfresh (.inr hst), nil_append]
    have hothers : TrackedBut cfg i (u.mark (.provisioned i env'.handle)) :=
      TrackedBut.mark (fun j _ => hmv env u hu j) fun j hj _ => if_neg hj.symm
    have hf : RuntimeOf cfg (u.mark (.provisioned i env'.handle)) i
        { inst with state := .provisioning, updatedAt := unix env.now, runtimeHandle := env'.handle } := by
      refine .of_middle rfl (.inr ⟨hlive, hG hok, fun _ hsvc' => ?_⟩)
      rw [World.mark, hu.services] at hsvc'
      obtain rfl := mem_unique hsvc hsvc'
      rw [had]
      exact some_ne_none ad
    exact ⟨hothers.single hrow' hf rfl, wp_updateRuntimeHandle hothers hrow' hf⟩

structure Ending (cfg : Config F) (i : InstanceID) (inst : ServiceInstance) (w : World) : Prop where
  tracked : Tracked cfg w
  row : w.tables.instances.lookup i = some inst
  ended : ∀ data ∈ live i w.events, Event.destroyed i data false ∈ w.events

theorem Ending.of_none (h : Tracked cfg w) (hrow : w.tables.instances.lookup i = some inst)
    (hnone : live i w.events = []) : Ending cfg i inst w :=
  ⟨h, hrow, fun _ hdata => absurd (hnone ▸ hdata) not_mem_nil⟩

theorem Ending.beside (h : Ending cfg i inst w) (hu : Beside w u) : Ending cfg i inst u := by
  refine ⟨h.tracked.beside hu, ?_, ?_⟩
  · rw [hu.instances]
    exact h.row
  · rw [hu.events]
    exact h.ended

theorem Ending.destroyed (h : Tracked cfg w) (hrow : w.tables.instances.lookup i = some inst)
    (ok : Bool) : Ending cfg i inst (w.mark (.destroyed i inst.runtimeHandle ok)) := by
  obtain ⟨hfresh, hsto, _⟩ := (h i).row inst hrow
  have hothers : TrackedBut cfg i (w.mark (.destroyed i inst.runtimeHandle ok)) :=
    TrackedBut.mark (fun j _ => h j) fun j hj _ => if_neg fun hboth => hj hboth.1.symm
  have hlive : live i (w.mark (.destroyed i inst.runtimeHandle ok)).events =
      if ok then (live i w.events).erase inst.runtimeHandle else live i w.events := by
    rw [World.mark, live_append]
    simp [Event.follow]
  -- the runtime is gone, or is there and the mark says why
  have hi : live i (w.mark (.destroyed i inst.runtimeHandle ok)).events = [] ∨
      live i (w.mark (.destroyed i inst.runtimeHandle ok)).events = [inst.runtimeHandle] ∧
        ok = false ∧ live i w.events = [inst.runtimeHandle] := by
    rw [hlive]
    rcases hsto with hnone | ⟨hone, -⟩
    · simp [hnone]
    · cases ok <;> simp [hone]
  have hleft : ∀ data ∈ live i (w.mark (.destroyed i inst.runtimeHandle ok)).events,
      Event.destroyed i data false ∈ (w.mark (.destroyed i inst.runtimeHandle ok)).events := by
    intro data hdata
    rcases hi with hnone | ⟨hone, hok, -⟩
    · simp [hnone] at hdata
    · rw [hone, mem_singleton] at hdata
      rw [hdata, World.mark, hok]
      exact mem_append_right _ (mem_singleton_self _)
  refine ⟨fun j => ?_, hrow, hleft⟩
  by_cases hj : j = i
  · subst hj
    refine ⟨fun hnone => absurd (hrow.symm.trans hnone) (some_ne_none _), fun row hrow' => ?_⟩
    obtain rfl := mem_unique hrow hrow'
    refine ⟨fun hst => ?_, ?_, fun _ => hleft⟩
    · refine hi.resolve_right fun hone => ?_
      rw [hfresh hst] at hone
      cases hone.2.2
    · rcases hi with hnone | ⟨hone, -, hbef⟩
      · exact .inl hnone
      · refine .inr ⟨hone, (hsto.resolve_left fun hnone => ?_).2⟩
        rw [hbef] at hnone
        cases hnone
  · exact hothers j hj

theorem Ending.wp_terminate (h : Ending cfg i inst w) :
    Wp act Handled SingleRuntime (attempt (updateInstanceState i .terminated)) (fun _ => Tracked cfg) w := by
  refine wp_attempt (wp_updateInstanceState h.tracked.single (fun _ _ => h.tracked) fun env row hrow _ _ _ => ?_)
  have hend : Tracked cfg (w.move env i .terminated) := by
    refine TrackedBut.set (fun j _ => h.tracked j) hrow
      ⟨fun hfresh => ?_, ((h.tracked i).row row hrow).stored, fun _ => h.ended⟩
    rcases hfresh with hdecl | hsched
    · cases hdecl
    · cases hsched
  exact ⟨hend.single, hend⟩

theorem keeps_tracked [Float64 F] (cfg : Config F) : Keeps cfg Handled (Tracked cfg) SingleRuntime where
  during w h := h.single
  background env op w hG hop h := by
    refine fun i => (h i).routine ?_ hG
    cases op with
    | write wr => cases wr <;> first | rfl | cases hop
    | adapter => cases hop
    | now | query | driver | lookup => rfl
  schedule nodes i inst w h hrow hst := by
    obtain ⟨hfresh, hsto, -⟩ := (h i).row inst hrow
    have hasg : ∀ env node, Tracked cfg (w.assign env i node) := fun env node =>
      TrackedBut.set (fun j _ => h j) hrow ⟨fun _ => hfresh (.inl hst), hsto, fun hend => by cases hend⟩
    refine wp_scheduleInstance hrow h.single (fun _ => h) (fun env node _ => (hasg env node).single) ?_
    intro env node env' svc gpu _ _ hG
    have hall : Tracked cfg (act env' (allocationOf i node svc gpu) (w.assign env i node)).1 :=
      fun j => (hasg env node j).routine rfl hG
    exact ⟨hall.single, hall⟩
  provision i inst w h hrow hst := wp_provisionInstance_tracked h hrow hst
  start i inst w h _ _ := by
    refine wp_routine (issues_startInstance routine_quiet (fun src dst hval hdst => ?_) fun _ => rfl) h
    rcases hdst with rfl | rfl | rfl <;> exact routine_move rfl i src hval
  failed i inst w h hrow _ := by
    refine wp_handleFailedInstance h.single h (fun svc _ _ => ?_) fun svc hsvc _ => ?_
    · refine wp_routine ?_ h
      refine .bind (issues_teardownMounts routine_quiet (fun _ => rfl) fun _ => rfl) fun _ => ?_
      exact .bind (.attempt (.call rfl fun _ => .ret _)) fun _ => .attempt (.call rfl fun _ => .ret _)
    · have hsto := ((h i).row inst hrow).stored
      refine .seq ?_
      refine .ite (fun hhandle => ?_) fun hhandle => ?_
      · exact (Ending.of_none h hrow (hsto.resolve_right fun hone => hone.2.1 hhandle)).wp_terminate
      · cases had : cfg.adapters svc.manifest.spec.runtime with
        | none =>
          exact (Ending.of_none h hrow (hsto.resolve_right fun hone => hone.2.2 svc hsvc had)).wp_terminate
        | some =>
          refine wp_attempt fun env _ => ?_
          have hending := Ending.destroyed h hrow (!env.fails)
          exact ⟨hending.tracked.single, hending.wp_terminate⟩
  inspect i inst w h _ _ := by
    refine wp_routine (issues_inspectInstance routine_quiet (fun _ => rfl) (fun _ => rfl) rfl
      (fun src dst hval hdst => ?_)
      (fun _ => rfl) fun _ => rfl) h
    rcases hdst with rfl | rfl <;> exact routine_move rfl i src hval
  degraded i inst w h _ _ := by
    refine wp_routine (issues_handleDegradedInstance routine_quiet (fun _ => rfl) (fun _ => rfl) rfl
      (fun src dst hval hdst => ?_) fun _ => rfl) h
    rcases hdst with rfl | rfl <;> exact routine_move rfl i src hval
  stop i inst w h hrow _ := by
    refine wp_withAdapter h.single (fun _ => h) fun _ ad _ _ => .seq (wp_attempt fun env _ => ?_)
    have hsame : (act env (.adapter (.stop (handleOf ad (i, inst)))) w).1 = w := by
      simp [act, AdapterCall.events]
    rw [hsame]
    refine ⟨h.single, .seq (wp_attempt fun env' _ => ?_)⟩
    have hending := Ending.destroyed h hrow (!env'.fails)
    refine ⟨hending.tracked.single, .seq ?_⟩
    refine (wp_aside (aside_teardownMounts cfg i) fun u hu =>
      (hending.beside hu).tracked.single).mono fun _ u hu => ?_
    have hu' := hending.beside hu
    refine .seq ((wp_aside (.attempt (.call rfl fun _ => .ret _)) fun v hv =>
      (hu'.beside hv).tracked.single).mono fun _ v hv => ?_)
    exact (hu'.beside hv).wp_terminate

end

theorem Tracked.of_fresh {F : Type} {cfg : Config F} {w : World} (h : w.events = []) : Tracked cfg w := by
  have hnone : ∀ i, live i w.events = [] := fun i => by rw [h]; rfl
  refine fun i => ⟨fun _ => hnone i, fun _ _ => ⟨fun _ => hnone i, .inl (hnone i), fun _ _ hdata => ?_⟩⟩
  rw [hnone i] at hdata
  cases hdata

namespace Reconciler

/-- **At all times there is at most one live runtime per instance**, in every run of whole passes
from any database, if handles are stored and no instance is retried that has one. -/
theorem single_runtime_of_handled {F : Type} [Float64 F] (cfg : Config F) {w : World}
    {s : Reconciler} {ls : List (Turn Unit Env)} (hw : w.events = [])
    (hmeets : Run.Meets (step cfg) (Worker.Guarded Handled fun _ => False) ⟨w, none⟩ ls)
    (hrun : Run.exec (step cfg) ⟨w, none⟩ ls = some s) : SingleRuntime s.shared :=
  (exec_keeps (keeps_tracked cfg) (fun _ _ hstop => hstop.elim) (.of_fresh hw) hmeets hrun).1

end Reconciler

namespace Sample

def housed (svc : Service) (inst : ServiceInstance) : Tables := { deployed svc inst with
    nodes := ⟨[(lit "n1", { host.toNodeRow with availRAMMiB := 1024, availCPUThreads := 8 })], nodup_singleton _⟩ }

def failing : Env := { calm with fails := true }

def later : Env := { calm with now := 2000 * second }

def startFails : List (Turn Unit Env) :=
  .begin () :: replicate 22 (.step calm) ++ .step failing :: replicate 4 (.step calm) ++
    replicate 7 (.step later) ++ .begin () :: replicate 21 (.step later)

end Sample

namespace Reconciler

/-- The instance is retried, and provisioned a second time. -/
theorem second_runtime : ∃ w ls s, w.events = [] ∧ Turn.stop ∉ ls ∧
    Run.exec (step config) ⟨w, none⟩ ls = some s ∧ ¬ SingleRuntime s.shared := by
  obtain ⟨s, hrun, _⟩ : ∃ s, Run.exec (step config)
      ⟨⟨housed (web (lit "on-failure") 0 []) (inState .scheduled), []⟩, none⟩ startFails =
        some s ∧ (live (lit "i1") s.shared.events).length = 2 := by decide +kernel
  refine ⟨_, _, s, rfl, by simp [startFails], hrun, fun hsingle => ?_⟩
  have hone := hsingle.single (lit "i1")
  omega

theorem single_runtime_provisioned : ∃ s, Run.exec (step config)
    ⟨⟨housed (web (lit "never") 0 []) (inState .scheduled), []⟩, none⟩ (smooth 32) = some s ∧
      live (lit "i1") s.shared.events = [calm.handle] ∧ SingleRuntime s.shared := by
  refine Run.ends_and (by decide +kernel) fun s hrun _ => ?_
  exact single_runtime_of_handled config rfl (by decide +kernel) hrun

end Reconciler

end Ocelot.VirtualServer
