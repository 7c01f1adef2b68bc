/-
# `Start` follows `Provision`.
-/
import Ocelot.VirtualServer.Runtimes

namespace Ocelot.VirtualServer

open List Tables Sample World Event
open Tracker (lit)
open Prog (Wp)

def Event.recall (i : InstanceID) (known : List StringMap) : Event → List StringMap
  | .declared j => if j = i then [] else known
  | .provisioned j data => if j = i then data :: known else known
  | _ => known

def provided (i : InstanceID) (events : List Event) : List StringMap := events.foldl (Event.recall i) []

/-- **`Start` is called only with a handle that was provided.** -/
def StartsFollow (events : List Event) : Prop :=
  ∀ before i data, before ++ [started i data] <+: events → data ∈ provided i before

variable {i : InstanceID} {es : List Event} {env : Env} {op : Op} {w : World} {ms : List Event} {data : StringMap}

theorem mem_provided_append (h : data ∈ provided i es)
    (hms : declared i ∉ ms) : data ∈ provided i (es ++ ms) := by
  induction ms generalizing es with
  | nil =>
    rw [append_nil]
    exact h
  | cons e ms ih =>
    rw [append_cons]
    refine ih ?_ fun hmem => hms (mem_cons_of_mem e hmem)
    rw [provided, foldl_append]
    show data ∈ e.recall i (provided i es)
    unfold Event.recall
    split
    · rename_i j
      have hj : j ≠ i := by
        rintro rfl
        exact hms mem_cons_self
      rw [if_neg hj]
      exact h
    · split_ifs
      · exact mem_cons_of_mem _ h
      · exact h
    · exact h

theorem StartsFollow.concat {e : Event} (h : StartsFollow es)
    (he : ∀ i data, e = .started i data → data ∈ provided i es) : StartsFollow (es ++ [e]) := by
  intro pre i data hpref
  rcases prefix_concat_iff.1 hpref with heq | hbef
  · obtain ⟨rfl, hlast⟩ := append_inj' heq rfl
    exact he i data (singleton_inj.1 hlast).symm
  · exact h pre i data hbef

theorem StartsFollow.append (h : StartsFollow es) (hms : ∀ i data, started i data ∉ ms) :
    StartsFollow (es ++ ms) := by
  induction ms generalizing es with
  | nil =>
    rw [append_nil]
    exact h
  | cons e _ ih =>
    rw [append_cons]
    refine ih (h.concat fun i data heq => ?_) fun i data hmem => hms i data (mem_cons_of_mem e hmem)
    exact absurd (heq ▸ mem_cons_self) (hms i data)

theorem declared_of_marks (h : declared i ∈ marks env op w)
    {row : ServiceInstance} (hrow : (act env op w).1.tables.instances.lookup i = some row) :
    row.state = .declared := by
  cases op with
  | adapter c =>
    cases c with
    | provision _ req =>
      have hmem : declared i ∈ if env.fails then [] else [provisioned req.instanceID env.handle] := h
      split_ifs at hmem
      · cases hmem
      · cases mem_singleton.1 hmem
    | start | destroy => cases mem_singleton.1 h
    | stop | inspect | health => cases h
  | now | query | driver | lookup => cases h
  | write wr =>
    have hmem : declared i ∈ wr.events (wr.exec env w.tables).2 := h
    have hrow' : (wr.exec env w.tables).1.instances.lookup i = some row := hrow
    rcases wr.exec_cases env w.tables with ⟨e, hexec⟩ | ⟨t', ans, -, hcom, hexec⟩
    · rw [hexec] at hmem
      cases wr <;> cases hmem
    · rw [hexec] at hmem hrow'
      cases wr with
      | createInstance service path =>
        obtain rfl := declared.inj (mem_singleton.1 hmem)
        have hcreate : w.tables.createInstance env service path = .ok (t', i) := hcom
        unfold createInstance at hcreate
        split_ifs at hcreate
        split at hcreate
        · cases hcreate
        · rename_i hins
          cases hcreate
          rw [Table.lookup_insert hins, if_pos rfl] at hrow'
          cases hrow'
          rfl
      | incrementRetryCount =>
        obtain rfl := declared.inj (mem_singleton.1 hmem)
        cases hcom
        rw [incrementRetryCount, lookup_setInstance] at hrow'
        obtain ⟨pre, -, rfl⟩ := Option.map_eq_some_iff.1 hrow'
        rw [if_pos rfl]
      | _ => cases hmem

def World.isUnready (w : World) (i : InstanceID) : Bool :=
  (w.tables.instances.lookup i).any fun row => row.state = .provisioning &&
    !(provided i w.events).contains row.runtimeHandle

theorem World.isUnready_eq_false :
    w.isUnready i = false ↔ ∀ row, w.tables.instances.lookup i = some row →
      row.state = .provisioning → row.runtimeHandle ∈ provided i w.events := by
  unfold isUnready
  cases hrow : w.tables.instances.lookup i with
  | none | some => simp

/-- **What a step must meet**: while an instance is not ready, it can be read and written. -/
def Finished (env : Env) (op : Op) (w : World) : Prop :=
  match op with
  | .query (.getInstance i) | .write (.writeInstanceState i _ _) | .write (.updateRuntimeHandle i _) =>
    w.isUnready i = true → env.fails = false
  | _ => True

def isFinished (env : Env) (w : World) : Op → Bool
  | .query (.getInstance i) | .write (.writeInstanceState i _ _) | .write (.updateRuntimeHandle i _) =>
    !w.isUnready i || !env.fails
  | _ => true

theorem isFinished_iff {env : Env} {op : Op} {w : World} : isFinished env w op = true ↔ Finished env op w := by
  unfold Finished isFinished
  split <;> simp_all [imp_iff_not_or]

instance (env : Env) (op : Op) (w : World) : Decidable (Finished env op w) := decidable_of_iff _ isFinished_iff

/-- **Where a pass may be cut off**: no instance is unready. -/
def World.Unhurried (w : World) : Prop := ∀ x ∈ w.tables.instances.rows, w.isUnready x.1 = false

instance (w : World) : Decidable w.Unhurried := List.decidableBAll _ _

/-- **The invariant between passes.** -/
structure Orderly (w : World) : Prop where
  follow : StartsFollow w.events
  ready : ∀ i, w.isUnready i = false

theorem Orderly.of_unhurried (h : StartsFollow w.events) (hw : w.Unhurried) : Orderly w := by
  refine ⟨h, fun i => ?_⟩
  cases hrow : w.tables.instances.lookup i with
  | none => simp [isUnready, hrow]
  | some row => exact hw (i, row) (Table.lookup_eq_some_iff.1 hrow)

def Op.isOrderly : Op → Bool
  | .write (.updateRuntimeHandle _ _) | .write (.writeInstanceState _ _ .provisioning)
  | .adapter (.start _) => false
  | _ => true

theorem not_unready_act (h : w.isUnready i = false) (hop : op.isOrderly = true) :
    (act env op w).1.isUnready i = false := by
  rw [isUnready_eq_false] at h ⊢
  intro row' hrow' hst'
  have hmark : declared i ∉ marks env op w := by
    intro hmem
    rw [declared_of_marks hmem hrow'] at hst'
    cases hst'
  rw [events_act]
  refine mem_provided_append ?_ hmark
  have heff := act_instanceEffect env op w i
  rw [hrow'] at heff
  generalize hbef : w.tables.instances.lookup i = pre at heff
  cases heff with
  | unchanged => exact h row' hbef hst'
  | created | assigned | retried => cases hst'
  | moved _ _ hwr =>
    subst hwr
    cases hst'
    cases hop
  | stored _ _ hwr =>
    subst hwr
    cases hop

theorem Orderly.act (h : Orderly w) (hop : op.isOrderly = true) : Orderly (act env op w).1 := by
  refine ⟨?_, fun i => not_unready_act (h.ready i) hop⟩
  rw [events_act]
  refine h.follow.append fun i data hmem => ?_
  cases op with
  | write => cases (marks_write hmem).choose_spec
  | adapter c =>
    cases c with
    | provision _ req =>
      have hmem' : started i data ∈ if env.fails then [] else [provisioned req.instanceID env.handle] := hmem
      split_ifs at hmem'
      · cases hmem'
      · cases mem_singleton.1 hmem'
    | start => cases hop
    | destroy => cases mem_singleton.1 hmem
    | stop | inspect | health => cases hmem
  | now | query | driver | lookup => cases hmem

section

variable {F : Type} {cfg : Config F} {i : InstanceID} {inst : ServiceInstance} {w : World}

abbrev Following (w : World) : Prop := StartsFollow w.events

theorem wp_orderly {α : Type} {p : Program α} (hp : p.Issues fun op => op.isOrderly = true)
    (h : Orderly w) : Wp act Finished Following p (fun _ => Orderly) w :=
  Wp.of_issues hp (fun _ _ _ _ hop hu => hu.act hop) (fun _ hu => hu.follow) h

private theorem orderly_quiet (op : Op) (h : op.isQuiet = true) : op.isOrderly = true := by
  cases op <;> first | rfl | cases h

private theorem orderly_move {dst : InstanceState} (hdst : dst ≠ .provisioning) (j : InstanceID)
    (src : InstanceState) :
    (Op.write (.writeInstanceState j src dst)).isOrderly = true := by
  cases dst with
  | provisioning => exact absurd rfl hdst
  | _ => rfl

theorem Orderly.set {f : ServiceInstance → ServiceInstance} (hfol : StartsFollow w.events)
    (hothers : ∀ j, j ≠ i → w.isUnready j = false) (hrow : w.tables.instances.lookup i = some inst)
    (hf : (f inst).state = .provisioning → (f inst).runtimeHandle ∈ provided i w.events) :
    Orderly { w with tables := w.tables.setInstance i f } := by
  refine ⟨hfol, fun j => ?_⟩
  rw [isUnready_eq_false]
  intro row hrow' hst
  by_cases hj : j = i
  · subst hj
    rw [lookup_setInstance_self hrow] at hrow'
    cases hrow'
    exact hf hst
  · rw [lookup_setInstance_of_ne hj] at hrow'
    exact isUnready_eq_false.1 (hothers j hj) row hrow' hst

structure Provisioning (i : InstanceID) (w : World) : Prop where
  follow : StartsFollow w.events
  others : ∀ j, j ≠ i → w.isUnready j = false
  row : ∃ row, w.tables.instances.lookup i = some row ∧ row.state = .provisioning

section

variable (h : Provisioning i w)
include h

theorem Provisioning.orderly (hi : w.isUnready i = false) : Orderly w := by
  refine ⟨h.follow, fun j => ?_⟩
  by_cases hj : j = i
  · rw [hj]
    exact hi
  · exact h.others j hj

theorem Provisioning.of_fails {env : Env} (hG : w.isUnready i = true → env.fails = false)
    (hfails : env.fails = true) : Orderly w := by
  refine h.orderly (Bool.eq_false_iff.2 fun hunready => ?_)
  rw [hG hunready] at hfails
  cases hfails

theorem Provisioning.wp_fail :
    Wp act Finished Following (attempt (updateInstanceState i .failed)) (fun _ => Orderly) w := by
  obtain ⟨row, hrow, hst⟩ := h.row
  refine wp_attempt (wp_updateInstanceState h.follow ?_ ?_)
  · rintro e (hmiss | ⟨row', hrow', hillegal⟩ | ⟨env, hG, hfails⟩ | ⟨env, src, hG, hfails⟩)
    · rw [hrow] at hmiss
      cases hmiss
    · obtain rfl := Option.mem_unique hrow hrow'
      rw [hst] at hillegal
      cases hillegal
    · exact h.of_fails hG hfails
    · exact h.of_fails hG hfails
  · intro env row' hrow' _ _ _
    exact ⟨h.follow, .set h.follow h.others hrow' fun hprov => by cases hprov⟩

theorem Provisioning.wp_store (hdata : data ∈ provided i w.events) :
    Wp act Finished Following (attempt (write (.updateRuntimeHandle i data))) (fun _ => Orderly) w := by
  refine wp_attempt fun env hG => ?_
  cases hfails : env.fails with
  | true =>
    have hact : (act env (.write (.updateRuntimeHandle i data)) w).1 = w := by
      simp only [act, Write.exec_of_fails hfails, Write.events, append_nil]
    rw [hact]
    exact ⟨h.follow, h.of_fails hG hfails⟩
  | false =>
    obtain ⟨row, hrow, -⟩ := h.row
    rw [act_updateRuntimeHandle hfails]
    exact ⟨h.follow, .set h.follow h.others hrow fun _ => hdata⟩

end

theorem Provisioning.moved (h : Orderly w) (hrow : w.tables.instances.lookup i = some inst)
    {env : Env} {u : World} (hu : Beside (w.move env i .provisioning) u) : Provisioning i u := by
  refine ⟨?_, fun j hj => ?_, ?_⟩
  · rw [hu.events]
    exact h.follow
  · rw [isUnready, hu.instances, hu.events, move, lookup_setInstance_of_ne hj]
    exact h.ready j
  · rw [hu.instances, move, lookup_setInstance_self hrow]
    exact ⟨_, rfl, rfl⟩

theorem Provisioning.mark (h : Provisioning i w) (data : StringMap) :
    Provisioning i (w.mark (.provisioned i data)) := by
  refine ⟨h.follow.concat fun j _ heq => (by cases heq), fun j hj => ?_, h.row⟩
  rw [isUnready_eq_false]
  intro row hrow hst
  refine mem_provided_append (isUnready_eq_false.1 (h.others j hj) row hrow hst) fun hmem => ?_
  cases mem_singleton.1 hmem

theorem wp_startInstance_orderly (h : Orderly w) (hrow : w.tables.instances.lookup i = some inst)
    (hst : inst.state = .provisioning) :
    Wp act Finished Following (startInstance cfg (i, inst)) (fun _ => Orderly) w := by
  have hprov := isUnready_eq_false.1 (h.ready i) inst hrow hst
  refine wp_withAdapter h.follow (fun _ => h) fun _ ad _ _ => .seq ?_
  refine wp_updateInstanceState h.follow (fun _ _ => h) fun env _ hrow' _ _ _ => ?_
  have hmv : Orderly (w.move env i .starting) :=
    Orderly.set h.follow (fun j _ => h.ready j) hrow' fun hprovisioning => by cases hprovisioning
  refine ⟨h.follow, .perform fun env' _ => ?_⟩
  -- the instance was listed with this handle, and it is still the one that was provided
  have hfol : StartsFollow ((w.move env i .starting).mark (.started i inst.runtimeHandle)).events := by
    refine hmv.follow.concat fun j _ heq => ?_
    cases heq
    exact hprov
  have hstart : Orderly ((w.move env i .starting).mark (.started i inst.runtimeHandle)) := by
    refine ⟨hfol, fun j => ?_⟩
    rw [isUnready_eq_false]
    intro row' hrow1 hst1
    refine mem_provided_append (isUnready_eq_false.1 (hmv.ready j) row' hrow1 hst1) fun hmem => ?_
    cases mem_singleton.1 hmem
  refine ⟨hfol, ?_⟩
  have hend : ∀ dst : InstanceState, dst ≠ .provisioning →
      Wp act Finished Following (attempt (updateInstanceState i dst)) (fun _ => Orderly)
        ((w.move env i .starting).mark (.started i inst.runtimeHandle)) := fun dst hdst =>
    wp_orderly (issues_updateInstanceState orderly_quiet fun src _ => orderly_move hdst i src).attempt hstart
  rcases (act env' (.adapter (.start (handleOf ad (i, inst)))) (w.move env i .starting)).2 with e | u
  · exact hend .failed (by decide)
  · exact hend .running (by decide)

theorem keeps_orderly [Float64 F] (cfg : Config F) : Keeps cfg Finished Orderly Following where
  during w h := h.follow
  background env op w _ hop h := by
    refine h.act ?_
    cases op with
    | write wr => cases wr <;> first | rfl | cases hop
    | adapter => cases hop
    | now | query | driver | lookup => rfl
  schedule nodes i inst w h _ _ :=
    wp_orderly (issues_scheduleInstance orderly_quiet (fun _ _ _ => rfl) (fun _ _ _ _ => rfl)
    fun _ _ => rfl) h
  provision i inst w h hrow _ := by
    refine wp_provisionInstance (K := fun env _ u => Beside (w.move env i .provisioning) u) hrow
      h.follow (fun _ => h) ?_ ?_ ?_
    · intro env _ _
      exact ⟨h.follow, wp_aside (aside_resolveMounts cfg _ _ _ _) fun u hu =>
        (Provisioning.moved h hrow hu).follow⟩
    · intro env _ u hu _
      have hmv := Provisioning.moved h hrow hu
      exact ⟨hmv.follow, hmv.wp_fail⟩
    · intro env _ u env' _ _ _ hu _ _ _ _
      have hmark := (Provisioning.moved h hrow hu).mark env'.handle
      refine ⟨hmark.follow, hmark.wp_store ?_⟩
      rw [mark, provided, foldl_append]
      show env'.handle ∈ if i = i then env'.handle :: _ else _
      rw [if_pos rfl]
      exact mem_cons_self
  start i inst w h hrow hst := wp_startInstance_orderly h hrow hst
  failed i inst w h _ _ := wp_orderly (issues_handleFailedInstance orderly_quiet (fun _ => rfl) (fun _ => rfl) rfl
    (fun _ _ => rfl) rfl fun _ => rfl) h
  inspect i inst w h _ _ := by
    refine wp_orderly (issues_inspectInstance orderly_quiet (fun _ => rfl) (fun _ => rfl) rfl
      (fun src dst _ hdst => ?_)
      (fun _ => rfl) fun _ => rfl) h
    rcases hdst with rfl | rfl <;> rfl
  degraded i inst w h _ _ := by
    refine wp_orderly (issues_handleDegradedInstance orderly_quiet (fun _ => rfl) (fun _ => rfl) rfl
      (fun src dst _ hdst => ?_) fun _ => rfl) h
    rcases hdst with rfl | rfl <;> rfl
  stop i inst w h _ _ :=
    wp_orderly (issues_stopInstance orderly_quiet (fun _ => rfl) (fun _ => rfl) rfl (fun _ _ => rfl)
    (fun _ => rfl) fun _ => rfl) h

end

namespace Reconciler

/-- **`Start` follows `Provision`** in every run, cut off wherever no instance is unready, whose
steps finish what they have begun. -/
theorem starts_follow_of_finished {F : Type} [Float64 F] (cfg : Config F) {w : World}
    {s : Reconciler} {ls : List (Turn Unit Env)} (hw : StartsFollow w.events) (hready : w.Unhurried)
    (hmeets : Run.Meets (step cfg) (Worker.Guarded Finished Unhurried) ⟨w, none⟩ ls)
    (hrun : Run.exec (step cfg) ⟨w, none⟩ ls = some s) : StartsFollow s.shared.events :=
  (exec_keeps (keeps_orderly cfg) (fun _ hfol hstop => .of_unhurried hfol hstop)
    (.of_unhurried hw hready) hmeets hrun).1

end Reconciler

/-- The process stops when `provisioning` is stored; the next pass starts the instance, with no
handle. -/
theorem Reconciler.started_without_provision : ∃ w ls s, w.events = [] ∧ w.Unhurried ∧
    Run.exec (step config) ⟨w, none⟩ ls = some s ∧ ¬ StartsFollow s.shared.events := by
  obtain ⟨s, hrun, hevs⟩ : ∃ s, Run.exec (step config)
      ⟨⟨housed (web (lit "never") 0 []) (inState .scheduled), []⟩, none⟩
        (smooth 15 ++ .stop :: smooth 17) = some s ∧ s.shared.events = [.started (lit "i1") []] := by
    decide +kernel
  refine ⟨_, _, s, rfl, by decide +kernel, hrun, fun hfol => ?_⟩
  have hprov := hfol [] (lit "i1") [] (by rw [hevs]; exact prefix_refl _)
  cases hprov

theorem Reconciler.starts_follow_housed : ∃ s, Run.exec (step config)
    ⟨⟨housed (web (lit "never") 0 []) (inState .scheduled), []⟩, none⟩
      (smooth 32 ++ smooth 5 ++ [.stop]) = some s ∧
        started (lit "i1") calm.handle ∈ s.shared.events ∧ StartsFollow s.shared.events := by
  refine Run.ends_and (by decide +kernel) fun s hrun _ => ?_
  refine starts_follow_of_finished config ?_ (by decide +kernel) (by decide +kernel) hrun
  intro _ i _ hpref
  simp at hpref

end Ocelot.VirtualServer
