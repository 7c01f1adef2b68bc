/-
# What a node can do to the workloads of other nodes.

A report names workloads by their ids, whatever node they are on. It leaves those of other nodes
alone exactly if it spares them.
-/
import Ocelot.Compute.AgentAPI
import Ocelot.Compute.WorkloadView

namespace Ocelot.Compute

open Table WorkloadStmt Reservation Tables
open Tracker (lit)
open Prog (Triple Issues)

/-! ## What belongs to a workload -/

namespace Tables

def reservationsOf (t : Tables) (w : WorkloadID) : List (ReservationID × Reservation) :=
  t.reservations.select fun _ r => r.workloadID = w

def gpusOf (t : Tables) (w : WorkloadID) : List (GPUID × NodeGPU) :=
  t.nodeGPUs.select fun _ g => g.workloadID = some w

theorem held_eq (t : Tables) (w : WorkloadID) :
    t.held w = ((t.reservationsOf w).filter fun e => e.2.isHeld).map Prod.snd := by
  unfold held reservationsOf select heldBy
  rw [List.filter_filter]
  simp only [Bool.and_comm]

end Tables

def Database.metricsOf (db : Database) (w : WorkloadID) : List ((WorkloadID × Millis) × ℤ × WorkloadMetrics) :=
  db.workloadMetrics.select fun k _ => k.1 = w

theorem Database.lookup_metrics_of_eq {db db' : Database} {w : WorkloadID} (h : db'.metricsOf w = db.metricsOf w)
    (ts : Millis) : db'.workloadMetrics.lookup (w, ts) = db.workloadMetrics.lookup (w, ts) := by
  ext row
  have hmem : ∀ db : Database, ((w, ts), row) ∈ db.metricsOf w ↔ db.workloadMetrics.lookup (w, ts) = some row := by
    intro db
    unfold metricsOf
    rw [mem_select]
    simp
  rw [← hmem db', ← hmem db, h]

structure Untouched (w : WorkloadID) (t t' : Tables) : Prop where
  row : t'.workloads.lookup w = t.workloads.lookup w
  reservations : t'.reservationsOf w = t.reservationsOf w
  gpus : t'.gpusOf w = t.gpusOf w

namespace Untouched

variable {w : WorkloadID} {t t' t'' : Tables}

theorem refl (w : WorkloadID) (t : Tables) : Untouched w t t := ⟨rfl, rfl, rfl⟩

theorem trans (h : Untouched w t t') (h' : Untouched w t' t'') : Untouched w t t'' :=
  ⟨h'.row.trans h.row, h'.reservations.trans h.reservations, h'.gpus.trans h.gpus⟩

theorem held (h : Untouched w t t') : t'.held w = t.held w := by
  rw [held_eq, held_eq, h.reservations]

end Untouched

section

variable {w : WorkloadID} (env : Env) (t : Tables)

theorem untouched_reads {op : Op} (h : op.reads = true) : Untouched w t (act env op t).1 := by
  have hacts := act_acts env op t
  generalize (act env op t).1 = t' at hacts ⊢
  cases hacts with
  | unchanged | noted => exact ⟨rfl, rfl, rfl⟩
  | _ => cases h

theorem untouched_update {s : WorkloadStmt} (h : w = s.id → ∀ row, t.workloads.lookup w = some row →
    s.guard row = false) :
    Untouched w t (act env (.exec (.updateWorkload s)) t).1 := by
  unfold act
  split_ifs
  · exact .refl w t
  · refine ⟨?_, rfl, rfl⟩
    show (Stmt.exec t (.updateWorkload s)).1.workloads.lookup w = _
    rw [lookup_updateWorkload]
    cases hrow : t.workloads.lookup w with
    | none => rfl
    | some row =>
      rw [Option.map_some, if_neg]
      rintro ⟨hw, hguard⟩
      rw [h hw row hrow] at hguard
      cases hguard

theorem untouched_release {u : WorkloadID} {finishedAt : Millis} (h : w = u → t.held w = []) :
    Untouched w t (act env (.exec (.releaseReservations u finishedAt)) t).1 := by
  unfold act
  split_ifs
  · exact .refl w t
  · refine ⟨rfl, ?_, rfl⟩
    show (t.reservations.modify (fun _ r => r.heldBy u) (.release finishedAt)).select _ = _
    by_cases hw : w = u
    · rw [modify_eq_self]
      · rfl
      · intro id r hr
        by_contra hheld
        simp only [heldBy, Bool.not_eq_false, Bool.and_eq_true, decide_eq_true_eq] at hheld
        have hmem : r ∈ t.held w := mem_held.2 ⟨id, hr, hheld.1.trans hw.symm, hheld.2⟩
        rw [h hw] at hmem
        cases hmem
    · refine select_modify_of_unseen fun id r hr => ?_
      simp only [heldBy, Bool.and_eq_true, decide_eq_true_eq] at hr
      have hne : ¬ r.workloadID = w := fun heq => hw (heq.symm.trans hr.1)
      simp [release, hne]

theorem untouched_free {u : WorkloadID} (h : w = u → t.gpusOf w = []) :
    Untouched w t (act env (.exec (.freeGPUs u)) t).1 := by
  unfold act
  split_ifs
  · exact .refl w t
  · refine ⟨rfl, rfl, ?_⟩
    show (t.nodeGPUs.modify (fun _ g => g.workloadID = some u) fun g =>
      { g with workloadID := none, vramReserved := 0 }).select _ = _
    by_cases hw : w = u
    · rw [modify_eq_self]
      · rfl
      · intro id g hg
        by_contra hasg
        have hmem : (id, g) ∈ t.gpusOf w := by
          refine (t.nodeGPUs.mem_select _).2 ⟨hg, ?_⟩
          rw [hw]
          simpa using hasg
        rw [h hw] at hmem
        cases hmem
    · refine select_modify_of_unseen fun id g hg => ?_
      have hne : ¬ u = w := fun heq => hw heq.symm
      have hg : g.workloadID = some u := by simpa using hg
      simp [hg, hne]

end

/-! ## Health reports -/

inductive AgentReport where
  | health (ts : Millis) (events : List HealthEvent)
  | metrics (req : MetricsRequest)

namespace AgentReport

def endpoint : AgentReport → Endpoint
  | health _ _ => .health
  | metrics _ => .metrics

def body : AgentReport → Body
  | health ts events => .health ts events
  | metrics req => .metrics req

def Idle (node : NodeID) (t : Tables) (ev : HealthEvent) : Prop :=
  ∀ row, t.workloads.lookup ev.workloadID = some row → row.nodeID ≠ some node →
    t.held ev.workloadID = [] ∧ t.gpusOf ev.workloadID = [] ∧
      ¬ (ev.kind.retryable = true ∧ row.retryCount < row.maxRetries ∧ row.status.isRetryable = true)

/-- **A report that spares the workloads of other nodes**: every event that ends one finds nothing
to release, to free or to requeue, and the metrics of one are already there. -/
def Spares (node : NodeID) (db : Database) : AgentReport → Prop
  | health _ events => ∀ ev ∈ events, ev.kind.outcome ≠ none → Idle node db.tables ev
  | metrics req =>
    ∀ wm ∈ req.workloads, ∀ row, db.tables.workloads.lookup wm.workloadID = some row →
      row.nodeID ≠ some node → db.workloadMetrics.lookup (wm.workloadID, req.ts) ≠ none

end AgentReport

/-- **Isolation**: whatever belongs to a workload of another node is unchanged. -/
def Isolated (node : NodeID) (db db' : Database) : Prop :=
  ∀ w row, db.tables.workloads.lookup w = some row → row.nodeID ≠ some node →
    Untouched w db.tables db'.tables ∧ db'.metricsOf w = db.metricsOf w

section

variable {node : NodeID} {t : Tables} {w : WorkloadID} {row : Workload} {events : List HealthEvent}
  {ev : HealthEvent} {outcome : Outcome}

theorem issues_untouched (hrow : t.workloads.lookup w = some row) (hfor : row.nodeID ≠ some node)
    (hidle : ev.kind.outcome ≠ none → AgentReport.Idle node t ev) :
    Issues (fun op => ∀ env t', Untouched w t t' → Untouched w t (act env op t').1)
    (applyHealthEvent node ev) := by
  have hreads : ∀ op : Op, op.reads = true → ∀ env t', Untouched w t t' → Untouched w t (act env op t').1 := by
    intro op hop env t' hsame
    exact hsame.trans (untouched_reads env t' hop)
  -- the guard of a statement is evaluated on the row that the workload had at the start
  have hupd : ∀ s : WorkloadStmt, (w = s.id → s.guard row = false) →
      ∀ env t', Untouched w t t' → Untouched w t (act env (.exec (.updateWorkload s)) t').1 := by
    intro s hguard env t' hsame
    refine hsame.trans (untouched_update env t' fun hw _ hrow' => ?_)
    rw [hsame.row, hrow] at hrow'
    cases hrow'
    exact hguard hw
  have hnode : decide (row.nodeID = some node) = false := decide_eq_false hfor
  cases hout : ev.kind.outcome with
  | none =>
    by_cases hstart : ev.kind = .started
    · exact issues_started hreads hstart (hupd _ fun _ => hnode)
    · exact issues_recorded hreads hout hstart
  | some =>
    rw [applyHealthEvent_of_outcome hout]
    have hnothing : w = ev.workloadID → t.held w = [] ∧ t.gpusOf w = [] ∧
        ¬ (ev.kind.retryable = true ∧ row.retryCount < row.maxRetries ∧ row.status.isRetryable = true) := by
      rintro rfl
      exact hidle (by simp [hout]) row hrow hfor
    refine issues_finish hreads (hupd _ fun _ => hnode) ?_ ?_ ?_
    · intro env t' hsame
      exact hsame.trans (untouched_release env t' fun hw => hsame.held.trans (hnothing hw).1)
    · intro env t' hsame
      exact hsame.trans (untouched_free env t' fun hw => hsame.gpus.trans (hnothing hw).2.1)
    · intro hretry _
      refine hupd _ fun hw => ?_
      by_contra hguard
      simp only [WorkloadStmt.guard, Bool.not_eq_false, Bool.and_eq_true, decide_eq_true_eq] at hguard
      exact (hnothing hw).2.2 ⟨hretry, hguard⟩

theorem handleHealth_untouched (hrow : t.workloads.lookup w = some row) (hfor : row.nodeID ≠ some node)
    (hidle : ∀ ev ∈ events, ev.kind.outcome ≠ none → AgentReport.Idle node t ev) (env : ℕ → Env) :
    Untouched w t ((handleHealth node events).run act env t).1 := by
  have hiss : Issues (fun op => ∀ env t', Untouched w t t' → Untouched w t (act env op t').1)
      (handleHealth node events) := by
    refine .bind (.forEach fun ev hev => ?_) fun _ => .ret Response.ok
    exact issues_untouched hrow hfor (hidle ev hev)
  refine Issues.triple (E := fun _ => True) hiss ?_ env (fun _ => trivial) t (.refl w t)
  intro e op t' _ hop hsame
  exact hop e t' hsame

def Op.reports (node : NodeID) : Op → Prop
  | .exec (.updateWorkload (.markStarted _ n _)) | .exec (.updateWorkload (.markFinished _ n _ _ _ _)) => n = node
  | .exec (.updateWorkload (.requeue _ _ _)) | .exec (.releaseReservations _ _) | .exec (.freeGPUs _) => True
  | op => op.reads = true

theorem reports_of_reads (op : Op) (h : op.reads = true) : op.reports node := by
  cases op with
  | exec stmt =>
    cases stmt with
    | insertEvent => rfl
    | _ => cases h
  | scheduleOne | register => cases h
  | _ => rfl

theorem issues_reports (ev : HealthEvent) : Issues (Op.reports node) (applyHealthEvent node ev) :=
  issues_applyHealthEvent reports_of_reads (fun _ => rfl) (fun _ => rfl) trivial trivial fun _ => trivial

theorem handleHealth_establishes {I R : Tables → Prop} (hev : ev ∈ events)
    (hI : ∀ env op t, Op.reports node op → I t → I (act env op t).1)
    (hbody : Triple act Env.Healthy I (applyHealthEvent node ev) fun _ => R)
    (hR : ∀ env op t, Op.reports node op → R t → R (act env op t).1) :
    Triple act Env.Healthy I (handleHealth node events) fun _ => R := by
  refine .bind (.forEach_of_mem hev ?_ hbody ?_) fun _ => .ret fun _ h => h
  · intro other _
    exact Issues.triple (issues_reports other) fun e op t _ hop => hI e op t hop
  · intro other _
    exact Issues.triple (issues_reports other) fun e op t _ hop => hR e op t hop

theorem handleHealth_releases (hev : ev ∈ events) (hout : ev.kind.outcome = some outcome) :
    Triple act Env.Healthy (fun _ => True) (handleHealth node events) fun _ t => t.held ev.workloadID = [] := by
  refine handleHealth_establishes hev (fun _ _ _ _ _ => trivial) ?_ ?_
  · rw [applyHealthEvent_of_outcome hout]
    intro env henv t _
    obtain ⟨now, hview⟩ := triple_finish ev.workloadID _ _ node ev outcome env henv t ⟨rfl, rfl⟩
    rw [if_pos rfl] at hview
    exact hview.held
  · intro env op t hop hheld
    have heff := act_heldEffect env op t ev.workloadID
    rw [hheld] at heff
    generalize (act env op t).1.held ev.workloadID = after at heff ⊢
    cases heff with
    | unchanged | released => rfl
    | booked _ _ _ _ _ hbook =>
      subst hbook
      cases hop

theorem gpusOf_free (t : Tables) (u w : WorkloadID) :
    (Stmt.exec t (.freeGPUs u)).1.gpusOf w = (t.gpusOf w).filter fun e => !decide (e.2.workloadID = some u) := by
  show (t.nodeGPUs.modify (fun _ g => g.workloadID = some u) fun g =>
    { g with workloadID := none, vramReserved := 0 }).select _ = _
  rw [select_modify_of_dropped]
  · rfl
  · intro _ g _
    simp

theorem gpusOf_nil_of_reports (env : Env) (op : Op) (t : Tables) (hop : Op.reports node op)
    (h : t.gpusOf w = []) : (act env op t).1.gpusOf w = [] := by
  have hacts := act_acts env op t
  generalize (act env op t).1 = t' at hacts ⊢
  cases hacts with
  | unchanged | updated | released | noted => exact h
  | freed => rw [gpusOf_free, h, List.filter_nil]
  | inserted | nodeUpdated | equipped | booked | registered => cases hop

theorem handleHealth_frees (hev : ev ∈ events) (hout : ev.kind.outcome = some outcome) :
    Triple act Env.Healthy (fun _ => True) (handleHealth node events) fun _ t => t.gpusOf ev.workloadID = [] := by
  refine handleHealth_establishes hev (fun _ _ _ _ _ => trivial) ?_ fun env op t => gpusOf_nil_of_reports env op t
  have hiss : Issues (Op.reports node) (finishWorkload node ev outcome) := by
    rw [← applyHealthEvent_of_outcome hout]
    exact issues_reports ev
  rw [applyHealthEvent_of_outcome hout]
  -- the third statement frees them, and nothing after it assigns one
  refine .call (R := fun _ _ => True) (fun _ _ _ _ => trivial) fun updated => ?_
  refine .call (R := fun _ _ => True) (fun _ _ _ _ => trivial) fun released => ?_
  refine .call (R := fun _ t => t.gpusOf ev.workloadID = []) ?_ fun freed => ?_
  · intro env t henv _
    rw [act_of_not_fails henv]
    show (Stmt.exec t (.freeGPUs ev.workloadID)).1.gpusOf ev.workloadID = []
    rw [gpusOf_free, List.filter_eq_nil_iff]
    intro e he
    have hasg := (t.nodeGPUs.mem_select _).1 he
    simpa using hasg.2
  · refine Issues.triple (((hiss.tail updated).tail released).tail freed) ?_
    intro env op t _ hop
    exact gpusOf_nil_of_reports env op t hop

theorem row_of_reports {r : Workload} (env : Env) (op : Op) (t : Tables) (hop : Op.reports node op)
    (hrow : t.workloads.lookup w = some r) : ∃ r', (act env op t).1.workloads.lookup w = some r' ∧
      (r' = r ∨ r.nodeID = some node ∧ r'.retryCount = r.retryCount ∨ r'.retryCount = r.retryCount + 1) := by
  have heff := act_effect env op t w
  rw [hrow] at heff
  generalize (act env op t).1.workloads.lookup w = after at heff ⊢
  cases heff with
  | unchanged => exact ⟨r, rfl, .inl rfl⟩
  | updated s r hupd _ hguard =>
    subst hupd
    refine ⟨s.set r, rfl, .inr ?_⟩
    cases s with
    | markStarted _ n | markFinished _ n =>
      obtain rfl : n = node := hop
      exact .inl ⟨of_decide_eq_true hguard, rfl⟩
    | requeue => exact .inr rfl
    | _ => cases hop
  | dispatched _ _ _ _ hbook =>
    subst hbook
    cases hop

def Retried (w : WorkloadID) (r : Workload) (t : Tables) : Prop :=
  ∃ r', t.workloads.lookup w = some r' ∧ r.retryCount < r'.retryCount

theorem retried_of_reports (r : Workload) (env : Env) (op : Op) (t : Tables)
    (hop : Op.reports node op) (h : Retried w r t) : Retried w r (act env op t).1 := by
  obtain ⟨_, hrow', hless⟩ := h
  obtain ⟨r'', hrow'', hcases⟩ := row_of_reports env op t hop hrow'
  refine ⟨r'', hrow'', ?_⟩
  rcases hcases with rfl | ⟨-, _⟩ | _
  · exact hless
  · omega
  · omega

theorem handleHealth_requeues (hev : ev ∈ events)
    (hout : ev.kind.outcome = some outcome) (hfor : row.nodeID ≠ some node) (hretry : ev.kind.retryable = true)
    (hcnt : row.retryCount < row.maxRetries) (hstat : row.status.isRetryable = true) :
    Triple act Env.Healthy (fun t => t.workloads.lookup ev.workloadID = some row) (handleHealth node events)
      fun _ => Retried ev.workloadID row := by
  have hrun : Triple act Env.Healthy
      (fun t => t.workloads.lookup ev.workloadID = some row ∨ Retried ev.workloadID row t)
        (handleHealth node events)
      fun _ => Retried ev.workloadID row := by
    refine handleHealth_establishes hev ?_ (.or ?_ ?_) fun env op t => retried_of_reports row env op t
    · rintro env op t hop (hrow | hretried)
      · obtain ⟨r', hrow', rfl | ⟨hon, -⟩ | _⟩ := row_of_reports env op t hop hrow
        · exact .inl hrow'
        · exact absurd hon hfor
        · exact .inr ⟨r', hrow', by omega⟩
      · exact .inr (retried_of_reports row env op t hop hretried)
    · rw [applyHealthEvent_of_outcome hout]
      intro env henv t hrow
      obtain ⟨now, hview⟩ := triple_finish ev.workloadID _ _ node ev outcome env henv t ⟨hrow, rfl⟩
      -- the first `UPDATE` finds the workload on another node, and the second does not ask
      have hfin : rowStep (ev.finish node outcome) ev.workloadID (some row) = some row := by
        simp [rowStep, HealthEvent.finish, WorkloadStmt.guard, hfor]
      refine ⟨set (.requeue ev.workloadID now ev.message) row, ?_, Int.lt_succ row.retryCount⟩
      rw [hview.row, finishedRow, hfin, if_pos hretry, rowStep, Option.map_some, if_pos]
      exact ⟨rfl, by simp [WorkloadStmt.guard, hcnt, hstat]⟩
    · refine Issues.triple (issues_reports ev) ?_
      intro env op t _ hop
      exact retried_of_reports row env op t hop
  intro env henv t hrow
  exact hrun env henv t (.inl hrow)

theorem idle_of_untouched (hev : ev ∈ events) (hout : ev.kind.outcome ≠ none)
    (h : ∀ env : ℕ → Env, ∀ row, t.workloads.lookup ev.workloadID = some row → row.nodeID ≠ some node →
      Untouched ev.workloadID t ((handleHealth node events).run act env t).1) : AgentReport.Idle node t ev := by
  obtain ⟨outcome, hout⟩ := Option.ne_none_iff_exists'.1 hout
  intro row hrow hfor
  have hhealthy : ∀ n : ℕ, (fun _ : ℕ => Sample.env 0) n |>.Healthy := fun _ => rfl
  have hsame := h (fun _ => Sample.env 0) row hrow hfor
  refine ⟨?_, ?_, ?_⟩
  · rw [← hsame.held]
    exact handleHealth_releases hev hout _ hhealthy t trivial
  · rw [← hsame.gpus]
    exact handleHealth_frees hev hout _ hhealthy t trivial
  · rintro ⟨hretry, hcnt, hstat⟩
    obtain ⟨_, hrow', hless⟩ := handleHealth_requeues hev hout hfor hretry hcnt hstat _ hhealthy t hrow
    rw [hsame.row, hrow] at hrow'
    cases hrow'
    exact absurd hless (lt_irrefl _)

end

/-! ## Metrics -/

section

variable {req : MetricsRequest} {w : WorkloadID}

theorem tables_insertWorkloadMetrics (env : Env) (wm : WorkloadMetrics) (db : Database) :
    (insertWorkloadMetrics env req wm db).tables = db.tables := by
  unfold insertWorkloadMetrics
  split_ifs
  · rfl
  · split <;> rfl

variable (wms : List WorkloadMetrics)

theorem tables_insertMetrics : ∀ (env : ℕ → Env)
    (db : Database), (insertMetrics req env wms db).tables = db.tables := by
  induction wms with
  | nil =>
    intro env db
    rfl
  | cons _ _ ih =>
    intro env db
    rw [insertMetrics, ih, tables_insertWorkloadMetrics]

theorem insertNodeMetrics_eq (env : Env) (node : NodeID) (req : MetricsRequest) (db : Database) :
    ∃ nodeMetrics, insertNodeMetrics env node req db = { db with nodeMetrics } := by
  unfold insertNodeMetrics
  split_ifs
  · exact ⟨db.nodeMetrics, rfl⟩
  · split
    · exact ⟨db.nodeMetrics, rfl⟩
    · exact ⟨_, rfl⟩

theorem handleMetrics_eq (env : ℕ → Env) (node : NodeID) (req : MetricsRequest) (db : Database) :
    (handleMetrics env node req db).tables = db.tables ∧
      (handleMetrics env node req db).workloadMetrics =
          (insertMetrics req env req.workloads db).workloadMetrics := by
  unfold handleMetrics
  obtain ⟨_, hsame⟩ := insertNodeMetrics_eq (env req.workloads.length) node req
    (insertMetrics req env req.workloads db)
  rw [hsame]
  exact ⟨tables_insertMetrics req.workloads env db, rfl⟩

theorem metricsOf_insertWorkloadMetrics (env : Env) (wm : WorkloadMetrics) (db : Database)
    (h : wm.workloadID = w → db.workloadMetrics.lookup (w, req.ts) ≠ none) :
    (insertWorkloadMetrics env req wm db).metricsOf w = db.metricsOf w := by
  unfold insertWorkloadMetrics
  split_ifs
  · rfl
  · split
    · rfl
    · rename_i rows hins
      show rows.select _ = _
      have hnew : ¬ wm.workloadID = w := by
        rintro rfl
        exact h rfl (lookup_of_insert hins)
      rw [select_insert hins]
      simp [Database.metricsOf, hnew]

theorem metricsOf_insertMetrics : ∀ (env : ℕ → Env) (db : Database),
      (∀ wm ∈ wms, wm.workloadID = w → db.workloadMetrics.lookup (w, req.ts) ≠ none) →
        (insertMetrics req env wms db).metricsOf w = db.metricsOf w := by
  induction wms with
  | nil =>
    intro env db _
    rfl
  | cons wm _ ih =>
    intro env db h
    have hfirst := metricsOf_insertWorkloadMetrics (env 0) wm db (h wm List.mem_cons_self)
    rw [insertMetrics, ih, hfirst]
    intro other hother hw
    rw [Database.lookup_metrics_of_eq hfirst]
    exact h other (List.mem_cons_of_mem wm hother) hw

theorem lookup_insertWorkloadMetrics {key : WorkloadID × Millis} (env : Env) (wm : WorkloadMetrics)
    {db : Database} (h : db.workloadMetrics.lookup key ≠ none) :
    (insertWorkloadMetrics env req wm db).workloadMetrics.lookup key ≠ none := by
  unfold insertWorkloadMetrics
  split_ifs
  · exact h
  · split
    · exact h
    · rename_i rows hins
      show rows.lookup key ≠ none
      rw [lookup_insert hins]
      split_ifs
      · exact Option.some_ne_none _
      · exact h

theorem lookup_insertMetrics {key : WorkloadID × Millis} :
    ∀ (env : ℕ → Env) (db : Database), db.workloadMetrics.lookup key ≠ none →
      (insertMetrics req env wms db).workloadMetrics.lookup key ≠ none := by
  induction wms with
  | nil =>
    intro env db h
    exact h
  | cons wm _ ih =>
    intro env db h
    exact ih _ _ (lookup_insertWorkloadMetrics (env 0) wm h)

theorem recorded_of_mem {wm : WorkloadMetrics} : ∀ (env : ℕ → Env)
    (db : Database), (∀ n, (env n).Healthy) → wm ∈ wms →
      db.tables.workloads.lookup wm.workloadID ≠ none →
        (insertMetrics req env wms db).workloadMetrics.lookup (wm.workloadID, req.ts) ≠ none := by
  induction wms with
  | nil =>
    intro env db _ hmem _
    cases hmem
  | cons head rest ih =>
    intro env db henv hmem hthere
    rw [insertMetrics]
    rcases List.mem_cons.1 hmem with rfl | hrest
    · apply lookup_insertMetrics
      have hfails : (env 0).fails = false := henv 0
      simp only [insertWorkloadMetrics, hfails, hthere, Bool.false_eq_true, or_self, if_false]
      split
      · rename_i hins
        intro hnone
        rw [lookup_eq_none_iff] at hnone
        simp [Table.insert, hnone] at hins
      · rename_i rows hins
        rw [lookup_insert hins, if_pos rfl]
        exact Option.some_ne_none _
    · apply ih _ _ (fun n => henv (n + 1)) hrest
      rw [tables_insertWorkloadMetrics]
      exact hthere

end

/-- **A report leaves the workloads of other nodes alone**, whatever the environment, exactly when
it spares them. -/
theorem isolation_iff (db : Database) (node : NodeID) (report : AgentReport) :
    (∀ env : ℕ → Env, Isolated node db (serve env node report.endpoint report.body db).1) ↔
      report.Spares node db := by
  cases report with
  | health =>
    constructor
    · intro h ev hev hout
      refine idle_of_untouched hev hout fun env row hrow hfor => ?_
      exact (h env ev.workloadID row hrow hfor).1
    · intro h env w row hrow hfor
      exact ⟨handleHealth_untouched hrow hfor h env, rfl⟩
  | metrics req =>
    constructor
    · intro h wm hwm row hrow hfor
      have hsame := (h (fun _ => Sample.env 0) wm.workloadID row hrow hfor).2
      rw [← Database.lookup_metrics_of_eq hsame]
      show (handleMetrics (fun _ => Sample.env 0) node req db).workloadMetrics.lookup _ ≠ none
      rw [(handleMetrics_eq _ node req db).2]
      refine recorded_of_mem req.workloads _ db (fun _ => rfl) hwm ?_
      rw [hrow]
      exact Option.some_ne_none row
    · intro h env w row hrow hfor
      obtain ⟨htables, hmetrics⟩ := handleMetrics_eq env node req db
      have hsame : (insertMetrics req env req.workloads db).metricsOf w = db.metricsOf w := by
        refine metricsOf_insertMetrics req.workloads env db ?_
        rintro wm hwm rfl
        exact h wm hwm row hrow hfor
      constructor
      · show Untouched w db.tables (handleMetrics env node req db).tables
        rw [htables]
        exact .refl w db.tables
      · show (handleMetrics env node req db).workloadMetrics.select _ = _
        rw [hmetrics]
        exact hsame

namespace Sample

def neighbour : List (Move Handler Env) := oneJob ++ alone 9 5
    (.call (.register { machine with hostname := lit "b" })) 2

def withSecret (s : Server) : Database where
  tables := s.shared
  secrets := (empty.insert [9, 0] (lit "ab")).getD .empty
  workloadMetrics := .empty
  nodeMetrics := .empty

def signed (body : Body) : Signed := ⟨[9, 0], lit "ab", 0, body⟩

end Sample

open Sample in
/-- The second node says that the job of the first one failed, and later what the job used: the
reservation of a job that still runs is released, and the metrics are kept. -/
theorem neighbour_is_believed : ∃ s : Server, Run.exec Server.step Server.initial neighbour = some s ∧
      ((withSecret s).tables.workloads.lookup [2, 0]).map (fun w => (w.nodeID, w.status)) = some
        (some [1, 0], .running) ∧
      let failed := handle (fun _ => env 1) .health [9, 0]
        (signed (.health 0 [tell [2, 0] .failed])).request (withSecret s)
      let used := handle (fun _ => env 1) .metrics [9, 0]
        (signed (.metrics ⟨0, 60, [⟨[2, 0], 1, 1, 0, 0, 0, 0, 0⟩], ⟨0, 0, 0⟩⟩)).request (withSecret s)
      failed.2 = .response .ok ∧ (s.shared.held [2, 0]).length = 1 ∧
        failed.1.tables.held [2, 0] = [] ∧ ¬ Isolated [9, 0] (withSecret s) failed.1 ∧
            used.2 = .response .ok ∧ ¬ Isolated [9, 0] (withSecret s) used.1 := by
  obtain ⟨s, hs, hrow, hans, hheld, hrel, hans', hmetrics⟩ :
      ∃ s, Run.exec Server.step Server.initial neighbour = some s ∧
        ((withSecret s).tables.workloads.lookup [2, 0]).map (fun w => (w.nodeID, w.status)) = some
          (some [1, 0], .running) ∧
        let failed := handle (fun _ => env 1) .health [9, 0] (signed (.health 0 [tell [2, 0] .failed])).request
          (withSecret s)
        let used := handle (fun _ => env 1) .metrics [9, 0]
          (signed (.metrics ⟨0, 60, [⟨[2, 0], 1, 1, 0, 0, 0, 0, 0⟩], ⟨0, 0, 0⟩⟩)).request (withSecret s)
        failed.2 = .response .ok ∧ (s.shared.held [2, 0]).length = 1 ∧ failed.1.tables.held [2, 0] = [] ∧
          used.2 = .response .ok ∧ (used.1.metricsOf [2, 0]).length = 1 := by
    decide +kernel
  obtain ⟨row, hlook, hon⟩ := Option.map_eq_some_iff.1 hrow
  have hfirst : row.nodeID = some [1, 0] := congrArg Prod.fst hon
  have hfor : row.nodeID ≠ some [9, 0] := by
    rw [hfirst]
    decide
  refine ⟨s, hs, hrow, hans, hheld, hrel, ?_, hans', ?_⟩
  · intro hisol
    have hsame := (hisol [2, 0] row hlook hfor).1.held
    rw [hrel] at hsame
    have hnone : s.shared.held [2, 0] = [] := hsame.symm
    rw [hnone] at hheld
    cases hheld
  · intro hisol
    have hsame := (hisol [2, 0] row hlook hfor).2
    rw [hsame] at hmetrics
    cases hmetrics

end Ocelot.Compute
