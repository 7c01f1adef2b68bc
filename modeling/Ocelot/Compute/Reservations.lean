/-
# Reservations match workloads, with every handler, event, booking and pass as one step.

`Keeps` is what a step must meet. Without database errors it is necessary too: the first step that
does not meet it leaves a workload and its reservations apart.
-/
import Ocelot.Compute.WorkloadView

namespace Ocelot.Compute

open Option Workload Bool Table Tables Sample WorkloadStmt Plane WorkloadStatus
open Tracker (Bytes lit)
open Prog (Triple)

/-! ## Reservations that back -/

def Reservation.Backs (r : Reservation) (row : Workload) : Prop :=
  row.nodeID = some r.nodeID ∧ r.cpuMcores = row.manifest.resources.cpuMillicores ∧
    r.ramMb = row.manifest.resources.ramMb

def Workload.Backed (row : Workload) (held : List Reservation) : Prop :=
  if row.status.isActive then ∃ r, held = [r] ∧ r.Backs row else held = []

/-- **Reservations match workloads.** -/
def Tables.Matched (t : Tables) : Prop := ∀ w row, t.workloads.lookup w = some row → row.Backed (t.held w)

def Accounted : Option Workload → List Reservation → Prop
  | none, held => held = []
  | some row, held => row.Backed held

namespace Workload

variable {row : Workload} {held : List Reservation}

theorem backed_of_active (h : row.status.isActive = true) : row.Backed held ↔ ∃ r, held = [r] ∧ r.Backs row := by
  rw [Backed, if_pos h]

theorem backed_of_inactive (h : row.status.isActive = false) : row.Backed held ↔ held = [] := by
  rw [Backed, if_neg (by simp [h])]

theorem Backed.congr {row' : Workload} (h : row.Backed held) (hact : row'.status.isActive = row.status.isActive)
    (hnode : row'.nodeID = row.nodeID) (hman : row'.manifest = row.manifest) : row'.Backed held := by
  unfold Backed Reservation.Backs at h ⊢
  rw [hact, hnode, hman]
  exact h

end Workload

variable {row : Option Workload} {held : List Reservation}

theorem accounted_released (h : ∀ r ∈ row, r.status.isActive = false) : Accounted row [] := by
  cases row with
  | none => rfl
  | some r => exact (backed_of_inactive (h r rfl)).2 rfl

theorem Accounted.rowStep (h : Accounted row held) (s : WorkloadStmt) (w : WorkloadID)
    (hset : ∀ r, row = some r → w = s.id → s.guard r = true → (s.set r).Backed held) :
    Accounted (Compute.rowStep s w row) held := by
  cases row with
  | none => exact h
  | some r =>
    show (if w = s.id ∧ s.guard r = true then s.set r else r).Backed held
    split_ifs with happ
    · exact hset r rfl happ.1 happ.2
    · exact h

theorem inactive_requeue (h : ∀ r ∈ row, r.status.isActive = false) (w u : WorkloadID)
    (now : Millis) (reason : Bytes) : ∀ r ∈ rowStep (.requeue u now reason) w row, r.status.isActive = false := by
  intro _ hr'
  obtain ⟨r, hr, rfl⟩ := map_eq_some_iff.1 hr'
  split_ifs
  · rfl
  · exact h r hr

variable {id : WorkloadID} {org : OrgID} {r : Workload}

theorem cancel_backed_iff {now : Millis}
    (h : r.Backed held) (hguard : (WorkloadStmt.cancel id org now).guard r = true) :
    ((WorkloadStmt.cancel id org now).set r).Backed held ↔ r.status ≠ .dispatched := by
  simp only [WorkloadStmt.guard, and_eq_true, decide_eq_true_eq, not_eq_true', or_eq_false_iff,
    decide_eq_false_iff_not] at hguard
  obtain ⟨-, -, hstop⟩ := hguard
  by_cases hrun : r.status.isRunning = true
  · have hact : r.status.isActive = true := by simp [isActive_eq, hrun]
    have hne : r.status ≠ .dispatched := by
      intro hdisp
      rw [hdisp] at hrun
      cases hrun
    refine iff_of_true ?_ hne
    simp only [WorkloadStmt.set, hrun, if_true]
    exact h.congr hact.symm rfl rfl
  · simp only [WorkloadStmt.set, hrun, false_eq_true, if_false]
    rw [backed_of_inactive rfl]
    by_cases hdisp : r.status = .dispatched
    · obtain ⟨_, hres, -⟩ := (backed_of_active (by rw [hdisp]; rfl)).1 h
      simp [hdisp, hres]
    · have hinact : r.status.isActive = false := by
        simp [isActive_eq, hrun, hdisp, hstop]
      exact iff_of_true ((backed_of_inactive hinact).1 h) hdisp

variable {node : NodeID}

theorem markStarted_backed_iff {ts : Millis} (h : r.Backed held) :
    ((WorkloadStmt.markStarted id node ts).set r).Backed held ↔ r.status.isActive = true := by
  constructor
  · intro haft
    by_contra hinact
    rw [not_eq_true] at hinact
    rw [backed_of_inactive hinact] at h
    obtain ⟨_, hres, -⟩ := (backed_of_active rfl).1 haft
    rw [h] at hres
    cases hres
  · intro hact
    exact h.congr hact.symm rfl rfl

theorem finishedRow_active (node : NodeID) (ev : HealthEvent) (outcome : Outcome) (now : Millis)
    (r : Workload) : ∃ r', finishedRow ev.workloadID node ev outcome now (some r) = some r' ∧
      (r'.status.isActive = true ↔ r.status.isActive = true ∧ r.nodeID ≠ some node) := by
  have hout : outcome.status.isActive = false := by cases outcome <;> rfl
  -- after the first `UPDATE`
  obtain ⟨mid, hmid, hact⟩ : ∃ mid, rowStep (ev.finish node outcome) ev.workloadID (some r) = some mid ∧
      (mid.status.isActive = true ↔ r.status.isActive = true ∧ r.nodeID ≠ some node) := by
    refine ⟨_, rfl, ?_⟩
    by_cases hnode : r.nodeID = some node
    · simp [HealthEvent.finish, WorkloadStmt.id, WorkloadStmt.guard, WorkloadStmt.set, hnode, hout]
    · simp [HealthEvent.finish, WorkloadStmt.id, WorkloadStmt.guard, hnode]
  unfold finishedRow
  rw [hmid]
  split_ifs
  · refine ⟨_, rfl, ?_⟩
    show (if _ ∧ _ then _ else mid).status.isActive = true ↔ _
    rw [← hact]
    split_ifs with hreq
    · -- what is requeued was not active
      obtain ⟨-, hguard⟩ := hreq
      simp only [WorkloadStmt.guard, and_eq_true] at hguard
      have hinact := not_isActive_of_isTerminal (isTerminal_of_isRetryable hguard.2)
      rw [hinact]
      exact iff_of_false (by simp [WorkloadStmt.set, isActive]) (by simp)
    · rfl
  · exact ⟨mid, rfl, hact⟩

/-! ## Programs -/

section

variable (w : WorkloadID)

theorem accounted_recover (now : Millis) (u : WorkloadID) :
    Triple act Env.Healthy (Sees w Accounted) (recoverWorkload now u) fun _ => Sees w Accounted := by
  apply triple_sees
  intro row held h
  refine (triple_recover w row held now u).mono ?_
  rintro _ t ⟨later, hview⟩
  apply hview.sees
  by_cases hw : w = u
  · rw [if_pos hw]
    refine accounted_released (inactive_requeue ?_ w u later _)
    intro _ hr'
    obtain ⟨r, _, rfl⟩ := map_eq_some_iff.1 hr'
    by_cases hterm : r.status.isTerminal = true
    · simp [WorkloadStmt.guard, hterm, not_isActive_of_isTerminal]
    · simp [WorkloadStmt.id, WorkloadStmt.guard, WorkloadStmt.set, hterm, hw, isActive]
  · rw [if_neg hw, rowStep_of_ne hw, rowStep_of_ne hw]
    exact h

theorem accounted_expire (now : Millis) (u : WorkloadID) :
    Triple act Env.Healthy (Sees w Accounted) (expireWorkload now u) fun _ => Sees w Accounted := by
  apply triple_sees
  intro row held h
  refine (triple_expire w row held now u).mono ?_
  intro _ t hview
  apply hview.sees
  split_ifs with hexp
  · obtain ⟨hw, hany⟩ := hexp
    obtain ⟨r, rfl, hguard⟩ := (any_eq_true _ _).1 hany
    apply accounted_released
    intro _ hr'
    cases hr'
    show (if _ ∧ _ then _ else r).status.isActive = false
    rw [if_pos ⟨hw, hguard⟩]
    rfl
  · apply h.rowStep
    rintro r rfl hw hguard
    exact absurd ⟨hw, hguard⟩ hexp

theorem accounted_stop (org : OrgID) (id : WorkloadID) :
    Triple act Env.Healthy (Sees w Accounted) (handleStop org id) fun _ => Sees w Accounted := by
  apply triple_sees
  intro row held h
  refine (triple_stop w row held org id).mono ?_
  intro _ t hview
  apply hview.sees
  apply h.rowStep
  rintro r rfl - hguard
  simp only [WorkloadStmt.guard, and_eq_true] at hguard
  have hact : r.status.isActive = true := by simp [isActive_eq, hguard.2]
  have hback : r.Backed held := h
  exact hback.congr hact.symm rfl rfl

theorem accounted_submit (org : OrgID) (account : AccountID) (req : SubmitWorkloadRequest) :
    Triple act Env.Healthy (Sees w Accounted) (handleSubmit org account req) fun _ => Sees w Accounted := by
  apply triple_sees
  intro row held h
  refine (triple_submit w row held Env.Healthy org account req).mono ?_
  rintro _ t (hview | ⟨rfl, now, hview⟩)
  · exact hview.sees h
  · apply hview.sees
    exact (backed_of_inactive rfl).2 h

end

def Tables.Knows (t : Tables) (pw : PendingWork) : Prop :=
  ∃ row, t.workloads.lookup pw.id = some row ∧ row.manifest = pw.manifest

variable {t : Tables} {pw : PendingWork}

theorem Tables.Knows.act (h : t.Knows pw) (env : Env) (op : Op) : (act env op t).1.Knows pw := by
  obtain ⟨_, hrow, hman⟩ := h
  obtain ⟨row', hrow', hsame⟩ := act_row hrow env op
  exact ⟨row', hrow', hsame.trans hman⟩

theorem knows_of_mem_pending {rank : Bytes → ℕ} (h : pw ∈ t.pending rank) : t.Knows pw := by
  obtain ⟨e, he, rfl⟩ := List.mem_map.1 h
  obtain ⟨hrow, -⟩ := mem_ordered.1 (List.mem_of_mem_take he)
  exact ⟨e.2, hrow, rfl⟩

theorem accounted_scheduleTx (h : ∀ w, Sees w Accounted t) (hknown : t.Knows pw)
    (env : Env) (w : WorkloadID) : Sees w Accounted (scheduleTx env pw t).1 := by
  rcases scheduleTx_cases env pw t with ⟨hsame, -⟩ | ⟨node, gpu, reservations, -, -, hins, hcnt, hbook⟩
  · rw [hsame]
    exact h w
  · rw [hbook]
    show Accounted ((t.workloads.modify (dispatchable pw.id) (dispatch node env.now)).lookup w)
      ((t.book pw node gpu reservations env.now).held w)
    rw [held_book t pw node gpu env.now hins, lookup_modify]
    by_cases hw : w = pw.id
    · -- the workload is pending, so it holds nothing yet
      subst hw
      obtain ⟨row, hrow, hman⟩ := hknown
      obtain ⟨id, _, hrow', hdispatchable⟩ := (count_pos_iff _ _).1 hcnt
      simp only [dispatchable, and_eq_true, decide_eq_true_eq] at hdispatchable
      obtain ⟨rfl, hpend⟩ := hdispatchable
      rw [hrow] at hrow'
      cases hrow'
      have hbef : row.Backed (t.held pw.id) := by
        have hsees : Accounted (t.workloads.lookup pw.id) (t.held pw.id) := h pw.id
        rw [hrow] at hsees
        exact hsees
      rw [backed_of_inactive (not_isActive_of_isPending hpend)] at hbef
      rw [hbef, hrow, if_pos rfl]
      have hdisp : (if dispatchable pw.id pw.id row = true then dispatch node env.now row else row) =
          dispatch node env.now row := by
        simp [dispatchable, hpend]
      rw [map_some, hdisp]
      show (dispatch node env.now row).Backed _
      rw [backed_of_active rfl]
      refine ⟨_, rfl, rfl, ?_, ?_⟩
      · show pw.manifest.resources.cpuMillicores = row.manifest.resources.cpuMillicores
        rw [hman]
      · show pw.manifest.resources.ramMb = row.manifest.resources.ramMb
        rw [hman]
    · have hother : ∀ row, dispatchable pw.id w row = false := by
        intro row
        simp [dispatchable, hw]
      simp only [hother, false_eq_true, if_false, map_id', List.append_nil, if_neg hw]
      exact h w

/-! ## Runs of the plane -/

namespace Plane

def Label.Healthy : Label → Prop
  | .call _ env | .event _ _ env => ∀ n, (env n).Healthy
  | .select env | .scheduleOne env => env.Healthy

/-- **What a step must meet.** -/
def Keeps (p : Plane) : Label → Prop
  | .call (.cancel org _ id) _ =>
    ∀ row ∈ p.tables.workloads.lookup id, row.orgID = org → row.status ≠ .dispatched
  | .event node ev _ =>
    ∀ row ∈ p.tables.workloads.lookup ev.workloadID,
      (ev.kind = .started → row.nodeID = some node → row.status.isActive = true) ∧
      (ev.kind.outcome ≠ none → row.status.isActive = true → row.nodeID = some node)
  | _ => True

instance (p : Plane) (l : Label) : Decidable (p.Keeps l) := by
  unfold Keeps
  split <;> infer_instance

structure Sound (p : Plane) : Prop where
  accounted : ∀ w, Sees w Accounted p.tables
  batch : ∀ pw ∈ p.batch, p.tables.Knows pw

variable {p : Plane} {t : Tables} {env : ℕ → Env}

theorem Sound.matched (h : p.Sound) : p.tables.Matched := by
  intro w _ hrow
  have hsees : Accounted (p.tables.workloads.lookup w) (p.tables.held w) := h.accounted w
  rw [hrow] at hsees
  exact hsees

theorem sound_initial : initial.Sound where
  accounted := fun _ => rfl
  batch := fun _ h => by cases h

theorem accounted_call {c : Call} (hc : ∀ org account id, c ≠ .cancel org account id) (w : WorkloadID) :
    Triple act Env.Healthy (Sees w Accounted) c.code fun _ => Sees w Accounted := by
  cases c with
  | submit org account req => exact (accounted_submit w org account req).map
  | cancel org account id => exact absurd rfl (hc org account id)
  | stop org id => exact (accounted_stop w org id).map
  | register req => exact (quiet_register req).sees.map
  | heartbeat node status => exact (quiet_heartbeat node status).sees.map
  | inventory node req => exact (quiet_inventory node req).sees.map
  | drain node => exact (quiet_drain node).sees.map
  | setDead node => exact (quiet_setDead node).sees.map
  | checkNodes lossAfter => exact (triple_checkNodes (accounted_recover w) lossAfter).map
  | checkDeadlines => exact (triple_checkDeadlines (accounted_expire w)).map

theorem update_matched (hp : p.Sound) (id : WorkloadID) {G C : Workload → Prop}
    (h : ∀ w, ∃ s : WorkloadStmt, s.id = id ∧ (∀ row, s.guard row = true ↔ G row) ∧
      (∀ row held, row.Backed held → s.guard row = true → ((s.set row).Backed held ↔ C row)) ∧
      View w (rowStep s w (p.tables.workloads.lookup w)) (p.tables.held w) t) :
    (t.Matched → ∀ row ∈ p.tables.workloads.lookup id, G row → C row) ∧
      ((∀ row ∈ p.tables.workloads.lookup id, G row → C row) → ∀ w, Sees w Accounted t) := by
  constructor
  · intro hmatch row hrow hG
    rw [mem_def] at hrow
    obtain ⟨s, hid, hguard, hset, hview⟩ := h id
    have haft : t.workloads.lookup id = some (s.set row) := by
      rw [hview.row, hrow]
      show some (if _ ∧ _ then _ else row) = _
      rw [if_pos ⟨hid.symm, (hguard row).2 hG⟩]
    have hback := hmatch id _ haft
    rw [hview.held, hset row _ (hp.matched id row hrow) ((hguard row).2 hG)] at hback
    exact hback
  · intro hC w
    obtain ⟨s, hid, hguard, hset, hview⟩ := h w
    apply hview.sees
    apply Accounted.rowStep (hp.accounted w)
    rintro row hrow hw happ
    rw [hid] at hw
    subst hw
    exact (hset row _ (hp.matched _ row hrow) happ).2 (hC row hrow ((hguard row).1 happ))

theorem step_cancel (hp : p.Sound) {account : AccountID}
    (henv : ∀ n, (env n).Healthy) (ht : ((Call.cancel org account id).code.run act env p.tables).1 = t) :
    (t.Matched → p.Keeps (.call (.cancel org account id) env)) ∧
      (p.Keeps (.call (.cancel org account id) env) → ∀ w, Sees w Accounted t) := by
  have hmatch := update_matched hp (t := t) id
    (G := fun row => (cancel id org 0).guard row = true) (C := fun row => row.status ≠ .dispatched) ?_
  · refine ⟨fun h row hrow horg hdisp => ?_, fun hkeeps => hmatch.2 fun row hrow hguard => ?_⟩
    · have hguard : (cancel id org 0).guard row = true := by
        simp [WorkloadStmt.guard, horg, hdisp, isTerminal]
      exact hmatch.1 h row hrow hguard hdisp
    · simp only [WorkloadStmt.guard, and_eq_true, decide_eq_true_eq] at hguard
      exact hkeeps row hrow hguard.1
  · intro w
    obtain ⟨now, hview⟩ := Triple.map (triple_cancel w _ _ org account id) env henv p.tables ⟨rfl, rfl⟩
    rw [← ht]
    exact ⟨.cancel id org now, rfl, fun _ => .rfl, fun _ _ => cancel_backed_iff, hview⟩

variable {ev : HealthEvent}

theorem step_started (hp : p.Sound) (hkind : ev.kind = .started) (henv : ∀ n, (env n).Healthy)
    (ht : ((applyHealthEvent node ev).run act env p.tables).1 = t) :
    (t.Matched → p.Keeps (.event node ev env)) ∧ (p.Keeps (.event node ev env) → ∀ w, Sees w Accounted t) := by
  have hmatch := update_matched hp (t := t) ev.workloadID (G := fun row => row.nodeID = some node)
    (C := fun row => row.status.isActive = true) ?_
  · refine ⟨fun h row hrow => ⟨fun _ => hmatch.1 h row hrow, fun hout => ?_⟩, fun hkeeps => hmatch.2 ?_⟩
    · rw [hkind] at hout
      exact absurd rfl hout
    · intro row hrow
      exact (hkeeps row hrow).1 hkind
  · intro w
    have hview := triple_started w _ _ node hkind env henv p.tables ⟨rfl, rfl⟩
    rw [ht] at hview
    exact ⟨.markStarted ev.workloadID node ev.ts, rfl, fun _ => decide_eq_true_iff,
      fun _ _ hback _ => markStarted_backed_iff hback, hview⟩

theorem step_finished (hp : p.Sound) {outcome : Outcome}
    (hout : ev.kind.outcome = some outcome) (henv : ∀ n, (env n).Healthy)
    (ht : ((applyHealthEvent node ev).run act env p.tables).1 = t) :
    (t.Matched → p.Keeps (.event node ev env)) ∧ (p.Keeps (.event node ev env) → ∀ w, Sees w Accounted t) := by
  have hview : ∀ w, ∃ now, View w (finishedRow w node ev outcome now (p.tables.workloads.lookup w))
      (if w = ev.workloadID then [] else p.tables.held w) t := by
    intro w
    subst ht
    rw [applyHealthEvent_of_outcome hout]
    exact triple_finish w _ _ node ev outcome env henv p.tables ⟨rfl, rfl⟩
  constructor
  · intro hmatch row hrow
    rw [mem_def] at hrow
    refine ⟨fun hkind => ?_, fun _ hact => ?_⟩
    · rw [hkind] at hout
      cases hout
    · by_contra hnode
      -- still active, and nothing is held any more
      obtain ⟨now, haft⟩ := hview ev.workloadID
      obtain ⟨row', hrow', hiff⟩ := finishedRow_active node ev outcome now row
      have hback := hmatch ev.workloadID row' (by rw [haft.row, hrow, hrow'])
      rw [haft.held, if_pos rfl, backed_of_active (hiff.2 ⟨hact, hnode⟩)] at hback
      obtain ⟨r, hnil, -⟩ := hback
      cases hnil
  · intro hkeeps w
    obtain ⟨now, haft⟩ := hview w
    apply haft.sees
    by_cases hw : w = ev.workloadID
    · subst hw
      rw [if_pos rfl]
      apply accounted_released
      intro row' hrow'
      cases hrow : p.tables.workloads.lookup ev.workloadID with
      | none =>
        rw [hrow] at hrow'
        simp [finishedRow, rowStep] at hrow'
      | some row =>
        obtain ⟨_, hrow'', hiff⟩ := finishedRow_active node ev outcome now row
        rw [hrow, hrow''] at hrow'
        cases hrow'
        rw [← not_eq_true, hiff]
        rintro ⟨hact, hnode⟩
        exact hnode ((hkeeps row hrow).2 (by rw [hout]; exact some_ne_none _) hact)
    · rw [finishedRow_of_ne w _ hw, if_neg hw]
      exact hp.accounted w

theorem step_matched {p' : Plane} {l : Label} (hl : l.Healthy) (hp : p.Sound)
    (hstep : p.step l = some p') : (p'.tables.Matched → p.Keeps l) ∧ (p.Keeps l → p'.Sound) := by
  have hbatch : ∀ pw ∈ p.batch, p'.tables.Knows pw := by
    intro pw hpw
    exact step_keeps (I := fun t => t.Knows pw) (fun env op t ht => ht.act env op) (hp.batch pw hpw) hstep
  cases l with
  | call c env =>
    cases hstep
    by_cases hc : ∃ org account id, c = .cancel org account id
    · obtain ⟨org, account, id, rfl⟩ := hc
      obtain ⟨hif, honly⟩ := step_cancel hp hl rfl
      exact ⟨hif, fun hkeeps => ⟨honly hkeeps, hbatch⟩⟩
    · have hother : ∀ org account id, c ≠ .cancel org account id := by
        rintro org account id rfl
        exact hc ⟨org, account, id, rfl⟩
      have hkeeps : p.Keeps (.call c env) := by
        cases c with
        | cancel org account id => exact absurd rfl (hother org account id)
        | _ => trivial
      refine ⟨fun _ => hkeeps, fun _ => ⟨fun w => ?_, hbatch⟩⟩
      exact accounted_call hother w env hl p.tables (hp.accounted w)
  | event node ev env =>
    cases hstep
    suffices hmatch : (((applyHealthEvent node ev).run act env p.tables).1.Matched →
      p.Keeps (.event node ev env)) ∧
          (p.Keeps (.event node ev env) → ∀ w, Sees w Accounted
            ((applyHealthEvent node ev).run act env p.tables).1) from
      ⟨hmatch.1, fun hkeeps => ⟨hmatch.2 hkeeps, hbatch⟩⟩
    by_cases hstart : ev.kind = .started
    · exact step_started hp hstart hl rfl
    · cases hout : ev.kind.outcome with
      | some => exact step_finished hp hout hl rfl
      | none =>
        refine ⟨fun _ _ _ => ⟨fun h => absurd h hstart, fun h => absurd hout h⟩, fun _ w => ?_⟩
        exact (quiet_applyHealthEvent hout hstart).sees env hl p.tables (hp.accounted w)
  | select env =>
    cases hstep
    refine ⟨fun _ => trivial, fun _ => ⟨hp.accounted, ?_⟩⟩
    intro pw hpw
    have hans : (act env .selectPending p.tables).2 = some (p.tables.pending env.rank) := by
      rw [act_of_not_fails hl]
      rfl
    rw [hans] at hpw
    exact knows_of_mem_pending hpw
  | scheduleOne env =>
    refine ⟨fun _ => trivial, fun _ => ?_⟩
    obtain ⟨pw, hhead, hturn⟩ := step_scheduleOne hstep
    refine ⟨fun w => ?_, fun pw' hpw' => hbatch pw' (hhead ▸ List.mem_cons_of_mem pw hpw')⟩
    rcases hturn with ⟨-, hsame⟩ | ⟨-, htables⟩
    · rw [hsame]
      exact hp.accounted w
    · rw [htables, act_of_not_fails hl]
      exact accounted_scheduleTx hp.accounted (hp.batch pw (hhead ▸ List.mem_cons_self)) env w

end Plane

open Plane

/-- **Reservations match workloads in a run exactly if its steps meet `Keeps`.** -/
theorem reservations_match_iff (ls : List Label) (hls : ∀ l ∈ ls, l.Healthy) {p : Plane}
    (h : Run.exec step initial ls = some p) :
    (∀ pre q, pre <+: ls → Run.exec step initial pre = some q → q.tables.Matched) ↔
      Run.Meets step Keeps initial ls :=
  Run.forall_prefix_iff_meets_of (I := Sound) (fun _ => Sound.matched)
    (fun _ _ _ hl hp hstep => step_matched hl hp hstep) sound_initial hls h

namespace Sample

def placed : List Label :=
  [.call (.register machine) fun _ => env 1,
   .call (.heartbeat [1, 0] (lit "ready")) fun _ => env 1,
   .call (.submit (lit "org") (lit "user") (job 0)) fun _ => env 2,
   .select (env 3), .scheduleOne (env 3)]

def failedOnce : List Label := placed ++ [.event [1, 0] (tell [2, 0] .started) fun _ => env 4,
     .event [1, 0] (tell [2, 0] .failed) fun _ => env 4,
     .select (env 5), .scheduleOne (env 5)]

def withdrawn : List Label := placed ++ [.call (.cancel (lit "org") (lit "user") [2, 0]) fun _ => env 4]

end Sample

theorem reservations_match_failedOnce :
    ∃ p, Run.exec step initial Sample.failedOnce = some p ∧ p.tables.Matched ∧
      (p.tables.workloads.lookup [2, 0]).map Workload.status = some .dispatched := by
  obtain ⟨p, hp, hstat⟩ : ∃ p, Run.exec step initial failedOnce = some p ∧
      (p.tables.workloads.lookup [2, 0]).map Workload.status = some .dispatched := by
    decide +kernel
  have hhealthy : ∀ l ∈ failedOnce, l.Healthy := by
    simp [failedOnce, placed, Label.Healthy, Env.Healthy, env]
  have hmeets : Run.Meets step Keeps initial failedOnce := by
    decide +kernel
  exact ⟨p, hp, (reservations_match_iff failedOnce hhealthy hp).2 hmeets _ p (List.prefix_refl _) hp, hstat⟩

/-- **A job cancelled before it starts** still holds its reservation. -/
theorem cancelled_holds_reservation :
    ∃ p, Run.exec step initial Sample.withdrawn = some p ∧ ¬ p.tables.Matched := by
  obtain ⟨p, hp, ⟨row, hrow, hcanc⟩, hlen⟩ : ∃ p, Run.exec step initial withdrawn = some p ∧
      (∃ row, p.tables.workloads.lookup [2, 0] = some row ∧ row.status = .cancelled) ∧
      (p.tables.held [2, 0]).length = 1 := by
    decide +kernel
  refine ⟨p, hp, fun hmatch => ?_⟩
  have hback := hmatch _ row hrow
  rw [backed_of_inactive (by rw [hcanc]; rfl)] at hback
  rw [hback] at hlen
  cases hlen

end Ocelot.Compute
