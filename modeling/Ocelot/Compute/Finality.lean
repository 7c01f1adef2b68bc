/-
# What has ended stays ended.
-/
import Ocelot.Compute.ControlPlane

namespace Ocelot.Compute

open Server Workload Bool Option Sample


def Workload.Lawful (row row' : Workload) : Prop := row.status.isTerminal = true → row'.status = row.status ∨
      row.status.isRetryable = true ∧ row'.status = .queued ∧ row'.retryCount = row.retryCount + 1

def Tables.Lawful (t t' : Tables) : Prop :=
  ∀ w row, t.workloads.lookup w = some row → ∃ row', t'.workloads.lookup w = some row' ∧ row.Lawful row'

theorem Workload.Lawful.refl (row : Workload) : row.Lawful row := fun _ => .inl rfl

variable {row : Workload} {s : WorkloadStmt}

theorem Workload.lawful_of_not_terminal (h : row.status.isTerminal = false) (row' : Workload) :
    row.Lawful row' := by
  intro hterm
  rw [h] at hterm
  cases hterm

structure Report where
  workload : WorkloadID
  node : NodeID
  status : WorkloadStatus
  deriving DecidableEq

def WorkloadStmt.report : WorkloadStmt → Option Report
  | markStarted id node _ => some ⟨id, node, .running⟩
  | markFinished id node outcome _ _ _ => some ⟨id, node, outcome.status⟩
  | _ => none

def Op.report : Op → Option Report
  | .exec (.updateWorkload s) => s.report
  | _ => none

def Report.Fits (r : Report) (row : Workload) : Prop :=
  row.nodeID = some r.node → row.status.isTerminal = true → row.status = r.status

instance (r : Report) (row : Workload) : Decidable (r.Fits row) := by
  unfold Report.Fits
  infer_instance

theorem WorkloadStmt.set_lawful (hs : s.report = none) (h : s.guard row = true) : row.Lawful (s.set row) := by
  have hrun : row.status.isRunning = true → row.status.isTerminal = false := by
    cases row.status <;> decide
  cases s with
  | cancel =>
    simp only [guard, and_eq_true, not_eq_true', or_eq_false_iff] at h
    exact lawful_of_not_terminal h.2.1 _
  | stop =>
    simp only [guard, and_eq_true] at h
    exact lawful_of_not_terminal (hrun h.2) _
  | requeue =>
    simp only [guard, and_eq_true] at h
    exact fun _ => .inr ⟨h.2, rfl, rfl⟩
  | failLost =>
    simp only [guard, not_eq_true'] at h
    exact lawful_of_not_terminal h _
  | timeOut => exact lawful_of_not_terminal (hrun h) _
  | markStarted | markFinished => cases hs

theorem WorkloadStmt.report_eq (hs : s.report = some r) (row : Workload) :
    s.id = r.workload ∧ s.guard row = decide (row.nodeID = some r.node) ∧
      (s.set row).status = r.status ∧ r.status ≠ .queued := by
  cases s with
  | markStarted =>
    cases hs
    exact ⟨rfl, rfl, rfl, WorkloadStatus.noConfusion⟩
  | markFinished _ _ outcome =>
    cases hs
    refine ⟨rfl, rfl, rfl, ?_⟩
    cases outcome <;> exact WorkloadStatus.noConfusion
  | _ => cases hs

theorem act_lawful {op : Op} (hop : op.report = none) (env : Env) (t : Tables) : t.Lawful (act env op t).1 := by
  intro w row hrow
  have heff := act_effect env op t w
  rw [hrow] at heff
  generalize (act env op t).1.workloads.lookup w = after at heff
  cases heff with
  | unchanged => exact ⟨row, rfl, .refl row⟩
  | updated _ _ hupd _ hguard =>
    subst hupd
    exact ⟨_, rfl, WorkloadStmt.set_lawful hop hguard⟩
  | dispatched _ _ _ row _ _ hpend =>
    refine ⟨_, rfl, lawful_of_not_terminal ?_ _⟩
    revert hpend
    cases row.status <;> decide

theorem report_lawful_iff (hs : s.report = some r) (t : Tables) :
    t.Lawful (Stmt.exec t (.updateWorkload s)).1 ↔ ∀ row ∈ t.workloads.lookup r.workload, r.Fits row := by
  constructor
  · intro hlaw row hrow hnode hterm
    obtain ⟨hid, hguard, hstat, hqueued⟩ := s.report_eq hs row
    obtain ⟨_, hrow', hmay⟩ := hlaw r.workload row hrow
    rw [lookup_updateWorkload, mem_def.1 hrow, map_some, hguard, hid, if_pos ⟨rfl, decide_eq_true hnode⟩] at hrow'
    cases hrow'
    rcases hmay hterm with hsame | ⟨-, hreq, -⟩
    · rw [← hsame, hstat]
    · rw [hstat] at hreq
      exact absurd hreq hqueued
  · intro hfits w row hrow
    obtain ⟨hid, hguard, hstat, -⟩ := s.report_eq hs row
    rw [lookup_updateWorkload, hrow, map_some, hguard, hid]
    refine ⟨_, rfl, ?_⟩
    split_ifs with happ
    · obtain ⟨rfl, hnode⟩ := happ
      intro hterm
      left
      rw [hstat]
      exact (hfits row hrow (of_decide_eq_true hnode) hterm).symm
    · exact .refl row

namespace Server

def report (s : Server) (m : Move Handler Env) : Option Report := (s.performed m).bind fun e => e.2.report

def ReportsFit (s : Server) (m : Move Handler Env) : Prop :=
  ∀ r ∈ s.report m, ∀ row ∈ s.shared.workloads.lookup r.workload, r.Fits row

instance (s : Server) (m : Move Handler Env) : Decidable (s.ReportsFit m) := by
  unfold Server.ReportsFit
  infer_instance

variable {s : Server} {m : Move Handler Env}

theorem step_lawful_iff {s' : Server} (hstep : step s m = some s') :
    s.shared.Lawful s'.shared ↔ s.ReportsFit m := by
  unfold ReportsFit report
  rcases step_cases hstep with ⟨hperf, hsame⟩ | ⟨env, op, hperf, hfails, hsh⟩
  · rw [hperf, hsame]
    refine iff_of_true (fun w row hrow => ⟨row, hrow, .refl row⟩) ?_
    intro r hr
    cases hr
  · rw [hperf, hsh]
    show _ ↔ ∀ r ∈ op.report, _
    cases hr : op.report with
    | none => exact iff_of_true (act_lawful hr env _) fun r hr => by cases hr
    | some r =>
      obtain ⟨stmt, rfl, hstmt⟩ : ∃ stmt, op = .exec (.updateWorkload stmt) ∧ stmt.report = some r := by
        unfold Op.report at hr
        split at hr
        · exact ⟨_, rfl, hr⟩
        · cases hr
      rw [act_of_not_fails hfails]
      simp only [mem_def, some.injEq, forall_eq']
      exact report_lawful_iff hstmt s.shared

theorem step_row {u v : Server} (h : step u m = some v) {w : WorkloadID} {row : Workload}
    (hrow : u.shared.workloads.lookup w = some row) : ∃ row', v.shared.workloads.lookup w = some row' := by
  rcases step_cases h with ⟨-, hsame⟩ | ⟨env, op, -, -, hsh⟩
  · rw [hsame]
    exact ⟨row, hrow⟩
  · rw [hsh]
    obtain ⟨row', hrow', -⟩ := act_row hrow env op
    exact ⟨row', hrow'⟩

theorem reportsFit_of_stuck (h : step s m = none) : s.ReportsFit m := by
  have hperf : s.performed m = none := by
    cases m with
    | start => cases h
    | step i env =>
      have hiss : s.issued (.step i env : Move Handler Env) = none := by
        rcases hth : s.threads[i]? with _ | (a | ⟨op, k⟩)
        · simp [Pool.issued, hth]
        · simp [Pool.issued, hth]
        · simp [step, Pool.step, hth] at h
      simp [performed, hiss]
  intro r hr
  rw [report, hperf] at hr
  cases hr

end Server

/-- **What has ended stays ended**, throughout a run. -/
structure EndsFinal (s : Server) (ms : List (Move Handler Env)) : Prop where
  settled : ∀ pre mid post u v, ms = pre ++ mid ++ post → Run.exec Server.step s pre = some u →
    Run.exec Server.step u mid = some v → ∀ w row, u.shared.workloads.lookup w = some row →
      row.status = .completed ∨ row.status = .cancelled →
        ∃ row', v.shared.workloads.lookup w = some row' ∧ row'.status = row.status
  retried : ∀ pre m post u v, ms = pre ++ m :: post → Run.exec Server.step s pre = some u →
    Server.step u m = some v → ∀ w row, u.shared.workloads.lookup w = some row →
      row.status = .failed ∨ row.status = .timedOut → ∃ row', v.shared.workloads.lookup w = some row' ∧
          (row'.status = row.status ∨ row'.status = .queued ∧ row'.retryCount = row.retryCount + 1)

theorem endsFinal_of_lawful {s : Server} {ms : List (Move Handler Env)}
    (h : ∀ pre m post u v, ms = pre ++ m :: post → Run.exec Server.step s pre = some u →
      Server.step u m = some v → u.shared.Lawful v.shared) : EndsFinal s ms := by
  constructor
  · rintro pre _ post u v rfl hu hv w row hrow hsettled
    have hterm : row.status.isTerminal = true ∧ row.status.isRetryable = false := by
      rcases hsettled with hstat | hstat <;> rw [hstat] <;> exact ⟨rfl, rfl⟩
    -- each step of `mid` keeps the status
    refine Run.exec_between (I := fun x : Server => ∃ row', x.shared.workloads.lookup w =
      some row' ∧ row'.status = row.status)
      h ?_ hu ⟨row, hrow, rfl⟩ hv
    rintro x y ⟨row1, hrow1, hstat1⟩ hlaw
    obtain ⟨row2, hrow2, hmay⟩ := hlaw w row1 hrow1
    refine ⟨row2, hrow2, ?_⟩
    rw [Workload.Lawful, hstat1, hterm.2] at hmay
    rcases hmay hterm.1 with hsame | ⟨hretry, -⟩
    · exact hsame
    · cases hretry
  · intro pre m post u v hms hu hv w row hrow hend
    have hterm : row.status.isTerminal = true := by
      rcases hend with hstat | hstat <;> rw [hstat] <;> rfl
    obtain ⟨row', hrow', hmay⟩ := h pre m post u v hms hu hv w row hrow
    refine ⟨row', hrow', ?_⟩
    rcases hmay hterm with hsame | ⟨-, hreq⟩
    · exact .inl hsame
    · exact .inr hreq

theorem EndsFinal.lawful {s u v : Server} {ms pre post : List (Move Handler Env)} {m : Move Handler Env}
    (h : EndsFinal s ms) (hms : ms = pre ++ m :: post) (hu : Run.exec Server.step s pre = some u)
    (hv : Server.step u m = some v) : u.shared.Lawful v.shared := by
  intro w row hrow
  by_cases hretry : row.status.isRetryable = true
  · have hend : row.status = .failed ∨ row.status = .timedOut := by
      revert hretry
      cases row.status <;> decide
    obtain ⟨row', hrow', hmay⟩ := h.retried pre m post u v hms hu hv w row hrow hend
    exact ⟨row', hrow', fun _ => hmay.imp_right fun hreq => ⟨hretry, hreq⟩⟩
  · by_cases hterm : row.status.isTerminal = true
    · have hsettled : row.status = .completed ∨ row.status = .cancelled := by
        revert hretry hterm
        cases row.status <;> decide
      have hsingle : Run.exec Server.step u [m] = some v := by
        rw [Run.exec, hv]
        rfl
      obtain ⟨row', hrow', hsame⟩ := h.settled pre [m] post u v (by rw [hms]; simp) hu hsingle w row hrow hsettled
      exact ⟨row', hrow', fun _ => .inl hsame⟩
    · obtain ⟨row', hrow'⟩ := step_row hv hrow
      exact ⟨row', hrow', lawful_of_not_terminal (by simpa using hterm) row'⟩

/-- **What has ended stays ended, exactly if reports fit.** -/
theorem ends_final_iff (s : Server) (ms : List (Move Handler Env)) :
    EndsFinal s ms ↔ Run.Meets Server.step Server.ReportsFit s ms := by
  constructor
  · intro h pre m post u hms hu
    cases hv : Server.step u m with
    | none => exact reportsFit_of_stuck hv
    | some => exact (step_lawful_iff hv).1 (h.lawful hms hu hv)
  · intro h
    apply endsFinal_of_lawful
    intro pre m post u v hms hu hv
    exact (step_lawful_iff hv).2 (h pre m post u hms hu)

namespace Sample

def finished : List (Move Handler Env) := oneJob ++ alone 4 5 (.health [1, 0] [tell [2, 0] .completed]) 5

def failedLate : List (Move Handler Env) := alone 5 6 (.health [1, 0] [tell [2, 0] .failed]) 9

end Sample

/-- The workload was completed, and is queued again. -/
theorem completed_is_requeued : ¬ EndsFinal Server.initial (finished ++ failedLate) := by
  intro hfin
  obtain ⟨u, hu, ⟨row, hrow, hcomp⟩, v, hv, haft⟩ :
      ∃ u, Run.exec Server.step Server.initial finished = some u ∧
        (∃ row, u.shared.workloads.lookup [2, 0] = some row ∧ row.status = .completed) ∧
        ∃ v, Run.exec Server.step u failedLate = some v ∧
          (v.shared.workloads.lookup [2, 0]).map Workload.status = some .queued := by
    decide +kernel
  obtain ⟨_, hrow', hsame⟩ := hfin.settled finished failedLate [] u v (by simp) hu hv _ row hrow
    (.inl hcomp)
  rw [hrow', map_some, hsame, hcomp] at haft
  cases haft

end Ocelot.Compute
