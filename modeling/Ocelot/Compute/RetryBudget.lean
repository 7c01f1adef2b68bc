/-
# The retry budget of a workload.
-/
import Ocelot.Compute.Reservations
import Ocelot.Compute.Stopped

namespace Ocelot.Compute

open Option Bool Server
open Prog (Issues)

/-- **What `n` dispatches leave of the budget**: one for each retry and the first, that which is due
included. -/
structure Workload.Within (row : Workload) (n : ℕ) : Prop where
  retries : row.retryCount ≤ row.maxRetries
  dispatches : n + (if row.status.isPending then 1 else 0) ≤ row.retryCount + 1

namespace Workload.Within

variable {row : Workload} {n : ℕ}

theorem of_not_pending {row' : Workload} (h : row.Within n) (hcnt : row'.retryCount = row.retryCount)
    (hmax : row'.maxRetries = row.maxRetries) (hstat : row'.status.isPending = false) : row'.Within n := by
  obtain ⟨hretries, hdisps⟩ := h
  refine ⟨by rw [hcnt, hmax]; exact hretries, ?_⟩
  rw [hcnt, hstat, if_neg Bool.false_ne_true]
  split_ifs at hdisps <;> omega

theorem set (h : row.Within n) {s : WorkloadStmt} (hguard : s.guard row = true) : (s.set row).Within n := by
  cases s with
  | cancel =>
    simp only [WorkloadStmt.set]
    split_ifs <;> exact h.of_not_pending rfl rfl rfl
  | markFinished _ _ outcome => exact h.of_not_pending rfl rfl (by cases outcome <;> rfl)
  | requeue =>
    simp only [WorkloadStmt.guard, and_eq_true, decide_eq_true_eq] at hguard
    obtain ⟨_, hdisps⟩ := h
    refine ⟨hguard.1, ?_⟩
    show (n : ℤ) + 1 ≤ row.retryCount + 1 + 1
    split_ifs at hdisps <;> omega
  | stop | markStarted | failLost | timeOut => exact h.of_not_pending rfl rfl rfl

theorem dispatch (h : row.Within n) (hpend : row.status.isPending = true) (node : NodeID)
    (now : Millis) : (Tables.dispatch node now row).Within (n + 1) := by
  obtain ⟨hretries, hdisps⟩ := h
  rw [if_pos hpend] at hdisps
  exact ⟨hretries, by simpa [Tables.dispatch, WorkloadStatus.isPending] using hdisps⟩

theorem submitted {req : SubmitWorkloadRequest} (h : validateSubmitRequest req = .ok ())
    (org : OrgID) (account : AccountID) (now : Millis) : (req.row org account now).Within 0 := by
  unfold validateSubmitRequest at h
  dsimp only at h
  split_ifs at h
  exact ⟨show 0 ≤ req.maxRetries by omega, le_rfl⟩

end Workload.Within

namespace Server

/-- **How often a run dispatches a workload.** -/
def dispatched (w : WorkloadID) (s : Server) (ms : List (Move Handler Env)) : ℕ :=
  (Run.collect step (fun u m => guard (u.dispatches w) m) s ms).length

structure Within (s : Server) (w : WorkloadID) (n : ℕ) : Prop where
  issues : ∀ p ∈ s.threads, p.Issues (Op.Inserts (Workload.Within · 0))
  row : (s.shared.workloads.lookup w).elim (n = 0) fun row => row.Within n

theorem Within.step {s s' : Server} {w : WorkloadID} {n : ℕ} {m : Move Handler Env} (h : s.Within w n)
    (hstep : step s m = some s') : s'.Within w (n + (Option.guard (s.dispatches w) m).toList.length) := by
  refine ⟨Pool.step_issues (Handler.issues_inserts fun _ hval org account now =>
    .submitted hval org account now) h.issues hstep, ?_⟩
  have hlen : (Option.guard (s.dispatches w) m).toList.length = if s.dispatches w m then 1 else 0 := by
    cases hd : s.dispatches w m <;> simp [Option.guard, hd]
  rw [hlen]
  have hrow := h.row
  rcases step_cases hstep with ⟨hperf, hsame⟩ | ⟨env, op, hperf, hok, hsh⟩
  · have hnot : s.dispatches w m = false := by simp [dispatches, does, hperf]
    rw [hnot, hsame]
    exact hrow
  · have hop : s.dispatches w m = op.dispatches env s.shared w := by simp [dispatches, does, hperf]
    rw [hop, hsh]
    cases hd : op.dispatches env s.shared w with
    | true =>
      obtain ⟨pw, row, node, rfl, hlook, hpend, haft⟩ := dispatch_of_dispatches hd
      have hact : act env (.scheduleOne pw) s.shared = scheduleTx env pw s.shared := act_of_not_fails hok _ _
      rw [hact, haft]
      rw [hlook] at hrow
      exact hrow.dispatch hpend node env.now
    | false =>
      have heff := act_effect env op s.shared w
      generalize s.shared.workloads.lookup w = pre at heff hrow
      generalize (act env op s.shared).1.workloads.lookup w = post at heff ⊢
      cases heff with
      | unchanged => exact hrow
      | inserted row hins =>
        subst hins
        obtain rfl : n = 0 := hrow
        have hfresh := Pool.issued_mem h.issues (issued_of_performed hperf)
        exact hfresh
      | updated _ _ _ _ hguard => exact hrow.set hguard
      | dispatched => exact hrow.of_not_pending rfl rfl rfl

theorem Within.run {s s' : Server} {w : WorkloadID} {n : ℕ} {ms : List (Move Handler Env)} (h : s.Within w n)
    (hrun : Run.exec Server.step s ms = some s') : s'.Within w (n + s.dispatched w ms) := by
  induction ms generalizing s n with
  | nil =>
    cases hrun
    exact h
  | cons _ _ ih =>
    obtain ⟨u, hu, hrest⟩ := bind_eq_some_iff.1 hrun
    have hlast := ih (h.step hu) hrest
    rw [add_assoc] at hlast
    simpa [dispatched, Run.collect, hu] using hlast

end Server

/-- **The retry budget**, however the statements of the control plane are interleaved. -/
theorem retry_budget {ms : List (Move Handler Env)} {s : Server}
    (h : Run.exec Server.step Server.initial ms = some s)
    {w : WorkloadID} {row : Workload} (hrow : s.shared.workloads.lookup w = some row) :
    row.retryCount ≤ row.maxRetries ∧ (Server.initial.dispatched w ms : ℤ) ≤ row.maxRetries + 1 := by
  have hinitial : Server.initial.Within w 0 := ⟨fun p hp => (by cases hp), rfl⟩
  have hlast := (hinitial.run h).row
  rw [hrow] at hlast
  obtain ⟨hretries, hdisps⟩ := hlast
  refine ⟨hretries, ?_⟩
  rw [zero_add] at hdisps
  split_ifs at hdisps <;> omega

namespace Sample

def retriedOnce : List (Move Handler Env) :=
  oneJob ++ alone 4 5 (.health [1, 0] [tell [2, 0] .failed]) 9 ++ alone 5 6 .scheduleBatch 2

end Sample

theorem retry_budget_retriedOnce : ∃ s, Run.exec step initial Sample.retriedOnce = some s ∧
      ∃ row, s.shared.workloads.lookup [2, 0] = some row ∧ row.retryCount = 1 ∧ row.maxRetries = 1 ∧
        (initial.dispatched [2, 0] Sample.retriedOnce : ℤ) ≤ 2 := by
  refine Run.ends_of (P := fun s => ∃ row, s.shared.workloads.lookup [2, 0] = some row ∧
    row.retryCount = 1 ∧ row.maxRetries = 1)
    (by decide +kernel) ?_
  rintro s hs ⟨row, hrow, hcnt, hmax⟩
  have hbudget := (retry_budget hs hrow).2
  rw [hmax] at hbudget
  exact ⟨row, hrow, hcnt, hmax, hbudget⟩

end Ocelot.Compute
