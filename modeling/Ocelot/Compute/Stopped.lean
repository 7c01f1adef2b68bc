/-
# A workload that was stopped is not run again.
-/
import Ocelot.Compute.ControlPlane

namespace Ocelot.Compute

open Option Server Bool Sample Run
open Tracker (lit)

inductive Call.Stops (w : WorkloadID) : Call → Prop
  | cancel (org : OrgID) (account : AccountID) : Stops w (.cancel org account w)
  | stop (org : OrgID) : Stops w (.stop org w)

def WorkloadStmt.isStop : WorkloadStmt → Bool
  | cancel _ _ _ | stop _ _ => true
  | _ => false

def answersOK (r : Option Response) : Prop := ∃ response ∈ r, response.status = 200

theorem stop_answer (org : OrgID) (w : WorkloadID) :
    ∃ k, (Call.stop org w).code = .call (.exec (.updateWorkload (.stop w org))) k ∧
      ∀ ans : Option ℕ, (k ans).Returns fun r => answersOK r ↔ affects ans := by
  refine ⟨_, rfl, ?_⟩
  rintro (_ | _ | n)
  · exact .ret (by simp [answersOK, affects, databaseError, Response.status])
  · refine .call ?_
    rintro (_ | _ | status)
    · exact .ret (by simp [answersOK, affects, workloadNotFound, Response.status])
    · exact .ret (by simp [answersOK, affects, workloadNotFound, Response.status])
    · exact .ret (by simp [answersOK, affects, Response.status])
  · exact .ret (by simp [answersOK, affects, Response.status])

theorem cancel_answer (org : OrgID) (account : AccountID) (w : WorkloadID) :
    ∃ k : Millis → Option ℕ → Program (Option Response), (Call.cancel org account w).code =
        .call .nowMs (fun now => .call (.exec (.updateWorkload (.cancel w org now))) (k now)) ∧
      ∀ now ans, (k now ans).Returns fun r => answersOK r ↔ affects ans := by
  refine ⟨_, rfl, ?_⟩
  rintro now (_ | _ | n)
  · exact .ret (by simp [answersOK, affects, databaseError, Response.status])
  · refine .call ?_
    rintro (_ | _ | count)
    · exact .ret (by simp [answersOK, affects, workloadNotFound, Response.status])
    · exact .ret (by simp [answersOK, affects, workloadNotFound, Response.status])
    · exact .ret (by simp [answersOK, affects, Response.status])
  · refine .call fun status => .call fun _ => .call fun _ => ?_
    exact .ret (by simp [answersOK, affects, Response.status])

def Op.accepts (t : Tables) (w : WorkloadID) : Op → Bool
  | .exec (.updateWorkload stmt) => stmt.isStop && w = stmt.id && (t.workloads.lookup w).any stmt.guard
  | _ => false

def Op.requeues (t : Tables) (w : WorkloadID) : Op → Bool
  | .exec (.updateWorkload (.requeue id now reason)) =>
    w = id && (t.workloads.lookup w).any (WorkloadStmt.requeue id now reason).guard
  | _ => false

def Op.dispatches (env : Env) (t : Tables) (w : WorkloadID) : Op → Bool
  | .scheduleOne pw => w = pw.id && (scheduleTx env pw t).2 = some true
  | _ => false

namespace Server

variable (s : Server)

def does (f : Env → Tables → Op → Bool) (m : Move Handler Env) : Bool :=
  (s.performed m).any fun e => f e.1 s.shared e.2

def accepts (w : WorkloadID) : Move Handler Env → Bool := s.does fun _ t op => op.accepts t w
def requeues (w : WorkloadID) : Move Handler Env → Bool := s.does fun _ t op => op.requeues t w
def dispatches (w : WorkloadID) : Move Handler Env → Bool := s.does fun env t op => op.dispatches env t w

def answer (i : ℕ) : Option Response :=
  match s.threads[i]? with
  | some (.ret r) => r
  | _ => none

theorem thread_of_answer {s : Server} {i : ℕ} {r : Response} (h : s.answer i = some r) :
    s.threads[i]? = some (.ret (some r)) := by
  unfold answer at h
  split at h
  · rename_i hth
    rw [hth, h]
  · cases h

end Server

open Server

def Tables.Shelved (t : Tables) (w : WorkloadID) : Prop :=
  ∃ row, t.workloads.lookup w = some row ∧ row.status.isPending = false

variable {t : Tables} {w : WorkloadID} {env : Env} {op : Op}

theorem Tables.Shelved.act (h : t.Shelved w)
    (hop : env.fails = false → op.requeues t w = false) : (act env op t).1.Shelved w := by
  obtain ⟨row, hrow, hstat⟩ := h
  cases hfails : env.fails with
  | true =>
    rw [Compute.act, if_pos hfails]
    exact ⟨row, hrow, hstat⟩
  | false =>
    have hrequeues := hop hfails
    have heff := act_effect env op t w
    rw [hrow] at heff
    unfold Tables.Shelved
    generalize (Compute.act env op t).1.workloads.lookup w = after at heff
    cases heff with
    | unchanged => exact ⟨row, rfl, hstat⟩
    | dispatched _ _ _ _ _ _ hpend =>
      rw [hstat] at hpend
      cases hpend
    | updated stmt _ hstmt hid hguard =>
      refine ⟨_, rfl, ?_⟩
      subst hstmt
      cases stmt with
      | cancel =>
        simp only [WorkloadStmt.set]
        split_ifs <;> rfl
      | markFinished _ _ outcome =>
        cases outcome with
        | completed | failed | timedOut => rfl
      | requeue id now reason =>
        -- the one statement that makes a workload pending again
        have helig : Op.requeues t w (.exec (.updateWorkload (.requeue id now reason))) = true := by
          simp only [Op.requeues, hrow, Option.any_some, hguard, Bool.and_true, decide_eq_true_eq]
          exact hid
        rw [helig] at hrequeues
        cases hrequeues
      | stop | markStarted | failLost | timeOut => rfl

theorem dispatch_of_dispatches (h : op.dispatches env t w = true) :
    ∃ pw row node, op = .scheduleOne pw ∧ t.workloads.lookup w = some row ∧ row.status.isPending = true ∧
      (scheduleTx env pw t).1.workloads.lookup w = some (Tables.dispatch node env.now row) := by
  unfold Op.dispatches at h
  split at h
  · rename_i pw
    simp only [and_eq_true, decide_eq_true_eq] at h
    obtain ⟨rfl, hans⟩ := h
    rcases scheduleTx_cases env pw t with ⟨-, hnot⟩ | ⟨node, gpu, reservations, -, -, -, hcnt, hbook⟩
    · exact absurd hans hnot
    · -- a booking finds its workload pending
      obtain ⟨k, row, hrow, hpend⟩ := (t.workloads.count_pos_iff _).1 hcnt
      have hkeys := hpend
      simp only [Tables.dispatchable, and_eq_true, decide_eq_true_eq] at hkeys
      obtain ⟨rfl, hstat⟩ := hkeys
      refine ⟨pw, row, node, rfl, hrow, hstat, ?_⟩
      rw [hbook]
      show (t.workloads.modify _ _).lookup _ = _
      rw [Table.lookup_modify, hrow, map_some, if_pos hpend]
  · cases h

theorem Tables.Shelved.not_dispatches (h : t.Shelved w) (env : Env) (op : Op) : op.dispatches env t w = false := by
  obtain ⟨_, hrow, hstat⟩ := h
  rw [← not_eq_true]
  intro hdisps
  obtain ⟨_, _, _, -, hrow', hpend, -⟩ := dispatch_of_dispatches hdisps
  obtain rfl := mem_unique hrow hrow'
  rw [hstat] at hpend
  cases hpend

theorem shelved_of_accepts (hfails : env.fails = false)
    (h : op.accepts t w = true) : (act env op t).1.Shelved w := by
  unfold Op.accepts at h
  split at h
  · rename_i stmt
    simp only [and_eq_true, decide_eq_true_eq, any_eq_true] at h
    obtain ⟨⟨hstop, hid⟩, row, hrow, hguard⟩ := h
    have hact : act env (.exec (.updateWorkload stmt)) t = Stmt.exec t (.updateWorkload stmt) :=
      act_of_not_fails hfails _ t
    refine ⟨stmt.set row, ?_, ?_⟩
    · rw [hact, lookup_updateWorkload, hrow, map_some, if_pos ⟨hid, hguard⟩]
    · cases stmt with
      | cancel =>
        simp only [WorkloadStmt.set]
        split_ifs <;> rfl
      | stop => rfl
      | _ => cases hstop
  · cases h

namespace Server

variable {s : Server} {w : WorkloadID} {s' : Server} {m : Move Handler Env}

section

variable {f : Env → Tables → Op → Bool} {I : Tables → Prop}

/-- An invariant is kept by every move that does nothing of what endangers it. -/
theorem keeps_of_step (hI : ∀ env op, f env s.shared op = false → I (act env op s.shared).1)
    (h : I s.shared) (hm : s.does f m = false) (hstep : step s m = some s') : I s'.shared := by
  rcases step_cases hstep with ⟨-, hsame⟩ | ⟨env, op, hperf, -, hsh⟩
  · rw [hsame]
    exact h
  · rw [hsh]
    exact hI env op (by simpa [does, hperf] using hm)

theorem holds_of_does (hI : ∀ env op, env.fails = false → f env s.shared op = true → I (act env op s.shared).1)
    (hm : s.does f m = true) (hstep : step s m = some s') : I s'.shared := by
  rcases step_cases hstep with ⟨hperf, -⟩ | ⟨env, op, hperf, hfails, hsh⟩
  · simp [does, hperf] at hm
  · rw [hsh]
    exact hI env op hfails (by simpa [does, hperf] using hm)

theorem does_eq_false (h : ∀ env op, f env s.shared op = false) (m : Move Handler Env) : s.does f m = false := by
  unfold does
  cases s.performed m with
  | none => rfl
  | some e => exact h e.1 e.2

end

theorem accepts_of_affects {i : ℕ} {stmt : WorkloadStmt} {k : Option ℕ → Program (Option Response)}
    (hth : s.threads[i]? = some (.call (.exec (.updateWorkload stmt)) k))
    (hstop : stmt.isStop = true) (hid : w = stmt.id)
    (h : affects (act env (.exec (.updateWorkload stmt)) s.shared).2) : s.accepts w (.step i env) = true := by
  obtain ⟨n, hn, hpos⟩ := h
  cases hfails : env.fails with
  | true =>
    rw [act, if_pos hfails] at hn
    cases hn
  | false =>
    have hact : act env (.exec (.updateWorkload stmt)) s.shared = Stmt.exec s.shared (.updateWorkload stmt) :=
      act_of_not_fails hfails _ s.shared
    rw [hact] at hn
    have hcnt : s.shared.workloads.count stmt.applies = n := some.inj hn
    rw [← hcnt] at hpos
    obtain ⟨id, row, hrow, happ⟩ := (s.shared.workloads.count_pos_iff _).1 (Nat.pos_of_ne_zero hpos)
    simp only [WorkloadStmt.applies, and_eq_true, decide_eq_true_eq] at happ
    have hlook : s.shared.workloads.lookup w = some row := by
      rw [hid, ← happ.1, hrow]
    simp [accepts, does, performed, Pool.issued, hth, hfails, Op.accepts, hstop, hid ▸ hlook, happ.2, hid]

theorem accepts_of_answer {u : Server} {c : Call} (hc : c.Stops w) {ms : List (Move Handler Env)}
    (hrun : Run.exec step s (.start (.call c) :: ms) = some u) {r : Response}
    (hans : u.answer s.threads.length = some r) (hok : r.status = 200) :
    ∃ pre m post v v', ms = pre ++ m :: post ∧ Run.exec step s (.start (.call c) :: pre) = some v ∧
      step v m = some v' ∧ Run.exec step v' post = some u ∧ v.accepts w m = true := by
  have hend := thread_of_answer hans
  have hrun' : Run.exec step ⟨s.shared, s.threads ++ [c.code]⟩ ms = some u := hrun
  have hstart : (s.threads ++ [c.code])[s.threads.length]? = some c.code := by simp
  have hanswers : answersOK (some r) := ⟨r, rfl, hok⟩
  cases hc with
  | stop org =>
    obtain ⟨k, hcode, hk⟩ := stop_answer org w
    obtain ⟨pre, env, post, v, v', rfl, hpre, hth, hstep, hth', hpost⟩ :=
      Pool.exec_first_step (hstart.trans (congrArg some hcode)) hrun' hend
    have haffs := (Pool.exec_returns hth' (hk _) hpost hend).1 hanswers
    exact ⟨pre, .step _ env, post, v, v', rfl, hpre, hstep, hpost, accepts_of_affects hth rfl rfl haffs⟩
  | cancel org account =>
    obtain ⟨k, hcode, hk⟩ := cancel_answer org account w
    -- its first move reads the clock, the second one is the statement
    obtain ⟨pre, _, env, post, v, v', rfl, hpre, hth, hstep, hth', hpost⟩ :=
      Pool.exec_second_step (hstart.trans (congrArg some hcode)) hrun' hend
    have haffs := (Pool.exec_returns hth' (hk _ _) hpost hend).1 hanswers
    exact ⟨pre, .step _ env, post, v, v', rfl, hpre, hstep, hpost, accepts_of_affects hth rfl rfl haffs⟩

end Server

/-- **A stopped workload is not dispatched again unless it is requeued.** -/
theorem stopped_not_dispatched {s u : Server} {c : Call} {w : WorkloadID} (hc : c.Stops w)
    {ms : List (Move Handler Env)} (hrun : Run.exec step s (.start (.call c) :: ms) = some u)
    {r : Response} (hanswer : u.answer s.threads.length = some r) (hok : r.status = 200) :
    ∃ pre m post v v', ms = pre ++ m :: post ∧ Run.exec step s (.start (.call c) :: pre) = some v ∧
      step v m = some v' ∧ v.accepts w m = true ∧
      ∀ after, Run.Meets step (fun x l => x.requeues w l = false) v' (post ++ after) →
        ∀ pre' l post' x, after = pre' ++ l :: post' → Run.exec step u pre' = some x →
            x.dispatches w l = false := by
  obtain ⟨pre, m, post, v, v', hms, hpre, hstep, hpost, haccs⟩ := accepts_of_answer hc hrun hanswer hok
  refine ⟨pre, m, post, v, v', hms, hpre, hstep, haccs, ?_⟩
  rintro after hmeets pre' l post' x rfl hx
  have hv' : v'.shared.Shelved w :=
    holds_of_does (I := (·.Shelved w)) (fun _ _ hfails hop => shelved_of_accepts hfails hop) haccs hstep
  have hexec : Run.exec step v' (post ++ pre') = some x := by
    rw [exec_append, hpost, bind_some]
    exact hx
  rw [← List.append_assoc] at hmeets
  have hshelved : x.shared.Shelved w := by
    refine exec_invariant_of_meets (I := fun x : Server => x.shared.Shelved w) ?_ hv' hmeets.of_append hexec
    intro y _ z hy hl hstep'
    exact keeps_of_step (I := (·.Shelved w)) (fun _ _ hop => hy.act fun _ => hop) hy hl hstep'
  exact does_eq_false hshelved.not_dispatches l

namespace Sample

def reported (kind : EventKind) (n : ℕ) : List (Move Handler Env) :=
  alone 4 6 (.health [1, 0] [tell [2, 0] kind]) n ++ alone 5 7 .scheduleBatch 1

end Sample

theorem stopped_not_dispatched_completed : ∃ s u, Run.exec step initial Sample.oneJob = some s ∧
      Run.exec step s (Sample.alone 3 5 (.call (.stop (lit "org") [2, 0])) 1) = some u ∧
      ∀ pre l post x, Sample.reported .stopped 5 = pre ++ l :: post → Run.exec step u pre = some x →
        x.dispatches [2, 0] l = false := by
  obtain ⟨s, hs, u, hu, hans, hmeets⟩ : ∃ s, Run.exec step initial oneJob = some s ∧
      ∃ u, Run.exec step s (alone 3 5 (.call (.stop (lit "org") [2, 0])) 1) = some u ∧
        (u.answer s.threads.length).map Response.status = some 200 ∧
        Run.Meets step (fun x l => x.requeues [2, 0] l = false) u (reported .stopped 5) := by
    decide +kernel
  obtain ⟨r, hr, hok⟩ := map_eq_some_iff.1 hans
  obtain ⟨pre, m, post, v, v', hms, hpre, hstep, -, hlater⟩ := stopped_not_dispatched (.stop (lit "org")) hu hr hok
  -- the call makes one move, and that is its statement
  obtain ⟨rfl, rfl, rfl⟩ : pre = [] ∧ m = .step 5 (env 3) ∧ post = [] := by
    cases pre with
    | nil =>
      cases hms
      exact ⟨rfl, rfl, rfl⟩
    | cons => simp [List.replicate] at hms
  have hsame : v' = u := by
    have hexec : Run.exec step s [.start (.call (.stop (lit "org") [2, 0])), .step 5 (env 3)] = some v' :=
      Run.exec_concat_eq_some.2 ⟨v, hpre, hstep⟩
    exact mem_unique hexec hu
  rw [hsame] at hlater
  exact ⟨s, u, hs, hu, hlater _ hmeets⟩

/-- **The agent reports `failed`** for the process it was told to stop: the workload is requeued,
and the scheduler dispatches it again. -/
theorem stopped_runs_again : ∃ s u x, Run.exec step initial Sample.oneJob = some s ∧ s.threads.length = 5 ∧
      Run.exec step s (Sample.alone 3 5 (.call (.stop (lit "org") [2, 0])) 1) = some u ∧
      (u.answer 5).map Response.status = some 200 ∧ Run.exec step u (Sample.reported .failed 9) = some x ∧
      x.dispatches [2, 0] (.step 7 (Sample.env 5)) = true := by
  simp only [exists_and_left]
  decide +kernel

end Ocelot.Compute
