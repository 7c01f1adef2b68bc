/-
# What happens to a node, and whether an operator's decision about it persists.
-/
import Ocelot.Compute.Stopped

namespace Ocelot.Compute

open Table Server Bool Option Tables Sample Run Response
open Tracker (Bytes lit)

/-- **What an operation can do to the row of a node.** -/
inductive NodeEffect (op : Op) (n : NodeID) : Option Node → Option Node → Prop
  | unchanged (row : Option Node) : NodeEffect op n row row
  | inserted (req : RegisterRequest) (now : Millis) (hop : op = .register req) :
    NodeEffect op n none (some (req.row now))
  | updated (s : NodeStmt) (row row' : Node) (hop : op = .exec (.updateNode s)) (hid : n = s.id)
      (hguard : s.guard row = true) (hset : s.set row = some row') : NodeEffect op n (some row) (some row')

theorem act_nodeEffect (env : Env) (op : Op) (t : Tables) (n : NodeID) :
    NodeEffect op n (t.nodes.lookup n) ((act env op t).1.nodes.lookup n) := by
  have hacts := act_acts env op t
  generalize (act env op t).1 = t' at hacts ⊢
  cases hacts with
  | nodeUpdated s hrow hguard hset =>
    refine modify_rule .unchanged fun _ hn hrow0 => ?_
    subst hn
    obtain rfl := mem_unique hrow hrow0
    exact .updated s _ _ rfl rfl hguard hset
  | registered req hins =>
    rw [lookup_insert hins]
    split_ifs with hn
    · rw [hn, lookup_of_insert hins]
      exact .inserted req env.now rfl
    · exact .unchanged _
  | _ => exact .unchanged _

theorem act_node_cases {t : Tables} {n : NodeID} {row : Node} (hrow : t.nodes.lookup n = some row)
    (env : Env) (op : Op) :
    ∃ row', (act env op t).1.nodes.lookup n = some row' ∧
      (row' = row ∨ ∃ s, op = .exec (.updateNode s) ∧ n = s.id ∧ s.guard row = true ∧ s.set row = some row') := by
  have heff := act_nodeEffect env op t n
  rw [hrow] at heff
  generalize (act env op t).1.nodes.lookup n = after at heff ⊢
  cases heff with
  | unchanged => exact ⟨row, rfl, .inl rfl⟩
  | updated s _ row' hop hid hguard hset => exact ⟨row', rfl, .inr ⟨s, hop, hid, hguard, hset⟩⟩

theorem schedulable_of_findNode {t : Tables} {res : ResourceSpec} {rank : Bytes → ℕ} {n : NodeID}
    (h : t.findNode res rank = some n) : ∃ row, t.nodes.lookup n = some row ∧ row.status.isSchedulable = true := by
  obtain ⟨e, he, rfl⟩ := map_eq_some_iff.1 h
  obtain ⟨hrow, hcap⟩ := least_eq_some he
  simp only [capable, and_eq_true] at hcap
  exact ⟨e.2, hrow, hcap.1.1.1⟩

inductive Decision where
  | drain | setDead
  deriving DecidableEq

namespace Decision

def call (n : NodeID) : Decision → Call
  | drain => .drain n
  | setDead => .setDead n

def honours : Decision → NodeStatus → Bool
  | drain, status => !status.isSchedulable
  | setDead, status => status = .dead

def isStmt : Decision → NodeStmt → Bool
  | drain, .drain _ _ => true
  | setDead, .setDead _ => true
  | _, _ => false

theorem honours_set {d : Decision} {s : NodeStmt} (hstmt : d.isStmt s = true) {row row' : Node}
    (hset : s.set row = some row') : d.honours row'.status = true := by
  cases d with
  | drain =>
    cases s with
    | drain =>
      cases hset
      rfl
    | _ => cases hstmt
  | setDead =>
    cases s with
    | setDead =>
      cases hset
      rfl
    | _ => cases hstmt

end Decision

def Op.decides (d : Decision) (t : Tables) (n : NodeID) : Op → Bool
  | .exec (.updateNode s) => d.isStmt s && n = s.id && (t.nodes.lookup n).any s.guard
  | _ => false

def Op.overrides (d : Decision) (n : NodeID) : Op → Bool
  | .exec (.updateNode (.heartbeat id status _)) => n = id && (NodeStatus.ofText status).any fun s => !d.honours s
  | _ => false

def Op.assigns (env : Env) (t : Tables) (n : NodeID) : Op → Bool
  | .scheduleOne pw =>
    (scheduleTx env pw t).2 = some true &&
      ((scheduleTx env pw t).1.workloads.lookup pw.id).any fun row => row.nodeID = some n
  | _ => false

def Tables.Honours (t : Tables) (d : Decision) (n : NodeID) : Prop :=
  ∃ row, t.nodes.lookup n = some row ∧ d.honours row.status = true

variable {t : Tables} {n : NodeID}

theorem Tables.Honours.act {d : Decision} (h : t.Honours d n) (env : Env) {op : Op}
    (hop : op.overrides d n = false) : (act env op t).1.Honours d n := by
  obtain ⟨row, hrow, hhon⟩ := h
  obtain ⟨row', hrow', rfl | ⟨s, rfl, hid, hguard, hset⟩⟩ := act_node_cases hrow env op
  · exact ⟨_, hrow', hhon⟩
  · refine ⟨row', hrow', ?_⟩
    cases s with
    | heartbeat id =>
      obtain ⟨_, hst, hrow'⟩ := bind_eq_some_iff.1 hset
      cases hrow'
      simpa [Op.overrides, hst, hid, NodeStmt.id] using hop
    | inventory =>
      simp only [NodeStmt.set] at hset
      split_ifs at hset
      cases hset
      exact hhon
    | drain | markLost =>
      -- a dead node is neither drained nor lost
      cases hset
      cases d with
      | drain => rfl
      | setDead =>
        have hdead : row.status = .dead := by simpa [Decision.honours] using hhon
        simp [NodeStmt.guard, hdead, NodeStatus.isGone] at hguard
    | setDead =>
      cases hset
      cases d with
      | drain | setDead => rfl

theorem honours_of_decides {d : Decision} {env : Env} {op : Op} (hfails : env.fails = false)
    (h : op.decides d t n = true) : (act env op t).1.Honours d n := by
  unfold Op.decides at h
  split at h
  · rename_i s
    simp only [and_eq_true, decide_eq_true_eq, any_eq_true] at h
    obtain ⟨⟨hstmt, rfl⟩, row, hrow, hguard⟩ := h
    have hset : ∃ row', s.set row = some row' := by
      cases d with
      | drain =>
        cases s with
        | drain => exact ⟨_, rfl⟩
        | _ => cases hstmt
      | setDead =>
        cases s with
        | setDead => exact ⟨_, rfl⟩
        | _ => cases hstmt
    obtain ⟨row', hrow'⟩ := hset
    rw [act_of_not_fails hfails]
    refine ⟨row', ?_, d.honours_set hstmt hrow'⟩
    show (t.updateNode s).1.nodes.lookup s.id = some row'
    simp [updateNode, hrow, hguard, hrow', lookup_modify]
  · cases h

theorem Tables.Honours.not_assigns (h : t.Honours .drain n) (env : Env) (op : Op) :
    op.assigns env t n = false := by
  obtain ⟨_, hrow, hhon⟩ := h
  cases op with
  | scheduleOne pw =>
    by_contra hassigns
    rw [not_eq_false] at hassigns
    simp only [Op.assigns, and_eq_true, decide_eq_true_eq, any_eq_true] at hassigns
    obtain ⟨htrue, after, haft, hnode⟩ := hassigns
    rcases scheduleTx_cases env pw t with ⟨-, hans⟩ | ⟨node, _, _, hfound, -, -, hcnt, hbook⟩
    · exact hans htrue
    · -- the workload is on the node that was found, and that one is schedulable
      obtain ⟨k, _, hbef, hdisp⟩ := (t.workloads.count_pos_iff _).1 hcnt
      simp only [dispatchable, and_eq_true, decide_eq_true_eq] at hdisp
      obtain ⟨rfl, hpend⟩ := hdisp
      rw [hbook] at haft
      have hlook : (t.workloads.modify (dispatchable pw.id) (dispatch node env.now)).lookup pw.id =
        some after := haft
      rw [lookup_modify, hbef, map_some] at hlook
      simp only [dispatchable, hpend, decide_true, Bool.and_self, if_true, some.injEq] at hlook
      rw [← hlook] at hnode
      obtain ⟨_, hrow', hsched⟩ := schedulable_of_findNode hfound
      cases hnode
      rw [hrow] at hrow'
      cases hrow'
      simp [Decision.honours, hsched] at hhon
  | _ => rfl

def succeeds (r : Option Response) : Prop := ∃ response ∈ r, response.status < 300

theorem decision_answer (d : Decision) (n : NodeID) :
    ∃ (s : Millis → NodeStmt) (k : Millis → Option ℕ → Program (Option Response)),
      (d.call n).code = .call .nowMs (fun now => .call (.exec (.updateNode (s now))) (k now)) ∧
      (∀ now, d.isStmt (s now) = true ∧ (s now).id = n) ∧
      ∀ now ans, (k now ans).Returns fun r => succeeds r ↔ affects ans := by
  cases d
  case' drain => refine ⟨fun now => .drain n now, _, rfl, fun now => ⟨rfl, rfl⟩, ?_⟩
  case' setDead => refine ⟨fun _ => .setDead n, _, rfl, fun now => ⟨rfl, rfl⟩, ?_⟩
  all_goals
    rintro now (_ | _ | m)
    · exact .ret (by simp [succeeds, affects, databaseError, status])
    · exact .ret (by simp [succeeds, affects, status])
    · exact .call fun _ => .call fun _ => .ret (by simp [succeeds, affects, status])

namespace Server

def decides (s : Server) (d : Decision) (n : NodeID) : Move Handler Env → Bool :=
  s.does fun _ t op => op.decides d t n
def overrides (s : Server) (d : Decision) (n : NodeID) : Move Handler Env → Bool :=
  s.does fun _ _ op => op.overrides d n
def assigns (s : Server) (n : NodeID) : Move Handler Env → Bool := s.does fun env t op => op.assigns env t n

variable {s : Server} {d : Decision} {n : NodeID}

theorem decides_of_affects {i : ℕ} {env : Env} {stmt : NodeStmt} {k : Option ℕ → Program (Option Response)}
    (hth : s.threads[i]? = some (.call (.exec (.updateNode stmt)) k)) (hstmt : d.isStmt stmt = true)
    (h : affects (act env (.exec (.updateNode stmt)) s.shared).2) : s.decides d stmt.id (.step i env) = true := by
  cases hfails : env.fails with
  | true =>
    rw [act, if_pos hfails] at h
    obtain ⟨n, hn, -⟩ := h
    cases hn
  | false =>
    rw [act_of_not_fails hfails] at h
    rcases updateNode_cases s.shared stmt with ⟨-, hnone⟩ | ⟨_, _, hrow, hguard, -, -⟩
    · exact absurd h hnone
    · simp [decides, does, performed, Pool.issued, hth, hfails, Op.decides, hstmt, hrow, hguard]

end Server

open Server

/-- **An operator's decision persists unless a heartbeat overrides it.** -/
theorem decision_persists {s u : Server} {d : Decision} {n : NodeID} {ms : List (Move Handler Env)}
    (hrun : Run.exec step s (.start (.call (d.call n)) :: ms) = some u) {r : Response}
    (hanswer : u.answer s.threads.length = some r) (hok : r.status < 300) :
    ∃ pre m post v v', ms = pre ++ m :: post ∧ Run.exec step s (.start (.call (d.call n)) :: pre) = some v ∧
      step v m = some v' ∧ v.decides d n m = true ∧
      ∀ after x, Run.Meets step (fun y l => y.overrides d n l = false) v' (post ++ after) →
        Run.exec step u after = some x → (d = .drain → ∀ l, x.assigns n l = false) ∧
          (d = .setDead → (x.shared.nodes.lookup n).map Node.status = some .dead) := by
  have hend := thread_of_answer hanswer
  have hrun' : Run.exec step ⟨s.shared, s.threads ++ [(d.call n).code]⟩ ms = some u := hrun
  have hstart : (s.threads ++ [(d.call n).code])[s.threads.length]? = some (d.call n).code := by simp
  obtain ⟨_, k, hcode, hstmt, hk⟩ := decision_answer d n
  obtain ⟨pre, now, env, post, v, v', rfl, hpre, hth, hstep, hth', hpost⟩ :=
    Pool.exec_second_step (hstart.trans (congrArg some hcode)) hrun' hend
  have haffs := (Pool.exec_returns hth' (hk _ _) hpost hend).1 ⟨r, rfl, hok⟩
  have hdecs := decides_of_affects hth (hstmt now).1 haffs
  rw [(hstmt now).2] at hdecs
  refine ⟨pre, .step _ env, post, v, v', rfl, hpre, hstep, hdecs, fun after x hmeets hx => ?_⟩
  have hexec : Run.exec step v' (post ++ after) = some x := by
    rw [exec_append]
    exact bind_eq_some_iff.2 ⟨u, hpost, hx⟩
  have hhon : x.shared.Honours d n := by
    refine exec_invariant_of_meets (I := fun x : Server => x.shared.Honours d n) ?_
      (holds_of_does (I := (·.Honours d n)) (fun _ _ hfails => honours_of_decides hfails) hdecs hstep)
      hmeets hexec
    intro y l z hy hl hstep'
    exact keeps_of_step (I := (·.Honours d n)) (fun env _ => hy.act env) hy hl hstep'
  constructor
  · rintro rfl l
    exact does_eq_false hhon.not_assigns l
  · rintro rfl
    obtain ⟨_, hrow, hdead⟩ := hhon
    rw [hrow, map_some]
    exact congrArg some (of_decide_eq_true hdead)

namespace Sample

def joined : List (Move Handler Env) :=
  alone 1 0 (.call (.register machine)) 2 ++ alone 1 1 (.call (.heartbeat [1, 0] (lit "ready"))) 2 ++
    alone 2 2 (.call (.submit (lit "org") (lit "user") (job 0))) 5

def beats (status : String) : List (Move Handler Env) :=
  alone 3 4 (.call (.heartbeat [1, 0] (lit status))) 2 ++ alone 4 5 .scheduleBatch 1

end Sample

theorem decision_persists_draining : ∃ s u x, Run.exec step initial Sample.joined = some s ∧
      Run.exec step s (Sample.alone 3 3 (.call (.drain [1, 0])) 4) = some u ∧
      Run.exec step u (Sample.beats "draining") = some x ∧ ∀ l, x.assigns [1, 0] l = false := by
  obtain ⟨s, hs, hmeets, u, hu, ⟨r, hr, hsuccess⟩, x, hx, -⟩ : ∃ s, Run.exec step initial joined = some s ∧
        Run.Meets step (fun y l => y.overrides .drain [1, 0] l = false) s
          (alone 3 3 (.call (.drain [1, 0])) 4 ++ beats "draining") ∧
        ∃ u, Run.exec step s (alone 3 3 (.call (.drain [1, 0])) 4) = some u ∧
          (∃ r, u.answer s.threads.length = some r ∧ r.status < 300) ∧
          ∃ x, Run.exec step u (beats "draining") = some x ∧ True := by
    decide +kernel
  obtain ⟨pre, m, post, v, v', hms, hpre, hstep, -, hlater⟩ := decision_persists (d := .drain) hu hr hsuccess
  have hexec : Run.exec step s (.start (.call (.drain [1, 0])) :: pre ++ [m]) = some v' :=
    Run.exec_concat_eq_some.2 ⟨v, hpre, hstep⟩
  have hsplit : alone 3 3 (.call (.drain [1, 0])) 4 ++ beats "draining" =
      (.start (.call (.drain [1, 0])) :: pre ++ [m]) ++ (post ++ beats "draining") := by
    rw [alone, hms]
    simp
  rw [hsplit] at hmeets
  exact ⟨s, u, x, hs, hu, hx, (hlater _ x (hmeets.of_exec hexec) hx).1 rfl⟩

/-- **The agent says `ready`**, as it always does: a node that was drained gets the job, and one
that was marked dead is ready. -/
theorem decisions_are_undone : (∃ s u x, Run.exec step initial Sample.joined = some s ∧
      s.threads.length = 3 ∧ Run.exec step s (Sample.alone 3 3 (.call (.drain [1, 0])) 4) = some u ∧
      (u.answer 3).map Response.status = some 200 ∧ Run.exec step u (Sample.beats "ready") = some x ∧
      x.assigns [1, 0] (.step 5 (Sample.env 4)) = true) ∧
    ∃ s u x, Run.exec step initial Sample.joined = some s ∧ s.threads.length = 3 ∧
      Run.exec step s (Sample.alone 3 3 (.call (.setDead [1, 0])) 4) = some u ∧
      (u.answer 3).map Response.status = some 204 ∧ Run.exec step u (Sample.beats "ready") = some x ∧
      (x.shared.nodes.lookup [1, 0]).map Node.status = some .ready := by
  simp only [exists_and_left]
  decide +kernel

end Ocelot.Compute
