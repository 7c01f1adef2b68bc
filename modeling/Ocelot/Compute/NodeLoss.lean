/-
# Nodes that fall silent (`monitor.go`).
-/
import Ocelot.Compute.NodeDecisions
import Ocelot.Compute.WorkloadView

namespace Ocelot.Compute

open List Option Run Server Sample
open Tracker (lit)
open Prog (Issues)

def Tables.Silent (t : Tables) (n : NodeID) (threshold : Millis) : Prop :=
  ∃ row heard, t.nodes.lookup n = some row ∧ row.lastHeartbeat = some heard ∧ heard < threshold

def Op.hears (n : NodeID) (threshold : Millis) : Op → Bool
  | .exec (.updateNode (.heartbeat id _ now)) | .exec (.updateNode (.inventory id _ _ _ _ now)) =>
    n = id && threshold ≤ now
  | _ => false

def Op.loses (t : Tables) (n : NodeID) : Op → Bool
  | .exec (.updateNode (.markLost id)) => n = id && (t.nodes.lookup n).any (NodeStmt.markLost id).guard
  | _ => false

variable {n : NodeID} {threshold : Millis}

theorem silent_of_isStale {t : Tables} {row : Node} (hrow : t.nodes.lookup n = some row)
    (h : row.isStale threshold = true) : t.Silent n threshold := by
  simp only [Node.isStale, Bool.and_eq_true] at h
  cases hheard : row.lastHeartbeat with
  | none => simp [hheard] at h
  | some heard => exact ⟨row, heard, hrow, hheard, by simpa [hheard] using h.1⟩

theorem Tables.Silent.act {t : Tables} (h : t.Silent n threshold) (env : Env) {op : Op}
    (hop : op.hears n threshold = false) : (act env op t).1.Silent n threshold := by
  obtain ⟨_, heard, hrow, hheard, hlt⟩ := h
  obtain ⟨_, hrow', rfl | ⟨s, rfl, hid, -, hset⟩⟩ := act_node_cases hrow env op
  · exact ⟨_, heard, hrow', hheard, hlt⟩
  · cases s with
    | heartbeat id _ now =>
      obtain ⟨_, -, hrow'⟩ := bind_eq_some_iff.1 hset
      cases hrow'
      refine ⟨_, now, hrow', rfl, ?_⟩
      simpa [Op.hears, hid, NodeStmt.id] using hop
    | inventory id _ _ _ _ now =>
      simp only [NodeStmt.set] at hset
      split_ifs at hset
      cases hset
      refine ⟨_, now, hrow', rfl, ?_⟩
      simpa [Op.hears, hid, NodeStmt.id] using hop
    | drain | setDead | markLost =>
      cases hset
      exact ⟨_, heard, hrow', hheard, hlt⟩

namespace Server

def hears (s : Server) (n : NodeID) (threshold : Millis) : Move Handler Env → Bool :=
  s.does fun _ _ op => op.hears n threshold

def loses (s : Server) (n : NodeID) : Move Handler Env → Bool := s.does fun _ t op => op.loses t n

theorem thread_of_loses {s : Server} {i : ℕ} {env : Env} (h : s.loses n (.step i env) = true) :
    ∃ k, s.threads[i]? = some (.call (.exec (.updateNode (.markLost n))) k) := by
  obtain ⟨e, he, hloses⟩ := (any_eq_true _ _).1 h
  simp only [performed] at he
  split_ifs at he
  obtain ⟨op, hiss, rfl⟩ := map_eq_some_iff.1 he
  simp only [Pool.issued] at hiss
  split at hiss
  · rename_i op' k hth
    cases hiss
    simp only [Op.loses] at hloses
    split at hloses
    · simp only [Bool.and_eq_true, decide_eq_true_eq] at hloses
      rw [hloses.1]
      exact ⟨k, hth⟩
    · cases hloses
  · cases hiss

end Server

theorem issues_loseNodes (stale : List NodeID) :
    Issues (fun op => ∀ n, op = .exec (.updateNode (.markLost n)) → n ∈ stale) (Prog.forEach loseNode stale) := by
  have hreads : ∀ op : Op, op.reads = true → ∀ n, op = .exec (.updateNode (.markLost n)) → n ∈ stale := by
    rintro op hop n rfl
    cases hop
  refine .forEach fun _ hnode => issues_loseNode hreads ?_ fun _ w => issues_recover hreads ?_ ?_ ?_ fun _ => ?_
  · intro n hn
    cases hn
    exact hnode
  all_goals
    intro n hn
    cases hn

theorem staleNodes_answer (env : Env) (threshold : Millis) (t : Tables) :
    (act env (.staleNodes threshold) t).1 = t ∧
      ∀ stale n, (act env (.staleNodes threshold) t).2 = some stale → n ∈ stale → t.Silent n threshold := by
  cases hfails : env.fails with
  | true =>
    rw [act, if_pos hfails]
    refine ⟨rfl, fun stale n hstale => ?_⟩
    cases hstale
  | false =>
    rw [act_of_not_fails hfails]
    refine ⟨rfl, fun stale n hstale hn => ?_⟩
    cases hstale
    obtain ⟨e, he, rfl⟩ := mem_map.1 hn
    obtain ⟨hrow, hsil⟩ := Table.mem_ordered.1 he
    exact silent_of_isStale hrow hsil

/-- **A node that the monitor marks lost is silent, unless it is heard between the query and the
`UPDATE`.** -/
theorem lost_node_silent {s u : Server} {lossAfter : Millis} {ms : List (Move Handler Env)}
    (hrun : Run.exec Server.step s (.start (.call (.checkNodes lossAfter)) :: ms) = some u)
    {n : NodeID} {env : Env}
    (hloses : u.loses n (.step s.threads.length env) = true) : ∃ pre clock mid query post v,
      ms = pre ++ .step s.threads.length clock :: (mid ++ .step s.threads.length query :: post) ∧
      (∀ e, .step s.threads.length e ∉ pre) ∧ (∀ e, .step s.threads.length e ∉ mid) ∧
      Run.exec Server.step s (.start (.call (.checkNodes lossAfter)) ::
        (pre ++ .step s.threads.length clock :: (mid ++ [.step s.threads.length query]))) = some v ∧
      (Run.Meets Server.step (fun x l => x.hears n (clock.now - lossAfter) l = false) v post →
        u.shared.Silent n (clock.now - lossAfter)) := by
  obtain ⟨k, hlast⟩ := thread_of_loses hloses
  have hrun' : Run.exec step ⟨s.shared, s.threads ++ [(Call.checkNodes lossAfter).code]⟩ ms = some u := hrun
  have hstart : (s.threads ++ [(Call.checkNodes lossAfter).code])[s.threads.length]? =
      some (Call.checkNodes lossAfter).code := by simp
  -- it reads the clock
  rcases Pool.exec_thread_cases hstart hrun' with
    ⟨-, hsame⟩ | ⟨pre, clock, post1, v1, v1', rfl, hpre, hexec1, -, hstep1, hth1, hpost1⟩
  · rw [hsame] at hlast
    cases hlast
  have hclock : (act clock .nowMs v1.shared).2 = clock.now := by
    unfold act
    split_ifs <;> rfl
  -- it makes its query
  rcases Pool.exec_thread_cases hth1 hpost1 with
    ⟨-, hsame⟩ | ⟨mid, query, post, v, v', rfl, hmid, hexec, hbef, hstep, hth, hpost⟩
  · rw [hsame] at hlast
    cases hlast
  have hexec' : Run.exec step v1' (mid ++ [.step s.threads.length query]) = some v' :=
    exec_concat_eq_some.2 ⟨v, hexec, hstep⟩
  refine ⟨pre, clock, mid, query, post, v', rfl, hpre, hmid, ?_, fun hmeets => ?_⟩
  · show Run.exec step ⟨s.shared, s.threads ++ [(Call.checkNodes lossAfter).code]⟩ _ = _
    have hexec1' : Run.exec step ⟨s.shared, s.threads ++ [(Call.checkNodes lossAfter).code]⟩ pre =
      some v1 := hexec1
    have hstep1' : step v1 (.step s.threads.length clock) = some v1' := hstep1
    rw [exec_append, hexec1', bind_some, Run.exec, hstep1', bind_some]
    exact hexec'
  rw [hclock] at hth hbef
  obtain ⟨hsame, hfound⟩ := staleNodes_answer query (clock.now - lossAfter) v.shared
  -- what it marks, its query has found
  have hmem : ∃ stale, (act query (.staleNodes (clock.now - lossAfter)) v.shared).2 = some stale ∧ n ∈ stale := by
    cases hans : (act query (.staleNodes (clock.now - lossAfter)) v.shared).2 with
    | none =>
      rw [hans] at hth
      obtain ⟨p', hp', hiss⟩ := Pool.exec_issues (O := fun _ => False) hth (.ret none) hpost
      rw [hlast] at hp'
      cases hp'
      cases hiss with
      | call hop => exact hop.elim
    | some stale =>
      rw [hans] at hth
      obtain ⟨p', hp', hiss⟩ := Pool.exec_issues hth ((issues_loseNodes stale).map fun _ => none) hpost
      rw [hlast] at hp'
      cases hp'
      cases hiss with
      | call hop => exact ⟨stale, rfl, hop n rfl⟩
  obtain ⟨stale, hstale, hn⟩ := hmem
  have hsil : v'.shared.Silent n (clock.now - lossAfter) := by
    rw [Pool.step_shared_self hbef hstep, hsame]
    exact hfound stale n hstale hn
  refine exec_invariant_of_meets (I := fun x : Server => x.shared.Silent n (clock.now - lossAfter))
    ?_ hsil hmeets hpost
  intro y l z hy hl hstep'
  exact keeps_of_step (I := (·.Silent n _)) (fun env _ => hy.act env) hy hl hstep'

namespace Sample

def late (k : UInt8) : Env := { env k with now := 100000 }

def scan : List (Move Handler Env) := [.step 3 (late 3), .step 3 (late 3)]

def lateBeat : List (Move Handler Env) :=
  [.start (.call (.heartbeat [1, 0] (lit "ready"))), .step 4 (late 3), .step 4 (late 3)]

end Sample

theorem lost_node_silent_alone : ∃ s u, Run.exec Server.step Server.initial Sample.joined = some s ∧
    s.threads.length = 3 ∧
      Run.exec Server.step s (.start (.call (.checkNodes 90000)) :: Sample.scan) = some u ∧
      u.loses [1, 0] (.step 3 (Sample.late 3)) = true ∧ u.shared.Silent [1, 0] 10000 := by
  obtain ⟨s, hs, hlen, u, hu, hloses⟩ : ∃ s, Run.exec step initial joined = some s ∧ s.threads.length = 3 ∧
        ∃ u, Run.exec step s (.start (.call (.checkNodes 90000)) :: scan) = some u ∧
          u.loses [1, 0] (.step 3 (late 3)) = true := by
    decide +kernel
  have hloses' : u.loses [1, 0] (.step s.threads.length (late 3)) = true := by
    rw [hlen]
    exact hloses
  obtain ⟨pre, _, mid, _, _, v, hms, hpre, hmid, -, hsil⟩ := lost_node_silent hu hloses'
  rw [hlen] at hms hpre hmid
  refine ⟨s, u, hs, hlen, hu, hloses, ?_⟩
  -- the pass makes its two moves, and nothing comes after its query
  cases pre with
  | cons =>
    obtain ⟨rfl, -⟩ := cons.inj hms
    exact absurd mem_cons_self (hpre _)
  | nil =>
    obtain ⟨hclock, hrest⟩ := cons.inj hms
    cases hclock
    cases mid with
    | cons =>
      obtain ⟨rfl, -⟩ := cons.inj hrest
      exact absurd mem_cons_self (hmid _)
    | nil =>
      obtain ⟨-, rfl⟩ := cons.inj hrest
      exact hsil (meets_nil _ _)

/-- **The node is heard between the query and the `UPDATE`**, at the very time the pass began: it is
marked lost. -/
theorem live_node_marked_lost : ∃ s u x, Run.exec Server.step Server.initial Sample.joined =
    some s ∧ s.threads.length = 3 ∧
      Run.exec Server.step s (.start (.call (.checkNodes 90000)) :: (Sample.scan ++ Sample.lateBeat)) = some u ∧
      u.loses [1, 0] (.step 3 (Sample.late 3)) = true ∧
      (u.shared.nodes.lookup [1, 0]).map Node.lastHeartbeat = some (some 100000) ∧
      Server.step u (.step 3 (Sample.late 3)) = some x ∧
          (x.shared.nodes.lookup [1, 0]).map Node.status = some .lost := by
  simp only [exists_and_left]
  decide +kernel

end Ocelot.Compute
