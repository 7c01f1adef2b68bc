/-
# The life cycle of a node, whatever is interleaved.
-/
import Ocelot.VirtualServer.Lifecycle

namespace Ocelot.VirtualServer

open Sample Option Tables Pool Run Node
open Tracker (lit)
open Prog (Issues)

inductive NodeCaller where
  | heartbeat (n : NodeID) (availRAMMiB availCPU : ℤ)
  | updateNodeState (n : NodeID) (dst : NodeState)

def NodeCaller.program : NodeCaller → Program Unit
  | heartbeat n ram cpu => attempt (VirtualServer.heartbeat n ram cpu)
  | updateNodeState n dst => attempt (VirtualServer.updateNodeState n dst)

def NodeRow.Lawful (row row' : NodeRow) : Prop :=
  row'.state = row.state ∨ row.state.validateNodeTransition row'.state = true

/-- **What is asked of a step**: states change along the table, and a heartbeat leaves protected
states alone. -/
structure NodeStep (env : Env) (op : Op) (w : World) : Prop where
  allowed : ∀ n row, w.tables.nodes.lookup n = some row →
    ∃ row', (act env op w).1.tables.nodes.lookup n = some row' ∧ row.Lawful row'
  spared : ∀ n ram cpu dst row row', op = .write (.writeHeartbeat n ram cpu dst) →
    w.tables.nodes.lookup n = some row →
    row.state.isProtected = true → (act env op w).1.tables.nodes.lookup n = some row' → row'.state = row.state

/-- **The condition on a heartbeat that writes**: it writes the state it finds, or it finds one that
is not protected and that the table lets it change so. -/
def Op.Timely (env : Env) (op : Op) (w : World) : Prop :=
  match op with
  | .write (.writeHeartbeat n _ _ dst) => env.fails = false → ∀ row ∈ w.tables.nodes.lookup n,
      dst = row.state ∨ row.state.isProtected = false ∧ row.state.validateNodeTransition dst = true
  | _ => True

def Op.ofNode : Op → Prop
  | .write (.writeNodeState _ src dst) => src.validateNodeTransition dst = true
  | .write (.writeHeartbeat _ _ _ _) => True
  | op => op.isQuiet = true

theorem NodeCaller.issues_ofNode (c : NodeCaller) : Issues Op.ofNode c.program := by
  have hquiet : ∀ op : Op, op.isQuiet = true → op.ofNode := by
    intro op hop
    cases op with
    | write => cases hop
    | _ => exact hop
  cases c with
  | heartbeat =>
    exact Issues.attempt (issues_query hquiet (.except (fun _ => .ret _) fun _ => issues_write trivial))
  | updateNodeState => exact (issues_updateNodeState hquiet fun _ hval => hval).attempt

theorem Tables.lookup_setNode (t : Tables) (id : NodeID) (f : NodeRow → NodeRow) (n : NodeID) :
    (t.setNode id f).nodes.lookup n = (t.nodes.lookup n).map fun row => if n = id then f row else row := by
  simp [setNode, Table.lookup_modify]

theorem NodeStep.of_same {env : Env} {op : Op} {w : World}
    (h : (act env op w).1.tables = w.tables) : NodeStep env op w := by
  refine ⟨fun n row hrow => ⟨row, by rw [h, hrow], .inl rfl⟩, fun n _ _ _ row _ _ hrow _ hrow' => ?_⟩
  rw [h, hrow] at hrow'
  rw [some.inj hrow']

theorem tables_writeHeartbeat {env : Env} (hok : env.fails = false) (w : World) (n : NodeID)
    (ram cpu : ℤ) (dst : NodeState) :
    (act env (.write (.writeHeartbeat n ram cpu dst)) w).1.tables = w.tables.writeHeartbeat env n ram cpu dst := by
  simp only [act, Write.exec_of_ok (w := .writeHeartbeat n ram cpu dst) hok rfl]

theorem nodeStep_writeNodeState {n : NodeID} {src dst : NodeState}
    (hval : src.validateNodeTransition dst = true) (env : Env)
    (w : World) : NodeStep env (.write (.writeNodeState n src dst)) w := by
  rcases act_cases env (.write (.writeNodeState n src dst)) w with hsame | ⟨_, hwr, -, hcom⟩
  · exact .of_same hsame
  · cases hwr
    refine ⟨fun m row hrow => ?_, fun _ _ _ _ _ _ hwrite => by cases hwrite⟩
    generalize (act env (.write (.writeNodeState n src dst)) w).1.tables = t' at hcom ⊢
    cases hcom with
    | nodeMoved _ _ _ hsrc =>
      rw [lookup_setNode, hrow]
      refine ⟨_, rfl, ?_⟩
      split_ifs with hm
      · subst hm
        have hst : row.state = src := by simpa [hrow] using hsrc
        exact .inr (by rw [hst]; exact hval)
      · exact .inl rfl

theorem nodeStep_writeHeartbeat_iff {env : Env} (hok : env.fails = false) (n : NodeID) (ram cpu : ℤ)
    (dst : NodeState) (w : World) :
    NodeStep env (.write (.writeHeartbeat n ram cpu dst)) w ↔ ∀ row ∈ w.tables.nodes.lookup n,
      dst = row.state ∨ row.state.isProtected = false ∧ row.state.validateNodeTransition dst = true := by
  have haft : ∀ m row, w.tables.nodes.lookup m = some row →
      ∃ row', (act env (.write (.writeHeartbeat n ram cpu dst)) w).1.tables.nodes.lookup m = some row' ∧
        row'.state = if m = n then dst else row.state := by
    intro m row hrow
    rw [tables_writeHeartbeat hok, writeHeartbeat, lookup_setNode, hrow]
    refine ⟨_, rfl, ?_⟩
    split_ifs <;> rfl
  constructor
  · intro h row hrow
    obtain ⟨row', hrow', hst⟩ := haft n row hrow
    rw [if_pos rfl] at hst
    obtain ⟨row2, hrow2, hlaw⟩ := h.allowed n row hrow
    obtain rfl := mem_unique hrow' hrow2
    cases hprot : row.state.isProtected with
    | true => exact .inl (hst.symm.trans (h.spared n ram cpu dst row row' rfl hrow hprot hrow'))
    | false => exact hlaw.imp (fun h => hst.symm.trans h) fun h => ⟨rfl, hst ▸ h⟩
  · intro h
    refine ⟨fun m row hrow => ?_, ?_⟩
    · obtain ⟨row', hrow', hst⟩ := haft m row hrow
      refine ⟨row', hrow', ?_⟩
      unfold NodeRow.Lawful
      rw [hst]
      split_ifs with hm
      · subst hm
        exact (h row hrow).imp_right And.right
      · exact .inl rfl
    · rintro m _ _ _ row row' ⟨⟩ hrow hprot hrow'
      obtain ⟨row2, hrow2, hst⟩ := haft n row hrow
      obtain rfl := mem_unique hrow' hrow2
      rw [hst, if_pos rfl]
      rcases h row hrow with hsame | ⟨hfree, -⟩
      · exact hsame
      · exact absurd hprot (by simp [hfree])

theorem nodeStep_iff {op : Op} (hop : op.ofNode) (env : Env) (w : World) :
    NodeStep env op w ↔ op.Timely env w := by
  unfold Op.ofNode at hop
  split at hop
  · exact iff_of_true (nodeStep_writeNodeState hop env w) trivial
  · rename_i n ram cpu dst
    cases hfails : env.fails with
    | true =>
      refine iff_of_true (.of_same ?_) fun hok => absurd (hfails.symm.trans hok) (by decide)
      simp only [act, Write.exec_of_fails hfails]
    | false =>
      exact (nodeStep_writeHeartbeat_iff hfails n ram cpu dst w).trans ⟨fun h _ => h, fun h => h hfails⟩
  · refine iff_of_true (.of_same (by rw [act_of_isQuiet hop])) ?_
    cases op with
    | write => cases hop
    | _ => trivial

def Node.step : Pool World Op Op.Ans Unit → Move NodeCaller Env → Option (Pool World Op Op.Ans Unit) :=
  Pool.step act NodeCaller.program

/-- **The life cycle of nodes is followed** throughout a run. -/
structure FollowsNodeLifecycle (w : World) (ms : List (Move NodeCaller Env)) : Prop where
  steps : Meets step (Heeds NodeStep) ⟨w, []⟩ ms
  retired : ∀ pre mid post u v, ms = pre ++ mid ++ post → exec step ⟨w, []⟩ pre = some u →
    exec step u mid = some v → ∀ n row, u.shared.tables.nodes.lookup n = some row → row.state = .retired →
      ∃ row', v.shared.tables.nodes.lookup n = some row' ∧ row'.state = .retired

theorem followsNodeLifecycle_of_steps {w : World} {ms : List (Move NodeCaller Env)}
    (h : Run.Meets Node.step (Pool.Heeds NodeStep) ⟨w, []⟩ ms) : FollowsNodeLifecycle w ms := by
  refine ⟨h, ?_⟩
  rintro _ _ _ u v rfl hu hv n row hrow hret
  rw [List.append_assoc] at h
  refine Run.exec_invariant_of_meets
    (I := fun x : Pool World Op Op.Ans Unit => ∃ row', x.shared.tables.nodes.lookup n = some row' ∧
    row'.state = .retired) ?_ ⟨row, hrow, hret⟩ (h.of_exec hu).of_append hv
  rintro x m y ⟨row1, hrow1, hst1⟩ hheeds hstep
  rcases Pool.step_shared act NodeCaller.program hstep with ⟨-, hsame⟩ | ⟨k, _, op, rfl, hiss, hsh⟩
  · rw [hsame]
    exact ⟨row1, hrow1, hst1⟩
  · rw [hsh]
    obtain ⟨row2, hrow2, hlaw⟩ := (hheeds op hiss).allowed n row1 hrow1
    refine ⟨row2, hrow2, ?_⟩
    rcases hlaw with hsame | hval
    · rw [hsame, hst1]
    · rw [hst1] at hval
      cases hval

/-- **The life cycle of nodes is followed exactly if heartbeats write in time.** -/
theorem follows_node_lifecycle_iff (w : World) (ms : List (Move NodeCaller Env)) :
    FollowsNodeLifecycle w ms ↔ Run.Meets Node.step (Pool.Heeds fun env op => op.Timely env) ⟨w, []⟩ ms := by
  have hsteps : _ ↔ Run.Meets Node.step _ _ _ :=
    Pool.meets_heeds_iff NodeCaller.issues_ofNode (fun env op w hop => nodeStep_iff hop env w) w ms
  exact ⟨fun h => hsteps.1 h.steps, fun h => followsNodeLifecycle_of_steps (hsteps.2 h)⟩

/-- The heartbeat has read a node that is then drained and retired, and writes it ready. -/
theorem retired_is_ready : ∃ w ms, ¬ FollowsNodeLifecycle w ms := by
  let w : World := ⟨{ empty with nodes := ⟨[(lit "n1", host.toNodeRow)], List.nodup_singleton _⟩ }, []⟩
  let pre : List (Move NodeCaller Env) :=
    [.start (.heartbeat (lit "n1") 1024 8), .step 0 calm, .start (.updateNodeState (lit "n1") .draining),
      .step 1 calm, .step 1 calm, .start (.updateNodeState (lit "n1") .retired), .step 2 calm,
      .step 2 calm]
  refine ⟨w, pre ++ [.step 0 calm], fun hfols => ?_⟩
  obtain ⟨u, hu, ⟨row, hrow, hret⟩, v, hv, haft⟩ : ∃ u, Run.exec Node.step ⟨w, []⟩ pre = some u ∧
      (∃ row, u.shared.tables.nodes.lookup (lit "n1") = some row ∧ row.state = .retired) ∧
      ∃ v, Run.exec Node.step u [.step 0 calm] = some v ∧
        (v.shared.tables.nodes.lookup (lit "n1")).map NodeRow.state = some .ready := by decide +kernel
  obtain ⟨_, hrow', hst⟩ := hfols.retired pre _ [] u v (by simp) hu hv _ row hrow hret
  rw [hrow', map_some, hst] at haft
  cases haft

end Ocelot.VirtualServer
