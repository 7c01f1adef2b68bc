/-
# The workloads of a node that is lost or dead (`monitor.go`, `node_api.go`).

A pass of the monitor settles what is on a node that it marks; an operator who marks it dead
settles nothing.
-/
import Ocelot.Compute.NodeLoss
import Ocelot.Compute.Reservations

namespace Ocelot.Compute

open Table Bool Option Workload Run Sample Plane Tables
open Tracker (Bytes)
open Prog (Triple Issues)

/-! ## Deserted nodes -/

def Workload.isOn (n : NodeID) (row : Workload) : Bool := row.nodeID = some n && row.status.isActive

open Workload

variable {n : NodeID} {t : Tables} {op : Op}

theorem Workload.isOn_iff {row : Workload} :
    row.isOn n = true ↔ row.nodeID = some n ∧ row.status.isActive = true := by
  simp [isOn]

def Tables.Deserted (t : Tables) (n : NodeID) : Prop := ∀ w, ∀ row ∈ t.workloads.lookup w, row.isOn n = false

def Tables.Gone (t : Tables) (n : NodeID) : Prop := ∃ row, t.nodes.lookup n = some row ∧ row.status.isGone = true

def Tables.Released (t : Tables) (id : ReservationID) : Prop :=
  ∃ r, t.reservations.lookup id = some r ∧ r.isHeld = false

def Op.wakes (n : NodeID) (t : Tables) : Op → Bool
  | .exec (.insertWorkload _ row) => row.isOn n
  | .exec (.updateNode (.heartbeat id _ _)) => n = id
  | .exec (.updateWorkload (.markStarted w node _)) =>
    n = node && (t.workloads.lookup w).any fun row => row.nodeID = some n && !row.status.isActive
  | _ => false

theorem Tables.Gone.act (h : t.Gone n) (env : Env) (hop : op.wakes n t = false) : (act env op t).1.Gone n := by
  obtain ⟨_, hrow, hgone⟩ := h
  obtain ⟨row', hrow', rfl | ⟨s, rfl, hid, hguard, hset⟩⟩ := act_node_cases hrow env op
  · exact ⟨_, hrow', hgone⟩
  · refine ⟨row', hrow', ?_⟩
    cases s with
    | heartbeat id => simp [Op.wakes, hid, NodeStmt.id] at hop
    | inventory =>
      simp only [NodeStmt.set] at hset
      split_ifs at hset
      cases hset
      exact hgone
    | drain => simp [NodeStmt.guard, hgone] at hguard
    | setDead | markLost =>
      cases hset
      rfl

variable {node : NodeID}

theorem Tables.Gone.ne_of_findNode (h : t.Gone n) {res : ResourceSpec} {rank : Bytes → ℕ}
    (hfound : t.findNode res rank = some node) : node ≠ n := by
  rintro rfl
  obtain ⟨_, hrow, hgone⟩ := h
  obtain ⟨_, hrow', hsched⟩ := schedulable_of_findNode hfound
  rw [hrow] at hrow'
  cases hrow'
  rw [NodeStatus.not_isSchedulable_of_isGone hgone] at hsched
  cases hsched

variable {row' : Workload}

theorem lookup_scheduleOne {env : Env} {pw : PendingWork} {w : WorkloadID}
    (h : (act env (.scheduleOne pw) t).1.workloads.lookup w = some row') : t.workloads.lookup w = some row' ∨
      ∃ node row, t.findNode pw.manifest.resources env.rank = some node ∧
        t.workloads.lookup w = some row ∧ row' = dispatch node env.now row := by
  have hacts := act_acts env (.scheduleOne pw) t
  generalize (act env (.scheduleOne pw) t).1 = t' at hacts h
  cases hacts with
  | unchanged => exact .inl h
  | booked _ node _ hfound =>
    have hmod : (t.workloads.modify (dispatchable pw.id) (dispatch node env.now)).lookup w = some row' := h
    rw [lookup_modify] at hmod
    obtain ⟨row, hrow, rfl⟩ := map_eq_some_iff.1 hmod
    split_ifs
    · exact .inr ⟨node, row, hfound, hrow, rfl⟩
    · exact .inl hrow

theorem WorkloadStmt.not_isOn_set {s : WorkloadStmt} {row : Workload} (hguard : s.guard row = true)
    (hstart : ∀ id node ts, s ≠ .markStarted id node ts) (h : row.isOn n = false) :
    (s.set row).isOn n = false := by
  -- a workload that runs is active, so it is on another node
  have hrunning : row.status.isRunning = true → decide (row.nodeID = some n) = false := by
    intro hrunning
    have hact : row.status.isActive = true := by simp [WorkloadStatus.isActive_eq, hrunning]
    rwa [isOn, hact, Bool.and_true] at h
  cases s with
  | cancel =>
    simp only [WorkloadStmt.set]
    split_ifs with hrun
    · show (decide (row.nodeID = some n) && _) = false
      rw [hrunning hrun, Bool.false_and]
    · exact and_false _
  | stop =>
    simp only [WorkloadStmt.guard, and_eq_true] at hguard
    show (decide (row.nodeID = some n) && _) = false
    rw [hrunning hguard.2, Bool.false_and]
  | markStarted id node ts => exact absurd rfl (hstart id node ts)
  | markFinished _ _ outcome =>
    cases outcome with
    | completed | failed | timedOut => exact and_false _
  | requeue => rfl
  | failLost | timeOut => exact and_false _

theorem isOn_of_act {env : Env} {w : WorkloadID}
    (hrow' : (act env op t).1.workloads.lookup w = some row') (hon : row'.isOn n = true) :
    (∃ row, t.workloads.lookup w = some row ∧ row.isOn n = true) ∨ op = .exec (.insertWorkload w row') ∨
      (∃ ts row, op = .exec (.updateWorkload (.markStarted w n ts)) ∧
        t.workloads.lookup w = some row ∧ row.nodeID = some n ∧ row.status.isActive = false) ∨
      ∃ pw row now, op = .scheduleOne pw ∧ w = pw.id ∧ t.workloads.lookup w = some row ∧
        row.status.isPending = true ∧
        row' = dispatch n now row := by
  have heff := act_effect env op t w
  rw [hrow'] at heff
  generalize t.workloads.lookup w = pre at heff ⊢
  cases heff with
  | unchanged => exact .inl ⟨row', rfl, hon⟩
  | inserted _ hins => exact .inr (.inl hins)
  | updated s row hupd hid hguard =>
    cases hwas : row.isOn n with
    | true => exact .inl ⟨row, rfl, hwas⟩
    | false =>
      -- only the report of a start makes a workload active
      by_cases hstart : ∃ id node ts, s = .markStarted id node ts
      · obtain ⟨id, node, ts, rfl⟩ := hstart
        have hnode : row.nodeID = some node := of_decide_eq_true hguard
        have haft : row.nodeID = some n := (isOn_iff.1 hon).1
        obtain rfl : node = n := mem_unique hnode haft
        have hid' : w = id := hid
        subst hid'
        refine .inr (.inr (.inl ⟨ts, row, hupd, rfl, hnode, ?_⟩))
        simpa [isOn, hnode] using hwas
      · have hoff : (s.set row).isOn n = false := by
          refine WorkloadStmt.not_isOn_set hguard ?_ hwas
          rintro id node ts rfl
          exact hstart ⟨id, node, ts, rfl⟩
        rw [hoff] at hon
        cases hon
  | dispatched pw node now row hop hid hpend =>
    have hnode : some node = some n := (isOn_iff.1 hon).1
    cases hnode
    exact .inr (.inr (.inr ⟨pw, row, now, hop, hid, rfl, hpend, rfl⟩))

theorem Tables.Deserted.act (hgone : t.Gone n) (h : t.Deserted n) (env : Env)
    (hop : op.wakes n t = false) : (act env op t).1.Deserted n := by
  intro w row' hrow'
  rw [mem_def] at hrow'
  -- nothing is on the node before
  have hbef : ∀ row, t.workloads.lookup w = some row → row.isOn n = true → False := by
    intro row hrow hon
    rw [h w row hrow] at hon
    cases hon
  rw [← not_eq_true]
  intro hon
  rcases isOn_of_act hrow' hon with ⟨row, hrow, hwas⟩ | rfl | ⟨_, row, rfl, hrow, hnode, hinact⟩ |
    ⟨_, row, _, rfl, -⟩
  · exact hbef row hrow hwas
  · have hoff : row'.isOn n = false := hop
    rw [hon] at hoff
    cases hoff
  · simp [Op.wakes, hrow, hnode, hinact] at hop
  · rcases lookup_scheduleOne hrow' with hsame | ⟨node, row, hfound, -, rfl⟩
    · exact hbef row' hsame hon
    · have hnode : some node = some n := (isOn_iff.1 hon).1
      exact hgone.ne_of_findNode hfound (some.inj hnode)

variable {id : ReservationID}

theorem act_reservation {r : Reservation} (h : t.reservations.lookup id = some r)
    (env : Env) (op : Op) : ∃ r', (act env op t).1.reservations.lookup id = some r' ∧
      r'.workloadID = r.workloadID ∧
      (r.isHeld = false → r'.isHeld = false) := by
  have hacts := act_acts env op t
  generalize (act env op t).1 = t' at hacts ⊢
  cases hacts with
  | released =>
    refine ⟨_, (lookup_modify ..).trans (by rw [h, map_some]), ?_⟩
    split_ifs
    · exact ⟨rfl, fun _ => rfl⟩
    · exact ⟨rfl, fun hr => hr⟩
  | booked _ _ _ _ _ hins =>
    refine ⟨r, (lookup_insert hins id).trans ?_, rfl, fun hr => hr⟩
    rw [if_neg, h]
    rintro rfl
    rw [lookup_of_insert hins] at h
    cases h
  | _ => exact ⟨r, h, rfl, fun hr => hr⟩

theorem Tables.Released.act (h : t.Released id) (env : Env) (op : Op) :
    (act env op t).1.Released id := by
  obtain ⟨r, hr, hrel⟩ := h
  obtain ⟨r', hr', -, hkept⟩ := act_reservation hr env op
  exact ⟨r', hr', hkept hrel⟩

/-! ## What a recovery settles -/

def Settled (row : Option Workload) (held : List Reservation) : Prop :=
  (∀ r ∈ row, r.status.isActive = false) ∧ held = []

def OnOrSettled (n : NodeID) (row : Option Workload) (held : List Reservation) : Prop :=
  (∃ r ∈ row, r.isOn n = true) ∨ Settled row held

/-- The node is as it was, and the workload is on it or settled. -/
def Awaiting (n : NodeID) (row : Node) (w : WorkloadID) (t : Tables) : Prop :=
  t.nodes.lookup n = some row ∧ Sees w (OnOrSettled n) t

section

variable {w : WorkloadID}

theorem recover_settles (now : Millis) :
    Triple act Env.Healthy (Sees w fun _ _ => True) (recoverWorkload now w) fun _ => Sees w Settled := by
  intro env henv t _
  obtain ⟨later, hview⟩ := triple_recover w (t.workloads.lookup w) (t.held w) now w env henv t ⟨rfl, rfl⟩
  apply hview.sees
  refine ⟨inactive_requeue ?_ w w later _, if_pos rfl⟩
  intro _ hr'
  obtain ⟨r, -, rfl⟩ := map_eq_some_iff.1 hr'
  cases hterm : r.status.isTerminal with
  | true => simp [WorkloadStmt.guard, hterm, WorkloadStatus.not_isActive_of_isTerminal]
  | false => simp [WorkloadStmt.id, WorkloadStmt.guard, WorkloadStmt.set, hterm, WorkloadStatus.isActive]

theorem recover_keeps {I : Option Workload → List Reservation → Prop}
    (hI : ∀ row held, Settled row held → I row held) (now : Millis) (u : WorkloadID) :
    Triple act Env.Healthy (Sees w I) (recoverWorkload now u) fun _ => Sees w I := by
  by_cases hu : u = w
  · subst hu
    intro env henv t _
    exact hI _ _ (recover_settles now env henv t trivial)
  · apply triple_sees
    intro row held hrow
    refine (triple_recover w row held now u).mono ?_
    rintro _ t ⟨_, hview⟩
    have hne : w ≠ u := fun h => hu h.symm
    rw [rowStep_of_ne hne, rowStep_of_ne hne, if_neg hne] at hview
    exact hview.sees hrow

theorem recoverNode_settles (n : NodeID) :
    Triple act Env.Healthy (Sees w (OnOrSettled n)) (recoverNodeWorkloads n) fun _ => Sees w Settled := by
  -- a workload that is active on the node is in the answer to the query
  refine .perform (R := fun ans t =>
    (∃ workloads, ans = some workloads ∧ w ∈ workloads) ∧ Sees w (fun _ _ => True) t ∨ ans ≠ none ∧
      Sees w Settled t) ?_ ?_
  · intro _ t henv hsees
    rw [act_of_not_fails henv]
    rcases hsees with ⟨r, hr, hon⟩ | hsettled
    · refine .inl ⟨⟨_, rfl, ?_⟩, trivial⟩
      exact List.mem_map.2 ⟨(w, r), mem_ordered.2 ⟨hr, hon⟩, rfl⟩
    · exact .inr ⟨some_ne_none _, hsettled⟩
  · have hkeeps : ∀ now u, Triple act Env.Healthy (Sees w Settled) (recoverWorkload now u) fun _ =>
        Sees w Settled :=
      recover_keeps fun _ _ h => h
    rintro (_ | workloads)
    · refine .or (.lift ?_) (.lift fun hans => absurd rfl hans)
      rintro ⟨workloads, hans, -⟩
      cases hans
    · refine .or (.lift ?_) (.lift fun _ => ?_)
      · rintro ⟨_, hans, hw⟩
        cases hans
        refine sees_quiet_then rfl fun now => ?_
        exact .forEach_of_mem hw (fun u _ => recover_keeps (fun _ _ _ => trivial) now u)
          (recover_settles now) fun u _ => hkeeps now u
      · exact sees_quiet_then rfl fun now => .forEach fun u _ => hkeeps now u

variable {n : NodeID} {row : Node}

theorem act_node_of_ne {t : Tables} (h : t.nodes.lookup n = some row) (env : Env) {op : Op}
    (hop : ∀ s, op = .exec (.updateNode s) → n ≠ s.id) : (act env op t).1.nodes.lookup n = some row := by
  obtain ⟨_, hrow', rfl | ⟨s, hstmt, hid, -⟩⟩ := act_node_cases h env op
  · exact hrow'
  · exact absurd hid (hop s hstmt)

theorem loseNode_settles (m : NodeID) : Triple act Env.Healthy (Awaiting n row w) (loseNode m)
    fun _ t => Awaiting n row w t ∨ Sees w Settled t := by
  have hkeeps : ∀ now u, Triple act Env.Healthy (Sees w (OnOrSettled n)) (recoverWorkload now u)
      fun _ => Sees w (OnOrSettled n) := recover_keeps fun _ _ h => .inr h
  by_cases hm : m = n
  · subst hm
    cases hgone : row.status.isGone with
    | true =>
      -- the guard of the `UPDATE` does not hold
      refine .perform (R := fun ans t => ans = some 0 ∧ Awaiting m row w t) ?_ ?_
      · rintro env t henv ⟨hrow, hsees⟩
        have hskipped : t.updateNode (.markLost m) = (t, some 0) := by
          simp [updateNode, NodeStmt.id, NodeStmt.guard, hrow, hgone]
        rw [act_of_not_fails henv]
        show (t.updateNode (.markLost m)).2 = some 0 ∧ (t.updateNode (.markLost m)).1.nodes.lookup m = some row ∧
          Sees w (OnOrSettled m) (t.updateNode (.markLost m)).1
        rw [hskipped]
        exact ⟨rfl, hrow, hsees⟩
      · rintro (_ | _ | k)
        · exact .ret fun t ht => .inl ht.2
        · exact .ret fun t ht => .inl ht.2
        · refine .lift fun hans => ?_
          cases hans
    | false =>
      refine .perform (R := fun ans t => ans = some 1 ∧ Sees w (OnOrSettled m) t) ?_ ?_
      · rintro env t henv ⟨hrow, hsees⟩
        refine ⟨?_, (View.quiet ⟨rfl, rfl⟩ env rfl).sees hsees⟩
        rw [act_of_not_fails henv]
        show (t.updateNode (.markLost m)).2 = some 1
        simp [updateNode, NodeStmt.id, NodeStmt.guard, NodeStmt.set, hrow, hgone]
      · rintro (_ | _ | k)
        · refine .lift fun hans => ?_
          cases hans
        · refine .lift fun hans => ?_
          cases hans
        · refine .lift fun _ => .bind (quiet_insertEvent _ _ _ _).sees fun _ => ?_
          exact (recoverNode_settles m).mono fun _ t ht => .inr ht
  · have hother : Triple act Env.Healthy (fun t => t.nodes.lookup n = some row) (loseNode m)
        fun _ t => t.nodes.lookup n = some row := by
      have hreads : ∀ op : Op, op.reads = true → ∀ s, op = .exec (.updateNode s) → n ≠ s.id := by
        rintro op hop s rfl
        cases hop
      refine Issues.triple (issues_loseNode hreads ?_ ?_)
        fun env op t _ hop h => act_node_of_ne h env hop
      · intro s hs
        cases hs
        exact fun h => hm h.symm
      · intro now u
        refine issues_recover hreads ?_ ?_ ?_ fun _ => ?_
        all_goals
          intro s hs
          cases hs
    exact (hother.and (triple_loseNode hkeeps m)).mono fun _ t ht => .inl ht

theorem checkNodes_settles (lossAfter : Millis) : Triple act Env.Healthy (Awaiting n row w) (checkNodes lossAfter)
    fun _ t => Awaiting n row w t ∨ Sees w Settled t := by
  have hsettled : ∀ m, Triple act Env.Healthy (Sees w Settled) (loseNode m) fun _ => Sees w Settled :=
    triple_loseNode (recover_keeps fun _ _ h => h)
  have hquiet : ∀ {op : Op} {env : Env} {t : Tables}, op.quiet = true →
    (∀ s, op = .exec (.updateNode s) → n ≠ s.id) →
      Awaiting n row w t → Awaiting n row w (act env op t).1 := by
    rintro op env t hop hnode ⟨hrow, hsees⟩
    exact ⟨act_node_of_ne hrow env hnode, (View.quiet ⟨rfl, rfl⟩ env hop).sees hsees⟩
  refine .perform (R := fun _ => Awaiting n row w) ?_ fun _ => ?_
  · intro env t _ ht
    exact hquiet rfl (fun s hs => by cases hs) ht
  refine .perform (R := fun _ => Awaiting n row w) ?_ ?_
  · intro env t _ ht
    exact hquiet rfl (fun s hs => by cases hs) ht
  rintro (_ | stale)
  · exact .ret fun t ht => .inl ht
  · have hloop : Triple act Env.Healthy
        (fun t => Awaiting n row w t ∨ Sees w Settled t) (.forEach loseNode stale)
        fun _ t => Awaiting n row w t ∨ Sees w Settled t := by
      refine .forEach fun m _ => .or (loseNode_settles m) ?_
      exact (hsettled m).mono fun _ t ht => .inr ht
    intro env henv t ht
    exact hloop env henv t (.inl ht)

end

/-! ## Runs of the plane -/

namespace Plane

/-- **What a step must meet**: what the node reports as started is active if it is on the node. -/
def StartsActive (n : NodeID) (p : Plane) : Label → Prop
  | .event node ev _ =>
    node = n → ev.kind = .started → ∀ row ∈ p.tables.workloads.lookup ev.workloadID, row.nodeID = some n →
      row.status.isActive = true
  | _ => True

instance (n : NodeID) (p : Plane) : (l : Label) → Decidable (p.StartsActive n l)
  | .event _ _ _ => inferInstanceAs (Decidable (_ → _ → _))
  | .call _ _ | .select _ | .scheduleOne _ => isTrue trivial

def Left (n : NodeID) (t : Tables) : Prop := t.Gone n ∧ t.Deserted n

variable {n : NodeID} {p p' : Plane} {l : Label}

theorem Left.act {t : Tables} (h : Left n t) (env : Env) {op : Op} (hop : op.wakes n t = false) :
    Left n (act env op t).1 := ⟨h.1.act env hop, Deserted.act h.1 h.2 env hop⟩

theorem triple_left {α : Type} {prog : Program α} (h : Issues (fun op => ∀ t, op.wakes n t = false) prog) :
    Triple act (fun _ => True) (Left n) prog fun _ => Left n :=
  Issues.triple h fun env _ t _ hop hleft => hleft.act env (hop t)

theorem not_wakes_of_reads : ∀ op : Op, op.reads = true → ∀ t, op.wakes n t = false := by
  intro op hop t
  cases op with
  | exec stmt =>
    cases stmt with
    | insertEvent => rfl
    | _ => cases hop
  | _ => rfl

theorem call_left {c : Call} (hc : ∀ status, c ≠ .heartbeat n status) :
    Issues (fun op => ∀ t, op.wakes n t = false) c.code := by
  refine issues_call not_wakes_of_reads (fun _ _ _ _ _ _ _ => rfl) (fun _ _ _ => rfl)
    (fun node status heq _ t => ?_)
    (fun _ _ _ _ _ => rfl) (fun _ _ _ _ => rfl) (fun _ _ _ => rfl) (fun _ _ => rfl) (fun _ _ => rfl)
      (fun s hs t => ?_)
    (fun _ _ _ => rfl) fun _ _ => rfl
  · refine decide_eq_false ?_
    rintro rfl
    exact hc status heq
  · cases s with
    | markStarted id node ts => exact absurd rfl (hs id node ts)
    | _ => rfl

variable {env : ℕ → Env}

theorem event_left {ev : HealthEvent} (h : Left n p.tables)
    (hstart : p.StartsActive n (.event node ev env)) :
    Left n ((applyHealthEvent node ev).run act env p.tables).1 := by
  by_cases hkind : ev.kind = .started
  · have hwakes : Op.wakes n p.tables
        (.exec (.updateWorkload (.markStarted ev.workloadID node ev.ts))) = false := by
      by_cases hn : node = n
      · subst hn
        rw [← not_eq_true]
        simp only [Op.wakes, decide_true, Bool.true_and, any_eq_true, Bool.and_eq_true,
          decide_eq_true_eq, not_eq_true']
        rintro ⟨row, hrow, hnode, hinact⟩
        rw [hstart rfl hkind row hrow hnode] at hinact
        cases hinact
      · have hne : ¬ n = node := fun heq => hn heq.symm
        simp [Op.wakes, hne]
    have hevent : Triple act (fun _ => True) (fun t => t = p.tables)
        (applyHealthEvent node ev) fun _ => Left n := by
      unfold applyHealthEvent
      rw [hkind]
      refine .perform (R := fun _ => Left n) ?_ fun _ => ?_
      · rintro e t - rfl
        exact h.act e hwakes
      · exact triple_left (issues_insertEvent not_wakes_of_reads _ _ _ _)
    exact hevent env (fun _ => trivial) p.tables rfl
  · refine triple_left ?_ env (fun _ => trivial) p.tables h
    exact issues_applyHealthEvent not_wakes_of_reads (fun hstarted => absurd hstarted hkind)
      (fun _ _ => rfl) (fun _ => rfl) (fun _ => rfl) fun _ _ => rfl

theorem step_left (h : Left n p.tables) (hl : ∀ status env, l ≠ .call (.heartbeat n status) env)
    (hstart : p.StartsActive n l) (hstep : p.step l = some p') : Left n p'.tables := by
  cases l with
  | call _ env =>
    cases hstep
    refine triple_left (call_left ?_) env (fun _ => trivial) p.tables h
    rintro status rfl
    exact hl status env rfl
  | event =>
    cases hstep
    exact event_left h hstart
  | select =>
    cases hstep
    exact h
  | scheduleOne env =>
    obtain ⟨_, -, ⟨-, hsame⟩ | ⟨-, htables⟩⟩ := step_scheduleOne hstep
    · rw [hsame]
      exact h
    · rw [htables]
      exact h.act env rfl

theorem settled_of_marked {lossAfter : Millis} (henv : ∀ k, (env k).Healthy)
    {row row' : Node} (hrow : p.tables.nodes.lookup n = some row)
    (hrow' : ((Call.checkNodes lossAfter).code.run act env p.tables).1.nodes.lookup n = some row')
    (hmark : row'.status ≠ row.status) {w : WorkloadID} {held : Workload}
    (hheld : p.tables.workloads.lookup w = some held) (hon : held.isOn n = true) :
    Sees w Settled ((Call.checkNodes lossAfter).code.run act env p.tables).1 := by
  have hpass : Triple act Env.Healthy (Awaiting n row w) (Call.checkNodes lossAfter).code
      fun _ t => Awaiting n row w t ∨ Sees w Settled t :=
    (checkNodes_settles lossAfter).map
  rcases hpass env henv p.tables ⟨hrow, .inl ⟨held, hheld, hon⟩⟩ with ⟨hsame, -⟩ | hsettled
  · rw [hsame] at hrow'
    cases hrow'
    exact absurd rfl hmark
  · exact hsettled

/-- **How a node is marked in good order**: by a pass of the monitor without database errors, or by
an operator while nothing is active on it. -/
def MarkedInOrder (n : NodeID) (p : Plane) : Label → Prop
  | .call (.checkNodes _) env => ∀ k, (env k).Healthy
  | .call (.setDead node) _ => node = n ∧ p.tables.Deserted n
  | _ => False

theorem deserted_of_marked (hl : p.MarkedInOrder n l) (hstep : p.step l = some p')
    {row row' : Node} (hrow : p.tables.nodes.lookup n = some row) (hrow' : p'.tables.nodes.lookup n = some row')
    (hmark : row'.status ≠ row.status) : p'.tables.Deserted n ∧
      ∀ w, ∀ held ∈ p.tables.workloads.lookup w, held.isOn n = true → Sees w Settled p'.tables := by
  unfold MarkedInOrder at hl
  split at hl
  · rename_i lossAfter env
    cases hstep
    have hsettled : ∀ w, ∀ held ∈ p.tables.workloads.lookup w, held.isOn n = true →
        Sees w Settled ((Call.checkNodes lossAfter).code.run act env p.tables).1 := by
      intro w held hheld hon
      exact settled_of_marked hl hrow hrow' hmark hheld hon
    refine ⟨fun w after haft => ?_, hsettled⟩
    by_cases hon : ∃ held ∈ p.tables.workloads.lookup w, held.isOn n = true
    · obtain ⟨held, hheld, hon⟩ := hon
      have hinact := (hsettled w held hheld hon).1 after haft
      rw [isOn, hinact, Bool.and_false]
    · -- what is not on the node stays away from it
      have hoff : Sees w (fun row _ => ∀ r ∈ row, r.isOn n = false) p.tables := by
        intro r hr
        rw [← not_eq_true]
        exact fun h => hon ⟨r, hr, h⟩
      have hkeeps : ∀ now u, Triple act Env.Healthy (Sees w fun row _ => ∀ r ∈ row, r.isOn n = false)
          (recoverWorkload now u) fun _ => Sees w fun row _ => ∀ r ∈ row, r.isOn n = false := by
        refine recover_keeps fun row _ hsettled r hr => ?_
        rw [isOn, hsettled.1 r hr, Bool.and_false]
      exact (triple_checkNodes hkeeps lossAfter).map env hl p.tables hoff after haft
  · rename_i node env
    obtain ⟨rfl, hdeserted⟩ := hl
    cases hstep
    refine ⟨fun w after haft => ?_, fun w held hheld hon => ?_⟩
    · have hquiet : Quiet (Call.setDead node).code := (quiet_setDead node).map _
      have hview := hquiet.triple (fun _ => True) w _ _ env (fun _ => trivial) p.tables ⟨rfl, rfl⟩
      exact hdeserted w after (by rw [← hview.row]; exact haft)
    · rw [hdeserted w held hheld] at hon
      cases hon
  · exact hl.elim

end Plane

/-- **Workloads do not stay with a node that is gone.** -/
theorem gone_node_deserted {p p' q : Plane} {n : NodeID} {l : Label} {ms : List Label}
    {row row' : Node} (hstep : p.step l = some p') (hrow : p.tables.nodes.lookup n = some row)
    (hrow' : p'.tables.nodes.lookup n = some row') (hmarked : row'.status ≠ row.status)
    (hgone : row'.status.isGone = true) (hrun : Run.exec step p' ms = some q)
    (horder : p.MarkedInOrder n l) (hstarts : Run.Meets step (StartsActive n) p' ms) :
    ((∀ status env, .call (.heartbeat n status) env ∉ ms) → q.tables.Deserted n) ∧
      ∀ w id r, ∀ held ∈ p.tables.workloads.lookup w, held.isOn n = true →
        p.tables.reservations.lookup id = some r →
        r.workloadID = w → q.tables.Released id := by
  obtain ⟨hdeserted, hsettled⟩ := deserted_of_marked horder hstep hrow hrow' hmarked
  constructor
  · intro hsil
    have hmeets := hstarts.and
      (meets_of_forall (L := fun l => ∀ status env, l ≠ Label.call (.heartbeat n status) env)
        (fun l hl status env heq => hsil status env (heq ▸ hl)) p')
    have hleft := exec_invariant_of_meets (I := fun x : Plane => Left n x.tables)
      (fun x l y hx hl hxy => step_left hx hl.2 hl.1 hxy) ⟨⟨row', hrow', hgone⟩, hdeserted⟩ hmeets hrun
    exact hleft.2
  · intro w id r held hheld hon hr hw
    -- the reservation is there after the pass, and the workload holds none
    have hkept : ∃ r', p'.tables.reservations.lookup id = some r' ∧ r'.workloadID = w := by
      refine step_keeps (I := fun t => ∃ r', t.reservations.lookup id = some r' ∧ r'.workloadID = w)
        ?_ ⟨r, hr, hw⟩ hstep
      rintro env op t ⟨_, hr1, hw1⟩
      obtain ⟨r2, hr2, hsame, -⟩ := act_reservation hr1 env op
      exact ⟨r2, hr2, hsame.trans hw1⟩
    obtain ⟨r', hr', hw'⟩ := hkept
    have hrel : p'.tables.Released id := by
      refine ⟨r', hr', ?_⟩
      rw [← not_eq_true]
      intro hheld'
      have hmem : r' ∈ p'.tables.held w := mem_held.2 ⟨id, hr', hw', hheld'⟩
      have hnone : p'.tables.held w = [] := (hsettled w held hheld hon).2
      rw [hnone] at hmem
      cases hmem
    exact exec_invariant (I := fun x : Plane => x.tables.Released id)
      (fun _ _ _ => step_keeps (I := fun t => t.Released id) fun env op _ ht => ht.act env op) hrel hrun

namespace Sample

def busy : List Label := placed ++ [.event [1, 0] (tell [2, 0] .started) fun _ => env 4]

def pass : Label := .call (.checkNodes 90000) fun _ => late 5

def bury : Label := .call (.setDead [1, 0]) fun _ => env 5

end Sample

theorem gone_node_deserted_lost :
    ∃ p p' q, Run.exec step initial busy = some p ∧ p.step pass = some p' ∧
      p'.step pass = some q ∧ (p.tables.workloads.lookup [2, 0]).any (isOn [1, 0]) = true ∧
      q.tables.Deserted [1, 0] ∧ q.tables.Released [3, 0] := by
  obtain ⟨p, hp, ⟨row, hrow, hstat⟩, hany, ⟨r, hr, hw⟩, p', hp', ⟨row', hrow', hstat'⟩, q, hq, -⟩ :
      ∃ p, Run.exec step initial busy = some p ∧
        (∃ row, p.tables.nodes.lookup [1, 0] = some row ∧ row.status = .ready) ∧
        (p.tables.workloads.lookup [2, 0]).any (isOn [1, 0]) = true ∧
        (∃ r, p.tables.reservations.lookup [3, 0] = some r ∧ r.workloadID = [2, 0]) ∧
        ∃ p', p.step pass = some p' ∧ (∃ row', p'.tables.nodes.lookup [1, 0] = some row' ∧
          row'.status = .lost) ∧ ∃ q, p'.step pass = some q ∧ True := by
    decide +kernel
  obtain ⟨held, hheld, hon⟩ := (any_eq_true _ _).1 hany
  have hmark : row'.status ≠ row.status := by
    rw [hstat, hstat']
    decide
  have hgone : row'.status.isGone = true := by
    rw [hstat']
    rfl
  have hexec : Run.exec step p' [pass] = some q := by
    rw [Run.exec, hq]
    rfl
  have hstarts : Run.Meets step (StartsActive [1, 0]) p' [pass] :=
    meets_cons.2 ⟨trivial, fun _ _ => meets_nil _ _⟩
  obtain ⟨hdeserted, hrel⟩ := gone_node_deserted hp' hrow hrow' hmark hgone hexec (fun _ => rfl) hstarts
  refine ⟨p, p', q, hp, hp', hq, hany, hdeserted ?_, hrel [2, 0] [3, 0] r held hheld hon hr hw⟩
  intro status _ hmem
  cases List.mem_singleton.1 hmem

/-- **An operator marks the node dead**: the monitor passes, and the job still runs there, with its
reservation. -/
theorem dead_node_keeps_workload :
    ∃ p p' q, Run.exec step initial busy = some p ∧ p.step bury = some p' ∧
      p'.step pass = some q ∧ (q.tables.nodes.lookup [1, 0]).map Node.status = some .dead ∧
      (q.tables.workloads.lookup [2, 0]).any (isOn [1, 0]) = true ∧
      (q.tables.reservations.lookup [3, 0]).any (Reservation.heldBy [2, 0]) = true := by
  simp only [exists_and_left]
  decide +kernel

end Ocelot.Compute
