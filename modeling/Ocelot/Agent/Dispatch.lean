/-
# The agent and the control plane together.

A poll that lists a workload whose end is still owed starts it again. In a run that avoids this
window each dispatch is executed at most once.
-/
import Ocelot.Agent.MainLoop
import Ocelot.Compute.NodeRecovery

namespace Ocelot.Agent

open List Option Table Bool
open Compute (WorkloadID NodeID Env Op Handler Server Tables Workload DesiredWorkload act)
open Prog (Issues)
open Tracker (lit)

/-! ## Starts and dispatches -/

inductive Mark where
  | dispatched (w : WorkloadID)
  | started (w : WorkloadID)
  | exited (w : WorkloadID)
  | settled (w : WorkloadID)
  deriving DecidableEq

namespace Mark

def fresh (w : WorkloadID) (before : Bool) : Mark → Bool
  | dispatched u => before || u = w
  | started u => before && u ≠ w
  | exited _ | settled _ => before

def owed (w : WorkloadID) (before : Bool) : Mark → Bool
  | exited u => before || u = w
  | dispatched u | started u | settled u => before && u ≠ w

end Mark

def fresh (log : List Mark) (w : WorkloadID) : Bool := log.foldl (Mark.fresh w) false
def owed (log : List Mark) (w : WorkloadID) : Bool := log.foldl (Mark.owed w) false

section

variable {log : List Mark} {m : Mark} {w : WorkloadID}

theorem fresh_concat : fresh (log ++ [m]) w = m.fresh w (fresh log w) := foldl_concat ..

theorem owed_concat : owed (log ++ [m]) w = m.owed w (owed log w) := foldl_concat ..

end

/-- **One start for each dispatch**: a workload is started only after it has been dispatched since
its last start. -/
def StartsFresh (log : List Mark) : Prop := ∀ pre post w, log = pre ++ .started w :: post → fresh pre w = true

theorem StartsFresh.concat {log : List Mark} {m : Mark} (h : StartsFresh log)
    (hm : ∀ w, m = .started w → fresh log w = true) : StartsFresh (log ++ [m]) := by
  intro pre post w hsplit
  rcases eq_nil_or_concat post with rfl | ⟨post', x, rfl⟩
  · obtain ⟨rfl, hlast⟩ := append_inj' hsplit rfl
    cases hlast
    exact hm w rfl
  · rw [concat_eq_append, ← cons_append, ← append_assoc] at hsplit
    obtain ⟨rfl, -⟩ := append_inj' hsplit rfl
    exact h pre post' w rfl

theorem StartsFresh.count_le {log : List Mark} (h : StartsFresh log) (w : WorkloadID) :
    log.count (.started w) ≤ log.count (.dispatched w) := by
  -- a dispatch that has not been used is one more
  have hstrong : log.count (.started w) + (fresh log w).toNat ≤ log.count (.dispatched w) := by
    induction log using reverseRecOn with
    | nil => simp [fresh]
    | append_singleton log m ih =>
      have hlog : StartsFresh log := by
        intro pre post u hsplit
        exact h pre (post ++ [m]) u (by rw [hsplit]; simp)
      have hbef := ih hlog
      rw [fresh_concat, count_append, count_append]
      cases m with
      | dispatched u =>
        by_cases hu : u = w
        · subst hu
          simp [Mark.fresh]
          omega
        · simpa [Mark.fresh, hu] using hbef
      | started u =>
        by_cases hu : u = w
        · subst hu
          have hused : fresh log u = true := h log [] u rfl
          rw [hused] at hbef
          simp [Mark.fresh] at hbef ⊢
          omega
        · simpa [Mark.fresh, hu] using hbef
      | exited | settled => simpa [Mark.fresh] using hbef
  omega

def Task.startID : Task → Option WorkloadID
  | start wl => some wl.id
  | stop _ | stopped _ _ => none

def Phase.startIDs (phase : Phase) : List WorkloadID := phase.tasks.filterMap Task.startID

theorem Task.startID_eq_none {t : Task} (h : t.isStart = false) : t.startID = none := by
  cases t with
  | stop | stopped => rfl
  | start => cases h

theorem startIDs_plan (running : Table WorkloadID ℕ) (answer : List DesiredWorkload)
    (order : List (WorkloadID × ℕ))
    (starts : List DesiredWorkload) : (Loop.plan running answer order starts).filterMap Task.startID =
      (starts.filter fun wl => (running.lookup wl.id).isNone).map DesiredWorkload.id := by
  obtain ⟨stops, hstops, hplan⟩ := Loop.plan_eq running answer order starts
  have hnone : ∀ t ∈ stops, t.startID = none := fun t ht => Task.startID_eq_none (hstops t ht)
  rw [hplan, filterMap_append, filterMap_eq_nil_iff.2 hnone, nil_append, filterMap_map]
  exact congrFun filterMap_eq_map' _

theorem nodup_desiredRun (answer : List DesiredWorkload) : ((desiredRun answer).map DesiredWorkload.id).Nodup := by
  induction answer with
  | nil => exact nodup_nil
  | cons _ _ ih =>
    rw [desiredRun]
    split_ifs with hnew
    · rw [map_cons, nodup_cons]
      refine ⟨?_, ih⟩
      intro hmem
      obtain ⟨other, hother, hid⟩ := mem_map.1 hmem
      have htaken := any_eq_false.1 hnew.2 other hother
      simp [hid] at htaken
    · exact ih

/-! ## Agent and control plane -/

structure System where
  node : NodeID
  server : Server
  loop : Loop
  attempts : List ℕ
  log : List Mark

namespace System

def initial (node : NodeID) : System := ⟨node, .initial, .initial, [], []⟩

inductive Label where
  | plane (m : Move Handler Env)
  | attempt
  | poll (env : Env)
  | agent (l : Loop.Label)

def dispatches (node : NodeID) (t t' : Tables) (w : WorkloadID) : Bool :=
  (t.workloads.lookup w).any (fun row => row.status.isPending) &&
    (t'.workloads.lookup w).any fun row => row.status = .dispatched && row.nodeID = some node

variable (s : System)

def planeMarks (m : Move Handler Env) : List Mark :=
  match s.server.performed m with
  | some (env, .scheduleOne pw) =>
    if dispatches s.node s.server.shared (act env (.scheduleOne pw) s.server.shared).1 pw.id then
      [.dispatched pw.id] else []
  | some (_, .exec (.updateWorkload (.markFinished id n _ _ _ _))) => if n = s.node then [.settled id] else []
  | _ => []

def loopMarks (a : Loop) : Loop.Label → List Mark
  | .remove pid => a.processes[pid]?.toList.map fun p => .exited p.workload
  | .work .launched _ =>
    match a.phase with
    | .reconciling (.start wl :: _) => if a.running.lookup wl.id = none then [.started wl.id] else []
    | _ => []
  | _ => []

def allows : Loop.Label → Bool
  | .poll _ => false
  | .posted => s.attempts.any fun i => s.server.answer i = some .ok
  | _ => true

def attemptsAfter : Loop.Label → List ℕ
  | .posted | .postFailed => []
  | _ => s.attempts

def isReportOf (node : NodeID) : Move Handler Env → Bool
  | .start (.health n _) => n = node
  | _ => false

def step : Label → Option System
  | .plane m =>
    if isReportOf s.node m then none
    else (s.server.step m).map fun server => { s with server, log := s.log ++ s.planeMarks m }
  | .attempt =>
    match s.loop.phase with
    | .posting req =>
      (s.server.step (.start (.health s.node req.events))).map fun server =>
        { s with server, attempts := s.attempts ++ [s.server.threads.length] }
    | _ => none
  | .poll env =>
    if env.fails then none
    else (s.loop.step (.poll (s.server.shared.desired s.node env.rank))).map fun loop => { s with loop }
  | .agent l =>
    if s.allows l then
      (s.loop.step l).map fun loop =>
        { s with loop, attempts := s.attemptsAfter l, log := s.log ++ loopMarks s.loop l }
    else none

/-- **The window is avoided**: no poll lists a workload whose end is still owed; no process of a
workload that a poll has listed leaves the running set before the reconciliation reads it; and a
report that a workload was started finds it active. -/
def steady : Label → Bool
  | .plane m =>
    match s.server.performed m with
    | some (_, .exec (.updateWorkload (.markStarted id n _))) =>
      n ≠ s.node || (s.server.shared.workloads.lookup id).all fun row =>
        row.nodeID ≠ some s.node || row.status.isActive
    | _ => true
  | .poll env =>
    (s.server.shared.desired s.node env.rank).all fun wl =>
      wl.action ≠ .run || !owed s.log wl.id || fresh s.log wl.id
  | .agent (.remove pid) =>
    match s.loop.phase with
    | .polled answer => s.loop.processes[pid]?.all fun p => !wants answer p.workload || fresh s.log p.workload
    | _ => true
  | _ => true

end System

def Unassigned : Op → Prop
  | .exec (.insertWorkload _ row) => row.nodeID = none
  | _ => True

theorem issues_unassigned (h : Handler) : Issues Unassigned h.code := by
  refine (Compute.Handler.issues_inserts (P := fun row => row.nodeID = none)
    (fun _ _ _ _ _ => rfl) h).mono fun op hop => ?_
  cases op with
  | exec stmt =>
    cases stmt with
    | insertWorkload => exact hop
    | _ => trivial
  | _ => trivial

namespace System

variable {s s' : System}

theorem planeMarks_cases (s : System) (m : Move Handler Env) :
    s.planeMarks m = [] ∨ (∃ w, s.planeMarks m = [.dispatched w]) ∨ ∃ w, s.planeMarks m = [.settled w] := by
  unfold planeMarks
  split
  · split_ifs
    · exact .inr (.inl ⟨_, rfl⟩)
    · exact .inl rfl
  · split_ifs
    · exact .inr (.inr ⟨_, rfl⟩)
    · exact .inl rfl
  · exact .inl rfl

variable {w : WorkloadID} {m : Move Handler Env}

theorem fresh_planeMarks (m : Move Handler Env) (h : fresh s.log w = true) :
    fresh (s.log ++ s.planeMarks m) w = true := by
  rcases s.planeMarks_cases m with hm | ⟨u, hm⟩ | ⟨u, hm⟩
  · rw [hm, append_nil]
    exact h
  · rw [hm, fresh_concat]
    simp [Mark.fresh, h]
  · rw [hm, fresh_concat]
    exact h

theorem performed_of_settled (h : s.planeMarks m = [.settled w]) : ∃ env outcome ts exitCode
    message, s.server.performed m =
      some (env, .exec (.updateWorkload (.markFinished w s.node outcome ts exitCode message))) := by
  unfold planeMarks at h
  split at h
  · split_ifs at h
    cases h
  · rename_i env id n outcome ts exitCode message hperf
    split_ifs at h with hn
    obtain rfl : id = w := by simpa using h
    subst hn
    exact ⟨env, outcome, ts, exitCode, message, hperf⟩
  · cases h

variable {server : Server} {row : Workload}

theorem not_isOn_of_settled (hstep : s.server.step m = some server) (h : s.planeMarks m = [.settled w])
    (hrow : server.shared.workloads.lookup w = some row) : row.isOn s.node = false := by
  obtain ⟨_, outcome, _, _, _, hperf⟩ := performed_of_settled h
  rcases Server.step_cases hstep with ⟨hnone, -⟩ | ⟨_, _, hperf', hfails, hsh⟩
  · rw [hnone] at hperf
    cases hperf
  · rw [hperf] at hperf'
    cases hperf'
    rw [hsh, Compute.act_of_not_fails hfails] at hrow
    obtain ⟨pre, -, rfl⟩ := map_eq_some_iff.1 ((Compute.lookup_updateWorkload ..).symm.trans hrow)
    split_ifs with happ
    · cases outcome with
      | completed | failed | timedOut => exact and_false _
    · have hother : pre.nodeID ≠ some s.node := by
        intro hnode
        exact happ ⟨rfl, decide_eq_true hnode⟩
      simp [Workload.isOn, hother]

theorem active_of_plane (hstep : s.server.step m = some server)
    (hths : ∀ p ∈ s.server.threads, Issues Unassigned p) (hsteady : s.steady (.plane m) = true)
    (hrow : server.shared.workloads.lookup w = some row) (hon : row.isOn s.node = true) :
    s.planeMarks m = [.dispatched w] ∨
      (∃ pre, s.server.shared.workloads.lookup w = some pre ∧ pre.isOn s.node = true) ∧
        s.planeMarks m ≠ [.settled w] := by
  have hsettled : s.planeMarks m ≠ [.settled w] := by
    intro hmarks
    rw [not_isOn_of_settled hstep hmarks hrow] at hon
    cases hon
  rcases Server.step_cases hstep with ⟨-, hsame⟩ | ⟨env, _, hperf, -, hsh⟩
  · rw [hsame] at hrow
    exact .inr ⟨⟨row, hrow, hon⟩, hsettled⟩
  · rw [hsh] at hrow
    rcases Compute.isOn_of_act hrow hon with
      hbef | rfl | ⟨ts, pre, rfl, hbef, hnode, hinact⟩ | ⟨pw, pre, now, rfl, rfl, hbef, hpend, rfl⟩
    · exact .inr ⟨hbef, hsettled⟩
    · -- a workload is inserted without a node
      have hfree := Pool.issued_mem hths (Server.issued_of_performed hperf)
      have hnone : row.nodeID = none := hfree
      simp [Workload.isOn, hnone] at hon
    · simp [steady, hperf, hbef, hnode, hinact] at hsteady
    · left
      have hdisps : dispatches s.node s.server.shared (act env (.scheduleOne pw) s.server.shared).1
          pw.id = true := by
        simp [dispatches, hbef, hpend, hrow, Compute.Tables.dispatch]
      simp [planeMarks, hperf, hdisps]

/-! ## The invariant -/

/-- **What holds as long as the window is avoided**: a workload that is active on the node, that a
poll asked to run or that is about to be started has a dispatch of its own, or a process. -/
structure Inv (s : System) : Prop where
  threads : ∀ p ∈ s.server.threads, Issues Unassigned p
  covered : ∀ w row, s.server.shared.workloads.lookup w = some row → row.isOn s.node = true →
    fresh s.log w = true ∨ s.loop.running.lookup w ≠ none ∨ owed s.log w = true
  polled : ∀ answer, s.loop.phase = .polled answer → ∀ w, wants answer w = true →
    fresh s.log w = true ∨ s.loop.running.lookup w ≠ none
  starting : ∀ w ∈ s.loop.phase.startIDs, fresh s.log w = true
  distinct : s.loop.phase.startIDs.Nodup
  starts : StartsFresh s.log

namespace Inv

theorem initial (node : NodeID) : Inv (initial node) where
  threads := by
    intro p hp
    cases hp
  covered := by
    intro w _ hrow
    cases hrow
  polled := by
    intro _ hph
    cases hph
  starting := by
    intro w hw
    cases hw
  distinct := nodup_nil
  starts := by
    intro _ _ w hsplit
    simp [System.initial] at hsplit

theorem frame (h : Inv s) (hnode : s'.node = s.node) (hserv : s'.server = s.server)
    (hlog : s'.log = s.log) (hrun : s'.loop.running = s.loop.running)
    (hpolled : ∀ answer, s'.loop.phase = .polled answer → s.loop.phase = .polled answer)
    (hstarts : s'.loop.phase.startIDs.Sublist s.loop.phase.startIDs) : Inv s' where
  threads := by
    rw [hserv]
    exact h.threads
  covered := by
    rw [hserv, hnode, hlog, hrun]
    exact h.covered
  polled := by
    intro answer hph
    rw [hlog, hrun]
    exact h.polled answer (hpolled answer hph)
  starting := by
    intro w hw
    rw [hlog]
    exact h.starting w (hstarts.subset hw)
  distinct := hstarts.nodup h.distinct
  starts := by
    rw [hlog]
    exact h.starts

theorem plane (h : Inv s) {m : Move Handler Env} (hstep : s.server.step m = some server)
    (hsteady : s.steady (.plane m) = true) : Inv { s with server, log := s.log ++ s.planeMarks m } where
  threads := Pool.step_issues issues_unassigned h.threads hstep
  covered := by
    intro w _ hrow hon
    rcases active_of_plane hstep h.threads hsteady hrow hon with hmarks | ⟨⟨pre, hbef, hbeforeOn⟩, hmarks⟩
    · left
      rw [hmarks, fresh_concat]
      simp [Mark.fresh]
    · rcases h.covered w pre hbef hbeforeOn with hfresh | hrun | howed
      · exact .inl (fresh_planeMarks m hfresh)
      · exact .inr (.inl hrun)
      · rcases s.planeMarks_cases m with hm | ⟨u, hm⟩ | ⟨u, hm⟩
        · rw [hm, append_nil]
          exact .inr (.inr howed)
        · by_cases hu : u = w
          · left
            simp [hm, fresh_concat, Mark.fresh, hu]
          · right; right
            simp [hm, owed_concat, Mark.owed, hu, howed]
        · have hu : u ≠ w := by
            rintro rfl
            exact hmarks hm
          right; right
          simp [hm, owed_concat, Mark.owed, hu, howed]
  polled := by
    intro answer hph w hw
    exact (h.polled answer hph w hw).imp_left (fresh_planeMarks m)
  starting := fun w hw => fresh_planeMarks m (h.starting w hw)
  distinct := h.distinct
  starts := by
    rcases s.planeMarks_cases m with hm | ⟨u, hm⟩ | ⟨u, hm⟩
    · rw [hm, append_nil]
      exact h.starts
    · rw [hm]
      exact h.starts.concat nofun
    · rw [hm]
      exact h.starts.concat nofun

variable {attempts : List ℕ}

theorem attempt (h : Inv s) {events : List Compute.HealthEvent}
    (hstep : s.server.step (.start (.health s.node events)) = some server) : Inv { s with server, attempts } where
  threads := Pool.step_issues issues_unassigned h.threads hstep
  covered := by
    cases hstep
    exact h.covered
  polled := h.polled
  starting := h.starting
  distinct := h.distinct
  starts := h.starts

variable {loop : Loop}

theorem poll (h : Inv s) {env : Env} (hsteady : s.steady (.poll env) = true) :
    Inv { s with loop := { s.loop with phase := .polled (s.server.shared.desired s.node env.rank) } } := by
  exact {
    threads := h.threads
    covered := h.covered
    starting := nofun
    distinct := nodup_nil
    starts := h.starts
    polled := by
      intro _ hans w hwants
      cases hans
      simp only [wants, List.any_eq_true, decide_eq_true_eq] at hwants
      obtain ⟨_, hwl, rfl⟩ := hwants
      obtain ⟨hmem, hrun⟩ := Loop.mem_desiredRun hwl
      obtain ⟨⟨w, row⟩, hrow, rfl⟩ := mem_map.1 hmem
      obtain ⟨hlook, hon⟩ := (mem_ordered ..).1 hrow
      -- what is owed, and is listed all the same, has been dispatched since
      have howed := all_eq_true.1 hsteady _ hmem
      rcases h.covered w row hlook hon with hfresh | hrunning | hleft
      · exact .inl hfresh
      · exact .inr hrunning
      · left
        have hrun' : row.status.action = .run := hrun
        simpa [hleft, hrun'] using howed }

theorem remove (h : Inv s) {pid : ℕ} {p : Process} {e : Exit} (hp : s.loop.processes[pid]? = some p)
    (hsteady : s.steady (.agent (.remove pid)) = true) : Inv { s with
      loop := { s.loop.setProgress pid (.removed e) with running := s.loop.running.delete p.workload }
      log := s.log ++ loopMarks s.loop (.remove pid) } := by
  have hmarks : loopMarks s.loop (.remove pid) = [.exited p.workload] := by simp [loopMarks, hp]
  have hfresh : ∀ w, fresh (s.log ++ [.exited p.workload]) w = fresh s.log w := fun w => fresh_concat
  have hdel : ∀ w, w ≠ p.workload → (s.loop.running.delete p.workload).lookup w = s.loop.running.lookup w := by
    intro w hw
    rw [lookup_delete, if_neg hw]
  rw [hmarks]
  exact {
    threads := h.threads
    covered := by
      intro w row hrow hon
      show fresh (s.log ++ [.exited p.workload]) w = true ∨ (s.loop.running.delete p.workload).lookup w ≠ none ∨
        owed (s.log ++ [.exited p.workload]) w = true
      rw [hfresh, owed_concat]
      by_cases hw : w = p.workload
      · right; right
        simp [Mark.owed, hw]
      · rw [hdel w hw]
        rcases h.covered w row hrow hon with hbef | hrun | howed
        · exact .inl hbef
        · exact .inr (.inl hrun)
        · right; right
          simp [Mark.owed, howed]
    polled := by
      intro answer hph w hwants
      have hph' : s.loop.phase = .polled answer := hph
      rw [hfresh]
      by_cases hw : w = p.workload
      · left
        subst hw
        simpa [steady, hph', hp, hwants] using hsteady
      · rw [hdel w hw]
        exact h.polled answer hph' w hwants
    starting := by
      intro w hw
      rw [hfresh]
      exact h.starting w hw
    distinct := h.distinct
    starts := h.starts.concat nofun }

theorem reconcile (h : Inv s) {order : List (WorkloadID × ℕ)} {answer starts : List DesiredWorkload}
    (hph : s.loop.phase = .polled answer) (hperm : starts.Perm (desiredRun answer)) : Inv { s with
      loop := { s.loop with phase := .reconciling (Loop.plan s.loop.running answer order starts) } } := by
  have hids : (Phase.reconciling (Loop.plan s.loop.running answer order starts)).startIDs =
      (starts.filter fun wl => (s.loop.running.lookup wl.id).isNone).map DesiredWorkload.id := startIDs_plan ..
  exact {
    threads := h.threads
    covered := h.covered
    polled := nofun
    starting := by
      intro w hw
      rw [hids] at hw
      obtain ⟨wl, hwl, rfl⟩ := mem_map.1 hw
      obtain ⟨hmem, hnone⟩ := mem_filter.1 hwl
      have hwants : wants answer wl.id = true := by
        simp only [wants, List.any_eq_true, decide_eq_true_eq]
        exact ⟨wl, hperm.subset hmem, rfl⟩
      rcases h.polled answer hph wl.id hwants with hfresh | hrun
      · exact hfresh
      · exact absurd (isNone_iff_eq_none.1 hnone) hrun
    distinct := by
      rw [hids]
      have hnodup : (starts.map DesiredWorkload.id).Nodup := (hperm.map _).nodup_iff.2 (nodup_desiredRun answer)
      exact (filter_sublist.map _).nodup hnodup
    starts := h.starts }

theorem launch (h : Inv s) {w : WorkloadID} {ids : List WorkloadID}
    (hids : s.loop.phase.startIDs = w :: ids) (hrun : ∀ u, loop.running.lookup u ≠ none ↔
    u = w ∨ s.loop.running.lookup u ≠ none) (hpolled : ∀ answer, loop.phase ≠ .polled answer)
    (hids' : loop.phase.startIDs = ids) : Inv { s with loop, log := s.log ++ [.started w] } := by
  have hfresh : fresh s.log w = true := h.starting w (by rw [hids]; exact mem_cons_self)
  have hother : ∀ u, u ≠ w → fresh (s.log ++ [.started w]) u = fresh s.log u := by
    intro u hu
    simp [fresh_concat, Mark.fresh, hu.symm]
  have hdist := h.distinct
  rw [hids, nodup_cons] at hdist
  exact {
    threads := h.threads
    covered := by
      intro u row hrow hon
      rw [hrun]
      by_cases hu : u = w
      · exact .inr (.inl (.inl hu))
      · rw [hother u hu]
        rcases h.covered u row hrow hon with hbef | hbef | howed
        · exact .inl hbef
        · exact .inr (.inl (.inr hbef))
        · right; right
          simp [owed_concat, Mark.owed, howed, Ne.symm hu]
    polled := fun answer hph => absurd hph (hpolled answer)
    starting := by
      intro u hu
      have hmem : u ∈ ids := hids' ▸ hu
      have hne : u ≠ w := by
        rintro rfl
        exact hdist.1 hmem
      rw [hother u hne]
      exact h.starting u (by rw [hids]; exact mem_cons_of_mem _ hmem)
    distinct := by
      rw [hids']
      exact hdist.2
    starts := by
      refine h.starts.concat fun u hu => ?_
      cases hu
      exact hfresh }

theorem start (h : Inv s) {wl : DesiredWorkload} {tasks : List Task} {result : StartResult}
    {now : Compute.Millis} (hph : s.loop.phase = .reconciling (.start wl :: tasks))
    (hloop : loop = { s.loop.startWorkload wl result now with phase := .reconciling tasks }) :
    Inv { s with loop, log := s.log ++ loopMarks s.loop (.work result now) } := by
  have hids : s.loop.phase.startIDs = wl.id :: (Phase.reconciling tasks).startIDs := by
    rw [hph]
    rfl
  subst hloop
  rcases s.loop.startWorkload_cases wl result now with ⟨-, hrun, htaken⟩ | ⟨running, rfl, hins, -, hrun⟩
  · have hmarks : loopMarks s.loop (.work result now) = [] := by
      cases result with
      | launched => simp [loopMarks, hph, htaken rfl]
      | mountFailed | startFailed => rfl
    refine h.frame rfl rfl ?_ hrun (by simp) ?_
    · rw [hmarks, append_nil]
    · rw [hids]
      exact sublist_cons_self ..
  · have hmarks : loopMarks s.loop (.work .launched now) = [.started wl.id] := by
      simp [loopMarks, hph, lookup_of_insert hins]
    rw [hmarks]
    refine h.launch hids ?_ (by simp) rfl
    intro u
    rw [hrun, lookup_insert hins]
    by_cases hu : u = wl.id <;> simp [hu]

theorem agent (h : Inv s) {l : Loop.Label} (hallows : s.allows l = true)
    (hstep : s.loop.step l = some loop) (hsteady : s.steady (.agent l) = true) :
    Inv { s with loop, attempts, log := s.log ++ loopMarks s.loop l } := by
  -- the attempts of a post are nothing to the invariant
  have hattempts : ∀ {log : List Mark}, Inv { s with loop, log } → Inv { s with loop, attempts, log } := by
    intro log hinv
    exact hinv.frame rfl rfl rfl rfl (fun _ => id) (Sublist.refl _)
  -- most steps leave no mark
  have hquiet : loopMarks s.loop l = [] → Inv { s with loop } →
      Inv { s with loop, log := s.log ++ loopMarks s.loop l } := by
    intro hmarks hinv
    rw [hmarks, append_nil]
    exact hinv
  apply hattempts
  cases Loop.steps_of_step hstep with
  | exited => exact hquiet rfl (h.frame rfl rfl rfl rfl (fun _ => id) (List.Sublist.refl _))
  | removed hp => exact h.remove hp hsteady
  | announced => exact hquiet rfl (h.frame rfl rfl rfl rfl (fun _ => id) (List.Sublist.refl _))
  | received => exact hquiet rfl (h.frame rfl rfl rfl rfl (by simp) (nil_sublist _))
  | turned hturn =>
    cases hturn with
    | posted | postFailed | cancelled => exact hquiet rfl (h.frame rfl rfl rfl rfl (by simp) (nil_sublist _))
    | polled => cases hallows
    | planned hph _ hperm => exact hquiet rfl (h.reconcile hph hperm)
    | @worked result _ hph =>
      refine hquiet ?_ (h.frame rfl rfl rfl rfl (by simp) (nil_sublist _))
      cases result <;> simp [loopMarks, hph]
  | @stopped id tasks result _ hph =>
    have hids : s.loop.phase.startIDs = (Phase.reconciling tasks).startIDs := by
      rw [hph]
      rfl
    refine hquiet ?_ (h.frame rfl rfl rfl (s.loop.stop_eq 0 id).1 (by simp) ?_)
    · cases result <;> simp [loopMarks, hph]
    · rw [hids]
  | @told id pid tasks result _ hph =>
    have hids : s.loop.phase.startIDs = (Phase.reconciling tasks).startIDs := by
      rw [hph]
      rfl
    refine hquiet ?_ (h.frame rfl rfl rfl rfl (by simp) ?_)
    · cases result <;> simp [loopMarks, hph]
    · rw [hids]
  | started hph => exact h.start hph rfl

theorem step {l : Label} (h : Inv s) (hsteady : s.steady l = true) (hstep : s.step l = some s') : Inv s' := by
  cases l with
  | plane =>
    simp only [System.step] at hstep
    split_ifs at hstep
    obtain ⟨server, hserv, rfl⟩ := map_eq_some_iff.1 hstep
    exact h.plane hserv hsteady
  | attempt =>
    simp only [System.step] at hstep
    split at hstep
    · obtain ⟨server, hserv, rfl⟩ := map_eq_some_iff.1 hstep
      exact h.attempt hserv
    · cases hstep
  | poll =>
    simp only [System.step] at hstep
    split_ifs at hstep
    obtain ⟨loop, hloop, rfl⟩ := map_eq_some_iff.1 hstep
    cases Loop.steps_of_step hloop with
    | turned hturn =>
      cases hturn
      exact h.poll hsteady
  | agent =>
    simp only [System.step] at hstep
    split_ifs at hstep with hallows
    obtain ⟨loop, hloop, rfl⟩ := map_eq_some_iff.1 hstep
    exact h.agent hallows hloop hsteady

end Inv

/-- **At most one execution for each dispatch**: in a run that avoids the window a workload is
started only after it has been dispatched since its last start, and so never more often than it is
dispatched. -/
theorem one_start_per_dispatch {node : NodeID} {ls : List Label} (h : Run.exec step (initial node) ls = some s)
    (hsteady : Run.Meets step (fun s l => s.steady l = true) (initial node) ls) :
    StartsFresh s.log ∧ ∀ w, s.log.count (.started w) ≤ s.log.count (.dispatched w) := by
  have hinv : Inv s :=
    Run.exec_invariant_of_meets (I := Inv) (fun _ _ _ hs hl hstep => hs.step hl hstep) (.initial node) hsteady h
  exact ⟨hinv.starts, hinv.starts.count_le⟩

end System

namespace Sample

open Compute.Sample (alone machine job env)

def assigned : List System.Label :=
  (alone 1 0 (.call (.register machine)) 2 ++ alone 1 1 (.call (.heartbeat [1, 0] (lit "ready"))) 2 ++
    alone 2 2 (.call (.submit (lit "org") (lit "user") (job 0))) 5 ++ alone 3 3 .scheduleBatch 2).map .plane

def listed : DesiredWorkload := ⟨[2, 0], .run, { (job 0).manifest with name := lit "job" }⟩

def launch : List System.Label :=
  [.poll (env 3), .agent (.reconcile [] [listed]), .agent (.work .launched 0), .agent (.work .launched 0)]

def ended : List System.Label := [.agent (.exit 0 .success), .agent (.remove 0)]

def accounted : List System.Label :=
  [.agent (.announce 0 0), .agent (.receive 0), .attempt] ++ replicate 8 (.plane (.step 4 (env 3))) ++
    [.agent .posted, .poll (env 3), .agent (.reconcile [] []), .agent (.work .launched 0)]

end Sample

namespace System

open Sample

theorem one_start_accounted : ∃ s, Run.exec step (initial [1, 0])
    (assigned ++ launch ++ ended ++ accounted) = some s ∧
      s.log = [.dispatched [2, 0], .started [2, 0], .exited [2, 0], .settled [2, 0]] ∧
      StartsFresh s.log ∧ ∀ w, s.log.count (.started w) ≤ s.log.count (.dispatched w) := by
  exact Run.ends_and (by decide +kernel) fun s hs _ => one_start_per_dispatch hs (by decide +kernel)

/-- A poll between the end of the process and the report of it starts the job a second time. -/
theorem started_twice : ∃ s, Run.exec step (initial [1, 0]) (assigned ++ launch ++ ended ++ launch) = some s ∧
      s.log = [.dispatched [2, 0], .started [2, 0], .exited [2, 0], .started [2, 0]] ∧
      ¬ StartsFresh s.log ∧ ¬ s.log.count (.started [2, 0]) ≤ s.log.count (.dispatched [2, 0]) := by
  refine Run.ends_and (by decide +kernel) fun s _ hmarks => ⟨?_, ?_⟩
  · intro hfresh
    have hagain := hfresh [.dispatched [2, 0], .started [2, 0], .exited [2, 0]] [] [2, 0] hmarks
    revert hagain
    decide +kernel
  · rw [hmarks]
    decide +kernel

end System

end Ocelot.Agent
