/-
# How often the end of a process is reported.

There is exactly one report unless a reconciliation condemns the process, or the loop returns
before it has taken its end from the channel.
-/
import Ocelot.Agent.MainLoop

namespace Ocelot.Agent

open List Option Run Agent.Task
open Compute (WorkloadID Millis HealthEvent DesiredWorkload)
open Tracker (lit)

/-! ## What is reported -/

namespace Loop

structure Reported (a : Loop) : Prop where
  once : ∀ pid, ((a.outcomesOf pid).filter fun k => k ≠ .stopped).length =
    if a.progressOf pid = some .reported then 1 else 0
  channel : ∀ e ∈ a.eventsCh, e.2.kind ≠ .stopped ∧ a.progressOf e.1 = some .announced
  queued : (a.eventsCh.map Prod.fst).Nodup
  announced : ∀ pid, a.progressOf pid = some .announced → pid ∈ a.eventsCh.map Prod.fst

namespace Reported

variable {a a' : Loop}

def silent (progress : Option Progress) : Prop := ∀ q ∈ [Progress.announced, .reported], progress ≠ some q

theorem initial : Reported Loop.initial := ⟨fun _ => rfl, nofun, nodup_nil, nofun⟩

theorem frame (h : Reported a) (hevs : a'.eventsCh = a.eventsCh)
    (hprog : ∀ pid, a'.progressOf pid = a.progressOf pid ∨ silent (a'.progressOf pid) ∧ silent (a.progressOf pid))
    (houts : ∀ pid, ((a'.outcomesOf pid).filter fun k => k ≠ .stopped) = (a.outcomesOf pid).filter
      fun k => k ≠ .stopped) :
    Reported a' := by
  have hiff : ∀ pid q, q ∈ [Progress.announced, .reported] →
      (a'.progressOf pid = some q ↔ a.progressOf pid = some q) := by
    intro pid q hq
    rcases hprog pid with hsame | ⟨haft, hbef⟩
    · rw [hsame]
    · exact iff_of_false (haft q hq) (hbef q hq)
  refine ⟨?_, ?_, ?_, ?_⟩
  · intro pid
    rw [houts, h.once]
    simp only [hiff pid .reported (by simp)]
  · intro e he
    rw [hevs] at he
    rw [hiff e.1 .announced (by simp)]
    exact h.channel e he
  · rw [hevs]
    exact h.queued
  · intro pid hann
    rw [hevs]
    exact h.announced pid ((hiff pid .announced (by simp)).1 hann)

theorem same (h : Reported a) (hevs : a'.eventsCh = a.eventsCh)
    (hprog : ∀ pid, a'.progressOf pid = a.progressOf pid)
    (houts : ∀ pid, ((a'.outcomesOf pid).filter fun k => k ≠ .stopped) = (a.outcomesOf pid).filter
      fun k => k ≠ .stopped) :
    Reported a' := h.frame hevs (fun pid => .inl (hprog pid)) houts

variable {pid : ℕ}

theorem move (h : Reported a) {old new : Progress} (hold : a.progressOf pid = some old)
    (hsil : silent (some old)) (hsil' : silent (some new)) : Reported (a.setProgress pid new) := by
  refine h.frame rfl (fun j => ?_) fun j => by rw [outcomesOf_setProgress]
  rw [progressOf_setProgress]
  split_ifs with hj
  · subst hj
    rw [hold]
    exact .inr ⟨hsil', hsil⟩
  · exact .inl rfl

variable {ev : HealthEvent}

theorem announce (h : Reported a) {e : Exit} (hold : a.progressOf pid = some (.removed e))
    (hkind : ev.kind ≠ .stopped) (hevs : a'.eventsCh = a.eventsCh ++ [(pid, ev)])
    (hprog : ∀ j, a'.progressOf j = if pid = j then some .announced else a.progressOf j)
    (houts : ∀ j, a'.outcomesOf j = a.outcomesOf j) : Reported a' := by
  -- nothing about this process is in the channel yet
  have hnew : pid ∉ a.eventsCh.map Prod.fst := by
    intro hmem
    obtain ⟨e', he', rfl⟩ := mem_map.1 hmem
    have hann := (h.channel e' he').2
    rw [hold] at hann
    cases hann
  refine ⟨?_, ?_, ?_, ?_⟩
  · intro j
    rw [houts, hprog, h.once]
    by_cases hj : pid = j
    · subst hj
      simp [hold]
    · rw [if_neg hj]
  · intro e' he'
    rw [hevs] at he'
    rw [hprog]
    rcases mem_append.1 he' with hmem | hlast
    · obtain ⟨hkind', hann⟩ := h.channel e' hmem
      refine ⟨hkind', ?_⟩
      split_ifs
      · rfl
      · exact hann
    · rw [mem_singleton.1 hlast]
      exact ⟨hkind, if_pos rfl⟩
  · rw [hevs, map_append, nodup_append]
    refine ⟨h.queued, nodup_singleton _, ?_⟩
    rintro x hx y hy rfl
    obtain rfl : x = pid := by simpa using hy
    exact hnew hx
  · intro j hann
    rw [hprog] at hann
    rw [hevs, map_append, mem_append]
    by_cases hj : pid = j
    · exact .inr (by simp [hj])
    · rw [if_neg hj] at hann
      exact .inl (h.announced j hann)

theorem receive (h : Reported a) (hevs : a.eventsCh = (pid, ev) :: a'.eventsCh)
    (hprog : ∀ j, a'.progressOf j = if pid = j then some .reported else a.progressOf j)
    (houts : ∀ j, a'.outcomesOf j = a.outcomesOf j ++ if pid = j ∧
    j < a.processes.length then [ev.kind] else []) : Reported a' := by
  have hmem : (pid, ev) ∈ a.eventsCh := by
    rw [hevs]
    exact mem_cons_self
  obtain ⟨hkind, hann⟩ := h.channel (pid, ev) hmem
  have hqueued := h.queued
  rw [hevs, map_cons, nodup_cons] at hqueued
  have hlt : pid < a.processes.length := by
    obtain ⟨p, hp, -⟩ := map_eq_some_iff.1 hann
    exact (List.getElem?_eq_some_iff.1 hp).1
  refine ⟨?_, ?_, hqueued.2, ?_⟩
  · intro j
    rw [hprog, houts, filter_append, length_append, h.once]
    by_cases hj : pid = j
    · subst hj
      simp [hann, hlt, hkind]
    · simp [hj]
  · intro e he
    have hold : e ∈ a.eventsCh := by
      rw [hevs]
      exact mem_cons_of_mem _ he
    obtain ⟨hkind', hann'⟩ := h.channel e hold
    refine ⟨hkind', ?_⟩
    rw [hprog, if_neg, hann']
    intro heq
    apply hqueued.1
    show pid ∈ a'.eventsCh.map Prod.fst
    rw [heq]
    exact mem_map_of_mem he
  · intro j hann'
    rw [hprog] at hann'
    split_ifs at hann' with hne
    · cases hann'
    · have hold := h.announced j hann'
      rw [hevs, map_cons, mem_cons] at hold
      exact hold.resolve_left fun heq => hne heq.symm

theorem launch (h : Reported a) {w : WorkloadID} (hevs : a'.eventsCh = a.eventsCh)
    (hprocesses : a'.processes = a.processes ++ [⟨w, .alive, false, []⟩])
    (houts : ∀ j, a'.outcomesOf j = a.outcomesOf j) : Reported a' := by
  refine h.frame hevs (fun j => ?_) fun j => by rw [houts]
  unfold progressOf
  rw [hprocesses]
  rcases lt_trichotomy j a.processes.length with hlt | rfl | hgt
  · exact .inl (by rw [getElem?_append_left hlt])
  · exact .inr (by simp [silent])
  · exact .inl (by rw [getElem?_eq_none (by simp; omega), getElem?_eq_none hgt.le])

theorem step {l : Label} (h : Reported a) (hstep : a.step l = some a') : Reported a' := by
  cases steps_of_step hstep with
  | exited hpid => exact h.move hpid (by simp [silent]) (by simp [silent])
  | @removed pid p e hp hpid =>
    have hmv : Reported (a.setProgress pid (.removed e)) := h.move hpid (by simp [silent]) (by simp [silent])
    exact hmv.same rfl (fun _ => rfl) fun _ => rfl
  | @announced pid p e now hpid =>
    refine h.announce hpid (e.kind_ne_stopped : (e.event p.workload now).kind ≠ .stopped) rfl
      (fun j => ?_) (a.outcomesOf_setProgress pid · _)
    refine (a.progressOf_setProgress pid j .announced).trans ?_
    by_cases hj : pid = j
    · subst hj
      rw [if_pos rfl, if_pos rfl, hpid, map_some]
    · rw [if_neg hj, if_neg hj]
  | @received pid ev rest now _ hph hevs =>
    have hann := (h.channel (pid, ev) (by rw [hevs]; exact mem_cons_self)).2
    refine h.receive hevs (fun j => ?_) fun j => ?_
    · show ((a.setProgress pid .reported).pushOutcome pid ev).progressOf j = _
      rw [progressOf_pushOutcome, progressOf_setProgress]
      by_cases hj : pid = j
      · subst hj
        rw [if_pos rfl, if_pos rfl, hann, map_some]
      · rw [if_neg hj, if_neg hj]
    · show ((a.setProgress pid .reported).pushOutcome pid ev).outcomesOf j = _
      rw [outcomesOf_pushOutcome, outcomesOf_setProgress, length_setProgress]
  | turned => exact h.same rfl (fun _ => rfl) fun _ => rfl
  | @stopped id =>
    refine h.same (a.stop_eq 0 id).2.1 (fun j => (a.stop_eq j id).2.2.2.2.2.1) fun j => ?_
    show filter _ ((a.stop id).outcomesOf j) = _
    rw [(a.stop_eq j id).2.2.2.2.1]
  | @told id pid =>
    refine h.same rfl (a.progressOf_pushOutcome pid · _) fun j => ?_
    show filter _ ((a.pushOutcome pid _).outcomesOf j) = _
    rw [outcomesOf_pushOutcome, filter_append]
    split_ifs <;> simp
  | @started wl _ result now =>
    rcases a.startWorkload_cases wl result now with ⟨hsame, -, -⟩ | ⟨_, -, -, hlaunched, -⟩
    · refine h.same (a.startWorkload_eventsCh wl result now) (fun j => ?_) fun j => ?_
      · rw [progressOf, hsame, progressOf]
      · show filter _ ((a.startWorkload wl result now).outcomesOf j) = _
        rw [outcomesOf_startWorkload]
    · exact h.launch (a.startWorkload_eventsCh wl result now) hlaunched
        (a.outcomesOf_startWorkload · wl result now)

end Reported

/-! ## What is stopped -/

def stops (a : Loop) (pid : ℕ) : ℕ := (a.outcomesOf pid).count .stopped + a.phase.tasks.countP (Task.reports pid)

/-- **What is signalled is reported**: a process that got a signal, or is about to get one, is
reported as stopped. -/
structure Stopping (a : Loop) : Prop where
  running : ∀ id pid, a.running.lookup id = some pid → pid < a.processes.length
  listed : ∀ answer, a.phase = .polled answer → (answer.map DesiredWorkload.id).Nodup
  known : ∀ id pid, .stopped id pid ∈ a.phase.tasks → pid < a.processes.length
  killed : ∀ pid, a.killedOf pid = true → 0 < a.stops pid
  doomed : ∀ id pid, .stop id ∈ a.phase.tasks → a.running.lookup id = some pid → 0 < a.stops pid
  ordered : a.phase.tasks.Pairwise fun t u => t.isStart = true → u.isStart = true

def condemns (a : Loop) (pid : ℕ) : Label → Bool
  | .reconcile _ _ =>
    match a.phase with
    | .polled answer => a.running.rows.any fun e => e.2 = pid && !wants answer e.1
    | _ => false
  | _ => false

namespace Stopping

variable {a a' : Loop}

theorem initial : Stopping Loop.initial := ⟨nofun, nofun, nofun, nofun, nofun, Pairwise.nil⟩

theorem shorten (h : Stopping a)
    (hrun : ∀ id pid, a'.running.lookup id = some pid → a.running.lookup id = some pid)
    (hlen : a'.processes.length = a.processes.length) (htasks : a'.phase.tasks.Sublist a.phase.tasks)
    (hlist : ∀ answer, a'.phase = .polled answer → (answer.map DesiredWorkload.id).Nodup)
    (hkilled : ∀ pid, a'.killedOf pid = true → 0 < a.stops pid) (hstops : ∀ pid, a'.stops pid = a.stops pid) :
    Stopping a' ∧ ∀ pid, a'.stops pid = a.stops pid := by
  refine ⟨⟨?_, hlist, ?_, ?_, ?_, h.ordered.sublist htasks⟩, hstops⟩
  · intro id pid hpid
    rw [hlen]
    exact h.running id pid (hrun id pid hpid)
  · intro id pid hmem
    rw [hlen]
    exact h.known id pid (htasks.subset hmem)
  · intro pid hpid
    rw [hstops]
    exact hkilled pid hpid
  · intro id pid hmem hpid
    rw [hstops]
    exact h.doomed id pid (htasks.subset hmem) (hrun id pid hpid)

theorem frame (h : Stopping a) (hrun : ∀ id pid, a'.running.lookup id = some pid →
    a.running.lookup id = some pid) (hlen : a'.processes.length = a.processes.length)
    (htasks : a'.phase.tasks = a.phase.tasks) (hlist : ∀ answer, a'.phase = .polled answer →
    (answer.map DesiredWorkload.id).Nodup) (hkilled : ∀ pid, a'.killedOf pid = a.killedOf pid)
    (houts : ∀ pid, (a'.outcomesOf pid).count .stopped = (a.outcomesOf pid).count .stopped) :
    Stopping a' ∧ ∀ pid, a'.stops pid = a.stops pid := by
  refine h.shorten hrun hlen (htasks ▸ .refl _) hlist (fun pid hpid => ?_) fun pid => ?_
  · exact h.killed pid (hkilled pid ▸ hpid)
  · rw [stops, stops, houts, htasks]

theorem reconcile (h : Stopping a) {order : List (WorkloadID × ℕ)} {answer starts : List DesiredWorkload}
    (hph : a.phase = .polled answer) (hord : order.Perm a.running.rows)
    (ha' : a' = { a with phase := .reconciling (plan a.running answer order starts) }) :
    Stopping a' ∧ ∀ pid, a'.stops pid = 0 ↔ a.stops pid = 0 ∧
        a.condemns pid (.reconcile order starts) = false := by
  subst ha'
  have hmem : ∀ id pid, (id, pid) ∈ order ↔ a.running.lookup id = some pid := by
    intro id pid
    rw [hord.mem_iff, Table.lookup_eq_some_iff]
  have hnotasks : a.phase.tasks = [] := by
    rw [hph]
    rfl
  have hcnt : ∀ pid, 0 < (plan a.running answer order starts).countP (reports pid) ↔
      ∃ id, a.running.lookup id = some pid ∧ wants answer id = false := by
    intro pid
    rw [countP_pos_iff]
    constructor
    · rintro ⟨t, ht, hreps⟩
      cases t with
      | stopped id p =>
        obtain rfl : p = pid := of_decide_eq_true hreps
        obtain ⟨hrow, hwants⟩ := stopped_mem_plan.1 ht
        exact ⟨id, (hmem id p).1 hrow, hwants⟩
      | stop | start => cases hreps
    · rintro ⟨id, hrow, hwants⟩
      exact ⟨.stopped id pid, stopped_mem_plan.2 ⟨(hmem id pid).2 hrow, hwants⟩, decide_eq_true rfl⟩
  -- what is told to stop is reported
  have hdoomed : ∀ id pid, .stop id ∈ plan a.running answer order starts → a.running.lookup id = some pid →
      0 < (plan a.running answer order starts).countP (reports pid) := by
    intro id pid htask hrow
    exact (hcnt pid).2 ⟨id, hrow, stop_mem_plan (h.listed answer hph) htask⟩
  refine ⟨⟨h.running, nofun, ?_, ?_, ?_, plan_ordered⟩, ?_⟩
  · intro id pid htask
    exact h.running id pid ((hmem id pid).1 (stopped_mem_plan.1 htask).1)
  · intro pid hkilled
    have hbef := h.killed pid hkilled
    simp only [stops, hnotasks, countP_nil, Nat.add_zero] at hbef
    exact Nat.add_pos_left hbef _
  · intro id pid htask hrow
    exact Nat.add_pos_right _ (hdoomed id pid htask hrow)
  · intro pid
    have hcondemns : a.condemns pid (.reconcile order starts) = true ↔
        ∃ id, a.running.lookup id = some pid ∧ wants answer id = false := by
      simp only [condemns, hph, List.any_eq_true, Bool.and_eq_true, decide_eq_true_eq,
        Bool.not_eq_true', Prod.exists,
        Table.lookup_eq_some_iff]
      constructor
      · rintro ⟨id, p, hrow, rfl, hwants⟩
        exact ⟨id, hrow, hwants⟩
      · rintro ⟨id, hrow, hwants⟩
        exact ⟨id, pid, hrow, rfl, hwants⟩
    rw [← Bool.not_eq_true, hcondemns, ← hcnt pid]
    show (a.outcomesOf pid).count .stopped + (plan a.running answer order starts).countP (reports pid) = 0 ↔ _
    simp only [stops, hnotasks, countP_nil]
    omega

section

variable {tasks : List Task} {id : WorkloadID}

theorem work_stop (h : Stopping a) (hph : a.phase = .reconciling (.stop id :: tasks))
    (ha' : a' = { a.stop id with phase := .reconciling tasks }) :
    Stopping a' ∧ ∀ pid, a'.stops pid = a.stops pid := by
  subst ha'
  have htasks : a.phase.tasks = .stop id :: tasks := by
    rw [hph]
    rfl
  have hstops : ∀ pid, ({ a.stop id with phase := .reconciling tasks } : Loop).stops pid = a.stops pid := by
    intro pid
    show ((a.stop id).outcomesOf pid).count .stopped + tasks.countP (reports pid) = _
    rw [(a.stop_eq pid id).2.2.2.2.1, stops, htasks, countP_cons_of_neg Bool.false_ne_true]
  refine h.shorten (fun _ pid hpid => ?_) (a.stop_eq 0 id).2.2.2.1
    (htasks ▸ sublist_cons_self ..) nofun (fun pid hkilled => ?_) hstops
  · rw [← (a.stop_eq 0 id).1]
    exact hpid
  · rcases (a.stop_eq pid id).2.2.2.2.2.2 hkilled with hbef | hpid
    · exact h.killed pid hbef
    · exact h.doomed id pid (by rw [htasks]; exact mem_cons_self) hpid

variable {now : Millis}

theorem work_stopped (h : Stopping a) {p : ℕ}
    (hph : a.phase = .reconciling (.stopped id p :: tasks))
    (ha' : a' = { a.pushOutcome p ⟨id, .stopped, now, some 0, []⟩ with phase := .reconciling tasks }) :
    Stopping a' ∧ ∀ pid, a'.stops pid = a.stops pid := by
  subst ha'
  have htasks : a.phase.tasks = .stopped id p :: tasks := by
    rw [hph]
    rfl
  have hknown : p < a.processes.length := h.known id p (by rw [htasks]; exact mem_cons_self)
  have hstops : ∀ pid,
      ({ a.pushOutcome p ⟨id, .stopped, now, some 0, []⟩ with phase := .reconciling tasks } :
          Loop).stops pid = a.stops pid := by
    intro pid
    show ((a.pushOutcome p _).outcomesOf pid).count .stopped + tasks.countP (reports pid) = _
    rw [outcomesOf_pushOutcome, stops, htasks, count_append, countP_cons]
    by_cases hpid : p = pid
    · subst hpid
      simp only [hknown, reports]
      simp
      omega
    · simp [hpid, reports]
  refine h.shorten (fun _ _ hpid => hpid) (length_pushOutcome ..)
    (htasks ▸ sublist_cons_self ..) nofun (fun pid hkilled => ?_) hstops
  exact h.killed pid ((killedOf_pushOutcome ..).symm.trans hkilled)

theorem work_start (h : Stopping a) {wl : DesiredWorkload} {result : StartResult}
    (hph : a.phase = .reconciling (.start wl :: tasks))
    (ha' : a' = { a.startWorkload wl result now with phase := .reconciling tasks }) :
    Stopping a' ∧ ∀ pid, a'.stops pid = a.stops pid := by
  subst ha'
  have htasks : a.phase.tasks = .start wl :: tasks := by
    rw [hph]
    rfl
  have hord := h.ordered
  rw [htasks, pairwise_cons] at hord
  have hstarts : ∀ t ∈ tasks, t.isStart = true := fun t ht => hord.1 t ht rfl
  have hcnt : ∀ pid, a.phase.tasks.countP (reports pid) = tasks.countP (reports pid) := by
    intro pid
    rw [htasks, countP_cons_of_neg Bool.false_ne_true]
  have hstops : ∀ pid,
      ({ a.startWorkload wl result now with phase := .reconciling tasks } : Loop).stops pid = a.stops pid := by
    intro pid
    show ((a.startWorkload wl result now).outcomesOf pid).count .stopped + tasks.countP (reports pid) = _
    rw [outcomesOf_startWorkload, ← hcnt pid]
    rfl
  refine ⟨⟨?_, nofun, ?_, ?_, ?_, hord.2⟩, hstops⟩
  · intro id pid hpid
    exact a.running_startWorkload id h.running wl result now hpid
  · intro id pid htask
    cases hstarts _ htask
  · intro pid hkilled
    have hbef : (a.startWorkload wl result now).killedOf pid = true := hkilled
    rw [killedOf_startWorkload] at hbef
    rw [hstops]
    exact h.killed pid hbef
  · intro id pid htask
    cases hstarts _ htask

end

theorem step {l : Label} (h : Stopping a) (hrep : Reported a) (hstep : a.step l = some a') :
    Stopping a' ∧ ∀ pid, a'.stops pid = 0 ↔ a.stops pid = 0 ∧ a.condemns pid l = false := by
  -- all steps but one leave the number of reports as it is
  have hsame : (∀ pid, a.condemns pid l = false) → Stopping a' ∧ (∀ pid, a'.stops pid = a.stops pid) →
      Stopping a' ∧ ∀ pid, a'.stops pid = 0 ↔ a.stops pid = 0 ∧ a.condemns pid l = false := by
    rintro hquiet ⟨hstop, hstops⟩
    refine ⟨hstop, fun pid => ?_⟩
    rw [hstops, hquiet]
    simp
  cases steps_of_step hstep with
  | exited =>
    apply hsame fun _ => rfl
    refine h.frame (fun _ _ hpid => hpid) (length_setProgress ..) rfl h.listed
      (killedOf_setProgress a _ · _) fun j => ?_
    rw [outcomesOf_setProgress]
  | @removed pid p =>
    apply hsame fun _ => rfl
    refine h.frame ?_ (length_setProgress ..) rfl h.listed (killedOf_setProgress a pid · _) fun j => ?_
    · intro id j hj
      have hdel : (a.running.delete p.workload).lookup id = some j := hj
      rw [Table.lookup_delete] at hdel
      split_ifs at hdel
      exact hdel
    · exact congrArg (count _) (outcomesOf_setProgress a pid j _)
  | @announced pid =>
    apply hsame fun _ => rfl
    refine h.frame (fun _ _ hpid => hpid) (length_setProgress ..) rfl h.listed
      (killedOf_setProgress a pid · _) fun j => ?_
    exact congrArg (count _) (outcomesOf_setProgress a pid j _)
  | @received pid ev rest now _ hph hevs =>
    apply hsame fun _ => rfl
    have hkind := (hrep.channel (pid, ev) (by rw [hevs]; exact mem_cons_self)).1
    refine h.frame (fun _ _ hpid => hpid) ?_ ?_ (by simp) (fun j => ?_) fun j => ?_
    · exact (length_pushOutcome ..).trans (length_setProgress ..)
    · rw [hph]
      rfl
    · exact (killedOf_pushOutcome ..).trans (killedOf_setProgress ..)
    · show count _ (((a.setProgress pid .reported).pushOutcome pid ev).outcomesOf j) = _
      rw [outcomesOf_pushOutcome, outcomesOf_setProgress, count_append]
      split_ifs
      · rw [count_singleton, if_neg (by simpa using hkind), Nat.add_zero]
      · rw [count_nil, Nat.add_zero]
  | turned hturn =>
    cases hturn with
    | planned hph hord => exact h.reconcile hph hord rfl
    | polled hph hnodup =>
      apply hsame fun _ => rfl
      refine h.frame (fun _ _ hpid => hpid) rfl (by rw [hph]; rfl) ?_ (fun _ => rfl) fun _ => rfl
      intro _ hans
      cases hans
      exact hnodup
    | posted hph | postFailed hph | worked hph | cancelled hph =>
      apply hsame fun _ => rfl
      exact h.frame (fun _ _ hpid => hpid) rfl (by rw [hph]; rfl) (by simp) (fun _ => rfl) fun _ => rfl
  | stopped hph => exact hsame (fun _ => rfl) (h.work_stop hph rfl)
  | told hph => exact hsame (fun _ => rfl) (h.work_stopped hph rfl)
  | started hph => exact hsame (fun _ => rfl) (h.work_start hph rfl)

end Stopping

theorem exec_reported_stopping {ls : List Label} {a a' : Loop} (h : Reported a ∧ Stopping a)
    (pid : ℕ) (hzero : a.stops pid = 0) (hrun : exec step a ls = some a') :
    (Reported a' ∧ Stopping a') ∧ (a'.stops pid = 0 ↔ Meets step (fun s l => s.condemns pid l = false) a ls) := by
  refine holds_iff_meets (I := fun a => Reported a ∧ Stopping a) (P := fun a => a.stops pid = 0) ?_ h hzero hrun
  rintro s l t ⟨hrep, hstop⟩ hst
  obtain ⟨hstop', hstops⟩ := hstop.step hrep hst
  exact ⟨⟨hrep.step hst, hstop'⟩, hstops pid⟩

/-! ## What is left unreported -/

/-- The process is there, and its end has not been taken from the channel. -/
def unreported (a : Loop) (pid : ℕ) : Bool := (a.progressOf pid).any (· ≠ .reported)

/-- **The loop returns without the end of the process**: nothing takes it from the channel any
more. -/
def abandons (a : Loop) (pid : ℕ) : Label → Bool
  | .cancel => a.unreported pid
  | _ => false

/-- The loop has not left the process behind. -/
def Attends (a : Loop) (pid : ℕ) : Prop := a.phase = .returned → a.unreported pid = false

theorem unreported_setProgress {a : Loop} {pid : ℕ} {old new : Progress}
    (hpid : a.progressOf pid = some old) (hold : old ≠ .reported) (hnew : new ≠ .reported) (j : ℕ) :
    (a.setProgress pid new).unreported j = a.unreported j := by
  unfold unreported
  rw [progressOf_setProgress]
  split_ifs with hj
  · subst hj
    simp [hpid, hold, hnew]
  · rfl

theorem attends_step {a a' : Loop} (pid : ℕ) {l : Label} (hstep : a.step l = some a') :
    a'.Attends pid ↔ a.Attends pid ∧ a.abandons pid l = false := by
  -- only the watchers do something after the loop has returned, and they do not report
  have hwatch : ∀ {j old new}, a'.phase = a.phase → a'.unreported pid = (a.setProgress j new).unreported pid →
      a.progressOf j = some old → old ≠ .reported → new ≠ .reported → (a'.Attends pid ↔ a.Attends pid ∧ true) := by
    intro j old new hph hun hj hold hnew
    rw [Attends, Attends, hph, hun, unreported_setProgress hj hold hnew]
    exact (and_iff_left rfl).symm
  have hloop : a.phase ≠ .returned → a'.phase ≠ .returned → (a'.Attends pid ↔ a.Attends pid ∧ true) := by
    intro hph hph'
    exact iff_of_true (absurd · hph') ⟨(absurd · hph), rfl⟩
  cases steps_of_step hstep with
  | exited hpid | removed _ hpid | announced hpid =>
    simpa [abandons] using hwatch rfl rfl hpid (by simp) (by simp)
  | received hph | stopped hph | told hph | started hph =>
    simpa [abandons] using hloop (by simp [hph]) (by simp)
  | turned hturn =>
    cases hturn with
    | cancelled hph => simp [Attends, hph, abandons, unreported, progressOf]
    | posted hph | postFailed hph | polled hph | planned hph | worked hph =>
      simpa [abandons] using hloop (by simp [hph]) (by simp)

/-- **The watcher of a process has returned, and nothing is left to be pushed.** -/
structure Settled (a : Loop) (pid : ℕ) : Prop where
  watched : a.progressOf pid = some .announced ∨ a.progressOf pid = some .reported
  received : a.eventsCh = []
  reconciled : a.phase.tasks = []

/-- **Nothing will be pushed about a process that has ended**: all is pushed, or the loop has
returned. -/
inductive Over (a : Loop) (pid : ℕ) : Prop
  | settled (h : a.Settled pid)
  | returned (h : a.phase = .returned) {progress : Progress} (hpid : a.progressOf pid = some progress)
      (hend : progress ≠ .alive)

/-- **One outcome**: exactly one terminal event is pushed about the process, and it is `stopped`
exactly if a reconciliation has terminated it. -/
def HasOneOutcome (a : Loop) (pid : ℕ) : Prop :=
  ∃ kind, a.outcomesOf pid = [kind] ∧ (kind = .stopped ↔ a.killedOf pid = true)

theorem Over.attends_iff {a : Loop} {pid : ℕ} (h : a.Over pid) (hrep : Reported a) :
    a.Attends pid ↔ a.progressOf pid = some .reported := by
  cases h with
  | settled h =>
    -- the event that the watcher has sent is no longer in the channel
    have hprog : a.progressOf pid = some .reported := by
      refine h.watched.resolve_left fun hann => ?_
      have hmem := hrep.announced pid hann
      rw [h.received] at hmem
      cases hmem
    exact iff_of_true (fun _ => by simp [unreported, hprog]) hprog
  | returned h hpid => simp [Attends, h, unreported, hpid]

theorem Over.tasks_eq {a : Loop} {pid : ℕ} (h : a.Over pid) : a.phase.tasks = [] := by
  cases h with
  | settled h => exact h.reconciled
  | returned h =>
    rw [h]
    rfl

theorem hasOneOutcome_of_reported {a : Loop} {pid : ℕ} (hrep : Reported a) (hstop : Stopping a)
    (hzero : a.stops pid = 0) (hprog : a.progressOf pid = some .reported) : a.HasOneOutcome pid := by
  have hnone : (a.outcomesOf pid).count .stopped = 0 := (Nat.add_eq_zero_iff.1 hzero).1
  have hwatch := hrep.once pid
  rw [if_pos hprog, filter_eq_self.2] at hwatch
  · obtain ⟨kind, hone⟩ := length_eq_one_iff.1 hwatch
    have hkind : kind ≠ .stopped := by
      rintro rfl
      rw [hone] at hnone
      cases hnone
    have halive : a.killedOf pid ≠ true := fun hkilled => (hstop.killed pid hkilled).ne' hzero
    exact ⟨kind, hone, fun h => absurd h hkind, fun h => absurd h halive⟩
  · intro k hk
    refine decide_eq_true ?_
    rintro rfl
    exact count_eq_zero.1 hnone hk

/-- **A process has one outcome** if no reconciliation condemns it and the loop does not abandon it:
none finds it in the running set when the answer to the poll does not list its workload as one to
run, and the loop does not return before it has taken its end from the channel. Either condition is
necessary where the other holds. -/
theorem one_outcome_iff {ls : List Label} {a : Loop} (hrun : exec step initial ls = some a)
    {pid : ℕ} (hover : a.Over pid) :
    (Meets step (fun s l => s.abandons pid l = false) initial ls →
      (a.HasOneOutcome pid ↔ Meets step (fun s l => s.condemns pid l = false) initial ls)) ∧
    (Meets step (fun s l => s.condemns pid l = false) initial ls →
      (a.HasOneOutcome pid ↔ Meets step (fun s l => s.abandons pid l = false) initial ls)) := by
  obtain ⟨⟨hrep, hstop⟩, hcondemned⟩ := exec_reported_stopping ⟨.initial, .initial⟩ pid rfl hrun
  obtain ⟨-, habandoned⟩ := holds_iff_meets (I := fun _ => True)
    (fun _ _ _ _ hst => ⟨trivial, attends_step pid hst⟩) trivial (by simp [Attends, initial]) hrun
  rw [← hcondemned, ← habandoned, hover.attends_iff hrep]
  have hcnt : a.stops pid = (a.outcomesOf pid).count .stopped := by
    rw [stops, hover.tasks_eq, countP_nil, Nat.add_zero]
  have hwatch := hrep.once pid
  refine ⟨fun hprog => ⟨?_, fun hzero => hasOneOutcome_of_reported hrep hstop hzero hprog⟩,
    fun hzero => ⟨?_, hasOneOutcome_of_reported hrep hstop hzero⟩⟩
  · rintro ⟨kind, hone, -⟩
    rw [hone, if_pos hprog] at hwatch
    rw [hcnt, hone, count_eq_zero, mem_singleton]
    rintro rfl
    simp at hwatch
  · rintro ⟨kind, hone, -⟩
    by_contra hprog
    rw [hcnt, hone, count_eq_zero, mem_singleton] at hzero
    rw [hone, if_neg hprog] at hwatch
    simp [Ne.symm hzero] at hwatch

/-! ## Every end can be reported -/

/-- The steps that are left until nothing is to be pushed about a process of this progress; an event
takes two. -/
def left (a : Loop) (progress : Progress) : ℕ := 2 * a.eventsCh.length + (match a.phase with
    | .idle | .returned => 0
    | .posting _ => 1
    | .polled answer => (plan a.running answer a.running.rows (desiredRun answer)).length + 2
    | .reconciling tasks => tasks.length + 1) +
    match progress with
    | .exited _ => 4
    | .removed _ => 3
    | _ => 0

theorem settled_or_step {a : Loop} {pid : ℕ} {progress : Progress} (hpid : a.progressOf pid = some progress)
    (hend : progress ≠ .alive) (hruns : a.phase ≠ .returned) :
    a.Settled pid ∨ ∃ l b progress', a.step l = some b ∧ b.progressOf pid = some progress' ∧
          progress' ≠ .alive ∧ b.phase ≠ .returned ∧ b.left progress' < a.left progress := by
  cases hph : a.phase with
  | returned => exact absurd hph hruns
  | posting =>
    exact .inr ⟨.posted, { a with phase := .idle }, progress, by simp [step, hph], hpid,
      hend, by simp, by simp [left, hph]⟩
  | polled answer =>
    refine .inr ⟨.reconcile a.running.rows (desiredRun answer),
      { a with phase := .reconciling (plan a.running answer a.running.rows (desiredRun answer)) },
        progress, ?_, hpid, hend,
      by simp, ?_⟩
    · simp only [step, hph, Perm.refl, and_self, if_true]
    · simp [left, hph]
  | reconciling tasks =>
    right
    rcases tasks with _ | ⟨task, tasks⟩
    · exact ⟨.work .launched 0, { a with phase := .idle },
        progress, by simp [step, hph], hpid, hend, by simp, by simp [left, hph]⟩
    -- a start that fails makes no process
    obtain ⟨b, hb, hph', hevs, hprog⟩ : ∃ b, a.step (.work (.mountFailed []) 0) = some b ∧
        b.phase = .reconciling tasks ∧ b.eventsCh = a.eventsCh ∧ b.progressOf pid = a.progressOf pid := by
      simp only [step, hph]
      cases task with
      | stop id => exact ⟨_, rfl, rfl, (a.stop_eq 0 id).2.1, (a.stop_eq pid id).2.2.2.2.2.1⟩
      | stopped => exact ⟨_, rfl, rfl, rfl, progressOf_pushOutcome ..⟩
      | start => exact ⟨_, rfl, rfl, rfl, rfl⟩
    exact ⟨_, b, progress, hb, hprog.trans hpid, hend, by simp [hph'], by simp [left, hph, hph', hevs]⟩
  | idle =>
    rcases hevs : a.eventsCh with _ | ⟨⟨p, ev⟩, rest⟩
    · obtain ⟨p, hp, rfl⟩ := map_eq_some_iff.1 hpid
      have hset : ∀ new, (a.setProgress pid new).progressOf pid = some new := by
        intro new
        rw [progressOf_setProgress, if_pos rfl, hpid, map_some]
      cases hprog : p.progress with
      | alive => exact absurd hprog hend
      | announced => exact .inl ⟨.inl (hprog ▸ hpid), hevs, by rw [hph]; rfl⟩
      | reported => exact .inl ⟨.inr (hprog ▸ hpid), hevs, by rw [hph]; rfl⟩
      | exited e =>
        refine .inr ⟨.remove pid,
          { a.setProgress pid (.removed e) with running := a.running.delete p.workload }, .removed e,
          by simp [step, hp, hprog], hset _, by simp, hruns, ?_⟩
        simp [left, setProgress, hph, hevs]
      | removed e =>
        refine .inr ⟨.announce pid 0,
          { a.setProgress pid .announced with eventsCh := [(pid, e.event p.workload 0)] }, .announced,
          by simp [step, hp, hprog, hevs, healthEventChanSize], hset _, by simp, hruns, ?_⟩
        simp [left, setProgress, hph, hevs]
    · refine .inr ⟨.receive 0, _, if p = pid then .reported else progress,
        by simp only [step, hph, hevs]; rfl, ?_, ?_, by simp, ?_⟩
      · show ((a.setProgress p .reported).pushOutcome p ev).progressOf pid = _
        rw [progressOf_pushOutcome, progressOf_setProgress, hpid]
        split_ifs <;> rfl
      · split_ifs
        · simp
        · exact hend
      · simp only [left, hph, hevs, length_cons]
        split_ifs
        · dsimp only
          omega
        · omega

/-- **What has ended can be reported** as long as the loop has not returned. -/
theorem exists_settled {a : Loop} {pid : ℕ} {progress : Progress}
    (hpid : a.progressOf pid = some progress) (hend : progress ≠ .alive)
    (hruns : a.phase ≠ .returned) : ∃ ls b, exec step a ls = some b ∧ b.Settled pid := by
  induction hn : a.left progress using Nat.strong_induction_on generalizing a progress with
  | _ n ih =>
    rcases settled_or_step hpid hend hruns with hdone | ⟨l, b, progress', hst, hpid', hend', hruns', hlt⟩
    · exact ⟨[], a, rfl, hdone⟩
    · obtain ⟨ls, c, hc, hdone⟩ := ih _ (hn ▸ hlt) hpid' hend' hruns' rfl
      exact ⟨l :: ls, c, by rw [exec, hst]; exact hc, hdone⟩

end Loop

namespace Sample

def wanted : DesiredWorkload := ⟨[2, 0], .run, ⟨[], [], ⟨1, 1, 0, 0⟩, 0⟩⟩

def started : List Loop.Label := [.poll [wanted], .reconcile [] [wanted], .work .launched 0, .work .launched 0]

def watched : List Loop.Label := [.remove 0, .announce 0 0, .receive 0, .posted]

end Sample

namespace Loop

open Sample

theorem one_outcome_completed :
    ∃ a, exec step initial (started ++ .exit 0 .success :: watched ++ [.cancel]) = some a ∧ a.HasOneOutcome 0 := by
  refine ends_of (P := fun a => a.phase = .returned ∧ a.progressOf 0 = some .reported) (by decide +kernel) ?_
  rintro a ha ⟨hph, hdone⟩
  exact ((one_outcome_iff ha (.returned hph hdone (by simp))).1 (by decide +kernel)).2 (by decide +kernel)

theorem exists_settled_exited : ∃ a, exec step initial (started ++ [.exit 0 .success]) = some a ∧
    ∃ ls b, exec step a ls = some b ∧ b.Settled 0 :=
  ends_of (P := fun a => a.progressOf 0 = some (.exited .success) ∧
    a.phase ≠ .returned) (by decide +kernel) fun _ _ h => exists_settled h.1 (by simp) h.2

/-- A process whose workload is withdrawn is stopped, and reported as stopped and as failed. -/
theorem stopped_and_failed :
    ∃ a, exec step initial (started ++ [.poll [], .reconcile [([2, 0], 0)] [], .work .launched 0,
        .exit 0 (.exitError (-1) (lit "signal: terminated")), .work .launched 0,
          .work .launched 0] ++ watched) = some a ∧
      a.Settled 0 ∧ a.killedOf 0 = true ∧ a.outcomesOf 0 = [.stopped, .failed] ∧ ¬ a.HasOneOutcome 0 := by
  refine ends_of (P := fun a => a.progressOf 0 = some .reported ∧ a.eventsCh = [] ∧ a.phase.tasks = [] ∧
    a.killedOf 0 = true ∧ a.outcomesOf 0 = [.stopped, .failed]) (by decide +kernel) ?_
  rintro a - ⟨hdone, hevs, htasks, hkilled, houts⟩
  refine ⟨⟨.inr hdone, hevs, htasks⟩, hkilled, houts, ?_⟩
  rintro ⟨_, hone, -⟩
  rw [houts] at hone
  cases hone

end Loop

end Ocelot.Agent
