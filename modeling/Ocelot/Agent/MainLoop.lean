/-
# The main loop (`agent.go`), the reconciliation (`reconcile.go`), the processes (`executor.go`).
-/
import Ocelot.Agent.HealthBuffer
import Ocelot.Compute.AgentAPI

namespace Ocelot.Agent

open List Option
open Compute (WorkloadID Millis EventKind HealthEvent DesiredWorkload)
open Tracker (Bytes lit)

/-! ## Processes -/

inductive Exit where
  | success
  /-- `*exec.ExitError`, with its code and its text; the code is -1 after a signal. -/
  | exitError (code : ℤ) (text : Bytes)
  | waitError (text : Bytes)
  deriving DecidableEq

namespace Exit

def kind : Exit → EventKind
  | success => .completed
  | exitError _ _ | waitError _ => .failed

def exitCode : Exit → ℤ
  | exitError code _ => code
  | success | waitError _ => 0

def message : Exit → Bytes
  | success => []
  | exitError code text =>
    if code = -1 then lit "killed by signal: " ++ text else lit "exited with code " ++ Decimal.integer code
  | waitError text => text

def event (w : WorkloadID) (now : Millis) (e : Exit) : HealthEvent := ⟨w, e.kind, now, some e.exitCode, e.message⟩

theorem kind_ne_stopped (e : Exit) : e.kind ≠ .stopped := by
  cases e <;> simp [kind]

end Exit

inductive Progress where
  | alive
  /-- `cmd.Wait` has returned. -/
  | exited (e : Exit)
  /-- `watch` has removed it from the running set. -/
  | removed (e : Exit)
  /-- `watch` has sent its event. -/
  | announced
  | reported
  deriving DecidableEq

structure Process where
  workload : WorkloadID
  progress : Progress
  killed : Bool
  outcomes : List EventKind
  deriving DecidableEq

/-! ## The loop -/

inductive Task where
  /-- `executor.Stop`. -/
  | stop (id : WorkloadID)
  /-- The `stopped` event of a process that was found running. -/
  | stopped (id : WorkloadID) (pid : ℕ)
  | start (wl : DesiredWorkload)
  deriving DecidableEq

namespace Task

def reports (pid : ℕ) : Task → Bool
  | stopped _ p => p = pid
  | stop _ | start _ => false

def isStart : Task → Bool
  | start _ => true
  | stop _ | stopped _ _ => false

end Task

inductive Phase where
  /-- In its `select`. -/
  | idle
  /-- In `flushHealth`, with the request it sends. -/
  | posting (req : HealthRequest)
  | polled (answer : List DesiredWorkload)
  | reconciling (tasks : List Task)
  /-- `Run` has returned; the watchers go on. -/
  | returned
  deriving DecidableEq

def Phase.tasks : Phase → List Task
  | reconciling tasks => tasks
  | _ => []

def healthEventChanSize : ℕ := 256

structure Loop where
  processes : List Process
  running : Table WorkloadID ℕ
  eventsCh : List (ℕ × HealthEvent)
  healthBuf : HealthBuffer
  phase : Phase

inductive StartResult where
  | mountFailed (message : Bytes)
  | startFailed (message : Bytes)
  | launched
  deriving DecidableEq

def desiredRun : List DesiredWorkload → List DesiredWorkload
  | [] => []
  | wl :: rest =>
    if wl.action = .run ∧ ((desiredRun rest).any fun other => other.id = wl.id) = false then wl :: desiredRun rest
    else desiredRun rest

def wants (answer : List DesiredWorkload) (id : WorkloadID) : Bool := (desiredRun answer).any fun wl => wl.id = id

namespace Loop

def initial : Loop := ⟨[], .empty, [], newHealthBuffer, .idle⟩

variable (a : Loop)

def push (ev : HealthEvent) : Loop := { a with healthBuf := a.healthBuf.push ev }

def setProgress (pid : ℕ) (progress : Progress) : Loop :=
  { a with processes := a.processes.modify pid fun p => { p with progress } }

def pushOutcome (pid : ℕ) (ev : HealthEvent) : Loop :=
  { a.push ev with processes := a.processes.modify pid fun p => { p with outcomes := p.outcomes ++ [ev.kind] } }

def stop (id : WorkloadID) : Loop :=
  match a.running.lookup id with
  | none => a
  | some pid =>
    { a with processes := a.processes.modify pid fun p => { p with killed := p.killed || p.progress = .alive } }

def startWorkload (wl : DesiredWorkload) (result : StartResult) (now : Millis) : Loop :=
  let failed := fun message => a.push ⟨wl.id, .failed, now, some 1, message⟩
  let started : HealthEvent := ⟨wl.id, .started, now, none, []⟩
  match result with
  | .mountFailed message => failed (lit "volume mount failed: " ++ message)
  | .startFailed message => if a.running.lookup wl.id ≠ none then a.push started else failed message
  | .launched =>
    match a.running.insert wl.id a.processes.length with
    -- `Start` does nothing for a workload that is running
    | none => a.push started
    | some running =>
      { a.push started with processes := a.processes ++ [⟨wl.id, .alive, false, []⟩], running }

def plan (running : Table WorkloadID ℕ) (answer : List DesiredWorkload)
    (order : List (WorkloadID × ℕ)) (starts : List DesiredWorkload) : List Task :=
  ((order.filter fun e => !wants answer e.1).flatMap fun e => [.stop e.1, .stopped e.1 e.2]) ++
    ((answer.filter fun wl => wl.action = .stop && (running.lookup wl.id).isSome).map fun wl => .stop wl.id) ++
    ((starts.filter fun wl => (running.lookup wl.id).isNone).map .start)

inductive Label where
  | exit (pid : ℕ) (e : Exit)
  /-- `watch` removes it from the running set. -/
  | remove (pid : ℕ)
  /-- `watch` sends its event. -/
  | announce (pid : ℕ) (now : Millis)
  | receive (now : Millis)
  | posted
  | postFailed
  | poll (answer : List DesiredWorkload)
  | reconcile (order : List (WorkloadID × ℕ)) (starts : List DesiredWorkload)
  | work (result : StartResult) (now : Millis)
  /-- The `select` takes the case of `ctx.Done()`. -/
  | cancel

def step : Label → Option Loop
  | .exit pid e =>
    a.processes[pid]?.bind fun p =>
      match p.progress with
      | .alive => some (a.setProgress pid (.exited e))
      | _ => none
  | .remove pid =>
    a.processes[pid]?.bind fun p =>
      match p.progress with
      | .exited e => some { a.setProgress pid (.removed e) with running := a.running.delete p.workload }
      | _ => none
  | .announce pid now =>
    a.processes[pid]?.bind fun p =>
      match p.progress with
      | .removed e =>
        -- a full channel blocks
        if a.eventsCh.length < healthEventChanSize then
          some { a.setProgress pid .announced with eventsCh := a.eventsCh ++ [(pid, e.event p.workload now)] }
        else none
      | _ => none
  | .receive now =>
    match a.phase, a.eventsCh with
    | .idle, (pid, ev) :: rest =>
      let pushed := (a.setProgress pid .reported).pushOutcome pid ev
      let drained := pushed.healthBuf.drain
      some { pushed with
        eventsCh := rest, healthBuf := drained.1, phase := .posting ⟨now, drained.2.1, drained.2.2⟩ }
    | _, _ => none
  | .posted =>
    match a.phase with
    | .posting _ => some { a with phase := .idle }
    | _ => none
  | .postFailed =>
    match a.phase with
    | .posting req => some { a with healthBuf := a.healthBuf.pushAll req.events, phase := .idle }
    | _ => none
  | .poll answer =>
    -- a workload is listed once: its id is a primary key
    if a.phase = .idle ∧ (answer.map DesiredWorkload.id).Nodup then some
      { a with phase := .polled answer } else none
  | .reconcile order starts =>
    match a.phase with
    | .polled answer =>
      if order.Perm a.running.rows ∧ starts.Perm (desiredRun answer) then
        some { a with phase := .reconciling (plan a.running answer order starts) }
      else none
    | _ => none
  | .work result now =>
    match a.phase with
    | .reconciling [] => some { a with phase := .idle }
    | .reconciling (.stop id :: tasks) => some { a.stop id with phase := .reconciling tasks }
    | .reconciling (.stopped id pid :: tasks) =>
      some { a.pushOutcome pid ⟨id, .stopped, now, some 0, []⟩ with phase := .reconciling tasks }
    | .reconciling (.start wl :: tasks) => some { a.startWorkload wl result now with phase := .reconciling tasks }
    | _ => none
  -- what is in the channel stays there, and what is in the buffer is not posted
  | .cancel => if a.phase = .idle then some { a with phase := .returned } else none

/-! ## The plan -/

section

variable {running : Table WorkloadID ℕ} {answer : List DesiredWorkload} {order : List (WorkloadID × ℕ)}
  {starts : List DesiredWorkload}

theorem mem_desiredRun {wl : DesiredWorkload} (h : wl ∈ desiredRun answer) : wl ∈ answer ∧ wl.action = .run := by
  induction answer with
  | nil => cases h
  | cons _ _ ih =>
    rw [desiredRun] at h
    split_ifs at h with hrun
    · rcases mem_cons.1 h with rfl | hmem
      · exact ⟨mem_cons_self, hrun.1⟩
      · obtain ⟨hmem', hact⟩ := ih hmem
        exact ⟨mem_cons_of_mem _ hmem', hact⟩
    · obtain ⟨hmem', hact⟩ := ih h
      exact ⟨mem_cons_of_mem _ hmem', hact⟩

theorem not_wants_of_stop {wl : DesiredWorkload} (hnodup : (answer.map DesiredWorkload.id).Nodup)
    (hmem : wl ∈ answer) (hstop : wl.action = .stop) : wants answer wl.id = false := by
  by_contra hwants
  simp only [wants, Bool.not_eq_false, List.any_eq_true, decide_eq_true_eq] at hwants
  obtain ⟨other, hother, hid⟩ := hwants
  obtain ⟨hmem', hrun⟩ := mem_desiredRun hother
  have hsame : other = wl := inj_on_of_nodup_map hnodup hmem' hmem hid
  rw [hsame, hstop] at hrun
  cases hrun

theorem stopped_mem_plan {id : WorkloadID} {pid : ℕ} :
    .stopped id pid ∈ plan running answer order starts ↔ (id, pid) ∈ order ∧ wants answer id = false := by
  simp only [plan, List.mem_append, List.mem_flatMap, List.mem_filter, List.mem_cons, List.mem_map, Prod.exists]
  constructor
  · rintro ((⟨id', pid', ⟨hmem, hwants⟩, heq | heq | heq⟩ | ⟨wl, -, heq⟩) | ⟨wl, -, heq⟩)
    · cases heq
    · cases heq
      exact ⟨hmem, by simpa using hwants⟩
    · cases heq
    · cases heq
    · cases heq
  · rintro ⟨hmem, hwants⟩
    exact .inl (.inl ⟨id, pid, ⟨hmem, by simp [hwants]⟩, .inr (.inl rfl)⟩)

theorem stop_mem_plan {id : WorkloadID} (hnodup : (answer.map DesiredWorkload.id).Nodup)
    (h : .stop id ∈ plan running answer order starts) : wants answer id = false := by
  simp only [plan, List.mem_append, List.mem_flatMap, List.mem_filter, List.mem_cons, List.mem_map,
    Prod.exists] at h
  rcases h with (⟨id', pid', ⟨hmem, hwants⟩, heq | heq | heq⟩ | ⟨wl, ⟨hmem, hstop⟩, heq⟩) | ⟨wl, -, heq⟩
  · cases heq
    simpa using hwants
  · cases heq
  · cases heq
  · cases heq
    simp only [Bool.and_eq_true, decide_eq_true_eq] at hstop
    exact not_wants_of_stop hnodup hmem hstop.1
  · cases heq

theorem plan_eq (running : Table WorkloadID ℕ) (answer : List DesiredWorkload) (order : List (WorkloadID × ℕ))
    (starts : List DesiredWorkload) : ∃ stops, (∀ t ∈ stops, t.isStart = false) ∧
      plan running answer order starts =
      stops ++ (starts.filter fun wl => (running.lookup wl.id).isNone).map Task.start := by
  refine ⟨_, ?_, rfl⟩
  intro t ht
  simp only [List.mem_append, List.mem_flatMap, List.mem_map, List.mem_cons, List.not_mem_nil, or_false] at ht
  rcases ht with ⟨e, -, rfl | rfl⟩ | ⟨wl, -, rfl⟩ <;> rfl

theorem plan_ordered : (plan running answer order starts).Pairwise fun t u => t.isStart = true →
    u.isStart = true := by
  obtain ⟨_, hstops, hplan⟩ := plan_eq running answer order starts
  have hstarts : ∀ t ∈ ((starts.filter fun wl => (running.lookup wl.id).isNone).map Task.start),
      t.isStart = true := by
    intro t ht
    obtain ⟨wl, -, rfl⟩ := mem_map.1 ht
    rfl
  rw [hplan, pairwise_append]
  refine ⟨?_, ?_, ?_⟩
  · refine pairwise_of_forall_mem_list fun t ht u _ hstart => ?_
    rw [hstops t ht] at hstart
    cases hstart
  · exact pairwise_of_forall_mem_list fun t _ u hu _ => hstarts u hu
  · intro t _ u hu _
    exact hstarts u hu

end

/-! ## What is known of a process -/

def outcomesOf (a : Loop) (pid : ℕ) : List EventKind := (a.processes[pid]?.map Process.outcomes).getD []

def killedOf (a : Loop) (pid : ℕ) : Bool := (a.processes[pid]?.map Process.killed).getD false

def progressOf (a : Loop) (pid : ℕ) : Option Progress := a.processes[pid]?.map Process.progress

section

variable (a : Loop) (pid j : ℕ) (id : WorkloadID)

theorem map_getElem?_modify {α β : Type} (l : List α) {f : α → α} {g : α → β}
    (h : ∀ x, g (f x) = g x) (i j : ℕ) : (l.modify i f)[j]?.map g = l[j]?.map g := by
  rw [getElem?_modify]
  cases l[j]? with
  | none => rfl
  | some =>
    by_cases hj : i = j
    · simp [hj, h]
    · simp [hj]

variable (ev : HealthEvent) (progress : Progress) (wl : DesiredWorkload) (result : StartResult) (now : Millis)

@[simp] theorem outcomesOf_setProgress : (a.setProgress pid progress).outcomesOf j = a.outcomesOf j := by
  unfold outcomesOf setProgress
  rw [map_getElem?_modify]
  exact fun _ => rfl

@[simp] theorem killedOf_setProgress : (a.setProgress pid progress).killedOf j = a.killedOf j := by
  unfold killedOf setProgress
  rw [map_getElem?_modify]
  exact fun _ => rfl

@[simp] theorem length_setProgress :
    (a.setProgress pid progress).processes.length = a.processes.length := length_modify ..

theorem progressOf_setProgress : (a.setProgress pid progress).progressOf j =
      if pid = j then (a.progressOf j).map fun _ => progress else a.progressOf j := by
  unfold progressOf setProgress
  rw [getElem?_modify]
  cases a.processes[j]? with
  | none => simp
  | some =>
    by_cases hj : pid = j <;> simp [hj]

theorem outcomesOf_pushOutcome :
    (a.pushOutcome pid ev).outcomesOf j = a.outcomesOf j ++ if pid = j ∧ j < a.processes.length then
      [ev.kind] else [] := by
  unfold outcomesOf pushOutcome
  rw [getElem?_modify]
  by_cases hlt : j < a.processes.length
  · by_cases hj : pid = j <;> simp [hj, hlt]
  · simp [hlt]

@[simp] theorem killedOf_pushOutcome : (a.pushOutcome pid ev).killedOf j = a.killedOf j := by
  unfold killedOf pushOutcome
  rw [map_getElem?_modify]
  exact fun _ => rfl

@[simp] theorem progressOf_pushOutcome : (a.pushOutcome pid ev).progressOf j = a.progressOf j := by
  unfold progressOf pushOutcome
  rw [map_getElem?_modify]
  exact fun _ => rfl

@[simp] theorem length_pushOutcome : (a.pushOutcome pid ev).processes.length = a.processes.length :=
    length_modify ..

theorem stop_eq : (a.stop id).running = a.running ∧ (a.stop id).eventsCh = a.eventsCh ∧
    (a.stop id).phase = a.phase ∧
      (a.stop id).processes.length = a.processes.length ∧
      (a.stop id).outcomesOf j = a.outcomesOf j ∧ (a.stop id).progressOf j = a.progressOf j ∧
      ((a.stop id).killedOf j = true → a.killedOf j = true ∨ a.running.lookup id = some j) := by
  unfold stop
  cases hpid : a.running.lookup id with
  | none => exact ⟨rfl, rfl, rfl, rfl, rfl, rfl, .inl⟩
  | some pid =>
    refine ⟨rfl, rfl, rfl, length_modify .., ?_, ?_, ?_⟩
    · unfold outcomesOf
      rw [map_getElem?_modify]
      exact fun _ => rfl
    · unfold progressOf
      rw [map_getElem?_modify]
      exact fun _ => rfl
    · by_cases hj : pid = j
      · exact fun _ => .inr (congrArg some hj)
      · intro hkilled
        left
        simp only [killedOf, getElem?_modify, if_neg hj] at hkilled
        simpa [killedOf] using hkilled

theorem startWorkload_cases :
    ((a.startWorkload wl result now).processes = a.processes ∧
      (a.startWorkload wl result now).running = a.running ∧
        (result = .launched → a.running.lookup wl.id ≠ none)) ∨
      ∃ running, result = .launched ∧ a.running.insert wl.id a.processes.length = some running ∧
        (a.startWorkload wl result now).processes = a.processes ++ [⟨wl.id, .alive, false, []⟩] ∧
        (a.startWorkload wl result now).running = running := by
  cases result with
  | mountFailed => exact .inl ⟨rfl, rfl, by simp⟩
  | startFailed =>
    left
    simp only [startWorkload]
    split_ifs <;> exact ⟨rfl, rfl, by simp⟩
  | launched =>
    cases hins : a.running.insert wl.id a.processes.length with
    | none =>
      left
      have htaken : a.running.lookup wl.id ≠ none := by
        intro hnone
        rw [Table.lookup_eq_none_iff] at hnone
        simp [Table.insert, hnone] at hins
      refine ⟨?_, ?_, fun _ => htaken⟩ <;> simp only [startWorkload, hins] <;> rfl
    | some running =>
      right
      refine ⟨running, rfl, rfl, ?_, ?_⟩ <;> simp only [startWorkload, hins]

theorem getD_getElem?_concat {α β : Type} (l : List α) (x : α) (g : α → β) (i : ℕ) :
    ((l ++ [x])[i]?.map g).getD (g x) = (l[i]?.map g).getD (g x) := by
  rcases lt_trichotomy i l.length with hlt | rfl | hgt
  · rw [getElem?_append_left hlt]
  · simp
  · rw [getElem?_eq_none (by simp; omega), getElem?_eq_none hgt.le]

theorem getD_startWorkload {β : Type} (g : Process → β) :
    ((a.startWorkload wl result now).processes[j]?.map g).getD
      (g ⟨wl.id, .alive, false, []⟩) = (a.processes[j]?.map g).getD (g ⟨wl.id, .alive, false, []⟩) := by
  rcases a.startWorkload_cases wl result now with ⟨hsame, -, -⟩ | ⟨_, -, -, hlaunched, -⟩
  · rw [hsame]
  · rw [hlaunched, getD_getElem?_concat]

@[simp] theorem outcomesOf_startWorkload : (a.startWorkload wl result now).outcomesOf j = a.outcomesOf j :=
  getD_startWorkload ..

@[simp] theorem killedOf_startWorkload : (a.startWorkload wl result now).killedOf j =
    a.killedOf j := getD_startWorkload ..

theorem running_startWorkload
    (h : ∀ id pid, a.running.lookup id = some pid → pid < a.processes.length) (wl : DesiredWorkload)
    (result : StartResult) (now : Millis) {pid : ℕ}
    (hpid : (a.startWorkload wl result now).running.lookup id = some pid) :
    pid < (a.startWorkload wl result now).processes.length := by
  rcases a.startWorkload_cases wl result now with ⟨hsame, hrun, -⟩ | ⟨running, -, hins, hlaunched, hrun⟩
  · rw [hrun] at hpid
    rw [hsame]
    exact h id pid hpid
  · rw [hrun, Table.lookup_insert hins] at hpid
    rw [hlaunched, length_append, length_singleton]
    split_ifs at hpid
    · cases hpid
      omega
    · have hlt := h id pid hpid
      omega

theorem startWorkload_eventsCh : (a.startWorkload wl result now).eventsCh = a.eventsCh := by
  unfold startWorkload
  cases result with
  | mountFailed => rfl
  | startFailed =>
    split_ifs <;> rfl
  | launched =>
    dsimp only
    split <;> rfl

end

/-! ## What a step does -/

/-- **A turn of the loop that does no more than end**, with the buffer and the phase it leaves
behind. -/
inductive Turns (a : Loop) : Label → HealthBuffer → Phase → Prop
  | posted {req : HealthRequest} (hph : a.phase = .posting req) : Turns a .posted a.healthBuf .idle
  | postFailed {req : HealthRequest} (hph : a.phase = .posting req) :
      Turns a .postFailed (a.healthBuf.pushAll req.events) .idle
  | polled {answer : List DesiredWorkload} (hph : a.phase = .idle)
      (hnodup : (answer.map DesiredWorkload.id).Nodup) : Turns a (.poll answer) a.healthBuf (.polled answer)
  | planned {answer starts : List DesiredWorkload} {order : List (WorkloadID × ℕ)}
      (hph : a.phase = .polled answer) (horder : order.Perm a.running.rows)
        (hstarts : starts.Perm (desiredRun answer)) :
      Turns a (.reconcile order starts) a.healthBuf (.reconciling (plan a.running answer order starts))
  | worked {result : StartResult} {now : Millis} (hph : a.phase = .reconciling []) :
      Turns a (.work result now) a.healthBuf .idle
  | cancelled (hph : a.phase = .idle) : Turns a .cancel a.healthBuf .returned

/-- **What a step can do**, by the branch that is taken. -/
inductive Steps (a : Loop) : Label → Loop → Prop
  | exited {pid : ℕ} {e : Exit} (hpid : a.progressOf pid = some .alive) :
      Steps a (.exit pid e) (a.setProgress pid (.exited e))
  | removed {pid : ℕ} {p : Process} {e : Exit} (hp : a.processes[pid]? = some p)
      (hpid : a.progressOf pid = some (.exited e)) :
      Steps a (.remove pid) { a.setProgress pid (.removed e) with running := a.running.delete p.workload }
  | announced {pid : ℕ} {p : Process} {e : Exit} {now : Millis} (hpid : a.progressOf pid = some (.removed e)) :
      Steps a (.announce pid now)
        { a.setProgress pid .announced with eventsCh := a.eventsCh ++ [(pid, e.event p.workload now)] }
  | received {pid : ℕ} {ev : HealthEvent} {rest : List (ℕ × HealthEvent)} {now : Millis} {hb : HealthBuffer}
      (hph : a.phase = .idle) (hevs : a.eventsCh = (pid, ev) :: rest) (hhb : hb = a.healthBuf.push ev) :
      Steps a (.receive now) { (a.setProgress pid .reported).pushOutcome pid ev with
        eventsCh := rest, healthBuf := hb.drain.1, phase := .posting ⟨now, hb.drain.2.1, hb.drain.2.2⟩ }
  | turned {l : Label} {healthBuf : HealthBuffer} {phase : Phase} (h : Turns a l healthBuf phase) :
      Steps a l { a with healthBuf, phase }
  | stopped {id : WorkloadID} {tasks : List Task} {result : StartResult} {now : Millis}
      (hph : a.phase = .reconciling (.stop id :: tasks)) :
      Steps a (.work result now) { a.stop id with phase := .reconciling tasks }
  | told {id : WorkloadID} {pid : ℕ} {tasks : List Task} {result : StartResult} {now : Millis}
      (hph : a.phase = .reconciling (.stopped id pid :: tasks)) : Steps a (.work result now)
        { a.pushOutcome pid ⟨id, .stopped, now, some 0, []⟩ with phase := .reconciling tasks }
  | started {wl : DesiredWorkload} {tasks : List Task} {result : StartResult} {now : Millis}
      (hph : a.phase = .reconciling (.start wl :: tasks)) :
      Steps a (.work result now) { a.startWorkload wl result now with phase := .reconciling tasks }

theorem steps_of_step {a a' : Loop} {l : Label} (h : a.step l = some a') : Steps a l a' := by
  have hprogress : ∀ {pid p}, a.processes[pid]? = some p → a.progressOf pid = some p.progress := by
    intro pid p hp
    rw [progressOf, hp, map_some]
  cases l with
  | exit =>
    obtain ⟨p, hp, h⟩ := bind_eq_some_iff.1 h
    split at h <;> cases h
    rename_i halive
    exact .exited (halive ▸ hprogress hp)
  | remove =>
    obtain ⟨p, hp, h⟩ := bind_eq_some_iff.1 h
    split at h <;> cases h
    rename_i hexit
    exact .removed hp (hexit ▸ hprogress hp)
  | announce =>
    obtain ⟨p, hp, h⟩ := bind_eq_some_iff.1 h
    split at h
    · rename_i hrem
      split_ifs at h
      cases h
      exact .announced (hrem ▸ hprogress hp)
    · cases h
  | receive =>
    simp only [step] at h
    split at h <;> cases h
    exact .received ‹_› ‹_› rfl
  | posted =>
    simp only [step] at h
    split at h <;> cases h
    exact .turned (.posted ‹_›)
  | postFailed =>
    simp only [step] at h
    split at h <;> cases h
    exact .turned (.postFailed ‹_›)
  | poll =>
    simp only [step] at h
    split_ifs at h with hidle
    cases h
    exact .turned (.polled hidle.1 hidle.2)
  | reconcile =>
    simp only [step] at h
    split at h
    · split_ifs at h with hperm
      cases h
      exact .turned (.planned ‹_› hperm.1 hperm.2)
    · cases h
  | work =>
    simp only [step] at h
    split at h <;> cases h
    · exact .turned (.worked ‹_›)
    · exact .stopped ‹_›
    · exact .told ‹_›
    · exact .started ‹_›
  | cancel =>
    simp only [step] at h
    split_ifs at h with hidle
    cases h
    exact .turned (.cancelled hidle)

end Loop

end Ocelot.Agent
