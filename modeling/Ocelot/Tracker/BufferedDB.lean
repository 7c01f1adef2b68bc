/-
# The write queue and the breaker it shares (`tracker/buffered_db.go`).
-/
import Ocelot.Lib.Run
import Ocelot.Tracker.Announce
import Ocelot.Tracker.CircuitBreaker

namespace Ocelot.Tracker

open CircuitBreaker Run

inductive DrainStage where
  | select
  | tick
  | stop
  | exited
  deriving DecidableEq

structure BufferedDB (ω : Type*) where
  cap : ℕ
  queue : List ω := []
  dropped : UInt64 := 0
  /-- The channel `stop` is closed. -/
  stopped : Bool := false
  stage : DrainStage := .select
  queue_le : queue.length ≤ cap

inductive DrainTurn where
  | tick
  | tickDone
  | stop
  | exit

namespace BufferedDB

variable {ω : Type*}

def newBufferedDB (bufCap : Int) : BufferedDB ω where
  cap := if bufCap ≤ 0 then 4096 else bufCap.toNat
  queue_le := Nat.zero_le _

variable (b : BufferedDB ω)

def enqueue (op : ω) : BufferedDB ω :=
  if h : b.queue.length < b.cap then
    { b with
      queue := b.queue ++ [op]
      queue_le := by
        rw [List.length_append, List.length_singleton]
        exact h }
  -- Full: the write is gone, and the caller is told nothing.
  else { b with dropped := b.dropped + 1 }

def receive : Option (ω × BufferedDB ω) :=
  if b.stage = .exited then none
  else
    match hq : b.queue with
    | [] => none
    | op :: queue => some (op, { b with
        queue
        queue_le := by
          have hle := b.queue_le
          rw [hq, List.length_cons] at hle
          omega })

def turn : DrainTurn → Option (BufferedDB ω)
  | .tick => if b.stage = .select then some { b with stage := .tick } else none
  | .tickDone =>
    if b.stage = .tick ∧ b.queue.isEmpty then some { b with stage := .select } else none
  | .stop => if b.stage = .select ∧ b.stopped then some { b with stage := .stop } else none
  | .exit => if b.stage = .stop ∧ b.queue.isEmpty then some { b with stage := .exited } else none

def closeStop : BufferedDB ω := { b with stopped := true }

end BufferedDB

inductive Execution where
  | idle
  | received (op : DBCall)
  | executing (op : DBCall)

structure Wiring where
  breaker : CircuitBreaker
  db : BufferedDB DBCall
  /-- The calls of `dbExec` in flight, and whether their write has been passed to `enqueue`. -/
  calls : List (DBCall × Bool) := []
  execution : Execution := .idle
  results : List (DBCall × Bool) := []

inductive WiringLabel where
  | call (op : DBCall) (now : Time)
  | enqueue (i : ℕ)
  | record (i : ℕ) (now : Time)
  | turn (t : DrainTurn)
  | receive
  | execute (now : Time)
  | finish (ok : Bool) (now : Time)
  | flush

namespace Wiring

def step (s : Wiring) : WiringLabel → Option Wiring
  | .call op now =>
    let r := s.breaker.canExecute now
    some { s with
      breaker := r.2
      calls := if r.1 then s.calls ++ [(op, false)] else s.calls }
  | .enqueue i =>
    match s.calls[i]? with
    | some (op, false) => some { s with db := s.db.enqueue op, calls := s.calls.set i (op, true) }
    | _ => none
  | .record i now =>
    -- the methods of `BufferedDB` that an announce calls all return `nil`
    match s.calls[i]? with
    | some (_, true) => some { s with
        breaker := s.breaker.recordResult true now
        calls := s.calls.eraseIdx i }
    | _ => none
  | .turn t =>
    match s.execution with
    | .idle => (s.db.turn t).map fun db => { s with db }
    | _ => none
  | .receive =>
    match s.execution with
    | .idle => s.db.receive.map fun r => { s with db := r.2, execution := .received r.1 }
    | _ => none
  | .execute now =>
    match s.execution with
    | .received op =>
      let r := s.breaker.canExecute now
      some { s with
        breaker := r.2
        -- Refused: the write has left the queue, and is not made.
        execution := if r.1 then .executing op else .idle }
    | _ => none
  | .finish ok now =>
    match s.execution with
    | .executing op => some { s with
        breaker := s.breaker.recordResult ok now
        execution := .idle
        results := (op, ok) :: s.results }
    | _ => none
  | .flush => some { s with db := s.db.closeStop }

def start (breaker : CircuitBreaker) (bufCap : Int) : Wiring where
  breaker
  db := .newBufferedDB bufCap

def streak (s : Wiring) : ℕ := (s.results.takeWhile fun r => !r.2).length

variable {s s' : Wiring} {l : WiringLabel}

theorem step_finish {ok : Bool} {now : Time} (h : s.step (.finish ok now) = some s') :
    ∃ op, s.execution = .executing op ∧ s'.breaker = s.breaker.recordResult ok now ∧
      s'.results = (op, ok) :: s.results := by
  simp only [step] at h
  split at h
  · rename_i op hop
    cases h
    exact ⟨op, hop, rfl, rfl⟩
  · cases h

theorem step_cases (h : s.step l = some s') : (s'.breaker = s.breaker ∧ s'.results = s.results) ∨
      (∃ now, s'.breaker = (s.breaker.canExecute now).2 ∧ s'.results = s.results) ∨
      (∃ i now, l = .record i now ∧ s'.breaker = s.breaker.recordResult true now ∧
      s'.results = s.results) ∨ ∃ op ok now, l = .finish ok now ∧ s.execution = .executing op ∧
        s'.breaker = s.breaker.recordResult ok now ∧ s'.results = (op, ok) :: s.results := by
  cases l with
  | call _ now =>
    cases h
    exact .inr (.inl ⟨now, rfl, rfl⟩)
  | enqueue =>
    simp only [step] at h
    split at h
    · cases h
      exact .inl ⟨rfl, rfl⟩
    · cases h
  | record i now =>
    simp only [step] at h
    split at h
    · cases h
      exact .inr (.inr (.inl ⟨i, now, rfl, rfl, rfl⟩))
    · cases h
  | turn =>
    simp only [step] at h
    split at h
    · obtain ⟨_, -, rfl⟩ := Option.map_eq_some_iff.1 h
      exact .inl ⟨rfl, rfl⟩
    · cases h
  | receive =>
    simp only [step] at h
    split at h
    · obtain ⟨r, -, rfl⟩ := Option.map_eq_some_iff.1 h
      exact .inl ⟨rfl, rfl⟩
    · cases h
  | execute now =>
    simp only [step] at h
    split at h
    · cases h
      exact .inr (.inl ⟨now, rfl, rfl⟩)
    · cases h
  | finish ok now =>
    obtain ⟨op, hop, hrec, hresults⟩ := step_finish h
    exact .inr (.inr (.inr ⟨op, ok, now, rfl, hop, hrec, hresults⟩))
  | flush =>
    cases h
    exact .inl ⟨rfl, rfl⟩

@[simp] theorem streak_of_results (h : s'.results = s.results) : s'.streak = s.streak := by
  unfold streak
  rw [h]

theorem streak_success {op : DBCall} (h : s'.results = (op, true) :: s.results) : s'.streak = 0 := by
  unfold streak
  rw [h]
  rfl

theorem streak_failure {op : DBCall} (h : s'.results = (op, false) :: s.results) : s'.streak = s.streak + 1 := by
  unfold streak
  rw [h]
  rfl

theorem limits_step (h : s.step l = some s') : s'.breaker.limits = s.breaker.limits := by
  rcases step_cases h with ⟨hsame, -⟩ | ⟨now, hcan, -⟩ | ⟨i, now, -, hrec, -⟩ |
    ⟨op, ok, now, -, -, hrec, -⟩
  · rw [hsame]
  · rw [hcan, limits_canExecute]
  · rw [hrec, limits_recordResult]
  · rw [hrec, limits_recordResult]

def Steadily (s : Wiring) : WiringLabel → Prop
  | .record _ _ => s.breaker.Steady
  | _ => True

instance (s : Wiring) (l : WiringLabel) : Decidable (s.Steadily l) := by
  unfold Steadily
  split <;> infer_instance

/-- **What the runs keep**: a closed breaker has counted every failure of the streak, and is below
its limit. -/
def Counting (s : Wiring) : Prop := s.breaker.state = .closed →
    s.streak ≤ s.breaker.failures.toNat ∧ s.breaker.failures < s.breaker.limits.maxFailures

theorem Counting.step (hs : s.Counting) (hl : s.Steadily l) (h : s.step l = some s') : s'.Counting := by
  intro hcl
  rw [limits_step h]
  rcases step_cases h with ⟨hsame, hresults⟩ | ⟨now, hcan, hresults⟩ |
    ⟨i, now, rfl, hrec, hresults⟩ | ⟨op, ok, now, rfl, hop, hrec, hresults⟩
  · rw [hsame] at hcl ⊢
    rw [streak_of_results hresults]
    exact hs hcl
  · rw [hcan] at hcl ⊢
    rw [streak_of_results hresults, canExecute_closed hcl]
    exact hs (canExecute_closed hcl ▸ hcl)
  · rw [hrec, Steady.recordResult hl] at hcl ⊢
    rw [streak_of_results hresults]
    exact hs hcl
  · rw [hrec] at hcl ⊢
    cases ok with
    | true =>
      rw [streak_success hresults, failures_of_success hcl]
      exact ⟨Nat.zero_le _, s.breaker.limits.maxFailures_pos⟩
    | false =>
      obtain ⟨hbef, hfailures, hlt⟩ := failures_of_failure hcl
      obtain ⟨hstreak, hbelow⟩ := hs hbef
      rw [streak_failure hresults, hfailures, toNat_succ_of_lt hbelow]
      exact ⟨Nat.succ_le_succ hstreak, hlt⟩

theorem limits_run {ls : List WiringLabel} (h : exec step s ls = some s') : s'.breaker.limits = s.breaker.limits :=
  exec_invariant (I := fun t => t.breaker.limits = s.breaker.limits)
    (fun _ _ _ ht hstep => (limits_step hstep).trans ht) rfl h

theorem Counting.opens {now : Time} (hs : s.Counting) (h : s.step (.finish false now) = some s')
    (hstreak : s.breaker.limits.maxFailures.toNat ≤ s'.streak) : s'.breaker.state = .open := by
  have hs' := hs.step (l := .finish false now) trivial h
  obtain ⟨-, -, hrec, -⟩ := step_finish h
  cases hst : s'.breaker.state with
  | closed =>
    obtain ⟨_, hbelow⟩ := hs' hst
    rw [limits_step h, UInt32.lt_iff_toNat_lt] at hbelow
    omega
  | «open» => rfl
  | halfOpen =>
    rw [hrec] at hst
    obtain ⟨-, hok, -⟩ := recordResult_halfOpen hst
    cases hok

theorem closes_by_write (hl : s.Steadily l) (h : s.step l = some s')
    (hhalf : s.breaker.state = .halfOpen) (hcl : s'.breaker.state = .closed) :
    ∃ op now, l = .finish true now ∧ s.execution = .executing op ∧ s'.results = (op, true) :: s.results := by
  rcases step_cases h with ⟨hsame, -⟩ | ⟨now, hcan, -⟩ | ⟨i, now, rfl, hrec, -⟩ |
    ⟨op, ok, now, rfl, hop, hrec, hresults⟩
  · rw [hsame, hhalf] at hcl
    cases hcl
  · rw [hcan] at hcl
    rw [canExecute_closed hcl, hhalf] at hcl
    cases hcl
  · rw [hrec, Steady.recordResult hl, hhalf] at hcl
    cases hcl
  · rw [hrec] at hcl
    obtain ⟨rfl, -⟩ := recordResult_closes hhalf hcl
    exact ⟨op, now, rfl, hop, hresults⟩

/-- **The breaker follows the inner database** in every run in which the successes of queued writes
are recorded only where they change nothing: when `maxFailures` writes in a row have failed, it is
open; and it leaves half-open for closed only with a write that succeeded. -/
theorem breaker_follows_writes (breaker : CircuitBreaker) (bufCap : Int)
    (hbelow : breaker.state = .closed → breaker.failures < breaker.limits.maxFailures)
    (ls : List WiringLabel) (s : Wiring) (h : exec step (start breaker bufCap) ls = some s)
    (hsteady : Meets step Steadily (start breaker bufCap) ls) : (∀ now s', s.step (.finish false now) = some s' →
        breaker.limits.maxFailures.toNat ≤ s'.streak → s'.breaker.state = .open) ∧
      ∀ l s', s.Steadily l → s.step l = some s' → s.breaker.state = .halfOpen → s'.breaker.state = .closed →
        ∃ op now, l = .finish true now ∧ s.execution = .executing op ∧ s'.results = (op, true) :: s.results := by
  have hstart : (start breaker bufCap).Counting := fun hcl => ⟨Nat.zero_le _, hbelow hcl⟩
  have hs : s.Counting :=
    exec_invariant_of_meets (fun _ _ _ hs hl hstep => Counting.step hs hl hstep) hstart hsteady h
  refine ⟨fun now s' hstep hstreak => hs.opens hstep ?_, fun l s' hl hstep hhalf hcl => ?_⟩
  · rw [limits_run h]
    exact hstreak
  · exact closes_by_write hl hstep hhalf hcl

def mainBreaker : CircuitBreaker :=
  newCircuitBreaker { maxFailures := 5, resetTimeout := 30 * 1000000000, halfOpenMax := 3 }

def sampleWrite : DBCall := .recordPeerLight 7 1 0 1 []

def queued (now : Time) : List WiringLabel := [.call sampleWrite now, .enqueue 0, .record 0 now]

def failed (now : Time) : List WiringLabel := [.receive, .execute now, .finish false now]

theorem breaker_follows_writes_sample : ∃ s s', exec step (start mainBreaker 4096)
        (queued 0 ++ queued 1 ++ queued 2 ++ queued 3 ++ queued 4 ++ failed 5 ++ failed 6 ++ failed 7 ++
          failed 8 ++ [.receive, .execute 9]) = some s ∧
      s.step (.finish false 9) = some s' ∧ s'.streak = 5 ∧ s'.breaker.state = .open := by
  have hsteady : Meets step Steadily (start mainBreaker 4096)
      (queued 0 ++ queued 1 ++ queued 2 ++ queued 3 ++ queued 4 ++ failed 5 ++ failed 6 ++ failed 7 ++
        failed 8 ++ [.receive, .execute 9]) := by decide +kernel
  refine ⟨_, _, rfl, rfl, rfl, ?_⟩
  exact (breaker_follows_writes mainBreaker 4096 (fun _ => by decide) _ _ rfl hsteady).1 9 _ rfl
    (by decide)

/-- **The breaker misled.** -/
theorem queued_successes_mislead : (exec step (start mainBreaker 4096)
        (queued 0 ++ failed 1 ++ queued 2 ++ failed 3 ++ queued 4 ++ failed 5 ++ queued 6 ++ failed 7 ++
          queued 8 ++ failed 9)).map (fun s => (s.streak, s.breaker.state)) = some (5, .closed) ∧
      (let opened := queued 0 ++ queued 1 ++ queued 2 ++ queued 3 ++ queued 4 ++ failed 5 ++ failed 6 ++
        failed 7 ++ failed 8 ++ failed 9
       let probed := [WiringLabel.call sampleWrite 30000000009, .call sampleWrite 30000000010,
        .call sampleWrite 30000000011, .call sampleWrite 30000000012, .enqueue 0]
       (exec step (start mainBreaker 4096) (opened ++ probed)).map (fun s => s.breaker.state) = some .halfOpen ∧
        (exec step (start mainBreaker 4096) (opened ++ probed ++ [.record 0 30000000013])).map
          (fun s => (s.breaker.state, s.results.all fun r => !r.2)) = some (.closed, true)) := by
  refine ⟨?_, ?_, ?_⟩ <;> decide +kernel

end Wiring

end Ocelot.Tracker
