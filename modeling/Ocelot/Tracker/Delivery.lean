/-
# What becomes of a queued write (`tracker/buffered_db.go`).
-/
import Ocelot.Lib.Outbox
import Ocelot.Tracker.BufferedDB

namespace Ocelot.Tracker

open Option List Run

inductive FlushStage where
  | notCalled
  | waiting
  | returned
  deriving DecidableEq

inductive Held (ω : Type*) where
  | nothing
  | received (op : ω)
  | executing (op : ω)

def Held.toList {ω : Type*} : Held ω → List ω
  | .nothing => []
  | .received op => [op]
  | .executing op => [op]

structure Delivery (ω : Type*) where
  breaker : Option CircuitBreaker
  db : BufferedDB ω
  held : Held ω := .nothing
  flush : FlushStage := .notCalled
  /-- Every write `enqueue` was called with, in order. -/
  passed : List ω := []
  accepted : List ω := []
  /-- The writes `dropped` counts. -/
  lost : List ω := []
  executed : List ω := []
  refused : List ω := []

inductive DeliveryLabel (ω : Type*) where
  | enqueue (op : ω)
  | turn (t : DrainTurn)
  | receive
  | execute (now : Time)
  | finish (ok : Bool) (now : Time)
  | flush
  | flushReturn
  | consult (now : Time)
  | report (ok : Bool) (now : Time)

namespace Delivery

variable {ω : Type*}

def pending (s : Delivery ω) : List ω := s.held.toList ++ s.db.queue

def start (breaker : Option CircuitBreaker) (bufCap : Int) : Delivery ω where
  breaker
  db := .newBufferedDB bufCap

def step (s : Delivery ω) : DeliveryLabel ω → Option (Delivery ω)
  | .enqueue op =>
    let s' := { s with db := s.db.enqueue op, passed := s.passed ++ [op] }
    some <|
      if s.db.queue.length < s.db.cap then { s' with accepted := s.accepted ++ [op] }
      else { s' with lost := s.lost ++ [op] }
  | .turn t =>
    match s.held with
    | .nothing => (s.db.turn t).map fun db => { s with db }
    | _ => none
  | .receive =>
    match s.held with
    | .nothing => s.db.receive.map fun r => { s with db := r.2, held := .received r.1 }
    | _ => none
  | .execute now =>
    match s.held, s.breaker with
    | .received op, none => some { s with held := .executing op }
    | .received op, some breaker =>
      let r := breaker.canExecute now
      some <|
        if r.1 then { s with breaker := some r.2, held := .executing op }
        -- Refused: the write has left the queue, its error goes to the log.
        else { s with breaker := some r.2, held := .nothing, refused := s.refused ++ [op] }
    | _, _ => none
  | .finish ok now =>
    match s.held with
    | .executing op => some { s with
        breaker := s.breaker.map fun breaker => breaker.recordResult ok now
        held := .nothing
        executed := s.executed ++ [op] }
    | _ => none
  | .flush =>
    if s.flush = .notCalled then some { s with db := s.db.closeStop, flush := .waiting } else none
  | .flushReturn =>
    -- `wg.Wait`
    if s.flush = .waiting ∧ s.db.stage = .exited then some { s with flush := .returned } else none
  | .consult now =>
    some { s with breaker := s.breaker.map fun breaker => (breaker.canExecute now).2 }
  | .report ok now =>
    some { s with breaker := s.breaker.map fun breaker => breaker.recordResult ok now }

variable (b : BufferedDB ω)

theorem enqueue_queue (op : ω) :
    (b.enqueue op).queue = if b.queue.length < b.cap then b.queue ++ [op] else b.queue := by
  unfold BufferedDB.enqueue
  split <;> rfl

theorem enqueue_dropped (op : ω) :
    (b.enqueue op).dropped = if b.queue.length < b.cap then b.dropped else b.dropped + 1 := by
  unfold BufferedDB.enqueue
  split <;> rfl

theorem enqueue_stage (op : ω) : (b.enqueue op).stage = b.stage := by
  unfold BufferedDB.enqueue
  split <;> rfl

theorem receive_eq_some {b b' : BufferedDB ω} {op : ω} (h : b.receive = some (op, b')) :
    b.queue = op :: b'.queue ∧ b'.dropped = b.dropped ∧ b'.stage = b.stage ∧ b.stage ≠ .exited := by
  unfold BufferedDB.receive at h
  split at h
  · cases h
  · rename_i hstage
    split at h
    · cases h
    · rename_i hq
      cases h
      exact ⟨hq, rfl, rfl, hstage⟩

theorem turn_eq_some {b b' : BufferedDB ω} {t : DrainTurn} (h : b.turn t = some b') :
    b'.queue = b.queue ∧ b'.dropped = b.dropped ∧ b.stage ≠ .exited ∧ (b'.stage = .exited → b.queue = []) := by
  cases t with
  | tick | stop =>
    simp only [BufferedDB.turn] at h
    split at h
    · rename_i hstage
      cases h
      simp [hstage]
    · cases h
  | tickDone | exit =>
    simp only [BufferedDB.turn] at h
    split at h
    · rename_i hstage
      cases h
      simp [hstage.1, isEmpty_iff.1 hstage.2]
    · cases h

def ledger (s : Delivery ω) : Outbox.Ledger ω where
  passed := s.passed
  accepted := s.accepted
  lost := s.lost
  executed := s.executed
  refused := s.refused
  pending := s.pending

/-- **What a step can do**: it is a move of the books in which only a breaker refuses, the counter
counts the writes that are lost, the goroutine returns once, with nothing in its hand and nothing in
the queue, and `Flush` returns after it. -/
structure Effect (s s' : Delivery ω) : Prop where
  move : Outbox.Move (s.breaker ≠ none) s.ledger s'.ledger
  counts : s'.db.dropped = s.db.dropped ∧ s'.lost = s.lost ∨
    s'.db.dropped = s.db.dropped + 1 ∧ ∃ op, s'.lost = s.lost ++ [op]
  breaker : s'.breaker = none ↔ s.breaker = none
  stays : s.db.stage = .exited → s'.db.stage = .exited ∧ s'.held.toList = s.held.toList
  exits : s'.db.stage = .exited → s.db.stage = .exited ∨ s'.pending = []
  returns : s'.flush = .returned → s.flush = .returned ∨ s'.db.stage = .exited

variable {s s' : Delivery ω} {l : DeliveryLabel ω}

theorem Effect.of_eq (hledg : s'.ledger = s.ledger)
    (hdrop : s'.db.dropped = s.db.dropped) (hbrk : s'.breaker = none ↔ s.breaker = none)
    (hstage : s'.db.stage = s.db.stage)
    (hheld : s.db.stage = .exited → s'.held.toList = s.held.toList)
    (hflush : s'.flush = .returned → s.flush = .returned ∨ s.db.stage = .exited) : Effect s s' where
  move := hledg ▸ .stay
  counts := .inl ⟨hdrop, congrArg Outbox.Ledger.lost hledg⟩
  breaker := hbrk
  stays h := ⟨hstage.trans h, hheld h⟩
  exits h := .inl (hstage.symm.trans h)
  returns h := by
    rw [hstage]
    exact hflush h

theorem effect_enqueue (s : Delivery ω) (op : ω) : ∀ s', s.step (.enqueue op) = some s' → Effect s s' := by
  intro s' h
  simp only [step, some.injEq] at h
  subst h
  by_cases hroom : s.db.queue.length < s.db.cap
  · have hmove : Outbox.Move (s.breaker ≠ none) s.ledger _ := .accept op
    simp only [hroom, if_true]
    refine ⟨?_, .inl ⟨?_, rfl⟩, .rfl, ?_, ?_, .inl⟩
    · simpa [ledger, pending, enqueue_queue, hroom] using hmove
    · simp [enqueue_dropped, hroom]
    · simp [enqueue_stage]
    · intro hexit
      exact .inl (enqueue_stage s.db op ▸ hexit)
  · have hmove : Outbox.Move (s.breaker ≠ none) s.ledger _ := .lose op
    simp only [hroom, if_false]
    refine ⟨?_, .inr ⟨?_, op, rfl⟩, .rfl, ?_, ?_, .inl⟩
    · simpa [ledger, pending, enqueue_queue, hroom] using hmove
    · simp [enqueue_dropped, hroom]
    · simp [enqueue_stage]
    · intro hexit
      exact .inl (enqueue_stage s.db op ▸ hexit)

theorem effect_execute (s : Delivery ω) (now : Time) (hidle : s.db.stage = .exited →
    s.held = .nothing) : ∀ s', s.step (.execute now) = some s' → Effect s s' := by
  intro s' h
  simp only [step] at h
  split at h
  · rename_i op hheld hbrk
    cases h
    refine .of_eq ?_ rfl Iff.rfl rfl (fun _ => by rw [hheld]; rfl) .inl
    simp [ledger, pending, hheld, Held.toList]
  · rename_i op breaker hheld hbrk
    rw [some.injEq] at h
    subst h
    have hrun : s.db.stage ≠ .exited := by
      intro hexit
      rw [hidle hexit] at hheld
      cases hheld
    by_cases hcan : (breaker.canExecute now).1
    · simp only [hcan, if_true]
      refine .of_eq ?_ rfl (by simp [hbrk]) rfl (fun h => absurd h hrun) .inl
      simp [ledger, pending, hheld, Held.toList]
    · have hmove : Outbox.Move (s.breaker ≠ none) s.ledger _ :=
        .refuse op s.db.queue (by simp [ledger, pending, hheld, Held.toList]) (by simp [hbrk])
      simp only [hcan]
      refine ⟨?_, .inl ⟨rfl, rfl⟩, by simp [hbrk], fun h => absurd h hrun,
        fun h => absurd h hrun, .inl⟩
      simpa [ledger, pending, Held.toList] using hmove
  · cases h

theorem step_effect (hidle : s.db.stage = .exited → s.held = .nothing) (h : s.step l = some s') : Effect s s' := by
  cases l with
  | enqueue op => exact effect_enqueue s op s' h
  | turn t =>
    simp only [step] at h
    split at h
    · rename_i hheld
      obtain ⟨db, hturn, rfl⟩ := map_eq_some_iff.1 h
      obtain ⟨hqueue, hdrop, hrun, hempty⟩ := turn_eq_some hturn
      have hledg : ledger { s with db } = s.ledger := by simp [ledger, pending, hqueue]
      refine ⟨hledg ▸ .stay, .inl ⟨hdrop, rfl⟩, .rfl, fun h => absurd h hrun, ?_, .inl⟩
      intro hexit
      right
      simp [pending, hheld, Held.toList, hqueue, hempty hexit]
    · cases h
  | receive =>
    simp only [step] at h
    split at h
    · rename_i hheld
      obtain ⟨⟨op, db⟩, hreceive, rfl⟩ := map_eq_some_iff.1 h
      obtain ⟨hqueue, hdrop, hstage, hrun⟩ := receive_eq_some hreceive
      refine .of_eq ?_ hdrop Iff.rfl hstage (fun h => absurd h hrun) .inl
      -- the write goes from the head of the queue into the goroutine's hand
      simp [ledger, pending, hheld, Held.toList, hqueue]
    · cases h
  | execute now => exact effect_execute s now hidle s' h
  | finish ok now =>
    simp only [step] at h
    split at h
    · rename_i op hheld
      cases h
      have hrun : s.db.stage ≠ .exited := by
        intro hexit
        rw [hidle hexit] at hheld
        cases hheld
      have hmove : Outbox.Move (s.breaker ≠ none) s.ledger _ :=
        .execute op s.db.queue (by simp [ledger, pending, hheld, Held.toList])
      refine ⟨?_, .inl ⟨rfl, rfl⟩, by simp, fun h => absurd h hrun, fun h => absurd h hrun, .inl⟩
      simpa [ledger, pending, Held.toList] using hmove
    · cases h
  | flush =>
    simp only [step] at h
    split at h
    · cases h
      exact .of_eq rfl rfl Iff.rfl rfl (fun _ => rfl) (fun h => by cases h)
    · cases h
  | flushReturn =>
    simp only [step] at h
    split at h
    · rename_i hwait
      cases h
      exact .of_eq rfl rfl Iff.rfl rfl (fun _ => rfl) (fun _ => .inr hwait.2)
    · cases h
  | consult | report =>
    cases h
    exact .of_eq rfl rfl (by simp) rfl (fun _ => rfl) .inl

structure Sound (s : Delivery ω) : Prop where
  books : s.ledger.Sound
  counted : s.db.dropped = UInt64.ofNat s.lost.length
  unrefused : s.breaker = none → s.refused = []
  idle : s.db.stage = .exited → s.held = .nothing
  returned : s.flush = .returned → s.db.stage = .exited

theorem Held.eq_nothing {h : Held ω} (hnil : h.toList = []) : h = .nothing := by
  cases h with
  | nothing => rfl
  | received | executing => cases hnil

theorem sound_start (breaker : Option CircuitBreaker) (bufCap : Int) :
    (start breaker bufCap : Delivery ω).Sound where
  books := Outbox.Ledger.sound_empty
  counted := rfl
  unrefused _ := rfl
  idle _ := rfl
  returned h := by cases h

theorem Sound.step (hs : s.Sound) (h : s.step l = some s') : s'.Sound := by
  have he := step_effect hs.idle h
  refine ⟨hs.books.move he.move, ?_, ?_, ?_, ?_⟩
  · rcases he.counts with ⟨hdrop, hlost⟩ | ⟨hdrop, _, hlost⟩
    · rw [hdrop, hlost, hs.counted]
    · rw [hdrop, hlost, hs.counted, length_append, length_singleton, UInt64.ofNat_add]
      rfl
  · intro hnone
    have hbef := he.breaker.1 hnone
    exact he.move.refused_nil (fun hsome => hsome hbef) (hs.unrefused hbef)
  · intro hexit
    apply Held.eq_nothing
    rcases he.exits hexit with hbef | hpend
    · rw [(he.stays hbef).2, hs.idle hbef]
      rfl
    · exact (append_eq_nil_iff.1 hpend).1
  · intro hret
    rcases he.returns hret with hbef | hexit
    · exact (he.stays (hs.returned hbef)).1
    · exact hexit

theorem breaker_run {ls : List (DeliveryLabel ω)} (hs : s.Sound)
    (h : exec Delivery.step s ls = some s') : s'.breaker = none ↔ s.breaker = none := by
  have hrun : s'.Sound ∧ (s'.breaker = none ↔ s.breaker = none) := by
    refine exec_invariant (I := fun t => t.Sound ∧ (t.breaker = none ↔ s.breaker = none)) ?_ ⟨hs, .rfl⟩ h
    rintro t l _ ⟨ht, hbrk⟩ hstep
    exact ⟨ht.step hstep, (step_effect ht.idle hstep).breaker.trans hbrk⟩
  exact hrun.2

structure Settles (p : List ω) (s : Delivery ω) : Prop where
  sound : s.Sound
  passed : p.Subperm s.passed
  settled : s.db.stage = .exited → p.Subperm s.ledger.settled

theorem Settles.step {p : List ω} (hs : Settles p s) (h : s.step l = some s') : Settles p s' := by
  have he := step_effect hs.sound.idle h
  have hs' := hs.sound.step h
  have hpassed : p.Subperm s'.passed := hs.passed.trans he.move.passed_grows.sublist.subperm
  refine ⟨hs', hpassed, ?_⟩
  intro hexit
  rcases he.exits hexit with hbef | hpend
  · exact (hs.settled hbef).trans he.move.settled_grows
  · -- the goroutine returns in this step, and leaves nothing behind
    exact hpassed.trans (hs'.books.settled_of_idle hpend).subperm

/-- **What becomes of a write**, for every capacity, every breaker and every order of steps: the
writes executed are accepted writes, in the order of acceptance and each at most once, and without a
breaker they are a prefix of them; and when `Flush` has returned, every write that was passed to
`enqueue` before the goroutine returned has been executed, has been refused by the breaker, or is
counted in `dropped`. -/
theorem writes_accounted (breaker : Option CircuitBreaker) (bufCap : Int)
    (before after : List (DeliveryLabel ω)) (s₀ s : Delivery ω)
    (h₀ : exec step (start breaker bufCap) before = some s₀)
    (h : exec step s₀ after = some s) : s.executed.Sublist s.accepted ∧
      (breaker = none → s.refused = [] ∧ s.executed <+: s.accepted) ∧
        (s.flush = .returned → s₀.db.stage ≠ .exited →
        s₀.passed.Subperm (s.executed ++ s.refused ++ s.lost) ∧ s.db.dropped = UInt64.ofNat s.lost.length) := by
  have hs0 : s₀.Sound := exec_invariant (fun _ _ _ hs hstep => .step hs hstep) (sound_start breaker bufCap) h₀
  have hs : s.Sound := exec_invariant (fun _ _ _ hs hstep => .step hs hstep) hs0 h
  refine ⟨?_, ?_, ?_⟩
  · exact (sublist_append_left s.executed s.pending).trans hs.books.inOrder
  · intro hnone
    have hnone0 : s₀.breaker = none := (breaker_run (sound_start breaker bufCap) h₀).2 hnone
    have href : s.refused = [] := hs.unrefused ((breaker_run hs0 h).2 hnone0)
    have hfifo : s.executed ++ s.pending = s.accepted := hs.books.fifo href
    exact ⟨href, s.pending, hfifo⟩
  · intro hret hrun
    have hstart : Settles s₀.passed s₀ := ⟨hs0, List.Subperm.refl _, fun hexit => absurd hexit hrun⟩
    have hend : Settles s₀.passed s := exec_invariant (fun _ _ _ hs hstep => Settles.step hs hstep) hstart h
    exact ⟨hend.settled (hs.returned hret), hs.counted⟩

def made (ok : Bool) (now : Time) : List (DeliveryLabel ℕ) := [.receive, .execute now, .finish ok now]

def opening : List (DeliveryLabel ℕ) := [.enqueue 1, .enqueue 2] ++ made true 0 ++ [.flush]

def closing : List (DeliveryLabel ℕ) := [.turn .stop] ++ made false 1 ++ [.turn .exit, .flushReturn]

theorem writes_accounted_sample :
    ∃ s₀ s, exec step (start none 16) opening = some s₀ ∧ exec step s₀ closing = some s ∧
      s₀.passed = [1, 2] ∧ s₀.passed.Subperm (s.executed ++ s.refused ++ s.lost) ∧ s.executed <+: s.accepted := by
  have hopening : (exec step (start none 16) opening).map (fun s => (s.passed, s.db.stage)) =
      some ([1, 2], .select) := by decide +kernel
  have hclosing : (exec step (start none 16) (opening ++ closing)).map (fun s => s.flush) =
      some .returned := by decide +kernel
  obtain ⟨s₀, h0, hst⟩ := map_eq_some_iff.1 hopening
  obtain ⟨hpassed, hstage⟩ := Prod.mk.inj hst
  rw [exec_append, h0] at hclosing
  obtain ⟨s, h, hret⟩ := map_eq_some_iff.1 hclosing
  obtain ⟨-, hfifo, hsettled⟩ := writes_accounted none 16 opening closing s₀ s h0 h
  exact ⟨s₀, s, h0, h, hpassed, (hsettled hret (by rw [hstage]; decide)).1, (hfifo rfl).2⟩

/-- **Two ways to be lost.** -/
theorem refused_and_late_writes :
    (exec step (start (some (newCircuitBreaker { maxFailures := 1, resetTimeout := 10, halfOpenMax := 1 })) 16)
        ([.enqueue 1, .enqueue 2, .enqueue 3] ++ made false 0 ++ [.receive, .execute 1] ++ made true 10 ++
          [.flush, .turn .stop, .turn .exit, .flushReturn])).map
        (fun s => (s.flush, s.accepted, s.executed, s.db.dropped)) = some (.returned, [1, 2, 3], [1, 3], 0) ∧
      (exec step (start none 16)
        [.flush, .turn .stop, .turn .exit, .flushReturn, .enqueue 1]).map
        (fun s => (s.flush, s.accepted, s.executed, s.db.dropped)) = some (.returned, [1], ([] : List ℕ), 0) := by
  constructor <;> decide +kernel

end Delivery

end Ocelot.Tracker
