/-
# The breaker under concurrent executions.
-/
import Ocelot.Lib.Run
import Ocelot.Tracker.CircuitBreaker

namespace Ocelot.Tracker

open List Option CircuitBreaker

/-! ## Executions -/

structure Circuit where
  cb : CircuitBreaker
  inflight : List (Option ℕ) := []
  episode : ℕ := 0
  admitted : List ℕ := []
  returned : List (ℕ × Bool) := []

open Circuit

inductive CircuitLabel where
  | call (now : Time)
  | record (i : ℕ) (ok : Bool) (now : Time)
  | reset

namespace Circuit

variable (s : Circuit)

def enter (cb' : CircuitBreaker) : Circuit :=
  let episode := if s.cb.state = .open then s.episode + 1 else s.episode
  -- An execution admitted while the breaker is closed belongs to no episode.
  let tag := if cb'.state = .halfOpen then some episode else none
  { s with
    cb := cb'
    inflight := s.inflight ++ [tag]
    episode
    admitted := s.admitted ++ tag.toList }

def record (i : ℕ) (tag : Option ℕ) (ok : Bool) (now : Time) : Circuit := { s with
    cb := s.cb.recordResult ok now
    inflight := s.inflight.eraseIdx i
    returned := s.returned ++ (tag.map fun e => (e, ok)).toList }

def step : CircuitLabel → Option Circuit
  | .call now =>
    let r := s.cb.canExecute now
    -- A refused call returns an error at once, and records nothing.
    if r.1 then some (s.enter r.2) else some s
  | .record i ok now => (s.inflight[i]?).map fun tag => s.record i tag ok now
  | .reset => some { s with cb := s.cb.reset }

def start (config : CircuitBreakerConfig) : Circuit := { cb := newCircuitBreaker config }

def admittedIn (e : ℕ) : ℕ := s.admitted.count e

def succeededIn (e : ℕ) : ℕ := s.returned.count (e, true)

def inflightIn (e : ℕ) : ℕ := s.inflight.count (some e)

variable {s s' : Circuit} {l : CircuitLabel}

theorem step_cases (h : s.step l = some s') :
    (∃ now, l = .call now ∧ ((s.cb.canExecute now = (false, s.cb) ∧ s' = s) ∨
          ∃ cb', s.cb.canExecute now = (true, cb') ∧ s' = s.enter cb')) ∨
      (∃ i ok now tag, l = .record i ok now ∧ s.inflight[i]? = some tag ∧
      s' = s.record i tag ok now) ∨ (l = .reset ∧ s' = { s with cb := s.cb.reset }) := by
  cases l with
  | call now =>
    refine .inl ⟨now, rfl, ?_⟩
    unfold step at h
    dsimp only at h
    split at h
    · rename_i hadm
      exact .inr ⟨_, Prod.ext hadm rfl, (some.inj h).symm⟩
    · rename_i href
      have hpair : s.cb.canExecute now = (false, (s.cb.canExecute now).2) := Prod.ext (by simpa using href) rfl
      rw [canExecute_refused hpair] at hpair
      exact .inl ⟨hpair, (some.inj h).symm⟩
  | record i ok now =>
    obtain ⟨tag, htag, rfl⟩ := map_eq_some_iff.1 h
    exact .inr (.inl ⟨i, ok, now, tag, rfl, htag, rfl⟩)
  | reset => exact .inr (.inr ⟨rfl, (some.inj h).symm⟩)

/-! ## Episodes -/

/-- **What every run keeps.** -/
structure Sound (s : Circuit) : Prop where
  balance : ∀ e, s.admittedIn e = s.inflightIn e + s.returned.countP fun r => r.1 = e
  fresh : ∀ e, s.episode < e → s.admittedIn e = 0
  counted : s.cb.state = .halfOpen → s.admittedIn s.episode = 1 + s.cb.halfOpenCount.toNat
  within : s.cb.state = .halfOpen → s.cb.halfOpenCount ≤ s.cb.limits.halfOpenMax
  bound : ∀ e, s.admittedIn e ≤ 1 + s.cb.limits.halfOpenMax.toNat
  spotless : s.cb.state = .halfOpen → s.returned.count (s.episode, false) = 0
  /-- A result records while the budget is spent only to leave the half-open state, so the execution
  that spent it has not returned. -/
  waiting : s.cb.state = .halfOpen → s.cb.halfOpenCount = s.cb.limits.halfOpenMax → s.inflight ≠ []

theorem sound_start (config : CircuitBreakerConfig) : (start config).Sound where
  balance _ := rfl
  fresh _ _ := rfl
  counted h := by cases h
  within h := by cases h
  bound _ := Nat.zero_le _
  spotless h := by cases h
  waiting h := by cases h

variable {i : ℕ} {tag : Option ℕ} {now : Time} {config : CircuitBreakerConfig} {ls : List CircuitLabel}

theorem balance_record (h : s.inflight[i]? = some tag) (ok : Bool) (now : Time) (e : ℕ) :
    (s.record i tag ok now).inflightIn e + (s.record i tag ok now).returned.countP (fun r => r.1 = e) =
      s.inflightIn e + s.returned.countP fun r => r.1 = e := by
  obtain ⟨_, rfl⟩ := List.getElem?_eq_some_iff.1 h
  have hsplit : s.inflight = s.inflight.take i ++ s.inflight[i] :: s.inflight.drop (i + 1) := by
    rw [getElem_cons_drop, take_append_drop]
  have herase : s.inflight.eraseIdx i = s.inflight.take i ++ s.inflight.drop (i + 1) :=
    eraseIdx_eq_take_drop_succ _ _
  have hcnt : s.inflightIn e = (s.inflight.eraseIdx i).count (some e) + if s.inflight[i] = some e
      then 1 else 0 := by
    unfold inflightIn
    rw [herase]
    conv_lhs => rw [hsplit]
    rw [count_append, count_append, count_cons]
    simp only [beq_iff_eq]
    omega
  have hret : (s.record i s.inflight[i] ok now).returned.countP (fun r => r.1 = e) =
      (s.returned.countP fun r => r.1 = e) + if s.inflight[i] = some e then 1 else 0 := by
    show (s.returned ++ _).countP _ = _
    rw [countP_append]
    cases s.inflight[i] with
    | none => rfl
    | some e' => by_cases he : e' = e <;> simp [he]
  rw [hcnt, hret]
  show (s.inflight.eraseIdx i).count (some e) + _ = _
  omega

theorem Sound.record (hs : s.Sound)
    (htag : s.inflight[i]? = some tag) (ok : Bool) (now : Time) : (s.record i tag ok now).Sound where
  balance e := by
    rw [balance_record htag ok now e]
    exact hs.balance e
  fresh := hs.fresh
  counted h := by
    obtain ⟨hhalf, -, -, hsame⟩ := recordResult_halfOpen h
    show s.admittedIn s.episode = 1 + (s.cb.recordResult ok now).halfOpenCount.toNat
    rw [hsame]
    exact hs.counted hhalf
  within h := by
    obtain ⟨hhalf, -, -, hsame⟩ := recordResult_halfOpen h
    show (s.cb.recordResult ok now).halfOpenCount ≤ (s.cb.recordResult ok now).limits.halfOpenMax
    rw [hsame]
    exact hs.within hhalf
  bound e := by
    show _ ≤ 1 + (s.cb.recordResult ok now).limits.halfOpenMax.toNat
    rw [limits_recordResult]
    exact hs.bound e
  spotless h := by
    obtain ⟨hhalf, rfl, -, -⟩ := recordResult_halfOpen h
    show (s.returned ++ _).count (s.episode, false) = 0
    rw [count_append, hs.spotless hhalf]
    cases tag <;> simp
  waiting h hfull := absurd hfull (recordResult_unspent h)

theorem balance_enter (hs : s.Sound) (e e' : ℕ) :
    (s.admitted ++ [e']).count e = (s.inflight ++ [some e']).count
      (some e) + s.returned.countP fun r => r.1 = e := by
  have hbal := hs.balance e
  unfold admittedIn inflightIn at hbal
  by_cases he : e' = e <;> simp [he] <;> omega

theorem count_enter (admitted : List ℕ) (e e' : ℕ) :
    (admitted ++ [e']).count e = admitted.count e + if e' = e then 1 else 0 := by
  rw [count_append, count_singleton]
  simp only [beq_iff_eq]

theorem Sound.enter_closed (hs : s.Sound) (hcl : s.cb.state = .closed) : (s.enter s.cb).Sound := by
  have henter : s.enter s.cb = { s with inflight := s.inflight ++ [none] } := by
    simp [enter, hcl]
  rw [henter]
  refine ⟨fun e => ?_, hs.fresh, hs.counted, hs.within, hs.bound, hs.spotless, fun _ _ => by simp⟩
  simpa [admittedIn, inflightIn] using hs.balance e

theorem Sound.admit {e : ℕ} (hs : s.Sound) (cb : CircuitBreaker) (hlims : cb.limits = s.cb.limits)
    (he : s.episode ≤ e)
    (hcnt : s.admitted.count e = cb.halfOpenCount.toNat) (hmax : cb.halfOpenCount ≤ cb.limits.halfOpenMax)
    (hspotless : s.returned.count (e, false) = 0) :
    Sound { s with cb, inflight := s.inflight ++ [some e], episode := e, admitted := s.admitted ++ [e] } := by
  refine ⟨fun e' => balance_enter hs e' _, fun e' he' => ?_, fun _ => ?_, fun _ => hmax,
    fun e' => ?_, fun _ => hspotless,
    fun _ _ => by simp⟩
  · have hold : s.admitted.count e' = 0 := hs.fresh e' (he.trans_lt he')
    unfold admittedIn
    rw [count_enter, hold, if_neg (Nat.ne_of_lt he')]
  · unfold admittedIn
    rw [count_enter, hcnt, if_pos rfl, Nat.add_comm]
  · have hold : s.admitted.count e' ≤ 1 + cb.limits.halfOpenMax.toNat := hlims ▸ hs.bound e'
    unfold admittedIn
    rw [count_enter]
    by_cases hsame : e = e'
    · subst hsame
      rw [hcnt, if_pos rfl, Nat.add_comm]
      exact Nat.add_le_add_left (UInt32.le_iff_toNat_le.1 hmax) 1
    · rw [if_neg hsame]
      exact hold

theorem Sound.enter_open (hs : s.Sound) (hopen : s.cb.state = .open) :
    (s.enter { s.cb with state := .halfOpen, halfOpenCount := 0 }).Sound := by
  have hfresh : s.admitted.count (s.episode + 1) = 0 := hs.fresh _ (Nat.lt_succ_self _)
  have hret : s.returned.countP (fun r => r.1 = s.episode + 1) = 0 := by
    have hbal := hs.balance (s.episode + 1)
    unfold admittedIn at hbal
    omega
  -- who has failed in the new episode has returned from it
  have hspotless : s.returned.count (s.episode + 1, false) = 0 := by
    refine Nat.le_zero.mp (le_trans ?_ hret.le)
    rw [count_eq_countP]
    exact countP_mono_left fun r _ _ => by simp_all
  have hadm := hs.admit { s.cb with state := .halfOpen, halfOpenCount := 0 } rfl
    (Nat.le_succ _) hfresh UInt32.zero_le hspotless
  simpa [enter, hopen] using hadm

theorem Sound.enter_halfOpen (hs : s.Sound) (hhalf : s.cb.state = .halfOpen)
    (hlt : s.cb.halfOpenCount < s.cb.limits.halfOpenMax) :
    (s.enter { s.cb with halfOpenCount := s.cb.halfOpenCount + 1 }).Sound := by
  have hsucc := toNat_succ_of_lt hlt
  have hcnt : s.admitted.count s.episode = 1 + s.cb.halfOpenCount.toNat := hs.counted hhalf
  have hadm := hs.admit { s.cb with halfOpenCount := s.cb.halfOpenCount + 1 } rfl le_rfl
    (by rw [hcnt, hsucc, Nat.add_comm])
      (UInt32.le_iff_toNat_le.2 (hsucc ▸ UInt32.lt_iff_toNat_lt.1 hlt)) (hs.spotless hhalf)
  simpa [enter, hhalf] using hadm

theorem Sound.enter (hs : s.Sound) {cb' : CircuitBreaker} (h : s.cb.canExecute now = (true, cb')) :
    (s.enter cb').Sound := by
  rcases canExecute_cases h with ⟨hcl, rfl⟩ | ⟨hopen, rfl⟩ | ⟨hhalf, hlt, rfl⟩
  · exact hs.enter_closed hcl
  · exact hs.enter_open hopen
  · exact hs.enter_halfOpen hhalf hlt

theorem Sound.step (hs : s.Sound) (h : s.step l = some s') : s'.Sound := by
  rcases step_cases h with ⟨now, rfl, ⟨-, rfl⟩ | ⟨_, hcan, rfl⟩⟩ | ⟨i, ok, now, _, rfl, htag, rfl⟩ |
    ⟨rfl, rfl⟩
  · exact hs
  · exact hs.enter hcan
  · exact hs.record htag ok now
  · -- a reset ends the episode
    refine ⟨hs.balance, hs.fresh, ?_, ?_, hs.bound, ?_, ?_⟩
    all_goals
      intro hhalf
      cases hhalf

theorem Sound.run (h : Run.exec Circuit.step (start config) ls = some s) : s.Sound :=
  Run.exec_invariant (fun _ _ _ hs hstep => hs.step hstep) (sound_start config) h

theorem limits_run (h : Run.exec step (start config) ls = some s) : s.cb.limits = config.limits := by
  refine Run.exec_invariant (I := fun s => s.cb.limits = config.limits) ?_ rfl h
  intro s l _ hs hstep
  rcases step_cases hstep with ⟨now, rfl, ⟨-, rfl⟩ | ⟨_, hcan, rfl⟩⟩ |
    ⟨i, ok, now, tag, rfl, -, rfl⟩ | ⟨rfl, rfl⟩
  · exact hs
  · have hlims := s.cb.limits_canExecute now
    rw [hcan] at hlims
    exact hlims.trans hs
  · exact (s.cb.limits_recordResult ok now).trans hs
  · exact hs

/-- **An episode admits its probe and at most `halfOpenMax` executions after it**: the admission
that makes the breaker half-open is not counted by it, each later one is. -/
theorem admitted_le (config : CircuitBreakerConfig) (ls : List CircuitLabel) (s : Circuit)
    (h : Run.exec Circuit.step (start config) ls = some s) :
    (∀ e, s.admittedIn e ≤ 1 + config.limits.halfOpenMax.toNat) ∧
      (s.cb.state = .halfOpen → s.admittedIn s.episode = 1 + s.cb.halfOpenCount.toNat) := by
  have hs := Sound.run h
  refine ⟨fun e => ?_, hs.counted⟩
  rw [← limits_run h]
  exact hs.bound e

def sampleConfig : CircuitBreakerConfig where
  maxFailures := 1
  resetTimeout := 10
  halfOpenMax := 1

def sampleProbe : List CircuitLabel := [.call 0, .record 0 false 0, .call 10]

theorem admitted_le_sample : ∃ s, Run.exec step (start sampleConfig) sampleProbe = some s ∧
      (∀ e, s.admittedIn e ≤ 1 + sampleConfig.limits.halfOpenMax.toNat) ∧
      (s.cb.state = .halfOpen → s.admittedIn s.episode = 1 + s.cb.halfOpenCount.toNat) :=
  ⟨_, rfl, admitted_le sampleConfig sampleProbe _ rfl⟩

/-- Two executions in one episode of a breaker that is to let one in. -/
theorem probe_not_counted : ∃ s, Run.exec step (start sampleConfig) (sampleProbe ++ [.call 11]) = some s ∧
      s.cb.state = .halfOpen ∧ s.admittedIn s.episode = 2 ∧
      ¬ s.admittedIn s.episode ≤ sampleConfig.limits.halfOpenMax.toNat := ⟨_, rfl, rfl, rfl, by decide⟩

/-! ## Probes on their own -/

/-- **The last admission is exclusive**: the call that spends the budget of the episode finds no
execution in flight. -/
def Exclusive (s : Circuit) : CircuitLabel → Prop
  | .call _ => s.cb.state = .halfOpen →
    s.cb.halfOpenCount.toNat + 1 = s.cb.limits.halfOpenMax.toNat → s.inflight = []
  | .record _ _ _ => True
  | .reset => True

instance (s : Circuit) (l : CircuitLabel) : Decidable (s.Exclusive l) := by
  unfold Exclusive
  split <;> infer_instance

def Alone (s : Circuit) : Prop := s.cb.state = .halfOpen →
    s.cb.halfOpenCount = s.cb.limits.halfOpenMax → s.inflight = [some s.episode]

theorem Alone.step (hs : s.Alone) (hl : s.Exclusive l) (h : s.step l = some s') : s'.Alone := by
  rcases step_cases h with ⟨now, rfl, ⟨-, rfl⟩ | ⟨_, hcan, rfl⟩⟩ |
    ⟨i, ok, now, tag, rfl, htag, rfl⟩ | ⟨rfl, rfl⟩
  · exact hs
  · intro hhalf hfull
    rcases canExecute_cases hcan with ⟨hcl, rfl⟩ | ⟨_, rfl⟩ | ⟨hhalf', hlt, rfl⟩
    · exact absurd (hcl.symm.trans hhalf) (by decide)
    · -- a new episode has nothing of its budget spent
      have hpos := s.cb.limits.halfOpenMax_pos
      change 0 = s.cb.limits.halfOpenMax at hfull
      rw [← hfull] at hpos
      exact absurd hpos (UInt32.lt_irrefl _)
    · change s.cb.halfOpenCount + 1 = s.cb.limits.halfOpenMax at hfull
      have hlast : s.cb.halfOpenCount.toNat + 1 = s.cb.limits.halfOpenMax.toNat := by
        rw [← toNat_succ_of_lt hlt, hfull]
      simp [enter, hl hhalf' hlast, hhalf']
  · intro hhalf hfull
    exact absurd hfull (recordResult_unspent hhalf)
  · intro hhalf
    cases hhalf

theorem countP_returned (returned : List (ℕ × Bool)) (e : ℕ) :
    returned.countP (fun r => r.1 = e) = returned.count (e, true) + returned.count (e, false) := by
  induction returned with
  | nil => rfl
  | cons r _ ih =>
    obtain ⟨e', ok⟩ := r
    rw [countP_cons, count_cons, count_cons, ih]
    by_cases he : e' = e <;> cases ok <;> simp [he] <;> omega

theorem Sound.succeededIn_add_inflightIn_le (hs : s.Sound) (e : ℕ) :
    s.succeededIn e + s.inflightIn e ≤ s.admittedIn e := by
  have hbal := hs.balance e
  have hsplit := countP_returned s.returned e
  unfold succeededIn
  omega

theorem Alone.closes (hs : s.Sound) (halone : s.Alone) (h : s.step l = some s') (hl : l ≠ .reset)
    (hhalf : s.cb.state = .halfOpen) (hcl : s'.cb.state = .closed) :
    s.cb.limits.halfOpenMax.toNat ≤ s'.succeededIn s.episode ∧
      s'.succeededIn s.episode = s'.admittedIn s.episode := by
  rcases step_cases h with ⟨now, rfl, ⟨-, rfl⟩ | ⟨_, hcan, rfl⟩⟩ |
    ⟨i, ok, now, tag, rfl, htag, rfl⟩ | ⟨rfl, rfl⟩
  · exact absurd (hhalf.symm.trans hcl) (by decide)
  · rcases canExecute_cases hcan with ⟨hst, rfl⟩ | ⟨hst, rfl⟩ | ⟨-, -, rfl⟩
    · exact absurd (hst.symm.trans hhalf) (by decide)
    · exact absurd (hst.symm.trans hhalf) (by decide)
    · exact absurd (hhalf.symm.trans hcl) (by decide)
  · obtain ⟨rfl, hspent⟩ := recordResult_closes hhalf hcl
    have hfull : s.cb.halfOpenCount = s.cb.limits.halfOpenMax := UInt32.le_antisymm (hs.within hhalf) hspent
    have hflight := halone hhalf hfull
    obtain ⟨rfl, rfl⟩ : i = 0 ∧ some s.episode = tag := by
      rw [hflight] at htag
      cases i with
      | zero => exact ⟨rfl, some.inj htag⟩
      | succ => cases htag
    -- nothing of the episode is left in flight, and none of it has failed
    have hsound := hs.record htag true now
    have hnone : (s.record 0 (some s.episode) true now).inflightIn s.episode = 0 := by
      simp [inflightIn, record, hflight]
    have hclean : (s.record 0 (some s.episode) true now).returned.count (s.episode, false) = 0 := by
      have hold := hs.spotless hhalf
      simp [record, hold]
    have hbal := hsound.balance s.episode
    have hsplit := countP_returned (s.record 0 (some s.episode) true now).returned s.episode
    have hcnt := hs.counted hhalf
    have hadm : (s.record 0 (some s.episode) true now).admittedIn s.episode = s.admittedIn s.episode := rfl
    have hspent' := UInt32.le_iff_toNat_le.1 hspent
    unfold succeededIn
    omega
  · exact absurd rfl hl

theorem Sound.closes_early (hs : s.Sound) (h : ¬ s.Exclusive (.call now)) :
    ∃ s', Run.exec Circuit.step s [.call now, .record 0 true now] = some s' ∧
      s'.cb.state = .closed ∧ s'.succeededIn s.episode < s'.admittedIn s.episode := by
  simp only [Exclusive, Classical.not_imp] at h
  obtain ⟨hhalf, hlast, hbusy⟩ := h
  obtain ⟨tag, _, hflight⟩ := exists_cons_of_ne_nil hbusy
  have hlt : s.cb.halfOpenCount < s.cb.limits.halfOpenMax := by
    rw [UInt32.lt_iff_toNat_lt]
    omega
  have hfull : s.cb.halfOpenCount + 1 = s.cb.limits.halfOpenMax := by
    rw [← UInt32.toNat_inj, toNat_succ_of_lt hlt, hlast]
  let cb' := { s.cb with halfOpenCount := s.cb.halfOpenCount + 1 }
  have hcall : s.step (.call now) = some (s.enter cb') := by
    simp [Circuit.step, canExecute, hhalf, hlt, cb']
  have hreturn : (s.enter cb').step (.record 0 true now) = some ((s.enter cb').record 0 tag true now) := by
    simp [Circuit.step, Circuit.enter, hflight]
  refine ⟨(s.enter cb').record 0 tag true now, ?_, ?_, ?_⟩
  · simp only [Run.exec, hcall, hreturn, bind_some]
  · simp [Circuit.record, Circuit.enter, cb', recordResult, onSuccess, hhalf, hfull]
  · have hsound := (hs.step hcall).step hreturn
    have hle := hsound.succeededIn_add_inflightIn_le s.episode
    have hflying : 0 < ((s.enter cb').record 0 tag true now).inflightIn s.episode := by
      simp [inflightIn, Circuit.record, Circuit.enter, cb', hflight, hhalf]
    omega

/-- **When the breaker closes on evidence.** -/
theorem closes_on_evidence (config : CircuitBreakerConfig) (ls : List CircuitLabel) (s : Circuit)
    (h : Run.exec Circuit.step (start config) ls = some s) : (Run.Meets Circuit.step Exclusive (start config) ls →
      ∀ l s', s.step l = some s' → l ≠ .reset → s.cb.state = .halfOpen → s'.cb.state = .closed →
        config.limits.halfOpenMax.toNat ≤ s'.succeededIn s.episode ∧
          s'.succeededIn s.episode = s'.admittedIn s.episode) ∧
      ∀ now, ¬ s.Exclusive (.call now) → ∃ s', Run.exec Circuit.step s [.call now, .record 0 true now] = some s' ∧
          s'.cb.state = .closed ∧ s'.succeededIn s.episode < s'.admittedIn s.episode := by
  have hs := Sound.run h
  refine ⟨fun hexclusive l s' hstep hl hhalf hcl => ?_, fun now hsh => hs.closes_early hsh⟩
  have halone : s.Alone := Run.exec_invariant_of_meets (fun _ _ _ hs hl hstep => .step hs hl hstep)
      (fun hhalf => by cases hhalf) hexclusive h
  rw [← limits_run h]
  exact halone.closes hs hstep hl hhalf hcl

theorem closes_on_evidence_sample : ∃ s s', Run.exec step (start sampleConfig)
        (sampleProbe ++ [.record 0 true 11, .call 12]) = some s ∧
      s.step (.record 0 true 13) = some s' ∧ s'.cb.state = .closed ∧
      sampleConfig.limits.halfOpenMax.toNat ≤ s'.succeededIn s.episode ∧
      s'.succeededIn s.episode = s'.admittedIn s.episode := by
  have hmeets : Run.Meets step Exclusive (start sampleConfig)
      (sampleProbe ++ [.record 0 true 11, .call 12]) := by decide +kernel
  refine ⟨_, _, rfl, rfl, rfl, ?_⟩
  exact (closes_on_evidence sampleConfig _ _ rfl).1 hmeets (.record 0 true 13) _ rfl nofun rfl rfl

/-- The probe is in flight when the second admission spends the budget; the second succeeds, and the
breaker is closed while the probe still runs. -/
theorem closes_beside_probe : ∃ s s', Run.exec step (start sampleConfig) (sampleProbe ++ [.call 11]) = some s ∧
      s.step (.record 1 true 12) = some s' ∧ s.cb.state = .halfOpen ∧ s'.cb.state = .closed ∧
      s'.inflightIn s.episode = 1 ∧ s'.succeededIn s.episode < s'.admittedIn s.episode :=
  ⟨_, _, rfl, rfl, rfl, rfl, rfl, by decide⟩

/-- **A half-open breaker is not locked out**: with its budget spent, an execution is in flight, and
the result of any execution in flight decides the state. -/
theorem never_locked_out (config : CircuitBreakerConfig) (ls : List CircuitLabel) (s : Circuit)
    (h : Run.exec Circuit.step (start config) ls = some s) (hhalf : s.cb.state = .halfOpen)
    (hfull : s.cb.halfOpenCount = s.cb.limits.halfOpenMax) :
    0 < s.inflight.length ∧ ∀ i < s.inflight.length, ∀ ok now,
        ∃ s', s.step (.record i ok now) = some s' ∧ s'.cb.state ≠ .halfOpen := by
  refine ⟨length_pos_of_ne_nil ((Sound.run h).waiting hhalf hfull), fun i hi ok now => ?_⟩
  have htag : s.inflight[i]? = some s.inflight[i] := getElem?_eq_getElem hi
  refine ⟨s.record i s.inflight[i] ok now, by simp [Circuit.step, htag], ?_⟩
  exact recordResult_decides hfull

theorem never_locked_out_sample : ∃ s, Run.exec step (start sampleConfig) (sampleProbe ++ [.call 11]) = some s ∧
      s.cb.halfOpenCount = s.cb.limits.halfOpenMax ∧ 0 < s.inflight.length ∧ ∀ i < s.inflight.length, ∀ ok now,
        ∃ s', s.step (.record i ok now) = some s' ∧ s'.cb.state ≠ .halfOpen :=
  ⟨_, rfl, rfl, never_locked_out sampleConfig (sampleProbe ++ [.call 11]) _ rfl rfl rfl⟩

/-! ## When a probe is let through -/

/-- The time of the last recorded failure. -/
def lastFailure : List CircuitLabel → Time := foldl (fun t l => match l with
  | .record _ false now => now
  | .call _ | .record _ true _ | .reset => t) 0

theorem lastFailTime_run (h : Run.exec step (start config) ls = some s) : s.cb.lastFailTime = lastFailure ls := by
  induction ls using reverseRecOn generalizing s with
  | nil =>
    cases h
    rfl
  | append_singleton ls l ih =>
    obtain ⟨t, ht, hstep⟩ := Run.exec_concat_eq_some.1 h
    rw [lastFailure, foldl_append, ← lastFailure, ← ih ht]
    rcases step_cases hstep with ⟨now, rfl, ⟨-, rfl⟩ | ⟨cb', hcan, rfl⟩⟩ |
      ⟨i, ok, now, tag, rfl, -, rfl⟩ | ⟨rfl, rfl⟩
    · rfl
    · rcases canExecute_cases hcan with ⟨-, rfl⟩ | ⟨-, rfl⟩ | ⟨-, -, rfl⟩ <;> rfl
    · cases ok <;> grind [record, recordResult, onSuccess, onFailure]
    · rfl

/-- **An open breaker probes when its time has come**: it lets a call in exactly if `resetTimeout`
has passed since the last recorded failure. -/
theorem probes_iff (config : CircuitBreakerConfig) (ls : List CircuitLabel) (s : Circuit)
    (h : Run.exec step (start config) ls = some s) (hopen : s.cb.state = .open) (now : Time) :
    (s.cb.canExecute now).1 = true ↔ config.limits.resetTimeout ≤ now - lastFailure ls := by
  rw [← lastFailTime_run h, ← limits_run h]
  unfold canExecute
  rw [hopen]
  split_ifs with hdue <;> simp [hdue]

theorem probes_after_late_failure : ∃ s, Run.exec step (start sampleConfig)
      [.call 0, .call 0, .record 0 false 0, .record 0 false 5] = some s ∧
    ((s.cb.canExecute 12).1 = true ↔ sampleConfig.limits.resetTimeout ≤ 12 - 5) :=
  ⟨_, rfl, probes_iff sampleConfig [.call 0, .call 0, .record 0 false 0, .record 0 false 5] _ rfl rfl 12⟩

end Circuit

end Ocelot.Tracker
