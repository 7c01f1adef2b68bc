/-
# The breaker in front of the database (`tracker/circuit_breaker.go`).
-/
import Ocelot.Tracker.Types

namespace Ocelot.Tracker

inductive CircuitState where
  | closed
  | open
  | halfOpen
  deriving DecidableEq

structure CircuitBreakerConfig where
  maxFailures : UInt32
  resetTimeout : Int
  halfOpenMax : UInt32

structure BreakerLimits where
  maxFailures : UInt32
  resetTimeout : Int
  halfOpenMax : UInt32
  maxFailures_pos : 0 < maxFailures
  halfOpenMax_pos : 0 < halfOpenMax

def orDefault (x default : UInt32) : UInt32 := if x = 0 then default else x

theorem orDefault_pos {x default : UInt32} (h : 0 < default) : 0 < orDefault x default := by
  unfold orDefault
  split
  · exact h
  · rename_i hx
    exact UInt32.pos_iff_ne_zero.mpr hx

def CircuitBreakerConfig.limits (config : CircuitBreakerConfig) : BreakerLimits where
  maxFailures := orDefault config.maxFailures 5
  resetTimeout := if config.resetTimeout = 0 then 30 * 1000000000 else config.resetTimeout
  halfOpenMax := orDefault config.halfOpenMax 3
  maxFailures_pos := orDefault_pos (by decide)
  halfOpenMax_pos := orDefault_pos (by decide)

structure CircuitBreaker where
  limits : BreakerLimits
  state : CircuitState := .closed
  failures : UInt32 := 0
  lastFailTime : Time := 0
  halfOpenCount : UInt32 := 0

def newCircuitBreaker (config : CircuitBreakerConfig) : CircuitBreaker := { limits := config.limits }

theorem toNat_succ_of_lt {a b : UInt32} (h : a < b) : (a + 1).toNat = a.toNat + 1 := by
  have hlt := UInt32.lt_iff_toNat_lt.1 h
  have hb := b.toNat_lt
  rw [UInt32.toNat_add]
  simp only [UInt32.toNat_one]
  omega

namespace CircuitBreaker

variable (cb : CircuitBreaker)

def canExecute (now : Time) : Bool × CircuitBreaker :=
  match cb.state with
  | .closed => (true, cb)
  | .open =>
    if cb.limits.resetTimeout ≤ now - cb.lastFailTime then
      -- The probe: admitted, and not counted.
      (true, { cb with state := .halfOpen, halfOpenCount := 0 })
    else (false, cb)
  | .halfOpen =>
    if cb.halfOpenCount < cb.limits.halfOpenMax then
      (true, { cb with halfOpenCount := cb.halfOpenCount + 1 })
    else (false, cb)

def onSuccess : CircuitBreaker :=
  match cb.state with
  | .closed => { cb with failures := 0 }
  | .open => cb
  | .halfOpen =>
    -- Compared is how many were admitted, not how many have succeeded.
    if cb.limits.halfOpenMax ≤ cb.halfOpenCount then
      { cb with state := .closed, failures := 0, halfOpenCount := 0 }
    else cb

def onFailure (now : Time) : CircuitBreaker :=
  let cb' := { cb with failures := cb.failures + 1, lastFailTime := now }
  match cb.state with
  | .closed => if cb.limits.maxFailures ≤ cb.failures + 1 then { cb' with state := .open } else cb'
  -- A late failure: it puts off the next probe.
  | .open => cb'
  | .halfOpen => { cb' with state := .open, halfOpenCount := 0 }

def recordResult (ok : Bool) (now : Time) : CircuitBreaker :=
  if ok then cb.onSuccess else cb.onFailure now

def reset : CircuitBreaker := { cb with state := .closed, failures := 0, halfOpenCount := 0 }

variable {cb : CircuitBreaker}

@[simp] theorem limits_canExecute (now : Time) : (cb.canExecute now).2.limits = cb.limits := by
  unfold canExecute
  split
  · rfl
  · split <;> rfl
  · split <;> rfl

@[simp] theorem limits_recordResult (ok : Bool) (now : Time) : (cb.recordResult ok now).limits = cb.limits := by
  unfold recordResult onSuccess onFailure
  split
  · split
    · rfl
    · rfl
    · split <;> rfl
  · split
    · split <;> rfl
    · rfl
    · rfl

variable {now : Time} {ok : Bool}

theorem canExecute_cases {cb' : CircuitBreaker} (h : cb.canExecute now = (true, cb')) :
    (cb.state = .closed ∧ cb' = cb) ∨
      (cb.state = .open ∧ cb' = { cb with state := .halfOpen, halfOpenCount := 0 }) ∨
      (cb.state = .halfOpen ∧ cb.halfOpenCount < cb.limits.halfOpenMax ∧
        cb' = { cb with halfOpenCount := cb.halfOpenCount + 1 }) := by
  unfold canExecute at h
  split at h
  · rename_i hs
    exact .inl ⟨hs, (congrArg Prod.snd h).symm⟩
  · rename_i hs
    split at h
    · exact .inr (.inl ⟨hs, (congrArg Prod.snd h).symm⟩)
    · cases h
  · rename_i hs
    split at h
    · rename_i hlt
      exact .inr (.inr ⟨hs, hlt, (congrArg Prod.snd h).symm⟩)
    · cases h

theorem canExecute_refused {cb' : CircuitBreaker} (h : cb.canExecute now = (false, cb')) : cb' = cb := by
  unfold canExecute at h
  split at h
  · cases h
  · split at h
    · cases h
    · exact (congrArg Prod.snd h).symm
  · split at h
    · cases h
    · exact (congrArg Prod.snd h).symm

theorem recordResult_halfOpen (h : (cb.recordResult ok now).state = .halfOpen) :
    cb.state = .halfOpen ∧ ok = true ∧ cb.halfOpenCount < cb.limits.halfOpenMax ∧ cb.recordResult ok now = cb := by
  unfold recordResult onSuccess onFailure at h ⊢
  cases ok with
  | true =>
    simp only [if_true] at h ⊢
    cases hs : cb.state with
    | closed | «open» => simp [hs] at h
    | halfOpen =>
      simp only [hs] at h ⊢
      split at h
      · simp at h
      · rename_i hlt
        rw [if_neg hlt]
        exact ⟨trivial, trivial, by simpa using hlt, rfl⟩
  | false =>
    simp only [Bool.false_eq_true, if_false] at h
    cases hs : cb.state with
    | closed =>
      simp only [hs] at h
      split at h <;> simp at h
    | «open» | halfOpen => simp [hs] at h

theorem recordResult_unspent (h : (cb.recordResult ok now).state = .halfOpen) :
    (cb.recordResult ok now).halfOpenCount ≠ (cb.recordResult ok now).limits.halfOpenMax := by
  obtain ⟨-, -, hlt, hsame⟩ := recordResult_halfOpen h
  intro hfull
  rw [hsame] at hfull
  rw [hfull] at hlt
  exact absurd hlt (UInt32.lt_irrefl _)

theorem recordResult_closes (hs : cb.state = .halfOpen) (h : (cb.recordResult ok now).state = .closed) :
    ok = true ∧ cb.limits.halfOpenMax ≤ cb.halfOpenCount := by
  unfold recordResult onSuccess onFailure at h
  cases ok with
  | true =>
    simp only [if_true, hs] at h
    split at h
    · exact ⟨rfl, by assumption⟩
    · exact absurd (hs.symm.trans h) (by decide)
  | false => simp [hs] at h

theorem recordResult_decides (h : cb.halfOpenCount = cb.limits.halfOpenMax) :
    (cb.recordResult ok now).state ≠ .halfOpen := by
  intro hs
  obtain ⟨-, -, hlt, -⟩ := recordResult_halfOpen hs
  rw [h] at hlt
  exact absurd hlt (UInt32.lt_irrefl _)

theorem canExecute_closed (h : (cb.canExecute now).2.state = .closed) : (cb.canExecute now).2 = cb := by
  rcases hcan : cb.canExecute now with ⟨admitted, _⟩
  rw [hcan] at h
  cases admitted with
  | false => exact canExecute_refused hcan
  | true =>
    rcases canExecute_cases hcan with ⟨-, rfl⟩ | ⟨-, rfl⟩ | ⟨hhalf, -, rfl⟩
    · rfl
    · cases h
    · exact absurd (hhalf.symm.trans h) (by decide)

theorem failures_of_success (h : (cb.recordResult true now).state = .closed) :
    (cb.recordResult true now).failures = 0 := by
  simp only [recordResult, if_true, onSuccess] at h ⊢
  split at h
  · rfl
  · rename_i hopen
    exact absurd (hopen.symm.trans h) (by decide)
  · rename_i hhalf
    split at h
    · rename_i hspent
      rw [if_pos hspent]
    · exact absurd (hhalf.symm.trans h) (by decide)

theorem failures_of_failure (h : (cb.recordResult false now).state = .closed) :
    cb.state = .closed ∧ (cb.recordResult false now).failures = cb.failures + 1 ∧
      cb.failures + 1 < cb.limits.maxFailures := by
  simp only [recordResult, Bool.false_eq_true, if_false, onFailure] at h ⊢
  split at h
  · rename_i hcl
    split at h
    · cases h
    · rename_i hlt
      rw [if_neg hlt]
      exact ⟨hcl, rfl, UInt32.not_le.1 hlt⟩
  · rename_i hopen
    exact absurd (hopen.symm.trans h) (by decide)
  · cases h

def Steady (cb : CircuitBreaker) : Prop :=
  match cb.state with
  | .closed => cb.failures = 0
  | .open => True
  | .halfOpen => cb.halfOpenCount < cb.limits.halfOpenMax

instance (cb : CircuitBreaker) : Decidable cb.Steady := by
  unfold Steady
  split <;> infer_instance

theorem Steady.recordResult (h : cb.Steady) (now : Time) : cb.recordResult true now = cb := by
  obtain ⟨limits, state, failures, _, halfOpenCount⟩ := cb
  cases state with
  | closed =>
    change failures = 0 at h
    rw [h]
    rfl
  | «open» => rfl
  | halfOpen =>
    change halfOpenCount < limits.halfOpenMax at h
    simp [CircuitBreaker.recordResult, onSuccess, UInt32.not_le.2 h]

end CircuitBreaker

end Ocelot.Tracker
