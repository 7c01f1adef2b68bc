/-
# How many replicas an artifact should have (`tracker/replication_policy.go`).
-/
import Ocelot.Lib.Float64
import Mathlib.Data.List.Induction

namespace Ocelot.Tracker

open List

structure ReplicationConfig (F : Type) where
  emaAlpha : F
  scaleDownThreshold : ℤ
  deriving DecidableEq

def defaultReplicationConfig {F : Type} [Float64 F] : ReplicationConfig F where
  emaAlpha := Float64.const (3 / 10)
  scaleDownThreshold := 3

structure PopularityReplicaCounter (F : Type) where
  smoothed : F
  currentDesired : ℤ
  belowCount : ℤ
  cfg : ReplicationConfig F
  deriving DecidableEq

namespace PopularityReplicaCounter

variable {F : Type} [Float64 F]

def new (cfg : ReplicationConfig F) : PopularityReplicaCounter F where
  smoothed := Float64.ofInt 0
  currentDesired := 0
  belowCount := 0
  cfg := cfg

variable (p : PopularityReplicaCounter F)

def ema (d24h : F) : F :=
  p.cfg.emaAlpha * d24h + (Float64.const 1 - p.cfg.emaAlpha) * p.smoothed

def rawDesired (smoothed : F) (minReplicas maxReplicas : ℤ) : ℤ :=
  let desired := minReplicas + Float64.ceilLog2 (Float64.const 1 + smoothed)
  let desired := if maxReplicas < desired then maxReplicas else desired
  if desired < minReplicas then minReplicas else desired

def evaluate (d24h : F) (minReplicas maxReplicas : ℤ) : PopularityReplicaCounter F × ℤ :=
  let p := { p with smoothed := p.ema d24h }
  let desired := rawDesired p.smoothed minReplicas maxReplicas
  let p :=
    if desired < p.currentDesired then
      let p := { p with belowCount := p.belowCount + 1 }
      if p.cfg.scaleDownThreshold ≤ p.belowCount then { p with currentDesired := desired, belowCount := 0 } else p
    else { p with currentDesired := desired, belowCount := 0 }
  (p, p.currentDesired)

/-- The arguments of an `Evaluate` call. -/
structure Evaluation (F : Type) where
  d24h : F
  minReplicas : ℤ
  maxReplicas : ℤ

variable (q : Evaluation F)

def desired : ℤ := rawDesired (p.ema q.d24h) q.minReplicas q.maxReplicas

def call : PopularityReplicaCounter F × ℤ :=
  p.evaluate q.d24h q.minReplicas q.maxReplicas

def run (cfg : ReplicationConfig F) (qs : List (Evaluation F)) : PopularityReplicaCounter F :=
  qs.foldl (fun p q => (p.call q).1) (new cfg)

/-- A lower count that is not taken over yet. -/
def HoldsBack : Prop :=
  p.desired q < p.currentDesired ∧ p.belowCount + 1 < p.cfg.scaleDownThreshold

/-- Each call computes a count below the current one. -/
def Waits : PopularityReplicaCounter F → List (Evaluation F) → Prop
  | _, [] => True
  | p, q :: qs => p.desired q < p.currentDesired ∧ (p.call q).1.Waits qs

variable (p : PopularityReplicaCounter F) (q : Evaluation F)

theorem call_cases : (p.call q).1.cfg = p.cfg ∧ (p.call q).2 = (p.call q).1.currentDesired ∧
    (p.HoldsBack q ∧ (p.call q).2 = p.currentDesired ∧ (p.call q).1.belowCount = p.belowCount + 1 ∨
      ¬ p.HoldsBack q ∧ (p.call q).2 = p.desired q ∧ (p.call q).1.belowCount = 0) := by
  unfold HoldsBack desired call evaluate
  dsimp only
  split_ifs with hlower hthres
  · exact ⟨rfl, rfl, .inr ⟨fun h => absurd h.2 (not_lt.2 hthres), rfl, rfl⟩⟩
  · exact ⟨rfl, rfl, .inl ⟨⟨hlower, not_le.1 hthres⟩, rfl, rfl⟩⟩
  · exact ⟨rfl, rfl, .inr ⟨fun h => hlower h.1, rfl, rfl⟩⟩

theorem desired_bounds (hq : q.minReplicas ≤ q.maxReplicas) :
    q.minReplicas ≤ p.desired q ∧ p.desired q ≤ q.maxReplicas := by
  unfold desired rawDesired
  dsimp only
  split_ifs <;> omega

theorem Waits.append {p : PopularityReplicaCounter F} {qs : List (Evaluation F)} (h : p.Waits qs)
    (hq : (qs.foldl (fun p q => (p.call q).1) p).desired q <
      (qs.foldl (fun p q => (p.call q).1) p).currentDesired) :
    p.Waits (qs ++ [q]) := by
  induction qs generalizing p with
  | nil => exact ⟨hq, trivial⟩
  | cons _ _ ih => exact ⟨h.1, ih h.2 hq⟩

theorem run_waits (cfg : ReplicationConfig F) (qs : List (Evaluation F)) : (run cfg qs).cfg = cfg ∧
    ∃ pre recent, qs = pre ++ recent ∧ (run cfg qs).belowCount = recent.length ∧ (run cfg pre).Waits recent := by
  induction qs using reverseRecOn with
  | nil => exact ⟨rfl, [], [], rfl, rfl, trivial⟩
  | append_singleton _ q ih =>
    obtain ⟨hcfg, pre, recent, rfl, hcnt, hwaits⟩ := ih
    have hrun : run cfg (pre ++ recent ++ [q]) = ((run cfg (pre ++ recent)).call q).1 := foldl_concat ..
    obtain ⟨hkeep, -, ⟨hholds, -, hbelow⟩ | ⟨-, -, hbelow⟩⟩ := call_cases (run cfg (pre ++ recent)) q
    · refine ⟨by rw [hrun, hkeep, hcfg], pre, recent ++ [q], append_assoc .., ?_, ?_⟩
      · rw [hrun, hbelow, hcnt, length_append]
        rfl
      · refine hwaits.append q ?_
        rw [run, ← foldl_append]
        exact hholds.1
    · exact ⟨by rw [hrun, hkeep, hcfg], _, [], (append_nil _).symm, by rw [hrun, hbelow]; rfl, trivial⟩

/-- **Bounds and patience of the counter.** -/
theorem call_within_iff (cfg : ReplicationConfig F) (qs : List (Evaluation F)) (q : Evaluation F)
    (hq : q.minReplicas ≤ q.maxReplicas) :
    ((q.minReplicas ≤ ((run cfg qs).call q).2 ∧ ((run cfg qs).call q).2 ≤ q.maxReplicas) ↔
      ((run cfg qs).HoldsBack q → (run cfg qs).currentDesired ≤ q.maxReplicas)) ∧
    (((run cfg qs).call q).2 < (run cfg qs).currentDesired → ∃ before recent, qs = before ++ recent ∧
      cfg.scaleDownThreshold ≤ recent.length + 1 ∧ (run cfg before).Waits (recent ++ [q])) := by
  obtain ⟨hcfg, before, recent, hqs, hcnt, hwaits⟩ := run_waits cfg qs
  have hbounds := desired_bounds (run cfg qs) q hq
  obtain ⟨-, -, ⟨hholds, hsame, -⟩ | ⟨hfree, hnew, -⟩⟩ := call_cases (run cfg qs) q
  · rw [hsame]
    exact ⟨⟨fun h _ => h.2, fun h => ⟨hbounds.1.trans hholds.1.le, h hholds⟩⟩, fun h => absurd h (lt_irrefl _)⟩
  · rw [hnew]
    refine ⟨⟨fun _ h => absurd h hfree, fun _ => hbounds⟩,
      fun hlower => ⟨before, recent, hqs, ?_, hwaits.append q ?_⟩⟩
    · have hpatient := not_lt.1 fun h => hfree ⟨hlower, h⟩
      rw [hcfg, hcnt] at hpatient
      exact hpatient
    · rw [run, ← foldl_append, ← hqs]
      exact hlower

namespace Sample

def popular : Evaluation ℚ := { d24h := 100, minReplicas := 1, maxReplicas := 5 }

def capped : Evaluation ℚ := { d24h := 0, minReplicas := 1, maxReplicas := 2 }

end Sample

open Sample

theorem popular_within : ((run defaultReplicationConfig [popular]).call popular).2 ≤ 5 :=
  ((call_within_iff defaultReplicationConfig [popular] popular (by decide)).1.2 fun _ => by decide +kernel).2

/-- The limit is lowered to two replicas, and five are returned. -/
theorem above_maximum :
    ((run defaultReplicationConfig [popular]).call capped).2 = 5 ∧ capped.maxReplicas = 2 := by
  decide +kernel

end PopularityReplicaCounter

end Ocelot.Tracker
