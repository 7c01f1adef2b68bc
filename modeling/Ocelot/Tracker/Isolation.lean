/-
# Whether the artifacts influence each other's replica counts.
-/
import Ocelot.Tracker.Fabric

namespace Ocelot.Tracker

structure Demand where
  seeders : ℕ
  minReplicas : ℤ
  maxReplicas : ℤ
  deriving DecidableEq

namespace PopularityReplicaCounter

variable {F : Type} [Float64 F] (p : PopularityReplicaCounter F)

def answer (q : Demand) : PopularityReplicaCounter F × ℤ :=
  p.evaluate (Float64.ofInt q.seeders) q.minReplicas q.maxReplicas

def Settled (q : Demand) : Prop := p.ema (Float64.ofInt q.seeders) = p.smoothed ∧
    rawDesired p.smoothed q.minReplicas q.maxReplicas = p.currentDesired ∧ p.belowCount = 0

instance [DecidableEq F] (p : PopularityReplicaCounter F) (q : Demand) : Decidable (p.Settled q) :=
  inferInstanceAs (Decidable (_ ∧ _ ∧ _))

theorem answer_fst_eq_iff (q : Demand) : (p.answer q).1 = p ↔ p.Settled q := by
  unfold answer evaluate Settled
  dsimp only
  generalize p.ema (Float64.ofInt q.seeders) = smoothed
  constructor
  · intro hsame
    split_ifs at hsame with hlower hthres
    · -- the lower count would have been taken over
      have hcnt := congrArg currentDesired hsame
      dsimp only at hcnt
      omega
    · have hwait := congrArg belowCount hsame
      dsimp only at hwait
      omega
    · have hsmoothed : smoothed = p.smoothed := congrArg PopularityReplicaCounter.smoothed hsame
      have hcnt := congrArg currentDesired hsame
      have hwait := congrArg belowCount hsame
      rw [hsmoothed] at hcnt
      exact ⟨hsmoothed, hcnt, hwait.symm⟩
  · rintro ⟨rfl, hcnt, hwait⟩
    rw [hcnt, if_neg (lt_irrefl _), ← hwait]

end PopularityReplicaCounter

namespace Fabric

variable {F : Type}

def demand (infoHash : Bytes) (s : Fabric F) : FabricLabel → Option Demand
  | .visit visited _ =>
    if visited = infoHash then
      (s.ctl.artifacts.lookup infoHash).map fun artifact =>
        { seeders := (s.ctl.seeders.lookup infoHash).getD 0
          minReplicas := artifact.minReplicas
          maxReplicas := artifact.maxReplicas }
    else none
  | _ => none

variable [Float64 F] (infoHash : Bytes)

def desire (s : Fabric F) : FabricLabel → Option ℤ
  | .visit visited _ =>
    if visited = infoHash then
      (s.ctl.artifacts.lookup infoHash).map fun artifact => (s.ctl.evaluatePolicy infoHash artifact).2
    else none
  | _ => none

def demands (start : Fabric F) (ls : List FabricLabel) : List Demand :=
  Run.collect step (demand infoHash) start ls

def desires (start : Fabric F) (ls : List FabricLabel) : List ℤ :=
  Run.collect step (desire infoHash) start ls

def OthersSettled (s : Fabric F) : FabricLabel → Prop
  | .visit visited env => visited ≠ infoHash → ∀ q ∈ s.demand visited (.visit visited env), s.ctl.policy.Settled q
  | _ => True

instance [DecidableEq F] (infoHash : Bytes) (s : Fabric F) (l : FabricLabel) :
    Decidable (OthersSettled infoHash s l) :=
  match l with
  | .visit visited _ => inferInstanceAs (Decidable (visited ≠ infoHash → _))
  | .consider _ | .ensure .. | .evict .. | .report .. | .transition .. | .deliver | .observe .. => isTrue trivial

theorem step_policy {s s' : Fabric F} {l : FabricLabel} (h : s.step l = some s') :
    (∃ visited env q, l = .visit visited env ∧ s.demand visited l = some q ∧
      s.desire visited l = some (s.ctl.policy.answer q).2 ∧ s'.ctl.policy = (s.ctl.policy.answer q).1) ∨
    (∀ infoHash, s.demand infoHash l = none ∧ s.desire infoHash l = none) ∧ s'.ctl.policy = s.ctl.policy := by
  have hnone : (∀ visited env, l ≠ .visit visited env) →
      ∀ infoHash, s.demand infoHash l = none ∧ s.desire infoHash l = none := by
    intro hl infoHash
    cases l with
    | visit visited env => exact absurd rfl (hl visited env)
    | _ => exact ⟨rfl, rfl⟩
  cases acts_of_step h with
  | @visit visited env artifact hart _ hctl _ =>
    refine .inl ⟨visited, env, ⟨(s.ctl.seeders.lookup visited).getD 0, artifact.minReplicas,
      artifact.maxReplicas⟩, rfl, ?_, ?_, ?_⟩
    · simp only [demand, if_true, hart, Option.map_some]
    · simp only [desire, if_true, hart, Option.map_some]
      rfl
    · rw [hctl]
      rcases s.ctl.beginVisit_cases visited artifact env with ⟨-, heq⟩ | ⟨-, heq⟩
      · rw [heq, SwarmPolicyController.selectRetirements_eq]
        rfl
      · rw [heq]
        rfl
  | requests hasks hreq =>
    refine .inr ⟨hnone ?_, hreq.view.policy⟩
    rintro visited env rfl
    cases hasks
  | moved hlab _ _ hctl =>
    refine .inr ⟨hnone ?_, by rw [hctl]⟩
    rintro visited env rfl
    rcases hlab with ⟨now, hl⟩ | ⟨i, now, hl⟩ <;> cases hl
  | quiet hl _ hpol => exact .inr ⟨hnone hl, hpol⟩

theorem desires_eq_answers {infoHash : Bytes} {start s : Fabric F} {ls : List FabricLabel}
    (hrun : Run.exec step start ls = some s) (hothers : Run.Meets step (OthersSettled infoHash) start ls) :
    desires infoHash start ls = Run.answers PopularityReplicaCounter.answer start.ctl.policy
      (demands infoHash start ls) := by
  refine Run.collect_eq_answers (π := fun t => t.ctl.policy) (fun t l u hsettled hstep => ?_) hothers hrun
  rcases step_policy hstep with ⟨visited, _, q, rfl, hdemand, hdesire, hpol⟩ | ⟨hnone, hpol⟩
  · by_cases hmine : visited = infoHash
    · subst hmine
      exact .inl ⟨q, hdemand, hdesire, hpol⟩
    · refine .inr ⟨if_neg hmine, if_neg hmine, ?_⟩
      rw [hpol]
      exact (t.ctl.policy.answer_fst_eq_iff q).2 (hsettled hmine q hdemand)
  · exact .inr ⟨(hnone infoHash).1, (hnone infoHash).2, hpol⟩

/-- **Isolation.** -/
theorem desires_isolated (infoHash : Bytes) (start start' s s' : Fabric F)
    (ls ls' : List FabricLabel) (hrun : Run.exec step start ls = some s)
    (hrun' : Run.exec step start' ls' = some s') (hcounter : start'.ctl.policy = start.ctl.policy)
    (hagree : demands infoHash start' ls' = demands infoHash start ls)
    (hothers : Run.Meets step (OthersSettled infoHash) start ls)
    (hothers' : Run.Meets step (OthersSettled infoHash) start' ls') :
    desires infoHash start' ls' = desires infoHash start ls := by
  rw [desires_eq_answers hrun hothers, desires_eq_answers hrun' hothers', hcounter, hagree]

end Fabric

namespace Sample

def alone : Finmap fun _ :
    Bytes => Artifact := Finmap.singleton (lit "artifact") { minReplicas := 1, maxReplicas := 10 }

def beside (n : ℤ) : Finmap fun _ :
    Bytes => Artifact := alone.insert (lit "other") { minReplicas := n, maxReplicas := 10 }

def visits (artifacts : Finmap fun _ : Bytes => Artifact) (order : List Bytes) : List FabricLabel :=
  .observe artifacts ∅ .empty :: order.flatMap fun infoHash => [.visit infoHash { now := 0 }, .consider 0]

end Sample

open Sample

namespace Fabric

/-- The artifact is visited once and wants one replica; with a neighbour that wants three and is
visited first, it wants three. -/
theorem raised_by_neighbour :
    (Run.exec step (initial : Fabric ℚ) (visits alone [lit "artifact"])).isSome = true ∧
    (Run.exec step (initial : Fabric ℚ) (visits (beside 3) [lit "other", lit "artifact"])).isSome = true ∧
    demands (lit "artifact") (initial : Fabric ℚ) (visits (beside 3) [lit "other", lit "artifact"]) =
      demands (lit "artifact") (initial : Fabric ℚ) (visits alone [lit "artifact"]) ∧
    desires (lit "artifact") (initial : Fabric ℚ) (visits alone [lit "artifact"]) = [1] ∧
    desires (lit "artifact")
    (initial : Fabric ℚ) (visits (beside 3) [lit "other", lit "artifact"]) = [3] := by
  refine ⟨?_, ?_, ?_, ?_, ?_⟩
  all_goals decide +kernel

theorem desires_isolated_beside : desires (lit "artifact") (initial : Fabric ℚ)
        (visits (beside 1) [lit "artifact", lit "other", lit "artifact"]) =
      desires (lit "artifact") (initial : Fabric ℚ) (visits alone [lit "artifact", lit "artifact"]) := by
  have h : (Run.exec step (initial : Fabric ℚ)
      (visits alone [lit "artifact", lit "artifact"])).isSome = true := by
    decide +kernel
  have h' : (Run.exec step (initial : Fabric ℚ)
      (visits (beside 1) [lit "artifact", lit "other", lit "artifact"])).isSome = true := by
    decide +kernel
  obtain ⟨s, hs⟩ := Option.isSome_iff_exists.1 h
  obtain ⟨s', hs'⟩ := Option.isSome_iff_exists.1 h'
  refine desires_isolated (lit "artifact") initial initial s s' _ _ hs hs' rfl ?_ ?_ ?_
  all_goals decide +kernel

end Fabric

end Ocelot.Tracker
