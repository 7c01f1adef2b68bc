/-
# How a replica comes to count, and whether it ever leaves.
-/
import Ocelot.Tracker.Fabric

namespace Ocelot.Tracker

open List Run

namespace Fabric

variable {F : Type}

def ReadsHashOK (k : ReplicaKey) (i : ℕ) (s : Fabric F) (l : FabricLabel) : Prop :=
  s.received = i ∧ ∃ inv : ReplicaInventory, l = .report k.1 inv ∧ inv.infoHash = k.2 ∧ inv.HashOK

def MakesVerified (k : ReplicaKey) (i : ℕ) (s : Fabric F) (l : FabricLabel) : Prop :=
  ∃ now p rest, l = .transition i now ∧ s.reports.lookup i = some p ∧ p.key = k ∧ p.inv.HashOK ∧
    p.pending = .verified :: rest

def reportsHashOK : FabricLabel → Bool
  | .report _ inv => inv.HashOK
  | _ => false

def NoneInFlight (s : Fabric F) (l : FabricLabel) : Prop := ∀ k, s.asks l = some k →
    s.stateOf k = .absent → ∀ i p, s.reports.lookup i = some p → p.key = k → .verified ∉ p.pending

instance (s : Fabric F) (l : FabricLabel) : Decidable (NoneInFlight s l) := by
  unfold NoneInFlight
  infer_instance

variable [Float64 F] {ls : List FabricLabel} {s : Fabric F}

theorem certified_of_verified {C : ReplicaKey → ℕ → List FabricLabel → Prop}
    (hkeep : ∀ k i pre l u, pre ++ [l] <+: ls → C k i pre →
      exec step (initial : Fabric F) (pre ++ [l]) = some u → u.stateOf k ≠ .absent → C k i (pre ++ [l]))
    (hmake : ∀ k i pre l t u, pre ++ [l] <+: ls → exec step (initial : Fabric F) pre = some t →
      t.stateOf k = .hashVerify → MakesVerified k i t l → t.step l = some u →
      u.stateOf k = .verified → C k i (pre ++ [l])) (hrun : exec step initial ls = some s)
    {k : ReplicaKey} (hver : (s.stateOf k).countsAsVerified = true) : ∃ i, C k i ls := by
  induction ls using reverseRecOn generalizing s with
  | nil =>
    cases hrun
    cases hver
  | append_singleton ls l ih =>
    obtain ⟨t, ht, hstep⟩ := exec_concat_eq_some.1 hrun
    have hls : ls <+: ls ++ [l] := prefix_append _ _
    have ih' := fun hv => ih (fun k i pre l u hpre => hkeep k i pre l u (hpre.trans hls))
      (fun k i pre l t u hpre => hmake k i pre l t u (hpre.trans hls)) ht hv
    have hpres : s.stateOf k ≠ .absent := by
      intro habs
      rw [habs] at hver
      cases hver
    -- a replica that counted before the step goes on counting
    have hlasting : (t.stateOf k).countsAsVerified = true → ∃ i, C k i (ls ++ [l]) := by
      intro hv
      obtain ⟨i, hi⟩ := ih' hv
      exact ⟨i, hkeep k i ls l s (prefix_refl _) hi hrun hpres⟩
    cases step_moves hstep k with
    | same hsame =>
      rw [hsame] at hver
      exact hlasting hver
    | requested _ _ haft =>
      rw [haft] at hver
      cases hver
    | evicted _ _ haft => exact absurd haft hpres
    | @advanced i now p next rest hlab hp hkey hpend hall haft =>
      rw [haft] at hver
      rcases NodeReplicaState.countsAsVerified_iff.1 hver with rfl | rfl
      · have hbef := NodeReplicaState.eq_of_verified_mem_next hall
        have hhash : p.inv.HashOK := by
          rcases planned_of_exec ht i p hp with ⟨hhash, -⟩ | hmoves
          · exact hhash
          · exact absurd (hmoves .verified (by rw [hpend]; exact mem_cons_self)) (by decide)
        exact ⟨i, hmake k i ls l t s (prefix_refl _) ht hbef
          ⟨now, p, rest, hlab, hp, hkey, hhash, hpend⟩ hstep haft⟩
      · have hbef := NodeReplicaState.eq_of_seeding_mem_next hall
        exact hlasting (by rw [hbef]; rfl)

/-- **A verified copy was made so** by a right hash. -/
theorem verified_since_transition (hrun : exec step initial ls = some s)
    {k : ReplicaKey} (hver : (s.stateOf k).countsAsVerified = true) :
    ∃ i, Since step (MakesVerified k i) (fun u => u.stateOf k ≠ .absent) (initial : Fabric F) ls := by
  refine certified_of_verified
    (C := fun k i ls => Since step (MakesVerified k i) (fun u => u.stateOf k ≠ .absent) (initial : Fabric F) ls)
    (fun k i pre l u _ hsince hu hpres => hsince.concat hu hpres) ?_ hrun hver
  intro k i pre l t u _ ht _ hmakes hu haft
  refine since_concat_of_taken ht hu hmakes ?_
  rw [haft]
  decide

theorem pending_since_read (hrun : exec step initial ls = some s)
    (hmeets : Meets step NoneInFlight (initial : Fabric F) ls) {i : ℕ} {p : Report}
    (hp : s.reports.lookup i = some p) (hpend : .verified ∈ p.pending) : s.stateOf p.key = .absent ∨
      Since step (ReadsHashOK p.key i) (fun u => u.stateOf p.key ≠ .absent) (initial : Fabric F) ls := by
  induction ls using reverseRecOn generalizing s p with
  | nil =>
    cases hrun
    cases hp
  | append_singleton _ _ ih =>
    obtain ⟨t, ht, hstep⟩ := exec_concat_eq_some.1 hrun
    obtain ⟨hbef, hlast⟩ := meets_concat.1 hmeets
    rcases eq_or_ne (s.stateOf p.key) .absent with habs | hpres
    · exact .inl habs
    refine .inr ?_
    rcases step_reports hstep hp with hold | ⟨hi, hlab, hhash, hplan⟩ | ⟨_, _, -, hold⟩
    · rcases ih ht hbef hold hpend with hgone | hsince
      · -- the copy the report has read is gone, and a new one cannot have been requested in this step
        cases step_moves hstep p.key with
        | same hsame => exact absurd (hsame.trans hgone) hpres
        | requested hasked => exact absurd hpend (hlast t ht p.key hasked hgone i p hold rfl)
        | evicted _ _ haft => exact absurd haft hpres
        | advanced _ hq _ hqpending hall =>
          rw [hgone] at hall
          exact absurd (mem_singleton.1 hall) ((planned_of_exec ht).move hq hqpending).2.1
      · exact hsince.concat hrun hpres
    · have hok : p.inv.HashOK := by
        rcases p.inv.transitions_cases (t.stateOf p.key) with ⟨hok, -⟩ | hmoves
        · exact hok
        · rw [hplan] at hpend
          exact absurd (hmoves .verified hpend) (by decide)
      exact since_concat_of_taken ht hstep ⟨hi.symm, p.inv, hlab, hhash.symm, hok⟩ hpres
    · -- the report has made its first transition: VERIFIED is not among the rest
      rcases planned_of_exec ht i _ hold with ⟨-, hplan⟩ | hmoves
      · obtain ⟨-, hrest⟩ := cons.inj hplan
        rw [hrest] at hpend
        exact absurd hpend (by decide)
      · exact absurd (hmoves .verified (mem_cons_of_mem _ hpend)) (by decide)

/-- **No unverified copy counts**, in every run in which no replica is requested anew while a report
about its former copy is in flight: some report of a right hash was read, and made its transition,
since the replica last was ABSENT. -/
theorem verified_since_report (ls : List FabricLabel) (s : Fabric F) (hrun : exec step initial ls = some s)
    (hmeets : Meets step NoneInFlight (initial : Fabric F) ls) (k : ReplicaKey)
    (hver : (s.stateOf k).countsAsVerified = true) :
    ∃ i, Since step (ReadsHashOK k i) (fun u => u.stateOf k ≠ .absent) (initial : Fabric F) ls ∧
      Since step (MakesVerified k i) (fun u => u.stateOf k ≠ .absent) (initial : Fabric F) ls := by
  refine certified_of_verified (C := fun k i ls =>
      Since step (ReadsHashOK k i) (fun u => u.stateOf k ≠ .absent) (initial : Fabric F) ls ∧
        Since step (MakesVerified k i) (fun u => u.stateOf k ≠ .absent) (initial : Fabric F) ls)
    (fun k i pre l u _ hsince hu hpres => ⟨hsince.1.concat hu hpres, hsince.2.concat hu hpres⟩) ?_ hrun hver
  rintro k i pre l t u ⟨_, rfl⟩ ht hbef hmakes hu haft
  have hpres : u.stateOf k ≠ .absent := by
    rw [haft]
    decide
  refine ⟨?_, since_concat_of_taken ht hu hmakes hpres⟩
  obtain ⟨_, p, _, -, hp, rfl, -, hpend⟩ := hmakes
  have hmem : .verified ∈ p.pending := by
    rw [hpend]
    exact mem_cons_self
  rw [append_assoc] at hmeets
  rcases pending_since_read ht hmeets.of_append hp hmem with habs | hsince
  · rw [habs] at hbef
    cases hbef
  · exact hsince.concat (exec_concat_eq_some.2 ⟨t, ht, hu⟩) hpres

end Fabric

namespace Sample

def replica : ReplicaKey := (1, lit "artifact")

def oneReplica : Finmap fun _ : Bytes => Artifact :=
  Finmap.singleton (lit "artifact") { minReplicas := 1, maxReplicas := 1 }

def oneNode : NodeRegistry := NodeRegistry.empty.register { nodeID := 1, tier := .core }

def fetch : FabricLabel := .ensure { infoHash := lit "artifact", nodeID := 1, cls := lit "standard" } 0

def tells (state verifyState : String) : FabricLabel :=
  .report 1 { infoHash := lit "artifact", state := lit state, verifyState := lit verifyState }

def untilHash (i : ℕ) : List FabricLabel :=
  [fetch, tells "swarming" "", .transition i 0, tells "complete" "", .transition (i + 1) 0, tells "complete" "",
    .transition (i + 2) 0]

def evicted : List FabricLabel := .observe oneReplica ∅ oneNode :: untilHash 0 ++
    [tells "seeding" "hash_ok", tells "seeding" "hash_ok", .transition 4 0, .transition 4 0, .evict replica 0]

def anew : List FabricLabel := untilHash 5 ++ [.transition 3 0]

def honest : List FabricLabel :=
  .observe oneReplica ∅ oneNode :: untilHash 0 ++ [tells "seeding" "hash_ok", .transition 3 0]

end Sample

open Sample

namespace Fabric

/-- The new copy counts as verified, and no report of a right hash has been read since the old one
was evicted. -/
theorem verified_by_stale_report : ∃ s : Fabric ℚ, exec step initial (evicted ++ anew) = some s ∧
      (s.stateOf replica).countsAsVerified = true ∧
      ∀ i, ¬ Since step (ReadsHashOK replica i) (fun u => u.stateOf replica ≠ .absent)
        (initial : Fabric ℚ) (evicted ++ anew) := by
  obtain ⟨u, hu, habs⟩ : ∃ u, exec step (initial : Fabric ℚ) evicted = some u ∧
      u.stateOf replica = .absent := by
    decide +kernel
  refine ends_and (by decide +kernel) fun s _ _ i => not_since hu (not_not.2 habs) ?_
  rintro l hl t ⟨-, _, rfl, -, hok⟩
  have hnone : ∀ l ∈ anew, reportsHashOK l = false := by
    decide +kernel
  exact of_decide_eq_false (hnone _ hl) hok

theorem verified_since_report_honest : ∃ (s : Fabric ℚ) (i : ℕ), exec step initial honest = some s ∧
      Since step (ReadsHashOK replica i) (fun u => u.stateOf replica ≠ .absent)
        (initial : Fabric ℚ) honest := by
  obtain ⟨s, hs, hver⟩ : ∃ s, exec step (initial : Fabric ℚ) honest = some s ∧
      (s.stateOf replica).countsAsVerified = true := by
    decide +kernel
  have hmeets : Meets step NoneInFlight (initial : Fabric ℚ) honest := by
    decide +kernel
  obtain ⟨i, hread, -⟩ := verified_since_report _ s hs hmeets replica hver
  exact ⟨s, i, hs, hread⟩

theorem verified_since_transition_honest : ∃ s : Fabric ℚ, exec step initial honest = some s ∧
      ∃ i, Since step (MakesVerified replica i) (fun u => u.stateOf replica ≠ .absent)
        (initial : Fabric ℚ) honest :=
  ends_of (by decide +kernel) fun _ hs hver =>
    verified_since_transition hs hver

section

variable {F : Type}

def Answering (k : ReplicaKey) (s : Fabric F) (l : FabricLabel) : Prop :=
  (∃ n, s.ctl.nodes.get k.1 = some n ∧ n.isDirectable = true) ∧ ∀ now, l ≠ .evict k now

variable [Float64 F] {s s' : Fabric F} {k : ReplicaKey}

theorem present_step {l : FabricLabel} (hplan : s.Planned) (hansw : Answering k s l)
    (hstep : s.step l = some s') (hpres : s.stateOf k ≠ .absent) : s'.stateOf k ≠ .absent := by
  obtain ⟨⟨n, hn, hdirectable⟩, hevict⟩ := hansw
  cases step_moves hstep k with
  | same hsame =>
    rw [hsame]
    exact hpres
  | requested _ _ haft =>
    rw [haft]
    decide
  | evicted hlab =>
    rcases hlab with ⟨now, rfl⟩ | ⟨_, -, hgone⟩
    · exact absurd rfl (hevict now)
    · -- the node would have to be UNREACHABLE
      unfold NodeRegistry.graceExpired at hgone
      rw [hn] at hgone
      have hreach : n.reachState = .reachable := of_decide_eq_true hdirectable
      have hsil := (of_decide_eq_true hgone).1
      rw [hreach] at hsil
      cases hsil
  | advanced _ hp _ hpend _ haft =>
    rw [haft]
    exact (hplan.move hp hpend).1

theorem present_exec {ls : List FabricLabel} (hplan : s.Planned) (hansw : Meets step (Answering k) s ls)
    (hrun : exec step s ls = some s') (hpres : s.stateOf k ≠ .absent) : s'.stateOf k ≠ .absent := by
  have hinv : s'.Planned ∧ s'.stateOf k ≠ .absent := by
    refine exec_invariant_of_meets (I := fun t => t.Planned ∧ t.stateOf k ≠ .absent) ?_ ⟨hplan, hpres⟩ hansw hrun
    intro t l u ht hl hu
    exact ⟨ht.1.step hu, present_step ht.1 hl hu ht.2⟩
  exact hinv.2

theorem invalid_exec {ls : List FabricLabel} (hplan : s.Planned)
    (hrun : exec step s ls = some s') (hinvalid : s.stateOf k = .invalid) : s'.stateOf k = .invalid := by
  have hinv : s'.Planned ∧ s'.stateOf k = .invalid := by
    refine exec_invariant (I := fun t => t.Planned ∧ t.stateOf k = .invalid) ?_ ⟨hplan, hinvalid⟩ hrun
    rintro t l u ⟨ht, hbef⟩ hu
    refine ⟨ht.step hu, ?_⟩
    cases step_moves hu k with
    | same hsame => exact hsame.trans hbef
    | requested _ habs =>
      rw [hbef] at habs
      cases habs
    | evicted _ hver =>
      rw [hbef] at hver
      cases hver
    | advanced _ hp _ hpend hall =>
      rw [hbef] at hall
      exact absurd (mem_singleton.1 hall) (ht.move hp hpend).2.2
  exact hinv.2

/-- **The way back to ABSENT is never taken on a node that answers**: from a reachable state some
sequence of passes and reports brings the replica to ABSENT exactly if it is ABSENT already. -/
theorem reaches_absent_iff (before : List FabricLabel) (s : Fabric F)
    (hreachable : exec step initial before = some s) (k : ReplicaKey) :
    (∃ ls s', Meets step (Answering k) s ls ∧ exec step s ls = some s' ∧ s'.stateOf k = .absent) ↔
      s.stateOf k = .absent := by
  constructor
  · rintro ⟨ls, s', hansw, hrun, habs⟩
    by_contra hpres
    exact present_exec (planned_of_exec hreachable) hansw hrun hpres habs
  · intro habs
    exact ⟨[], s, meets_nil _ s, rfl, habs⟩

end

end Fabric

namespace Sample

def firstVisit : VisitEnv := { now := 0, nodeOrder := [1] }

def corrupt : List FabricLabel :=
  [.observe oneReplica ∅ oneNode, .visit (lit "artifact") firstVisit, .consider 0, .consider 0,
    tells "swarming" "", .transition 0 0, tells "complete" "", .transition 1 0, tells "complete" "",
      .transition 2 0,
    tells "seeding" "hash_fail", .transition 3 0]

end Sample

namespace Fabric

/-- The replica is INVALID on a node that answers, and stays INVALID whatever is done. -/
theorem invalid_for_ever :
    ∃ s : Fabric ℚ, exec step initial corrupt = some s ∧ s.stateOf replica = .invalid ∧
      s.ctl.nodes = oneNode ∧ ∀ ls s', exec step s ls = some s' → s'.stateOf replica = .invalid := by
  obtain ⟨s, hs, hinv, hnodes⟩ : ∃ s, exec step (initial : Fabric ℚ) corrupt = some s ∧
      s.stateOf replica = .invalid ∧ s.ctl.nodes = oneNode := by
    decide +kernel
  exact ⟨s, hs, hinv, hnodes, fun ls s' hrun => invalid_exec (planned_of_exec hs) hrun hinv⟩

theorem exec_pass_first : ∃ s : Fabric ℚ, exec step initial
    [.observe oneReplica ∅ oneNode] = some s ∧ ∃ ls s', exec step s ls = some s' ∧ s'.visit = none ∧
      s'.ctl = s.ctl.reconcile [lit "artifact"] fun _ => firstVisit :=
  ⟨_, rfl, exec_pass (fun _ => firstVisit) [lit "artifact"] rfl ⟨_, rfl, by decide +kernel, trivial⟩⟩

theorem reaches_absent_iff_corrupt : ∃ s : Fabric ℚ, exec step initial corrupt = some s ∧
      ((∃ ls s', Meets step (Answering replica) s ls ∧ exec step s ls = some s' ∧
        s'.stateOf replica = .absent) ↔ s.stateOf replica = .absent) := by
  exact ends_run (by decide +kernel) fun s hs => reaches_absent_iff _ s hs replica

end Fabric

end Ocelot.Tracker
