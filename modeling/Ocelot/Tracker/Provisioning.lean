/-
# How many replicas the controller asks for.
-/
import Ocelot.Tracker.Fabric

namespace Ocelot.Tracker

open NodeReplicaMap Finset List Bool NodeReplica

/-! ## Replicas on their way -/

def NodeReplica.activeSLA (r : NodeReplica) : Bool :=
  r.cls.countsTowardSLA && (r.state ≠ .absent && r.state ≠ .invalid)

def NodeReplica.inProgressSLA (r : NodeReplica) : Bool := r.activeSLA && !r.state.countsAsVerified

theorem NodeReplica.activeSLA_iff {r : NodeReplica} :
    r.activeSLA = true ↔ r.cls.countsTowardSLA = true ∧ r.state ≠ .absent ∧ r.state ≠ .invalid := by
  unfold activeSLA
  simp only [and_eq_true, decide_eq_true_eq]

namespace Fabric

variable {F : Type}

def active (s : Fabric F) (infoHash : Bytes) : Finset NodeID := s.ctl.replicas.nodesWhere infoHash activeSLA

def inProgress (s : Fabric F) (infoHash : Bytes) : Finset NodeID :=
  s.ctl.replicas.nodesWhere infoHash inProgressSLA

def staying (s : Fabric F) (infoHash : Bytes) (now : Time) : Finset NodeID :=
  (s.ctl.replicas.nodesWhere infoHash verifiedSLA).filter fun id =>
    s.ctl.nodes.graceExpired id now = false

def Joins (infoHash : Bytes) (s s' : Fabric F) : Prop :=
  ∃ a ∈ s'.sent.drop s.sent.length, a.directive = .joinSwarm ∧ a.infoHash = infoHash

instance (infoHash : Bytes) (s s' : Fabric F) : Decidable (Joins infoHash s s') :=
  inferInstanceAs (Decidable (∃ a ∈ _, _ ∧ _))

variable [Float64 F]

def DesiredIs (infoHash : Bytes) (d : ℤ) (s : Fabric F) : FabricLabel → Prop
  | .visit visited _ =>
    visited = infoHash → ∀ artifact ∈ s.ctl.artifacts.lookup infoHash,
      (s.ctl.evaluatePolicy infoHash artifact).2 = d
  | _ => True

omit [Float64 F] in
def Unhurried (infoHash : Bytes) (d : ℤ) (s : Fabric F) : FabricLabel → Prop
  | .visit visited env =>
    visited = infoHash → s.inProgress infoHash = ∅ ∨ d ≤ (s.staying infoHash env.now).card
  | _ => True

instance (infoHash : Bytes) (d : ℤ) (s : Fabric F) (l : FabricLabel) : Decidable (DesiredIs infoHash d s l) :=
  match l with
  | .visit visited _ => inferInstanceAs (Decidable (visited = infoHash → _))
  | .consider _ | .ensure .. | .evict .. | .report .. | .transition .. | .deliver | .observe .. => isTrue trivial

omit [Float64 F] in
instance (infoHash : Bytes) (d : ℤ) (s : Fabric F) (l : FabricLabel) : Decidable (Unhurried infoHash d s l) :=
  match l with
  | .visit visited _ => inferInstanceAs (Decidable (visited = infoHash → _))
  | .consider _ | .ensure .. | .evict .. | .report .. | .transition .. | .deliver | .observe .. => isTrue trivial

variable {s s' : Fabric F} {l : FabricLabel} {infoHash : Bytes} {d : ℤ} {before : ℕ}

theorem active_step (hplan : s.Planned) (h : s.step l = some s') {id : NodeID}
    (hid : id ∈ s'.active infoHash) : id ∈ s.active infoHash ∨ s.asks l = some (id, infoHash) ∧
        s.stateOf (id, infoHash) = .absent ∧ s'.stateOf (id, infoHash) = .requested := by
  obtain ⟨r', hr', hact'⟩ := mem_nodesWhere.1 hid
  obtain ⟨hsla, hpres', hval'⟩ := activeSLA_iff.1 hact'
  have haft : s'.stateOf (id, infoHash) = r'.state := stateOf_of_lookup hr'
  -- a replica that was present and valid before has kept its class
  have hkeeps : s.stateOf (id, infoHash) ≠ .absent → s.stateOf (id, infoHash) ≠ .invalid →
      id ∈ s.active infoHash := by
    intro hpres hval
    obtain ⟨r, hr, hst⟩ := exists_lookup_of_stateOf_ne hpres
    have hne : r.state ≠ .absent := fun hab => hpres (hst.symm.trans hab)
    obtain ⟨_, hr'', hcls⟩ := step_countsTowardSLA h hr hne
    rw [hr'] at hr''
    cases hr''
    rw [hsla] at hcls
    refine mem_nodesWhere.2 ⟨r, hr, activeSLA_iff.2 ⟨hcls.symm, hne, ?_⟩⟩
    exact fun hinv => hval (hst.symm.trans hinv)
  cases step_moves h (id, infoHash) with
  | same hsame =>
    have hst := hsame.symm.trans haft
    exact .inl (hkeeps (by rw [hst]; exact hpres') (by rw [hst]; exact hval'))
  | requested hasked hbef hreq => exact .inr ⟨hasked, hbef, hreq⟩
  | evicted _ _ habs => exact absurd (haft.symm.trans habs) hpres'
  | advanced _ hp _ hpend hall =>
    obtain ⟨-, hnreq, hnpurge⟩ := hplan.move hp hpend
    refine .inl (hkeeps (fun hab => ?_) fun hinv => ?_)
    · rw [hab] at hall
      exact hnreq (List.mem_singleton.1 hall)
    · rw [hinv] at hall
      exact hnpurge (List.mem_singleton.1 hall)

theorem active_subset (hplan : s.Planned) (h : s.step l = some s')
    (hasks : s.asks l = none) (infoHash : Bytes) : s'.active infoHash ⊆ s.active infoHash := by
  intro _ hid
  rcases active_step hplan h hid with hold | ⟨hasked, -, -⟩
  · exact hold
  · rw [hasks] at hasked
    cases hasked

theorem active_le_verifiedCount (hsettled : s.inProgress infoHash = ∅) (artifact : Artifact) (env : VisitEnv) :
    ((s.ctl.upkeep infoHash artifact env).replicas.nodesWhere infoHash activeSLA).card ≤
      (s.ctl.upkeep infoHash artifact env).replicas.verifiedCount infoHash := by
  refine card_le_card fun id hid => ?_
  obtain ⟨r', hr', hact'⟩ := mem_nodesWhere.1 hid
  obtain ⟨hsla', hpres', hval'⟩ := activeSLA_iff.1 hact'
  have hkept := (s.ctl.upkeep_upkeep infoHash artifact env).replicas (id, infoHash)
  rw [hr'] at hkept
  generalize hbef : s.ctl.replicas.lookup (id, infoHash) = before at hkept
  cases hkept with
  | @some r _ hcls hst =>
    have hsame : r'.state = r.state := by
      rcases hst with hsame | ⟨-, habs, -⟩
      · exact hsame
      · exact absurd habs hpres'
    have hsla : r.cls.countsTowardSLA = true := by
      rcases hcls with hcls | ⟨-, hcache⟩
      · rw [← hcls]
        exact hsla'
      · rw [hcache] at hsla'
        cases hsla'
    refine mem_nodesWhere.2 ⟨r', hr', ?_⟩
    unfold verifiedSLA
    rw [hsla', Bool.and_true]
    by_contra hunv
    -- it would be in progress before the upkeep
    have hprog : id ∈ s.inProgress infoHash := by
      refine mem_nodesWhere.2 ⟨r, hbef, ?_⟩
      have hact : r.activeSLA = true := activeSLA_iff.2 ⟨hsla, hsame ▸ hpres', hsame ▸ hval'⟩
      unfold inProgressSLA
      rw [hact, ← hsame, eq_false_of_not_eq_true hunv]
      rfl
    rw [hsettled] at hprog
    exact absurd hprog (notMem_empty id)

theorem staying_le_verifiedCount (s : Fabric F) (infoHash : Bytes) (artifact : Artifact) (env : VisitEnv) :
    (s.staying infoHash env.now).card ≤ (s.ctl.upkeep infoHash artifact env).replicas.verifiedCount infoHash := by
  refine card_le_card fun id hid => ?_
  obtain ⟨hverified, hstays⟩ := mem_filter.1 hid
  obtain ⟨r, hr, hver⟩ := mem_nodesWhere.1 hverified
  have hkept := (s.ctl.upkeep_upkeep infoHash artifact env).replicas (id, infoHash)
  rw [hr] at hkept
  generalize haft : (s.ctl.upkeep infoHash artifact env).replicas.lookup (id, infoHash) = after at hkept
  cases hkept with
  | @some _ r' hcls hst =>
    refine mem_nodesWhere.2 ⟨r', haft, ?_⟩
    unfold verifiedSLA at hver ⊢
    have hsame : r'.state = r.state := by
      rcases hst with hsame | ⟨-, -, -, hgone⟩
      · exact hsame
      · rw [hstays] at hgone
        cases hgone
    rw [hsame]
    rcases hcls with hcls | ⟨heph, -⟩
    · rw [hcls]
      exact hver
    · rw [heph, and_eq_true] at hver
      cases hver.2

/-! ## Within the budget -/

structure Budgeted (infoHash : Bytes) (d : ℤ) (before : ℕ) (s : Fabric F) : Prop where
  planned : s.Planned
  bound : ((s.active infoHash).card : ℤ) ≤ max (before : ℤ) d
  visit : ∀ v, s.visit = some v → v.infoHash = infoHash →
    ((s.active infoHash).card : ℤ) + (v.deficit - v.emitted) ≤ d

theorem Budgeted.of_quiet (hs : s.Budgeted infoHash d before) (h : s.step l = some s') (hasks : s.asks l = none)
    (hvisit : ∀ v, s'.visit = some v → s.visit = some v) : s'.Budgeted infoHash d before := by
  have hcard := card_le_card (active_subset hs.planned h hasks infoHash)
  have hbound := hs.bound
  refine ⟨hs.planned.step h, by omega, fun v hv hhash => ?_⟩
  have hroom := hs.visit v (hvisit v hv) hhash
  omega

theorem Budgeted.of_visit {env : VisitEnv} (hs : s.Budgeted infoHash d before)
    (h : s.step (.visit infoHash env) = some s') (hdes : DesiredIs infoHash d s (.visit infoHash env))
    (hunh : Unhurried infoHash d s (.visit infoHash env)) : s'.Budgeted infoHash d before := by
  have hcard := card_le_card (active_subset hs.planned h rfl infoHash)
  have hbound := hs.bound
  refine ⟨hs.planned.step h, by omega, fun v hv _ => ?_⟩
  cases steps_of_step h with
  | @visit _ _ artifact _ hart _ =>
    have hd : (s.ctl.evaluatePolicy infoHash artifact).2 = d := hdes rfl artifact hart
    have hact : (active { s.record (s.ctl.beginVisit infoHash artifact env).1 with
        visit := (s.ctl.beginVisit infoHash artifact env).2 } infoHash) =
        (s.ctl.upkeep infoHash artifact env).replicas.nodesWhere infoHash activeSLA := by
      exact congrArg (nodesWhere · infoHash activeSLA) (s.ctl.beginVisit_replicas infoHash artifact env)
    rw [hact]
    rcases s.ctl.beginVisit_cases infoHash artifact env with ⟨-, heq⟩ | ⟨hmiss, heq⟩
    · rw [heq] at hv
      cases hv
    · rw [heq] at hv
      cases hv
      rw [hd] at hmiss ⊢
      have hver : (s.ctl.observed infoHash artifact env).replicas.verifiedCount infoHash =
          (s.ctl.upkeep infoHash artifact env).replicas.verifiedCount infoHash := rfl
      rcases hunh rfl with hsettled | _
      · have hle := active_le_verifiedCount hsettled artifact env
        dsimp only
        omega
      · have hstay := s.staying_le_verifiedCount infoHash artifact env
        omega

theorem active_of_requests {k : ReplicaKey} {cls : ReplicaClass} {joined : Bool} (hplan : s.Planned)
    (h : s.step l = some s')
    (hasks : s.asks l = some k) (hreq : SwarmPolicyController.Requests s.ctl k cls s'.ctl joined)
    (infoHash : Bytes) (id : NodeID) (hid : id ∈ s'.active infoHash) :
    id ∈ s.active infoHash ∨ (id, infoHash) = k ∧ joined = true := by
  rcases active_step hplan h hid with hold | ⟨hasked, hbef, haft⟩
  · exact .inl hold
  · rw [hasks] at hasked
    cases joined with
    | true => exact .inr ⟨(Option.some.inj hasked).symm, rfl⟩
    | false =>
      have hchanged : s'.ctl.replicas.stateOf (id, infoHash) = .requested := haft
      rw [hreq.stateOf_eq (id, infoHash)] at hchanged
      exact absurd (hbef.symm.trans hchanged) (by decide)

theorem consider_cases {now : Time} (hplan : s.Planned) (h : s.step (.consider now) = some s') (infoHash : Bytes) :
    (∃ v v', s.visit = some v ∧ s'.visit = some v' ∧ v.infoHash = infoHash ∧
      v'.infoHash = infoHash ∧ v'.deficit = v.deficit ∧ v'.emitted = v.emitted + 1 ∧
      v.emitted < v.deficit ∧ (s'.active infoHash).card ≤ (s.active infoHash).card + 1) ∨
    (s'.active infoHash ⊆ s.active infoHash ∧ ¬ Joins infoHash s s' ∧ ∀ v', s'.visit = some v' →
      v'.infoHash = infoHash →
        ∃ v, s.visit = some v ∧ v.infoHash = infoHash ∧ v'.deficit = v.deficit ∧ v'.emitted = v.emitted) := by
  cases steps_of_step h with
  | @consider _ v id rest hv hcands =>
    obtain ⟨joined, hreq, hemit, hlt⟩ :=
      SwarmPolicyController.considerCandidate_spec now v.infoHash v.deficit s.ctl v.emitted id
    have honly := active_of_requests hplan h (asks_consider hv hcands now) hreq infoHash
    by_cases hmine : v.infoHash = infoHash ∧ joined = true
    · obtain ⟨hhash, rfl⟩ := hmine
      refine .inl ⟨v, _, hv, rfl, hhash, hhash, rfl, by rw [hemit]; rfl, hlt rfl, ?_⟩
      refine (card_le_card fun id' hid' => ?_).trans (card_insert_le id (s.active infoHash))
      rcases honly id' hid' with hold | ⟨hk, -⟩
      · exact mem_insert_of_mem hold
      · rw [(Prod.mk.inj hk).1]
        exact mem_insert_self _ _
    · refine .inr ⟨fun id' hid' => ?_, ?_, fun v' hv' hhash => ?_⟩
      · rcases honly id' hid' with hold | ⟨hk, hjoin⟩
        · exact hold
        · exact absurd ⟨(Prod.mk.inj hk).2.symm, hjoin⟩ hmine
      · rintro ⟨a, ha, -, hhash⟩
        have hsent : a ∈ if joined then [joinAction (id, v.infoHash) .standard] else [] := by
          rw [← hreq.drop_directives, ← s.sent_drop_record]
          exact ha
        cases joined with
        | false => cases hsent
        | true =>
          rw [if_pos rfl, List.mem_singleton] at hsent
          rw [hsent] at hhash
          exact hmine ⟨hhash, rfl⟩
      · cases hv'
        refine ⟨v, hv, hhash, rfl, ?_⟩
        rw [hemit, if_neg]
        exact fun hjoin => hmine ⟨hhash, hjoin⟩
  | @finish _ v hv hcands =>
    refine .inr ⟨?_, ?_, fun v' hv' => by cases hv'⟩
    · exact fun id hid => hid
    · rintro ⟨a, ha, -⟩
      rw [drop_length] at ha
      cases ha

theorem Budgeted.of_consider {now : Time}
    (hs : s.Budgeted infoHash d before) (h : s.step (.consider now) = some s') :
    s'.Budgeted infoHash d before := by
  have hbound := hs.bound
  rcases consider_cases hs.planned h infoHash with
    ⟨v, v', hv, hv', hhash, hhash', hdef, hemit, hlt, hcard⟩ | ⟨hsub, -, hvisit⟩
  · have hroom := hs.visit v hv hhash
    refine ⟨hs.planned.step h, by omega, fun w hw _ => ?_⟩
    rw [hv'] at hw
    cases hw
    omega
  · have hcard := card_le_card hsub
    refine ⟨hs.planned.step h, by omega, fun v' hv' hhash' => ?_⟩
    obtain ⟨v, hv, hhash, hdef, hemit⟩ := hvisit v' hv' hhash'
    have hroom := hs.visit v hv hhash
    omega

theorem Budgeted.step (hs : s.Budgeted infoHash d before) (hens : ∀ req now, l ≠ .ensure req now)
    (hdes : DesiredIs infoHash d s l) (hunh : Unhurried infoHash d s l) (h : s.step l = some s') :
    s'.Budgeted infoHash d before := by
  cases l with
  | visit visited env =>
    by_cases hmine : visited = infoHash
    · subst hmine
      exact hs.of_visit h hdes hunh
    · -- a visit to another artifact
      have hcard := card_le_card (active_subset hs.planned h rfl infoHash)
      have hbound := hs.bound
      refine ⟨hs.planned.step h, by omega, fun v hv hhash => ?_⟩
      cases steps_of_step h with
      | @visit _ _ artifact _ _ _ =>
        rcases s.ctl.beginVisit_cases visited artifact env with ⟨-, heq⟩ | ⟨-, heq⟩
        · rw [heq] at hv
          cases hv
        · rw [heq] at hv
          cases hv
          exact absurd hhash hmine
  | consider => exact hs.of_consider h
  | ensure req now => exact absurd rfl (hens req now)
  | evict =>
    refine hs.of_quiet h rfl fun v hv => ?_
    cases steps_of_step h with
    | evict => exact hv
  | report =>
    refine hs.of_quiet h rfl fun v hv => ?_
    cases steps_of_step h with
    | dropped | report => exact hv
  | transition =>
    refine hs.of_quiet h rfl fun v hv => ?_
    cases steps_of_step h with
    | transition => exact hv
  | deliver =>
    refine hs.of_quiet h rfl fun v hv => ?_
    cases steps_of_step h with
    | deliver => exact hv
  | observe =>
    refine hs.of_quiet h rfl fun v hv => ?_
    cases steps_of_step h with
    | observe => exact hv

theorem not_joins (h : s.step l = some s')
    (hcons : ∀ now, l ≠ .consider now) (hens : ∀ req now, l ≠ .ensure req now) : ¬ Joins infoHash s s' := by
  rintro ⟨a, ha, hjoin, -⟩
  have hnothing : s'.sent = s.sent → False := by
    intro hsame
    rw [hsame, drop_length] at ha
    cases ha
  cases acts_of_step h with
  | @visit visited env artifact _ _ hctl hsent =>
    obtain ⟨_, has, hret⟩ := s.ctl.beginVisit_directives visited artifact env
    rw [hsent, drop_left, hctl, has, drop_left] at ha
    rw [(hret a ha).1] at hjoin
    cases hjoin
  | requests hasks =>
    cases l with
    | consider now => exact hcons now rfl
    | ensure req now => exact hens req now rfl
    | _ => cases hasks
  | moved _ _ _ _ hsent | quiet _ _ _ hsent => exact hnothing hsent

/-- **No over-provisioning**, in every run of visits and reports in which the desired number is `d`
throughout and each visit is `Unhurried`: the active SLA replicas are at most `d`, or as many as
there were at the start, and a JOIN_SWARM is sent only while they are fewer than `d`. -/
theorem joins_below_desired (start : Fabric F) (hidle : start.visit = none)
    (hreports : start.reports = ∅) (infoHash : Bytes) (d : ℤ) (ls : List FabricLabel) (s : Fabric F)
    (hrun : Run.exec step start ls = some s) (hensure : ∀ l ∈ ls, ∀ req now, l ≠ .ensure req now)
    (hdesired : Run.Meets step (DesiredIs infoHash d) start ls)
    (hunhurried : Run.Meets step (Unhurried infoHash d) start ls) :
    ((s.active infoHash).card : ℤ) ≤ max ((start.active infoHash).card : ℤ) d ∧
      ∀ l s', (∀ req now, l ≠ .ensure req now) → s.step l = some s' → Joins infoHash s s' →
        ((s.active infoHash).card : ℤ) < d := by
  have hstart : start.Budgeted infoHash d (start.active infoHash).card := by
    refine ⟨fun i p hp => ?_, le_max_left _ _, fun v hv => ?_⟩
    · rw [hreports] at hp
      cases hp
    · rw [hidle] at hv
      cases hv
  have hs : s.Budgeted infoHash d (start.active infoHash).card := by
    refine Run.exec_invariant_of_meets
      ?_ hstart ((Run.meets_of_forall hensure start).and (hdesired.and hunhurried)) hrun
    rintro t l u ht ⟨hl, hd, hu⟩ hstep
    exact ht.step hl hd hu hstep
  refine ⟨hs.bound, fun l s' hl hstep hjoins => ?_⟩
  by_cases hcons : ∃ now, l = .consider now
  · obtain ⟨now, rfl⟩ := hcons
    rcases consider_cases hs.planned hstep infoHash with ⟨v, _, hv, -, hhash, -, -, -, _, -⟩ | ⟨-, hnone, -⟩
    · have hroom := hs.visit v hv hhash
      omega
    · exact absurd hjoins hnone
  · exact absurd hjoins (not_joins hstep (fun now hnow => hcons ⟨now, hnow⟩) hl)

end Fabric

namespace Sample

def twoNodes : NodeRegistry :=
  (NodeRegistry.empty.register { nodeID := 1, tier := .core }).register { nodeID := 2, tier := .core }

def asked : List FabricLabel :=
  [.observe (Finmap.singleton (lit "artifact") { minReplicas := 1, maxReplicas := 1 }) ∅ twoNodes,
    .visit (lit "artifact") { now := 0, nodeOrder := [1, 2] }, .consider 0, .consider 0, .consider 0]

def askedTwice : List FabricLabel := asked ++ [.visit (lit "artifact")
    { now := 0, classifyOrder := [1], graceOrder := [1], existingOrder := [1], lowOrder := [1],
      standardOrder := [1],
      nodeOrder := [1, 2] }]

end Sample

open Sample

namespace Fabric

/-- One replica is wanted, one is in progress, and a second is asked for. -/
theorem asked_again : ∃ s s' : Fabric ℚ, Run.exec step initial askedTwice = some s ∧
      Run.Meets step (DesiredIs (lit "artifact") 1) (initial : Fabric ℚ) askedTwice ∧
      (s.active (lit "artifact")).card = 1 ∧ s.step (.consider 0) = some s' ∧
      Joins (lit "artifact") s s' ∧ (s'.active (lit "artifact")).card = 2 := by
  simp only [exists_and_left]
  decide +kernel

theorem joins_below_desired_asked :
    ∃ s : Fabric ℚ, Run.exec step initial asked = some s ∧ ((s.active (lit "artifact")).card : ℤ) ≤ 1 := by
  have hens : ∀ l ∈ asked, ∀ req now, l ≠ .ensure req now := by
    intro l hl req now
    rintro rfl
    simp [asked] at hl
  refine Run.ends_run (by decide +kernel) fun s hs => ?_
  have hbound := (joins_below_desired (initial : Fabric ℚ) rfl rfl (lit "artifact") 1 asked s hs hens
    (by decide +kernel) (by decide +kernel)).1
  have hnone : ((initial : Fabric ℚ).active (lit "artifact")).card = 0 := by
    decide +kernel
  rw [hnone] at hbound
  exact hbound

end Fabric

end Ocelot.Tracker
