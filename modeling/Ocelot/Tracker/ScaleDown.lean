/-
# Which replicas the controller gives up when there are too many.
-/
import Ocelot.Tracker.Fabric

namespace Ocelot.Tracker

open List NodeReplicaMap
open SwarmPolicyController (lowPriority standardPriority retirees)
open NodeReplicaMap (verifiedSLA)

/-! ## What a pass keeps -/

def SameKind (o o' : Option NodeReplica) : Prop :=
  ∀ p ∈ [lowPriority, standardPriority, verifiedSLA], (o'.map p).getD false = (o.map p).getD false

theorem SameKind.refl (o : Option NodeReplica) : SameKind o o := fun _ _ => rfl

theorem SameKind.trans {o1 o2 o3 : Option NodeReplica} (h : SameKind o1 o2) (h' : SameKind o2 o3) :
    SameKind o1 o3 := fun p hp => (h' p hp).trans (h p hp)

variable {o : Option NodeReplica} {p : NodeReplica → Bool}

theorem kind_of_unverified (h : ∀ r, o = some r → r.state.countsAsVerified = false)
    (hp : p ∈ [lowPriority, standardPriority, verifiedSLA]) : (o.map p).getD false = false := by
  rcases o with _ | r
  · rfl
  · simp only [mem_cons, not_mem_nil, or_false] at hp
    rcases hp with rfl | rfl | rfl <;> simp [lowPriority, standardPriority, verifiedSLA, h r rfl]

variable {o' : Option NodeReplica}

theorem sameKind_of_unverified (h : ∀ r, o = some r → r.state.countsAsVerified = false)
    (h' : ∀ r, o' = some r → r.state.countsAsVerified = false) : SameKind o o' := fun _ hp =>
  (kind_of_unverified h' hp).trans (kind_of_unverified h hp).symm

theorem sameKind_of_upkept {gone : Prop} (h : SwarmPolicyController.Upkept gone o o')
    (hstays : ∀ r, o = some r → r.state.countsAsVerified = true → ¬ gone) : SameKind o o' := by
  cases h with
  | none => exact .refl _
  | @some r r' hcls hst =>
    have hsame : r'.state = r.state := by
      rcases hst with hsame | ⟨hver, -, hgone⟩
      · exact hsame
      · exact absurd hgone (hstays r rfl hver)
    intro p hp
    simp only [mem_cons, not_mem_nil, or_false] at hp
    -- an ephemeral replica may become a cache, which is of the same kind
    rcases hcls with hcls | ⟨heph, hcache⟩
    · rcases hp with rfl | rfl | rfl <;>
        simp [lowPriority, standardPriority, verifiedSLA, hsame, hcls]
    · rcases hp with rfl | rfl | rfl <;>
        simp [lowPriority, standardPriority, verifiedSLA, hsame, heph, hcache,
          ReplicaClass.rank, ReplicaClass.countsTowardSLA]

def SameKinds (infoHash : Bytes) (m m' : NodeReplicaMap) : Prop :=
  ∀ id, SameKind (m.lookup (id, infoHash)) (m'.lookup (id, infoHash))

section

variable {infoHash : Bytes} {m m' : NodeReplicaMap}

theorem SameKinds.select (h : SameKinds infoHash m m')
    (hp : p ∈ [lowPriority, standardPriority, verifiedSLA]) (order : List NodeID) :
    m'.select infoHash order p = m.select infoHash order p := by
  exact filter_congr fun id _ => h id p hp

theorem SameKinds.nodesWhere (h : SameKinds infoHash m m')
    (hp : p ∈ [lowPriority, standardPriority, verifiedSLA]) :
    m'.nodesWhere infoHash p = m.nodesWhere infoHash p := by
  have hiff : ∀ (m : NodeReplicaMap) (id : NodeID),
      id ∈ m.nodesWhere infoHash p ↔ ((m.lookup (id, infoHash)).map p).getD false = true := by
    intro m id
    rw [mem_nodesWhere]
    rcases m.lookup (id, infoHash) with _ | r <;> simp
  ext id
  rw [hiff, hiff, h id p hp]

theorem SameKinds.verifiedCount (h : SameKinds infoHash m m') :
    m'.verifiedCount infoHash = m.verifiedCount infoHash :=
  congrArg Finset.card (h.nodesWhere (by simp))

/-! ## The order of retirement -/

def lowFirst (m : NodeReplicaMap) (infoHash : Bytes) (lowOrder standardOrder : List NodeID) : List NodeID :=
  m.select infoHash lowOrder lowPriority ++ m.select infoHash standardOrder standardPriority

theorem SameKinds.lowFirst (h : SameKinds infoHash m m') (lowOrder standardOrder : List NodeID) :
    lowFirst m' infoHash lowOrder standardOrder = lowFirst m infoHash lowOrder standardOrder := by
  unfold Tracker.lowFirst
  rw [h.select (by simp), h.select (by simp)]

theorem take_retirees (m : NodeReplicaMap) (infoHash : Bytes) (surplus : ℤ) (env : VisitEnv) :
    (retirees m infoHash surplus env).take surplus.toNat =
      (lowFirst m infoHash env.lowOrder env.standardOrder).take surplus.toNat := by
  unfold SwarmPolicyController.retirees lowFirst
  dsimp only
  split_ifs with hfew
  · rfl
  · rw [take_append_of_le_length (by omega)]

variable {lowOrder standardOrder : List NodeID}

theorem kind_of_mem_lowFirst {id : NodeID} (h : id ∈ lowFirst m infoHash lowOrder standardOrder) :
    ∃ r, m.lookup (id, infoHash) = some r ∧ r.state.countsAsVerified = true ∧ r.cls ≠ .pinned ∧
      r.cls ≠ .archival := by
  have hsel : ∀ (order : List NodeID) (p : NodeReplica → Bool), id ∈ m.select infoHash order p →
      ∃ r, m.lookup (id, infoHash) = some r ∧ p r = true := by
    intro order p hid
    have hkind := (mem_filter.1 hid).2
    rcases hr : m.lookup (id, infoHash) with _ | r
    · rw [hr] at hkind
      cases hkind
    · rw [hr] at hkind
      exact ⟨r, rfl, hkind⟩
  rcases mem_append.1 h with hlow | hstd
  · obtain ⟨r, hr, hkind⟩ := hsel _ _ hlow
    obtain ⟨hver, hrank⟩ := (Bool.and_eq_true _ _).mp hkind
    refine ⟨r, hr, hver, fun hcls => ?_, fun hcls => ?_⟩ <;> rw [hcls] at hrank <;> cases hrank
  · obtain ⟨r, hr, hkind⟩ := hsel _ _ hstd
    obtain ⟨hver, hcls⟩ := (Bool.and_eq_true _ _).mp hkind
    exact ⟨r, hr, hver, by rw [of_decide_eq_true hcls]; decide, by rw [of_decide_eq_true hcls]; decide⟩

theorem disjoint_low_sla (m : NodeReplicaMap) (infoHash : Bytes) :
    Disjoint (m.nodesWhere infoHash lowPriority) (m.nodesWhere infoHash verifiedSLA) := by
  rw [Finset.disjoint_left]
  intro _ hlow hsla
  obtain ⟨r, hr, hkind⟩ := mem_nodesWhere.1 hlow
  obtain ⟨_, hr', hkind'⟩ := mem_nodesWhere.1 hsla
  rw [hr] at hr'
  cases hr'
  have hrank := ((Bool.and_eq_true _ _).mp hkind).2
  have hcounts := ((Bool.and_eq_true _ _).mp hkind').2
  revert hrank hcounts
  cases r.cls <;> decide

theorem standard_subset_sla (m : NodeReplicaMap) (infoHash : Bytes) :
    m.nodesWhere infoHash standardPriority ⊆ m.nodesWhere infoHash verifiedSLA := by
  intro _ hid
  obtain ⟨r, hr, hkind⟩ := mem_nodesWhere.1 hid
  obtain ⟨hver, hcls⟩ := (Bool.and_eq_true _ _).mp hkind
  refine mem_nodesWhere.2 ⟨r, hr, ?_⟩
  unfold verifiedSLA
  rw [hver, of_decide_eq_true hcls]
  rfl

theorem disjoint_low_standard (m : NodeReplicaMap) (infoHash : Bytes) :
    Disjoint (m.nodesWhere infoHash lowPriority) (m.nodesWhere infoHash standardPriority) :=
  (disjoint_low_sla m infoHash).mono_right (standard_subset_sla m infoHash)

theorem card_take_lowFirst (hlow : m.Enumerates infoHash lowOrder)
    (hstd : m.Enumerates infoHash standardOrder) {n : ℕ}
    (henough : n ≤ (m.nodesWhere infoHash standardPriority).card) :
    ((lowFirst m infoHash lowOrder standardOrder).take n).toFinset.card = n ∧
      (m.nodesWhere infoHash lowPriority ∩ ((lowFirst m infoHash lowOrder standardOrder).take n).toFinset).card =
        min n (m.nodesWhere infoHash lowPriority).card ∧
      (m.nodesWhere infoHash verifiedSLA \ ((lowFirst m infoHash lowOrder standardOrder).take n).toFinset).card =
        m.verifiedCount infoHash - (n - (m.nodesWhere infoHash lowPriority).card) := by
  obtain ⟨hlowSub, hlowCard⟩ := card_take_select hlow n
  obtain ⟨hstandardSub, hstandardCard⟩ := card_take_select (p := standardPriority) hstd
    (n - (m.nodesWhere infoHash lowPriority).card)
  rw [Nat.min_eq_left (by omega)] at hstandardCard
  unfold Tracker.lowFirst
  rw [take_append, toFinset_append, length_select hlow]
  refine ⟨?_, ?_, ?_⟩
  · rw [Finset.card_union_of_disjoint ((disjoint_low_standard m infoHash).mono hlowSub hstandardSub), hlowCard,
      hstandardCard]
    omega
  · rw [Finset.inter_union_distrib_left, Finset.inter_eq_right.2 hlowSub,
      Finset.disjoint_iff_inter_eq_empty.1 ((disjoint_low_standard m infoHash).mono_right hstandardSub),
      Finset.union_empty, hlowCard]
  · have hkept := Finset.sdiff_eq_self_of_disjoint ((disjoint_low_sla m infoHash).mono_left hlowSub).symm
    rw [← Finset.sup_eq_union, ← sdiff_sdiff_left, hkept,
      Finset.card_sdiff_of_subset (hstandardSub.trans (standard_subset_sla m infoHash)), hstandardCard]
    rfl

end

/-! ## A pass -/

def FabricLabel.isPass : FabricLabel → Bool
  | .visit _ _ | .consider _ | .ensure _ _ | .deliver | .observe _ _ _ => true
  | .evict _ _ | .report _ _ | .transition _ _ => false

def FabricLabel.RangesOver (infoHash : Bytes) (lowOrder standardOrder : List NodeID) : FabricLabel → Prop
  | .visit visited env => visited = infoHash → env.lowOrder = lowOrder ∧ env.standardOrder = standardOrder
  | _ => True

namespace Fabric

variable {F : Type}

def retired (infoHash : Bytes) (s s' : Fabric F) : Finset NodeID :=
  (((s'.sent.drop s.sent.length).filter fun a => a.directive = .retireReplica ∧
    a.infoHash = infoHash).map ControllerAction.nodeID).toFinset

def NoneGone (infoHash : Bytes) (s : Fabric F) : FabricLabel → Prop
  | .visit visited env =>
    visited = infoHash → ∀ id ∈ s.ctl.replicas.nodesWhere infoHash fun r =>
      r.state.countsAsVerified, s.ctl.nodes.graceExpired id env.now = false
  | _ => True

instance (infoHash : Bytes) (s : Fabric F) (l : FabricLabel) : Decidable (NoneGone infoHash s l) :=
  -- over the set, and not over all node ids
  have (now : Time) : Decidable (∀ id ∈ s.ctl.replicas.nodesWhere infoHash fun r => r.state.countsAsVerified,
      s.ctl.nodes.graceExpired id now = false) := Finset.decidableDforallFinset
  match l with
  | .visit visited _ => inferInstanceAs (Decidable (visited = infoHash → _))
  | .consider _ | .ensure .. | .evict .. | .report .. | .transition .. | .deliver | .observe .. => isTrue trivial

theorem mem_retired {infoHash : Bytes} {s s' : Fabric F} {new : List ControllerAction}
    (hsent : s'.sent = s.sent ++ new) {id : NodeID} :
    id ∈ retired infoHash s s' ↔ ∃ a ∈ new, (a.directive = .retireReplica ∧ a.infoHash = infoHash) ∧
      a.nodeID = id := by
  unfold retired
  rw [hsent, drop_left]
  simp only [mem_toFinset, mem_map, mem_filter, decide_eq_true_eq, and_assoc]

variable [Float64 F]

def DesiredAtLeast (infoHash : Bytes) (d : ℤ) (s : Fabric F) : FabricLabel → Prop
  | .visit visited _ =>
    visited = infoHash → ∀ artifact ∈ s.ctl.artifacts.lookup infoHash, d ≤
      (s.ctl.evaluatePolicy infoHash artifact).2
  | _ => True

instance (infoHash : Bytes) (d : ℤ) (s : Fabric F) (l : FabricLabel) : Decidable (DesiredAtLeast infoHash d s l) :=
  match l with
  | .visit visited _ => inferInstanceAs (Decidable (visited = infoHash → _))
  | .consider _ | .ensure .. | .evict .. | .report .. | .transition .. | .deliver | .observe .. => isTrue trivial

def surplus (s : Fabric F) (infoHash : Bytes) (artifact : Artifact) : ℤ :=
  s.ctl.replicas.verifiedCount infoHash - (s.ctl.evaluatePolicy infoHash artifact).2

def chosen (s : Fabric F) (infoHash : Bytes) (artifact : Artifact) (env : VisitEnv) : List NodeID :=
  ((lowFirst s.ctl.replicas infoHash env.lowOrder env.standardOrder).take (s.surplus infoHash artifact).toNat).take
    (directiveCap - s.ctl.directives.length)

omit [Float64 F] in
variable {c c' : SwarmPolicyController F}

theorem sameKinds_of_upkeep {visited : Bytes} {now : Time}
    (h : SwarmPolicyController.Upkeep visited now c c') {infoHash : Bytes}
    (hstays : visited = infoHash → ∀ id ∈ c.replicas.nodesWhere infoHash fun r => r.state.countsAsVerified,
      c.nodes.graceExpired id now = false) : SameKinds infoHash c.replicas c'.replicas := by
  intro id
  refine sameKind_of_upkept (h.replicas (id, infoHash)) ?_
  rintro r hr hver ⟨hhash, hgone⟩
  have hnot := hstays hhash.symm id (mem_nodesWhere.2 ⟨r, hr, hver⟩)
  rw [hnot] at hgone
  cases hgone

omit [Float64 F] in
theorem sameKinds_of_requests {k : ReplicaKey} {cls : ReplicaClass} {joined : Bool}
    (h : SwarmPolicyController.Requests c k cls c' joined) (infoHash : Bytes) :
    SameKinds infoHash c.replicas c'.replicas := by
  have hunv : ∀ {m : NodeReplicaMap} {k : ReplicaKey}, (m.stateOf k).countsAsVerified = false →
      ∀ r, m.lookup k = some r → r.state.countsAsVerified = false := by
    intro m k hst r hr
    rwa [stateOf_of_lookup hr] at hst
  intro id
  cases h with
  | kept _ _ hreps =>
    rcases hreps (id, infoHash) with hsame | ⟨hbef, haft⟩
    · rw [hsame]
      exact .refl _
    · exact sameKind_of_unverified (hunv (by rw [hbef]; rfl)) (hunv (by rw [haft]; rfl))
  | joined _ _ hbef haft hreps =>
    by_cases hk : (id, infoHash) = k
    · subst hk
      exact sameKind_of_unverified (hunv (by rw [hbef]; rfl)) (hunv (by rw [haft]; rfl))
    · rw [hreps _ hk]
      exact .refl _

variable {s s' : Fabric F} {infoHash : Bytes} {env : VisitEnv} {artifact : Artifact}
  (hstep : s.step (.visit infoHash env) = some s') (hartifact : s.ctl.artifacts.lookup infoHash = some artifact)
  (hstays : NoneGone infoHash s (.visit infoHash env))

include hstep hartifact hstays in
theorem visit_sent : s'.sent = s.sent ++ (s.chosen infoHash artifact env).map (retireAction infoHash) := by
  cases steps_of_step hstep with
  | @visit _ _ artifact' _ hart' _ =>
    rw [hartifact] at hart'
    cases hart'
    have hupkeep := s.ctl.upkeep_upkeep infoHash artifact env
    have hkinds := sameKinds_of_upkeep hupkeep hstays
    -- no node is given up, so the upkeep sends nothing
    have hdirs : (s.ctl.upkeep infoHash artifact env).directives = s.ctl.directives := by
      obtain ⟨as, has, hgiven⟩ := hupkeep.sent
      rcases as with _ | ⟨a, as⟩
      · rw [has, append_nil]
      · obtain ⟨-, -, hgone, hver⟩ := hgiven a mem_cons_self
        have hpres : s.ctl.replicas.stateOf (a.nodeID, infoHash) ≠ .absent := by
          intro habs
          rw [habs] at hver
          cases hver
        obtain ⟨r, hr, hst⟩ := exists_lookup_of_stateOf_ne hpres
        rw [← hst] at hver
        have hnot := hstays rfl a.nodeID (mem_nodesWhere.2 ⟨r, hr, hver⟩)
        rw [hnot] at hgone
        cases hgone
    have hobs : (s.ctl.observed infoHash artifact env).directives = s.ctl.directives := hdirs
    have hcnt : (s.ctl.observed infoHash artifact env).replicas.verifiedCount infoHash =
        s.ctl.replicas.verifiedCount infoHash := hkinds.verifiedCount
    have hchosen : (s.ctl.observed infoHash artifact env).retirements infoHash (s.surplus infoHash artifact) env =
        s.chosen infoHash artifact env := by
      unfold SwarmPolicyController.retirements chosen
      rw [take_retirees, hobs]
      exact congrArg (fun l : List NodeID => (l.take _).take _) (hkinds.lowFirst _ _)
    show s.sent ++ (s.ctl.beginVisit infoHash artifact env).1.directives.drop s.ctl.directives.length = _
    congr 1
    rcases s.ctl.beginVisit_cases infoHash artifact env with ⟨-, heq⟩ | ⟨_, heq⟩
    · rw [heq, hcnt, SwarmPolicyController.selectRetirements_eq, hobs, drop_left]
      exact congrArg (map (retireAction infoHash)) hchosen
    · have hzero : (s.surplus infoHash artifact).toNat = 0 := by
        unfold surplus
        omega
      unfold chosen
      rw [heq, hzero, hobs, drop_length]
      simp

theorem pass_step {l : FabricLabel} (h : s.step l = some s') (hpass : l.isPass = true)
    (hstays : NoneGone infoHash s l) : SameKinds infoHash s.ctl.replicas s'.ctl.replicas ∧
      ∃ new, s'.sent = s.sent ++ new ∧ ∀ a ∈ new, a.directive = .retireReplica ∧ a.infoHash = infoHash →
        ∃ env artifact, l = .visit infoHash env ∧ s.ctl.artifacts.lookup infoHash = some artifact ∧
          a.nodeID ∈ s.chosen infoHash artifact env := by
  have hstep := h
  cases acts_of_step h with
  | @visit visited env artifact hartifact _ hctl hsent =>
    refine ⟨?_, ?_⟩
    · have hkinds := sameKinds_of_upkeep (s.ctl.upkeep_upkeep visited artifact env) hstays
      rw [← s.ctl.beginVisit_replicas visited artifact env, ← hctl] at hkinds
      exact hkinds
    · by_cases hmine : visited = infoHash
      · subst hmine
        refine ⟨_, visit_sent hstep hartifact hstays, fun a ha _ => ?_⟩
        obtain ⟨_, hid, rfl⟩ := mem_map.1 ha
        exact ⟨env, artifact, rfl, hartifact, hid⟩
      · obtain ⟨_, has, hret⟩ := s.ctl.beginVisit_directives visited artifact env
        refine ⟨_, hsent, fun a ha hmatch => ?_⟩
        rw [hctl, has, drop_left] at ha
        exact absurd ((hret a ha).2.symm.trans hmatch.2) hmine
  | @requests _ k cls joined _ hreq hsent =>
    refine ⟨sameKinds_of_requests hreq infoHash, _, hsent, fun a ha hmatch => ?_⟩
    -- a request sends JOIN_SWARM or nothing
    rw [hreq.drop_directives] at ha
    cases joined with
    | false => cases ha
    | true =>
      rw [mem_singleton.1 ha] at hmatch
      cases hmatch.1
  | moved hlab =>
    rcases hlab with ⟨now, rfl⟩ | ⟨i, now, rfl⟩ <;> cases hpass
  | quiet _ hreps _ hsent =>
    rw [hreps, hsent]
    exact ⟨fun _ => .refl _, [], (append_nil _).symm, fun a ha => by cases ha⟩

variable {start : Fabric F} {ls : List FabricLabel}

theorem exec_retired {s : Fabric F} {infoHash : Bytes} {G : Fabric F → FabricLabel → Prop}
    {P : NodeID → Prop} (hpass : ∀ t l, G t l → l.isPass = true ∧ NoneGone infoHash t l)
    (hchosen : ∀ t env artifact, SameKinds infoHash start.ctl.replicas t.ctl.replicas →
      G t (.visit infoHash env) → t.ctl.artifacts.lookup infoHash = some artifact →
      ∀ id ∈ t.chosen infoHash artifact env, P id)
    (hmeets : Run.Meets step G start ls) (hrun : Run.exec step start ls = some s) :
    SameKinds infoHash start.ctl.replicas s.ctl.replicas ∧ ∀ id ∈ retired infoHash start s, P id := by
  have hs : SameKinds infoHash start.ctl.replicas s.ctl.replicas ∧ ∃ new, s.sent = start.sent ++ new ∧
        ∀ a ∈ new, a.directive = .retireReplica ∧ a.infoHash = infoHash → P a.nodeID := by
    refine Run.exec_invariant_of_meets
      (I := fun t => SameKinds infoHash start.ctl.replicas t.ctl.replicas ∧ ∃ new, t.sent = start.sent ++ new ∧
        ∀ a ∈ new, a.directive = .retireReplica ∧ a.infoHash = infoHash → P a.nodeID) ?_ ?_ hmeets hrun
    · rintro t l u ⟨hkinds, new, hsent, honly⟩ hG hstep
      obtain ⟨hl, hstays⟩ := hpass t l hG
      obtain ⟨hkept, more, hmore, hvisit⟩ := pass_step hstep hl hstays
      refine ⟨fun id => (hkinds id).trans (hkept id), new ++ more, ?_, fun a ha hmatch => ?_⟩
      · rw [hmore, hsent, append_assoc]
      · rcases mem_append.1 ha with ha | ha
        · exact honly a ha hmatch
        · obtain ⟨env, artifact, rfl, hartifact, hid⟩ := hvisit a ha hmatch
          exact hchosen t env artifact hkinds hG hartifact a.nodeID hid
    · exact ⟨fun _ => .refl _, [], (append_nil _).symm, fun a ha => by cases ha⟩
  obtain ⟨hkinds, new, hsent, honly⟩ := hs
  refine ⟨hkinds, fun id hid => ?_⟩
  obtain ⟨a, ha, hmatch, rfl⟩ := (mem_retired hsent).1 hid
  exact honly a ha hmatch

section

include hstep hartifact hstays

theorem retired_visit : retired infoHash s s' = (s.chosen infoHash artifact env).toFinset := by
  ext id
  rw [mem_retired (visit_sent hstep hartifact hstays), mem_toFinset]
  constructor
  · rintro ⟨a, ha, -, rfl⟩
    obtain ⟨id, hid, rfl⟩ := mem_map.1 ha
    exact hid
  · intro hid
    exact ⟨retireAction infoHash id, mem_map_of_mem hid, ⟨rfl, rfl⟩, rfl⟩

end

theorem card_retired_le {s : Fabric F} {infoHash : Bytes} (hrun : Run.exec step start ls = some s)
    (hmeets : Run.Meets step (fun t l => l.isPass = true ∧ NoneGone infoHash t l) start ls) {d : ℤ}
    {lowOrder standardOrder : List NodeID} (hdes : Run.Meets step (DesiredAtLeast infoHash d) start ls)
    (horders : ∀ l ∈ ls, l.RangesOver infoHash lowOrder standardOrder) :
    ((retired infoHash start s).card : ℤ) ≤ max 0 (start.ctl.replicas.verifiedCount infoHash - d) := by
  have honly : ∀ id ∈ retired infoHash start s, id ∈ (lowFirst start.ctl.replicas infoHash lowOrder
      standardOrder).take (start.ctl.replicas.verifiedCount infoHash - d).toNat := by
    refine (exec_retired (fun _ _ hG => hG.1) (fun t _ artifact hkinds hG hartifact id hid => ?_)
      (hmeets.and (hdes.and (Run.meets_of_forall horders start))) hrun).2
    obtain ⟨-, hwants, hord⟩ := hG
    obtain ⟨hlow, hstd⟩ := hord rfl
    have hd : d ≤ (t.ctl.evaluatePolicy infoHash artifact).2 := hwants rfl artifact hartifact
    have hmem := mem_of_mem_take hid
    rw [hkinds.lowFirst, hlow, hstd] at hmem
    -- what a visit that wants more takes is the beginning of what a visit that wants `d` takes
    refine take_subset_take_left _ ?_ hmem
    unfold surplus
    rw [hkinds.verifiedCount]
    omega
  have hsub : retired infoHash start s ⊆ ((lowFirst start.ctl.replicas infoHash lowOrder
      standardOrder).take (start.ctl.replicas.verifiedCount infoHash - d).toNat).toFinset :=
    fun id hid => mem_toFinset.2 (honly id hid)
  have hcard : (retired infoHash start s).card ≤ (start.ctl.replicas.verifiedCount infoHash - d).toNat :=
    (Finset.card_le_card hsub).trans ((toFinset_card_le _).trans (length_take_le _ _))
  omega

/-- **Scale-down**, in every run of passes before the agents react in which no verified replica of
the artifact is on a node that is to be given up. -/
theorem scale_down (start : Fabric F) (infoHash : Bytes) (ls : List FabricLabel) (s : Fabric F)
    (hrun : Run.exec step start ls = some s) (hpasses : ∀ l ∈ ls, l.isPass = true)
    (hstays : Run.Meets step (NoneGone infoHash) start ls) :
    (∀ id ∈ retired infoHash start s, ∃ r, start.ctl.replicas.lookup (id, infoHash) = some r ∧
      r.state.countsAsVerified = true ∧ r.cls ≠ .pinned ∧ r.cls ≠ .archival) ∧
    (∀ d lowOrder standardOrder, Run.Meets step (DesiredAtLeast infoHash d) start ls →
      (∀ l ∈ ls, l.RangesOver infoHash lowOrder standardOrder) →
      ((retired infoHash start s).card : ℤ) ≤ max 0 (start.ctl.replicas.verifiedCount infoHash - d)) ∧
    ∀ env artifact s', s.step (.visit infoHash env) = some s' → s.ctl.artifacts.lookup infoHash = some artifact →
      NoneGone infoHash s (.visit infoHash env) → 0 < s.surplus infoHash artifact →
      s.surplus infoHash artifact ≤ directiveCap - s.ctl.directives.length →
      s.surplus infoHash artifact ≤ (s.ctl.replicas.nodesWhere infoHash standardPriority).card →
      ((retired infoHash s s').card : ℤ) = s.surplus infoHash artifact ∧
      ((s.ctl.replicas.nodesWhere infoHash lowPriority ∩ retired infoHash s s').card : ℤ) =
        min (s.surplus infoHash artifact) (s.ctl.replicas.nodesWhere infoHash lowPriority).card ∧
      ((s.ctl.replicas.nodesWhere infoHash verifiedSLA \ retired infoHash s s').card : ℤ) =
        (s.ctl.evaluatePolicy infoHash artifact).2 +
          min (s.surplus infoHash artifact) (s.ctl.replicas.nodesWhere infoHash lowPriority).card := by
  have hmeets : Run.Meets step (fun t l => l.isPass = true ∧ NoneGone infoHash t l) start ls :=
    (Run.meets_of_forall hpasses start).and hstays
  refine ⟨?_, ?_, ?_⟩
  · refine (exec_retired (fun _ _ hG => hG) (fun t env artifact hkinds _ _ id hid => ?_) hmeets hrun).2
    have hmem := mem_of_mem_take (mem_of_mem_take hid)
    rw [hkinds.lowFirst] at hmem
    exact kind_of_mem_lowFirst hmem
  · intro d lowOrder standardOrder hdes horders
    exact card_retired_le hrun hmeets hdes horders
  · intro env artifact s' hstep hartifact hnone hsurplus hroom henough
    have hlegal : env.Legal s.ctl infoHash artifact := by
      cases steps_of_step hstep with
      | visit _ hart' hlegal =>
        rw [hartifact] at hart'
        cases hart'
        exact hlegal
    have hchosen : retired infoHash s s' = ((lowFirst s.ctl.replicas infoHash env.lowOrder env.standardOrder).take
        (s.surplus infoHash artifact).toNat).toFinset := by
      rw [retired_visit hstep hartifact hnone]
      unfold chosen
      rw [take_take, Nat.min_eq_right (by omega)]
    obtain ⟨_, _, hleft⟩ := card_take_lowFirst (hlegal.1 env.lowOrder (by simp))
      (hlegal.1 env.standardOrder (by simp)) (n := (s.surplus infoHash artifact).toNat) (by omega)
    have hcnt : s.surplus infoHash artifact =
        s.ctl.replicas.verifiedCount infoHash - (s.ctl.evaluatePolicy infoHash artifact).2 := rfl
    have hsub : (s.ctl.replicas.nodesWhere infoHash standardPriority).card ≤
        s.ctl.replicas.verifiedCount infoHash :=
      Finset.card_le_card (standard_subset_sla s.ctl.replicas infoHash)
    rw [hchosen]
    refine ⟨by omega, by omega, ?_⟩
    rw [hleft]
    omega

end Fabric

namespace Sample

def overReplicated (held : List (NodeID × ReplicaClass)) (nodes : NodeRegistry)
    (directives : List ControllerAction) :
    Fabric ℚ where
  ctl :=
    { artifacts := Finmap.singleton (lit "artifact") { minReplicas := 1, maxReplicas := 1 }
      seeders := ∅
      nodes
      replicas := held.foldl
        (fun m (id, cls) => m.insert (id, lit "artifact") { NodeReplica.new cls 0 with state := .seeding }) ∅
      policy := .new defaultReplicationConfig
      directives
      heatCycles := ∅ }
  visit := none
  reports := ∅
  received := 0
  sent := []

def visitIn (now : Time) (order nodeOrder : List NodeID) : FabricLabel := .visit (lit "artifact")
    { now, classifyOrder := order, graceOrder := order, existingOrder := order, lowOrder := order,
      standardOrder := order, nodeOrder }

def lostNode : NodeRegistry := NodeRegistry.empty.register
    { nodeID := 1, reachState := .unreachable, lastFlap := 1 }

end Sample

open Sample

namespace Fabric

/-- Each of these artifacts wants one replica and has two verified SLA replicas. -/
theorem scale_down_gaps :
    (∃ s', Run.exec step (overReplicated [(1, .ephemeral), (2, .standard), (3, .standard)] .empty [])
        [visitIn 0 [1, 2, 3] []] = some s' ∧
      retired (lit "artifact") (overReplicated [(1, .ephemeral), (2, .standard), (3, .standard)] .empty []) s' =
        {1}) ∧ (∃ s', Run.exec step (overReplicated [(1, .standard), (2, .standard)] .empty
        (List.replicate directiveCap (retireAction (lit "other") 1))) [visitIn 0 [1, 2] []] = some s' ∧
      retired (lit "artifact") (overReplicated [(1, .standard), (2, .standard)] .empty
        (List.replicate directiveCap (retireAction (lit "other") 1))) s' = ∅) ∧
    (∃ s', Run.exec step (overReplicated [(1, .standard), (2, .standard)] .empty [])
        [visitIn 0 [1, 2] [], visitIn 0 [2, 1] []] = some s' ∧
      retired (lit "artifact") (overReplicated [(1, .standard), (2, .standard)] .empty []) s' = {1, 2}) ∧
    ∃ s', Run.exec step (overReplicated [(1, .pinned), (2, .standard)] lostNode [])
        [visitIn (graceTTL + 2) [1, 2] [1]] = some s' ∧
      1 ∈ retired (lit "artifact") (overReplicated [(1, .pinned), (2, .standard)] lostNode []) s' := by
  decide +kernel

theorem scale_down_twice :
    ∃ s s', Run.exec step (overReplicated [(1, .ephemeral), (2, .standard), (3, .standard), (4, .standard)]
        .empty []) [visitIn 0 [1, 2, 3, 4] []] = some s ∧
      s.step (visitIn 0 [1, 2, 3, 4] []) = some s' ∧ ((retired (lit "artifact") (overReplicated
        [(1, .ephemeral), (2, .standard), (3, .standard), (4, .standard)] .empty []) s).card : ℤ) ≤ 2 ∧
      ((retired (lit "artifact") s s').card : ℤ) = 2 := by
  obtain ⟨s, hs, hnone, _, _, ⟨artifact, hartifact, hsurplus⟩, s', hs', -⟩ :
      ∃ s, Run.exec step (overReplicated [(1, .ephemeral), (2, .standard), (3, .standard), (4, .standard)]
          .empty []) [visitIn 0 [1, 2, 3, 4] []] = some s ∧
        NoneGone (lit "artifact") s (visitIn 0 [1, 2, 3, 4] []) ∧ s.ctl.directives.length = 2 ∧
        (s.ctl.replicas.nodesWhere (lit "artifact") standardPriority).card = 3 ∧
        (∃ artifact, s.ctl.artifacts.lookup (lit "artifact") = some artifact ∧
          s.surplus (lit "artifact") artifact = 2) ∧
        ∃ s', s.step (visitIn 0 [1, 2, 3, 4] []) = some s' ∧ True := by
    decide +kernel
  obtain ⟨-, hbound, hvisit⟩ := scale_down _ (lit "artifact") _ s hs (by decide) (by decide +kernel)
  refine ⟨s, s', hs, hs', ?_, ?_⟩
  · refine (hbound 1 [1, 2, 3, 4] [1, 2, 3, 4] (by decide +kernel) ?_).trans (by decide +kernel)
    intro l hl
    rw [mem_singleton.1 hl]
    exact fun _ => ⟨rfl, rfl⟩
  · have hcap : directiveCap = 256 := rfl
    refine (hvisit _ _ s' hs' hartifact hnone ?_ ?_ ?_).1.trans hsurplus <;> omega

end Fabric

end Ocelot.Tracker
