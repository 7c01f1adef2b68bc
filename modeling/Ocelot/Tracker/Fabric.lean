/-
# The controller, the agents and the transport, under any schedule.

A visit takes one step for each candidate and a report one for each transition, so that requests,
evictions and losses fall in between. `Acts` and `Moves` say what a step can do.
-/
import Ocelot.Tracker.SwarmController

namespace Ocelot.Tracker

open List Finmap NodeReplicaMap SwarmPolicyController NodeReplica Run

/-! ## The system -/

structure Report where
  key : ReplicaKey
  inv : ReplicaInventory
  pending : List NodeReplicaState
  deriving DecidableEq

structure Fabric (F : Type) where
  ctl : SwarmPolicyController F
  visit : Option Visit
  reports : Finmap fun _ : ℕ => Report
  received : ℕ
  sent : List ControllerAction

inductive FabricLabel where
  | visit (infoHash : Bytes) (env : VisitEnv)
  | consider (now : Time)
  | ensure (req : EnsureRequest) (now : Time)
  /-- A call of `ForceEvict`. -/
  | evict (k : ReplicaKey) (now : Time)
  /-- `reconcileInventory` finds the replica and reads its state. -/
  | report (nodeID : NodeID) (inv : ReplicaInventory)
  /-- A report makes its next `Transition`. -/
  | transition (report : ℕ) (now : Time)
  | deliver
  | observe (artifacts : Finmap fun _ : Bytes => Artifact) (seeders : Finmap fun _ : Bytes => ℕ)
    (nodes : NodeRegistry)

def VisitEnv.Legal {F : Type} (env : VisitEnv) (c : SwarmPolicyController F) (infoHash : Bytes)
    (artifact : Artifact) : Prop :=
  (∀ order ∈ [env.classifyOrder, env.graceOrder, env.existingOrder, env.lowOrder, env.standardOrder],
    c.replicas.Enumerates infoHash order) ∧ (env.nodeOrder.Nodup ∧ env.nodeOrder.toFinset = c.nodes.nodes.keys) ∧
  artifact.heatmap.all (fun heatmap =>
    decide (env.netOrder.Nodup ∧ env.netOrder.toFinset = heatmap.netCount.keys)) = true

instance {F : Type} (env : VisitEnv) (c : SwarmPolicyController F) (infoHash : Bytes) (artifact : Artifact) :
    Decidable (env.Legal c infoHash artifact) := inferInstanceAs (Decidable (_ ∧ _ ∧ _))

namespace Fabric

variable {F : Type} (s : Fabric F)

def stateOf (k : ReplicaKey) : NodeReplicaState := s.ctl.replicas.stateOf k

def record (c : SwarmPolicyController F) : Fabric F :=
  { s with ctl := c, sent := s.sent ++ c.directives.drop s.ctl.directives.length }

theorem sent_drop_record (c : SwarmPolicyController F) :
    (s.record c).sent.drop s.sent.length = c.directives.drop s.ctl.directives.length := by
  unfold record
  rw [drop_left]

def asks : FabricLabel → Option ReplicaKey
  | .consider _ => s.visit.bind fun v => v.candidates.head?.map fun id => (id, v.infoHash)
  | .ensure req _ => some (req.nodeID, req.infoHash)
  | _ => none

theorem asks_consider {s : Fabric F} {v : Visit} {id : NodeID} {rest : List NodeID} (hv : s.visit = some v)
    (hcands : v.candidates = id :: rest) (now : Time) : s.asks (.consider now) = some (id, v.infoHash) := by
  simp only [asks, hv, Option.bind_some, hcands, head?_cons, Option.map_some]

def put (k : ReplicaKey) (r : NodeReplica) : Fabric F :=
  { s with ctl := { s.ctl with replicas := s.ctl.replicas.insert k r } }

variable [Float64 F]

def step (s : Fabric F) : FabricLabel → Option (Fabric F)
  | .visit infoHash env =>
    match s.visit, s.ctl.artifacts.lookup infoHash with
    | none, some artifact =>
      if env.Legal s.ctl infoHash artifact then
        let (c, v) := s.ctl.beginVisit infoHash artifact env
        some { s.record c with visit := v }
      else none
    | _, _ => none
  | .consider now =>
    match s.visit with
    | none => none
    | some v =>
      match v.candidates with
      | [] => some { s with visit := none }
      | id :: rest =>
        let (c, emitted) := considerCandidate now v.infoHash v.deficit (s.ctl, v.emitted) id
        some { s.record c with visit := some { v with emitted, candidates := rest } }
  | .ensure req now => some (s.record (s.ctl.ensureArtifact req now).1)
  | .evict k now =>
    match s.ctl.replicas.lookup k with
    | some r => some (s.put k (r.forceEvict now))
    | none => none
  | .report nodeID inv =>
    match s.ctl.replicas.lookup (nodeID, inv.infoHash) with
    -- a report about an unknown replica is dropped
    | none => some s
    | some r =>
      some { s with
          reports := s.reports.insert s.received
            { key := (nodeID, inv.infoHash), inv, pending := inv.transitions r.state }
          received := s.received + 1 }
  | .transition i now =>
    match s.reports.lookup i with
    | none => none
    | some p =>
      match p.pending, s.ctl.replicas.lookup p.key with
      | next :: rest, some r =>
        some { s.put p.key (r.advance now next) with reports := s.reports.insert i { p with pending := rest } }
      | _, _ => none
  | .deliver =>
    match s.ctl.directives with
    | [] => none
    | _ :: rest => some { s with ctl := { s.ctl with directives := rest } }
  | .observe artifacts seeders nodes => some { s with ctl := { s.ctl with artifacts, seeders, nodes } }

def initial : Fabric F where
  ctl :=
    { artifacts := ∅
      seeders := ∅
      nodes := .empty
      replicas := ∅
      policy := .new defaultReplicationConfig
      directives := []
      heatCycles := ∅ }
  visit := none
  reports := ∅
  received := 0
  sent := []

/-! ## What a step does -/

/-- **Inversion of a step.** -/
inductive Steps (s : Fabric F) : FabricLabel → Fabric F → Prop
  | visit {infoHash : Bytes} {env : VisitEnv} {artifact : Artifact} (hidle : s.visit = none)
      (hartifact : s.ctl.artifacts.lookup infoHash = some artifact) (hlegal : env.Legal s.ctl infoHash artifact) :
      Steps s (.visit infoHash env) { s.record (s.ctl.beginVisit infoHash artifact env).1 with
          visit := (s.ctl.beginVisit infoHash artifact env).2 }
  | consider (now : Time) {v : Visit} {id : NodeID} {rest : List NodeID} (hv : s.visit = some v)
      (hcandidates : v.candidates = id :: rest) : Steps s (.consider now)
        { s.record (considerCandidate now v.infoHash v.deficit (s.ctl, v.emitted) id).1 with
          visit := some
            { v with
              emitted := (considerCandidate now v.infoHash v.deficit (s.ctl, v.emitted) id).2
              candidates := rest } }
  | finish (now : Time) {v : Visit} (hv : s.visit = some v) (hcandidates : v.candidates = []) :
      Steps s (.consider now) { s with visit := none }
  | ensure (req : EnsureRequest) (now : Time) :
      Steps s (.ensure req now) (s.record (s.ctl.ensureArtifact req now).1)
  | evict {k : ReplicaKey} {r : NodeReplica} (now : Time) (hr : s.ctl.replicas.lookup k = some r) :
      Steps s (.evict k now) (s.put k (r.forceEvict now))
  | dropped {nodeID : NodeID} {inv : ReplicaInventory} (hr : s.ctl.replicas.lookup (nodeID, inv.infoHash) = none) :
      Steps s (.report nodeID inv) s
  | report {nodeID : NodeID} {inv : ReplicaInventory} {r : NodeReplica}
      (hr : s.ctl.replicas.lookup (nodeID, inv.infoHash) = some r) : Steps s (.report nodeID inv) { s with
          reports := s.reports.insert s.received
            { key := (nodeID, inv.infoHash), inv, pending := inv.transitions r.state }
          received := s.received + 1 }
  | transition (now : Time) {i : ℕ} {p : Report} {next : NodeReplicaState} {rest : List NodeReplicaState}
      {r : NodeReplica} (hp : s.reports.lookup i = some p) (hpending : p.pending = next :: rest)
      (hr : s.ctl.replicas.lookup p.key = some r) : Steps s (.transition i now)
        { s.put p.key (r.advance now next) with reports := s.reports.insert i { p with pending := rest } }
  | deliver {a : ControllerAction} {rest : List ControllerAction} (hdirectives : s.ctl.directives = a :: rest) :
      Steps s .deliver { s with ctl := { s.ctl with directives := rest } }
  | observe (artifacts : Finmap fun _ : Bytes => Artifact) (seeders : Finmap fun _ : Bytes => ℕ)
      (nodes : NodeRegistry) :
      Steps s (.observe artifacts seeders nodes) { s with ctl := { s.ctl with artifacts, seeders, nodes } }

variable {s s' : Fabric F} {l : FabricLabel} {i : ℕ} {p : Report}

theorem steps_of_step (h : s.step l = some s') : Steps s l s' := by
  cases l with
  | visit infoHash env =>
    simp only [step] at h
    split at h
    · rename_i artifact hidle hart
      split_ifs at h with hlegal
      cases h
      exact .visit hidle hart hlegal
    · cases h
  | consider now =>
    simp only [step] at h
    rcases hv : s.visit with _ | v
    · rw [hv] at h
      cases h
    · rw [hv] at h
      rcases hcands : v.candidates with _ | ⟨id, rest⟩
      · simp only [hcands] at h
        cases h
        exact .finish now hv hcands
      · simp only [hcands] at h
        cases h
        exact .consider now hv hcands
  | ensure req now =>
    cases h
    exact .ensure req now
  | evict k now =>
    simp only [step] at h
    split at h
    · rename_i r hr
      cases h
      exact .evict now hr
    · cases h
  | report nodeID inv =>
    simp only [step] at h
    split at h
    · rename_i hr
      cases h
      exact .dropped hr
    · rename_i r hr
      cases h
      exact .report hr
  | transition i now =>
    simp only [step] at h
    split at h
    · cases h
    · rename_i p hp
      split at h
      · rename_i next rest r hpend hr
        cases h
        exact .transition now hp hpend hr
      · cases h
  | deliver =>
    simp only [step] at h
    split at h
    · cases h
    · rename_i a rest hdirs
      cases h
      exact .deliver hdirs
  | observe artifacts seeders nodes =>
    cases h
    exact .observe artifacts seeders nodes

/-- **What a step does to the controller**, in four kinds: a visit begins; a replica is asked for,
by the loop over the candidates or by `EnsureArtifact`; a replica moves, by `ForceEvict` or a
report; or neither the replicas nor the policy change and nothing is sent. -/
inductive Acts (s s' : Fabric F) : FabricLabel → Prop
  | visit {infoHash : Bytes} {env : VisitEnv} {artifact : Artifact}
      (hartifact : s.ctl.artifacts.lookup infoHash = some artifact) (hlegal : env.Legal s.ctl infoHash artifact)
      (hctl : s'.ctl = (s.ctl.beginVisit infoHash artifact env).1)
      (hsent : s'.sent = s.sent ++ s'.ctl.directives.drop s.ctl.directives.length) :
        Acts s s' (.visit infoHash env)
  | requests {l : FabricLabel} {k : ReplicaKey} {cls : ReplicaClass} {joined : Bool} (hasks : s.asks l = some k)
      (hreq : Requests s.ctl k cls s'.ctl joined)
      (hsent : s'.sent = s.sent ++ s'.ctl.directives.drop s.ctl.directives.length) : Acts s s' l
  | moved {l : FabricLabel} {k : ReplicaKey} {r r' : NodeReplica}
      (hlabel : (∃ now, l = .evict k now) ∨ ∃ i now, l = .transition i now) (hr : s.ctl.replicas.lookup k = some r)
      (hcls : r'.cls = r.cls) (hctl : s'.ctl = { s.ctl with replicas := s.ctl.replicas.insert k r' })
      (hsent : s'.sent = s.sent) : Acts s s' l
  | quiet {l : FabricLabel} (hlabel : ∀ infoHash env, l ≠ .visit infoHash env)
      (hreplicas : s'.ctl.replicas = s.ctl.replicas) (hpolicy : s'.ctl.policy = s.ctl.policy)
      (hsent : s'.sent = s.sent) : Acts s s' l

theorem acts_of_step (h : s.step l = some s') : Acts s s' l := by
  cases steps_of_step h with
  | visit _ hart hlegal => exact .visit hart hlegal rfl rfl
  | @consider now v id _ hv hcands =>
    obtain ⟨joined, hreq, -, -⟩ := considerCandidate_spec now v.infoHash v.deficit s.ctl v.emitted id
    exact .requests (asks_consider hv hcands now) hreq rfl
  | ensure req now =>
    obtain ⟨joined, hreq⟩ := s.ctl.ensureArtifact_spec req now
    exact .requests rfl hreq rfl
  | evict now hr => exact .moved (.inl ⟨now, rfl⟩) hr (forceEvict_cls _ now) rfl rfl
  | @transition now i _ _ _ _ _ _ hr => exact .moved (.inr ⟨i, now, rfl⟩) hr (advance_cls _ now _) rfl rfl
  | finish | dropped | report | deliver | observe => exact .quiet (fun _ _ hl => by cases hl) rfl rfl rfl

/-- **What a step can do to one replica.** -/
inductive Moves (s s' : Fabric F) (l : FabricLabel) (k : ReplicaKey) : Prop
  | same (hstate : s'.stateOf k = s.stateOf k)
  | requested (hasked : s.asks l = some k)
      (hbefore : s.stateOf k = .absent) (hafter : s'.stateOf k = .requested)
  | evicted
      (hlabel : (∃ now, l = .evict k now) ∨ ∃ env, l = .visit k.2 env ∧
        s.ctl.nodes.graceExpired k.1 env.now = true)
      (hbefore : (s.stateOf k).countsAsVerified = true) (hafter : s'.stateOf k = .absent)
  | advanced {i : ℕ} {now : Time} {p : Report} {next : NodeReplicaState} {rest : List NodeReplicaState}
      (hlabel : l = .transition i now) (hp : s.reports.lookup i = some p) (hkey : p.key = k)
      (hpending : p.pending = next :: rest) (hallowed : next ∈ (s.stateOf k).next) (hafter : s'.stateOf k = next)

omit [Float64 F] in
theorem stateOf_put (s : Fabric F) (k k' : ReplicaKey) (r : NodeReplica) :
    (s.put k r).stateOf k' = if k' = k then r.state else s.stateOf k' := by
  show NodeReplicaMap.stateOf (s.ctl.replicas.insert k r) k' = _
  split_ifs with hk
  · rw [hk, stateOf_insert]
  · exact stateOf_insert_of_ne _ r hk

omit [Float64 F] in
theorem moves_of_requests {c' : SwarmPolicyController F} {k0 : ReplicaKey} {cls : ReplicaClass} {joined : Bool}
    (hasked : s.asks l = some k0) (hreq : SwarmPolicyController.Requests s.ctl k0 cls c' joined)
    (hs' : s'.ctl = c') (k : ReplicaKey) : Moves s s' l k := by
  subst hs'
  have hsame : s'.ctl.replicas.lookup k = s.ctl.replicas.lookup k → s'.stateOf k = s.stateOf k := by
    intro h
    unfold stateOf NodeReplicaMap.stateOf
    rw [h]
  cases hreq with
  | kept _ _ hreps =>
    rcases hreps k with h | ⟨hbef, haft⟩
    · exact .same (hsame h)
    · exact .same (haft.trans hbef.symm)
  | joined _ _ hbef haft hreps =>
    by_cases hk : k = k0
    · subst hk
      exact .requested hasked hbef haft
    · exact .same (hsame (hreps k hk))

theorem step_moves (h : s.step l = some s') (k : ReplicaKey) : Moves s s' l k := by
  cases steps_of_step h with
  | @visit infoHash env artifact _ _ _ =>
    have hkept := (s.ctl.upkeep_upkeep infoHash artifact env).replicas k
    rw [← s.ctl.beginVisit_replicas infoHash artifact env] at hkept
    rcases hkept.stateOf with hsame | ⟨hbef, haft, hhash, hgone⟩
    · exact .same hsame
    · subst hhash
      exact .evicted (.inr ⟨env, rfl, hgone⟩) hbef haft
  | @consider now v id rest hv hcands =>
    obtain ⟨joined, hreq, -, -⟩ := considerCandidate_spec now v.infoHash v.deficit s.ctl v.emitted id
    exact moves_of_requests (asks_consider hv hcands now) hreq rfl k
  | finish | dropped | report | deliver | observe => exact .same rfl
  | ensure req now =>
    obtain ⟨joined, hreq⟩ := s.ctl.ensureArtifact_spec req now
    exact moves_of_requests rfl hreq rfl k
  | @evict k0 r now hr =>
    have hput := s.stateOf_put k0 k (r.forceEvict now)
    by_cases hk : k = k0
    · subst hk
      rw [if_pos rfl, forceEvict_state] at hput
      have hst : s.stateOf k = r.state := stateOf_of_lookup hr
      by_cases hver : r.state.countsAsVerified = true
      · rw [if_pos hver] at hput
        rw [← hst] at hver
        exact .evicted (.inl ⟨now, rfl⟩) hver hput
      · rw [if_neg hver, ← hst] at hput
        exact .same hput
    · rw [if_neg hk] at hput
      exact .same hput
  | @transition now i p next rest r hp hpend hr =>
    have hput := s.stateOf_put p.key k (r.advance now next)
    by_cases hk : k = p.key
    · subst hk
      rw [if_pos rfl] at hput
      have hst : s.stateOf p.key = r.state := stateOf_of_lookup hr
      rcases r.advance_state now next with hsame | ⟨hnext, hall⟩
      · exact .same (hput.trans (hsame.trans hst.symm))
      · rw [← hst] at hall
        exact .advanced rfl hp rfl hpend hall (hput.trans hnext)
    · rw [if_neg hk] at hput
      exact .same hput

theorem step_countsTowardSLA (h : s.step l = some s') {k : ReplicaKey}
    {r : NodeReplica} (hr : s.ctl.replicas.lookup k = some r) (hpres : r.state ≠ .absent) :
    ∃ r', s'.ctl.replicas.lookup k = some r' ∧ r'.cls.countsTowardSLA = r.cls.countsTowardSLA := by
  have hst : s.ctl.replicas.stateOf k ≠ .absent := by
    rw [stateOf_of_lookup hr]
    exact hpres
  cases acts_of_step h with
  | @visit infoHash env artifact _ _ hctl _ =>
    have hkept := (s.ctl.upkeep_upkeep infoHash artifact env).replicas k
    rw [← s.ctl.beginVisit_replicas infoHash artifact env, ← hctl, hr] at hkept
    generalize haft : s'.ctl.replicas.lookup k = after at hkept
    cases hkept with
    | @some _ r' hcls _ =>
      refine ⟨r', rfl, ?_⟩
      rcases hcls with hcls | ⟨heph, hcache⟩
      · rw [hcls]
      · rw [heph, hcache]
        rfl
  | requests _ hreq =>
    -- only a replica that is ABSENT is touched
    cases hreq with
    | kept _ _ hreps =>
      rcases hreps k with hlook | ⟨hbef, -⟩
      · exact ⟨r, hlook.trans hr, rfl⟩
      · exact absurd hbef hst
    | joined _ _ hbef _ hreps =>
      refine ⟨r, (hreps k ?_).trans hr, rfl⟩
      rintro rfl
      exact hst hbef
  | @moved _ k0 r0 r1 _ hr0 hcls hctl _ =>
    rw [hctl]
    by_cases hk : k = k0
    · subst hk
      rw [hr0] at hr
      cases hr
      exact ⟨r1, lookup_insert _, by rw [hcls]⟩
    · exact ⟨r, (lookup_insert_of_ne _ hk).trans hr, rfl⟩
  | quiet _ hreps => exact ⟨r, by rw [hreps, hr], rfl⟩

theorem step_reports (h : s.step l = some s') (hp : s'.reports.lookup i = some p) :
    s.reports.lookup i = some p ∨ (i = s.received ∧ l = .report p.key.1 p.inv ∧
      p.key.2 = p.inv.infoHash ∧ p.pending = p.inv.transitions (s.stateOf p.key)) ∨
    ∃ now next, l = .transition i now ∧ s.reports.lookup i = some { p with pending := next :: p.pending } := by
  cases steps_of_step h with
  | visit | consider | finish | ensure | evict | dropped | deliver | observe => exact .inl hp
  | @report nodeID inv r hr =>
    rcases lookup_insert_cases hp with ⟨rfl, rfl⟩ | ⟨-, hp⟩
    · refine .inr (.inl ⟨rfl, rfl, rfl, ?_⟩)
      exact congrArg inv.transitions (stateOf_of_lookup hr).symm
    · exact .inl hp
  | @transition now j q next rest r hq hpend hr =>
    rcases lookup_insert_cases hp with ⟨rfl, rfl⟩ | ⟨-, hp⟩
    · refine .inr (.inr ⟨now, next, rfl, ?_⟩)
      rw [hq, ← hpend]
    · exact .inl hp

/-! ## A visit at a time -/

def Planned (s : Fabric F) : Prop :=
  ∀ i p, s.reports.lookup i = some p → p.inv.HashOK ∧ p.pending = [.verified, .seeding] ∨
      ∀ next ∈ p.pending, next ∈ [.swarming, .btComplete, .hashVerify, .seeding, .invalid]

theorem Planned.step (hs : s.Planned) (h : s.step l = some s') : s'.Planned := by
  intro i p hp
  rcases step_reports h hp with hold | ⟨-, -, -, hpend⟩ | ⟨_, _, -, hold⟩
  · exact hs i p hold
  · rw [hpend]
    exact p.inv.transitions_cases (s.stateOf p.key)
  · rcases hs i _ hold with ⟨-, hpend⟩ | hmoves
    · right
      obtain ⟨-, hrest⟩ := cons.inj hpend
      rw [hrest]
      decide
    · exact .inr fun move hmove => hmoves move (mem_cons_of_mem _ hmove)

theorem planned_of_exec {ls : List FabricLabel} (h : exec step initial ls = some s) : s.Planned := by
  refine exec_invariant (fun _ _ _ hs hst => Planned.step hs hst) ?_ h
  intro i p hp
  cases hp

omit [Float64 F] in
theorem Planned.move (hs : s.Planned) (hp : s.reports.lookup i = some p)
    {next : NodeReplicaState} {rest : List NodeReplicaState} (hpend : p.pending = next :: rest) :
    next ≠ .absent ∧ next ≠ .requested ∧ next ≠ .purge := by
  have hmem : next ∈ p.pending := by
    rw [hpend]
    exact mem_cons_self
  rcases hs i p hp with ⟨-, hplan⟩ | hmoves
  · rw [hplan] at hmem
    revert hmem
    cases next <;> decide
  · have hall := hmoves next hmem
    revert hall
    cases next <;> decide

theorem exec_consider (now : Time) {v : Visit} (hv : s.visit = some v) :
    ∃ s', exec step s (replicate (v.candidates.length + 1) (.consider now)) = some s' ∧ s'.visit = none ∧
      s'.ctl = (v.candidates.foldl (considerCandidate now v.infoHash v.deficit) (s.ctl, v.emitted)).1 := by
  induction hcands : v.candidates generalizing s v with
  | nil => exact ⟨{ s with visit := none }, by simp [exec, step, hv, hcands], rfl, rfl⟩
  | cons id rest ih =>
    rcases hone : considerCandidate now v.infoHash v.deficit (s.ctl, v.emitted) id with ⟨c, emitted⟩
    obtain ⟨s', hrun, hdone, hctl⟩ :=
      ih (s := { s.record c with visit := some { v with emitted, candidates := rest } }) rfl rfl
    refine ⟨s', ?_, hdone, ?_⟩
    · simp only [length_cons, replicate_succ, exec, step, hv, hcands, hone]
      exact hrun
    · rw [hctl, foldl_cons, hone]
      rfl

theorem exec_visit {infoHash : Bytes} {artifact : Artifact} {env : VisitEnv} (hidle : s.visit = none)
    (hart : s.ctl.artifacts.lookup infoHash = some artifact) (hlegal : env.Legal s.ctl infoHash artifact) :
    ∃ n s', exec step s (.visit infoHash env :: replicate n (.consider env.now)) = some s' ∧
      s'.visit = none ∧ s'.ctl = s.ctl.reconcileArtifact infoHash artifact env := by
  rcases hbeg : s.ctl.beginVisit infoHash artifact env with ⟨c, v⟩
  simp only [reconcileArtifact, hbeg, exec, step, hidle, hart, if_pos hlegal]
  cases v with
  | none => exact ⟨0, { s.record c with visit := none }, rfl, rfl, rfl⟩
  | some v => exact ⟨v.candidates.length + 1, exec_consider env.now rfl⟩

def LegalPass (env : Bytes → VisitEnv) : SwarmPolicyController F → List Bytes → Prop
  | _, [] => True
  | c, infoHash :: order =>
    ∃ artifact, c.artifacts.lookup infoHash = some artifact ∧ (env infoHash).Legal c infoHash artifact ∧
      LegalPass env (c.reconcileArtifact infoHash artifact (env infoHash)) order

/-- **A pass is a run** of visits, each of one step per candidate. -/
theorem exec_pass (env : Bytes → VisitEnv) (order : List Bytes) (hidle : s.visit = none)
    (hlegal : LegalPass env s.ctl order) :
    ∃ ls s', exec step s ls = some s' ∧ s'.visit = none ∧ s'.ctl = s.ctl.reconcile order env := by
  induction order generalizing s with
  | nil => exact ⟨[], s, rfl, hidle, rfl⟩
  | cons infoHash _ ih =>
    obtain ⟨_, hart, hone, hrest⟩ := hlegal
    obtain ⟨n, t, hvisit, hdone, hctl⟩ := exec_visit hidle hart hone
    rw [← hctl] at hrest
    obtain ⟨ls, s', hrun, hend, hall⟩ := ih hdone hrest
    refine ⟨(.visit infoHash (env infoHash) :: replicate n (.consider (env infoHash).now)) ++ ls, s', ?_, hend, ?_⟩
    · rw [exec_append, hvisit]
      exact hrun
    · simp only [hall, hctl, reconcile, foldl_cons, hart]

theorem exec_transitions (now : Time) {r : NodeReplica} (hp : s.reports.lookup i = some p)
    (hr : s.ctl.replicas.lookup p.key = some r) :
    ∃ s', exec step s (replicate p.pending.length (.transition i now)) = some s' ∧ s'.ctl = { s.ctl with
        replicas := s.ctl.replicas.insert p.key (p.pending.foldl (fun r next => r.advance now next) r) } := by
  induction hpend : p.pending generalizing s p r with
  | nil =>
    refine ⟨s, rfl, ?_⟩
    rw [foldl_nil, insert_of_lookup_eq hr]
  | cons next rest ih =>
    obtain ⟨s', hrun, hctl⟩ :=
      ih (s := { s.put p.key (r.advance now next) with
        reports := s.reports.insert i { p with pending := rest } })
        (lookup_insert _) (lookup_insert _) rfl
    refine ⟨s', ?_, ?_⟩
    · simp only [length_cons, replicate_succ, exec, step, hp, hpend, hr]
      exact hrun
    · rw [hctl, foldl_cons]
      dsimp only [put]
      rw [insert_insert]

/-- **A report is a run** of its transitions. -/
theorem exec_report (s : Fabric F) (nodeID : NodeID) (inv : ReplicaInventory) (now : Time) :
    ∃ n s', exec step s (.report nodeID inv :: List.replicate n (.transition s.received now)) = some s' ∧
      s'.ctl = { s.ctl with replicas := reconcileInventory s.ctl.replicas nodeID inv now } := by
  unfold reconcileInventory
  rcases hr : s.ctl.replicas.lookup (nodeID, inv.infoHash) with _ | r
  · exact ⟨0, s, by simp [exec, step, hr], rfl⟩
  · simp only [exec, step, hr]
    exact ⟨_, exec_transitions now (s := { s with
      reports := s.reports.insert s.received
        { key := (nodeID, inv.infoHash), inv, pending := inv.transitions r.state }
      received := s.received + 1 }) (lookup_insert _) hr⟩

end Fabric

end Ocelot.Tracker
