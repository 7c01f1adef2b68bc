/-
# The replication controller (`tracker/swarm_controller.go`).
-/
import Ocelot.Tracker.Placement
import Ocelot.Tracker.ReplicationPolicy
import Ocelot.Lib.Decimal

namespace Ocelot.Tracker

open List Finmap NodeReplicaMap NodeReplica

inductive SwarmDirective where
  | joinSwarm | retireReplica
  deriving DecidableEq

structure ControllerAction where
  directive : SwarmDirective
  nodeID : NodeID
  infoHash : Bytes
  cls : ReplicaClass := .ephemeral
  deriving DecidableEq

def retireAction (infoHash : Bytes) (id : NodeID) : ControllerAction where
  directive := .retireReplica
  nodeID := id
  infoHash := infoHash

def joinAction (k : ReplicaKey) (cls : ReplicaClass) : ControllerAction where
  directive := .joinSwarm
  nodeID := k.1
  infoHash := k.2
  cls := cls

def directiveCap : ℕ := 256

/-- `SwarmPolicyController`; `seeders` is the number of seeders of each torrent in the list. -/
structure SwarmPolicyController (F : Type) where
  artifacts : Finmap fun _ : Bytes => Artifact
  seeders : Finmap fun _ : Bytes => ℕ
  nodes : NodeRegistry
  replicas : NodeReplicaMap
  policy : PopularityReplicaCounter F
  directives : List ControllerAction
  heatCycles : Finmap fun _ : Bytes × NodeID => ℕ

structure VisitEnv where
  now : Time
  classifyOrder : List NodeID := []
  graceOrder : List NodeID := []
  existingOrder : List NodeID := []
  lowOrder : List NodeID := []
  standardOrder : List NodeID := []
  nodeOrder : List NodeID := []
  netOrder : List UInt16 := []

structure Visit where
  infoHash : Bytes
  deficit : ℤ
  emitted : ℤ := 0
  candidates : List NodeID

def NodeRegistry.graceExpired (r : NodeRegistry) (id : NodeID) (now : Time) : Bool :=
  match r.get id with
  | some n => n.reachState = .unreachable ∧ n.lastFlap ≠ 0 ∧ graceTTL < now - n.lastFlap
  | none => false

def heatFractionThreshold {F : Type} [Float64 F] : F := Float64.const (30 / 100)

def heatCyclePromote : ℕ := 3

/-! ## A visit -/

namespace SwarmPolicyController

variable {F : Type} (c : SwarmPolicyController F)

def send (a : ControllerAction) : Option (SwarmPolicyController F) :=
  if c.directives.length < directiveCap then some { c with directives := c.directives ++ [a] } else none

variable (infoHash : Bytes)

def retireExpired (now : Time) (c : SwarmPolicyController F) (id : NodeID) : SwarmPolicyController F :=
  match c.replicas.lookup (id, infoHash) with
  | some r =>
    if r.state.countsAsVerified && c.nodes.graceExpired id now then
      let c := { c with replicas := c.replicas.insert (id, infoHash) (r.forceEvict now) }
      (c.send (retireAction infoHash id)).getD c
    else c
  | none => c

def retireGraceExpired (env : VisitEnv) : SwarmPolicyController F :=
  env.graceOrder.foldl (retireExpired infoHash env.now) c

def sendRetirements (infoHash : Bytes) (surplus : ℤ) :
    SwarmPolicyController F → ℤ → List NodeID → SwarmPolicyController F
  | c, _, [] => c
  | c, emitted, id :: ids =>
    if surplus ≤ emitted then c
    else
      match c.send (retireAction infoHash id) with
      | some c' => sendRetirements infoHash surplus c' (emitted + 1) ids
      | none => c

def lowPriority (r : NodeReplica) : Bool := r.state.countsAsVerified && r.cls.rank ≤ ReplicaClass.cache.rank

def standardPriority (r : NodeReplica) : Bool := r.state.countsAsVerified && r.cls = .standard

def retirees (m : NodeReplicaMap) (infoHash : Bytes) (surplus : ℤ) (env : VisitEnv) : List NodeID :=
  let low := m.select infoHash env.lowOrder lowPriority
  if low.length < surplus then low ++ m.select infoHash env.standardOrder standardPriority else low

def selectRetirements (surplus : ℤ) (env : VisitEnv) : SwarmPolicyController F :=
  sendRetirements infoHash surplus c 0 (retirees c.replicas infoHash surplus env)

inductive JoinResult where
  | queued
  | full
  | refused (err : Bytes)
  deriving DecidableEq

def requestReplica (k : ReplicaKey) (r : NodeReplica) (cls : ReplicaClass)
    (now : Time) : SwarmPolicyController F × JoinResult :=
  match r.transition .requested now with
  | .error err => (c, .refused err)
  | .ok r' =>
    match c.send (joinAction k cls) with
    | some c' => ({ c' with replicas := c.replicas.insert k r' }, .queued)
    | none => ({ c with replicas := c.replicas.insert k (r'.advance now .absent) }, .full)

def considerCandidate (now : Time) (infoHash : Bytes) (deficit : ℤ) :
    SwarmPolicyController F × ℤ → NodeID → SwarmPolicyController F × ℤ
  | (c, emitted), id =>
    if deficit ≤ emitted then (c, emitted)
    else
      let (m, r) := c.replicas.getOrCreate (id, infoHash) .standard now
      let c := { c with replicas := m }
      if r.state ≠ .absent then (c, emitted)
      else
        match c.requestReplica (id, infoHash) r .standard now with
        | (c, .queued) => (c, emitted + 1)
        | (c, _) => (c, emitted)

structure EnsureRequest where
  infoHash : Bytes
  nodeID : NodeID
  cls : Bytes := []
  deriving DecidableEq

structure EnsureResult where
  infoHash : Bytes
  nodeID : NodeID
  state : Bytes
  queued : Bool
  message : Bytes
  deriving DecidableEq

def parseReplicaClass (s : Bytes) : ReplicaClass :=
  if s = lit "ephemeral" then .ephemeral
  else if s = lit "cache" then .cache
  else if s = lit "pinned" then .pinned
  else if s = lit "archival" then .archival
  else .standard

def ensureArtifact (req : EnsureRequest) (now : Time) :
    SwarmPolicyController F × Except Bytes EnsureResult :=
  let result (state : NodeReplicaState) (queued : Bool) (message : Bytes) : EnsureResult :=
    { infoHash := req.infoHash, nodeID := req.nodeID, state := state.string, queued, message }
  if (c.artifacts.lookup req.infoHash).isNone then (c, .error (lit "artifact not registered: " ++ req.infoHash))
  else if (c.nodes.get req.nodeID).isNone then
    (c, .error (lit "node not registered: " ++ Decimal.numeral req.nodeID.toNat))
  else
    let cls := parseReplicaClass req.cls
    let (m, r) := c.replicas.getOrCreate (req.nodeID, req.infoHash) cls now
    let c := { c with replicas := m }
    if r.state.countsAsVerified then (c, .ok (result r.state false (lit "already verified")))
    else if r.state ≠ .absent then (c, .ok (result r.state false (lit "in progress")))
    else
      match c.requestReplica (req.nodeID, req.infoHash) r cls now with
      | (c, .queued) => (c, .ok (result .requested true (lit "JOIN_SWARM queued")))
      | (c, .full) => (c, .error (lit "directive channel full; retry"))
      | (c, .refused err) => (c, .error err)

section

variable [Float64 F]

def classifyReplica (infoHash : Bytes) (heatmap : DemandHeatmap) (c : SwarmPolicyController F)
    (id : NodeID) : SwarmPolicyController F :=
  match c.replicas.lookup (id, infoHash), c.nodes.get id with
  | some r, some n =>
    if r.state.countsAsVerified ∧ r.cls = .ephemeral ∧ n.tier = .edge ∧ n.asn ≠ 0 then
      if Float64.lt heatFractionThreshold (heatmap.netFraction F n.net) then
        let cycles := (c.heatCycles.lookup (infoHash, id)).getD 0 + 1
        { c with
          heatCycles := c.heatCycles.insert (infoHash, id) cycles
          replicas :=
            if heatCyclePromote ≤ cycles then c.replicas.insert (id, infoHash) (r.upgradeClass .cache).1
            else c.replicas }
      else { c with heatCycles := c.heatCycles.insert (infoHash, id) 0 }
    else c
  | _, _ => c

variable (c : SwarmPolicyController F) (infoHash : Bytes) (artifact : Artifact) (env : VisitEnv)

def classifyEdgeReplicas : SwarmPolicyController F :=
  match artifact.heatmap with
  | none => c
  | some heatmap =>
    if heatmap.totalCount = 0 then c else env.classifyOrder.foldl (classifyReplica infoHash heatmap) c

def evaluatePolicy : PopularityReplicaCounter F × ℤ :=
  let rawSeeders := (c.seeders.lookup infoHash).getD 0
  c.policy.evaluate (Float64.ofInt rawSeeders) artifact.minReplicas artifact.maxReplicas

def candidates : List NodeID :=
  let existing := c.replicas.select infoHash env.existingOrder fun r => r.state ≠ .absent
  scoreCandidates F
    { existing
      existingDomains := existing.filterMap fun id => (c.nodes.get id).map NodeIdentity.domains
      hasCore := c.nodes.hasVerifiedCoreReplica infoHash c.replicas
      modalNet := artifact.heatmap.bind fun heatmap => heatmap.modalNet env.netOrder
      now := env.now }
    (c.nodes.directableNodes env.nodeOrder)

def upkeep : SwarmPolicyController F :=
  (c.classifyEdgeReplicas infoHash artifact env).retireGraceExpired infoHash env

def beginVisit : SwarmPolicyController F × Option Visit :=
  let c := c.upkeep infoHash artifact env
  let verifiedManaged : ℤ := c.replicas.verifiedCount infoHash
  let (policy, desired) := c.evaluatePolicy infoHash artifact
  let c := { c with policy }
  let deficit := desired - verifiedManaged
  if deficit ≤ 0 then
    let surplus := verifiedManaged - desired
    (if 0 < surplus then c.selectRetirements infoHash surplus env else c, none)
  else (c, some { infoHash, deficit, candidates := c.candidates infoHash artifact env })

def reconcileArtifact : SwarmPolicyController F :=
  match c.beginVisit infoHash artifact env with
  | (c, none) => c
  | (c, some v) => (v.candidates.foldl (considerCandidate env.now v.infoHash v.deficit) (c, v.emitted)).1

def reconcile (order : List Bytes) (env : Bytes → VisitEnv) : SwarmPolicyController F :=
  order.foldl (fun c infoHash =>
      match c.artifacts.lookup infoHash with
      | some artifact => c.reconcileArtifact infoHash artifact (env infoHash)
      | none => c)
    c

end

/-! ## Requests -/

structure SameView (c c' : SwarmPolicyController F) : Prop where
  artifacts : c'.artifacts = c.artifacts
  seeders : c'.seeders = c.seeders
  nodes : c'.nodes = c.nodes
  policy : c'.policy = c.policy

theorem SameView.refl (c : SwarmPolicyController F) : SameView c c := ⟨rfl, rfl, rfl, rfl⟩

theorem SameView.trans {c1 c2 c3 : SwarmPolicyController F} (h : SameView c1 c2)
    (h' : SameView c2 c3) : SameView c1 c3 :=
  ⟨h'.artifacts.trans h.artifacts, h'.seeders.trans h.seeders, h'.nodes.trans h.nodes, h'.policy.trans h.policy⟩

variable {c c' : SwarmPolicyController F} {k : ReplicaKey} {cls : ReplicaClass}

theorem send_eq_some {a : ControllerAction} (h : c.send a = some c') :
    c.directives.length < directiveCap ∧ c' = { c with directives := c.directives ++ [a] } := by
  unfold send at h
  split_ifs at h with hroom
  exact ⟨hroom, (Option.some.inj h).symm⟩

/-- **What a request can do.** -/
inductive Requests (c : SwarmPolicyController F) (k : ReplicaKey) (cls : ReplicaClass) :
    SwarmPolicyController F → Bool → Prop
  | kept {c' : SwarmPolicyController F} (hview : SameView c c') (hdirectives : c'.directives = c.directives)
      (hreplicas : ∀ k', c'.replicas.lookup k' = c.replicas.lookup k' ∨
        c.replicas.stateOf k' = .absent ∧ c'.replicas.stateOf k' = .absent) : Requests c k cls c' false
  | joined {c' : SwarmPolicyController F} (hview : SameView c c')
      (hdirectives : c'.directives = c.directives ++ [joinAction k cls])
      (habsent : c.replicas.stateOf k = .absent) (hrequested : c'.replicas.stateOf k = .requested)
      (hreplicas : ∀ k', k' ≠ k → c'.replicas.lookup k' = c.replicas.lookup k') : Requests c k cls c' true

theorem Requests.view {joined : Bool} (h : Requests c k cls c' joined) : SameView c c' := by
  cases h with
  | kept hview | joined hview => exact hview

theorem Requests.stateOf_eq
    (h : Requests c k cls c' false) (k' : ReplicaKey) : c'.replicas.stateOf k' = c.replicas.stateOf k' := by
  cases h with
  | kept _ _ hreps =>
    rcases hreps k' with hlook | ⟨hbef, haft⟩
    · unfold stateOf
      rw [hlook]
    · exact haft.trans hbef.symm

theorem Requests.drop_directives {joined : Bool} (h : Requests c k cls c' joined) :
    c'.directives.drop c.directives.length = if joined then [joinAction k cls] else [] := by
  cases h with
  | kept _ hdirs =>
    rw [hdirs, drop_length]
    rfl
  | joined _ hdirs =>
    rw [hdirs, drop_left]
    rfl

end SwarmPolicyController

namespace NodeReplicaMap

theorem getOrCreate_spec (m : NodeReplicaMap) (k : ReplicaKey) (cls : ReplicaClass) (now : Time) :
    (m.getOrCreate k cls now).2.state = m.stateOf k ∧
      (m.getOrCreate k cls now).1.lookup k = some (m.getOrCreate k cls now).2 ∧
      (m.stateOf k ≠ .absent → (m.getOrCreate k cls now).1 = m) ∧
      ∀ k', k' ≠ k → (m.getOrCreate k cls now).1.lookup k' = m.lookup k' := by
  unfold getOrCreate
  rcases hr : m.lookup k with _ | r
  · refine ⟨(stateOf_of_lookup_none hr).symm, lookup_insert m, fun hne => ?_, fun k' hk => ?_⟩
    · exact absurd (stateOf_of_lookup_none hr) hne
    · exact lookup_insert_of_ne m hk
  · exact ⟨(stateOf_of_lookup hr).symm, hr, fun _ => rfl, fun _ _ => rfl⟩

end NodeReplicaMap

namespace SwarmPolicyController

variable {F : Type}
  {r : NodeReplica} {c : SwarmPolicyController F} {k : ReplicaKey} {now : Time} {m : NodeReplicaMap} {gone : Prop}

theorem transition_requested_of_absent (h : r.state = .absent) (now : Time) :
    ∃ r', r.transition .requested now = .ok r' ∧ r'.state = .requested := by
  unfold transition
  rw [h, if_neg (by decide), if_pos (by decide)]
  exact ⟨_, rfl, rfl⟩

theorem advance_absent_of_requested (h : r.state = .requested) (now : Time) :
    (r.advance now .absent).state = .absent := by
  unfold advance transition
  rw [h, if_neg (by decide), if_pos (by decide)]

theorem requests_requestReplica
    (hr : c.replicas.lookup k = some r) (habs : r.state = .absent) (cls : ReplicaClass) (now : Time) :
    Requests c k cls (c.requestReplica k r cls now).1 (decide ((c.requestReplica k r cls now).2 = .queued)) := by
  obtain ⟨_, htrans, hst⟩ := transition_requested_of_absent habs now
  have hbef : c.replicas.stateOf k = .absent := (stateOf_of_lookup hr).trans habs
  unfold requestReplica
  rw [htrans]
  rcases hsend : c.send (joinAction k cls) with _ | _
  · refine .kept ⟨rfl, rfl, rfl, rfl⟩ rfl fun k' => ?_
    by_cases hk : k' = k
    · subst hk
      exact .inr ⟨hbef, (stateOf_insert _ _ _).trans (advance_absent_of_requested hst now)⟩
    · exact .inl (lookup_insert_of_ne _ hk)
  · obtain ⟨-, rfl⟩ := send_eq_some hsend
    refine .joined ⟨rfl, rfl, rfl, rfl⟩ rfl hbef ?_ fun k' hk => lookup_insert_of_ne _ hk
    exact (stateOf_insert _ _ _).trans hst

variable {cls : ReplicaClass} {m' : NodeReplicaMap} {infoHash : Bytes}

theorem Requests.of_getOrCreate {c' : SwarmPolicyController F} {joined : Bool} (cls' : ReplicaClass) (now : Time)
    (h : Requests { c with replicas := (c.replicas.getOrCreate k cls' now).1 } k cls c' joined) :
    Requests c k cls c' joined := by
  obtain ⟨hst, hlookup, hkeep, hother⟩ := c.replicas.getOrCreate_spec k cls' now
  have hsame : ∀ k', stateOf (c.replicas.getOrCreate k cls' now).1 k' = c.replicas.stateOf k' := by
    intro k'
    by_cases hk : k' = k
    · subst hk
      exact (stateOf_of_lookup hlookup).trans hst
    · unfold stateOf
      rw [hother k' hk]
  cases h with
  | kept hview hdirs hreps =>
    refine .kept ⟨hview.1, hview.2, hview.3, hview.4⟩ hdirs fun k' => ?_
    rcases hreps k' with hlook | ⟨hbef, haft⟩
    · by_cases hk : k' = k
      · subst hk
        by_cases habs : c.replicas.stateOf k' = .absent
        · refine .inr ⟨habs, ?_⟩
          unfold stateOf
          rw [hlook]
          exact (hsame k').trans habs
        · rw [hlook]
          exact .inl (by rw [hkeep habs])
      · exact .inl (hlook.trans (hother k' hk))
    · exact .inr ⟨(hsame k').symm.trans hbef, haft⟩
  | joined hview hdirs habs hrequested hreps =>
    exact .joined ⟨hview.1, hview.2, hview.3, hview.4⟩ hdirs ((hsame k).symm.trans habs) hrequested
      fun k' hk => (hreps k' hk).trans (hother k' hk)

theorem requests_found (hgot : c.replicas.getOrCreate k cls now = (m, r)) :
    Requests c k cls { c with replicas := m } false ∧
      (r.state = .absent → ∀ c' result, requestReplica { c with replicas := m } k r cls now = (c', result) →
        Requests c k cls c' (decide (result = .queued))) := by
  have hof : ∀ {c' : SwarmPolicyController F} {joined : Bool},
      Requests { c with replicas := m } k cls c' joined → Requests c k cls c' joined := by
    intro c' joined h
    refine .of_getOrCreate cls now ?_
    rw [hgot]
    exact h
  have hlook := (c.replicas.getOrCreate_spec k cls now).2.1
  rw [hgot] at hlook
  refine ⟨hof (.kept (.refl _) rfl fun _ => .inl rfl), fun habs c' result hres => hof ?_⟩
  have hreq := requests_requestReplica (c := { c with replicas := m }) hlook habs cls now
  rwa [hres] at hreq

theorem considerCandidate_spec (now : Time) (infoHash : Bytes) (deficit : ℤ)
    (c : SwarmPolicyController F) (emitted : ℤ) (id : NodeID) :
    ∃ joined, Requests c (id, infoHash) .standard
      (considerCandidate now infoHash deficit (c, emitted) id).1 joined ∧
      (considerCandidate now infoHash deficit (c, emitted) id).2 = (if joined then emitted + 1 else emitted) ∧
      (joined = true → emitted < deficit) := by
  rcases hgot : c.replicas.getOrCreate (id, infoHash) .standard now with ⟨m, r⟩
  obtain ⟨hcreated, hreq⟩ := requests_found hgot
  simp only [considerCandidate, hgot]
  by_cases hmet : deficit ≤ emitted
  · rw [if_pos hmet]
    exact ⟨false, .kept (.refl _) rfl fun _ => .inl rfl, rfl, fun h => by cases h⟩
  · rw [if_neg hmet]
    by_cases habs : r.state = .absent
    · rw [if_neg (not_not.2 habs)]
      rcases hres : requestReplica { c with replicas := m } (id, infoHash) r .standard now with ⟨c', result⟩
      have hasked := hreq habs c' result hres
      cases result with
      | queued => exact ⟨true, hasked, rfl, fun _ => not_le.1 hmet⟩
      | full | refused => exact ⟨false, hasked, rfl, fun h => by cases h⟩
    · rw [if_pos habs]
      exact ⟨false, hcreated, rfl, fun h => by cases h⟩

variable (c : SwarmPolicyController F)

theorem ensureArtifact_spec (req : EnsureRequest) (now : Time) :
    ∃ joined, Requests c (req.nodeID, req.infoHash) (parseReplicaClass req.cls)
    (c.ensureArtifact req now).1 joined := by
  rcases hgot : c.replicas.getOrCreate (req.nodeID, req.infoHash) (parseReplicaClass req.cls) now with ⟨m, r⟩
  obtain ⟨hcreated, hreq⟩ := requests_found hgot
  have href : Requests c (req.nodeID, req.infoHash) (parseReplicaClass req.cls) c false :=
    .kept (.refl _) rfl fun _ => .inl rfl
  simp only [ensureArtifact, hgot]
  split_ifs with hart hnode hver hprog
  · exact ⟨false, href⟩
  · exact ⟨false, href⟩
  · exact ⟨false, hcreated⟩
  · exact ⟨false, hcreated⟩
  · rcases hres : requestReplica { c with replicas := m } (req.nodeID, req.infoHash) r
      (parseReplicaClass req.cls) now with ⟨c', result⟩
    have hasked := hreq (not_not.1 hprog) c' result hres
    cases result with
    | queued => exact ⟨true, hasked⟩
    | full | refused => exact ⟨false, hasked⟩

/-! ## The upkeep -/

/-- **What the upkeep may do to one replica**: an EPHEMERAL one may become CACHE, and a verified one
is evicted if its node is `gone`. -/
inductive Upkept (gone : Prop) : Option NodeReplica → Option NodeReplica → Prop
  | none : Upkept gone none none
  | some {r r' : NodeReplica} (hcls : r'.cls = r.cls ∨ r.cls = .ephemeral ∧ r'.cls = .cache)
      (hstate : r'.state = r.state ∨ r.state.countsAsVerified = true ∧ r'.state = .absent ∧ gone) :
      Upkept gone (some r) (some r')

theorem Upkept.refl (gone : Prop) (o : Option NodeReplica) : Upkept gone o o := by
  cases o with
  | none => exact .none
  | some => exact .some (.inl rfl) (.inl rfl)

theorem Upkept.trans {o1 o2 o3 : Option NodeReplica} (h : Upkept gone o1 o2)
    (h' : Upkept gone o2 o3) : Upkept gone o1 o3 := by
  cases h with
  | none => exact h'
  | some hcls hst =>
    cases h' with
    | some hcls' hst' =>
      refine .some ?_ ?_
      · rcases hcls' with hsame | ⟨heph, hcache⟩
        · rw [hsame]
          exact hcls
        · rcases hcls with hsame | ⟨-, hcache'⟩
          · exact .inr ⟨hsame.symm.trans heph, hcache⟩
          · rw [heph] at hcache'
            cases hcache'
      · rcases hst' with hsame | ⟨hver, hgone⟩
        · rw [hsame]
          exact hst
        · rcases hst with hsame | ⟨-, habs, -⟩
          · rw [hsame] at hver
            exact .inr ⟨hver, hgone⟩
          · rw [habs] at hver
            cases hver

structure Upkeep (infoHash : Bytes) (now : Time) (c c' : SwarmPolicyController F) : Prop where
  view : SameView c c'
  replicas : ∀ k, Upkept (k.2 = infoHash ∧ c.nodes.graceExpired k.1 now = true)
    (c.replicas.lookup k) (c'.replicas.lookup k)
  sent : ∃ as, c'.directives = c.directives ++ as ∧
    ∀ a ∈ as, a.directive = .retireReplica ∧ a.infoHash = infoHash ∧ c.nodes.graceExpired a.nodeID now = true ∧
      (c.replicas.stateOf (a.nodeID, infoHash)).countsAsVerified = true

theorem Upkept.stateOf (h : Upkept gone (m.lookup k) (m'.lookup k)) :
    m'.stateOf k = m.stateOf k ∨ (m.stateOf k).countsAsVerified = true ∧ m'.stateOf k = .absent ∧ gone := by
  unfold NodeReplicaMap.stateOf
  generalize m.lookup k = pre, m'.lookup k = post at h
  cases h with
  | none => exact .inl rfl
  | some _ hst => exact hst

theorem Upkept.countsAsVerified (h : Upkept gone (m.lookup k) (m'.lookup k))
    (hver : (m'.stateOf k).countsAsVerified = true) : (m.stateOf k).countsAsVerified = true := by
  rcases h.stateOf with hsame | ⟨hbef, -, -⟩
  · rwa [hsame] at hver
  · exact hbef

theorem Upkeep.refl (infoHash : Bytes) (now : Time) (c : SwarmPolicyController F) : Upkeep infoHash now c c :=
  ⟨.refl c, fun _ => .refl _ _, [], (append_nil _).symm, fun a ha => by cases ha⟩

theorem Upkeep.trans {c1 c2 c3 : SwarmPolicyController F}
    (h : Upkeep infoHash now c1 c2) (h' : Upkeep infoHash now c2 c3) : Upkeep infoHash now c1 c3 := by
  obtain ⟨as, has, hfirst⟩ := h.sent
  obtain ⟨bs, hbs, hsecond⟩ := h'.sent
  have hnodes := h.view.nodes
  refine ⟨h.view.trans h'.view, fun k => (h.replicas k).trans ?_, as ++ bs, ?_, fun a ha => ?_⟩
  · have hk := h'.replicas k
    rwa [hnodes] at hk
  · rw [hbs, has, append_assoc]
  · rcases mem_append.1 ha with ha | ha
    · exact hfirst a ha
    · obtain ⟨hdir, hhash, hgone, hver⟩ := hsecond a ha
      rw [hnodes] at hgone
      exact ⟨hdir, hhash, hgone, (h.replicas _).countsAsVerified hver⟩

theorem upkept_insert (gone : ReplicaKey → Prop) {r' : NodeReplica}
    (hr : m.lookup k = some r) (h : Upkept (gone k) (some r) (some r')) (k' : ReplicaKey) :
    Upkept (gone k') (m.lookup k') ((m.insert k r').lookup k') := by
  by_cases hk : k' = k
  · subst hk
    rw [hr, lookup_insert]
    exact h
  · rw [lookup_insert_of_ne m hk]
    exact .refl _ _

theorem upkeep_retireExpired (infoHash : Bytes) (now : Time) (c : SwarmPolicyController F)
    (id : NodeID) : Upkeep infoHash now c (retireExpired infoHash now c id) := by
  unfold retireExpired
  rcases hr : c.replicas.lookup (id, infoHash) with _ | r
  · exact .refl _ _ _
  · dsimp only
    split_ifs with hexp
    · obtain ⟨hver, hgone⟩ := (Bool.and_eq_true _ _).mp hexp
      have hevicted : ∀ k', Upkept (k'.2 = infoHash ∧ c.nodes.graceExpired k'.1 now = true) (c.replicas.lookup k')
          ((c.replicas.insert (id, infoHash) (r.forceEvict now)).lookup k') := by
        refine upkept_insert (fun k' => k'.2 = infoHash ∧ c.nodes.graceExpired k'.1 now = true) hr
          (.some (.inl (r.forceEvict_cls now)) (.inr ⟨hver, ?_, rfl, hgone⟩))
        rw [forceEvict_state, if_pos hver]
      rcases hsend : send { c with replicas := c.replicas.insert (id, infoHash) (r.forceEvict now) }
        (retireAction infoHash id) with _ | c'
      · exact ⟨⟨rfl, rfl, rfl, rfl⟩, hevicted, [], (append_nil _).symm, fun a ha => by cases ha⟩
      · obtain ⟨-, rfl⟩ := send_eq_some hsend
        refine ⟨⟨rfl, rfl, rfl, rfl⟩, hevicted, [retireAction infoHash id], rfl, fun a ha => ?_⟩
        obtain rfl := mem_singleton.1 ha
        refine ⟨rfl, rfl, hgone, ?_⟩
        exact (congrArg NodeReplicaState.countsAsVerified (stateOf_of_lookup hr)).trans hver
    · exact .refl _ _ _

theorem upkeep_foldl {f : SwarmPolicyController F → NodeID → SwarmPolicyController F}
    (hf : ∀ c id, Upkeep infoHash now c (f c id)) (order : List NodeID)
    (c : SwarmPolicyController F) : Upkeep infoHash now c (order.foldl f c) := by
  induction order generalizing c with
  | nil => exact .refl _ _ _
  | cons id _ ih => exact (hf c id).trans (ih (f c id))

/-! ## Retirements -/

theorem sendRetirements_eq (infoHash : Bytes) (surplus : ℤ) (ids : List NodeID) (c : SwarmPolicyController F)
    (emitted : ℤ) : sendRetirements infoHash surplus c emitted ids = { c with
        directives := c.directives ++ ((ids.take (surplus - emitted).toNat).map (retireAction infoHash)).take
            (directiveCap - c.directives.length) } := by
  induction ids generalizing c emitted with
  | nil => simp [sendRetirements]
  | cons id _ ih =>
    unfold sendRetirements
    by_cases hmet : surplus ≤ emitted
    · have hzero : (surplus - emitted).toNat = 0 := by omega
      rw [if_pos hmet, hzero]
      simp
    · rw [if_neg hmet]
      have hleft : (surplus - emitted).toNat = (surplus - (emitted + 1)).toNat + 1 := by omega
      by_cases hroom : c.directives.length < directiveCap
      · have hsend : c.send (retireAction infoHash id) =
            some { c with directives := c.directives ++ [retireAction infoHash id] } := if_pos hroom
        have hplaces : directiveCap - c.directives.length =
            directiveCap - (c.directives ++ [retireAction infoHash id]).length + 1 := by
          rw [length_append, length_singleton]
          omega
        rw [hsend]
        dsimp only
        rw [ih, hleft, hplaces, take_succ_cons, map_cons, take_succ_cons]
        simp
      · have hsend : c.send (retireAction infoHash id) = none := if_neg hroom
        have hfull : directiveCap - c.directives.length = 0 := by omega
        rw [hsend, hfull]
        simp

def retirements (infoHash : Bytes) (surplus : ℤ) (env : VisitEnv) : List NodeID :=
  ((retirees c.replicas infoHash surplus env).take surplus.toNat).take (directiveCap - c.directives.length)

theorem selectRetirements_eq (infoHash : Bytes) (surplus : ℤ) (env : VisitEnv) :
    c.selectRetirements infoHash surplus env = { c with
      directives := c.directives ++ (c.retirements infoHash surplus env).map (retireAction infoHash) } := by
  unfold selectRetirements retirements
  rw [sendRetirements_eq, sub_zero, ← map_take]

section

variable [Float64 F]

theorem upkeep_classifyReplica (infoHash : Bytes) (now : Time) (heatmap : DemandHeatmap)
    (c : SwarmPolicyController F)
    (id : NodeID) : Upkeep infoHash now c (classifyReplica infoHash heatmap c id) := by
  unfold classifyReplica
  rcases hr : c.replicas.lookup (id, infoHash) with _ | r
  · exact .refl _ _ _
  rcases hn : c.nodes.get id with _ | n
  · exact .refl _ _ _
  dsimp only
  have hquiet : ∀ m, (∀ k, Upkept (k.2 = infoHash ∧ c.nodes.graceExpired k.1 now = true) (c.replicas.lookup k)
      (Finmap.lookup k m)) → ∀ heat, Upkeep infoHash now c { c with heatCycles := heat, replicas := m } :=
    fun m hm heat => ⟨⟨rfl, rfl, rfl, rfl⟩, hm, [], (append_nil _).symm, fun a ha => by cases ha⟩
  split_ifs with hedge hhot hcycles
  · refine hquiet _ ?_ _
    refine upkept_insert (fun k => k.2 = infoHash ∧ c.nodes.graceExpired k.1 now = true) hr
      (.some (.inr ⟨hedge.2.1, ?_⟩) (.inl (r.upgradeClass_state _)))
    unfold upgradeClass
    rw [hedge.2.1, if_pos (by decide)]
  · exact hquiet _ (fun _ => .refl _ _) _
  · exact hquiet _ (fun _ => .refl _ _) _
  · exact .refl _ _ _

variable (c : SwarmPolicyController F) (infoHash : Bytes) (artifact : Artifact) (env : VisitEnv)

theorem upkeep_upkeep : Upkeep infoHash env.now c (c.upkeep infoHash artifact env) := by
  have hclassified : Upkeep infoHash env.now c (c.classifyEdgeReplicas infoHash artifact env) := by
    unfold classifyEdgeReplicas
    split
    · exact .refl _ _ _
    · split_ifs
      · exact .refl _ _ _
      · exact upkeep_foldl (fun c id => upkeep_classifyReplica infoHash env.now _ c id) _ c
  exact hclassified.trans (upkeep_foldl (upkeep_retireExpired infoHash env.now) _ _)

theorem evaluatePolicy_upkeep :
    (c.upkeep infoHash artifact env).evaluatePolicy infoHash artifact = c.evaluatePolicy infoHash artifact := by
  have hview := (c.upkeep_upkeep infoHash artifact env).view
  unfold evaluatePolicy
  rw [hview.seeders, hview.policy]

def observed :
    SwarmPolicyController F :=
      { c.upkeep infoHash artifact env with policy := (c.evaluatePolicy infoHash artifact).1 }

theorem beginVisit_cases :
    ((c.evaluatePolicy infoHash artifact).2 ≤ (c.observed infoHash artifact env).replicas.verifiedCount infoHash ∧
      c.beginVisit infoHash artifact env =
        ((c.observed infoHash artifact env).selectRetirements infoHash
          ((c.observed infoHash artifact env).replicas.verifiedCount infoHash -
            (c.evaluatePolicy infoHash artifact).2) env, none)) ∨
    ((c.observed infoHash artifact env).replicas.verifiedCount infoHash < (c.evaluatePolicy infoHash artifact).2 ∧
      c.beginVisit infoHash artifact env =
        (c.observed infoHash artifact env,
          some
            { infoHash
              deficit := (c.evaluatePolicy infoHash artifact).2 -
                (c.observed infoHash artifact env).replicas.verifiedCount infoHash
              candidates := (c.observed infoHash artifact env).candidates infoHash artifact env })) := by
  have hpol := c.evaluatePolicy_upkeep infoHash artifact env
  rcases heval : c.evaluatePolicy infoHash artifact with ⟨_, desired⟩
  rw [heval] at hpol
  unfold observed beginVisit
  simp only [hpol, heval]
  by_cases hdef : desired - ((c.upkeep infoHash artifact env).replicas.verifiedCount infoHash : ℤ) ≤ 0
  · refine .inl ⟨by omega, ?_⟩
    rw [if_pos hdef]
    congr 1
    split_ifs with hsurplus
    · rfl
    · -- nothing to retire: the loop stops at once
      rw [selectRetirements_eq]
      unfold retirements
      rw [Int.toNat_of_nonpos (not_lt.1 hsurplus)]
      simp
  · refine .inr ⟨by omega, ?_⟩
    rw [if_neg hdef]

theorem beginVisit_replicas :
    (c.beginVisit infoHash artifact env).1.replicas = (c.upkeep infoHash artifact env).replicas := by
  rcases c.beginVisit_cases infoHash artifact env with ⟨-, heq⟩ | ⟨-, heq⟩
  · rw [heq, selectRetirements_eq]
    rfl
  · rw [heq]
    rfl

theorem beginVisit_directives :
    ∃ as, (c.beginVisit infoHash artifact env).1.directives = c.directives ++ as ∧
      ∀ a ∈ as, a.directive = .retireReplica ∧ a.infoHash = infoHash := by
  obtain ⟨as, has, hret⟩ := (c.upkeep_upkeep infoHash artifact env).sent
  rcases c.beginVisit_cases infoHash artifact env with ⟨-, heq⟩ | ⟨-, heq⟩
  · obtain ⟨surplus, heq⟩ : ∃ surplus, c.beginVisit infoHash artifact env =
        ((c.observed infoHash artifact env).selectRetirements infoHash surplus env, none) := ⟨_, heq⟩
    rw [heq, selectRetirements_eq]
    refine ⟨as ++ ((c.observed infoHash artifact env).retirements infoHash surplus env).map
      (retireAction infoHash),
      ?_, fun a ha => ?_⟩
    · rw [← append_assoc, ← has]
      rfl
    · rcases mem_append.1 ha with ha | ha
      · exact ⟨(hret a ha).1, (hret a ha).2.1⟩
      · obtain ⟨_, -, rfl⟩ := mem_map.1 ha
        exact ⟨rfl, rfl⟩
  · rw [heq]
    exact ⟨as, has, fun a ha => ⟨(hret a ha).1, (hret a ha).2.1⟩⟩

end

end SwarmPolicyController

end Ocelot.Tracker
