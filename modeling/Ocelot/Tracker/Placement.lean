/-
# Which nodes are asked first (`tracker/swarm_controller.go`).
-/
import Ocelot.Tracker.Replica
import Ocelot.Tracker.DemandHeatmap
import Ocelot.Lib.InsertionSort

namespace Ocelot.Tracker

structure Artifact where
  minReplicas : ℤ
  maxReplicas : ℤ
  heatmap : Option DemandHeatmap := none

inductive FailureDomain where
  | host | rack | site
  deriving DecidableEq

def FailureDomainLabels.label (f : FailureDomainLabels) : FailureDomain → Bytes
  | .host => f.host
  | .rack => f.rack
  | .site => f.site

def FailureDomainLabels.sharesDomainWith (f other : FailureDomainLabels) (domain : FailureDomain) : Bool :=
  f.label domain ≠ [] && f.label domain = other.label domain

/-- `WANBudget.IsNearCap`.  It is called on a copy of the budget, so the reset is not kept. -/
def WANBudget.isNearCap (F : Type) [Float64 F] (b : WANBudget) (now : Time) : Bool :=
  if b.limitBytesPerDay ≤ 0 then false
  else
    let b := b.resetIfNewDay now
    Float64.le (Float64.const (9 / 10) : F)
      (Float64.ofInt b.usedBytesThisDay.toInt / Float64.ofInt b.limitBytesPerDay.toInt)

def NodeTier.placementBonus (F : Type) [Float64 F] : NodeTier → F
  | .core => Float64.const (15 / 100)
  | .regional => Float64.const (5 / 100)
  | .edge => Float64.const 0

def NodeIdentity.net (n : NodeIdentity) : UInt16 := (n.asn &&& 0xFFFF).toUInt16

namespace NodeRegistry

def directableNodes (r : NodeRegistry) (order : List NodeID) : List (NodeID × NodeIdentity) :=
  order.filterMap fun id => (r.get id).bind fun n => if n.isDirectable then some (id, n) else none

def hasVerifiedCoreReplica (r : NodeRegistry) (infoHash : Bytes) (replicas : NodeReplicaMap) : Bool :=
  decide (∃ id ∈ r.nodes.keys,
    ((r.get id).map NodeIdentity.tier) = some .core ∧ (replicas.stateOf (id, infoHash)).countsAsVerified = true)

end NodeRegistry

structure PlacementWeights (F : Type) where
  storage : F
  reliability : F
  bandwidth : F
  localArtifact : F
  compute : F
  proximity : F
  antiAffinity : F

structure PlacementInput (F : Type) where
  storageScore : F
  reliability : F
  bandwidthScore : F
  hasArtifact : F
  computeScore : F
  proximityScore : F
  tierBonus : F
  affinityPenalty : F

section

variable {F : Type} [Float64 F]

def defaultPlacementWeights : PlacementWeights F where
  storage := Float64.const (22 / 100)
  reliability := Float64.const (18 / 100)
  bandwidth := Float64.const (18 / 100)
  localArtifact := Float64.const (12 / 100)
  compute := Float64.const (8 / 100)
  proximity := Float64.const (15 / 100)
  antiAffinity := Float64.const (7 / 100)

def PlacementWeights.score (w : PlacementWeights F) (input : PlacementInput F) : F :=
  w.storage * input.storageScore + w.reliability * input.reliability + w.bandwidth * input.bandwidthScore +
    w.localArtifact * input.hasArtifact + w.compute * input.computeScore + w.proximity * input.proximityScore +
    input.tierBonus - w.antiAffinity * input.affinityPenalty

def clamp01 (v : F) : F :=
  if Float64.lt v (Float64.const 0) then Float64.const 0
  else if Float64.lt (Float64.const 1) v then Float64.const 1
  else v

def sharedDomain (candidate existing : FailureDomainLabels) : ℕ :=
  if candidate.sharesDomainWith existing .host then 3
  else if candidate.sharesDomainWith existing .rack then 2
  else if candidate.sharesDomainWith existing .site then 1
  else 0

def antiAffinityPenalty (candidate : FailureDomainLabels) (existing : List FailureDomainLabels) : F :=
  if existing.length = 0 then Float64.const 0
  else
    let shared := (existing.map (sharedDomain candidate)).sum
    clamp01 (Float64.ofInt shared / Float64.ofInt (3 * existing.length))

structure PlacementContext where
  existing : List NodeID
  existingDomains : List FailureDomainLabels
  hasCore : Bool
  modalNet : Option UInt16
  now : Time

def PlacementContext.scoreNode (F : Type) [Float64 F] (ctx : PlacementContext) (id : NodeID)
    (n : NodeIdentity) : Option F :=
  if ctx.existing.contains id then none
  else if n.wan.isNearCap F ctx.now then none
  else if n.tier = .edge ∧ ctx.hasCore = false then none
  else
    let storageScore : F :=
      if 0 < n.caps.storageTotalBytes then
        Float64.ofInt n.caps.storageFreeBytes.toInt / Float64.ofInt n.caps.storageTotalBytes.toInt
      else Float64.const 0
    let proxScore : F :=
      match ctx.modalNet with
      | some modal => if n.asn ≠ 0 then netAffinity F n.net modal else Float64.const 0
      | none => Float64.const 0
    some (defaultPlacementWeights.score
      { storageScore := clamp01 storageScore
        reliability := Float64.const (9 / 10)
        bandwidthScore := Float64.const (1 / 2)
        hasArtifact := Float64.const 0
        computeScore := Float64.const (1 / 2)
        proximityScore := proxScore
        tierBonus := n.tier.placementBonus F
        affinityPenalty := antiAffinityPenalty n.domains ctx.existingDomains })

def scoreCandidates (F : Type) [Float64 F] (ctx : PlacementContext)
    (reachable : List (NodeID × NodeIdentity)) : List NodeID :=
  let candidates := reachable.filterMap fun p => (ctx.scoreNode F p.1 p.2).map fun score => (p.1, score)
  (InsertionSort.sort (fun a b => Float64.lt b.2 a.2) candidates).map Prod.fst

end

end Ocelot.Tracker
