/-
# Placement: hard constraints, then a score (`virtualserver/scheduler`).
-/
import Ocelot.Lib.Float64
import Ocelot.Lib.InsertionSort
import Ocelot.VirtualServer.Programs

namespace Ocelot.VirtualServer

open Tracker (Bytes lit)

inductive Rejection where
  | state (s : NodeState)
  | architecture
  | label (key value : Bytes)
  | excluded
  | cpu
  | ram
  | noSuchVRAM
  | tooFewGPUs
  | noGPU
  deriving DecidableEq

def gpuRejections (n : Node) (gpu : GPURequest) : List Rejection :=
  let eligible := (n.eligibleGPUs gpu.minVRAMMiB).length
  if gpu.required ∧ (eligible : ℤ) < gpu.count then
    (if 0 < gpu.minVRAMMiB then [.noSuchVRAM] else []) ++
      if n.gpuDevices = [] then [.noGPU] else [.tooFewGPUs]
  else []

def hardFilter (n : Node) (spec : ServiceSpec) : List Rejection :=
  if n.state ≠ .ready then [.state n.state]
  else
    (if spec.placement.requiredArch ≠ [] ∧ n.arch ≠ spec.placement.requiredArch then [.architecture] else []) ++
    ((spec.placement.requiredLabels.filter fun e => n.labels.get e.1 ≠ e.2).map fun e => .label e.1 e.2) ++
    ((spec.placement.excludedNodes.filter fun x => n.name = x || n.id = x).map fun _ => .excluded) ++
    -- the threads of the node, not those that are left
    (if 0 < spec.resources.cpuThreads ∧ n.cpuThreads < spec.resources.cpuThreads then [.cpu] else []) ++
    (if 0 < spec.resources.ramMiB ∧ n.availRAMMiB < spec.resources.ramMiB then [.ram] else []) ++
    gpuRejections n spec.resources.gpu

structure Weights (F : Type) where
  health : F
  capacityFit : F
  acceleratorFit : F
  dataLocality : F
  reliability : F
  preferredNodeBonus : F
  existingLoadPenalty : F
  artifactTransfer : F

section

variable {F : Type} [Float64 F]

def defaultWeights : Weights F where
  health := Float64.const 0.20
  capacityFit := Float64.const 0.20
  acceleratorFit := Float64.const 0.20
  dataLocality := Float64.const 0.15
  reliability := Float64.const 0.15
  preferredNodeBonus := Float64.const 0.10
  existingLoadPenalty := Float64.const 0.05
  artifactTransfer := Float64.const 0.10

variable (n : Node)

def healthScore : F :=
  match n.state with
  | .ready => Float64.const 1
  | .degraded => Float64.const 0.5
  | _ => Float64.const 0

def existingLoadPenaltyScore : F :=
  if n.cpuThreads = 0 then Float64.const 0
  else
    let ratio : F := Float64.ofInt n.activeInstances / Float64.ofInt n.cpuThreads
    if Float64.lt (Float64.const 1) ratio then Float64.const 1 else ratio

variable (spec : ServiceSpec)

def capacityFitScore : F :=
  if n.totalRAMMiB = 0 then Float64.const 0
  else
    let ramRatio : F := Float64.ofInt n.availRAMMiB / Float64.ofInt n.totalRAMMiB
    let cpuRatio : F :=
      if 0 < n.cpuThreads ∧ 0 < spec.resources.cpuThreads then
        Float64.ofInt (max 0 (n.availCPUThreads - spec.resources.cpuThreads)) / Float64.ofInt n.cpuThreads
      else Float64.const 1
    ramRatio * Float64.const 0.5 + cpuRatio * Float64.const 0.5

def acceleratorFitScore : F :=
  let eligible := n.eligibleGPUs spec.resources.gpu.minVRAMMiB
  if !spec.resources.gpu.required || eligible.isEmpty || n.totalGPUVRAMMiB = 0 then Float64.const 0
  else Float64.ofInt ((eligible.map GPUDevice.vramMiB).foldl max 0) / Float64.ofInt n.totalGPUVRAMMiB

def dataLocalityScore : F :=
  if spec.placement.preferredLocation = [] then Float64.const 0.5
  else if n.location = spec.placement.preferredLocation then Float64.const 1
  else Float64.const 0

def preferredNodeScore : F :=
  if spec.placement.preferredNodes.any fun pref => n.name = pref || n.id = pref then Float64.const 1
    else Float64.const 0

def artifactTransferScore (catalog : Bool) (spec : ServiceSpec) : Program F :=
  if !catalog || spec.artifact.type ≠ lit "ocelot" || spec.artifact.infoHash = [] then return Float64.const 0
  else do
    let available ← lookup spec.artifact.infoHash
    return if available then Float64.const 0 else Float64.const 1

def computeScore (catalog : Bool) (w : Weights F) (spec : ServiceSpec) (n : Node) : Program F := do
  let artifact ← artifactTransferScore catalog spec
  let score : F :=
    w.health * healthScore n + w.capacityFit * capacityFitScore n spec + w.acceleratorFit *
      acceleratorFitScore n spec +
      w.dataLocality * dataLocalityScore n spec + w.reliability * Float64.const 1 +
      w.preferredNodeBonus * preferredNodeScore n spec - w.artifactTransfer * artifact -
      w.existingLoadPenalty * existingLoadPenaltyScore n
  return if Float64.lt score (Float64.const 0) then Float64.const 0 else score

end

section

variable {F : Type} [Float64 F]

def candidates (spec : ServiceSpec) (score : Node → Program F) : List Node → Program (List (Node × F))
  | [] => return []
  | n :: nodes =>
    if hardFilter n spec = [] then do
      let x ← score n
      let rest ← candidates spec score nodes
      return (n, x) :: rest
    else candidates spec score nodes

def standsBefore (a b : Node × F) : Bool :=
  if Float64.le a.2 b.2 && Float64.le b.2 a.2 then byteOrder a.1.name < byteOrder b.1.name else Float64.lt b.2 a.2

def schedule (spec : ServiceSpec) (score : Node → Program F) (nodes : List Node) : Program (Option Node) := do
  let found ← candidates spec score nodes
  return (InsertionSort.sort standsBefore found).head?.map Prod.fst

end

end Ocelot.VirtualServer
