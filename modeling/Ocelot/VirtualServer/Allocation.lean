/-
# What `AllocateResources` and `ReleaseAllocation` do (`allocation_store.go`).
-/
import Ocelot.Lib.Run
import Ocelot.VirtualServer.Store

namespace Ocelot.VirtualServer

open Tables Table GPURow

/-! ## Holdings -/

namespace Tables

variable (t : Tables)

def activeSum (f : Allocation → ℤ) : ℤ := t.allocations.sum fun _ a => if a.isActive then f a else 0

def held (column : Allocation → ℤ) (n : NodeID) : ℤ := t.activeSum fun a => if a.nodeID = n then column a else 0

def holdsGPU (n : NodeID) (d : ℤ) (a : Allocation) : Bool :=
  a.isActive && (a.nodeID = n && a.gpuDeviceIndex = some d)

def holders (n : NodeID) (d : ℤ) : ℕ := t.allocations.count fun _ a => holdsGPU n d a

theorem holders_eq (n : NodeID) (d : ℤ) :
    (t.holders n d : ℤ) = t.activeSum fun a => if a.nodeID = n ∧ a.gpuDeviceIndex = some d then 1 else 0 := by
  unfold holders activeSum
  rw [count_eq_sum]
  congr 1
  funext _ a
  by_cases ha : a.isActive = true <;> simp [holdsGPU, ha]

theorem activeAllocation_eq_some {t : Tables} {i : InstanceID} {a : Allocation} :
    t.activeAllocation i = some a ↔ t.allocations.lookup i = some a ∧ a.isActive = true := by
  rw [activeAllocation, Option.filter_eq_some_iff]

theorem lookup_giveBack (node : NodeID) (cpu ram : ℤ) (n : NodeID) :
    (t.giveBack node cpu ram).lookup n = (t.nodes.lookup n).map fun row =>
        if n = node then
          { row with availRAMMiB := row.availRAMMiB + ram, availCPUThreads := row.availCPUThreads + cpu }
        else row := by
  rw [giveBack, lookup_modify]
  simp only [decide_eq_true_eq]

/-! ## Allocation -/

def newAllocation (env : Env) (node : NodeID) (cpu ram : ℤ) (gpu : Option ℤ) : Allocation where
  nodeID := node
  cpuThreads := cpu
  ramMiB := ram
  gpuDeviceIndex := gpu
  allocatedAt := unix env.now
  releasedAt := none

structure Admits (t : Tables) (i : InstanceID) (node : NodeID) (cpu ram : ℤ) : Prop where
  node : ∃ row, t.nodes.lookup node = some row ∧ ram ≤ row.availRAMMiB ∧ (0 < cpu → cpu ≤ row.availCPUThreads)
  known : t.instances.lookup i ≠ none
  fresh : t.allocations.lookup i = none

def Booked (t t' : Tables) (env : Env) (i : InstanceID) (node : NodeID) (cpu ram : ℤ) (gpu : Option ℤ) : Prop :=
  ∃ allocations, t.allocations.insert i (newAllocation env node cpu ram gpu) = some allocations ∧ t' = { t with
      allocations
      nodes := t.giveBack node (-cpu) (-ram)
      gpus := t.flagGPU node gpu true }

variable {t t' : Tables} {env : Env} {i : InstanceID} {node : NodeID} {cpu ram : ℤ} {gpu : Option ℤ}

theorem allocateResources_cases (t : Tables) (env : Env) (i : InstanceID) (node : NodeID)
    (cpu ram : ℤ) (gpu : Option ℤ) :
    (∃ t', t.allocateResources env i node cpu ram gpu = .ok t' ∧ t.Admits i node cpu ram ∧
        gpu.any (t.gpuAllocated env node) = false ∧ t.Booked t' env i node cpu ram gpu) ∨
      (∃ e, t.allocateResources env i node cpu ram gpu = .error e) ∧
        ¬ (t.Admits i node cpu ram ∧ gpu.any (t.gpuAllocated env node) = false) := by
  unfold allocateResources
  cases hnode : t.nodes.lookup node with
  | none =>
    refine .inr ⟨⟨_, rfl⟩, fun h => ?_⟩
    obtain ⟨row, hrow, -⟩ := h.1.node
    rw [hnode] at hrow
    cases hrow
  | some row =>
    have hrow : ∀ h : t.Admits i node cpu ram, ram ≤ row.availRAMMiB ∧ (0 < cpu → cpu ≤ row.availCPUThreads) := by
      intro h
      obtain ⟨_, hrow', hfits⟩ := h.node
      rw [hnode] at hrow'
      cases hrow'
      exact hfits
    by_cases hram : row.availRAMMiB < ram
    · simp only [hram, if_true]
      refine .inr ⟨⟨_, rfl⟩, fun h => ?_⟩
      have hle := (hrow h.1).1
      omega
    by_cases hcpu : 0 < cpu ∧ row.availCPUThreads < cpu
    · simp only [hram, hcpu, if_false, and_self, if_true]
      refine .inr ⟨⟨_, rfl⟩, fun h => ?_⟩
      have hle := (hrow h.1).2 hcpu.1
      omega
    by_cases hgpu : gpu.any (t.gpuAllocated env node) = true
    · simp only [hram, hcpu, hgpu, if_false, if_true]
      refine .inr ⟨⟨_, rfl⟩, fun h => ?_⟩
      simp at h
    by_cases hknown : t.instances.lookup i = none
    · simp only [hram, hcpu, hgpu, hknown, if_false, if_true]
      exact .inr ⟨⟨_, rfl⟩, fun h => h.1.known hknown⟩
    simp only [hram, hcpu, hgpu, hknown, if_false]
    cases hins : t.allocations.insert i
        { nodeID := node, cpuThreads := cpu, ramMiB := ram, gpuDeviceIndex := gpu, allocatedAt := unix env.now,
          releasedAt := none } with
    | none =>
      refine .inr ⟨⟨_, rfl⟩, fun h => ?_⟩
      exact absurd h.1.fresh (lookup_of_insert_eq_none hins)
    | some allocations =>
      refine .inl ⟨_, rfl, ⟨⟨row, hnode, by omega, fun hpos => ?_⟩, hknown,
        lookup_of_insert hins⟩, by simp, allocations, hins, rfl⟩
      by_contra hlt
      exact hcpu ⟨hpos, by omega⟩

theorem exec_allocateResources {env : Env} (hfails : env.fails = false) (t : Tables)
    (i : InstanceID) (node : NodeID) (cpu ram : ℤ) (gpu : Option ℤ) :
    (∃ t', (Write.allocateResources i node cpu ram gpu).exec env t = (t', .ok ()) ∧ t.Admits i node cpu ram ∧
        gpu.any (t.gpuAllocated env node) = false ∧ t.Booked t' env i node cpu ram gpu) ∨
      (∃ e, (Write.allocateResources i node cpu ram gpu).exec env t = (t, .error e)) ∧
        ¬ (t.Admits i node cpu ram ∧ gpu.any (t.gpuAllocated env node) = false) := by
  rcases t.allocateResources_cases env i node cpu ram gpu with ⟨t', hok, hgranted⟩ | ⟨⟨e, herr⟩, href⟩
  · exact .inl ⟨t', Write.exec_of_ok hfails (by rw [Write.commit, hok]; rfl), hgranted⟩
  · exact .inr ⟨⟨e, Write.exec_of_error hfails (by rw [Write.commit, herr]; rfl)⟩, href⟩

namespace Booked

section

variable (h : t.Booked t' env i node cpu ram gpu)
include h

theorem lookup_nodes (n : NodeID) : t'.nodes.lookup n =
      (t.nodes.lookup n).map fun row =>
        if n = node then
          { row with availRAMMiB := row.availRAMMiB + -ram, availCPUThreads := row.availCPUThreads + -cpu }
        else row := by
  obtain ⟨_, -, rfl⟩ := h
  exact lookup_giveBack t node (-cpu) (-ram) n

theorem keeps_node (n : NodeID) (row : NodeRow) (hrow : t.nodes.lookup n = some row) :
    ∃ row', t'.nodes.lookup n = some row' := by
  rw [h.lookup_nodes, hrow]
  exact ⟨_, rfl⟩

theorem lookup_allocations (j : InstanceID) :
    t'.allocations.lookup j = if j = i then some (newAllocation env node cpu ram gpu)
      else t.allocations.lookup j := by
  obtain ⟨allocations, hins, rfl⟩ := h
  exact lookup_insert hins j

theorem gpus_eq : t'.gpus = t.flagGPU node gpu true := by
  obtain ⟨_, -, rfl⟩ := h
  rfl

theorem activeSum_eq (f : Allocation → ℤ) :
    t'.activeSum f = t.activeSum f + f (newAllocation env node cpu ram gpu) := by
  obtain ⟨_, hins, rfl⟩ := h
  exact sum_insert hins

theorem held_eq (column : Allocation → ℤ) (n : NodeID) :
    t'.held column n = t.held column n + if node = n then column (newAllocation env node cpu ram gpu) else 0 :=
  h.activeSum_eq _

theorem holders_eq (n : NodeID) (d : ℤ) :
    t'.holders n d = t.holders n d + if node = n ∧ gpu = some d then 1 else 0 := by
  have hsum := h.activeSum_eq fun a => if a.nodeID = n ∧ a.gpuDeviceIndex = some d then 1 else 0
  rw [← Tables.holders_eq, ← Tables.holders_eq] at hsum
  show t'.holders n d = t.holders n d + if (newAllocation env node cpu ram gpu).nodeID = n ∧
    (newAllocation env node cpu ram gpu).gpuDeviceIndex = some d then 1 else 0
  by_cases hnames : (newAllocation env node cpu ram gpu).nodeID = n ∧
      (newAllocation env node cpu ram gpu).gpuDeviceIndex = some d
  · rw [if_pos hnames] at hsum ⊢
    omega
  · rw [if_neg hnames] at hsum ⊢
    omega

end

end Booked

/-! ## Release -/

def Freed (t t' : Tables) (env : Env) (i : InstanceID) (a : Allocation) : Prop := t' = { t with
    allocations := t.allocations.modify (fun k _ => k = i) fun a => { a with releasedAt := some (unix env.now) }
    nodes := t.giveBack a.nodeID a.cpuThreads a.ramMiB
    gpus := if env.gpuFreeFails then t.gpus else t.flagGPU a.nodeID a.gpuDeviceIndex false }

theorem releaseAllocation_cases (t : Tables) (env : Env) (i : InstanceID) :
    t.activeAllocation i = none ∧ t.releaseAllocation env i = t ∨
      ∃ a, t.activeAllocation i = some a ∧ t.Freed (t.releaseAllocation env i) env i a := by
  unfold releaseAllocation
  cases hact : t.activeAllocation i with
  | none => exact .inl ⟨rfl, rfl⟩
  | some a => exact .inr ⟨a, rfl, rfl⟩

namespace Freed

variable {a : Allocation}

section

variable (h : t.Freed t' env i a)
include h

theorem lookup_nodes (n : NodeID) : t'.nodes.lookup n = (t.nodes.lookup n).map fun row =>
        if n = a.nodeID then
          { row with
            availRAMMiB := row.availRAMMiB + a.ramMiB
            availCPUThreads := row.availCPUThreads + a.cpuThreads }
        else row := by
  rw [h]
  exact lookup_giveBack t a.nodeID a.cpuThreads a.ramMiB n

theorem keeps_node (n : NodeID) (row : NodeRow) (hrow : t.nodes.lookup n = some row) :
    ∃ row', t'.nodes.lookup n = some row' := by
  rw [h.lookup_nodes, hrow]
  exact ⟨_, rfl⟩

theorem lookup_allocations (j : InstanceID) : t'.allocations.lookup j =
      (t.allocations.lookup j).map fun b => if j = i then { b with releasedAt := some (unix env.now) } else b := by
  rw [h]
  rw [lookup_modify]
  simp only [decide_eq_true_eq]

theorem gpus_eq :
    t'.gpus = if env.gpuFreeFails then t.gpus else t.flagGPU a.nodeID a.gpuDeviceIndex false := by
  rw [h]

section

variable (ha : t.activeAllocation i = some a)
include ha

theorem activeSum_eq (f : Allocation → ℤ) : t'.activeSum f = t.activeSum f - f a := by
  obtain ⟨hlook, hact⟩ := activeAllocation_eq_some.1 ha
  rw [h]
  show (t.allocations.modify (fun k _ => decide (k = i)) fun a =>
    { a with releasedAt := some (unix env.now) }).sum _ = _
  have hend : ({ a with releasedAt := some (unix env.now) } : Allocation).isActive = false := rfl
  rw [sum_modify_of_lookup hlook, hact, hend, if_pos rfl, if_neg Bool.false_ne_true, add_zero]
  rfl

theorem held_eq (column : Allocation → ℤ) (n : NodeID) :
    t'.held column n = t.held column n - if a.nodeID = n then column a else 0 := h.activeSum_eq ha _

theorem holders_eq (n : NodeID) (d : ℤ) :
    (t'.holders n d : ℤ) = t.holders n d - if a.nodeID = n ∧ a.gpuDeviceIndex = some d then 1 else 0 := by
  rw [Tables.holders_eq, Tables.holders_eq]
  exact h.activeSum_eq ha _

end

end

end Freed

/-! ## Devices -/

def registered (t : Tables) (n : NodeID) (d : ℤ) : Bool := 0 < t.gpus.count fun _ g => g.isDevice n d

def flagged (t : Tables) (n : NodeID) (d : ℤ) : Bool := 0 < t.gpus.count fun _ g => g.isDevice n d && g.allocated

theorem registered_iff {n : NodeID} {d : ℤ} :
    t.registered n d = true ↔ ∃ k g, t.gpus.lookup k = some g ∧ g.nodeID = n ∧ g.deviceIndex = d := by
  rw [registered, decide_eq_true_iff, count_pos_iff]
  simp only [isDevice_iff]

theorem flagged_iff {n : NodeID} {d : ℤ} :
    t.flagged n d = true ↔ ∃ k g, t.gpus.lookup k = some g ∧ (g.nodeID = n ∧ g.deviceIndex = d) ∧
      g.allocated = true := by
  rw [flagged, decide_eq_true_iff, count_pos_iff]
  simp only [Bool.and_eq_true, isDevice_iff]

theorem lookup_flagGPU (t : Tables) (node : NodeID) (device : Option ℤ) (b : Bool) (k : ℕ) :
    (t.flagGPU node device b).lookup k = (t.gpus.lookup k).map fun g =>
        if g.nodeID = node ∧ device = some g.deviceIndex then { g with allocated := b } else g := by
  cases device with
  | none => simp [flagGPU]
  | some d =>
    rw [flagGPU, lookup_modify]
    have hiff : ∀ g : GPURow, g.isDevice node d = true ↔ g.nodeID = node ∧ some d = some g.deviceIndex := by
      intro g
      rw [isDevice_iff, Option.some.injEq, eq_comm (a := d)]
    simp only [hiff]

theorem flagged_of_gpuAllocated {d : ℤ} (h : t.gpuAllocated env node d = true) : t.flagged node d = true := by
  unfold gpuAllocated at h
  split_ifs at h
  cases hleast : t.gpus.least (fun _ g => g.isDevice node d) (fun _ _ => 0) env.rowRank with
  | none => simp [hleast] at h
  | some e =>
    obtain ⟨hrow, hdev⟩ := least_eq_some hleast
    rw [hleast] at h
    exact flagged_iff.2 ⟨e.1, e.2, hrow, isDevice_iff.1 hdev, h⟩

theorem gpuAllocated_of_agree {d : ℤ} (hquery : env.gpuQueryFails = false)
    (hflag : t.flagged node d = true) (hagree : ∀ k g, t.gpus.lookup k = some g → g.nodeID = node ∧
    g.deviceIndex = d → g.allocated = true) : t.gpuAllocated env node d = true := by
  obtain ⟨k, g, hrow, hdev, -⟩ := flagged_iff.1 hflag
  have hmatch : g.isDevice node d = true := isDevice_iff.2 hdev
  unfold gpuAllocated
  rw [if_neg (by simp [hquery])]
  cases hleast : t.gpus.least (fun _ g => g.isDevice node d) (fun _ _ => 0) env.rowRank with
  | none => exact absurd hleast (least_ne_none hrow hmatch)
  | some e =>
    obtain ⟨hfound, hfirst⟩ := least_eq_some hleast
    exact hagree e.1 e.2 hfound (isDevice_iff.1 hfirst)

def admitsNode (t : Tables) (env : Env) (n : Node) : Bool :=
  (t.nodes.count fun _ row => row.name = n.name) = 0 && (t.nodes.lookup (newNodeID env n)).isNone

theorem createNode_cases (t : Tables) (env : Env) (n : Node) : (∃ nodes, t.createNode env n =
          .ok ({ t with nodes, gpus := addGPUs (newNodeID env n) t.gpus n.gpuDevices }, newNodeID env n) ∧
        t.admitsNode env n = true ∧ t.nodes.insert (newNodeID env n) (newNodeRow n) = some nodes) ∨
      (∃ e, t.createNode env n = .error e) ∧ t.admitsNode env n = false := by
  unfold createNode admitsNode
  by_cases hname : 0 < t.nodes.count fun _ row => row.name = n.name
  · rw [if_pos hname]
    refine .inr ⟨⟨_, rfl⟩, ?_⟩
    simp [Nat.pos_iff_ne_zero.1 hname]
  · rw [if_neg hname]
    have hzero : (t.nodes.count fun _ row => row.name = n.name) = 0 := by omega
    cases hins : t.nodes.insert (newNodeID env n) (newNodeRow n) with
    | none =>
      refine .inr ⟨⟨_, rfl⟩, ?_⟩
      simp [hzero, Option.isSome_iff_ne_none, lookup_of_insert_eq_none hins]
    | some nodes =>
      refine .inl ⟨nodes, rfl, ?_, rfl⟩
      simp [hzero, lookup_of_insert hins]

theorem lookup_addGPUs {gpus : Table ℕ GPURow} {devices : List GPUDevice} {k : ℕ} {g : GPURow}
    (h : (addGPUs node gpus devices).lookup k = some g) :
    gpus.lookup k = some g ∨ g.nodeID = node ∧ ∃ device ∈ devices, g.allocated = device.allocated := by
  induction devices generalizing gpus with
  | nil => exact .inl h
  | cons device _ ih =>
    rcases ih h with hold | ⟨hnode, device', hmem, hflag⟩
    · rw [lookup_add] at hold
      split_ifs at hold
      · cases hold
        exact .inr ⟨rfl, device, List.mem_cons_self, rfl⟩
      · exact .inl hold
    · exact .inr ⟨hnode, device', List.mem_cons_of_mem _ hmem, hflag⟩

end Tables

end Ocelot.VirtualServer
