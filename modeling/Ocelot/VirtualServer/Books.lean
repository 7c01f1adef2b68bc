/-
# What a node has left and what is held of it add up (`allocation_store.go`).
-/
import Ocelot.VirtualServer.Allocation

namespace Ocelot.VirtualServer

open Tables Table Option Bool
open Tracker (lit)

/-! ## Calls and books -/

inductive LedgerCall where
  | createNode (n : Node)
  | allocateResources (i : InstanceID) (node : NodeID) (cpuThreads ramMiB : ℤ) (gpuDeviceIndex : Option ℤ)
  | releaseAllocation (i : InstanceID)

namespace LedgerCall

def write : LedgerCall → Write
  | createNode n => .createNode n
  | allocateResources i node cpu ram gpu => .allocateResources i node cpu ram gpu
  | releaseAllocation i => .releaseAllocation i

def Lawful : LedgerCall → Prop
  | createNode n => ∀ g ∈ n.gpuDevices, g.allocated = false
  | allocateResources _ _ cpu ram _ => 0 ≤ cpu ∧ 0 ≤ ram
  | releaseAllocation _ => True

/-- **What a call must meet**, in the tables it finds. -/
def Sound (t : Tables) (env : Env) : LedgerCall → Prop
  | createNode n =>
    env.fails = false → t.admitsNode env n = true → 0 ≤ n.availRAMMiB ∧ 0 ≤ (newNodeRow n).availCPUThreads
  | allocateResources i node cpu ram gpu =>
    env.fails = false → env.gpuQueryFails = true → t.Admits i node cpu ram → ∀ d ∈ gpu, t.flagged node d = false
  | releaseAllocation i =>
    env.fails = false → env.gpuFreeFails = true →
      ∀ a ∈ t.activeAllocation i, ∀ d ∈ a.gpuDeviceIndex, t.registered a.nodeID d = false

end LedgerCall

structure Books where
  tables : Tables
  created : NodeID → Option NodeRow

namespace Books

def turn (b : Books) (t : Tables) : Books where
  tables := t
  created := fun n => b.created n <|> t.nodes.lookup n

def step (b : Books) (l : Env × LedgerCall) : Option Books := some (b.turn (l.2.write.exec l.1 b.tables).1)

structure Opening (b : Books) : Prop where
  nodes : b.tables.nodes = .empty
  gpus : b.tables.gpus = .empty
  allocations : b.tables.allocations = .empty
  created : b.created = fun _ => none

/-- **What the books should say.** -/
structure Balanced (b : Books) : Prop where
  /-- What is left of a node and what is held of it are what it was created with, and nothing is
  overdrawn. -/
  nodes : ∀ n row, b.tables.nodes.lookup n = some row → ∃ row₀, b.created n = some row₀ ∧
    (row.availRAMMiB + b.tables.held Allocation.ramMiB n = row₀.availRAMMiB ∧
      row.availCPUThreads + b.tables.held Allocation.cpuThreads n = row₀.availCPUThreads) ∧
    0 ≤ row.availRAMMiB ∧ 0 ≤ row.availCPUThreads
  gpus : ∀ k g, b.tables.gpus.lookup k = some g →
    (g.allocated = true ↔ b.tables.holders g.nodeID g.deviceIndex = 1)

/-! ## What is kept -/

structure Kept (b : Books) : Prop extends b.Balanced where
  amounts : ∀ i a, b.tables.allocations.lookup i = some a → 0 ≤ a.cpuThreads ∧ 0 ≤ a.ramMiB
  known : ∀ i a, b.tables.allocations.lookup i = some a → ∃ row, b.tables.nodes.lookup a.nodeID = some row
  recorded : ∀ n row₀, b.created n = some row₀ → ∃ row, b.tables.nodes.lookup n = some row
  single : ∀ k g, b.tables.gpus.lookup k = some g → b.tables.holders g.nodeID g.deviceIndex ≤ 1

theorem Opening.kept {b : Books} (h : b.Opening) : b.Kept := by
  have hnode : ∀ n, b.tables.nodes.lookup n = none := by
    intro n
    rw [h.nodes, lookup_empty]
  have hgpu : ∀ k, b.tables.gpus.lookup k = none := by
    intro k
    rw [h.gpus, lookup_empty]
  have halloc : ∀ i, b.tables.allocations.lookup i = none := by
    intro i
    rw [h.allocations, lookup_empty]
  constructor
  · constructor
    · intro n _ hrow
      simp [hnode] at hrow
    · intro k g hg
      simp [hgpu] at hg
  · intro i a ha
    simp [halloc] at ha
  · intro i a ha
    simp [halloc] at ha
  · intro n _ hrow0
    simp [h.created] at hrow0
  · intro k g hg
    simp [hgpu] at hg

namespace Kept

variable {b : Books} {env : Env}

section

variable (h : b.Kept)
include h

theorem activeSum_eq_zero {n : NodeID} (hn : b.tables.nodes.lookup n = none) (f : Allocation → ℤ) :
    (b.tables.activeSum fun a => if a.nodeID = n then f a else 0) = 0 := by
  refine sum_eq_zero fun i a ha => ?_
  obtain ⟨_, hrow⟩ := h.known i a ha
  have hne : a.nodeID ≠ n := by
    rintro rfl
    rw [hn] at hrow
    cases hrow
  simp [hne]

theorem holders_eq_zero {n : NodeID} (hn : b.tables.nodes.lookup n = none) (d : ℤ) : b.tables.holders n d = 0 := by
  have hzero := h.activeSum_eq_zero hn fun a => if a.gpuDeviceIndex = some d then 1 else 0
  have hsum := holders_eq b.tables n d
  simp only [ite_and] at hsum
  omega

theorem agree {n : NodeID} {d : ℤ} (hflag : b.tables.flagged n d = true) (k : ℕ) (g : GPURow)
    (hg : b.tables.gpus.lookup k = some g) (hdev : g.nodeID = n ∧ g.deviceIndex = d) : g.allocated = true := by
  obtain ⟨k', g', hg', ⟨rfl, rfl⟩, halloc⟩ := flagged_iff.1 hflag
  have hone := (h.gpus k' g' hg').1 halloc
  rw [← hdev.1, ← hdev.2] at hone
  exact (h.gpus k g hg).2 hone

theorem recorded_of {t' : Tables} {n : NodeID} {row₀ : NodeRow}
    (hthere : ∀ n row, b.tables.nodes.lookup n = some row → ∃ row', t'.nodes.lookup n = some row')
    (hrow0 : (b.created n <|> t'.nodes.lookup n) = some row₀) : ∃ row, t'.nodes.lookup n = some row := by
  cases hcreated : b.created n with
  | none =>
    simp only [hcreated] at hrow0
    exact ⟨row₀, hrow0⟩
  | some row =>
    obtain ⟨row', hrow'⟩ := h.recorded n row hcreated
    exact hthere n row' hrow'

theorem of_turn {t' : Tables}
    (hthere : ∀ n row, b.tables.nodes.lookup n = some row → ∃ row', t'.nodes.lookup n = some row')
    (hnodes : ∀ n row', t'.nodes.lookup n = some row' → ∃ row₀, (b.created n <|> t'.nodes.lookup n) = some row₀ ∧
      (row'.availRAMMiB + t'.held Allocation.ramMiB n = row₀.availRAMMiB ∧
        row'.availCPUThreads + t'.held Allocation.cpuThreads n = row₀.availCPUThreads) ∧
      0 ≤ row'.availRAMMiB ∧ 0 ≤ row'.availCPUThreads)
    (hgpus : ∀ k g, t'.gpus.lookup k = some g →
      (g.allocated = true ↔ t'.holders g.nodeID g.deviceIndex = 1) ∧
    t'.holders g.nodeID g.deviceIndex ≤ 1) (halls : ∀ i a, t'.allocations.lookup i = some a →
      (0 ≤ a.cpuThreads ∧ 0 ≤ a.ramMiB) ∧ ∃ row, b.tables.nodes.lookup a.nodeID = some row) :
          (b.turn t').Kept := by
  refine ⟨⟨hnodes, fun k g hg => (hgpus k g hg).1⟩, fun i a ha => (halls i a ha).1, fun i a ha => ?_,
    fun n row₀ hrow0 => h.recorded_of hthere hrow0, fun k g hg => (hgpus k g hg).2⟩
  obtain ⟨-, row, hrow⟩ := halls i a ha
  exact hthere _ row hrow

theorem same : (b.turn b.tables).Kept := by
  refine ⟨⟨fun n row hrow => ?_, h.gpus⟩, h.amounts, h.known, fun n row₀ hrow0 => ?_, h.single⟩
  · obtain ⟨row₀, hrow0, hrest⟩ := h.nodes n row hrow
    exact ⟨row₀, by simp [turn, hrow0], hrest⟩
  · exact h.recorded_of (fun n row hrow => ⟨row, hrow⟩) hrow0

end

section

variable {t' : Tables} {i : InstanceID} {node : NodeID} {cpu ram : ℤ} {gpu : Option ℤ}

theorem booked (h : b.Kept) (hcpu : 0 ≤ cpu) (hram : 0 ≤ ram)
    (hadmits : b.tables.Admits i node cpu ram) (hbook : b.tables.Booked t' env i node cpu ram gpu)
    (hfree : ∀ d ∈ gpu, b.tables.flagged node d = false) : (b.turn t').Kept := by
  obtain ⟨target, htarg, _, hfitsCPU⟩ := hadmits.node
  have hrows := hbook.lookup_nodes
  have halls := hbook.lookup_allocations
  -- a device row after the call, and the row it comes from
  have hdev : ∀ k g', t'.gpus.lookup k = some g' → ∃ g, b.tables.gpus.lookup k = some g ∧
      g' = if g.nodeID = node ∧ gpu = some g.deviceIndex then { g with allocated := true } else g := by
    intro k g' hg'
    rw [hbook.gpus_eq, lookup_flagGPU] at hg'
    obtain ⟨g, hg, rfl⟩ := map_eq_some_iff.1 hg'
    exact ⟨g, hg, rfl⟩
  -- a device that the allocation names was free
  have hnone : ∀ k g, b.tables.gpus.lookup k = some g → g.nodeID = node ∧ gpu = some g.deviceIndex →
      b.tables.holders g.nodeID g.deviceIndex = 0 := by
    rintro k g hg ⟨hnode, hgpu⟩
    have hunflagged := hfree g.deviceIndex (by rw [hgpu]; rfl)
    have hflag : g.allocated ≠ true := by
      intro halloc
      rw [flagged_iff.2 ⟨k, g, hg, ⟨hnode, rfl⟩, halloc⟩] at hunflagged
      cases hunflagged
    have hne := mt (h.gpus k g hg).2 hflag
    have hle := h.single k g hg
    omega
  refine h.of_turn hbook.keeps_node (fun n _ hrow' => ?_) (fun k g' hg' => ?_) (fun j a ha => ?_)
  · rw [hrows] at hrow'
    obtain ⟨row, hrow, rfl⟩ := map_eq_some_iff.1 hrow'
    obtain ⟨row₀, hrow0, ⟨_, _⟩, _, _⟩ := h.nodes n row hrow
    refine ⟨row₀, by simp [hrow0], ?_⟩
    rw [hbook.held_eq, hbook.held_eq]
    by_cases hn : n = node
    · subst hn
      rw [htarg] at hrow
      cases hrow
      simp only [if_true, newAllocation]
      by_cases hpos : 0 < cpu
      · have hfits := hfitsCPU hpos
        omega
      · omega
    · rw [if_neg hn, if_neg (Ne.symm hn), if_neg (Ne.symm hn)]
      omega
  · obtain ⟨g, hg, rfl⟩ := hdev k g' hg'
    have hiff := h.gpus k g hg
    have hle := h.single k g hg
    by_cases hnames : g.nodeID = node ∧ gpu = some g.deviceIndex
    · rw [if_pos hnames, hbook.holders_eq, if_pos ⟨hnames.1.symm, hnames.2⟩, hnone k g hg hnames]
      simp
    · rw [if_neg hnames, hbook.holders_eq, if_neg fun hc => hnames ⟨hc.1.symm, hc.2⟩]
      exact ⟨hiff, hle⟩
  · rw [halls] at ha
    split_ifs at ha
    · cases ha
      exact ⟨⟨hcpu, hram⟩, target, htarg⟩
    · exact ⟨h.amounts j a ha, h.known j a ha⟩

theorem free_of_booked (h : b.Kept) (hbook : b.tables.Booked t' env i node cpu ram gpu)
    (haft : (b.turn t').Balanced) : ∀ d ∈ gpu, b.tables.flagged node d = false := by
  intro d hd
  obtain rfl : gpu = some d := hd
  rw [← not_eq_true]
  intro hflag
  obtain ⟨k, g, hg, ⟨rfl, rfl⟩, halloc⟩ := flagged_iff.1 hflag
  have hbef := (h.gpus k g hg).1 halloc
  have hg' : t'.gpus.lookup k = some { g with allocated := true } := by
    rw [hbook.gpus_eq, lookup_flagGPU, hg]
    simp
  have hone : t'.holders g.nodeID g.deviceIndex = 1 := (haft.gpus k _ hg').1 rfl
  rw [hbook.holders_eq, if_pos ⟨rfl, rfl⟩] at hone
  omega

end

section

variable {t' : Tables} {i : InstanceID} {a : Allocation}

theorem holders_of_active (h : b.Kept) (ha : b.tables.activeAllocation i = some a) {k : ℕ}
    {g : GPURow} (hg : b.tables.gpus.lookup k = some g) (hnames : g.nodeID = a.nodeID ∧
    a.gpuDeviceIndex = some g.deviceIndex) : b.tables.holders g.nodeID g.deviceIndex = 1 := by
  obtain ⟨hlook, hact⟩ := activeAllocation_eq_some.1 ha
  have hpos : 0 < b.tables.holders g.nodeID g.deviceIndex := by
    unfold holders
    rw [count_pos_iff]
    refine ⟨i, a, hlook, ?_⟩
    simp [holdsGPU, hact, hnames]
  have hle := h.single k g hg
  omega

theorem freed (h : b.Kept) (ha : b.tables.activeAllocation i = some a) (hfreed : b.tables.Freed t' env i a)
    (hfree : env.gpuFreeFails = true → ∀ d ∈ a.gpuDeviceIndex, b.tables.registered a.nodeID d =
      false) : (b.turn t').Kept := by
  obtain ⟨hlook, -⟩ := activeAllocation_eq_some.1 ha
  have hamounts := h.amounts i a hlook
  have hrows := hfreed.lookup_nodes
  have halls := hfreed.lookup_allocations
  have hdev : ∀ k g', t'.gpus.lookup k = some g' → ∃ g, b.tables.gpus.lookup k = some g ∧
      g' = if g.nodeID = a.nodeID ∧ a.gpuDeviceIndex = some g.deviceIndex then
          { g with allocated := false } else g := by
    intro k g' hg'
    rw [hfreed.gpus_eq] at hg'
    split_ifs at hg' with hfails
    · -- the update failed, so no row is about the device
      refine ⟨g', hg', ?_⟩
      rw [if_neg]
      rintro ⟨hnode, hgpu⟩
      have hunregistered := hfree hfails g'.deviceIndex (by rw [hgpu]; rfl)
      rw [registered_iff.2 ⟨k, g', hg', hnode, rfl⟩] at hunregistered
      cases hunregistered
    · rw [lookup_flagGPU] at hg'
      obtain ⟨g, hg, rfl⟩ := map_eq_some_iff.1 hg'
      exact ⟨g, hg, rfl⟩
  refine h.of_turn hfreed.keeps_node (fun n _ hrow' => ?_) (fun k g' hg' => ?_) (fun j _ ha' => ?_)
  · rw [hrows] at hrow'
    obtain ⟨row, hrow, rfl⟩ := map_eq_some_iff.1 hrow'
    obtain ⟨row₀, hrow0, ⟨_, _⟩, _, _⟩ := h.nodes n row hrow
    refine ⟨row₀, by simp [hrow0], ?_⟩
    rw [hfreed.held_eq ha, hfreed.held_eq ha]
    by_cases hn : n = a.nodeID
    · subst hn
      simp only [if_true]
      omega
    · rw [if_neg hn, if_neg (Ne.symm hn), if_neg (Ne.symm hn)]
      omega
  · obtain ⟨g, hg, rfl⟩ := hdev k g' hg'
    have hiff := h.gpus k g hg
    have hle := h.single k g hg
    have hsum := hfreed.holders_eq ha g.nodeID g.deviceIndex
    by_cases hnames : g.nodeID = a.nodeID ∧ a.gpuDeviceIndex = some g.deviceIndex
    · have hone := h.holders_of_active ha hg hnames
      rw [if_pos ⟨hnames.1.symm, hnames.2⟩] at hsum
      rw [if_pos hnames]
      simp only [false_eq_true, false_iff]
      omega
    · rw [if_neg fun hc => hnames ⟨hc.1.symm, hc.2⟩] at hsum
      rw [if_neg hnames, hiff]
      omega
  · rw [halls] at ha'
    obtain ⟨a0, ha0, rfl⟩ := map_eq_some_iff.1 ha'
    split_ifs <;> exact ⟨h.amounts j a0 ha0, h.known j a0 ha0⟩

theorem unregistered_of_freed (h : b.Kept) (ha : b.tables.activeAllocation i = some a)
    (hfreed : b.tables.Freed t' env i a) (hfails : env.gpuFreeFails = true) (haft : (b.turn t').Balanced) :
    ∀ d ∈ a.gpuDeviceIndex, b.tables.registered a.nodeID d = false := by
  intro d hd
  have hgpu : a.gpuDeviceIndex = some d := hd
  rw [← not_eq_true]
  intro hreg
  obtain ⟨k, g, hg, hnode, rfl⟩ := registered_iff.1 hreg
  have hone := h.holders_of_active ha hg ⟨hnode, hgpu⟩
  have hg' : t'.gpus.lookup k = some g := by
    rw [hfreed.gpus_eq, if_pos hfails]
    exact hg
  have hstill : t'.holders g.nodeID g.deviceIndex = 1 := (haft.gpus k g hg').1 ((h.gpus k g hg).2 hone)
  have hsum := hfreed.holders_eq ha g.nodeID g.deviceIndex
  rw [if_pos ⟨hnode.symm, hgpu⟩] at hsum
  omega

end

section

variable {n : Node} {nodes : Table NodeID NodeRow}

def added (b : Books) (env : Env) (n : Node) (nodes : Table NodeID NodeRow) : Tables :=
  { b.tables with nodes, gpus := addGPUs (newNodeID env n) b.tables.gpus n.gpuDevices }

theorem created_node (h : b.Kept) (hlaw : ∀ g ∈ n.gpuDevices, g.allocated = false)
    (hins : b.tables.nodes.insert (newNodeID env n) (newNodeRow n) = some nodes)
    (hnn : 0 ≤ n.availRAMMiB ∧ 0 ≤ (newNodeRow n).availCPUThreads) : (b.turn (added b env n nodes)).Kept := by
  have hnew := lookup_of_insert hins
  have hrows : ∀ m, (added b env n nodes).nodes.lookup m =
      if m = newNodeID env n then some (newNodeRow n) else b.tables.nodes.lookup m := lookup_insert hins
  refine h.of_turn (fun m row hrow => ?_) (fun m row' hrow' => ?_) (fun k g hg => ?_)
    (fun i a ha => ⟨h.amounts i a ha, h.known i a ha⟩)
  · have hne : m ≠ newNodeID env n := by
      rintro rfl
      rw [hnew] at hrow
      cases hrow
    rw [hrows, if_neg hne]
    exact ⟨row, hrow⟩
  · by_cases hm : m = newNodeID env n
    · subst hm
      rw [hrows, if_pos rfl] at hrow'
      cases hrow'
      have hunknown : b.created (newNodeID env n) = none := by
        cases hcreated : b.created (newNodeID env n) with
        | none => rfl
        | some row₀ =>
          obtain ⟨row, hrow⟩ := h.recorded _ row₀ hcreated
          rw [hnew] at hrow
          cases hrow
      refine ⟨newNodeRow n, by simp [hunknown, hrows], ?_, hnn⟩
      have hram : (added b env n nodes).held Allocation.ramMiB (newNodeID env n) = 0 := h.activeSum_eq_zero hnew _
      have hcpu : (added b env n nodes).held Allocation.cpuThreads (newNodeID env n) = 0 :=
        h.activeSum_eq_zero hnew _
      omega
    · rw [hrows, if_neg hm] at hrow'
      obtain ⟨row₀, hrow0, hrest⟩ := h.nodes m row' hrow'
      exact ⟨row₀, by simp [hrow0], hrest⟩
  · show (g.allocated = true ↔ b.tables.holders g.nodeID g.deviceIndex = 1) ∧
      b.tables.holders g.nodeID g.deviceIndex ≤ 1
    rcases lookup_addGPUs hg with hold | ⟨hnode, device, hmem, hflag⟩
    · exact ⟨h.gpus k g hold, h.single k g hold⟩
    · rw [hflag, hlaw device hmem, hnode, h.holders_eq_zero hnew]
      simp

theorem nonneg_of_balanced (hins : b.tables.nodes.insert (newNodeID env n) (newNodeRow n) = some nodes)
    (haft : (b.turn (added b env n nodes)).Balanced) : 0 ≤ n.availRAMMiB ∧ 0 ≤ (newNodeRow n).availCPUThreads := by
  have hrow : (added b env n nodes).nodes.lookup (newNodeID env n) = some (newNodeRow n) := by
    show nodes.lookup _ = _
    rw [lookup_insert hins, if_pos rfl]
  obtain ⟨-, -, -, hnn⟩ := haft.nodes _ _ hrow
  exact hnn

end

end Kept

theorem step_kept {b b' : Books} {env : Env} {call : LedgerCall} (hlaw : call.Lawful) (h : b.Kept)
    (hstep : b.step (env, call) = some b') :
    (b'.Balanced → call.Sound b.tables env) ∧ (call.Sound b.tables env → b'.Kept) := by
  obtain rfl : b.turn (call.write.exec env b.tables).1 = b' := some.inj hstep
  -- a call that fails changes nothing
  cases hfails : env.fails with
  | true =>
    rw [Write.exec_of_fails hfails]
    refine ⟨fun _ => ?_, fun _ => h.same⟩
    cases call with
    | createNode | allocateResources | releaseAllocation =>
      exact fun hnot => absurd (hfails.symm.trans hnot) (by simp)
  | false =>
    cases call with
    | createNode n =>
      rcases b.tables.createNode_cases env n with ⟨nodes, hok, hadmits, hins⟩ | ⟨⟨e, herr⟩, href⟩
      · have hcom : (Write.createNode n).commit env b.tables = .ok
          (Kept.added b env n nodes, newNodeID env n) := hok
        rw [LedgerCall.write, Write.exec_of_ok hfails hcom]
        exact ⟨fun haft _ _ => Kept.nonneg_of_balanced hins haft,
          fun hsound => h.created_node hlaw hins (hsound hfails hadmits)⟩
      · have hcom : (Write.createNode n).commit env b.tables = .error e := herr
        rw [LedgerCall.write, Write.exec_of_error hfails hcom]
        refine ⟨fun _ _ hadmits => ?_, fun _ => h.same⟩
        rw [href] at hadmits
        cases hadmits
    | allocateResources i node cpu ram gpu =>
      rcases exec_allocateResources hfails b.tables i node cpu ram gpu with
        ⟨t', hexec, hadmits, hgpu, hbook⟩ | ⟨⟨e, hexec⟩, href⟩
      · rw [LedgerCall.write, hexec]
        refine ⟨fun haft _ _ _ => h.free_of_booked hbook haft, fun hsound => ?_⟩
        refine h.booked hlaw.1 hlaw.2 hadmits hbook fun d hd => ?_
        cases hquery : env.gpuQueryFails with
        | true => exact hsound hfails hquery hadmits d hd
        | false =>
          -- the query has found the device free
          rw [← not_eq_true]
          intro hflag
          obtain rfl : gpu = some d := hd
          rw [any_some, gpuAllocated_of_agree hquery hflag (h.agree hflag)] at hgpu
          cases hgpu
      · rw [LedgerCall.write, hexec]
        refine ⟨fun _ _ hquery hadmits => ?_, fun _ => h.same⟩
        -- with the query failed, the call was refused for something else
        refine absurd ⟨hadmits, ?_⟩ href
        cases gpu with
        | none => rfl
        | some => simp [gpuAllocated, hquery]
    | releaseAllocation i =>
      have hcom : (Write.releaseAllocation i).commit env b.tables = .ok
        (b.tables.releaseAllocation env i, ()) := rfl
      rw [LedgerCall.write, Write.exec_of_ok hfails hcom]
      rcases b.tables.releaseAllocation_cases env i with ⟨hnone, hsame⟩ | ⟨a, ha, hfreed⟩
      · rw [hsame]
        refine ⟨fun _ _ _ a ha => ?_, fun _ => h.same⟩
        rw [hnone] at ha
        cases ha
      · refine ⟨fun haft _ hfree a' ha' => ?_, fun hsound => ?_⟩
        · obtain rfl : a = a' := mem_unique ha ha'
          exact h.unregistered_of_freed ha hfreed hfree haft
        · exact h.freed ha hfreed fun hfree => hsound hfails hfree a ha

/-- **The books stay balanced exactly in the runs of sound calls**, and a call that returns an error
changes nothing. -/
theorem balanced_iff_sound {b b' : Books} {ls : List (Env × LedgerCall)} (hopen : b.Opening)
    (hlawful : ∀ l ∈ ls, l.2.Lawful) (hrun : Run.exec step b ls = some b') :
    ((∀ pre u, pre <+: ls → Run.exec step b pre = some u → u.Balanced) ↔
        Run.Meets step (fun u l => l.2.Sound u.tables l.1) b ls) ∧
      ∀ env (call : LedgerCall) (t : Tables) e, (call.write.exec env t).2 = .error e →
          (call.write.exec env t).1 = t := by
  refine ⟨?_, fun env call t e herr => ?_⟩
  · exact Run.forall_prefix_iff_meets_of (I := Kept)
      (fun _ h => h.toBalanced) (fun _ _ _ hl h hst => step_kept hl h hst) hopen.kept hlawful hrun
  · rcases Write.exec_cases env t call.write with ⟨_, hexec⟩ | ⟨_, _, -, -, hexec⟩
    · rw [hexec]
    · rw [hexec] at herr
      cases herr

end Books

namespace Sample

def calm : Env where
  fails := false
  gpuQueryFails := false
  gpuFreeFails := false
  now := 1000 * second
  rank := fun _ => 0
  rowRank := id
  newID := lit "i1"
  message := []
  handle := [(lit "pid", lit "1")]
  hostPath := lit "/v"
  usedMiB := 0
  up := true

def host : Node where
  name := lit "a"
  arch := lit "amd64"
  cpuThreads := 8
  availCPUThreads := 0
  totalRAMMiB := 1024
  availRAMMiB := 1024
  labels := []
  location := []
  state := .ready
  lastHeartbeat := none
  id := lit "n1"
  gpuDevices := [{ index := 0, vramMiB := 16, allocated := false }]
  activeInstances := 0

def oneInstance : Tables :=
  { Tables.empty with instances := ⟨[(lit "i1", Tables.newInstanceRow calm 1 (lit "vs://d/web/0"))],
    List.nodup_singleton _⟩ }

def opened : Books := ⟨oneInstance, fun _ => none⟩

theorem opening_opened : opened.Opening := ⟨rfl, rfl, rfl, rfl⟩

def borrow (atEnd : Env) : List (Env × LedgerCall) :=
  [(calm, .createNode host), (calm, .allocateResources (lit "i1") (lit "n1") 2 512 (some 0)),
    (atEnd, .releaseAllocation (lit "i1"))]

theorem lawful_borrow (atEnd : Env) : ∀ l ∈ borrow atEnd, l.2.Lawful := by
  simp [borrow, LedgerCall.Lawful, host]

end Sample

open Sample

namespace Books

/-- The update that frees the GPU fails, and the call succeeds: the GPU is flagged, and nobody holds
it. -/
theorem flagged_without_holder : ∃ b ls b', b.Opening ∧ (∀ l ∈ ls, l.2.Lawful) ∧
    Run.exec step b ls = some b' ∧ ¬ b'.Balanced := by
  obtain ⟨b', hrun, hflag, hholders⟩ : ∃ b', Run.exec step opened
      (borrow { calm with gpuFreeFails := true }) = some b' ∧
      (∃ g, b'.tables.gpus.lookup 1 = some g ∧ (g.nodeID = lit "n1" ∧ g.deviceIndex = 0) ∧ g.allocated = true) ∧
      b'.tables.holders (lit "n1") 0 = 0 := by decide +kernel
  obtain ⟨g, hg, ⟨hnode, hidx⟩, halloc⟩ := hflag
  refine ⟨_, _, b', opening_opened, lawful_borrow _, hrun, fun hbal => ?_⟩
  have hone := (hbal.gpus 1 g hg).1 halloc
  rw [hnode, hidx, hholders] at hone
  cases hone

theorem balanced_borrow : ∃ u, Run.exec step opened (borrow calm) = some u ∧ u.Balanced := by
  have hsound : ∀ l ∈ borrow calm, ∀ t, l.2.Sound t l.1 := by
    simp [borrow, LedgerCall.Sound, calm, host, newNodeRow]
  refine Run.ends_run (by decide +kernel) fun u hrun => ?_
  have hbal := (balanced_iff_sound opening_opened (lawful_borrow _) hrun).1.2 <| by
    rintro _ l _ t hsplit -
    exact hsound l (by simp [hsplit]) t.tables
  exact hbal _ u (List.prefix_refl _) hrun

end Books

end Ocelot.VirtualServer
