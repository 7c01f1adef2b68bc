/-
# When `AllocateResources` succeeds (`allocation_store.go`, `migrations.go`).
-/
import Ocelot.VirtualServer.Books

namespace Ocelot.VirtualServer

open Option Run Sample
open Tracker (lit)

namespace Tables

def ledgerStep (t : Tables) (l : Env × LedgerCall) : Option Tables := some (l.2.write.exec l.1 t).1

/-- **When an allocation should be possible.** -/
structure Possible (t : Tables) (i : InstanceID) (n : NodeID) (cpu ram : ℤ) (gpu : Option ℤ) : Prop where
  node : ∃ row, t.nodes.lookup n = some row ∧ cpu ≤ row.availCPUThreads ∧ ram ≤ row.availRAMMiB
  idle : t.activeAllocation i = none
  gpu : ∀ d ∈ gpu, t.holders n d = 0

/-- **What sets the code apart**: an allocation of the instance that was released, a node with less
than no threads for a call that asks for none, and a device that is not registered, or is flagged
though nobody holds it. -/
structure Clear (t : Tables) (i : InstanceID) (n : NodeID) (cpu : ℤ) (gpu : Option ℤ) : Prop where
  unreleased : ∀ a, t.allocations.lookup i = some a → a.isActive = true
  threads : cpu = 0 → ∀ row, t.nodes.lookup n = some row → 0 ≤ row.availCPUThreads
  device : ∀ d ∈ gpu, t.registered n d = true ∧ (t.flagged n d = true → 0 < t.holders n d)

def Marked (t : Tables) : Prop := ∀ k g, t.gpus.lookup k = some g →
    (0 < t.holders g.nodeID g.deviceIndex → g.allocated = true) ∧ t.holders g.nodeID g.deviceIndex ≤ 1

end Tables

def Quiet (l : Env × LedgerCall) : Prop :=
  (l.1.fails = false ∧ l.1.gpuQueryFails = false ∧ l.1.gpuFreeFails = false) ∧ ∀ n, l.2 ≠ .createNode n

namespace LedgerCall

def Clear (t : Tables) : LedgerCall → Prop
  | allocateResources i n cpu _ gpu => t.Clear i n cpu gpu
  | _ => True

end LedgerCall

namespace Tables

variable {t t' : Tables} {env : Env}

theorem marked_of_empty (h : t.allocations = .empty) : t.Marked := by
  intro k g _
  have hnone : t.holders g.nodeID g.deviceIndex = 0 := by
    unfold holders
    rw [h]
    rfl
  omega

theorem Marked.gpuAllocated (h : t.Marked) (hquery : env.gpuQueryFails = false) {k : ℕ} {g : GPURow}
    (hg : t.gpus.lookup k = some g) (hheld : 0 < t.holders g.nodeID g.deviceIndex) :
    t.gpuAllocated env g.nodeID g.deviceIndex = true := by
  refine gpuAllocated_of_agree hquery (flagged_iff.2 ⟨k, g, hg, ⟨rfl, rfl⟩, (h k g hg).1 hheld⟩)
    fun k' g' hg' hsame => ?_
  refine (h k' g' hg').1 ?_
  rw [hsame.1, hsame.2]
  exact hheld

variable {i : InstanceID} {cpu ram : ℤ} {gpu : Option ℤ}

theorem Marked.booked (h : t.Marked) {node : NodeID} (hquery : env.gpuQueryFails = false)
    (hgpu : gpu.any (t.gpuAllocated env node) = false)
    (hbook : t.Booked t' env i node cpu ram gpu) : t'.Marked := by
  intro k _ hg'
  rw [hbook.gpus_eq, lookup_flagGPU] at hg'
  obtain ⟨g, hg, rfl⟩ := map_eq_some_iff.1 hg'
  obtain ⟨hflag, hle⟩ := h k g hg
  by_cases hnames : g.nodeID = node ∧ gpu = some g.deviceIndex
  · rw [if_pos hnames]
    refine ⟨fun _ => rfl, ?_⟩
    obtain ⟨rfl, rfl⟩ := hnames
    have hzero : t.holders g.nodeID g.deviceIndex = 0 := by
      by_contra hne
      rw [any_some, h.gpuAllocated hquery hg (by omega)] at hgpu
      cases hgpu
    rw [hbook.holders_eq, hzero]
    split_ifs <;> omega
  · rw [if_neg hnames, hbook.holders_eq, if_neg fun hc => hnames ⟨hc.1.symm, hc.2⟩]
    exact ⟨hflag, hle⟩

theorem Marked.freed (h : t.Marked) {a : Allocation} (ha : t.activeAllocation i = some a)
    (hfree : env.gpuFreeFails = false) (hfreed : t.Freed t' env i a) : t'.Marked := by
  intro k _ hg'
  rw [hfreed.gpus_eq, hfree, if_neg Bool.false_ne_true, lookup_flagGPU] at hg'
  obtain ⟨g, hg, rfl⟩ := map_eq_some_iff.1 hg'
  obtain ⟨hflag, _⟩ := h k g hg
  have hsum := hfreed.holders_eq ha g.nodeID g.deviceIndex
  by_cases hnames : g.nodeID = a.nodeID ∧ a.gpuDeviceIndex = some g.deviceIndex
  · rw [if_pos ⟨hnames.1.symm, hnames.2⟩] at hsum
    rw [if_pos hnames]
    show (0 < t'.holders g.nodeID g.deviceIndex → false = true) ∧ t'.holders g.nodeID g.deviceIndex ≤ 1
    omega
  · rw [if_neg fun hc => hnames ⟨hc.1.symm, hc.2⟩] at hsum
    rw [if_neg hnames]
    refine ⟨fun _ => hflag ?_, ?_⟩ <;> omega

theorem ledgerStep_marked {l : Env × LedgerCall} (hquiet : Quiet l) (h : t.Marked)
    (hstep : t.ledgerStep l = some t') :
    t'.Marked := by
  obtain ⟨env, call⟩ := l
  obtain rfl : (call.write.exec env t).1 = t' := some.inj hstep
  obtain ⟨⟨hfails, hquery, hfree⟩, hnode⟩ := hquiet
  cases call with
  | createNode n => exact absurd rfl (hnode n)
  | allocateResources i node cpu ram gpu =>
    rcases exec_allocateResources hfails t i node cpu ram gpu with ⟨_, hexec, -, hgpu, hbook⟩ | ⟨⟨e, hexec⟩, -⟩
    · rw [LedgerCall.write, hexec]
      exact h.booked hquery hgpu hbook
    · rw [LedgerCall.write, hexec]
      exact h
  | releaseAllocation i =>
    have hcom : (Write.releaseAllocation i).commit env t = .ok (t.releaseAllocation env i, ()) := rfl
    rw [LedgerCall.write, Write.exec_of_ok hfails hcom]
    rcases t.releaseAllocation_cases env i with ⟨-, hsame⟩ | ⟨a, ha, hfreed⟩
    · rw [hsame]
      exact h
    · exact h.freed ha hfree hfreed

theorem Marked.allocate_iff {n : NodeID} (h : t.Marked) (hclear : t.Clear i n cpu gpu) (hfails : env.fails = false)
    (hquery : env.gpuQueryFails = false) (hknown : t.instances.lookup i ≠ none) (hcpu : 0 ≤ cpu) :
    ((Write.allocateResources i n cpu ram gpu).exec env t).2 = .ok () ↔ t.Possible i n cpu ram gpu := by
  rcases exec_allocateResources hfails t i n cpu ram gpu with ⟨t', hexec, hadmits, hgpu, -⟩ | ⟨⟨e, hexec⟩, href⟩
  · rw [hexec]
    refine ⟨fun _ => ?_, fun _ => rfl⟩
    obtain ⟨row, hrow, hram, hths⟩ := hadmits.node
    refine ⟨⟨row, hrow, ?_, hram⟩, ?_, fun d hd => ?_⟩
    · by_cases hpos : 0 < cpu
      · exact hths hpos
      · have hzero : cpu = 0 := by omega
        have hnn := hclear.threads hzero row hrow
        omega
    · rw [activeAllocation, hadmits.fresh]
      rfl
    · obtain rfl : gpu = some d := hd
      obtain ⟨k, g, hg, rfl, rfl⟩ := registered_iff.1 (hclear.device d rfl).1
      by_contra hne
      rw [any_some, h.gpuAllocated hquery hg (by omega)] at hgpu
      cases hgpu
  · rw [hexec]
    refine ⟨fun hok => (by cases hok), fun hpossible => absurd ?_ href⟩
    obtain ⟨row, hrow, hths, hram⟩ := hpossible.node
    refine ⟨⟨⟨row, hrow, hram, fun _ => hths⟩, hknown, ?_⟩, ?_⟩
    · cases hlook : t.allocations.lookup i with
      | none => rfl
      | some a =>
        have hact := activeAllocation_eq_some.2 ⟨hlook, hclear.unreleased a hlook⟩
        rw [hpossible.idle] at hact
        cases hact
    · cases gpu with
      | none => rfl
      | some d =>
        rw [any_some, ← Bool.not_eq_true]
        intro hfound
        have hheld := (hclear.device d rfl).2 (flagged_of_gpuAllocated hfound)
        rw [hpossible.gpu d rfl] at hheld
        cases hheld

/-- **An allocation succeeds exactly when it should**, in every run of calls that are clear where
they are made. -/
theorem allocate_iff_possible {ls : List (Env × LedgerCall)} (hstart : t.allocations = .empty)
    (hquiet : ∀ l ∈ ls, Quiet l) (hclear : Run.Meets ledgerStep (fun u l => l.2.Clear u) t ls) :
    ∀ pre env i n cpu ram gpu post u, ls = pre ++ (env, .allocateResources i n cpu ram gpu) :: post →
      Run.exec ledgerStep t pre = some u → u.instances.lookup i ≠ none → 0 ≤ cpu → 0 ≤ ram →
        (((Write.allocateResources i n cpu ram gpu).exec env u).2 = .ok () ↔ u.Possible i n cpu ram gpu) := by
  rintro pre env i n cpu ram gpu post u rfl hpre hknown hcpu -
  have hmark : u.Marked := by
    refine exec_invariant_of_meets (I := Marked) ?_ (marked_of_empty hstart)
      (meets_of_forall (fun l hl => hquiet l (List.mem_append_left _ hl)) t) hpre
    intro u l _ hu hl hstep
    exact ledgerStep_marked hl hu hstep
  obtain ⟨⟨hfails, hquery, -⟩, -⟩ := hquiet _ (List.mem_append_right _ List.mem_cons_self)
  exact hmark.allocate_iff (hclear pre _ post u rfl hpre) hfails hquery hknown hcpu

end Tables

namespace Sample

def settled : Tables := { oneInstance with
    nodes := ⟨[(lit "n1", Tables.newNodeRow host)], List.nodup_singleton _⟩
    gpus := ⟨[(1, { nodeID := lit "n1", deviceIndex := 0, vramMiB := 16, allocated := false })],
      List.nodup_singleton _⟩ }

def hold : Env × LedgerCall := (calm, .allocateResources (lit "i1") (lit "n1") 2 512 (some 0))

theorem quiet_hold (ls : List (Env × LedgerCall))
    (h : ∀ l ∈ ls, l = hold ∨ l = (calm, .releaseAllocation (lit "i1"))) :
    ∀ l ∈ ls, Quiet l := by
  intro l hl
  rcases h l hl with rfl | rfl
  · simp [Quiet, hold, calm]
  · simp [Quiet, calm]

end Sample

namespace Tables

/-- The instance gives back what it held and asks for the same again: everything is free, and it is
refused. -/
theorem released_is_refused : ∃ t ls u, t.allocations = .empty ∧ (∀ l ∈ ls, Quiet l) ∧
    Run.exec ledgerStep t ls = some u ∧
    u.instances.lookup (lit "i1") ≠ none ∧ u.Possible (lit "i1") (lit "n1") 2 512 (some 0) ∧
    ((Write.allocateResources (lit "i1") (lit "n1") 2 512 (some 0)).exec Sample.calm u).2 ≠ .ok () := by
  obtain ⟨u, hrun, hknown, hnode, hidle, hgpu, href⟩ : ∃ u, Run.exec ledgerStep settled
      [hold, (calm, .releaseAllocation (lit "i1"))] = some u ∧ (u.instances.lookup (lit "i1")).isSome = true ∧
      (∃ row, u.nodes.lookup (lit "n1") = some row ∧ 2 ≤ row.availCPUThreads ∧ 512 ≤ row.availRAMMiB) ∧
      u.activeAllocation (lit "i1") = none ∧ u.holders (lit "n1") 0 = 0 ∧
      ((Write.allocateResources (lit "i1") (lit "n1") 2 512 (some 0)).exec calm u).2.isOk =
        false := by decide +kernel
  refine ⟨_, _, u, rfl, quiet_hold _ (by simp), hrun, isSome_iff_ne_none.1 hknown, ⟨hnode, hidle, ?_⟩, ?_⟩
  · rintro d hd
    cases hd
    exact hgpu
  · intro hok
    rw [hok] at href
    cases href

theorem clear_hold {u : Tables}
    (hheld : (u.allocations.lookup (lit "i1")).all Allocation.isActive = true)
    (hreg : u.registered (lit "n1") 0 = true) (hflag : u.flagged (lit "n1") 0 = true →
    0 < u.holders (lit "n1") 0) : u.Clear (lit "i1") (lit "n1") 2 (some 0) := by
  refine ⟨fun a ha => ?_, fun hzero => ?_, fun d hd => ?_⟩
  · simpa [ha] using hheld
  · cases hzero
  · cases hd
    exact ⟨hreg, hflag⟩

/-- The first call is granted and possible, and the second one neither. -/
theorem granted_then_refused : Sample.settled.Possible (lit "i1") (lit "n1") 2 512 (some 0) ∧
    ∃ u, Run.exec ledgerStep Sample.settled [Sample.hold] = some u ∧ ¬ u.Possible (lit "i1")
    (lit "n1") 2 512 (some 0) := by
  obtain ⟨u, hu, hgranted, hrefused, hknown, hheld, hreg, hflag⟩ : ∃ u, Run.exec ledgerStep settled
    [hold] = some u ∧
      ((Write.allocateResources (lit "i1") (lit "n1") 2 512 (some 0)).exec calm settled).2.isOk = true ∧
      ((Write.allocateResources (lit "i1") (lit "n1") 2 512 (some 0)).exec calm u).2.isOk = false ∧
      (u.instances.lookup (lit "i1")).isSome = true ∧
        (u.allocations.lookup (lit "i1")).all Allocation.isActive = true ∧
      u.registered (lit "n1") 0 = true ∧ 0 < u.holders (lit "n1") 0 := by decide +kernel
  have hmeets : Run.Meets ledgerStep (fun u l => l.2.Clear u) settled [hold, hold] := by
    refine meets_cons.2 ⟨clear_hold (by decide +kernel) (by decide +kernel) (by decide +kernel), fun v hv => ?_⟩
    obtain rfl : u = v := some.inj (hu.symm.trans (by rw [exec, hv]; rfl))
    exact meets_cons.2 ⟨clear_hold hheld hreg fun _ => hflag, fun v _ => meets_nil _ v⟩
  have hiff := allocate_iff_possible rfl (quiet_hold _ (by simp)) hmeets
  refine ⟨(hiff [] calm _ _ 2 512 _ [hold] settled rfl rfl (by decide +kernel) (by decide)
    (by decide)).1 ?_, u, hu, fun h => ?_⟩
  · cases hres : ((Write.allocateResources (lit "i1") (lit "n1") 2 512 (some 0)).exec calm settled).2 with
    | ok => rfl
    | error =>
      rw [hres] at hgranted
      cases hgranted
  · rw [(hiff [hold] calm _ _ 2 512 _ [] u rfl hu (isSome_iff_ne_none.1 hknown) (by decide)
      (by decide)).2 h] at hrefused
    cases hrefused

end Tables

end Ocelot.VirtualServer
