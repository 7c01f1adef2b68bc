/-
# No node is over-committed (`node_store.go`, `allocation_store.go`).
-/
import Ocelot.VirtualServer.Books
import Ocelot.VirtualServer.Effects

namespace Ocelot.VirtualServer

open Table Option Sample Allocation
open Tracker (lit)

inductive CapacityCall where
  | ledger (c : LedgerCall)
  | heartbeat (id : NodeID) (availRAMMiB availCPU : ℤ)

namespace CapacityCall

def program : CapacityCall → Program Unit
  | ledger c => (fun _ => ()) <$> write c.write
  | heartbeat id ram cpu => (fun _ => ()) <$> VirtualServer.heartbeat id ram cpu

def Lawful (t : Tables) : CapacityCall → Prop
  | ledger _ => True
  | heartbeat id ram cpu => ∀ row ∈ t.nodes.lookup id, (0 ≤ ram ∧ ram ≤ row.totalRAMMiB) ∧ 0 ≤ cpu ∧
    cpu ≤ row.cpuThreads

/-- **What a call must meet**, in the tables it finds. -/
def Modest (t : Tables) : CapacityCall → Prop
  | ledger (.createNode n) =>
    (0 ≤ n.totalRAMMiB ∧ n.availRAMMiB ≤ n.totalRAMMiB) ∧
      0 ≤ n.cpuThreads ∧ (Tables.newNodeRow n).availCPUThreads ≤ n.cpuThreads
  | ledger (.allocateResources _ _ cpu ram _) => 0 ≤ cpu ∧ 0 ≤ ram
  | ledger (.releaseAllocation _) => True
  | heartbeat id ram cpu => ∀ row ∈ t.nodes.lookup id,
    ram + t.held ramMiB id ≤ row.totalRAMMiB ∧ cpu + t.held cpuThreads id ≤ row.cpuThreads

instance (t : Tables) : (c : CapacityCall) → Decidable (c.Lawful t)
  | ledger _ => inferInstanceAs (Decidable True)
  | heartbeat id ram cpu => inferInstanceAs (Decidable (∀ row ∈ t.nodes.lookup id,
      (0 ≤ ram ∧ ram ≤ row.totalRAMMiB) ∧ 0 ≤ cpu ∧ cpu ≤ row.cpuThreads))

instance (t : Tables) (c : CapacityCall) : Decidable (c.Modest t) := by
  unfold Modest
  split <;> infer_instance

end CapacityCall

def World.capacityStep (w : World) (l : (ℕ → Env) × CapacityCall) : Option World :=
  some (l.2.program.run act l.1 w).1

namespace Tables

/-- **No over-commitment.** -/
def Within (t : Tables) : Prop := ∀ n row, t.nodes.lookup n = some row →
    (t.held ramMiB n ≤ row.totalRAMMiB ∧ t.held cpuThreads n ≤ row.cpuThreads) ∧
      row.availRAMMiB ≤ row.totalRAMMiB ∧ row.availCPUThreads ≤ row.cpuThreads

structure Thrifty (t : Tables) : Prop where
  amounts : ∀ i a, t.allocations.lookup i = some a → 0 ≤ a.cpuThreads ∧ 0 ≤ a.ramMiB
  known : ∀ i a, t.allocations.lookup i = some a → ∃ row, t.nodes.lookup a.nodeID = some row
  nodes : ∀ n row, t.nodes.lookup n = some row →
    (t.held ramMiB n ≤ row.totalRAMMiB ∧ row.availRAMMiB + t.held ramMiB n ≤ row.totalRAMMiB) ∧
      t.held cpuThreads n ≤ row.cpuThreads ∧
        row.availCPUThreads + t.held cpuThreads n ≤ row.cpuThreads

namespace Thrifty

variable {t t' : Tables} {env : Env}

theorem held_nonneg (h : t.Thrifty) (n : NodeID) : 0 ≤ t.held ramMiB n ∧ 0 ≤ t.held cpuThreads n := by
  have hcol : ∀ column : Allocation → ℤ, (∀ i a, t.allocations.lookup i = some a → 0 ≤ column a) →
      0 ≤ t.held column n := by
    intro column hnn
    unfold held activeSum
    refine sum_nonneg fun i a ha => ?_
    have hrow := hnn i a ha
    dsimp only
    split_ifs <;> omega
  exact ⟨hcol _ fun i a ha => (h.amounts i a ha).2, hcol _ fun i a ha => (h.amounts i a ha).1⟩

theorem within (h : t.Thrifty) : t.Within := by
  intro n row hrow
  have hcap := h.nodes n row hrow
  have hheld := h.held_nonneg n
  omega

theorem of_empty (hnodes : t.nodes = .empty) (halls : t.allocations = .empty) : t.Thrifty := by
  refine ⟨fun i a ha => ?_, fun i a ha => ?_, fun n _ hrow => ?_⟩
  · rw [halls, lookup_empty] at ha
    cases ha
  · rw [halls, lookup_empty] at ha
    cases ha
  · rw [hnodes, lookup_empty] at hrow
    cases hrow

section

variable (h : t.Thrifty)
include h

theorem held_eq_zero {n : NodeID} (hn : t.nodes.lookup n = none) (column : Allocation → ℤ) :
    t.held column n = 0 := by
  unfold held
  refine sum_eq_zero fun i a ha => ?_
  obtain ⟨_, hrow⟩ := h.known i a ha
  have hne : a.nodeID ≠ n := by
    rintro rfl
    rw [hn] at hrow
    cases hrow
  simp [hne]

theorem created {n : Node} {nodes : Table NodeID NodeRow} {gpus : Table ℕ GPURow}
    (hins : t.nodes.insert (newNodeID env n) (newNodeRow n) = some nodes)
    (hmod : CapacityCall.Modest t (.ledger (.createNode n))) : Thrifty { t with nodes, gpus } := by
  have hrows : ∀ m, nodes.lookup m = if m = newNodeID env n then some (newNodeRow n) else t.nodes.lookup m :=
    lookup_insert hins
  refine ⟨h.amounts, fun i a ha => ?_, fun m row hrow => ?_⟩
  · obtain ⟨row, hrow⟩ := h.known i a ha
    rw [hrows]
    split_ifs
    · exact ⟨_, rfl⟩
    · exact ⟨row, hrow⟩
  · have hrow' : nodes.lookup m = some row := hrow
    rw [hrows] at hrow'
    split_ifs at hrow' with hm
    · cases hrow'
      subst hm
      obtain ⟨⟨_, _⟩, _, _⟩ := hmod
      have hzeroRAM := h.held_eq_zero (lookup_of_insert hins) ramMiB
      have hzeroCPU := h.held_eq_zero (lookup_of_insert hins) cpuThreads
      show (t.held ramMiB (newNodeID env n) ≤ n.totalRAMMiB ∧
          n.availRAMMiB + t.held ramMiB (newNodeID env n) ≤ n.totalRAMMiB) ∧
        t.held cpuThreads (newNodeID env n) ≤ n.cpuThreads ∧
          (newNodeRow n).availCPUThreads + t.held cpuThreads (newNodeID env n) ≤ n.cpuThreads
      omega
    · exact h.nodes m row hrow'

theorem booked {i : InstanceID} {node : NodeID} {cpu ram : ℤ} {gpu : Option ℤ} (hcpu : 0 ≤ cpu)
    (hram : 0 ≤ ram) (hadmits : t.Admits i node cpu ram)
    (hbook : t.Booked t' env i node cpu ram gpu) : t'.Thrifty := by
  obtain ⟨target, htarg, _, hfitsCPU⟩ := hadmits.node
  have hrows := hbook.lookup_nodes
  refine ⟨fun j a ha => ?_, fun j a ha => ?_, fun n _ hrow' => ?_⟩
  · rw [hbook.lookup_allocations] at ha
    split_ifs at ha
    · cases ha
      exact ⟨hcpu, hram⟩
    · exact h.amounts j a ha
  · rw [hbook.lookup_allocations] at ha
    split_ifs at ha
    · cases ha
      exact hbook.keeps_node node target htarg
    · obtain ⟨row, hrow⟩ := h.known j a ha
      exact hbook.keeps_node _ row hrow
  · rw [hrows] at hrow'
    obtain ⟨row, hrow, rfl⟩ := map_eq_some_iff.1 hrow'
    obtain ⟨⟨_, _⟩, _, _⟩ := h.nodes n row hrow
    rw [hbook.held_eq, hbook.held_eq]
    by_cases hn : n = node
    · subst hn
      rw [htarg] at hrow
      cases hrow
      simp only [if_true, newAllocation]
      by_cases hpos : 0 < cpu
      · have hfits := hfitsCPU hpos
        omega
      · omega
    · rw [if_neg hn, if_neg (Ne.symm hn), if_neg (Ne.symm hn)]
      omega

theorem freed {i : InstanceID} {a : Allocation} (ha : t.activeAllocation i = some a)
    (hfreed : t.Freed t' env i a) : t'.Thrifty := by
  have hamounts := h.amounts i a (activeAllocation_eq_some.1 ha).1
  have hrows := hfreed.lookup_nodes
  refine ⟨fun j a' ha' => ?_, fun j a' ha' => ?_, fun n _ hrow' => ?_⟩
  · rw [hfreed.lookup_allocations] at ha'
    obtain ⟨a0, ha0, rfl⟩ := map_eq_some_iff.1 ha'
    split_ifs <;> exact h.amounts j a0 ha0
  · rw [hfreed.lookup_allocations] at ha'
    obtain ⟨a0, ha0, rfl⟩ := map_eq_some_iff.1 ha'
    obtain ⟨row, hrow⟩ := h.known j a0 ha0
    split_ifs <;> exact hfreed.keeps_node _ row hrow
  · rw [hrows] at hrow'
    obtain ⟨row, hrow, rfl⟩ := map_eq_some_iff.1 hrow'
    obtain ⟨⟨_, _⟩, _, _⟩ := h.nodes n row hrow
    rw [hfreed.held_eq ha, hfreed.held_eq ha]
    by_cases hn : n = a.nodeID
    · subst hn
      simp only [if_true]
      omega
    · rw [if_neg hn, if_neg (Ne.symm hn), if_neg (Ne.symm hn)]
      omega

theorem heartbeat {id : NodeID} {ram cpu : ℤ} (state : NodeState)
    (hmod : CapacityCall.Modest t (.heartbeat id ram cpu)) : (t.writeHeartbeat env id ram cpu state).Thrifty := by
  have hrows : ∀ n, (t.writeHeartbeat env id ram cpu state).nodes.lookup n = (t.nodes.lookup n).map fun row =>
        if n = id then
          { row with lastHeartbeat := some (unix env.now), availRAMMiB := ram, availCPUThreads := cpu, state }
        else row := by
    intro n
    show (t.nodes.modify (fun k _ => decide (k = id)) _).lookup n = _
    rw [lookup_modify]
    simp only [decide_eq_true_eq]
  refine ⟨h.amounts, fun j a ha => ?_, fun n _ hrow' => ?_⟩
  · obtain ⟨row, hrow⟩ := h.known j a ha
    rw [hrows, hrow]
    exact ⟨_, rfl⟩
  · rw [hrows] at hrow'
    obtain ⟨row, hrow, rfl⟩ := map_eq_some_iff.1 hrow'
    by_cases hn : n = id
    · subst hn
      obtain ⟨hram, hcpu⟩ := hmod row hrow
      obtain ⟨⟨hheldRAM, -⟩, hheldCPU, -⟩ := h.nodes n row hrow
      rw [if_pos rfl]
      exact ⟨⟨hheldRAM, hram⟩, hheldCPU, hcpu⟩
    · rw [if_neg hn]
      exact h.nodes n row hrow

theorem exec_ledger {c : LedgerCall} (hmod : CapacityCall.Modest t (.ledger c)) :
    (c.write.exec env t).1.Thrifty := by
  rcases Write.exec_cases env t c.write with ⟨e, hexec⟩ | ⟨t', ans, -, hcom, hexec⟩
  · rw [hexec]
    exact h
  · rw [hexec]
    cases c with
    | createNode =>
      cases Write.committed hcom with
      | nodeCreated _ _ hins => exact h.created hins hmod
    | allocateResources =>
      cases Write.committed hcom with
      | booked _ _ _ _ _ _ hadmits hbook => exact h.booked hmod.1 hmod.2 hadmits hbook
    | releaseAllocation =>
      cases Write.committed hcom with
      | nothingFreed => exact h
      | freed _ _ _ ha hfreed => exact h.freed ha hfreed

end

end Thrifty

end Tables

namespace World

theorem heartbeat_triple (t : Tables) (id : NodeID) (ram cpu : ℤ) :
    Prog.Triple act (fun _ => True) (fun w => w.tables = t) (heartbeat id ram cpu) fun _ w =>
      w.tables = t ∨ ∃ env state, w.tables = t.writeHeartbeat env id ram cpu state := by
  refine .perform (R := fun _ w => w.tables = t) (fun _ _ _ hw => hw) fun ans => ?_
  cases ans with
  | error => exact .ret fun _ hw => .inl hw
  | ok n =>
    refine .call ?_ fun _ => .ret fun _ hw => hw
    rintro env w - rfl
    refine act_rule (.inl rfl) ?_
    rintro _ _ hwr - hcom
    cases hwr
    cases hcom
    exact .inr ⟨env, n.state.afterHeartbeat, rfl⟩

theorem capacityStep_thrifty {w w' : World} {l : (ℕ → Env) × CapacityCall} (h : w.tables.Thrifty)
    (hmod : l.2.Modest w.tables) (hstep : w.capacityStep l = some w') : w'.tables.Thrifty := by
  obtain ⟨env, call⟩ := l
  cases hstep
  cases call with
  | ledger => exact h.exec_ledger hmod
  | heartbeat id ram cpu =>
    have hsame : ((CapacityCall.heartbeat id ram cpu).program.run act env w).1 =
        ((heartbeat id ram cpu).run act env w).1 := by
      rw [CapacityCall.program, Prog.run_map]
    rw [hsame]
    rcases heartbeat_triple w.tables id ram cpu env (fun _ => trivial) w rfl with hnone | ⟨e, state, hwritten⟩
    · rw [hnone]
      exact h
    · rw [hwritten]
      exact h.heartbeat state hmod

/-- **Nothing is over-committed** in a run whose calls are all modest. -/
theorem within_of_modest {w w' : World} {ls : List ((ℕ → Env) × CapacityCall)}
    (hnodes : w.tables.nodes = .empty) (hallocations : w.tables.allocations = .empty)
    (hmodest : Run.Meets capacityStep (fun u l => l.2.Modest u.tables) w ls)
    (hrun : Run.exec capacityStep w ls = some w') : w'.tables.Within := by
  have hkept : w'.tables.Thrifty := by
    refine Run.exec_invariant_of_meets (I := fun u => u.tables.Thrifty) ?_
      (.of_empty hnodes hallocations) hmodest hrun
    intro u l _ hu hl hstep
    exact capacityStep_thrifty hu hl hstep
  exact hkept.within

end World

namespace Sample

def pair : World where
  tables := { Tables.empty with
    instances := ⟨[(lit "i1", Tables.newInstanceRow calm 1 (lit "vs://d/web/0")),
      (lit "i2", Tables.newInstanceRow calm 1 (lit "vs://d/web/1"))], by decide +kernel⟩ }
  events := []

def regained (ram : ℤ) : List ((ℕ → Env) × CapacityCall) := [(fun _ => calm, .ledger (.createNode host)),
    (fun _ => calm, .ledger (.allocateResources (lit "i1") (lit "n1") 2 512 none)),
    (fun _ => calm, .heartbeat (lit "n1") ram 6),
    (fun _ => calm, .ledger (.allocateResources (lit "i2") (lit "n1") 2 768 none))]

end Sample

namespace World

/-- The node reports all of its memory, and 1280 MiB of its 1024 are allocated. -/
theorem allocated_twice : ∃ w ls w', w.tables.nodes = .empty ∧ w.tables.allocations = .empty ∧
    Run.Meets capacityStep (fun u l => l.2.Lawful u.tables) w ls ∧
    Run.exec capacityStep w ls = some w' ∧ ¬ w'.tables.Within := by
  obtain ⟨w', hrun, hnode⟩ : ∃ w', Run.exec capacityStep pair (regained 1024) = some w' ∧
      ∃ row, w'.tables.nodes.lookup (lit "n1") = some row ∧
        row.totalRAMMiB < w'.tables.held ramMiB (lit "n1") := by decide +kernel
  obtain ⟨row, hrow, _⟩ := hnode
  refine ⟨_, _, w', rfl, rfl, by decide +kernel, hrun, fun hwithin => ?_⟩
  have hle := (hwithin (lit "n1") row hrow).1.1
  omega

theorem within_regained : ∃ w', Run.exec capacityStep pair (regained 512) = some w' ∧ w'.tables.Within := by
  exact Run.ends_run (by decide +kernel) fun w' hrun => within_of_modest rfl rfl (by decide +kernel) hrun

end World

end Ocelot.VirtualServer
