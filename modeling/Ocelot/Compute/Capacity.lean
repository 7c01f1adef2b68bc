/-
# What is reserved on a node stays within its capacity, as long as no inventory changes that.
-/
import Ocelot.Compute.Booking
import Ocelot.Compute.NodeRecovery

namespace Ocelot.Compute

open List Table Reservation Tables
open Prog (Triple Issues)

def Tables.reservedOf (t : Tables) (column : Reservation → ℤ) (n : NodeID) : ℤ :=
  ((t.reservations.select fun _ r => r.nodeID = n && r.isHeld).map fun e => column e.2).sum

section

variable {t t' : Tables} (column : Reservation → ℤ)

theorem reservedOf_release {w : WorkloadID} {finishedAt : Millis}
    (h : t'.reservations = t.reservations.modify (fun _ r => r.heldBy w) (release finishedAt))
    (hcol : ∀ id r, t.reservations.lookup id = some r → 0 ≤ column r) (n : NodeID) :
    t'.reservedOf column n ≤ t.reservedOf column n := by
  unfold reservedOf
  rw [h, select_modify_of_dropped]
  · have hsub := (filter_sublist (l := t.reservations.select fun _ r => r.nodeID = n && r.isHeld)
      (p := fun e => !e.2.heldBy w)).map fun e => column e.2
    refine hsub.sum_le_sum fun a ha => ?_
    obtain ⟨e, he, rfl⟩ := mem_map.1 ha
    exact hcol e.1 e.2 ((mem_select _ _).1 he).1
  · intro id r _
    simp [release, isHeld]

section

variable {id : ReservationID} {pw : PendingWork} {node : NodeID} {gpu : Option (GPUID × ℤ)} {now : Millis}
  {reservations : Table ReservationID Reservation}
  (hins : t.reservations.insert id (pw.reservation node gpu now) = some reservations) (n : NodeID)

include hins

theorem reservedOf_book : (t.book pw node gpu reservations now).reservedOf column n =
    t.reservedOf column n + if node = n then column (pw.reservation node gpu now) else 0 := by
  show ((reservations.select _).map _).sum = _
  rw [select_insert hins, map_append, sum_append]
  congr 1
  by_cases hn : node = n <;> simp [hn, PendingWork.reservation, isHeld]

theorem reserved_book : (t.book pw node gpu reservations now).cpuReserved n =
        t.cpuReserved n + (if node = n then pw.manifest.resources.cpuMillicores else 0) ∧
      (t.book pw node gpu reservations now).ramReserved n =
        t.ramReserved n + if node = n then pw.manifest.resources.ramMb else 0 :=
  ⟨reservedOf_book cpuMcores hins n, reservedOf_book ramMb hins n⟩

end

theorem reservedOf_eq_zero {n : NodeID} (h : ∀ id r, t.reservations.lookup id = some r →
    r.nodeID ≠ n) : t.reservedOf column n = 0 := by
  have hnone : (t.reservations.select fun _ r => r.nodeID = n && r.isHeld) = [] := by
    rw [eq_nil_iff_forall_not_mem]
    intro e he
    obtain ⟨hrow, hmatch⟩ := (mem_select _ _).1 he
    simp only [Bool.and_eq_true, decide_eq_true_eq] at hmatch
    exact h e.1 e.2 hrow hmatch.1
  rw [reservedOf, hnone]
  rfl

end

/-- **What is reserved on a node is within its capacity.** -/
def Tables.WithinCapacity (t : Tables) : Prop :=
  ∀ n row, t.nodes.lookup n = some row → t.cpuReserved n ≤ row.cpuCores * 1000 ∧ t.ramReserved n ≤ row.ramMb

structure Tables.Booked (t : Tables) : Prop where
  amounts : ∀ id r, t.reservations.lookup id = some r → 0 ≤ r.cpuMcores ∧ 0 ≤ r.ramMb
  nodes : ∀ id r, t.reservations.lookup id = some r → ∃ row, t.nodes.lookup r.nodeID = some row
  capacity : t.WithinCapacity
  manifests : ∀ w row, t.workloads.lookup w = some row → row.manifest.resources.Valid

/-- **What an operation must meet**: what is inserted is valid, an inventory keeps the capacity, a
booking is of a workload that was read from the rows. -/
def Op.Lawful (t : Tables) : Op → Prop
  | .exec (.insertWorkload _ row) => row.manifest.resources.Valid
  | .exec (.updateNode (.inventory id cpuCores ramMb _ _ _)) =>
    ∀ row ∈ t.nodes.lookup id, cpuCores = row.cpuCores ∧ ramMb = row.ramMb
  | .register req => 0 ≤ req.cpuCores ∧ 0 ≤ req.ramMb
  | .scheduleOne pw => t.Knows pw
  | _ => True

variable {t : Tables} {op : Op} {n : NodeID}

theorem capacity_of_lawful {env : Env} (hop : op.Lawful t) {row' : Node}
    (h : (act env op t).1.nodes.lookup n = some row') :
    (∃ row, t.nodes.lookup n = some row ∧ row'.cpuCores = row.cpuCores ∧ row'.ramMb = row.ramMb) ∨
      t.nodes.lookup n = none ∧ 0 ≤ row'.cpuCores ∧ 0 ≤ row'.ramMb := by
  have heff := act_nodeEffect env op t n
  rw [h] at heff
  generalize hbef : t.nodes.lookup n = pre at heff ⊢
  cases heff with
  | unchanged => exact .inl ⟨row', rfl, rfl, rfl⟩
  | inserted _ _ hreg =>
    subst hreg
    exact .inr ⟨rfl, hop⟩
  | updated s row _ hstmt hid _ hset =>
    subst hstmt
    refine .inl ⟨row, rfl, ?_⟩
    cases s with
    | heartbeat =>
      obtain ⟨_, -, hrow'⟩ := Option.bind_eq_some_iff.1 hset
      cases hrow'
      exact ⟨rfl, rfl⟩
    | inventory =>
      simp only [NodeStmt.set] at hset
      split_ifs at hset
      cases hset
      subst hid
      exact hop row hbef
    | drain | setDead | markLost =>
      cases hset
      exact ⟨rfl, rfl⟩

theorem act_node {row : Node} (h : t.nodes.lookup n = some row) (env : Env) (op : Op) :
    ∃ row', (act env op t).1.nodes.lookup n = some row' := by
  obtain ⟨row', hrow', -⟩ := act_node_cases h env op
  exact ⟨row', hrow'⟩

theorem Tables.Booked.valid (h : t.Booked) {pw : PendingWork} (hknown : t.Knows pw) :
    pw.manifest.resources.Valid := by
  obtain ⟨row, hrow, hman⟩ := hknown
  rw [← hman]
  exact h.manifests pw.id row hrow

theorem reserved_act (h : t.Booked) (env : Env) (hop : op.Lawful t) (n : NodeID) :
    ((act env op t).1.cpuReserved n ≤ t.cpuReserved n ∧ (act env op t).1.ramReserved n ≤ t.ramReserved n) ∨
      ∃ row, t.nodes.lookup n = some row ∧ (act env op t).1.cpuReserved n ≤ row.cpuCores * 1000 ∧
        (act env op t).1.ramReserved n ≤ row.ramMb := by
  have hacts := act_acts env op t
  generalize (act env op t).1 = t' at hacts ⊢
  cases hacts with
  | released =>
    left
    constructor
    · exact reservedOf_release cpuMcores rfl (fun id r hr => (h.amounts id r hr).1) n
    · exact reservedOf_release ramMb rfl (fun id r hr => (h.amounts id r hr).2) n
  | booked pw node _ hnode _ hins =>
    obtain ⟨hcpu, hram⟩ := reserved_book hins n
    obtain ⟨row, hfits, -⟩ := findNode_eq_some (h.valid hop).2.2 hnode
    by_cases hn : node = n
    · subst hn
      right
      have hcpuRoom : pw.manifest.resources.cpuMillicores ≤ row.cpuCores * 1000 - t.cpuReserved node := hfits.cpu
      have hramRoom : pw.manifest.resources.ramMb ≤ row.ramMb - t.ramReserved node := hfits.ram
      rw [if_pos rfl] at hcpu hram
      refine ⟨row, hfits.there, ?_, ?_⟩ <;> omega
    · left
      rw [if_neg hn, add_zero] at hcpu hram
      exact ⟨le_of_eq hcpu, le_of_eq hram⟩
  | _ => exact .inl ⟨le_rfl, le_rfl⟩

theorem Tables.Booked.act (h : t.Booked) (env : Env) (hop : op.Lawful t) : (act env op t).1.Booked := by
  have hreservation : ∀ id r', (Compute.act env op t).1.reservations.lookup id = some r' →
      (0 ≤ r'.cpuMcores ∧ 0 ≤ r'.ramMb) ∧ ∃ row, t.nodes.lookup r'.nodeID = some row := by
    intro id r' hr'
    have hacts := act_acts env op t
    generalize (Compute.act env op t).1 = t' at hacts hr'
    cases hacts with
    | released =>
      have hmod := (lookup_modify ..).symm.trans hr'
      obtain ⟨r, hr, rfl⟩ := Option.map_eq_some_iff.1 hmod
      split_ifs <;> exact ⟨h.amounts id r hr, h.nodes id r hr⟩
    | booked _ _ _ hnode _ hins =>
      have hrow := (lookup_insert hins id).symm.trans hr'
      split_ifs at hrow with hid
      · cases hrow
        have hval := h.valid hop
        obtain ⟨row, hfits, -⟩ := findNode_eq_some hval.2.2 hnode
        exact ⟨⟨zero_le_one.trans hval.1, zero_le_one.trans hval.2.1⟩, row, hfits.there⟩
      · exact ⟨h.amounts id r' hrow, h.nodes id r' hrow⟩
    | _ => exact ⟨h.amounts id r' hr', h.nodes id r' hr'⟩
  refine ⟨fun id r hr => (hreservation id r hr).1, fun id r hr => ?_, fun n row' hrow' => ?_,
    fun w row' hrow' => ?_⟩
  · obtain ⟨row, hrow⟩ := (hreservation id r hr).2
    exact act_node hrow env op
  · rcases capacity_of_lawful hop hrow' with ⟨row, hrow, hcpu, hram⟩ | ⟨hnone, hcpu, hram⟩
    · rw [hcpu, hram]
      rcases reserved_act h env hop n with ⟨hc, hr⟩ | ⟨row1, hrow1, hc, hr⟩
      · exact ⟨hc.trans (h.capacity n row hrow).1, hr.trans (h.capacity n row hrow).2⟩
      · rw [hrow] at hrow1
        cases hrow1
        exact ⟨hc, hr⟩
    · -- a node that is new has no reservations
      have hzero : ∀ column, t.reservedOf column n = 0 := by
        intro column
        refine reservedOf_eq_zero column fun id r hr hn => ?_
        obtain ⟨row, hrow⟩ := h.nodes id r hr
        rw [hn, hnone] at hrow
        cases hrow
      have hcpu0 : t.cpuReserved n = 0 := hzero cpuMcores
      have hram0 : t.ramReserved n = 0 := hzero ramMb
      rcases reserved_act h env hop n with ⟨hc, hr⟩ | ⟨row1, hrow1, -⟩
      · omega
      · rw [hnone] at hrow1
        cases hrow1
  · have heff := act_effect env op t w
    rw [hrow'] at heff
    generalize hbef : t.workloads.lookup w = pre at heff
    cases heff with
    | unchanged => exact h.manifests w row' hbef
    | inserted _ hins =>
      subst hins
      exact hop
    | updated s row =>
      rw [s.manifest_set row]
      exact h.manifests w row hbef
    | dispatched _ _ _ row => exact h.manifests w row hbef

theorem valid_of_submit {req : SubmitWorkloadRequest} (h : validateSubmitRequest req = .ok ()) :
    req.manifest.resources.Valid := by
  unfold validateSubmitRequest at h
  dsimp only at h
  split_ifs at h with hname htype hcpu hram hgpu hvram hretries
  refine ⟨?_, ?_, ?_⟩ <;> omega

theorem capacity_of_register {req : RegisterRequest} (h : validateRegisterRequest req = .ok ()) :
    0 ≤ req.cpuCores ∧ 0 ≤ req.ramMb := by
  unfold validateRegisterRequest at h
  split_ifs at h with hhost harch hversion hcpu hram hstorage hgpus
  all_goals exact ⟨by omega, by omega⟩

namespace Plane

/-- **Capacities are constant**: an inventory says what the node has said before. -/
def KeepsCapacity (p : Plane) : Label → Prop
  | .call (.inventory node req) _ =>
    ∀ row ∈ p.tables.nodes.lookup node, req.cpuCores = row.cpuCores ∧ req.ramMb = row.ramMb
  | _ => True

instance (p : Plane) (l : Label) : Decidable (p.KeepsCapacity l) := by
  unfold KeepsCapacity
  split <;> infer_instance

structure Booked (p : Plane) : Prop where
  tables : p.tables.Booked
  batch : ∀ pw ∈ p.batch, p.tables.Knows pw

theorem booked_initial : initial.Booked where
  tables := by
    refine ⟨fun id r hr => ?_, fun id r hr => ?_, fun n row hrow => ?_, fun w row hrow => ?_⟩
    · cases hr
    · cases hr
    · cases hrow
    · cases hrow
  batch := by
    intro _ hpw
    cases hpw

theorem lawful_of_reads : ∀ op : Op, op.reads = true → ∀ t, op.Lawful t := by
  intro op hop t
  cases op with
  | exec stmt =>
    cases stmt with
    | insertEvent => trivial
    | _ => cases hop
  | scheduleOne | register => cases hop
  | _ => trivial

theorem triple_booked {α : Type} {prog : Program α} (h : Issues (fun op => ∀ t, op.Lawful t) prog) :
    Triple act (fun _ => True) Tables.Booked prog fun _ => Tables.Booked :=
  Issues.triple h fun env _ t _ hop hbook => hbook.act env (hop t)

theorem call_lawful {c : Call} (hc : ∀ node req, c ≠ .inventory node req) :
    Issues (fun op => ∀ t, op.Lawful t) c.code :=
  issues_call lawful_of_reads (fun _ hval _ _ _ _ _ => valid_of_submit hval)
    (fun _ hval _ => capacity_of_register hval)
    (fun _ _ _ _ _ => trivial) (fun node req heq => absurd heq (hc node req))
      (fun _ _ _ _ => trivial) (fun _ _ _ => trivial)
    (fun _ _ => trivial) (fun _ _ => trivial) (fun _ _ _ => trivial) (fun _ _ _ => trivial) fun _ _ => trivial

theorem inventory_booked {node : NodeID} {req : InventoryRequest} : Triple act (fun _ => True)
      (fun t => t.Booked ∧ ∀ row ∈ t.nodes.lookup node, req.cpuCores = row.cpuCores ∧
      req.ramMb = row.ramMb) (handleInventory node req) fun _ => Tables.Booked := by
  refine .perform (R := fun _ t =>
    t.Booked ∧ ∀ row ∈ t.nodes.lookup node, req.cpuCores = row.cpuCores ∧ req.ramMb = row.ramMb) ?_ fun _ => ?_
  · rintro env t - ht
    have hsame : (act env .nowMs t).1 = t := by
      unfold act
      split_ifs <;> rfl
    rw [hsame]
    exact ht
  · refine .perform (R := fun _ => Tables.Booked) ?_ ?_
    · rintro env t - ⟨hbook, hkeeps⟩
      exact hbook.act env hkeeps
    · rintro (_ | _ | k)
      · exact .ret fun t ht => ht
      · exact .ret fun t ht => ht
      · refine triple_booked (.bind (.forEach fun _ _ => ?_) fun _ => .ret Response.ok)
        exact .perform (lawful_of_reads _ rfl) fun _ => .perform (fun _ => trivial) fun _ => .ret ()

theorem call_booked {p : Plane} {c : Call} {env : ℕ → Env} (h : p.tables.Booked)
    (hkeeps : p.KeepsCapacity (.call c env)) : (c.code.run act env p.tables).1.Booked := by
  by_cases hc : ∃ node req, c = .inventory node req
  · obtain ⟨node, req, rfl⟩ := hc
    have hinv : Triple act (fun _ => True)
        (fun t => t.Booked ∧ ∀ row ∈ t.nodes.lookup node, req.cpuCores = row.cpuCores ∧ req.ramMb = row.ramMb)
        (Call.inventory node req).code fun _ => Tables.Booked := inventory_booked.map
    exact hinv env (fun _ => trivial) p.tables ⟨h, hkeeps⟩
  · refine triple_booked (call_lawful ?_) env (fun _ => trivial) p.tables h
    rintro node req rfl
    exact hc ⟨node, req, rfl⟩

theorem step_booked {p p' : Plane} {l : Label} (h : p.Booked) (hkeeps : p.KeepsCapacity l)
    (hstep : p.step l = some p') :
    p'.Booked := by
  have hbatch : ∀ pw ∈ p.batch, p'.tables.Knows pw := by
    intro pw hpw
    exact step_keeps (I := fun t => t.Knows pw) (fun env op t ht => ht.act env op) (h.batch pw hpw) hstep
  cases l with
  | call =>
    cases hstep
    exact ⟨call_booked h.tables hkeeps, hbatch⟩
  | event _ _ env =>
    cases hstep
    refine ⟨triple_booked ?_ env (fun _ => trivial) p.tables h.tables, hbatch⟩
    exact issues_applyHealthEvent lawful_of_reads (fun _ _ => trivial) (fun _ _ => trivial)
      (fun _ => trivial) (fun _ => trivial) fun _ _ => trivial
  | select env =>
    cases hstep
    refine ⟨h.tables, fun pw hpw => ?_⟩
    cases hfails : env.fails with
    | true =>
      rw [act, if_pos hfails] at hpw
      cases hpw
    | false =>
      rw [act_of_not_fails hfails] at hpw
      exact knows_of_mem_pending hpw
  | scheduleOne env =>
    obtain ⟨pw, hhead, hturn⟩ := step_scheduleOne hstep
    refine ⟨?_, fun pw' hpw' => hbatch pw' (hhead ▸ mem_cons_of_mem pw hpw')⟩
    rcases hturn with ⟨-, hsame⟩ | ⟨-, htables⟩
    · rw [hsame]
      exact h.tables
    · rw [htables]
      exact h.tables.act env (h.batch pw (hhead ▸ mem_cons_self))

end Plane

end Ocelot.Compute
