/-
# One booking of the scheduler (`scheduler.go`).
-/
import Ocelot.Compute.Statements

namespace Ocelot.Compute

open Table Option Tables
open Tracker (Bytes)

def ResourceSpec.Valid (res : ResourceSpec) : Prop := 1 ≤ res.cpuMillicores ∧ 1 ≤ res.ramMb ∧ 0 ≤ res.gpuCount

def ResourceSpec.Covers (big small : ResourceSpec) : Prop :=
  small.cpuMillicores ≤ big.cpuMillicores ∧ small.ramMb ≤ big.ramMb ∧
    small.gpuCount ≤ big.gpuCount ∧ (0 < small.gpuCount → small.gpuVRAMMb ≤ big.gpuVRAMMb)

def Workload.turn (row : Workload) : ℤ ×ₗ ℤ := toLex (-row.priority, row.queuedAt.getD row.submittedAt)

namespace Tables

def freeCPU (t : Tables) (n : NodeID) (row : Node) : ℤ := row.cpuCores * 1000 - t.cpuReserved n
def freeRAM (t : Tables) (n : NodeID) (row : Node) : ℤ := row.ramMb - t.ramReserved n

structure Usable (t : Tables) (res : ResourceSpec) (n : NodeID) (g : GPUID) (gpu : NodeGPU) : Prop where
  there : t.nodeGPUs.lookup g = some gpu
  node : gpu.nodeID = n
  free : gpu.workloadID = none
  healthy : gpu.health = .ready
  vram : res.gpuVRAMMb ≤ gpu.vramMb

/-- **The node fits**: it is ready or busy, with enough free CPU and memory and, if needed, a GPU
that can be used. -/
structure Fits (t : Tables) (res : ResourceSpec) (n : NodeID) (row : Node) : Prop where
  there : t.nodes.lookup n = some row
  status : row.status = .ready ∨ row.status = .busy
  cpu : res.cpuMillicores ≤ t.freeCPU n row
  ram : res.ramMb ≤ t.freeRAM n row
  gpu : 0 < res.gpuCount → ∃ g gpu, t.Usable res n g gpu

end Tables

theorem NodeStatus.isSchedulable_iff (s : NodeStatus) : s.isSchedulable = true ↔ s = .ready ∨ s = .busy := by
  cases s <;> simp [NodeStatus.isSchedulable]

variable {row : Node}

theorem Tables.Fits.of_covers {t : Tables} {big small : ResourceSpec} (h : big.Covers small)
    {n : NodeID} (hfits : t.Fits big n row) : t.Fits small n row where
  there := hfits.there
  status := hfits.status
  cpu := h.1.trans hfits.cpu
  ram := h.2.1.trans hfits.ram
  gpu := by
    intro hneeds
    obtain ⟨g, gpu, husable⟩ := hfits.gpu (hneeds.trans_le h.2.2.1)
    exact ⟨g, gpu, { husable with vram := (h.2.2.2 hneeds).trans husable.vram }⟩

section

variable {t : Tables} {res : ResourceSpec} {n : NodeID} {rank : Bytes → ℕ}

theorem gpuFits_iff {g : GPUID} {gpu : NodeGPU} (h : t.nodeGPUs.lookup g = some gpu) :
    Tables.gpuFits n res.gpuVRAMMb gpu = true ↔ t.Usable res n g gpu := by
  simp only [gpuFits, Bool.and_eq_true, decide_eq_true_eq]
  constructor
  · rintro ⟨⟨⟨hnode, hfree⟩, hhealthy⟩, hvram⟩
    exact ⟨h, hnode, hfree, hhealthy, hvram⟩
  · rintro ⟨-, hnode, hfree, hhealthy, hvram⟩
    exact ⟨⟨⟨hnode, hfree⟩, hhealthy⟩, hvram⟩

theorem capable_iff_fits (hgpu : 0 ≤ res.gpuCount) (h : t.nodes.lookup n = some row) :
    t.capable res n row = true ↔ t.Fits res n row := by
  have hcnt : (0 < t.nodeGPUs.count fun _ g => gpuFits n res.gpuVRAMMb g) ↔ ∃ g gpu, t.Usable res n g gpu := by
    rw [count_pos_iff]
    constructor
    · rintro ⟨g, gpu, hrow, hfits⟩
      exact ⟨g, gpu, (gpuFits_iff hrow).1 hfits⟩
    · rintro ⟨g, gpu, husable⟩
      exact ⟨g, gpu, husable.there, (gpuFits_iff husable.there).2 husable⟩
  simp only [capable, Bool.and_eq_true, decide_eq_true_eq, Bool.or_eq_true, hcnt, NodeStatus.isSchedulable_iff]
  constructor
  · rintro ⟨⟨⟨hstat, hcpu⟩, hram⟩, hzero | husable⟩
    · exact ⟨h, hstat, hcpu, hram, fun hneeds => absurd hzero hneeds.ne'⟩
    · exact ⟨h, hstat, hcpu, hram, fun _ => husable⟩
  · rintro ⟨-, hstat, hcpu, hram, husable⟩
    refine ⟨⟨⟨hstat, hcpu⟩, hram⟩, ?_⟩
    rcases hgpu.eq_or_lt with hzero | hneeds
    · exact .inl hzero.symm
    · exact .inr (husable hneeds)

theorem findNode_eq_none (hgpu : 0 ≤ res.gpuCount) (h : t.findNode res rank = none) : ¬ t.Fits res n row := by
  intro hfits
  rw [findNode, map_eq_none_iff] at h
  exact least_ne_none hfits.there ((capable_iff_fits hgpu hfits.there).2 hfits) h

theorem findNode_eq_some (hgpu : 0 ≤ res.gpuCount) (h : t.findNode res rank = some n) :
    ∃ row, t.Fits res n row ∧ ∀ m row', t.Fits res m row' → t.freeRAM n row ≤ t.freeRAM m row' := by
  obtain ⟨e, he, rfl⟩ := map_eq_some_iff.1 h
  obtain ⟨hrow, hcap⟩ := least_eq_some he
  refine ⟨e.2, (capable_iff_fits hgpu hrow).1 hcap, fun m row' hfits => ?_⟩
  exact least_le he hfits.there ((capable_iff_fits hgpu hfits.there).2 hfits)

theorem claimGPU_eq_some {gpu : Option (GPUID × ℤ)} (h : t.claimGPU res n rank = some gpu)
    (hone : res.gpuCount = 1) :
    ∃ g row, gpu = some (g, row.vramMb) ∧ t.Usable res n g row ∧
      ∀ g' row', t.Usable res n g' row' → row.vramMb ≤ row'.vramMb := by
  rw [claimGPU, if_pos hone] at h
  obtain ⟨_, hfound, rfl⟩ := map_eq_some_iff.1 h
  obtain ⟨e, he, rfl⟩ := map_eq_some_iff.1 hfound
  obtain ⟨hrow, hfits⟩ := least_eq_some he
  refine ⟨e.1, e.2, rfl, (gpuFits_iff hrow).1 hfits, fun g' row' husable => ?_⟩
  exact least_le he husable.there ((gpuFits_iff husable.there).2 husable)

theorem claimGPU_ne_none (h : t.Fits res n row) : t.claimGPU res n rank ≠ none := by
  unfold claimGPU
  split_ifs with hone
  · obtain ⟨g, gpu, husable⟩ := h.gpu (by omega)
    intro hnone
    rw [map_eq_none_iff, findFreeGPU, map_eq_none_iff] at hnone
    exact least_ne_none husable.there ((gpuFits_iff husable.there).2 husable) hnone
  · exact some_ne_none _

end

def Tables.bookingFails (t : Tables) (env : Env) : Bool :=
  env.fails || (t.reservations.lookup (env.newID 0)).isSome

def Tables.Pending (t : Tables) (w : WorkloadID) : Prop :=
  ∃ row, t.workloads.lookup w = some row ∧ row.status.isPending = true

def Tables.Dispatched (t : Tables) (w : WorkloadID) : Prop :=
  ∃ row, t.workloads.lookup w = some row ∧ row.status = .dispatched

variable {t : Tables} {pw : PendingWork}

theorem Tables.Dispatched.not_pending {w : WorkloadID} (h : t.Dispatched w) : ¬ t.Pending w := by
  rintro ⟨_, hrow', hpend⟩
  obtain ⟨_, hrow, hstat⟩ := h
  rw [hrow] at hrow'
  cases hrow'
  rw [hstat] at hpend
  cases hpend

theorem scheduleOne_cases (hpend : t.Pending pw.id) (hgpu : 0 ≤ pw.manifest.resources.gpuCount)
    (env : Env) : (t.bookingFails env = true ∧ (act env (.scheduleOne pw) t).1 = t) ∨
      ((∀ n row, ¬ t.Fits pw.manifest.resources n row) ∧ (act env (.scheduleOne pw) t).1 = t) ∨
      ∃ n gpu reservations, t.findNode pw.manifest.resources env.rank = some n ∧
        t.claimGPU pw.manifest.resources n env.rank = some gpu ∧
        t.reservations.insert (env.newID 0) (pw.reservation n gpu env.now) = some reservations ∧
        (act env (.scheduleOne pw) t).1 = t.book pw n gpu reservations env.now := by
  cases hfails : env.fails with
  | true =>
    left
    rw [act, if_pos hfails]
    exact ⟨by simp [bookingFails, hfails], rfl⟩
  | false =>
    rw [act_of_not_fails hfails]
    show _ ∨ (_ ∧ (scheduleTx env pw t).1 = t) ∨ _
    cases hnode : t.findNode pw.manifest.resources env.rank with
    | none =>
      refine .inr (.inl ⟨fun n row => findNode_eq_none hgpu hnode, ?_⟩)
      simp [scheduleTx, hnode]
    | some n =>
      obtain ⟨row, hfits, -⟩ := findNode_eq_some hgpu hnode
      cases hclaim : t.claimGPU pw.manifest.resources n env.rank with
      | none => exact absurd hclaim (claimGPU_ne_none hfits)
      | some gpu =>
        cases hins : t.reservations.insert (env.newID 0) (pw.reservation n gpu env.now) with
        | none =>
          left
          refine ⟨?_, by simp [perform, scheduleTx, hnode, hclaim, hins]⟩
          cases hrow : t.reservations.lookup (env.newID 0) with
          | none =>
            rw [lookup_eq_none_iff] at hrow
            simp [Table.insert, hrow] at hins
          | some => simp [bookingFails, hrow]
        | some reservations =>
          -- the workload is pending, so its row is affected
          have hcnt : t.workloads.count (dispatchable pw.id) ≠ 0 := by
            obtain ⟨w, hw, hstat⟩ := hpend
            rw [← Nat.pos_iff_ne_zero, count_pos_iff]
            exact ⟨pw.id, w, hw, by simp [dispatchable, hstat]⟩
          refine .inr (.inr ⟨n, gpu, reservations, rfl, hclaim, hins, ?_⟩)
          simp [perform, scheduleTx, hnode, hclaim, hins, hcnt]

/-- **The best fit** for a workload: of the nodes that fit, the one with the least free memory; and
there, if it needs one, the smallest GPU that can be used. -/
structure BestFit (t t' : Tables) (w : WorkloadID) (res : ResourceSpec) (id : ReservationID)
    (n : NodeID) (row : Node) :
    Prop where
  fits : t.Fits res n row
  least : ∀ m row', t.Fits res m row' → t.freeRAM n row ≤ t.freeRAM m row'
  placed : ∃ after, t'.workloads.lookup w = some after ∧ after.status = .dispatched ∧ after.nodeID = some n
  reserved : ∃ r, t'.reservations.lookup id = some r ∧ r.workloadID = w ∧ r.nodeID = n ∧
    (0 < res.gpuCount → ∃ g gpu, r.gpuID = some g ∧ t.Usable res n g gpu ∧
      (∀ g' gpu', t.Usable res n g' gpu' → gpu.vramMb ≤ gpu'.vramMb) ∧
      ∃ after, t'.nodeGPUs.lookup g = some after ∧ after.workloadID = some w)

theorem bestFit_of_book (hpend : t.Pending pw.id) (hgpu : 0 ≤ pw.manifest.resources.gpuCount)
    (hone : pw.manifest.resources.gpuCount ≤ 1) {rank : Bytes → ℕ} {id : ReservationID} {n : NodeID}
    {gpu : Option (GPUID × ℤ)} {reservations : Table ReservationID Reservation} {now : Millis}
    (hnode : t.findNode pw.manifest.resources rank = some n)
    (hclaim : t.claimGPU pw.manifest.resources n rank = some gpu)
    (hins : t.reservations.insert id (pw.reservation n gpu now) = some reservations) :
    ∃ row, BestFit t (t.book pw n gpu reservations now) pw.id pw.manifest.resources id n row := by
  obtain ⟨row, hfits, hleast⟩ := findNode_eq_some hgpu hnode
  refine ⟨row, hfits, hleast, ?_, ?_⟩
  · obtain ⟨w, hw, hstat⟩ := hpend
    refine ⟨dispatch n now w, ?_, rfl, rfl⟩
    show (t.workloads.modify (dispatchable pw.id) (dispatch n now)).lookup pw.id = _
    rw [lookup_modify, hw]
    simp [dispatchable, hstat]
  · have hr : reservations.lookup id = some (pw.reservation n gpu now) := by
      rw [lookup_insert hins, if_pos rfl]
    refine ⟨_, hr, rfl, rfl, fun _ => ?_⟩
    obtain ⟨g, grow, rfl, husable, hsmallest⟩ := claimGPU_eq_some hclaim (by omega)
    refine ⟨g, grow, rfl, husable, hsmallest, ?_⟩
    show ∃ after, (t.nodeGPUs.modify (fun k _ => k = g) fun gpu =>
      { gpu with workloadID := some pw.id, vramReserved := grow.vramMb }).lookup g = some after ∧ _
    rw [lookup_modify, husable.there]
    exact ⟨_, rfl, by simp⟩

theorem booking_exact (hpend : t.Pending pw.id)
    (hgpu : 0 ≤ pw.manifest.resources.gpuCount) (hone : pw.manifest.resources.gpuCount ≤ 1)
    (env : Env) : (t.bookingFails env = true ∧ (act env (.scheduleOne pw) t).1 = t) ∨
      ((act env (.scheduleOne pw) t).1.Dispatched pw.id ↔ ∃ n row, t.Fits pw.manifest.resources n row) ∧
        ((act env (.scheduleOne pw) t).1.Dispatched pw.id →
          ∃ n row, BestFit t (act env (.scheduleOne pw) t).1 pw.id pw.manifest.resources (env.newID 0) n row) := by
  rcases scheduleOne_cases hpend hgpu env with hfails | ⟨hnone, hsame⟩ | ⟨n, _, _, hnode, hclaim, hins, hbook⟩
  · exact .inl hfails
  · have hnot : ¬ (act env (.scheduleOne pw) t).1.Dispatched pw.id := by
      rw [hsame]
      exact fun hdisp => hdisp.not_pending hpend
    refine .inr ⟨iff_of_false hnot ?_, fun h => absurd h hnot⟩
    rintro ⟨n, row, hfits⟩
    exact hnone n row hfits
  · obtain ⟨row, hbest⟩ := bestFit_of_book hpend hgpu hone hnode hclaim hins
    rw [← hbook] at hbest
    obtain ⟨w, hw, hstat, -⟩ := hbest.placed
    exact .inr ⟨iff_of_true ⟨w, hw, hstat⟩ ⟨n, row, hbest.fits⟩, fun _ => ⟨n, row, hbest⟩⟩

end Ocelot.Compute
