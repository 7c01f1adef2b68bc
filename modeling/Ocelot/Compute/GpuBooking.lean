/-
# No GPU is booked twice.
-/
import Ocelot.Compute.ControlPlane

namespace Ocelot.Compute

open Option List Table Server Sample Tables
open Tracker (Bytes lit)

namespace Tables

def Carried (t : Tables) : Prop :=
  ∀ w, ∀ r ∈ t.held w, ∀ g, r.gpuID = some g → ∃ row, t.nodeGPUs.lookup g = some row ∧ row.workloadID = some w

def SinglyBooked (t : Tables) : Prop :=
  ∀ w w', ∀ r ∈ t.held w, ∀ r' ∈ t.held w', ∀ g, r.gpuID = some g → r'.gpuID = some g → w = w'

theorem Carried.singlyBooked {t : Tables} (h : t.Carried) : t.SinglyBooked := by
  intro w w' r hr r' hr' g hg hg'
  obtain ⟨_, hrow, hw⟩ := h w r hr g hg
  obtain ⟨_, hrow', hw'⟩ := h w' r' hr' g hg'
  rw [hrow] at hrow'
  cases hrow'
  rw [hw] at hw'
  exact some.inj hw'

theorem carried_empty : Tables.empty.Carried := by
  intro w r hr
  cases hr

theorem Carried.of_subset {t t' : Tables} (h : t.Carried) (hheld : ∀ w, ∀ r ∈ t'.held w, r ∈ t.held w)
    (hgpus : SameBookings t.nodeGPUs t'.nodeGPUs) : t'.Carried := by
  intro w r hr g hg
  obtain ⟨row, hrow, hw⟩ := h w r (hheld w r hr) g hg
  obtain ⟨row', hrow', hsame⟩ := hgpus g row hrow
  exact ⟨row', hrow', hsame.trans hw⟩

end Tables

theorem findFreeGPU_free {t : Tables} {node : NodeID} {minVRAMMb : ℤ} {rank : Bytes → ℕ} {g : GPUID}
    {vramMb : ℤ} (h : t.findFreeGPU node minVRAMMb rank = some (g, vramMb)) :
    ∃ row, t.nodeGPUs.lookup g = some row ∧ row.workloadID = none := by
  obtain ⟨e, hleast, he⟩ := map_eq_some_iff.1 h
  obtain ⟨hrow, hfits⟩ := least_eq_some hleast
  have hid : e.1 = g := congrArg Prod.fst he
  simp only [gpuFits, Bool.and_eq_true, decide_eq_true_eq] at hfits
  exact ⟨e.2, hid ▸ hrow, hfits.1.1.2⟩

theorem Tables.Carried.book {t : Tables} (h : t.Carried) {env : Env} {pw : PendingWork}
    {node : NodeID} {gpu : Option (GPUID × ℤ)} {reservations : Table ReservationID Reservation}
    (hclaim : t.claimGPU pw.manifest.resources node env.rank = some gpu)
    (hins : t.reservations.insert (env.newID 0) (pw.reservation node gpu env.now) = some reservations) :
    (t.book pw node gpu reservations env.now).Carried := by
  intro w r hr g hg
  rw [held_book t pw node gpu env.now hins, mem_append] at hr
  cases gpu with
  | none =>
    rcases hr with hr | hr
    · exact h w r hr g hg
    · split_ifs at hr
      · rw [mem_singleton] at hr
        subst hr
        cases hg
      · cases hr
  | some claimed =>
    obtain ⟨id, vramMb⟩ := claimed
    have hfree : ∃ row, t.nodeGPUs.lookup id = some row ∧ row.workloadID = none := by
      unfold claimGPU at hclaim
      split_ifs at hclaim
      · obtain ⟨_, hfound, heq⟩ := map_eq_some_iff.1 hclaim
        cases heq
        exact findFreeGPU_free hfound
      · cases hclaim
    obtain ⟨_, hrow, hnone⟩ := hfree
    show ∃ row, (t.nodeGPUs.modify (fun k _ => k = id) fun g =>
      { g with workloadID := some pw.id, vramReserved := vramMb }).lookup g = some row ∧ row.workloadID = some w
    rw [lookup_modify]
    rcases hr with hr | hr
    · -- an older reservation names another GPU: this one carried nobody
      obtain ⟨row, hlook, hw⟩ := h w r hr g hg
      have hne : ¬ g = id := by
        rintro rfl
        rw [hrow] at hlook
        cases hlook
        rw [hnone] at hw
        cases hw
      rw [hlook]
      simp [hne, hw]
    · split_ifs at hr with hw
      · rw [mem_singleton] at hr
        subst hr hw
        obtain rfl : id = g := by simpa [PendingWork.reservation] using hg
        rw [hrow]
        simp
      · cases hr

def Op.freed : Op → Option WorkloadID
  | .exec (.freeGPUs w) => some w
  | _ => none

def Tables.HoldsNoGPU (t : Tables) (w : WorkloadID) : Prop := ∀ r ∈ t.held w, r.gpuID = none

theorem Tables.Carried.freeGPUs_iff {t : Tables} (h : t.Carried) (w : WorkloadID) :
    (Stmt.exec t (.freeGPUs w)).1.Carried ↔ t.HoldsNoGPU w := by
  have hlook : ∀ g, (Stmt.exec t (.freeGPUs w)).1.nodeGPUs.lookup g = (t.nodeGPUs.lookup g).map fun row =>
        if row.workloadID = some w then { row with workloadID := none, vramReserved := 0 } else row := by
    intro g
    show (t.nodeGPUs.modify _ _).lookup g = _
    rw [lookup_modify]
    simp only [decide_eq_true_eq]
  constructor
  · intro haft r hr
    by_contra hgpu
    obtain ⟨g, hg⟩ := ne_none_iff_exists'.1 hgpu
    -- the GPU carried the workload, so now it carries nobody
    obtain ⟨row, hrow, hw⟩ := h w r hr g hg
    obtain ⟨_, hrow', hw'⟩ := haft w r hr g hg
    rw [hlook, hrow, map_some, if_pos hw] at hrow'
    cases hrow'
    cases hw'
  · intro hnone u r hr g hg
    obtain ⟨row, hrow, hu⟩ := h u r hr g hg
    have hne : ¬ row.workloadID = some w := by
      intro hw
      rw [hu] at hw
      cases hw
      rw [hnone r hr] at hg
      cases hg
    refine ⟨row, ?_, hu⟩
    rw [hlook, hrow, map_some, if_neg hne]

theorem Tables.Carried.act {t : Tables} (h : t.Carried) (env : Env) {op : Op}
    (hop : op.freed = none) : (act env op t).1.Carried := by
  have hacts := act_acts env op t
  have heff := act_heldEffect env op t
  generalize (Compute.act env op t).1 = t' at hacts heff ⊢
  -- a reservation that is held after an operation that books nothing was held before
  have hheld : (∀ pw, op ≠ .scheduleOne pw) → ∀ w, ∀ r ∈ t'.held w, r ∈ t.held w := by
    intro hbooks w r hr
    have hw := heff w
    generalize t.held w = before, t'.held w = after at hw hr ⊢
    cases hw with
    | unchanged => exact hr
    | released => cases hr
    | booked pw _ _ _ _ hbook => exact absurd hbook (hbooks pw)
  cases hacts with
  | unchanged => exact h
  | booked pw node gpu _ hclaim hins => exact h.book hclaim hins
  | registered _ _ hgpus => exact h.of_subset (hheld fun _ => Op.noConfusion) (.insertGPUs hgpus)
  | equipped _ _ _ hsame => exact h.of_subset (hheld fun _ => Op.noConfusion) hsame
  | freed => cases hop
  | _ => exact h.of_subset (hheld fun _ => Op.noConfusion) (.refl _)

namespace Server

def freed (s : Server) (m : Move Handler Env) : Option WorkloadID := (s.performed m).bind fun e => e.2.freed

def FreesUnheld (s : Server) (m : Move Handler Env) : Prop := ∀ w ∈ s.freed m, s.shared.HoldsNoGPU w

instance (s : Server) (m : Move Handler Env) : Decidable (s.FreesUnheld m) := by
  unfold FreesUnheld HoldsNoGPU
  infer_instance

theorem step_carried_iff {s s' : Server} {m : Move Handler Env} (h : s.shared.Carried)
    (hstep : step s m = some s') :
    s'.shared.Carried ↔ s.FreesUnheld m := by
  unfold FreesUnheld freed
  rcases step_cases hstep with ⟨hperf, hsame⟩ | ⟨env, op, hperf, hfails, hsh⟩
  · simp [hperf, hsame, h]
  · rw [hsh, hperf]
    show (act env op s.shared).1.Carried ↔ ∀ w ∈ op.freed, s.shared.HoldsNoGPU w
    cases hw : op.freed with
    | none => simp [h.act env hw]
    | some w =>
      obtain rfl : op = .exec (.freeGPUs w) := by
        unfold Op.freed at hw
        split at hw
        · cases hw
          rfl
        · cases hw
      rw [act_of_not_fails hfails]
      simp only [mem_def, some.injEq, forall_eq']
      exact h.freeGPUs_iff w

end Server

/-- **No GPU is booked twice, exactly if none is freed under a booking.** -/
theorem gpus_exclusive_iff (ms : List (Move Handler Env)) {s : Server}
    (h : Run.exec Server.step Server.initial ms = some s) :
    (∀ pre u, pre <+: ms → Run.exec Server.step Server.initial pre = some u →
      u.shared.SinglyBooked ∧ u.shared.Carried) ↔
      Run.Meets Server.step Server.FreesUnheld Server.initial ms := by
  rw [← Run.forall_prefix_iff_meets (I := fun s : Server => s.shared.Carried)
    (fun _ _ _ hs hstep => step_carried_iff hs hstep) carried_empty h]
  constructor
  · intro hboth pre u hpre hu
    exact (hboth pre u hpre hu).2
  · intro hcar pre u hpre hu
    exact ⟨(hcar pre u hpre hu).singlyBooked, hcar pre u hpre hu⟩

namespace Sample

def oneGPU : List (Move Handler Env) :=
  alone 1 0 (.call (.register machine)) 2 ++ alone 1 1 (.call (.heartbeat [1, 0] (lit "ready"))) 2 ++
    alone 2 2 (.call (.submit (lit "org") (lit "user") (job 1))) 5 ++
    alone 3 3 (.call (.submit (lit "org") (lit "user") (job 1))) 5 ++ alone 4 4 .scheduleBatch 3

def retried : List (Move Handler Env) :=
  oneGPU ++ alone 5 5 (.health [1, 0] [tell [2, 0] .failed]) 9 ++ alone 6 6 .scheduleBatch 2

def reportedTwice : List (Move Handler Env) := oneGPU ++ alone 5 5 (.health [1, 0] [tell [2, 0] .failed]) 2 ++
    alone 6 6 (.health [1, 0] [tell [2, 0] .failed]) 9 ++ alone 7 7 .scheduleBatch 2 ++
    [.step 5 (env 8), .step 7 (env 9)]

end Sample

theorem gpus_exclusive_retried : ∃ s, Run.exec Server.step Server.initial Sample.retried = some s ∧
      (s.shared.SinglyBooked ∧ s.shared.Carried) ∧ (s.shared.held [2, 0]).map Reservation.gpuID =
          [some [1, 1]] := by
  obtain ⟨s, hs, hgpu⟩ : ∃ s, Run.exec step initial retried = some s ∧
      (s.shared.held [2, 0]).map Reservation.gpuID = [some [1, 1]] := by
    decide +kernel
  have hmeets : Run.Meets step Server.FreesUnheld initial retried := by
    decide +kernel
  exact ⟨s, hs, (gpus_exclusive_iff retried hs).2 hmeets _ s (prefix_refl _) hs, hgpu⟩

/-- **Two reports of one failure**: the GPU is named by the held reservations of both workloads. -/
theorem gpu_booked_twice :
    ∃ s, Run.exec Server.step Server.initial Sample.reportedTwice = some s ∧
      ¬ s.shared.SinglyBooked ∧ ¬ s.shared.Carried := by
  obtain ⟨s, hs, ⟨r, hr, hg⟩, r', hr', hg'⟩ : ∃ s, Run.exec step initial reportedTwice = some s ∧
      (∃ r ∈ s.shared.held [2, 0], r.gpuID = some [1, 1]) ∧ ∃ r ∈ s.shared.held [3, 0], r.gpuID = some [1, 1] := by
    decide +kernel
  have hdouble : ¬ s.shared.SinglyBooked := by
    intro hsingly
    exact absurd (hsingly [2, 0] [3, 0] r hr r' hr' [1, 1] hg hg') (by decide)
  exact ⟨s, hs, hdouble, fun hcar => hdouble hcar.singlyBooked⟩

end Ocelot.Compute
