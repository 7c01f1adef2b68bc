/-
# A pass of the scheduler leaves nobody behind (`scheduler.go`).
-/
import Ocelot.Compute.Capacity

namespace Ocelot.Compute

open List Option Table Run Plane Sample Tables Reservation PendingWork
open Tracker (Bytes lit)

/-! ## One turn -/

variable {t : Tables} {pw : PendingWork}

theorem lookup_scheduleOne_of_ne {env : Env} {w : WorkloadID} (h : pw.id ≠ w) :
    (act env (.scheduleOne pw) t).1.workloads.lookup w = t.workloads.lookup w := by
  have heff := act_effect env (.scheduleOne pw) t w
  generalize t.workloads.lookup w = before, (act env (.scheduleOne pw) t).1.workloads.lookup w = after at heff ⊢
  cases heff with
  | unchanged => rfl
  | inserted _ hop | updated _ _ hop => cases hop
  | dispatched _ _ _ _ hop hid =>
    cases hop
    exact absurd hid.symm h

theorem Tables.Dispatched.turn {t : Tables} {w : WorkloadID} (h : t.Dispatched w) (env : Env)
    (pw : PendingWork) : (act env (.scheduleOne pw) t).1.Dispatched w := by
  obtain ⟨row, hrow, hstat⟩ := h
  have heff := act_effect env (.scheduleOne pw) t w
  rw [hrow] at heff
  unfold Tables.Dispatched
  generalize (act env (.scheduleOne pw) t).1.workloads.lookup w = after at heff ⊢
  cases heff with
  | unchanged => exact ⟨row, rfl, hstat⟩
  | updated _ _ hop => cases hop
  | dispatched => exact ⟨_, rfl, rfl⟩

theorem Tables.Dispatched.turns {t : Tables} {w : WorkloadID} (h : t.Dispatched w)
    (ws : List PendingWork) (env : ℕ → Env) :
    ((Prog.forEach scheduleOne ws).run act env t).1.Dispatched w := by
  have hiss : Prog.Issues (fun op : Op => ∃ pw, op = .scheduleOne pw) (Prog.forEach scheduleOne ws) :=
    .forEach fun pw _ => .ite (fun _ => .ret _) fun _ => .perform ⟨pw, rfl⟩ fun _ => .ret _
  refine hiss.triple (E := fun _ => True) (I := fun t => t.Dispatched w) ?_ env (fun _ => trivial) t h
  rintro e _ t - ⟨pw, rfl⟩ ht
  exact ht.turn e pw

/-- A workload that finds room in the tables as they are. -/
def PendingWork.Fits (pw : PendingWork) (t : Tables) : Prop :=
  pw.manifest.resources.gpuCount ≤ 1 ∧ ∃ n node, t.Fits pw.manifest.resources n node

theorem turns_dispatch_iff {t : Tables} {ws : List PendingWork}
    (hws : ∀ pw ∈ ws, t.Pending pw.id ∧ 0 ≤ pw.manifest.resources.gpuCount) {env : ℕ → Env}
    (hok : ∀ n, t.bookingFails (env n) = false) :
    (∃ w, t.Pending w ∧ ((Prog.forEach scheduleOne ws).run act env t).1.Dispatched w) ↔
      ∃ pw ∈ ws, pw.Fits t := by
  induction ws generalizing env with
  | nil =>
    refine iff_of_false ?_ (by simp)
    rintro ⟨w, hpend, hdisp⟩
    exact hdisp.not_pending hpend
  | cons pw ws ih =>
    obtain ⟨⟨hpend, hgpu⟩, hrest⟩ := forall_mem_cons.1 hws
    rw [exists_mem_cons_iff]
    by_cases hmany : 1 < pw.manifest.resources.gpuCount
    · rw [Prog.forEach, scheduleOne, if_pos hmany, or_iff_right fun h => absurd h.1 (not_le.2 hmany)]
      exact ih hrest hok
    · rw [Prog.forEach, scheduleOne, if_neg hmany]
      show (∃ w, _ ∧ ((Prog.forEach scheduleOne ws).run act (fun n => env (n + 1))
        (act (env 0) (.scheduleOne pw) t).1).1.Dispatched w) ↔ _
      rcases scheduleOne_cases hpend hgpu (env 0) with
        ⟨hfails, -⟩ | ⟨hnone, hsame⟩ | ⟨n, gpu, reservations, hnode, hclaim, hins, hbook⟩
      · cases (hok 0).symm.trans hfails
      · rw [hsame, or_iff_right]
        · exact ih hrest fun n => hok (n + 1)
        · rintro ⟨-, n, node, h⟩
          exact hnone n node h
      · obtain ⟨node, hbest⟩ := bestFit_of_book hpend hgpu (not_lt.1 hmany) hnode hclaim hins
        obtain ⟨row, hrow, hstat, -⟩ := hbest.placed
        obtain ⟨_, hfits, -⟩ := findNode_eq_some hgpu hnode
        rw [hbook]
        exact iff_of_true ⟨pw.id, hpend, .turns ⟨row, hrow, hstat⟩ ws _⟩
          (.inl ⟨not_lt.1 hmany, n, _, hfits⟩)

theorem fits_of_booking (h : t.Booked) (hknown : t.Knows pw) (env : Env) {res : ResourceSpec}
    {n : NodeID} {row : Node} (hfits : (act env (.scheduleOne pw) t).1.Fits res n row) : t.Fits res n row := by
  have hacts := act_acts env (.scheduleOne pw) t
  generalize (act env (.scheduleOne pw) t).1 = t' at hacts hfits
  cases hacts with
  | unchanged => exact hfits
  | @booked _ node gpu reservations _ _ hins =>
    obtain ⟨_, _, -⟩ := h.valid hknown
    -- the sums have grown, or stayed
    obtain ⟨hcpuSum, hramSum⟩ := reserved_book hins n
    refine ⟨hfits.there, hfits.status, hfits.cpu.trans ?_, hfits.ram.trans ?_, fun hneeds => ?_⟩
    · unfold freeCPU
      rw [hcpuSum]
      split_ifs <;> omega
    · unfold freeRAM
      rw [hramSum]
      split_ifs <;> omega
    · obtain ⟨g, grow, hthere, hnode, hfree, hhealthy, hvram⟩ := hfits.gpu hneeds
      refine ⟨g, grow, ?_, hnode, hfree, hhealthy, hvram⟩
      cases gpu with
      | none => exact hthere
      | some claimed =>
        have hmod : (t.nodeGPUs.modify (fun k _ => k = claimed.1) fun gpu =>
            { gpu with workloadID := some pw.id, vramReserved := claimed.2 }).lookup g = some grow := hthere
        rw [lookup_modify] at hmod
        obtain ⟨_, hbef, rfl⟩ := map_eq_some_iff.1 hmod
        -- a GPU that is still free is not the one that was claimed
        split_ifs at hfree ⊢
        exact hbef

/-! ## Nobody is passed over -/

namespace Plane

def Stuck (w : WorkloadID) (t : Tables) : Prop :=
  ∃ row, t.workloads.lookup w = some row ∧ row.status.isPending = true ∧
    (row.manifest.resources.gpuCount ≤ 1 → ∀ n node, ¬ t.Fits row.manifest.resources n node)

variable {w : WorkloadID} {p p' : Plane} {env : Env} {q : Plane} {envs : List Env}

theorem Stuck.pending (h : Stuck w t) : t.Pending w := by
  obtain ⟨row, hrow, hpend, -⟩ := h
  exact ⟨row, hrow, hpend⟩

theorem step_stuck (hp : p.Booked) (h : Stuck w p.tables)
    (hstep : p.step (.scheduleOne env) = some p') : Stuck w p'.tables := by
  obtain ⟨row, hrow, hpend, hroom⟩ := h
  obtain ⟨pw, hbatch, ⟨-, hsame⟩ | ⟨hone, htables⟩⟩ := step_scheduleOne hstep
  · rw [hsame]
    exact ⟨row, hrow, hpend, hroom⟩
  · have hknown := hp.batch pw (by simp [hbatch])
    by_cases hw : pw.id = w
    · -- its own turn, with the manifest of the row
      subst hw
      obtain ⟨_, hrow', hman⟩ := id hknown
      rw [hrow] at hrow'
      cases hrow'
      rw [← hman] at hone
      have hgpu := (hp.tables.valid hknown).2.2
      rcases scheduleOne_cases ⟨row, hrow, hpend⟩ hgpu env with
        ⟨-, hsame⟩ | ⟨-, hsame⟩ | ⟨n, gpu, reservations, hnode, -⟩
      · rw [htables, hsame]
        exact ⟨row, hrow, hpend, hroom⟩
      · rw [htables, hsame]
        exact ⟨row, hrow, hpend, hroom⟩
      · obtain ⟨node, hfits, -⟩ := findNode_eq_some hgpu hnode
        rw [← hman] at hfits
        exact absurd hfits (hroom hone n node)
    · rw [htables]
      refine ⟨row, ?_, hpend, fun hgpu n node hfits => ?_⟩
      · rw [lookup_scheduleOne_of_ne hw]
        exact hrow
      · exact hroom hgpu n node (fits_of_booking hp.tables hknown env hfits)

theorem step_dispatched (h : p.tables.Dispatched w) (hstep : p.step (.scheduleOne env) = some p') :
    p'.tables.Dispatched w := by
  obtain ⟨pw, -, ⟨-, hsame⟩ | ⟨-, htables⟩⟩ := step_scheduleOne hstep
  · rw [hsame]
    exact h
  · rw [htables]
    exact h.turn env pw

theorem step_pending (h : p.tables.Pending w)
    (hw : ∀ pw ∈ p.batch.head?, pw.id ≠ w) (hstep : p.step (.scheduleOne env) = some p') :
    p'.tables.Pending w := by
  obtain ⟨pw, hbatch, ⟨-, hsame⟩ | ⟨-, htables⟩⟩ := step_scheduleOne hstep
  · rw [hsame]
    exact h
  · obtain ⟨row, hrow, hpend⟩ := h
    refine ⟨row, ?_, hpend⟩
    rw [htables, lookup_scheduleOne_of_ne (hw pw (by simp [hbatch]))]
    exact hrow

def failsOn (p : Plane) (w : WorkloadID) : Label → Bool
  | .scheduleOne env => (p.batch.head?.any fun pw => pw.id = w) && p.tables.bookingFails env
  | _ => false

theorem booked_of_turn (h : p.Booked) (hstep : p.step (.scheduleOne env) = some p') :
    p'.Booked := step_booked (l := .scheduleOne env) h trivial hstep

theorem exec_turns {I : Tables → Prop} (hI : ∀ {p p' : Plane} {env : Env}, p.Booked → I p.tables →
    p.step (.scheduleOne env) = some p' → I p'.tables) (hp : p.Booked) (h : I p.tables)
    (hrun : Run.exec step p (envs.map .scheduleOne) = some q) : I q.tables := by
  induction envs generalizing p with
  | nil =>
    cases hrun
    exact h
  | cons _ _ ih =>
    obtain ⟨p', hp', hrest⟩ := bind_eq_some_iff.1 hrun
    exact ih (booked_of_turn hp hp') (hI hp h hp') hrest

variable {v : PendingWork} {after : List PendingWork}

theorem turn_cases {w : PendingWork} (hcovers : w.manifest.resources.Covers v.manifest.resources)
    (hp : p.Booked) (hbatch : p.batch = v :: after) (hv : p.tables.Pending v.id)
    (hw : p.tables.Pending w.id) (hknown : p.tables.Knows w) (hstep : p.step (.scheduleOne env) = some p')
    (hfails : p.failsOn v.id (.scheduleOne env) = false) : p'.tables.Dispatched v.id ∨ Stuck w.id p'.tables := by
  obtain ⟨row, hrow, hpend⟩ := hw
  -- where the first finds no room, there is none for the other
  have hstuck : (w.manifest.resources.gpuCount ≤ 1 → ∀ n node, ¬ p.tables.Fits v.manifest.resources n node) →
      Stuck w.id p.tables := by
    intro hnone
    obtain ⟨_, hrow', hman⟩ := hknown
    rw [hrow] at hrow'
    cases hrow'
    refine ⟨row, hrow, hpend, fun hgpu n node hfits => ?_⟩
    rw [hman] at hgpu hfits
    exact hnone hgpu n node (hfits.of_covers hcovers)
  obtain ⟨_, hhead, hturn⟩ := step_scheduleOne hstep
  rw [hbatch] at hhead
  obtain ⟨rfl, -⟩ := cons.inj hhead
  rcases hturn with ⟨_, hsame⟩ | ⟨hone, htables⟩
  · right
    rw [hsame]
    refine hstuck fun hgpu => ?_
    have hcnt := hcovers.2.2.1
    omega
  · have hgpu := (hp.tables.valid (hp.batch v (by simp [hbatch]))).2.2
    rw [htables]
    rcases scheduleOne_cases hv hgpu env with
      ⟨hfail, -⟩ | ⟨hnone, hsame⟩ | ⟨n, gpu, reservations, hnode, hclaim, hins, hbook⟩
    · simp [failsOn, hbatch, hfail] at hfails
    · right
      rw [hsame]
      exact hstuck fun _ => hnone
    · left
      obtain ⟨node, hbest⟩ := bestFit_of_book hv hgpu hone hnode hclaim hins
      obtain ⟨vrow, hvrow, hstat, -⟩ := hbest.placed
      rw [hbook]
      exact ⟨vrow, hvrow, hstat⟩

theorem not_left_behind {w : PendingWork}
    (hcovers : w.manifest.resources.Covers v.manifest.resources) (before : List PendingWork)
    (hw : w ∈ after) (hp : p.Booked) (hbatch : p.batch = before ++ v :: after)
    (hnodup : (p.batch.map PendingWork.id).Nodup) (hvPending : p.tables.Pending v.id)
    (hwPending : p.tables.Pending w.id) (hrun : Run.exec step p (envs.map .scheduleOne) = some q)
    (hfails : Run.Meets step (fun x l => x.failsOn v.id l = false) p (envs.map .scheduleOne))
    (hdisp : q.tables.Dispatched w.id) : q.tables.Dispatched v.id := by
  -- each turn takes the head of the batch, until it is the turn of the first of the two
  induction envs generalizing p before with
  | nil =>
    cases hrun
    exact absurd hwPending hdisp.not_pending
  | cons _ _ ih =>
    obtain ⟨p', hp', hrest⟩ := bind_eq_some_iff.1 hrun
    obtain ⟨hfirst, hfails'⟩ := meets_cons.1 hfails
    cases before with
    | nil =>
      have hknown : p.tables.Knows w := hp.batch w (by simp [hbatch, hw])
      rcases turn_cases hcovers hp hbatch hvPending hwPending hknown hp' hfirst with hdone | hstuck
      · exact exec_turns (I := fun t => t.Dispatched v.id) (fun _ => step_dispatched)
          (booked_of_turn hp hp') hdone hrest
      · have hlast := exec_turns (I := Stuck w.id) step_stuck (booked_of_turn hp hp') hstuck hrest
        exact absurd hlast.pending hdisp.not_pending
    | cons _ before =>
      obtain ⟨_, hhead, -⟩ := step_scheduleOne hp'
      have hbatch' : p'.batch = before ++ v :: after := by
        rw [hbatch, cons_append] at hhead
        exact (cons.inj hhead).2.symm
      rw [hhead, map_cons, nodup_cons] at hnodup
      -- the turn of another workload changes neither of the two
      have hother : ∀ u ∈ p'.batch, ∀ x ∈ p.batch.head?, x.id ≠ u.id := by
        intro u hu x hx heq
        rw [hhead, head?_cons, mem_some_iff] at hx
        subst hx
        exact hnodup.1 (by rw [heq]; exact mem_map_of_mem hu)
      exact ih before (booked_of_turn hp hp') hbatch' hnodup.2
        (step_pending hvPending (hother v (by simp [hbatch'])) hp')
        (step_pending hwPending (hother w (by simp [hbatch', hw])) hp') hrest (hfails' p' hp')

/-- **A pass of the scheduler**: its query, and then the turns of its batch. -/
def pass (env : Env) (envs : List Env) : List Label := .select env :: envs.map .scheduleOne

theorem exec_pending_of_not_mem (h : p.tables.Pending w) (hw : w ∉ p.batch.map PendingWork.id)
    (hrun : Run.exec step p (envs.map .scheduleOne) = some q) : q.tables.Pending w := by
  induction envs generalizing p with
  | nil =>
    cases hrun
    exact h
  | cons _ _ ih =>
    obtain ⟨_, hp', hrest⟩ := bind_eq_some_iff.1 hrun
    obtain ⟨_, hhead, -⟩ := step_scheduleOne hp'
    rw [hhead, map_cons, mem_cons, not_or] at hw
    refine ih (step_pending h ?_ hp') hw.2 hrest
    intro x hx
    rw [hhead, head?_cons, mem_some_iff] at hx
    subst hx
    exact fun heq => hw.1 heq.symm

end Plane

open Plane

/-! ## The pass -/

def Workload.work (id : WorkloadID) (row : Workload) : PendingWork := ⟨id, row.orgID, row.manifest, row.priority⟩

variable {rowv roww : Workload}

theorem pending_split {rank : Bytes → ℕ} {v w : WorkloadID}
    (hv : t.workloads.lookup v = some rowv) (hvPending : rowv.status.isPending = true)
    (hw : t.workloads.lookup w = some roww)
    (hturn : rowv.turn < roww.turn) (hmem : w ∈ (t.pending rank).map PendingWork.id) :
    ∃ before after, t.pending rank = before ++ rowv.work v :: after ∧ roww.work w ∈ after := by
  unfold pending at hmem ⊢
  rw [List.map_map] at hmem
  obtain ⟨e, he, rfl⟩ := mem_map.1 hmem
  obtain ⟨hrow, -⟩ := mem_ordered.1 (mem_of_mem_take he)
  have hlook : t.workloads.lookup e.1 = some roww := hw
  rw [hrow] at hlook
  cases hlook
  obtain ⟨before, after, hsplit, haft⟩ := take_ordered_split (x := (v, rowv))
    (mem_ordered.2 ⟨hv, hvPending⟩) he hturn
  rw [hsplit, map_append, map_cons]
  exact ⟨_, _, rfl, mem_map.2 ⟨e, haft, rfl⟩⟩

theorem nodup_pending (t : Tables) (rank : Bytes → ℕ) : ((t.pending rank).map PendingWork.id).Nodup := by
  unfold pending
  rw [List.map_map, List.map_take]
  exact (take_sublist _ _).nodup nodup_ordered

theorem pass_in_order {p q : Plane} (hp : p.Booked) {env : Env} {envs : List Env}
    (hrun : Run.exec step p (pass env envs) = some q) {v w : WorkloadID}
    (hv : p.tables.workloads.lookup v = some rowv) (hvPending : rowv.status.isPending = true)
    (hw : p.tables.workloads.lookup w = some roww) (hwPending : roww.status.isPending = true)
    (hturn : rowv.turn < roww.turn) (hcovers : roww.manifest.resources.Covers rowv.manifest.resources)
    (hfails : Run.Meets step (fun x l => x.failsOn v l = false) p (pass env envs))
    (hdisp : q.tables.Dispatched w) : q.tables.Dispatched v := by
  obtain ⟨p', hp', hrest⟩ := bind_eq_some_iff.1 hrun
  have hbook : p'.Booked := step_booked (l := .select env) hp trivial hp'
  obtain ⟨-, hfails'⟩ := meets_cons.1 hfails
  have htables : p'.tables = p.tables := by
    cases hp'
    rfl
  have hmem : w ∈ p'.batch.map PendingWork.id := by
    by_contra hnot
    have hpend : p'.tables.Pending w := by
      rw [htables]
      exact ⟨roww, hw, hwPending⟩
    exact hdisp.not_pending (exec_pending_of_not_mem hpend hnot hrest)
  -- the query did not fail, since there is a batch
  have hbatch : p'.batch = p.tables.pending env.rank := by
    cases hp'
    cases hfail : env.fails with
    | true =>
      simp only [act, if_pos hfail] at hmem
      cases hmem
    | false =>
      rw [act_of_not_fails hfail]
      rfl
  rw [hbatch] at hmem
  obtain ⟨before, _, hsplit, haft⟩ := pending_split hv hvPending hw hturn hmem
  refine not_left_behind (v := rowv.work v) hcovers before haft hbook (hbatch.trans hsplit) ?_ ?_ ?_
    hrest (hfails' p' hp') hdisp
  · rw [hbatch]
    exact nodup_pending p.tables env.rank
  · rw [htables]
    exact ⟨rowv, hv, hvPending⟩
  · rw [htables]
    exact ⟨roww, hw, hwPending⟩

/-- **A pass dispatches a workload exactly if one of its batch finds room.** -/
theorem batch_dispatches_iff {t : Tables}
    (hgpu : ∀ w row, t.workloads.lookup w = some row → 0 ≤ row.manifest.resources.gpuCount)
    {env : ℕ → Env} (hok : ∀ n, t.bookingFails (env n) = false) :
    (∃ w, t.Pending w ∧ (scheduleBatch.run act env t).1.Dispatched w) ↔
      ∃ pw ∈ t.pending (env 0).rank, pw.Fits t := by
  have hsel : act (env 0) .selectPending t = (t, some (t.pending (env 0).rank)) :=
    act_of_not_fails (Bool.or_eq_false_iff.1 (hok 0)).1 _ _
  show (∃ w, _ ∧ (Prog.run act env (.call .selectPending _) t).1.Dispatched w) ↔ _
  rw [Prog.run_call, hsel]
  refine turns_dispatch_iff (fun pw hpw => ?_) fun n => hok (n + 1)
  obtain ⟨e, he, rfl⟩ := mem_map.1 hpw
  obtain ⟨hrow, hpend⟩ := mem_ordered.1 (mem_of_mem_take he)
  exact ⟨⟨e.2, hrow, hpend⟩, hgpu e.1 e.2 hrow⟩

/-- **Booking is sound, complete and best fit.** -/
theorem booking_sound_complete_best_fit {ls : List Plane.Label} {p : Plane}
    (h : Run.exec Plane.step Plane.initial ls = some p)
    (hcapacity : Run.Meets Plane.step Plane.KeepsCapacity Plane.initial ls) :
    p.tables.WithinCapacity ∧ (∀ env pw rest p' row, p.batch = pw :: rest →
        p.step (.scheduleOne env) = some p' → p.tables.workloads.lookup pw.id = some row →
          row.status.isPending = true → row.manifest.resources.gpuCount ≤ 1 →
          (p.tables.bookingFails env = true ∧ p'.tables = p.tables) ∨
            (p'.tables.Dispatched pw.id ↔ ∃ n node, p.tables.Fits row.manifest.resources n node) ∧
              (p'.tables.Dispatched pw.id →
                ∃ n node, BestFit p.tables p'.tables pw.id row.manifest.resources (env.newID 0) n node)) ∧
      ∀ env envs q v w rowv roww, Run.exec Plane.step p (Plane.pass env envs) = some q →
        p.tables.workloads.lookup v = some rowv → rowv.status.isPending = true →
        p.tables.workloads.lookup w = some roww → roww.status.isPending = true →
        rowv.turn < roww.turn → roww.manifest.resources.Covers rowv.manifest.resources →
        Run.Meets Plane.step (fun x l => x.failsOn v l = false) p (Plane.pass env envs) →
        q.tables.Dispatched w → q.tables.Dispatched v := by
  have hp : p.Booked := exec_invariant_of_meets (I := Plane.Booked)
    (fun _ _ _ hx hkeeps hstep => step_booked hx hkeeps hstep) booked_initial hcapacity h
  refine ⟨hp.tables.capacity, ?_, ?_⟩
  · intro env pw rest p' row hbatch hstep hrow hpend hone
    obtain ⟨_, hhead, hturn⟩ := step_scheduleOne hstep
    rw [hbatch] at hhead
    obtain ⟨rfl, -⟩ := cons.inj hhead
    -- the manifest that was read is that of the row
    have hknown := hp.batch pw (by simp [hbatch])
    have hgpu := (hp.tables.valid hknown).2.2
    obtain ⟨_, hrow', hman⟩ := hknown
    rw [hrow] at hrow'
    cases hrow'
    rw [hman] at hone ⊢
    rcases hturn with ⟨_, -⟩ | ⟨-, htables⟩
    · omega
    · rw [htables]
      exact booking_exact ⟨row, hrow, hpend⟩ hgpu hone env
  · intro env envs q v w rowv roww hrun hv hvPending hw hwPending hturn hcovers hfails hdisp
    exact pass_in_order hp hrun hv hvPending hw hwPending hturn hcovers hfails hdisp

namespace Sample

def contest : List Label :=
  [.call (.register machine) fun _ => env 1,
   .call (.heartbeat [1, 0] (lit "ready")) fun _ => env 1,
   .call (.submit (lit "org") (lit "user") (job 0)) fun _ => env 2,
   .call (.submit (lit "org") (lit "user") { job 1 with priority := 40 }) fun _ => env 3,
   .select (env 4)]

def round : List Plane.Label := Plane.pass (env 5) [env 5, env 6]

end Sample

theorem booking_contest : ∃ p p' q row roww, Run.exec Plane.step Plane.initial Sample.contest = some p ∧
      p.step (.scheduleOne (Sample.env 5)) = some p' ∧ Run.exec Plane.step p Sample.round = some q ∧
      p.tables.workloads.lookup [2, 0] = some row ∧ p.tables.workloads.lookup [3, 0] = some roww ∧
        p.tables.WithinCapacity ∧
      (p'.tables.Dispatched [2, 0] ↔ ∃ n node, p.tables.Fits row.manifest.resources n node) ∧
      q.tables.Dispatched [3, 0] ∧ q.tables.Dispatched [2, 0] := by
  obtain ⟨p, hp, hbatch, hok, ⟨row, hrow, hpend, hres, roww, hroww, hpendingw, hresw, hturn⟩,
      ⟨p', hp', -⟩, q, hq, last, hlast, hstat⟩ :
      ∃ p, Run.exec step initial contest = some p ∧ p.batch.map PendingWork.id = [[2, 0], [3, 0]] ∧
        p.tables.bookingFails (env 5) = false ∧
        (∃ row, p.tables.workloads.lookup [2, 0] = some row ∧ row.status.isPending = true ∧
          row.manifest.resources = ⟨1000, 500, 0, 100⟩ ∧
          ∃ roww, p.tables.workloads.lookup [3, 0] = some roww ∧ roww.status.isPending = true ∧
            roww.manifest.resources = ⟨1000, 500, 1, 100⟩ ∧ row.turn < roww.turn) ∧
        (∃ p', p.step (.scheduleOne (env 5)) = some p' ∧ True) ∧ ∃ q, Run.exec step p round = some q ∧
          ∃ last, q.tables.workloads.lookup [3, 0] = some last ∧ last.status = .dispatched := by
    decide +kernel
  have hcap : Run.Meets step Plane.KeepsCapacity initial contest := by
    decide +kernel
  have hmeets : Run.Meets step (fun x l => x.failsOn [2, 0] l = false) initial (contest ++ round) := by
    decide +kernel
  have hcovers : roww.manifest.resources.Covers row.manifest.resources := by
    rw [hres, hresw]
    simp [ResourceSpec.Covers]
  have hone : row.manifest.resources.gpuCount ≤ 1 := by
    rw [hres]
    exact zero_le_one
  obtain ⟨hwithin, hexact, hpass⟩ := booking_sound_complete_best_fit hp hcap
  have hlate : q.tables.Dispatched [3, 0] := ⟨last, hlast, hstat⟩
  have hearly : q.tables.Dispatched [2, 0] :=
    hpass _ _ q [2, 0] [3, 0] row roww hq hrow hpend hroww hpendingw hturn hcovers (hmeets.of_exec hp) hlate
  refine ⟨p, p', q, row, roww, hp, hp', hq, hrow, hroww, hwithin, ?_, hlate, hearly⟩
  cases hhead : p.batch with
  | nil => simp [hhead] at hbatch
  | cons pw rest =>
    rw [hhead, map_cons, cons.injEq] at hbatch
    obtain ⟨hid, -⟩ := hbatch
    rw [← hid] at hrow ⊢
    rcases hexact (env 5) pw rest p' row hhead hp' hrow hpend hone with ⟨hfails, -⟩ | ⟨hiff, -⟩
    · rw [hok] at hfails
      cases hfails
    · exact hiff

namespace Sample

/-- Jobs that ask for two GPUs, as many as a batch holds, and one that fits behind them. -/
def blocked : List Label :=
  [.call (.register machine) fun _ => env 1, .call (.heartbeat [1, 0] (lit "ready")) fun _ => env 1] ++
    (range 16).map (fun k => .call (.submit (lit "org") (lit "user") (job 2)) fun _ => env (2 + .ofNat k)) ++
    [.call (.submit (lit "org") (lit "user") { job 0 with priority := 40 }) fun _ => env 40]

end Sample

theorem batch_dispatches_contest : ∃ p, Run.exec step initial Sample.contest = some p ∧
    ∃ w, p.tables.Pending w ∧ (scheduleBatch.run act (fun _ => Sample.env 5) p.tables).1.Dispatched w := by
  refine ends_of (P := fun p => p.tables.bookingFails (env 5) = false ∧
    (∀ e ∈ p.tables.workloads.rows, 0 ≤ e.2.manifest.resources.gpuCount) ∧ ∃ pw ∈ p.tables.pending (env 5).rank,
      pw.manifest.resources.gpuCount = 0 ∧ p.tables.findNode pw.manifest.resources (env 5).rank =
        some [1, 0]) (by decide +kernel) ?_
  rintro p - ⟨hok, hgpu, pw, hpw, hnone, hnode⟩
  obtain ⟨node, hfits, -⟩ := findNode_eq_some hnone.ge hnode
  exact (batch_dispatches_iff (fun w row hrow => hgpu (w, row) (lookup_eq_some_iff.1 hrow))
    fun _ => hok).2 ⟨pw, hpw, hnone.le.trans zero_le_one, _, node, hfits⟩

/-- **Head-of-line blocking**: a workload fits, and the pass dispatches nothing. -/
theorem batch_is_blocked : ∃ p, Run.exec step initial Sample.blocked = some p ∧
    p.tables.bookingFails (Sample.env 60) = false ∧
    (∃ row, p.tables.workloads.lookup [40, 0] = some row ∧ row.status.isPending = true ∧
      (row.work [40, 0]).Fits p.tables) ∧
    ∀ e ∈ (scheduleBatch.run act (fun _ => Sample.env 60) p.tables).1.workloads.rows, e.2.status = .submitted := by
  refine ends_of (P := fun p => p.tables.bookingFails (env 60) = false ∧
    (∃ row, p.tables.workloads.lookup [40, 0] = some row ∧
      row.status.isPending = true ∧ row.manifest.resources.gpuCount = 0 ∧
        p.tables.findNode row.manifest.resources (env 60).rank = some [1, 0]) ∧
    ∀ e ∈ (scheduleBatch.run act (fun _ => env 60) p.tables).1.workloads.rows, e.2.status =
      .submitted) (by decide +kernel) ?_
  rintro p - ⟨hok, ⟨row, hrow, hpend, hnone, hnode⟩, hidle⟩
  obtain ⟨node, hfits, -⟩ := findNode_eq_some hnone.ge hnode
  exact ⟨hok, ⟨row, hrow, hpend, hnone.le.trans zero_le_one, _, node, hfits⟩, hidle⟩

end Ocelot.Compute
