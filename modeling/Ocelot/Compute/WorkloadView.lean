/-
# What the handlers do to one workload, seen through its row and its reservations.
-/
import Ocelot.Compute.Footprint

namespace Ocelot.Compute

open Tracker (Bytes lit)
open Prog (Triple Issues)

/-! ## Views -/

structure View (w : WorkloadID) (row : Option Workload) (held : List Reservation) (t : Tables) : Prop where
  row : t.workloads.lookup w = row
  held : t.held w = held

def Sees (w : WorkloadID) (I : Option Workload → List Reservation → Prop) (t : Tables) : Prop :=
  I (t.workloads.lookup w) (t.held w)

variable {w : WorkloadID} {row : Option Workload} {held : List Reservation} {t : Tables}

theorem View.sees {I : Option Workload → List Reservation → Prop} (h : View w row held t)
    (hI : I row held) : Sees w I t := by
  show I (t.workloads.lookup w) (t.held w)
  rw [h.row, h.held]
  exact hI

def rowStep (s : WorkloadStmt) (w : WorkloadID) (row : Option Workload) : Option Workload :=
  row.map fun r => if w = s.id ∧ s.guard r = true then s.set r else r

theorem rowStep_of_ne {s : WorkloadStmt} (h : w ≠ s.id) (row : Option Workload) : rowStep s w row = row := by
  unfold rowStep
  have hsame : ∀ r : Workload, (if w = s.id ∧ s.guard r = true then s.set r else r) = r := by
    intro r
    rw [if_neg fun happ => h happ.1]
  simp [hsame]

def Env.Healthy (env : Env) : Prop := env.fails = false

def Op.quiet : Op → Bool
  | .exec (.insertWorkload _ _) | .exec (.updateWorkload _) | .exec
    (.releaseReservations _ _) | .scheduleOne _ => false
  | _ => true

theorem View.quiet
    (h : View w row held t) (env : Env) {op : Op} (hop : op.quiet = true) : View w row held (act env op t).1 := by
  have hacts := act_acts env op t
  generalize (act env op t).1 = t' at hacts ⊢
  cases hacts with
  | inserted | updated | released | booked => cases hop
  | _ => exact ⟨h.row, h.held⟩

section

variable {w : WorkloadID} {row : Option Workload} {held : List Reservation} {t : Tables} {env : Env}

theorem View.update (h : View w row held t) (henv : env.Healthy) (s : WorkloadStmt) :
    View w (rowStep s w row) held (act env (.exec (.updateWorkload s)) t).1 := by
  rw [act_of_not_fails henv]
  refine ⟨?_, h.held⟩
  rw [← h.row]
  exact lookup_updateWorkload t s w

theorem View.update_answer (h : View w row held t) (henv : env.Healthy) (s : WorkloadStmt) :
    ∃ n, (act env (.exec (.updateWorkload s)) t).2 = some n ∧ (w = s.id → (n ≠ 0 ↔ row.any s.guard = true)) := by
  rw [act_of_not_fails henv]
  refine ⟨_, rfl, ?_⟩
  intro hw
  rw [← Nat.pos_iff_ne_zero, Table.count_pos_iff, Option.any_eq_true]
  unfold WorkloadStmt.applies
  simp only [Bool.and_eq_true, decide_eq_true_eq]
  constructor
  · rintro ⟨id, r, hrow, rfl, hguard⟩
    exact ⟨r, by rw [← h.row, hw, hrow], hguard⟩
  · rintro ⟨r, hr, hguard⟩
    exact ⟨w, r, by rw [h.row, hr], hw, hguard⟩

end

abbrev Quiet {α : Type} (p : Program α) : Prop := Issues (fun op => op.quiet = true) p

variable {α : Type}

theorem Quiet.triple {p : Program α} (h : Quiet p) (E : Env → Prop) (w : WorkloadID) (row : Option Workload)
    (held : List Reservation) : Triple act E (View w row held) p fun _ => View w row held :=
  Issues.triple h fun env _ _ _ hop hview => hview.quiet env hop

theorem quiet_of_reads : ∀ op : Op, op.reads = true → op.quiet = true := by
  intro op h
  cases op with
  | exec stmt =>
    cases stmt with
    | insertEvent => rfl
    | _ => cases h
  | scheduleOne | register => cases h
  | _ => rfl

theorem quiet_insertEvent (actor subjectType subjectID kind : Bytes) :
    Quiet (insertEvent actor subjectType subjectID kind) :=
      issues_insertEvent quiet_of_reads actor subjectType subjectID kind

theorem quiet_register (req : RegisterRequest) :
    Quiet (handleRegister req) := issues_register quiet_of_reads fun _ => rfl

variable (node : NodeID)

theorem quiet_heartbeat (status : Bytes) : Quiet (handleHeartbeat node status) :=
  issues_heartbeat quiet_of_reads fun _ => rfl

theorem quiet_inventory (req : InventoryRequest) : Quiet (handleInventory node req) :=
  issues_inventory quiet_of_reads (fun _ => rfl) fun _ _ => rfl

theorem quiet_drain : Quiet (handleDrain node) := issues_drain quiet_of_reads fun _ => rfl

theorem quiet_setDead : Quiet (handleSetDead node) := issues_setDead quiet_of_reads rfl

/-! ## Programs -/

section

variable {E : Env → Prop} {Q : α → Tables → Prop}

theorem triple_quiet_then {op : Op} (hop : op.quiet = true) {k : op.Ans → Program α}
    (hk : ∀ ans, Triple act E (View w row held) (k ans) Q) :
    Triple act E (View w row held) (Prog.perform op >>= k) Q :=
  .perform (fun env _ _ hview => hview.quiet env hop) hk

theorem triple_update_then {s : WorkloadStmt} {k : Op.Ans (.exec (.updateWorkload s)) → Program α}
    (hk : ∀ ans, Triple act Env.Healthy (View w (rowStep s w row) held) (k ans) Q) :
    Triple act Env.Healthy (View w row held) (Prog.perform (.exec (.updateWorkload s)) >>= k) Q :=
  .perform (fun _ _ henv hview => hview.update henv s) hk

end

section

variable (w : WorkloadID) (row : Option Workload) (held : List Reservation)

theorem triple_release (u : WorkloadID) (finishedAt : Millis) :
    Triple act Env.Healthy (View w row held) (releaseWorkloadResources u finishedAt)
      fun _ => View w row (if w = u then [] else held) := by
  refine .perform (R := fun _ => View w row (if w = u then [] else held)) ?_ fun _ => ?_
  · intro env t henv hview
    rw [act_of_not_fails henv, ← hview.held]
    exact ⟨hview.row, held_releaseReservations t u w finishedAt⟩
  · exact triple_quiet_then rfl fun _ => .ret fun _ h => h

theorem triple_requeue (u : WorkloadID) (reason : Bytes) :
    Triple act Env.Healthy (View w row held) (tryRequeueIfEligible u reason)
      fun _ t => ∃ now, View w (rowStep (.requeue u now reason) w row) held t := by
  refine triple_quiet_then rfl fun now => triple_update_then ?_
  rintro (_ | _ | n)
  · exact .ret fun t h => ⟨now, h⟩
  · exact .ret fun t h => ⟨now, h⟩
  · refine .bind ((quiet_insertEvent _ _ _ _).triple _ w _ held) fun _ => ?_
    exact .ret fun t h => ⟨now, h⟩

def EventKind.outcome : EventKind → Option Outcome
  | completed | stopped => some .completed
  | failed | oomKilled => some .failed
  | timedOut => some .timedOut
  | started | checkpoint | unknown _ => none

variable {node : NodeID} {ev : HealthEvent} {outcome : Outcome}

theorem applyHealthEvent_of_outcome
    (h : ev.kind.outcome = some outcome) : applyHealthEvent node ev = finishWorkload node ev outcome := by
  unfold applyHealthEvent
  cases hkind : ev.kind <;> rw [hkind] at h <;> cases h <;> rfl

theorem issues_recorded {O : Op → Prop} (hO : ∀ op, op.reads = true → O op)
    (hout : ev.kind.outcome = none) (hstart : ev.kind ≠ .started) : Issues O (applyHealthEvent node ev) := by
  unfold applyHealthEvent
  cases hkind : ev.kind with
  | started => exact absurd hkind hstart
  | checkpoint => exact issues_insertEvent hO _ _ _ _
  | unknown => exact .ret ()
  | _ =>
    rw [hkind] at hout
    cases hout

theorem quiet_applyHealthEvent (hout : ev.kind.outcome = none)
    (hstart : ev.kind ≠ .started) : Quiet (applyHealthEvent node ev) := issues_recorded quiet_of_reads hout hstart

theorem triple_started (node : NodeID) (hkind : ev.kind = .started) :
    Triple act Env.Healthy (View w row held) (applyHealthEvent node ev)
      fun _ => View w (rowStep (.markStarted ev.workloadID node ev.ts) w row) held := by
  unfold applyHealthEvent
  rw [hkind]
  exact triple_update_then fun _ => (quiet_insertEvent _ _ _ _).triple _ w _ held

def HealthEvent.finish (ev : HealthEvent) (node : NodeID) (outcome : Outcome) : WorkloadStmt :=
  .markFinished ev.workloadID node outcome ev.ts (ev.exitCode.getD 0) ev.message

def finishedRow (node : NodeID) (ev : HealthEvent) (outcome : Outcome) (now : Millis)
    (row : Option Workload) : Option Workload :=
  let finished := rowStep (ev.finish node outcome) w row
  if ev.kind.retryable then rowStep (.requeue ev.workloadID now ev.message) w finished else finished

theorem finishedRow_of_ne {now : Millis}
    (hw : w ≠ ev.workloadID) : finishedRow w node ev outcome now row = row := by
  have hfin : rowStep (ev.finish node outcome) w row = row := rowStep_of_ne hw row
  have hreq : rowStep (.requeue ev.workloadID now ev.message) w row = row := rowStep_of_ne hw row
  simp only [finishedRow, hfin, hreq, ite_self]

theorem triple_finish (node : NodeID) (ev : HealthEvent) (outcome : Outcome) :
    Triple act Env.Healthy (View w row held) (finishWorkload node ev outcome) fun _ t =>
      ∃ now, View w (finishedRow w node ev outcome now row) (if w = ev.workloadID then [] else held) t := by
  have hrec : Quiet (recordEvent node ev) := quiet_insertEvent _ _ _ _
  refine triple_update_then fun _ => .bind (triple_release w _ held ev.workloadID ev.ts) fun _ => ?_
  unfold finishedRow
  by_cases hretry : ev.kind.retryable = true
  · simp only [hretry, if_true]
    refine .bind (triple_requeue w _ _ ev.workloadID ev.message) fun _ => .ex fun now => ?_
    exact (hrec.triple _ w _ _).mono fun _ t hview => ⟨now, hview⟩
  · simp only [hretry, Bool.false_eq_true, if_false]
    exact (hrec.triple _ w _ _).mono fun _ t hview => ⟨0, hview⟩

theorem triple_recover (now : Millis) (u : WorkloadID) :
    Triple act Env.Healthy (View w row held) (recoverWorkload now u) fun _ t =>
      ∃ later, View w (rowStep (.requeue u later (lit "node_lost")) w (rowStep (.failLost u now) w row))
        (if w = u then [] else held) t := by
  refine .perform (R := fun ans t => ans ≠ none ∧ View w (rowStep (.failLost u now) w row) held t) ?_ ?_
  · intro _ t henv hview
    obtain ⟨n, hn, -⟩ := hview.update_answer henv (.failLost u now)
    refine ⟨?_, hview.update henv _⟩
    rw [hn]
    exact Option.some_ne_none n
  · rintro (_ | n)
    · exact .lift fun hans => absurd rfl hans
    · refine .lift fun _ => ?_
      refine .bind (triple_release w _ held u now) fun _ => ?_
      refine .bind (triple_requeue w _ _ u (lit "node_lost")) fun requeued => ?_
      cases requeued with
      | true => exact .ret fun t h => h
      | false =>
        refine .ex fun later => ?_
        exact ((quiet_insertEvent _ _ _ _).triple _ w _ _).mono fun _ t hview => ⟨later, hview⟩

theorem triple_expire (now : Millis) (u : WorkloadID) :
    Triple act Env.Healthy (View w row held) (expireWorkload now u) fun _ =>
      View w (rowStep (.timeOut u now) w row)
        (if w = u ∧ row.any (WorkloadStmt.timeOut u now).guard = true then [] else held) := by
  refine .perform (R := fun ans t =>
    (∃ n, ans = some n ∧ (w = u → (n ≠ 0 ↔ row.any (WorkloadStmt.timeOut u now).guard = true))) ∧
      View w (rowStep (.timeOut u now) w row) held t) ?_ ?_
  · intro _ t henv hview
    exact ⟨hview.update_answer henv _, hview.update henv _⟩
  · rintro (_ | _ | n)
    · refine .lift ?_
      rintro ⟨n, hn, -⟩
      cases hn
    · refine .lift ?_
      rintro ⟨n, hn, hans⟩
      cases hn
      rw [if_neg fun h => (hans h.1).2 h.2 rfl]
      exact .ret fun t hview => hview
    · refine .lift ?_
      rintro ⟨m, hm, hans⟩
      cases hm
      have hheld : (if w = u ∧ row.any (WorkloadStmt.timeOut u now).guard = true then [] else held) =
          if w = u then [] else held := by
        by_cases hw : w = u
        · rw [if_pos ⟨hw, (hans hw).1 (Nat.succ_ne_zero n)⟩, if_pos hw]
        · rw [if_neg fun h => hw h.1, if_neg hw]
      rw [hheld]
      refine .bind (triple_release w _ held u now) fun _ => ?_
      exact (quiet_insertEvent _ _ _ _).triple _ w _ _

end

section

variable (w : WorkloadID) (row : Option Workload) (held : List Reservation)

theorem triple_stop (org : OrgID) (id : WorkloadID) :
    Triple act Env.Healthy (View w row held) (handleStop org id) fun _ =>
      View w (rowStep (.stop id org) w row) held := by
  refine triple_update_then ?_
  rintro (_ | _ | n)
  · exact .ret fun t h => h
  · refine triple_quiet_then rfl ?_
    rintro (_ | _ | status) <;> exact .ret fun t h => h
  · exact .ret fun t h => h

theorem triple_cancel (org : OrgID) (account : AccountID) (id : WorkloadID) :
    Triple act Env.Healthy (View w row held) (handleCancel org account id)
      fun _ t => ∃ now, View w (rowStep (.cancel id org now) w row) held t := by
  refine triple_quiet_then rfl fun now => ?_
  -- what follows the `UPDATE` asks and records, and changes nothing that is seen
  have hquiet : ∀ {p : Program Response}, Quiet p →
      Triple act Env.Healthy (View w (rowStep (.cancel id org now) w row) held) p
        fun _ t => ∃ now, View w (rowStep (.cancel id org now) w row) held t := by
    intro p hp
    exact (hp.triple _ w _ held).mono fun _ t h => ⟨now, h⟩
  refine triple_update_then ?_
  rintro (_ | _ | n)
  · exact hquiet (.ret _)
  · apply hquiet
    refine .call rfl fun count => ?_
    show Quiet (if count.getD 0 = 0 then _ else _)
    split_ifs <;> exact .ret _
  · apply hquiet
    refine .call rfl fun status => ?_
    show Quiet ((insertEvent account _ id _).bind fun _ => .ret (Response.stopped id (status.getD none)))
    exact .bind (quiet_insertEvent _ _ _ _) fun _ => .ret _

theorem triple_submit (E : Env → Prop) (org : OrgID) (account : AccountID) (req : SubmitWorkloadRequest) :
    Triple act E (View w row held) (handleSubmit org account req) fun _ t =>
      View w row held t ∨ row = none ∧ ∃ now, View w (some (req.row org account now)) held t := by
  unfold handleSubmit
  split
  · exact .ret fun t h => .inl h
  · refine triple_quiet_then rfl fun id => triple_quiet_then rfl fun now => ?_
    refine .perform (R := fun _ t => ∃ row', (row' = row ∨ row = none ∧
      row' = some (req.row org account now)) ∧ View w row' held t) ?_ ?_
    · intro env t _ hview
      have hacts := act_acts env (.exec (.insertWorkload id (req.row org account now))) t
      generalize (act env (.exec (.insertWorkload id (req.row org account now))) t).1 = t' at hacts ⊢
      cases hacts with
      | unchanged => exact ⟨row, .inl rfl, hview⟩
      | inserted _ _ hins =>
        refine ⟨_, ?_, rfl, hview.held⟩
        rw [Table.lookup_insert hins, hview.row]
        split_ifs with hw
        · exact .inr ⟨by rw [← hview.row, hw, Table.lookup_of_insert hins], rfl⟩
        · exact .inl rfl
    · have hdone : ∀ {p : Program Response}, Quiet p →
          Triple act E (fun t => ∃ row', (row' = row ∨ row = none ∧
            row' = some (req.row org account now)) ∧ View w row' held t) p
            fun _ t => View w row held t ∨ row = none ∧ ∃ now, View w (some (req.row org account now)) held t := by
        intro p hp
        refine .ex fun row' => .lift fun hrow' => (hp.triple E w row' held).mono ?_
        intro _ t hview
        rcases hrow' with rfl | ⟨hnone, rfl⟩
        · exact .inl hview
        · exact .inr ⟨hnone, now, hview⟩
      rintro (_ | n)
      · exact hdone (.ret _)
      · exact hdone (.bind (quiet_insertEvent account _ id _) fun _ => .ret (Response.submitted id now))

end

/-! ## Any workload -/

section

variable {w : WorkloadID} {I : Option Workload → List Reservation → Prop} {E : Env → Prop}

theorem triple_sees {p : Program α}
    (h : ∀ row held, I row held → Triple act E (View w row held) p fun _ => Sees w I) :
    Triple act E (Sees w I) p fun _ => Sees w I := by
  intro env henv t ht
  exact h _ _ ht env henv t ⟨rfl, rfl⟩

theorem Quiet.sees {p : Program α} (h : Quiet p) : Triple act E (Sees w I) p fun _ => Sees w I := by
  apply triple_sees
  intro row held hI
  exact (h.triple E w row held).mono fun _ t hview => hview.sees hI

theorem sees_quiet_then {op : Op} (hop : op.quiet = true) {k : op.Ans → Program α} {Q : α → Tables → Prop}
    (hk : ∀ ans, Triple act E (Sees w I) (k ans) Q) : Triple act E (Sees w I) (Prog.perform op >>= k) Q :=
  .perform (fun env _ _ hsees => (View.quiet ⟨rfl, rfl⟩ env hop).sees hsees) hk

theorem triple_loseNode (h : ∀ now u, Triple act E (Sees w I) (recoverWorkload now u) fun _ => Sees w I)
    (node : NodeID) : Triple act E (Sees w I) (loseNode node) fun _ => Sees w I := by
  refine sees_quiet_then rfl ?_
  rintro (_ | _ | n)
  · exact .ret fun t ht => ht
  · exact .ret fun t ht => ht
  · refine .bind (quiet_insertEvent _ _ _ _).sees fun _ => sees_quiet_then rfl ?_
    rintro (_ | workloads)
    · exact .ret fun t ht => ht
    · exact sees_quiet_then rfl fun now => .forEach fun u _ => h now u

theorem triple_checkNodes (h : ∀ now u, Triple act E (Sees w I) (recoverWorkload now u) fun _ => Sees w I)
    (lossAfter : Millis) : Triple act E (Sees w I) (checkNodes lossAfter) fun _ => Sees w I := by
  refine sees_quiet_then rfl fun now => sees_quiet_then rfl ?_
  rintro (_ | stale)
  · exact .ret fun t ht => ht
  · exact .forEach fun node _ => triple_loseNode h node

theorem triple_checkDeadlines (h : ∀ now u, Triple act E (Sees w I) (expireWorkload now u) fun _ => Sees w I) :
    Triple act E (Sees w I) checkDeadlines fun _ => Sees w I := by
  refine sees_quiet_then rfl fun now => sees_quiet_then rfl ?_
  rintro (_ | expired)
  · exact .ret fun t ht => ht
  · exact .forEach fun u _ => h now u

end

end Ocelot.Compute
