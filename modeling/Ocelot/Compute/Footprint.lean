/-
# Which operations each program of the control plane issues.
-/
import Ocelot.Compute.ControlPlane

namespace Ocelot.Compute

open Tracker (Bytes lit)
open Prog (Issues)

def Op.reads : Op → Bool
  | .exec (.insertEvent _) => true
  | .exec _ | .scheduleOne _ | .register _ => false
  | _ => true

variable {w : WorkloadID}

theorem issues_release {O : Op → Prop} {finishedAt : Millis}
    (hrel : O (.exec (.releaseReservations w finishedAt))) (hfree : O (.exec (.freeGPUs w))) :
    Issues O (releaseWorkloadResources w finishedAt) :=
  .perform hrel fun _ => .perform hfree fun _ => .ret ()

section

variable {O : Op → Prop} (hO : ∀ op, op.reads = true → O op)

include hO

theorem issues_insertEvent (actor subjectType subjectID kind : Bytes) :
    Issues O (insertEvent actor subjectType subjectID kind) :=
  .perform (hO _ rfl) fun _ => .perform (hO _ rfl) fun _ => .ret ()

theorem issues_requeue {reason : Bytes}
    (hreq : ∀ now, O (.exec (.updateWorkload (.requeue w now reason)))) :
    Issues O (tryRequeueIfEligible w reason) := by
  refine .perform (hO _ rfl) fun now => .perform (hreq now) ?_
  rintro (_ | _ | n)
  · exact .ret _
  · exact .ret _
  · exact .bind (issues_insertEvent hO _ _ w _) fun _ => .ret true

variable {node : NodeID} {ev : HealthEvent} {org : OrgID}

theorem issues_started (hkind : ev.kind = .started)
    (hstmt : O (.exec (.updateWorkload (.markStarted ev.workloadID node ev.ts)))) :
    Issues O (applyHealthEvent node ev) := by
  unfold applyHealthEvent
  rw [hkind]
  exact .perform hstmt fun _ => issues_insertEvent hO _ _ _ _

theorem issues_finish {outcome : Outcome}
    (hfin : O (.exec (.updateWorkload
      (.markFinished ev.workloadID node outcome ev.ts (ev.exitCode.getD 0) ev.message))))
    (hrel : O (.exec (.releaseReservations ev.workloadID ev.ts)))
    (hfree : O (.exec (.freeGPUs ev.workloadID))) (hreq : ev.kind.retryable = true → ∀ now, O
      (.exec (.updateWorkload (.requeue ev.workloadID now ev.message)))) :
    Issues O (finishWorkload node ev outcome) := by
  have hrec : Issues O (recordEvent node ev) := issues_insertEvent hO _ _ _ _
  refine .perform hfin fun _ => .bind (issues_release hrel hfree) fun _ => ?_
  by_cases hretry : ev.kind.retryable = true
  · simp only [hretry, if_true]
    exact .bind (issues_requeue hO (hreq hretry)) fun _ => hrec
  · simp only [hretry, Bool.false_eq_true, if_false]
    exact hrec

theorem issues_applyHealthEvent
    (hstart : ev.kind = .started → O (.exec (.updateWorkload (.markStarted ev.workloadID node ev.ts))))
    (hfin : ∀ outcome, O (.exec (.updateWorkload
      (.markFinished ev.workloadID node outcome ev.ts (ev.exitCode.getD 0) ev.message))))
    (hrel : O (.exec (.releaseReservations ev.workloadID ev.ts))) (hfree : O (.exec (.freeGPUs ev.workloadID)))
    (hreq : ∀ now, O (.exec (.updateWorkload (.requeue ev.workloadID now ev.message)))) :
    Issues O (applyHealthEvent node ev) := by
  have hends : ∀ outcome, Issues O (finishWorkload node ev outcome) := by
    intro outcome
    exact issues_finish hO (hfin outcome) hrel hfree fun _ => hreq
  by_cases hkind : ev.kind = .started
  · exact issues_started hO hkind (hstart hkind)
  · unfold applyHealthEvent
    cases hother : ev.kind with
    | started => exact absurd hother hkind
    | checkpoint => exact issues_insertEvent hO _ _ _ _
    | unknown => exact .ret ()
    | completed | stopped | failed | oomKilled | timedOut => exact hends _

theorem issues_register {req : RegisterRequest} (hreg : validateRegisterRequest req = .ok () →
    O (.register req)) : Issues O (handleRegister req) := by
  unfold handleRegister
  split
  · exact .ret _
  · rename_i hval
    refine .perform (hO _ rfl) ?_
    rintro (_ | _ | existing)
    · exact .ret _
    · refine .perform (hreg hval) ?_
      rintro (_ | node) <;> exact .ret _
    · exact .ret _

theorem issues_heartbeat {status : Bytes}
    (hstmt : ∀ now, O (.exec (.updateNode (.heartbeat node status now)))) :
    Issues O (handleHeartbeat node status) := by
  refine .perform (hO _ rfl) fun now => .perform (hstmt now) ?_
  rintro (_ | n) <;> exact .ret _

theorem issues_inventory {req : InventoryRequest}
    (hstmt : ∀ now, O (.exec
      (.updateNode (.inventory node req.cpuCores req.ramMb req.storageGb req.agentVersion now))))
    (hgpu : ∀ id gpu, O (.exec (.upsertGPU id node gpu))) : Issues O (handleInventory node req) := by
  refine .perform (hO _ rfl) fun now => .perform (hstmt now) ?_
  rintro (_ | _ | n)
  · exact .ret _
  · exact .ret _
  · refine .bind (.forEach fun gpu _ => ?_) fun _ => .ret Response.ok
    exact .perform (hO _ rfl) fun id => .perform (hgpu id gpu) fun _ => .ret ()

theorem issues_drain (hstmt : ∀ now, O (.exec (.updateNode (.drain node now)))) : Issues O (handleDrain node) := by
  refine .perform (hO _ rfl) fun now => .perform (hstmt now) ?_
  rintro (_ | _ | n)
  · exact .ret _
  · exact .ret _
  · exact .bind (issues_insertEvent hO _ _ node _) fun _ => .ret (Response.draining node now)

theorem issues_setDead (hstmt : O (.exec (.updateNode (.setDead node)))) : Issues O (handleSetDead node) := by
  refine .perform (hO _ rfl) fun _ => .perform hstmt ?_
  rintro (_ | _ | n)
  · exact .ret _
  · exact .ret _
  · exact .bind (issues_insertEvent hO _ _ node _) fun _ => .ret Response.noContent

variable {account : AccountID}

theorem issues_submit {req : SubmitWorkloadRequest}
    (hins : validateSubmitRequest req = .ok () → ∀ id now, O
      (.exec (.insertWorkload id (req.row org account now)))) :
    Issues O (handleSubmit org account req) := by
  unfold handleSubmit
  split
  · exact .ret _
  · rename_i hval
    refine .perform (hO _ rfl) fun id => .perform (hO _ rfl) fun now => .perform (hins hval id now) ?_
    rintro (_ | n)
    · exact .ret _
    · exact .bind (issues_insertEvent hO account _ id _) fun _ => .ret (Response.submitted id now)

variable {id : WorkloadID}

theorem issues_cancel
    (hstmt : ∀ now, O (.exec (.updateWorkload (.cancel id org now)))) :
    Issues O (handleCancel org account id) := by
  refine .perform (hO _ rfl) fun now => .perform (hstmt now) ?_
  rintro (_ | _ | n)
  · exact .ret _
  · refine .perform (hO _ rfl) fun count => ?_
    split_ifs <;> exact .ret _
  · refine .perform (hO _ rfl) fun status => ?_
    exact .bind (issues_insertEvent hO account _ id _) fun _ => .ret (Response.stopped id (status.getD none))

theorem issues_stop (hstmt : O (.exec (.updateWorkload (.stop id org)))) : Issues O (handleStop org id) := by
  refine .perform hstmt ?_
  rintro (_ | _ | n)
  · exact .ret _
  · refine .perform (hO _ rfl) ?_
    rintro (_ | _ | status) <;> exact .ret _
  · exact .ret _

theorem issues_recover {now : Millis} (hfail : O (.exec (.updateWorkload (.failLost w now))))
    (hrel : O (.exec (.releaseReservations w now))) (hfree : O (.exec (.freeGPUs w)))
    (hreq : ∀ now, O (.exec (.updateWorkload (.requeue w now (lit "node_lost"))))) :
    Issues O (recoverWorkload now w) := by
  refine .perform hfail ?_
  rintro (_ | n)
  · exact .ret ()
  · refine .bind (issues_release hrel hfree) fun _ => ?_
    refine .bind (issues_requeue hO hreq) fun requeued => ?_
    cases requeued with
    | true => exact .ret ()
    | false => exact issues_insertEvent hO _ _ _ _

theorem issues_recoverNodeWorkloads (hrec : ∀ now w, Issues O (recoverWorkload now w)) :
    Issues O (recoverNodeWorkloads node) := by
  refine .perform (hO _ rfl) ?_
  rintro (_ | workloads)
  · exact .ret ()
  · exact .perform (hO _ rfl) fun now => .forEach fun w _ => hrec now w

theorem issues_loseNode (hlost : O (.exec (.updateNode (.markLost node))))
    (hrec : ∀ now w, Issues O (recoverWorkload now w)) : Issues O (loseNode node) := by
  refine .perform hlost ?_
  rintro (_ | _ | n)
  · exact .ret ()
  · exact .ret ()
  · refine .bind (issues_insertEvent hO _ _ node _) fun _ => ?_
    exact issues_recoverNodeWorkloads hO hrec

theorem issues_checkNodes {lossAfter : Millis} (hlost : ∀ node, O (.exec (.updateNode (.markLost node))))
    (hrec : ∀ now w, Issues O (recoverWorkload now w)) : Issues O (checkNodes lossAfter) := by
  refine .perform (hO _ rfl) fun now => .perform (hO _ rfl) ?_
  rintro (_ | stale)
  · exact .ret ()
  · exact .forEach fun node _ => issues_loseNode hO (hlost node) hrec

theorem issues_checkDeadlines (hexp : ∀ w now, O (.exec (.updateWorkload (.timeOut w now))))
    (hrel : ∀ w now, O (.exec (.releaseReservations w now)))
    (hfree : ∀ w, O (.exec (.freeGPUs w))) : Issues O checkDeadlines := by
  refine .perform (hO _ rfl) fun now => .perform (hO _ rfl) ?_
  rintro (_ | expired)
  · exact .ret ()
  · refine .forEach fun w _ => .perform (hexp w now) ?_
    rintro (_ | _ | n)
    · exact .ret ()
    · exact .ret ()
    · refine .bind (issues_release (hrel w now) (hfree w)) fun _ => ?_
      exact issues_insertEvent hO _ _ _ _

theorem issues_call {c : Call}
    (hins : ∀ req : SubmitWorkloadRequest, validateSubmitRequest req = .ok () → ∀ org account id now,
      O (.exec (.insertWorkload id (req.row org account now))))
    (hreg : ∀ req, validateRegisterRequest req = .ok () → O (.register req))
    (hbeat : ∀ node status, c = .heartbeat node status → ∀ now, O
      (.exec (.updateNode (.heartbeat node status now))))
    (hinv : ∀ node req, c = .inventory node req → ∀ now,
      O (.exec (.updateNode (.inventory node req.cpuCores req.ramMb req.storageGb req.agentVersion now))))
    (hgpu : ∀ id node gpu, O (.exec (.upsertGPU id node gpu)))
    (hdrain : ∀ node now, O (.exec (.updateNode (.drain node now))))
    (hdead : ∀ node, O (.exec (.updateNode (.setDead node))))
    (hlost : ∀ node, O (.exec (.updateNode (.markLost node))))
    (hupd : ∀ s : WorkloadStmt, (∀ id node ts, s ≠ .markStarted id node ts) →
    O (.exec (.updateWorkload s))) (hrel : ∀ w now, O (.exec (.releaseReservations w now)))
    (hfree : ∀ w, O (.exec (.freeGPUs w))) : Issues O c.code := by
  cases c with
  | submit org account req => exact .map (issues_submit hO fun hval => hins req hval org account) _
  | cancel => exact .map (issues_cancel hO fun _ => hupd _ nofun) _
  | stop => exact .map (issues_stop hO (hupd _ nofun)) _
  | register req => exact .map (issues_register hO (hreg req)) _
  | heartbeat node status => exact .map (issues_heartbeat hO (hbeat node status rfl)) _
  | inventory node req => exact .map (issues_inventory hO (hinv node req rfl) fun id => hgpu id node) _
  | drain node => exact .map (issues_drain hO (hdrain node)) _
  | setDead node => exact .map (issues_setDead hO (hdead node)) _
  | checkNodes =>
    refine .map (issues_checkNodes hO hlost fun now w => ?_) _
    exact issues_recover hO (hupd _ nofun) (hrel w now) (hfree w) fun _ => hupd _ nofun
  | checkDeadlines => exact .map (issues_checkDeadlines hO (fun _ _ => hupd _ nofun) hrel hfree) _

end

/-- A row that is inserted is as required. -/
def Op.Inserts (P : Workload → Prop) : Op → Prop
  | .exec (.insertWorkload _ row) => P row
  | _ => True

theorem Op.inserts_of_reads {P : Workload → Prop} : ∀ op : Op, op.reads = true → op.Inserts P := by
  intro op hop
  cases op with
  | exec stmt =>
    cases stmt with
    | insertWorkload => cases hop
    | _ => trivial
  | _ => trivial

theorem Handler.issues_inserts {P : Workload → Prop}
    (hP : ∀ req, validateSubmitRequest req = .ok () → ∀ org account now, P
      (req.row org account now)) (h : Handler) :
    Issues (Op.Inserts P) h.code := by
  cases h with
  | call c =>
    exact issues_call Op.inserts_of_reads (fun req hval org account _ => hP req hval org account)
      (fun _ _ => trivial)
      (fun _ _ _ _ => trivial) (fun _ _ _ _ => trivial) (fun _ _ _ => trivial) (fun _ _ => trivial)
        (fun _ => trivial)
      (fun _ => trivial) (fun _ _ => trivial) (fun _ _ => trivial) fun _ => trivial
  | health node events =>
    refine .map (.bind (.forEach fun _ _ => ?_) fun _ => .ret _) _
    exact issues_applyHealthEvent Op.inserts_of_reads (fun _ => trivial)
      (fun _ => trivial) trivial trivial fun _ => trivial
  | scheduleBatch =>
    refine .map (.perform trivial ?_) _
    rintro (_ | pending)
    · exact .ret _
    · exact .forEach fun _ _ => .ite (fun _ => .ret _) fun _ => .perform trivial fun _ => .ret _

end Ocelot.Compute
