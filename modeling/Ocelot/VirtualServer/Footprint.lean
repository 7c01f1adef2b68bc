/-
# Which operations each part of a reconcile pass issues.
-/
import Ocelot.VirtualServer.Reconciler

namespace Ocelot.Prog.Issues

open VirtualServer (Program)

variable {O : VirtualServer.Op → Prop} {α : Type}

theorem attempt {p : Program α} (hp : Issues O p) : Issues O (VirtualServer.attempt p) := map hp _

theorem whenever {c : Bool} {p : Program Unit} (hp : Issues O p) : Issues O (VirtualServer.whenever c p) :=
  ite (fun _ => hp) fun _ => .ret ()

theorem except {ε β : Type} {k : Except ε β → Program α} (herr : ∀ e, Issues O (k (.error e)))
    (hok : ∀ b, Issues O (k (.ok b))) : ∀ ans, Issues O (k ans)
  | .error e => herr e
  | .ok b => hok b

end Ocelot.Prog.Issues

namespace Ocelot.VirtualServer

open Tracker (Bytes)
open Prog (Issues)

def Op.isQuiet : Op → Bool
  | .write _ | .adapter _ => false
  | _ => true

theorem act_of_isQuiet {env : Env} {op : Op} {w : World} (h : op.isQuiet = true) : (act env op w).1 = w := by
  cases op with
  | now | query | driver | lookup => rfl
  | write | adapter => cases h

section

variable {F : Type} {cfg : Config F} {O : Op → Prop} {α : Type}

theorem issues_write {wr : Write} (h : O (.write wr)) : Issues O (write wr) := .call h fun _ => .ret _

theorem issues_adapter {c : AdapterCall} (h : O (.adapter c)) : Issues O (adapter c) := .call h fun _ => .ret _

variable (hO : ∀ op, op.isQuiet = true → O op)

include hO

theorem issues_query {q : Query} {k : Except StoreError q.Ans → Program α}
    (hk : ∀ ans, Issues O (k ans)) : Issues O (query q >>= k) := .perform (hO _ rfl) hk

/-! ## Nodes and volumes -/

variable {i : InstanceID} {v : VolumeID × Volume}

theorem issues_updateInstanceState {dst : InstanceState}
    (hwr : ∀ src, src.validateInstanceTransition dst = true →
    O (.write (.writeInstanceState i src dst))) : Issues O (updateInstanceState i dst) := by
  refine issues_query hO (.except (fun _ => .ret _) fun _ => ?_)
  exact .ite (fun hval => issues_write (hwr _ hval)) fun _ => .ret _

theorem issues_assignNode {node : NodeID}
    (hwr : ∀ src, src.validateInstanceTransition .scheduled = true →
    O (.write (.writeAssignment i node src))) : Issues O (assignNode i node) := by
  refine issues_query hO (.except (fun _ => .ret _) fun _ => ?_)
  exact .ite (fun hval => issues_write (hwr _ hval)) fun _ => .ret _

theorem issues_updateNodeState {n : NodeID} {dst : NodeState}
    (hwr : ∀ src, src.validateNodeTransition dst = true → O (.write (.writeNodeState n src dst))) :
    Issues O (updateNodeState n dst) := by
  refine issues_query hO (.except (fun _ => .ret _) fun _ => ?_)
  exact .ite (fun hval => issues_write (hwr _ hval)) fun _ => .ret _

theorem issues_reconcileNodeHeartbeats
    (hwr : ∀ n src, src.validateNodeTransition .degraded = true →
    O (.write (.writeNodeState n src .degraded))) : Issues O (reconcileNodeHeartbeats cfg) := by
  refine issues_query hO (.except (fun _ => .ret _) fun _ => ?_)
  refine .perform (hO _ rfl) fun t => .forEach fun n _ => ?_
  unfold expireNode
  split
  · exact .ret _
  · split_ifs
    · exact .ret _
    · exact (issues_updateNodeState hO (hwr n.id)).attempt

theorem issues_provisionVolume (hst : ∀ dst, O (.write (.updateVolumeState v.1 dst)))
    (hhandle : ∀ handle, O (.write (.updateVolumeHandle v.1 handle)))
    (hfail : ∀ reason, O (.write (.updateVolumeFailure v.1 reason))) : Issues O (provisionVolume cfg v) := by
  unfold provisionVolume
  split
  · exact .ret _
  · refine .perform (hst .provisioning) (.except (fun _ => .ret _) fun _ => ?_)
    refine .perform (hO _ rfl) (.except (fun message => (issues_write (hfail message)).attempt) fun handle => ?_)
    exact (issues_write (hhandle handle)).attempt.bind fun _ => (issues_write (hst .ready)).attempt

theorem issues_releaseVolume (hst : O (.write (.updateVolumeState v.1 .released)))
    (hfail : ∀ reason, O (.write (.updateVolumeFailure v.1 reason)))
    (hdel : O (.write (.deleteVolume v.1))) : Issues O (releaseVolume cfg v) := by
  have hdrop : Issues O (dropVolume v.1) := (issues_write hst).attempt.bind fun _ => (issues_write hdel).attempt
  unfold releaseVolume
  split_ifs
  · exact hdrop
  · split
    · exact (issues_write (hfail _)).attempt
    · exact .perform (hO _ rfl) (.except (fun message => (issues_write (hfail message)).attempt) fun _ => hdrop)

theorem issues_checkQuota (hst : ∀ dst, O (.write (.updateVolumeState v.1 dst))) :
    Issues O (checkQuota cfg v) := by
  unfold checkQuota
  split
  · exact .ret _
  · refine .perform (hO _ rfl) fun (ans : Except Bytes (Option ℤ)) => ?_
    rcases ans with message | (_ | used)
    · exact .ret _
    · exact .ret _
    · dsimp only
      split_ifs
      · exact (issues_write (hst _)).attempt
      · exact (issues_write (hst _)).attempt
      · exact .ret _

theorem issues_reconcileVolumes (hst : ∀ v dst, O (.write (.updateVolumeState v dst)))
    (hhandle : ∀ v handle, O (.write (.updateVolumeHandle v handle)))
    (hfail : ∀ v reason, O (.write (.updateVolumeFailure v reason)))
    (hdel : ∀ v, O (.write (.deleteVolume v))) : Issues O (reconcileVolumes cfg) := by
  have hlist : ∀ state, Issues O (volumesIn state) := fun state => .map (.call (hO _ rfl) fun _ => .ret _) _
  refine issues_query hO (.except (fun _ => .ret _) fun _ => ?_)
  refine .bind (.forEach fun v _ => issues_provisionVolume hO (hst v.1) (hhandle v.1) (hfail v.1)) fun _ => ?_
  refine (hlist .releasing).bind fun releasing => ?_
  refine .bind (.forEach fun v _ => issues_releaseVolume hO (hst v.1 _) (hfail v.1) (hdel v.1)) fun _ => ?_
  refine (hlist .bound).bind fun bound => (hlist .quotaExceeded).bind fun _ => ?_
  exact .forEach fun v _ => issues_checkQuota hO (hst v.1)

theorem issues_reconcileDesiredCount (hcreate : ∀ service path, O (.write (.createInstance service path))) :
    Issues O reconcileDesiredCount := by
  refine issues_query hO (.except (fun _ => .ret _) fun _ => ?_)
  refine .forEach fun s _ => ?_
  unfold fillService
  split_ifs
  · exact .ret _
  · exact issues_query hO (.except (fun _ => .ret _) fun _ => .forEach fun _ _ =>
      (issues_write (hcreate _ _)).attempt)

/-! ## Instances -/

theorem issues_localVolumePinnedNode (nspace : Bytes) (mounts : List ServiceVolumeMount) :
    Issues O (localVolumePinnedNode cfg nspace mounts) := by
  induction mounts with
  | nil => exact .ret _
  | cons _ _ ih =>
    refine issues_query hO (.except (fun _ => ih) fun _ => ?_)
    dsimp only
    split_ifs
    · exact .ret _
    · exact ih

section

variable [Float64 F]

theorem issues_computeScore (catalog : Bool) (w : Weights F) (spec : ServiceSpec) (n : Node) :
    Issues O (computeScore catalog w spec n) := by
  refine .bind ?_ fun _ => .ret _
  unfold artifactTransferScore
  split_ifs
  · exact .ret _
  · exact .perform (hO _ rfl) fun _ => .ret _

omit hO in
theorem issues_schedule {spec : ServiceSpec} {score : Node → Program F} (hscore : ∀ n, Issues O (score n))
    (nodes : List Node) : Issues O (schedule spec score nodes) := by
  refine .bind ?_ fun _ => .ret _
  induction nodes with
  | nil => exact .ret _
  | cons n _ ih =>
    unfold candidates
    split_ifs
    · exact (hscore n).bind fun x => ih.bind fun _ => .ret _
    · exact ih

theorem issues_scheduleInstance {nodes : List Node} {x : InstanceID × ServiceInstance}
    (hassign : ∀ node src, src.validateInstanceTransition .scheduled = true →
      O (.write (.writeAssignment x.1 node src)))
    (hallocate : ∀ node cpu ram gpu, O (.write (.allocateResources x.1 node cpu ram gpu)))
    (hdeclare : ∀ src, src.validateInstanceTransition .declared = true →
      O (.write (.writeInstanceState x.1 src .declared))) :
    Issues O (scheduleInstance cfg nodes x) := by
  refine issues_query hO (.except (fun _ => .ret _) fun _ => ?_)
  refine (issues_localVolumePinnedNode hO _ _).bind fun _ => ?_
  refine (issues_schedule (fun n => issues_computeScore hO _ _ _ n) _).bind fun chosen => ?_
  cases chosen with
  | none => exact .ret _
  | some n =>
    refine (issues_assignNode hO (hassign n.id)).bind (.except (fun _ => .ret _) fun u => ?_)
    exact .perform (hallocate _ _ _ _)
      (.except (fun _ => (issues_updateInstanceState hO hdeclare).attempt) fun _ => .ret _)

end

variable {i : InstanceID} {x : InstanceID × ServiceInstance}

theorem issues_resolveMounts {nspace : Bytes} {node : NodeID}
    (hbind : ∀ v path ro, O (.write (.bindMount v i path ro)))
    (hact : ∀ m, O (.write (.updateMountState m .active)))
    (hpin : ∀ v, O (.write (.updateVolumeBoundNode v node)))
    (hbound : ∀ v, O (.write (.updateVolumeState v .bound)))
    (decls : List ServiceVolumeMount) : Issues O (resolveMounts cfg nspace i node decls) := by
  induction decls with
  | nil => exact .ret _
  | cons _ _ ih =>
    refine issues_query hO (.except (fun _ => .ret _) fun vol => ?_)
    dsimp only
    split_ifs
    · exact .ret _
    · split
      · exact .ret _
      · refine .perform (hO _ rfl) (.except (fun _ => .ret _) fun _ => ?_)
        refine .perform (hbind _ _ _) (.except (fun _ => .ret _) fun mountID => ?_)
        refine (issues_write (hact mountID)).attempt.bind fun _ => ?_
        refine (issues_write (hpin vol.1)).attempt.whenever.bind fun _ => ?_
        refine (issues_write (hbound vol.1)).attempt.whenever.bind fun _ => ?_
        exact ih.bind fun _ => .ret _

theorem issues_withAdapter {body : Service → Bytes → Program Unit}
    (hbody : ∀ svc ad, Issues O (body svc ad)) : Issues O (withAdapter cfg x body) := by
  refine issues_query hO (.except (fun _ => .ret _) fun _ => ?_)
  dsimp only
  split
  · exact .ret _
  · exact hbody _ _

theorem issues_provisionInstance
    (hst : ∀ src dst, src.validateInstanceTransition dst = true → dst = .provisioning ∨
      dst = .failed → O (.write (.writeInstanceState x.1 src dst)))
    (hbind : ∀ v path ro, O (.write (.bindMount v x.1 path ro)))
    (hact : ∀ m, O (.write (.updateMountState m .active)))
    (hpin : ∀ v, O (.write (.updateVolumeBoundNode v x.2.nodeID)))
    (hbound : ∀ v, O (.write (.updateVolumeState v .bound)))
    (hprov : ∀ ad req, req.instanceID = x.1 → O (.adapter (.provision ad req)))
    (hhandle : ∀ handle, O (.write (.updateRuntimeHandle x.1 handle))) : Issues O (provisionInstance cfg x) := by
  have hfail : Issues O (attempt (updateInstanceState x.1 .failed)) :=
    (issues_updateInstanceState hO fun src hval => hst src _ hval (.inr rfl)).attempt
  refine issues_withAdapter hO fun _ ad => ?_
  refine (issues_updateInstanceState hO fun src hval => hst src _ hval (.inl rfl)).bind
    (.except (fun _ => .ret _) fun _ => ?_)
  refine issues_query hO fun _ => ?_
  refine (issues_resolveMounts hO hbind hact hpin hbound _).bind fun mounts => ?_
  cases mounts with
  | none => exact hfail
  | some =>
    exact .perform (hprov _ _ rfl) (.except (fun _ => hfail) fun handle => (issues_write (hhandle handle)).attempt)

theorem issues_startInstance
    (hst : ∀ src dst, src.validateInstanceTransition dst = true → dst = .starting ∨ dst = .running ∨
      dst = .failed →
      O (.write (.writeInstanceState x.1 src dst)))
    (hstart : ∀ ad, O (.adapter (.start (handleOf ad x)))) : Issues O (startInstance cfg x) := by
  refine issues_withAdapter hO fun _ ad => ?_
  refine (issues_updateInstanceState hO fun src hval => hst src _ hval (.inl rfl)).bind
    (.except (fun _ => .ret _) fun u => ?_)
  refine .perform (hstart ad) (.except (fun _ => ?_) fun _ => ?_)
  · exact (issues_updateInstanceState hO fun src hval => hst src _ hval (.inr (.inr rfl))).attempt
  · exact (issues_updateInstanceState hO fun src hval => hst src _ hval (.inr (.inl rfl))).attempt

theorem issues_teardownMount {m : MountID × VolumeMount} (hreleased : O (.write (.updateMountState m.1 .released)))
    (hready : ∀ v, O (.write (.updateVolumeState v .ready))) : Issues O (teardownMount cfg m) := by
  unfold teardownMount
  split_ifs
  · exact .ret _
  · refine (issues_write hreleased).attempt.bind fun _ => issues_query hO (.except (fun _ => .ret _) fun _ => ?_)
    refine .bind ?_ fun _ => .whenever (issues_query hO fun ans => ?_)
    · unfold unmount
      split
      · exact .ret _
      · exact .attempt (.call (hO _ rfl) fun _ => .ret _)
    · rcases ans with e | (_ | ⟨m', ms⟩)
      · exact .ret _
      · exact (issues_write (hready _)).attempt
      · exact .ret _

theorem issues_teardownMounts (hreleased : ∀ m, O (.write (.updateMountState m .released)))
    (hready : ∀ v, O (.write (.updateVolumeState v .ready))) : Issues O (teardownMounts cfg i) := by
  exact issues_query hO (.except (fun _ => .ret _) fun _ => .forEach fun m _ =>
    issues_teardownMount hO (hreleased m.1) hready)

omit hO in
theorem issues_destroyInstance {svc : Service}
    (hdestr : ∀ ad, O (.adapter (.destroy (handleOf ad x)))) : Issues O (destroyInstance cfg svc x) := by
  unfold destroyInstance
  split_ifs
  · exact .ret _
  · split
    · exact .ret _
    · exact (issues_adapter (hdestr _)).attempt

section

variable {x : InstanceID × ServiceInstance} (hreleased : ∀ m, O (.write (.updateMountState m .released)))
  (hready : ∀ v, O (.write (.updateVolumeState v .ready))) (hrelease : O (.write (.releaseAllocation x.1)))

include hreleased hready hrelease

theorem issues_vacate {p : Program Unit} (hp : Issues O p) : Issues O (do
    teardownMounts cfg x.1
    attempt (write (.releaseAllocation x.1))
    p) := (issues_teardownMounts hO hreleased hready).bind fun _ =>
      (issues_write hrelease).attempt.bind fun _ => hp

theorem issues_handleFailedInstance
    (hst : ∀ src, src.validateInstanceTransition .terminated = true →
      O (.write (.writeInstanceState x.1 src .terminated)))
    (hretry : O (.write (.incrementRetryCount x.1))) (hdestr : ∀ ad, O (.adapter (.destroy (handleOf ad x)))) :
    Issues O (handleFailedInstance cfg x) := by
  refine issues_query hO (.except (fun _ => .ret _) fun _ => ?_)
  dsimp only
  split_ifs
  · refine .perform (hO _ rfl) fun t => .ite (fun _ => .ret _) fun _ => ?_
    exact issues_vacate hO hreleased hready hrelease (issues_write hretry).attempt
  · exact (issues_destroyInstance hdestr).bind fun _ => (issues_updateInstanceState hO hst).attempt

theorem issues_inspectInstance
    (hst : ∀ src dst, src.validateInstanceTransition dst = true → dst = .degraded ∨ dst = .failed →
      O (.write (.writeInstanceState x.1 src dst)))
    (hinsp : ∀ ad, O (.adapter (.inspect (handleOf ad x))))
    (hhealth : ∀ ad, O (.adapter (.health (handleOf ad x)))) :
    Issues O (inspectInstance cfg x) := by
  have hfail : Issues O (attempt (updateInstanceState x.1 .failed)) :=
    (issues_updateInstanceState hO fun src hval => hst src _ hval (.inr rfl)).attempt
  have hill : Issues O (attempt (updateInstanceState x.1 .degraded)) :=
    (issues_updateInstanceState hO fun src hval => hst src _ hval (.inl rfl)).attempt
  refine issues_withAdapter hO fun _ ad => .perform (hinsp ad) fun (ans : Except Bytes Bool) => ?_
  rcases ans with e | (_ | _)
  · exact issues_vacate hO hreleased hready hrelease hfail
  · exact issues_vacate hO hreleased hready hrelease hfail
  · refine .perform (hhealth ad) fun (ans : Except Bytes Bool) => ?_
    rcases ans with e | (_ | _)
    · exact hill
    · exact hill
    · exact .ret _

theorem issues_handleDegradedInstance
    (hst : ∀ src dst, src.validateInstanceTransition dst = true → dst = .running ∨ dst = .failed →
      O (.write (.writeInstanceState x.1 src dst)))
    (hhealth : ∀ ad, O (.adapter (.health (handleOf ad x)))) : Issues O (handleDegradedInstance cfg x) := by
  have hlost : Issues O (now >>= fun t =>
      if t - x.2.updatedAt * second ≤ degradedFailTimeout then return ()
      else do
        teardownMounts cfg x.1
        attempt (write (.releaseAllocation x.1))
        attempt (updateInstanceState x.1 .failed)) := by
    refine .perform (hO _ rfl) fun t => .ite (fun _ => .ret _) fun _ => ?_
    exact issues_vacate hO hreleased hready hrelease
      (issues_updateInstanceState hO fun src hval => hst src _ hval (.inr rfl)).attempt
  refine issues_withAdapter hO fun _ ad => .perform (hhealth ad) fun (ans : Except Bytes Bool) => ?_
  rcases ans with e | (_ | _)
  · exact hlost
  · exact hlost
  · exact (issues_updateInstanceState hO fun src hval => hst src _ hval (.inl rfl)).attempt

theorem issues_stopInstance
    (hst : ∀ src, src.validateInstanceTransition .terminated = true →
      O (.write (.writeInstanceState x.1 src .terminated)))
    (hstop : ∀ ad, O (.adapter (.stop (handleOf ad x))))
    (hdestr : ∀ ad, O (.adapter (.destroy (handleOf ad x)))) : Issues O (stopInstance cfg x) := by
  refine issues_withAdapter hO fun _ ad => ?_
  refine (issues_adapter (hstop ad)).attempt.bind fun _ => (issues_adapter (hdestr ad)).attempt.bind fun _ => ?_
  exact issues_vacate hO hreleased hready hrelease (issues_updateInstanceState hO hst).attempt

end

theorem issues_sweep {state : InstanceState} {handle : InstanceID × ServiceInstance → Program Unit}
    (hhandle : ∀ x, Issues O (handle x)) : Issues O (sweep state handle) := by
  exact issues_query hO (.except (fun _ => .ret _) fun _ => .bind (.forEach fun x _ => hhandle x) fun _ => .ret _)

theorem issues_reconcile [Float64 F] (hnodes : Issues O (reconcileNodeHeartbeats cfg))
    (hvols : Issues O (reconcileVolumes cfg)) (hcnt : Issues O reconcileDesiredCount)
    (hschedule : ∀ nodes x, Issues O (scheduleInstance cfg nodes x))
    (hprov : ∀ x, Issues O (provisionInstance cfg x))
    (hstart : ∀ x, Issues O (startInstance cfg x)) (hfail : ∀ x, Issues O (handleFailedInstance cfg x))
    (hinsp : ∀ x, Issues O (inspectInstance cfg x)) (hdegraded : ∀ x, Issues O (handleDegradedInstance cfg x))
    (hstop : ∀ x, Issues O (stopInstance cfg x)) : Issues O (reconcile cfg) := by
  refine hnodes.bind fun _ => hvols.bind fun _ => hcnt.bind fun _ =>
    issues_query hO (.except (fun _ => .ret _) fun nodes => ?_)
  have hact : Issues O (countActive nodes) := by
    exact issues_query hO (.except (fun _ => .ret _) fun _ => .ret _)
  refine hact.bind fun nodes => (issues_sweep hO (hschedule nodes)).bind (.except (fun _ => .ret _) fun u => ?_)
  refine (issues_sweep hO hprov).bind (.except (fun _ => .ret _) fun u => ?_)
  refine (issues_sweep hO hstart).bind (.except (fun _ => .ret _) fun u => ?_)
  refine (issues_sweep hO hfail).bind (.except (fun _ => .ret _) fun _ => ?_)
  refine (issues_sweep hO hinsp).bind fun _ => (issues_sweep hO hdegraded).bind fun _ => ?_
  exact (issues_sweep hO hstop).bind fun _ => .ret _

end

end Ocelot.VirtualServer
