/-
# What one step can do.
-/
import Ocelot.VirtualServer.Allocation
import Ocelot.VirtualServer.Programs

namespace Ocelot.VirtualServer

open Table Option Tables
open Tracker (Bytes)

/-! ## Writes -/

def newMount (v : VolumeID) (i : InstanceID) (path : Bytes) (ro : Bool) : VolumeMount where
  volumeID := v
  instanceID := i
  targetPath := path
  readOnly := ro
  state := .pending

/-- **What a write that commits leaves.** -/
inductive Committed (env : Env) (t : Tables) : Write → Tables → Prop
  | nodeCreated (n : Node) (nodes : Table NodeID NodeRow)
      (hinsert : t.nodes.insert (newNodeID env n) (newNodeRow n) = some nodes) :
      Committed env t (.createNode n) { t with nodes, gpus := addGPUs (newNodeID env n) t.gpus n.gpuDevices }
  | nodeMoved (id : NodeID) (src dst : NodeState) (hsrc : (t.nodes.lookup id).any fun n => n.state = src) :
      Committed env t (.writeNodeState id src dst) (t.setNode id fun n => { n with state := dst })
  | nodeReported (id : NodeID) (ram cpu : ℤ) (state : NodeState) :
      Committed env t (.writeHeartbeat id ram cpu state) (t.writeHeartbeat env id ram cpu state)
  | booked (i : InstanceID) (node : NodeID) (cpu ram : ℤ) (gpu : Option ℤ) (t' : Tables)
      (hadmits : t.Admits i node cpu ram) (hbooked : t.Booked t' env i node cpu ram gpu) :
      Committed env t (.allocateResources i node cpu ram gpu) t'
  | nothingFreed (i : InstanceID) (hnone : t.activeAllocation i = none) : Committed env t (.releaseAllocation i) t
  | freed (i : InstanceID) (a : Allocation) (t' : Tables) (ha : t.activeAllocation i = some a)
      (hfreed : t.Freed t' env i a) : Committed env t (.releaseAllocation i) t'
  | created (service : ServiceID) (path : Bytes) (instances : Table InstanceID ServiceInstance)
      (hinsert : t.instances.insert env.newID (newInstanceRow env service path) = some instances) :
      Committed env t (.createInstance service path) { t with instances }
  | moved (id : InstanceID) (src dst : InstanceState) (row : ServiceInstance)
    (hrow : t.instances.lookup id = some row)
      (hsrc : row.state = src) : Committed env t (.writeInstanceState id src dst)
        (t.setInstance id fun i => { i with state := dst, updatedAt := unix env.now })
  | assigned (id : InstanceID) (node : NodeID) (src : InstanceState) (row : ServiceInstance)
      (hrow : t.instances.lookup id = some row) (hsrc : row.state = src) : Committed env t
        (.writeAssignment id node src)
        (t.setInstance id fun i => { i with nodeID := node, state := .scheduled, updatedAt := unix env.now })
  | stored (id : InstanceID) (handle : StringMap) :
      Committed env t (.updateRuntimeHandle id handle) (t.updateRuntimeHandle env id handle)
  | retried (id : InstanceID) : Committed env t (.incrementRetryCount id) (t.incrementRetryCount env id)
  | volumeMoved (id : VolumeID) (dst : VolumeState) (v : Volume) (hv : t.volumes.lookup id = some v)
      (hvalid : v.state.validateVolumeTransition dst = true) :
      Committed env t (.updateVolumeState id dst) (t.setVolume id fun v => { v with state := dst })
  | volumeHandled (id : VolumeID) (handle : StringMap) :
      Committed env t (.updateVolumeHandle id handle) (t.setVolume id fun v => { v with driverHandle := handle })
  | volumePinned (id : VolumeID) (node : NodeID) :
      Committed env t (.updateVolumeBoundNode id node) (t.setVolume id fun v => { v with boundNodeID := node })
  | volumeFailed (id : VolumeID) (reason : Bytes) :
      Committed env t (.updateVolumeFailure id reason) (t.updateVolumeFailure id reason)
  | volumeDeleted (id : VolumeID) (v : Volume) (hv : t.volumes.lookup id = some v)
    (hreleased : v.state = .released)
      (hfree : t.volumeIsReferred id = false) : Committed env t (.deleteVolume id)
        { t with volumes := t.volumes.delete id }
  | mounted (v : VolumeID) (i : InstanceID) (path : Bytes) (ro : Bool) (hv : t.volumes.lookup v ≠ none)
      (hi : t.instances.lookup i ≠ none) :
      Committed env t (.bindMount v i path ro) { t with mounts := t.mounts.add (newMount v i path ro) }
  | mountMoved (id : MountID) (dst : VolumeMountState) :
      Committed env t (.updateMountState id dst) (t.updateMountState id dst)

theorem map_eq_ok {ε α β : Type} {x : Except ε α} {f : α → β} {b : β}
    (h : x.map f = .ok b) : ∃ a, x = .ok a ∧ f a = b := by
  cases x with
  | error => cases h
  | ok a =>
    cases h
    exact ⟨a, rfl, rfl⟩

theorem any_eq_some {α : Type} {o : Option α} {p : α → Bool}
    (h : o.any p = true) : ∃ a, o = some a ∧ p a = true := by
  cases o with
  | none => cases h
  | some a => exact ⟨a, rfl, h⟩

theorem Write.committed {env : Env} {t t' : Tables} {wr : Write} {ans : wr.Ans}
    (hcom : wr.commit env t = .ok (t', ans)) :
    Committed env t wr t' := by
  cases wr with
  | createNode n =>
    have hcreate : t.createNode env n = .ok (t', ans) := hcom
    rcases t.createNode_cases env n with ⟨nodes, hok, -, hins⟩ | ⟨⟨e, herr⟩, -⟩
    · rw [hok] at hcreate
      cases hcreate
      exact .nodeCreated n nodes hins
    · rw [herr] at hcreate
      cases hcreate
  | writeNodeState id src dst =>
    obtain ⟨u, hu, hpair⟩ := map_eq_ok hcom
    cases hpair
    unfold Tables.writeNodeState at hu
    split_ifs at hu with hsrc
    cases hu
    exact .nodeMoved id src dst hsrc
  | writeHeartbeat id ram cpu state =>
    cases hcom
    exact .nodeReported id ram cpu state
  | allocateResources i node cpu ram gpu =>
    obtain ⟨u, hu, hpair⟩ := map_eq_ok hcom
    cases hpair
    rcases t.allocateResources_cases env i node cpu ram gpu with ⟨u', hok, hadmits, -, hbook⟩ | ⟨⟨e, herr⟩, -⟩
    · rw [hok] at hu
      cases hu
      exact .booked i node cpu ram gpu _ hadmits hbook
    · rw [herr] at hu
      cases hu
  | releaseAllocation i =>
    cases hcom
    rcases t.releaseAllocation_cases env i with ⟨hnone, hsame⟩ | ⟨a, ha, hfreed⟩
    · rw [hsame]
      exact .nothingFreed i hnone
    · exact .freed i a _ ha hfreed
  | createInstance service path =>
    have hcreate : t.createInstance env service path = .ok (t', ans) := hcom
    unfold Tables.createInstance at hcreate
    split_ifs at hcreate
    split at hcreate
    · cases hcreate
    · rename_i instances hins
      cases hcreate
      exact .created service path instances hins
  | writeInstanceState id src dst =>
    obtain ⟨u, hu, hpair⟩ := map_eq_ok hcom
    cases hpair
    unfold Tables.writeInstanceState at hu
    split_ifs at hu with hsrc
    cases hu
    obtain ⟨row, hrow, hst⟩ := any_eq_some hsrc
    exact .moved id src dst row hrow (of_decide_eq_true hst)
  | writeAssignment id node src =>
    obtain ⟨u, hu, hpair⟩ := map_eq_ok hcom
    cases hpair
    unfold Tables.writeAssignment at hu
    split_ifs at hu with hsrc
    cases hu
    obtain ⟨row, hrow, hst⟩ := any_eq_some hsrc
    exact .assigned id node src row hrow (of_decide_eq_true hst)
  | updateRuntimeHandle id handle =>
    cases hcom
    exact .stored id handle
  | incrementRetryCount id =>
    cases hcom
    exact .retried id
  | updateVolumeState id dst =>
    obtain ⟨u, hu, hpair⟩ := map_eq_ok hcom
    cases hpair
    unfold Tables.updateVolumeState at hu
    split at hu
    · cases hu
    · rename_i v hv
      split_ifs at hu with hval
      cases hu
      exact .volumeMoved id dst v hv hval
  | updateVolumeHandle id handle =>
    cases hcom
    exact .volumeHandled id handle
  | updateVolumeBoundNode id node =>
    cases hcom
    exact .volumePinned id node
  | updateVolumeFailure id reason =>
    cases hcom
    exact .volumeFailed id reason
  | deleteVolume id =>
    obtain ⟨u, hu, hpair⟩ := map_eq_ok hcom
    cases hpair
    unfold Tables.deleteVolume at hu
    split at hu
    · cases hu
    · rename_i v hv
      split_ifs at hu with hst hreferred
      cases hu
      exact .volumeDeleted id v hv (not_not.1 hst) (Bool.eq_false_iff.2 hreferred)
  | bindMount v i path ro =>
    have hbind : t.bindMount v i path ro = .ok (t', ans) := hcom
    unfold Tables.bindMount at hbind
    split_ifs at hbind with hmiss
    cases hbind
    obtain ⟨hv, hi⟩ := not_or.1 hmiss
    exact .mounted v i path ro hv hi
  | updateMountState id dst =>
    cases hcom
    exact .mountMoved id dst

variable (env : Env) (op : Op) (w : World)

theorem act_cases : (act env op w).1.tables = w.tables ∨
      ∃ wr, op = .write wr ∧ env.fails = false ∧ Committed env w.tables wr (act env op w).1.tables := by
  cases op with
  | write wr =>
    show (wr.exec env w.tables).1 = w.tables ∨ ∃ wr', Op.write wr = .write wr' ∧ env.fails = false ∧
      Committed env w.tables wr' (wr.exec env w.tables).1
    rcases wr.exec_cases env w.tables with ⟨e, hexec⟩ | ⟨_, _, hok, hcom, hexec⟩
    · rw [hexec]
      exact .inl rfl
    · rw [hexec]
      exact .inr ⟨wr, rfl, hok, Write.committed hcom⟩
  | now | query | adapter | driver | lookup => exact .inl rfl

variable {env op w} in
@[elab_as_elim] theorem act_rule {P : Tables → Prop} (hsame : P w.tables)
    (hwr : ∀ wr t', op = .write wr → env.fails = false → Committed env w.tables wr t' → P t') :
    P (act env op w).1.tables := by
  rcases act_cases env op w with h | ⟨wr, hop, hok, hcom⟩
  · rw [h]
    exact hsame
  · exact hwr wr _ hop hok hcom

/-! ## Events -/

def marks (env : Env) (op : Op) (w : World) : List Event :=
  match op with
  | .write wr => wr.events (wr.exec env w.tables).2
  | .adapter c => c.events env
  | _ => []

theorem events_act : (act env op w).1.events = w.events ++ marks env op w := by
  cases op with
  | write | adapter => rfl
  | now | query | driver | lookup => exact (List.append_nil _).symm

theorem marks_write {env : Env} {wr : Write} {w : World} {e : Event}
    (h : e ∈ marks env (.write wr) w) : ∃ i, e = .declared i := by
  have hmem : e ∈ wr.events (wr.exec env w.tables).2 := h
  unfold Write.events at hmem
  split at hmem
  · exact ⟨_, List.mem_singleton.1 hmem⟩
  · exact ⟨_, List.mem_singleton.1 hmem⟩
  · cases hmem

theorem Committed.services {env : Env} {t t' : Tables} {wr : Write} (h : Committed env t wr t') :
    t'.services = t.services := by
  cases h with
  | booked _ _ _ _ _ _ _ hbook =>
    obtain ⟨_, -, rfl⟩ := hbook
    rfl
  | freed _ _ _ _ hfreed =>
    obtain rfl := hfreed
    rfl
  | _ => rfl

theorem services_act : (act env op w).1.tables.services = w.tables.services := by
  rcases act_cases env op w with hsame | ⟨_, -, -, hcom⟩
  · rw [hsame]
  · exact hcom.services

/-! ## Rows -/

/-- **What a step can do to an instance.** -/
@[grind cases] inductive InstanceEffect (env : Env) (op : Op) (i : InstanceID) :
    Option ServiceInstance → Option ServiceInstance → Prop
  | unchanged (row : Option ServiceInstance) : InstanceEffect env op i row row
  | created (service : ServiceID) (path : Bytes) (hop : op = .write (.createInstance service path))
    (hid : i = env.newID) :
      InstanceEffect env op i none (some (newInstanceRow env service path))
  | moved (row : ServiceInstance) (dst : InstanceState) (hop : op = .write (.writeInstanceState i row.state dst))
      (hok : env.fails = false) :
      InstanceEffect env op i (some row) (some { row with state := dst, updatedAt := unix env.now })
  | assigned (row : ServiceInstance) (node : NodeID) (hop : op = .write (.writeAssignment i node row.state))
      (hok : env.fails = false) : InstanceEffect env op i (some row)
        (some { row with nodeID := node, state := .scheduled, updatedAt := unix env.now })
  | stored (row : ServiceInstance) (handle : StringMap) (hop : op = .write (.updateRuntimeHandle i handle))
      (hok : env.fails = false) :
      InstanceEffect env op i (some row) (some { row with runtimeHandle := handle, updatedAt := unix env.now })
  | retried (row : ServiceInstance) (hop : op = .write (.incrementRetryCount i)) (hok : env.fails = false) :
      InstanceEffect env op i (some row)
        (some { row with retryCount := row.retryCount + 1, state := .declared, updatedAt := unix env.now })

namespace Tables

theorem lookup_setInstance (t : Tables) (id : InstanceID) (f : ServiceInstance → ServiceInstance)
    (i : InstanceID) :
    (t.setInstance id f).instances.lookup i = (t.instances.lookup i).map fun row =>
      if i = id then f row else row := by
  show (t.instances.modify (fun k _ => decide (k = id)) f).lookup i = _
  rw [lookup_modify]
  simp only [decide_eq_true_eq]

theorem lookup_setInstance_self {t : Tables} {id : InstanceID} {row : ServiceInstance}
    (h : t.instances.lookup id = some row)
    (f : ServiceInstance → ServiceInstance) : (t.setInstance id f).instances.lookup id = some (f row) := by
  rw [lookup_setInstance, h]
  simp

theorem lookup_setInstance_of_ne {t : Tables} {id i : InstanceID} (h : i ≠ id)
    (f : ServiceInstance → ServiceInstance) :
    (t.setInstance id f).instances.lookup i = t.instances.lookup i := by
  rw [lookup_setInstance]
  simp [h]

end Tables

variable (t : Tables) (id : VolumeID) (f : Volume → Volume) (env : Env) (op : Op) (w : World) (m : MountID)
  (v : VolumeID) (i : InstanceID)

theorem act_instanceEffect :
    InstanceEffect env op i (w.tables.instances.lookup i) ((act env op w).1.tables.instances.lookup i) := by
  refine act_rule (.unchanged _) ?_
  rintro _ t' rfl hok hcom
  cases hcom with
  | booked _ _ _ _ _ _ _ hbook =>
    obtain ⟨_, -, rfl⟩ := hbook
    exact .unchanged _
  | freed _ _ _ _ hfreed =>
    obtain rfl := hfreed
    exact .unchanged _
  | created service path instances hins =>
    rw [lookup_insert hins]
    split_ifs with hi
    · rw [hi, lookup_of_insert hins]
      exact .created service path rfl rfl
    · exact .unchanged _
  | moved _ _ dst row hrow hsrc =>
    refine modify_rule .unchanged fun row' hi hrow' => ?_
    subst hi
    obtain rfl := mem_unique hrow hrow'
    subst hsrc
    exact .moved row dst rfl hok
  | assigned _ node _ row hrow hsrc =>
    refine modify_rule .unchanged fun row' hi hrow' => ?_
    subst hi
    obtain rfl := mem_unique hrow hrow'
    subst hsrc
    exact .assigned row node rfl hok
  | stored _ handle =>
    refine modify_rule .unchanged fun row hi _ => ?_
    subst hi
    exact .stored row handle rfl hok
  | retried =>
    refine modify_rule .unchanged fun row hi _ => ?_
    subst hi
    exact .retried row rfl hok
  | _ => exact .unchanged _

/-- **What a step can do to the allocation of an instance.** -/
@[grind cases] inductive AllocationEffect (env : Env) (op : Op) (i : InstanceID) :
    Option Allocation → Option Allocation → Prop
  | unchanged (row : Option Allocation) : AllocationEffect env op i row row
  | booked (node : NodeID) (cpu ram : ℤ) (gpu : Option ℤ)
    (hop : op = .write (.allocateResources i node cpu ram gpu)) :
      AllocationEffect env op i none (some (newAllocation env node cpu ram gpu))
  | freed (a : Allocation) (hop : op = .write (.releaseAllocation i)) :
      AllocationEffect env op i (some a) (some { a with releasedAt := some (unix env.now) })

theorem act_allocationEffect :
    AllocationEffect env op i (w.tables.allocations.lookup i) ((act env op w).1.tables.allocations.lookup i) := by
  refine act_rule (.unchanged _) ?_
  rintro _ t' rfl - hcom
  cases hcom with
  | booked _ node cpu ram gpu _ hadmits hbook =>
    rw [hbook.lookup_allocations]
    split_ifs with hi
    · rw [hi, hadmits.fresh]
      exact .booked node cpu ram gpu rfl
    · exact .unchanged _
  | freed j a _ ha hfreed =>
    rw [hfreed.lookup_allocations]
    by_cases hi : i = j
    · subst hi
      rw [(activeAllocation_eq_some.1 ha).1]
      simp only [map_some, if_true]
      exact .freed a rfl
    · simp only [hi, if_false, map_id']
      exact .unchanged _
  | _ => exact .unchanged _

/-- **What a step can do to a mount.** -/
@[grind cases] inductive MountEffect (env : Env) (op : Op) (m : MountID) : Option VolumeMount →
    Option VolumeMount → Prop
  | unchanged (row : Option VolumeMount) : MountEffect env op m row row
  | mounted (v : VolumeID) (i : InstanceID) (path : Bytes) (ro : Bool)
    (hop : op = .write (.bindMount v i path ro)) :
      MountEffect env op m none (some (newMount v i path ro))
  | moved (row : VolumeMount) (dst : VolumeMountState) (hop : op = .write (.updateMountState m dst)) :
      MountEffect env op m (some row) (some { row with state := dst })

theorem Tables.lookup_updateMountState (id : MountID) (dst : VolumeMountState) (m : MountID) :
    (t.updateMountState id dst).mounts.lookup m =
      (t.mounts.lookup m).map fun row => if m = id then { row with state := dst } else row := by
  show (t.mounts.modify (fun k _ => decide (k = id)) _).lookup m = _
  rw [lookup_modify]
  simp only [decide_eq_true_eq]

theorem act_mountEffect :
    MountEffect env op m (w.tables.mounts.lookup m) ((act env op w).1.tables.mounts.lookup m) := by
  refine act_rule (.unchanged _) ?_
  rintro _ t' rfl - hcom
  cases hcom with
  | booked _ _ _ _ _ _ _ hbook =>
    obtain ⟨_, -, rfl⟩ := hbook
    exact .unchanged _
  | freed _ _ _ _ hfreed =>
    obtain rfl := hfreed
    exact .unchanged _
  | mounted v i path ro =>
    rw [lookup_add]
    split_ifs with hm
    · rw [hm, lookup_nextKey]
      exact .mounted v i path ro rfl
    · exact .unchanged _
  | mountMoved _ dst =>
    refine modify_rule .unchanged fun row hm _ => ?_
    subst hm
    exact .moved row dst rfl
  | _ => exact .unchanged _

/-- **What a step can do to a volume.** -/
@[grind cases] inductive VolumeEffect (env : Env) (op : Op) (v : VolumeID) : Option Volume → Option Volume → Prop
  | unchanged (row : Option Volume) : VolumeEffect env op v row row
  | moved (row : Volume) (dst : VolumeState) (hop : op = .write (.updateVolumeState v dst))
      (hvalid : row.state.validateVolumeTransition dst = true) :
      VolumeEffect env op v (some row) (some { row with state := dst })
  | handled (row : Volume) (handle : StringMap) (hop : op = .write (.updateVolumeHandle v handle)) :
      VolumeEffect env op v (some row) (some { row with driverHandle := handle })
  | pinned (row : Volume) (node : NodeID) (hop : op = .write (.updateVolumeBoundNode v node)) :
      VolumeEffect env op v (some row) (some { row with boundNodeID := node })
  | failed (row : Volume) (reason : Bytes) (hop : op = .write (.updateVolumeFailure v reason)) :
      VolumeEffect env op v (some row) (some { row with state := .failed, failureReason := reason })
  | deleted (row : Volume) (hop : op = .write (.deleteVolume v)) (hreleased : row.state = .released) :
      VolumeEffect env op v (some row) none

theorem Tables.lookup_setVolume :
    (t.setVolume id f).volumes.lookup v = (t.volumes.lookup v).map fun row => if v = id then f row else row := by
  show (t.volumes.modify (fun k _ => decide (k = id)) f).lookup v = _
  rw [lookup_modify]
  simp only [decide_eq_true_eq]

theorem act_volumeEffect : VolumeEffect env op v (w.tables.volumes.lookup v)
    ((act env op w).1.tables.volumes.lookup v) := by
  refine act_rule (.unchanged _) ?_
  rintro _ t' rfl - hcom
  cases hcom with
  | booked _ _ _ _ _ _ _ hbook =>
    obtain ⟨_, -, rfl⟩ := hbook
    exact .unchanged _
  | freed _ _ _ _ hfreed =>
    obtain rfl := hfreed
    exact .unchanged _
  | volumeMoved _ dst row hrow hval =>
    refine modify_rule .unchanged fun _ hv hrow' => ?_
    subst hv
    obtain rfl := mem_unique hrow hrow'
    exact .moved row dst rfl hval
  | volumeHandled _ handle =>
    refine modify_rule .unchanged fun row hv _ => ?_
    subst hv
    exact .handled row handle rfl
  | volumePinned _ node =>
    refine modify_rule .unchanged fun row hv _ => ?_
    subst hv
    exact .pinned row node rfl
  | volumeFailed _ reason =>
    refine modify_rule .unchanged fun row hv _ => ?_
    subst hv
    exact .failed row reason rfl
  | volumeDeleted id row hrow hrel =>
    rw [lookup_delete]
    split_ifs with hv
    · rw [hv, hrow]
      exact .deleted row rfl hrel
    · exact .unchanged _
  | _ => exact .unchanged _

end Ocelot.VirtualServer
