/-
# What is under way when a pass is cut off.

A pass of the reconciler can be cut off between any two operations.  Passes in which nothing fails
then take every instance and volume that was under way to its goal, unless the pass was cut off
between the two writes of `startInstance` or `provisionVolume`.
-/
import Ocelot.VirtualServer.Mounting
import Ocelot.VirtualServer.Runtimes

namespace Ocelot.VirtualServer

open List Option Tables Table Sample Query Op Write Run Worker
open Tracker (Bytes lit)
open Prog (Issues Wp)

/-! ## What every operation keeps -/

/-- The services, the names of the volumes that are left, and their manifests. -/
structure Trail (w u : World) : Prop where
  services : u.tables.services = w.tables.services
  names : ∀ nspace name id vol, w.tables.getVolumeByName nspace name = some (id, vol) →
    u.tables.volumes.lookup id = none ∨ ∃ vol', u.tables.getVolumeByName nspace name = some (id, vol')
  manifests : ∀ id vol vol', w.tables.volumes.lookup id = some vol →
    u.tables.volumes.lookup id = some vol' → vol'.manifest = vol.manifest

section

variable {env : Env} {op : Op} {w u : World} {nspace name : Bytes} {id : VolumeID} {vol : Volume}

theorem Tables.getVolumeByName_setVolume {t : Tables} {f : Volume → Volume} {v : VolumeID}
    (hf : ∀ vol, (f vol).manifest = vol.manifest) (h : t.getVolumeByName nspace name = some (id, vol)) :
    ∃ vol', (t.setVolume v f).getVolumeByName nspace name = some (id, vol') := by
  unfold getVolumeByName at h ⊢
  simp only [setVolume, Table.modify, find?_map]
  refine ⟨_, (congrArg (Option.map _) (Eq.trans ?_ h)).trans (Option.map_some _ _)⟩
  congr 1
  funext e
  simp only [Function.comp_apply]
  split_ifs
  · rw [hf]
  · rfl

theorem Tables.getVolumeByName_delete {t : Tables} {v : VolumeID} (hv : id ≠ v)
    (h : t.getVolumeByName nspace name = some (id, vol)) :
    ({ t with volumes := t.volumes.delete v } : Tables).getVolumeByName nspace name = some (id, vol) := by
  show (t.volumes.rows.filter fun e => decide (e.1 ≠ v)).find? _ = _
  obtain ⟨hp, pre, post, hrows, hnone⟩ := find?_eq_some_iff_append.1 h
  rw [find?_filter, find?_eq_some_iff_append]
  refine ⟨?_, pre, post, hrows, fun e he => ?_⟩
  · simp [hv] at hp ⊢
    exact hp
  · have hnot := hnone e he
    simp at hnot ⊢
    exact .inr hnot

theorem getVolumeByName_act (h : u.tables.getVolumeByName nspace name = some (id, vol)) :
    (act env op u).1.tables.volumes.lookup id = none ∨
      ∃ vol', (act env op u).1.tables.getVolumeByName nspace name = some (id, vol') := by
  refine act_rule (.inr ⟨vol, h⟩) ?_
  rintro _ t' rfl - hcom
  cases hcom with
  | booked _ _ _ _ _ _ _ hbook =>
    obtain ⟨_, -, rfl⟩ := hbook
    exact .inr ⟨vol, h⟩
  | freed _ _ _ _ hfreed =>
    obtain rfl := hfreed
    exact .inr ⟨vol, h⟩
  | volumeMoved | volumeHandled | volumePinned | volumeFailed =>
    exact .inr (getVolumeByName_setVolume (fun _ => rfl) h)
  | volumeDeleted v =>
    by_cases hid : id = v
    · subst hid
      left
      rw [lookup_delete, if_pos rfl]
    · exact .inr ⟨vol, getVolumeByName_delete hid h⟩
  | _ => exact .inr ⟨vol, h⟩

theorem Trail.refl (w : World) : Trail w w where
  services := rfl
  names _ _ _ vol h := .inr ⟨vol, h⟩
  manifests _ _ _ h h' := by rw [mem_unique h h']

theorem Trail.act (h : Trail w u) : Trail w (act env op u).1 where
  services := (services_act env op u).trans h.services
  names nspace name id vol hname := by
    rcases h.names nspace name id vol hname with hgone | ⟨vol', hname'⟩
    · left
      have heff := act_volumeEffect env op u id
      rw [hgone] at heff
      generalize (VirtualServer.act env op u).1.tables.volumes.lookup id = post at heff ⊢
      cases heff
      rfl
    · exact getVolumeByName_act hname'
  manifests id vol vol' hvol hvol' := by
    have heff := act_volumeEffect env op u id
    rw [hvol'] at heff
    generalize hbef : u.tables.volumes.lookup id = pre at heff
    cases heff with
    | unchanged => exact h.manifests id vol vol' hvol hbef
    | moved row | handled row | pinned row | failed row => exact h.manifests id vol row hvol hbef

end

/-- **What the environment does**: nothing fails, what is inspected is up, no volume is used up, and
every ready node was heard of. -/
def Calm {F : Type} (cfg : Config F) (env : Env) (op : Op) (w : World) : Prop := env.fails = false ∧
    match op with
    | .adapter (.inspect _) | .adapter (.health _) => env.up = true
    | .driver _ (.stat _) => ∀ x ∈ w.tables.volumes.rows, x.2.manifest.spec.capacityMiB ≤ 0 ∨
        env.usedMiB < x.2.manifest.spec.capacityMiB
    | .now => ∀ x ∈ w.tables.nodes.rows, x.2.state = .ready →
        ∀ beat ∈ x.2.lastHeartbeat, env.now - beat * second ≤ cfg.nodeTTL
    | _ => True

instance {F : Type} (cfg : Config F) (env : Env) (op : Op) (w : World) : Decidable (Calm cfg env op w) := by
  refine @instDecidableAnd _ _ inferInstance ?_
  cases op with
  | adapter c | driver _ c => cases c <;> dsimp only <;> infer_instance
  | _ =>
    dsimp only
    infer_instance

/-! ## The volumes -/

def Tables.Available (t : Tables) (v : VolumeID) : Prop :=
  ∃ vol, t.volumes.lookup v = some vol ∧ (vol.state = .ready ∨ vol.state = .bound)

/-- The operations that leave an available volume `v` available. -/
def Op.spares (v : VolumeID) : Op → Bool
  | .write (.updateVolumeState v' dst) => v' ≠ v || dst = .ready || dst = .bound
  | .write (.updateVolumeFailure v' _) | .write (.deleteVolume v') => v' ≠ v
  | _ => true

section

variable {F : Type} {cfg : Config F} {env : Env} {op : Op} {u : World} {v : VolumeID} {V : VolumeID → Prop}

theorem Tables.Available.act (h : u.tables.Available v) (hop : op.spares v = true) :
    (act env op u).1.tables.Available v := by
  obtain ⟨vol, hvol, hst⟩ := h
  have heff := act_volumeEffect env op u v
  rw [hvol] at heff
  unfold Available
  generalize (VirtualServer.act env op u).1.tables.volumes.lookup v = after at heff ⊢
  cases heff with
  | unchanged => exact ⟨vol, rfl, hst⟩
  | moved _ _ hwr =>
    subst hwr
    simp only [spares, ne_eq, not_true_eq_false, decide_false, Bool.false_or, Bool.or_eq_true,
      decide_eq_true_eq] at hop
    exact ⟨_, rfl, hop⟩
  | handled | pinned => exact ⟨_, rfl, hst⟩
  | failed _ _ hwr | deleted _ hwr =>
    subst hwr
    simp [spares] at hop

def Op.isOwnVolume (v : VolumeID) : Op → Bool
  | .write (.updateVolumeState v' _) | .write (.updateVolumeHandle v' _) | .write (.updateVolumeFailure v' _)
  | .write (.deleteVolume v') => v' = v
  | op => op.isQuiet

theorem Op.isOwnVolume_of_isQuiet {op : Op} (h : op.isQuiet = true) : op.isOwnVolume v = true := by
  cases op <;> first | rfl | cases h

variable {v' : VolumeID} {x : VolumeID × Volume} {state : VolumeState} {w : World}

theorem lookup_volumes_of_isOwnVolume (hop : op.isOwnVolume v = true) (hv : v' ≠ v) :
    (act env op u).1.tables.volumes.lookup v' = u.tables.volumes.lookup v' := by
  have heff := act_volumeEffect env op u v'
  generalize (act env op u).1.tables.volumes.lookup v' = post, u.tables.volumes.lookup v' = pre at heff ⊢
  cases heff with
  | unchanged => rfl
  | pinned _ _ hwr =>
    subst hwr
    cases hop
  | moved _ _ hwr | handled _ _ hwr | failed _ _ hwr | deleted _ hwr =>
    subst hwr
    exact absurd (of_decide_eq_true hop) hv

theorem act_updateVolumeState {dst : VolumeState} {vol : Volume} (hok : env.fails = false)
    (hvol : u.tables.volumes.lookup v = some vol) (hval : vol.state.validateVolumeTransition dst = true) :
    act env (.write (.updateVolumeState v dst)) u =
      ({ u with tables := u.tables.setVolume v fun vol => { vol with state := dst } }, .ok ()) := by
  have hcom : (Write.updateVolumeState v dst).commit env u.tables =
      .ok (u.tables.setVolume v fun vol => { vol with state := dst }, ()) := by
    simp [Write.commit, Tables.updateVolumeState, hvol, hval, Except.map]
  simp only [act, Write.exec_of_ok hok hcom, Write.events, append_nil]

theorem wp_provisionVolume {drv : Bytes} (hrow : u.tables.volumes.lookup x.1 = some x.2)
    (hst : x.2.state = .declared) (hdrv : cfg.classDrivers x.2.manifest.spec.cls = some drv) :
    Wp act (Calm cfg) (fun _ => True) (provisionVolume cfg x) (fun _ u => u.tables.Available x.1) u := by
  unfold provisionVolume
  rw [hdrv]
  refine .perform fun _ hG => ⟨trivial, ?_⟩
  rw [act_updateVolumeState hG.1 hrow (by rw [hst]; rfl)]
  refine wp_driver trivial fun env' hG' => ?_
  have hans : (DriverCall.create x.2.manifest.nspace x.2.manifest.name x.2.manifest.spec).answer
      env' = .ok env'.handle := by
    show env'.reply env'.handle = .ok env'.handle
    simp [Env.reply, hG'.1]
  rw [hans]
  refine .seq (wp_attempt fun env2 hG2 => ⟨trivial, ?_⟩)
  have hact : ∀ w : World, (act env2 (.write (.updateVolumeHandle x.1 env'.handle)) w).1 =
      { w with tables := w.tables.setVolume x.1 fun vol => { vol with driverHandle := env'.handle } } := by
    intro w
    simp only [act, exec_of_ok hG2.1 (w := .updateVolumeHandle x.1 env'.handle) rfl, events, append_nil]
  rw [hact]
  refine wp_attempt fun _ hG3 => ⟨trivial, ?_⟩
  rw [act_updateVolumeState hG3.1 (by rw [lookup_setVolume, lookup_setVolume, hrow]; rfl) (by simp; rfl)]
  refine ⟨_, by rw [lookup_setVolume, lookup_setVolume, lookup_setVolume, hrow]; rfl, .inl ?_⟩
  simp

theorem mem_listVolumesByState {t : Tables} :
    x ∈ t.listVolumesByState env state ↔ t.volumes.lookup x.1 = some x.2 ∧ x.2.state = state := by
  rw [Tables.listVolumesByState, mem_ordered, decide_eq_true_eq]

theorem wp_volumesIn {k : List (VolumeID × Volume) → Program Unit} {R : Unit → World → Prop}
    (h : ∀ env, Wp act (Calm cfg) (fun _ => True) (k (u.tables.listVolumesByState env state)) R u) :
    Wp act (Calm cfg) (fun _ => True) (volumesIn state >>= k) R u := by
  refine .perform fun env hG => ⟨trivial, ?_⟩
  have hread : (act env (.query (.listVolumesByState state)) u).2 = .ok (u.tables.listVolumesByState env state) :=
    eval_of_find (q := .listVolumesByState state) hG.1 rfl
  rw [hread]
  exact h env

theorem available_of_isOwnVolume (hop : op.isOwnVolume v = true) (hv : v' ≠ v)
    (h : u.tables.Available v') : (act env op u).1.tables.Available v' := by
  unfold Available
  rw [lookup_volumes_of_isOwnVolume hop hv]
  exact h

theorem own_provisionVolume (x : VolumeID × Volume) :
    Issues (fun op => op.isOwnVolume x.1 = true) (provisionVolume cfg x) :=
  issues_provisionVolume (fun _ => isOwnVolume_of_isQuiet) (fun _ => decide_eq_true rfl)
    (fun _ => decide_eq_true rfl)
    fun _ => decide_eq_true rfl

/-- Every volume is available, or declared with a driver to provision it. -/
def Provided (cfg : Config F) (V : VolumeID → Prop) (t : Tables) : Prop := ∀ v, V v →
    t.Available v ∨ ∃ vol drv, t.volumes.lookup v = some vol ∧ vol.state = .declared ∧
      cfg.classDrivers vol.manifest.spec.cls = some drv

theorem wp_provisionVolumes (hV : Provided cfg V w.tables) :
    Wp act (Calm cfg) (fun _ => True)
    (Prog.forEach (provisionVolume cfg) (w.tables.listVolumesByState env .declared))
      (fun _ u => ∀ v, V v → u.tables.Available v) w := by
  have hdecl : ∀ x ∈ w.tables.listVolumesByState env .declared, ¬ w.tables.Available x.1 := by
    rintro x hx ⟨vol, hvol, hst⟩
    obtain ⟨hrow, hx⟩ := mem_listVolumesByState.1 hx
    obtain rfl := mem_unique hrow hvol
    rw [hx] at hst
    rcases hst with h | h <;> cases h
  have hloop : Wp act (Calm cfg) (fun _ => True)
    (.forEach (provisionVolume cfg) (w.tables.listVolumesByState env .declared))
      (fun _ u => (∀ v, w.tables.Available v → u.tables.Available v) ∧
        ∀ x ∈ w.tables.listVolumesByState env .declared, V x.1 → u.tables.Available x.1) w := by
    refine .forEach_each (F := fun x u => u.tables.volumes.lookup x.1 = some x.2)
      pairwise_fst_ordered own_provisionVolume
      ?_ ?_ ?_ (fun _ h => h) fun x hx => (mem_listVolumesByState.1 hx).1
    · intro x y env' op u hne _ hop hrow
      rw [lookup_volumes_of_isOwnVolume hop hne]
      exact hrow
    · exact fun x y env' op u hne _ hop hx hVx => available_of_isOwnVolume hop hne.symm (hx hVx)
    · intro x hx u hu hrow
      have hothers : ∀ env' op u, Calm cfg env' op u → op.isOwnVolume x.1 = true →
          (∀ v, w.tables.Available v → u.tables.Available v) → ∀ v, w.tables.Available v →
              (act env' op u).1.tables.Available v :=
        fun env' op u _ hop hu v hv => available_of_isOwnVolume hop (fun h => hdecl x hx (h ▸ hv)) (hu v hv)
      by_cases hVx : V x.1
      · obtain ⟨hrow0, hst⟩ := mem_listVolumesByState.1 hx
        rcases hV x.1 hVx with h | ⟨vol, drv, hvol, -, hdrv⟩
        · exact absurd h (hdecl x hx)
        · obtain rfl := mem_unique hrow0 hvol
          exact ((wp_provisionVolume hrow hst hdrv).frame (own_provisionVolume x) hothers hu).mono
            fun _ _ h => ⟨h.2, fun _ => h.1⟩
      · exact (Wp.of_issues (own_provisionVolume x) hothers (fun _ _ => trivial) hu).mono fun _ _
          h => ⟨h, fun h => absurd h hVx⟩
  refine hloop.mono fun _ u hu v hv => ?_
  rcases hV v hv with h | ⟨vol, drv, hvol, hst, -⟩
  · exact hu.1 v h
  · exact hu.2 (v, vol) (mem_listVolumesByState.2 ⟨hvol, hst⟩) hv

theorem wp_checkQuota {R : World → Prop}
    (hrow : ∃ vol, u.tables.volumes.lookup x.1 = some vol ∧ vol.manifest = x.2.manifest)
    (hR : R u) (hbound : ∀ env, R (act env (.write (.updateVolumeState x.1 .bound)) u).1) :
    Wp act (Calm cfg) (fun _ => True) (checkQuota cfg x) (fun _ => R) u := by
  unfold checkQuota
  split
  · exact hR
  · refine wp_driver trivial fun env hG => ?_
    split
    · exact hR
    · exact hR
    · rename_i used hans
      obtain ⟨vol, hvol, hman⟩ := hrow
      have hroom := hG.2 _ (lookup_eq_some_iff.1 hvol)
      have hused : used = env.usedMiB := by
        change env.reply _ = .ok (some used) at hans
        simp only [Env.reply, hG.1, Bool.false_eq_true, if_false, Except.ok.injEq] at hans
        split_ifs at hans
        exact (some.inj hans).symm
      have hunder : ¬ (0 < x.2.manifest.spec.capacityMiB ∧ x.2.manifest.spec.capacityMiB ≤ used) := by
        rw [hman, ← hused] at hroom
        omega
      refine .ite (fun hover => ?_) fun _ => .ite (fun _ => ?_) fun _ => hR
      · simp [hunder] at hover
      · exact wp_attempt fun env' _ => ⟨trivial, hbound env'⟩

theorem wp_reconcileVolumes (hV : Provided cfg V w.tables) :
    Wp act (Calm cfg) (fun _ => True) (reconcileVolumes cfg) (fun _ u => ∀ v, V v → u.tables.Available v) w := by
  refine wp_query trivial fun env hG => ?_
  rw [eval_of_find hG.1 rfl]
  refine .seq ((wp_provisionVolumes hV).mono fun _ w hw => ?_)
  refine wp_volumesIn fun env => .seq ?_
  have hrel : Wp act (Calm cfg) (fun _ => True)
    (.forEach (releaseVolume cfg) (w.tables.listVolumesByState env .releasing))
      (fun _ u => ∀ v, V v → u.tables.Available v) w := by
    refine .forEach (fun x hx u hu => ?_) hw
    refine .of_issues
      (issues_releaseVolume (fun _ => isOwnVolume_of_isQuiet)
      (decide_eq_true rfl) (fun _ => decide_eq_true rfl) (decide_eq_true rfl)) ?_ (fun _ _ => trivial) hu
    intro env' op u _ hop hu v hv
    refine available_of_isOwnVolume hop ?_ (hu v hv)
    rintro rfl
    -- the volume would be releasing
    obtain ⟨hrow, hst⟩ := mem_listVolumesByState.1 hx
    obtain ⟨vol, hvol, havailable⟩ := hw x.1 hv
    obtain rfl := mem_unique hrow hvol
    rw [hst] at havailable
    rcases havailable with h | h <;> cases h
  refine hrel.mono fun _ w hw => wp_volumesIn fun env => wp_volumesIn fun env' => ?_
  refine (Wp.forEach (I := fun u => (∀ v, V v → u.tables.Available v) ∧ Trail w u)
    (fun x hx u hu => ?_) ⟨hw, Trail.refl w⟩).mono
    fun _ u hu => hu.1
  have hrow : w.tables.volumes.lookup x.1 = some x.2 := by
    rcases mem_append.1 hx with hx | hx <;> exact (mem_listVolumesByState.1 hx).1
  by_cases hVx : V x.1
  · obtain ⟨vol, hvol, -⟩ := hu.1 x.1 hVx
    refine wp_checkQuota ⟨vol, hvol, hu.2.manifests x.1 x.2 vol hrow hvol⟩ hu fun env2 =>
      ⟨fun v hv => ?_, hu.2.act⟩
    exact (hu.1 v hv).act (by simp [spares])
  · refine .of_issues
      (issues_checkQuota (fun _ => isOwnVolume_of_isQuiet)
      fun _ => decide_eq_true rfl) (fun env2 op t _ hop ht => ⟨fun v hv => ?_, ht.2.act⟩) (fun _ _ => trivial) hu
    exact available_of_isOwnVolume hop (fun h => hVx (h ▸ hv)) (ht.1 v hv)

end

/-! ## A node for each instance -/

def Op.isUpkeep : Op → Bool
  | .write (.updateVolumeState _ _) | .write (.updateVolumeHandle _ _) | .write (.updateVolumeFailure _ _)
  | .write (.deleteVolume _) | .write (.createInstance _ _) => true
  | op => op.isQuiet

theorem Op.isUpkeep_of_isQuiet {op : Op} (h : op.isQuiet = true) : op.isUpkeep = true := by
  cases op <;> first | rfl | cases h

/-- What the steps before the sweeps keep besides: nodes, devices, pins and instances. -/
structure Stage (w u : World) : Prop extends Trail w u where
  nodes : u.tables.nodes = w.tables.nodes
  gpus : u.tables.gpus = w.tables.gpus
  pins : ∀ id vol vol', w.tables.volumes.lookup id = some vol →
    u.tables.volumes.lookup id = some vol' → vol'.boundNodeID = vol.boundNodeID
  instances : ∀ i row, w.tables.instances.lookup i = some row → u.tables.instances.lookup i = some row

section

variable {F : Type} {cfg : Config F} {env : Env} {op : Op} {w u : World}

theorem Stage.refl (w : World) : Stage w w where
  toTrail := Trail.refl w
  nodes := rfl
  gpus := rfl
  pins _ _ _ h h' := by rw [mem_unique h h']
  instances _ _ h := h

theorem nodes_of_isUpkeep (hop : op.isUpkeep = true) :
    (act env op u).1.tables.nodes = u.tables.nodes ∧ (act env op u).1.tables.gpus = u.tables.gpus := by
  refine act_rule ⟨rfl, rfl⟩ ?_
  rintro _ _ rfl - hcom
  cases hcom with
  | created | volumeMoved | volumeHandled | volumeFailed | volumeDeleted => exact ⟨rfl, rfl⟩
  | _ => cases hop

theorem Stage.act (h : Stage w u) (hop : op.isUpkeep = true) : Stage w (act env op u).1 where
  toTrail := h.toTrail.act
  nodes := (nodes_of_isUpkeep hop).1.trans h.nodes
  gpus := (nodes_of_isUpkeep hop).2.trans h.gpus
  pins id vol vol' hvol hvol' := by
    have heff := act_volumeEffect env op u id
    rw [hvol'] at heff
    generalize hbef : u.tables.volumes.lookup id = pre at heff
    cases heff with
    | unchanged => exact h.pins id vol vol' hvol hbef
    | moved row | handled row | failed row => exact h.pins id vol row hvol hbef
    | pinned _ _ hwr =>
      subst hwr
      cases hop
  instances i row hrow := by
    have heff := act_instanceEffect env op u i
    rw [h.instances i row hrow] at heff
    generalize (VirtualServer.act env op u).1.tables.instances.lookup i = post at heff ⊢
    cases heff with
    | unchanged => rfl
    | moved _ _ hwr | assigned _ _ hwr | stored _ _ hwr | retried _ hwr =>
      subst hwr
      cases hop

theorem wp_reconcileNodeHeartbeats {R : Unit → World → Prop} (hR : R () u) :
    Wp act (Calm cfg) (fun _ => True) (reconcileNodeHeartbeats cfg) R u := by
  refine wp_query trivial fun env hG => ?_
  rw [eval_of_find hG.1 rfl]
  refine .perform fun env' hG' => ⟨trivial, ?_⟩
  refine (Wp.forEach (I := fun t => t = u) (fun n hn t ht => ?_) rfl).mono fun _ t ht => ht ▸ hR
  subst ht
  obtain ⟨e, he, rfl⟩ := mem_map.1 hn
  obtain ⟨hrow, hready⟩ := mem_ordered.1 he
  unfold expireNode
  split
  · rfl
  · rename_i beat hbeat
    refine .ite (fun _ => rfl) fun hold => absurd ?_ hold
    exact hG'.2 e (lookup_eq_some_iff.1 hrow) (by simpa using hready) beat hbeat

end

/-- Some node passes the hard filter, and is where the pinned volumes of `m` are. -/
def Tables.Placeable {F : Type} (cfg : Config F) (t : Tables) (m : ServiceManifest) : Prop :=
  ∃ id row, t.nodes.lookup id = some row ∧ (∀ env, hardFilter (t.nodeOf env id row) m.spec = []) ∧
    ∀ pinned, t.Pins cfg m.nspace m.spec.mounts pinned → pinned = [] ∨ pinned = id

/-- The list the scheduler chooses from has one entry for each node of the table. -/
structure Surveyed (t : Tables) (nodes : List Node) : Prop where
  known : ∀ n ∈ nodes, t.nodes.lookup n.id ≠ none
  listed : ∀ id row, t.nodes.lookup id = some row → ∃ n ∈ nodes, n.id = id ∧
    ∃ env, ∀ spec, hardFilter n spec = hardFilter (t.nodeOf env id row) spec
  once : ∀ n ∈ nodes, ∀ n' ∈ nodes, n.id = n'.id → n = n'

section

variable {F : Type} [Float64 F] {env : Env} {u : World} {nodes : List Node} {t : Tables}

theorem surveyed_listNodes (t : Tables) (env : Env) : Surveyed t (t.listNodes env none) where
  known n hn := by
    obtain ⟨e, he, rfl⟩ := mem_map.1 hn
    show t.nodes.lookup e.1 ≠ none
    rw [(mem_ordered.1 he).1]
    exact some_ne_none _
  listed id row hrow := ⟨t.nodeOf env id row, mem_map.2 ⟨(id, row), mem_ordered.2 ⟨hrow, rfl⟩, rfl⟩,
    rfl, env, fun _ => rfl⟩
  once n hn n' hn' hid := by
    obtain ⟨e, he, rfl⟩ := mem_map.1 hn
    obtain ⟨e', he', rfl⟩ := mem_map.1 hn'
    have hsame : e.1 = e'.1 := hid
    have hrow := (mem_ordered.1 he).1
    rw [hsame, (mem_ordered.1 he').1] at hrow
    rw [hsame, some.inj hrow]

theorem Surveyed.map_active (h : Surveyed t nodes) (load : Node → ℕ) :
    Surveyed t (nodes.map fun n => { n with activeInstances := load n }) where
  known n hn := by
    obtain ⟨m, hm, rfl⟩ := mem_map.1 hn
    exact h.known m hm
  listed id row hrow := by
    obtain ⟨n, hn, hid, env, hpass⟩ := h.listed id row hrow
    exact ⟨_, mem_map.2 ⟨n, hn, rfl⟩, hid, env, hpass⟩
  once n hn n' hn' hid := by
    obtain ⟨m, hm, rfl⟩ := mem_map.1 hn
    obtain ⟨m', hm', rfl⟩ := mem_map.1 hn'
    rw [h.once m hm m' hm' hid]

theorem wp_countActive {G : Env → Op → World → Prop} {R : List Node → World → Prop} (h : Surveyed t nodes)
    (hR : ∀ nodes, Surveyed t nodes → R nodes u) : Wp act G (fun _ => True) (countActive nodes) R u := by
  refine wp_query trivial fun env _ => ?_
  cases (listInstances none).eval env u.tables with
  | error => exact hR _ h
  | ok => exact hR _ (h.map_active _)

theorem Surveyed.exists_eligible {n : Node} {spec : ServiceSpec} {pinned : NodeID}
    (h : Surveyed t nodes) (hn : n ∈ nodes)
    (hpass : hardFilter n spec = []) (hpin : pinned = [] ∨ pinned = n.id) :
    ∃ n' ∈ eligibleNodes nodes pinned, hardFilter n' spec = [] := by
  have hready : n ∈ nodes.filter fun n => n.state = .ready := by
    refine mem_filter.2 ⟨hn, decide_eq_true ?_⟩
    by_contra hst
    rw [hardFilter, if_pos hst] at hpass
    cases hpass
  unfold eligibleNodes
  split_ifs with hnone
  · exact ⟨n, hready, hpass⟩
  · obtain rfl := hpin.resolve_left hnone
    have hsome : ((nodes.filter fun n => n.state = .ready).find? fun m => m.id = n.id).isSome = true :=
      find?_isSome.2 ⟨n, hready, decide_eq_true rfl⟩
    obtain ⟨n', hfound⟩ := isSome_iff_exists.1 hsome
    have hid : n'.id = n.id := by simpa using find?_some hfound
    have hsame := h.once n' (mem_of_mem_filter (mem_of_find?_eq_some hfound)) n hn hid
    exact ⟨n', mem_toList.2 hfound, hsame ▸ hpass⟩

end

/-- What an instance needs on its way: its service, an adapter, a node and volumes out of `V`. -/
def Equipped {F : Type} (cfg : Config F) (V : VolumeID → Prop) (t : Tables) (row : ServiceInstance) : Prop :=
  ∃ svc ad, t.services.lookup row.serviceID = some svc ∧ cfg.adapters svc.manifest.spec.runtime = some ad ∧
    (row.state = .declared → t.Placeable cfg svc.manifest) ∧
    (row.state = .declared ∨ row.state = .scheduled → ∀ decl ∈ svc.manifest.spec.mounts, ∃ id vol drv,
      t.getVolumeByName svc.manifest.nspace decl.volumeName = some (id, vol) ∧ V id ∧
        cfg.classDrivers vol.manifest.spec.cls = some drv)

def Tables.Moved (t : Tables) (i : InstanceID) (inst : ServiceInstance) (dst : InstanceState) : Prop :=
  ∃ row, t.instances.lookup i = some row ∧ row.state = dst ∧ row.serviceID = inst.serviceID

def Op.isPlacing : Op → Bool
  | .write (.allocateResources _ _ _ _ _) | .write (.writeAssignment _ _ _)
  | .write (.writeInstanceState _ _ _) => true
  | op => op.isQuiet

theorem Op.isPlacing_of_isQuiet {op : Op} (h : op.isQuiet = true) : op.isPlacing = true := by
  cases op <;> first | rfl | cases h

section

variable {F : Type} {cfg : Config F} {env : Env} {op : Op} {w u : World} {nodes : List Node} {V : VolumeID → Prop}
  {i : InstanceID} {inst : ServiceInstance}

theorem tables_of_isPlacing (hop : op.isPlacing = true) : (act env op u).1.tables.volumes = u.tables.volumes ∧
    ∀ n, u.tables.nodes.lookup n ≠ none → (act env op u).1.tables.nodes.lookup n ≠ none := by
  refine act_rule ⟨rfl, fun _ h => h⟩ ?_
  rintro _ t' rfl - hcom
  cases hcom with
  | booked _ _ _ _ _ _ _ hbook =>
    refine ⟨?_, fun n hn => ?_⟩
    · obtain ⟨_, -, rfl⟩ := hbook
      rfl
    · rw [hbook.lookup_nodes]
      simpa using hn
  | moved | assigned => exact ⟨rfl, fun _ h => h⟩
  | _ => cases hop

theorem Trail.find {nspace name : Bytes} {id : VolumeID} {vol : Volume} (h : Trail w u)
    (hstock : u.tables.Available id)
    (hname : w.tables.getVolumeByName nspace name = some (id, vol)) :
    ∃ vol', u.tables.getVolumeByName nspace name = some (id, vol') ∧ (vol'.state = .ready ∨ vol'.state = .bound) ∧
      vol'.manifest = vol.manifest ∧ u.tables.volumes.lookup id = some vol' := by
  obtain ⟨row, hrow, hst⟩ := hstock
  rcases h.names nspace name id vol hname with hnone | ⟨vol', hname'⟩
  · rw [hrow] at hnone
    cases hnone
  · have hvol' := (lookup_of_getVolumeByName hname').1
    obtain rfl := mem_unique hrow hvol'
    exact ⟨row, hname', hst, h.manifests id vol row (lookup_of_getVolumeByName hname).1 hrow, hrow⟩

theorem wp_scheduleInstance_moves [Float64 F] {v : World} (hstage : Stage w v)
    (hstock : ∀ id, V id → v.tables.Available id)
    (hsurv : Surveyed v.tables nodes) (hequip : Equipped cfg V w.tables inst) (hst : inst.state = .declared)
    (hvols : u.tables.volumes = v.tables.volumes) (hsvcs : u.tables.services = v.tables.services)
    (hknown : ∀ n ∈ nodes, u.tables.nodes.lookup n.id ≠ none) (hrow : u.tables.instances.lookup i = some inst) :
    Wp act (Calm cfg) (fun _ => True) (scheduleInstance cfg nodes (i, inst))
    (fun _ u => u.tables.Moved i inst .scheduled) u := by
  obtain ⟨svc, _, hsvc, _, hplace, hmounts⟩ := hequip
  rw [← hstage.services, ← hsvcs] at hsvc
  refine wp_scheduleInstance hrow trivial
    (fun hnot => ?_) (fun _ _ _ => trivial) ?_
  · exfalso
    cases hnot with
    | unread _ hG hfails => exact absurd hG.1 (by simp [hfails])
    | missing hnone => cases hsvc.symm.trans hnone
    | unassigned n hn href =>
      cases href with
      | missing hnone => cases hrow.symm.trans hnone
      | illegal _ hrow' hillegal =>
        obtain rfl := mem_unique hrow hrow'
        rw [hst] at hillegal
        cases hillegal
      | noNode hnone => exact hknown n hn hnone
      | unread _ hG hfails | unwritten _ _ hG hfails => exact absurd hG.1 (by simp [hfails])
    | rejected _ pinned hsvc' hpin hrej =>
      obtain rfl := mem_unique hsvc hsvc'
      obtain ⟨id, row, hnode, hpass, hpins⟩ := hplace hst
      -- what pins the instance now pinned it before
      have hpin' : w.tables.Pins cfg svc.manifest.nspace svc.manifest.spec.mounts pinned := by
        refine hpin.imp_right ?_
        rintro ⟨decl, hdecl, vid, vol, hname, hlocal, rfl⟩
        obtain ⟨vid0, vol0, _, hname0, hV, -⟩ := hmounts (.inl hst) decl hdecl
        obtain ⟨_, hname', -, hman, hvol'⟩ := hstage.toTrail.find (hstock vid0 hV) hname0
        have hsame : u.tables.getVolumeByName svc.manifest.nspace decl.volumeName =
            v.tables.getVolumeByName svc.manifest.nspace decl.volumeName := by
          simp only [Tables.getVolumeByName, hvols]
        rw [hsame, hname'] at hname
        cases hname
        refine ⟨decl, hdecl, vid, vol0, hname0, by rw [← hman]; exact hlocal, ?_⟩
        exact (hstage.pins vid vol0 vol (lookup_of_getVolumeByName hname0).1 hvol').symm
      rw [← hstage.nodes] at hnode
      obtain ⟨n, hn, hid, env, hfilter⟩ := hsurv.listed id row hnode
      have hn' : hardFilter n svc.manifest.spec = [] := by
        rw [hfilter, ← hpass env]
        simp only [Tables.nodeOf, hstage.gpus]
      obtain ⟨n', helig, hpass'⟩ := hsurv.exists_eligible hn hn' (by rw [hid]; exact hpins pinned hpin')
      exact hrej n' helig hpass'
  · intro env node env' svc' gpu _ _ _
    refine ⟨trivial, ?_⟩
    have heff := act_instanceEffect env' (allocationOf i node svc' gpu) (u.assign env i node) i
    rw [World.assign, lookup_setInstance_self hrow] at heff
    unfold Tables.Moved World.assign
    generalize (act env' (allocationOf i node svc' gpu) _).1.tables.instances.lookup i = after at heff ⊢
    cases heff with
    | unchanged => exact ⟨_, rfl, rfl, rfl⟩
    | moved _ _ hwr | stored _ _ hwr | retried _ hwr | assigned _ _ hwr => cases hwr

variable {dst : InstanceState}

theorem Tables.Moved.move (hrow : u.tables.instances.lookup i = some inst) :
    (u.move env i dst).tables.Moved i inst dst := ⟨_, lookup_setInstance_self hrow _, rfl, rfl⟩

/-! ## The sweeps -/

/-- A later state of `w` in which the volumes `V` are available. -/
def Furnished (V : VolumeID → Prop) (w u : World) : Prop := Trail w u ∧ ∀ v, V v → u.tables.Available v

theorem Furnished.of_same {v : World} (h : Furnished V w u) (hvols : v.tables.volumes = u.tables.volumes)
    (hsvcs : v.tables.services = u.tables.services) : Furnished V w v := by
  have hnames : v.tables.getVolumeByName = u.tables.getVolumeByName := by
    funext nspace name
    simp only [Tables.getVolumeByName, hvols]
  refine ⟨⟨hsvcs.trans h.1.services, ?_, ?_⟩, fun id hid => ?_⟩
  · rw [hvols, hnames]
    exact h.1.names
  · rw [hvols]
    exact h.1.manifests
  · unfold Tables.Available
    rw [hvols]
    exact h.2 id hid

theorem Furnished.act (h : Furnished V w u) (hop : ∀ v, op.spares v = true) : Furnished V w (act env op u).1 :=
  ⟨h.1.act, fun v hv => (h.2 v hv).act (hop v)⟩

theorem Op.spares_of_mounts (hop : op.mounts i u) : op.isAside = true ∧ ∀ v, op.spares v = true := by
  cases op with
  | write wr =>
    cases wr with
    | bindMount | updateVolumeBoundNode | updateMountState => exact ⟨rfl, fun _ => rfl⟩
    | updateVolumeState _ dst =>
      cases dst with
      | bound => exact ⟨rfl, fun _ => by simp [spares]⟩
      | _ => cases hop
    | _ => cases hop
  | _ => cases hop

section

variable {service : ServiceID} {svc : Service} {ad : Bytes}

theorem not_unserved_of_calm (hsvc : u.tables.services.lookup service = some svc)
    (had : cfg.adapters svc.manifest.spec.runtime = some ad) : ¬ Unserved cfg (Calm cfg) u service := by
  rintro (⟨env, hG, hfails⟩ | hnone | ⟨svc', hsvc', hnone⟩)
  · exact absurd hG.1 (by simp [hfails])
  · cases hsvc.symm.trans hnone
  · obtain rfl := mem_unique hsvc hsvc'
    cases had.symm.trans hnone

theorem not_refused_of_calm (hrow : u.tables.instances.lookup i = some inst)
    (hval : inst.state.validateInstanceTransition dst = true) : ¬ Refused (Calm cfg) u i dst := by
  rintro (hnone | ⟨row, hrow', hillegal⟩ | ⟨env, hG, hfails⟩ | ⟨env, _, hG, hfails⟩)
  · cases hrow.symm.trans hnone
  · obtain rfl := mem_unique hrow hrow'
    rw [hval] at hillegal
    cases hillegal
  · exact absurd hG.1 (by simp [hfails])
  · exact absurd hG.1 (by simp [hfails])

theorem wp_updateInstanceState_calm {Q : Except StoreError Unit → World → Prop}
    (hrow : u.tables.instances.lookup i = some inst) (hval : inst.state.validateInstanceTransition dst = true)
    (hdone : ∀ env, Q (.ok ()) (u.move env i dst)) :
    Wp act (Calm cfg) (fun _ => True) (updateInstanceState i dst) Q u :=
  wp_updateInstanceState trivial (fun _ href => absurd href (not_refused_of_calm hrow hval))
    fun env _ _ _ _ _ => ⟨trivial, hdone env⟩

end

theorem wp_provisionInstance_moves (hfurn : Furnished V w u) (hequip : Equipped cfg V w.tables inst)
    (hst : inst.state = .scheduled) (hrow : u.tables.instances.lookup i = some inst) :
    Wp act (Calm cfg) (fun _ => True) (provisionInstance cfg (i, inst))
    (fun _ u => u.tables.Moved i inst .provisioning) u := by
  obtain ⟨svc, _, hsvc, had, -, hmounts⟩ := hequip
  rw [← hfurn.1.services] at hsvc
  let K : World → Prop := fun v => Furnished V w v ∧ v.tables.Moved i inst .provisioning
  refine wp_provisionInstance
    (K := fun _ mounts v => K v ∧
      (mounts = none → Unresolved cfg (Calm cfg) K svc.manifest.nspace i svc.manifest.spec.mounts))
    hrow trivial ?_ ?_ ?_ ?_
  · rintro (hunserved | href)
    · exact absurd hunserved (not_unserved_of_calm hsvc had)
    · exact absurd href (not_refused_of_calm hrow (by rw [hst]; rfl))
  · intro env svc2 hsvc2
    obtain rfl := mem_unique hsvc hsvc2
    have hmove : Furnished V w (u.move env i .provisioning) :=
      ⟨⟨hfurn.1.services, hfurn.1.names, hfurn.1.manifests⟩, hfurn.2⟩
    refine ⟨trivial, wp_resolveMounts (fun _ _ => trivial) ?_ _ ⟨hmove, .move hrow⟩⟩
    intro env' op v _ hop _ hv
    obtain ⟨haside, hspares⟩ := spares_of_mounts hop
    refine ⟨hv.1.act hspares, ?_⟩
    unfold Moved
    rw [((⟨rfl, rfl, rfl⟩ : Beside v v).act haside).instances]
    exact hv.2
  · rintro env mounts v ⟨hv, hunresolved⟩ hfails
    exfalso
    cases mounts with
    | some ms =>
      obtain ⟨env', req, ad', hfails', hG⟩ := hfails ms rfl
      exact absurd hG.1 (by simp [hfails'])
    | none =>
      cases hunresolved rfl with
      | fails _ _ _ _ hG hfails' => exact absurd hG.1 (by simp [hfails'])
      | missing _ hu' hnone =>
        obtain ⟨row, hrow', -⟩ := hu'.2
        cases hrow'.symm.trans hnone
      | unmountable decl hdecl _ hu' hnot =>
        obtain ⟨id, _, drv, hname, hV, hdrv⟩ := hmounts (.inr hst) decl hdecl
        obtain ⟨vol', hname', hst', hman, -⟩ := hu'.1.1.find (hu'.1.2 id hV) hname
        exact hnot ⟨id, vol', drv, hname', hst', by rw [hman]; exact hdrv⟩
  · rintro env ms v env' svc2 ad' req ⟨⟨-, row, hrow', hst', hservice⟩, -⟩ - - - -
    refine ⟨trivial, wp_attempt fun _ hG2 => ⟨trivial, ?_⟩⟩
    rw [act_updateRuntimeHandle hG2.1]
    exact ⟨_, lookup_setInstance_self hrow' _, hst', hservice⟩

theorem wp_startInstance_moves (hfurn : Furnished V w u) (hequip : Equipped cfg V w.tables inst)
    (hst : inst.state = .provisioning) (hrow : u.tables.instances.lookup i = some inst) :
    Wp act (Calm cfg) (fun _ => True) (startInstance cfg (i, inst))
    (fun _ u => u.tables.Moved i inst .running) u := by
  obtain ⟨_, _, hsvc, had, -⟩ := hequip
  rw [← hfurn.1.services] at hsvc
  refine wp_withAdapter trivial (fun hunserved => absurd hunserved (not_unserved_of_calm hsvc had))
    fun _ ad' _ _ => .seq ?_
  refine wp_updateInstanceState_calm hrow (by rw [hst]; rfl) fun env => .perform fun env' hG => ⟨trivial, ?_⟩
  have hans : (act env' (.adapter (.start (handleOf ad' (i, inst)))) (u.move env i .starting)).2 = .ok () := by
    show env'.reply () = .ok ()
    simp [Env.reply, hG.1]
  rw [hans]
  obtain ⟨row, hrow', hst', hservice⟩ : (u.move env i .starting).tables.Moved i inst .starting := .move hrow
  refine wp_attempt (wp_updateInstanceState_calm hrow' (by rw [hst']; rfl) fun _ => ?_)
  exact ⟨_, lookup_setInstance_self hrow' _, rfl, hservice⟩

theorem wp_inspectInstance_moves (hst : inst.state = .running) (hrow : u.tables.instances.lookup i = some inst) :
    Wp act (Calm cfg) (fun _ => True) (inspectInstance cfg (i, inst))
    (fun _ u => u.tables.Moved i inst .running) u := by
  have hmv : u.tables.Moved i inst .running := ⟨inst, hrow, hst, rfl⟩
  refine wp_withAdapter trivial (fun _ => hmv) fun _ ad _ _ => wp_ask (fun _ => rfl) trivial fun env hG => ?_
  have hup : (AdapterCall.inspect (handleOf ad (i, inst))).answer env = .ok true := by
    show env.reply env.up = .ok true
    simp [Env.reply, hG.1, hG.2]
  rw [hup]
  refine wp_ask (fun _ => rfl) trivial fun env' hG' => ?_
  have hhealthy : (AdapterCall.health (handleOf ad (i, inst))).answer env' = .ok true := by
    show env'.reply env'.up = .ok true
    simp [Env.reply, hG'.1, hG'.2]
  rw [hhealthy]
  exact hmv

/-- Every instance of `S` is in one of the `states`, with what it needs at hand in `w`. -/
def Reached (cfg : Config F) (V : VolumeID → Prop) (S : InstanceID → Prop) (w : World)
    (states : List InstanceState) (u : World) : Prop :=
  ∀ i, S i → ∃ row, u.tables.instances.lookup i = some row ∧ row.state ∈ states ∧ Equipped cfg V w.tables row

theorem Equipped.moved {row : ServiceInstance} (h : Equipped cfg V w.tables inst)
    (hservice : row.serviceID = inst.serviceID)
    (hst : row.state = .scheduled ∧ inst.state = .declared ∨ row.state = .provisioning ∨
    row.state = .running) : Equipped cfg V w.tables row := by
  obtain ⟨svc, ad, hsvc, had, -, hmounts⟩ := h
  refine ⟨svc, ad, by rw [hservice]; exact hsvc, had, fun hdecl => ?_, fun hahead => hmounts ?_⟩
  · rw [hdecl] at hst
    simp at hst
  · rcases hst with h | h | h
    · exact .inl h.2
    · rw [h] at hahead
      simp at hahead
    · rw [h] at hahead
      simp at hahead

variable {S : InstanceID → Prop} {state : InstanceState} {handle : InstanceID × ServiceInstance → Program Unit}

theorem wp_sweep_reaches {I : World → Prop} {O : Op → Prop} {states : List InstanceState}
    (dst : InstanceState) (states' : List InstanceState)
    (hown : ∀ x, Issues (OwnOf x) (handle x)) (hiss : ∀ x, Issues O (handle x))
    (hkeep : ∀ env op u, Calm cfg env op u → O op → I u → I (act env op u).1)
    (hmoves : ∀ i inst u, I u → Equipped cfg V w.tables inst → inst.state = state →
      u.tables.instances.lookup i = some inst →
      state ∈ states → Wp act (Calm cfg) (fun _ => True) (handle (i, inst))
        (fun _ u => u.tables.Moved i inst dst) u)
    (hstay : ∀ s ∈ states, s ≠ state → s ∈ states')
    (hdst : state ∈ states → dst ∈ states' ∧
      (dst = .scheduled ∧ state = .declared ∨ dst = .provisioning ∨ dst = .running))
    (hu : I u) (hreached : Reached cfg V S w states u) : Wp act (Calm cfg) (fun _ => True) (sweep state handle)
      (fun ans u => ans = .ok () ∧ I u ∧ Reached cfg V S w states' u) u := by
  refine (wp_sweep_each (I := I)
    (D := fun x after => S x.1 → ∃ row, after = some row ∧ row.state = dst ∧ row.serviceID = x.2.serviceID)
    (fun _ _ => trivial) hown (fun i inst v hinst hst hv hrow => ?_) hu).mono fun ans v hv => ?_
  · by_cases hS : S i
    · obtain ⟨row, hrow0, hmem, hequip⟩ := hreached i hS
      obtain rfl := mem_unique hinst hrow0
      refine ((hmoves i inst v hv hequip hst hrow (hst ▸ hmem)).frame (hiss _) hkeep hv).mono fun _ v hv => ?_
      obtain ⟨⟨row', hrow', hmv⟩, hI⟩ := hv
      exact ⟨hI, fun _ => ⟨row', hrow', hmv⟩⟩
    · exact (Wp.of_issues (hiss _) hkeep (fun _ _ => trivial) hv).mono fun _ _ hv => ⟨hv, fun h => absurd h hS⟩
  · obtain ⟨hI, ⟨e, env, -, hG, hfails⟩ | ⟨hans, hrows⟩⟩ := hv
    · exact absurd hG.1 (by simp [hfails])
    · refine ⟨hans, hI, fun i hS => ?_⟩
      obtain ⟨row, hrow, hmem, hequip⟩ := hreached i hS
      have haft := hrows i row hrow
      split_ifs at haft with hst
      · obtain ⟨row', hrow', hdst', hsvc⟩ := haft hS
        obtain ⟨hmem', hnext⟩ := hdst (hst ▸ hmem)
        exact ⟨row', hrow', hdst' ▸ hmem', hequip.moved hsvc (by rw [hdst', hst]; exact hnext)⟩
      · exact ⟨row, haft, hstay _ hmem hst, hequip⟩

theorem wp_sweep_runs
    (hown : ∀ x, Issues (OwnOf x) (handle x)) (hiss : ∀ x, Issues (fun op => ∀ v, op.spares v = true) (handle x))
    (hmoves : state = .running → ∀ i inst u, inst.state = .running → u.tables.instances.lookup i = some inst →
      Wp act (Calm cfg) (fun _ => True) (handle (i, inst)) (fun _ u => u.tables.Moved i inst .running) u)
    (hu : Furnished V w u) (hreached : Reached cfg V S w [.running] u) :
    Wp act (Calm cfg) (fun _ => True) (sweep state handle)
      (fun ans u => ans = .ok () ∧ Furnished V w u ∧ Reached cfg V S w [.running] u) u := by
  refine wp_sweep_reaches .running _ hown hiss (fun _ _ _ _ hop hu => hu.act hop) ?_
    (fun _ hs _ => hs) ?_ hu hreached
  · intro i inst u _ _ hst hrow hmem
    obtain rfl := mem_singleton.1 hmem
    exact hmoves rfl i inst u hst hrow
  · exact fun _ => ⟨mem_singleton_self _, .inr (.inr rfl)⟩

theorem wp_reconcile_recovers [Float64 F]
    (hS : Reached cfg V S w [.declared, .scheduled, .provisioning, .running] w)
    (hV : Provided cfg V w.tables) : Wp act (Calm cfg) (fun _ => True) (reconcile cfg)
      (fun _ u => (∀ v, V v → u.tables.Available v) ∧ Reached cfg V S u [.running] u) w := by
  have hquiet : ∀ op : Op, op.isQuiet = true → ∀ v, op.spares v = true := by
    intro op hop v
    cases op with
    | write | adapter => cases hop
    | now | query | driver | lookup => rfl
  refine .seq (wp_reconcileNodeHeartbeats ?_)
  have hvols : Wp act (Calm cfg) (fun _ => True) (reconcileVolumes cfg)
      (fun _ u => (∀ v, V v → u.tables.Available v) ∧ Stage w u) w :=
    (wp_reconcileVolumes hV).frame
      (issues_reconcileVolumes (fun _ => isUpkeep_of_isQuiet) (fun _ _ => rfl) (fun _ _ => rfl)
      (fun _ _ => rfl) fun _ => rfl) (fun _ _ _ _ hop hu => hu.act hop) (.refl w)
  refine .seq (hvols.mono fun _ u hu => ?_)
  have hcnt : Wp act (Calm cfg) (fun _ => True) reconcileDesiredCount
      (fun _ u => (∀ v, V v → u.tables.Available v) ∧ Stage w u) u :=
    Wp.of_issues (O := fun op => op.isUpkeep = true ∧ ∀ v, op.spares v = true)
      (issues_reconcileDesiredCount (fun op hop => ⟨isUpkeep_of_isQuiet hop, hquiet op hop⟩) fun _
        _ => ⟨rfl, fun _ => rfl⟩)
      (fun _ _ _ _ hop hu => ⟨fun v hv => (hu.1 v hv).act (hop.2 v), hu.2.act hop.1⟩) (fun _ _ => trivial) hu
  refine .seq (hcnt.mono fun _ u hu => ?_)
  obtain ⟨hstock, hstage⟩ := hu
  have hreached : Reached cfg V S w [.declared, .scheduled, .provisioning, .running] u := by
    intro i hi
    obtain ⟨row, hrow, hrest⟩ := hS i hi
    exact ⟨row, hstage.instances i row hrow, hrest⟩
  refine wp_query trivial fun env hG => ?_
  rw [eval_of_find hG.1 rfl]
  refine .seq (wp_countActive (surveyed_listNodes u.tables env) fun nodes hsurv => .seq ?_)
  -- declared: volumes and services stay, and so do the nodes that were listed
  refine (wp_sweep_reaches (I := fun v => v.tables.volumes = u.tables.volumes ∧
    v.tables.services = u.tables.services ∧
    (∀ n ∈ nodes, v.tables.nodes.lookup n.id ≠ none))
    .scheduled [.scheduled, .provisioning, .running] (fun x => own_scheduleInstance x nodes)
    (fun x => issues_scheduleInstance (fun _ => isPlacing_of_isQuiet) (fun _ _ _ => rfl)
      (fun _ _ _ _ => rfl) fun _ _ => rfl)
    ?_ (fun i inst v hv hequip hst hrow _ =>
      wp_scheduleInstance_moves hstage hstock hsurv hequip hst hv.1 hv.2.1 hv.2.2 hrow)
    (by decide) (fun _ => by decide) ⟨rfl, rfl, hsurv.known⟩ hreached).mono ?_
  · rintro env op v - hop ⟨hvols, hsvcs, hnodes⟩
    have hplacing : (act env op v).1.tables.volumes = v.tables.volumes ∧
        ∀ n, v.tables.nodes.lookup n ≠ none → (act env op v).1.tables.nodes.lookup n ≠ none :=
          tables_of_isPlacing hop
    exact ⟨hplacing.1.trans hvols, (services_act env op v).trans hsvcs, fun n hn => hplacing.2 n.id (hnodes n hn)⟩
  rintro ans v ⟨rfl, hsame, hreached⟩
  have hfurn : Furnished V w v := Furnished.of_same ⟨hstage.toTrail, hstock⟩ hsame.1 hsame.2.1
  have hact : ∀ env op v, Calm cfg env op v → (∀ id, op.spares id = true) → Furnished V w v →
      Furnished V w (act env op v).1 :=
    fun _ _ _ _ hop hv => hv.act hop
  refine .seq ((wp_sweep_reaches .provisioning [.provisioning, .running] own_provisionInstance
    (fun x => issues_provisionInstance hquiet (fun _ _ _ _ _ => rfl) (fun _ _ _ _ => rfl)
      (fun _ _ => rfl) (fun _ _ => rfl)
      (fun _ _ => by simp [spares]) (fun _ _ _ _ => rfl) fun _ _ => rfl) hact
    (fun i inst v hv hequip hst hrow _ => wp_provisionInstance_moves hv hequip hst hrow)
    (by decide) (fun _ => by decide) hfurn hreached).mono ?_)
  rintro ans v ⟨rfl, hfurn, hreached⟩
  refine .seq ((wp_sweep_reaches .running [.running] own_startInstance
    (fun x => issues_startInstance hquiet (fun _ _ _ _ _ => rfl) fun _ _ => rfl) hact
    (fun i inst v hv hequip hst hrow _ => wp_startInstance_moves hv hequip hst hrow)
    (by decide) (fun _ => by decide) hfurn hreached).mono ?_)
  rintro ans v ⟨rfl, hfurn, hreached⟩
  refine .seq ((wp_sweep_runs own_handleFailedInstance
    (fun x => issues_handleFailedInstance hquiet (fun _ _ => rfl)
    (fun _ _ => by simp [spares]) (fun _ => rfl) (fun _ _ _ => rfl) (fun _ => rfl) fun _ _ => rfl)
      (fun h => by cases h)
    hfurn hreached).mono ?_)
  rintro ans v ⟨rfl, hfurn, hreached⟩
  refine .seq ((wp_sweep_runs own_inspectInstance (fun x => issues_inspectInstance hquiet (fun _ _ => rfl)
    (fun _ _ => by simp [spares]) (fun _ => rfl) (fun _ _ _ _ _ => rfl) (fun _ _ => rfl) fun _ _ => rfl)
    (fun _ i inst u hst hrow => wp_inspectInstance_moves hst hrow) hfurn hreached).mono ?_)
  rintro ans v ⟨-, hfurn, hreached⟩
  refine .seq ((wp_sweep_runs own_handleDegradedInstance
    (fun x => issues_handleDegradedInstance hquiet (fun _ _ => rfl)
    (fun _ _ => by simp [spares]) (fun _ => rfl) (fun _ _ _ _ _ => rfl) fun _ _ => rfl) (fun h => by cases h)
    hfurn hreached).mono ?_)
  rintro ans v ⟨-, hfurn, hreached⟩
  refine .seq ((wp_sweep_runs own_stopInstance (fun x => issues_stopInstance hquiet (fun _ _ => rfl)
    (fun _ _ => by simp [spares]) (fun _ => rfl) (fun _ _ _ => rfl) (fun _ _ => rfl) fun _ _ => rfl)
      (fun h => by cases h)
    hfurn hreached).mono ?_)
  rintro ans v ⟨-, hfurn, hreached⟩
  refine ⟨hfurn.2, fun i hi => ?_⟩
  obtain ⟨row, hrow, hmem, svc, ad, hsvc, had, -⟩ := hreached i hi
  have hrun := mem_singleton.1 hmem
  refine ⟨row, hrow, hmem, svc, ad, by rw [hfurn.1.services]; exact hsvc, had, ?_, ?_⟩
  · intro hdecl
    cases hrun.symm.trans hdecl
  · rintro (h | h) <;> cases hrun.symm.trans h

end

/-! ## Recovery -/

def InstanceState.isUnderWay : InstanceState → Bool
  | declared | scheduled | provisioning | starting => true
  | _ => false

def Tables.Usable (t : Tables) (v : VolumeID) : Prop :=
  ∃ vol, t.volumes.lookup v = some vol ∧ vol.state ∈ [VolumeState.declared, .provisioning, .ready, .bound]

/-- What was under way in `w` is where it goes in `u`. -/
structure Recovered (w u : World) : Prop where
  instances : ∀ i row, w.tables.instances.lookup i = some row → row.state.isUnderWay = true →
    ∃ row', u.tables.instances.lookup i = some row' ∧ row'.state = .running
  volumes : ∀ v vol, w.tables.volumes.lookup v = some vol → vol.state = .declared ∨
    vol.state = .provisioning → u.tables.Available v

/-- **What is asked of the world**: an adapter, a node with the resources and usable volumes for the
instances that are under way, and a driver for the volumes that are. -/
structure Fit {F : Type} (cfg : Config F) (w : World) : Prop where
  instances : ∀ i row, w.tables.instances.lookup i = some row → row.state.isUnderWay = true →
    Equipped cfg w.tables.Usable w.tables row
  volumes : ∀ v vol, w.tables.volumes.lookup v = some vol → vol.state = .declared ∨
    vol.state = .provisioning → ∃ drv, cfg.classDrivers vol.manifest.spec.cls = some drv

/-- **Where the pass may have been cut off**: not between the two writes of `startInstance` or
`provisionVolume`. -/
structure Unstuck (w : World) : Prop where
  instances : ∀ i row, w.tables.instances.lookup i = some row → row.state ≠ .starting
  volumes : ∀ v vol, w.tables.volumes.lookup v = some vol → vol.state ≠ .provisioning

theorem Fit.reached {F : Type} {cfg : Config F} {w : World} (h : Fit cfg w) (hunst : Unstuck w) :
    Reached cfg w.tables.Usable (fun i => ∃ row, w.tables.instances.lookup i = some row ∧
      row.state.isUnderWay = true) w
      [.declared, .scheduled, .provisioning, .running] w := by
  rintro i ⟨row, hrow, hunderWay⟩
  refine ⟨row, hrow, ?_, h.instances i row hrow hunderWay⟩
  have hstart := hunst.instances i row hrow
  revert hunderWay hstart
  cases row.state <;> simp [InstanceState.isUnderWay]

theorem Fit.usable {F : Type} {cfg : Config F} {w : World} (h : Fit cfg w) (hunst : Unstuck w) (v : VolumeID)
    (hv : w.tables.Usable v) : w.tables.Available v ∨ ∃ vol drv, w.tables.volumes.lookup v = some vol ∧
      vol.state = .declared ∧ cfg.classDrivers vol.manifest.spec.cls = some drv := by
  obtain ⟨vol, hvol, hst⟩ := hv
  have hprov := hunst.volumes v vol hvol
  simp only [mem_cons, not_mem_nil, or_false] at hst
  rcases hst with hdecl | h' | hready | hbound
  · obtain ⟨drv, hdrv⟩ := h.volumes v vol hvol (.inl hdecl)
    exact .inr ⟨vol, drv, hvol, hdecl, hdrv⟩
  · exact absurd h' hprov
  · exact .inl ⟨vol, hvol, .inl hready⟩
  · exact .inl ⟨vol, hvol, .inr hbound⟩

namespace Reconciler

/-- **Recovery**: passes in which nothing fails take what was under way to where it goes, in the
first of them.  Every pass ends. -/
theorem recovered_of_unstuck {F : Type} [Float64 F] (cfg : Config F) {w : World} (hfit : Fit cfg w)
    (hunstuck : Unstuck w) {ls : List (Turn Unit Env)} {s : Reconciler}
    (hmeets : Meets (step cfg) (Guarded (Calm cfg) fun _ => False) ⟨w, none⟩ (.begin () :: ls))
    (hrun : exec (step cfg) ⟨w, none⟩ (.begin () :: ls) = some s) : (s.isIdle = true → Recovered w s.shared) ∧
      ∀ e : ℕ → Env, ∃ n s', exec (step cfg) s ((List.range n).map fun k => .step (e k)) = some s' ∧
          s'.isIdle = true := by
  refine ⟨fun hidle => ?_, exists_isIdle s⟩
  let S : InstanceID → Prop := fun i => ∃ row, w.tables.instances.lookup i = some row ∧ row.state.isUnderWay = true
  let I : World → Prop := fun u => (∀ v, w.tables.Usable v → u.tables.Available v) ∧
    Reached cfg w.tables.Usable S u [.running] u
  have hcode : ∀ (_ : Unit) u, I u → Wp act (Calm cfg) (fun _ => True) (reconcile cfg) (fun _ => I) u := by
    rintro - u ⟨hstock, hreached⟩
    refine wp_reconcile_recovers (fun i hi => ?_) fun v hv => .inl (hstock v hv)
    obtain ⟨row, hrow, hmem, hequip⟩ := hreached i hi
    exact ⟨row, hrow, by simp [mem_singleton.1 hmem], hequip⟩
  have hfirst : Holds act (Calm cfg) I (fun _ => True) (⟨w, some (reconcile cfg)⟩ : Reconciler) := by
    refine ⟨trivial, fun p hp => ?_, fun hnone => by cases hnone⟩
    cases hp
    exact wp_reconcile_recovers (hfit.reached hunstuck) (hfit.usable hunstuck)
  have hrest : Meets (step cfg) (Guarded (Calm cfg) fun _ => False) ⟨w, none⟩ ([.begin ()] ++ ls) := hmeets
  have hend := exec_holds hcode (fun _ _ h => False.elim h) hfirst (hrest.of_exec rfl) hrun
  obtain ⟨hstock, hreached⟩ := hend.of_idle hidle
  refine ⟨fun i row hrow hunderWay => ?_, fun v vol hvol hst => hstock v ⟨vol, hvol, ?_⟩⟩
  · obtain ⟨row', hrow', hmem, -⟩ := hreached i ⟨row, hrow, hunderWay⟩
    exact ⟨row', hrow', mem_singleton.1 hmem⟩
  · rcases hst with h | h <;> simp [h]

end Reconciler

namespace Sample

def stocked : Tables := { housed (web (lit "never") 0 [⟨lit "data", lit "/data", false⟩]) (inState .declared) with
    volumes := ⟨[(lit "v1", ⟨⟨lit "d", lit "data", ⟨lit "ssd", 10, .rwo⟩⟩, .declared, [], [], [], 0⟩)],
      List.nodup_singleton _⟩ }

theorem fit_stocked : Fit config ⟨stocked, []⟩ where
  instances i row hrow _ := by
    obtain ⟨rfl, rfl⟩ := Prod.mk.inj (mem_singleton.1 (lookup_eq_some_iff.1 hrow))
    refine ⟨web (lit "never") 0 [⟨lit "data", lit "/data", false⟩], lit "mock", rfl, rfl,
      fun _ => ?_, fun _ decl hdecl => ?_⟩
    · refine ⟨lit "n1", _, rfl, fun _ => rfl, fun _ hpin => .inl ?_⟩
      rcases hpin with h | ⟨decl, -, _, _, hname, -, rfl⟩
      · exact h
      · obtain ⟨-, rfl⟩ := Prod.mk.inj (mem_singleton.1 (mem_of_find?_eq_some hname))
        rfl
    · obtain rfl := mem_singleton.1 hdecl
      exact ⟨lit "v1", _, lit "local", rfl, ⟨_, rfl, mem_cons_self⟩, rfl⟩
  volumes _ _ _ _ := ⟨lit "local", rfl⟩

end Sample

namespace Reconciler

/-- The instance is starting when the pass is cut off, and after three more passes it still is. -/
theorem stuck_starting : ∃ w s s', exec (step config) ⟨w, none⟩ (smooth 22 ++ [.stop]) = some s ∧
    Fit config s.shared ∧ Meets (step config) (Guarded (Calm config) fun _ => False) s
      (smooth 17 ++ smooth 17 ++ smooth 17) ∧
    exec (step config) s (smooth 17 ++ smooth 17 ++ smooth 17) = some s' ∧
      s'.isIdle = true ∧ ¬ Recovered s.shared s'.shared := by
  obtain ⟨s, hcut, hmeets, ⟨row, hrow, hunderWay⟩, hrows, hvols, s', hrun, hidle, _, hrow',
      hstart⟩ : ∃ s, exec (step config)
        ⟨⟨housed (web (lit "never") 0 []) (inState .scheduled), []⟩, none⟩ (smooth 22 ++ [.stop]) = some s ∧
      Meets (step config) (Guarded (Calm config) fun _ => False) s (smooth 17 ++ smooth 17 ++ smooth 17) ∧
      (∃ row ∈ s.shared.tables.instances.lookup (lit "i1"), row.state.isUnderWay = true) ∧
      (∀ x ∈ s.shared.tables.instances.rows, x.2.state = .starting ∧
        (s.shared.tables.services.lookup x.2.serviceID).isSome = true) ∧
      s.shared.tables.volumes.rows = [] ∧ ∃ s', exec (step config) s
        (smooth 17 ++ smooth 17 ++ smooth 17) = some s' ∧
        s'.isIdle = true ∧ ∃ row ∈ s'.shared.tables.instances.lookup (lit "i1"), row.state =
          .starting := by decide +kernel
  refine ⟨_, s, s', hcut, ⟨fun i row hrow _ => ?_, fun v _ hvol _ => ?_⟩, hmeets, hrun, hidle,
    fun hrecovered => ?_⟩
  · obtain ⟨hst, hservice⟩ := hrows _ (lookup_eq_some_iff.1 hrow)
    obtain ⟨svc, hsvc⟩ := isSome_iff_exists.1 hservice
    refine ⟨svc, lit "mock", hsvc, rfl, fun h => ?_, ?_⟩
    · cases hst.symm.trans h
    · rintro (h | h) <;> cases hst.symm.trans h
  · have hmem := lookup_eq_some_iff.1 hvol
    rw [hvols] at hmem
    cases hmem
  · obtain ⟨_, hrow2, hrunning⟩ := hrecovered.instances _ row hrow hunderWay
    rw [mem_unique hrow2 hrow', hstart] at hrunning
    cases hrunning

theorem recovered_stocked : ∃ s, exec (step config) ⟨⟨stocked, []⟩, none⟩ (smooth 47) = some s ∧
    s.isIdle = true ∧ Recovered ⟨stocked, []⟩ s.shared := by
  refine ends_and (by decide +kernel) fun s hrun hidle => ?_
  refine (recovered_of_unstuck config fit_stocked ⟨?_, ?_⟩ (by decide +kernel) hrun).1 hidle
  · intro i _ hrow
    obtain ⟨-, rfl⟩ := Prod.mk.inj (mem_singleton.1 (lookup_eq_some_iff.1 hrow))
    decide
  · intro v _ hvol
    obtain ⟨-, rfl⟩ := Prod.mk.inj (mem_singleton.1 (lookup_eq_some_iff.1 hvol))
    decide

end Reconciler

end Ocelot.VirtualServer
