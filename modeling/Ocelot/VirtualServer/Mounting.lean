/-
# Mounting the volumes of an instance, and giving them back.
-/
import Ocelot.VirtualServer.Passes

namespace Ocelot.VirtualServer

open List Option Table Query Tables
open Tracker (Bytes)
open Prog (Issues Wp)

theorem act_bindMount (env : Env) (w : World) (v : VolumeID) (i : InstanceID) (path : Bytes)
    (ro : Bool) : (∃ e, (act env (.write (.bindMount v i path ro)) w).2 = .error e ∧
      (env.fails = true ∨ w.tables.volumes.lookup v = none ∨ w.tables.instances.lookup i = none)) ∨
    ∃ m, (act env (.write (.bindMount v i path ro)) w).2 = .ok m ∧
      (act env (.write (.bindMount v i path ro)) w).1.tables.mounts.lookup m = some (newMount v i path ro) := by
  cases hfails : env.fails with
  | true =>
    left
    simp only [act, Write.exec_of_fails hfails]
    exact ⟨_, rfl, .inl trivial⟩
  | false =>
    by_cases hmiss : w.tables.volumes.lookup v = none ∨ w.tables.instances.lookup i = none
    · have hcom : (Write.bindMount v i path ro).commit env w.tables = .error .constraint := by
        simp only [Write.commit, bindMount, if_pos hmiss]
        rfl
      left
      simp only [act, Write.exec_of_error hfails hcom]
      exact ⟨_, rfl, .inr hmiss⟩
    · have hcom : (Write.bindMount v i path ro).commit env w.tables =
          .ok ({ w.tables with mounts := w.tables.mounts.add (newMount v i path ro) },
              w.tables.mounts.nextKey) := by
        simp only [Write.commit, bindMount, if_neg hmiss]
        rfl
      right
      simp only [act, Write.exec_of_ok hfails hcom]
      refine ⟨_, rfl, ?_⟩
      rw [lookup_add, if_pos rfl]

theorem Tables.lookup_of_getVolumeByName {t : Tables} {nspace name : Bytes} {v : VolumeID × Volume}
    (h : t.getVolumeByName nspace name = some v) :
    t.volumes.lookup v.1 = some v.2 ∧ v.2.manifest.nspace = nspace ∧ v.2.manifest.name = name := by
  have hnames := find?_some h
  simp only [Bool.and_eq_true, decide_eq_true_eq] at hnames
  exact ⟨lookup_eq_some_iff.2 (mem_of_find?_eq_some h), hnames⟩

section

variable {F : Type} {cfg : Config F} {G : Env → Op → World → Prop} {J K : World → Prop} {w : World}
  {i : InstanceID}

def Tables.Mountable (cfg : Config F) (t : Tables) (nspace : Bytes) (decl : ServiceVolumeMount) : Prop :=
  ∃ id vol drv, t.getVolumeByName nspace decl.volumeName = some (id, vol) ∧
    (vol.state = .ready ∨ vol.state = .bound) ∧
    cfg.classDrivers vol.manifest.spec.cls = some drv

inductive Unresolved (cfg : Config F) (G : Env → Op → World → Prop) (K : World → Prop)
    (nspace : Bytes) (i : InstanceID) (decls : List ServiceVolumeMount) : Prop
  | fails (env : Env) (op : Op) (u : World) (hu : K u) (hG : G env op u) (h : env.fails = true)
  | unmountable (decl : ServiceVolumeMount) (hdecl : decl ∈ decls) (u : World) (hu : K u)
      (h : ¬ u.tables.Mountable cfg nspace decl)
  | missing (u : World) (hu : K u) (h : u.tables.instances.lookup i = none)

theorem Unresolved.cons {nspace : Bytes} {decl : ServiceVolumeMount} {decls : List ServiceVolumeMount}
    (h : Unresolved cfg G K nspace i decls) : Unresolved cfg G K nspace i (decl :: decls) := by
  cases h with
  | fails env op u hu hG h => exact .fails env op u hu hG h
  | unmountable decl' hdecl u hu h => exact .unmountable decl' (mem_cons_of_mem _ hdecl) u hu h
  | missing u hu h => exact .missing u hu h

def Op.mounts (i : InstanceID) (w : World) : Op → Prop
  | .write (.bindMount _ j _ _) => j = i
  | .write (.updateMountState m .active) => ∃ row, w.tables.mounts.lookup m = some row ∧ row.instanceID = i
  | .write (.updateVolumeBoundNode _ _) | .write (.updateVolumeState _ .bound) => True
  | _ => False

def Op.Settles (w : World) : Op → Prop
  | .write (.updateMountState m dst) =>
    dst = .released ∨ dst = .active ∧ ∃ row, w.tables.mounts.lookup m = some row ∧ row.state = .pending
  | _ => True

theorem wp_resolveMounts {nspace : Bytes} {node : NodeID} (hJ : ∀ u, K u → J u)
    (hkeep : ∀ env op u, G env op u → op.mounts i u → op.Settles u → K u → K (act env op u).1)
    (decls : List ServiceVolumeMount) (hw : K w) : Wp act G J (resolveMounts cfg nspace i node decls)
      (fun mounts u => K u ∧ (mounts = none → Unresolved cfg G K nspace i decls)) w := by
  have hwr : ∀ (wr : Write) {u : World}, (Op.write wr).mounts i u → (Op.write wr).Settles u → K u →
      Wp act G J (attempt (write wr)) (fun _ => K) u := by
    intro wr u hop hsettles hu
    refine wp_attempt fun env hG => ?_
    have hnext := hkeep env (.write wr) u hG hop hsettles hu
    exact ⟨hJ _ hnext, hnext⟩
  induction decls generalizing w with
  | nil => exact ⟨hw, fun hnone => by cases hnone⟩
  | cons decl decls ih =>
    refine wp_find (hJ w hw) (fun _ env hG hfails => ⟨hw, fun _ => .fails env _ w hw hG hfails⟩) ?_ ?_
    · intro _ _ hnone
      refine ⟨hw, fun _ => .unmountable decl mem_cons_self w hw ?_⟩
      rintro ⟨id, vol, drv, hvol, -⟩
      cases hnone.symm.trans hvol
    · intro _ vol (hvol : w.tables.getVolumeByName nspace decl.volumeName = some vol)
      have hunmountable : (∀ id vol', vol = (id, vol') → ¬ ((vol'.state = .ready ∨ vol'.state = .bound) ∧
          ∃ drv, cfg.classDrivers vol'.manifest.spec.cls = some drv)) →
              Unresolved cfg G K nspace i (decl :: decls) := by
        intro hnot
        refine .unmountable decl mem_cons_self w hw ?_
        rintro ⟨id, vol', drv, hvol', hst, hdrv⟩
        exact hnot id vol' (mem_unique hvol hvol') ⟨hst, drv, hdrv⟩
      refine .ite (fun hst => ?_) fun hst => ?_
      · refine ⟨hw, fun _ => hunmountable ?_⟩
        rintro id vol' rfl ⟨hready | hbound, -⟩
        · exact hst.1 hready
        · exact hst.2 hbound
      · cases hdrv : cfg.classDrivers vol.2.manifest.spec.cls with
        | none =>
          refine ⟨hw, fun _ => hunmountable ?_⟩
          rintro id vol' rfl ⟨-, drv, hdrv'⟩
          cases hdrv.symm.trans hdrv'
        | some =>
          refine wp_driver (hJ w hw) fun env' hG' => ?_
          rcases hans : (DriverCall.mount i ⟨vol.1, node, vol.2.driverHandle, decl.targetPath,
            decl.readOnly⟩).answer env' with
            e | hostPath
          · refine ⟨hw, fun _ => .fails env' _ w hw hG' ?_⟩
            have hreply : env'.reply env'.hostPath = .error e := hans
            unfold Env.reply at hreply
            split_ifs at hreply with hfails
            exact hfails
          · refine .perform fun env2 hG2 => ?_
            have hbound := hkeep env2 (.write (.bindMount vol.1 i decl.targetPath decl.readOnly)) w
              hG2 rfl trivial hw
            refine ⟨hJ _ hbound, ?_⟩
            rcases act_bindMount env2 w vol.1 i decl.targetPath decl.readOnly with ⟨e, hans2,
              hcause⟩ | ⟨m, hans2, hmount⟩
            · rw [hans2]
              refine ⟨hbound, fun _ => ?_⟩
              rcases hcause with hfails | hnone | hnone
              · exact .fails env2 _ w hw hG2 hfails
              · rw [(lookup_of_getVolumeByName hvol).1] at hnone
                cases hnone
              · exact .missing w hw hnone
            · rw [hans2]
              refine .seq ((hwr (.updateMountState m .active) ⟨_, hmount, rfl⟩
                (.inr ⟨rfl, _, hmount, rfl⟩) hbound).mono fun _ u hu => ?_)
              refine .seq ((wp_whenever (fun _ => hwr (.updateVolumeBoundNode vol.1 node) trivial
                trivial hu) fun _ => hu).mono fun _ u hu => ?_)
              refine .seq ((wp_whenever (fun _ => hwr (.updateVolumeState vol.1 .bound) trivial
                trivial hu) fun _ => hu).mono fun _ u hu => ?_)
              refine .seq ((ih hu).mono fun _ u hu => ⟨hu.1, fun hnone => (hu.2 ?_).cons⟩)
              exact map_eq_none_iff.1 hnone

def Op.isStore : Op → Bool
  | .query _ | .write _ => true
  | _ => false

def VolumeMountState.isUsed : VolumeMountState → Bool
  | pending | active | released => true
  | releasing | failed => false

def Tables.Unmounted (t : Tables) (i : InstanceID) : Prop :=
  ∀ m row, t.mounts.lookup m = some row → row.instanceID = i → row.state = .released

def Op.unmounts : Op → Bool
  | .write (.updateMountState _ .released) | .write (.updateVolumeState _ .ready) => true
  | op => op.isQuiet

theorem Op.unmounts_of_isQuiet {op : Op} (h : op.isQuiet = true) : op.unmounts = true := by
  cases op <;> first | rfl | cases h

theorem lookup_mounts_of_unmounts {env : Env} {op : Op} {m : MountID} {row' : VolumeMount}
    (hop : op.unmounts = true) (h : (act env op w).1.tables.mounts.lookup m = some row') :
    ∃ row, w.tables.mounts.lookup m = some row ∧ (row' = row ∨ row' = { row with state := .released }) := by
  have heff := act_mountEffect env op w m
  rw [h] at heff
  generalize w.tables.mounts.lookup m = pre at heff ⊢
  cases heff with
  | unchanged => exact ⟨row', rfl, .inl rfl⟩
  | mounted _ _ _ _ hwr =>
    subst hwr
    cases hop
  | moved row dst hwr =>
    subst hwr
    cases dst with
    | released => exact ⟨row, rfl, .inr rfl⟩
    | pending | active | releasing | failed => cases hop

theorem wp_teardownMounts (hstore : ∀ env op u, G env op u → op.isStore = true → env.fails = false)
    (hJ : ∀ u, K u → J u)
    (hkeep : ∀ env op u, G env op u → op.unmounts = true → K u → K (act env op u).1)
    (hstates : ∀ m row, w.tables.mounts.lookup m = some row → row.state.isUsed = true) (hw : K w) :
    Wp act G J (teardownMounts cfg i) (fun _ u => K u ∧ u.tables.Unmounted i) w := by
  -- `I`: mounts are as they were, or released; `D`: the mount was visited and is released
  let I : World → Prop := fun u => K u ∧ ∀ m row', u.tables.mounts.lookup m = some row' →
    ∃ row, w.tables.mounts.lookup m = some row ∧ (row' = row ∨ row' = { row with state := .released })
  let D : MountID × VolumeMount → World → Prop := fun m u =>
    ∀ row, u.tables.mounts.lookup m.1 = some row → row.state = .released
  have hI : ∀ env op u, G env op u → op.unmounts = true → I u → I (act env op u).1 := by
    intro env op u hG hop hu
    refine ⟨hkeep env op u hG hop hu.1, fun m row' hrow' => ?_⟩
    obtain ⟨row1, hrow1, hsame1⟩ := lookup_mounts_of_unmounts hop hrow'
    obtain ⟨row, hrow, hsame⟩ := hu.2 m row1 hrow1
    refine ⟨row, hrow, ?_⟩
    rcases hsame1 with rfl | rfl
    · exact hsame
    · rcases hsame with rfl | rfl <;> exact .inr rfl
  have hD : ∀ m env op u, op.unmounts = true → D m u → D m (act env op u).1 := by
    intro m env op u hop hu row' hrow'
    obtain ⟨row, hrow, rfl | rfl⟩ := lookup_mounts_of_unmounts hop hrow'
    · exact hu _ hrow
    · rfl
  have hiss : ∀ m, Issues (fun op => op.unmounts = true) (teardownMount cfg m) := fun m =>
    issues_teardownMount (fun _ => Op.unmounts_of_isQuiet) rfl fun _ => rfl
  refine wp_query (hJ w hw) fun env hG => ?_
  have hread : (listMountsByInstance i).eval env w.tables = .ok (w.tables.listMountsByInstance i) := by
    simp [eval, hstore env _ w hG rfl, find]
  rw [hread]
  have hloop : Wp act G J (.forEach (teardownMount cfg) (w.tables.listMountsByInstance i))
      (fun _ u => I u ∧ ∀ m ∈ w.tables.listMountsByInstance i, D m u) w := by
    refine .forEach_each (F := fun _ _ => True) (pairwise_of_forall fun _ _ => trivial)
      hiss (fun _ _ _ _ _ _ _ _ _ => trivial) (fun m _ env' op u _ _ hop hu => hD m env' op u hop hu) ?_
      ⟨hw, fun m row hrow => ⟨row, hrow, .inl rfl⟩⟩ fun _ _ => trivial
    intro m hm u hu _
    obtain ⟨hrow, -⟩ := mem_ordered.1 hm
    refine .ite (fun hst => ⟨hu, fun row' hrow' => ?_⟩) fun hst => ?_
    · -- it is neither active nor pending
      obtain ⟨row, hrow0, hsame⟩ := hu.2 m.1 row' hrow'
      obtain rfl := mem_unique hrow hrow0
      rcases hsame with rfl | rfl
      · have hused := hstates m.1 m.2 hrow
        revert hst hused
        cases m.2.state <;> simp [VolumeMountState.isUsed]
      · rfl
    · have hbody := hiss m
      rw [teardownMount, if_neg hst] at hbody
      intro env' hG'
      have hnext := hI env' _ u hG' rfl hu
      have hrel : D m (act env' (.write (.updateMountState m.1 .released)) u).1 := by
        have hok := hstore env' _ u hG' rfl
        intro row' hrow'
        simp only [act, Write.exec_of_ok hok (w := .updateMountState m.1 .released) rfl] at hrow'
        rw [lookup_updateMountState] at hrow'
        obtain ⟨row, -, rfl⟩ := map_eq_some_iff.1 hrow'
        rw [if_pos rfl]
      refine ⟨hJ _ hnext.1, .of_issues (hbody.tail _) ?_ (fun u hu => hJ u hu.1.1) ⟨hnext, hrel⟩⟩
      exact fun env2 op v hG2 hop hv => ⟨hI env2 op v hG2 hop hv.1, hD m env2 op v hop hv.2⟩
  refine hloop.mono fun _ u hu => ⟨hu.1.1, fun m row' hrow' hi => ?_⟩
  obtain ⟨row, hrow, hsame⟩ := hu.1.2 m row' hrow'
  refine hu.2 (m, row) (mem_ordered.2 ⟨hrow, decide_eq_true ?_⟩) row' hrow'
  rcases hsame with rfl | rfl <;> exact hi

theorem Keeps.of_act [Float64 F] (hact : ∀ env op u, G env op u → op.Settles u → K u →
    K (act env op u).1) : Keeps cfg G K K := by
  have hO : ∀ op : Op, op.isQuiet = true → ∀ u, op.Settles u := by
    intro op hop u
    cases op with
    | write => cases hop
    | _ => trivial
  have hsteps : ∀ {α : Type} {p : Program α} {u : World}, p.Issues (fun op => ∀ u, op.Settles u) →
      K u → Wp act G K p (fun _ => K) u :=
    fun hp hu => .of_issues hp (fun env op u hG hop hu => hact env op u hG (hop u) hu) (fun _ hu => hu) hu
  have hst : ∀ i dst, Issues (fun op => ∀ u, op.Settles u) (updateInstanceState i dst) :=
    fun i dst => issues_updateInstanceState hO fun _ _ _ => trivial
  refine ⟨fun _ hw => hw, fun env op w hG hop hw => hact env op w hG ?_ hw, fun _ i inst w hw _ _ => hsteps ?_ hw,
    fun i inst w hw _ _ => ?_, fun i inst w hw _ _ => hsteps ?_ hw, fun i inst w hw _ _ => hsteps ?_ hw,
    fun i inst w hw _ _ => hsteps ?_ hw, fun i inst w hw _ _ => hsteps ?_ hw, fun i inst w hw _ _ => hsteps ?_ hw⟩
  · cases op with
    | write wr =>
      cases wr with
      | updateMountState => cases hop
      | _ => trivial
    | _ => trivial
  · exact issues_scheduleInstance hO (fun _ _ _ _ => trivial) (fun _ _ _ _ _ => trivial) fun _ _ _ => trivial
  · refine wp_withAdapter hw (fun _ => hw) fun _ _ _ _ => .seq ((hsteps (hst i _) hw).mono fun ans u hu => ?_)
    cases ans with
    | error => exact hu
    | ok =>
      refine wp_query hu fun _ _ => .seq ((wp_resolveMounts (fun _ hu => hu)
        (fun env op u hG _ hsettles hu => hact env op u hG hsettles hu) _ hu).mono fun mounts u hu => ?_)
      cases mounts with
      | none => exact hsteps (hst i _).attempt hu.1
      | some =>
        refine hsteps (.perform (fun _ => trivial) fun (ans : Except Bytes StringMap) => ?_) hu.1
        cases ans with
        | error => exact (hst i _).attempt
        | ok => exact (issues_write fun _ => trivial).attempt
  · exact issues_startInstance hO (fun _ _ _ _ _ => trivial) fun _ _ => trivial
  · exact issues_handleFailedInstance hO (fun _ _ => .inl rfl) (fun _ _ => trivial)
      (fun _ => trivial) (fun _ _ _ => trivial)
      (fun _ => trivial) fun _ _ => trivial
  · exact issues_inspectInstance hO (fun _ _ => .inl rfl) (fun _ _ => trivial) (fun _ => trivial)
      (fun _ _ _ _ _ => trivial)
      (fun _ _ => trivial) fun _ _ => trivial
  · exact issues_handleDegradedInstance hO (fun _ _ => .inl rfl) (fun _ _ => trivial)
      (fun _ => trivial) (fun _ _ _ _ _ => trivial) fun _ _ => trivial
  · exact issues_stopInstance hO (fun _ _ => .inl rfl) (fun _ _ => trivial) (fun _ => trivial)
      (fun _ _ _ => trivial)
      (fun _ _ => trivial) fun _ _ => trivial

end

end Ocelot.VirtualServer
