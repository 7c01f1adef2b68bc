/-
# What the mounts of a volume say about it.
-/
import Ocelot.VirtualServer.Recovery

namespace Ocelot.VirtualServer

open Tracker (lit)

variable {F : Type} [Float64 F]

/-- **The access modes hold**: the mounts of an `RWO` volume are of one instance, those of a `ROX`
volume are read-only. -/
structure Tables.RespectsModes (t : Tables) : Prop where
  exclusive : ∀ v vol, t.volumes.lookup v = some vol → vol.manifest.spec.accessMode = .rwo → ∀ m row m' row',
    t.mounts.lookup m = some row → row.volumeID = v → row.isHeld = true →
    t.mounts.lookup m' = some row' → row'.volumeID = v → row'.isHeld = true → row.instanceID = row'.instanceID
  readOnly : ∀ v vol, t.volumes.lookup v = some vol → vol.manifest.spec.accessMode = .rox → ∀ m row,
    t.mounts.lookup m = some row → row.volumeID = v → row.isHeld = true → row.readOnly = true

/-- **The condition on a `BindMount`**: an `RWO` volume is mounted by no other instance, and a `ROX`
volume is mounted read-only. -/
def Op.FitsMode (env : Env) (op : Op) (w : World) : Prop :=
  match op with
  | .write (.bindMount v i _ ro) => env.fails = false → ∀ vol ∈ w.tables.volumes.lookup v,
      (vol.manifest.spec.accessMode = .rwo →
        ∀ x ∈ w.tables.mounts.rows, x.2.volumeID = v → x.2.isHeld = true → x.2.instanceID = i) ∧
      (vol.manifest.spec.accessMode = .rox → ro = true)
  | _ => True

instance (env : Env) (op : Op) (w : World) : Decidable (op.FitsMode env w) := by
  unfold Op.FitsMode
  split <;> infer_instance

variable {env : Env} {op : Op} {w : World}

theorem manifest_of_act {v : VolumeID} {vol' : Volume} (h : (act env op w).1.tables.volumes.lookup v = some vol') :
    ∃ vol, w.tables.volumes.lookup v = some vol ∧ vol'.manifest = vol.manifest := by
  have heff := act_volumeEffect env op w v
  grind

theorem held_of_act {m : MountID} {row' : VolumeMount} (hop : op.Settles w)
    (h : (act env op w).1.tables.mounts.lookup m = some row') (hheld : row'.isHeld = true) :
    (∃ row, w.tables.mounts.lookup m = some row ∧ row.isHeld = true ∧ row'.volumeID = row.volumeID ∧
        row'.instanceID = row.instanceID ∧ row'.readOnly = row.readOnly) ∨
      ∃ path, op = .write (.bindMount row'.volumeID row'.instanceID path row'.readOnly) := by
  have heff := act_mountEffect env op w m
  grind [Op.Settles, VolumeMount.isHeld, newMount]

theorem Tables.RespectsModes.act (h : w.tables.RespectsModes) (hop : op.Settles w)
    (hfits : op.FitsMode env w) : (act env op w).1.tables.RespectsModes := by
  cases hfails : env.fails with
  | true =>
    have hsame : (VirtualServer.act env op w).1.tables = w.tables := by
      rcases act_cases env op w with hsame | ⟨_, rfl, hok, -⟩
      · exact hsame
      · cases hfails.symm.trans hok
    rw [hsame]
    exact h
  | false =>
    constructor
    · intro v vol' hvol' hmode m row _ _ hm hv hheld hm' _ hheld'
      obtain ⟨vol, hvol, hman⟩ := manifest_of_act hvol'
      rw [hman] at hmode
      have hbef := held_of_act hop hm hheld
      have hbef' := held_of_act hop hm' hheld'
      have hrows := fun m row => (Table.lookup_eq_some_iff (t := w.tables.mounts) (k := m) (r := row)).1
      have hexclusive := h.exclusive v vol hvol hmode
      grind [Op.FitsMode]
    · intro v vol' hvol' hmode m row hm hv hheld
      obtain ⟨vol, hvol, hman⟩ := manifest_of_act hvol'
      rw [hman] at hmode
      have hbef := held_of_act hop hm hheld
      have hread := h.readOnly v vol hvol hmode
      grind [Op.FitsMode]

namespace Reconciler

/-- **Access modes hold as long as mounts are made that fit them**, at any time in any run of
passes. -/
theorem respectsModes_of_fits (cfg : Config F) {w : World} (h : w.tables.RespectsModes)
    {ls : List (Turn Unit Env)} {s : Reconciler}
    (hmeets : Run.Meets (step cfg) (Worker.Guarded (fun env op w => op.FitsMode env w) fun _ => True) ⟨w, none⟩ ls)
    (hrun : Run.exec (step cfg) ⟨w, none⟩ ls = some s) : s.shared.tables.RespectsModes :=
  (exec_keeps (I := fun w => w.tables.RespectsModes)
    (.of_act fun _ _ _ hfits hop hw => hw.act hop hfits) (fun _ hw _ => hw) h
    hmeets hrun).1

end Reconciler

namespace Sample

def attached (mode : VolumeAccessMode) (readOnly : Bool) : Tables :=
  { housed (web (lit "never") 0 [⟨lit "data", lit "/data", readOnly⟩]) (inState .scheduled) with
    volumes := ⟨[(lit "v1", ⟨⟨lit "d", lit "data", ⟨lit "ssd", 10, mode⟩⟩, .ready, [], [], [], 0⟩)],
      List.nodup_singleton _⟩ }

theorem respectsModes_attached (mode : VolumeAccessMode) (readOnly : Bool) :
    (attached mode readOnly).RespectsModes := by
  constructor
  · intro _ _ _ _ _ _ _ _ hm
    cases hm
  · intro _ _ _ _ _ _ hm
    cases hm

end Sample

open Sample

namespace Reconciler

/-- A `ROX` volume is mounted for writing. -/
theorem rox_written : ∃ w ls s, w.tables.RespectsModes ∧
    Run.exec (step config) ⟨w, none⟩ ls = some s ∧ ¬ s.shared.tables.RespectsModes := by
  obtain ⟨s, hrun, ⟨vol, hvol, hmode⟩, row, hrow, hv, hheld, hro⟩ : ∃ s,
      Run.exec (step config) ⟨⟨attached .rox false, []⟩, none⟩ (smooth 19) = some s ∧
      (∃ vol ∈ s.shared.tables.volumes.lookup (lit "v1"), vol.manifest.spec.accessMode = .rox) ∧
      ∃ row ∈ s.shared.tables.mounts.lookup 1, row.volumeID = lit "v1" ∧ row.isHeld = true ∧
          row.readOnly = false := by
    decide +kernel
  refine ⟨_, _, s, respectsModes_attached .rox false, hrun, fun h => ?_⟩
  cases hro.symm.trans (h.readOnly _ vol hvol hmode _ row hrow hv hheld)

theorem rox_read : ∃ s, Run.exec (step config) ⟨⟨attached .rox true, []⟩, none⟩ (smooth 38) = some s ∧
    s.isIdle = true ∧ s.shared.tables.RespectsModes := by
  refine Run.ends_and (by decide +kernel) fun s hrun _ => ?_
  exact respectsModes_of_fits config (respectsModes_attached .rox true) (by decide +kernel) hrun

end Reconciler

end Ocelot.VirtualServer
