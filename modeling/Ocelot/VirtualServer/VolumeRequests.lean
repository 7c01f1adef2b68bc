/-
# Volumes that are declared, snapshotted and restored.

Requests and passes come in any order. Volumes are first-class exactly if no restore is accepted,
and the driver keeps to its base directory if what goes into a path descends.
-/
import Ocelot.Lib.Run
import Ocelot.Lib.Table
import Ocelot.VirtualServer.LocalDriver

namespace Ocelot.VirtualServer

open List Option Table FileTree Sample
open Tracker (Bytes lit)

/-! ## The requests -/

structure UUID where
  text : Bytes
  nonempty : text ≠ []

structure LocalVolume where
  nspace : Bytes
  name : Bytes
  state : VolumeState
  /-- `path` in its handle. -/
  path : Option Path
  /-- The mount rows that refer to it, and whether each is held. -/
  mounts : List Bool

structure LocalSnapshot where
  volumeID : VolumeID
  /-- Its `driver_ref`, where it is ready. -/
  ref : Option Path

structure Site where
  volumes : Table VolumeID LocalVolume
  snapshots : Table Bytes LocalSnapshot
  disk : Disk

def validateSegment (s : Bytes) : Bool := s ≠ [] && s ≠ lit "." && s ≠ lit ".." && s.length ≤ 63 &&
    s.all (fun c => (97 ≤ c && c ≤ 122) || (48 ≤ c && c ≤ 57) || c = 95 || c = 45) && s.head? ≠ some 45

inductive Request where
  /-- `valid` is whether the manifest passes its checks, those of its names apart. -/
  | declareVolume (id : UUID) (nspace name : Bytes) (valid : Bool)
  | createSnapshot (volume : VolumeID) (label : Bytes) (id : UUID) (stamp : Bytes)
  | restoreVolume (source snapshot nspace name : Bytes)
  | deleteVolume (id : VolumeID)
  | provisionVolume (id : VolumeID)
  | resolveMount (id : VolumeID)
  | teardownMount (id : VolumeID) (i : ℕ)
  | checkQuota (id : VolumeID) (exceeded : Bool)
  | reclaimVolume (id : VolumeID)

/-- Which of the statements of a request succeed, in their order, and whether the driver does. -/
structure Outcome where
  read : Bool
  insert : Bool
  update : Bool
  io : Bool
  handle : Bool
  last : Bool
  reread : Bool

inductive Reply where
  | created (id : Bytes)
  | ok
  | refused
  deriving DecidableEq

namespace Site

variable (d : Driver) (s : Site) (o : Outcome) (id : VolumeID)

def getVolume : Option LocalVolume := if o.read then s.volumes.lookup id else none

def createVolume (v : LocalVolume) : Option Site :=
  if o.insert = true ∧ s.volumes.count (fun _ u => u.nspace = v.nspace && u.name = v.name) = 0 then
    (s.volumes.insert id v).map fun volumes => { s with volumes }
  else none

def setVolume (f : LocalVolume → LocalVolume) : Site :=
  { s with volumes := s.volumes.modify (fun k _ => k = id) f }

def createSnapshot (volume : VolumeID) (label : Bytes) (id : UUID) (stamp : Bytes) : Site × Reply :=
  match s.getVolume o volume with
  | none => (s, .refused)
  | some v =>
    if volume = [] ∨ v.state ≠ .ready ∧ v.state ≠ .bound then (s, .refused)
    else
      match if o.insert then s.snapshots.insert id.text ⟨volume, none⟩ else none with
      | none => (s, .refused)
      | some snapshots =>
        match v.path with
        | none => ({ s with snapshots }, .created id.text)
        | some src =>
          let (disk, ref) := d.snapshot s.disk src label stamp o.io
          ({ s with
              disk
              snapshots :=
                if o.update then snapshots.modify (fun k _ => k = id.text) ({ · with ref })
                else snapshots },
            .created id.text)

def restoreVolume (source snapshot nspace name : Bytes) : Site × Reply :=
  if source = [] ∨ snapshot = [] ∨ nspace = [] ∨ name = [] ∨ o.read = false then (s, .refused)
  else
    match (s.snapshots.lookup snapshot).bind LocalSnapshot.ref, s.getVolume o source with
    | some ref, some _ =>
      match d.restoreFrom s.disk ref nspace name o.io with
      | (disk, none) => ({ s with disk }, .refused)
      | (disk, some path) =>
        -- the volume that is inserted has no id
        match createVolume { s with disk } o [] ⟨nspace, name, .ready, some path, []⟩ with
        | none => ({ s with disk }, .refused)
        | some s' => (s', if o.reread then .created [] else .refused)
    | _, _ => (s, .refused)

def deleteVolume : Site × Reply :=
  match s.getVolume o id with
  | none => (s, .refused)
  | some v =>
    if id = [] then (s, .refused)
    else if v.state = .releasing ∨ v.state = .released then (s, .ok)
    else if v.state.validateVolumeTransition .releasing ∧ true ∉ v.mounts ∧ o.update = true then
      (s.setVolume id fun v => { v with state := .releasing }, .ok)
    else (s, .refused)

def provisionVolume (v : LocalVolume) : Site × Reply :=
  let path := d.volumePath v.nspace v.name
  if v.state ≠ .declared ∨ o.update = false then (s, .refused)
  else if o.io then
    ({ s.setVolume id fun v =>
        { v with
          state := if o.last then .ready else .provisioning
          path := if o.handle then some path else v.path } with
        disk := s.disk.graft path (.single .dir) }, .ok)
  else (s.setVolume id fun v => { v with state := if o.last then .failed else .provisioning }, .refused)

def resolveMount (v : LocalVolume) : Site × Reply :=
  match v.path with
  | none => (s, .refused)
  | some path =>
    if v.state ≠ .ready ∧ v.state ≠ .bound ∨ o.io = false then (s, .refused)
    else
      let disk := s.disk.graft path (.single .dir)
      if o.insert then
        ({ s.setVolume id fun v =>
            { v with state := if o.update then .bound else v.state, mounts := v.mounts ++ [true] }
              with disk }, .ok)
      else ({ s with disk }, .refused)

def teardownMount (i : ℕ) (v : LocalVolume) : Site × Reply :=
  if v.mounts[i]? = some true then
    let mounts := if o.update then v.mounts.set i false else v.mounts
    let state := if o.reread = true ∧ v.state = .bound ∧ true ∉ mounts ∧ o.last = true then .ready else v.state
    (s.setVolume id fun v => { v with state, mounts }, .ok)
  else (s, .refused)

def checkQuota (exceeded : Bool) (v : LocalVolume) : Site × Reply :=
  if o.io = true ∧ o.update = true ∧ v.state = if exceeded then .bound else .quotaExceeded then
    (s.setVolume id fun v => { v with state := if exceeded then .quotaExceeded else .bound }, .ok)
  else (s, .refused)

def isReferred (v : LocalVolume) : Bool :=
  !v.mounts.isEmpty || s.snapshots.count (fun _ snap => snap.volumeID = id) ≠ 0

def reclaimVolume (v : LocalVolume) : Site × Reply :=
  if v.state ≠ .releasing then (s, .refused)
  else if v.path ≠ none ∧ o.io = false then
    (if o.update then s.setVolume id fun v => { v with state := .failed } else s, .refused)
  else
    let disk := v.path.elim s.disk s.disk.removeAll
    if o.update = false then ({ s with disk }, .ok)
    -- a row that is referred to stays, and no one sees the error
    else if o.last = false ∨ s.isReferred id v = true then
      ({ s.setVolume id fun v => { v with state := .released } with disk }, .ok)
    else ({ s with volumes := s.volumes.delete id, disk }, .ok)

def step : Request → Site × Reply
  | .declareVolume id nspace name valid =>
    if validateSegment nspace && validateSegment name && valid then
      match s.createVolume o id.text ⟨nspace, name, .declared, none, []⟩ with
      | none => (s, .refused)
      | some s' => (s', .created id.text)
    else (s, .refused)
  | .createSnapshot volume label id stamp => s.createSnapshot d o volume label id stamp
  | .restoreVolume source snapshot nspace name => s.restoreVolume d o source snapshot nspace name
  | .deleteVolume id => s.deleteVolume o id
  | .provisionVolume id => (s.getVolume o id).elim (s, .refused) (s.provisionVolume d o id)
  | .resolveMount id => (s.getVolume o id).elim (s, .refused) (s.resolveMount o id)
  | .teardownMount id i => (s.getVolume o id).elim (s, .refused) (s.teardownMount o id i)
  | .checkQuota id exceeded => (s.getVolume o id).elim (s, .refused) (s.checkQuota o id exceeded)
  | .reclaimVolume id => (s.getVolume o id).elim (s, .refused) (s.reclaimVolume o id)

variable {d s o} {id : VolumeID} {v : LocalVolume}

theorem volumes_createVolume {s' : Site} (h : s.createVolume o id v = some s') :
    s.volumes.insert id v = some s'.volumes ∧ s'.disk = s.disk := by
  unfold createVolume at h
  split_ifs at h
  obtain ⟨volumes, hins, rfl⟩ := map_eq_some_iff.1 h
  exact ⟨hins, rfl⟩

/-! ## First-class volumes -/

/-- **What a request keeps to**: a volume it creates has an id, by which it is found and released; a
volume is restored from a snapshot of the volume that was named; and a restore that is refused
leaves no volume and no directory. -/
structure FirstClass (d : Driver) (s : Site) (x : Request × Outcome) : Prop where
  created : ∀ id v, s.volumes.lookup id = none → (s.step d x.2 x.1).1.volumes.lookup id = some v →
    id ≠ [] ∧ ∀ o : Outcome, o.read = true → o.update = true → ((s.step d x.2 x.1).1.deleteVolume o id).2 = .ok
  source : ∀ source snapshot nspace name id, x.1 = .restoreVolume source snapshot nspace name →
    (s.step d x.2 x.1).2 = .created id → ∃ snap, s.snapshots.lookup snapshot = some snap ∧ snap.volumeID = source
  refused : ∀ source snapshot nspace name, x.1 = .restoreVolume source snapshot nspace name →
    (s.step d x.2 x.1).2 = .refused → (s.step d x.2 x.1).1.volumes = s.volumes ∧
      (s.disk.entry (d.volumePath nspace name) = none → (s.step d x.2 x.1).1.disk.entry
        (d.volumePath nspace name) = none)

/-- **The condition**: a restore is not accepted. -/
def Unaccepted (d : Driver) (s : Site) (x : Request × Outcome) : Prop :=
  match x.1 with
  | .restoreVolume source snapshot nspace name =>
    ¬ (source ≠ [] ∧ snapshot ≠ [] ∧ nspace ≠ [] ∧ name ≠ [] ∧ x.2.read = true ∧
      s.volumes.lookup source ≠ none ∧ x.2.io = true ∧
      s.disk.entry (d.volumePath nspace name) = none ∧ ∃ ref, (s.snapshots.lookup snapshot).bind
        LocalSnapshot.ref = some ref ∧
        s.disk.entry ref ≠ none)
  | _ => True

/-- **What a request can do to a volume**: it keeps its names, and its path unless it is
provisioned; a new one is declared with an id and valid names, or restored. -/
inductive VolumeStep (d : Driver) (s : Site) (r : Request) (id : VolumeID) (v : LocalVolume) : Prop
  | kept (u : LocalVolume) (hu : s.volumes.lookup id = some u) (hnspace : v.nspace = u.nspace)
    (hname : v.name = u.name)
      (hpath : v.path = u.path ∨ v.path = some (d.volumePath u.nspace u.name))
  | declared (hid : id ≠ []) (hstate : v.state = .declared) (hmounts : v.mounts = [])
    (hnspace : validateSegment v.nspace = true)
      (hname : validateSegment v.name = true) (hpath : v.path = none)
      (hr : ∀ source snapshot nspace name, r ≠ .restoreVolume source snapshot nspace name)
  | restored (source snapshot : Bytes) (hr : r = .restoreVolume source snapshot v.nspace v.name)
    (hnspace : v.nspace ≠ [])
      (hname : v.name ≠ []) (hpath : v.path = some (d.volumePath v.nspace v.name))

theorem volumeStep {r : Request} (hv : (s.step d o r).1.volumes.lookup id = some v) : VolumeStep d s r id v := by
  have hsame : s.volumes.lookup id = some v → VolumeStep d s r id v := fun h => .kept v h rfl rfl (.inl rfl)
  have hset : ∀ {j f}, (s.setVolume j f).volumes.lookup id = some v → ∃ u, s.volumes.lookup id =
      some u ∧ (v = u ∨ j = id ∧ v = f u) := by
    intro j f h
    simp only [setVolume, lookup_modify, map_eq_some_iff] at h
    obtain ⟨u, hu, rfl⟩ := h
    exact ⟨u, hu, by grind⟩
  have hown : ∀ {j f}, ((s.getVolume o j).elim (s, Reply.refused) f).1.volumes.lookup id = some v →
      s.volumes.lookup id = some v ∨ ∃ u, s.volumes.lookup j = some u ∧ (f u).1.volumes.lookup id = some v := by
    intro j f h
    cases hj : s.getVolume o j with
    | none => exact .inl (by simpa [hj] using h)
    | some u => exact .inr ⟨u, by grind [getVolume], by simpa [hj] using h⟩
  cases r with
  | declareVolume uuid nspace name valid =>
    simp only [step] at hv
    split_ifs at hv with hval
    · split at hv
      · exact hsame hv
      · rename_i hcreate
        rw [lookup_insert (volumes_createVolume hcreate).1] at hv
        split_ifs at hv with hid
        · cases hv
          simp only [Bool.and_eq_true] at hval
          exact .declared (hid ▸ uuid.nonempty) rfl rfl hval.1.1 hval.1.2 rfl fun _ _ _ _ h => by cases h
        · exact hsame hv
    · exact hsame hv
  | createSnapshot volume label uuid stamp => grind [step, createSnapshot]
  | restoreVolume source snapshot nspace name =>
    simp only [step, restoreVolume] at hv
    split at hv
    · exact hsame hv
    · split at hv
      · split at hv
        · exact hsame hv
        · rename_i disk path hrest
          obtain rfl : path = d.volumePath nspace name := by grind [Driver.restoreFrom]
          split at hv
          · exact hsame hv
          · rename_i hcreate
            rw [lookup_insert (volumes_createVolume hcreate).1] at hv
            split_ifs at hv
            · cases hv
              exact .restored source snapshot rfl (by tauto) (by tauto) rfl
            · exact hsame hv
      · exact hsame hv
  | deleteVolume j => grind [step, deleteVolume, VolumeStep]
  | provisionVolume | resolveMount | teardownMount | checkQuota | reclaimVolume =>
    rcases hown hv with h | ⟨u, hu, h⟩
    · exact hsame h
    · grind [provisionVolume, resolveMount, teardownMount, checkQuota, reclaimVolume, VolumeStep, lookup_delete]

variable {source snapshot nspace name : Bytes}

theorem restoreVolume_unaccepted (h : Unaccepted d s (.restoreVolume source snapshot nspace name, o)) :
    (s.restoreVolume d o source snapshot nspace name).2 = .refused ∧
      (s.restoreVolume d o source snapshot nspace name).1.volumes = s.volumes ∧
        (s.disk.entry (d.volumePath nspace name) = none →
          (s.restoreVolume d o source snapshot nspace name).1.disk.entry (d.volumePath nspace name) = none) := by
  unfold restoreVolume
  split
  · exact ⟨rfl, rfl, id⟩
  · split
    · rename_i ref v href hv
      -- the copy fails, and what it has made is removed
      rcases hout : d.restoreFrom s.disk ref nspace name o.io with ⟨disk, target⟩
      have hnone : target = none ∧ (s.disk.entry (d.volumePath nspace name) = none →
          disk.entry (d.volumePath nspace name) = none) := by
        grind [Driver.restoreFrom, Driver.copyDirTree, Unaccepted, getVolume, FileTree.removeAll]
      obtain ⟨rfl, hdisk⟩ := hnone
      exact ⟨rfl, rfl, hdisk⟩
    · exact ⟨rfl, rfl, id⟩

theorem restoreVolume_accepted (h : ¬ Unaccepted d s (.restoreVolume source snapshot nspace name, o)) :
    (s.restoreVolume d o source snapshot nspace name).2 = .refused ∧
        (s.restoreVolume d o source snapshot nspace name).1.disk.entry (d.volumePath nspace name) ≠ none ∨
      s.volumes.lookup [] = none ∧
          (s.restoreVolume d o source snapshot nspace name).1.volumes.lookup [] ≠ none := by
  obtain ⟨hsource, hsnaps, hnspace, hname, hread, hvol, hio, hfree, ref, href, hthere⟩ := not_not.1 h
  obtain ⟨v, hv⟩ := ne_none_iff_exists'.1 hvol
  change o.read = true at hread
  change o.io = true at hio
  have hcopy : d.restoreFrom s.disk ref nspace name o.io =
      (s.disk.graft (d.volumePath nspace name) (s.disk.at_ ref), some (d.volumePath nspace name)) := by
    simp [Driver.restoreFrom, Driver.copyDirTree, hthere, hfree, hio]
  have hmade : (s.disk.graft (d.volumePath nspace name) (s.disk.at_ ref)).entry
      (d.volumePath nspace name) ≠ none := by
    simp [graft, at_, hthere]
  simp only [restoreVolume, hsource, hsnaps, hnspace, hname, hread, href, getVolume, hv, hcopy,
    if_true, if_false, false_or,
    Bool.true_eq_false]
  split
  · exact .inl ⟨rfl, hmade⟩
  · rename_i s' hcreate
    have hins := (volumes_createVolume hcreate).1
    refine .inr ⟨lookup_of_insert hins, ?_⟩
    simp [lookup_insert hins]

theorem firstClass_iff (x : Request × Outcome) : FirstClass d s x ↔ Unaccepted d s x := by
  by_cases hrest : ∃ source snapshot nspace name, x.1 = .restoreVolume source snapshot nspace name
  · obtain ⟨r, o⟩ := x
    obtain ⟨source, snapshot, nspace, name, rfl⟩ := hrest
    constructor
    · intro h
      by_contra hacc
      rcases restoreVolume_accepted hacc with ⟨href, hmade⟩ | ⟨hnone, hsome⟩
      · have hfree : s.disk.entry (d.volumePath nspace name) = none := (not_not.1 hacc).2.2.2.2.2.2.2.1
        exact hmade ((h.refused source snapshot nspace name rfl href).2 hfree)
      · obtain ⟨v, hv⟩ := ne_none_iff_exists'.1 hsome
        exact (h.created [] v hnone hv).1 rfl
    · intro h
      obtain ⟨href, hvols, hdisk⟩ := restoreVolume_unaccepted h
      refine ⟨fun id v hnone hv => ?_, fun _ _ _ _ id _ hcreated => ?_, ?_⟩
      · change (s.restoreVolume d o source snapshot nspace name).1.volumes.lookup id = some v at hv
        rw [hvols, hnone] at hv
        cases hv
      · cases href.symm.trans hcreated
      · rintro _ _ _ _ ⟨⟩ -
        exact ⟨hvols, hdisk⟩
  · have hr : ∀ source snapshot nspace name, x.1 ≠ .restoreVolume source snapshot nspace name :=
      fun _ _ _ _ h => hrest ⟨_, _, _, _, h⟩
    refine ⟨fun _ => ?_, fun _ => ⟨fun id v hnone hv => ?_, fun _ _ _ _ _ h =>
      absurd h (hr _ _ _ _), fun _ _ _ _ h => absurd h (hr _ _ _ _)⟩⟩
    · unfold Unaccepted
      split
      · exact absurd ‹_› (hr _ _ _ _)
      · trivial
    · cases volumeStep hv with
      | kept _ hu => cases hnone.symm.trans hu
      | declared hid hst hmounts =>
        refine ⟨hid, fun o hread hupd => ?_⟩
        simp only [deleteVolume, getVolume, hread, hv, hid, hst, hmounts, hupd, if_true, if_false]
        rfl
      | restored _ _ h => exact absurd h (hr _ _ _ _)

def next (d : Driver) (s : Site) (x : Request × Outcome) : Option Site := some (s.step d x.2 x.1).1

/-- **Volumes are first-class exactly if no restore is accepted**: for every state, and every
sequence of requests and passes. -/
theorem first_class_iff_no_restore (d : Driver) (s : Site) (xs : List (Request × Outcome)) :
    Run.Meets (next d) (FirstClass d) s xs ↔ Run.Meets (next d) (Unaccepted d) s xs :=
  ⟨fun h pre x post u hxs hu => (firstClass_iff x).1 (h pre x post u hxs hu),
    fun h pre x post u hxs hu => (firstClass_iff x).2 (h pre x post u hxs hu)⟩

end Site

namespace Sample

def fresh : Site := ⟨.empty, .empty, .single .dir⟩

def succeeds : Outcome := ⟨true, true, true, true, true, true, true⟩

def uuid : UUID := ⟨lit "u", by decide⟩

def snapshotted (label : Bytes) : List (Request × Outcome) :=
  [(.declareVolume uuid (lit "d") (lit "a") true, succeeds), (.provisionVolume (lit "u"), succeeds),
    (.createSnapshot (lit "u") label uuid (lit "T"), succeeds)]

end Sample

namespace Site

/-- The restored volume has no id. -/
theorem restored_without_id : ¬ Run.Meets (next Sample.localDriver) (FirstClass Sample.localDriver) Sample.fresh
    (Sample.snapshotted (lit "s") ++
      [(.restoreVolume (lit "u") (lit "u") (lit "d") (lit "b"), Sample.succeeds)]) := by
  intro h
  obtain ⟨s, hs, hnone, hsome⟩ : ∃ s, Run.exec (next localDriver) fresh (snapshotted (lit "s")) = some s ∧
      (s.volumes.lookup []).isNone = true ∧ ((s.step localDriver succeeds
        (.restoreVolume (lit "u") (lit "u") (lit "d") (lit "b"))).1.volumes.lookup []).isSome = true :=
    ⟨_, rfl, by decide +kernel, by decide +kernel⟩
  obtain ⟨v, hv⟩ := isSome_iff_exists.1 hsome
  exact ((h _ _ [] s rfl hs).created [] v (isNone_iff_eq_none.1 hnone) hv).1 rfl

end Site

/-! ## Paths below the base directory -/

namespace Path

def Below (base p : Path) : Prop := base <+: p ∧ p ≠ base

/-- **The condition on names**: no segment climbs, and there is one to enter. -/
def Descends (cs : List Bytes) : Prop := lit ".." ∉ cs ∧ cs.any isName = true

theorem foldl_enter {cs : List Bytes} (h : lit ".." ∉ cs) (p : Path) :
    cs.foldl enter p = p ++ cs.filter isName := by
  induction cs generalizing p with
  | nil => exact (append_nil p).symm
  | cons _ _ ih =>
    obtain ⟨hc, hcs⟩ := not_or.1 (mt mem_cons.2 h)
    rw [foldl_cons, ih hcs, enter, if_neg (Ne.symm hc), filter_cons]
    split_ifs
    · rw [append_assoc, singleton_append]
    · rfl

theorem Below.join {base p : Path} (h : Below base p) {elems : List Bytes}
    (helems : lit ".." ∉ elems.flatMap segments) :
    Below base (Path.join p elems) := by
  rw [Path.join, foldl_enter helems]
  refine ⟨h.1.trans (prefix_append _ _), fun heq => h.2 ?_⟩
  exact (List.IsPrefix.eq_of_length_le h.1 (by rw [← heq, length_append]; omega)).symm

theorem below_join {elems : List Bytes} {base : Path} (h : Descends (elems.flatMap segments)) :
    Below base (join base elems) := by
  rw [join, foldl_enter h.1]
  refine ⟨prefix_append _ _, fun heq => ?_⟩
  obtain ⟨c, hc, hname⟩ := any_eq_true.1 h.2
  exact not_mem_nil (append_right_eq_self.1 heq ▸ mem_filter.2 ⟨hc, hname⟩)

theorem descends_of_validate {nspace name : Bytes} (hnspace : validateSegment nspace = true)
    (hname : validateSegment name = true) :
    Descends ([nspace, name].flatMap segments) := by
  have hsegments : ∀ {s : Bytes}, validateSegment s = true → segments s = [s] ∧ isName s = true ∧
      s ≠ lit ".." := by
    intro s h
    simp only [validateSegment, Bool.and_eq_true, decide_eq_true_eq, List.all_eq_true] at h
    refine ⟨splitOn_eq_singleton fun hslash => ?_, ?_, h.1.1.1.2⟩
    · exact absurd (h.1.2 47 hslash) (by decide)
    · simp [isName, h.1.1.1.1.1, h.1.1.1.1.2]
  obtain ⟨hsegs, hisName, hclimb⟩ := hsegments hnspace
  obtain ⟨hsegs', -, hclimb'⟩ := hsegments hname
  simp [Descends, hsegs, hsegs', hisName, hclimb.symm, hclimb'.symm]

end Path

/-- **The condition**: what goes into the path of a snapshot, or of a restored volume, descends. -/
def Request.Descends : Request → Prop
  | .createSnapshot _ label _ stamp => lit ".." ∉ Path.segments (label ++ lit "-" ++ stamp)
  | .restoreVolume _ _ nspace name => nspace ≠ [] → name ≠ [] →
    Path.Descends ([nspace, name].flatMap Path.segments)
  | _ => True

def LocalVolume.Inside (d : Driver) (v : LocalVolume) : Prop :=
  Path.Below d.baseDir (d.volumePath v.nspace v.name) ∧ ∀ p, v.path = some p → Path.Below d.baseDir p

namespace Site

def touches (d : Driver) (s : Site) (o : Outcome) : Request → List Path
  | .declareVolume _ _ _ _ | .deleteVolume _ | .teardownMount _ _ | .checkQuota _ _ => []
  | .createSnapshot volume label _ stamp =>
    ((s.getVolume o volume).bind LocalVolume.path).elim [] fun _ => [d.snapDir, d.snapPath label stamp]
  | .restoreVolume _ _ nspace name => if nspace = [] ∨ name = [] then [] else [d.volumePath nspace name]
  | .provisionVolume id => (s.getVolume o id).elim [] fun v => [d.volumePath v.nspace v.name]
  | .resolveMount id | .reclaimVolume id => ((s.getVolume o id).bind LocalVolume.path).toList

def Inside (d : Driver) (s : Site) : Prop := ∀ id v, s.volumes.lookup id = some v → v.Inside d

variable {d : Driver} {s : Site} {o : Outcome}

theorem below_snapDir (d : Driver) : Path.Below d.baseDir d.snapDir :=
  Path.below_join (by unfold Path.Descends; decide +kernel)

theorem below_of_touches (h : s.Inside d) {r : Request} (hr : r.Descends) {p : Path}
    (hp : p ∈ s.touches d o r) : Path.Below d.baseDir p := by
  have hvol : ∀ {id v}, s.getVolume o id = some v → v.Inside d := by
    intro id v hv
    unfold getVolume at hv
    split_ifs at hv
    exact h id v hv
  cases r with
  | declareVolume | deleteVolume | teardownMount | checkQuota => cases hp
  | createSnapshot volume label _ stamp =>
    have hsnap : Path.Below d.baseDir (d.snapPath label stamp) :=
      (below_snapDir d).join (by simpa [Request.Descends] using hr)
    simp only [touches] at hp
    cases hpath : (s.getVolume o volume).bind LocalVolume.path with
    | none => simp [hpath] at hp
    | some =>
      simp only [hpath, elim_some, mem_cons, not_mem_nil, or_false] at hp
      rcases hp with rfl | rfl
      · exact below_snapDir d
      · exact hsnap
  | restoreVolume =>
    simp only [touches] at hp
    split_ifs at hp with hempty
    · cases hp
    · obtain rfl := mem_singleton.1 hp
      obtain ⟨hnspace, hname⟩ := not_or.1 hempty
      exact Path.below_join (hr hnspace hname)
  | provisionVolume id =>
    simp only [touches] at hp
    cases hv : s.getVolume o id with
    | none => simp [hv] at hp
    | some =>
      simp only [hv, elim_some, mem_singleton] at hp
      subst hp
      exact (hvol hv).1
  | resolveMount | reclaimVolume =>
    obtain ⟨v, hv, hpath⟩ := bind_eq_some_iff.1 (mem_toList.1 hp)
    exact (hvol hv).2 p hpath

theorem Inside.step (h : s.Inside d) {r : Request} (hr : r.Descends) : (s.step d o r).1.Inside d := by
  intro id v hv
  cases volumeStep hv with
  | kept u hu hnspace hname hpath =>
    obtain ⟨hbelow, hup⟩ := h id u hu
    refine ⟨by rwa [hnspace, hname], fun p hp => ?_⟩
    rcases hpath with hpath | hpath
    · exact hup p (hpath.symm.trans hp)
    · exact mem_unique hpath hp ▸ hbelow
  | declared _ _ _ hnspace hname hpath =>
    refine ⟨Path.below_join (Path.descends_of_validate hnspace hname), fun p hp => ?_⟩
    cases hpath.symm.trans hp
  | restored _ _ hr' hnspace hname hpath =>
    subst hr'
    have hbelow : Path.Below d.baseDir (d.volumePath v.nspace v.name) := Path.below_join (hr hnspace hname)
    exact ⟨hbelow, fun p hp => mem_unique hpath hp ▸ hbelow⟩

/-- **What a request touches** is all that it can change on disk. -/
theorem at_step_of_apart {r : Request} {p : Path} (h : ∀ q ∈ s.touches d o r, Apart p q) :
    (s.step d o r).1.disk.at_ p = s.disk.at_ p := by
  have hrow : ∀ {j f}, (∀ v, s.getVolume o j = some v → (f v : Site × Reply).1.disk.at_ p = s.disk.at_ p) →
      ((s.getVolume o j).elim (s, Reply.refused) f).1.disk.at_ p = s.disk.at_ p := by
    intro j f hf
    cases hj : s.getVolume o j with
    | none => rfl
    | some v => exact hf v hj
  have hmade : ∀ q ∈ s.touches d o r, (s.disk.graft q (.single .dir)).at_ p = s.disk.at_ p :=
    fun q hq => at_graft_of_apart (h q hq)
  have hremoved : ∀ q ∈ s.touches d o r, (s.disk.removeAll q).at_ p = s.disk.at_ p := fun q hq =>
    at_removeAll_of_apart (h q hq)
  cases r with
  | declareVolume => grind [step, → volumes_createVolume]
  | createSnapshot volume label id stamp =>
    have hsnap : ∀ v src, s.getVolume o volume = some v → v.path = some src →
        (d.snapshot s.disk src label stamp o.io).1.at_ p = s.disk.at_ p := by
      intro v src hv hpath
      simp only [touches, hv, bind_some, hpath, elim_some, forall_mem_cons] at h
      exact Driver.at_snapshot_of_apart h.1.1 h.2.1
    grind [step, createSnapshot]
  | restoreVolume source snapshot nspace name =>
    have hrest : ∀ ref, nspace ≠ [] → name ≠ [] →
        (d.restoreFrom s.disk ref nspace name o.io).1.at_ p = s.disk.at_ p := by
      intro ref hnspace hname
      exact Driver.at_restoreFrom_of_apart (h _ (by simp [touches, hnspace, hname]))
    simp only [step, restoreVolume]
    split
    · rfl
    · split
      · grind [→ volumes_createVolume]
      · rfl
  | deleteVolume => grind [step, deleteVolume, setVolume]
  | teardownMount | checkQuota => exact hrow fun v _ => by grind [teardownMount, checkQuota, setVolume]
  | provisionVolume => exact hrow fun v hv => by grind [provisionVolume, setVolume, touches]
  | resolveMount | reclaimVolume =>
    refine hrow fun v hv => ?_
    simp only [touches, hv, bind_some, mem_toList] at hmade hremoved
    cases hpath : v.path with
    | none | some path => grind [resolveMount, reclaimVolume, setVolume]

/-- **The driver keeps to its base directory**, if labels and the names of restored volumes descend:
for every sequence of requests and passes. -/
theorem touches_below (d : Driver) (s : Site) (hs : s.Inside d) (xs : List (Request × Outcome))
    (hxs : ∀ x ∈ xs, x.1.Descends) :
    Run.Meets (next d) (fun s x => ∀ p ∈ s.touches d x.2 x.1, Path.Below d.baseDir p) s xs := by
  intro _ x _ u hsplit hu
  have hinside : u.Inside d := by
    refine Run.exec_invariant_of_meets (fun s x t hs hx ht => ?_) hs
      (Run.meets_of_forall (fun y hy => hxs y ?_) s) hu
    · cases ht
      exact hs.step hx
    · rw [hsplit]
      exact mem_append_left _ hy
  refine fun p hp => below_of_touches hinside (hxs x ?_) hp
  rw [hsplit]
  exact mem_append_right _ mem_cons_self

/-- **Nothing outside the base directory changes** in such a sequence. -/
theorem outside_unchanged (d : Driver) (s : Site) (hs : s.Inside d) (xs : List (Request × Outcome))
    (hxs : ∀ x ∈ xs, x.1.Descends) {s' : Site} (hrun : Run.exec (next d) s xs = some s') {p : Path}
    (hp : Apart p d.baseDir) : s'.disk.at_ p = s.disk.at_ p := by
  have hapart : ∀ {q}, Path.Below d.baseDir q → Apart p q := by
    intro q hq
    refine ⟨fun hpq => ?_, fun hqp => hp.2 (hq.1.trans hqp)⟩
    rcases prefix_or_prefix_of_prefix hpq hq.1 with h | h
    · exact hp.1 h
    · exact hp.2 h
  refine (Run.exec_invariant_of_meets (I := fun u => u.Inside d ∧ u.disk.at_ p = s.disk.at_ p)
    (fun u x t hu hx ht => ?_) ⟨hs, rfl⟩ (Run.meets_of_forall hxs s) hrun).2
  cases ht
  refine ⟨hu.1.step hx, (at_step_of_apart fun q hq => ?_).trans hu.2⟩
  exact hapart (below_of_touches hu.1 hx hq)

theorem inside_fresh (d : Driver) : fresh.Inside d := by
  intro _ v hv
  cases hv

/-- A label climbs, and the snapshot is made outside. -/
theorem snapshot_outside : ¬ Run.Meets (next localDriver)
    (fun s x => ∀ p ∈ s.touches localDriver x.2 x.1, Path.Below localDriver.baseDir p) fresh
      (snapshotted (lit "../../x")) := by
  intro h
  have hbelow := h ((snapshotted (lit "../../x")).take 2) _ [] _ rfl rfl [lit "x-T"] (by decide +kernel)
  exact absurd hbelow.1 (by decide +kernel)

theorem snapshot_inside : Run.Meets (next localDriver)
    (fun s x => ∀ p ∈ s.touches localDriver x.2 x.1, Path.Below localDriver.baseDir p) fresh
      (snapshotted (lit "s")) := by
  refine touches_below localDriver fresh (inside_fresh _) _ fun x hx => ?_
  simp only [snapshotted, mem_cons, not_mem_nil, or_false] at hx
  rcases hx with rfl | rfl | rfl
  · trivial
  · trivial
  · show lit ".." ∉ Path.segments (lit "s" ++ lit "-" ++ lit "T")
    decide +kernel

end Site

end Ocelot.VirtualServer
