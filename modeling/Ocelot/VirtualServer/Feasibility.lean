/-
# What the scheduler takes for feasible, and what the store allocates.
-/
import Ocelot.VirtualServer.Placement
import Mathlib.Data.Prod.Lex

namespace Ocelot.VirtualServer

open Sample List Table Node InsertionSort
open Tracker (Bytes lit)

variable {F : Type}

def Tables.reserved (t t' : Tables) : ℕ :=
  t'.gpus.count fun k g => g.allocated && !(t.gpus.lookup k).any GPURow.allocated

def Tables.freeDevices (t : Tables) (node : NodeID) (gpu : Option ℤ) : ℕ :=
  t.gpus.count fun _ g => gpu.any fun d => g.isDevice node d && !g.allocated

theorem Tables.Booked.reserved {t t' : Tables} {env : Env} {i : InstanceID} {node : NodeID}
    {cpu ram : ℤ} {gpu : Option ℤ}
    (h : t.Booked t' env i node cpu ram gpu) : t.reserved t' = t.freeDevices node gpu := by
  have hrows : ∀ e ∈ t.gpus.rows, (t.gpus.lookup e.1).any GPURow.allocated = e.2.allocated := by
    intro e he
    rw [Table.lookup_eq_some_iff.2 he]
    rfl
  unfold Tables.reserved freeDevices Table.count
  rw [h.gpus_eq]
  cases gpu with
  | none =>
    refine List.countP_congr fun e he => ?_
    simp [hrows e he]
  | some d =>
    simp only [flagGPU, Table.modify, List.countP_map]
    refine List.countP_congr fun e he => ?_
    simp only [Function.comp_apply]
    rw [hrows e he]
    cases hdev : e.2.isDevice node d <;> cases hall : e.2.allocated <;> simp [hdev, hall]

def Tables.Allocates (t : Tables) (env : Env) (i : InstanceID) (node : NodeID) (r : ResourceRequest)
    (gpu : Option ℤ) : Prop :=
  ∃ t', t.allocateResources env i node r.cpuThreads r.ramMiB gpu = .ok t' ∧
    (t.reserved t' : ℤ) = if r.gpu.required then r.gpu.count else 0

/-- **The condition**: the node has the threads and the memory left, and where a GPU is required,
the first device that is eligible is all that is wanted, and is found free. -/
structure Tables.Fits (t : Tables) (env : Env) (n : Node) (r : ResourceRequest) (gpu : Option ℤ) : Prop where
  cpu : 0 < r.cpuThreads → r.cpuThreads ≤ n.availCPUThreads
  ram : r.ramMiB ≤ n.availRAMMiB
  free : gpu.any (t.gpuAllocated env n.id) = false
  devices : r.gpu.required = true → (t.freeDevices n.id gpu : ℤ) = r.gpu.count

def Tables.survey (t : Tables) (env : Env) (load : Node → ℤ) : List Node :=
  (t.listNodes env none).map fun n => { n with activeInstances := load n }

def selectNode [Float64 F] (cfg : Config F) (w : World) (env : ℕ → Env) (spec : ServiceSpec)
    (eligible : List Node) : Option Node :=
  (Prog.run act env (schedule spec (computeScore cfg.catalog cfg.weights spec) eligible) w).2

/-- **Scheduling and allocation agree exactly if the node fits**: for every database, the nodes that
are stored in it with any number of instances counted on them, every manifest, and every instance
without an allocation. -/
theorem schedule_allocates_iff [Float64 F] (cfg : Config F) (w : World) (env₀ : Env)
    (load : Node → ℤ) (pinned : NodeID)
    (spec : ServiceSpec) (env : ℕ → Env) {n : Node} {i : InstanceID}
    (hselected : selectNode cfg w env spec (eligibleNodes (w.tables.survey env₀ load) pinned) = some n)
    (hknown : w.tables.instances.lookup i ≠ none) (hfresh : w.tables.allocations.lookup i = none) (env' : Env) :
    let gpu := firstGPU (eligibleNodes (w.tables.survey env₀ load) pinned) n.id spec.resources.gpu
    w.tables.Allocates env' i n.id spec.resources gpu ↔ w.tables.Fits env' n spec.resources gpu := by
  intro gpu
  have hnode : w.tables.nodes.lookup n.id = some n.toNodeRow := by
    have hmem : n ∈ eligibleNodes (w.tables.survey env₀ load) pinned :=
      Prog.Wp.run (wp_schedule (G := fun _ _ _ => True) (J := fun _ => True)
        (R := fun chosen _ => chosen = some n → n ∈ _)
        (fun m => issues_computeScore (fun _ hq => hq) _ _ _ m) trivial (fun _ h => by cases h)
        (fun m hm _ h => Option.some.inj h ▸ hm)) (.of_forall (fun _ _ _ => trivial) _ _) hselected
    obtain ⟨m, hm, rfl⟩ := List.mem_map.1 (mem_of_mem_eligibleNodes hmem)
    obtain ⟨e, he, rfl⟩ := List.mem_map.1 hm
    exact (Table.mem_ordered.1 he).1
  have hadmits : w.tables.Admits i n.id spec.resources.cpuThreads spec.resources.ramMiB ↔
      spec.resources.ramMiB ≤ n.availRAMMiB ∧
          (0 < spec.resources.cpuThreads → spec.resources.cpuThreads ≤ n.availCPUThreads) := by
    refine ⟨fun h => ?_, fun h => ⟨⟨_, hnode, h⟩, hknown, hfresh⟩⟩
    obtain ⟨_, hrow, hfits⟩ := h.node
    obtain rfl := Option.mem_unique hnode hrow
    exact hfits
  have hnone : spec.resources.gpu.required = false → gpu = none := by
    intro h
    exact if_neg (by simp [h])
  rcases w.tables.allocateResources_cases env' i n.id spec.resources.cpuThreads spec.resources.ramMiB gpu with
    ⟨t', hok, hadm, hfree, hbook⟩ | ⟨⟨e, herr⟩, hnot⟩
  · obtain ⟨hram, hcpu⟩ := hadmits.1 hadm
    constructor
    · rintro ⟨_, hok', hcnt⟩
      obtain rfl := Except.ok.inj (hok.symm.trans hok')
      refine ⟨hcpu, hram, hfree, fun hrequired => ?_⟩
      rw [← hbook.reserved, hcnt, if_pos hrequired]
    · intro h
      refine ⟨t', hok, ?_⟩
      rw [hbook.reserved]
      split_ifs with hrequired
      · exact h.devices hrequired
      · rw [hnone (Bool.eq_false_iff.2 hrequired)]
        simp [Tables.freeDevices, Table.count]
  · constructor
    · rintro ⟨t', hok, -⟩
      cases herr.symm.trans hok
    · exact fun h => absurd ⟨hadmits.2 ⟨h.ram, h.cpu⟩, h.free⟩ hnot

namespace Sample

def crowded (cpuThreads : ℤ) : Tables :=
  let writes : List (Env × Write) :=
    [(calm, .createNode { host with cpuThreads }), (calm, .createInstance 1 (lit "vs://d/web/0")),
    ({ calm with newID := lit "i2" }, .createInstance 1 (lit "vs://d/web/1")),
    (calm, .allocateResources (lit "i1") (lit "n1") 2 512 none)]
  writes.foldl (fun t x => (x.2.exec x.1 t).1)
    { Tables.empty with services := ⟨[(1, web (lit "never") 0 [])], nodup_singleton _⟩ }

def selected (cpuThreads : ℤ) : Option Node :=
  selectNode config ⟨crowded cpuThreads, []⟩ (fun _ => calm) (web (lit "never") 0 []).manifest.spec
    (eligibleNodes ((crowded cpuThreads).survey calm fun _ => 0) [])

end Sample

/-- There are three threads: the second instance is scheduled to the node, and the allocation
fails. -/
theorem scheduled_not_allocated : ∃ n, selected 3 = some n ∧
    ¬ (crowded 3).Allocates calm (lit "i2") n.id (web (lit "never") 0 []).manifest.spec.resources none := by
  obtain ⟨n, hsel, herr⟩ : ∃ n, selected 3 = some n ∧
      ((crowded 3).allocateResources calm (lit "i2") n.id 2 512 none).toOption.isNone = true := by decide +kernel
  refine ⟨n, hsel, ?_⟩
  rintro ⟨t', hok, -⟩
  change (crowded 3).allocateResources calm (lit "i2") n.id 2 512 none = .ok t' at hok
  rw [hok] at herr
  cases herr

theorem scheduled_allocated : ∃ n, selected 4 = some n ∧
    (crowded 4).Allocates calm (lit "i2") n.id (web (lit "never") 0 []).manifest.spec.resources none := by
  obtain ⟨n, hsel, hcpu, hram⟩ : ∃ n, selected 4 = some n ∧ 2 ≤ n.availCPUThreads ∧ 512 ≤ n.availRAMMiB := by
    decide +kernel
  refine ⟨n, hsel, (schedule_allocates_iff config ⟨crowded 4, []⟩ calm (fun _ => 0) []
    (web (lit "never") 0 []).manifest.spec (fun _ => calm) hsel (by decide +kernel) (by decide +kernel)
    calm).2 ⟨fun _ => hcpu, hram, rfl, fun h => by cases h⟩⟩

variable (spec : ServiceSpec)

abbrev Reasons := Finmap fun _ : Bytes => List Rejection

def addReasons (reasons : Reasons) (n : Node) : Reasons :=
  if hardFilter n spec = [] then reasons else reasons.insert n.name (hardFilter n spec)

def rejectionReasons (nodes : List Node) : Reasons := nodes.foldl (addReasons spec) ∅

/-- **The hard constraints.** -/
structure Node.Satisfies (n : Node) (spec : ServiceSpec) : Prop where
  ready : n.state = .ready
  architecture : spec.placement.requiredArch = [] ∨ n.arch = spec.placement.requiredArch
  labelled : ∀ e ∈ spec.placement.requiredLabels, n.labels.get e.1 = e.2
  included : ∀ x ∈ spec.placement.excludedNodes, n.name ≠ x ∧ n.id ≠ x
  cpu : spec.resources.cpuThreads ≤ max 0 n.cpuThreads
  ram : spec.resources.ramMiB ≤ max 0 n.availRAMMiB
  gpu : spec.resources.gpu.required = true →
    spec.resources.gpu.count ≤ (n.eligibleGPUs spec.resources.gpu.minVRAMMiB).length

theorem hardFilter_eq_nil_iff {n : Node} {spec : ServiceSpec} : hardFilter n spec = [] ↔ n.Satisfies spec := by
  have hgpu : gpuRejections n spec.resources.gpu = [] ↔ (spec.resources.gpu.required = true →
      spec.resources.gpu.count ≤ (n.eligibleGPUs spec.resources.gpu.minVRAMMiB).length) := by
    unfold gpuRejections
    split_ifs <;> simp_all
  have hres : ∀ need has : ℤ, ¬ (0 < need ∧ has < need) ↔ need ≤ max 0 has := by
    intro need has
    omega
  unfold hardFilter
  by_cases hst : n.state = .ready
  · rw [if_neg (not_not.2 hst)]
    simp only [append_eq_nil_iff, hgpu, ite_eq_right_iff, map_eq_nil_iff, filter_eq_nil_iff,
      reduceCtorEq, imp_false, hres]
    constructor
    · rintro ⟨⟨⟨⟨⟨harch, hlab⟩, hexc⟩, hcpu⟩, hram⟩, hgpu⟩
      exact ⟨hst, by tauto, by simpa using hlab, by simpa using hexc, hcpu, hram, hgpu⟩
    · rintro ⟨-, harch, hlab, hexc, hcpu, hram, hgpu⟩
      exact ⟨⟨⟨⟨⟨by tauto, by simpa using hlab⟩, by simpa using hexc⟩, hcpu⟩, hram⟩, hgpu⟩
  · rw [if_pos hst]
    exact iff_of_false (by simp) fun h => hst h.ready

theorem mem_rejectionReasons (nodes : List Node) (name : Bytes) :
    name ∈ rejectionReasons spec nodes ↔ ∃ n ∈ nodes, n.name = name ∧ ¬ n.Satisfies spec := by
  suffices h : ∀ reasons, name ∈ nodes.foldl (addReasons spec) reasons ↔
      name ∈ reasons ∨ ∃ n ∈ nodes, n.name = name ∧ ¬ n.Satisfies spec by
    simpa [rejectionReasons, Finmap.notMem_empty] using h ∅
  induction nodes with
  | nil => simp
  | cons n nodes ih =>
    intro reasons
    rw [foldl_cons, ih, exists_mem_cons_iff, ← hardFilter_eq_nil_iff, addReasons]
    split_ifs with h
    · simp [h]
    · rw [Finmap.mem_insert, eq_comm]
      simp only [h, not_false_eq_true, and_true]
      tauto

theorem candidates_pure (score : Node → F) (nodes : List Node) :
    candidates spec (fun n => return score n) nodes =
      return (nodes.filter fun n => hardFilter n spec = []).map fun n => (n, score n) := by
  induction nodes with
  | nil => rfl
  | cons n nodes ih =>
    unfold candidates
    split_ifs with h
    · rw [filter_cons_of_pos (by simpa using h), ih]
      rfl
    · rw [filter_cons_of_neg (by simpa using h), ih]

section

variable [Float64 F] [LinearOrder F]

/-- By score, the largest first, then by name. -/
def Node.rank (a : Node × F) : Fᵒᵈ ×ₗ List ℕ := toLex (OrderDual.toDual a.2, byteOrder a.1.name)

variable (hle : ∀ x y : F, Float64.le x y = decide (x ≤ y)) (hlt : ∀ x y : F, Float64.lt x y = decide (x < y))
include hle hlt

theorem standsBefore_iff (a b : Node × F) : standsBefore a b = true ↔ rank a < rank b := by
  unfold standsBefore rank
  rw [Prod.Lex.toLex_lt_toLex]
  simp only [hle, hlt, OrderDual.toDual_lt_toDual, OrderDual.toDual_inj]
  rcases lt_trichotomy a.2 b.2 with h | h | h
  · simp [h.not_ge, h.not_gt, h.ne]
  · simp [h]
  · simp [h.not_ge, h]

/-- **The selection**: it fails exactly if every node violates a hard constraint, and else it is the
node that comes first by score and then by name, whatever the order of the list. -/
theorem schedule_selects_best (score : Node → F) (nodes : List Node)
    (hnames : (nodes.map fun n => n.name).Nodup) : ∃ chosen : Option Node,
      (∀ nodes', nodes'.Perm nodes → schedule spec (fun n => return score n) nodes' = return chosen) ∧
      (chosen = none ↔ ∀ n ∈ nodes, ¬ n.Satisfies spec) ∧
      (∀ n, chosen = some n → n ∈ nodes ∧ n.Satisfies spec ∧ ∀ m ∈ nodes, m.Satisfies spec →
        score m < score n ∨ score m = score n ∧ byteOrder n.name ≤ byteOrder m.name) ∧
      ∀ name, name ∈ rejectionReasons spec nodes ↔ ∃ n ∈ nodes, n.name = name ∧ ¬ n.Satisfies spec := by
  let found (nodes : List Node) := (nodes.filter fun n => hardFilter n spec = []).map fun n => (n, score n)
  let sorted (nodes : List Node) := sort standsBefore (found nodes)
  have hperm : ∀ nodes, (sorted nodes).Perm (found nodes) := fun nodes => sort_perm _ _
  have horder : ∀ nodes, (sorted nodes).Pairwise fun a b => rank a ≤ rank b :=
    fun nodes => sort_pairwise (standsBefore_iff hle hlt) _
  have hmem : ∀ x ∈ sorted nodes, x.1 ∈ nodes ∧ x.1.Satisfies spec ∧ x.2 = score x.1 := by
    intro x hx
    obtain ⟨n, hn, rfl⟩ := mem_map.1 ((hperm nodes).mem_iff.1 hx)
    obtain ⟨hn, hpass⟩ := mem_filter.1 hn
    exact ⟨hn, hardFilter_eq_nil_iff.1 (of_decide_eq_true hpass), rfl⟩
  have hfound : ∀ n ∈ nodes, n.Satisfies spec → (n, score n) ∈ sorted nodes := by
    intro n hn hpass
    refine (hperm nodes).mem_iff.2 (mem_map.2 ⟨n, mem_filter.2 ⟨hn, ?_⟩, rfl⟩)
    exact decide_eq_true (hardFilter_eq_nil_iff.2 hpass)
  refine ⟨(sorted nodes).head?.map Prod.fst, fun nodes' hnodes => ?_, ?_, fun n hn => ?_,
    mem_rejectionReasons spec nodes⟩
  · have hsame : sorted nodes' = sorted nodes := by
      have hfront : (sorted nodes').Perm (sorted nodes) :=
        (hperm nodes').trans (((hnodes.filter _).map _).trans (hperm nodes).symm)
      refine hfront.eq_of_pairwise (fun a b ha hb hab hba => ?_) (horder nodes') (horder nodes)
      -- nodes of one rank have one name
      obtain ⟨ha, -, hascore⟩ := hmem a (hfront.mem_iff.1 ha)
      obtain ⟨hb, -, hbscore⟩ := hmem b hb
      have hname := congrArg (fun r : Fᵒᵈ ×ₗ List ℕ => (ofLex r).2) (le_antisymm hab hba)
      have hnode := inj_on_of_nodup_map hnames ha hb (map_injective_iff.2 (fun _ _ => UInt8.toNat_inj.1) hname)
      exact Prod.ext hnode (by rw [hascore, hbscore, hnode])
    rw [← hsame, schedule, candidates_pure]
    rfl
  · rw [Option.map_eq_none_iff, head?_eq_none_iff]
    refine ⟨fun hnil n hn hpass => ?_, fun hnone => eq_nil_iff_forall_not_mem.2 fun x hx => ?_⟩
    · exact absurd (hfound n hn hpass) (hnil ▸ not_mem_nil)
    · exact hnone x.1 (hmem x hx).1 (hmem x hx).2.1
  · obtain ⟨x, hx, rfl⟩ := Option.map_eq_some_iff.1 hn
    obtain ⟨rest, hsort⟩ := head?_eq_some_iff.1 hx
    obtain ⟨hx, hpass, hscore⟩ := hmem x (mem_of_mem_head? hx)
    refine ⟨hx, hpass, fun m hm hmpass => ?_⟩
    have hrank : rank x ≤ rank (m, score m) := by
      have hpair := horder nodes
      rw [hsort, pairwise_cons] at hpair
      rcases mem_cons.1 (hsort ▸ hfound m hm hmpass) with rfl | hrest
      · exact le_rfl
      · exact hpair.1 _ hrest
    rw [rank, rank, Prod.Lex.toLex_le_toLex] at hrank
    exact hrank.imp (hscore ▸ ·) fun h => ⟨(hscore.symm.trans h.1).symm, h.2⟩

end

def Sample.hosts : List Node := [host, { host with name := lit "b", availRAMMiB := 2048 }]

theorem schedule_selects_larger : ∃ chosen, schedule (web (lit "never") 0 []).manifest.spec
    (fun n => return (n.availRAMMiB : ℚ))
    hosts = (return some chosen) ∧ host.availRAMMiB ≤ chosen.availRAMMiB := by
  obtain ⟨chosen, hperm, hnone, hbest, -⟩ := schedule_selects_best (web (lit "never") 0 []).manifest.spec
    (fun _ _ => rfl) (fun _ _ => rfl) (fun n => (n.availRAMMiB : ℚ)) hosts (by decide)
  have hhost : host.Satisfies (web (lit "never") 0 []).manifest.spec := hardFilter_eq_nil_iff.1 (by decide +kernel)
  cases chosen with
  | none => exact absurd hhost (hnone.1 rfl host mem_cons_self)
  | some n =>
    refine ⟨n, hperm _ (.refl _), ?_⟩
    rcases (hbest n rfl).2.2 host mem_cons_self hhost with h | h
    · exact_mod_cast h.le
    · exact_mod_cast h.1.le

end Ocelot.VirtualServer
