/-
# What an organisation sees of the others (`workload_api.go`, `event_api.go`).
-/
import Ocelot.Compute.AgentAPI

namespace Ocelot.Compute

open List Option Table Bool Tables Sample
open Tracker (Bytes lit atoi Query)

abbrev VolumeID := Bytes

structure VolumeMount where
  volumeID : VolumeID
  mountPoint : Bytes
  driver : Bytes
  readOnly : Bool
  deriving DecidableEq

structure VolumeRow where
  orgID : OrgID
  driver : Bytes
  sourcePath : Option Bytes
  deletedAt : Option Millis
  deriving DecidableEq

/-- What the tables do not hold: the volumes, the mounts of each workload, and the id and payload of
each entry of the journal. -/
structure Annex where
  volumes : Table VolumeID VolumeRow
  mounts : WorkloadID → List VolumeMount
  tag : ℕ → Bytes × Bytes

def pageLimit (q : Query) (default most : ℕ) : ℕ :=
  match atoi (q.get "limit") with
  | some n => if 0 < n ∧ n ≤ most then n.toNat else default
  | none => default

def wants (q : Query) (name : String) (column : Option Bytes) : Bool :=
  q.get name = [] || column = some (q.get name)

def page {α : Type} (id : α → Bytes) (limit : ℕ) (found : List α) : List α × Option Bytes :=
  if limit < found.length then (found.take limit, (found[limit - 1]?).map id) else (found, none)

structure WorkloadSummary where
  id : WorkloadID
  orgID : OrgID
  projectID : Bytes
  name : Bytes
  status : WorkloadStatus
  priority : ℤ
  nodeID : NodeID
  submittedAt : Millis
  queuedAt : Option Millis
  scheduledAt : Option Millis
  startedAt : Option Millis
  finishedAt : Option Millis
  exitCode : Option ℤ
  failureMsg : Bytes
  retryCount : ℤ
  maxRetries : ℤ
  deadline : Option Millis
  deriving DecidableEq

def scanWorkloadSummary (id : WorkloadID) (w : Workload) : WorkloadSummary where
  id := id
  orgID := w.orgID
  projectID := w.projectID.getD []
  name := w.name
  status := w.status
  priority := w.priority
  nodeID := w.nodeID.getD []
  submittedAt := w.submittedAt
  queuedAt := w.queuedAt
  scheduledAt := w.scheduledAt
  startedAt := w.startedAt
  finishedAt := w.finishedAt
  exitCode := w.exitCode
  failureMsg := w.failureMsg.getD []
  retryCount := w.retryCount
  maxRetries := w.maxRetries
  deadline := w.deadline

structure WorkloadDetail extends WorkloadSummary where
  manifest : WorkloadManifest
  volumes : List VolumeMount
  deriving DecidableEq

def Tables.lists (t : Tables) (org : OrgID) (q : Query) (w : Workload) : Bool :=
  w.orgID = org && wants q "status" (some w.status.text) && wants q "node_id" w.nodeID &&
    wants q "project_id" w.projectID &&
    (q.get "cursor" = [] || (t.workloads.lookup (q.get "cursor")).any fun c => w.submittedAt < c.submittedAt)

variable (env : Env) (org : OrgID)

def WorkloadAPI.handleList (q : Query) (t : Tables) :
    Except Response (List WorkloadSummary × Option WorkloadID) :=
  if env.fails then .error databaseError
  else
    let limit := pageLimit q 50 200
    let found := t.workloads.ordered (fun _ w => t.lists org q w) (fun _ w => -w.submittedAt) env.rank
    .ok (page WorkloadSummary.id limit ((found.take (limit + 1)).map fun e => scanWorkloadSummary e.1 e.2))

open WorkloadAPI

def WorkloadAPI.handleGet (id : WorkloadID) (a : Annex) (t : Tables) :
    Except Response WorkloadDetail :=
  if env.fails then .error databaseError
  else
    match (t.workloads.lookup id).filter fun w => w.orgID = org with
    | none => .error workloadNotFound
    | some w => .ok { scanWorkloadSummary id w with manifest := w.manifest, volumes := a.mounts id }

structure EventSummary extends EventRow where
  id : Bytes
  orgID : OrgID
  payload : Bytes
  deriving DecidableEq

def Annex.journal (a : Annex) (t : Tables) : List EventSummary :=
  t.events.mapIdx fun k row => { row with id := (a.tag k).1, orgID := [], payload := (a.tag k).2 }

def EventSummary.matches (q : Query) (e : EventSummary) : Bool :=
  wants q "kind" (some e.kind) && wants q "subject_type" (some e.subjectType) &&
    wants q "subject_id" (some e.subjectID) && wants q "actor" (some e.actor)

def EventSummary.lists (journal : List EventSummary) (org : OrgID) (q : Query) (e : EventSummary) :
    Bool :=
  (e.orgID = org || e.orgID = []) && e.matches q &&
    (q.get "cursor" = [] ||
      (journal.find? fun c => c.id = q.get "cursor").any fun c => e.ts < c.ts)

/-- The page of a journal that a query selects. -/
def EventAPI.select (q : Query) (journal : List EventSummary) : List EventSummary × Option Bytes :=
  let limit := pageLimit q 100 500
  let found := (journal.filter fun e => e.lists journal org q).insertionSort
    fun x y => toLex (-x.ts, env.rank x.id) ≤ toLex (-y.ts, env.rank y.id)
  page EventSummary.id limit (found.take (limit + 1))

def EventAPI.handleList (q : Query) (a : Annex) (t : Tables) :
    Except Response (List EventSummary × Option Bytes) :=
  if env.fails then .error databaseError else .ok (EventAPI.select env org q (a.journal t))

structure VolumeSpec where
  volumeID : VolumeID
  driver : Bytes
  sourcePath : Bytes
  deriving DecidableEq

def Annex.volumeSpec (a : Annex) (id : VolumeID) : Option VolumeSpec :=
  ((a.volumes.lookup id).filter fun v => v.deletedAt = none).map fun v => ⟨id, v.driver, v.sourcePath.getD []⟩

def handleDesired (node : NodeID) (a : Annex) (t : Tables) :
    Except Response (List DesiredWorkload × List VolumeSpec) :=
  if env.fails then .error databaseError
  else
    let workloads := t.desired node env.rank
    .ok (workloads, (workloads.flatMap fun wl =>
      (a.mounts wl.id).map VolumeMount.volumeID).dedup.filterMap a.volumeSpec)

/-! ## What a run does to an organisation -/

deriving instance DecidableEq for WorkloadStmt

/-- A change of the workloads of an organisation. -/
inductive Deed where
  | inserted (id : WorkloadID) (row : Workload)
  | updated (s : WorkloadStmt)
  | dispatched (id : WorkloadID) (node : NodeID) (now : Millis)
  deriving DecidableEq

def Tables.owns (t : Tables) (org : OrgID) (w : WorkloadID) : Bool :=
  (t.workloads.lookup w).any fun row => row.orgID = org

/-- The deed of a statement, if it does something to a workload of the organisation. -/
def workloadDeed (env : Env) (t : Tables) : Op → Option Deed
  | .exec (.insertWorkload id row) =>
    if row.orgID = org ∧ (Stmt.exec t (.insertWorkload id row)).2 ≠ none then some (.inserted id row) else none
  | .exec (.updateWorkload s) => if t.owns org s.id then some (.updated s) else none
  | .scheduleOne pw =>
    if t.owns org pw.id ∧ (scheduleTx env pw t).2 = some true then
      (t.findNode pw.manifest.resources env.rank).map fun node => .dispatched pw.id node env.now
    else none
  | _ => none

def Tables.rowsOf (t : Tables) (org : OrgID) : List (WorkloadID × Workload) :=
  t.workloads.select fun _ w => w.orgID = org

def Deed.apply (rows : List (WorkloadID × Workload)) : Deed → List (WorkloadID × Workload)
  | .inserted id row => rows ++ [(id, row)]
  | .updated s => rows.map fun e => (e.1, if s.applies e.1 e.2 then s.set e.2 else e.2)
  | .dispatched id node now =>
    rows.map fun e => (e.1, if dispatchable id e.1 e.2 then dispatch node now e.2 else e.2)

section

variable {org : OrgID} {env : Env} {op : Op} {t : Tables}

theorem mem_rowsOf {e : WorkloadID × Workload} :
    e ∈ t.rowsOf org ↔ t.workloads.lookup e.1 = some e.2 ∧ e.2.orgID = org := by
  rw [rowsOf, mem_select, decide_eq_true_eq]

theorem WorkloadStmt.orgID_set (s : WorkloadStmt) (row : Workload) : (s.set row).orgID = row.orgID := by
  cases s with
  | cancel =>
    simp only [WorkloadStmt.set]
    split_ifs <;> rfl
  | _ => rfl

theorem map_rows_of_not_owns {f : Workload → Workload} {p : WorkloadID → Workload → Bool}
    {w : WorkloadID} (hp : ∀ k r, p k r = true → k = w) (h : t.owns org w = false) :
    ((t.rowsOf org).map fun e => (e.1, if p e.1 e.2 then f e.2 else e.2)) = t.rowsOf org := by
  refine (map_congr_left fun e he => ?_).trans (map_id _)
  obtain ⟨hrow, horg⟩ := mem_rowsOf.1 he
  rw [if_neg]
  · rfl
  · intro hpe
    rw [owns, ← hp e.1 e.2 hpe, hrow] at h
    simp [horg] at h

theorem rowsOf_act (hok : env.fails = false) : (act env op t).1.rowsOf org =
    (workloadDeed org env t op).elim (t.rowsOf org) (Deed.apply (t.rowsOf org)) := by
  rw [act_of_not_fails hok]
  cases op with
  | exec stmt =>
    cases stmt with
    | insertWorkload id row =>
      have hcases : Stmt.exec t (.insertWorkload id row) = (t, none) ∨ ∃ workloads,
        t.workloads.insert id row = some workloads ∧
          Stmt.exec t (.insertWorkload id row) = ({ t with workloads }, some 1) := by
        simp only [Stmt.exec]
        split_ifs
        · cases hinsert : t.workloads.insert id row with
          | none => exact .inl rfl
          | some workloads => exact .inr ⟨workloads, rfl, rfl⟩
        · exact .inl rfl
      show (Stmt.exec t (.insertWorkload id row)).1.rowsOf org = _
      simp only [workloadDeed]
      rcases hcases with href | ⟨workloads, hinsert, hins⟩
      · rw [href, if_neg fun h => h.2 rfl]
        rfl
      · rw [hins]
        show (workloads.select fun _ w => decide (w.orgID = org)) = _
        rw [select_insert hinsert]
        by_cases horg : row.orgID = org
        · simp [horg, rowsOf, Deed.apply]
        · simp [horg, rowsOf]
    | updateWorkload s =>
      show ((t.workloads.modify s.applies s.set).select fun _ w => decide (w.orgID = org)) = _
      rw [select_modify_of_kept fun _ r => by rw [s.orgID_set]]
      simp only [workloadDeed]
      split_ifs with howns
      · rfl
      · refine map_rows_of_not_owns (fun k r happ => ?_) (eq_false_iff.2 howns)
        simp only [WorkloadStmt.applies, and_eq_true, decide_eq_true_eq] at happ
        exact happ.1
    | updateNode s =>
      show (t.updateNode s).1.rowsOf org = _
      rcases updateNode_cases t s with ⟨hsame, -⟩ | ⟨_, _, -, -, -, hupd⟩
      · rw [hsame]
        rfl
      · rw [hupd]
        rfl
    | upsertGPU id node gpu =>
      obtain ⟨nodeGPUs, hgpus, -⟩ := upsertGPU_eq t id node gpu
      show (t.upsertGPU id node gpu).1.rowsOf org = _
      rw [hgpus]
      rfl
    | _ => rfl
  | scheduleOne pw =>
    show (scheduleTx env pw t).1.rowsOf org = _
    simp only [workloadDeed]
    rcases scheduleTx_cases env pw t with ⟨hsame, href⟩ | ⟨node, gpu, _, hnode, -, -, -, hbook⟩
    · rw [hsame, if_neg fun h => href h.2]
      rfl
    · rw [hbook]
      show ((t.workloads.modify (dispatchable pw.id) (dispatch node env.now)).select fun _ w =>
        decide (w.orgID = org)) = _
      rw [select_modify_of_kept (f := dispatch node env.now) fun _ _ => rfl]
      split_ifs with howns
      · rw [hnode]
        rfl
      · refine map_rows_of_not_owns (fun k r hdisp => ?_) (eq_false_iff.2 fun h => howns ⟨h, rfl⟩)
        simp only [dispatchable, and_eq_true, decide_eq_true_eq] at hdisp
        exact hdisp.1
  | register req =>
    show (registerTx env req t).1.rowsOf org = _
    rcases registerTx_cases env req t with hsame | ⟨nodes, nodeGPUs, -, -, hreg⟩
    · rw [hsame]
      rfl
    · rw [hreg]
      rfl
  | _ => rfl

end

/-! ## The answers -/

section

variable {org : OrgID} {t₁ t₂ : Tables} {a₁ a₂ : Annex}

theorem filter_lookup_of_rowsOf (h : t₁.rowsOf org = t₂.rowsOf org) (id : WorkloadID) :
    (t₁.workloads.lookup id).filter (fun w => w.orgID = org) =
      (t₂.workloads.lookup id).filter fun w => w.orgID = org := by
  have hmem : ∀ (t : Tables) (w : Workload),
      (t.workloads.lookup id).filter (fun w => w.orgID = org) = some w ↔ (id, w) ∈ t.rowsOf org := by
    intro t w
    rw [filter_eq_some_iff, mem_rowsOf, decide_eq_true_eq]
  ext w
  rw [hmem, hmem, h]

/-- The cursor of a query is not the id of a workload of another organisation. -/
def Tables.OwnCursor (t : Tables) (org : OrgID) (q : Query) : Prop :=
  ∀ c, t.workloads.lookup (q.get "cursor") = some c → c.orgID = org

theorem handleList_of_rowsOf (h : t₁.rowsOf org = t₂.rowsOf org) {q : Query}
    (h1 : t₁.OwnCursor org q) (h2 : t₂.OwnCursor org q)
    (env : Env) : handleList env org q t₁ = handleList env org q t₂ := by
  have hown : ∀ t : Tables, t.OwnCursor org q →
      t.workloads.lookup (q.get "cursor") = (t.workloads.lookup (q.get "cursor")).filter fun w =>
          w.orgID = org := by
    intro t ht
    cases hcursor : t.workloads.lookup (q.get "cursor") with
    | none => rfl
    | some c => rw [filter_some, if_pos (decide_eq_true (ht c hcursor))]
  have hlists : ∀ w, t₁.lists org q w = t₂.lists org q w := by
    intro w
    unfold lists
    rw [hown t₁ h1, hown t₂ h2, filter_lookup_of_rowsOf h]
  -- what is listed is picked from the rows of the organisation
  have hsel : ∀ t : Tables, (t.workloads.select fun _ w => t₂.lists org q w) =
      (t.rowsOf org).filter fun e => t₂.lists org q e.2 := by
    intro t
    unfold rowsOf Table.select
    rw [List.filter_filter]
    refine filter_congr fun e _ => ?_
    unfold lists
    by_cases horg : e.2.orgID = org <;> simp [horg]
  unfold handleList Table.ordered
  simp only [hlists, hsel, h]

theorem handleGet_of_rowsOf (h : t₁.rowsOf org = t₂.rowsOf org)
    (hmounts : ∀ w, t₁.owns org w = true → a₁.mounts w = a₂.mounts w) (env : Env)
    (id : WorkloadID) : handleGet env org id a₁ t₁ = handleGet env org id a₂ t₂ := by
  unfold handleGet
  rw [← filter_lookup_of_rowsOf h]
  cases hrow : (t₁.workloads.lookup id).filter fun w => w.orgID = org with
  | none => rfl
  | some w =>
    obtain ⟨hrow, horg⟩ := filter_eq_some_iff.1 hrow
    rw [hmounts id (by rw [owns, hrow]; exact horg)]

/-- An entry about a node, or about a workload of the organisation. -/
def EventRow.concerns (t : Tables) (org : OrgID) (row : EventRow) : Bool :=
  row.subjectType = lit "node" || t.owns org row.subjectID

/-- The entries of the journal that concern the organisation. -/
def Annex.ownJournal (a : Annex) (org : OrgID) (t : Tables) : List EventSummary :=
  (a.journal t).filter fun e => e.concerns t org

/-- **No entry about a workload of another organisation is asked for**: none passes the filters of
the query, and none is its cursor. -/
def Annex.Unseen (a : Annex) (org : OrgID) (t : Tables) (q : Query) : Prop :=
  ∀ e ∈ a.journal t, e.concerns t org = false → e.matches q = false ∧ e.id ≠ q.get "cursor"

theorem handleList_of_unseen {a : Annex} {t : Tables} {q : Query} (h : a.Unseen org t q) (env : Env) :
    EventAPI.select env org q (a.journal t) = EventAPI.select env org q (a.ownJournal org t) := by
  have hcursor : ((a.journal t).find? fun c => c.id = q.get "cursor") =
      (a.ownJournal org t).find? fun c => c.id = q.get "cursor" := by
    rw [Annex.ownJournal, ← head?_filter, ← head?_filter, List.filter_filter]
    refine congrArg head? (filter_congr fun e he => ?_)
    cases hown : e.concerns t org with
    | true => rw [Bool.and_true]
    | false => simpa using (h e he hown).2
  have hlists : ((a.journal t).filter fun e => e.lists (a.journal t) org q) =
      (a.ownJournal org t).filter fun e => e.lists (a.ownJournal org t) org q := by
    rw [Annex.ownJournal, List.filter_filter]
    refine filter_congr fun e he => ?_
    rw [EventSummary.lists, EventSummary.lists, hcursor, Annex.ownJournal]
    cases hown : e.concerns t org with
    | true => rw [Bool.and_true]
    | false => simp [(h e he hown).1]
  unfold EventAPI.select
  rw [hlists]

end

/-- The live volumes that a workload mounts belong to the organisation. -/
def Annex.ownVolumes (a : Annex) (org : OrgID) (w : WorkloadID) : Bool :=
  (a.mounts w).all fun m =>
    ((a.volumes.lookup m.volumeID).filter fun v => v.deletedAt = none).all fun v => v.orgID = org

/-- **An organisation sees the same in both states**, where it does not ask for what is foreign. -/
structure Secluded (org : OrgID) (a₁ a₂ : Annex) (t₁ t₂ : Tables) : Prop where
  list : ∀ env q, t₁.OwnCursor org q → t₂.OwnCursor org q →
    handleList env org q t₁ = handleList env org q t₂
  get : ∀ env id, handleGet env org id a₁ t₁ = handleGet env org id a₂ t₂
  events : ∀ env q, a₁.Unseen org t₁ q → a₂.Unseen org t₂ q →
    EventAPI.handleList env org q a₁ t₁ = EventAPI.handleList env org q a₂ t₂

/-- **The desired state brings a workload volumes of its organisation only** exactly if the workload
mounts no others. -/
def Confined (org : OrgID) (a : Annex) (t : Tables) : Prop :=
  ∀ env node workloads specs, handleDesired env node a t = .ok (workloads, specs) → ∀ wl ∈ workloads,
    (∀ spec ∈ specs, spec.volumeID ∈ (a.mounts wl.id).map VolumeMount.volumeID →
      ∀ row, a.volumes.lookup spec.volumeID = some row → row.orgID = org) ↔
        a.ownVolumes org wl.id = true

theorem confined (org : OrgID) (a : Annex) (t : Tables) : Confined org a t := by
  intro env node workloads specs hdes wl hwl
  unfold handleDesired at hdes
  split_ifs at hdes
  cases hdes
  constructor
  · intro hall
    refine all_eq_true.2 fun m hm => (Option.all_eq_true _ _).2 fun v hv => decide_eq_true ?_
    obtain ⟨hrow, -⟩ := filter_eq_some_iff.1 hv
    refine hall ⟨m.volumeID, v.driver, v.sourcePath.getD []⟩ (mem_filterMap.2 ⟨m.volumeID, ?_, ?_⟩)
      (mem_map_of_mem hm) v hrow
    · exact mem_dedup.2 (mem_flatMap.2 ⟨wl, hwl, mem_map_of_mem hm⟩)
    · rw [Annex.volumeSpec, hv]
      rfl
  · intro hown spec hspec hmounted row hrow
    obtain ⟨m, hm, hid⟩ := mem_map.1 hmounted
    have hall := all_eq_true.1 hown m hm
    obtain ⟨id, -, hfound⟩ := mem_filterMap.1 hspec
    obtain ⟨v, hv, rfl⟩ := map_eq_some_iff.1 hfound
    have hid' : m.volumeID = id := hid
    obtain ⟨hv0, -⟩ := filter_eq_some_iff.1 hv
    rw [hid', hv] at hall
    rw [mem_unique hrow hv0]
    exact of_decide_eq_true hall

/-! ## Two runs -/

namespace Server

def deed (org : OrgID) (s : Server) (m : Move Handler Env) : Option Deed :=
  (s.performed m).bind fun e => workloadDeed org e.1 s.shared e.2

section

variable {org : OrgID} {a₁ a₂ : Annex} {s s' : Server} {m : Move Handler Env} {ms : List (Move Handler Env)}

theorem rowsOf_step (h : step s m = some s') : s'.shared.rowsOf org =
    (s.deed org m).elim (s.shared.rowsOf org) (Deed.apply (s.shared.rowsOf org)) := by
  rcases step_cases h with ⟨hnone, hsame⟩ | ⟨_, _, hperf, hok, hsh⟩
  · rw [deed, hnone, hsame]
    rfl
  · rw [hsh, rowsOf_act hok, deed, hperf]
    rfl

theorem rowsOf_run (hrun : Run.exec step initial ms = some s) :
    s.shared.rowsOf org = (Run.collect step (deed org) initial ms).foldl Deed.apply (Tables.empty.rowsOf org) :=
  Run.exec_eq_foldl (π := fun s : Server => s.shared.rowsOf org) (fun _ _ _ _ h => rowsOf_step h)
    (Run.meets_of_forall (fun _ _ => trivial) initial) hrun

end

end Server

namespace Sample

/-- An organisation with one volume. The entries of the journal are numbered from `first` on. -/
def annex (first : ℕ) : Annex where
  volumes := ⟨[(lit "v", ⟨lit "org", lit "local", none, none⟩)], nodup_singleton _⟩
  mounts := fun _ => [⟨lit "v", lit "/data", lit "local", false⟩]
  tag := fun k => ([UInt8.ofNat (first + k)], [])

/-- The same with a volume of another organisation, which its workload mounts. -/
def sharedAnnex : Annex where
  volumes := ⟨[(lit "v", ⟨lit "org", lit "local", none, none⟩), (lit "x", ⟨lit "other", lit "local", none, none⟩)],
    by decide⟩
  mounts := fun w => if w = [3, 0] then [⟨lit "x", lit "/data", lit "local", false⟩] else (annex 0).mounts w
  tag := (annex 0).tag

def submission (k : UInt8) (i : ℕ) (org : OrgID) : List (Move Handler Env) :=
  alone k i (.call (.submit org (lit "user") (job 0))) 5

end Sample

namespace Server

end Server

end Ocelot.Compute
