/-
# Runs of reconcile passes, and how to prove things about them.

`Keeps` is what an invariant has to meet, handler by handler; `exec_keeps` derives it for every
run of passes. The rules `wp_…` walk through the handlers, whatever the database and the adapters
answer.
-/
import Ocelot.Lib.Worker
import Ocelot.VirtualServer.Effects
import Ocelot.VirtualServer.Footprint

namespace Ocelot.VirtualServer

open List Option Bool Table Query Tables
open Tracker (Bytes lit)
open Prog (Issues Wp)

/-! ## One operation -/

section

variable {α : Type} {G : Env → Op → World → Prop} {J : World → Prop} {Q : α → World → Prop} {w : World}

theorem wp_query {q : Query} {k : Except StoreError q.Ans → Program α} (hJ : J w)
    (h : ∀ env, G env (.query q) w → Wp act G J (k (q.eval env w.tables)) Q w) : Wp act G J (query q >>= k) Q w :=
  .perform fun env he => ⟨hJ, h env he⟩

/-- Reading one row: the store fails, or there is none, or it is found. -/
theorem wp_find {q : Query} {k : Except StoreError q.Ans → Program α} (hJ : J w)
    (hunread : ∀ e env, G env (.query q) w → env.fails = true → Wp act G J (k (.error e)) Q w)
    (hnone : ∀ e env, q.find env w.tables = none → Wp act G J (k (.error e)) Q w)
    (hsome : ∀ env ans, q.find env w.tables = some ans → Wp act G J (k (.ok ans)) Q w) :
    Wp act G J (query q >>= k) Q w := by
  refine wp_query hJ fun env henv => ?_
  cases hread : q.eval env w.tables with
  | error e =>
    rcases error_cases hread with hfails | hmissing
    · exact hunread e env henv hfails
    · exact hnone e env hmissing
  | ok ans => exact hsome env ans (find_of_eval hread)

theorem wp_now {k : Nanos → Program α} (hJ : J w) (h : ∀ t, Wp act G J (k t) Q w) : Wp act G J (now >>= k) Q w :=
  .perform fun env _ => ⟨hJ, h env.now⟩

theorem wp_driver {name : Bytes} {c : DriverCall} {k : c.Ans → Program α} (hJ : J w)
    (h : ∀ env, G env (.driver name c) w → Wp act G J (k (c.answer env)) Q w) :
    Wp act G J (driver name c >>= k) Q w :=
  .perform fun env he => ⟨hJ, h env he⟩

variable {R : Unit → World → Prop} {env : Env} {i : InstanceID} {row : ServiceInstance} {node : NodeID} {F : Type}
   {cfg : Config F} {nodes : List Node} {p : Program α}

theorem wp_attempt (h : Wp act G J p (fun _ => R ()) w) :
    Wp act G J (attempt p) R w := Wp.bind (h.mono fun _ _ hR => hR)

theorem wp_whenever {c : Bool} {p : Program Unit} (hp : c = true → Wp act G J p R w)
    (hskip : c = false → R () w) : Wp act G J (whenever c p) R w :=
  .ite (fun hc => hp hc) fun hc => hskip (eq_false_iff.2 hc)

theorem wp_quiet (hp : p.Issues fun op => op.isQuiet = true) (hJ : J w) (hQ : ∀ a, Q a w) :
    Wp act G J p Q w := .of_reads hp (fun _ _ _ hop => act_of_isQuiet hop) hJ hQ

/-! ## Moves of an instance -/

inductive Refused (G : Env → Op → World → Prop) (w : World) (i : InstanceID) (dst : InstanceState) : Prop
  | missing (h : w.tables.instances.lookup i = none)
  | illegal (row : ServiceInstance) (hrow : w.tables.instances.lookup i = some row)
      (h : row.state.validateInstanceTransition dst = false)
  | unread (env : Env) (hG : G env (.query (.getInstance i)) w) (h : env.fails = true)
  | unwritten (env : Env) (src : InstanceState) (hG : G env (.write (.writeInstanceState i src dst)) w)
      (h : env.fails = true)

def World.move (w : World) (env : Env) (i : InstanceID) (dst : InstanceState) : World :=
  { w with tables := w.tables.setInstance i fun row => { row with state := dst, updatedAt := unix env.now } }

variable {dst : InstanceState}

theorem act_writeInstanceState
    (hok : env.fails = false) (hrow : w.tables.instances.lookup i = some row) :
    act env (.write (.writeInstanceState i row.state dst)) w = (w.move env i dst, .ok ()) := by
  have hcom : (Write.writeInstanceState i row.state dst).commit env w.tables = .ok
      ((w.move env i dst).tables, ()) := by
    simp [Write.commit, writeInstanceState, hrow, Except.map, World.move]
  simp only [act, Write.exec_of_ok hok hcom, Write.events, append_nil]
  rfl

theorem act_updateRuntimeHandle {data : StringMap} (hok : env.fails = false) :
    (act env (.write (.updateRuntimeHandle i data)) w).1 =
      { w with tables := w.tables.updateRuntimeHandle env i data } := by
  have hcom : (Write.updateRuntimeHandle i data).commit env w.tables = .ok
      (w.tables.updateRuntimeHandle env i data, ()) :=
    rfl
  simp only [act, Write.exec_of_ok hok hcom, Write.events, append_nil]

theorem wp_updateInstanceState {Q : Except StoreError Unit → World → Prop} (hJ : J w)
    (href : ∀ e, Refused G w i dst → Q (.error e) w)
    (hdone : ∀ env row, w.tables.instances.lookup i = some row → row.state.validateInstanceTransition dst = true →
      G env (.write (.writeInstanceState i row.state dst)) w → env.fails = false →
        J (w.move env i dst) ∧ Q (.ok ()) (w.move env i dst)) : Wp act G J (updateInstanceState i dst) Q w := by
  refine wp_find hJ (fun e env hG hfails => href e (.unread env hG hfails))
    (fun e _ hnone => href e (.missing hnone)) ?_
  intro _ row (hrow : w.tables.instances.lookup i = some row)
  refine .ite (fun hval => ?_) fun hillegal => ?_
  · intro env' henv'
    cases hfails : env'.fails with
    | true =>
      have hact : act env' (.write (.writeInstanceState i row.state dst)) w = (w, .error .database) := by
        simp only [act, Write.exec_of_fails hfails, Write.events, append_nil]
      rw [hact]
      exact ⟨hJ, href _ (.unwritten env' row.state henv' hfails)⟩
    | false =>
      rw [act_writeInstanceState hfails hrow]
      exact hdone env' row hrow hval henv' hfails
  · exact href _ (.illegal row hrow (eq_false_iff.2 hillegal))

inductive Unassigned (G : Env → Op → World → Prop) (w : World) (i : InstanceID) (node : NodeID) : Prop
  | missing (h : w.tables.instances.lookup i = none)
  | illegal (row : ServiceInstance) (hrow : w.tables.instances.lookup i = some row)
      (h : row.state.validateInstanceTransition .scheduled = false)
  | noNode (h : w.tables.nodes.lookup node = none)
  | unread (env : Env) (hG : G env (.query (.getInstance i)) w) (h : env.fails = true)
  | unwritten (env : Env) (src : InstanceState) (hG : G env (.write (.writeAssignment i node src)) w)
      (h : env.fails = true)

def World.assign (w : World) (env : Env) (i : InstanceID) (node : NodeID) : World :=
  { w with tables := w.tables.setInstance i fun row =>
    { row with nodeID := node, state := .scheduled, updatedAt := unix env.now } }

theorem act_writeAssignment_error {src : InstanceState} {e : StoreError}
    (hexec : (Write.writeAssignment i node src).exec env w.tables = (w.tables, .error e)) :
    act env (.write (.writeAssignment i node src)) w = (w, .error e) := by
  simp only [act, hexec, Write.events, append_nil]

theorem exec_writeAssignment_of_noNode
    (hok : env.fails = false) (hrow : w.tables.instances.lookup i = some row)
    (hnode : w.tables.nodes.lookup node = none) :
    (Write.writeAssignment i node row.state).exec env w.tables = (w.tables, .error .constraint) := by
  refine Write.exec_of_error hok ?_
  simp [Write.commit, writeAssignment, hrow, hnode, Except.map]

theorem act_writeAssignment (hok : env.fails = false)
    (hrow : w.tables.instances.lookup i = some row) (hnode : w.tables.nodes.lookup node ≠ none) :
    act env (.write (.writeAssignment i node row.state)) w = (w.assign env i node, .ok ()) := by
  have hcom : (Write.writeAssignment i node row.state).commit env w.tables = .ok
      ((w.assign env i node).tables, ()) := by
    simp [Write.commit, writeAssignment, hrow, hnode, Except.map, World.assign]
  simp only [act, Write.exec_of_ok hok hcom, Write.events, append_nil]
  rfl

theorem wp_assignNode {Q : Except StoreError Unit → World → Prop} (hJ : J w)
    (href : ∀ e, Unassigned G w i node → Q (.error e) w)
    (hdone : ∀ env row, w.tables.instances.lookup i = some row →
      row.state.validateInstanceTransition .scheduled = true →
        J (w.assign env i node) ∧ Q (.ok ()) (w.assign env i node)) : Wp act G J (assignNode i node) Q w := by
  refine wp_find hJ (fun e env hG hfails => href e (.unread env hG hfails))
    (fun e _ hnone => href e (.missing hnone)) ?_
  intro _ row (hrow : w.tables.instances.lookup i = some row)
  refine .ite (fun hval => ?_) fun hillegal => ?_
  · intro env' henv'
    cases hfails : env'.fails with
    | true =>
      rw [act_writeAssignment_error (Write.exec_of_fails hfails _ _)]
      exact ⟨hJ, href _ (.unwritten env' row.state henv' hfails)⟩
    | false =>
      by_cases hnode : w.tables.nodes.lookup node = none
      · rw [act_writeAssignment_error (exec_writeAssignment_of_noNode hfails hrow hnode)]
        exact ⟨hJ, href _ (.noNode hnode)⟩
      · rw [act_writeAssignment hfails hrow hnode]
        exact hdone env' row hrow hval
  · exact href _ (.illegal row hrow (eq_false_iff.2 hillegal))

inductive Unserved {F : Type} (cfg : Config F) (G : Env → Op → World → Prop) (w : World)
    (service : ServiceID) : Prop
  | unread (env : Env) (hG : G env (.query (.getService service)) w) (h : env.fails = true)
  | missing (h : w.tables.services.lookup service = none)
  | noAdapter (svc : Service) (hsvc : w.tables.services.lookup service = some svc)
      (h : cfg.adapters svc.manifest.spec.runtime = none)

theorem wp_withAdapter {x : InstanceID × ServiceInstance} {body : Service → Bytes → Program Unit}
    (hJ : J w) (hR : Unserved cfg G w x.2.serviceID → R () w)
    (hbody : ∀ svc ad, w.tables.services.lookup x.2.serviceID = some svc →
      cfg.adapters svc.manifest.spec.runtime = some ad → Wp act G J (body svc ad) R w) :
    Wp act G J (withAdapter cfg x body) R w := by
  refine wp_find hJ (fun _ env hG hfails => hR (.unread env hG hfails)) (fun _ _ hnone => hR (.missing hnone)) ?_
  intro _ svc (hsvc : w.tables.services.lookup x.2.serviceID = some svc)
  cases had : cfg.adapters svc.manifest.spec.runtime with
  | none =>
    simp only [had]
    exact hR (.noAdapter svc hsvc had)
  | some ad =>
    simp only [had]
    exact hbody svc ad hsvc had

/-! ## Scheduling -/

def Tables.Pins {F : Type} (cfg : Config F) (t : Tables) (nspace : Bytes)
    (decls : List ServiceVolumeMount) (pinned : NodeID) : Prop :=
  pinned = [] ∨ ∃ decl ∈ decls, ∃ id vol, t.getVolumeByName nspace decl.volumeName = some (id, vol) ∧
    cfg.classDrivers vol.manifest.spec.cls = some (lit "local") ∧ vol.boundNodeID = pinned

theorem wp_localVolumePinnedNode {nspace : Bytes} {R : NodeID → World → Prop} (hJ : J w)
    (decls : List ServiceVolumeMount) (hR : ∀ pinned, w.tables.Pins cfg nspace decls pinned →
    R pinned w) : Wp act G J (localVolumePinnedNode cfg nspace decls) R w := by
  induction decls with
  | nil => exact hR [] (.inl rfl)
  | cons decl _ ih =>
    have hrest := ih fun pinned hpinned =>
      hR pinned (hpinned.imp_right fun ⟨d, hd, hvol⟩ => ⟨d, mem_cons_of_mem _ hd, hvol⟩)
    refine wp_find hJ (fun _ _ _ _ => hrest) (fun _ _ _ => hrest) ?_
    intro _ vol (hvol : w.tables.getVolumeByName nspace decl.volumeName = some vol)
    refine .ite (fun hpin => ?_) fun _ => hrest
    exact hR _ (.inr ⟨decl, mem_cons_self, vol.1, vol.2, hvol, hpin.1, rfl⟩)

variable {spec : ServiceSpec} {score : Node → Program F}

theorem wp_candidates
    (hscore : ∀ n, Issues (fun op => op.isQuiet = true) (score n)) (hJ : J w) (nodes : List Node) :
    Wp act G J (candidates spec score nodes)
    (fun found u => u = w ∧ (∀ x ∈ found, x.1 ∈ nodes ∧ hardFilter x.1 spec = []) ∧
      (found = [] → ∀ n ∈ nodes, hardFilter n spec ≠ [])) w := by
  induction nodes with
  | nil => exact ⟨rfl, fun x hx => absurd hx not_mem_nil, fun _ n hn => absurd hn not_mem_nil⟩
  | cons n _ ih =>
    refine .ite (fun hpass => .seq (wp_quiet (hscore n) hJ fun x => .seq (ih.mono ?_))) fun hrej => ih.mono ?_
    · rintro rest u ⟨rfl, hrest, -⟩
      refine ⟨rfl, fun y hy => ?_, fun hnil => by cases hnil⟩
      rcases mem_cons.1 hy with rfl | hy
      · exact ⟨mem_cons_self, hpass⟩
      · exact (hrest y hy).imp_left (mem_cons_of_mem n)
    · rintro rest u ⟨rfl, hrest, hnone⟩
      exact ⟨rfl, fun y hy => (hrest y hy).imp_left (mem_cons_of_mem n),
        fun hnil => forall_mem_cons.2 ⟨hrej, hnone hnil⟩⟩

theorem wp_schedule [Float64 F]
    {R : Option Node → World → Prop} (hscore : ∀ n, Issues (fun op => op.isQuiet = true) (score n))
    (hJ : J w) (hnone : (∀ n ∈ nodes, hardFilter n spec ≠ []) → R none w)
    (hsome : ∀ n ∈ nodes, hardFilter n spec = [] → R (some n) w) :
    Wp act G J (schedule spec score nodes) R w := by
  refine .seq ((wp_candidates hscore hJ nodes).mono ?_)
  rintro found u ⟨rfl, hfound, hempty⟩
  have hperm : (InsertionSort.sort standsBefore found).Perm found := InsertionSort.sort_perm _ found
  cases hsort : InsertionSort.sort standsBefore found with
  | nil =>
    rw [hsort] at hperm
    exact hnone (hempty (nil_perm.1 hperm))
  | cons x =>
    obtain ⟨hmem, hpass⟩ := hfound x (hperm.mem_iff.1 (by rw [hsort]; exact mem_cons_self))
    exact hsome x.1 hmem hpass

abbrev allocationOf (i : InstanceID) (node : NodeID) (svc : Service) (gpu : Option ℤ) : Op :=
  .write (.allocateResources i node svc.manifest.spec.resources.cpuThreads svc.manifest.spec.resources.ramMiB gpu)

inductive Unscheduled {F : Type} (cfg : Config F) (G : Env → Op → World → Prop) (w : World)
    (nodes : List Node) (i : InstanceID) (service : ServiceID) : Prop
  | unread (env : Env) (hG : G env (.query (.getService service)) w) (h : env.fails = true)
  | missing (h : w.tables.services.lookup service = none)
  | rejected (svc : Service) (pinned : NodeID) (hsvc : w.tables.services.lookup service = some svc)
      (hpinned : w.tables.Pins cfg svc.manifest.nspace svc.manifest.spec.mounts pinned)
      (h : ∀ n ∈ eligibleNodes nodes pinned, hardFilter n svc.manifest.spec ≠ [])
  | unassigned (n : Node) (hn : n ∈ nodes) (h : Unassigned G w i n.id)

theorem mem_of_mem_eligibleNodes {pinned : NodeID} {n : Node} (h : n ∈ eligibleNodes nodes pinned) :
    n ∈ nodes := by
  unfold eligibleNodes at h
  split_ifs at h
  · exact mem_of_mem_filter h
  · exact mem_of_mem_filter (mem_of_find?_eq_some (mem_toList.1 h))

theorem wp_scheduleInstance [Float64 F]
    {inst : ServiceInstance} {R : World → Prop} (hrow : w.tables.instances.lookup i = some inst)
    (hJ : J w) (hR : Unscheduled cfg G w nodes i inst.serviceID → R w)
    (hasg : ∀ env node, inst.state.validateInstanceTransition .scheduled = true → J (w.assign env i node))
    (hall : ∀ env node env' svc gpu, inst.state.validateInstanceTransition .scheduled = true →
      w.tables.services.lookup inst.serviceID = some svc → G env' (allocationOf i node svc gpu)
        (w.assign env i node) →
        J (act env' (allocationOf i node svc gpu) (w.assign env i node)).1 ∧
          R (act env' (allocationOf i node svc gpu) (w.assign env i node)).1) :
    Wp act G J (scheduleInstance cfg nodes (i, inst)) (fun _ => R) w := by
  refine wp_find hJ (fun _ env hG hfails => hR (.unread env hG hfails)) (fun _ _ hnone => hR (.missing hnone)) ?_
  intro _ svc (hsvc : w.tables.services.lookup inst.serviceID = some svc)
  refine .seq (wp_localVolumePinnedNode hJ _ fun pinned hpin => ?_)
  refine .seq (wp_schedule (fun n => issues_computeScore (fun _ hq => hq) _ _ _ n) hJ
    (fun hrej => hR (.rejected svc pinned hsvc hpin hrej)) fun n hn _ => ?_)
  refine .seq (wp_assignNode hJ (fun _ h => hR (.unassigned n (mem_of_mem_eligibleNodes hn) h))
    fun env' _ hrow' hval => ?_)
  obtain rfl := mem_unique hrow hrow'
  refine ⟨hasg env' n.id hval, .perform fun env'' hG => ?_⟩
  obtain ⟨hJ', hR'⟩ := hall env' n.id env'' svc _ hval hsvc hG
  refine ⟨hJ', ?_⟩
  rcases hout : (act env'' (.write (.allocateResources i n.id svc.manifest.spec.resources.cpuThreads
    svc.manifest.spec.resources.ramMiB
      (firstGPU (eligibleNodes nodes pinned) n.id svc.manifest.spec.resources.gpu)))
      (w.assign env' i n.id)).2 with e | u
  · -- the instance is scheduled, whatever the error was
    refine wp_attempt (wp_updateInstanceState hJ' (fun _ _ => hR') fun _ row' hrow3 hval3 _ _ => ?_)
    have hsched : row'.state = .scheduled := by
      have heff := act_instanceEffect env'' (allocationOf i n.id svc
        (firstGPU (eligibleNodes nodes pinned) n.id svc.manifest.spec.resources.gpu)) (w.assign env' i n.id) i
      rw [hrow3, World.assign, lookup_setInstance_self hrow] at heff
      cases heff with
      | unchanged => rfl
      | moved _ _ hwr | stored _ _ hwr | retried _ hwr | assigned _ _ hwr => cases hwr
    rw [hsched] at hval3
    cases hval3
  · exact hR'

theorem wp_handleFailedInstance {x : InstanceID × ServiceInstance} {R : World → Prop} (hJ : J w)
    (hR : R w)
    (hretry : ∀ svc, w.tables.services.lookup x.2.serviceID = some svc →
      svc.manifest.spec.restart.retries x.2.retryCount = true → Wp act G J (do
        teardownMounts cfg x.1
        attempt (write (.releaseAllocation x.1))
        attempt (write (.incrementRetryCount x.1))) (fun _ => R) w)
    (hend : ∀ svc, w.tables.services.lookup x.2.serviceID = some svc →
      svc.manifest.spec.restart.retries x.2.retryCount = false → Wp act G J (do
        destroyInstance cfg svc x
        attempt (updateInstanceState x.1 .terminated)) (fun _ => R) w) :
    Wp act G J (handleFailedInstance cfg x) (fun _ => R) w := by
  refine wp_find hJ (fun _ _ _ _ => hR) (fun _ _ _ => hR) ?_
  intro _ svc (hsvc : w.tables.services.lookup x.2.serviceID = some svc)
  refine .ite (fun hretries => ?_) fun hretries => ?_
  · exact wp_now hJ fun t => .ite (fun _ => hR) fun _ => hretry svc hsvc hretries
  · exact hend svc hsvc (eq_false_iff.2 hretries)

theorem wp_ask {c : AdapterCall} {k : c.Ans → Program α} (hevs : ∀ env, c.events env = []) (hJ : J w)
    (hk : ∀ env, G env (.adapter c) w → Wp act G J (k (c.answer env)) Q w) : Wp act G J (adapter c >>= k) Q w := by
  refine .perform fun env hG => ?_
  have hsame : (act env (.adapter c) w).1 = w := by
    simp [act, hevs env]
  rw [hsame]
  exact ⟨hJ, hk env hG⟩

end

/-! ## Mounts and runtimes -/

def Op.isAside : Op → Bool
  | .write (.createInstance _ _) | .write (.writeInstanceState _ _ _) | .write (.writeAssignment _ _ _)
  | .write (.updateRuntimeHandle _ _) | .write (.incrementRetryCount _) | .adapter _ => false
  | _ => true

variable {op : Op} {w : World} {F : Type} {i : InstanceID}

theorem Op.isAside_of_isQuiet (h : op.isQuiet = true) : op.isAside = true := by
  cases op <;> first | rfl | cases h

structure Beside (w u : World) : Prop where
  services : u.tables.services = w.tables.services
  instances : u.tables.instances = w.tables.instances
  events : u.events = w.events

theorem Beside.act {env : Env} {u : World} (h : Beside w u) (hop : op.isAside = true) :
    Beside w (act env op u).1 := by
  refine ⟨(services_act env op u).trans h.services, ?_, ?_⟩
  · refine .trans ?_ h.instances
    refine act_rule rfl ?_
    rintro wr t' rfl - hcom
    cases hcom with
    | created | moved | assigned | stored | retried => cases hop
    | booked _ _ _ _ _ _ _ hbook =>
      obtain ⟨_, -, rfl⟩ := hbook
      rfl
    | freed _ _ _ _ hfreed =>
      obtain rfl := hfreed
      rfl
    | _ => rfl
  · rw [events_act, ← h.events]
    refine (append_right_eq_self.2 (eq_nil_iff_forall_not_mem.2 fun e he => ?_))
    cases op with
    | write wr =>
      have hmem : e ∈ wr.events (wr.exec env u.tables).2 := he
      unfold Write.events at hmem
      split at hmem
      · cases hop
      · cases hop
      · cases hmem
    | adapter => cases hop
    | now | query | driver | lookup => cases he

theorem wp_aside {α : Type} {G : Env → Op → World → Prop} {J : World → Prop} {p : Program α}
    (hp : p.Issues fun op => op.isAside = true) (hJ : ∀ u, Beside w u → J u) :
    Wp act G J p (fun _ u => Beside w u) w :=
  Wp.of_issues hp (fun _ _ _ _ hop hu => hu.act hop) hJ ⟨rfl, rfl, rfl⟩

theorem aside_resolveMounts (cfg : Config F) (nspace : Bytes) (i : InstanceID) (node : NodeID)
    (decls : List ServiceVolumeMount) : (resolveMounts cfg nspace i node decls).Issues fun op =>
      op.isAside = true :=
  issues_resolveMounts (fun _ => Op.isAside_of_isQuiet) (fun _ _ _ => rfl) (fun _ => rfl)
    (fun _ => rfl) (fun _ => rfl) decls

theorem aside_teardownMounts (cfg : Config F) (i : InstanceID) :
    (teardownMounts cfg i).Issues fun op => op.isAside = true :=
  issues_teardownMounts (fun _ => Op.isAside_of_isQuiet) (fun _ => rfl) fun _ => rfl

def World.mark (w : World) (e : Event) : World := { w with events := w.events ++ [e] }

theorem wp_provisionInstance {cfg : Config F} {G : Env → Op → World → Prop} {J : World → Prop}
    {inst : ServiceInstance} {R : World → Prop}
    {K : Env → Option (List ResolvedMount) → World → Prop}
    (hrow : w.tables.instances.lookup i = some inst) (hJ : J w)
    (hR : Unserved cfg G w inst.serviceID ∨ Refused G w i .provisioning → R w)
    (hmv : ∀ env svc, w.tables.services.lookup inst.serviceID = some svc → J (w.move env i .provisioning) ∧
      Wp act G J (resolveMounts cfg svc.manifest.nspace i inst.nodeID svc.manifest.spec.mounts) (K env)
        (w.move env i .provisioning))
    (hfail : ∀ env mounts u, K env mounts u → (∀ ms, mounts = some ms → ∃ env' req ad, env'.fails = true ∧
      G env' (.adapter (.provision ad req)) u) → J u ∧
        Wp act G J (attempt (updateInstanceState i .failed)) (fun _ => R) u)
    (hprovisioned : ∀ env ms u env' svc ad req, K env (some ms) u →
      w.tables.services.lookup inst.serviceID = some svc →
      cfg.adapters svc.manifest.spec.runtime = some ad → G env' (.adapter (.provision ad req)) u →
        env'.fails = false →
        J (u.mark (.provisioned i env'.handle)) ∧
          Wp act G J (attempt (write (.updateRuntimeHandle i env'.handle))) (fun _ => R)
            (u.mark (.provisioned i env'.handle))) :
    Wp act G J (provisionInstance cfg (i, inst)) (fun _ => R) w := by
  refine wp_withAdapter hJ (fun h => hR (.inl h)) fun svc ad hsvc had => .seq ?_
  refine wp_updateInstanceState hJ (fun _ h => hR (.inr h)) fun env _ hrow' _ _ _ => ?_
  obtain rfl := mem_unique hrow hrow'
  obtain ⟨hJm, hmounts⟩ := hmv env svc hsvc
  refine ⟨hJm, wp_query hJm fun _ _ => .seq (hmounts.mono fun mounts u hu => ?_)⟩
  cases mounts with
  | none => exact (hfail env none u hu fun ms hms => by cases hms).2
  | some ms =>
    refine .perform fun env' hG => ?_
    cases hfails : env'.fails with
    | true =>
      simp only [act, AdapterCall.events, AdapterCall.answer, Env.reply, hfails, if_true, append_nil]
      exact hfail env _ u hu fun _ _ => ⟨env', _, ad, hfails, hG⟩
    | false =>
      simp only [act, AdapterCall.events, AdapterCall.answer, Env.reply, hfails, false_eq_true, if_false]
      exact hprovisioned env ms u env' svc ad _ hu hsvc had hG hfails

/-! ## Whose operations they are -/

def AdapterCall.instanceID : AdapterCall → InstanceID
  | provision _ req => req.instanceID
  | start h | stop h | inspect h | health h | destroy h => h.instanceID

def Op.isOwn (i : InstanceID) : Op → Bool
  | .write (.allocateResources j _ _ _ _) | .write (.releaseAllocation j) | .write (.writeInstanceState j _ _)
  | .write (.writeAssignment j _ _) | .write (.updateRuntimeHandle j _) | .write (.incrementRetryCount j)
  | .write (.bindMount _ j _ _) => j = i
  | .write (.updateMountState _ _) | .write (.updateVolumeState _ _) | .write (.updateVolumeBoundNode _ _) => true
  | .write _ => false
  | .adapter c => c.instanceID = i
  | _ => true

theorem Op.isOwn_of_isQuiet (h : op.isQuiet = true) : op.isOwn i = true := by
  cases op <;> first | rfl | cases h

theorem lookup_instances_of_isOwn {env : Env} {j : InstanceID} (hop : op.isOwn i = true)
    (hj : j ≠ i) : (act env op w).1.tables.instances.lookup j = w.tables.instances.lookup j := by
  have heff := act_instanceEffect env op w j
  generalize (act env op w).1.tables.instances.lookup j = post, w.tables.instances.lookup j = pre at heff ⊢
  cases heff with
  | unchanged => rfl
  | created _ _ hwr =>
    subst hwr
    cases hop
  | moved _ _ hwr | assigned _ _ hwr | stored _ _ hwr | retried _ hwr =>
    subst hwr
    exact absurd (of_decide_eq_true hop) hj

def Op.isBackground : Op → Bool
  | .write (.writeNodeState _ _ _) | .write (.updateVolumeState _ _) | .write (.updateVolumeHandle _ _)
  | .write (.updateVolumeFailure _ _) | .write (.deleteVolume _) | .write (.createInstance _ _) => true
  | op => op.isQuiet

theorem Op.isBackground_of_isQuiet (h : op.isQuiet = true) : op.isBackground = true := by
  cases op <;> first | rfl | cases h

section

variable {F : Type} {cfg : Config F} (x : InstanceID × ServiceInstance)

abbrev OwnOf (x : InstanceID × ServiceInstance) (op : Op) : Prop := op.isOwn x.1 = true

private theorem ownOf_quiet (op : Op) (h : op.isQuiet = true) : OwnOf x op := Op.isOwn_of_isQuiet h

theorem own_scheduleInstance [Float64 F] (nodes : List Node) : Issues (OwnOf x) (scheduleInstance cfg nodes x) :=
  issues_scheduleInstance (ownOf_quiet x) (fun _ _ _ => decide_eq_true rfl) (fun _ _ _ _ => decide_eq_true rfl)
    fun _ _ => decide_eq_true rfl

theorem own_provisionInstance : Issues (OwnOf x) (provisionInstance cfg x) :=
  issues_provisionInstance (ownOf_quiet x) (fun _ _ _ _ => decide_eq_true rfl) (fun _ _ _ => decide_eq_true rfl)
    (fun _ => rfl) (fun _ => rfl) (fun _ => rfl) (fun _ _ hreq => decide_eq_true hreq) fun _ => decide_eq_true rfl

theorem own_startInstance : Issues (OwnOf x) (startInstance cfg x) :=
  issues_startInstance (ownOf_quiet x) (fun _ _ _ _ => decide_eq_true rfl) fun _ => decide_eq_true rfl

theorem own_handleFailedInstance : Issues (OwnOf x) (handleFailedInstance cfg x) :=
  issues_handleFailedInstance (ownOf_quiet x) (fun _ => rfl) (fun _ => rfl) (decide_eq_true rfl)
    (fun _ _ => decide_eq_true rfl) (decide_eq_true rfl) fun _ => decide_eq_true rfl

theorem own_inspectInstance : Issues (OwnOf x) (inspectInstance cfg x) :=
  issues_inspectInstance (ownOf_quiet x) (fun _ => rfl) (fun _ => rfl) (decide_eq_true rfl)
    (fun _ _ _ _ => decide_eq_true rfl) (fun _ => decide_eq_true rfl) fun _ => decide_eq_true rfl

theorem own_handleDegradedInstance : Issues (OwnOf x) (handleDegradedInstance cfg x) :=
  issues_handleDegradedInstance (ownOf_quiet x) (fun _ => rfl) (fun _ => rfl) (decide_eq_true rfl)
    (fun _ _ _ _ => decide_eq_true rfl) fun _ => decide_eq_true rfl

theorem own_stopInstance : Issues (OwnOf x) (stopInstance cfg x) :=
  issues_stopInstance (ownOf_quiet x) (fun _ => rfl) (fun _ => rfl) (decide_eq_true rfl)
    (fun _ _ => decide_eq_true rfl) (fun _ => decide_eq_true rfl) fun _ => decide_eq_true rfl

end

/-! ## Sweeps and passes -/

section

variable {F : Type} {cfg : Config F} {G : Env → Op → World → Prop} {I J : World → Prop} {w : World}
  {state : InstanceState}

theorem listInstances_rows {t : Tables} {env : Env} {found : List (InstanceID × ServiceInstance)}
    (h : (Query.listInstances (some state)).eval env t = .ok found) :
    found.Pairwise (fun x y => y.1 ≠ x.1) ∧ ∀ x ∈ found, t.instances.lookup x.1 = some x.2 ∧
      x.2.state = state := by
  have hfound : t.listInstances env (some state) = found := some.inj (find_of_eval h)
  subst hfound
  refine ⟨pairwise_fst_ordered, fun x hx => ?_⟩
  obtain ⟨hrow, hst⟩ := mem_ordered.1 hx
  exact ⟨hrow, of_decide_eq_true hst⟩

variable {handle : InstanceID × ServiceInstance → Program Unit}

theorem wp_sweep_each
    {D : InstanceID × ServiceInstance → Option ServiceInstance → Prop} (hIJ : ∀ w, I w → J w)
    (hown : ∀ x, Issues (OwnOf x) (handle x))
    (hhandle : ∀ i inst u, w.tables.instances.lookup i = some inst → inst.state = state → I u →
      u.tables.instances.lookup i = some inst →
        Wp act G J (handle (i, inst)) (fun _ u => I u ∧ D (i, inst) (u.tables.instances.lookup i)) u)
    (hw : I w) : Wp act G J (sweep state handle) (fun ans u => I u ∧
      ((∃ e env, ans = .error e ∧ G env (.query (.listInstances (some state))) w ∧
        env.fails = true) ∨ ans = .ok () ∧ ∀ i row, w.tables.instances.lookup i = some row →
          if row.state = state then D (i, row) (u.tables.instances.lookup i)
          else u.tables.instances.lookup i = some row)) w := by
  refine wp_query (hIJ w hw) fun env hG => ?_
  cases hread : (listInstances (some state)).eval env w.tables with
  | error e =>
    rcases error_cases hread with hfails | hnone
    · exact ⟨hw, .inl ⟨e, env, rfl, hG, hfails⟩⟩
    · cases hnone
  | ok found =>
    change List (InstanceID × ServiceInstance) at found
    obtain ⟨hapart, hrows⟩ := listInstances_rows hread
    have hlist : ∀ i row, w.tables.instances.lookup i = some row → row.state = state → (i, row) ∈ found := by
      intro i row hrow hst
      have hfound : w.tables.listInstances env (some state) = found := some.inj (find_of_eval hread)
      rw [← hfound]
      exact mem_ordered.2 ⟨hrow, decide_eq_true hst⟩
    have hloop : Wp act G J (.forEach handle found)
        (fun _ u => I u ∧ ∀ x ∈ found, D x (u.tables.instances.lookup x.1)) w := by
      refine .forEach_each (F := fun x u => u.tables.instances.lookup x.1 = some x.2) hapart hown ?_ ?_ ?_ hw
        fun x hx => (hrows x hx).1
      · intro x y env' op u hne _ hop hrow
        rw [lookup_instances_of_isOwn hop hne]
        exact hrow
      · intro x y env' op u hne _ hop hx
        rw [lookup_instances_of_isOwn hop hne.symm]
        exact hx
      · exact fun x hx u hu hrow => hhandle x.1 x.2 u (hrows x hx).1 (hrows x hx).2 hu hrow
    -- the rows that are not listed belong to none of the handlers
    have hrest : ∀ env' op u, G env' op u → (∃ x ∈ found, OwnOf x op) →
        (∀ i row, w.tables.instances.lookup i = some row → row.state ≠ state →
          u.tables.instances.lookup i = some row) →
        ∀ i row, w.tables.instances.lookup i = some row → row.state ≠ state →
          (act env' op u).1.tables.instances.lookup i = some row := by
      rintro env' op u - ⟨x, hx, hop⟩ hu i row hrow hst
      rw [lookup_instances_of_isOwn hop]
      · exact hu i row hrow hst
      · rintro rfl
        obtain ⟨hrow', hst'⟩ := hrows x hx
        exact hst (mem_unique hrow' hrow ▸ hst')
    refine .bind ((hloop.frame (.forEach fun x hx => (hown x).mono fun _ hop => ⟨x, hx, hop⟩) hrest
      fun _ _ hrow _ => hrow).mono fun _ u hu => ⟨hu.1.1, .inr ⟨rfl, fun i row hrow => ?_⟩⟩)
    split_ifs with hst
    · exact hu.1.2 (i, row) (hlist i row hrow hst)
    · exact hu.2 i row hrow hst

/-- The handler of the instances in `state` keeps `I`, with `J` in between. -/
def Handles (G : Env → Op → World → Prop) (I J : World → Prop) (state : InstanceState)
    (handle : InstanceID × ServiceInstance → Program Unit) : Prop :=
  ∀ i inst w, I w → w.tables.instances.lookup i = some inst → inst.state = state →
    Wp act G J (handle (i, inst)) (fun _ => I) w

theorem wp_sweep (hIJ : ∀ w, I w → J w) (hown : ∀ x, Issues (OwnOf x) (handle x))
    (hhandle : Handles G I J state handle) (hw : I w) : Wp act G J (sweep state handle) (fun _ => I) w :=
  (wp_sweep_each (D := fun _ _ => True) hIJ hown (fun i inst u _ hst hu hrow =>
    (hhandle i inst u hu hrow hst).mono fun _ _ hu => ⟨hu, trivial⟩) hw).mono fun _ _ hu => hu.1

/-- **What makes `I` an invariant of passes**, with `J` in between. -/
structure Keeps [Float64 F] (cfg : Config F) (G : Env → Op → World → Prop) (I J : World → Prop) : Prop where
  during : ∀ w, I w → J w
  background : ∀ env op w, G env op w → op.isBackground = true → I w → I (act env op w).1
  schedule : ∀ nodes, Handles G I J .declared (scheduleInstance cfg nodes)
  provision : Handles G I J .scheduled (provisionInstance cfg)
  start : Handles G I J .provisioning (startInstance cfg)
  failed : Handles G I J .failed (handleFailedInstance cfg)
  inspect : Handles G I J .running (inspectInstance cfg)
  degraded : Handles G I J .degraded (handleDegradedInstance cfg)
  stop : Handles G I J .stopping (stopInstance cfg)

theorem Keeps.wp_reconcile [Float64 F] (h : Keeps cfg G I J) (hw : I w) :
    Wp act G J (reconcile cfg) (fun _ => I) w := by
  have hquiet : ∀ op : Op, op.isQuiet = true → op.isBackground = true := fun op => Op.isBackground_of_isQuiet
  have hbackg : ∀ {α : Type} {p : Program α} {u : World}, p.Issues (fun op => op.isBackground = true) → I u →
      Wp act G J p (fun _ => I) u := by
    intro α p u hp hu
    exact .of_issues hp h.background h.during hu
  refine .seq ((hbackg (issues_reconcileNodeHeartbeats hquiet fun _ _ _ => rfl) hw).mono fun _ w hw => ?_)
  refine .seq ((hbackg (issues_reconcileVolumes hquiet (fun _ _ => rfl) (fun _ _ => rfl) (fun _ _ => rfl)
    fun _ => rfl) hw).mono fun _ w hw => ?_)
  refine .seq ((hbackg (issues_reconcileDesiredCount hquiet fun _ _ => rfl) hw).mono fun _ w hw => ?_)
  refine wp_query (h.during w hw) fun env _ => ?_
  cases (listNodes none).eval env w.tables with
  | error => exact hw
  | ok nodes =>
    have hact : Issues (fun op => op.isQuiet = true) (countActive nodes) := by
      refine issues_query (fun _ hq => hq) fun ans => ?_
      cases ans with
      | error | ok => exact .ret _
    refine .seq (wp_quiet hact (h.during w hw) fun nodes => ?_)
    refine .seq ((wp_sweep h.during (fun x => own_scheduleInstance x nodes)
      (h.schedule nodes) hw).mono fun ans w hw => ?_)
    cases ans with
    | error => exact hw
    | ok u =>
      refine .seq ((wp_sweep h.during own_provisionInstance h.provision hw).mono fun ans w hw => ?_)
      cases ans with
      | error => exact hw
      | ok u =>
        refine .seq ((wp_sweep h.during own_startInstance h.start hw).mono fun ans w hw => ?_)
        cases ans with
        | error => exact hw
        | ok _ =>
          refine .seq ((wp_sweep h.during own_handleFailedInstance h.failed hw).mono fun ans w hw => ?_)
          cases ans with
          | error => exact hw
          | ok =>
            refine .seq ((wp_sweep h.during own_inspectInstance h.inspect hw).mono fun _ w hw => ?_)
            refine .seq ((wp_sweep h.during own_handleDegradedInstance h.degraded hw).mono fun _ w hw => ?_)
            exact .seq ((wp_sweep h.during own_stopInstance h.stop hw).mono fun _ w hw => hw)

end

abbrev Reconciler := Worker World Op Op.Ans (Except StoreError Unit)

namespace Reconciler

variable {F : Type} [Float64 F] {cfg : Config F} {G : Env → Op → World → Prop} {H I J : World → Prop}

def step (cfg : Config F) : Reconciler → Turn Unit Env → Option Reconciler :=
  Worker.step act fun _ => reconcile cfg

theorem exec_keeps (h : Keeps cfg G I J) (hstop : ∀ w, J w → H w → I w) {w : World} {s : Reconciler}
    {ls : List (Turn Unit Env)} (hw : I w) (hmeets : Run.Meets (step cfg) (Worker.Guarded G H) ⟨w, none⟩ ls)
    (hrun : Run.exec (step cfg) ⟨w, none⟩ ls = some s) : J s.shared ∧ (s.isIdle = true → I s.shared) :=
  Worker.exec_guarded h.during (fun _ _ hu => h.wp_reconcile hu) hstop hw hmeets hrun

end Reconciler

end Ocelot.VirtualServer
