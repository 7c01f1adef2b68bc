/-
# An instance is placed where its local volumes can be mounted.
-/
import Ocelot.VirtualServer.Recovery

namespace Ocelot.VirtualServer

open Option List Sample Query
open Tracker (Bytes lit)
open Prog (Wp)

variable {F : Type}

def acceptsNode (handle : StringMap) (node : NodeID) : Bool :=
  handle.get (lit "nodeID") = [] || handle.get (lit "nodeID") = node

namespace Tables

def pinnedNode (cfg : Config F) (t : Tables) (nspace : Bytes) : List ServiceVolumeMount → NodeID
  | [] => []
  | m :: mounts =>
    match t.getVolumeByName nspace m.volumeName with
    | none => t.pinnedNode cfg nspace mounts
    | some vol =>
      if cfg.classDrivers vol.2.manifest.spec.cls = some (lit "local") ∧
        vol.2.boundNodeID ≠ [] then vol.2.boundNodeID
      else t.pinnedNode cfg nspace mounts

variable (cfg : Config F)

def MountsLocal (t : Tables) (m : ServiceManifest) (vol : Volume) : Prop :=
  (∃ decl ∈ m.spec.mounts, (t.getVolumeByName m.nspace decl.volumeName).map Prod.snd = some vol) ∧
    cfg.classDrivers vol.manifest.spec.cls = some (lit "local") ∧ (vol.state = .ready ∨ vol.state = .bound)

def AcceptedAt (t : Tables) (m : ServiceManifest) (node : NodeID) : Prop :=
  ∀ vol, t.MountsLocal cfg m vol → acceptsNode vol.driverHandle node = true

/-- **The condition**: the node a volume was made on, where its handle names one, is the node the
manifest is pinned to; or nothing pins the manifest, and there is no other node for it. -/
def Agrees (t : Tables) (nodes : List Node) (m : ServiceManifest) : Prop :=
  ∀ vol, t.MountsLocal cfg m vol →
    let home := vol.driverHandle.get (lit "nodeID")
    home = [] ∨ home = t.pinnedNode cfg m.nspace m.spec.mounts ∨
      t.pinnedNode cfg m.nspace m.spec.mounts = [] ∧ ∀ n ∈ nodes, n.state = .ready →
        hardFilter n m.spec = [] → n.id = home

theorem Agrees.acceptedAt {cfg : Config F} {t : Tables} {nodes : List Node} {m : ServiceManifest} {n : Node}
    (h : t.Agrees cfg nodes m) (hn : n ∈ eligibleNodes nodes (t.pinnedNode cfg m.nspace m.spec.mounts))
    (hpass : hardFilter n m.spec = []) : t.AcceptedAt cfg m n.id := by
  intro vol hvol
  unfold eligibleNodes at hn
  have hagrees := h vol hvol
  simp only [acceptsNode, Bool.or_eq_true, decide_eq_true_eq]
  by_cases hpin : t.pinnedNode cfg m.nspace m.spec.mounts = []
  · rw [if_pos hpin] at hn
    obtain ⟨hmem, hready⟩ := mem_filter.1 hn
    rcases hagrees with hempty | hhome | ⟨-, hall⟩
    · exact .inl hempty
    · exact .inl (hhome.trans hpin)
    · exact .inr (hall n hmem (of_decide_eq_true hready) hpass).symm
  · rw [if_neg hpin] at hn
    have hid : n.id = t.pinnedNode cfg m.nspace m.spec.mounts := by
      simpa using find?_some (mem_toList.1 hn)
    rcases hagrees with hempty | hhome | ⟨hnone, -⟩
    · exact .inl hempty
    · exact .inr (hhome.trans hid.symm)
    · exact absurd hnone hpin

end Tables

def Op.places : Op → Bool
  | .write (.writeAssignment _ _ _) | .write (.createInstance _ _) => true
  | _ => false

theorem Op.places_of_isQuiet (op : Op) (h : op.isQuiet = true) : op.places = false := by
  cases op with
  | write => cases h
  | _ => rfl

/-- The volumes of a manifest can be read. -/
def Answered (env : Env) (op : Op) (_ : World) : Prop :=
  ∀ nspace name, op = .query (.getVolumeByName nspace name) → env.fails = false

theorem wp_pinnedNode {cfg : Config F} {J : World → Prop} {w : World} {nspace : Bytes}
    {R : NodeID → World → Prop} (hJ : J w)
    (decls : List ServiceVolumeMount) (hR : R (w.tables.pinnedNode cfg nspace decls) w) :
    Wp act Answered J (localVolumePinnedNode cfg nspace decls) R w := by
  induction decls with
  | nil => exact hR
  | cons decl _ ih =>
    unfold Tables.pinnedNode at hR
    refine wp_find hJ (fun _ _ hansw hfails => absurd hfails (Bool.eq_false_iff.1 (hansw _ _ rfl))) ?_ ?_
    · intro _ _ (hnone : w.tables.getVolumeByName nspace decl.volumeName = none)
      rw [hnone] at hR
      exact ih hR
    · rintro _ ⟨id, vol⟩ (hvol : w.tables.getVolumeByName nspace decl.volumeName = some (id, vol))
      rw [hvol] at hR
      refine .ite (fun hpin => ?_) fun hpin => ih ?_
      · simp only [if_pos hpin] at hR
        exact hR
      · simpa only [if_neg hpin] using hR

/-- **An instance is placed where its local volumes can be mounted**, if their nodes agree: for
every database, every list of nodes, every manifest and every instance, where the volumes of the
manifest can be read. -/
theorem placed_where_mountable [Float64 F] (cfg : Config F) (nodes : List Node) {w : World} {i : InstanceID}
    {inst : ServiceInstance} {svc : Service} (hrow : w.tables.instances.lookup i = some inst)
    (hsvc : w.tables.services.lookup inst.serviceID = some svc) (hagrees : w.tables.Agrees cfg nodes svc.manifest)
    (env : ℕ → Env) (hanswered : Prog.Along act Answered env (scheduleInstance cfg nodes (i, inst))
      w) {row : ServiceInstance}
    (hplaced : (Prog.run act env (scheduleInstance cfg nodes (i, inst)) w).1.tables.instances.lookup
      i = some row) :
    row = inst ∨ w.tables.AcceptedAt cfg svc.manifest row.nodeID := by
  let K : World → Prop := fun u => ∀ row, u.tables.instances.lookup i = some row →
    w.tables.AcceptedAt cfg svc.manifest row.nodeID
  have hkeep : ∀ env op u, Answered env op u → op.places = false → K u → K (act env op u).1 := by
    intro env op u _ _ _ row' hrow'
    have heff := act_instanceEffect env op u i
    rw [hrow'] at heff
    grind [Op.places]
  have hwp : Wp act Answered (fun _ => True) (scheduleInstance cfg nodes (i, inst))
      (fun _ u => u = w ∨ K u) w := by
    refine wp_query trivial fun env _ => ?_
    cases hread : (getService inst.serviceID).eval env w.tables with
    | error => exact .inl rfl
    | ok svc' =>
      obtain rfl : svc = svc' := mem_unique hsvc (find_of_eval hread)
      refine Wp.seq (wp_pinnedNode trivial _ ?_)
      refine Wp.seq (wp_schedule (fun n => issues_computeScore (fun _ hq => hq) _ _ _ n) trivial
        (fun _ => .inl rfl) fun n hn hpass => ?_)
      refine Wp.seq (wp_assignNode trivial (fun _ _ => .inl rfl) fun _ row hrow' _ => ⟨trivial, ?_⟩)
      -- what follows does not assign the instance again
      refine (Wp.of_issues ?_ hkeep (fun _ _ => trivial) ?_).mono fun _ _ => .inr
      · refine .perform rfl (.except (fun _ => ?_) fun _ => .ret _)
        exact (issues_updateInstanceState Op.places_of_isQuiet fun _ _ => rfl).attempt
      · intro row' hrow''
        rw [World.assign, Tables.lookup_setInstance_self hrow'] at hrow''
        cases hrow''
        exact hagrees.acceptedAt hn hpass
  rcases hwp.run hanswered with hsame | hK
  · rw [hsame] at hplaced
    exact .inl (mem_unique hplaced hrow)
  · exact .inr (hK row hplaced)

namespace Sample

def provisioned (home : NodeID) : Tables :=
  let ls : List (Turn Unit Env) :=
    .begin () :: List.replicate 8 (.step { calm with handle := [(lit "nodeID", home)] })
  (Run.exec (Reconciler.step config) ⟨⟨stocked, []⟩, none⟩ ls).elim .empty fun s => s.shared.tables

def sent (home : NodeID) : Option ServiceInstance :=
  (Prog.run act (fun _ => calm) (scheduleInstance config ((provisioned home).listNodes calm none)
    (lit "i1", inState .declared))
    ⟨provisioned home, []⟩).1.tables.instances.lookup (lit "i1")

end Sample

/-- The volume was made on another node than the one the instance is sent to. -/
theorem placed_where_not_mountable : ∃ row, sent (lit "n2") = some row ∧ row ≠ inState .declared ∧
    ¬ (provisioned (lit "n2")).AcceptedAt config
      (web (lit "never") 0 [⟨lit "data", lit "/data", false⟩]).manifest row.nodeID := by
  obtain ⟨row, hrow, hmv, vol, hname, hst, href⟩ : ∃ row, sent (lit "n2") = some row ∧
      row ≠ inState .declared ∧ ∃ vol, ((provisioned (lit "n2")).getVolumeByName (lit "d") (lit "data")).map
        Prod.snd = some vol ∧ vol.state = .ready ∧
          acceptsNode vol.driverHandle row.nodeID = false := by decide +kernel
  refine ⟨row, hrow, hmv, fun h => ?_⟩
  have haccs := h vol ⟨⟨_, mem_cons_self, hname⟩, rfl, .inl hst⟩
  rw [href] at haccs
  cases haccs

theorem placed_where_made : ∃ row, sent (lit "n1") = some row ∧ row ≠ inState .declared ∧
    (provisioned (lit "n1")).AcceptedAt config
      (web (lit "never") 0 [⟨lit "data", lit "/data", false⟩]).manifest row.nodeID := by
  refine Run.ends_and (by decide +kernel) fun row hrow hmv => ?_
  refine (placed_where_mountable config _ (by decide +kernel) (by decide +kernel) ?_
    (fun _ => calm) (.of_forall (fun _ _ _ _ _ _ => rfl) _ _) hrow).resolve_left hmv
  rintro _ ⟨⟨_, hdecl, hvol⟩, -, -⟩
  obtain rfl := mem_singleton.1 hdecl
  obtain ⟨v, hv, hhome⟩ : ∃ v, ((provisioned (lit "n1")).getVolumeByName (lit "d") (lit "data")).map
    Prod.snd = some v ∧
    v.driverHandle.get (lit "nodeID") = lit "n1" := by decide +kernel
  obtain rfl := mem_unique hv hvol
  have hpin : (provisioned (lit "n1")).pinnedNode config (lit "d") [⟨lit "data", lit "/data", false⟩] = [] := by
    decide +kernel
  have hnodes : ∀ n ∈ (provisioned (lit "n1")).listNodes calm none, n.id = lit "n1" := by decide +kernel
  exact .inr (.inr ⟨hpin, fun n hn _ _ => (hnodes n hn).trans hhome.symm⟩)

end Ocelot.VirtualServer
