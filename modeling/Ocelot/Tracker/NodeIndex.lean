/-
# The address index of the node registry.
-/
import Ocelot.Tracker.NodeRegistry

namespace Ocelot.Tracker

open Finmap Option

namespace NodeRegistry

/-- **The index and the nodes agree.** -/
structure IndexConsistent (r : NodeRegistry) : Prop where
  finds : ∀ ip, (r.getByIP ip).isSome ↔ ip ≠ [] ∧ ∃ id n, r.nodes.lookup id = some n ∧ n.lastIP = ip
  address : ∀ ip n, r.getByIP ip = some n → n.lastIP = ip
  registered : ∀ ip id, r.byIP.lookup ip = some id → ∃ n, r.nodes.lookup id = some n

inductive Op where
  | register (n : NodeIdentity)
  | heartbeat (payload : HeartbeatPayload) (ip : Bytes) (now : Time)
  | unregister (id : NodeID)
  deriving DecidableEq

variable (r : NodeRegistry)

def apply : Op → NodeRegistry
  | .register n => r.register n
  | .heartbeat payload ip now => r.agentHeartbeat payload ip now
  | .unregister id => r.unregister id

def step (op : Op) : Option NodeRegistry := some (r.apply op)

def KeepsIndex : Op → Prop
  | .register n => ∀ ip id, r.byIP.lookup ip = some id → id = n.nodeID → ip = n.lastIP
  | .heartbeat payload ip _ =>
    payload.nodeID ≠ 0 → r.nodes.lookup payload.nodeID ≠ none →
      (ip = [] ∨ r.byIP.lookup ip ≠ none) ∧ ∀ ip' id, r.byIP.lookup ip' = some id → id = payload.nodeID → ip' = ip
  | .unregister id =>
    ∀ id' n', r.nodes.lookup id' = some n' → id' ≠ id → n'.lastIP ≠ [] →
      (r.nodes.lookup id).map NodeIdentity.lastIP ≠ some n'.lastIP

instance (r : NodeRegistry) (op : Op) : Decidable (KeepsIndex r op) := by
  unfold KeepsIndex
  split <;> infer_instance

structure Indexed (r : NodeRegistry) : Prop where
  entry : ∀ ip id, r.byIP.lookup ip = some id → ip ≠ [] ∧ ∃ n, r.nodes.lookup id = some n ∧ n.lastIP = ip
  node : ∀ id n, r.nodes.lookup id = some n → n.lastIP ≠ [] → r.byIP.lookup n.lastIP ≠ none

theorem indexConsistent_iff : r.IndexConsistent ↔ r.Indexed := by
  constructor
  · intro h
    refine ⟨fun ip id hentry => ?_, fun id n hn hip hnone => ?_⟩
    · obtain ⟨n, hn⟩ := h.registered ip id hentry
      have hfound : r.getByIP ip = some n := getByIP_eq_some.2 ⟨id, hentry, hn⟩
      have hsome : (r.getByIP ip).isSome := by
        rw [hfound]
        rfl
      exact ⟨((h.finds ip).1 hsome).1, n, hn, h.address ip n hfound⟩
    · have hsome := (h.finds n.lastIP).2 ⟨hip, id, n, hn, rfl⟩
      rw [getByIP, hnone] at hsome
      cases hsome
  · intro h
    refine ⟨fun ip => ⟨fun hsome => ?_, ?_⟩, fun ip n hfound => ?_, fun ip id hentry => ?_⟩
    · obtain ⟨n, hfound⟩ := isSome_iff_exists.1 hsome
      obtain ⟨id, hentry, hn⟩ := getByIP_eq_some.1 hfound
      obtain ⟨hip, n', hn', haddr⟩ := h.entry ip id hentry
      exact ⟨hip, id, n', hn', haddr⟩
    · rintro ⟨hip, id, n, hn, rfl⟩
      obtain ⟨id', hentry⟩ := ne_none_iff_exists'.1 (h.node id n hn hip)
      obtain ⟨-, n', hn', -⟩ := h.entry _ id' hentry
      rw [getByIP_eq_some.2 ⟨id', hentry, hn'⟩]
      rfl
    · obtain ⟨id, hentry, hn⟩ := getByIP_eq_some.1 hfound
      obtain ⟨-, n', hn', haddr⟩ := h.entry ip id hentry
      rw [hn] at hn'
      cases hn'
      exact haddr
    · obtain ⟨-, n, hn, -⟩ := h.entry ip id hentry
      exact ⟨n, hn⟩

theorem lookup_register_byIP (n : NodeIdentity) (ip : Bytes) : (r.register n).byIP.lookup ip =
      if n.lastIP ≠ [] ∧ ip = n.lastIP then some n.nodeID else r.byIP.lookup ip := by
  unfold register
  by_cases hempty : n.lastIP = []
  · simp [hempty]
  · by_cases hip : ip = n.lastIP
    · subst hip
      simp [hempty]
    · simp [hempty, hip, lookup_insert_of_ne]

variable {r : NodeRegistry}

theorem Indexed.register_iff (h : r.Indexed) (n : NodeIdentity) :
    (r.register n).Indexed ↔ KeepsIndex r (.register n) := by
  constructor
  · rintro h' ip id hentry rfl
    by_contra hip
    -- the old entry is still there, and now finds the new node
    have hstill : (r.register n).byIP.lookup ip = some n.nodeID := by
      rw [lookup_register_byIP, if_neg (fun hc => hip hc.2)]
      exact hentry
    obtain ⟨-, m, hm, haddr⟩ := h'.entry ip _ hstill
    rw [register, lookup_insert] at hm
    cases hm
    exact hip haddr.symm
  · intro hkeeps
    refine ⟨fun ip id hentry => ?_, fun id m hm hip => ?_⟩
    · rw [lookup_register_byIP] at hentry
      split_ifs at hentry with hnew
      · cases hentry
        exact ⟨hnew.2 ▸ hnew.1, n, lookup_insert _, hnew.2.symm⟩
      · obtain ⟨hip, m, hm, haddr⟩ := h.entry ip id hentry
        have hne : id ≠ n.nodeID := by
          intro hid
          have hsame := hkeeps ip id hentry hid
          exact hnew ⟨hsame ▸ hip, hsame⟩
        exact ⟨hip, m, by rw [register, lookup_insert_of_ne _ hne, hm], haddr⟩
    · rw [lookup_register_byIP]
      split_ifs with hnew
      · simp
      · rcases lookup_insert_cases hm with ⟨rfl, rfl⟩ | ⟨-, hm⟩
        · exact absurd ⟨hip, rfl⟩ hnew
        · exact h.node id m hm hip

theorem Indexed.heartbeat_iff (h : r.Indexed) (payload : HeartbeatPayload) (ip : Bytes)
    (now : Time) : (r.agentHeartbeat payload ip now).Indexed ↔ KeepsIndex r (.heartbeat payload ip now) := by
  unfold agentHeartbeat
  by_cases hzero : payload.nodeID = 0
  · rw [if_pos hzero]
    exact iff_of_true h fun hne => absurd hzero hne
  rw [if_neg hzero]
  rcases hm : r.nodes.lookup payload.nodeID with _ | m
  · rw [update_of_none hm]
    exact iff_of_true h fun _ hne => absurd hm hne
  rw [update_of_some hm]
  constructor
  · rintro h' - -
    have hnode : ip ≠ [] → r.byIP.lookup ip ≠ none := by
      intro hip
      have hind := h'.node payload.nodeID _ (lookup_insert _)
      rw [HeartbeatPayload.apply_lastIP] at hind
      exact hind hip
    refine ⟨or_iff_not_imp_left.2 hnode, ?_⟩
    rintro ip' id hentry rfl
    obtain ⟨-, n, hn, haddr⟩ := h'.entry ip' _ hentry
    rw [lookup_insert] at hn
    cases hn
    rw [← haddr, HeartbeatPayload.apply_lastIP]
  · intro hkeeps
    obtain ⟨hip, hents⟩ := hkeeps hzero (by rw [hm]; exact some_ne_none m)
    refine ⟨fun ip' id hentry => ?_, fun id n hn hne => ?_⟩
    · obtain ⟨hip', n, hn, haddr⟩ := h.entry ip' id hentry
      refine ⟨hip', ?_⟩
      by_cases hid : id = payload.nodeID
      · obtain rfl := hents ip' id hentry hid
        exact ⟨_, by rw [hid, lookup_insert], HeartbeatPayload.apply_lastIP _ _ _ _⟩
      · exact ⟨n, by rw [lookup_insert_of_ne _ hid, hn], haddr⟩
    · rcases lookup_insert_cases hn with ⟨rfl, rfl⟩ | ⟨-, hn⟩
      · rw [HeartbeatPayload.apply_lastIP] at hne ⊢
        exact hip.resolve_left hne
      · exact h.node id n hn hne

theorem Indexed.unregister_iff (h : r.Indexed) (id : NodeID) :
    (r.unregister id).Indexed ↔ KeepsIndex r (.unregister id) := by
  rcases hm : r.nodes.lookup id with _ | m
  · have hsame : r.unregister id = r := by
      unfold unregister
      rw [hm, erase_of_notMem (lookup_eq_none.1 hm)]
    rw [hsame]
    refine iff_of_true h fun id' n' _ _ _ heq => ?_
    rw [hm] at heq
    cases heq
  have hunregister : r.unregister id = ⟨r.nodes.erase id, r.byIP.erase m.lastIP⟩ := by
    unfold unregister
    rw [hm]
  rw [hunregister]
  constructor
  · intro h' id' n' hn' hid hip heq
    rw [hm] at heq
    have haddr : m.lastIP = n'.lastIP := some.inj heq
    have hind := h'.node id' n' (by rw [lookup_erase_ne hid, hn']) hip
    rw [← haddr, lookup_erase] at hind
    exact hind rfl
  · intro hkeeps
    refine ⟨fun ip id' hentry => ?_, fun id' n' hn' hip => ?_⟩
    · have hip : ip ≠ m.lastIP := by
        rintro rfl
        rw [lookup_erase] at hentry
        cases hentry
      rw [lookup_erase_ne hip] at hentry
      obtain ⟨hne, n', hn', haddr⟩ := h.entry ip id' hentry
      have hid : id' ≠ id := by
        rintro rfl
        rw [hm] at hn'
        cases hn'
        exact hip haddr.symm
      exact ⟨hne, n', by rw [lookup_erase_ne hid, hn'], haddr⟩
    · have hid : id' ≠ id := by
        rintro rfl
        rw [lookup_erase] at hn'
        cases hn'
      rw [lookup_erase_ne hid] at hn'
      have hother : n'.lastIP ≠ m.lastIP := by
        intro hsame
        exact hkeeps id' n' hn' hid hip (by rw [hm, hsame]; rfl)
      rw [lookup_erase_ne hother]
      exact h.node id' n' hn' hip

theorem IndexConsistent.step_iff {r' : NodeRegistry} (op : Op) (h : r.IndexConsistent)
    (hstep : r.step op = some r') : r'.IndexConsistent ↔ KeepsIndex r op := by
  cases hstep
  rw [indexConsistent_iff] at h ⊢
  cases op with
  | register n => exact h.register_iff n
  | heartbeat payload ip now => exact h.heartbeat_iff payload ip now
  | unregister id => exact h.unregister_iff id

theorem empty_indexConsistent : IndexConsistent empty :=
  (indexConsistent_iff _).2 ⟨fun _ _ h => (nomatch h), fun _ _ h => (nomatch h)⟩

/-- **When the index is right.** -/
theorem index_consistent_iff (ops : List Op) (r : NodeRegistry)
    (hrun : Run.exec step empty ops = some r) : (∀ pre s, pre <+: ops →
      Run.exec step empty pre = some s → IndexConsistent s) ↔ Run.Meets step KeepsIndex empty ops :=
  Run.forall_prefix_iff_meets (fun _ op _ hs hst => hs.step_iff op hst) empty_indexConsistent hrun

end NodeRegistry

namespace Sample

def node : NodeIdentity := { nodeID := 1, hostname := lit "node1", lastIP := lit "10.0.0.1" }

def reconnects : List NodeRegistry.Op :=
  [.register node, .heartbeat { nodeID := 1 } (lit "10.0.0.2") 0]

def stays : List NodeRegistry.Op :=
  [.register node, .heartbeat { nodeID := 1 } (lit "10.0.0.1") 0, .unregister 1]

end Sample

open Sample

namespace NodeRegistry

/-- **The index is left behind**: the new address finds nothing, and the old one finds a node that
is not there. -/
theorem index_left_behind : ¬ ∀ (ops : List Op) (r : NodeRegistry), Run.exec step empty ops =
    some r → IndexConsistent r := by
  intro hclaim
  have h := hclaim reconnects _ rfl
  have hfound : (((empty.register node).agentHeartbeat { nodeID := 1 } (lit "10.0.0.2") 0).getByIP
      (lit "10.0.0.1")).map NodeIdentity.lastIP = some (lit "10.0.0.2") := by
    decide +kernel
  obtain ⟨n, hn, haddr⟩ := map_eq_some_iff.1 hfound
  have hsame := h.address _ n hn
  rw [haddr] at hsame
  exact absurd hsame (by decide +kernel)

theorem index_consistent_stays : Run.Meets step KeepsIndex empty stays ∧
      ∀ pre s, pre <+: stays → Run.exec step empty pre = some s → IndexConsistent s := by
  have hmeets : Run.Meets step KeepsIndex empty stays := by decide +kernel
  exact ⟨hmeets, (index_consistent_iff stays _ rfl).2 hmeets⟩

end NodeRegistry

end Ocelot.Tracker
