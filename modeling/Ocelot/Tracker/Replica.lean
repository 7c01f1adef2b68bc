/-
# One copy of one artifact on one node (`tracker/replica_class.go`, `tracker/agent_heartbeat.go`).
-/
import Ocelot.Tracker.NodeRegistry

namespace Ocelot.Tracker

open List Finset Finmap

inductive ReplicaClass where
  | ephemeral | cache | standard | pinned | archival
  deriving DecidableEq

namespace ReplicaClass

def rank : ReplicaClass → ℕ
  | ephemeral => 0
  | cache => 1
  | standard => 2
  | pinned => 3
  | archival => 4

def countsTowardSLA (rc : ReplicaClass) : Bool := rc = standard || rc = pinned

end ReplicaClass

inductive NodeReplicaState where
  | absent | requested | swarming | btComplete | hashVerify | verified | seeding | invalid | purge
  deriving DecidableEq

namespace NodeReplicaState

def string : NodeReplicaState → Bytes
  | absent => lit "ABSENT"
  | requested => lit "REQUESTED"
  | swarming => lit "SWARMING"
  | btComplete => lit "BT_COMPLETE"
  | hashVerify => lit "HASH_VERIFY"
  | verified => lit "VERIFIED"
  | seeding => lit "SEEDING"
  | invalid => lit "INVALID"
  | purge => lit "PURGE"

def countsAsVerified (s : NodeReplicaState) : Bool := s = verified || s = seeding

def next : NodeReplicaState → List NodeReplicaState
  | absent => [requested]
  | requested => [swarming, absent]
  | swarming => [btComplete, absent]
  | btComplete => [hashVerify]
  | hashVerify => [verified, invalid]
  | verified => [seeding, invalid]
  | seeding => [invalid, absent]
  | invalid => [purge]
  | purge => [absent]

variable {s : NodeReplicaState}

theorem countsAsVerified_iff : s.countsAsVerified = true ↔ s = verified ∨ s = seeding := by
  unfold countsAsVerified
  rw [Bool.or_eq_true, decide_eq_true_iff, decide_eq_true_iff]

theorem eq_of_verified_mem_next (h : verified ∈ s.next) : s = hashVerify := by
  revert h
  cases s <;> decide

theorem eq_of_seeding_mem_next (h : seeding ∈ s.next) : s = verified := by
  revert h
  cases s <;> decide

end NodeReplicaState

structure NodeReplica where
  cls : ReplicaClass
  state : NodeReplicaState
  lastTransition : Time
  requestedAt : Time := 0
  verifiedAt : Time := 0
  deriving DecidableEq

namespace NodeReplica

def new (cls : ReplicaClass) (now : Time) : NodeReplica where
  cls := cls
  state := .absent
  lastTransition := now

variable (r : NodeReplica)

/-- `Transition`: a move to the state the replica is in already is accepted and changes nothing. -/
def transition (next : NodeReplicaState) (now : Time) : Except Bytes NodeReplica :=
  if r.state = next then .ok r
  else if next ∈ r.state.next then
    .ok { r with
        state := next
        lastTransition := now
        requestedAt := if next = .requested then now else r.requestedAt
        verifiedAt := if next = .verified then now else r.verifiedAt }
  else
    .error (lit "invalid node replica state transition: " ++ r.state.string ++ lit " → " ++ next.string)

def advance (now : Time) (next : NodeReplicaState) : NodeReplica :=
  match r.transition next now with
  | .ok r' => r'
  | .error _ => r

def forceEvict (now : Time) : NodeReplica :=
  if r.state = .seeding ∨ r.state = .verified then { r with state := .absent, lastTransition := now } else r

def upgradeClass (higher : ReplicaClass) : NodeReplica × Bool :=
  if r.cls.rank < higher.rank then ({ r with cls := higher }, true) else (r, false)

variable (r : NodeReplica) (now : Time) (next : NodeReplicaState)

theorem advance_state : (r.advance now next).state = r.state ∨ (r.advance now next).state = next ∧
    next ∈ r.state.next := by
  unfold advance transition
  by_cases hsame : r.state = next
  · rw [if_pos hsame]
    exact .inl rfl
  · rw [if_neg hsame]
    by_cases hall : next ∈ r.state.next
    · rw [if_pos hall]
      exact .inr ⟨rfl, hall⟩
    · rw [if_neg hall]
      exact .inl rfl

@[simp] theorem advance_cls : (r.advance now next).cls = r.cls := by
  unfold advance transition
  split_ifs <;> rfl

theorem forceEvict_state : (r.forceEvict now).state = if r.state.countsAsVerified then .absent else r.state := by
  unfold forceEvict
  by_cases h : r.state = .seeding ∨ r.state = .verified
  · rw [if_pos h, if_pos (NodeReplicaState.countsAsVerified_iff.2 h.symm)]
  · rw [if_neg h, if_neg fun hv => h (NodeReplicaState.countsAsVerified_iff.1 hv).symm]

@[simp] theorem forceEvict_cls : (r.forceEvict now).cls = r.cls := by
  unfold forceEvict
  split_ifs <;> rfl

@[simp] theorem upgradeClass_state (higher : ReplicaClass) : (r.upgradeClass higher).1.state = r.state := by
  unfold upgradeClass
  split_ifs <;> rfl

end NodeReplica

abbrev ReplicaKey := NodeID × Bytes

abbrev NodeReplicaMap := Finmap fun _ : ReplicaKey => NodeReplica

namespace NodeReplicaMap

variable (m : NodeReplicaMap)

def stateOf (k : ReplicaKey) : NodeReplicaState :=
  match m.lookup k with
  | some r => r.state
  | none => .absent

def getOrCreate (k : ReplicaKey) (cls : ReplicaClass) (now : Time) : NodeReplicaMap × NodeReplica :=
  match m.lookup k with
  | some r => (m, r)
  | none => (m.insert k (.new cls now), .new cls now)

variable (infoHash : Bytes)

def holders : Finset NodeID :=
  (m.keys.filter fun k => k.2 = infoHash).image Prod.fst

def Enumerates (order : List NodeID) : Prop :=
  order.Nodup ∧ order.toFinset = m.holders infoHash

instance (m : NodeReplicaMap) (infoHash : Bytes) (order : List NodeID) : Decidable (m.Enumerates infoHash order) :=
  inferInstanceAs (Decidable (_ ∧ _))

def nodesWhere (p : NodeReplica → Bool) : Finset NodeID :=
  (m.holders infoHash).filter fun id => ((m.lookup (id, infoHash)).map p).getD false

def select (order : List NodeID) (p : NodeReplica → Bool) : List NodeID :=
  order.filter fun id => ((m.lookup (id, infoHash)).map p).getD false

def verifiedSLA (r : NodeReplica) : Bool := r.state.countsAsVerified && r.cls.countsTowardSLA

def verifiedCount : ℕ := (m.nodesWhere infoHash verifiedSLA).card

variable {m : NodeReplicaMap} {infoHash : Bytes} {id : NodeID} {p : NodeReplica → Bool} {order : List NodeID}
   {k : ReplicaKey}

theorem mem_holders : id ∈ m.holders infoHash ↔ (id, infoHash) ∈ m := by
  unfold holders
  rw [mem_image]
  constructor
  · rintro ⟨k, hk, rfl⟩
    obtain ⟨hmem, rfl⟩ := mem_filter.1 hk
    exact mem_keys.1 hmem
  · intro h
    exact ⟨(id, infoHash), mem_filter.2 ⟨mem_keys.2 h, rfl⟩, rfl⟩

theorem mem_nodesWhere : id ∈ m.nodesWhere infoHash p ↔ ∃ r, m.lookup (id, infoHash) = some r ∧ p r = true := by
  unfold nodesWhere
  rw [Finset.mem_filter, mem_holders, mem_iff]
  constructor
  · rintro ⟨⟨r, hr⟩, hp⟩
    rw [hr] at hp
    exact ⟨r, hr, hp⟩
  · rintro ⟨r, hr, hp⟩
    exact ⟨⟨r, hr⟩, by rw [hr]; exact hp⟩

section

variable (hord : m.Enumerates infoHash order)
include hord

theorem mem_select : id ∈ m.select infoHash order p ↔ id ∈ m.nodesWhere infoHash p := by
  unfold select nodesWhere
  rw [List.mem_filter, Finset.mem_filter, ← hord.2, List.mem_toFinset]

theorem toFinset_select : (m.select infoHash order p).toFinset = m.nodesWhere infoHash p := by
  ext id
  rw [mem_toFinset, mem_select hord]

theorem nodup_select : (m.select infoHash order p).Nodup := hord.1.filter _

theorem length_select : (m.select infoHash order p).length = (m.nodesWhere infoHash p).card := by
  rw [← toFinset_card_of_nodup (nodup_select hord), toFinset_select hord]

theorem card_take_select (n : ℕ) :
    ((m.select infoHash order p).take n).toFinset ⊆ m.nodesWhere infoHash p ∧
      ((m.select infoHash order p).take n).toFinset.card = min n (m.nodesWhere infoHash p).card := by
  constructor
  · intro _ hid
    rw [← toFinset_select hord]
    exact mem_toFinset.2 (mem_of_mem_take (mem_toFinset.1 hid))
  · rw [toFinset_card_of_nodup ((nodup_select hord).sublist (take_sublist _ _)), length_take, length_select hord]

end

theorem stateOf_of_lookup {r : NodeReplica} (h : m.lookup k = some r) : m.stateOf k = r.state := by
  unfold stateOf
  rw [h]

theorem stateOf_of_lookup_none (h : m.lookup k = none) : m.stateOf k = .absent := by
  unfold stateOf
  rw [h]

@[simp] theorem stateOf_insert (m : NodeReplicaMap) (k : ReplicaKey) (r : NodeReplica) :
    stateOf (m.insert k r) k = r.state := stateOf_of_lookup (lookup_insert m)

theorem stateOf_insert_of_ne (m : NodeReplicaMap) {k' : ReplicaKey} (r : NodeReplica) (h : k' ≠ k) :
    stateOf (m.insert k r) k' = m.stateOf k' := by
  unfold stateOf
  rw [lookup_insert_of_ne m h]

theorem exists_lookup_of_stateOf_ne (h : m.stateOf k ≠ .absent) : ∃ r, m.lookup k = some r ∧
    r.state = m.stateOf k := by
  rcases hr : m.lookup k with _ | r
  · exact absurd (stateOf_of_lookup_none hr) h
  · exact ⟨r, rfl, (stateOf_of_lookup hr).symm⟩

end NodeReplicaMap

structure ReplicaInventory where
  infoHash : Bytes
  state : Bytes
  verifyState : Bytes := []
  deriving DecidableEq

namespace ReplicaInventory

variable (inv : ReplicaInventory)

def transitions (current : NodeReplicaState) : List NodeReplicaState :=
  if inv.state = lit "swarming" then
    if current = .requested then [.swarming] else []
  else if inv.state = lit "complete" then
    (if current = .swarming then [.btComplete] else []) ++ (if current = .btComplete then [.hashVerify] else [])
  else if inv.state = lit "seeding" then
    if current = .hashVerify then
      if inv.verifyState = lit "hash_ok" then [.verified, .seeding]
      else if inv.verifyState = lit "hash_fail" then [.invalid]
      else []
    else if current = .verified then [.seeding]
    else []
  else if inv.state = lit "invalid" ∨ inv.state = lit "error" then
    if current ≠ .absent ∧ current ≠ .purge then [.invalid] else []
  else []

def HashOK : Prop := inv.state = lit "seeding" ∧ inv.verifyState = lit "hash_ok"

instance (inv : ReplicaInventory) : Decidable inv.HashOK := inferInstanceAs (Decidable (_ ∧ _))

theorem transitions_cases (current : NodeReplicaState) :
    inv.HashOK ∧ inv.transitions current = [.verified, .seeding] ∨
      ∀ next ∈ inv.transitions current, next ∈ [.swarming, .btComplete, .hashVerify, .seeding, .invalid] := by
  unfold transitions
  split_ifs with h1 h2 h3 h4 h5 h6 h7 h8 h9 <;> first
    | exact .inl ⟨⟨‹inv.state = lit "seeding"›, ‹inv.verifyState = lit "hash_ok"›⟩, rfl⟩
    | exact .inr (by decide)

end ReplicaInventory

def reconcileInventory (m : NodeReplicaMap) (nodeID : NodeID) (inv : ReplicaInventory)
    (now : Time) : NodeReplicaMap :=
  match m.lookup (nodeID, inv.infoHash) with
  | none => m
  | some r => m.insert (nodeID, inv.infoHash)
    ((inv.transitions r.state).foldl (fun r next => r.advance now next) r)

end Ocelot.Tracker
