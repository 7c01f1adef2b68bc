/-
# The whitelist as a trie (`tracker/optimize.go`).
-/
import Ocelot.Tracker.Types

namespace Ocelot.Tracker

open List Bool

/-- The first entry for a byte is the one of the map, so an entry is written by putting it in
front. -/
inductive TrieNode
  | mk (children : List (UInt8 × TrieNode)) (isPrefix : Bool)

namespace TrieNode

def children : TrieNode → List (UInt8 × TrieNode)
  | mk children _ => children

def isPrefix : TrieNode → Bool
  | mk _ isPrefix => isPrefix

def new : TrieNode := mk [] false

/-- `WhitelistTrie.Add`, from a node on. -/
def add : TrieNode → Bytes → TrieNode
  | node, [] => mk node.children true
  | node, c :: rest => mk ((c, ((node.children.lookup c).getD new).add rest) :: node.children) node.isPrefix

/-- The loop of `WhitelistTrie.IsAllowed`, from a node on. -/
def allows : TrieNode → Bytes → Bool
  | node, [] => node.isPrefix
  | node, c :: rest =>
    if node.isPrefix then true
    else
      match node.children.lookup c with
      | none => false
      | some next => next.allows rest

def isAllowed (root : TrieNode) (peerID : Bytes) : Bool := root.children.isEmpty || root.allows peerID

theorem allows_new (peerID : Bytes) : new.allows peerID = false := by
  cases peerID <;> rfl

theorem allows_add (node : TrieNode) (entry peerID : Bytes) :
    (node.add entry).allows peerID = (entry.isPrefixOf peerID || node.allows peerID) := by
  induction entry generalizing node peerID with
  | nil => cases peerID <;> rfl
  | cons c _ ih =>
    cases peerID with
    | nil => rfl
    | cons d =>
      obtain ⟨children, _ | _⟩ := node
      · simp only [add, allows, isPrefix, TrieNode.children, false_eq_true, if_false, lookup_cons,
          isPrefixOf_cons_cons]
        by_cases hd : d = c
        · subst hd
          simp only [beq_self_eq_true, Bool.true_and, ih]
          -- a child that was missing has just been made, and allows nothing else
          cases children.lookup d with
          | none => rw [Option.getD_none, allows_new]
          | some => rfl
        · rw [beq_false_of_ne hd, beq_false_of_ne (Ne.symm hd), Bool.false_and, Bool.false_or]
      · simp [add, allows, isPrefix]

theorem allows_foldl_add (entries : List Bytes) (node : TrieNode) (peerID : Bytes) :
    (entries.foldl add node).allows peerID = (entries.any (·.isPrefixOf peerID) || node.allows peerID) := by
  induction entries generalizing node with
  | nil => rfl
  | cons _ _ ih => rw [List.foldl_cons, ih, allows_add, List.any_cons, Bool.or_left_comm, Bool.or_assoc]

theorem isEmpty_children_foldl_add (entries : List Bytes) (node : TrieNode) :
    (entries.foldl add node).children.isEmpty = (entries.all (·.isEmpty) && node.children.isEmpty) := by
  induction entries generalizing node with
  | nil => rfl
  | cons entry _ ih =>
    rw [foldl_cons, ih]
    cases entry <;> simp [add, children]

end TrieNode

def buildTrieFromSlice (entries : List Bytes) : TrieNode := entries.foldl .add .new

theorem isPrefixOf_eq_take (entry peerID : Bytes) :
    entry.isPrefixOf peerID = (decide (entry.length ≤ peerID.length) && peerID.take entry.length == entry) := by
  rw [Bool.eq_iff_iff, List.isPrefixOf_iff_prefix, Bool.and_eq_true, decide_eq_true_eq, beq_iff_eq]
  exact ⟨fun h => ⟨h.length_le, (prefix_iff_eq_take.1 h).symm⟩, fun h => prefix_iff_eq_take.2 h.2.symm⟩

/-- **The trie allows what the list allows.** -/
theorem isAllowed_buildTrieFromSlice (entries : List Bytes) (peerID : Bytes) :
    (buildTrieFromSlice entries).isAllowed peerID = Whitelist.isAllowed entries peerID := by
  have hany : Whitelist.isAllowed entries peerID = (entries.isEmpty || entries.any (·.isPrefixOf peerID)) := by
    simp only [Whitelist.isAllowed, isPrefixOf_eq_take]
  rw [hany, TrieNode.isAllowed, buildTrieFromSlice, TrieNode.isEmpty_children_foldl_add,
    TrieNode.allows_foldl_add, TrieNode.allows_new, Bool.or_false]
  cases entries with
  | nil => rfl
  | cons entry =>
    -- a root without children has seen empty entries only, and each of them allows everything
    cases entry <;> simp [TrieNode.new, TrieNode.children, isPrefixOf]

end Ocelot.Tracker
