/-
# Sampling the peers of an answer (`tracker/optimize.go`).
-/
import Ocelot.Tracker.Announce

namespace Ocelot.Tracker

section

variable {α : Type*}

def swap (xs : List α) (i j : ℕ) : List α :=
  match xs[i]?, xs[j]? with
  | some a, some b => (xs.set i b).set j a
  | _, _ => xs

def fisherYatesShuffle (draws : ℕ → ℕ) (xs : List α) : List α :=
  (List.range' 1 (xs.length - 1)).reverse.foldl (fun ys i => swap ys i (draws i % (i + 1))) xs

def reservoirSample (draws : ℕ → ℕ) (xs : List α) (k : ℤ) : List α :=
  if k ≤ 0 then []
  else if xs.length ≤ k then xs
  else
    ((xs.drop k.toNat).zipIdx k.toNat).foldl (fun sample x =>
        let j := draws x.2 % (x.2 + 1)
        if j < k.toNat then sample.set j x.1 else sample)
      (xs.take k.toNat)

open List

theorem mem_reservoirSample {draws : ℕ → ℕ} {xs : List α} {k : ℤ} {x : α}
    (h : x ∈ reservoirSample draws xs k) : x ∈ xs := by
  unfold reservoirSample at h
  split_ifs at h with hnone hall
  · cases h
  · exact h
  · revert h
    suffices hfold : ∀ (rest : List (α × ℕ)) (sample : List α), (∀ y ∈ rest, y.1 ∈ xs) →
        (∀ y ∈ sample, y ∈ xs) → x ∈ rest.foldl (fun sample y =>
          let j := draws y.2 % (y.2 + 1)
          if j < k.toNat then sample.set j y.1 else sample) sample → x ∈ xs by
      refine hfold _ _ (fun y hy => ?_) fun y hy => mem_of_mem_take hy
      exact mem_of_mem_drop (fst_mem_of_mem_zipIdx hy)
    intro rest
    induction rest with
    | nil => exact fun sample _ hsample hx => hsample x hx
    | cons y rest ih =>
      intro sample hrest hsample hx
      obtain ⟨hy, hrest⟩ := forall_mem_cons.1 hrest
      refine ih _ hrest (fun z hz => ?_) hx
      dsimp only at hz
      split_ifs at hz
      · rcases mem_or_eq_of_mem_set hz with hz | rfl
        · exact hsample z hz
        · exact hy
      · exact hsample z hz

theorem mem_swap {xs : List α} {i j : ℕ} {x : α} (h : x ∈ swap xs i j) : x ∈ xs := by
  unfold swap at h
  split at h
  · rename_i a b ha hb
    rcases mem_or_eq_of_mem_set h with h | rfl
    · rcases mem_or_eq_of_mem_set h with h | rfl
      · exact h
      · exact mem_of_getElem? hb
    · exact mem_of_getElem? ha
  · exact h

theorem mem_fisherYatesShuffle {draws : ℕ → ℕ} {xs : List α} {x : α}
    (h : x ∈ fisherYatesShuffle draws xs) : x ∈ xs := by
  unfold fisherYatesShuffle at h
  generalize (range' 1 (xs.length - 1)).reverse = is at h
  induction is generalizing xs with
  | nil => exact h
  | cons i is ih => exact mem_swap (ih h)

end

structure SelectionEnv where
  order : Side → List Bytes
  sample : Side → ℕ → ℕ
  shuffle : Side → ℕ → ℕ

def collectVisiblePeers (order : List Bytes) (peerList : PeerList) (excludeUserID : UserID) : List Peer :=
  (order.filterMap peerList.lookup).filter fun peer => peer.userID ≠ excludeUserID ∧ peer.visible

def compactPeers (peers : List Peer) : Bytes :=
  (peers.filter fun peer => peer.ipPort.length = 6).flatMap Peer.ipPort

def sampleSide (env : SelectionEnv) (torrent : Torrent) (side : Side) (userID : UserID) (want : ℤ) : List Peer :=
  let peers := collectVisiblePeers (env.order side) (torrent.list side) userID
  fisherYatesShuffle (env.shuffle side) (reservoirSample (env.sample side) peers want)

/-- **`SelectPeersOptimized`**: a leecher gets seeders first and leechers for what is left, a seeder
gets leechers. -/
def selectPeersOptimized (env : SelectionEnv) (torrent : Torrent) (userID : UserID)
    (numwant : Int32) (isLeecher : Bool) : Bytes :=
  if numwant ≤ 0 then []
  else
    let want := numwant.toInt
    if isLeecher then
      let seeders := sampleSide env torrent .seeder userID want
      let peers := compactPeers seeders
      if seeders.length < want then
        peers ++ compactPeers (sampleSide env torrent .leecher userID (want - seeders.length))
      else peers
    else compactPeers (sampleSide env torrent .leecher userID want)

end Ocelot.Tracker
