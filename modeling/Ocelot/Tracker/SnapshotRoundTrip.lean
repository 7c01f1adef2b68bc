/-
# What a snapshot keeps of the swarms.
-/
import Ocelot.Tracker.AnnouncePeers
import Ocelot.Tracker.Snapshot

namespace Ocelot.Tracker

open Option Finmap PeerList Sample Torrent

def Peer.Placed (p : Peer) : Prop := p.ipPort = if p.ip = [] then [] else compactIPPort p.ip p.port

variable {p peer : Peer} {w' w : Worker} {h : Bytes} {t : Torrent}

theorem Peer.Placed.of_eq {q : Peer} (hp : p.Placed) (hip : q.ip = p.ip) (hport : q.port = p.port)
    (hipPort : q.ipPort = p.ipPort) : q.Placed := by
  unfold Peer.Placed
  rw [hip, hport, hipPort]
  exact hp

theorem ne_nil_of_validateIPNotPrivate {ip : IP} (h : validateIPNotPrivate ip = true) : ip ≠ [] := by
  rintro rfl
  cases h

theorem accountTraffic_address (env : Env) (c : Call) (user : User) (t : Torrent) (peer : Peer)
    (v : Locals) : (accountTraffic env c user t peer v).peer.ip = peer.ip ∧
      (accountTraffic env c user t peer v).peer.port = peer.port ∧
      (accountTraffic env c user t peer v).peer.ipPort = peer.ipPort ∧
      (accountTraffic env c user t peer v).peer.invalidIP = peer.invalidIP := by
  unfold accountTraffic creditTraffic
  split
  · exact ⟨rfl, rfl, rfl, rfl⟩
  · split
    · exact ⟨rfl, rfl, rfl, rfl⟩
    · dsimp only
      split <;> exact ⟨rfl, rfl, rfl, rfl⟩

theorem placeAddress_placed (ip : IP) (port : UInt16) (inserted : Bool)
    (hp : peer.Placed) : (placeAddress ip port inserted peer).1.Placed := by
  unfold placeAddress
  split
  · -- a refused address is not stored
    exact hp.of_eq rfl rfl rfl
  · rename_i hval
    split
    · have hip : ip ≠ [] := ne_nil_of_validateIPNotPrivate (by simpa using hval)
      show compactIPPort ip port = if ip = [] then [] else compactIPPort ip port
      rw [if_neg hip]
    · exact hp

theorem peerInvariant_placed : PeerInvariant Peer.Placed where
  fresh _ := rfl
  refresh env c user t peer v hp := by
    obtain ⟨hip, hport, hipPort, -⟩ := accountTraffic_address env c user t peer v
    have hleft : Peer.Placed { (accountTraffic env c user t peer v).peer with left := c.req.left } :=
      hp.of_eq hip hport hipPort
    exact (placeAddress_placed c.effectiveIP c.req.port v.inserted hleft).of_eq rfl rfl rfl

theorem snapToPeer_peerToSnap (hp : p.Placed) (seeder : Bool) :
    snapToPeer (peerToSnap p seeder) = { p with invalidIP := false } := by
  unfold snapToPeer peerToSnap
  rw [← show p.ipPort = _ from hp]

def SaveEnv.Visits (env : SaveEnv) (w : Worker) : Prop :=
  ∀ h t, w.torrents.lookup h = some t → ∀ side k p, (t.list side).lookup k = some p → k ∈ env.order h side

instance (env : SaveEnv) (w : Worker) : Decidable (env.Visits w) :=
  inferInstanceAs (Decidable (∀ h t, w.torrents.lookup h = some t → ∀ side k p,
    (t.list side).lookup k = some p → k ∈ env.order h side))

def Worker.Vacant (w : Worker) : Prop := ∀ h t, w.torrents.lookup h = some t → ∀ side, t.list side = ∅

instance (w : Worker) : Decidable w.Vacant := by
  unfold Worker.Vacant
  infer_instance

def Worker.Vacates (w' w : Worker) : Prop := w'.torrents.keys = w.torrents.keys ∧ w'.Vacant

instance (w' w : Worker) : Decidable (w'.Vacates w) :=
  inferInstanceAs (Decidable (w'.torrents.keys = w.torrents.keys ∧ w'.Vacant))

theorem Worker.Vacates.mem_iff (hvac : w'.Vacates w) (h : Bytes) : h ∈ w'.torrents ↔ h ∈ w.torrents := by
  rw [← mem_keys, ← mem_keys, hvac.1]

def Worker.SameSwarms (w' w : Worker) : Prop := ∀ h side, (w'.torrents.lookup h).map (Torrent.list · side) =
    (w.torrents.lookup h).map (Torrent.list · side)

theorem PeerList.forEach_map {γ : Type} (l : PeerList) (order : List Bytes) (g : Peer → γ) :
    ((PeerList.forEach l order).map fun e => (e.1, g e.2)) =
      order.filterMap fun k => ((l.lookup k).map g).map fun q => (k, q) := by
  unfold PeerList.forEach
  rw [List.map_filterMap]
  congr 1
  funext k
  rw [map_map, map_map]
  rfl

theorem sideEntries_map (side : Side) (seeder : Bool) (es : List (Bytes × Peer)) :
    sideEntries side (es.map fun e => ⟨e.1, peerToSnap e.2 seeder⟩) =
      if seeder = decide (side = .seeder) then
        es.map fun e => (e.1, snapToPeer (peerToSnap e.2 (decide (side = .seeder))))
      else [] := by
  unfold sideEntries
  rw [List.filter_map, List.map_map]
  cases side <;> cases seeder <;> simp [Function.comp_def, SnapshotEntry.side, peerToSnap]

theorem sideEntries_snapshotEntries (t : Torrent) (order : Side → List Bytes) (side : Side) :
    sideEntries side (t.snapshotEntries order) = (PeerList.forEach (t.list side) (order side)).map fun e =>
        (e.1, snapToPeer (peerToSnap e.2 (decide (side = .seeder)))) := by
  have happend : sideEntries side (t.snapshotEntries order) =
      sideEntries side ((PeerList.forEach t.seeders (order .seeder)).map fun e =>
          ⟨e.1, peerToSnap e.2 true⟩) ++ sideEntries side
              ((PeerList.forEach t.leechers (order .leecher)).map fun e =>
          ⟨e.1, peerToSnap e.2 false⟩) := by
    unfold sideEntries snapshotEntries
    rw [List.filter_append, List.map_append]
  rw [happend, sideEntries_map, sideEntries_map]
  cases side with
  | seeder => exact List.append_nil _
  | leecher => rfl

theorem Worker.peers_peerSnapshot (w : Worker) (env : SaveEnv)
    (ht : w.torrents.lookup h = some t) : (w.peerSnapshot env).peers h = t.snapshotEntries (env.order h) := by
  unfold PeerSnapshot.peers Worker.peerSnapshot
  rw [lookup_filter, lookup_mapVal, ht, map_some]
  by_cases hents : 0 < (t.snapshotEntries (env.order h)).length
  · rw [filter_some_eq_some.2 (by simpa using hents)]
    rfl
  · rw [List.length_pos_iff, not_not] at hents
    rw [hents]
    rfl

theorem lookup_loadSnapshot (hw : w.Every Peer.Placed) {env : SaveEnv} (henv : env.Visits w)
    (hvac : w'.Vacates w) (ht : w.torrents.lookup h = some t) :
    ∃ t', (w'.loadSnapshot (.decoded (w.peerSnapshot env))).torrents.lookup h = some t' ∧
      ∀ side k, (t'.list side).lookup k = ((t.list side).lookup k).map fun p => { p with invalidIP := false } := by
  obtain ⟨t0, ht0⟩ := mem_iff.1 ((hvac.mem_iff h).2 (mem_of_lookup_eq_some ht))
  refine ⟨(t.snapshotEntries (env.order h)).foldl restore t0, ?_, ?_⟩
  · show (w'.torrents.mapVal _).lookup h = _
    rw [lookup_mapVal, ht0, map_some, w.peers_peerSnapshot env ht]
  · intro side k
    rw [restore_list, sideEntries_snapshotEntries,
      forEach_map _ _ fun p => snapToPeer (peerToSnap p (decide (side = .seeder))),
      lookup_foldl_insert_filterMap, hvac.2 h t0 ht0 side, lookup_empty, or_none]
    cases hk : (t.list side).lookup k with
    | none => split <;> rfl
    | some p =>
      have hmem : k ∈ env.order h side := henv h t ht side k p hk
      rw [if_pos hmem, map_some, map_some, snapToPeer_peerToSnap (hw h t ht side k p hk)]

theorem PeerList.cleared_iff {l l' : PeerList}
    (h : ∀ k, l'.lookup k = (l.lookup k).map fun p => { p with invalidIP := false }) :
    l' = l ↔ ∀ k p, l.lookup k = some p → p.invalidIP = false := by
  constructor
  · rintro rfl k p hp
    have hclear := h k
    rw [hp] at hclear
    rw [some.inj hclear]
  · intro hval
    apply ext_lookup
    intro k
    rw [h k]
    cases hk : l.lookup k with
    | none => rfl
    | some p =>
      rw [map_some, ← hval k p hk]

/-- **The round trip of the swarms** that announces reach from empty ones, in any order of their
steps: a snapshot that was saved without an error, loaded into the same torrents with empty lists,
gives back the seeders and the leechers exactly if no peer has `InvalidIP` set. -/
theorem snapshot_roundTrip_iff {w : Worker} (hw : w.Vacant) {ls : List Label} {s : System}
    (hrun : Run.exec System.step { worker := w } ls = some s) {env : SaveEnv}
    (henv : env.Visits s.worker) {file saved : SnapshotFile}
    (hsave : s.worker.saveSnapshot env file = (none, saved)) {w' : Worker}
    (hvacant : w'.Vacates s.worker) : (w'.loadSnapshot saved).SameSwarms s.worker ↔
      s.worker.Every fun p => p.invalidIP = false := by
  have hpl : s.worker.Every Peer.Placed := by
    apply peerInvariant_placed.run _ hrun
    intro h t ht side k p hp
    rw [hw h t ht side] at hp
    cases hp
  have hsaved : saved = .decoded (s.worker.peerSnapshot env) := by
    unfold Worker.saveSnapshot at hsave
    split at hsave
    · cases hsave
    · split at hsave
      · cases hsave
      · exact (congrArg Prod.snd hsave).symm
  subst hsaved
  constructor
  · intro hsame h t ht side
    obtain ⟨t', ht', hlists⟩ := lookup_loadSnapshot hpl henv hvacant ht
    have heq : t'.list side = t.list side := by
      have hlist := hsame h side
      rw [ht', ht] at hlist
      exact some.inj hlist
    exact (cleared_iff (hlists side)).1 heq
  · intro hval h side
    cases ht : s.worker.torrents.lookup h with
    | none =>
      have hnot : h ∉ w'.torrents := fun hmem =>
        lookup_eq_none.1 ht ((hvacant.mem_iff h).1 hmem)
      show ((w'.torrents.mapVal _).lookup h).map _ = _
      rw [lookup_mapVal, lookup_eq_none.2 hnot]
      rfl
    | some t =>
      obtain ⟨t', ht', hlists⟩ := lookup_loadSnapshot hpl henv hvacant ht
      rw [ht', map_some, map_some, (cleared_iff (hlists side)).2 (hval h t ht side)]

namespace Sample

def seeded (clientIP : IP) : List Label :=
  [.spawn env { call .started 0 0 with clientIP }, .step 0]

def saveEnv : SaveEnv where
  order _ _ := [peerKeyPrime peerID user.id torrent.id]

end Sample

theorem snapshot_roundTrip_sample :
    ∃ s, Run.exec System.step { worker := Sample.worker } (Sample.seeded [1, 2, 3, 4]) = some s ∧
      s.worker.count .seeder = 1 ∧
        (Sample.worker.loadSnapshot (.decoded (s.worker.peerSnapshot Sample.saveEnv))).SameSwarms
        s.worker := by
  refine Run.ends_of (P := fun s => s.worker.count .seeder = 1 ∧ saveEnv.Visits s.worker ∧
    worker.Vacates s.worker ∧ s.worker.Every fun p => p.invalidIP = false) (by decide +kernel) ?_
  rintro s hs ⟨hcnt, henv, hvac, hval⟩
  have hsave : s.worker.saveSnapshot saveEnv .missing = (none, .decoded (s.worker.peerSnapshot saveEnv)) := rfl
  exact ⟨hcnt, (snapshot_roundTrip_iff worker_empty.lists hs henv hsave hvac).2 hval⟩

/-- **`InvalidIP` is lost**: a seeder with a private address comes back without the mark. -/
theorem snapshot_loses_invalidIP :
    ∃ s, Run.exec System.step { worker := Sample.worker } (Sample.seeded [10, 0, 0, 1]) = some s ∧
      Sample.saveEnv.Visits s.worker ∧ Sample.worker.Vacates s.worker ∧
      ¬ (Sample.worker.loadSnapshot (.decoded (s.worker.peerSnapshot Sample.saveEnv))).SameSwarms s.worker := by
  refine Run.ends_of (P := fun s => saveEnv.Visits s.worker ∧ worker.Vacates s.worker ∧
    ((worker.loadSnapshot (.decoded (s.worker.peerSnapshot saveEnv))).torrents.lookup infoHash).map
      (list · .seeder) ≠
      (s.worker.torrents.lookup infoHash).map (list · .seeder)) (by decide +kernel) ?_
  rintro s - ⟨henv, hvac, hdiffer⟩
  exact ⟨henv, hvac, fun hsame => hdiffer (hsame infoHash .seeder)⟩

end Ocelot.Tracker
