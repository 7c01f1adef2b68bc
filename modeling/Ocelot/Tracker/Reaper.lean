/-
# The eviction of stale peers (`tracker/reaper.go`).
-/
import Ocelot.Tracker.AnnounceCounters

namespace Ocelot.Tracker

def isStale (cutoff : Time) (p : Peer) : Bool := decide (p.lastAnnounced ≠ 0) && decide (p.lastAnnounced < cutoff)

def reapPeerList (pl : PeerList) (cutoff : Time) : PeerList × ℕ :=
  (pl.filter fun _ p => !isStale cutoff p, (pl.filter fun _ p => isStale cutoff p).size)

def reapTorrent (cutoff : Time) (t : Torrent) : Torrent := { t with
    seeders := (reapPeerList t.seeders cutoff).1
    leechers := (reapPeerList t.leechers cutoff).1 }

def Worker.staleCount (w : Worker) (cutoff : Time) (side : Side) : ℕ :=
  w.torrents.total fun _ t => (reapPeerList (t.list side) cutoff).2

def Worker.reap (w : Worker) (cutoff : Time) : Worker := { w with
    torrents := w.torrents.mapVal fun _ t => reapTorrent cutoff t
    stats :=
      { w.stats with
        evictedPeers := w.stats.evictedPeers + UInt64.ofNat
          (w.staleCount cutoff .seeder + w.staleCount cutoff .leecher) } }

variable (pl : PeerList) (w : Worker) (cutoff : Time) (t : Torrent) (side : Side)

theorem reapTorrent_list : (reapTorrent cutoff t).list side = (reapPeerList (t.list side) cutoff).1 := by
  cases side <;> rfl

theorem size_reapPeerList : pl.size = (reapPeerList pl cutoff).1.size + (reapPeerList pl cutoff).2 := by
  rw [← Finmap.size_filter_add_size_filter_not (fun _ p => isStale cutoff p) pl, Nat.add_comm]
  rfl

theorem Worker.count_reap : w.count side = (w.reap cutoff).count side + w.staleCount cutoff side := by
  unfold Worker.count Worker.staleCount Worker.reap
  rw [Finmap.total_mapVal, ← Finmap.total_add]
  congr 1
  funext _ t
  rw [reapTorrent_list, size_reapPeerList _ cutoff]

theorem Worker.stats_reap : (w.reap cutoff).stats.count side = w.stats.count side := by
  cases side <;> rfl

end Ocelot.Tracker
