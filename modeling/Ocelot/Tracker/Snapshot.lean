/-
# The swarms over a restart (`tracker/snapshot.go`).
-/
import Ocelot.Tracker.AnnounceCounters

namespace Ocelot.Tracker

structure SnapshotPeer where
  userID : UInt32
  ip : IP
  port : UInt16
  uploaded : Int64
  downloaded : Int64
  left : Int64
  corrupt : Int64
  firstAnnounced : Time
  lastAnnounced : Time
  announces : UInt32
  visible : Bool
  seeder : Bool
  connectionTimes : List Time
  deriving DecidableEq

structure SnapshotEntry where
  key : Bytes
  peer : SnapshotPeer
  deriving DecidableEq

abbrev PeerSnapshot := Finmap fun _ : Bytes => List SnapshotEntry

inductive SnapshotFile where
  | missing
  | unreadable
  | decoded (snap : PeerSnapshot)

def peerToSnap (p : Peer) (seeder : Bool) : SnapshotPeer :=
  { userID := p.userID
    ip := p.ip
    port := p.port
    uploaded := p.uploaded
    downloaded := p.downloaded
    left := p.left
    corrupt := p.corrupt
    firstAnnounced := p.firstAnnounced
    lastAnnounced := p.lastAnnounced
    announces := p.announces
    visible := p.visible
    seeder := seeder
    connectionTimes := p.connectionTimes }

structure SaveEnv where
  /-- The keys in the order in which `range` visits the two peer lists of a torrent. -/
  order : Bytes → Side → List Bytes
  /-- The error of `os.Create`. -/
  create : Option Bytes := none
  /-- The error of `Encode`. -/
  encode : Option Bytes := none

def PeerList.forEach (l : PeerList) (order : List Bytes) : List (Bytes × Peer) :=
  order.filterMap fun k => (l.lookup k).map fun p => (k, p)

def Torrent.snapshotEntries (t : Torrent) (order : Side → List Bytes) : List SnapshotEntry :=
  ((PeerList.forEach t.seeders (order .seeder)).map fun e => ⟨e.1, peerToSnap e.2 true⟩) ++
    (PeerList.forEach t.leechers (order .leecher)).map fun e => ⟨e.1, peerToSnap e.2 false⟩

variable (w : Worker)

def Worker.peerSnapshot (env : SaveEnv) : PeerSnapshot :=
  (w.torrents.mapVal fun infoHash t => t.snapshotEntries (env.order infoHash)).filter
    fun _ entries => decide (0 < entries.length)

def Worker.saveSnapshot (env : SaveEnv) (file : SnapshotFile) : Option Bytes × SnapshotFile :=
  match env.create with
  | some err => (some err, file)
  | none =>
    match env.encode with
    -- `os.Create` has truncated the file
    | some err => (some err, .unreadable)
    | none => (none, .decoded (w.peerSnapshot env))

def snapToPeer (sp : SnapshotPeer) : Peer :=
  { userID := sp.userID
    ip := sp.ip
    port := sp.port
    uploaded := sp.uploaded
    downloaded := sp.downloaded
    left := sp.left
    corrupt := sp.corrupt
    firstAnnounced := sp.firstAnnounced
    lastAnnounced := sp.lastAnnounced
    announces := sp.announces
    visible := sp.visible
    connectionTimes := sp.connectionTimes
    ipPort := if sp.ip = [] then [] else compactIPPort sp.ip sp.port }

def SnapshotEntry.side (entry : SnapshotEntry) : Side :=
  if entry.peer.seeder then .seeder else .leecher

def Torrent.restore (t : Torrent) (entry : SnapshotEntry) : Torrent :=
  t.setList entry.side ((t.list entry.side).insert entry.key (snapToPeer entry.peer))

def PeerSnapshot.peers (snap : PeerSnapshot) (infoHash : Bytes) : List SnapshotEntry :=
  (snap.lookup infoHash).getD []

def Worker.loadSnapshot : SnapshotFile → Worker
  | .missing => w
  | .unreadable => w
  | .decoded snap =>
    { w with
      torrents := w.torrents.mapVal fun infoHash t => (snap.peers infoHash).foldl Torrent.restore t }

def sideEntries (side : Side) (entries : List SnapshotEntry) : List (Bytes × Peer) :=
  (entries.filter fun entry => entry.side = side).map fun entry =>
    (entry.key, snapToPeer entry.peer)

theorem restore_list (entries : List SnapshotEntry) (t : Torrent) (side : Side) :
    (entries.foldl Torrent.restore t).list side =
      (sideEntries side entries).foldl (fun m e => m.insert e.1 e.2) (t.list side) := by
  induction entries generalizing t with
  | nil => rfl
  | cons entry _ ih =>
    rw [List.foldl_cons, ih]
    unfold Torrent.restore sideEntries
    by_cases hside : entry.side = side
    · simp [hside]
    · simp [hside, Torrent.list_setList_of_ne t _ (Ne.symm hside)]

def Worker.restoredCount (side : Side) : SnapshotFile → ℕ
  | .missing => 0
  | .unreadable => 0
  | .decoded snap =>
    w.torrents.total fun infoHash t =>
      (Finmap.newKeys (sideEntries side (snap.peers infoHash)) (t.list side)).card

theorem Worker.count_loadSnapshot (file : SnapshotFile) (side : Side) :
    (w.loadSnapshot file).count side = w.count side + w.restoredCount side file := by
  cases file with
  | missing | unreadable => rfl
  | decoded =>
    unfold Worker.count Worker.restoredCount Worker.loadSnapshot
    rw [Finmap.total_mapVal, ← Finmap.total_add]
    congr 1
    funext infoHash t
    rw [restore_list, Finmap.size_foldl_insert]

theorem Worker.stats_loadSnapshot (file : SnapshotFile) : (w.loadSnapshot file).stats = w.stats := by
  cases file <;> rfl

end Ocelot.Tracker
