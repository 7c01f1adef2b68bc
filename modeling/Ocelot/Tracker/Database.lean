/-
# The SQLite tables of one shard (`tracker/db_sqlite.go`).
-/
import Ocelot.Lib.UniqueTable
import Ocelot.Tracker.Update

namespace Ocelot.Tracker

open Option Finmap

structure PeerRow where
  active : Bool
  uploaded : Int64
  downloaded : Int64
  upspeed : Int64
  downspeed : Int64
  remaining : Int64
  corrupt : Int64
  timespent : UInt32
  announces : UInt32
  ip : Bytes
  peerID : Bytes
  userAgent : Bytes
  invalidIP : Bool
  deriving DecidableEq

structure TorrentRow where
  seeders : UInt32 := 0
  leechers : UInt32 := 0
  snatched : ℕ := 0
  balance : Int64 := 0
  freeType : FreeType := 0
  deriving DecidableEq

structure UserFlags where
  canLeech : Bool
  protectIP : Bool
  deriving DecidableEq

abbrev PeersTable := Finmap fun _ : UserID × TorrentID => PeerRow

structure Tables where
  peers : PeersTable := ∅
  torrents : Finmap fun _ : TorrentID => TorrentRow := ∅
  tokens : Finmap fun _ : UserID × TorrentID => ℤ := ∅
  torrentHashes : UniqueTable TorrentID Bytes Unit := .empty
  userPasskeys : UniqueTable UserID Bytes UserFlags := .empty
  /-- `whitelist`, by `id`. -/
  whitelist : List Bytes := []
  whitelist_nodup : whitelist.Nodup := by simp
  deriving DecidableEq

def PeersTable.recordPeer (peers : PeersTable) (user : UserID) (torrent : TorrentID)
    (row : PeerRow) : PeersTable :=
  peers.insert (user, torrent) row

def PeersTable.recordPeerLight (peers : PeersTable) (user : UserID) (torrent : TorrentID)
    (announceTime announces : UInt32) : PeersTable :=
  match peers.lookup (user, torrent) with
  | none => peers
  | some row => peers.insert (user, torrent) { row with timespent := announceTime, announces }

variable (db : Tables)

def Tables.recordTorrent (id : TorrentID) (seeders leechers : UInt32) (snatched : ℕ)
    (balance : Int64) : Tables :=
  let row := (db.torrents.lookup id).getD {}
  { db with
    torrents :=
      db.torrents.insert id { row with seeders, leechers, snatched := row.snatched + snatched, balance } }

def Tables.recordToken (user : UserID) (torrent : TorrentID) (downloaded : Int64) : Tables := { db with
    tokens :=
      db.tokens.insert (user, torrent)
        ((db.tokens.lookup (user, torrent)).getD 0 + downloaded.toInt) }

def Tables.execute : DBCall → Tables
  | .recordToken user torrent downloaded => db.recordToken user torrent downloaded
  | .recordPeer user torrent active uploaded downloaded upSpeed downSpeed left corrupt announceTime
      announces ip peerID userAgent invalidIP =>
    { db with
      peers :=
        db.peers.recordPeer user torrent
          { active, uploaded, downloaded, upspeed := upSpeed, downspeed := downSpeed, remaining := left
            corrupt, timespent := announceTime, announces, ip, peerID, userAgent, invalidIP } }
  | .recordPeerLight user torrent announceTime announces _ =>
    { db with peers := db.peers.recordPeerLight user torrent announceTime announces }
  | .recordTorrent id seeders leechers snatched balance =>
    db.recordTorrent id seeders leechers snatched.toNat balance
  -- into `users` and `snatches`
  | .recordUserStats _ _ _ => db
  | .recordSnatch _ _ _ _ => db

def Tables.executeAll (calls : List DBCall) : Tables := calls.foldl Tables.execute db

def Tables.recordTorrentHash (id : TorrentID) (infoHash : Bytes) : Tables :=
  { db with torrentHashes := db.torrentHashes.replace id infoHash () }

def Tables.deleteTorrentHash (infoHash : Bytes) : Tables :=
  { db with torrentHashes := db.torrentHashes.delete infoHash }

def Tables.recordUserPasskey (id : UserID) (passkey : Bytes) (canLeech protectIP : Bool) : Tables :=
  { db with userPasskeys := db.userPasskeys.replace id passkey { canLeech, protectIP } }

def Tables.deleteUserPasskey (passkey : Bytes) : Tables :=
  { db with userPasskeys := db.userPasskeys.delete passkey }

def Tables.addWhitelistEntry (entry : Bytes) : Tables :=
  if h : db.whitelist.contains entry then db
  else
    { db with
      whitelist := db.whitelist ++ [entry]
      whitelist_nodup := by
        rw [← List.concat_eq_append]
        exact db.whitelist_nodup.concat (by simpa using h) }

def Tables.removeWhitelistEntry (entry : Bytes) : Tables := { db with
    whitelist := db.whitelist.filter fun e => e ≠ entry
    whitelist_nodup := db.whitelist_nodup.filter _ }

def Tables.executeAdmin : UpdateCall → Tables
  | .recordTorrent id => db.recordTorrent id 0 0 0 0
  | .recordTorrentHash id infoHash => db.recordTorrentHash id infoHash
  | .deleteTorrentHash infoHash => db.deleteTorrentHash infoHash
  | .recordUserPasskey id passkey canLeech protectIP =>
    db.recordUserPasskey id passkey canLeech protectIP
  | .deleteUserPasskey passkey => db.deleteUserPasskey passkey
  | .addWhitelistEntry entry => db.addWhitelistEntry entry
  | .removeWhitelistEntry entry => db.removeWhitelistEntry entry

def Tables.executeAdminAll (calls : List UpdateCall) : Tables := calls.foldl Tables.executeAdmin db

def Tables.joined : Finmap fun _ : Bytes => TorrentID × TorrentRow :=
  (db.torrentHashes.index.filter fun _ r => r.1 ∈ db.torrents).mapVal fun _ r =>
    (r.1, (db.torrents.lookup r.1).getD {})

def Tables.Scannable : Prop := (db.joined.filter fun _ r => 2 ^ 32 ≤ r.2.snatched) = ∅

instance (db : Tables) : Decidable db.Scannable := by
  unfold Tables.Scannable
  infer_instance

def Tables.tokensOf (infoHash : Bytes) : Finset UserID :=
  match db.torrentHashes.index.lookup infoHash with
  | none => ∅
  | some (id, _) => (db.tokens.keys.filter fun key => key.2 = id).image Prod.fst

theorem Tables.lookup_joined {db : Tables} {infoHash : Bytes} {id : TorrentID} {row : TorrentRow} :
    db.joined.lookup infoHash = some (id, row) ↔
      db.torrentHashes.index.lookup infoHash = some (id, ()) ∧ db.torrents.lookup id = some row := by
  unfold joined
  rw [lookup_mapVal, lookup_filter]
  cases hhash : db.torrentHashes.index.lookup infoHash with
  | none => simp
  | some r =>
    obtain ⟨id', -⟩ := r
    by_cases hrow : id' ∈ db.torrents
    · obtain ⟨_, hrow'⟩ := mem_iff.1 hrow
      simp only [Option.filter, hrow, decide_true, if_true, Option.map_some, hrow',
        Option.getD_some, some.injEq, Prod.mk.injEq, and_true]
      constructor
      · rintro ⟨rfl, rfl⟩
        exact ⟨rfl, hrow'⟩
      · rintro ⟨rfl, hrow''⟩
        rw [hrow'] at hrow''
        exact ⟨rfl, Option.some.inj hrow''⟩
    · have hnone : db.torrents.lookup id' = none := lookup_eq_none.2 hrow
      simp only [Option.filter, hrow, decide_false, Bool.false_eq_true, if_false, Option.map_none,
        reduceCtorEq, some.injEq, Prod.mk.injEq, and_true, false_iff]
      rintro ⟨rfl, hrow'⟩
      rw [hnone] at hrow'
      cases hrow'

theorem Tables.mem_joined {db : Tables} {infoHash : Bytes} :
    infoHash ∈ db.joined ↔ ∃ id, db.torrentHashes.index.lookup infoHash = some (id, ()) ∧ id ∈ db.torrents := by
  rw [mem_iff]
  constructor
  · rintro ⟨⟨id, row⟩, h⟩
    obtain ⟨hhash, hrow⟩ := Tables.lookup_joined.1 h
    exact ⟨id, hhash, mem_of_lookup_eq_some hrow⟩
  · rintro ⟨id, hhash, hmem⟩
    obtain ⟨row, hrow⟩ := mem_iff.1 hmem
    exact ⟨(id, row), Tables.lookup_joined.2 ⟨hhash, hrow⟩⟩

end Ocelot.Tracker
