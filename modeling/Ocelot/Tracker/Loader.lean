/-
# The lists from the tables (`tracker/loader.go`).
-/
import Ocelot.Tracker.Database

namespace Ocelot.Tracker

open Finmap

inductive LoadQuery where
  | torrents
  | users
  | whitelist
  | tokens
  deriving DecidableEq

structure LoadEnv where
  dbError : LoadQuery → Option Bytes := fun _ => none
  /-- The error of `Scan` for a value that does not fit. -/
  scanError : Bytes := []

structure Loaded where
  worker : Worker
  result : Except Bytes Unit

def Torrent.refresh (t : Torrent) (row : TorrentRow) : Torrent :=
  { t with completed := UInt32.ofNat row.snatched, balance := row.balance, freeType := row.freeType }

def torrentOfRow (id : TorrentID) (row : TorrentRow) : Torrent := (newTorrent id).refresh row

def Tables.loadTorrents (db : Tables) : TorrentList := db.joined.mapVal fun _ r => torrentOfRow r.1 r.2

def Tables.loadUsers (db : Tables) : UserList :=
  db.userPasskeys.index.mapVal fun _ r => newUser r.1 r.2.canLeech r.2.protectIP

def LoadEnv.torrentsError (env : LoadEnv) (db : Tables) : Option Bytes :=
  match env.dbError .torrents with
  | some err => some err
  | none => if db.Scannable then none else some env.scanError

variable (w : Worker) (db : Tables)

def Worker.loadTorrents : Worker := { w with torrents := db.loadTorrents ∪ w.torrents }

def Worker.loadUsers : Worker := { w with users := db.loadUsers ∪ w.users }

def Worker.loadWhitelist : Worker := { w with whitelist := db.whitelist }

def Worker.loadTokens : Worker := { w with torrents := w.torrents.mapVal fun infoHash t =>
      { t with tokenedUsers := t.tokenedUsers ∪ db.tokensOf infoHash } }

def Worker.reloadTorrents : Worker := { w with torrents :=
      (w.torrents.mapVal fun infoHash t =>
          match db.joined.lookup infoHash with
          | none => t
          | some r => t.refresh r.2) ∪ db.loadTorrents }

def Worker.reloadUsers : Worker := { w with users :=
      (w.users.mapVal fun passkey user =>
          match db.userPasskeys.index.lookup passkey with
          | none => user
          | some r => { user with canLeech := r.2.canLeech, protectIP := r.2.protectIP }) ∪ db.loadUsers }

def Worker.loadParts (env : LoadEnv) (verb : String) (torrents users : Worker → Tables → Worker)
    (w : Worker) (db : Tables) : Loaded :=
  match env.torrentsError db with
  | some err => { worker := w, result := .error (lit (verb ++ " torrents: ") ++ err) }
  | none =>
    let w := torrents w db
    match env.dbError .users with
    | some err => { worker := w, result := .error (lit (verb ++ " users: ") ++ err) }
    | none =>
      let w := users w db
      match env.dbError .whitelist with
      | some err => { worker := w, result := .error (lit (verb ++ " whitelist: ") ++ err) }
      | none =>
        let w := w.loadWhitelist db
        match env.dbError .tokens with
        | some err => { worker := w, result := .error (lit (verb ++ " tokens: ") ++ err) }
        | none => { worker := w.loadTokens db, result := .ok () }

def Worker.loadAll (env : LoadEnv) (w : Worker) (db : Tables) : Loaded :=
  w.loadParts env "load" Worker.loadTorrents Worker.loadUsers db

def Worker.reload (env : LoadEnv) (w : Worker) (db : Tables) : Loaded :=
  w.loadParts env "reload" Worker.reloadTorrents Worker.reloadUsers db

variable {w : Worker} {db : Tables} {infoHash : Bytes}

theorem Worker.loadParts_ok {env : LoadEnv} {verb : String} {torrents users : Worker → Tables →
    Worker} (h : (w.loadParts env verb torrents users db).result = .ok ()) :
    (w.loadParts env verb torrents users db).worker =
      ((users (torrents w db) db).loadWhitelist db).loadTokens db := by
  unfold loadParts at h ⊢
  cases htors : env.torrentsError db with
  | some => simp [htors] at h
  | none =>
    cases husers : env.dbError .users with
    | some => simp [htors, husers] at h
    | none =>
      cases hwl : env.dbError .whitelist with
      | some => simp [htors, husers, hwl] at h
      | none =>
        cases htoks : env.dbError .tokens with
        | some => simp [htors, husers, hwl, htoks] at h
        | none => simp

theorem Worker.lookup_loadTokens (w : Worker) (db : Tables) (infoHash : Bytes) :
    (w.loadTokens db).torrents.lookup infoHash = (w.torrents.lookup infoHash).map fun t =>
        { t with tokenedUsers := t.tokenedUsers ∪ db.tokensOf infoHash } := lookup_mapVal _ _ _

theorem Worker.lookup_loadAll {admission : Option SwarmAdmissionPolicy} {load : LoadEnv}
    (h : (({ admission } : Worker).loadAll load db).result = .ok ()) (infoHash : Bytes) :
    (({ admission } : Worker).loadAll load db).worker.torrents.lookup infoHash =
      (db.joined.lookup infoHash).map fun r =>
        { torrentOfRow r.1 r.2 with tokenedUsers := db.tokensOf infoHash } := by
  unfold loadAll at h ⊢
  rw [loadParts_ok h, lookup_loadTokens]
  show ((db.loadTorrents ∪ ∅).lookup infoHash).map _ = _
  rw [union_empty, Tables.loadTorrents, lookup_mapVal, Option.map_map]
  congr 1
  funext r
  show Torrent.mk _ _ _ _ _ _ _ (∅ ∪ db.tokensOf infoHash) = _
  rw [Finset.empty_union]

theorem Worker.reload_cases (load : LoadEnv) (w : Worker) (db : Tables) :
    (w.reload load db).worker.torrents = w.torrents ∨
      (w.reload load db).worker.torrents = (w.reloadTorrents db).torrents ∨
      (w.reload load db).worker.torrents = ((w.reloadTorrents db).loadTokens db).torrents := by
  unfold reload loadParts
  cases load.torrentsError db with
  | some => exact .inl rfl
  | none =>
    cases load.dbError .users with
    | some => exact .inr (.inl rfl)
    | none =>
      cases load.dbError .whitelist with
      | some => exact .inr (.inl rfl)
      | none =>
        cases load.dbError .tokens with
        | some => exact .inr (.inl rfl)
        | none => exact .inr (.inr rfl)

theorem Worker.lookup_reloadTorrents {t : Torrent} (h : w.torrents.lookup infoHash = some t) :
    (w.reloadTorrents db).torrents.lookup infoHash = some
      ((db.joined.lookup infoHash).elim t fun r => t.refresh r.2) := by
  unfold reloadTorrents
  rw [lookup_union_left (mem_mapVal.2 (mem_of_lookup_eq_some h)), lookup_mapVal, h, Option.map_some]
  cases db.joined.lookup infoHash <;> rfl

theorem Worker.lookup_reloadTorrents_of_none (h : w.torrents.lookup infoHash = none) :
    (w.reloadTorrents db).torrents.lookup infoHash = (db.joined.lookup infoHash).map fun r =>
      torrentOfRow r.1 r.2 := by
  unfold reloadTorrents
  rw [lookup_union_right (fun hmem => lookup_eq_none.1 h (mem_mapVal.1 hmem)), Tables.loadTorrents, lookup_mapVal]

end Ocelot.Tracker
