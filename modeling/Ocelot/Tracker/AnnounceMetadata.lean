/-
# What an announce does to a torrent's row.
-/
import Ocelot.Tracker.AnnounceEntries
import Ocelot.Tracker.Database

namespace Ocelot.Tracker

open List Locals Tables

/-! ## The torrent -/

structure Metadata where
  id : TorrentID
  completed : UInt32
  balance : Int64
  freeType : FreeType
  tokenedUsers : Finset UserID

def Torrent.metadata (t : Torrent) : Metadata where
  id := t.id
  completed := t.completed
  balance := t.balance
  freeType := t.freeType
  tokenedUsers := t.tokenedUsers

@[simp] theorem Torrent.metadata_setList (t : Torrent) (side : Side) (l : PeerList) :
    (t.setList side l).metadata = t.metadata := by
  cases side <;> rfl

variable {req : AnnounceRequest} {k : Bytes} {user : User} {t : Torrent} {v : Locals} {f : Found}

theorem Finds.metadata (h : Finds req k user t v f) : f.torrent.metadata = t.metadata := by
  cases h <;> rfl

theorem Finds.snatched (h : Finds req k user t v f) : f.locals.snatched = v.snatched := by
  cases h <;> rfl

theorem moveSection_metadata (k : Bytes) (t : Torrent) (v : Locals) :
    (moveSection k t v).1.metadata = t.metadata := by
  unfold moveSection
  split <;> rfl

theorem deleteSection_metadata (left : Int64) (k : Bytes) (t : Torrent) :
    (deleteSection left k t).metadata = t.metadata := by
  unfold deleteSection
  split <;> rfl

theorem expireSection_metadata (user : User) (t : Torrent) :
    (expireSection user t).metadata =
      { t.metadata with tokenedUsers := t.metadata.tokenedUsers.erase user.id } := rfl

theorem flushSection_metadata (now : Time) (v : Locals) (t : Torrent) :
    (flushSection now v t).1.metadata = t.metadata := by
  unfold flushSection
  split <;> rfl

theorem accountTraffic_balance {env : Env} {c : Call} {peer : Peer}
    (h : (accountTraffic env c user t peer v).locals.updateTorrent = false) :
    (accountTraffic env c user t peer v).balance = t.balance := by
  unfold accountTraffic at h ⊢
  split at h
  · cases h
  · rename_i hsession
    rw [if_neg hsession]
    split at h
    · rename_i hlower
      rw [if_pos hlower]
    · rename_i hlower
      rw [if_neg hlower]
      unfold creditTraffic at h ⊢
      dsimp only at h ⊢
      split at h
      · cases h
      · rename_i hmv
        rw [if_neg hmv]
        have hcorrupt : ¬ 0 < c.req.corrupt - peer.corrupt := by
          intro hpos
          simp [hpos] at h
        exact if_neg hcorrupt

section

variable (env : Env) (c : Call) (user : User) (k : Bytes) (t : Torrent)

theorem lookupSection_metadata : (lookupSection env c user k t).torrent.metadata =
        { t.metadata with balance := (lookupSection env c user k t).torrent.balance } ∧
      ((lookupSection env c user k t).locals.updateTorrent = false →
        (lookupSection env c user k t).torrent.balance = t.balance) ∧
      (lookupSection env c user k t).locals.snatched = false := by
  have hf := findPeer_finds c.req k user t (ofRequest c.req)
  set f := findPeer c.req k user t (ofRequest c.req) with hfdef
  have hbal : (lookupSection env c user k t).torrent.balance =
      (accountTraffic env c user f.torrent f.peer f.locals).balance :=
    congrArg Metadata.balance (Torrent.metadata_setList _ f.side _)
  refine ⟨?_, ?_, ?_⟩
  · rw [hbal, ← hf.metadata]
    exact Torrent.metadata_setList _ f.side _
  · intro hflag
    rw [hbal, accountTraffic_balance hflag]
    exact congrArg Metadata.balance hf.metadata
  · obtain ⟨a, b, d, e, hlocals⟩ := lookupSection_locals env c user k t
    rw [hlocals]
    refine hf.snatched.trans ?_
    unfold ofRequest
    split <;> rfl

end

def Metadata.complete (m : Metadata) (user : UserID) (expire : Bool) : Metadata := { m with
    completed := m.completed + 1
    tokenedUsers := if expire then m.tokenedUsers.erase user else m.tokenedUsers }

theorem enrol_metadata (k : Bytes) (t : Torrent) (v : Locals) :
    let moved := if v.inserted then (t, v) else moveSection k t v
    moved.1.metadata = t.metadata ∧ moved.2.updateTorrent = v.updateTorrent ∧
      moved.2.snatched = v.snatched ∧ moved.2.expireToken = v.expireToken := by
  intro moved
  by_cases hins : v.inserted = true
  · rw [show moved = (t, v) from if_pos hins]
    exact ⟨rfl, rfl, rfl, rfl⟩
  · rw [show moved = moveSection k t v from if_neg hins]
    refine ⟨moveSection_metadata k t v, ?_⟩
    unfold moveSection
    split <;> exact ⟨rfl, rfl, rfl⟩

theorem completionSections_metadata (k : Bytes) (user : User) (t : Torrent) (v : Locals) :
    (completionSections k user t v).1.metadata = (if v.stoppedTorrent = false ∧ v.completedTorrent = true then
          t.metadata.complete user.id v.expireToken
        else t.metadata) ∧ (completionSections k user t v).2.updateTorrent = v.updateTorrent ∧
      (completionSections k user t v).2.snatched = v.snatched ∧
      (completionSections k user t v).2.expireToken = v.expireToken := by
  unfold completionSections
  by_cases hstop : v.stoppedTorrent = true
  · simp [hstop]
  · by_cases hdone : v.completedTorrent = true
    · have hcnt : v.stoppedTorrent = false ∧ v.completedTorrent = true := ⟨by simpa using hstop, hdone⟩
      rw [if_neg hstop, if_pos hdone, if_pos hcnt]
      obtain ⟨hmet, hflags⟩ := enrol_metadata k (completeSection t) v
      refine ⟨?_, hflags⟩
      unfold Metadata.complete
      dsimp only
      by_cases hexp : v.expireToken = true
      · rw [if_pos hexp, if_pos hexp, expireSection_metadata, hmet]
        rfl
      · rw [if_neg hexp, if_neg hexp, hmet]
        rfl
    · rw [if_neg hstop, if_neg hdone, if_neg fun h => hdone h.2]
      exact ⟨rfl, rfl, rfl, rfl⟩

theorem Locals.settle_row {v : Locals} (left : Int64) (hsnatched : v.snatched = false) :
    ((v.settle left).snatched = true ↔ v.stoppedTorrent = false ∧ v.completedTorrent = true) ∧
      ((v.settle left).updateTorrent = false → v.updateTorrent = false ∧
      (v.settle left).snatched = false) ∧ (v.settle left).stoppedTorrent = v.stoppedTorrent ∧
          (v.settle left).completedTorrent = v.completedTorrent := by
  unfold settle
  by_cases hstop : v.stoppedTorrent = true
  · by_cases hleft : 0 < left <;> simp [hstop, hleft, hsnatched]
  · by_cases hdone : v.completedTorrent = true <;> simp [hstop, hdone, hsnatched]

variable (env : Env) (c : Call) (user : User) (t : Torrent)

theorem finalTorrent_metadata : let v := finalLocals env c user t
    let t' := finalTorrent env c user t
    t'.metadata = { (if v.snatched then t.metadata.complete user.id v.expireToken else t.metadata) with
          balance := t'.balance } ∧ (v.updateTorrent = false → t'.balance = t.balance ∧ v.snatched = false) := by
  intro v t'
  set k := c.peerKey user t
  obtain ⟨hlooked, hbal, hnot⟩ := lookupSection_metadata env c user k t
  set s := lookupSection env c user k t with hs
  obtain ⟨hsnatched, hupd, hstop, hdone⟩ := settle_row c.req.left hnot
  obtain ⟨hdoneMeta, hflagUpdate, hflagSnatched, hflagExpire⟩ :=
    completionSections_metadata k user s.torrent (s.locals.settle c.req.left)
  have hfin : t'.metadata = (completionSections k user s.torrent (s.locals.settle c.req.left)).1.metadata := by
    refine (flushSection_metadata _ _ _).trans ?_
    split
    · exact deleteSection_metadata _ _ _
    · rfl
  have hv : v = (completionSections k user s.torrent (s.locals.settle c.req.left)).2 := rfl
  rw [hstop, hdone] at hdoneMeta
  rw [← hv] at hflagUpdate hflagSnatched hflagExpire
  have htor : t'.balance = s.torrent.balance := by
    have hcol := congrArg Metadata.balance (hfin.trans hdoneMeta)
    refine hcol.trans ?_
    split <;> rfl
  refine ⟨?_, fun hflag => ?_⟩
  · rw [hfin, hdoneMeta, htor, ← hflagExpire, hlooked]
    by_cases hcnt : s.locals.stoppedTorrent = false ∧ s.locals.completedTorrent = true
    · rw [if_pos hcnt, if_pos (hflagSnatched.trans (hsnatched.2 hcnt))]
      rfl
    · have hno : ¬ v.snatched = true := by
        rw [hflagSnatched]
        exact fun h => hcnt (hsnatched.1 h)
      rw [if_neg hcnt, if_neg hno]
  · obtain ⟨hbef, hzero⟩ := hupd (hflagUpdate.symm.trans hflag)
    exact ⟨htor.trans (hbal hbef), hflagSnatched.trans hzero⟩

theorem finalTorrent_columns : (finalTorrent env c user t).completed =
        t.completed + UInt32.ofNat (finalLocals env c user t).snatched.toNat ∧
      (finalTorrent env c user t).freeType = t.freeType := by
  obtain ⟨hmet, -⟩ := finalTorrent_metadata env c user t
  have hcomp := congrArg Metadata.completed hmet
  have hfreeType := congrArg Metadata.freeType hmet
  refine ⟨hcomp.trans ?_, hfreeType.trans ?_⟩
  · cases (finalLocals env c user t).snatched with
    | true => rfl
    | false => exact (UInt32.add_zero _).symm
  · cases (finalLocals env c user t).snatched <;> rfl

theorem finalTorrent_tokenedUsers : (finalTorrent env c user t).tokenedUsers =
      if (finalLocals env c user t).snatched = true ∧ (finalLocals env c user t).expireToken = true then
        t.tokenedUsers.erase user.id
      else t.tokenedUsers := by
  refine (congrArg Metadata.tokenedUsers (finalTorrent_metadata env c user t).1).trans ?_
  cases (finalLocals env c user t).snatched <;> cases (finalLocals env c user t).expireToken <;> rfl

/-! ## Its row -/

def DBCall.OnTorrents : DBCall → Prop
  | .recordTorrent _ _ _ _ _ => True
  | _ => False

theorem Tables.execute_frame (db : Tables) (call : DBCall) : (db.execute call).torrentHashes = db.torrentHashes ∧
      (db.execute call).userPasskeys = db.userPasskeys ∧ (db.execute call).whitelist = db.whitelist ∧
      (¬ call.OnTorrents → (db.execute call).torrents = db.torrents) ∧
      ∀ id ∈ db.torrents, id ∈ (db.execute call).torrents := by
  cases call with
  | recordTorrent =>
    refine ⟨rfl, rfl, rfl, fun h => absurd trivial h, fun _ hmem => ?_⟩
    exact Finmap.mem_insert.2 (.inr hmem)
  | _ => exact ⟨rfl, rfl, rfl, fun _ => rfl, fun _ hmem => hmem⟩

theorem Tables.executeAll_frame (db : Tables) (calls : List DBCall) :
    (db.executeAll calls).torrentHashes = db.torrentHashes ∧ (db.executeAll calls).userPasskeys = db.userPasskeys ∧
      (db.executeAll calls).whitelist = db.whitelist ∧
      ((∀ call ∈ calls, ¬ call.OnTorrents) → (db.executeAll calls).torrents = db.torrents) ∧
      ∀ id ∈ db.torrents, id ∈ (db.executeAll calls).torrents := by
  induction calls generalizing db with
  | nil => exact ⟨rfl, rfl, rfl, fun _ => rfl, fun _ hmem => hmem⟩
  | cons call calls ih =>
    obtain ⟨hhashes, husers, hwl, htors, hmem⟩ := db.execute_frame call
    obtain ⟨ihhashes, ihusers, ihwhitelist, ihtorrents, ihmem⟩ := ih (db.execute call)
    refine ⟨ihhashes.trans hhashes, ihusers.trans husers, ihwhitelist.trans hwl, ?_, ?_⟩
    · intro hcalls
      have hrest : ∀ call' ∈ calls, ¬ call'.OnTorrents := fun call' hcall' =>
        hcalls call' (mem_cons_of_mem _ hcall')
      exact (ihtorrents hrest).trans (htors (hcalls call mem_cons_self))
    · intro id hid
      exact ihmem id (hmem id hid)

theorem accountTraffic_not_onTorrents (peer : Peer)
    (v : Locals) : ∀ call ∈ (accountTraffic env c user t peer v).db, ¬ call.OnTorrents := by
  unfold accountTraffic creditTraffic
  split
  · simp
  · split
    · simp
    · dsimp only
      split
      · intro call hcall
        rcases mem_append.1 hcall with hcall | hcall <;> split at hcall
        · rw [mem_singleton.1 hcall]
          exact id
        · cases hcall
        · rw [mem_singleton.1 hcall]
          exact id
        · cases hcall
      · simp

def writesBefore : List DBCall :=
  let s := lookupSection env c user (c.peerKey user t) t
  s.db ++ [peerRow env c user t s] ++
    if (finalLocals env c user t).snatched then
      [.recordSnatch user.id t.id c.now (if user.protectIP then [] else env.ipString c.effectiveIP)]
    else []

theorem writesBefore_not_onTorrents : ∀ call ∈ writesBefore env c user t, ¬ call.OnTorrents := by
  intro call hcall
  unfold writesBefore at hcall
  rw [mem_append, mem_append, mem_singleton] at hcall
  rcases hcall with (hcall | rfl) | hcall
  · exact accountTraffic_not_onTorrents _ _ _ _ _ _ call hcall
  · unfold peerRow
    split <;> exact id
  · split at hcall
    · rw [mem_singleton.1 hcall]
      exact id
    · cases hcall

theorem flushSection_db (now : Time) (v : Locals) (t : Torrent) :
    v.updateTorrent = false ∧ (flushSection now v t).2 = [] ∨
      ∃ seeders leechers, (flushSection now v t).2 =
        [.recordTorrent (flushSection now v t).1.id seeders leechers v.snatched
            (flushSection now v t).1.balance] := by
  unfold flushSection
  by_cases hdue : v.updateTorrent = true ∨ hour < now - t.lastFlushed
  · rw [if_pos hdue]
    exact .inr ⟨_, _, rfl⟩
  · rw [if_neg hdue]
    exact .inl ⟨by simpa using fun h => hdue (.inl h), rfl⟩

theorem Tables.torrents_announceAdmitted (db : Tables) (w : Worker) (env : Env) {c : Call}
    (user : User) {t : Torrent} (hexec : ∀ call, c.dbExec call = true) {row : TorrentRow}
    (hrow : db.torrents.lookup t.id = some row) (hbal : row.balance = t.balance) : ∃ seeders leechers,
      (db.executeAll (w.announceAdmitted env c user t).db).torrents = db.torrents.insert t.id { row with
            seeders, leechers
            snatched := row.snatched + (finalLocals env c user t).snatched.toNat
            balance := (finalTorrent env c user t).balance } := by
  set v := finalLocals env c user t with hv
  have hdb : (w.announceAdmitted env c user t).db = writesBefore env c user t ++
        (sectionsAfter c (c.peerKey user t) v (sectionsBefore env c user (c.peerKey user t) t).1).2 :=
    filter_eq_self.2 fun call _ => hexec call
  have hbef : (db.executeAll (writesBefore env c user t)).torrents = db.torrents :=
    (db.executeAll_frame _).2.2.2.1 (writesBefore_not_onTorrents env c user t)
  obtain ⟨_, hquiet⟩ := finalTorrent_metadata env c user t
  have hid : (finalTorrent env c user t).id = t.id := (finalTorrent_touched env c user t).id
  rw [hdb, executeAll, foldl_append]
  unfold sectionsAfter
  rcases flushSection_db c.now v (if v.stoppedTorrent then deleteSection c.req.left (c.peerKey user t) _
    else (sectionsBefore env c user (c.peerKey user t) t).1) with
    ⟨hflag, hnone⟩ | ⟨seeders, leechers, hflush⟩
  · -- nothing is written, and there was nothing to write
    obtain ⟨hsame, hsnatched⟩ := hquiet hflag
    refine ⟨row.seeders, row.leechers, ?_⟩
    rw [hnone, foldl_nil]
    refine hbef.trans ?_
    rw [hsnatched, hsame, ← hbal]
    exact (Finmap.insert_of_lookup_eq hrow).symm
  · refine ⟨seeders, leechers, ?_⟩
    rw [hflush, foldl_cons, foldl_nil]
    show (recordTorrent (db.executeAll (writesBefore env c user t)) (finalTorrent env c user t).id
      seeders leechers v.snatched.toNat (finalTorrent env c user t).balance).torrents = _
    unfold recordTorrent
    rw [hbef, hid, hrow]
    rfl

end Ocelot.Tracker
