/-
# The control API against the update API.
-/
import Ocelot.Tracker.ControlServer
import Ocelot.Tracker.Deployment
import Ocelot.Tracker.UpdateErrors

namespace Ocelot.Tracker

open Option Finmap Tracker.Worker Tables UniqueTable ControlRequest Sample

/-- **The request and the query ask for the same mutation.** -/
def ControlRequest.Expresses (q : Query) : ControlRequest → Prop
  | .postTorrents (some req) =>
    q.action = .addTorrent ∧ positiveID (q.get "id") = some (req.id.toNat : ℤ) ∧ q.get "info_hash" = req.infoHash ∧
      (atoi (q.get "free_type")).getD 0 = (req.freeType.toNat : ℤ)
  | .deleteTorrents infoHash => q.action = .deleteTorrent ∧ q.get "info_hash" = infoHash
  | .patchTorrents infoHash (some freeType) =>
    (q.action = .updateTorrent ∨ q.action = .changeFreeleech) ∧ q.get "info_hash" = infoHash ∧
      (namedFreeType (q.get "free_type")).map UInt8.ofInt = freeType
  | .postUsers (some req) =>
    if req.newPasskey ≠ [] then
      q.action = .changePasskey ∧ q.get "old_passkey" = req.passkey ∧ q.get "new_passkey" = req.newPasskey
    else
      q.action = .addUser ∧ positiveID (q.get "id") = some (req.id.toNat : ℤ) ∧
        q.get "passkey" = req.passkey ∧ addedCanLeech q = req.canLeech.getD true ∧
        addedProtectIP q = req.protectIP.getD false
  | .patchUsers passkey (some req) =>
    q.action = .updateUser ∧ q.get "passkey" = passkey ∧ ∀ user : User, updatedFlags q user =
        (req.canLeech.getD user.canLeech, req.protectIP.getD user.protectIP)
  | .deleteUsers passkey => q.action = .removeUser ∧ q.get "passkey" = passkey
  | .postWhitelist (some entry) => q.action = .addWhitelist ∧ q.get "prefix" = entry
  | .deleteWhitelist entry => q.action = .removeWhitelist ∧ q.get "prefix" = entry
  | .postTokens (some req) =>
    q.action = .addToken ∧ tokenID q = some (req.userID.toNat : ℤ) ∧ q.get "info_hash" = req.infoHash
  | .deleteTokens (some req) =>
    q.action = .removeToken ∧ tokenID q = some (req.userID.toNat : ℤ) ∧ q.get "info_hash" = req.infoHash
  | _ => False

def Deployment.control (s : Deployment) (dbError : UpdateCall → Option Bytes) (r : ControlRequest) : Deployment :=
  s.after (s.worker.control dbError r).worker (s.worker.control dbError r).db

def Deployment.updated (s : Deployment) (env : UpdateEnv) (q : Query) : Deployment :=
  s.after (s.worker.handleUpdate env q).worker (s.worker.handleUpdate env q).db

def ControlRequest.Lasting (w : Worker) : ControlRequest → Prop
  | .postTorrents (some req) => req.infoHash ∈ w.torrents
  | .deleteTorrents infoHash => infoHash ∉ w.torrents
  | .postUsers (some req) =>
    if req.newPasskey ≠ [] then req.newPasskey ∈ w.users ∧ req.passkey ∉ w.users
    else req.passkey ∈ w.users
  | .deleteUsers passkey => passkey ∉ w.users
  | _ => True

/-- **The mutation survives a restart**: it shows in what a successful `LoadAll` puts into empty
lists. -/
def Tables.Survives (db : Tables) (r : ControlRequest) : Prop :=
  ∀ (admission : Option SwarmAdmissionPolicy)
    (load : LoadEnv), (({ admission } : Worker).loadAll load db).result = .ok () →
      r.Lasting (({ admission } : Worker).loadAll load db).worker

/-- **The front ends agree**: the same lists, the same tables, and both survive a restart. -/
structure Deployment.Agree (a b : Deployment) (r : ControlRequest) : Prop where
  lists : a.worker.SameLists b.worker
  tables : a.db = b.db
  controlSurvives : a.db.Survives r
  updateSurvives : b.db.Survives r

/-- **The condition**: the rows that make up for a write the control API does not make. -/
def Deployment.RowsAgree (s : Deployment) : ControlRequest → Prop
  | .postTorrents (some req) =>
    -- the torrent's row is there, with nothing in it that `add_torrent` would reset
    ∃ row, s.db.torrents.lookup req.id = some row ∧ row.seeders = 0 ∧ row.leechers = 0 ∧ row.balance = 0
  | .deleteTorrents infoHash => infoHash ∉ s.db.torrentHashes.index
  | .postUsers (some req) =>
    -- no other user has a row with the old passkey
    req.newPasskey ≠ [] → ∀ user r, s.worker.users.lookup req.passkey = some user →
      s.db.userPasskeys.index.lookup req.passkey = some r → r.1 = user.id
  | .patchUsers passkey (some req) =>
    -- the row has the new flags already
    ∀ user, s.worker.users.lookup passkey = some user → s.db.userPasskeys.index.lookup passkey =
        some (user.id, ⟨req.canLeech.getD user.canLeech, req.protectIP.getD user.protectIP⟩)
  | .deleteUsers passkey => passkey ∉ s.db.userPasskeys.index
  | _ => True

theorem ofInt_toNat32 (n : UInt32) : UInt32.ofInt (n.toNat : ℤ) = n := by
  have hsmall : ((n.toNat : ℤ) % 2 ^ 32).toNat = n.toNat := by
    have := n.toNat_lt
    omega
  show UInt32.ofNat _ = n
  rw [hsmall, UInt32.ofNat_toNat]

theorem ofInt_toNat8 (n : UInt8) : UInt8.ofInt (n.toNat : ℤ) = n := by
  have hsmall : ((n.toNat : ℤ) % 2 ^ 8).toNat = n.toNat := by
    have := n.toNat_lt
    omega
  show UInt8.ofNat _ = n
  rw [hsmall, UInt8.ofNat_toNat]

variable {db : Tables}

theorem Tables.recordTorrent_zero_eq_iff {id : TorrentID} :
    (db.recordTorrent id 0 0 0 0).torrents = db.torrents ↔
      ∃ row, db.torrents.lookup id = some row ∧ row.seeders = 0 ∧ row.leechers = 0 ∧ row.balance = 0 := by
  constructor
  · intro h
    have hrow := congrArg (lookup id) h
    unfold recordTorrent at hrow
    rw [lookup_insert] at hrow
    exact ⟨_, hrow.symm, rfl, rfl, rfl⟩
  · rintro ⟨⟨seeders, leechers, _, balance, _⟩, hrow, hseeders, hleechers, hbal⟩
    obtain rfl : seeders = 0 := hseeders
    obtain rfl : leechers = 0 := hleechers
    obtain rfl : balance = 0 := hbal
    apply insert_of_lookup_eq
    rw [hrow]
    rfl

theorem Tables.torrentHashes_eq_iff {rows : UniqueTable TorrentID Bytes Unit} :
    db = { db with torrentHashes := rows } ↔ rows = db.torrentHashes := by
  constructor
  · intro h
    exact (congrArg torrentHashes h).symm
  · intro h
    rw [h]

theorem Tables.userPasskeys_eq_iff {rows : UniqueTable UserID Bytes UserFlags} :
    db = { db with userPasskeys := rows } ↔ rows = db.userPasskeys := by
  constructor
  · intro h
    exact (congrArg userPasskeys h).symm
  · intro h
    rw [h]

theorem Tables.mem_loadAll {admission : Option SwarmAdmissionPolicy} {load : LoadEnv}
    (h : (({ admission } : Worker).loadAll load db).result = .ok ()) :
    (∀ infoHash, infoHash ∈ (({ admission } : Worker).loadAll load db).worker.torrents ↔ infoHash ∈ db.joined) ∧
      ∀ passkey, passkey ∈ (({ admission } : Worker).loadAll load db).worker.users ↔
          passkey ∈ db.userPasskeys.index := by
  refine ⟨fun infoHash => ?_, fun passkey => ?_⟩
  · rw [← not_iff_not, ← lookup_eq_none, ← lookup_eq_none, lookup_loadAll h, map_eq_none_iff]
  · unfold loadAll at h ⊢
    rw [loadParts_ok h]
    show passkey ∈ (db.userPasskeys.index.mapVal _ ∪ ∅) ↔ _
    rw [union_empty, mem_mapVal]

/-! ## One mutation at a time

For each, the lists are the same, the tables are the same exactly if the rows agree, and the update API's
tables survive a restart. -/

structure Compared (s : Deployment) (c : Controlled) (u : Updated) (r : ControlRequest) : Prop where
  lists : c.worker.SameLists u.worker
  tables : s.db.executeAdminAll c.db = s.db.executeAdminAll u.db ↔ s.RowsAgree r
  survives : (s.db.executeAdminAll u.db).Survives r

theorem Compared.agree_iff {s : Deployment} {c : Controlled} {u : Updated} {r : ControlRequest}
    (h : Compared s c u r) : (s.after c.worker c.db).Agree (s.after u.worker u.db) r ↔ s.RowsAgree r := by
  constructor
  · intro hagree
    exact h.tables.1 hagree.tables
  · intro hrows
    have htables := h.tables.2 hrows
    refine ⟨h.lists, htables, ?_, h.survives⟩
    show (s.db.executeAdminAll c.db).Survives r
    rw [htables]
    exact h.survives

namespace Deployment

/-- What is to be shown of a request and a query that ask for the same. -/
def Compares (s : Deployment) (dbError : UpdateCall → Option Bytes) (env : UpdateEnv) (q : Query)
    (r : ControlRequest) : Prop :=
  r.Expresses q → (s.worker.control dbError r).Succeeded → ∀ message,
    (s.worker.handleUpdate env q).result = .ok message →
      Compared s (s.worker.control dbError r) (s.worker.handleUpdate env q) r

variable {s : Deployment} {dbError : UpdateCall → Option Bytes} {env : UpdateEnv} {q : Query}

theorem compares_postTorrents (req : TorrentBody) : s.Compares dbError env q (.postTorrents (some req)) := by
  rintro ⟨hact, hid, hhash, hfree⟩ hcontrol _ hupd
  rw [Worker.handleUpdate, hact] at hupd ⊢
  obtain ⟨id, hid', -, -, heq⟩ := addTorrent_ok hupd
  obtain rfl : (req.id.toNat : ℤ) = id := mem_unique hid hid'
  obtain ⟨-, h1, hnext1⟩ := control_check_ok (by decide) hcontrol
  obtain ⟨-, h2, hnext2⟩ := control_check_ok (by decide) h1
  have hpost : s.worker.control dbError (.postTorrents (some req)) = _ :=
    (hnext1.trans hnext2).trans (thenRecord_ok h2)
  simp only [hpost, heq, Worker.addedTorrent, hhash, hfree, ofInt_toNat32, ofInt_toNat8]
  refine ⟨⟨rfl, rfl, rfl⟩, ?_, ?_⟩
  · refine Iff.trans ?_ recordTorrent_zero_eq_iff
    constructor
    · intro h
      exact (congrArg Tables.torrents h).symm
    · intro h
      show s.db.recordTorrentHash req.id req.infoHash = Tables.recordTorrentHash
          { s.db with torrents := (s.db.recordTorrent req.id 0 0 0 0).torrents } req.id req.infoHash
      rw [h]
  · intro _ _ hload
    refine ((mem_loadAll hload).1 req.infoHash).2 (mem_joined.2 ⟨req.id, ?_, ?_⟩)
    · exact (lookup_index_replace _ _ _ _ _).trans (if_pos rfl)
    · exact mem_insert.2 (.inl rfl)

theorem compares_deleteTorrents (infoHash : Bytes) : s.Compares dbError env q (.deleteTorrents infoHash) := by
  rintro ⟨hact, rfl⟩ hcontrol _ hupd
  rw [Worker.handleUpdate, hact] at hupd ⊢
  obtain ⟨hne, -, hnext⟩ := control_check_ok (by decide) hcontrol
  have hdel : s.worker.control dbError (.deleteTorrents (q.get "info_hash")) = _ := hnext
  simp only [hdel, deleteTorrent_hash_ok hne hupd]
  refine ⟨⟨rfl, rfl, rfl⟩, ?_, ?_⟩
  · show s.db = { s.db with torrentHashes := s.db.torrentHashes.delete (q.get "info_hash") } ↔ _ ∉ _
    rw [torrentHashes_eq_iff, delete_eq_self_iff, lookup_eq_none]
  · intro _ _ hload hmem
    obtain ⟨_, hrow, -⟩ := mem_joined.1 (((mem_loadAll hload).1 _).1 hmem)
    change (s.db.torrentHashes.delete (q.get "info_hash")).index.lookup (q.get "info_hash") = _ at hrow
    rw [index_delete, lookup_erase] at hrow
    cases hrow

theorem compares_patchTorrents (infoHash : Bytes) (freeType : Option UInt8) :
    s.Compares dbError env q (.patchTorrents infoHash (some freeType)) := by
  rintro ⟨hact, rfl, rfl⟩ hcontrol _ hupd
  have hpatch : s.worker.control dbError (.patchTorrents (q.get "info_hash") (some _)) = _ :=
    (control_check_ok (by decide) hcontrol).2.2
  rw [Worker.handleUpdate] at hupd ⊢
  rcases hact with hact | hact <;> rw [hact] at hupd ⊢
  · obtain ⟨t, ht, hset⟩ := updateTorrent_ok hupd
    have hsame : ((namedFreeType (q.get "free_type")).map UInt8.ofInt).getD t.freeType =
        updatedFreeType q t := by
      unfold updatedFreeType
      cases namedFreeType (q.get "free_type") <;> rfl
    simp only [hpatch, ht, hset, ← hsame]
    exact ⟨⟨rfl, rfl, rfl⟩, iff_of_true rfl trivial, fun _ _ _ => trivial⟩
  · obtain ⟨t, n, ht, hn, hset⟩ := changeFreeleech_ok hupd
    rw [hn] at hpatch ⊢
    simp only [hpatch, ht, hset]
    exact ⟨⟨rfl, rfl, rfl⟩, iff_of_true rfl trivial, fun _ _ _ => trivial⟩

theorem compares_addUser {req : UserBody} (hnew : ¬ req.newPasskey ≠ []) :
    s.Compares dbError env q (.postUsers (some req)) := by
  intro hsame hcontrol _ hupd
  unfold Worker.control Worker.postUsers at hcontrol ⊢
  unfold ControlRequest.Expresses at hsame
  dsimp only at hcontrol hsame ⊢
  rw [if_neg hnew] at hcontrol hsame ⊢
  obtain ⟨hact, hid, hkey, hcanLeech, hprotectIP⟩ := hsame
  rw [Worker.handleUpdate, hact] at hupd ⊢
  obtain ⟨id, hid', -, -, heq⟩ := addUser_ok hupd
  obtain rfl : (req.id.toNat : ℤ) = id := mem_unique hid hid'
  obtain ⟨-, h1, hnext1⟩ := control_check_ok (by decide) hcontrol
  obtain ⟨-, h2, hnext2⟩ := control_check_ok (by decide) h1
  obtain ⟨-, h3, hnext3⟩ := control_check_ok (by decide) h2
  have hpost : s.worker.postUser dbError req = _ := ((hnext1.trans hnext2).trans hnext3).trans (thenRecord_ok h3)
  simp only [hpost, heq, hkey, hcanLeech, hprotectIP, ofInt_toNat32]
  refine ⟨⟨rfl, rfl, rfl⟩, iff_of_true rfl (fun h => absurd h hnew), ?_⟩
  intro _ _ hload
  show if req.newPasskey ≠ [] then _ else _
  rw [if_neg hnew]
  refine ((mem_loadAll hload).2 req.passkey).2 ?_
  have hrow := (lookup_index_replace s.db.userPasskeys req.id req.passkey req.passkey
    ⟨req.canLeech.getD true, req.protectIP.getD false⟩).trans (if_pos rfl)
  exact mem_of_lookup_eq_some hrow

theorem compares_changePasskey {req : UserBody} (hnew : req.newPasskey ≠ []) :
    s.Compares dbError env q (.postUsers (some req)) := by
  intro hsame hcontrol _ hupd
  unfold Worker.control Worker.postUsers at hcontrol ⊢
  unfold ControlRequest.Expresses at hsame
  dsimp only at hcontrol hsame ⊢
  rw [if_pos hnew] at hcontrol hsame ⊢
  obtain ⟨hact, hold, hnewPasskey⟩ := hsame
  rw [Worker.handleUpdate, hact] at hupd ⊢
  obtain ⟨user, huser, hfree, hchanged⟩ := changePasskey_ok hupd
  rw [hold] at huser hchanged
  rw [hnewPasskey] at hfree hchanged
  unfold Worker.postPasskey at hcontrol ⊢
  rw [huser] at hcontrol ⊢
  obtain ⟨-, h1, hnext⟩ := control_check_ok (by decide) hcontrol
  have hne : req.passkey ≠ req.newPasskey := by
    intro hsame
    rw [hsame] at huser
    exact hfree (mem_of_lookup_eq_some huser)
  rw [hnext.trans (thenRecord_ok h1), hchanged]
  set rows := s.db.userPasskeys.replace user.id req.newPasskey ⟨user.canLeech, user.protectIP⟩ with hrows
  have hlook : ∀ passkey, rows.index.lookup passkey =
      if passkey = req.newPasskey then some (user.id, ⟨user.canLeech, user.protectIP⟩)
      else (s.db.userPasskeys.index.lookup passkey).filter fun r => r.1 ≠ user.id :=
    fun passkey => lookup_index_replace _ _ _ _ _
  refine ⟨⟨rfl, rfl, rfl⟩, ?_, ?_⟩
  · have htables : { s.db with userPasskeys := rows } =
          { s.db with userPasskeys := rows.delete req.passkey } ↔ rows.delete req.passkey = rows :=
            userPasskeys_eq_iff
    refine htables.trans ?_
    rw [delete_eq_self_iff, hlook, if_neg hne, filter_eq_none_iff]
    constructor
    · intro h _ owner r hown hr
      obtain rfl : user = owner := mem_unique huser hown
      by_contra hother
      exact h r hr (by simpa using hother)
    · intro h r hr
      simpa using h hnew user r huser hr
  · intro _ _ hload
    show if req.newPasskey ≠ [] then _ else _
    rw [if_pos hnew]
    have hmem := (mem_loadAll hload).2
    refine ⟨(hmem req.newPasskey).2 ?_, fun h => ?_⟩
    · show req.newPasskey ∈ (rows.delete req.passkey).index
      rw [index_delete, mem_erase]
      exact ⟨hne.symm, mem_of_lookup_eq_some ((hlook req.newPasskey).trans (if_pos rfl))⟩
    · have hrow : req.passkey ∈ (rows.delete req.passkey).index := (hmem req.passkey).1 h
      rw [index_delete] at hrow
      exact notMem_erase_self hrow

theorem compares_patchUsers (passkey : Bytes) (req : FlagsBody) :
    s.Compares dbError env q (.patchUsers passkey (some req)) := by
  rintro ⟨hact, rfl, hflags⟩ hcontrol _ hupd
  rw [Worker.handleUpdate, hact] at hupd ⊢
  obtain ⟨user, huser, hset⟩ := updateUser_ok hupd
  have hpatch : s.worker.control dbError (.patchUsers (q.get "passkey") (some req)) = _ :=
    (control_check_ok (by decide) hcontrol).2.2
  simp only [hpatch, huser, hset, hflags]
  refine ⟨⟨rfl, rfl, rfl⟩, ?_, fun _ _ _ => trivial⟩
  set flags : UserFlags := ⟨req.canLeech.getD user.canLeech, req.protectIP.getD user.protectIP⟩
  show s.db = { s.db with userPasskeys := s.db.userPasskeys.replace user.id (q.get "passkey") flags } ↔ _
  rw [userPasskeys_eq_iff, replace_eq_self_iff]
  constructor
  · intro h owner hown
    obtain rfl : user = owner := mem_unique huser hown
    exact h
  · intro h
    exact h user huser

theorem compares_deleteUsers (passkey : Bytes) : s.Compares dbError env q (.deleteUsers passkey) := by
  rintro ⟨hact, rfl⟩ hcontrol _ hupd
  rw [Worker.handleUpdate, hact] at hupd ⊢
  obtain ⟨_, -, hrem⟩ := removeUser_ok hupd
  have hdel : s.worker.control dbError (.deleteUsers (q.get "passkey")) = _ :=
    (control_check_ok (by decide) hcontrol).2.2
  simp only [hdel, hrem]
  refine ⟨⟨rfl, rfl, rfl⟩, ?_, ?_⟩
  · show s.db = { s.db with userPasskeys := s.db.userPasskeys.delete (q.get "passkey") } ↔ _ ∉ _
    rw [userPasskeys_eq_iff, delete_eq_self_iff, lookup_eq_none]
  · intro _ _ hload hmem
    have hrow : _ ∈ (s.db.userPasskeys.delete (q.get "passkey")).index := ((mem_loadAll hload).2 _).1 hmem
    rw [index_delete] at hrow
    exact notMem_erase_self hrow

theorem compares_postWhitelist (entry : Bytes) : s.Compares dbError env q (.postWhitelist (some entry)) := by
  rintro ⟨hact, rfl⟩ hcontrol _ hupd
  rw [Worker.handleUpdate, hact] at hupd ⊢
  obtain ⟨-, h1, hnext⟩ := control_check_ok (by decide) hcontrol
  have hpost : s.worker.control dbError (.postWhitelist (some (q.get "prefix"))) = _ :=
    hnext.trans (thenRecord_ok h1)
  simp only [hpost, addWhitelist, whitelistAction_ok hupd]
  exact ⟨⟨rfl, rfl, rfl⟩, iff_of_true rfl trivial, fun _ _ _ => trivial⟩

theorem compares_deleteWhitelist (entry : Bytes) : s.Compares dbError env q (.deleteWhitelist entry) := by
  rintro ⟨hact, rfl⟩ hcontrol _ hupd
  rw [Worker.handleUpdate, hact] at hupd ⊢
  obtain ⟨-, h1, hnext⟩ := control_check_ok (by decide) hcontrol
  have hdel : s.worker.control dbError (.deleteWhitelist (q.get "prefix")) = _ := hnext.trans (thenRecord_ok h1)
  simp only [hdel, removeWhitelist, whitelistAction_ok hupd]
  exact ⟨⟨rfl, rfl, rfl⟩, iff_of_true rfl trivial, fun _ _ _ => trivial⟩

theorem compared_tokens {r : ControlRequest} {change : Finset UserID → UserID → Finset UserID}
    {text text' : String}
    {message : Bytes} {req : TokenBody} (hid : tokenID q = some (req.userID.toNat : ℤ))
    (hhash : q.get "info_hash" = req.infoHash) (hrows : s.RowsAgree r)
    (hsurvives : ∀ db : Tables, db.Survives r)
    (hcontrol : (s.worker.handleTokens change text (some req)).Succeeded)
    (hupdate : (s.worker.tokenAction q change text').result = .ok message) :
    Compared s (s.worker.handleTokens change text (some req)) (s.worker.tokenAction q change text') r := by
  obtain ⟨id, t, hid', ht, hupd⟩ := tokenAction_ok hupdate
  obtain rfl : (req.userID.toNat : ℤ) = id := mem_unique hid hid'
  rw [hhash] at ht hupd
  have hpost : s.worker.handleTokens change text (some req) = _ := (control_check_ok (by decide) hcontrol).2.2
  rw [hpost, ht, hupd, ofInt_toNat32]
  exact ⟨⟨rfl, rfl, rfl⟩, iff_of_true rfl hrows, hsurvives _⟩

/-- **Two front ends, exactly.** -/
theorem frontEnds_agree_iff {message : Bytes} {r : ControlRequest} (hsame : r.Expresses q)
    (hcontrol : (s.worker.control dbError r).Succeeded)
    (hupdate : (s.worker.handleUpdate env q).result = .ok message) :
    (s.control dbError r).Agree (s.updated env q) r ↔ s.RowsAgree r := by
  suffices h : s.Compares dbError env q r from (h hsame hcontrol message hupdate).agree_iff
  cases r with
  | deleteTorrents infoHash => exact compares_deleteTorrents infoHash
  | deleteUsers passkey => exact compares_deleteUsers passkey
  | deleteWhitelist entry => exact compares_deleteWhitelist entry
  | postTorrents body =>
    cases body with
    | none => exact absurd hsame id
    | some req => exact compares_postTorrents req
  | patchTorrents infoHash body =>
    cases body with
    | none => exact absurd hsame id
    | some freeType => exact compares_patchTorrents infoHash freeType
  | postUsers body =>
    cases body with
    | none => exact absurd hsame id
    | some req =>
      by_cases hnew : req.newPasskey ≠ []
      · exact compares_changePasskey hnew
      · exact compares_addUser hnew
  | patchUsers passkey body =>
    cases body with
    | none => exact absurd hsame id
    | some req => exact compares_patchUsers passkey req
  | postWhitelist body =>
    cases body with
    | none => exact absurd hsame id
    | some entry => exact compares_postWhitelist entry
  | postTokens body | deleteTokens body =>
    cases body with
    | none => exact absurd hsame id
    | some =>
      rintro ⟨hact, hid, hhash⟩ hcontrol _ hupd
      rw [Worker.handleUpdate, hact] at hupd ⊢
      refine compared_tokens hid hhash ?_ ?_ hcontrol hupd
      · exact trivial
      · exact fun _ _ _ _ => trivial

theorem frontEnds_agree_sample : let r := postUsers (some
      { id := 7, passkey := lit passkeyA, newPasskey := [], canLeech := none, protectIP := none })
    let q : Query := [(lit "action", lit "add_user"), (lit "id", lit "7"), (lit "passkey", lit passkeyA)]
    ((initial none).control (fun _ => none) r).Agree ((initial none).updated healthy q) r := by
  intro r q
  have hsame : r.Expresses q := by
    simp only [r, Expresses]
    decide +kernel
  have hcontrol : ((initial none).worker.control (fun _ => none) r).status = 201 := by decide +kernel
  have hupd : ((initial none).worker.handleUpdate healthy q).result = .ok (lit "Added user 7") := by
    decide +kernel
  refine (frontEnds_agree_iff hsame ?_ hupd).2 ?_
  · show _ < 300
    rw [hcontrol]
    decide
  · exact fun hnew => absurd rfl hnew

/-- **A torrent added through the control API is gone after a restart**, and one added through the
update API is not. -/
theorem posted_torrent_lost :
    let r := ControlRequest.postTorrents (some { id := 1, infoHash := Sample.infoHash, freeType := 0 })
    let q : Query := [(lit "action", lit "add_torrent"), (lit "id", lit "1"), (lit "info_hash", Sample.infoHash)]
    r.Expresses q ∧ ((initial none).worker.control (fun _ => none) r).Succeeded ∧
      ((initial none).worker.handleUpdate Sample.healthy q).result = .ok (lit "Added torrent 1") ∧
      Sample.infoHash ∈ ((initial none).control (fun _ => none) r).worker.torrents ∧
      ¬ ((initial none).control (fun _ => none) r).db.Survives r ∧
        ((initial none).updated Sample.healthy q).db.Survives r ∧
      ¬ ((initial none).control (fun _ => none) r).Agree ((initial none).updated Sample.healthy q) r := by
  intro r q
  have hlost : ¬ ((initial none).control (fun _ => none) r).db.Survives r := by
    intro h
    have hmem : Sample.infoHash ∈
        (({} : Worker).loadAll {} ((initial none).control (fun _ => none) r).db).worker.torrents :=
      h none {} (by decide +kernel)
    exact absurd hmem (by decide +kernel)
  have hsame : r.Expresses q := by
    show _ ∧ _
    decide +kernel
  have hcontrol : ((initial none).worker.control (fun _ => none) r).Succeeded := by
    show _ < 300
    decide +kernel
  have hupd : ((initial none).worker.handleUpdate Sample.healthy q).result = .ok (lit "Added torrent 1") := by
    decide +kernel
  have hkept : ((initial none).updated Sample.healthy q).db.Survives r :=
    (compares_postTorrents _ hsame hcontrol _ hupd).survives
  exact ⟨hsame, hcontrol, hupd, by decide +kernel, hlost, hkept, fun h => hlost h.controlSurvives⟩

end Deployment

end Ocelot.Tracker
