/-
# What a successful update has done, one lemma for each action.
-/
import Ocelot.Tracker.Update

namespace Ocelot.Tracker

namespace Worker

variable {env : UpdateEnv} {w : Worker} {q : Query} {message : Bytes}
  {error : Bytes} {next : Updated} {heading : String} {call : UpdateCall} {text : String}

theorem updateError_ne_ok : (w.updateError error).result ≠ .ok message := by
  intro h
  cases h

theorem check_ok {c : Prop} [Decidable c] (h : (if c then w.updateError error else next).result = .ok message) :
    ¬ c ∧ next.result = .ok message ∧ (if c then w.updateError error else next) = next := by
  by_cases hc : c
  · rw [if_pos hc] at h
    exact absurd h updateError_ne_ok
  · rw [if_neg hc] at h
    exact ⟨hc, h, if_neg hc⟩

theorem withDB_ok (h : (w.withDB env heading call next).result = .ok message) : next.result = .ok message ∧
      w.withDB env heading call next = { next with db := call :: next.db } := by
  unfold withDB at h ⊢
  cases hdb : env.dbError call with
  | none =>
    rw [hdb] at h
    exact ⟨h, rfl⟩
  | some =>
    rw [hdb] at h
    exact absurd h updateError_ne_ok

theorem withDB_withDB_ok {head' : String} {call' : UpdateCall}
    (h : (w.withDB env heading call (w.withDB env head' call' next)).result = .ok message) :
    w.withDB env heading call (w.withDB env head' call' next) = { next with db := call :: call' :: next.db } := by
  obtain ⟨hlast, hfirst⟩ := withDB_ok h
  rw [hfirst, (withDB_ok hlast).2]

def addedTorrent (q : Query) (id : ℤ) : Torrent :=
  { newTorrent (UInt32.ofInt id) with freeType := UInt8.ofInt ((atoi (q.get "free_type")).getD 0) }

theorem addTorrent_ok (h : (w.addTorrent env q).result = .ok message) :
    ∃ id, positiveID (q.get "id") = some id ∧ q.get "info_hash" ≠ [] ∧
      q.get "info_hash" ∉ w.torrents ∧ w.addTorrent env q =
        { worker := { w with torrents := w.torrents.insert (q.get "info_hash") (addedTorrent q id) }
          db := [.recordTorrent (UInt32.ofInt id), .recordTorrentHash (UInt32.ofInt id) (q.get "info_hash")]
          result := .ok (lit "Added torrent " ++ decimal id) } := by
  unfold addTorrent at h ⊢
  cases hid : positiveID (q.get "id") with
  | none =>
    rw [hid] at h
    exact absurd h updateError_ne_ok
  | some id =>
    rw [hid] at h
    obtain ⟨hhash, h1, hnext1⟩ := check_ok h
    obtain ⟨hfresh, h2, hnext2⟩ := check_ok h1
    exact ⟨id, rfl, hhash, hfresh, (hnext1.trans hnext2).trans (withDB_withDB_ok h2)⟩

theorem changeTorrent_ok {infoHash text : Bytes} {change : Torrent → Torrent}
    (h : (w.changeTorrent infoHash change text).result = .ok message) : ∃ t, w.torrents.lookup infoHash = some t ∧
      w.changeTorrent infoHash change text =
        { worker := { w with torrents := w.torrents.insert infoHash (change t) }, result := .ok text } := by
  unfold changeTorrent at h ⊢
  cases ht : w.torrents.lookup infoHash with
  | none =>
    rw [ht] at h
    exact absurd h updateError_ne_ok
  | some t => exact ⟨t, rfl, rfl⟩

def updatedFreeType (q : Query) (t : Torrent) : FreeType :=
  match namedFreeType (q.get "free_type") with
  | none => t.freeType
  | some n => UInt8.ofInt n

theorem updateTorrent_ok (h : (w.updateTorrent q).result = .ok message) :
    ∃ t, w.torrents.lookup (q.get "info_hash") = some t ∧
      w.updateTorrent q =
        { worker :=
            { w with
              torrents := w.torrents.insert (q.get "info_hash") { t with freeType := updatedFreeType q t } }
          result := .ok (lit "Updated torrent " ++ q.get "info_hash") } := by
  obtain ⟨-, h1, hnext⟩ := check_ok h
  obtain ⟨t, ht, hupd⟩ := changeTorrent_ok h1
  refine ⟨t, ht, (hnext.trans hupd).trans ?_⟩
  unfold updatedFreeType
  cases namedFreeType (q.get "free_type") <;> rfl

theorem changeFreeleech_ok (h : (w.changeFreeleech q).result = .ok message) :
    ∃ t n, w.torrents.lookup (q.get "info_hash") = some t ∧
      namedFreeType (q.get "free_type") = some n ∧
      w.changeFreeleech q =
        { worker :=
            { w with torrents := w.torrents.insert (q.get "info_hash") { t with freeType := UInt8.ofInt n } }
          result := .ok (lit "Set torrent to " ++ freeTypeName n) } := by
  unfold changeFreeleech at h ⊢
  cases hn : namedFreeType (q.get "free_type") with
  | none =>
    rw [hn] at h
    obtain ⟨-, h1, -⟩ := check_ok h
    obtain ⟨-, h2, -⟩ := check_ok h1
    exact absurd h2 updateError_ne_ok
  | some n =>
    rw [hn] at h
    obtain ⟨-, h1, hnext1⟩ := check_ok h
    obtain ⟨-, h2, hnext2⟩ := check_ok h1
    obtain ⟨t, ht, hupd⟩ := changeTorrent_ok h2
    exact ⟨t, n, ht, rfl, (hnext1.trans hnext2).trans hupd⟩

theorem deleteTorrent_hash_ok (hhash : q.get "info_hash" ≠ [])
    (h : (w.deleteTorrent env q).result = .ok message) :
    w.deleteTorrent env q =
      { worker := { w with torrents := w.torrents.erase (q.get "info_hash") }
        db := [.deleteTorrentHash (q.get "info_hash")]
        result := .ok (lit "Deleted torrent " ++ q.get "info_hash") } := by
  unfold deleteTorrent at h ⊢
  simp only [hhash, false_and, if_false] at h ⊢
  exact (withDB_ok h).2

def addedCanLeech (q : Query) : Bool := decide (q.get "can_leech" ≠ lit "0")

def addedProtectIP (q : Query) : Bool := decide (q.get "protect_ip" = lit "1")

theorem addUser_ok (h : (w.addUser env q).result = .ok message) :
    ∃ id, positiveID (q.get "id") = some id ∧ (q.get "passkey").length = 32 ∧
      q.get "passkey" ∉ w.users ∧ w.addUser env q =
        { worker :=
            { w with
              users :=
                w.users.insert (q.get "passkey")
                  (newUser (UInt32.ofInt id) (addedCanLeech q) (addedProtectIP q)) }
          db := [.recordUserPasskey (UInt32.ofInt id) (q.get "passkey") (addedCanLeech q) (addedProtectIP q)]
          result := .ok (lit "Added user " ++ decimal id) } := by
  unfold addUser at h ⊢
  cases hid : positiveID (q.get "id") with
  | none =>
    rw [hid] at h
    exact absurd h updateError_ne_ok
  | some id =>
    rw [hid] at h
    obtain ⟨-, h1, hnext1⟩ := check_ok h
    obtain ⟨hlen, h2, hnext2⟩ := check_ok h1
    obtain ⟨hfresh, h3, hnext3⟩ := check_ok h2
    refine ⟨id, rfl, not_not.1 hlen, hfresh, ?_⟩
    exact ((hnext1.trans hnext2).trans hnext3).trans (withDB_ok h3).2

theorem updateUser_ok (h : (w.updateUser env q).result = .ok message) :
    ∃ user, w.users.lookup (q.get "passkey") = some user ∧
      w.updateUser env q =
        { worker :=
            { w with
              users :=
                w.users.insert (q.get "passkey")
                  { user with canLeech := (updatedFlags q user).1, protectIP := (updatedFlags q user).2 } }
          db :=
            [.recordUserPasskey user.id (q.get "passkey") (updatedFlags q user).1 (updatedFlags q user).2]
          result := .ok (lit "Updated user " ++ decimal user.id.toNat) } := by
  unfold updateUser at h ⊢
  dsimp only at h ⊢
  cases huser : w.users.lookup (q.get "passkey") with
  | none =>
    rw [huser] at h
    exact absurd (check_ok h).2.1 updateError_ne_ok
  | some user =>
    rw [huser] at h
    obtain ⟨-, h1, hnext⟩ := check_ok h
    exact ⟨user, rfl, hnext.trans (withDB_ok h1).2⟩

theorem removeUser_ok (h : (w.removeUser env q).result = .ok message) :
    ∃ user, w.users.lookup (q.get "passkey") = some user ∧ w.removeUser env q =
        { worker := { w with users := w.users.erase (q.get "passkey") }
          db := [.deleteUserPasskey (q.get "passkey")]
          result := .ok (lit "Removed user " ++ decimal user.id.toNat) } := by
  unfold removeUser at h ⊢
  dsimp only at h ⊢
  cases huser : w.users.lookup (q.get "passkey") with
  | none =>
    rw [huser] at h
    exact absurd (check_ok h).2.1 updateError_ne_ok
  | some user =>
    rw [huser] at h
    obtain ⟨-, h1, hnext⟩ := check_ok h
    exact ⟨user, rfl, hnext.trans (withDB_ok h1).2⟩

theorem changePasskey_ok (h : (w.changePasskey env q).result = .ok message) :
    ∃ user, w.users.lookup (q.get "old_passkey") = some user ∧ q.get "new_passkey" ∉ w.users ∧
      w.changePasskey env q =
        { worker :=
            { w with users := (w.users.erase (q.get "old_passkey")).insert (q.get "new_passkey") user }
          db :=
            [.recordUserPasskey user.id (q.get "new_passkey") user.canLeech user.protectIP,
              .deleteUserPasskey (q.get "old_passkey")]
          result := .ok (lit "Changed passkey for user " ++ decimal user.id.toNat) } := by
  unfold changePasskey at h ⊢
  dsimp only at h ⊢
  cases huser : w.users.lookup (q.get "old_passkey") with
  | none =>
    rw [huser] at h
    exact absurd (check_ok h).2.1 updateError_ne_ok
  | some user =>
    rw [huser] at h
    obtain ⟨-, h1, hnext1⟩ := check_ok h
    obtain ⟨hfresh, h2, hnext2⟩ := check_ok h1
    exact ⟨user, rfl, hfresh, (hnext1.trans hnext2).trans (withDB_withDB_ok h2)⟩

def tokenID (q : Query) : Option ℤ := positiveID (if q.get "user_id" = [] then q.get "id" else q.get "user_id")

theorem tokenAction_ok {change : Finset UserID → UserID → Finset UserID}
    (h : (w.tokenAction q change text).result = .ok message) :
    ∃ id t, tokenID q = some id ∧ w.torrents.lookup (q.get "info_hash") = some t ∧
      w.tokenAction q change text =
        { worker :=
            { w with
              torrents :=
                w.torrents.insert (q.get "info_hash")
                  { t with tokenedUsers := change t.tokenedUsers (UInt32.ofInt id) } }
          result := .ok (lit text ++ decimal id) } := by
  unfold tokenAction at h ⊢
  unfold tokenID
  dsimp only at h ⊢
  cases hid : positiveID (if q.get "user_id" = [] then q.get "id" else q.get "user_id") with
  | none =>
    rw [hid] at h
    exact absurd h updateError_ne_ok
  | some id =>
    rw [hid] at h
    obtain ⟨-, h1, hnext⟩ := check_ok h
    obtain ⟨t, ht, hupd⟩ := changeTorrent_ok h1
    exact ⟨id, t, rfl, ht, hnext.trans hupd⟩

theorem whitelistAction_ok {call : Bytes → UpdateCall} {change : List Bytes → Bytes → List Bytes}
    (h : (w.whitelistAction env q heading call change text).result = .ok message) :
    w.whitelistAction env q heading call change text =
      { worker := { w with whitelist := change w.whitelist (q.get "prefix") }
        db := [call (q.get "prefix")]
        result := .ok (lit text ++ q.get "prefix") } := by
  obtain ⟨-, h1, hnext⟩ := check_ok h
  exact hnext.trans (withDB_ok h1).2

end Worker

end Ocelot.Tracker
