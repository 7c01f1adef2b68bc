/-
# What a refused update leaves behind.
-/
import Ocelot.Tracker.Update

namespace Ocelot.Tracker

structure Worker.SameLists (w w' : Worker) : Prop where
  torrents : w'.torrents = w.torrents
  users : w'.users = w.users
  whitelist : w'.whitelist = w.whitelist

def Updated.Atomic (u : Updated) (w : Worker) : Prop := ∀ message, u.result = .error message → w.SameLists u.worker

namespace Updated

theorem atomic_of_ok {u : Updated} {message : Bytes} (h : u.result = .ok message) (w : Worker) : u.Atomic w := by
  intro _ herr
  rw [h] at herr
  cases herr

theorem atomic_updateError (w : Worker) (message : Bytes) :
    (w.updateError message).Atomic w := fun _ _ => ⟨rfl, rfl, rfl⟩

theorem Atomic.withDB {env : UpdateEnv} {w : Worker} {heading : String} {call : UpdateCall}
    {next : Updated} (h : next.Atomic w) : (w.withDB env heading call next).Atomic w := by
  unfold Worker.withDB
  cases env.dbError call with
  | none => exact h
  | some => exact atomic_updateError w _

theorem atomic_changeTorrent (w : Worker) (infoHash : Bytes) (change : Torrent → Torrent)
    (message : Bytes) : (w.changeTorrent infoHash change message).Atomic w := by
  unfold Worker.changeTorrent
  cases w.torrents.lookup infoHash with
  | none => exact atomic_updateError w _
  | some => exact atomic_of_ok rfl w

end Updated

namespace Worker

open Updated Sample

variable {q : Query} {w : Worker} {foundHash : Bytes} {env : UpdateEnv}

theorem atomic_handleUpdate (env : UpdateEnv) (w : Worker) (hq : q.action ≠ .deleteTorrent) :
    (w.handleUpdate env q).Atomic w := by
  unfold handleUpdate
  cases hact : q.action with
  | deleteTorrent => exact absurd hact hq
  | commons => exact fun _ _ => ⟨rfl, rfl, rfl⟩
  | unknown => exact atomic_updateError w _
  | _ =>
    simp only [addTorrent, updateTorrent, changeFreeleech, addUser, updateUser, removeUser,
      changePasskey, addToken, removeToken,
      tokenAction, addWhitelist, removeWhitelist, whitelistAction]
    repeat' first
      | exact atomic_updateError w _
      | exact atomic_changeTorrent w _ _ _
      | exact atomic_of_ok rfl w
      | apply Atomic.withDB
      | split

def FindsByID (env : UpdateEnv) (w : Worker) (q : Query) (id : ℤ) (foundHash : Bytes) : Prop :=
  q.get "info_hash" = [] ∧ positiveID (q.get "id") = some id ∧
    env.order.find? (w.hasID (UInt32.ofInt id)) = some foundHash

def FailsLate (env : UpdateEnv) (w : Worker) (q : Query) : Prop := ∃ id foundHash, w.FindsByID env q id foundHash ∧
    (foundHash = [] ∨ env.dbError (.deleteTorrentHash foundHash) ≠ none)

theorem erase_found_ne {id : TorrentID} {order : List Bytes}
    (h : order.find? (w.hasID id) = some foundHash) : w.torrents.erase foundHash ≠ w.torrents := by
  have hfound : w.hasID id foundHash = true := List.find?_some h
  intro hsame
  rw [hasID, ← hsame, Finmap.lookup_erase] at hfound
  cases hfound

theorem deleteTorrent_found {id : ℤ} (h : w.FindsByID env q id foundHash) : w.deleteTorrent env q =
      let w' : Worker := { w with torrents := w.torrents.erase foundHash }
      if foundHash = [] then w'.updateError (lit "Torrent not found")
      else
        w'.withDB env "DB error deleting torrent hash: " (.deleteTorrentHash foundHash)
          { worker := w', result := .ok (lit "Deleted torrent " ++ decimal id) } := by
  obtain ⟨hhash, hid, hfind⟩ := h
  have hidStr : q.get "id" ≠ [] := by
    intro hnil
    rw [hnil] at hid
    cases hid
  simp only [deleteTorrent, hhash, hidStr, hid, hfind, and_false, if_true, if_false]

theorem atomic_deleteTorrent_of_not_found
    (h : ∀ id foundHash, ¬ w.FindsByID env q id foundHash) : (w.deleteTorrent env q).Atomic w := by
  unfold deleteTorrent
  dsimp only
  split
  · exact atomic_updateError w _
  · split
    · rename_i hhash
      split
      · exact atomic_updateError w _
      · rename_i id hid
        split
        · exact atomic_updateError w _
        · rename_i foundHash hfind
          exact absurd ⟨hhash, hid, hfind⟩ (h id foundHash)
    · exact Atomic.withDB (atomic_of_ok rfl w)

theorem atomic_deleteTorrent_iff (env : UpdateEnv) (w : Worker) (q : Query) :
    (w.deleteTorrent env q).Atomic w ↔ ¬ w.FailsLate env q := by
  by_cases hfound : ∃ id foundHash, w.FindsByID env q id foundHash
  · obtain ⟨id, foundHash, hfinds⟩ := hfound
    have hne : w.torrents.erase foundHash ≠ w.torrents := erase_found_ne hfinds.2.2
    rw [deleteTorrent_found hfinds]
    by_cases hlate : foundHash = [] ∨ env.dbError (.deleteTorrentHash foundHash) ≠ none
    · -- the torrent is gone, and an error is the answer
      refine iff_of_false ?_ fun hnot => hnot ⟨id, foundHash, hfinds, hlate⟩
      intro hatom
      by_cases hempty : foundHash = []
      · rw [if_pos hempty] at hatom
        exact hne (hatom _ rfl).torrents
      · obtain ⟨_, herr⟩ := Option.ne_none_iff_exists'.1 (hlate.resolve_left hempty)
        simp only [hempty, if_false, withDB, herr] at hatom
        exact hne (hatom _ rfl).torrents
    · obtain ⟨hempty, hdb⟩ := not_or.1 hlate
      rw [ne_eq, not_not] at hdb
      refine iff_of_true ?_ ?_
      · simp only [hempty, if_false, withDB, hdb]
        exact atomic_of_ok rfl w
      · rintro ⟨_, _, ⟨-, hid, hfind⟩, hlate'⟩
        rw [hfinds.2.1] at hid
        cases hid
        rw [hfinds.2.2] at hfind
        cases hfind
        exact hlate hlate'
  · have hnot : ∀ id foundHash, ¬ w.FindsByID env q id foundHash := fun id foundHash h => hfound ⟨id, foundHash, h⟩
    refine iff_of_true (atomic_deleteTorrent_of_not_found hnot) ?_
    rintro ⟨id, foundHash, hfinds, -⟩
    exact hnot id foundHash hfinds

/-- **A refused update changes nothing**, unless it is a deletion by id that finds its torrent and
cannot delete its row: then the torrent is gone from memory and the answer is an error. -/
theorem handleUpdate_atomic_iff (env : UpdateEnv) (w : Worker) (q : Query) :
    (w.handleUpdate env q).Atomic w ↔ ¬ (q.action = .deleteTorrent ∧ w.FailsLate env q) := by
  by_cases hdel : q.action = .deleteTorrent
  · simp only [hdel, true_and]
    unfold handleUpdate
    rw [hdel]
    exact atomic_deleteTorrent_iff env w q
  · exact iff_of_true (atomic_handleUpdate env w hdel) fun h => hdel h.1

def failingDeletes : UpdateEnv where
  dbError
    | .deleteTorrentHash _ => some (lit "database is locked")
    | _ => none
  order := [infoHash]
  commons _ := .error []

/-- **The torrent is gone and the answer is an error.** -/
theorem failed_delete_removes :
    let q : Query := [(lit "action", lit "delete_torrent"), (lit "id", lit "1")]
    (worker.handleUpdate failingDeletes q).result =
        .error (lit "DB error deleting torrent hash: database is locked") ∧ infoHash ∈ worker.torrents ∧
      infoHash ∉ (worker.handleUpdate failingDeletes q).worker.torrents := by
  decide +kernel

end Worker

end Ocelot.Tracker
