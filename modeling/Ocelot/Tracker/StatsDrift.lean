/-
# The global counters and everything that changes the swarms.
-/
import Ocelot.Tracker.Reaper
import Ocelot.Tracker.Snapshot
import Ocelot.Tracker.Update

namespace Ocelot.Tracker

open Tracker.Worker Finmap Sample

def Updated.KeepsSwarms (u : Updated) (w : Worker) : Prop :=
  u.worker.stats = w.stats ∧ ∀ side, u.worker.count side = w.count side

section

variable {env : UpdateEnv} {w : Worker}

theorem keepsSwarms_of_torrents_eq {u : Updated} (hstats : u.worker.stats = w.stats)
    (htors : u.worker.torrents = w.torrents) : u.KeepsSwarms w := by
  refine ⟨hstats, fun _ => ?_⟩
  unfold count
  rw [htors]

theorem keepsSwarms_updateError (message : Bytes) : (w.updateError message).KeepsSwarms w :=
  keepsSwarms_of_torrents_eq rfl rfl

theorem keepsSwarms_withDB {w' : Worker} {heading : String} {call : UpdateCall} {next : Updated}
    (hfail : ∀ message, (w'.updateError message).KeepsSwarms w) (hnext : next.KeepsSwarms w) :
    (w'.withDB env heading call next).KeepsSwarms w := by
  unfold withDB
  split
  · exact hfail _
  · exact hnext

theorem keepsSwarms_changeTorrent {infoHash message : Bytes} {change : Torrent → Torrent}
    (hchange : ∀ t side, (change t).list side = t.list side) :
    (w.changeTorrent infoHash change message).KeepsSwarms w := by
  unfold changeTorrent
  split
  · exact keepsSwarms_updateError _
  · rename_i t ht
    refine ⟨rfl, fun side => ?_⟩
    unfold count
    rw [total_insert, total_eq_add_erase (fun _ t => (Torrent.list t side).size) ht, hchange]

theorem keepsSwarms_addTorrent (q : Query) : (w.addTorrent env q).KeepsSwarms w := by
  unfold addTorrent
  split
  · exact keepsSwarms_updateError _
  · dsimp only
    split
    · exact keepsSwarms_updateError _
    · split
      · exact keepsSwarms_updateError _
      · rename_i hfresh
        refine keepsSwarms_withDB keepsSwarms_updateError
          (keepsSwarms_withDB keepsSwarms_updateError ⟨rfl, fun side => ?_⟩)
        -- the new torrent is empty, and there was none under its hash
        unfold count
        rw [total_insert, erase_of_notMem hfresh]
        cases side <;> exact Nat.zero_add _

theorem keepsSwarms_handleUpdate (env : UpdateEnv) (w : Worker) {q : Query}
    (hq : q.action ≠ .deleteTorrent) : (w.handleUpdate env q).KeepsSwarms w := by
  unfold handleUpdate
  cases hact : q.action with
  | addTorrent => exact keepsSwarms_addTorrent q
  | deleteTorrent => exact absurd hact hq
  | updateTorrent | changeFreeleech | addToken | removeToken =>
    simp only [updateTorrent, changeFreeleech, addToken, removeToken, tokenAction]
    repeat' first
      | exact keepsSwarms_updateError _
      | exact keepsSwarms_changeTorrent fun t side => by cases side <;> (try split) <;> rfl
      | split
  | addUser | updateUser | removeUser | changePasskey | addWhitelist | removeWhitelist =>
    simp only [addUser, updateUser, removeUser, changePasskey, addWhitelist,
      removeWhitelist, whitelistAction]
    repeat' first
      | exact keepsSwarms_updateError _
      | exact keepsSwarms_of_torrents_eq rfl rfl
      | refine keepsSwarms_withDB keepsSwarms_updateError ?_
      | split
  | commons => exact keepsSwarms_of_torrents_eq rfl rfl
  | unknown => exact keepsSwarms_updateError _

end

variable (w : Worker) (env : UpdateEnv)

def Worker.deleteTarget (q : Query) : Option Bytes :=
  if q.action ≠ .deleteTorrent then none
  else if q.get "info_hash" = [] then
    (positiveID (q.get "id")).bind fun id => env.order.find? (w.hasID (UInt32.ofInt id))
  else if (env.dbError (.deleteTorrentHash (q.get "info_hash"))).isSome then none
  else some (q.get "info_hash")

def Worker.deletedCount (q : Query) (side : Side) : ℕ :=
  (((w.deleteTarget env q).bind fun h => w.torrents.lookup h).map fun t => (t.list side).size).getD 0

theorem Worker.deleteTorrent_spec (w : Worker) {q : Query} (hq : q.action = .deleteTorrent) :
    (w.deleteTorrent env q).worker.stats = w.stats ∧ (w.deleteTorrent env q).worker.torrents =
        ((w.deleteTarget env q).map fun h => w.torrents.erase h).getD w.torrents := by
  unfold deleteTorrent deleteTarget
  rw [if_neg (not_not.mpr hq)]
  by_cases hhash : q.get "info_hash" = []
  · by_cases hid : q.get "id" = []
    · rw [if_pos ⟨hhash, hid⟩, if_pos hhash, hid]
      exact ⟨rfl, rfl⟩
    · rw [if_neg (fun h => hid h.2), if_pos hhash, if_pos hhash]
      cases positiveID (q.get "id") with
      | none => exact ⟨rfl, rfl⟩
      | some id =>
        dsimp only [Option.bind_some]
        cases env.order.find? (w.hasID (UInt32.ofInt id)) with
        | none => exact ⟨rfl, rfl⟩
        | some =>
          dsimp only
          split
          · exact ⟨rfl, rfl⟩
          · unfold withDB
            split <;> exact ⟨rfl, rfl⟩
  · rw [if_neg (fun h => hhash h.1), if_neg hhash, if_neg hhash]
    unfold withDB
    cases env.dbError (.deleteTorrentHash (q.get "info_hash")) <;> exact ⟨rfl, rfl⟩

theorem Worker.count_handleUpdate (q : Query) :
    (w.handleUpdate env q).worker.stats = w.stats ∧ ∀ side, w.count side =
        (w.handleUpdate env q).worker.count side + w.deletedCount env q side := by
  by_cases hq : q.action = .deleteTorrent
  · have hcall : w.handleUpdate env q = w.deleteTorrent env q := by
      unfold handleUpdate
      rw [hq]
    obtain ⟨hstats, htors⟩ := deleteTorrent_spec env w hq
    rw [hcall]
    refine ⟨hstats, fun side => ?_⟩
    unfold deletedCount count
    rw [htors]
    cases w.deleteTarget env q with
    | none => rfl
    | some h =>
      rw [total_eq_weightAt_add_erase _ h, Nat.add_comm]
      unfold weightAt
      cases hlook : w.torrents.lookup h <;> simp [hlook]
  · obtain ⟨hstats, hcnt⟩ := keepsSwarms_handleUpdate env w hq
    refine ⟨hstats, fun side => ?_⟩
    have hnone : w.deleteTarget env q = none := if_pos hq
    rw [hcnt, deletedCount, hnone]
    rfl

inductive Op where
  | announce (env : Env) (c : Call)
  | reap (cutoff : Time)
  | update (env : UpdateEnv) (q : Query)
  | loadSnapshot (file : SnapshotFile)

def Worker.perform : Op → Worker
  | .announce env c => (w.announce env c).worker
  | .reap cutoff => w.reap cutoff
  | .update env q => (w.handleUpdate env q).worker
  | .loadSnapshot file => w.loadSnapshot file

/-- **The peers of one side that an operation adds or removes without the counters**: the stale
peers, the peers of the deleted torrent, the keys that the snapshot adds. -/
def Worker.unaccounted (side : Side) : Op → ℕ
  | .announce _ _ => 0
  | .reap cutoff => w.staleCount cutoff side
  | .update env q => w.deletedCount env q side
  | .loadSnapshot file => w.restoredCount side file

theorem ofNat_add_eq_iff {n k : ℕ} : UInt32.ofNat (n + k) = UInt32.ofNat n ↔ 2 ^ 32 ∣ k := by
  rw [← UInt32.toNat_inj]
  simp only [UInt32.toNat_ofNat', Nat.reducePow]
  omega

theorem Worker.StatsAgree.announce {w : Worker} (hw : w.StatsAgree) (env : Env) (c : Call) :
    (w.announce env c).worker.StatsAgree := by
  rcases w.announce_cases env c with ⟨e, href⟩ | ⟨user, t, _, hadm, hcall⟩
  · rw [href]
    exact hw
  · intro side
    rw [hcall, (announceAdmitted_spec env w c user t).2.1 side, hw side]
    exact ofNat_add_ofInt (count_announceAdmitted (admit_ok hadm).2 side)

theorem Worker.statsAgree_perform_iff {w : Worker} (hw : w.StatsAgree) (op : Op) :
    (w.perform op).StatsAgree ↔ ∀ side, 2 ^ 32 ∣ w.unaccounted side op := by
  cases op with
  | announce env c => exact ⟨fun _ side => dvd_zero _, fun _ => hw.announce env c⟩
  | reap cutoff =>
    refine forall_congr' fun side => ?_
    rw [← ofNat_add_eq_iff]
    show (w.reap cutoff).stats.count side = _ ↔ UInt32.ofNat (_ + w.staleCount cutoff side) = _
    rw [stats_reap, hw side, ← count_reap]
    rfl
  | update env q =>
    obtain ⟨hstats, hcnt⟩ := w.count_handleUpdate env q
    refine forall_congr' fun side => ?_
    rw [← ofNat_add_eq_iff]
    show (w.handleUpdate env q).worker.stats.count side = _ ↔ UInt32.ofNat (_ + w.deletedCount env q side) = _
    rw [hstats, hw side, ← hcnt]
    rfl
  | loadSnapshot file =>
    refine forall_congr' fun side => ?_
    rw [← ofNat_add_eq_iff]
    show (w.loadSnapshot file).stats.count side = UInt32.ofNat ((w.loadSnapshot file).count side) ↔
      UInt32.ofNat (_ + w.restoredCount side file) = _
    rw [stats_loadSnapshot, hw side, count_loadSnapshot]
    exact eq_comm

def performAll (ops : List Op) : Worker := ops.foldl perform w

/-- **The agreement over runs**: from a worker whose counters agree, they agree after every
operation of a run, and no decrement of an announce can wrap them, exactly if no operation of the
run adds or removes peers without the counters. -/
theorem statsAgree_run_iff {w : Worker} (hw : w.StatsAgree) (ops : List Op) :
    (∀ before after, ops = before ++ after → (performAll w before).StatsAgree ∧
        ∀ env c side, (performAll w before).NoWrapOf env c (.stats side)) ↔ ∀ before op after, ops =
          before ++ op :: after →
        ∀ side, 2 ^ 32 ∣ (performAll w before).unaccounted side op := by
  have hlast : ∀ before op, performAll w (before ++ [op]) = (performAll w before).perform op :=
    fun before op => List.foldl_append
  constructor
  · intro hall before op after hsplit
    have hbef := (hall before (op :: after) hsplit).1
    have haft := (hall (before ++ [op]) after (by simpa using hsplit)).1
    rw [hlast] at haft
    exact (statsAgree_perform_iff hbef op).mp haft
  · intro hall
    suffices hagree : ∀ before after, ops = before ++ after → (performAll w before).StatsAgree from
      fun before after hsplit =>
        ⟨hagree before after hsplit, (hagree before after hsplit).noWrapOf⟩
    intro before
    induction before using List.reverseRecOn with
    | nil => exact fun _ _ => hw
    | append_singleton before op ih =>
      intro after hsplit
      have hsplit' : ops = before ++ op :: after := by simpa using hsplit
      rw [hlast]
      exact (statsAgree_perform_iff (ih (op :: after) hsplit') op).mpr (hall before op after hsplit')

namespace Sample

theorem worker_statsAgree : worker.StatsAgree := by
  intro side
  cases side <;> decide +kernel

def updateEnv : UpdateEnv where
  dbError _ := none
  order := [infoHash]
  commons _ := .ok []

def deleteTorrent : Query := [(lit "action", lit "delete_torrent"), (lit "info_hash", infoHash)]

def snapshot : PeerSnapshot :=
  (∅ : PeerSnapshot).insert infoHash
    [{ key := peerKeyPrime peerID user.id torrent.id
       peer :=
        { userID := user.id, ip := [1, 2, 3, 4], port := 6881, uploaded := 0, downloaded := 0
          left := 0, corrupt := 0, firstAnnounced := 1, lastAnnounced := 1, announces := 1
          visible := true, seeder := true, connectionTimes := [] } }]

end Sample

theorem statsAgree_run_iff_sample : Sample.worker.StatsAgree ∧
    ∀ before after, [Op.announce Sample.env (Sample.call .started 0 0), .reap 5] = before ++ after →
      (performAll Sample.worker before).StatsAgree ∧
        ∀ env c side, (performAll Sample.worker before).NoWrapOf env c (.stats side) := by
  refine ⟨Sample.worker_statsAgree, (statsAgree_run_iff Sample.worker_statsAgree _).mpr ?_⟩
  intro before _ after hsplit side
  match before, hsplit with
  | [], hsplit =>
    obtain ⟨rfl, -⟩ := List.cons.inj hsplit
    exact dvd_zero _
  | [_], hsplit =>
    obtain ⟨rfl, rfl, -⟩ : _ ∧ _ ∧ _ := by simpa using hsplit
    cases side <;> decide +kernel
  | _ :: _ :: _, hsplit => simp at hsplit

/-- **The three operations drift**: with one seeder the counters agree; once the reaper has evicted
it, or its torrent has been deleted, the counter still says one. -/
theorem three_operations_drift :
    let w := performAll Sample.worker [.announce Sample.env (Sample.call .started 0 0)]
    Sample.worker.StatsAgree ∧ w.StatsAgree ∧ ((w.perform (.reap 2000000000)).stats.seeders = 1 ∧
        (w.perform (.reap 2000000000)).count .seeder = 0) ∧
      ((w.perform (.update Sample.updateEnv Sample.deleteTorrent)).stats.seeders = 1 ∧
        (w.perform (.update Sample.updateEnv Sample.deleteTorrent)).count .seeder = 0) ∧
      ((Sample.worker.perform (.loadSnapshot (.decoded Sample.snapshot))).stats.seeders = 0 ∧
        (Sample.worker.perform (.loadSnapshot (.decoded Sample.snapshot))).count .seeder = 1) := by
  refine ⟨Sample.worker_statsAgree, Sample.worker_statsAgree.announce _ _, ?_, ?_, ?_⟩ <;>
    constructor <;> decide +kernel

end Ocelot.Tracker
