/-
# Does `Reload` disturb live torrents?
-/
import Ocelot.Tracker.AnnounceMetadata
import Ocelot.Tracker.Deployment

namespace Ocelot.Tracker

open Option Finmap Tracker.Worker UniqueTable Tables Run Sample

/-- **`Reload` leaves the live torrents alone**, whatever becomes of its queries. -/
def Deployment.ReloadKeeps (s : Deployment) : Prop :=
  ∀ (load : LoadEnv) (infoHash : Bytes) (t : Torrent), s.worker.torrents.lookup infoHash = some t →
    ∃ t', (s.worker.reload load s.db).worker.torrents.lookup infoHash = some t' ∧
      t'.completed = t.completed ∧ t'.balance = t.balance ∧ t'.freeType = t.freeType

def DeploymentLabel.OnTorrents : DeploymentLabel → Prop
  | .update _ q => q.action = .addTorrent ∨ q.action = .updateTorrent ∨ q.action = .changeFreeleech
  | .announce _ c => ∀ call, c.dbExec call = true
  | _ => False

/-- **The condition**: a torrent is added with free type 0 under an id without a row, and no action
changes the free type of a torrent. -/
def Deployment.KeepsColumns (s : Deployment) : DeploymentLabel → Prop
  | .update _ q =>
    match q.action with
    | .addTorrent =>
      ∀ id ∈ positiveID (q.get "id"), UInt32.ofInt id ∉ s.db.torrents ∧ (addedTorrent q id).freeType = 0
    | .updateTorrent =>
      ∀ t ∈ s.worker.torrents.lookup (q.get "info_hash"), updatedFreeType q t = t.freeType
    | .changeFreeleech =>
      ∀ t ∈ s.worker.torrents.lookup (q.get "info_hash"),
        ∀ n ∈ namedFreeType (q.get "free_type"), UInt8.ofInt n = t.freeType
    | _ => True
  | _ => True

instance (s : Deployment) (l : DeploymentLabel) : Decidable (s.KeepsColumns l) := by
  unfold Deployment.KeepsColumns
  split
  · split <;> infer_instance
  · infer_instance

structure TorrentRow.Shows (row : TorrentRow) (t : Torrent) : Prop where
  completed : UInt32.ofNat row.snatched = t.completed
  balance : row.balance = t.balance
  freeType : row.freeType = t.freeType

/-- **The invariant**: every live torrent has its hash and its row in the database. -/
def Deployment.Synced (s : Deployment) : Prop := ∀ infoHash t, s.worker.torrents.lookup infoHash = some t →
    s.db.torrentHashes.index.lookup infoHash = some (t.id, ()) ∧ ∃ row, s.db.torrents.lookup t.id =
      some row ∧ row.Shows t

namespace Deployment

variable {s : Deployment}

theorem Synced.reloadKeeps (h : s.Synced) : s.ReloadKeeps := by
  intro load infoHash t ht
  obtain ⟨hhash, row, hrow, hshows⟩ := h infoHash t ht
  have hrel : (s.worker.reloadTorrents s.db).torrents.lookup infoHash = some (t.refresh row) := by
    rw [lookup_reloadTorrents ht, lookup_joined.2 ⟨hhash, hrow⟩]
    rfl
  rcases reload_cases load s.worker s.db with hcase | hcase | hcase <;> rw [hcase]
  · exact ⟨t, ht, rfl, rfl, rfl⟩
  · exact ⟨_, hrel, hshows.completed, hshows.balance, hshows.freeType⟩
  · rw [lookup_loadTokens, hrel]
    exact ⟨_, rfl, hshows.completed, hshows.balance, hshows.freeType⟩

theorem synced_booted {admission : Option SwarmAdmissionPolicy} {load : LoadEnv} {db : Tables}
    (h : (({ admission } : Worker).loadAll load db).result = .ok ()) : (booted admission load db).Synced := by
  intro infoHash t ht
  change (({ admission } : Worker).loadAll load db).worker.torrents.lookup infoHash = some t at ht
  rw [lookup_loadAll h] at ht
  obtain ⟨⟨_, row⟩, hjoin, rfl⟩ := map_eq_some_iff.1 ht
  obtain ⟨hhash, hrow⟩ := lookup_joined.1 hjoin
  exact ⟨hhash, row, hrow, ⟨rfl, rfl, rfl⟩⟩

theorem Synced.infoHash_eq (h : s.Synced) {infoHash infoHash' : Bytes} {t t' : Torrent}
    (ht : s.worker.torrents.lookup infoHash = some t)
    (ht' : s.worker.torrents.lookup infoHash' = some t') (hid : t'.id = t.id) : infoHash' = infoHash := by
  have hrow := lookup_index.1 (h infoHash t ht).1
  have hrow' := lookup_index.1 (h infoHash' t' ht').1
  rw [hid, hrow] at hrow'
  cases hrow'
  rfl

variable {env : UpdateEnv} {q : Query} {message : Bytes}

theorem insert_freeType {infoHash : Bytes} {t : Torrent} {freeType : FreeType}
    (ht : s.worker.torrents.lookup infoHash = some t) (hsame : freeType = t.freeType) :
    s.worker.torrents.insert infoHash { t with freeType } = s.worker.torrents := by
  subst hsame
  exact insert_of_lookup_eq ht

theorem Synced.addTorrent (h : s.Synced) (hok : (s.worker.addTorrent env q).result = .ok message)
    (hkeeps : ∀ id ∈ positiveID (q.get "id"), UInt32.ofInt id ∉ s.db.torrents ∧ (addedTorrent q id).freeType = 0) :
    (s.after (s.worker.addTorrent env q).worker (s.worker.addTorrent env q).db).Synced := by
  obtain ⟨id, hid, -, _, heq⟩ := addTorrent_ok hok
  obtain ⟨hfresh, hfree⟩ := hkeeps id hid
  rw [heq]
  intro infoHash t ht
  change (s.worker.torrents.insert _ _).lookup infoHash = some t at ht
  show (s.db.torrentHashes.replace (UInt32.ofInt id) (q.get "info_hash") ()).index.lookup infoHash = _ ∧
    ∃ row, (s.db.torrents.insert (UInt32.ofInt id) _).lookup t.id = some row ∧ _
  rw [lookup_index_replace]
  rcases lookup_insert_cases ht with ⟨hhash, rfl⟩ | ⟨hhash, ht⟩
  · -- the new torrent, with the row that has just been written
    rw [if_pos hhash]
    refine ⟨rfl, _, lookup_insert _, ?_⟩
    rw [lookup_eq_none.2 hfresh]
    exact ⟨rfl, rfl, hfree.symm⟩
  · -- another torrent has another id, since its own has a row
    obtain ⟨hidx, row, hrow, hshows⟩ := h infoHash t ht
    have hne : t.id ≠ UInt32.ofInt id := by
      intro hsame
      rw [hsame] at hrow
      exact hfresh (mem_of_lookup_eq_some hrow)
    rw [if_neg hhash, hidx, lookup_insert_of_ne _ hne]
    exact ⟨filter_some_eq_some.2 (by simpa using hne), row, hrow, hshows⟩

theorem Synced.announce {env : Env} {c : Call} (h : s.Synced)
    (hexec : ∀ call, c.dbExec call = true) : (s.announce env c).Synced := by
  unfold Deployment.announce
  rcases s.worker.announce_cases env c with ⟨e, heq⟩ | ⟨user, t, -, hadm, heq⟩
  · rw [heq]
    exact h
  · rw [heq]
    obtain ⟨-, ht⟩ := admit_ok hadm
    obtain ⟨hhash, row, hrow, hshows⟩ := h _ t ht
    obtain ⟨_, _, htors⟩ := torrents_announceAdmitted s.db s.worker env user hexec hrow hshows.balance
    intro infoHash' t' ht'
    change (s.worker.torrents.insert c.req.infoHash (finalTorrent env c user t)).lookup infoHash' = _ at ht'
    show (s.db.executeAll _).torrentHashes.index.lookup infoHash' = _ ∧
      ∃ row, (s.db.executeAll _).torrents.lookup t'.id = some row ∧ _
    rw [(s.db.executeAll_frame _).1, htors]
    rcases lookup_insert_cases ht' with ⟨hsame, rfl⟩ | ⟨hsame, ht'⟩
    · rw [(finalTorrent_touched env c user t).id, hsame]
      obtain ⟨hcomp, hfreeType⟩ := finalTorrent_columns env c user t
      refine ⟨hhash, _, lookup_insert _, ⟨?_, rfl, hshows.freeType.trans hfreeType.symm⟩⟩
      rw [hcomp, ← hshows.completed, ← UInt32.ofNat_add]
    · have hne : t'.id ≠ t.id := fun hid => hsame (h.infoHash_eq ht ht' hid)
      rw [lookup_insert_of_ne _ hne]
      exact h infoHash' t' ht'

theorem Synced.step {t : Deployment} {l : DeploymentLabel} (h : s.Synced) (hl : l.OnTorrents)
    (hkeeps : s.KeepsColumns l) (hstep : s.step l = some t) : t.Synced := by
  cases l with
  | reload | restart => exact absurd hl id
  | announce =>
    cases hstep
    exact h.announce hl
  | update =>
    obtain ⟨_, hok, rfl⟩ := update_eq_some hstep
    unfold handleUpdate at hok ⊢
    unfold KeepsColumns at hkeeps
    dsimp only at hkeeps
    rcases hl with hact | hact | hact <;> rw [hact] at hok hkeeps ⊢
    · exact h.addTorrent hok hkeeps
    · obtain ⟨t, ht, heq⟩ := updateTorrent_ok hok
      rw [heq, insert_freeType ht (hkeeps t ht)]
      exact h
    · obtain ⟨t, n, ht, hn, heq⟩ := changeFreeleech_ok hok
      rw [heq, insert_freeType ht (hkeeps t ht n hn)]
      exact h

/-- **`Reload` does not disturb live torrents** after a run from a successful start in which no
torrent is given a free type that its row does not have and none is added under an id that has a
row. -/
theorem reload_keeps_torrents {admission : Option SwarmAdmissionPolicy} {load : LoadEnv}
    {db : Tables} (hload : (({ admission } : Worker).loadAll load db).result = .ok ())
    {ls : List DeploymentLabel} {t : Deployment}
    (hls : ∀ l ∈ ls, l.OnTorrents) (hkeeps : Meets step KeepsColumns (booted admission load db) ls)
    (hrun : exec step (booted admission load db) ls = some t) : t.ReloadKeeps := by
  have hmeets : Meets step (fun s l => l.OnTorrents ∧ s.KeepsColumns l) (booted admission load db) ls :=
    (meets_of_forall hls _).and hkeeps
  apply Synced.reloadKeeps
  refine exec_invariant_of_meets ?_ (synced_booted hload) hmeets hrun
  rintro u l v hu ⟨hl, hcolumns⟩ hstep
  exact hu.step hl hcolumns hstep

end Deployment

namespace Sample

def tables : Tables := (Deployment.initial none).db.executeAdminAll
    [.recordTorrent 1, .recordTorrentHash 1 infoHash, .recordUserPasskey 7 passkey true false]

end Sample

namespace Deployment

theorem reload_keeps_torrents_sample : ∃ t, exec step (booted none {} tables)
        [.announce env (call .started 5 0), .announce env (call .completed 0 9)] = some t ∧
      t.ReloadKeeps := by
  refine ends_run rfl fun t ht => reload_keeps_torrents (by decide +kernel) ?_ (by decide +kernel) ht
  intro l hl
  simp only [List.mem_cons, List.not_mem_nil, or_false] at hl
  rcases hl with rfl | rfl <;> exact fun _ => rfl

/-- **A free type is undone**: set to 1 by `change_freeleech`, it is 0 again after `Reload`. -/
theorem reload_resets_freeType : ∃ t, exec step (booted none {} tables)
        [.update healthy [(lit "action", lit "change_freeleech"), (lit "info_hash", infoHash),
            (lit "free_type", lit "1")]] = some t ∧ ¬ t.ReloadKeeps := by
  refine ends_of (P := fun t =>
    (∃ torrent, t.worker.torrents.lookup infoHash = some torrent ∧ torrent.freeType = 1) ∧
      ((t.worker.reload {} t.db).worker.torrents.lookup infoHash).map Torrent.freeType = some 0)
        (by decide +kernel) ?_
  rintro t - ⟨⟨torrent, htor, hone⟩, hrel⟩ hkeeps
  obtain ⟨_, htor', -, -, hsame⟩ := hkeeps {} infoHash torrent htor
  rw [htor', map_some, hsame, hone] at hrel
  exact absurd hrel (by decide)

end Deployment

end Ocelot.Tracker
