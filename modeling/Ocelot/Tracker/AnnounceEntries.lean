/-
# What one call leaves under its key, and who is listed twice.
-/
import Ocelot.Tracker.AnnounceCounters
import Ocelot.Lib.Run

namespace Ocelot.Tracker

open Tracker.Worker Finmap Locals Torrent Sample

variable {req : AnnounceRequest} {k : Bytes} {user : User} {t : Torrent} {v : Locals} {f : Found}

theorem Finds.stoppedTorrent (h : Finds req k user t v f) : f.locals.stoppedTorrent = v.stoppedTorrent := by
  cases h <;> rfl

theorem Finds.completedTorrent
    (h : Finds req k user t v f) (hc : f.locals.completedTorrent = true) : v.completedTorrent = true := by
  cases h with
  | alreadySeeder => cases hc
  | _ => exact hc

section

variable (env : Env) (c : Call) (user : User) (k : Bytes) (t : Torrent)

theorem lookupSection_stoppedTorrent :
    (lookupSection env c user k t).locals.stoppedTorrent = decide (c.req.event = .stopped) := by
  obtain ⟨a, b, d, e, h⟩ := lookupSection_locals env c user k t
  rw [h, ← stoppedTorrent_ofRequest]
  exact (findPeer_finds c.req k user t _).stoppedTorrent

theorem sections_lookup_of_not_moving (hm : (lookupSection env c user k t).locals.moving = false) (side : Side) :
    ((sectionsAfter c k (sectionsBefore env c user k t).2 (sectionsBefore env c user k t).1).1.list
      side).lookup k =
      if c.req.event = .stopped ∧ side = sideOf c.req.left then none
      else ((lookupSection env c user k t).torrent.list side).lookup k := by
  obtain ⟨hlist, hv⟩ := sectionsBefore_of_not_moving env c user k t hm
  unfold sectionsAfter
  rw [flushSection_list, hv, settle_stoppedTorrent, lookupSection_stoppedTorrent, deleteSection_eq]
  by_cases hstop : c.req.event = .stopped
  · by_cases hside : side = sideOf c.req.left
    · subst hside
      simp [hstop]
    · simp [hstop, hside, list_setList_of_ne, hlist]
  · simp [hstop, hlist]

theorem sections_lookup_of_moving (hm : (lookupSection env c user k t).locals.moving = true) :
    ((sectionsAfter c k (sectionsBefore env c user k t).2 (sectionsBefore env c user k t).1).1.list
      .seeder).lookup k =
        some (lookupSection env c user k t).peer ∧ ((sectionsAfter c k (sectionsBefore env c user k t).2
        (sectionsBefore env c user k t).1).1.list .leecher).lookup k = none := by
  obtain ⟨hseed, hleech, hv⟩ := sectionsBefore_of_moving env c user k t hm
  have hstop : (sectionsBefore env c user k t).2.stoppedTorrent = false := by
    rw [hv]
    exact (lookupSection_moving env c user k t hm).2.2.2.1
  unfold sectionsAfter
  rw [flushSection_list, flushSection_list, hstop, if_neg Bool.false_ne_true]
  exact ⟨hseed, hleech⟩

theorem completes_of_moving (hm : (lookupSection env c user k t).locals.moving = true) :
    c.req.event = .completed ∧ c.req.left = 0 := by
  rw [lookupSection_moving_eq, moving, Bool.and_eq_true] at hm
  exact completedTorrent_ofRequest.mp ((findPeer_finds c.req k user t _).completedTorrent hm.1)

theorem sections_lookup :
    let after := (sectionsAfter c k (sectionsBefore env c user k t).2 (sectionsBefore env c user k t).1).1
    (after.seeders.lookup k =
      if 0 < c.req.left then t.seeders.lookup k
      else if c.req.event = .stopped then none else some (lookupSection env c user k t).peer) ∧
        after.leechers.lookup k =
      if 0 < c.req.left then
        if c.req.event = .stopped then none else some (lookupSection env c user k t).peer
      else if k ∈ t.seeders ∧ ¬ (c.req.event = .completed ∧ c.req.left = 0) then
        t.leechers.lookup k
      else none := by
  intro after
  cases hm : (lookupSection env c user k t).locals.moving with
  | true =>
    obtain ⟨hevent, hleft⟩ := completes_of_moving env c user k t hm
    obtain ⟨hseed, hleech⟩ := sections_lookup_of_moving env c user k t hm
    exact ⟨hseed.trans (by simp [hevent, hleft]), hleech.trans (by simp [hevent, hleft])⟩
  | false =>
    have hseed : after.seeders.lookup k = _ := sections_lookup_of_not_moving env c user k t hm .seeder
    have hleech : after.leechers.lookup k = _ := sections_lookup_of_not_moving env c user k t hm .leecher
    rw [hseed, hleech]
    simp only [lookupSection_lookup, ← completedTorrent_ofRequest]
    rw [lookupSection_moving_eq] at hm
    generalize (lookupSection env c user k t).peer = peer
    have hfresh := (fresh_ofRequest c.req).inserted
    have hf := findPeer_finds c.req k user t (.ofRequest c.req)
    generalize findPeer c.req k user t (ofRequest c.req) = f at hf hm
    cases hf with
    | completing _ hc => simp [moving, hc, hfresh] at hm
    | leecher hleft | newLeecher hleft => simp [sideOf, hleft, list, setList]
    | alreadySeeder hleft hc hl => simp [sideOf, hleft, hc, hl, list]
    | newSeeder hleft hl =>
      simp [sideOf, hleft, hl, list, setList]
    | seeder hleft hc hs =>
      simp [sideOf, hleft, hc, list, mem_of_lookup_eq_some hs]
    | promoted hleft _ hs =>
      simp [sideOf, hleft, list, lookup_eq_none.mp hs]

end

def Worker.entry (w : Worker) (h : Bytes) (side : Side) (k : Bytes) : Option Peer :=
  (w.torrents.lookup h).bind fun t => (t.list side).lookup k

def Worker.Addresses (w : Worker) (env : Env) (c : Call) (h k : Bytes) : Prop :=
  ∃ user t, w.users.lookup c.passkey = some user ∧ w.admit env c = .ok t ∧ c.req.infoHash = h ∧
    c.peerKey user t = k

theorem Worker.entry_announceAdmitted (env : Env) (w : Worker) (c : Call) (user : User)
    (t : Torrent) (side : Side) (k : Bytes) :
    (w.announceAdmitted env c user t).worker.entry c.req.infoHash side k =
      ((finalTorrent env c user t).list side).lookup k := by
  unfold entry
  rw [(announceAdmitted_spec env w c user t).1, lookup_insert]
  rfl

variable {env : Env} {w : Worker} {c : Call} {h k : Bytes}

theorem Worker.entry_of_not_addresses (hc : ¬ w.Addresses env c h k) (side : Side) :
    (w.announce env c).worker.entry h side k = w.entry h side k := by
  rcases w.announce_cases env c with ⟨e, href⟩ | ⟨user, t, huser, hadm, hcall⟩
  · rw [href]
  · rw [hcall]
    by_cases hh : c.req.infoHash = h
    · have hk : k ≠ c.peerKey user t := fun hk => hc ⟨user, t, huser, hadm, hh, hk.symm⟩
      subst hh
      rw [entry_announceAdmitted, (finalTorrent_touched env c user t).lookup_of_ne hk side]
      unfold entry
      rw [(admit_ok hadm).2]
      rfl
    · unfold entry
      rw [(announceAdmitted_spec env w c user t).1, lookup_insert_of_ne _ (.symm hh)]

theorem Worker.Addresses.entries
    (hc : w.Addresses env c h k) : ∃ peer, (w.announce env c).worker.entry h .seeder k =
        (if 0 < c.req.left then w.entry h .seeder k
        else if c.req.event = .stopped then none else some peer) ∧ (w.announce env c).worker.entry h .leecher k =
        if 0 < c.req.left then if c.req.event = .stopped then none else some peer
        else if (w.entry h .seeder k).isSome ∧ ¬ (c.req.event = .completed ∧ c.req.left = 0) then
          w.entry h .leecher k
        else none := by
  obtain ⟨user, t, huser, hadm, rfl, rfl⟩ := hc
  have hcall : w.announce env c = w.announceAdmitted env c user t := by
    unfold announce
    rw [huser]
    rw [hadm]
  have hentry : ∀ side k, w.entry c.req.infoHash side k = (t.list side).lookup k := by
    intro side k
    unfold entry
    rw [(admit_ok hadm).2]
    rfl
  simp only [hcall, entry_announceAdmitted, hentry]
  refine ⟨_, (sections_lookup env c user _ t).1, ?_⟩
  simp only [lookup_isSome]
  exact (sections_lookup env c user _ t).2

def Worker.ListedTwice (w : Worker) (h k : Bytes) : Prop :=
  ∃ t, w.torrents.lookup h = some t ∧ k ∈ t.seeders ∧ k ∈ t.leechers

theorem Worker.listedTwice_iff_entry :
    w.ListedTwice h k ↔ (w.entry h .seeder k).isSome = true ∧ (w.entry h .leecher k).isSome = true := by
  unfold ListedTwice entry
  cases w.torrents.lookup h with
  | none => simp
  | some => simp [lookup_isSome, list]

def Worker.Reopens (w : Worker) (env : Env) (c : Call) (h k : Bytes) : Prop :=
  w.Addresses env c h k ∧ 0 < c.req.left ∧ c.req.event ≠ .stopped

def Worker.Closes (w : Worker) (env : Env) (c : Call) (h k : Bytes) : Prop :=
  w.Addresses env c h k ∧ (c.req.event = .stopped ∨ c.req.event = .completed ∧ c.req.left = 0)

theorem Worker.listedTwice_announce : (w.announce env c).worker.ListedTwice h k ↔
      (w.Reopens env c h k ∧ (w.entry h .seeder k).isSome = true) ∨
          (w.ListedTwice h k ∧ ¬ w.Closes env c h k) := by
  simp only [listedTwice_iff_entry, Reopens, Closes]
  by_cases hc : w.Addresses env c h k
  · obtain ⟨_, hseed, hleech⟩ := hc.entries
    rw [hseed, hleech]
    simp only [hc, true_and]
    -- with missing data the leecher entry is new, otherwise it can only have survived
    by_cases hleft : 0 < c.req.left
    · have hzero : c.req.left ≠ 0 := fun h => by simp [h] at hleft
      by_cases hstop : c.req.event = .stopped
      · simp [hleft, hstop]
      · simp only [hleft, hstop, hzero, if_true, if_false, Option.isSome_some, and_true, and_false,
          or_self, not_false_eq_true, ne_eq, true_and]
        exact ⟨fun hs => .inl hs, fun hs => hs.elim id And.left⟩
    · by_cases hstop : c.req.event = .stopped
      · simp [hleft, hstop]
      · by_cases hdone : c.req.event = .completed ∧ c.req.left = 0
        · simp [hdone]
        · by_cases hs : (w.entry h .seeder k).isSome = true <;> simp [hleft, hstop, hdone, hs]
  · simp [hc, entry_of_not_addresses hc]

/-- **Who is listed twice**: after any sequence of announces from an empty worker, a key is a seeder
and a leecher of one torrent exactly if some announce reported missing data under it while it was a
seeder, and since then no announce under it was a stop or a completion. -/
theorem listedTwice_iff {w : Worker} (hw : w.Empty) (calls : List (Env × Call)) (h k : Bytes) :
    (announceAll w calls).ListedTwice h k ↔ ∃ before a after, calls = before ++ a :: after ∧
        (announceAll w before).Reopens a.1 a.2 h k ∧ ((announceAll w before).entry h .seeder k).isSome = true ∧
        ∀ mid b rest, after = mid ++ b :: rest → ¬ (announceAll w (before ++ a :: mid)).Closes b.1 b.2 h k := by
  have hnone : ¬ w.ListedTwice h k := by
    rintro ⟨t, ht, hseed, -⟩
    have hempty : t.seeders = ∅ := hw.lists h t ht .seeder
    rw [hempty] at hseed
    exact absurd hseed notMem_empty
  have hlatch := Run.latch_iff (fun (w : Worker) (c : Env × Call) => (w.announce c.1 c.2).worker)
    (fun w => w.ListedTwice h k) (fun _ _ => listedTwice_announce) hnone calls
  simpa only [announceAll, and_assoc] using hlatch

/-- A seeder that reports five missing bytes. -/
theorem seeder_listedTwice :
    let w := announceAll Sample.worker
      [(Sample.env, Sample.call .started 0 0), (Sample.env, Sample.call .other 5 0)]
    let k := (Sample.call .other 5 0).peerKey Sample.user Sample.torrent
    ∃ t, w.torrents.lookup Sample.infoHash = some t ∧ k ∈ t.seeders ∧ k ∈ t.leechers :=
  ⟨_, rfl, by decide +kernel, by decide +kernel⟩

theorem listedTwice_iff_sample :
    let calls := [(Sample.env, Sample.call .started 0 0), (Sample.env, Sample.call .other 5 0),
      (Sample.env, Sample.call .other 0 0)]
    (announceAll Sample.worker calls).ListedTwice Sample.infoHash
      ((Sample.call .other 5 0).peerKey Sample.user Sample.torrent) := by
  refine (listedTwice_iff worker_empty _ _ _).mpr ⟨[(env, call .started 0 0)], (env, call .other 5 0),
      [(env, call .other 0 0)], rfl, ⟨⟨_, _, rfl, rfl, rfl, rfl⟩, by decide, by decide⟩,
      by decide +kernel, ?_⟩
  intro mid b rest hsplit
  obtain ⟨-, rfl, -⟩ : mid = [] ∧ b = (env, call .other 0 0) ∧ rest = [] := by
    cases mid with
    | nil => exact ⟨rfl, by simp_all⟩
    | cons => simp at hsplit
  rintro ⟨-, hstop | ⟨hdone, -⟩⟩
  · cases hstop
  · cases hdone

end Ocelot.Tracker
