/-
# The counters agree with the swarms over every run of announces.
-/
import Ocelot.Tracker.AnnounceSections
import Mathlib.Tactic.Ring

namespace Ocelot.Tracker

open Option Finmap Tracker.Worker Locals Sample CounterOp

/-! ## Counters and swarms -/

variable (w : Worker) (side : Side)

def Worker.count : ℕ := w.torrents.total fun _ t => (t.list side).size

def Worker.countOf (id : UserID) : ℕ :=
  w.torrents.total fun _ t => (t.list side).total fun _ p => if p.userID = id then 1 else 0

def Worker.weigh (g : UserID → ℕ) : ℕ := w.torrents.total fun _ t => (t.list side).weigh g

theorem Worker.count_eq_weigh : w.count side = w.weigh side fun _ => 1 := by
  simp [count, weigh, PeerList.weigh, size_eq_total]

theorem Worker.countOf_eq_weigh (id : UserID) :
    w.countOf side id = w.weigh side fun i => if i = id then 1 else 0 := rfl

def Worker.entries (user : User) : Counter → ℕ
  | .stats side => w.count side
  | .user side => w.countOf side user.id

def Worker.value (passkey : Bytes) : Counter → UInt32
  | .stats side => w.stats.count side
  | .user side => ((w.users.lookup passkey).map fun u => u.count side).getD 0

def CounterOp.delta (op : CounterOp) : ℤ := if op.inc then 1 else -1

def netOf (ops : List CounterOp) (ctr : Counter) : ℤ :=
  (ops.map fun op => if op.counter = ctr then op.delta else 0).sum

@[simp] theorem netOf_nil (ctr : Counter) : netOf [] ctr = 0 := rfl

variable (n : ℕ) (v : Locals) (op : CounterOp) (ops ops' : List CounterOp) (users : UserList)
  (s : Stats) (u : User)
  (side side' : Side) (x : UInt32)

theorem netOf_cons (ctr : Counter) :
    netOf (op :: ops) ctr = (if op.counter = ctr then op.delta else 0) + netOf ops ctr := rfl

theorem netOf_append (ctr : Counter) : netOf (ops ++ ops') ctr = netOf ops ctr + netOf ops' ctr := by
  simp [netOf]

theorem CounterOp.addend_eq : op.addend = UInt32.ofInt op.delta := by
  unfold addend delta
  split <;> rfl

@[simp] theorem ofInt_zero : UInt32.ofInt 0 = 0 := rfl

theorem ofInt_natCast : UInt32.ofInt (n : ℤ) = UInt32.ofNat n := by
  unfold UInt32.ofInt
  apply UInt32.toNat_inj.mp
  simp only [UInt32.toNat_ofNat']
  omega

theorem netOf_bump (flag inc : Bool) (side side' : Side) : netOf (bump flag side inc) (.stats side') =
        (if flag = true ∧ side = side' then delta ⟨.stats side, inc⟩ else 0) ∧
      netOf (bump flag side inc) (.user side') =
        (if flag = true ∧ side = side' then delta ⟨.user side, inc⟩ else 0) := by
  cases flag <;> by_cases h : side = side' <;> simp [bump, netOf_cons, h, delta]

theorem Locals.netOf_counterOps :
    netOf v.counterOps (.stats side) = v.net side ∧ netOf v.counterOps (.user side) = v.net side := by
  unfold counterOps
  simp only [netOf_append, netOf_bump]
  cases side <;> simp [net, delta] <;> split <;> split <;> rfl

theorem UserList.lookup_modify (pk pk' : Bytes) (f : User → User) : (UserList.modify users pk f).lookup pk' =
      if pk' = pk then (users.lookup pk').map f else users.lookup pk' := by
  unfold UserList.modify
  split
  · rename_i u hu
    split
    · rename_i h
      rw [h, lookup_insert, hu]
      rfl
    · rename_i h
      exact lookup_insert_of_ne _ h
  · rename_i hu
    split
    · rename_i h
      rw [h, hu]
      rfl
    · rfl

@[simp] theorem User.add_id : (u.add side x).id = u.id := by
  cases side <;> rfl

theorem User.count_add :
    (u.add side x).count side' = if side = side' then u.count side' + x else u.count side' := by
  cases side <;> cases side' <;> rfl

theorem Stats.count_add :
    (s.add side x).count side' = if side = side' then s.count side' + x else s.count side' := by
  cases side <;> cases side' <;> rfl

variable (w : Worker) (pk : Bytes)

theorem Worker.stats_applyCounter (op : CounterOp) (side : Side) :
    (w.applyCounter pk op).stats.count side =
      w.stats.count side + UInt32.ofInt (if op.counter = .stats side then op.delta else 0) := by
  unfold applyCounter
  split
  · rename_i side' h
    simp [h]
  · rename_i side' h
    rw [Stats.count_add, addend_eq]
    by_cases hs : side' = side <;> simp [h, hs]

theorem Worker.users_applyCounter (op : CounterOp) (pk' : Bytes) :
    ∃ f : User → User, (w.applyCounter pk op).users.lookup pk' = (w.users.lookup pk').map f ∧
      (∀ u, (f u).id = u.id) ∧
      ∀ u side, (f u).count side = u.count side +
        UInt32.ofInt (if pk' = pk ∧ op.counter = .user side then op.delta else 0) := by
  unfold applyCounter
  split
  · rename_i side' h
    rw [UserList.lookup_modify]
    by_cases hpk : pk' = pk
    · rw [if_pos hpk]
      refine ⟨_, rfl, fun u => User.add_id u _ _, fun u side => ?_⟩
      rw [User.count_add, addend_eq]
      by_cases hs : side' = side <;> simp [h, hs, hpk]
    · rw [if_neg hpk]
      exact ⟨id, by simp, fun _ => rfl, fun u side => by simp [hpk]⟩
  · rename_i side' h
    exact ⟨id, by simp, fun _ => rfl, fun u side => by simp [h]⟩

theorem Worker.torrents_applyCounter (op : CounterOp) :
    (w.applyCounter pk op).torrents = w.torrents := by
  unfold applyCounter
  split <;> rfl

theorem Worker.applyCounters_spec (ops : List CounterOp) :
    (w.applyCounters pk ops).torrents = w.torrents ∧ (∀ side, (w.applyCounters pk ops).stats.count side =
        w.stats.count side + UInt32.ofInt (netOf ops (.stats side))) ∧ ∀ pk', ∃ f : User → User,
        (w.applyCounters pk ops).users.lookup pk' = (w.users.lookup pk').map f ∧
        (∀ u, (f u).id = u.id) ∧ ∀ u side, (f u).count side = u.count side + UInt32.ofInt
            (if pk' = pk then netOf ops (.user side) else 0) := by
  induction ops generalizing w with
  | nil => exact ⟨rfl, fun side => by simp [applyCounters],
      fun pk' => ⟨id, by simp [applyCounters], fun _ => rfl, fun u side => by simp⟩⟩
  | cons op _ ih =>
    obtain ⟨htors, hstats, husers⟩ := ih (w.applyCounter pk op)
    refine ⟨htors.trans (w.torrents_applyCounter pk op), ?_, ?_⟩
    · intro side
      refine (hstats side).trans ?_
      rw [stats_applyCounter, netOf_cons, UInt32.ofInt_add, UInt32.add_assoc]
    · intro pk'
      obtain ⟨f, hf, hfid, hfc⟩ := w.users_applyCounter pk op pk'
      obtain ⟨g, hg, hgid, hgc⟩ := husers pk'
      refine ⟨fun u => g (f u), ?_, fun u => (hgid _).trans (hfid u), fun u side => ?_⟩
      · refine hg.trans ?_
        rw [hf, map_map]
        rfl
      · rw [hgc, hfc, netOf_cons, UInt32.add_assoc, ← UInt32.ofInt_add]
        by_cases hpk : pk' = pk <;> simp [hpk]

variable {env : Env} {w : Worker} {c : Call} {t : Torrent} {user : User} {ctr : Counter}

theorem Worker.admit_ok (h : w.admit env c = .ok t) :
    c.req.peerID.length = 20 ∧ w.torrents.lookup c.req.infoHash = some t := by
  unfold Worker.admit at h
  by_cases hlen : c.req.peerID.length = 20
  · refine ⟨hlen, ?_⟩
    -- every guard before the lookup refuses, so the torrent is the one looked up
    repeat' split at h
    all_goals cases h
    assumption
  · rw [if_pos hlen] at h
    repeat' split at h
    all_goals cases h

theorem Worker.announce_cases (env : Env) (w : Worker) (c : Call) :
    (∃ e, w.announce env c = { worker := w, result := .error e }) ∨
      ∃ user t, w.users.lookup c.passkey = some user ∧ w.admit env c = .ok t ∧
        w.announce env c = w.announceAdmitted env c user t := by
  unfold announce
  split
  · exact .inl ⟨_, rfl⟩
  · rename_i user huser
    split
    · exact .inl ⟨_, rfl⟩
    · rename_i t ht
      exact .inr ⟨user, t, huser, ht, rfl⟩

/-! ## One announce -/

def finalLocals (env : Env) (c : Call) (user : User) (t : Torrent) : Locals :=
  (sectionsBefore env c user (c.peerKey user t) t).2

def finalTorrent (env : Env) (c : Call) (user : User) (t : Torrent) : Torrent :=
  (sectionsAfter c (c.peerKey user t) (finalLocals env c user t)
    (sectionsBefore env c user (c.peerKey user t) t).1).1

theorem finalTorrent_touched (env : Env) (c : Call) (user : User) (t : Torrent) :
    Torrent.Touched (c.peerKey user t) user.id t (finalTorrent env c user t) :=
  (sectionsBefore_touched env c user _ t).trans (sectionsAfter_touched c _ _ _ user.id)

theorem finalTorrent_has (env : Env) (c : Call) (user : User) (t : Torrent) (side : Side) :
    PeerList.has ((finalTorrent env c user t).list side) (c.peerKey user t) =
      PeerList.has (t.list side) (c.peerKey user t) + (finalLocals env c user t).net side :=
  sections_has env c user _ t side

theorem Worker.announceAdmitted_spec (env : Env) (w : Worker) (c : Call) (user : User)
    (t : Torrent) : let w' := (w.announceAdmitted env c user t).worker
    w'.torrents = w.torrents.insert c.req.infoHash (finalTorrent env c user t) ∧ (∀ side, w'.stats.count side =
        w.stats.count side + UInt32.ofInt ((finalLocals env c user t).net side)) ∧
      ∀ pk, ∃ f : User → User, w'.users.lookup pk = (w.users.lookup pk).map f ∧
        (∀ u, (f u).id = u.id) ∧ ∀ u side, (f u).count side = u.count side +
          UInt32.ofInt (if pk = c.passkey then (finalLocals env c user t).net side else 0) := by
  obtain ⟨-, hstats, husers⟩ := applyCounters_spec
    { w with stats := { w.stats with succAnnouncements := w.stats.succAnnouncements + 1 } }
    c.passkey (finalLocals env c user t).counterOps
  refine ⟨rfl, ?_, ?_⟩
  · intro side
    refine (hstats side).trans ?_
    rw [(netOf_counterOps _ side).1]
    cases side <;> rfl
  · intro pk
    obtain ⟨f, hf, hid, hcnt⟩ := husers pk
    refine ⟨f, hf, hid, fun u side => ?_⟩
    rw [hcnt, (netOf_counterOps _ side).2]

def Worker.KeysOwned (w : Worker) : Prop :=
  ∀ h t, w.torrents.lookup h = some t → ∀ side k p, (t.list side).lookup k = some p →
    ∃ pid : Bytes, pid.length = 20 ∧ k = peerKeyPrime pid p.userID t.id

def Worker.DistinctIds (w : Worker) : Prop :=
  ∀ pk pk' u u', w.users.lookup pk = some u → w.users.lookup pk' = some u' → u.id = u'.id → pk = pk'

def Worker.StatsAgree (w : Worker) : Prop := ∀ side, w.stats.count side = UInt32.ofNat (w.count side)

/-- **The agreement**: each counter is the exact count it stands for, in `uint32`. -/
structure Worker.CountersAgree (w : Worker) : Prop where
  stats : w.StatsAgree
  users : ∀ pk u, w.users.lookup pk = some u → ∀ side, u.count side = UInt32.ofNat (w.countOf side u.id)

theorem Worker.KeysOwned.owned (hw : w.KeysOwned) (hlen : c.req.peerID.length = 20)
    (ht : w.torrents.lookup c.req.infoHash = some t) :
    ∀ side p, (t.list side).lookup (c.peerKey user t) = some p → p.userID = user.id := by
  intro side p hp
  obtain ⟨_, hpid, hkey⟩ := hw _ t ht side _ p hp
  exact (peerKeyPrime_userID_inj hlen hpid hkey).symm

theorem Worker.weigh_insert {w' : Worker} {h : Bytes} {t' : Torrent} (ht : w.torrents.lookup h = some t)
    (hw' : w'.torrents = w.torrents.insert h t') (side : Side) (g : UserID → ℕ) :
    (w'.weigh side g : ℤ) = w.weigh side g + ((t'.list side).weigh g - (t.list side).weigh g) := by
  unfold weigh
  rw [hw', total_insert, total_eq_add_erase (fun _ t => (Torrent.list t side).weigh g) ht]
  push_cast
  ring

theorem Worker.weigh_announceAdmitted (env : Env) (user : User) (hw : w.KeysOwned)
    (hlen : c.req.peerID.length = 20)
    (ht : w.torrents.lookup c.req.infoHash = some t) (side : Side) (g : UserID → ℕ) :
    ((w.announceAdmitted env c user t).worker.weigh side g : ℤ) =
      w.weigh side g + (finalLocals env c user t).net side * g user.id := by
  have htouch := (finalTorrent_touched env c user t).weigh (hw.owned hlen ht) side g
  have hhas := finalTorrent_has env c user t side
  rw [weigh_insert ht (announceAdmitted_spec env w c user t).1 side g, htouch, hhas]
  ring

theorem Worker.count_announceAdmitted (ht : w.torrents.lookup c.req.infoHash = some t)
    (side : Side) : ((w.announceAdmitted env c user t).worker.count side : ℤ) = w.count side +
      (finalLocals env c user t).net side := by
  have hhas := finalTorrent_has env c user t side
  rw [count_eq_weigh, count_eq_weigh, weigh_insert ht (announceAdmitted_spec env w c user t).1 side,
    (finalTorrent_touched env c user t).weigh_eq (fun _ _ => rfl) (fun _ _ => rfl), hhas]
  ring

structure Worker.Consistent (w : Worker) : Prop where
  keysOwned : w.KeysOwned
  distinctIds : w.DistinctIds
  agree : w.CountersAgree

theorem Worker.KeysOwned.announceAdmitted (hw : w.KeysOwned) (hlen : c.req.peerID.length = 20)
    (ht : w.torrents.lookup c.req.infoHash = some t) : (w.announceAdmitted env c user t).worker.KeysOwned := by
  have htouch := finalTorrent_touched env c user t
  intro h t' ht' side k p hp
  rw [(announceAdmitted_spec env w c user t).1] at ht'
  rcases lookup_insert_cases ht' with ⟨rfl, rfl⟩ | ⟨-, ht'⟩
  · rw [htouch.id]
    -- under the key of the call the entry is the caller's, elsewhere it is the old one
    by_cases hk : k = c.peerKey user t
    · subst hk
      rw [htouch.owned (hw.owned hlen ht) side p hp]
      exact ⟨c.req.peerID, hlen, rfl⟩
    · rw [htouch.lookup_of_ne hk side] at hp
      exact hw _ t ht side k p hp
  · exact hw h t' ht' side k p hp

theorem Worker.DistinctIds.announceAdmitted (hw : w.DistinctIds) :
    (w.announceAdmitted env c user t).worker.DistinctIds := by
  intro pk pk' u _ hu hu' hid
  obtain ⟨f, hf, hfid, -⟩ := (announceAdmitted_spec env w c user t).2.2 pk
  obtain ⟨g, hg, hgid, -⟩ := (announceAdmitted_spec env w c user t).2.2 pk'
  rw [hf] at hu
  rw [hg] at hu'
  obtain ⟨u0, hu0, rfl⟩ := map_eq_some_iff.1 hu
  obtain ⟨u1, hu1, rfl⟩ := map_eq_some_iff.1 hu'
  rw [hfid, hgid] at hid
  exact hw pk pk' u0 u1 hu0 hu1 hid

theorem ofNat_add_ofInt {n m : ℕ} {d : ℤ} (h : (m : ℤ) = n + d) :
    UInt32.ofNat n + UInt32.ofInt d = UInt32.ofNat m := by
  rw [← ofInt_natCast, ← ofInt_natCast, ← UInt32.ofInt_add, h]

theorem Worker.CountersAgree.announceAdmitted (hw : w.Consistent) (huser : w.users.lookup c.passkey = some user)
    (hlen : c.req.peerID.length = 20) (ht : w.torrents.lookup c.req.infoHash = some t) :
    (w.announceAdmitted env c user t).worker.CountersAgree := by
  obtain ⟨-, hstats, husers⟩ := announceAdmitted_spec env w c user t
  have hledg := weigh_announceAdmitted env user hw.keysOwned hlen ht
  constructor
  · intro side
    rw [hstats, hw.agree.stats]
    exact ofNat_add_ofInt (count_announceAdmitted ht side)
  · intro pk _ hu' side
    obtain ⟨f, hf, hfid, hfc⟩ := husers pk
    rw [hf] at hu'
    obtain ⟨u, hu, rfl⟩ := map_eq_some_iff.1 hu'
    rw [hfc, hfid, hw.agree.users pk u hu]
    apply ofNat_add_ofInt
    rw [countOf_eq_weigh, countOf_eq_weigh, hledg]
    -- the caller's own counters move with the caller's entries, no one else's do
    by_cases hpk : pk = c.passkey
    · obtain rfl : u = user := mem_unique hu (hpk ▸ huser)
      simp [hpk]
    · have hid : user.id ≠ u.id := fun h => hpk (hw.distinctIds _ _ _ _ hu huser h.symm)
      simp [hpk, hid]

theorem Worker.Consistent.announce (hw : w.Consistent) (env : Env) (c : Call) :
    (w.announce env c).worker.Consistent := by
  rcases w.announce_cases env c with ⟨e, href⟩ | ⟨_, t, huser, hadm, hcall⟩
  · rw [href]
    exact hw
  · obtain ⟨hlen, ht⟩ := admit_ok hadm
    rw [hcall]
    exact ⟨hw.keysOwned.announceAdmitted hlen ht, hw.distinctIds.announceAdmitted,
      .announceAdmitted hw huser hlen ht⟩

theorem Locals.counterOps_pairwise : v.counterOps.Pairwise fun a b => a.inc = false → b.counter ≠ a.counter := by
  unfold counterOps
  cases v.incLeechers <;> cases v.incSeeders <;> cases v.decLeechers <;> cases v.decSeeders <;>
    decide

theorem netOf_eq_zero {ops : List CounterOp} (h : ∀ op ∈ ops, op.counter ≠ ctr) : netOf ops ctr = 0 := by
  refine List.sum_eq_zero fun x hx => ?_
  obtain ⟨op, hop, rfl⟩ := List.mem_map.1 hx
  exact if_neg (h op hop)

theorem Locals.netOf_before {v : Locals} {pre post : List CounterOp}
    (h : v.counterOps = pre ++ ⟨ctr, false⟩ :: post) : netOf pre ctr = netOf v.counterOps ctr + 1 := by
  have hpair := v.counterOps_pairwise
  rw [h, List.pairwise_append, List.pairwise_cons] at hpair
  have haft : netOf post ctr = 0 := netOf_eq_zero fun op hop => hpair.2.1.1 op hop rfl
  rw [h, netOf_append, netOf_cons, haft]
  simp [delta]

/-! ## No counter wraps -/

/-- **No decrement of this counter wraps below zero** during the call: the counter stands for a
positive count when it is decremented, the count before the call with the updates of the call so
far. -/
def Worker.NoWrapOf (env : Env) (w : Worker) (c : Call) (ctr : Counter) : Prop :=
  ∀ user t, w.users.lookup c.passkey = some user → w.admit env c = .ok t →
    ∀ before after, (finalLocals env c user t).counterOps = before ++ ⟨ctr, false⟩ :: after →
      ∃ n : ℕ, 0 < n ∧ (n : ℤ) = w.entries user ctr + netOf before ctr ∧
        (w.applyCounters c.passkey before).value c.passkey ctr = UInt32.ofNat n

def Worker.NoWrap (env : Env) (w : Worker) (c : Call) : Prop := ∀ ctr, w.NoWrapOf env c ctr

theorem Worker.value_applyCounters {passkey : Bytes} (huser : w.users.lookup passkey = some user)
    (ops : List CounterOp)
    (ctr : Counter) : (w.applyCounters passkey ops).value passkey ctr = w.value passkey ctr +
      UInt32.ofInt (netOf ops ctr) := by
  obtain ⟨-, hstats, husers⟩ := w.applyCounters_spec passkey ops
  cases ctr with
  | stats side => exact hstats side
  | user =>
    obtain ⟨f, hf, -, hfc⟩ := husers passkey
    unfold value
    dsimp only
    rw [hf, huser, map_some, map_some, map_some, getD_some, getD_some, hfc, if_pos rfl]

theorem Worker.noWrapOf_of_entries (hval : ∀ user, w.users.lookup c.passkey = some user →
      w.value c.passkey ctr = UInt32.ofNat (w.entries user ctr))
    (hents : ∀ user t, w.admit env c = .ok t → ((w.announceAdmitted env c user t).worker.entries user ctr : ℤ) =
        w.entries user ctr + netOf (finalLocals env c user t).counterOps ctr) : w.NoWrapOf env c ctr := by
  intro user t huser hadm _ _ hops
  have haft := hents user t hadm
  have hbef := netOf_before hops
  refine ⟨(w.announceAdmitted env c user t).worker.entries user ctr + 1, Nat.succ_pos _, ?_, ?_⟩
  · push_cast
    omega
  · rw [value_applyCounters huser, hval user huser]
    apply ofNat_add_ofInt
    omega

theorem Worker.StatsAgree.noWrapOf (hw : w.StatsAgree) (env : Env) (c : Call)
    (side : Side) : w.NoWrapOf env c (.stats side) := by
  refine noWrapOf_of_entries (fun _ _ => hw side) fun _ t hadm => ?_
  rw [(netOf_counterOps _ side).1]
  exact count_announceAdmitted (admit_ok hadm).2 side

theorem Worker.Consistent.noWrap (hw : w.Consistent) (env : Env) (c : Call) : w.NoWrap env c := by
  intro ctr
  cases ctr with
  | stats side => exact StatsAgree.noWrapOf hw.agree.stats env c side
  | user side =>
    refine noWrapOf_of_entries ?_ ?_
    · intro user huser
      unfold value entries
      dsimp only
      rw [huser, map_some, getD_some, hw.agree.users _ user huser]
    · intro user t hadm
      obtain ⟨hlen, ht⟩ := admit_ok hadm
      rw [(netOf_counterOps _ side).2]
      show ((countOf _ side user.id : ℕ) : ℤ) = (w.countOf side user.id : ℕ) + _
      rw [countOf_eq_weigh, countOf_eq_weigh, weigh_announceAdmitted _ _ hw.keysOwned hlen ht]
      simp

/-! ## Runs of announces -/

def announceAll (w : Worker) (calls : List (Env × Call)) : Worker :=
  calls.foldl (fun w c => (w.announce c.1 c.2).worker) w

/-- **An empty worker**: torrents and users are registered, no one has announced. -/
structure Worker.Empty (w : Worker) : Prop where
  lists : ∀ h t, w.torrents.lookup h = some t → ∀ side, t.list side = ∅
  stats : ∀ side, w.stats.count side = 0
  users : ∀ pk u, w.users.lookup pk = some u → ∀ side, u.count side = 0
  distinctIds : w.DistinctIds

theorem Worker.Empty.weigh (hw : w.Empty) (side : Side) (g : UserID → ℕ) : w.weigh side g = 0 := by
  refine total_eq_zero fun e he => ?_
  rw [hw.lists e.1 e.2 (mem_entries_iff.1 he) side]
  exact total_empty _

theorem Worker.Empty.consistent (hw : w.Empty) : w.Consistent where
  keysOwned := by
    intro h t ht side k p hp
    rw [hw.lists h t ht side] at hp
    simp at hp
  distinctIds := hw.distinctIds
  agree :=
    { stats := fun side => by rw [hw.stats, count_eq_weigh, hw.weigh]; rfl
      users := fun pk u hu side => by
        rw [hw.users pk u hu, countOf_eq_weigh, hw.weigh]; rfl }

theorem Worker.Consistent.announceAll (hw : w.Consistent) (calls : List (Env × Call)) :
    (announceAll w calls).Consistent := by
  induction calls generalizing w with
  | nil => exact hw
  | cons c _ ih => exact ih (hw.announce c.1 c.2)

/-- **The counters agree with the swarms** after every sequence of announces from an empty worker,
and no decrement of the next call wraps below zero. -/
theorem announce_counters_agree {w : Worker} (hw : w.Empty) (calls : List (Env × Call)) :
    (announceAll w calls).CountersAgree ∧ ∀ env c, (announceAll w calls).NoWrap env c :=
  have hrun := hw.consistent.announceAll calls
  ⟨hrun.agree, fun env c => hrun.noWrap env c⟩

theorem Sample.worker_empty : worker.Empty where
  lists h t ht side := by
    rcases lookup_insert_cases ht with ⟨rfl, rfl⟩ | ⟨-, ht⟩
    · cases side <;> rfl
    · cases ht
  stats side := by cases side <;> rfl
  users pk u hu side := by
    rcases lookup_insert_cases hu with ⟨rfl, rfl⟩ | ⟨-, hu⟩
    · cases side <;> rfl
    · cases hu
  distinctIds pk pk' u u' hu hu' _ := by
    have hmem : ∀ {pk u}, worker.users.lookup pk = some u → pk = passkey := by
      intro pk u hu
      rcases lookup_insert_cases hu with ⟨hpk, -⟩ | ⟨-, hu⟩
      · exact hpk
      · cases hu
    rw [hmem hu, hmem hu']

theorem announce_counters_agree_sample :
    let calls := [(Sample.env, Sample.call .started 0 0), (Sample.env, Sample.call .other 5 0),
      (Sample.env, Sample.call .stopped 5 0)]
    let w := announceAll Sample.worker calls
    w.stats.seeders = 1 ∧ w.stats.leechers = 0 ∧ w.CountersAgree ∧ ∀ env c, w.NoWrap env c :=
  ⟨by decide +kernel, by decide +kernel, announce_counters_agree worker_empty _⟩

end Ocelot.Tracker
