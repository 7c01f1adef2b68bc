/-
# What each critical section of `Announce` does to the swarms.
-/
import Ocelot.Tracker.Announce
import Mathlib.Tactic.Linarith
import Mathlib.Tactic.Zify

namespace Ocelot.Tracker

open Finmap Locals Torrent

/-! ## The two lists -/

@[simp] theorem Torrent.list_setList_self (t : Torrent) (side : Side) (l : PeerList) :
    (t.setList side l).list side = l := by
  cases side <;> rfl

theorem Torrent.list_setList_of_ne (t : Torrent) {side side' : Side} (l : PeerList)
    (h : side' ≠ side) : (t.setList side l).list side' = t.list side' := by
  cases side <;> cases side' <;> first | rfl | exact absurd rfl h

@[simp] theorem Torrent.id_setList (t : Torrent) (side : Side) (l : PeerList) : (t.setList side l).id = t.id := by
  cases side <;> rfl

def sideOf (left : Int64) : Side := if 0 < left then .leecher else .seeder

theorem deleteSection_eq (left : Int64) (peerKey : Bytes) (t : Torrent) :
    deleteSection left peerKey t = t.setList (sideOf left) ((t.list (sideOf left)).erase peerKey) := by
  unfold deleteSection sideOf
  split <;> rfl

/-- **`Touched k u t t'`** — `t'` is `t` after writes and deletions under the key `k` only, and if
the entries under `k` belonged to `u` before, they still do. -/
structure Torrent.Touched (k : Bytes) (u : UserID) (t t' : Torrent) : Prop where
  id : t'.id = t.id
  off : ∀ side, (t'.list side).erase k = (t.list side).erase k
  owned : (∀ side p, (t.list side).lookup k = some p → p.userID = u) →
    ∀ side p, (t'.list side).lookup k = some p → p.userID = u

namespace Torrent.Touched

variable {k : Bytes} {u : UserID} {t t' t'' : Torrent}

theorem of_list_eq (hid : t'.id = t.id) (h : ∀ side, t'.list side = t.list side) : Touched k u t t' where
  id := hid
  off side := by rw [h side]
  owned ho side p hp := ho side p (by rwa [h side] at hp)

theorem refl (t : Torrent) : Touched k u t t := of_list_eq rfl fun _ => rfl

theorem trans (h : Touched k u t t') (h' : Touched k u t' t'') : Touched k u t t'' where
  id := h'.id.trans h.id
  off side := (h'.off side).trans (h.off side)
  owned ho := h'.owned (h.owned ho)

theorem setList {side : Side} {l : PeerList} (hoff : l.erase k = (t.list side).erase k)
    (hown : (∀ side p, (t.list side).lookup k = some p → p.userID = u) →
      ∀ p, l.lookup k = some p → p.userID = u) : Touched k u t (t.setList side l) where
  id := t.id_setList side l
  off side' := by
    by_cases hs : side' = side
    · subst hs
      rw [list_setList_self, hoff]
    · rw [list_setList_of_ne t l hs]
  owned ho side' p hp := by
    by_cases hs : side' = side
    · subst hs
      rw [list_setList_self] at hp
      exact hown ho p hp
    · rw [list_setList_of_ne t l hs] at hp
      exact ho side' p hp

theorem insert (side : Side) {p : Peer} (hp : p.userID = u) :
    Touched k u t (t.setList side ((t.list side).insert k p)) := by
  refine setList (erase_insert_self k p _) ?_
  intro _ q hq
  rw [lookup_insert] at hq
  cases hq
  exact hp

theorem erase (side : Side) : Touched k u t (t.setList side ((t.list side).erase k)) := by
  refine setList (erase_erase_self k _) ?_
  intro _ q hq
  rw [lookup_erase] at hq
  cases hq

theorem promote {p : Peer} (hp : t.leechers.lookup k = some p) :
    Touched k u t { t with leechers := t.leechers.erase k, seeders := t.seeders.insert k p } := by
  refine ⟨rfl, ?_, ?_⟩
  · intro side
    cases side with
    | seeder => exact erase_insert_self k _ _
    | leecher => exact erase_erase_self k _
  · intro ho side q hq
    cases side with
    | seeder =>
      rw [list, lookup_insert] at hq
      cases hq
      exact ho .leecher p hp
    | leecher =>
      rw [list, lookup_erase] at hq
      cases hq

theorem lookup_of_ne (h : Touched k u t t') {k' : Bytes} (hk : k' ≠ k) (side : Side) :
    (t'.list side).lookup k' = (t.list side).lookup k' := by
  rw [← lookup_erase_ne hk, h.off side, lookup_erase_ne hk]

end Torrent.Touched

def PeerList.has (l : PeerList) (k : Bytes) : ℤ := if k ∈ l then 1 else 0

open PeerList

variable {l : PeerList} {k : Bytes}

theorem PeerList.has_of_mem (h : k ∈ l) : has l k = 1 := if_pos h

theorem PeerList.has_of_notMem (h : k ∉ l) : has l k = 0 := if_neg h

theorem PeerList.has_of_lookup {p : Peer} (h : l.lookup k = some p) : has l k = 1 :=
  has_of_mem (mem_of_lookup_eq_some h)

theorem PeerList.has_of_lookup_none (h : l.lookup k = none) : has l k = 0 := has_of_notMem (lookup_eq_none.mp h)

@[simp] theorem PeerList.has_insert (l : PeerList) (k : Bytes) (p : Peer) : has (l.insert k p) k = 1 :=
  has_of_mem (mem_insert.mpr (.inl rfl))

@[simp] theorem PeerList.has_erase (l : PeerList) (k : Bytes) : has (l.erase k) k = 0 :=
  has_of_notMem notMem_erase_self

theorem PeerList.has_eq_one_iff : has l k = 1 ↔ k ∈ l := by
  unfold has
  split <;> simp [*]

def PeerList.weigh (l : PeerList) (g : UserID → ℕ) : ℕ := l.total fun _ p => g p.userID

variable {g : UserID → ℕ} {x : ℕ} {u : UserID} {t t' : Torrent}

theorem PeerList.weightAt_eq (h : ∀ p, l.lookup k = some p → g p.userID = x) :
    ((weightAt (fun _ p => g p.userID) k l : ℕ) : ℤ) = has l k * x := by
  unfold weightAt
  cases hl : l.lookup k with
  | none => simp [has_of_lookup_none hl]
  | some p => simp [has_of_lookup hl, h p hl]

theorem Torrent.Touched.weigh_eq (h : Touched k u t t') {side : Side}
    (hold : ∀ p, (t.list side).lookup k = some p → g p.userID = x)
    (hnew : ∀ p, (t'.list side).lookup k = some p → g p.userID = x) : ((t'.list side).weigh g : ℤ) =
      (t.list side).weigh g + (has (t'.list side) k - has (t.list side) k) * x := by
  have hsum := total_add_weightAt_of_erase_eq (fun _ (p : Peer) => g p.userID) (h.off side)
  unfold weigh
  zify at hsum
  rw [weightAt_eq hold, weightAt_eq hnew] at hsum
  linarith

theorem Torrent.Touched.weigh (h : Touched k u t t')
    (hown : ∀ side p, (t.list side).lookup k = some p → p.userID = u) (side : Side)
    (g : UserID → ℕ) : ((t'.list side).weigh g : ℤ) =
      (t.list side).weigh g + (has (t'.list side) k - has (t.list side) k) * g u :=
  h.weigh_eq (fun p hp => congrArg g (hown side p hp)) (fun p hp => congrArg g (h.owned hown side p hp))

/-! ## Finding the peer -/

def Locals.net (v : Locals) : Side → ℤ
  | .seeder => (if v.incSeeders then 1 else 0) - (if v.decSeeders then 1 else 0)
  | .leecher => (if v.incLeechers then 1 else 0) - (if v.decLeechers then 1 else 0)

def Locals.moving (v : Locals) : Bool := v.completedTorrent && !v.inserted

/-- **What the lookup can find**, one constructor for each branch of `findPeer` that the two lists
can lead to. -/
inductive Finds (req : AnnounceRequest) (k : Bytes) (user : User) (t : Torrent) (v : Locals) : Found → Prop
  | leecher {p : Peer} : 0 < req.left → t.leechers.lookup k = some p →
      Finds req k user t v ⟨t, .leecher, p, { v with inserted := false, incLeechers := false }⟩
  | newLeecher : 0 < req.left → t.leechers.lookup k = none → Finds req k user t v
        ⟨t.setList .leecher (t.leechers.insert k { userID := user.id }), .leecher,
          { userID := user.id }, { v with inserted := true, incLeechers := true }⟩
  | completing {p : Peer} : ¬ 0 < req.left → v.completedTorrent = true → t.leechers.lookup k = some p →
      Finds req k user t v ⟨t, .leecher, p, { v with decSeeders := decide (k ∈ t.seeders) }⟩
  | alreadySeeder {p : Peer} : ¬ 0 < req.left → v.completedTorrent = true →
      t.leechers.lookup k = none → t.seeders.lookup k = some p →
      Finds req k user t v ⟨t, .seeder, p, { v with completedTorrent := false }⟩
  | newSeeder : ¬ 0 < req.left → t.leechers.lookup k = none → t.seeders.lookup k = none → Finds req k user t v
        ⟨t.setList .seeder (t.seeders.insert k { userID := user.id }), .seeder,
          { userID := user.id }, { v with inserted := true, incSeeders := true }⟩
  | seeder {p : Peer} : ¬ 0 < req.left → v.completedTorrent = false →
      t.seeders.lookup k = some p → Finds req k user t v ⟨t, .seeder, p, v⟩
  | promoted {p : Peer} : ¬ 0 < req.left → v.completedTorrent = false →
      t.seeders.lookup k = none → t.leechers.lookup k = some p → Finds req k user t v
        ⟨{ t with leechers := t.leechers.erase k, seeders := t.seeders.insert k p }, .seeder, p,
          { v with peerChanged := true, decLeechers := true, incSeeders := true }⟩

theorem findPeer_finds (req : AnnounceRequest) (k : Bytes) (user : User) (t : Torrent)
    (v : Locals) : Finds req k user t v (findPeer req k user t v) := by
  unfold findPeer findOrCreatePeer
  by_cases hleft : 0 < req.left
  · rw [if_pos hleft]
    cases hl : t.leechers.lookup k with
    | some => exact .leecher hleft hl
    | none => exact .newLeecher hleft hl
  · rw [if_neg hleft]
    by_cases hc : v.completedTorrent = true
    · rw [if_pos hc]
      cases hl : t.leechers.lookup k with
      | some => exact .completing hleft hc hl
      | none =>
        cases hs : t.seeders.lookup k with
        | some => exact .alreadySeeder hleft hc hl hs
        | none => exact .newSeeder hleft hl hs
    · rw [if_neg hc]
      rw [Bool.not_eq_true] at hc
      cases hs : t.seeders.lookup k with
      | some => exact .seeder hleft hc hs
      | none =>
        cases hl : t.leechers.lookup k with
        | some => exact .promoted hleft hc hs hl
        | none => exact .newSeeder hleft hl hs

variable {req : AnnounceRequest} {k : Bytes} {user : User} {t : Torrent} {v : Locals} {f : Found}

theorem Finds.touched (h : Finds req k user t v f) : Touched k user.id t f.torrent := by
  cases h with
  | leecher | completing | alreadySeeder | seeder => exact .refl t
  | newLeecher => exact .insert .leecher rfl
  | newSeeder => exact .insert .seeder rfl
  | promoted _ _ _ hl => exact .promote hl

theorem Finds.lookup (h : Finds req k user t v f) : (f.torrent.list f.side).lookup k = some f.peer := by
  cases h with
  | leecher _ hl | completing _ _ hl => exact hl
  | newLeecher => simp
  | alreadySeeder _ _ _ hs | seeder _ _ hs => exact hs
  | newSeeder => simp
  | promoted => exact lookup_insert _

theorem Finds.side (h : Finds req k user t v f) (hv : v.inserted = false)
    (hm : f.locals.moving = false) : f.side = sideOf req.left := by
  cases h with
  | leecher hleft | newLeecher hleft => exact (if_pos hleft).symm
  | completing _ hc => simp [moving, hc, hv] at hm
  | alreadySeeder hleft | newSeeder hleft | seeder hleft | promoted hleft => exact (if_neg hleft).symm

structure Locals.Fresh (v : Locals) : Prop where
  inserted : v.inserted = false
  incLeechers : v.incLeechers = false
  incSeeders : v.incSeeders = false
  decLeechers : v.decLeechers = false
  decSeeders : v.decSeeders = false

theorem Locals.fresh_ofRequest (req : AnnounceRequest) : (ofRequest req).Fresh := by
  unfold ofRequest
  split <;> exact ⟨rfl, rfl, rfl, rfl, rfl⟩

theorem Finds.moving (h : Finds req k user t v f) (hlc : v.completedTorrent = true → ¬ 0 < req.left)
    (hm : f.locals.moving = true) :
    f.torrent = t ∧ f.side = .leecher ∧ k ∈ t.leechers ∧
      f.locals = { v with decSeeders := decide (k ∈ t.seeders) } := by
  cases h with
  | leecher hleft => exact absurd hleft (hlc (by simp_all [moving]))
  | newLeecher | newSeeder | alreadySeeder => simp [moving] at hm
  | completing _ _ hl => exact ⟨rfl, rfl, mem_of_lookup_eq_some hl, rfl⟩
  | seeder _ hc | promoted _ hc => simp [moving, hc] at hm

theorem Finds.dec (h : Finds req k user t v f) (hv : v.Fresh) (hm : f.locals.moving = false) :
    (0 < req.left → f.locals.decLeechers = false) ∧ (¬ 0 < req.left → f.locals.decSeeders = false) := by
  obtain ⟨h1, _, _, h4, h5⟩ := hv
  cases h with
  | leecher | newLeecher | alreadySeeder | newSeeder | seeder => exact ⟨fun _ => h4, fun _ => h5⟩
  | completing _ hc => simp [Locals.moving, hc, h1] at hm
  | promoted hleft => exact ⟨fun h => absurd h hleft, fun _ => h5⟩

theorem Finds.has (h : Finds req k user t v f) (hv : v.Fresh) (hm : f.locals.moving = false)
    (side : Side) : has (f.torrent.list side) k = has (t.list side) k + f.locals.net side := by
  obtain ⟨h1, h2, h3, h4, h5⟩ := hv
  cases h with
  | leecher => cases side <;> simp [Locals.net, h3, h4, h5]
  | newLeecher _ hl =>
    cases side
    · simp [Locals.net, list_setList_of_ne, h3, h5]
    · simp [Locals.net, h4, Torrent.list, Torrent.setList, has_of_lookup_none hl]
  | completing _ hc => simp [Locals.moving, hc, h1] at hm
  | alreadySeeder | seeder => cases side <;> simp [Locals.net, h2, h3, h4, h5]
  | newSeeder _ _ hs =>
    cases side
    · simp [Locals.net, h5, Torrent.list, Torrent.setList, has_of_lookup_none hs]
    · simp [Locals.net, list_setList_of_ne, h2, h4]
  | promoted _ _ hs hl =>
    cases side
    · simp [Locals.net, h5, Torrent.list, has_of_lookup_none hs]
    · simp [Locals.net, h2, Torrent.list, has_of_lookup hl]

/-! ## The first section -/

theorem accountTraffic_userID (env : Env) (c : Call) (user : User) (t : Torrent) (peer : Peer)
    (v : Locals) : (accountTraffic env c user t peer v).peer.userID = peer.userID := by
  unfold accountTraffic creditTraffic
  split
  · rfl
  · split
    · rfl
    · dsimp only
      split <;> rfl

theorem accountTraffic_locals (env : Env) (c : Call) (user : User) (t : Torrent) (peer : Peer)
    (v : Locals) : ∃ a b d, (accountTraffic env c user t peer v).locals =
      { v with updateTorrent := a, peerChanged := b, expireToken := d } := by
  unfold accountTraffic creditTraffic
  split
  · exact ⟨_, _, _, rfl⟩
  · split
    · exact ⟨_, _, _, rfl⟩
    · dsimp only
      split <;> exact ⟨_, _, _, rfl⟩

theorem placeAddress_peer (ip : IP) (port : UInt16) (inserted : Bool) (peer : Peer) :
    ∃ a b d e, (placeAddress ip port inserted peer).1 =
      { peer with port := a, ip := b, ipPort := d, invalidIP := e } := by
  unfold placeAddress
  split
  · exact ⟨_, _, _, _, rfl⟩
  · split <;> exact ⟨_, _, _, _, rfl⟩

theorem refreshPeer_userID (c : Call) (user : User) (inserted : Bool) (peer : Peer) :
    (refreshPeer c user inserted peer).1.userID = peer.userID := by
  obtain ⟨a, b, d, e, h⟩ := placeAddress_peer c.effectiveIP c.req.port inserted { peer with left := c.req.left }
  unfold refreshPeer
  dsimp only
  rw [h]

section

variable (env : Env) (c : Call) (user : User) (k : Bytes) (t : Torrent)

theorem lookupSection_userID :
    (lookupSection env c user k t).peer.userID = (findPeer c.req k user t (ofRequest c.req)).peer.userID := by
  show (refreshPeer _ _ _ _).1.userID = _
  rw [refreshPeer_userID, accountTraffic_userID]

theorem lookupSection_list (side : Side) : let f := findPeer c.req k user t (ofRequest c.req)
    ((lookupSection env c user k t).torrent.list side) =
      if side = f.side then (f.torrent.list side).insert k (lookupSection env c user k t).peer
      else f.torrent.list side := by
  intro f
  show (setList _ f.side _).list side = _
  by_cases hs : side = f.side
  · rw [if_pos hs, hs, list_setList_self]
    cases f.side <;> rfl
  · rw [if_neg hs, list_setList_of_ne _ _ hs]
    cases side <;> rfl

theorem lookupSection_locals : ∃ a b d e, (lookupSection env c user k t).locals =
      { (findPeer c.req k user t (ofRequest c.req)).locals with
        updateTorrent := a, peerChanged := b, expireToken := d, invalidIP := e } := by
  obtain ⟨a, b, d, h⟩ := accountTraffic_locals env c user (findPeer c.req k user t (.ofRequest c.req)).torrent
    (findPeer c.req k user t (.ofRequest c.req)).peer
    (findPeer c.req k user t (.ofRequest c.req)).locals
  refine ⟨a, b, d, (lookupSection env c user k t).locals.invalidIP, ?_⟩
  unfold lookupSection
  dsimp only
  rw [h]

theorem lookupSection_touched : Touched k user.id t (lookupSection env c user k t).torrent := by
  have hf := findPeer_finds c.req k user t (.ofRequest c.req)
  refine hf.touched.trans ?_
  have hlist := lookupSection_list env c user k t
  refine ⟨?_, ?_, ?_⟩
  · show (setList _ _ _).id = _
    rw [id_setList]
  · intro side
    rw [hlist side]
    split
    · exact erase_insert_self k _ _
    · rfl
  · intro ho side p hp
    rw [hlist side] at hp
    split at hp
    · rw [lookup_insert] at hp
      cases hp
      rw [lookupSection_userID]
      exact ho _ _ hf.lookup
    · exact ho side p hp

theorem lookupSection_lookup (side : Side) : let f := findPeer c.req k user t (ofRequest c.req)
    ((lookupSection env c user k t).torrent.list side).lookup k =
      if side = f.side then some (lookupSection env c user k t).peer
      else (f.torrent.list side).lookup k := by
  intro f
  rw [lookupSection_list]
  split
  · exact lookup_insert _
  · rfl

theorem lookupSection_has_eq (side : Side) : has ((lookupSection env c user k t).torrent.list side) k =
      has ((findPeer c.req k user t (ofRequest c.req)).torrent.list side) k := by
  have hf := findPeer_finds c.req k user t (.ofRequest c.req)
  rw [lookupSection_list]
  split
  · rename_i hs
    subst hs
    rw [has_insert, has_of_lookup hf.lookup]
  · rfl

theorem lookupSection_moving_eq :
    (lookupSection env c user k t).locals.moving = (findPeer c.req k user t (ofRequest c.req)).locals.moving := by
  obtain ⟨a, b, d, e, h⟩ := lookupSection_locals env c user k t
  rw [h]
  rfl

section

variable (hm : (lookupSection env c user k t).locals.moving = false)
include hm

theorem lookupSection_has (side : Side) : has ((lookupSection env c user k t).torrent.list side) k =
      has (t.list side) k + (lookupSection env c user k t).locals.net side := by
  rw [lookupSection_moving_eq] at hm
  have hf := findPeer_finds c.req k user t (.ofRequest c.req)
  rw [lookupSection_has_eq, hf.has (fresh_ofRequest c.req) hm]
  obtain ⟨a, b, d, e, h⟩ := lookupSection_locals env c user k t
  rw [h]
  cases side <;> rfl

theorem lookupSection_mem :
    k ∈ (lookupSection env c user k t).torrent.list (sideOf c.req.left) := by
  rw [lookupSection_moving_eq] at hm
  have hf := findPeer_finds c.req k user t (.ofRequest c.req)
  rw [← has_eq_one_iff, lookupSection_has_eq, ← hf.side (fresh_ofRequest c.req).inserted hm]
  exact has_of_lookup hf.lookup

theorem lookupSection_dec :
    (0 < c.req.left → (lookupSection env c user k t).locals.decLeechers = false) ∧
      (¬ 0 < c.req.left → (lookupSection env c user k t).locals.decSeeders = false) := by
  rw [lookupSection_moving_eq] at hm
  obtain ⟨a, b, d, e, h⟩ := lookupSection_locals env c user k t
  rw [h]
  exact (findPeer_finds c.req k user t _).dec (fresh_ofRequest c.req) hm

end

theorem completedTorrent_ofRequest {req : AnnounceRequest} :
    (ofRequest req).completedTorrent = true ↔ req.event = .completed ∧ req.left = 0 := by
  unfold ofRequest
  split <;> simp_all

theorem stoppedTorrent_ofRequest {req : AnnounceRequest} :
    (ofRequest req).stoppedTorrent = decide (req.event = .stopped) := by
  unfold ofRequest
  split <;> simp_all

theorem lookupSection_moving (hm : (lookupSection env c user k t).locals.moving = true) :
    (∀ side, has ((lookupSection env c user k t).torrent.list side) k = has (t.list side) k) ∧
      (lookupSection env c user k t).torrent.leechers.lookup k = some
        (lookupSection env c user k t).peer ∧ k ∈ t.leechers ∧
      (lookupSection env c user k t).locals.stoppedTorrent = false ∧
      (lookupSection env c user k t).locals.decSeeders = decide (k ∈ t.seeders) ∧
      (lookupSection env c user k t).locals.incSeeders = false ∧
        (lookupSection env c user k t).locals.incLeechers = false ∧
      (lookupSection env c user k t).locals.decLeechers = false := by
  rw [lookupSection_moving_eq] at hm
  have hf := findPeer_finds c.req k user t (.ofRequest c.req)
  have hfresh := fresh_ofRequest c.req
  have hleft : (ofRequest c.req).completedTorrent = true → ¬ 0 < c.req.left := by
    intro h
    rw [(completedTorrent_ofRequest.mp h).2]
    decide
  obtain ⟨htor, hside, hmem, hlocals⟩ := hf.moving hleft hm
  have hevent : c.req.event = .completed := by
    apply (completedTorrent_ofRequest.mp _).1
    rw [hlocals] at hm
    simpa [moving, hfresh.inserted] using hm
  obtain ⟨a, b, d, e, h⟩ := lookupSection_locals env c user k t
  rw [h, hlocals]
  refine ⟨?_, ?_, hmem, ?_, rfl, hfresh.incSeeders, hfresh.incLeechers, hfresh.decLeechers⟩
  · intro side
    rw [lookupSection_has_eq, htor]
  · refine (lookupSection_lookup env c user k t .leecher).trans ?_
    rw [hside, if_pos rfl]
  · rw [stoppedTorrent_ofRequest, hevent]
    rfl

end

/-! ## The other sections -/

theorem completeSection_list (t : Torrent) (side : Side) : (completeSection t).list side = t.list side := by
  cases side <;> rfl

theorem expireSection_list (user : User) (t : Torrent) (side : Side) :
    (expireSection user t).list side = t.list side := by
  cases side <;> rfl

theorem flushSection_list (now : Time) (v : Locals) (t : Torrent) (side : Side) :
    (flushSection now v t).1.list side = t.list side := by
  unfold flushSection
  split <;> cases side <;> rfl

theorem flushSection_id (now : Time) (v : Locals) (t : Torrent) : (flushSection now v t).1.id = t.id := by
  unfold flushSection
  split <;> rfl

theorem moveSection_touched (k : Bytes) (u : UserID) (t : Torrent) (v : Locals) :
    Touched k u t (moveSection k t v).1 := by
  unfold moveSection
  split
  · rename_i p hp
    exact .promote hp
  · exact .refl t

variable {k : Bytes} {t : Torrent} {v : Locals}

theorem moveSection_of_lookup {p : Peer} (hp : t.leechers.lookup k = some p) (v : Locals) :
    ((moveSection k t v).1.list .seeder).lookup k = some p ∧
      ((moveSection k t v).1.list .leecher).lookup k = none ∧
      (moveSection k t v).2 = { v with decLeechers := true, incSeeders := true } := by
  unfold moveSection
  rw [hp]
  exact ⟨lookup_insert _, lookup_erase k _, rfl⟩

theorem deleteSection_touched (left : Int64) (k : Bytes) (u : UserID) (t : Torrent) :
    Touched k u t (deleteSection left k t) := by
  rw [deleteSection_eq]
  exact .erase _

theorem has_deleteSection {left : Int64} (h : k ∈ t.list (sideOf left))
    (side : Side) : has ((deleteSection left k t).list side) k =
      has (t.list side) k - if side = sideOf left then 1 else 0 := by
  rw [deleteSection_eq]
  split
  · rename_i hs
    subst hs
    rw [list_setList_self, has_erase, has_of_mem h]
    rfl
  · rename_i hs
    rw [list_setList_of_ne _ _ hs, sub_zero]

theorem Locals.settle_moving (v : Locals) (left : Int64) : (v.settle left).moving = v.moving := by
  unfold settle
  split <;> split <;> rfl

theorem Locals.settle_stoppedTorrent (v : Locals) (left : Int64) :
    (v.settle left).stoppedTorrent = v.stoppedTorrent := by
  unfold settle
  split <;> split <;> rfl

theorem Locals.settle_net {left : Int64}
    (hdec : (0 < left → v.decLeechers = false) ∧ (¬ 0 < left → v.decSeeders = false))
    (side : Side) : (v.settle left).net side =
      v.net side - if v.stoppedTorrent = true ∧ side = sideOf left then 1 else 0 := by
  unfold settle
  by_cases hstop : v.stoppedTorrent = true
  · rw [if_pos hstop]
    by_cases hleft : 0 < left
    · cases side <;> simp [net, sideOf, hstop, hleft, hdec.1 hleft]
    · cases side <;> simp [net, sideOf, hstop, hleft, hdec.2 hleft]
  · rw [if_neg hstop]
    split <;> cases side <;> simp [net, hstop]

theorem completionSections_touched (k : Bytes) (user : User) (t : Torrent) (v : Locals) :
    Touched k user.id t (completionSections k user t v).1 := by
  have hcomp : Touched k user.id t (completeSection t) := .of_list_eq rfl (completeSection_list t)
  unfold completionSections
  split
  · exact .refl t
  · split
    · have hmv : Touched k user.id t
          (if v.inserted then (completeSection t, v) else moveSection k (completeSection t) v).1 := by
        split
        · exact hcomp
        · exact hcomp.trans (moveSection_touched k user.id _ v)
      dsimp only
      split
      · exact hmv.trans (.of_list_eq rfl (expireSection_list user _))
      · exact hmv
    · exact .refl t

theorem completionSections_of_not_moving {user : User} (hm : v.moving = false) :
    (∀ side, (completionSections k user t v).1.list side = t.list side) ∧
      (completionSections k user t v).2 = v := by
  unfold completionSections
  split
  · exact ⟨fun _ => rfl, rfl⟩
  · split
    · rename_i hc
      have hins : v.inserted = true := by simpa [moving, hc] using hm
      rw [if_pos hins]
      refine ⟨fun side => ?_, rfl⟩
      split
      · rw [expireSection_list, completeSection_list]
      · exact completeSection_list t side
    · exact ⟨fun _ => rfl, rfl⟩

theorem completionSections_of_moving {user : User} {p : Peer} (hm : v.moving = true)
    (hstop : v.stoppedTorrent = false)
    (hp : t.leechers.lookup k = some p) : ((completionSections k user t v).1.list .seeder).lookup k = some p ∧
      ((completionSections k user t v).1.list .leecher).lookup k = none ∧
      (completionSections k user t v).2 = { v with decLeechers := true, incSeeders := true } := by
  obtain ⟨hc, hins⟩ : v.completedTorrent = true ∧ v.inserted = false := by
    simpa [moving] using hm
  obtain ⟨hseed, hleech, hv⟩ := moveSection_of_lookup (t := completeSection t) hp v
  unfold completionSections
  rw [if_neg (by simp [hstop]), if_pos hc, if_neg (by simp [hins])]
  refine ⟨?_, ?_, hv⟩
  · split
    · rw [expireSection_list, hseed]
    · exact hseed
  · split
    · rw [expireSection_list, hleech]
    · exact hleech

/-! ## All sections -/

section

variable (env : Env) (c : Call) (user : User) (k : Bytes) (t : Torrent)

theorem sectionsBefore_touched : Touched k user.id t (sectionsBefore env c user k t).1 :=
  (lookupSection_touched env c user k t).trans (completionSections_touched k user _ _)

theorem sectionsAfter_touched (v : Locals) (u : UserID) : Touched k u t (sectionsAfter c k v t).1 := by
  refine .trans ?_ (.of_list_eq (flushSection_id _ _ _) (flushSection_list _ _ _))
  split
  · exact deleteSection_touched _ k u t
  · exact .refl t

section

variable (hm : (lookupSection env c user k t).locals.moving = true)
include hm

theorem settle_of_moving : (lookupSection env c user k t).locals.settle c.req.left =
      { (lookupSection env c user k t).locals with snatched := true, updateTorrent := true } := by
  obtain ⟨-, -, -, hstop, -⟩ := lookupSection_moving env c user k t hm
  obtain ⟨hc, -⟩ : _ ∧ _ := by simpa [moving] using hm
  simp [settle, hstop, hc]

theorem sectionsBefore_of_moving :
    ((sectionsBefore env c user k t).1.list .seeder).lookup k = some (lookupSection env c user k t).peer ∧
      ((sectionsBefore env c user k t).1.list .leecher).lookup k = none ∧
        (sectionsBefore env c user k t).2 = { (lookupSection env c user k t).locals with
          snatched := true, updateTorrent := true, decLeechers := true, incSeeders := true } := by
  obtain ⟨-, hp, -, hstop, -⟩ := lookupSection_moving env c user k t hm
  obtain ⟨hseed, hleech, hv⟩ := completionSections_of_moving
    (v := (lookupSection env c user k t).locals.settle c.req.left)
    (by rw [settle_moving, hm]) (by rw [settle_stoppedTorrent, hstop]) hp
  refine ⟨hseed, hleech, hv.trans ?_⟩
  rw [settle_of_moving env c user k t hm]

theorem sections_has_of_moving (side : Side) : has ((sectionsBefore env c user k t).1.list side) k =
      has (t.list side) k + (sectionsBefore env c user k t).2.net side := by
  obtain ⟨-, -, hmem, -, hdecS, -, hincL, -⟩ := lookupSection_moving env c user k t hm
  obtain ⟨hseed, hleech, hv⟩ := sectionsBefore_of_moving env c user k t hm
  rw [hv]
  cases side with
  | seeder =>
    rw [has_of_lookup hseed]
    by_cases hs : k ∈ t.seeders <;> simp [net, hdecS, list, has, hs]
  | leecher =>
    rw [has_of_lookup_none hleech]
    simp [net, hincL, list, has_of_mem hmem]

end

theorem sectionsBefore_of_not_moving (hm : (lookupSection env c user k t).locals.moving = false) :
    (∀ side, (sectionsBefore env c user k t).1.list side = (lookupSection env c user k t).torrent.list side) ∧
      (sectionsBefore env c user k t).2 = (lookupSection env c user k t).locals.settle c.req.left :=
  completionSections_of_not_moving (by rw [settle_moving, hm])

theorem sections_has (side : Side) : has ((sectionsAfter c k (sectionsBefore env c user k t).2
        (sectionsBefore env c user k t).1).1.list side) k =
      has (t.list side) k + (sectionsBefore env c user k t).2.net side := by
  unfold sectionsAfter
  rw [flushSection_list]
  cases hm : (lookupSection env c user k t).locals.moving with
  | true =>
    have hstop : (sectionsBefore env c user k t).2.stoppedTorrent = false := by
      rw [(sectionsBefore_of_moving env c user k t hm).2.2]
      exact (lookupSection_moving env c user k t hm).2.2.2.1
    rw [hstop, if_neg Bool.false_ne_true, sections_has_of_moving env c user k t hm side]
  | false =>
    obtain ⟨hlist, hv⟩ := sectionsBefore_of_not_moving env c user k t hm
    have hhas := lookupSection_has env c user k t hm side
    have hnet := settle_net (lookupSection_dec env c user k t hm) side
    rw [hv, settle_stoppedTorrent, hnet]
    by_cases hstop : (lookupSection env c user k t).locals.stoppedTorrent = true
    · have hmem : k ∈ (sectionsBefore env c user k t).1.list (sideOf c.req.left) := by
        rw [hlist]
        exact lookupSection_mem env c user k t hm
      rw [if_pos hstop, has_deleteSection hmem, hlist, hhas]
      simp only [hstop, true_and]
      omega
    · rw [if_neg hstop, hlist, hhas]
      simp [hstop]

end

end Ocelot.Tracker
