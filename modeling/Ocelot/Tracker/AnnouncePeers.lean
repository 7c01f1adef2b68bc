/-
# Properties that every peer of every swarm has.
-/
import Mathlib.Data.Fintype.Basic
import Ocelot.Tracker.AnnounceConcurrent

namespace Ocelot.Tracker

open Finmap Torrent

instance : Fintype Side where
  elems := {.seeder, .leecher}
  complete side := by cases side <;> decide

def Torrent.Every (P : Peer → Prop) (t : Torrent) : Prop := ∀ side k p, (t.list side).lookup k = some p → P p

def Worker.Every (P : Peer → Prop) (w : Worker) : Prop := ∀ h t, w.torrents.lookup h = some t → t.Every P

instance (P : Peer → Prop) [DecidablePred P] (w : Worker) : Decidable (w.Every P) :=
  inferInstanceAs (Decidable
    (∀ h t, w.torrents.lookup h = some t → ∀ side k p, (t.list side).lookup k = some p → P p))

namespace Torrent.Every

variable {P : Peer → Prop} {t t' : Torrent} {k : Bytes} {p : Peer}

section

variable (ht : t.Every P)
include ht

theorem of_list_eq (h : ∀ side, t'.list side = t.list side) : t'.Every P := by
  intro side k p hp
  rw [h side] at hp
  exact ht side k p hp

theorem setList (side : Side) {l : PeerList}
    (hl : ∀ k p, l.lookup k = some p → P p) : (t.setList side l).Every P := by
  intro side' k p hp
  by_cases hside : side' = side
  · subst hside
    rw [list_setList_self] at hp
    exact hl k p hp
  · rw [list_setList_of_ne t _ hside] at hp
    exact ht side' k p hp

theorem insert (side : Side) (hp : P p) : (t.setList side ((t.list side).insert k p)).Every P := by
  refine ht.setList side fun k' q hq => ?_
  rcases lookup_insert_cases hq with ⟨rfl, rfl⟩ | ⟨-, hq⟩
  · exact hp
  · exact ht side k' q hq

theorem erase (side : Side) (k : Bytes) : (t.setList side ((t.list side).erase k)).Every P := by
  refine ht.setList side fun k' q hq => ?_
  by_cases hk : k' = k
  · subst hk
    rw [lookup_erase] at hq
    cases hq
  · rw [lookup_erase_ne hk] at hq
    exact ht side k' q hq

theorem promote (hp : t.leechers.lookup k = some p) :
    Every P { t with leechers := t.leechers.erase k, seeders := t.seeders.insert k p } :=
  (ht.erase .leecher k).insert .seeder (ht .leecher k p hp)

end

end Torrent.Every

/-- **A property of peers that announces keep**: a fresh peer has it, and the accounting and the
refresh of section 1 keep it. -/
structure PeerInvariant (P : Peer → Prop) : Prop where
  fresh : ∀ user : User, P { userID := user.id }
  refresh : ∀ (env : Env) (c : Call) (user : User) (t : Torrent) (peer : Peer) (v : Locals),
    P peer → P (refreshPeer c user v.inserted (accountTraffic env c user t peer v).peer).1

namespace PeerInvariant

variable {P : Peer → Prop} {k : Bytes} {t : Torrent} {w : Worker} {s s' : System}

theorem findPeer (hP : PeerInvariant P) {req : AnnounceRequest} {user : User} {v : Locals}
    {f : Found} (hf : Finds req k user t v f) (ht : t.Every P) : f.torrent.Every P := by
  cases hf with
  | leecher | completing | alreadySeeder | seeder => exact ht
  | newLeecher => exact ht.insert .leecher (hP.fresh user)
  | newSeeder => exact ht.insert .seeder (hP.fresh user)
  | promoted _ _ _ hl => exact ht.promote hl

theorem lookupSection (hP : PeerInvariant P) (env : Env) (c : Call) (user : User) (k : Bytes)
    (ht : t.Every P) : (lookupSection env c user k t).torrent.Every P := by
  have hf := findPeer_finds c.req k user t (Locals.ofRequest c.req)
  have hfound : (Tracker.findPeer c.req k user t (Locals.ofRequest c.req)).torrent.Every P := hP.findPeer hf ht
  have hpeer := hP.refresh env c user (Tracker.findPeer c.req k user t (Locals.ofRequest c.req)).torrent _
    (Tracker.findPeer c.req k user t (Locals.ofRequest c.req)).locals (hfound _ k _ hf.lookup)
  refine Every.insert (hfound.of_list_eq fun side => ?_) _ hpeer
  cases side <;> rfl

theorem moveSection (ht : t.Every P) (v : Locals) : (moveSection k t v).1.Every P := by
  unfold Tracker.moveSection
  split
  · rename_i p hp
    exact ht.promote hp
  · exact ht

theorem putTorrent (hw : w.Every P) {h : Bytes} (ht : t.Every P) : (w.putTorrent h t).Every P := by
  intro h' t' ht'
  rcases lookup_insert_cases ht' with ⟨rfl, rfl⟩ | ⟨-, ht'⟩
  · exact ht
  · exact hw h' t' ht'

theorem next (hP : PeerInvariant P) {th : Thread} {e : Effect} (hw : w.Every P)
    (ht : w.torrents.lookup th.call.req.infoHash = some t) (he : th.next w t = some e) : e.worker.Every P := by
  have hlists := hw _ t ht
  unfold Thread.next at he
  split at he
  · cases he
    exact putTorrent hw (hP.lookupSection _ _ _ _ hlists)
  · cases he
    exact putTorrent hw (hlists.of_list_eq (completeSection_list t))
  · cases he
    exact putTorrent hw (moveSection hlists _)
  · cases he
    exact putTorrent hw (hlists.of_list_eq (expireSection_list _ t))
  · cases he
    exact hw
  · split at he
    · cases he
    · cases he
      intro h' t' ht'
      rw [Worker.torrents_applyCounter] at ht'
      exact hw h' t' ht'
  · cases he
    rw [deleteSection_eq]
    exact putTorrent hw (hlists.erase _ _)
  · cases he
    exact putTorrent hw (hlists.of_list_eq (flushSection_list _ _ t))
  · cases he

theorem step (hP : PeerInvariant P) {l : Label} (hs : s.worker.Every P) (h : s.step l = some s') :
    s'.worker.Every P := by
  rcases System.step_cases h with
    ⟨_, _, _, rfl | ⟨_, _, rfl⟩⟩ | ⟨_, _, th, _, t, e, _, _, _, ht, he, rfl⟩
  · exact hs
  · exact hs
  · exact hP.next hs ht he

theorem run (hP : PeerInvariant P) {ls : List Label} (hs : s.worker.Every P)
    (h : Run.exec System.step s ls = some s') : s'.worker.Every P :=
  Run.exec_invariant (I := fun s => s.worker.Every P) (fun _ _ _ hs hstep => hP.step hs hstep) hs h

end PeerInvariant

end Ocelot.Tracker
