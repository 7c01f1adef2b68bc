/-
# The mark of a peer without a usable address (`tracker/announce.go`).
-/
import Ocelot.Tracker.SnapshotRoundTrip

namespace Ocelot.Tracker

open Bool Sample Locals

/-- An address the peer is to be marked for: it is refused, or has no IPv4 form. -/
def IP.unusable (ip : IP) : Bool := !validateIPNotPrivate ip || ip.to4.isNone

/-- The mark stands wherever an address without an IPv4 form has been stored. -/
def Peer.Marked (p : Peer) : Prop := p.ip ≠ [] → p.ip.to4 = none → p.invalidIP = true

variable {ip old : IP} {peer : Peer}

theorem IP.to4_of_equal (h : old.equal ip = true) (hip : ip ≠ []) (hnone : ip.to4 = none) :
    old ≠ [] ∧ old.to4 = none := by
  unfold IP.equal at h
  split_ifs at h with hlen hmap hmap'
  · rw [beq_iff_eq.1 h]
    exact ⟨hip, hnone⟩
  · rw [and_eq_true, beq_iff_eq] at h
    simp [IP.to4, hmap.2, h.1] at hnone
  · simp [IP.to4, hmap'.2] at hnone

theorem compactIPPort_eq_nil (ip : IP) (port : UInt16) : compactIPPort ip port = [] ↔ ip.to4 = none := by
  unfold compactIPPort
  cases ip.to4 <;> simp

theorem placeAddress_invalidIP (ip : IP) (port : UInt16) (inserted : Bool) (hp : peer.Marked) :
    let placed := placeAddress ip port inserted peer
    placed.1.Marked ∧ placed.1.invalidIP = (peer.invalidIP || ip.unusable) ∧
      ((peer.invalidIP = true → ip.unusable = true) → placed.2 = ip.unusable) := by
  unfold placeAddress IP.unusable
  cases hval : validateIPNotPrivate ip with
  | false => exact ⟨fun _ _ => rfl, (Bool.or_true _).symm, fun _ => rfl⟩
  | true =>
    have hip := ne_nil_of_validateIPNotPrivate hval
    simp only [Bool.not_true, Bool.false_eq_true, if_false, Bool.false_or]
    split_ifs with hmv
    · have hbad : decide (compactIPPort ip port = []) = ip.to4.isNone := by
        rw [Bool.eq_iff_iff, decide_eq_true_iff, Option.isNone_iff_eq_none, compactIPPort_eq_nil]
      refine ⟨fun _ hnone => ?_, congrArg (peer.invalidIP || ·) hbad, fun _ => hbad⟩
      rw [decide_eq_true ((compactIPPort_eq_nil ip port).2 hnone), Bool.or_true]
    · -- the address is the stored one, so if it is unusable the mark is there
      have hsame : peer.ip.equal ip = true := by simpa using fun h => hmv (.inr (.inr h))
      have hmark : ip.to4.isNone = true → peer.invalidIP = true := fun h =>
        have hold := IP.to4_of_equal hsame hip (Option.isNone_iff_eq_none.1 h)
        hp hold.1 hold.2
      refine ⟨hp, ?_, fun hfits => Bool.eq_iff_iff.2 ⟨hfits, hmark⟩⟩
      rw [Bool.eq_iff_iff, Bool.or_eq_true]
      exact ⟨.inl, fun h => h.elim id hmark⟩

theorem refreshPeer_invalidIP (c : Call) (user : User) (inserted : Bool) (hp : peer.Marked) :
    let refreshed := refreshPeer c user inserted peer
    refreshed.1.Marked ∧ refreshed.1.invalidIP = (peer.invalidIP || c.effectiveIP.unusable) ∧
      refreshed.1.visible = ((decide (c.req.left = 0) || user.canLeech) && !refreshed.1.invalidIP) ∧
      ((peer.invalidIP = true → c.effectiveIP.unusable = true) → refreshed.2 = c.effectiveIP.unusable) := by
  have hleft : Peer.Marked { peer with left := c.req.left } := hp
  obtain ⟨hmarked, hmark, hwarn⟩ := placeAddress_invalidIP c.effectiveIP c.req.port inserted hleft
  obtain ⟨_, _, _, _, hpl⟩ := placeAddress_peer c.effectiveIP c.req.port inserted { peer with left := c.req.left }
  refine ⟨hmarked, hmark, ?_, hwarn⟩
  unfold refreshPeer peerIsVisible
  dsimp only
  rw [hpl]

theorem Peer.Marked.accountTraffic {env : Env} {c : Call} {user : User} {t : Torrent} {v : Locals}
    (hp : peer.Marked) :
    (accountTraffic env c user t peer v).peer.Marked := by
  obtain ⟨hip, -, -, hmark⟩ := accountTraffic_address env c user t peer v
  unfold Peer.Marked
  rw [hip, hmark]
  exact hp

theorem peerInvariant_marked : PeerInvariant Peer.Marked where
  fresh _ h := absurd rfl h
  refresh _ c user _ _ v hp := (refreshPeer_invalidIP c user v.inserted hp.accountTraffic).1

theorem sectionsBefore_invalidIP (env : Env) (c : Call) (user : User) (k : Bytes) (t : Torrent) :
    (sectionsBefore env c user k t).2.invalidIP = (lookupSection env c user k t).locals.invalidIP := by
  unfold sectionsBefore completionSections moveSection settle
  grind

/-- **When the mark is the one of this announce**, after any announces. -/
theorem invalidIP_announce_iff {w : Worker} {ls : List Label} {s : System} {t : Torrent} (env : Env)
    (c : Call) (user : User)
    (hw : w.Vacant) (hrun : Run.exec System.step { worker := w } ls = some s)
    (ht : s.worker.torrents.lookup c.req.infoHash = some t) :
    let found := findPeer c.req (c.peerKey user t) user t (Locals.ofRequest c.req)
    let peer := (lookupSection env c user (c.peerKey user t) t).peer
    let fits := found.peer.invalidIP = true → c.effectiveIP.unusable = true
    (peer.invalidIP = c.effectiveIP.unusable ↔ fits) ∧
      (fits → peer.visible = ((decide (c.req.left = 0) || user.canLeech) && !c.effectiveIP.unusable) ∧
        ∀ resp, (s.worker.announceAdmitted env c user t).result = .ok resp →
          (resp.warning = [] ↔ c.effectiveIP.unusable = false)) := by
  intro found peer fits
  have hf : Finds .. := findPeer_finds c.req (c.peerKey user t) user t (ofRequest c.req)
  have hevery : s.worker.Every Peer.Marked :=
    peerInvariant_marked.run (fun h t ht side k p hp => by rw [hw h t ht side] at hp; cases hp) hrun
  have hfound : found.peer.Marked := peerInvariant_marked.findPeer hf (hevery _ t ht) _ _ _ hf.lookup
  obtain ⟨-, -, -, hkept⟩ := accountTraffic_address env c user found.torrent found.peer found.locals
  obtain ⟨-, hmark, hvisible, hwarn⟩ := refreshPeer_invalidIP c user found.locals.inserted hfound.accountTraffic
  have hiff : peer.invalidIP = c.effectiveIP.unusable ↔ fits := by
    rw [show peer.invalidIP = (found.peer.invalidIP || c.effectiveIP.unusable) from hmark.trans
      (congrArg (· || _) hkept),
      or_eq_right_iff_imp]
  refine ⟨hiff, fun hfits => ⟨?_, fun resp hresp => ?_⟩⟩
  · rw [← hiff.2 hfits]
    exact hvisible
  · have hv : (sectionsBefore env c user (c.peerKey user t) t).2.invalidIP = c.effectiveIP.unusable :=
      (sectionsBefore_invalidIP ..).trans (hwarn fun h => hfits (hkept.symm.trans h))
    change announceResponse env c user (sectionsBefore env c user (c.peerKey user t) t).2 _ _ = _ at hresp
    unfold announceResponse at hresp
    split at hresp
    · cases hresp
    · cases hresp
      show (if (sectionsBefore env c user (c.peerKey user t) t).2.invalidIP then _ else []) = [] ↔ _
      rw [hv]
      cases c.effectiveIP.unusable <;> decide

def Sample.again : Call := call .other 0 0

theorem invalidIP_seeded : ∃ s, Run.exec System.step { worker := worker } (seeded [1, 2, 3, 4]) = some s ∧
    ∃ t, s.worker.torrents.lookup infoHash = some t ∧
      (lookupSection env again user (again.peerKey user t) t).peer.invalidIP = false := by
  refine Run.ends_of (P := fun s => ∃ t, s.worker.torrents.lookup infoHash = some t ∧
    (findPeer again.req (again.peerKey user t) user t
      (ofRequest again.req)).peer.invalidIP = false) (by decide +kernel) ?_
  rintro s hs ⟨t, ht, hval⟩
  refine ⟨t, ht, ((invalidIP_announce_iff _ _ _ worker_empty.lists hs ht).1.2 fun h => ?_).trans (by decide)⟩
  exact absurd (hval.symm.trans h) false_ne_true

/-- The seeder has moved from a private address to a public one, and stays invisible. -/
theorem invalidIP_stays : ∃ s, Run.exec System.step { worker := worker } (seeded [10, 0, 0, 1]) = some s ∧
    ∃ t, s.worker.torrents.lookup infoHash = some t ∧ again.effectiveIP.unusable = false ∧
      (lookupSection env again user (again.peerKey user t) t).peer.visible = false := by
  decide +kernel

end Ocelot.Tracker
