/-
# The tracker's in-memory state (`tracker/types.go`).
-/
import Ocelot.Lib.FinmapTotal
import Mathlib.Data.Finset.Insert

namespace Ocelot.Tracker

abbrev Bytes := List UInt8

def lit (s : String) : Bytes := s.toUTF8.data.toList

abbrev TorrentID := UInt32
abbrev UserID := UInt32

abbrev Time := Int

/-- `FreeType` is a `uint8`: `add_torrent` stores any value, and `Announce` treats the values
without a name like `FreeNormal`. -/
abbrev FreeType := UInt8

def freeNormal : FreeType := 0
def freeFree : FreeType := 1
def freeNeutral : FreeType := 2

abbrev IP := Bytes

namespace IP

def v4InV6 : Bytes := [0, 0, 0, 0, 0, 0, 0, 0, 0, 0, 0xff, 0xff]

def to4 (ip : IP) : Option Bytes :=
  if ip.length = 4 then some ip
  else if ip.length = 16 ∧ ip.take 12 = v4InV6 then some (ip.drop 12)
  else none

def equal (ip x : IP) : Bool :=
  if ip.length = x.length then ip == x
  else if ip.length = 4 ∧ x.length = 16 then x.take 12 == v4InV6 && ip == x.drop 12
  else if ip.length = 16 ∧ x.length = 4 then ip.take 12 == v4InV6 && ip.drop 12 == x
  else false

def isUnspecified (ip : IP) : Bool := equal ip (v4InV6 ++ [0, 0, 0, 0]) || equal ip (List.replicate 16 0)

end IP

def compactIPPort (ip : IP) (port : UInt16) : Bytes :=
  match ip.to4 with
  | none => []
  | some ipv4 => ipv4 ++ [(port >>> 8).toUInt8, (port &&& 0xff).toUInt8]

def validateIPNotPrivate (ip : IP) : Bool :=
  if ip = [] then false
  else
    match ip.to4 with
    | none => true
    | some ipv4 =>
      let a := ipv4.getD 0 0
      let b := ipv4.getD 1 0
      !(a == 0 || a == 10 || a == 127 || (a == 169 && b == 254) ||
        (a == 172 && 16 ≤ b && b ≤ 31) || (a == 192 && b == 168) || 224 ≤ a)

structure Peer where
  userID : UserID
  uploaded : Int64 := 0
  downloaded : Int64 := 0
  corrupt : Int64 := 0
  left : Int64 := 0
  lastAnnounced : Time := 0
  firstAnnounced : Time := 0
  announces : UInt32 := 0
  port : UInt16 := 0
  ip : IP := []
  ipPort : Bytes := []
  visible : Bool := false
  invalidIP : Bool := false
  connectionTimes : List Time := []
  deriving DecidableEq

abbrev PeerList := Finmap fun _ : Bytes => Peer

structure Torrent where
  id : TorrentID
  completed : UInt32 := 0
  balance : Int64 := 0
  freeType : FreeType := freeNormal
  lastFlushed : Time := 0
  seeders : PeerList := ∅
  leechers : PeerList := ∅
  tokenedUsers : Finset UserID := ∅
  deriving DecidableEq

def newTorrent (id : TorrentID) : Torrent := { id }

abbrev TorrentList := Finmap fun _ : Bytes => Torrent

/-- **`PeerKeyPrime`** — the key a client's entry is stored under: one byte of the peer id picked
by the torrent, the user id in big-endian order, and the whole peer id. -/
def peerKeyPrime (peerID : Bytes) (userID : UserID) (torrentID : TorrentID) : Bytes :=
  if peerID.length < 20 then peerID
  else
    let randomByte := peerID.getD (12 + torrentID.toNat % 16381 % 8) 0
    [randomByte, (userID >>> 24).toUInt8, (userID >>> 16).toUInt8, (userID >>> 8).toUInt8,
      userID.toUInt8] ++ peerID

structure User where
  id : UserID
  deleted : Bool := false
  canLeech : Bool
  protectIP : Bool
  leeching : UInt32 := 0
  seeding : UInt32 := 0
  deriving DecidableEq

def newUser (id : UserID) (canLeech protectIP : Bool) : User := { id, canLeech, protectIP }

abbrev UserList := Finmap fun _ : Bytes => User

structure Stats where
  leechers : UInt32 := 0
  seeders : UInt32 := 0
  succAnnouncements : UInt64 := 0
  evictedPeers : UInt64 := 0
  deriving DecidableEq

def Whitelist.isAllowed (prefixes : List Bytes) (peerID : Bytes) : Bool := prefixes.isEmpty ||
    prefixes.any fun p => decide (p.length ≤ peerID.length) && peerID.take p.length == p

structure ArtifactACL where
  allowAll : Bool := false
  allow : Finset Bytes := ∅

abbrev SwarmAdmissionPolicy := Finmap fun _ : Bytes => ArtifactACL

def SwarmAdmissionPolicy.isAdmitted (policy : SwarmAdmissionPolicy) (infoHash passkey : Bytes) : Bool :=
  match policy.lookup infoHash with
  | none => true
  | some acl => acl.allowAll || decide (passkey ∈ acl.allow)

theorem peerKeyPrime_of_length {peerID : Bytes} (h : peerID.length = 20) (userID : UserID)
    (torrentID : TorrentID) :
    peerKeyPrime peerID userID torrentID = [peerID.getD (12 + torrentID.toNat % 16381 % 8) 0,
      (userID >>> 24).toUInt8,
        (userID >>> 16).toUInt8, (userID >>> 8).toUInt8, userID.toUInt8] ++ peerID := by
  simp [peerKeyPrime, h]

theorem userID_eq_of_bytes {a b : UserID} (h3 : (a >>> 24).toUInt8 = (b >>> 24).toUInt8)
    (h2 : (a >>> 16).toUInt8 = (b >>> 16).toUInt8) (h1 : (a >>> 8).toUInt8 = (b >>> 8).toUInt8)
    (h0 : a.toUInt8 = b.toUInt8) : a = b := by
  have ha := a.toNat_lt
  have hb := b.toNat_lt
  have e3 := congrArg UInt8.toNat h3
  have e2 := congrArg UInt8.toNat h2
  have e1 := congrArg UInt8.toNat h1
  have e0 := congrArg UInt8.toNat h0
  simp [Nat.shiftRight_eq_div_pow] at e3 e2 e1 e0
  apply UInt32.toNat_inj.mp
  omega

theorem peerKeyPrime_userID_inj {p q : Bytes} {u v : UserID} {s t : TorrentID} (hp : p.length = 20)
    (hq : q.length = 20) (h : peerKeyPrime p u s = peerKeyPrime q v t) : u = v := by
  rw [peerKeyPrime_of_length hp, peerKeyPrime_of_length hq] at h
  simp only [List.cons_append, List.nil_append, List.cons.injEq] at h
  obtain ⟨-, h3, h2, h1, h0, -⟩ := h
  exact userID_eq_of_bytes h3 h2 h1 h0

end Ocelot.Tracker
