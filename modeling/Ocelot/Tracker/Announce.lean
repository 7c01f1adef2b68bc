/-
# `Worker.Announce` (`tracker/announce.go`), cut at its lock boundaries.
-/
import Ocelot.Tracker.Types

namespace Ocelot.Tracker

/-! ## Requests and answers -/

inductive Event where
  | started
  | completed
  | stopped
  | other
  deriving DecidableEq

structure AnnounceRequest where
  infoHash : Bytes
  peerID : Bytes
  port : UInt16
  uploaded : Int64
  downloaded : Int64
  left : Int64
  corrupt : Int64
  compact : Bool
  event : Event
  ip : IP
  numWant : Int32
  deriving DecidableEq

structure AnnounceResponse where
  interval : Int32
  minInterval : Int32
  complete : Int32
  incomplete : Int32
  peers : Bytes
  warning : Bytes
  deriving DecidableEq

inductive AnnounceError where
  | passkeyNotFound
  | notAdmitted
  | notCompact
  | invalidPeerID
  | notWhitelisted
  | clientRejected (reason : Bytes)
  | announceRejected (reason : Bytes)
  | unregisteredTorrent
  | leechingForbidden
  deriving DecidableEq

def AnnounceError.message : AnnounceError → Bytes
  | .passkeyNotFound => lit "Passkey not found"
  | .notAdmitted => lit "not admitted to swarm"
  | .notCompact => lit "your client does not support compact announces"
  | .invalidPeerID => lit "invalid peer ID"
  | .notWhitelisted => lit "your client is not on the whitelist"
  | .clientRejected reason => lit "client rejected: " ++ reason
  | .announceRejected reason => lit "announce rejected: " ++ reason
  | .unregisteredTorrent => lit "unregistered torrent"
  | .leechingForbidden => lit "access denied, leeching forbidden"

inductive DBCall where
  | recordToken (user : UserID) (torrent : TorrentID) (downloaded : Int64)
  | recordUserStats (user : UserID) (uploaded downloaded : Int64)
  | recordPeer (user : UserID) (torrent : TorrentID) (active : Bool)
      (uploaded downloaded upSpeed downSpeed left corrupt : Int64) (announceTime announces : UInt32)
      (ip peerID userAgent : Bytes) (invalidIP : Bool)
  | recordPeerLight (user : UserID) (torrent : TorrentID) (announceTime announces : UInt32)
      (peerID : Bytes)
  | recordSnatch (user : UserID) (torrent : TorrentID) (time : Time) (ip : Bytes)
  | recordTorrent (torrent : TorrentID) (seeders leechers : UInt32) (snatched : Bool)
      (balance : Int64)
  deriving DecidableEq

structure AnnounceStats where
  userID : UserID
  torrentID : TorrentID
  effectiveUploaded : Int64
  effectiveDownloaded : Int64
  seeders : ℕ
  leechers : ℕ
  isSeeder : Bool
  isStopped : Bool
  timestamp : Time
  deriving DecidableEq

structure Env where
  numWantLimit : Int64
  announceInterval : Int64
  /-- `ClientDetector.DetectClientAnomaly peerID userAgent`: the reason, if flagged. -/
  clientDetector : Option (Bytes → Bytes → Option Bytes)
  /-- `AnomalyDetector.DetectAnomaly` on the cumulative values and the time of the announce. -/
  anomalyDetector : Option (Int64 → Int64 → Time → Option Bytes)
  commons : Bool
  /-- `int64(float64(change) / d.Seconds())`. -/
  perSecond : Int64 → Int → Int64
  /-- `uint32(d.Seconds())`. -/
  seconds : Int → UInt32
  /-- `net.IP.String`. -/
  ipString : IP → Bytes

structure Worker where
  admission : Option SwarmAdmissionPolicy := none
  whitelist : List Bytes := []
  torrents : TorrentList := ∅
  users : UserList := ∅
  stats : Stats := {}

structure Call where
  now : Time
  req : AnnounceRequest
  /-- The passkey under which `handleAnnounce` found the user. -/
  passkey : Bytes
  clientIP : IP
  userAgent : Bytes
  dbExec : DBCall → Bool
  selectPeers : Torrent → UserID → IP → Int32 → Bool → Bytes

structure Locals where
  inserted : Bool := false
  updateTorrent : Bool := false
  completedTorrent : Bool := false
  stoppedTorrent : Bool := false
  expireToken : Bool := false
  peerChanged : Bool := false
  invalidIP : Bool := false
  incLeechers : Bool := false
  incSeeders : Bool := false
  decLeechers : Bool := false
  decSeeders : Bool := false
  snatched : Bool := false
  active : Bool := true
  deriving DecidableEq

def Locals.ofRequest (req : AnnounceRequest) : Locals :=
  match req.event with
  | .completed => { completedTorrent := decide (req.left = 0) }
  | .stopped => { stoppedTorrent := true, peerChanged := true, updateTorrent := true, active := false }
  | _ => {}

/-! ## Finding the peer -/

inductive Side where
  | seeder
  | leecher
  deriving DecidableEq

variable (t : Torrent)

def Torrent.list : Side → PeerList
  | .seeder => t.seeders
  | .leecher => t.leechers

def Torrent.setList (side : Side) (l : PeerList) : Torrent :=
  match side with
  | .seeder => { t with seeders := l }
  | .leecher => { t with leechers := l }

def findOrCreatePeer (l : PeerList) (peerKey : Bytes) (user : User) : Peer × Bool × PeerList :=
  match l.lookup peerKey with
  | some peer => (peer, false, l)
  | none => ({ userID := user.id }, true, l.insert peerKey { userID := user.id })

structure Found where
  torrent : Torrent
  side : Side
  peer : Peer
  locals : Locals

/-- **The three entry branches**: missing data looks at the leechers only, a completion at the
leechers first, anything else at the seeders first. -/
def findPeer (req : AnnounceRequest) (peerKey : Bytes) (user : User) (t : Torrent) (v : Locals) : Found :=
  if 0 < req.left then
    -- The seeders are not looked at: a seeder that reports missing data gets a second entry.
    let (peer, inserted, l) := findOrCreatePeer t.leechers peerKey user
    ⟨{ t with leechers := l }, .leecher, peer, { v with inserted := inserted, incLeechers := inserted }⟩
  else if v.completedTorrent then
    match t.leechers.lookup peerKey with
    | none =>
      match t.seeders.lookup peerKey with
      | none =>
        let (peer, inserted, l) := findOrCreatePeer t.seeders peerKey user
        ⟨{ t with seeders := l }, .seeder, peer, { v with inserted := inserted, incSeeders := true }⟩
      -- A seeder that completes again has not completed.
      | some peer => ⟨t, .seeder, peer, { v with completedTorrent := false }⟩
    | some peer =>
      -- In both lists: the seeder entry is about to be overwritten by the move.
      ⟨t, .leecher, peer, { v with decSeeders := decide (peerKey ∈ t.seeders) }⟩
  else
    match t.seeders.lookup peerKey with
    | none =>
      match t.leechers.lookup peerKey with
      | some peer =>
        -- A leecher with nothing left to download becomes a seeder under this very lock.
        ⟨{ t with leechers := t.leechers.erase peerKey, seeders := t.seeders.insert peerKey peer },
          .seeder, peer, { v with peerChanged := true, decLeechers := true, incSeeders := true }⟩
      | none =>
        let (peer, inserted, l) := findOrCreatePeer t.seeders peerKey user
        ⟨{ t with seeders := l }, .seeder, peer, { v with inserted := inserted, incSeeders := true }⟩
    | some peer => ⟨t, .seeder, peer, v⟩

/-! ## Traffic -/

structure Accounted where
  peer : Peer
  balance : Int64
  locals : Locals
  upSpeed : Int64 := 0
  downSpeed : Int64 := 0
  db : List DBCall := []
  settled : Option AnnounceStats := none

structure Effective where
  uploaded : Int64
  downloaded : Int64
  token : Bool

def effectiveTraffic (user : User) (uploadedChange downloadedChange : Int64) : Effective :=
  if t.freeType = freeNeutral then ⟨0, 0, false⟩
  else if t.freeType = freeFree then ⟨uploadedChange, 0, false⟩
  else if user.id ∈ t.tokenedUsers then ⟨uploadedChange, 0, true⟩
  else ⟨uploadedChange, downloadedChange, false⟩

def creditTraffic (env : Env) (c : Call) (user : User) (t : Torrent) (peer : Peer) (v : Locals) : Accounted :=
  let uploadedChange := c.req.uploaded - peer.uploaded
  let downloadedChange := c.req.downloaded - peer.downloaded
  let corruptChange := c.req.corrupt - peer.corrupt
  let peer' : Peer := { peer with
      announces := peer.announces + 1
      uploaded := if 0 < uploadedChange then c.req.uploaded else peer.uploaded
      downloaded := if 0 < downloadedChange then c.req.downloaded else peer.downloaded
      corrupt := if 0 < corruptChange then c.req.corrupt else peer.corrupt }
  let balance := if 0 < corruptChange then t.balance - corruptChange else t.balance
  let v' : Locals := { v with
      updateTorrent := v.updateTorrent || decide (0 < corruptChange)
      peerChanged := v.peerChanged || decide (0 < uploadedChange) ||
        decide (0 < downloadedChange) || decide (0 < corruptChange) }
  if 0 < uploadedChange ∨ 0 < downloadedChange then
    let elapsed := c.now - peer.lastAnnounced
    let timed := peer.lastAnnounced ≠ 0 ∧ 0 < elapsed
    let effective := effectiveTraffic t user uploadedChange downloadedChange
    let up := effective.uploaded
    let down := effective.downloaded
    let token := effective.token
    { peer := peer'
      -- The balance takes the raw traffic; only what goes to the database is the effective one.
      balance := balance + uploadedChange - downloadedChange
      locals := { v' with updateTorrent := true, expireToken := token }
      upSpeed := if timed then env.perSecond uploadedChange elapsed else 0
      downSpeed := if timed then env.perSecond downloadedChange elapsed else 0
      db :=
        (if token then [DBCall.recordToken user.id t.id downloadedChange] else []) ++
          if 0 < up ∨ 0 < down then [DBCall.recordUserStats user.id up down] else []
      settled :=
        if env.commons ∧ (0 < up ∨ 0 < down) then
          some
            { userID := user.id, torrentID := t.id, effectiveUploaded := up
              effectiveDownloaded := down, seeders := t.seeders.size
              leechers := t.leechers.size, isSeeder := decide (c.req.left = 0)
              isStopped := v.stoppedTorrent, timestamp := c.now }
        else none }
  else { peer := peer', balance, locals := v' }

def accountTraffic (env : Env) (c : Call) (user : User) (t : Torrent) (peer : Peer) (v : Locals) : Accounted :=
  if v.inserted ∨ c.req.event = .started then
    -- A new session: nothing is credited, and the next announce is measured against this one.
    { peer :=
        { peer with
          firstAnnounced := c.now
          lastAnnounced := 0
          uploaded := c.req.uploaded
          downloaded := c.req.downloaded
          corrupt := c.req.corrupt
          announces := 1 }
      balance := t.balance
      locals := { v with updateTorrent := true, peerChanged := true } }
  else if c.req.uploaded < peer.uploaded ∨ c.req.downloaded < peer.downloaded then
    -- The client has started to count anew; `corrupt` keeps its old baseline here.
    { peer :=
        { peer with
          announces := peer.announces + 1
          uploaded := c.req.uploaded
          downloaded := c.req.downloaded }
      balance := t.balance
      locals := { v with peerChanged := true } }
  else creditTraffic env c user t peer v

def Call.effectiveIP (c : Call) : IP :=
  if c.req.ip = [] ∨ c.req.ip.isUnspecified then c.clientIP else c.req.ip

def placeAddress (ip : IP) (port : UInt16) (inserted : Bool) (peer : Peer) : Peer × Bool :=
  if !validateIPNotPrivate ip then ({ peer with invalidIP := true }, true)
  else if inserted ∨ peer.port ≠ port ∨ !peer.ip.equal ip then
    let ipPort := compactIPPort ip port
    let bad := decide (ipPort = [])
    ({ peer with port, ip, ipPort, invalidIP := peer.invalidIP || bad }, bad)
  else (peer, peer.invalidIP)

def peerIsVisible (user : User) (peer : Peer) : Bool :=
  (decide (peer.left = 0) || user.canLeech) && !peer.invalidIP

def refreshPeer (c : Call) (user : User) (inserted : Bool) (peer : Peer) : Peer × Bool :=
  let placed := placeAddress c.effectiveIP c.req.port inserted { peer with left := c.req.left }
  ({ placed.1 with lastAnnounced := c.now, visible := peerIsVisible user placed.1 }, placed.2)

/-! ## The sections -/

structure Looked where
  torrent : Torrent
  peer : Peer
  locals : Locals
  upSpeed : Int64
  downSpeed : Int64
  db : List DBCall
  settled : Option AnnounceStats

/-- **Section 1**, under `torrent.mu`: find the peer, account its traffic, place its address, and
store it back where it was found. -/
def lookupSection (env : Env) (c : Call) (user : User) (peerKey : Bytes) (t : Torrent) : Looked :=
  let found := findPeer c.req peerKey user t (Locals.ofRequest c.req)
  let acc := accountTraffic env c user found.torrent found.peer found.locals
  let refreshed := refreshPeer c user found.locals.inserted acc.peer
  let t' := { found.torrent with balance := acc.balance }
  { torrent := t'.setList found.side ((t'.list found.side).insert peerKey refreshed.1)
    peer := refreshed.1
    locals := { acc.locals with invalidIP := refreshed.2 }
    upSpeed := acc.upSpeed
    downSpeed := acc.downSpeed
    db := acc.db
    settled := acc.settled }

def Locals.settle (v : Locals) (left : Int64) : Locals :=
  if v.stoppedTorrent then
    -- Decided without a look at the list that section 5 will take the peer out of.
    if 0 < left then { v with decLeechers := true } else { v with decSeeders := true }
  else if v.completedTorrent then { v with snatched := true, updateTorrent := true }
  else v

/-- **Section 2**: `torrent.Completed++`. -/
def completeSection : Torrent := { t with completed := t.completed + 1 }

/-- **Section 3**: a completed leecher becomes a seeder, if it still is a leecher. -/
def moveSection (peerKey : Bytes) (t : Torrent) (v : Locals) : Torrent × Locals :=
  match t.leechers.lookup peerKey with
  | some oldPeer =>
    ({ t with
        seeders := t.seeders.insert peerKey oldPeer
        leechers := t.leechers.erase peerKey }, { v with decLeechers := true, incSeeders := true })
  -- It has left since section 1: nothing moves, and no counter does.
  | none => (t, v)

/-- **Section 4**: the token of the user is spent. -/
def expireSection (user : User) (t : Torrent) : Torrent := { t with tokenedUsers := t.tokenedUsers.erase user.id }

/-- **Section 5**: a stopped peer leaves the list its `left` speaks of. -/
def deleteSection (left : Int64) (peerKey : Bytes) (t : Torrent) : Torrent :=
  if 0 < left then { t with leechers := t.leechers.erase peerKey }
  else { t with seeders := t.seeders.erase peerKey }

def hour : Int := 3600 * 1000000000

/-- **Section 6**: flush the torrent row when it changed or is an hour old. -/
def flushSection (now : Time) (v : Locals) (t : Torrent) : Torrent × List DBCall :=
  if v.updateTorrent ∨ hour < now - t.lastFlushed then
    ({ t with lastFlushed := now },
      [.recordTorrent t.id (UInt32.ofNat t.seeders.size) (UInt32.ofNat t.leechers.size) v.snatched t.balance])
  else (t, [])

/-! ## Counters -/

inductive Counter where
  | user (side : Side)
  | stats (side : Side)
  deriving DecidableEq

structure CounterOp where
  counter : Counter
  inc : Bool
  deriving DecidableEq

def CounterOp.addend (op : CounterOp) : UInt32 := if op.inc then 1 else ~~~(0 : UInt32)

def bump (flag : Bool) (side : Side) (inc : Bool) : List CounterOp :=
  if flag then [⟨.user side, inc⟩, ⟨.stats side, inc⟩] else []

def Locals.counterOps (v : Locals) : List CounterOp :=
  bump v.incLeechers .leecher true ++ bump v.incSeeders .seeder true ++
    bump v.decLeechers .leecher false ++ bump v.decSeeders .seeder false

def Stats.count (s : Stats) : Side → UInt32
  | .seeder => s.seeders
  | .leecher => s.leechers

def Stats.add (s : Stats) (side : Side) (x : UInt32) : Stats :=
  match side with
  | .seeder => { s with seeders := s.seeders + x }
  | .leecher => { s with leechers := s.leechers + x }

def User.count (u : User) : Side → UInt32
  | .seeder => u.seeding
  | .leecher => u.leeching

def User.add (u : User) (side : Side) (x : UInt32) : User :=
  match side with
  | .seeder => { u with seeding := u.seeding + x }
  | .leecher => { u with leeching := u.leeching + x }

def UserList.modify (users : UserList) (passkey : Bytes) (f : User → User) : UserList :=
  match users.lookup passkey with
  | some u => users.insert passkey (f u)
  | none => users

def Worker.applyCounter (w : Worker) (passkey : Bytes) (op : CounterOp) : Worker :=
  match op.counter with
  | .user side => { w with users := UserList.modify w.users passkey fun u => u.add side op.addend }
  | .stats side => { w with stats := w.stats.add side op.addend }

def Worker.applyCounters (w : Worker) (passkey : Bytes) (ops : List CounterOp) : Worker :=
  ops.foldl (fun w op => w.applyCounter passkey op) w

/-! ## The call -/

def Worker.admit (env : Env) (w : Worker) (c : Call) : Except AnnounceError Torrent :=
  if w.admission.any fun policy => !policy.isAdmitted c.req.infoHash c.passkey then
    .error .notAdmitted
  else if !c.req.compact then .error .notCompact
  else if c.req.peerID.length ≠ 20 then .error .invalidPeerID
  else if !Whitelist.isAllowed w.whitelist c.req.peerID then .error .notWhitelisted
  else
    match env.clientDetector.bind fun detect => detect c.req.peerID c.userAgent with
    | some reason => .error (.clientRejected reason)
    | none =>
      match env.anomalyDetector.bind fun detect => detect c.req.uploaded c.req.downloaded c.now with
      | some reason => .error (.announceRejected reason)
      | none =>
        match w.torrents.lookup c.req.infoHash with
        | none => .error .unregisteredTorrent
        | some torrent => .ok torrent

def numwant (env : Env) (req : AnnounceRequest) (user : User) (v : Locals) : Int32 :=
  let limit := env.numWantLimit.toInt32
  let want := if req.numWant ≤ 0 then limit else if limit < req.numWant then limit else req.numWant
  if v.stoppedTorrent then 0
  else if v.completedTorrent then want
  else if !user.canLeech ∧ 0 < req.left then 0
  else want

def adaptiveInterval (seederCount leecherCount : ℕ) : Int32 :=
  if seederCount + leecherCount < 10 then 600
  else if seederCount + leecherCount < 100 then 1200
  else 2400

def announceResponse (env : Env) (c : Call) (user : User) (v : Locals) (peers : Bytes)
    (t : Torrent) : Except AnnounceError AnnounceResponse :=
  -- A user who may not leech is refused at the end, with the peer stored and counted.
  if !user.canLeech ∧ 0 < c.req.left then .error .leechingForbidden
  else
    let minInterval := env.announceInterval.toInt32
    let adaptive := adaptiveInterval t.seeders.size t.leechers.size
    .ok
      { interval := if adaptive < minInterval then minInterval else adaptive
        minInterval
        complete := Int32.ofNat t.seeders.size
        incomplete := Int32.ofNat t.leechers.size
        peers
        warning := if v.invalidIP then lit "Illegal character found in IP address" else [] }

def peerRow (env : Env) (c : Call) (user : User) (t : Torrent) (s : Looked) : DBCall :=
  let announceTime := env.seconds (c.now - s.peer.firstAnnounced)
  if s.locals.peerChanged then
    .recordPeer user.id t.id s.locals.active c.req.uploaded c.req.downloaded s.upSpeed s.downSpeed
      c.req.left c.req.corrupt announceTime s.peer.announces
      (if user.protectIP then [] else env.ipString c.effectiveIP) c.req.peerID c.userAgent
      s.peer.invalidIP
  else .recordPeerLight user.id t.id announceTime s.peer.announces c.req.peerID

def completionSections (peerKey : Bytes) (user : User) (t : Torrent) (v : Locals) : Torrent × Locals :=
  if v.stoppedTorrent then (t, v)
  else if v.completedTorrent then
    let moved :=
      if v.inserted then (completeSection t, v) else moveSection peerKey (completeSection t) v
    (if v.expireToken then expireSection user moved.1 else moved.1, moved.2)
  else (t, v)

def sectionsBefore (env : Env) (c : Call) (user : User) (peerKey : Bytes) (t : Torrent) : Torrent × Locals :=
  let s := lookupSection env c user peerKey t
  completionSections peerKey user s.torrent (s.locals.settle c.req.left)

def sectionsAfter (c : Call) (peerKey : Bytes) (v : Locals) (t : Torrent) : Torrent × List DBCall :=
  flushSection c.now v (if v.stoppedTorrent then deleteSection c.req.left peerKey t else t)

def Call.peerKey (c : Call) (user : User) (t : Torrent) : Bytes := peerKeyPrime c.req.peerID user.id t.id

structure Outcome where
  worker : Worker
  db : List DBCall := []
  /-- The torrent and user of `SiteComm.ExpireToken`. -/
  expired : Option (TorrentID × UserID) := none
  settled : Option AnnounceStats := none
  result : Except AnnounceError AnnounceResponse

def Worker.announceAdmitted (env : Env) (w : Worker) (c : Call) (user : User) (t : Torrent) : Outcome :=
  let peerKey := c.peerKey user t
  let s := lookupSection env c user peerKey t
  let done := sectionsBefore env c user peerKey t
  let v := done.2
  let peers := c.selectPeers done.1 user.id c.effectiveIP (numwant env c.req user v) (decide (0 < c.req.left))
  let w₁ : Worker := { w with stats := { w.stats with succAnnouncements := w.stats.succAnnouncements + 1 } }
  let w₂ := w₁.applyCounters c.passkey v.counterOps
  let flushed := sectionsAfter c peerKey v done.1
  let snatch : List DBCall :=
    if v.snatched then
      [.recordSnatch user.id t.id c.now (if user.protectIP then [] else env.ipString c.effectiveIP)]
    else []
  { worker := { w₂ with torrents := w.torrents.insert c.req.infoHash flushed.1 }
    db := (s.db ++ [peerRow env c user t s] ++ snatch ++ flushed.2).filter c.dbExec
    expired := if v.snatched ∧ v.expireToken then some (t.id, user.id) else none
    settled := s.settled
    result := announceResponse env c user v peers flushed.1 }

def Worker.announce (env : Env) (w : Worker) (c : Call) : Outcome :=
  match w.users.lookup c.passkey with
  | none => { worker := w, result := .error .passkeyNotFound }
  | some user =>
    match w.admit env c with
    | .error e => { worker := w, result := .error e }
    | .ok t => w.announceAdmitted env c user t

/-! ## A small swarm

One torrent, one user and one client, with nothing of the environment in the way. -/

namespace Sample

def env : Env where
  numWantLimit := 50
  announceInterval := 1800
  clientDetector := none
  anomalyDetector := none
  commons := false
  perSecond change elapsed := change / Int64.ofInt (elapsed / 1000000000)
  seconds elapsed := UInt32.ofInt (elapsed / 1000000000)
  ipString ip := ip

def infoHash : Bytes := List.replicate 20 0x11
def peerID : Bytes := List.replicate 20 0x22
def passkey : Bytes := List.replicate 32 0x33
def user : User := newUser 7 true false
def torrent : Torrent := newTorrent 1

def worker : Worker where
  torrents := (∅ : TorrentList).insert infoHash torrent
  users := (∅ : UserList).insert passkey user

def call (event : Event) (left uploaded : Int64) : Call where
  now := 1000000000
  req :=
    { infoHash, peerID, port := 6881, uploaded, downloaded := 0, left, corrupt := 0
      compact := true, event, ip := [], numWant := 0 }
  passkey := passkey
  clientIP := [1, 2, 3, 4]
  userAgent := []
  dbExec _ := true
  selectPeers _ _ _ _ _ := []

end Sample

end Ocelot.Tracker
