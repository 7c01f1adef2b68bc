/-
# Bans (`tracker/fraud_enforcer.go`).
-/
import Mathlib.Data.Rat.Defs
import Ocelot.Lib.Run
import Ocelot.Tracker.AnnounceHandler
import Ocelot.Tracker.UpdateErrors
import Ocelot.Tracker.UpdateSpec

namespace Ocelot.Tracker

open Sample

structure UserFlaggedEvent where
  traceID : Bytes
  userID : UserID
  score : ℚ

structure UserUnflaggedEvent where
  userID : UserID

structure UserBannedEvent where
  traceID : Bytes
  userID : UserID
  reason : Bytes

structure FlagRecord where
  score : ℚ := 0
  flaggedAt : Time := 0
  strikes : Int64 := 0

def strikesToBan : Int64 := 3

def scoreBanThresh : ℚ := 8106479329266893 / 9007199254740992

structure Enforcement where
  worker : Worker
  flags : Finmap fun _ : UserID => FlagRecord := ∅
  bans : List UserBannedEvent := []

open Enforcement

/-- `UserList.GetByID`: the passkey of the first user with the id, in the order in which `range`
visits the map. -/
def UserList.getByID (users : UserList) (order : List Bytes) (id : UserID) : Option Bytes :=
  order.find? fun passkey => (users.lookup passkey).any fun user => user.id == id

namespace Enforcement

variable (s : Enforcement)

def modifyUser (passkey : Bytes) (f : User → User) : Enforcement :=
  { s with worker := { s.worker with users := UserList.modify s.worker.users passkey f } }

def onFlagged (now : Time) (order : List Bytes) (ev : UserFlaggedEvent) : Enforcement :=
  let strikes := ((s.flags.lookup ev.userID).getD {}).strikes + 1
  let s₁ := { s with flags := s.flags.insert ev.userID ⟨ev.score, now, strikes⟩ }
  match UserList.getByID s.worker.users order ev.userID with
  | none => s₁
  | some passkey =>
    if scoreBanThresh ≤ ev.score ∨ strikesToBan ≤ strikes then
      { s₁.modifyUser passkey fun user => { user with deleted := true } with
        bans := s.bans ++ [⟨ev.traceID, ev.userID, lit "fraud_enforcer: score_threshold_exceeded"⟩] }
    else s₁.modifyUser passkey fun user => { user with canLeech := false }

def onUnflagged (order : List Bytes) (ev : UserUnflaggedEvent) : Enforcement :=
  let flags :=
    match s.flags.lookup ev.userID with
    | none => s.flags
    | some record => s.flags.insert ev.userID { record with strikes := max 0 (record.strikes - 1) }
  let s₁ := { s with flags }
  match UserList.getByID s.worker.users order ev.userID with
  | none => s₁
  | some passkey =>
    s₁.modifyUser passkey fun user => if user.deleted then user else { user with canLeech := true }

end Enforcement

inductive EnforcementLabel where
  | flagged (now : Time) (order : List Bytes) (ev : UserFlaggedEvent)
  | unflagged (order : List Bytes) (ev : UserUnflaggedEvent)
  | update (env : UpdateEnv) (q : Query)
  | announce (env : HandlerEnv) (r : AnnounceHTTP)

namespace Enforcement

def step (s : Enforcement) : EnforcementLabel → Option Enforcement
  | .flagged now order ev => some (s.onFlagged now order ev)
  | .unflagged order ev => some (s.onUnflagged order ev)
  | .update env q =>
    if q.action = .addUser then none
    else some { s with worker := (s.worker.handleUpdate env q).worker }
  | .announce env r => some { s with worker := (s.worker.handleAnnounce env r).worker }

def Banned (s : Enforcement) (id : UserID) : Prop := ∃ ban ∈ s.bans, ban.userID = id

instance (s : Enforcement) (id : UserID) : Decidable (s.Banned id) :=
  inferInstanceAs (Decidable (∃ ban ∈ s.bans, ban.userID = id))

end Enforcement

namespace Enforcement

variable {s t : Enforcement} (s : Enforcement)

def BanHolds : EnforcementLabel → Prop
  | .announce env r =>
    ∀ user, s.worker.users.lookup r.passkey = some user → s.Banned user.id → s.worker.TurnsAway env r
  | _ => True

def BannedBlocked : EnforcementLabel → Prop
  | .announce env r =>
    ∀ user, s.worker.users.lookup r.passkey = some user → s.Banned user.id → s.worker.blocks env r = true
  | _ => True

theorem banHolds_iff_bannedBlocked (l : EnforcementLabel) : s.BanHolds l ↔ s.BannedBlocked l := by
  cases l with
  | flagged | unflagged | update => exact Iff.rfl
  | announce env =>
    constructor
    · intro h user huser hban
      exact (Worker.handleAnnounce_turnedAway_iff env huser).1 (h user huser hban)
    · intro h user huser hban
      exact (Worker.handleAnnounce_turnedAway_iff env huser).2 (h user huser hban)

/-- **When the bans of a run hold**: for every sequence of events, admin actions other than
`add_user` and announces, every announce of a banned user is refused without a change if and only if
each of them is blocked by the parameters or by a check in front of the torrent lock. -/
theorem ban_holds_iff (s : Enforcement) (ls : List EnforcementLabel) :
    Run.Meets step BanHolds s ls ↔ Run.Meets step BannedBlocked s ls := by
  constructor
  · intro h pre l post t hsplit hrun
    exact (banHolds_iff_bannedBlocked t l).1 (h pre l post t hsplit hrun)
  · intro h pre l post t hsplit hrun
    exact (banHolds_iff_bannedBlocked t l).2 (h pre l post t hsplit hrun)

end Enforcement

namespace Sample

def handlerEnv : HandlerEnv where
  toEnv := env
  parseIP s := s
  trimSpace s := s

def announceRequest : AnnounceHTTP where
  passkey := passkey
  clientIP := [1, 2, 3, 4]
  params := [(lit "info_hash", infoHash), (lit "peer_id", peerID), (lit "port", lit "6881"),
      (lit "left", lit "0"), (lit "compact", lit "1"), (lit "event", lit "started")]
  forwardedFor := []
  userAgent := []
  now := 1000000000
  dbExec _ := true
  selectPeers _ _ _ _ _ := []

def flagged : EnforcementLabel := .flagged 0 [passkey] { traceID := [], userID := user.id, score := 95 / 100 }

end Sample

/-- **A banned user announces**: the ban is published and the user marked, and the next announce is
answered and stores a seeder. -/
theorem Enforcement.banned_user_announces : (∃ s, step { worker := Sample.worker } Sample.flagged = some s ∧
      s.Banned Sample.user.id ∧ (s.worker.users.lookup Sample.passkey).map User.deleted = some true ∧
      (s.worker.handleAnnounce Sample.handlerEnv Sample.announceRequest).result.isOk = true ∧
      (s.worker.handleAnnounce Sample.handlerEnv Sample.announceRequest).worker.count .seeder = 1) ∧
    ¬ Run.Meets step BanHolds { worker := Sample.worker }
      [Sample.flagged, .announce Sample.handlerEnv Sample.announceRequest] := by
  obtain ⟨s, hs, hban, huser, hansw, hsto⟩ :
      ∃ s, step { worker := Sample.worker } Sample.flagged = some s ∧ s.Banned Sample.user.id ∧
        s.worker.users.lookup passkey = some { user with deleted := true } ∧
        (s.worker.handleAnnounce handlerEnv announceRequest).result.isOk = true ∧
        (s.worker.handleAnnounce handlerEnv announceRequest).worker.count .seeder = 1 := by
    decide +kernel
  refine ⟨⟨s, hs, hban, by rw [huser]; rfl, hansw, hsto⟩, ?_⟩
  intro hmeets
  have hrun : Run.exec step { worker := Sample.worker } [Sample.flagged] = some s := by
    rw [Run.exec, hs]
    rfl
  have hholds := hmeets [flagged] (.announce handlerEnv announceRequest) [] s rfl hrun
  obtain ⟨⟨_, href⟩, -⟩ := hholds _ huser hban
  rw [href] at hansw
  cases hansw

end Ocelot.Tracker
