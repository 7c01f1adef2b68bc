/-
# An announce request on its way to the worker (`Server.handleAnnounce`).
-/
import Ocelot.Tracker.AnnounceCounters
import Ocelot.Tracker.Update

namespace Ocelot.Tracker

def parseInt64 (s : Bytes) : Int64 :=
  match atoi s with
  | none => 0
  | some n => if n < 0 then 0 else Int64.ofInt n

def parsePort (s : Bytes) : Option UInt16 :=
  (digits s).bind fun n => if n < 2 ^ 16 then some (UInt16.ofNat n) else none

def Event.parse (s : Bytes) : Event :=
  if s = lit "started" then .started
  else if s = lit "completed" then .completed
  else if s = lit "stopped" then .stopped
  else .other

structure HandlerEnv extends Env where
  /-- `net.ParseIP`; the empty address where it returns `nil`. -/
  parseIP : Bytes → IP
  /-- `strings.TrimSpace`. -/
  trimSpace : Bytes → Bytes

variable (env : HandlerEnv)

def parseAnnounceParams (params : Query) (clientIP : IP) : Except Bytes AnnounceRequest :=
  if params.get "info_hash" = [] then .error (lit "missing info_hash")
  else if params.get "peer_id" = [] then .error (lit "missing peer_id")
  else if params.get "port" = [] then .error (lit "missing port")
  else
    match parsePort (params.get "port") with
    | none => .error (lit "invalid port")
    | some port =>
      .ok
        { infoHash := params.get "info_hash"
          peerID := params.get "peer_id"
          port := port
          uploaded := parseInt64 (params.get "uploaded")
          downloaded := parseInt64 (params.get "downloaded")
          left := parseInt64 (params.get "left")
          corrupt := parseInt64 (params.get "corrupt")
          compact := decide (params.get "compact" = lit "1")
          event := .parse (params.get "event")
          ip :=
            if params.get "ip" ≠ [] then env.parseIP (params.get "ip")
            else if params.get "ipv4" ≠ [] then env.parseIP (params.get "ipv4")
            else clientIP
          numWant := (parseInt64 (params.get "numwant")).toInt32 }

structure AnnounceHTTP where
  passkey : Bytes
  clientIP : IP
  params : Query
  /-- The `X-Forwarded-For` header. -/
  forwardedFor : Bytes
  userAgent : Bytes
  now : Time
  dbExec : DBCall → Bool
  selectPeers : Torrent → UserID → IP → Int32 → Bool → Bytes

def HandlerEnv.forwardedIP (xff : Bytes) : IP :=
  let first := xff.takeWhile (· ≠ 44)
  -- a comma, but not at the very front
  if 0 < first.length ∧ first.length < xff.length then env.parseIP (env.trimSpace first)
  else env.parseIP xff

def HandlerEnv.requestIP (ip : IP) (xff : Bytes) : IP :=
  if (ip = [] ∨ ip.isUnspecified) ∧ xff ≠ [] then env.forwardedIP xff else ip

def AnnounceHTTP.call (r : AnnounceHTTP) (env : HandlerEnv) : Except Bytes Call :=
  (parseAnnounceParams env r.params r.clientIP).map fun req =>
    { now := r.now
      req := { req with ip := env.requestIP req.ip r.forwardedFor }
      passkey := r.passkey
      clientIP := r.clientIP
      userAgent := r.userAgent
      dbExec := r.dbExec
      selectPeers := r.selectPeers }

structure Handled where
  worker : Worker
  db : List DBCall := []
  result : Except Bytes AnnounceResponse

def Worker.handleAnnounce (w : Worker) (r : AnnounceHTTP) : Handled :=
  if r.passkey ∉ w.users then { worker := w, result := .error AnnounceError.passkeyNotFound.message }
  else
    match r.call env with
    | .error message => { worker := w, result := .error message }
    | .ok c =>
      let outcome := w.announce env.toEnv c
      { worker := outcome.worker
        db := outcome.db
        result := outcome.result.mapError AnnounceError.message }

def Worker.blocks (w : Worker) (r : AnnounceHTTP) : Bool :=
  match r.call env with
  | .error _ => true
  | .ok c =>
    match w.admit env.toEnv c with
    | .error _ => true
    | .ok _ => false

def Worker.TurnsAway (w : Worker) (r : AnnounceHTTP) : Prop :=
  (∃ message, (w.handleAnnounce env r).result = .error message) ∧
    (w.handleAnnounce env r).worker.torrents = w.torrents ∧
    (w.handleAnnounce env r).worker.stats = w.stats

variable (s : Stats) (side : Side) (x : UInt32) (env : Env) (w : Worker) (pk : Bytes) (ops : List CounterOp)
  (c : Call) (user : User) (t : Torrent)

theorem Stats.succAnnouncements_add : (s.add side x).succAnnouncements = s.succAnnouncements := by
  cases side <;> rfl

theorem Worker.succAnnouncements_applyCounters :
    (w.applyCounters pk ops).stats.succAnnouncements = w.stats.succAnnouncements := by
  induction ops generalizing w with
  | nil => rfl
  | cons op _ ih =>
    refine (ih (w.applyCounter pk op)).trans ?_
    unfold Worker.applyCounter
    split
    · rfl
    · exact Stats.succAnnouncements_add _ _ _

theorem Worker.succAnnouncements_announceAdmitted :
    (w.announceAdmitted env c user t).worker.stats.succAnnouncements = w.stats.succAnnouncements + 1 :=
  Worker.succAnnouncements_applyCounters _ _ _

theorem Worker.stats_announceAdmitted_ne : (w.announceAdmitted env c user t).worker.stats ≠ w.stats := by
  intro heq
  have hcnt := w.succAnnouncements_announceAdmitted env c user t
  rw [heq] at hcnt
  have hnat := congrArg UInt64.toNat hcnt
  rw [UInt64.toNat_add] at hnat
  have hlt := w.stats.succAnnouncements.toNat_lt
  have hone : (1 : UInt64).toNat = 1 := rfl
  omega

theorem Worker.handleAnnounce_turnedAway_iff (env : HandlerEnv) {w : Worker} {r : AnnounceHTTP} {user : User}
    (huser : w.users.lookup r.passkey = some user) : w.TurnsAway env r ↔ w.blocks env r = true := by
  have hmem : ¬ r.passkey ∉ w.users := not_not.2 (Finmap.mem_of_lookup_eq_some huser)
  unfold Worker.TurnsAway Worker.handleAnnounce Worker.blocks
  rw [if_neg hmem]
  cases hcall : r.call env with
  | error message => exact ⟨fun _ => rfl, fun _ => ⟨⟨message, rfl⟩, rfl, rfl⟩⟩
  | ok c =>
    have hkey : c.passkey = r.passkey := by
      unfold AnnounceHTTP.call at hcall
      cases hparams : parseAnnounceParams env r.params r.clientIP with
      | error =>
        rw [hparams] at hcall
        cases hcall
      | ok =>
        rw [hparams] at hcall
        cases hcall
        rfl
    dsimp only
    unfold Worker.announce
    rw [hkey, huser]
    cases hadm : w.admit env.toEnv c with
    | error e => exact ⟨fun _ => rfl, fun _ => ⟨⟨e.message, rfl⟩, rfl, rfl⟩⟩
    | ok t =>
      constructor
      · rintro ⟨-, -, hstats⟩
        exact absurd hstats (w.stats_announceAdmitted_ne env.toEnv c user t)
      · intro hfalse
        cases hfalse

end Ocelot.Tracker
