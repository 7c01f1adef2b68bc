/-
# The REST control API (`tracker/control_server.go`).
-/
import Ocelot.Tracker.Update

namespace Ocelot.Tracker

structure TorrentBody where
  id : UInt32
  infoHash : Bytes
  freeType : UInt8

structure UserBody where
  id : UInt32
  passkey : Bytes
  newPasskey : Bytes
  canLeech : Option Bool
  protectIP : Option Bool

structure FlagsBody where
  canLeech : Option Bool
  protectIP : Option Bool

structure TokenBody where
  userID : UInt32
  infoHash : Bytes

inductive ControlRequest where
  | postTorrents (body : Option TorrentBody)
  | deleteTorrents (infoHash : Bytes)
  | patchTorrents (infoHash : Bytes) (body : Option (Option UInt8))
  | postUsers (body : Option UserBody)
  | patchUsers (passkey : Bytes) (body : Option FlagsBody)
  | deleteUsers (passkey : Bytes)
  | postWhitelist (body : Option Bytes)
  | deleteWhitelist (entry : Bytes)
  | postTokens (body : Option TokenBody)
  | deleteTokens (body : Option TokenBody)

structure Controlled where
  worker : Worker
  db : List UpdateCall := []
  status : ℕ
  message : Bytes

def Controlled.Succeeded (c : Controlled) : Prop := c.status < 300

def Worker.writeErr (w : Worker) (status : ℕ) (message : String) : Controlled :=
  { worker := w, status, message := lit message }

def Worker.writeJSON (w : Worker) (status : ℕ) (message : String) : Controlled :=
  { worker := w, status, message := lit message }

variable (dbError : UpdateCall → Option Bytes) (w : Worker)

def Worker.thenRecord (call : UpdateCall) (status : ℕ) (message : String) : Controlled :=
  match dbError call with
  | some err => { worker := w, status := 500, message := err }
  | none => { w.writeJSON status message with db := [call] }

def Worker.postTorrents : Option TorrentBody → Controlled
  | none => w.writeErr 400 "invalid JSON body"
  | some req =>
    if req.id = 0 ∨ req.infoHash = [] then w.writeErr 400 "id and info_hash are required"
    else if req.infoHash ∈ w.torrents then w.writeErr 409 "torrent already exists"
    else
      let torrent := { newTorrent req.id with freeType := req.freeType }
      -- There is no `RecordTorrent` here.
      { w with torrents := w.torrents.insert req.infoHash torrent }.thenRecord dbError
        (.recordTorrentHash req.id req.infoHash) 201 "torrent added"

def Worker.deleteTorrents (infoHash : Bytes) : Controlled :=
  if infoHash = [] then w.writeErr 400 "info_hash query param required"
  else { w with torrents := w.torrents.erase infoHash }.writeJSON 200 "torrent deleted"

def Worker.patchTorrents (infoHash : Bytes) (body : Option (Option UInt8)) : Controlled :=
  if infoHash = [] then w.writeErr 400 "info_hash query param required"
  else
    match w.torrents.lookup infoHash with
    | none => w.writeErr 404 "torrent not found"
    | some torrent =>
      match body with
      | none => w.writeErr 400 "invalid JSON body"
      | some freeType =>
        { w with
          torrents :=
            w.torrents.insert infoHash
              { torrent with freeType := freeType.getD torrent.freeType } }.writeJSON 200 "torrent updated"

def Worker.postPasskey (req : UserBody) : Controlled :=
  if req.newPasskey.length ≠ 32 then w.writeErr 400 "new_passkey must be 32 characters"
  else
    match w.users.lookup req.passkey with
    | none => w.writeErr 404 "user not found"
    | some user =>
      -- There is no `DeleteUserPasskey` here.
      { w with users := (w.users.erase req.passkey).insert req.newPasskey user }.thenRecord dbError
        (.recordUserPasskey user.id req.newPasskey user.canLeech user.protectIP) 200 "passkey changed"

def Worker.postUser (req : UserBody) : Controlled :=
  if req.id = 0 ∨ req.passkey = [] then w.writeErr 400 "id and passkey are required"
  else if req.passkey.length ≠ 32 then w.writeErr 400 "passkey must be 32 characters"
  else if req.passkey ∈ w.users then w.writeErr 409 "passkey already exists"
  else
    let canLeech := req.canLeech.getD true
    let protectIP := req.protectIP.getD false
    { w with users := w.users.insert req.passkey (newUser req.id canLeech protectIP) }.thenRecord dbError
      (.recordUserPasskey req.id req.passkey canLeech protectIP) 201 "user added"

def Worker.postUsers : Option UserBody → Controlled
  | none => w.writeErr 400 "invalid JSON body"
  | some req => if req.newPasskey ≠ [] then w.postPasskey dbError req else w.postUser dbError req

def Worker.patchUsers (passkey : Bytes) (body : Option FlagsBody) : Controlled :=
  if passkey = [] then w.writeErr 400 "passkey query param required"
  else
    match w.users.lookup passkey with
    | none => w.writeErr 404 "user not found"
    | some user =>
      match body with
      | none => w.writeErr 400 "invalid JSON body"
      | some req =>
        { w with
          users :=
            w.users.insert passkey
              { user with
                canLeech := req.canLeech.getD user.canLeech
                protectIP := req.protectIP.getD user.protectIP } }.writeJSON 200 "user updated"

def Worker.deleteUsers (passkey : Bytes) : Controlled :=
  if passkey = [] then w.writeErr 400 "passkey query param required"
  else { w with users := w.users.erase passkey }.writeJSON 200 "user removed"

def Worker.postWhitelist : Option Bytes → Controlled
  | none => w.writeErr 400 "prefix required"
  | some entry =>
    if entry = [] then w.writeErr 400 "prefix required"
    else
      { w with whitelist := Whitelist.add w.whitelist entry }.thenRecord dbError
        (.addWhitelistEntry entry) 201 "entry added"

def Worker.deleteWhitelist (entry : Bytes) : Controlled :=
  if entry = [] then w.writeErr 400 "prefix query param required"
  else
    { w with whitelist := Whitelist.remove w.whitelist entry }.thenRecord dbError
      (.removeWhitelistEntry entry) 200 "entry removed"

def Worker.handleTokens (change : Finset UserID → UserID → Finset UserID)
    (message : String) : Option TokenBody → Controlled
  | none => w.writeErr 400 "invalid JSON body"
  | some req =>
    if req.userID = 0 ∨ req.infoHash = [] then w.writeErr 400 "user_id and info_hash are required"
    else
      match w.torrents.lookup req.infoHash with
      | none => w.writeErr 404 "torrent not found"
      | some torrent =>
        { w with
          torrents :=
            w.torrents.insert req.infoHash
              { torrent with tokenedUsers := change torrent.tokenedUsers req.userID } }.writeJSON 200
          message

def Worker.postTokens : Option TokenBody → Controlled :=
  w.handleTokens (fun users id => insert id users) "token added"

def Worker.deleteTokens : Option TokenBody → Controlled :=
  w.handleTokens (fun users id => users.erase id) "token removed"

/-- **The routes of the control API.** -/
def Worker.control : ControlRequest → Controlled
  | .postTorrents body => w.postTorrents dbError body
  | .deleteTorrents infoHash => w.deleteTorrents infoHash
  | .patchTorrents infoHash body => w.patchTorrents infoHash body
  | .postUsers body => w.postUsers dbError body
  | .patchUsers passkey body => w.patchUsers passkey body
  | .deleteUsers passkey => w.deleteUsers passkey
  | .postWhitelist body => w.postWhitelist dbError body
  | .deleteWhitelist entry => w.deleteWhitelist dbError entry
  | .postTokens body => w.postTokens body
  | .deleteTokens body => w.deleteTokens body

namespace Worker

variable {dbError : UpdateCall → Option Bytes} {w : Worker}
  {status : ℕ} {message : String}

theorem writeErr_not_succeeded (hstat : 400 ≤ status) (message : String) :
    ¬ (w.writeErr status message).Succeeded := by
  show ¬ status < 300
  omega

theorem control_check_ok {c : Prop} [Decidable c] {next : Controlled} (hstat : 400 ≤ status)
    (h : (if c then w.writeErr status message else next).Succeeded) :
    ¬ c ∧ next.Succeeded ∧ (if c then w.writeErr status message else next) = next := by
  by_cases hc : c
  · rw [if_pos hc] at h
    exact absurd h (writeErr_not_succeeded hstat message)
  · rw [if_neg hc] at h
    exact ⟨hc, h, if_neg hc⟩

theorem thenRecord_ok {call : UpdateCall} (h : (w.thenRecord dbError call status message).Succeeded) :
    w.thenRecord dbError call status message = { w.writeJSON status message with db := [call] } := by
  unfold thenRecord at h ⊢
  cases hdb : dbError call with
  | none => rfl
  | some =>
    rw [hdb] at h
    exact absurd (show 500 < 300 from h) (by decide)

end Worker

end Ocelot.Tracker
