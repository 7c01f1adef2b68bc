/-
# The admin API (`tracker/update.go`).
-/
import Ocelot.Tracker.Announce

namespace Ocelot.Tracker

abbrev Query := List (Bytes × Bytes)

def Query.get (q : Query) (name : String) : Bytes := (q.lookup (lit name)).getD []

def digit (b : UInt8) : Option ℕ := if 48 ≤ b ∧ b ≤ 57 then some (b.toNat - 48) else none

def digits (s : Bytes) : Option ℕ :=
  if s = [] then none
  else s.foldl (fun n b => n.bind fun n => (digit b).map fun d => 10 * n + d) (some 0)

def atoi : Bytes → Option ℤ
  | 45 :: s => (digits s).bind fun n => if n ≤ 2 ^ 63 then some (-(n : ℤ)) else none
  | 43 :: s => (digits s).bind fun n => if n < 2 ^ 63 then some (n : ℤ) else none
  | s => (digits s).bind fun n => if n < 2 ^ 63 then some (n : ℤ) else none

def decimal (n : ℤ) : Bytes := lit (toString n)

def positiveID (s : Bytes) : Option ℤ := (atoi s).filter fun id => 0 < id

inductive UpdateCall where
  | recordTorrent (id : TorrentID)
  | recordTorrentHash (id : TorrentID) (infoHash : Bytes)
  | deleteTorrentHash (infoHash : Bytes)
  | recordUserPasskey (id : UserID) (passkey : Bytes) (canLeech protectIP : Bool)
  | deleteUserPasskey (passkey : Bytes)
  | addWhitelistEntry (entry : Bytes)
  | removeWhitelistEntry (entry : Bytes)
  deriving DecidableEq

structure UpdateEnv where
  dbError : UpdateCall → Option Bytes
  /-- The hashes in the order in which `range` visits the torrent map. -/
  order : List Bytes
  /-- `set_priority_class` and `set_budget`, which are answered by the economic subsystem. -/
  commons : Query → Except Bytes Bytes

structure Updated where
  worker : Worker
  db : List UpdateCall := []
  result : Except Bytes Bytes

def Worker.updateError (w : Worker) (message : Bytes) : Updated := { worker := w, result := .error message }

variable (env : UpdateEnv) (w : Worker)

def Worker.withDB (heading : String) (call : UpdateCall) (next : Updated) : Updated :=
  match env.dbError call with
  | some err => w.updateError (lit heading ++ err)
  | none => { next with db := call :: next.db }

variable (q : Query)

def Worker.addTorrent : Updated :=
  match positiveID (q.get "id") with
  | none => w.updateError (lit "Invalid torrent_id")
  | some id =>
    let infoHash := q.get "info_hash"
    if infoHash = [] then w.updateError (lit "Missing info_hash")
    else if infoHash ∈ w.torrents then w.updateError (lit "Torrent already exists")
    else
      let freeType := (atoi (q.get "free_type")).getD 0
      let torrent := { newTorrent (UInt32.ofInt id) with freeType := UInt8.ofInt freeType }
      -- Both rows are written before the torrent can be announced.
      w.withDB env "DB error recording torrent: " (.recordTorrent (UInt32.ofInt id))
        (w.withDB env "DB error recording torrent hash: " (.recordTorrentHash (UInt32.ofInt id) infoHash)
          { worker := { w with torrents := w.torrents.insert infoHash torrent }
            result := .ok (lit "Added torrent " ++ decimal id) })

def Worker.changeTorrent (infoHash : Bytes) (change : Torrent → Torrent) (message : Bytes) : Updated :=
  match w.torrents.lookup infoHash with
  | none => w.updateError (lit "torrent not found")
  | some torrent =>
    { worker := { w with torrents := w.torrents.insert infoHash (change torrent) }
      result := .ok message }

def namedFreeType (s : Bytes) : Option ℤ := (atoi s).filter fun n => 0 ≤ n ∧ n ≤ 2

def Worker.updateTorrent : Updated :=
  let infoHash := q.get "info_hash"
  if infoHash = [] then w.updateError (lit "Missing info_hash")
  else
    w.changeTorrent infoHash (fun torrent =>
        match namedFreeType (q.get "free_type") with
        | none => torrent
        | some n => { torrent with freeType := UInt8.ofInt n })
      (lit "Updated torrent " ++ infoHash)

def Worker.hasID (id : TorrentID) (infoHash : Bytes) : Bool :=
  (w.torrents.lookup infoHash).any fun torrent => torrent.id == id

def Worker.deleteTorrent : Updated :=
  let infoHash := q.get "info_hash"
  let idStr := q.get "id"
  if infoHash = [] ∧ idStr = [] then w.updateError (lit "Missing info_hash or id")
  else if infoHash = [] then
    match positiveID idStr with
    | none => w.updateError (lit "Invalid torrent id")
    | some id =>
      match env.order.find? (w.hasID (UInt32.ofInt id)) with
      | none => w.updateError (lit "Torrent not found")
      | some foundHash =>
        let w' : Worker := { w with torrents := w.torrents.erase foundHash }
        -- Under the empty hash: it is gone from the map, and the answer is that it was not found.
        if foundHash = [] then w'.updateError (lit "Torrent not found")
        else
          w'.withDB env "DB error deleting torrent hash: " (.deleteTorrentHash foundHash)
            { worker := w', result := .ok (lit "Deleted torrent " ++ decimal id) }
  else
    w.withDB env "DB error deleting torrent hash: " (.deleteTorrentHash infoHash)
      { worker := { w with torrents := w.torrents.erase infoHash }
        result := .ok (lit "Deleted torrent " ++ infoHash) }

def freeTypeName (n : ℤ) : Bytes :=
  if n = 0 then lit "normal" else if n = 1 then lit "free" else lit "neutral"

def Worker.changeFreeleech : Updated :=
  let infoHash := q.get "info_hash"
  if infoHash = [] then w.updateError (lit "Missing info_hash")
  else if infoHash ∉ w.torrents then w.updateError (lit "torrent not found")
  else
    match namedFreeType (q.get "free_type") with
    | none => w.updateError (lit "Invalid free_type (0=normal, 1=free, 2=neutral)")
    | some n =>
      w.changeTorrent infoHash (fun torrent => { torrent with freeType := UInt8.ofInt n })
        (lit "Set torrent to " ++ freeTypeName n)

def Worker.addUser : Updated :=
  match positiveID (q.get "id") with
  | none => w.updateError (lit "Invalid user_id")
  | some id =>
    let passkey := q.get "passkey"
    if passkey = [] then w.updateError (lit "Missing passkey")
    else if passkey.length ≠ 32 then w.updateError (lit "Passkey must be 32 characters")
    else if passkey ∈ w.users then w.updateError (lit "Passkey already exists")
    else
      let canLeech := decide (q.get "can_leech" ≠ lit "0")
      let protectIP := decide (q.get "protect_ip" = lit "1")
      w.withDB env "DB error recording user passkey: "
        (.recordUserPasskey (UInt32.ofInt id) passkey canLeech protectIP)
        { worker :=
            { w with
              users := w.users.insert passkey (newUser (UInt32.ofInt id) canLeech protectIP) }
          result := .ok (lit "Added user " ++ decimal id) }

def updatedFlags (user : User) : Bool × Bool :=
  (if q.get "can_leech" = [] then user.canLeech else decide (q.get "can_leech" ≠ lit "0"),
    if q.get "protect_ip" = [] then user.protectIP else decide (q.get "protect_ip" = lit "1"))

def Worker.updateUser : Updated :=
  let passkey := q.get "passkey"
  if passkey = [] then w.updateError (lit "Missing passkey")
  else
    match w.users.lookup passkey with
    | none => w.updateError (lit "User not found")
    | some user =>
      let flags := updatedFlags q user
      w.withDB env "DB error updating user passkey: "
        (.recordUserPasskey user.id passkey flags.1 flags.2)
        { worker :=
            { w with
              users :=
                w.users.insert passkey { user with canLeech := flags.1, protectIP := flags.2 } }
          result := .ok (lit "Updated user " ++ decimal user.id.toNat) }

def Worker.removeUser : Updated :=
  let passkey := q.get "passkey"
  if passkey = [] then w.updateError (lit "Missing passkey")
  else
    match w.users.lookup passkey with
    | none => w.updateError (lit "User not found")
    | some user =>
      w.withDB env "DB error deleting user passkey: " (.deleteUserPasskey passkey)
        { worker := { w with users := w.users.erase passkey }
          result := .ok (lit "Removed user " ++ decimal user.id.toNat) }

def Worker.changePasskey : Updated :=
  let oldPasskey := q.get "old_passkey"
  let newPasskey := q.get "new_passkey"
  if oldPasskey = [] ∨ newPasskey = [] then
    w.updateError (lit "Missing old_passkey or new_passkey")
  else
    match w.users.lookup oldPasskey with
    | none => w.updateError (lit "User not found")
    | some user =>
      if newPasskey ∈ w.users then w.updateError (lit "New passkey already exists")
      else
        w.withDB env "DB error recording new passkey: "
          (.recordUserPasskey user.id newPasskey user.canLeech user.protectIP)
          (w.withDB env "DB error deleting old passkey: " (.deleteUserPasskey oldPasskey)
            { worker := { w with users := (w.users.erase oldPasskey).insert newPasskey user }
              result := .ok (lit "Changed passkey for user " ++ decimal user.id.toNat) })

def Worker.tokenAction (change : Finset UserID → UserID → Finset UserID)
    (message : String) : Updated :=
  let idStr := if q.get "user_id" = [] then q.get "id" else q.get "user_id"
  match positiveID idStr with
  | none => w.updateError (lit "Invalid user_id")
  | some id =>
    let infoHash := q.get "info_hash"
    if infoHash = [] then w.updateError (lit "Missing info_hash")
    else
      w.changeTorrent infoHash (fun torrent =>
          { torrent with tokenedUsers := change torrent.tokenedUsers (UInt32.ofInt id) })
        (lit message ++ decimal id)

def Worker.addToken : Updated :=
  w.tokenAction q (fun users id => insert id users) "Added token for user "

def Worker.removeToken : Updated :=
  w.tokenAction q (fun users id => users.erase id) "Removed token for user "

def Worker.whitelistAction (heading : String)
    (call : Bytes → UpdateCall) (change : List Bytes → Bytes → List Bytes) (message : String) :
    Updated :=
  let entry := q.get "prefix"
  if entry = [] then w.updateError (lit "Missing prefix")
  else
    w.withDB env heading (call entry)
      { worker := { w with whitelist := change w.whitelist entry }
        result := .ok (lit message ++ entry) }

def Whitelist.add (entries : List Bytes) (entry : Bytes) : List Bytes :=
  if entry ∈ entries then entries else entries ++ [entry]

def Whitelist.remove (entries : List Bytes) (entry : Bytes) : List Bytes := entries.filter fun e => e ≠ entry

def Worker.addWhitelist : Updated :=
  w.whitelistAction env q "DB error adding whitelist entry: " .addWhitelistEntry Whitelist.add
    "Added whitelist prefix: "

def Worker.removeWhitelist : Updated :=
  w.whitelistAction env q "DB error removing whitelist entry: " .removeWhitelistEntry
    Whitelist.remove "Removed whitelist prefix: "

inductive Action where
  | addTorrent
  | updateTorrent
  | deleteTorrent
  | changeFreeleech
  | addUser
  | updateUser
  | removeUser
  | changePasskey
  | addToken
  | removeToken
  | addWhitelist
  | removeWhitelist
  | commons
  | unknown
  deriving DecidableEq

def actionNames : List (String × Action) := [("add_torrent", .addTorrent), ("update_torrent", .updateTorrent),
    ("delete_torrent", .deleteTorrent), ("change_freeleech", .changeFreeleech),
    ("add_user", .addUser), ("update_user", .updateUser), ("remove_user", .removeUser),
    ("change_passkey", .changePasskey), ("add_token", .addToken), ("remove_token", .removeToken),
    ("add_whitelist", .addWhitelist), ("remove_whitelist", .removeWhitelist),
    ("set_priority_class", .commons), ("set_budget", .commons)]

def Query.action : Action :=
  ((actionNames.find? fun entry => lit entry.1 == q.get "action").map Prod.snd).getD .unknown

def Worker.handleUpdate : Updated :=
  match q.action with
  | .addTorrent => w.addTorrent env q
  | .updateTorrent => w.updateTorrent q
  | .deleteTorrent => w.deleteTorrent env q
  | .changeFreeleech => w.changeFreeleech q
  | .addUser => w.addUser env q
  | .updateUser => w.updateUser env q
  | .removeUser => w.removeUser env q
  | .changePasskey => w.changePasskey env q
  | .addToken => w.addToken q
  | .removeToken => w.removeToken q
  | .addWhitelist => w.addWhitelist env q
  | .removeWhitelist => w.removeWhitelist env q
  | .commons => { worker := w, result := env.commons q }
  | .unknown => w.updateError (lit "Unknown action: " ++ q.get "action")

end Ocelot.Tracker
