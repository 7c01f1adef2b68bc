/-
# The handles of the sharded database (`tracker/db_sqlite.go`).
-/
import Ocelot.Lib.Run
import Ocelot.Tracker.Types

namespace Ocelot.Tracker

open Option List Run

abbrev Handle := ℕ

inductive Statement where
  | peer
  | user
  | torrent
  | snatch
  | token
  deriving DecidableEq

structure Stmt where
  db : Handle
  isOpen : Bool
  deriving DecidableEq

structure ShardManager where
  currentDB : Option Handle := none
  /-- The file within `dbDir`; empty when there is none. -/
  currentPath : Bytes := []
  historicalDBs : Finmap fun _ : Bytes => Handle := ∅
  stmts : Statement → Option Stmt := fun _ => none
  handles : ℕ := 0

inductive Opening where
  | opened
  | failed (err : Bytes)
  | schemaFailed (err : Bytes)
  deriving DecidableEq

structure OpenEnv where
  month : Bytes
  nextMonth : Bytes
  /-- The size of the current file, unless `Stat` fails. -/
  size : Option Int64
  opening : Opening

namespace ShardManager

def shardPath (month : Bytes) : Bytes := lit "ocelot-" ++ month ++ lit ".db"

def closeCurrentDB (s : ShardManager) : ShardManager :=
  match s.currentDB with
  | none => s
  | some db =>
    { s with
      stmts := fun statement => (s.stmts statement).map fun stmt => { stmt with isOpen := false }
      historicalDBs := s.historicalDBs.insert s.currentPath db
      currentDB := none
      currentPath := [] }

def install (s : ShardManager) (path : Bytes) : Opening → ShardManager × Except Bytes Unit
  | .failed err => (s, .error err)
  | .schemaFailed err => (s, .error (lit "init schema: " ++ err))
  | .opened =>
    ({ s with currentDB := some s.handles, currentPath := path, handles := s.handles + 1 }, .ok ())

variable (limit : Int64)

def full (size : Option Int64) : Bool := size.any fun size => limit ≤ size

def openCurrentDB (e : OpenEnv) (s : ShardManager) : ShardManager × Except Bytes Unit :=
  if s.currentPath ≠ [] ∧ full limit e.size then
    s.closeCurrentDB.install (shardPath e.nextMonth) e.opening
  else s.install (shardPath e.month) e.opening

def loadHistoricalDBs (month : Bytes) (files : List (Bytes × Bool)) (s : ShardManager) : ShardManager :=
  files.foldl
    (fun s file =>
      if file.1 = shardPath month ∨ !file.2 then s
      else { s with historicalDBs := s.historicalDBs.insert file.1 s.handles, handles := s.handles + 1 })
    s

variable (s : ShardManager)

def prepareStatements (db : Handle) : ShardManager :=
  { s with stmts := fun _ => some { db, isOpen := true } }

def newSQLiteShardManager (month : Bytes) (files : List (Bytes × Bool)) (e : OpenEnv)
    (prepareError : Option Bytes) : Except Bytes ShardManager :=
  match (loadHistoricalDBs month files {}).openCurrentDB limit e with
  | (_, .error err) => .error (lit "open current db: " ++ err)
  | (s, .ok ()) =>
    match prepareError, s.currentDB with
    | some err, _ => .error (lit "prepare statements: " ++ err)
    -- a successful `openCurrentDB` has set `currentDB`
    | none, none => .error []
    | none, some db => .ok (s.prepareStatements db)

structure RotationEnv where
  /-- The size of the current file, or the error of `Stat`. -/
  stat : Except Bytes Int64
  reopen : OpenEnv

def checkRotation (e : RotationEnv) (s : ShardManager) : ShardManager × Except Bytes Unit :=
  if s.currentPath = [] then (s, .ok ())
  else
    match e.stat with
    | .error err => (s, .error err)
    | .ok size => if limit ≤ size then s.openCurrentDB limit e.reopen else (s, .ok ())

inductive RecordCall where
  | peer
  | peerLight
  | userStats
  | torrent
  | snatch
  | token
  | torrentHash
  | userPasskey
  deriving DecidableEq

def RecordCall.statement : RecordCall → Option Statement
  | .peer => some .peer
  | .userStats => some .user
  | .torrent => some .torrent
  | .snatch => some .snatch
  | .token => some .token
  | .peerLight | .torrentHash | .userPasskey => none

inductive RecordError where
  | statementClosed
  | nilPointer
  deriving DecidableEq

def record (call : RecordCall) : Except RecordError Handle :=
  match call.statement with
  | none =>
    match s.currentDB with
    | none => .error .nilPointer
    | some db => .ok db
  | some statement =>
    match s.stmts statement with
    | none => .error .nilPointer
    | some stmt => if stmt.isOpen then .ok stmt.db else .error .statementClosed

inductive ShardLabel where
  | record (call : RecordCall)
  | checkRotation (e : RotationEnv)

def step : ShardLabel → Option ShardManager
  | .record _ => some s
  | .checkRotation e => some (s.checkRotation limit e).1

/-- **The manager is valid**: it has a current database, its statements are open on it, and so every
write gets to it. -/
def Valid : Prop :=
  ∃ db, s.currentDB = some db ∧ (∀ statement, s.stmts statement = some { db, isOpen := true }) ∧
    ∀ call, s.record call = .ok db

/-- **The condition**: a `CheckRotation` finds the file below its limit, or cannot tell; or it finds
the limit reached, the second look does not confirm it, and the file cannot be opened once more. -/
def Quiet (_ : ShardManager) : ShardLabel → Prop
  | .record _ => True
  | .checkRotation e =>
    match e.stat with
    | .error _ => True
    | .ok size => size < limit ∨ (full limit e.reopen.size = false ∧ e.reopen.opening ≠ .opened)

instance (limit : Int64) (s : ShardManager) (l : ShardLabel) : Decidable (Quiet limit s l) := by
  unfold Quiet
  split
  · infer_instance
  · split <;> infer_instance

variable {limit : Int64} {s t : ShardManager}

theorem valid_of_stmts {db : Handle} (hdb : s.currentDB = some db)
    (hstmts : ∀ statement, s.stmts statement = some { db, isOpen := true }) : s.Valid := by
  refine ⟨db, hdb, hstmts, fun call => ?_⟩
  unfold record
  cases call.statement with
  | none =>
    rw [hdb]
  | some statement =>
    dsimp only
    rw [hstmts statement]
    rfl

theorem not_valid_of_record {call : RecordCall} {error : RecordError}
    (h : s.record call = .error error) : ¬ s.Valid := by
  rintro ⟨_, -, -, hwrites⟩
  rw [hwrites call] at h
  cases h

structure Fit (s : ShardManager) : Prop where
  valid : s.Valid
  path : s.currentPath ≠ []
  handle : ∀ db, s.currentDB = some db → db < s.handles

/-- **The state that is never left again**: the statement for peers is closed, or it belongs to a
handle that is not the current one. -/
structure Broken (s : ShardManager) : Prop where
  stmt : ∃ stmt, s.stmts .peer = some stmt ∧ stmt.db < s.handles ∧
    (stmt.isOpen = false ∨ s.currentDB ≠ some stmt.db)

theorem Broken.not_valid (h : s.Broken) : ¬ s.Valid := by
  rintro ⟨_, hdb, hstmts, -⟩
  obtain ⟨stmt, hstmt, -, hwrong⟩ := h.stmt
  rw [hstmts .peer] at hstmt
  cases hstmt
  rcases hwrong with hcl | hother
  · cases hcl
  · exact hother hdb

theorem Broken.install (path : Bytes) (opening : Opening) (h : s.Broken) : (s.install path opening).1.Broken := by
  obtain ⟨stmt, hstmt, hlt, _⟩ := h.stmt
  cases opening with
  | failed | schemaFailed => exact h
  | opened =>
    refine ⟨stmt, hstmt, Nat.lt_succ_of_lt hlt, .inr ?_⟩
    intro hsame
    exact Nat.ne_of_gt hlt (some.inj hsame)

theorem broken_closeCurrentDB {stmt : Stmt} {db : Handle} (hdb : s.currentDB = some db)
    (hstmt : s.stmts .peer = some stmt) (hlt : stmt.db < s.handles) : s.closeCurrentDB.Broken := by
  unfold closeCurrentDB
  rw [hdb]
  refine ⟨{ stmt with isOpen := false }, ?_, hlt, .inl rfl⟩
  show (s.stmts .peer).map _ = _
  rw [hstmt, map_some]

theorem Broken.checkRotation {e : RotationEnv} (h : s.Broken) : (s.checkRotation limit e).1.Broken := by
  unfold ShardManager.checkRotation
  split
  · exact h
  · split
    · exact h
    · split
      · unfold openCurrentDB
        split
        · apply Broken.install
          obtain ⟨stmt, hstmt, hlt, _⟩ := h.stmt
          cases hdb : s.currentDB with
          | none =>
            unfold closeCurrentDB
            rw [hdb]
            exact h
          | some => exact broken_closeCurrentDB hdb hstmt hlt
        · exact h.install _ _
      · exact h

theorem step_of_quiet {l : ShardLabel} (hquiet : Quiet limit s l) (hstep : s.step limit l = some t) : t = s := by
  cases l with
  | record => exact (some.inj hstep).symm
  | checkRotation e =>
    cases hstep
    unfold Quiet at hquiet
    unfold ShardManager.checkRotation
    split
    · rfl
    · cases hstat : e.stat with
      | error => rfl
      | ok size =>
        dsimp only at hquiet ⊢
        rw [hstat] at hquiet
        split
        · rename_i hreached
          rcases hquiet with hbelow | ⟨hunconfirmed, hopening⟩
          · exact absurd hreached (by simpa using hbelow)
          · unfold openCurrentDB
            rw [hunconfirmed, if_neg (by simp)]
            cases hopen : e.reopen.opening with
            | opened => exact absurd hopen hopening
            | failed | schemaFailed => rfl
        · rfl

theorem Fit.broken {l : ShardLabel} (h : s.Fit) (hloud : ¬ Quiet limit s l)
    (hstep : s.step limit l = some t) : t.Broken := by
  cases l with
  | record => exact absurd trivial hloud
  | checkRotation e =>
    cases hstep
    obtain ⟨db, hdb, hstmts, -⟩ := h.valid
    have hlt := h.handle db hdb
    unfold Quiet at hloud
    unfold ShardManager.checkRotation
    rw [if_neg h.path]
    cases hstat : e.stat with
    | error =>
      dsimp only at hloud
      rw [hstat] at hloud
      exact absurd trivial hloud
    | ok size =>
      dsimp only at hloud ⊢
      rw [hstat] at hloud
      obtain ⟨hreached, hrest⟩ := not_or.1 hloud
      rw [if_pos (by simpa using hreached)]
      unfold openCurrentDB
      by_cases hfull : full limit e.reopen.size = true
      · rw [if_pos ⟨h.path, hfull⟩]
        exact (broken_closeCurrentDB hdb (hstmts .peer) hlt).install _ _
      · -- the file is opened once more: the statements stay with the old handle
        rw [if_neg fun hboth => hfull hboth.2]
        have hopen : e.reopen.opening = .opened := by
          by_contra hne
          exact hrest ⟨by simpa using hfull, hne⟩
        rw [hopen]
        refine ⟨_, hstmts .peer, Nat.lt_succ_of_lt hlt, .inr ?_⟩
        intro hsame
        exact Nat.ne_of_gt hlt (some.inj hsame)

theorem currentPath_loadHistoricalDBs (month : Bytes) (files : List (Bytes × Bool))
    (s : ShardManager) : (loadHistoricalDBs month files s).currentPath = s.currentPath := by
  unfold loadHistoricalDBs
  induction files generalizing s with
  | nil => rfl
  | cons _ _ ih =>
    rw [foldl_cons, ih]
    split <;> rfl

theorem fit_new {month : Bytes} {files : List (Bytes × Bool)} {e : OpenEnv} {prepareError : Option Bytes}
    (hnew : newSQLiteShardManager limit month files e prepareError = .ok s) : s.Fit := by
  have hpath : (loadHistoricalDBs month files {}).currentPath = [] := currentPath_loadHistoricalDBs _ _ _
  unfold newSQLiteShardManager openCurrentDB at hnew
  rw [if_neg fun h => h.1 hpath] at hnew
  cases hopening : e.opening with
  | failed | schemaFailed =>
    rw [hopening] at hnew
    cases hnew
  | opened =>
    rw [hopening] at hnew
    cases prepareError with
    | some => cases hnew
    | none =>
      obtain rfl := Except.ok.inj hnew
      refine ⟨valid_of_stmts rfl fun _ => rfl, ?_, ?_⟩
      · intro hempty
        have hname := (append_eq_nil_iff.1 (append_eq_nil_iff.1 hempty).1).1
        exact absurd hname (by decide +kernel)
      · intro _ hdb
        cases hdb
        exact Nat.lt_succ_self _

theorem Fit.run {ls : List ShardLabel} (h : s.Fit) (hrun : exec (step limit) s ls = some t) :
    Meets (step limit) (Quiet limit) s ls ∧ t.Fit ∨ ¬ Meets (step limit) (Quiet limit) s ls ∧ t.Broken := by
  induction ls using reverseRecOn generalizing t with
  | nil =>
    cases hrun
    exact .inl ⟨meets_nil _ _, h⟩
  | append_singleton _ l ih =>
    obtain ⟨u, hu, hlast⟩ := exec_concat_eq_some.1 hrun
    rw [meets_concat]
    rcases ih hu with ⟨hquiet, hfit⟩ | ⟨hloud, hbroken⟩
    · by_cases hl : Quiet limit u l
      · refine .inl ⟨⟨hquiet, fun v hv => ?_⟩, ?_⟩
        · obtain rfl : u = v := mem_unique hu hv
          exact hl
        · rw [step_of_quiet hl hlast]
          exact hfit
      · exact .inr ⟨fun hmeets => hl (hmeets.2 u hu), hfit.broken hl hlast⟩
    · refine .inr ⟨fun hmeets => hloud hmeets.1, ?_⟩
      cases l with
      | record =>
        cases hlast
        exact hbroken
      | checkRotation =>
        cases hlast
        exact hbroken.checkRotation

/-- **Shard validity, exactly.** -/
theorem valid_run_iff {month : Bytes} {files : List (Bytes × Bool)} {e : OpenEnv} {prepareError : Option Bytes}
    (hnew : newSQLiteShardManager limit month files e prepareError = .ok s) {ls : List ShardLabel}
    (hrun : exec (step limit) s ls = some t) : t.Valid ↔ Meets (step limit) (Quiet limit) s ls := by
  rcases (fit_new hnew).run hrun with ⟨hquiet, hfit⟩ | ⟨hloud, hbroken⟩
  · exact iff_of_true hfit.valid hquiet
  · exact iff_of_false hbroken.not_valid hloud

end ShardManager

namespace Sample

def january (size : Option Int64) (opening : Opening) : OpenEnv where
  month := lit "2026-01"
  nextMonth := lit "2026-02"
  size := size
  opening := opening

def shards : ShardManager where
  currentDB := some 0
  currentPath := ShardManager.shardPath (lit "2026-01")
  stmts := fun _ => some { db := 0, isOpen := true }
  handles := 1

end Sample

open Sample

namespace ShardManager

theorem new_shards (limit : Int64) :
    newSQLiteShardManager limit (lit "2026-01") [] (january none .opened) none = .ok shards := rfl

theorem valid_run_sample : ∃ t, exec (step 100) shards
        [.record .peer, .checkRotation ⟨.ok 99, january (some 99) .opened⟩, .record .token] =
            some t ∧ t.Valid := by
  exact ends_run rfl fun t hrun => (valid_run_iff (new_shards 100) hrun).2 (by decide +kernel)

/-- **No rotation leaves a valid manager.** -/
theorem rotation_breaks :
    newSQLiteShardManager 100 (lit "2026-01") [] (january none .opened) none = .ok shards ∧
    (∃ t, exec (step 100) shards
        [.checkRotation ⟨.ok 100, january (some 100) .opened⟩] = some t ∧
      t.currentDB = some 1 ∧ t.record .peer = .error .statementClosed ∧ ¬ t.Valid) ∧ ∃ t, exec (step 100) shards
        [.checkRotation ⟨.ok 100, january (some 100) (.failed (lit "disk full"))⟩] = some t ∧
      t.currentDB = none ∧ t.record .peerLight = .error .nilPointer ∧ ¬ t.Valid := by
  refine ⟨rfl, ?_, ?_⟩
  · have hcl : (shards.checkRotation 100
        ⟨.ok 100, january (some 100) .opened⟩).1.record .peer = .error .statementClosed := by
      decide +kernel
    exact ⟨_, rfl, by decide +kernel, hcl, not_valid_of_record hcl⟩
  · have hnil : (shards.checkRotation 100
        ⟨.ok 100, january (some 100) (.failed (lit "disk full"))⟩).1.record .peerLight = .error .nilPointer := by
      decide +kernel
    exact ⟨_, rfl, by decide +kernel, hnil, not_valid_of_record hnil⟩

end ShardManager

end Ocelot.Tracker
