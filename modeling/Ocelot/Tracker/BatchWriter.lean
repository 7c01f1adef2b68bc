/-
# Peer rows written in batches (`tracker/batch_writer.go`).
-/
import Ocelot.Lib.Run
import Ocelot.Tracker.Database

namespace Ocelot.Tracker

open List Finmap PeersTable

/-! ## The writer -/

structure PeerRecord where
  userID : UserID
  torrentID : TorrentID
  active : Bool
  uploaded : Int64
  downloaded : Int64
  upSpeed : Int64
  downSpeed : Int64
  left : Int64
  corrupt : Int64
  announceTime : UInt32
  announces : UInt32
  ip : Bytes
  peerID : Bytes
  userAgent : Bytes
  deriving DecidableEq

def PeerRecord.of (user : UserID) (torrent : TorrentID) (row : PeerRow) : PeerRecord where
  userID := user
  torrentID := torrent
  active := row.active
  uploaded := row.uploaded
  downloaded := row.downloaded
  upSpeed := row.upspeed
  downSpeed := row.downspeed
  left := row.remaining
  corrupt := row.corrupt
  announceTime := row.timespent
  announces := row.announces
  ip := row.ip
  peerID := row.peerID
  userAgent := row.userAgent

def PeerRecord.key (r : PeerRecord) : UserID × TorrentID := (r.userID, r.torrentID)

def PeerRecord.row (r : PeerRecord) : PeerRow where
  active := r.active
  uploaded := r.uploaded
  downloaded := r.downloaded
  upspeed := r.upSpeed
  downspeed := r.downSpeed
  remaining := r.left
  corrupt := r.corrupt
  timespent := r.announceTime
  announces := r.announces
  ip := r.ip
  peerID := r.peerID
  userAgent := r.userAgent
  invalidIP := false

inductive PeerCall where
  | recordPeer (user : UserID) (torrent : TorrentID) (row : PeerRow)
  | recordPeerLight (user : UserID) (torrent : TorrentID) (announceTime announces : UInt32)

def PeersTable.call (peers : PeersTable) : PeerCall → PeersTable
  | .recordPeer user torrent row => peers.recordPeer user torrent row
  | .recordPeerLight user torrent announceTime announces =>
    peers.recordPeerLight user torrent announceTime announces

inductive LoopStage where
  | select
  | flush
  | drain
  | lastFlush
  | exited
  deriving DecidableEq

structure BatchWriterDB where
  batchSize : ℕ
  inner : PeersTable
  buffer : List PeerRecord := []
  batch : List PeerRecord := []
  stage : LoopStage := .select
  /-- `stopChan` is closed. -/
  stopped : Bool := false

open BatchWriterDB

inductive BatchLabel where
  | call (c : PeerCall)
  | receive
  | tick
  | write
  | flushed
  | stop
  | drained
  | close

namespace BatchWriterDB

variable (s : BatchWriterDB)

def hasRoom : Bool :=
  decide (s.buffer.length < 10 * s.batchSize) || (s.stage == .select && s.buffer.isEmpty)

def step : BatchLabel → Option BatchWriterDB
  -- Every call comes before `Close`.
  | .call (.recordPeer user torrent row) =>
    if s.stopped then none
    else if s.hasRoom then some { s with buffer := s.buffer ++ [.of user torrent row] }
    -- Full: the record is dropped.
    else some s
  | .call (.recordPeerLight user torrent announceTime announces) =>
    if s.stopped then none
    else some { s with inner := s.inner.recordPeerLight user torrent announceTime announces }
  | .receive =>
    match s.stage, s.buffer with
    | .select, r :: buffer =>
      let batch := s.batch ++ [r]
      some { s with buffer, batch, stage := if s.batchSize ≤ batch.length then .flush else .select }
    | .drain, r :: buffer => some { s with buffer, batch := s.batch ++ [r] }
    | _, _ => none
  | .tick =>
    if s.stage = .select then some { s with stage := if s.batch = [] then .select else .flush } else none
  | .write =>
    if s.stage = .flush ∨ s.stage = .lastFlush then
      match s.batch with
      | r :: batch => some { s with inner := s.inner.recordPeer r.userID r.torrentID r.row, batch }
      | [] => none
    else none
  | .flushed =>
    if s.batch = [] then
      if s.stage = .flush then some { s with stage := .select }
      else if s.stage = .lastFlush then some { s with stage := .exited }
      else none
    else none
  | .stop => if s.stage = .select ∧ s.stopped then some { s with stage := .drain } else none
  | .drained =>
    if s.stage = .drain ∧ s.buffer = [] then some { s with stage := .lastFlush } else none
  | .close => if s.stopped then none else some { s with stopped := true }

def pending : List PeerRecord := s.batch ++ s.buffer

/-- **What a step can do**, one constructor for each branch that is enabled. -/
inductive Steps (s : BatchWriterDB) : BatchLabel → BatchWriterDB → Prop where
  | queued (user : UserID) (torrent : TorrentID) (row : PeerRow) : s.stopped = false → s.hasRoom = true →
      Steps s (.call (.recordPeer user torrent row)) { s with buffer := s.buffer ++ [.of user torrent row] }
  | dropped (user : UserID) (torrent : TorrentID) (row : PeerRow) : s.stopped = false → s.hasRoom = false →
      Steps s (.call (.recordPeer user torrent row)) s
  | light (user : UserID) (torrent : TorrentID) (announceTime announces : UInt32) : s.stopped = false →
      Steps s (.call (.recordPeerLight user torrent announceTime announces))
        { s with inner := s.inner.recordPeerLight user torrent announceTime announces }
  | received (r : PeerRecord) (buffer : List PeerRecord) (stage : LoopStage) : s.stage = .select →
      s.buffer = r :: buffer → stage = .select ∨ stage = .flush →
      Steps s .receive { s with buffer, batch := s.batch ++ [r], stage }
  | drainedOne (r : PeerRecord) (buffer : List PeerRecord) : s.stage = .drain → s.buffer = r :: buffer →
      Steps s .receive { s with buffer, batch := s.batch ++ [r] }
  | ticked (stage : LoopStage) : s.stage = .select → stage = .select ∨ stage = .flush →
    Steps s .tick { s with stage }
  | written (r : PeerRecord) (batch : List PeerRecord) : s.stage = .flush ∨ s.stage = .lastFlush →
    s.batch = r :: batch →
      Steps s .write { s with inner := s.inner.recordPeer r.userID r.torrentID r.row, batch }
  | flushed : s.stage = .flush → s.batch = [] → Steps s .flushed { s with stage := .select }
  | returned : s.stage = .lastFlush → s.batch = [] → Steps s .flushed { s with stage := .exited }
  | stopping : s.stage = .select → s.stopped = true → Steps s .stop { s with stage := .drain }
  | drained : s.stage = .drain → s.buffer = [] → Steps s .drained { s with stage := .lastFlush }
  | closed : s.stopped = false → Steps s .close { s with stopped := true }

theorem steps_of_step {s s' : BatchWriterDB} {l : BatchLabel} (h : s.step l = some s') : Steps s l s' := by
  cases l with
  | call c =>
    cases c with
    | recordPeer user torrent row =>
      simp only [step] at h
      split at h
      · cases h
      · rename_i hopen
        split at h
        · rename_i hroom
          cases h
          exact .queued user torrent row (Bool.eq_false_iff.2 hopen) hroom
        · rename_i hfull
          cases h
          exact .dropped user torrent row (Bool.eq_false_iff.2 hopen) (Bool.eq_false_iff.2 hfull)
    | recordPeerLight user torrent announceTime announces =>
      simp only [step] at h
      split at h
      · cases h
      · rename_i hopen
        cases h
        exact .light user torrent announceTime announces (Bool.eq_false_iff.2 hopen)
  | receive =>
    simp only [step] at h
    split at h
    · rename_i hstage hbuf
      cases h
      exact .received _ _ _ hstage hbuf (by split <;> simp)
    · rename_i hstage hbuf
      cases h
      exact .drainedOne _ _ hstage hbuf
    · cases h
  | tick =>
    simp only [step] at h
    split at h
    · rename_i hstage
      cases h
      exact .ticked _ hstage (by split <;> simp)
    · cases h
  | write =>
    simp only [step] at h
    split at h
    · rename_i hstage
      split at h
      · rename_i hbatch
        cases h
        exact .written _ _ hstage hbatch
      · cases h
    · cases h
  | flushed =>
    simp only [step] at h
    split at h
    · rename_i hempty
      split at h
      · rename_i hstage
        cases h
        exact .flushed hstage hempty
      · split at h
        · rename_i hstage
          cases h
          exact .returned hstage hempty
        · cases h
    · cases h
  | stop =>
    simp only [step] at h
    split at h
    · rename_i hstage
      cases h
      exact .stopping hstage.1 hstage.2
    · cases h
  | drained =>
    simp only [step] at h
    split at h
    · rename_i hstage
      cases h
      exact .drained hstage.1 hstage.2
    · cases h
  | close =>
    simp only [step] at h
    split at h
    · cases h
    · rename_i hopen
      cases h
      exact .closed (Bool.eq_false_iff.2 hopen)

end BatchWriterDB

/-! ## The twin without batches -/

structure Twin where
  batched : BatchWriterDB
  direct : PeersTable

namespace Twin

def step (s : Twin) (l : BatchLabel) : Option Twin := (s.batched.step l).map fun batched =>
    { batched
      direct :=
        match l with
        | .call c => s.direct.call c
        | _ => s.direct }

def start (batchSize : ℕ) (peers : PeersTable) : Twin where
  batched := { batchSize, inner := peers }
  direct := peers

def Roomy (s : Twin) : BatchLabel → Prop
  | .call (.recordPeer _ _ _) => s.batched.hasRoom
  | _ => True

def Faithful (s : Twin) : BatchLabel → Prop
  | .call (.recordPeer _ _ row) => row.invalidIP = false
  | .call (.recordPeerLight user torrent _ _) => ∀ r ∈ s.batched.pending, r.key ≠ (user, torrent)
  | _ => True

instance (s : Twin) (l : BatchLabel) : Decidable (s.Roomy l) := by
  unfold Roomy
  split <;> infer_instance

instance (s : Twin) (l : BatchLabel) : Decidable (s.Faithful l) := by
  unfold Faithful
  split <;> infer_instance

end Twin

def PeersTable.write (peers : PeersTable) (r : PeerRecord) : PeersTable :=
  peers.recordPeer r.userID r.torrentID r.row

variable {user : UserID} {torrent : TorrentID}

theorem PeersTable.write_recordPeerLight (peers : PeersTable) {r : PeerRecord}
    (h : r.key ≠ (user, torrent)) (announceTime announces : UInt32) :
    (peers.recordPeerLight user torrent announceTime announces).write r =
      (peers.write r).recordPeerLight user torrent announceTime announces := by
  have hlook : lookup (user, torrent) (peers.write r) = peers.lookup (user, torrent) :=
    lookup_insert_of_ne peers (Ne.symm h)
  unfold recordPeerLight
  rw [hlook]
  cases hrow : peers.lookup (user, torrent) with
  | none => rfl
  | some => exact insert_insert_of_ne peers (Ne.symm h)

theorem PeersTable.foldl_write_recordPeerLight (records : List PeerRecord) (peers : PeersTable)
    (h : ∀ r ∈ records, r.key ≠ (user, torrent)) (announceTime announces : UInt32) :
    records.foldl write (peers.recordPeerLight user torrent announceTime announces) =
      (records.foldl write peers).recordPeerLight user torrent announceTime announces := by
  induction records generalizing peers with
  | nil => rfl
  | cons r _ ih =>
    rw [foldl_cons, foldl_cons, peers.write_recordPeerLight (h r mem_cons_self)]
    exact ih (peers.write r) fun x hx => h x (mem_cons_of_mem r hx)

theorem PeersTable.write_of (peers : PeersTable) (user : UserID) (torrent : TorrentID) {row : PeerRow}
    (h : row.invalidIP = false) : peers.write (.of user torrent row) = peers.recordPeer user torrent row := by
  show peers.recordPeer user torrent _ = peers.recordPeer user torrent row
  congr 1
  cases row
  cases h
  rfl

namespace Twin

structure Orderly (s : BatchWriterDB) : Prop where
  stopped : s.stage ≠ .select → s.stage ≠ .flush → s.stopped = true
  buffer : s.stage = .lastFlush ∨ s.stage = .exited → s.buffer = []
  batch : s.stage = .exited → s.batch = []

inductive Moves (s s' : Twin) : BatchLabel → Prop where
  | queue (user : UserID) (torrent : TorrentID) (row : PeerRow)
      (hpending : s.batched.hasRoom → s'.batched.pending = s.batched.pending ++ [.of user torrent row])
      (hinner : s'.batched.inner = s.batched.inner)
      (hdirect : s'.direct = s.direct.recordPeer user torrent row) :
        Moves s s' (.call (.recordPeer user torrent row))
  | light (user : UserID) (torrent : TorrentID) (announceTime announces : UInt32)
      (hpending : s'.batched.pending = s.batched.pending)
      (hinner : s'.batched.inner = s.batched.inner.recordPeerLight user torrent announceTime announces)
      (hdirect : s'.direct = s.direct.recordPeerLight user torrent announceTime announces) :
      Moves s s' (.call (.recordPeerLight user torrent announceTime announces))
  | write (r : PeerRecord) (hpending : s.batched.pending = r :: s'.batched.pending)
      (hinner : s'.batched.inner = s.batched.inner.write r) (hdirect : s'.direct = s.direct) : Moves s s' .write
  | stay (l : BatchLabel) (hpending : s'.batched.pending = s.batched.pending)
      (hinner : s'.batched.inner = s.batched.inner) (hdirect : s'.direct = s.direct) : Moves s s' l

variable {s : BatchWriterDB} {s' : Twin} {l : BatchLabel}

theorem step_moves {s : Twin} (h : s.step l = some s') : Moves s s' l := by
  obtain ⟨b, hb, rfl⟩ := Option.map_eq_some_iff.1 h
  cases steps_of_step hb with
  | queued user torrent row =>
    exact .queue user torrent row (fun _ => by simp [pending]) rfl rfl
  | dropped user torrent row _ hfull =>
    exact .queue user torrent row (fun hroom => absurd (hfull.symm.trans hroom) Bool.false_ne_true) rfl rfl
  | light user torrent announceTime announces => exact .light user torrent announceTime announces rfl rfl rfl
  -- the record goes from the head of the channel to the end of the batch
  | received r buffer _ _ hbuf | drainedOne r buffer _ hbuf =>
    exact .stay _ (by simp [pending, hbuf]) rfl rfl
  | written r batch _ hbatch => exact .write r (by simp [pending, hbatch]) rfl rfl
  | ticked | flushed | returned | stopping | drained | closed => exact .stay _ rfl rfl rfl

/-- **The simulation**: with the records that still wait, the batched database holds what the direct
one holds. -/
def InStep (s : Twin) : Prop := s.batched.pending.foldl write s.batched.inner = s.direct

theorem InStep.step {s : Twin} (hs : s.InStep) (hroom : s.Roomy l)
    (hl : s.Faithful l) (h : s.step l = some s') : s'.InStep := by
  unfold InStep at hs ⊢
  cases step_moves h with
  | queue user torrent row hpend hinner hdir =>
    have hval : row.invalidIP = false := hl
    rw [hpend hroom, hinner, hdir, foldl_append, hs]
    exact s.direct.write_of user torrent hval
  | light _ _ _ _ hpend hinner hdir =>
    rw [hpend, hinner, hdir, foldl_write_recordPeerLight _ _ hl, hs]
  | write _ hpend hinner hdir =>
    rw [hpend, foldl_cons] at hs
    rw [hinner, hdir]
    exact hs
  | stay _ hpend hinner hdir =>
    rw [hpend, hinner, hdir]
    exact hs

theorem Orderly.running (hs : Orderly s) (hopen : s.stopped = false) : s.stage = .select ∨ s.stage = .flush := by
  by_contra hnot
  rw [not_or] at hnot
  have hcl := hs.stopped hnot.1 hnot.2
  rw [hopen] at hcl
  cases hcl

theorem orderly_of_running (h : s.stage = .select ∨ s.stage = .flush) : Orderly s := by
  refine ⟨?_, ?_, ?_⟩ <;> rcases h with h | h <;> simp [h]

theorem Orderly.step {s' : BatchWriterDB} (hs : Orderly s) (h : s.step l = some s') : Orderly s' := by
  cases steps_of_step h with
  | queued _ _ _ hopen | light _ _ _ _ hopen => exact orderly_of_running (hs.running hopen)
  | dropped => exact hs
  | received _ _ _ _ _ hstage | ticked _ _ hstage => exact orderly_of_running hstage
  | flushed => exact orderly_of_running (.inl rfl)
  | drainedOne _ _ hstage =>
    have hcl : s.stopped = true := hs.stopped (by simp [hstage]) (by simp [hstage])
    exact ⟨fun _ _ => hcl, by simp [hstage], by simp [hstage]⟩
  | written _ _ hstage =>
    refine ⟨hs.stopped, hs.buffer, ?_⟩
    rcases hstage with hstage | hstage <;> simp [hstage]
  | returned hstage hempty =>
    have hcl : s.stopped = true := hs.stopped (by simp [hstage]) (by simp [hstage])
    exact ⟨fun _ _ => hcl, fun _ => hs.buffer (.inl hstage), fun _ => hempty⟩
  | stopping _ hcl => exact ⟨fun _ _ => hcl, by simp, by simp⟩
  | drained hstage hempty =>
    have hcl : s.stopped = true := hs.stopped (by simp [hstage]) (by simp [hstage])
    exact ⟨fun _ _ => hcl, fun _ => hempty, by simp⟩
  | closed => exact ⟨fun _ _ => rfl, hs.buffer, hs.batch⟩

/-- **The batch writer is transparent** in every run in which no record is dropped, full records say
that the address is valid, and no light update overtakes a record of its row: when `Close` has
returned, the inner database holds the rows that the calls leave when they are applied directly, in
call order. -/
theorem batchWriter_transparent (batchSize : ℕ) (peers : PeersTable) (ls : List BatchLabel)
    (s : Twin) (h : Run.exec step (start batchSize peers) ls = some s)
    (hroom : Run.Meets step Roomy (start batchSize peers) ls)
    (hfaithful : Run.Meets step Faithful (start batchSize peers) ls)
    (hclosed : s.batched.stage = .exited) : s.batched.inner = s.direct := by
  have hmeets : Run.Meets step (fun t l => t.Roomy l ∧ t.Faithful l) (start batchSize peers) ls :=
    hroom.and hfaithful
  have hstart : Orderly (start batchSize peers).batched ∧ (start batchSize peers).InStep :=
    ⟨⟨by simp [start], by simp [start], by simp [start]⟩, rfl⟩
  obtain ⟨hord, hs⟩ : Orderly s.batched ∧ s.InStep := by
    refine Run.exec_invariant_of_meets (I := fun t => Orderly t.batched ∧ t.InStep) ?_ hstart hmeets h
    rintro t l _ ⟨hord, ht⟩ ⟨hr, hf⟩ hstep
    obtain ⟨b, hb, rfl⟩ := Option.map_eq_some_iff.1 hstep
    exact ⟨hord.step hb, ht.step hr hf hstep⟩
  have hpend : s.batched.pending = [] := by
    unfold pending
    rw [hord.batch hclosed, hord.buffer (.inr hclosed)]
    rfl
  rw [InStep, hpend] at hs
  exact hs

def sampleRow (announces : UInt32) (invalidIP : Bool) : PeerRow where
  active := true
  uploaded := 0
  downloaded := 0
  upspeed := 0
  downspeed := 0
  remaining := 0
  corrupt := 0
  timespent := 0
  announces := announces
  ip := []
  peerID := Sample.peerID
  userAgent := []
  invalidIP := invalidIP

def closing : List BatchLabel := [.close, .stop, .receive, .drained, .write, .flushed]

theorem batchWriter_transparent_sample : ∃ s, Run.exec step (start 100 ∅)
        ([.call (.recordPeer 7 1 (sampleRow 1 false)), .receive, .tick, .write, .flushed,
          .call (.recordPeerLight 7 1 60 2), .call (.recordPeer 7 2 (sampleRow 1 false))] ++ closing) = some s ∧
      s.batched.inner = s.direct := by
  refine Run.ends_of (P := fun s => s.batched.stage = .exited) (by decide +kernel) fun s h hcl => ?_
  exact batchWriter_transparent 100 ∅ _ s h (by decide +kernel) (by decide +kernel) hcl

/-- **Two rows that differ.** -/
theorem batched_rows_differ :
    (Run.exec step (start 100 ∅) (.call (.recordPeer 7 1 (sampleRow 1 true)) :: closing)).map
        (fun s => (s.batched.inner.lookup (7, 1), s.direct.lookup (7, 1))) =
        some (some (sampleRow 1 false), some (sampleRow 1 true)) ∧ (Run.exec step (start 100 ∅)
        ([.call (.recordPeer 7 1 (sampleRow 1 false)), .call (.recordPeerLight 7 1 0 2)] ++ closing)).map
        (fun s => (s.batched.inner.lookup (7, 1), s.direct.lookup (7, 1))) =
        some (some (sampleRow 1 false), some (sampleRow 2 false)) := by
  constructor <;> decide +kernel

end Twin

end Ocelot.Tracker
