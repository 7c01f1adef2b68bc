/-
# Silent nodes, under any schedule of heartbeats and passes.
-/
import Ocelot.Tracker.NodeRegistry

namespace Ocelot.Tracker

open List Finmap Option

/-! ## The monitor -/

def NodeIdentity.advance (n : NodeIdentity) (now : Time) : NodeIdentity × Bool :=
  match n.reachState with
  | .reachable => ({ n with reachState := .flapping, flapCount := 1, lastFlap := now }, true)
  | .flapping =>
    ({ n with
        flapCount := n.flapCount + 1
        reachState := if flapThreshold ≤ n.flapCount + 1 then .unreachable else .flapping }, false)
  | .unreachable => (n, false)

structure StalePass where
  threshold : Time
  /-- The ids whose `LastSeen` is still to be read. -/
  unread : List NodeID
  stale : List NodeID := []
  /-- The arguments of an `onFlap` call that is due. -/
  alert : Option (NodeID × Bytes × ℕ) := none

inductive ReachEvent where
  | heartbeat (id : NodeID)
  | advanced (pass : ℕ) (id : NodeID) (before : ReachState)
  | onFlap (pass : ℕ) (id : NodeID) (hostname : Bytes) (flapCount : ℕ)
  deriving DecidableEq

structure ReachMonitor where
  nodes : Finmap fun _ : NodeID => NodeIdentity
  passes : Finmap fun _ : ℕ => StalePass
  started : ℕ
  log : List ReachEvent

inductive ReachLabel where
  /-- `HeartbeatWithGeo` of a registered node; `Heartbeat` is the same with network number 0. -/
  | heartbeat (id : NodeID) (ip : Bytes) (caps : NodeCapabilities) (asn : UInt32) (now : Time)
  | start (now cutoff : Time) (order : List NodeID)
  | read (pass : ℕ)
  | advance (pass : ℕ) (now : Time)
  | alert (pass : ℕ)

namespace ReachMonitor

variable (s : ReachMonitor) (p : ℕ) (pass : StalePass)

def readNext : Option ReachMonitor :=
  match pass.unread with
  | [] => none
  | id :: rest =>
    let isStale := match s.nodes.lookup id with
      | some n => decide (n.lastSeen < pass.threshold)
      | none => false
    let stale := if isStale then pass.stale ++ [id] else pass.stale
    some { s with passes := s.passes.insert p { pass with unread := rest, stale } }

def advanceNext (now : Time) : Option ReachMonitor :=
  match pass.unread, pass.stale, pass.alert with
  | [], id :: rest, none =>
    match s.nodes.lookup id with
    | none => some { s with passes := s.passes.insert p { pass with stale := rest } }
    | some n =>
      if n.lastSeen < pass.threshold then
        let (n', justFlapped) := n.advance now
        let alert := if justFlapped then some (id, n'.hostname, n'.flapCount) else none
        some { s with
            nodes := s.nodes.insert id n'
            passes := s.passes.insert p { pass with stale := rest, alert }
            -- a node that is UNREACHABLE already is not advanced
            log := if n.reachState = .unreachable then s.log else .advanced p id n.reachState :: s.log }
      else some { s with passes := s.passes.insert p { pass with stale := rest } }
  | _, _, _ => none

def callOnFlap : Option ReachMonitor :=
  match pass.alert with
  | none => none
  | some (id, hostname, flapCount) =>
    some { s with
        passes := s.passes.insert p { pass with alert := none }
        log := .onFlap p id hostname flapCount :: s.log }

def step : ReachLabel → Option ReachMonitor
  | .heartbeat id ip caps asn now =>
    match s.nodes.lookup id with
    | none => none
    | some n =>
      some { s with
          nodes := s.nodes.insert id (n.heartbeatWithGeo ip caps asn now)
          log := .heartbeat id :: s.log }
  | .start now cutoff order =>
    -- a map is ranged over in any order, each key once
    if order.Nodup ∧ order.toFinset = s.nodes.keys then
      some { s with
          passes := s.passes.insert s.started { threshold := now - cutoff, unread := order }
          started := s.started + 1 }
    else none
  | .read p => (s.passes.lookup p).bind (s.readNext p)
  | .advance p now => (s.passes.lookup p).bind fun pass => s.advanceNext p pass now
  | .alert p => (s.passes.lookup p).bind (s.callOnFlap p)

def initial (nodes : Finmap fun _ : NodeID => NodeIdentity) : ReachMonitor := ⟨nodes, ∅, 0, []⟩

def streak (id : NodeID) : List ReachEvent → List ℕ
  | [] => []
  | .heartbeat id' :: es => if id' = id then [] else streak id es
  | .advanced p id' _ :: es => if id' = id then p :: streak id es else streak id es
  | .onFlap _ _ _ _ :: es => streak id es

def flaps (id : NodeID) (es : List ReachEvent) : ℕ := es.countP (· = .advanced p id .reachable)

def calls (id : NodeID) (es : List ReachEvent) : ℕ := es.countP fun
    | .onFlap p' id' _ _ => p' = p ∧ id' = id
    | _ => false

def due (id : NodeID) : ℕ :=
  match s.passes.lookup p with
  | some pass => if pass.alert.map Prod.fst = some id then 1 else 0
  | none => 0

variable {p : ℕ} {s s' : ReachMonitor} {l : ReachLabel} {pass : StalePass}
  {nodes : Finmap fun _ : NodeID => NodeIdentity}

theorem mem_streak {id : NodeID} {es : List ReachEvent}
    (h : p ∈ streak id es) : ∃ pre, .advanced p id pre ∈ es := by
  induction es with
  | nil => cases h
  | cons e _ ih =>
    rcases e with id' | ⟨p', id', pre⟩ | ⟨p', id', _, _⟩
    · simp only [streak] at h
      split_ifs at h
      · cases h
      · obtain ⟨b, hb⟩ := ih h
        exact ⟨b, mem_cons_of_mem _ hb⟩
    · simp only [streak] at h
      split_ifs at h with hid
      · rcases mem_cons.1 h with rfl | h
        · exact ⟨pre, by rw [hid]; exact mem_cons_self⟩
        · obtain ⟨b, hb⟩ := ih h
          exact ⟨b, mem_cons_of_mem _ hb⟩
      · obtain ⟨b, hb⟩ := ih h
        exact ⟨b, mem_cons_of_mem _ hb⟩
    · obtain ⟨b, hb⟩ := ih h
      exact ⟨b, mem_cons_of_mem _ hb⟩

/-! ## What a step does -/

/-- **Inversion of a step.**  `idle` is a pass that reads a node or skips one: it moves no node and
records nothing, and what it has still to do is part of what it had. -/
inductive Steps (s : ReachMonitor) : ReachLabel → ReachMonitor → Prop
  | heartbeat {id : NodeID} {n : NodeIdentity} (ip : Bytes) (caps : NodeCapabilities) (asn : UInt32) (now : Time)
      (hn : s.nodes.lookup id = some n) : Steps s (.heartbeat id ip caps asn now) { s with
          nodes := s.nodes.insert id (n.heartbeatWithGeo ip caps asn now)
          log := .heartbeat id :: s.log }
  | start (now cutoff : Time) {order : List NodeID} (hnodup : order.Nodup) : Steps s (.start now cutoff order)
        { s with
          passes := s.passes.insert s.started { threshold := now - cutoff, unread := order }
          started := s.started + 1 }
  | idle (l : ReachLabel) {p : ℕ} {pass pass' : StalePass} (hp : s.passes.lookup p = some pass)
      (halert : pass'.alert = pass.alert)
      (hsub : (pass'.stale ++ pass'.unread).Sublist (pass.stale ++ pass.unread)) :
      Steps s l { s with passes := s.passes.insert p pass' }
  | advanced (now : Time) {p : ℕ} {pass : StalePass} {id : NodeID} {rest : List NodeID} {n : NodeIdentity}
      (hp : s.passes.lookup p = some pass) (hunread : pass.unread = []) (hstale : pass.stale = id :: rest)
      (halert : pass.alert = none) (hn : s.nodes.lookup id = some n) (hreach : n.reachState ≠ .unreachable) :
      Steps s (.advance p now) { s with
          nodes := s.nodes.insert id (n.advance now).1
          passes := s.passes.insert p
            { pass with
              stale := rest
              alert := if (n.advance now).2 then some (id, (n.advance now).1.hostname, (n.advance now).1.flapCount)
                else none }
          log := .advanced p id n.reachState :: s.log }
  | alerted {p : ℕ} {pass : StalePass} {id : NodeID} {hostname : Bytes} {flapCount : ℕ}
      (hp : s.passes.lookup p = some pass) (halert : pass.alert = some (id, hostname, flapCount)) :
        Steps s (.alert p)
        { s with
          passes := s.passes.insert p { pass with alert := none }
          log := .onFlap p id hostname flapCount :: s.log }

theorem steps_of_step (h : s.step l = some s') : Steps s l s' := by
  cases l with
  | heartbeat id ip caps asn now =>
    simp only [step] at h
    split at h
    · cases h
    · rename_i n hn
      cases h
      exact .heartbeat ip caps asn now hn
  | start now cutoff =>
    simp only [step] at h
    split_ifs at h with hord
    cases h
    exact .start now cutoff hord.1
  | read =>
    obtain ⟨pass, hp, h⟩ := bind_eq_some_iff.1 h
    unfold readNext at h
    rcases hunread : pass.unread with _ | ⟨id, rest⟩
    · rw [hunread] at h
      cases h
    · rw [hunread] at h
      cases h
      refine .idle _ hp rfl ?_
      rw [hunread]
      split_ifs
      · rw [append_assoc, singleton_append]
      · exact (sublist_cons_self id rest).append_left _
  | advance p now =>
    obtain ⟨pass, hp, h⟩ := bind_eq_some_iff.1 h
    unfold advanceNext at h
    split at h
    · rename_i id rest hunread hstale halert
      have hsub : (rest ++ pass.unread).Sublist (pass.stale ++ pass.unread) := by
        rw [hstale]
        exact (sublist_cons_self id rest).append_right _
      split at h
      · cases h
        exact .idle _ hp rfl hsub
      · rename_i n hn
        split_ifs at h with hlast hreach
        · have hsame : n.advance now = (n, false) := by
            unfold NodeIdentity.advance
            rw [hreach]
          rw [hsame] at h
          dsimp only at h
          rw [insert_of_lookup_eq hn] at h
          cases h
          exact .idle _ hp halert.symm hsub
        · cases h
          exact .advanced now hp hunread hstale halert hn hreach
        · cases h
          exact .idle _ hp rfl hsub
    · cases h
  | alert =>
    obtain ⟨pass, hp, h⟩ := bind_eq_some_iff.1 h
    unfold callOnFlap at h
    rcases halert : pass.alert with _ | ⟨id, hostname, flapCount⟩
    · rw [halert] at h
      cases h
    · rw [halert] at h
      cases h
      exact .alerted hp halert

/-! ## The invariant -/

def Reached (n : NodeIdentity) (ps : List ℕ) : Prop :=
  match n.reachState with
  | .reachable => n.flapCount = 0 ∧ ps = []
  | .flapping => n.flapCount = ps.length ∧ 1 ≤ n.flapCount ∧ n.flapCount < flapThreshold
  | .unreachable => flapThreshold ≤ ps.length

theorem reached_heartbeat (n : NodeIdentity) (ip : Bytes) (caps : NodeCapabilities) (asn : UInt32)
    (now : Time) : Reached (n.heartbeatWithGeo ip caps asn now) [] := by
  unfold Reached
  rw [NodeIdentity.heartbeatWithGeo_reachState]
  exact ⟨NodeIdentity.heartbeatWithGeo_flapCount n ip caps asn now, rfl⟩

theorem Reached.advance {n : NodeIdentity} {ps : List ℕ} (h : Reached n ps) (hreach : n.reachState ≠ .unreachable)
    (p : ℕ) (now : Time) : Reached (n.advance now).1 (p :: ps) := by
  unfold Reached at h
  unfold NodeIdentity.advance
  rcases hst : n.reachState with _ | _ | _
  · rw [hst] at h
    obtain ⟨-, rfl⟩ := h
    have hlt : 1 < flapThreshold := by decide
    exact ⟨rfl, Nat.le_refl 1, hlt⟩
  · rw [hst] at h
    obtain ⟨hcnt, _, hlt⟩ := h
    by_cases hlast : flapThreshold ≤ n.flapCount + 1
    · have hlen : flapThreshold ≤ (p :: ps).length := by
        rw [length_cons, ← hcnt]
        exact hlast
      simpa [Reached, hlast] using hlen
    · simp only [Reached, if_neg hlast, length_cons]
      omega
  · exact absurd hst hreach

def Counted (s : ReachMonitor) : Prop := ∀ id n, s.nodes.lookup id = some n → Reached n (streak id s.log)

theorem Counted.step (h : s.Counted) (hstep : Steps s l s') : s'.Counted := by
  intro id m hm
  cases hstep with
  | heartbeat ip caps asn now hn =>
    rename_i id' n
    rcases lookup_insert_cases hm with ⟨rfl, rfl⟩ | ⟨hid, hm⟩
    · simp only [streak, if_true]
      exact reached_heartbeat n ip caps asn now
    · simp only [streak, if_neg (Ne.symm hid)]
      exact h id m hm
  | start | idle | alerted => exact h id m hm
  | advanced now hp hunread hstale halert hn hreach =>
    rename_i p pass id' rest n
    rcases lookup_insert_cases hm with ⟨rfl, rfl⟩ | ⟨hid, hm⟩
    · simp only [streak, if_true]
      exact (h id n hn).advance hreach p now
    · simp only [streak, if_neg (Ne.symm hid)]
      exact h id m hm

structure OnePass (s : ReachMonitor) : Prop where
  passes : ∀ p pass, s.passes.lookup p = some pass → p < s.started
  logged : ∀ p id before, .advanced p id before ∈ s.log → p < s.started
  pending : ∀ p pass, s.passes.lookup p = some pass → (pass.stale ++ pass.unread).Nodup
  unadvanced : ∀ p pass, s.passes.lookup p = some pass → ∀ id ∈ pass.stale ++ pass.unread, ∀ before,
    .advanced p id before ∉ s.log
  nodup : ∀ id, (streak id s.log).Nodup

section

variable (h : s.OnePass)
include h

theorem OnePass.shrink {pass' : StalePass} (hp : s.passes.lookup p = some pass)
    (hsub : (pass'.stale ++ pass'.unread).Sublist (pass.stale ++ pass.unread)) :
    OnePass { s with passes := s.passes.insert p pass' } := by
  refine ⟨fun q x hx => ?_, h.logged, fun q x hx => ?_, fun q x hx => ?_, h.nodup⟩ <;>
    rcases lookup_insert_cases hx with ⟨rfl, rfl⟩ | ⟨-, hx⟩
  · exact h.passes q pass hp
  · exact h.passes q x hx
  · exact (h.pending q pass hp).sublist hsub
  · exact h.pending q x hx
  · intro id hid before
    exact h.unadvanced q pass hp id (hsub.subset hid) before
  · exact h.unadvanced q x hx

theorem OnePass.log {e : ReachEvent} (he : ∀ p id b, e ≠ .advanced p id b) :
    OnePass { s with nodes := nodes, log := e :: s.log } := by
  have hmem : ∀ {p id b}, .advanced p id b ∈ e :: s.log → .advanced p id b ∈ s.log := by
    intro p id b hin
    rcases mem_cons.1 hin with heq | hin
    · exact absurd heq.symm (he p id b)
    · exact hin
  refine ⟨h.passes, fun p id b hin => h.logged p id b (hmem hin), h.pending,
    fun p pass hp id hid b hin => h.unadvanced p pass hp id hid b (hmem hin), fun id => ?_⟩
  rcases e with id' | ⟨p', id', before⟩ | ⟨p', id', _, _⟩
  · show (if id' = id then [] else streak id s.log).Nodup
    split_ifs
    · exact nodup_nil
    · exact h.nodup id
  · exact absurd rfl (he p' id' before)
  · exact h.nodup id

theorem OnePass.start (hnodup : (pass.stale ++ pass.unread).Nodup) :
    OnePass { s with passes := s.passes.insert s.started pass, started := s.started + 1 } := by
  refine ⟨fun q x hx => ?_, fun q id b hin => Nat.lt_succ_of_lt (h.logged q id b hin), fun q x hx => ?_,
    fun q x hx => ?_, h.nodup⟩ <;> rcases lookup_insert_cases hx with ⟨rfl, rfl⟩ | ⟨-, hx⟩
  · exact Nat.lt_succ_self _
  · exact Nat.lt_succ_of_lt (h.passes q x hx)
  · exact hnodup
  · exact h.pending q x hx
  · intro id _ pre hin
    exact absurd (h.logged _ id pre hin) (Nat.lt_irrefl _)
  · exact h.unadvanced q x hx

theorem OnePass.advance {id : NodeID} {pre : ReachState} (hstart : p < s.started)
    (hdone : ∀ pass, s.passes.lookup p = some pass → id ∉ pass.stale ++ pass.unread)
    (hfresh : ∀ b, .advanced p id b ∉ s.log) :
    OnePass { s with nodes := nodes, log := .advanced p id pre :: s.log } := by
  refine ⟨h.passes, fun q id' b hin => ?_, h.pending, fun q x hx id' hid' b hin => ?_, fun id' => ?_⟩
  · rcases mem_cons.1 hin with heq | hin
    · cases heq
      exact hstart
    · exact h.logged q id' b hin
  · rcases mem_cons.1 hin with heq | hin
    · cases heq
      exact hdone x hx hid'
    · exact h.unadvanced q x hx id' hid' b hin
  · show (if id = id' then p :: streak id' s.log else streak id' s.log).Nodup
    split_ifs with hid
    · subst hid
      refine nodup_cons.2 ⟨fun hin => ?_, h.nodup id⟩
      obtain ⟨b, hb⟩ := mem_streak hin
      exact hfresh b hb
    · exact h.nodup id'

theorem OnePass.step (hstep : Steps s l s') : s'.OnePass := by
  cases hstep with
  | heartbeat => exact h.log fun _ _ _ => ReachEvent.noConfusion
  | start _ _ hnodup => exact h.start hnodup
  | idle _ hp _ hsub => exact h.shrink hp hsub
  | @advanced now p pass id rest n hp hunread hstale halert hn hreach =>
    have hnodup := h.pending p pass hp
    rw [hunread, append_nil, hstale] at hnodup
    refine OnePass.advance (h.shrink hp ?_) (h.passes p pass hp) (fun x hx hin => ?_)
      (h.unadvanced p pass hp id ?_)
    · rw [hstale]
      exact (sublist_cons_self id rest).append_right _
    · rw [lookup_insert] at hx
      cases hx
      have hrest : id ∈ rest ++ pass.unread := hin
      rw [hunread, append_nil] at hrest
      exact (nodup_cons.1 hnodup).1 hrest
    · rw [hstale]
      exact mem_append_left _ mem_cons_self
  | @alerted p pass id host count hp halert =>
    have hshrunk : OnePass { s with passes := s.passes.insert p { pass with alert := none } } :=
      h.shrink hp (List.Sublist.refl _)
    exact hshrunk.log fun _ _ _ => ReachEvent.noConfusion

end

def Called (s : ReachMonitor) : Prop := ∀ p id, flaps p id s.log = calls p id s.log + s.due p id

theorem due_insert (s : ReachMonitor) (p q : ℕ) (pass : StalePass) (id : NodeID) :
    due { s with passes := s.passes.insert p pass } q id =
      if q = p then (if pass.alert.map Prod.fst = some id then 1 else 0) else s.due q id := by
  unfold due
  by_cases hq : q = p
  · subst hq
    simp
  · simp [hq, lookup_insert_of_ne]

theorem due_of_lookup (h : s.passes.lookup p = some pass)
    (id : NodeID) : s.due p id = if pass.alert.map Prod.fst = some id then 1 else 0 := by
  unfold due
  rw [h]

theorem advance_snd {n : NodeIdentity} (now : Time) : (n.advance now).2 = true ↔ n.reachState = .reachable := by
  unfold NodeIdentity.advance
  rcases n.reachState with _ | _ | _ <;> simp

theorem Called.step (honce : s.OnePass) (h : s.Called) (hstep : Steps s l s') : s'.Called := by
  intro q id
  have hq := h q id
  cases hstep with
  | heartbeat =>
    show flaps q id (_ :: s.log) = calls q id (_ :: s.log) + s.due q id
    simpa [flaps, calls] using hq
  | start =>
    show flaps q id s.log = calls q id s.log + due { s with passes := s.passes.insert s.started _ } q id
    rw [due_insert, hq]
    by_cases hnew : q = s.started
    · -- the new pass has nothing to report, and no pass had its number
      have hnone : s.passes.lookup q = none := by
        rcases hx : s.passes.lookup q with _ | x
        · rfl
        · rw [hnew] at hx
          exact absurd (honce.passes _ x hx) (Nat.lt_irrefl _)
      rw [if_pos hnew, due, hnone]
      rfl
    · rw [if_neg hnew]
  | idle l hp halert hsub =>
    rename_i p pass pass'
    rw [due_insert, hq]
    by_cases hqp : q = p
    · rw [if_pos hqp, hqp, due_of_lookup hp, halert]
    · rw [if_neg hqp]
  | advanced now hp hunread hstale halert hn hreach =>
    rename_i p pass id' rest n
    show flaps q id (_ :: s.log) = calls q id (_ :: s.log) + due { s with passes := s.passes.insert p _ } q id
    rw [due_insert]
    have hcalls : calls q id (.advanced p id' n.reachState :: s.log) = calls q id s.log := by simp [calls]
    have hflaps : flaps q id (.advanced p id' n.reachState :: s.log) =
        flaps q id s.log + if p = q ∧ id' = id ∧ n.reachState = .reachable then 1 else 0 := by
      simp [flaps, countP_cons]
    rw [hcalls, hflaps, hq]
    by_cases hqp : q = p
    · subst hqp
      rw [if_pos rfl, due_of_lookup hp, halert]
      by_cases hreachable : n.reachState = .reachable
      · rw [if_pos ((advance_snd now).2 hreachable)]
        by_cases hid : id' = id <;> simp [hreachable, hid]
      · have hquiet : ¬ (n.advance now).2 = true := fun hflap => hreachable ((advance_snd now).1 hflap)
        rw [if_neg hquiet]
        simp [hreachable]
    · rw [if_neg hqp, if_neg (fun hc => hqp hc.1.symm), Nat.add_zero]
  | alerted hp halert =>
    rename_i p pass id' host count
    show flaps q id (_ :: s.log) = calls q id (_ :: s.log) + due { s with passes := s.passes.insert p _ } q id
    rw [due_insert]
    have hflaps : flaps q id (.onFlap p id' host count :: s.log) = flaps q id s.log := by simp [flaps]
    have hcalls : calls q id (.onFlap p id' host count :: s.log) =
        calls q id s.log + if p = q ∧ id' = id then 1 else 0 := by
      simp [calls, countP_cons]
    rw [hflaps, hcalls, hq]
    by_cases hqp : q = p
    · subst hqp
      rw [due_of_lookup hp, halert]
      by_cases hid : id' = id <;> simp [hid]
    · rw [if_neg hqp, if_neg (fun hc => hqp hc.1.symm), Nat.add_zero]

structure Sound (s : ReachMonitor) : Prop where
  counted : s.Counted
  onePass : s.OnePass
  called : s.Called

theorem Sound.step (l : ReachLabel) (h : s.Sound) (hstep : s.step l = some s') : s'.Sound :=
  have hsteps := steps_of_step hstep
  ⟨h.counted.step hsteps, h.onePass.step hsteps, h.called.step h.onePass hsteps⟩

theorem sound_initial (hnew : ∀ id n, nodes.lookup id = some n → n.reachState = .reachable ∧
    n.flapCount = 0) : Sound (initial nodes) := by
  refine ⟨fun id n hn => ?_, ⟨fun _ _ h => ?_, fun _ _ _ h => ?_, fun _ _ h => ?_, fun _ _ h => ?_,
    fun _ => nodup_nil⟩, fun _ _ => rfl⟩
  · obtain ⟨hreach, hcnt⟩ := hnew id n hn
    unfold Reached
    rw [hreach]
    exact ⟨hcnt, rfl⟩
  · cases h
  · cases h
  · cases h
  · cases h

/-- **`MarkStale` under every schedule.** -/
theorem markStale_sound (nodes : Finmap fun _ : NodeID => NodeIdentity)
    (hnew : ∀ id n, nodes.lookup id = some n → n.reachState = .reachable ∧ n.flapCount = 0)
    (ls : List ReachLabel) (s : ReachMonitor) (hrun : Run.exec step (initial nodes) ls = some s) :
    (∀ id n, s.nodes.lookup id = some n → n.reachState = .unreachable →
      (streak id s.log).Nodup ∧ flapThreshold ≤ (streak id s.log).length) ∧
    (∀ id n, s.nodes.lookup id = some n → n.reachState = .flapping → 1 ≤ n.flapCount ∧
      n.flapCount < flapThreshold) ∧
    (∀ id ip caps asn now s', s.step (.heartbeat id ip caps asn now) = some s' →
      ∃ n, s'.nodes.lookup id = some n ∧ n.reachState = .reachable ∧ n.flapCount = 0) ∧
    ∀ p id, flaps p id s.log = calls p id s.log + s.due p id := by
  have hsound : s.Sound := Run.exec_invariant (fun _ l _ hs hst => hs.step l hst) (sound_initial hnew) hrun
  refine ⟨fun id n hn hreach => ⟨hsound.onePass.nodup id, ?_⟩, fun id n hn hreach => ?_,
    fun id ip caps asn now s' hstep => ?_, hsound.called⟩
  · have hreached := hsound.counted id n hn
    unfold Reached at hreached
    rw [hreach] at hreached
    exact hreached
  · have hreached := hsound.counted id n hn
    unfold Reached at hreached
    rw [hreach] at hreached
    exact hreached.2
  · simp only [step] at hstep
    split at hstep
    · cases hstep
    · cases hstep
      exact ⟨_, lookup_insert _, NodeIdentity.heartbeatWithGeo_reachState _ _ _ _ _,
        NodeIdentity.heartbeatWithGeo_flapCount _ _ _ _ _⟩

end ReachMonitor

namespace Sample

def silent : Finmap fun _ : NodeID => NodeIdentity := Finmap.singleton 1 { nodeID := 1, hostname := lit "node1" }

def threePasses : List ReachLabel :=
  [.start 100 10 [1], .read 0, .advance 0 100, .start 200 10 [1], .read 1, .alert 0, .advance 1 200,
    .start 300 10 [1], .read 2, .advance 2 300]

end Sample

open Sample

namespace ReachMonitor

theorem markStale_threePasses : ∃ s, Run.exec step (initial silent) threePasses = some s ∧
      (s.nodes.lookup 1).map NodeIdentity.reachState = some .unreachable ∧
      (streak 1 s.log).Nodup ∧ flapThreshold ≤ (streak 1 s.log).length := by
  have h : (Run.exec step (initial silent) threePasses).map
      (fun s => (s.nodes.lookup 1).map NodeIdentity.reachState) = some (some .unreachable) := by
    decide +kernel
  obtain ⟨s, hs, hreach⟩ := map_eq_some_iff.1 h
  obtain ⟨n, hn, hunreachable⟩ := map_eq_some_iff.1 hreach
  have hnew : ∀ id n, silent.lookup id = some n → n.reachState = .reachable ∧ n.flapCount = 0 := by
    decide +kernel
  exact ⟨s, hs, hreach, (markStale_sound silent hnew _ s hs).1 1 n hn hunreachable⟩

end ReachMonitor

end Ocelot.Tracker
