/-
# The buffer of health events (`compute/agent/health.go`) and `flushHealth` (`agent.go`).
-/
import Ocelot.Compute.ControlPlane

namespace Ocelot.Agent

open Compute (HealthEvent Millis)

/-! ## The buffer -/

def maxBufferedEvents : ℕ := 100

structure HealthBuffer where
  events : List HealthEvent
  overflow : Bool
  bounded : events.length ≤ maxBufferedEvents
  deriving DecidableEq

open HealthBuffer

def newHealthBuffer : HealthBuffer := ⟨[], false, Nat.zero_le _⟩

namespace HealthBuffer

def push (hb : HealthBuffer) (ev : HealthEvent) : HealthBuffer :=
  if hfull : maxBufferedEvents ≤ hb.events.length then
    ⟨hb.events.tail ++ [ev], true, by
      have hpos : 0 < maxBufferedEvents := by decide
      have hle := hb.bounded
      simp only [List.length_append, List.length_tail, List.length_singleton]
      omega⟩
  else
    ⟨hb.events ++ [ev], hb.overflow, by
      simp only [List.length_append, List.length_singleton]
      omega⟩

def evicted (hb : HealthBuffer) : List HealthEvent :=
  if maxBufferedEvents ≤ hb.events.length then hb.events.take 1 else []

def drain (hb : HealthBuffer) : HealthBuffer × List HealthEvent × Bool :=
  match hb.events with
  | [] => (hb, [], false)
  | ev :: rest => (newHealthBuffer, ev :: rest, hb.overflow)

def pushAll (hb : HealthBuffer) (events : List HealthEvent) : HealthBuffer := events.foldl push hb

def evictedAll : HealthBuffer → List HealthEvent → List HealthEvent
  | _, [] => []
  | hb, ev :: rest => hb.evicted ++ evictedAll (hb.push ev) rest

section

variable {hb : HealthBuffer}

theorem push_of_full (ev : HealthEvent) (h : hb.events.length = maxBufferedEvents) :
    (hb.push ev).events = hb.events.tail ++ [ev] ∧ (hb.push ev).overflow = true := by
  have hfull : maxBufferedEvents ≤ hb.events.length := h.ge
  simp [push, hfull]

theorem push_of_room (ev : HealthEvent) (h : hb.events.length < maxBufferedEvents) :
    (hb.push ev).events = hb.events ++ [ev] ∧ (hb.push ev).overflow = hb.overflow := by
  have hroom : ¬ maxBufferedEvents ≤ hb.events.length := by omega
  simp [push, hroom]

theorem evicted_of_room (h : hb.events.length < maxBufferedEvents) : hb.evicted = [] := by
  rw [evicted, if_neg (by omega)]

theorem evicted_append_push (hb : HealthBuffer) (ev : HealthEvent) :
    hb.evicted ++ (hb.push ev).events = hb.events ++ [ev] := by
  rcases hb.bounded.lt_or_eq with hroom | hfull
  · rw [evicted_of_room hroom, (push_of_room ev hroom).1, List.nil_append]
  · rw [evicted, if_pos hfull.ge, (push_of_full ev hfull).1, ← List.append_assoc, ← List.drop_one,
      List.take_append_drop]

end

theorem pushAll_of_room {events : List HealthEvent} :
    ∀ {hb : HealthBuffer}, hb.events.length + events.length ≤ maxBufferedEvents →
      (hb.pushAll events).events = hb.events ++ events ∧
        (hb.pushAll events).overflow = hb.overflow ∧ hb.evictedAll events = [] := by
  induction events with
  | nil =>
    intro hb _
    simp [pushAll, evictedAll]
  | cons ev rest ih =>
    intro hb hroom
    simp only [List.length_cons] at hroom
    have hlt : hb.events.length < maxBufferedEvents := by omega
    obtain ⟨hevs, hoverf⟩ := push_of_room ev hlt
    have hrest : (hb.push ev).events.length + rest.length ≤ maxBufferedEvents := by
      simp only [hevs, List.length_append, List.length_singleton]
      omega
    obtain ⟨hevs', hoverf', hevicted'⟩ := ih hrest
    refine ⟨?_, ?_, ?_⟩
    · show ((hb.push ev).pushAll rest).events = _
      rw [hevs', hevs, List.append_assoc, List.singleton_append]
    · show ((hb.push ev).pushAll rest).overflow = _
      rw [hoverf', hoverf]
    · rw [evictedAll, evicted_of_room hlt, hevicted', List.nil_append]

end HealthBuffer

structure HealthRequest where
  ts : Millis
  events : List HealthEvent
  bufferOverflow : Bool
  deriving DecidableEq

def flushHealth (now : Millis) (posted : Bool) (hb : HealthBuffer) : HealthBuffer × Option HealthRequest :=
  match hb.drain with
  | (hb', [], _) => (hb', none)
  | (hb', ev :: rest, overflow) =>
    if posted then (hb', some ⟨now, ev :: rest, overflow⟩) else (hb'.pushAll (ev :: rest), none)

theorem flushHealth_failed (now : Millis) (hb : HealthBuffer) (h : hb.events ≠ []) :
    (flushHealth now false hb).1.events = hb.events ∧ (flushHealth now false hb).1.overflow = false ∧
      newHealthBuffer.evictedAll hb.events = [] := by
  have hroom : newHealthBuffer.events.length + hb.events.length ≤ maxBufferedEvents := by
    show 0 + hb.events.length ≤ maxBufferedEvents
    rw [Nat.zero_add]
    exact hb.bounded
  obtain ⟨hevs, hoverf, hevicted⟩ := pushAll_of_room hroom
  have hflush : (flushHealth now false hb).1 = newHealthBuffer.pushAll hb.events := by
    cases hcases : hb.events with
    | nil => exact absurd hcases h
    | cons => simp [flushHealth, drain, hcases]
  rw [hflush]
  exact ⟨hevs, hoverf, hevicted⟩

/-! ## Histories -/

inductive BufferCall where
  | push (ev : HealthEvent)
  | flushHealth (now : Millis) (posted : Bool)

structure History where
  buf : HealthBuffer
  emitted : List HealthEvent
  dropped : List HealthEvent

namespace History

def start : History := ⟨newHealthBuffer, [], []⟩

def report (h : History) : BufferCall → Option HealthRequest
  | .push _ => none
  | .flushHealth now posted => (flushHealth now posted h.buf).2

def step (h : History) : BufferCall → History
  | .push ev => ⟨h.buf.push ev, h.emitted ++ [ev], h.dropped ++ h.buf.evicted⟩
  | .flushHealth now posted =>
    let out := flushHealth now posted h.buf
    match out.2 with
    | some _ => ⟨out.1, [], []⟩
    | none => ⟨out.1, h.emitted, h.dropped ++ newHealthBuffer.evictedAll h.buf.events⟩

def after (calls : List BufferCall) : History := calls.foldl step start

theorem after_concat (calls : List BufferCall) (c : BufferCall) : after (calls ++ [c]) = (after calls).step c := by
  rw [after, List.foldl_append]
  rfl

variable {h : History}

theorem step_flush_empty (hempty : h.buf.events = []) (now : Millis) (posted : Bool) :
    h.step (.flushHealth now posted) = h := by
  have hflush : flushHealth now posted h.buf = (h.buf, none) := by
    simp [flushHealth, drain, hempty]
  simp [step, hflush, hempty, evictedAll]

theorem report_eq_some {c : BufferCall} {r : HealthRequest} (hr : h.report c = some r) :
    (∃ now, c = .flushHealth now true) ∧ r.events = h.buf.events ∧
      r.bufferOverflow = h.buf.overflow ∧ h.step c = start := by
  cases c with
  | push => cases hr
  | flushHealth now posted =>
    cases hcases : h.buf.events with
    | nil => simp [report, flushHealth, drain, hcases] at hr
    | cons ev rest =>
      cases posted with
      | false => simp [report, flushHealth, drain, hcases] at hr
      | true =>
        have hflush : flushHealth now true h.buf = (newHealthBuffer, some ⟨now, ev :: rest, h.buf.overflow⟩) := by
          simp [flushHealth, drain, hcases]
        simp only [report, hflush, Option.some.injEq] at hr
        subst hr
        refine ⟨⟨now, rfl⟩, rfl, rfl, ?_⟩
        simp [step, hflush, start]

theorem step_flush (hevs : h.buf.events ≠ []) (now : Millis) : (h.step (.flushHealth now true) = start) ∧
      (h.step (.flushHealth now false)).buf.events = h.buf.events ∧
        (h.step (.flushHealth now false)).buf.overflow = false ∧
      (h.step (.flushHealth now false)).emitted = h.emitted ∧
          (h.step (.flushHealth now false)).dropped = h.dropped := by
  obtain ⟨hsame, hflag, hnone⟩ := flushHealth_failed now h.buf hevs
  obtain ⟨_, _, hcases⟩ := List.exists_cons_of_ne_nil hevs
  have harrived : (flushHealth now true h.buf) = (newHealthBuffer, some ⟨now, h.buf.events, h.buf.overflow⟩) := by
    simp [flushHealth, drain, hcases]
  have hfail : (flushHealth now false h.buf).2 = none := by
    simp [flushHealth, drain, hcases]
  refine ⟨by simp [step, harrived, start], ?_, ?_, ?_, ?_⟩
  · simp only [step, hfail, hsame]
  · simp only [step, hfail, hflag]
  · simp only [step, hfail]
  · simp only [step, hfail, hnone, List.append_nil]

variable (calls : List BufferCall)

def EndsFailed : Prop := ∃ pre now, calls = pre ++ [.flushHealth now false]

/-- **The buffer against its history.** -/
structure Tracked (calls : List BufferCall) : Prop where
  survivors : (after calls).emitted = (after calls).dropped ++ (after calls).buf.events
  full : (after calls).dropped ≠ [] → (after calls).buf.events.length = maxBufferedEvents
  flagged : (after calls).dropped ≠ [] → ¬ EndsFailed calls → (after calls).buf.overflow = true
  lowered : EndsFailed calls → (after calls).buf.overflow = false
  unflagged : (after calls).dropped = [] → (after calls).buf.overflow = false

theorem not_endsFailed_push (ev : HealthEvent) : ¬ EndsFailed (calls ++ [.push ev]) := by
  rintro ⟨_, _, hsplit⟩
  obtain ⟨-, hlast⟩ := List.append_inj' hsplit rfl
  cases hlast

theorem not_endsFailed_posted (now : Millis) : ¬ EndsFailed (calls ++ [.flushHealth now true]) := by
  rintro ⟨_, _, hsplit⟩
  obtain ⟨-, hlast⟩ := List.append_inj' hsplit rfl
  cases hlast

variable {calls : List BufferCall}

theorem Tracked.push (h : Tracked calls) (ev : HealthEvent) : Tracked (calls ++ [.push ev]) := by
  have hstep : after (calls ++ [.push ev]) = ⟨(after calls).buf.push ev, (after calls).emitted ++ [ev],
      (after calls).dropped ++ (after calls).buf.evicted⟩ := after_concat calls _
  -- an event has been dropped only if the buffer was full
  have hfull : (after calls).dropped ++ (after calls).buf.evicted ≠ [] →
      (after calls).buf.events.length = maxBufferedEvents := by
    intro hdrop
    rcases (after calls).buf.bounded.lt_or_eq with hroom | hfull
    · rw [evicted_of_room hroom, List.append_nil] at hdrop
      exact h.full hdrop
    · exact hfull
  refine ⟨?_, ?_, ?_, fun hends => absurd hends (not_endsFailed_push calls ev), ?_⟩
  · rw [hstep]
    rw [List.append_assoc, evicted_append_push, h.survivors, List.append_assoc]
  · rw [hstep]
    intro hdrop
    have hlen := hfull hdrop
    rw [(push_of_full ev hlen).1]
    have hpos : 0 < maxBufferedEvents := by decide
    simp only [List.length_append, List.length_tail, List.length_singleton]
    omega
  · rw [hstep]
    intro hdrop _
    exact (push_of_full ev (hfull hdrop)).2
  · rw [hstep]
    intro hdrop
    obtain ⟨hbef, hevicted⟩ := List.append_eq_nil_iff.1 hdrop
    rcases (after calls).buf.bounded.lt_or_eq with hroom | hfull
    · rw [(push_of_room ev hroom).2]
      exact h.unflagged hbef
    · -- a full buffer would have dropped an event
      rw [evicted, if_pos hfull.ge, List.take_eq_nil_iff] at hevicted
      rcases hevicted with hzero | hempty
      · cases hzero
      · rw [hempty] at hfull
        cases hfull

theorem tracked_start_of_after (h : after calls = start) (hends : ¬ EndsFailed calls) :
    Tracked calls := by
  refine ⟨?_, ?_, ?_, fun h' => absurd h' hends, fun _ => ?_⟩
  · rw [h]
    rfl
  · rw [h]
    exact fun hne => absurd rfl hne
  · rw [h]
    exact fun hne => absurd rfl hne
  · rw [h]
    rfl

theorem Tracked.flush (h : Tracked calls) (now : Millis) (posted : Bool) :
    Tracked (calls ++ [.flushHealth now posted]) := by
  by_cases hempty : (after calls).buf.events = []
  · -- nothing is buffered, so nothing was dropped
    have hsame : after (calls ++ [.flushHealth now posted]) = after calls := by
      rw [after_concat, step_flush_empty hempty]
    have hnone : (after calls).dropped = [] := by
      by_contra hdrop
      have hlen := h.full hdrop
      rw [hempty] at hlen
      cases hlen
    refine ⟨?_, ?_, ?_, fun _ => ?_, ?_⟩
    · rw [hsame]
      exact h.survivors
    · rw [hsame]
      exact h.full
    · rw [hsame]
      exact fun hne => absurd hnone hne
    · rw [hsame]
      exact h.unflagged hnone
    · rw [hsame]
      exact h.unflagged
  · cases posted with
    | true =>
      apply tracked_start_of_after
      · rw [after_concat]
        exact (step_flush hempty now).1
      · exact not_endsFailed_posted calls now
    | false =>
      obtain ⟨-, hevs, hflag, hemit, hdrop⟩ := step_flush hempty now
      have hends : EndsFailed (calls ++ [.flushHealth now false]) := ⟨calls, now, rfl⟩
      refine ⟨?_, ?_, fun _ hnot => absurd hends hnot, fun _ => ?_, fun _ => ?_⟩
      · rw [after_concat, hevs, hemit, hdrop]
        exact h.survivors
      · rw [after_concat, hevs, hdrop]
        exact h.full
      · rw [after_concat]
        exact hflag
      · rw [after_concat]
        exact hflag

theorem tracked (calls : List BufferCall) : Tracked calls := by
  induction calls using List.reverseRecOn with
  | nil => exact tracked_start_of_after rfl (by rintro ⟨pre, now, hsplit⟩; simp at hsplit)
  | append_singleton _ c ih =>
    cases c with
    | push ev => exact ih.push ev
    | flushHealth now posted => exact ih.flush now posted

theorem dropped_iff (calls : List BufferCall) :
    (after calls).dropped ≠ [] ↔ maxBufferedEvents < (after calls).emitted.length := by
  have h := tracked calls
  have hlen : (after calls).emitted.length = (after calls).dropped.length + (after calls).buf.events.length := by
    rw [h.survivors, List.length_append]
  constructor
  · intro hdrop
    have hfull := h.full hdrop
    have hpos := List.length_pos_iff.2 hdrop
    omega
  · intro _ hnone
    have hbounded := (after calls).buf.bounded
    rw [hnone, List.length_nil] at hlen
    omega

end History

open History

/-- **Overflow is always reported, but for one case.** -/
theorem overflow_reported_iff (calls : List BufferCall) : (after calls).buf.events.length ≤ 100 ∧
      (∀ pre c post r, calls = pre ++ c :: post → (after pre).report c = some r →
        (after pre).emitted = (after pre).dropped ++ r.events) ∧
      ((∀ pre c post r, calls = pre ++ c :: post → (after pre).report c = some r →
          (after pre).dropped ≠ [] → r.bufferOverflow = true) ↔
        ∀ pre now now' post, calls = pre ++ .flushHealth now false :: .flushHealth now' true :: post →
          (after pre).emitted.length ≤ 100) := by
  refine ⟨(after calls).buf.bounded, ?_, ?_, ?_⟩
  · intro pre c post r _ hr
    obtain ⟨-, hevs, -⟩ := report_eq_some hr
    rw [hevs]
    exact (tracked pre).survivors
  · rintro hhonest pre now now' post rfl
    by_contra hmany
    -- the second report arrives without the flag
    have hdrop : (after pre).dropped ≠ [] := (dropped_iff pre).2 (Nat.lt_of_not_le hmany)
    have hne : (after pre).buf.events ≠ [] := by
      intro hempty
      have hfull := (tracked pre).full hdrop
      rw [hempty] at hfull
      cases hfull
    obtain ⟨-, hevs, hflag, -, hdrop'⟩ := step_flush hne now
    rw [← after_concat] at hevs hflag hdrop'
    obtain ⟨ev, rest, hcases⟩ := List.exists_cons_of_ne_nil hne
    rw [hcases] at hevs
    have hreport : (after (pre ++ [.flushHealth now false])).report (.flushHealth now' true) =
        some ⟨now', ev :: rest, (after (pre ++ [.flushHealth now false])).buf.overflow⟩ := by
      simp [report, flushHealth, drain, hevs]
    have htrue := hhonest (pre ++ [.flushHealth now false]) _ post _ (by simp) hreport
      (by rw [hdrop']; exact hdrop)
    rw [hflag] at htrue
    cases htrue
  · rintro hcond pre c post r rfl hr hdrop
    obtain ⟨⟨now', rfl⟩, -, hflag, -⟩ := report_eq_some hr
    rw [hflag]
    apply (tracked pre).flagged hdrop
    rintro ⟨pre', now, rfl⟩
    have hsmall := hcond pre' now now' post (by simp)
    have hsame : (after (pre' ++ [.flushHealth now false])).dropped ≠ [] → (after pre').dropped ≠ [] := by
      intro hne hnone
      by_cases hempty : (after pre').buf.events = []
      · rw [after_concat, step_flush_empty hempty] at hne
        exact hne hnone
      · rw [after_concat, (step_flush hempty now).2.2.2.2] at hne
        exact hne hnone
    have hmany := (dropped_iff pre').1 (hsame hdrop)
    have hbound : maxBufferedEvents = 100 := rfl
    omega

namespace Sample

def flooded : List BufferCall := List.replicate 101 (.push ⟨[], .started, 0, none, []⟩) ++ [.flushHealth 0 false]

end Sample

/-- An event was dropped, the first report failed, and the second one arrives without the flag. -/
theorem overflow_flag_lost : (after Sample.flooded).dropped ≠ [] ∧
      ((after Sample.flooded).report (.flushHealth 0 true)).map HealthRequest.bufferOverflow = some false := by
  decide +kernel

end Ocelot.Agent
