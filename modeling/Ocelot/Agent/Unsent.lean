/-
# What waits in the health buffer while the agent is idle (`agent.go`, `reconcile.go`).
-/
import Ocelot.Agent.Outcomes

namespace Ocelot.Agent

open List Option Run
open Compute (Millis HealthEvent DesiredWorkload)

namespace HealthBuffer

theorem push_ne_nil (hb : HealthBuffer) (ev : HealthEvent) : (hb.push ev).events ≠ [] := by
  unfold push
  split_ifs <;> simp

theorem pushAll_ne_nil (hb : HealthBuffer) {events : List HealthEvent} (h : events ≠ []) :
    (hb.pushAll events).events ≠ [] := by
  rw [← dropLast_concat_getLast h, pushAll, foldl_append]
  exact push_ne_nil _ _

theorem drain_of_ne_nil {hb : HealthBuffer} (h : hb.events ≠ []) : hb.drain.1.events = [] ∧ hb.drain.2.1 ≠ [] := by
  unfold drain
  split
  · contradiction
  · exact ⟨rfl, by simp⟩

end HealthBuffer

open HealthBuffer

namespace Loop

/-- What a run does to the buffer: the end of a `flushHealth`, and an event of the reconciler. -/
inductive Trace where
  | flushed (ok : Bool)
  | pushed
  deriving DecidableEq

def trace (a : Loop) : Label → Option Trace
  | .posted => some (.flushed true)
  | .postFailed => some (.flushed false)
  | .work _ _ =>
    match a.phase.tasks with
    | [] | .stop _ :: _ => none
    | _ => some .pushed
  | _ => none

def lastFlush (tr : List Trace) : Option Trace := (tr.filter (· ≠ .pushed)).getLast?

structure Tracked (a : Loop) (tr : List Trace) : Prop where
  posting : ∀ req, a.phase = .posting req → a.healthBuf.events = [] ∧ req.events ≠ []
  settled : (∀ req, a.phase ≠ .posting req) →
    (a.healthBuf.events ≠ [] ↔ tr.getLast?.any (· ≠ .flushed true) = true)

variable {a a' : Loop} {tr : List Trace}

theorem Tracked.keep (h : Tracked a tr) (hbuf : a'.healthBuf = a.healthBuf) (hfrom : ∀ req, a.phase ≠ .posting req)
    (hto : ∀ req, a'.phase ≠ .posting req) : Tracked a' tr := by
  refine ⟨fun req hreq => absurd hreq (hto req), fun _ => ?_⟩
  rw [hbuf]
  exact h.settled hfrom

theorem Tracked.quiet (h : Tracked a tr) : Tracked a (tr ++ []) := by
  rw [append_nil]
  exact h

theorem tracked_of_push (hbuf : a'.healthBuf.events ≠ []) (hto : ∀ req, a'.phase ≠ .posting req)
    {t : Trace} (ht : t ≠ .flushed true) : Tracked a' (tr ++ [t]) := by
  refine ⟨fun req hreq => absurd hreq (hto req), fun _ => ?_⟩
  simp [hbuf, ht]

theorem startWorkload_ne_nil (wl : DesiredWorkload) (result : StartResult) (now : Millis) :
    (a.startWorkload wl result now).healthBuf.events ≠ [] := by
  unfold startWorkload
  cases result with
  | mountFailed => exact push_ne_nil _ _
  | startFailed =>
    split_ifs <;> exact push_ne_nil _ _
  | launched =>
    dsimp only
    split <;> exact push_ne_nil _ _

theorem Tracked.step {l : Label} (h : Tracked a tr) (hstep : a.step l = some a') :
    Tracked a' (tr ++ (a.trace l).toList) := by
  cases steps_of_step hstep with
  | exited | removed | announced => exact .quiet ⟨h.posting, h.settled⟩
  | received _ _ hhb =>
    refine ⟨fun req hreq => ?_, fun hnot => absurd rfl (hnot _)⟩
    cases hreq
    exact drain_of_ne_nil (hhb ▸ push_ne_nil _ _)
  | turned hturn =>
    cases hturn with
    | posted hph =>
      refine ⟨fun _ hreq => (by cases hreq), fun _ => ?_⟩
      simp [(h.posting _ hph).1, trace]
    | postFailed hph =>
      exact tracked_of_push (pushAll_ne_nil _ (h.posting _ hph).2) (by simp) (by decide)
    | polled hph | planned hph | cancelled hph => exact .quiet (h.keep rfl (by simp [hph]) (by simp))
    | worked hph =>
      simp only [trace, hph, Phase.tasks, toList_none, append_nil]
      exact h.keep rfl (by simp [hph]) (by simp)
  | stopped hph =>
    simp only [trace, hph, Phase.tasks, toList_none, append_nil]
    refine h.keep ?_ (by simp [hph]) (by simp)
    unfold stop
    split <;> rfl
  | told hph =>
    simp only [trace, hph, Phase.tasks]
    exact tracked_of_push (push_ne_nil _ _) (by simp) (by decide)
  | @started wl _ result now hph =>
    simp only [trace, hph, Phase.tasks]
    refine tracked_of_push ?_ (by simp) (by decide)
    exact startWorkload_ne_nil wl result now

theorem Tracked.run {ls : List Label} (h : Tracked a tr) (hrun : exec Loop.step a ls = some a') :
    Tracked a' (tr ++ collect Loop.step trace a ls) := by
  induction ls generalizing a tr with
  | nil =>
    cases hrun
    rw [collect, append_nil]
    exact h
  | cons l ls ih =>
    obtain ⟨u, hu, hrest⟩ := bind_eq_some_iff.1 hrun
    have hlast := ih (h.step hu) hrest
    rw [append_assoc] at hlast
    simpa [collect, hu] using hlast

/-- **An event waits unsent**, the last attempt not having failed, exactly if it came from the
reconciler since. -/
theorem waits_iff {ls : List Label} (hrun : exec step initial ls = some a) (hidle : a.phase = .idle)
    (htr : collect step trace initial ls = tr) : (a.healthBuf.events ≠ [] → lastFlush tr = some (.flushed false)) ↔
      (tr.getLast? = some .pushed → lastFlush tr = some (.flushed false)) := by
  have hinitial : Tracked initial [] := ⟨fun _ h => (by cases h), fun _ => by simp [initial, newHealthBuffer]⟩
  have hbuf := (hinitial.run hrun).settled (by simp [hidle])
  rw [nil_append, htr] at hbuf
  refine ⟨fun h hpushed => h (hbuf.2 (by simp [hpushed])), fun h hne => ?_⟩
  obtain ⟨t, ht, hnot⟩ := (any_eq_true _ _).1 (hbuf.1 hne)
  cases t with
  | pushed => exact h ht
  | flushed ok =>
    obtain ⟨_, rfl⟩ := getLast?_eq_some_iff.1 ht
    cases ok with
    | true => simp at hnot
    | false => simp [lastFlush]

open Sample

theorem waits_completed : ∃ a, exec step initial (started ++ .exit 0 .success :: watched) = some a ∧
    (a.healthBuf.events ≠ [] → lastFlush [.pushed, .flushed true] = some (.flushed false)) := by
  refine ends_of (P := fun a => a.phase = .idle) (by decide +kernel) ?_
  intro a ha hidle
  exact (waits_iff ha hidle (by decide +kernel)).2 (by decide)

/-- A workload is started, and the agent waits without having tried to say so. -/
theorem started_waits : ∃ a, exec step initial started = some a ∧ a.phase = .idle ∧ a.eventsCh = [] ∧
    a.healthBuf.events ≠ [] ∧ lastFlush (collect step trace initial started) = none := by
  decide +kernel

end Loop

end Ocelot.Agent
