/-
# Which snatches the analytics observe (`markov/internal/engine`).
-/
import Ocelot.Lib.Run
import Mathlib.Data.List.Sort
import Mathlib.Data.List.Nodup

namespace Ocelot.Markov

open List

structure SnatchRow where
  uid : ℤ
  fid : ℤ
  tstamp : ℤ
  deriving DecidableEq

/-- The loads of a poll, in their order. -/
inductive Load where
  | peers | snatches | torrents | users | freeleechUIDs
  deriving DecidableEq

/-- The engine with the table; a row is known by its place there. -/
structure Engine where
  snatches : List SnatchRow
  snatchWatermark : ℤ
  /-- The argument of each call of `PeerEngine.observe`. -/
  observed : List (List (SnatchRow × ℕ))

namespace Engine

variable (e : Engine)

/-- The rows after the watermark, by time; those of its own second are left out. -/
def loadSnatches : List (SnatchRow × ℕ) :=
  (e.snatches.zipIdx.filter fun x => e.snatchWatermark < x.1.tstamp).insertionSort fun x y =>
    x.1.tstamp ≤ y.1.tstamp

/-- The watermark becomes the time of the last row that was read. -/
def advance : Engine :=
  { e with snatchWatermark := e.loadSnatches.getLast?.elim e.snatchWatermark fun x => x.1.tstamp }

/-- The watermark is advanced before the later loads are made. -/
def poll : Option Load → Engine
  | some .peers | some .snatches => e
  | some _ => e.advance
  | none => { e.advance with observed := e.observed ++ [e.loadSnatches] }

inductive Label where
  | insert (row : SnatchRow)
  | poll (failed : Option Load)

/-- Rows are inserted in the order of time, and any load of a poll may fail. -/
def step : Label → Option Engine
  | .insert row => if ∀ r ∈ e.snatches, r.tstamp ≤ row.tstamp then some
    { e with snatches := e.snatches ++ [row] } else none
  | .poll failed => some (e.poll failed)

def initial : Engine := ⟨[], 0, []⟩

/-- **The condition**: no row is inserted at the time of the watermark, and no load fails after new
rows were read. -/
def Timely : Label → Prop
  | .insert row => e.snatchWatermark < row.tstamp
  | .poll failed => failed ∈ [some .torrents, some .users, some .freeleechUIDs] → e.loadSnatches = []

instance (e : Engine) (l : Label) : Decidable (e.Timely l) := by
  unfold Timely
  split <;> infer_instance

/-- The rows up to the watermark have been observed once, the others not at all. -/
def Counted : Prop :=
  ∀ x, e.observed.flatten.count x = if x ∈ e.snatches.zipIdx ∧ x.1.tstamp ≤ e.snatchWatermark then 1 else 0

variable {e e' : Engine} {x : SnatchRow × ℕ}

theorem mem_loadSnatches : x ∈ e.loadSnatches ↔ x ∈ e.snatches.zipIdx ∧ e.snatchWatermark < x.1.tstamp := by
  rw [loadSnatches, mem_insertionSort, mem_filter, decide_eq_true_eq]

theorem le_advance : e.snatchWatermark ≤ e.advance.snatchWatermark ∧
    ∀ x ∈ e.snatches.zipIdx, x.1.tstamp ≤ e.advance.snatchWatermark := by
  have hsort : e.loadSnatches.Pairwise fun x y => x.1.tstamp ≤ y.1.tstamp := pairwise_insertionSort _ _
  unfold advance
  rcases eq_nil_or_concat e.loadSnatches with hnil | ⟨front, last, hload⟩
  · simp only [hnil, getLast?_nil, Option.elim_none]
    refine ⟨le_rfl, fun x hx => not_lt.1 fun hlt => ?_⟩
    exact absurd (mem_loadSnatches.2 ⟨hx, hlt⟩) (hnil ▸ not_mem_nil)
  · rw [concat_eq_append] at hload
    rw [hload, pairwise_append] at hsort
    simp only [hload, getLast?_append, getLast?_singleton, Option.some_or, Option.elim_some]
    have hlast := (mem_loadSnatches (e := e) (x := last)).1 (by simp [hload])
    refine ⟨hlast.2.le, fun x hx => ?_⟩
    by_cases hnew : e.snatchWatermark < x.1.tstamp
    · have hmem := mem_loadSnatches.2 ⟨hx, hnew⟩
      rw [hload, mem_append] at hmem
      rcases hmem with hfront | hx
      · exact hsort.2.2 x hfront last (by simp)
      · rw [mem_singleton.1 hx]
    · omega

theorem count_loadSnatches (e : Engine) (x : SnatchRow × ℕ) :
    e.loadSnatches.count x = if x ∈ e.snatches.zipIdx ∧ e.snatchWatermark < x.1.tstamp then 1 else 0 := by
  have hnodup : e.loadSnatches.Nodup := by
    refine (perm_insertionSort _ _).nodup_iff.2 (.filter _ (.of_map Prod.snd ?_))
    rw [zipIdx_map_snd]
    exact nodup_range'
  rw [hnodup.count]
  simp only [mem_loadSnatches]

theorem Counted.step {l : Label} (h : Counted e) (ht : e.Timely l) (hstep : e.step l = some e') : Counted e' := by
  cases l with
  | insert row =>
    simp only [Engine.step, Option.ite_none_right_eq_some, Option.some.injEq] at hstep
    obtain ⟨-, rfl⟩ := hstep
    intro x
    refine (h x).trans (if_congr ?_ rfl rfl)
    rw [zipIdx_append, mem_append]
    refine and_congr_left fun hx => (or_iff_left fun hnew => ?_).symm
    obtain rfl : x = (row, 0 + e.snatches.length) := by simpa using hnew
    exact absurd hx ht.not_ge
  | poll failed =>
    cases hstep
    have hskip : e.loadSnatches = [] → e.advance = e := by
      intro hnil
      simp [advance, hnil]
    rcases failed with _ | (_ | _ | _ | _ | _)
    -- the rows above the old watermark are added, each once
    · intro x
      show (e.observed ++ [e.loadSnatches]).flatten.count x = _
      rw [flatten_append, count_append, h x, flatten_singleton, count_loadSnatches]
      have hle := le_advance (e := e)
      have hall := hle.2 x
      show _ = if x ∈ e.snatches.zipIdx ∧ x.1.tstamp ≤ e.advance.snatchWatermark then 1 else 0
      split_ifs <;> first | rfl | grind
    · exact h
    · exact h
    -- a later load failed, so by the condition nothing was read
    all_goals
      show Counted e.advance
      rw [hskip (ht (by decide))]
      exact h

theorem keeps_observed {l : Label} (h : x ∈ e.snatches.zipIdx ∧ x.1.tstamp ≤ e.snatchWatermark)
    (hstep : e.step l = some e') :
    x ∈ e'.snatches.zipIdx ∧ x.1.tstamp ≤ e'.snatchWatermark := by
  cases l with
  | insert row =>
    simp only [Engine.step, Option.ite_none_right_eq_some, Option.some.injEq] at hstep
    obtain ⟨-, rfl⟩ := hstep
    exact ⟨zipIdx_append ▸ mem_append_left _ h.1, h.2⟩
  | poll failed =>
    cases hstep
    have hle : x.1.tstamp ≤ e.advance.snatchWatermark := h.2.trans le_advance.1
    rcases failed with _ | (_ | _ | _ | _ | _)
    exacts [⟨h.1, hle⟩, h, h, ⟨h.1, hle⟩, ⟨h.1, hle⟩, ⟨h.1, hle⟩]

/-- **Every snatch is observed once**, as soon as a poll succeeds. -/
theorem observed_once (ls ms : List Label) (ht : Run.Meets Engine.step Timely initial (ls ++ .poll none :: ms))
    (he : Run.exec Engine.step initial ls = some e) (hx : x ∈ e.snatches.zipIdx)
    (he' : Run.exec Engine.step initial (ls ++ .poll none :: ms) = some e') : e'.observed.flatten.count x = 1 := by
  have hkeeps : ∀ s l t, Counted s → s.Timely l → s.step l = some t → Counted t :=
    fun _ _ _ h ht hst => h.step ht hst
  have hend := Run.exec_invariant_of_meets hkeeps (fun _ => by simp [initial]) ht he'
  rw [Run.exec_append, he] at he'
  have hseen : x ∈ e'.snatches.zipIdx ∧ x.1.tstamp ≤ e'.snatchWatermark :=
    Run.exec_invariant (s := e.poll none)
      (fun _ _ _ h hst => keeps_observed h hst) ⟨hx, le_advance.2 x hx⟩ he'
  rw [hend x, if_pos hseen]

end Engine

namespace Sample

def snatch (uid tstamp : ℤ) : Engine.Label := .insert ⟨uid, 1, tstamp⟩

end Sample

namespace Engine

open Sample

theorem observed_twice_apart : ∃ e, Run.exec Engine.step initial
    [snatch 7 5, .poll (some .peers), .poll none, snatch 8 6, .poll none] =
    some e ∧ e.observed.flatten.count (⟨7, 1, 5⟩, 0) = 1 := by
  refine ⟨_, rfl, observed_once [snatch 7 5, .poll (some .peers)] [snatch 8 6, .poll none] ?_ rfl (by decide) rfl⟩
  decide +kernel

/-- A load that fails after the snatches were read loses them, and so does a snatch in the second of
the watermark. -/
theorem never_observed : ∃ e, Run.exec Engine.step initial
    [snatch 7 5, .poll (some .users), .poll none, snatch 8 5, .poll none] =
    some e ∧ e.snatches.length = 2 ∧ e.observed.flatten = [] := by
  exact ⟨_, rfl, by decide +kernel⟩

end Engine

end Ocelot.Markov
