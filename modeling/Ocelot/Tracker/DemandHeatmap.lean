/-
# Where the recent announces came from (`tracker/demand_heatmap.go`).
-/
import Ocelot.Tracker.Types
import Ocelot.Lib.Float64

namespace Ocelot.Tracker

open List

structure DemandRecord where
  net : UInt16 := 0
  time : Time := 0
  deriving DecidableEq

structure DemandHeatmap where
  ring : List DemandRecord
  head : ℕ := 0
  size : ℕ := 0
  netCount : Finmap fun _ : UInt16 => ℕ
  total : ℕ := 0

namespace DemandHeatmap

def new (cap : ℕ) : DemandHeatmap where
  ring := List.replicate cap {}
  netCount := ∅

variable (h : DemandHeatmap)

def count (net : UInt16) : ℕ := (h.netCount.lookup net).getD 0

def record (clientIP : Bytes) (now : Time) : DemandHeatmap :=
  match clientIP with
  | a :: b :: _ =>
    if h.ring.length = 0 then h
    else
      let net := a.toUInt16 <<< 8 ||| b.toUInt16
      -- a full ring gives up the record in the slot that is about to be written
      let h :=
        if h.size = h.ring.length then
          let old := (h.ring.getD h.head {}).net
          { h with
            netCount := if 1 < h.count old then h.netCount.insert old (h.count old - 1) else h.netCount.erase old
            total := h.total - 1 }
        else { h with size := h.size + 1 }
      { h with
        ring := h.ring.set h.head { net, time := now }
        head := (h.head + 1) % h.ring.length
        netCount := h.netCount.insert net (h.count net + 1)
        total := h.total + 1 }
  | _ => h

def totalCount : ℕ := h.total

def modalNet (order : List UInt16) : Option UInt16 :=
  if h.total = 0 then none
  else
    some (order.foldl (fun best net => if best.2 < h.count net then (net, h.count net) else best)
      ((0 : UInt16), 0)).1

def netFraction (F : Type) [Float64 F] (h : DemandHeatmap) (net : UInt16) : F :=
  if h.total = 0 then Float64.ofInt 0 else Float64.ofInt (h.count net) / Float64.ofInt h.total

/-- The /16 key of an address; shorter ones are not recorded. -/
def netOf : Bytes → Option UInt16
  | a :: b :: _ => some (a.toUInt16 <<< 8 ||| b.toUInt16)
  | _ => none

def recordAll (calls : List (Bytes × Time)) : DemandHeatmap := calls.foldl (fun h c => h.record c.1 c.2) h

/-- The histogram of a window, with no entry for what is not in it. -/
def Counts (netCount : Finmap fun _ : UInt16 => ℕ) (window : List UInt16) : Prop :=
  ∀ net, netCount.lookup net = if 0 < window.count net then some (window.count net) else none

/-- The keys recorded so far, the newest first. -/
structure Tracks (cap : ℕ) (h : DemandHeatmap) (nets : List UInt16) : Prop where
  ring : h.ring.length = cap
  head : h.head = nets.length % cap
  size : h.size = min nets.length cap
  total : h.total = min nets.length cap
  slots : ∀ i net, i < cap → nets[i]? = some net → (h.ring.getD ((nets.length - (i + 1)) % cap) {}).net = net
  histogram : Counts h.netCount (nets.take cap)

section

variable {cap : ℕ} {h : DemandHeatmap} {m : Finmap fun _ : UInt16 => ℕ} {nets window : List UInt16} {old : UInt16}

theorem Counts.getD (hm : Counts m window) (net : UInt16) : (m.lookup net).getD 0 = window.count net := by
  rw [hm net]
  split_ifs
  · rfl
  · simp
    omega

theorem Counts.evict (hm : Counts m (window ++ [old])) :
    Counts (if 1 < (m.lookup old).getD 0 then m.insert old ((m.lookup old).getD 0 - 1)
      else m.erase old) window := by
  intro net
  rw [hm.getD, count_append, count_singleton_self, Nat.add_sub_cancel]
  have hnet := hm net
  by_cases hold : net = old
  · subst hold
    split_ifs <;> first | omega | simp
  · rw [count_append, count_singleton, beq_false_of_ne (Ne.symm hold), if_neg Bool.false_ne_true,
      Nat.add_zero] at hnet
    rw [← hnet]
    split_ifs <;> simp [hold]

theorem Counts.add (hm : Counts m window) (net : UInt16) :
    Counts (m.insert net ((m.lookup net).getD 0 + 1)) (net :: window) := by
  intro x
  rw [hm.getD, count_cons]
  by_cases hx : x = net
  · subst hx
    simp
  · rw [Finmap.lookup_insert_of_ne _ hx, hm x]
    simp [Ne.symm hx]

theorem tracks_new (cap : ℕ) : Tracks cap (new cap) [] where
  ring := length_replicate
  head := (Nat.zero_mod cap).symm
  size := (Nat.zero_min cap).symm
  total := (Nat.zero_min cap).symm
  slots _ _ _ hi := by cases hi
  histogram net := by simp [new]

theorem Tracks.push {h' : DemandHeatmap} {net : UInt16} {now : Time} (hcap : 0 < cap)
    (hs : Tracks cap h nets) (hring : h'.ring = h.ring) (hhead : h'.head = h.head)
    (hsize : h'.size = min (nets.length + 1) cap) (htot : h'.total + 1 = min (nets.length + 1) cap)
    (hcounts : Counts h'.netCount (nets.take (cap - 1))) : Tracks cap
      { h' with
        ring := h'.ring.set h'.head { net, time := now }
        head := (h'.head + 1) % h'.ring.length
        netCount := h'.netCount.insert net (h'.count net + 1)
        total := h'.total + 1 }
      (net :: nets) where
  ring := by rw [length_set, hring, hs.ring]
  head := by rw [hhead, hring, hs.head, hs.ring, Nat.mod_add_mod, length_cons]
  size := hsize
  total := htot
  slots i x hi hx := by
    rw [length_cons, Nat.add_sub_add_right, getD_eq_getElem?_getD, getElem?_set, hring, hhead, hs.ring, hs.head]
    cases i with
    | zero => simpa [Nat.mod_lt _ hcap] using hx
    | succ i =>
      rw [getElem?_cons_succ] at hx
      have hlt := (List.getElem?_eq_some_iff.1 hx).1
      -- the slot that is written is that of no other record in the window
      have hne : nets.length % cap ≠ (nets.length - (i + 1)) % cap := by
        intro heq
        have hzero := Nat.sub_mod_eq_zero_of_mod_eq heq
        rw [Nat.sub_sub_self hlt, Nat.mod_eq_of_lt hi] at hzero
        cases hzero
      rw [if_neg hne, ← getD_eq_getElem?_getD]
      exact hs.slots i x (by omega) hx
  histogram := by
    rw [take_cons hcap]
    exact hcounts.add net

theorem Tracks.record (hcap : 0 < cap) (hs : Tracks cap h nets) (clientIP : Bytes) (now : Time) :
    Tracks cap (h.record clientIP now) ((netOf clientIP).toList ++ nets) := by
  rcases clientIP with _ | ⟨a, _ | ⟨b, _⟩⟩
  · exact hs
  · exact hs
  rw [DemandHeatmap.record, if_neg (hs.ring ▸ hcap.ne'), netOf, Option.toList_some, singleton_append]
  by_cases hfull : h.size = h.ring.length
  · rw [if_pos hfull]
    rw [hs.size, hs.ring] at hfull
    have hlt : cap - 1 < nets.length := by omega
    have hold : (h.ring.getD h.head {}).net = nets[cap - 1] := by
      rw [hs.head, Nat.mod_eq_sub_mod (by omega),
        ← hs.slots (cap - 1) _ (by omega) (getElem?_eq_getElem hlt), Nat.sub_add_cancel hcap]
    have hwin := hs.histogram
    rw [← Nat.sub_add_cancel hcap, take_succ_eq_append_getElem hlt, ← hold] at hwin
    refine hs.push hcap rfl rfl ?_ ?_ hwin.evict
    · rw [hs.size]
      omega
    · show h.total - 1 + 1 = _
      rw [hs.total]
      omega
  · rw [if_neg hfull]
    rw [hs.size, hs.ring] at hfull
    have hwin := hs.histogram
    rw [take_of_length_le (by omega)] at hwin
    refine hs.push hcap rfl rfl ?_ ?_ (by rwa [take_of_length_le (by omega)])
    · show h.size + 1 = _
      rw [hs.size]
      omega
    · rw [hs.total]
      omega

theorem tracks_recordAll (hcap : 0 < cap) (calls : List (Bytes × Time)) (hs : Tracks cap h nets) :
    Tracks cap (h.recordAll calls) ((calls.filterMap fun c => netOf c.1).reverse ++ nets) := by
  induction calls generalizing h nets with
  | nil => exact hs
  | cons c calls ih =>
    have hnext := ih (hs.record hcap c.1 c.2)
    show Tracks cap ((h.record c.1 c.2).recordAll calls) _
    rw [filterMap_cons]
    cases hnet : netOf c.1 <;> simpa [hnet] using hnext

theorem foldl_best (f : UInt16 → ℕ) (order : List UInt16) (best : UInt16 × ℕ) :
    ∃ r, order.foldl (fun best net => if best.2 < f net then (net, f net) else best) best = r ∧
      best.2 ≤ r.2 ∧ (∀ net ∈ order, f net ≤ r.2) ∧ (r = best ∨ r.2 = f r.1) := by
  induction order generalizing best with
  | nil => exact ⟨best, rfl, le_rfl, nofun, .inl rfl⟩
  | cons net _ ih =>
    obtain ⟨r, hr, hle, hall, hbest⟩ := ih (if best.2 < f net then (net, f net) else best)
    refine ⟨r, hr, ?_⟩
    split_ifs at hle hbest with hlt
    · exact ⟨hlt.le.trans hle, forall_mem_cons.2 ⟨hle, hall⟩, .inr (hbest.elim (fun h => h ▸ rfl) id)⟩
    · exact ⟨hle, forall_mem_cons.2 ⟨(not_lt.1 hlt).trans hle, hall⟩, hbest⟩

/-- **The heatmap counts its window**, the last `cap` keys, here the newest first. -/
theorem counts_window (hcap : 0 < cap) (calls : List (Bytes × Time)) :
    let nets := (calls.filterMap fun c => netOf c.1).reverse
    let h := (new cap).recordAll calls
    h.size = min nets.length cap ∧ h.total = min nets.length cap ∧ Counts h.netCount (nets.take cap) ∧
      ∀ order, (∀ net, net ∈ order ↔ net ∈ h.netCount) → ((h.modalNet order).isSome = true ↔ nets ≠ []) ∧
        ∀ best ∈ h.modalNet order, best ∈ nets.take cap ∧ ∀ net, (nets.take cap).count net ≤
            (nets.take cap).count best := by
  intro nets h
  have hs : Tracks cap h nets := by simpa [nets] using tracks_recordAll hcap calls (tracks_new cap)
  refine ⟨hs.size, hs.total, hs.histogram, fun order hord => ?_⟩
  have hcnt : h.count = fun net => (nets.take cap).count net := funext hs.histogram.getD
  obtain ⟨r, hr, -, hall, hbest⟩ := foldl_best h.count order (0, 0)
  have hmost : ∀ net, h.count net ≤ r.2 := by
    intro net
    by_cases hnet : net ∈ order
    · exact hall net hnet
    · rw [count, Finmap.lookup_eq_none.2 (mt (hord net).2 hnet)]
      exact Nat.zero_le _
  unfold modalNet
  rw [hr, hs.total]
  by_cases hnone : nets = []
  · simp [hnone]
  · have hpos := length_pos_of_ne_nil hnone
    rw [if_neg (by omega)]
    refine ⟨by simp [hnone], ?_⟩
    rintro _ ⟨⟩
    obtain ⟨first, _, hnets⟩ := exists_cons_of_ne_nil hnone
    have hfirst : 0 < h.count first := by
      rw [hcnt, hnets, take_cons hcap]
      exact count_pos_iff.2 mem_cons_self
    have hmode : r.2 = h.count r.1 := hbest.resolve_left fun heq =>
      absurd (hmost first) (by rw [heq]; exact hfirst.not_ge)
    rw [hmode, hcnt] at hmost
    exact ⟨count_pos_iff.1 ((hcnt ▸ hfirst).trans_le (hmost first)), hmost⟩

theorem counts_window_three :
    ((new 2).recordAll [([10, 0], 0), ([10, 1], 0), ([10, 1], 0)]).modalNet [2561] = some 2561 ∧
    Counts ((new 2).recordAll [([10, 0], 0), ([10, 1], 0), ([10, 1], 0)]).netCount [2561, 2561] :=
  ⟨by decide +kernel, (@counts_window 2 (by decide) _).2.2.1⟩

end

end DemandHeatmap

def netAffinity (F : Type) [Float64 F] (nodeNet demandNet : UInt16) : F :=
  if nodeNet = demandNet then Float64.const 1
  else if nodeNet >>> 8 = demandNet >>> 8 then Float64.const (1 / 2)
  else Float64.const 0

end Ocelot.Tracker
