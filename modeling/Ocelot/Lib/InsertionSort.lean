/-
# The in-place insertion sort of a slice

`sort` is the loop that swaps each element towards the front while the test `before` lets it pass,
for any test. Where the test compares a key the result is the input in the order of the key, what
is equal standing as it did (`Sorts`). There is only one such list, so that a sort by one key is
also a sort by another exactly if the two keys order each pair of the input alike (`sorts_iff`).
-/
import Mathlib.Data.List.Basic
import Mathlib.Order.Lattice

namespace InsertionSort

open List

variable {α : Type*}

/-- One turn of the outer loop, on the sorted front read from its end. -/
def sink (before : α → α → Bool) (x : α) : List α → List α
  | [] => [x]
  | y :: ys => if before x y then y :: sink before x ys else x :: y :: ys

def sort (before : α → α → Bool) (xs : List α) : List α :=
  (xs.foldl (fun front x => sink before x front) []).reverse

/-! ## The result is a permutation -/

variable (before : α → α → Bool)

theorem sink_perm (x : α) (ys : List α) : (sink before x ys).Perm (x :: ys) := by
  induction ys with
  | nil => exact .refl _
  | cons y ys ih =>
    unfold sink
    split_ifs
    · exact (ih.cons y).trans (.swap x y ys)
    · exact .refl _

theorem foldl_sink_perm (xs front : List α) :
    (xs.foldl (fun front x => sink before x front) front).Perm (front ++ xs) := by
  induction xs generalizing front with
  | nil => simp
  | cons x xs ih =>
    have hstep : (sink before x front ++ xs).Perm ((x :: front) ++ xs) :=
      (sink_perm before x front).append_right xs
    exact (ih (sink before x front)).trans (hstep.trans perm_middle.symm)

theorem sort_perm (xs : List α) : (sort before xs).Perm xs := by
  have h := foldl_sink_perm before xs []
  rw [nil_append] at h
  exact (reverse_perm _).trans h

/-! ## Order and stability -/

variable {before} {β : Type*} [LinearOrder β] {key key' : α → β}

/-- `ys` is `xs` in the order of a key, and what has one key stands in it as it stood in `xs`. -/
structure Sorts (key : α → β) (xs ys : List α) : Prop where
  perm : ys.Perm xs
  ordered : ys.Pairwise fun a b => key a ≤ key b
  stable : ∀ k, ys.filter (fun a => key a = k) = xs.filter fun a => key a = k

section

variable (hkey : ∀ x y, before x y = true ↔ key x < key y)
include hkey

theorem sink_pairwise (x : α) {front : List α} (h : front.Pairwise fun a b => key b ≤ key a) :
    (sink before x front).Pairwise fun a b => key b ≤ key a := by
  induction front with
  | nil => exact pairwise_singleton _ _
  | cons y ys ih =>
    obtain ⟨hy, hys⟩ := pairwise_cons.1 h
    unfold sink
    split_ifs with hbef
    · refine pairwise_cons.2 ⟨fun z hz => ?_, ih hys⟩
      rcases mem_cons.1 ((sink_perm before x ys).mem_iff.1 hz) with rfl | hz
      · exact ((hkey _ y).1 hbef).le
      · exact hy z hz
    · have hle : key y ≤ key x := not_lt.1 fun hlt => hbef ((hkey x y).2 hlt)
      exact pairwise_cons.2 ⟨forall_mem_cons.2 ⟨hle, fun z hz => (hy z hz).trans hle⟩, h⟩

theorem sort_pairwise (xs : List α) : (sort before xs).Pairwise fun a b => key a ≤ key b := by
  suffices h : ∀ front : List α, (front.Pairwise fun a b => key b ≤ key a) →
      (xs.foldl (fun front x => sink before x front) front).Pairwise fun a b => key b ≤ key a from
    pairwise_reverse.2 (h [] .nil)
  induction xs with
  | nil => exact fun _ h => h
  | cons x _ ih => exact fun front h => ih _ (sink_pairwise hkey x h)

theorem sink_filter (x : α) (front : List α) (k : β) :
    (sink before x front).filter (fun y => key y = k) = (x :: front).filter fun y => key y = k := by
  induction front with
  | nil => rfl
  | cons y ys ih =>
    unfold sink
    split_ifs with hbef
    · have hlt := (hkey x y).1 hbef
      rw [filter_cons, ih]
      by_cases hx : key x = k
      · have hy : key y ≠ k := (hx ▸ hlt).ne'
        simp [hx, hy]
      · simp [filter_cons, hx]
    · rfl

theorem sort_filter (xs : List α) (k : β) :
    (sort before xs).filter (fun y => key y = k) = xs.filter fun y => key y = k := by
  suffices h : ∀ front : List α,
      (xs.foldl (fun front x => sink before x front) front).filter (fun y => key y = k) =
        (xs.reverse ++ front).filter fun y => key y = k by
    rw [sort, filter_reverse, h, append_nil, filter_reverse, reverse_reverse]
  induction xs with
  | nil => exact fun _ => rfl
  | cons x xs ih =>
    intro front
    rw [foldl_cons, ih, filter_append, sink_filter hkey, ← filter_append, reverse_cons,
      append_assoc, singleton_append]

theorem sort_sorts (xs : List α) : Sorts key xs (sort before xs) :=
  ⟨sort_perm before xs, sort_pairwise hkey xs, sort_filter hkey xs⟩

end

/-! ## Two keys -/

theorem sink_congr {before' : α → α → Bool} {x : α} {front : List α}
    (h : ∀ y ∈ front, before x y = before' x y) : sink before x front = sink before' x front := by
  induction front with
  | nil => rfl
  | cons y ys ih =>
    obtain ⟨hy, hys⟩ := forall_mem_cons.1 h
    rw [sink, sink, hy, ih hys]

theorem sort_congr {before' : α → α → Bool} {xs : List α}
    (h : xs.Pairwise fun a b => before b a = before' b a) : sort before xs = sort before' xs := by
  suffices hfold : ∀ front : List α, (∀ x ∈ xs, ∀ y ∈ front, before x y = before' x y) →
      xs.foldl (fun front x => sink before x front) front =
        xs.foldl (fun front x => sink before' x front) front by
    rw [sort, sort, hfold [] fun _ _ _ hy => absurd hy not_mem_nil]
  induction xs with
  | nil => exact fun _ _ => rfl
  | cons x xs ih =>
    intro front hfront
    obtain ⟨hx, hxs⟩ := pairwise_cons.1 h
    rw [foldl_cons, foldl_cons, sink_congr (hfront x mem_cons_self)]
    refine ih hxs _ fun z hz y hy => ?_
    rcases mem_cons.1 ((sink_perm before' x front).mem_iff.1 hy) with rfl | hy
    · exact hx z hz
    · exact hfront z (mem_cons_of_mem x hz) y hy

theorem Sorts.lt_of_lt {xs ys : List α} (h : Sorts key xs ys) (h' : Sorts key' xs ys) {a b : α}
    (hab : [a, b].Sublist xs) (hlt : key b < key a) : key' b < key' a := by
  by_contra hnot
  rcases (not_lt.1 hnot).eq_or_lt with heq | hlt'
  · -- equal in the second key, the two stand in `ys` as they do in `xs`
    have hkept : [a, b].Sublist (ys.filter fun c => key' c = key' a) := by
      rw [h'.stable]
      simpa [heq] using hab.filter fun c => decide (key' c = key' a)
    have hle := pairwise_iff_forall_sublist.1 h.ordered (hkept.trans filter_sublist)
    exact absurd hlt (not_lt.2 hle)
  · obtain ⟨i, hi, rfl⟩ := mem_iff_getElem.1 (h.perm.mem_iff.2 (hab.subset (by simp : a ∈ [a, b])))
    obtain ⟨j, hj, rfl⟩ := mem_iff_getElem.1 (h.perm.mem_iff.2 (hab.subset (by simp : b ∈ [_, b])))
    rcases lt_trichotomy i j with hij | rfl | hji
    · exact absurd hlt (not_lt.2 (pairwise_iff_getElem.1 h.ordered i j hi hj hij))
    · exact lt_irrefl _ hlt
    · exact absurd hlt' (not_lt.2 (pairwise_iff_getElem.1 h'.ordered j i hj hi hji))

/-- **When a sort by one key sorts by another**: exactly if no pair is ordered differently. -/
theorem sorts_iff (hkey : ∀ x y, before x y = true ↔ key x < key y) {xs : List α} :
    Sorts key' xs (sort before xs) ↔ xs.Pairwise fun a b => (key b < key a ↔ key' b < key' a) := by
  constructor
  · intro h
    refine pairwise_iff_forall_sublist.2 fun hab => ?_
    exact ⟨(sort_sorts hkey xs).lt_of_lt h hab, h.lt_of_lt (sort_sorts hkey xs) hab⟩
  · intro h
    have hsame : sort before xs = sort (fun x y => decide (key' x < key' y)) xs := by
      refine sort_congr (h.imp fun {a b} hab => ?_)
      rw [Bool.eq_iff_iff, hkey, hab, decide_eq_true_eq]
    rw [hsame]
    exact sort_sorts (fun _ _ => decide_eq_true_iff) xs

end InsertionSort
