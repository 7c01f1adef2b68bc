/-
# Weighted totals over a finite map.
-/
import Mathlib.Data.Finmap
import Mathlib.Algebra.BigOperators.Group.Multiset.Basic
import Mathlib.Tactic.Abel

namespace Finmap

open Multiset Option List

universe u v w

/-! ## Totals -/

variable {α : Type u} {β : Type v} {γ : Type w} {M : Type*}

def total [AddCommMonoid M] (f : α → β → M) (m : Finmap fun _ : α => β) : M :=
  (m.entries.map fun e => f e.1 e.2).sum

theorem lookup_insert_cases [DecidableEq α] {m : Finmap fun _ : α => β} {k q : α} {v x : β}
    (h : (m.insert k v).lookup q = some x) : q = k ∧ v = x ∨ q ≠ k ∧ m.lookup q = some x := by
  by_cases hq : q = k
  · subst hq
    rw [lookup_insert] at h
    exact .inl ⟨rfl, some.inj h⟩
  · rw [lookup_insert_of_ne _ hq] at h
    exact .inr ⟨hq, h⟩

def size (m : Finmap fun _ : α => β) : ℕ := Multiset.card m.entries

theorem size_eq_total (m : Finmap fun _ : α => β) : m.size = m.total fun _ _ => 1 := by
  simp [size, total]

variable (l : List (α × β)) (f g : α → β → M) (p : α → β → Bool)

@[simp] theorem total_empty [AddCommMonoid M] : total f (∅ : Finmap fun _ : α => β) = 0 := rfl

theorem total_eq_zero [AddCommMonoid M] {f : α → β → M} {m : Finmap fun _ : α => β}
    (h : ∀ e ∈ m.entries, f e.1 e.2 = 0) : total f m = 0 := by
  unfold total
  rw [map_congr rfl h]
  simp

variable [DecidableEq α] {m : Finmap fun _ : α => β} {a : α} {b : β}

theorem mem_entries_iff : (⟨a, b⟩ : Sigma fun _ : α => β) ∈ m.entries ↔ m.lookup a = some b :=
    lookup_eq_some_iff.symm

theorem erase_of_notMem (h : a ∉ m) : m.erase a = m := by
  apply ext_lookup
  intro x
  by_cases hx : x = a
  · subst hx
    rw [lookup_erase, lookup_eq_none.mpr h]
  · rw [lookup_erase_ne hx]

theorem insert_erase_self (a : α) (b : β) (m : Finmap fun _ : α => β) : (m.erase a).insert a b = m.insert a b := by
  apply ext_lookup
  intro x
  by_cases hx : x = a
  · subst hx
    rw [lookup_insert, lookup_insert]
  · rw [lookup_insert_of_ne _ hx, lookup_insert_of_ne _ hx, lookup_erase_ne hx]

theorem insert_of_lookup_eq (h : m.lookup a = some b) : m.insert a b = m := by
  apply ext_lookup
  intro x
  by_cases hx : x = a
  · subst hx
    rw [lookup_insert, h]
  · rw [lookup_insert_of_ne _ hx]

theorem total_insert [AddCommMonoid M] (a : α) (b : β)
    (m : Finmap fun _ : α => β) : total f (m.insert a b) = f a b + total f (m.erase a) := by
  have hfresh : a ∉ m.erase a := notMem_erase_self
  rw [← insert_erase_self, total, entries_insert_of_notMem hfresh]
  simp [total]

theorem total_eq_add_erase [AddCommMonoid M] (h : m.lookup a = some b) :
    total f m = f a b + total f (m.erase a) := by
  rw [← total_insert f a b m, insert_of_lookup_eq h]

def weightAt [Zero M] (f : α → β → M) (a : α) (m : Finmap fun _ : α => β) : M := (m.lookup a).elim 0 (f a)

theorem total_eq_weightAt_add_erase [AddCommMonoid M] (a : α)
    (m : Finmap fun _ : α => β) : total f m = weightAt f a m + total f (m.erase a) := by
  cases h : m.lookup a with
  | none =>
    rw [erase_of_notMem (lookup_eq_none.mp h)]
    simp [weightAt, h]
  | some =>
    rw [total_eq_add_erase f h]
    simp [weightAt, h]

theorem total_add_weightAt_of_erase_eq [AddCommMonoid M] {m' : Finmap fun _ : α => β}
    (h : m'.erase a = m.erase a) : total f m' + weightAt f a m = total f m + weightAt f a m' := by
  rw [total_eq_weightAt_add_erase f a m', total_eq_weightAt_add_erase f a m, h]
  abel

@[simp] theorem erase_insert_self (a : α) (b : β) (m : Finmap fun _ : α => β) :
    (m.insert a b).erase a = m.erase a := by
  apply ext_lookup
  intro x
  by_cases hx : x = a
  · subst hx
    simp
  · simp [hx]

theorem erase_insert_of_ne {a' : α} (h : a' ≠ a) (b : β) (m : Finmap fun _ : α => β) :
    (m.insert a' b).erase a = (m.erase a).insert a' b := by
  apply ext_lookup
  intro x
  by_cases hx : x = a
  · subst hx
    rw [lookup_erase, lookup_insert_of_ne _ h.symm, lookup_erase]
  · rw [lookup_erase_ne hx]
    by_cases hx' : x = a'
    · subst hx'
      rw [lookup_insert, lookup_insert]
    · rw [lookup_insert_of_ne _ hx', lookup_insert_of_ne _ hx', lookup_erase_ne hx]

@[simp] theorem erase_erase_self (a : α) (m : Finmap fun _ : α => β) : (m.erase a).erase a = m.erase a :=
  erase_of_notMem notMem_erase_self

theorem size_insert_of_mem (h : a ∈ m) : (m.insert a b).size = m.size := by
  obtain ⟨c, hc⟩ := mem_iff.mp h
  simp only [size_eq_total]
  rw [total_insert, total_eq_add_erase _ hc]

theorem size_insert_of_notMem (h : a ∉ m) : (m.insert a b).size = m.size + 1 := by
  simp only [size_eq_total]
  rw [total_insert, erase_of_notMem h, Nat.add_comm]

def newKeys (l : List (α × β)) (m : Finmap fun _ : α => β) : Finset α :=
  (l.map Prod.fst).toFinset.filter fun a => a ∉ m

theorem size_foldl_insert (m : Finmap fun _ : α => β) :
    (l.foldl (fun m e => m.insert e.1 e.2) m).size = m.size + (newKeys l m).card := by
  induction l generalizing m with
  | nil => simp [newKeys]
  | cons e l ih =>
    rw [List.foldl_cons, ih]
    by_cases he : e.1 ∈ m
    · have hkeys : newKeys (e :: l) m = newKeys l (m.insert e.1 e.2) := by
        ext a
        by_cases ha : a = e.1 <;> simp [newKeys, ha, he]
      rw [size_insert_of_mem he, hkeys]
    · have hkeys : newKeys (e :: l) m = Insert.insert e.1 (newKeys l (m.insert e.1 e.2)) := by
        ext a
        by_cases ha : a = e.1 <;> simp [newKeys, ha, he]
      have hnotMem : e.1 ∉ newKeys l (m.insert e.1 e.2) := by simp [newKeys]
      rw [size_insert_of_notMem he, hkeys, Finset.card_insert_of_notMem hnotMem]
      omega

theorem lookup_foldl_insert_filterMap (f : α → Option β) (keys : List α) (m : Finmap fun _ : α => β) (a : α) :
    ((keys.filterMap fun k => (f k).map fun b => (k, b)).foldl (fun m e => m.insert e.1 e.2) m).lookup a =
      if a ∈ keys then (f a).or (m.lookup a) else m.lookup a := by
  induction keys generalizing m with
  | nil => simp
  | cons k _ ih =>
    cases hk : f k with
    | none =>
      rw [List.filterMap_cons_none (by rw [hk]; rfl), ih]
      by_cases ha : a = k
      · subst ha
        simp [hk]
      · simp [ha]
    | some =>
      rw [List.filterMap_cons_some (by rw [hk]; rfl), List.foldl_cons, ih]
      by_cases ha : a = k
      · subst ha
        simp [hk]
      · simp [ha, lookup_insert_of_ne _ ha]

/-! ## Filters -/

def filter (p : α → β → Bool) (m : Finmap fun _ : α => β) : Finmap fun _ : α => β where
  entries := m.entries.filter fun e => p e.1 e.2
  nodupKeys := by
    have h := Multiset.nodup_keys.mpr m.nodupKeys
    have hle := Multiset.map_le_map (f := Sigma.fst)
      (Multiset.filter_le (fun e : Sigma fun _ : α => β => p e.1 e.2 = true) m.entries)
    exact Multiset.nodup_keys.mp (Multiset.nodup_of_le hle h)

theorem lookup_filter (m : Finmap fun _ : α => β) (a : α) : (m.filter p).lookup a = (m.lookup a).filter (p a) := by
  apply Option.ext
  intro b
  rw [filter_eq_some_iff, ← mem_entries_iff, ← mem_entries_iff]
  show _ ∈ Multiset.filter _ _ ↔ _
  rw [Multiset.mem_filter]

theorem filter_ne_empty_iff {p : α → β → Bool} : m.filter p ≠ ∅ ↔ ∃ a b, m.lookup a = some b ∧ p a b = true := by
  constructor
  · intro h
    by_contra hnone
    apply h
    apply ext_lookup
    intro a
    rw [lookup_filter, lookup_empty, filter_eq_none_iff]
    intro b hb hp
    exact hnone ⟨a, b, hb, hp⟩
  · rintro ⟨a, b, hb, hp⟩ hempty
    have hkept : (m.filter p).lookup a = some b := by
      rw [lookup_filter, hb, filter_some_eq_some.2 hp]
    rw [hempty, lookup_empty] at hkept
    cases hkept

instance decidableExistsLookup {p : α → β → Prop} [∀ a b, Decidable (p a b)] [DecidableEq β]
    (m : Finmap fun _ : α => β) : Decidable (∃ a b, m.lookup a = some b ∧ p a b) :=
  decidable_of_iff ((m.filter fun a b => decide (p a b)) ≠ ∅) (by
    rw [filter_ne_empty_iff]
    simp only [decide_eq_true_eq])

instance decidableForallLookup {p : α → β → Prop} [∀ a b, Decidable (p a b)] [DecidableEq β]
    (m : Finmap fun _ : α => β) : Decidable (∀ a b, m.lookup a = some b → p a b) :=
  decidable_of_iff (¬ ∃ a b, m.lookup a = some b ∧ ¬ p a b) (by simp)

omit [DecidableEq α] in
theorem total_filter_add_total_filter_not [AddCommMonoid M]
    (m : Finmap fun _ : α => β) : total f (m.filter p) + total f (m.filter fun a b => !p a b) = total f m := by
  have h := filter_add_not (fun e : Sigma fun _ : α => β => p e.1 e.2 = true) m.entries
  unfold total filter
  rw [← sum_add, ← map_add]
  conv_rhs => rw [← h]
  simp

omit [DecidableEq α] in
theorem size_filter_add_size_filter_not (m : Finmap fun _ : α => β) :
    (m.filter p).size + (m.filter fun a b => !p a b).size = m.size := by
  simp only [size_eq_total]
  exact total_filter_add_total_filter_not _ p m

/-! ## Images -/

def mapVal (g : α → β → γ) (m : Finmap fun _ : α => β) : Finmap fun _ : α => γ where
  entries := m.entries.map fun e => ⟨e.1, g e.1 e.2⟩
  nodupKeys := by
    have h := Multiset.nodup_keys.mpr m.nodupKeys
    apply Multiset.nodup_keys.mp
    simpa [Multiset.keys, Multiset.map_map] using h

theorem lookup_mapVal (g : α → β → γ) (m : Finmap fun _ : α => β) (a : α) :
    (m.mapVal g).lookup a = (m.lookup a).map (g a) := by
  apply Option.ext
  intro c
  rw [Option.map_eq_some_iff, ← mem_entries_iff]
  show _ ∈ Multiset.map _ _ ↔ _
  rw [Multiset.mem_map]
  constructor
  · rintro ⟨⟨x, b⟩, hmem, heq⟩
    obtain ⟨rfl, hc⟩ := Sigma.mk.inj heq
    exact ⟨b, mem_entries_iff.1 hmem, eq_of_heq hc⟩
  · rintro ⟨b, hb, rfl⟩
    exact ⟨⟨a, b⟩, mem_entries_iff.2 hb, rfl⟩

@[simp] theorem mem_mapVal {g : α → β → γ} : a ∈ m.mapVal g ↔ a ∈ m := by
  rw [← not_iff_not, ← lookup_eq_none, ← lookup_eq_none, lookup_mapVal, map_eq_none_iff]

theorem mapVal_insert (g : α → β → γ) (a : α) (b : β) (m : Finmap fun _ : α => β) :
    (m.insert a b).mapVal g = (m.mapVal g).insert a (g a b) := by
  apply ext_lookup
  intro x
  rw [lookup_mapVal]
  by_cases hx : x = a
  · subst hx
    rw [lookup_insert, lookup_insert, map_some]
  · rw [lookup_insert_of_ne _ hx, lookup_insert_of_ne _ hx, lookup_mapVal]

theorem mapVal_erase (g : α → β → γ) (a : α) (m : Finmap fun _ : α => β) :
    (m.erase a).mapVal g = (m.mapVal g).erase a := by
  apply ext_lookup
  intro x
  rw [lookup_mapVal]
  by_cases hx : x = a
  · subst hx
    rw [lookup_erase, lookup_erase, map_none]
  · rw [lookup_erase_ne hx, lookup_erase_ne hx, lookup_mapVal]

omit [DecidableEq α] in
theorem total_mapVal [AddCommMonoid M] (f : α → γ → M) (g : α → β → γ)
    (m : Finmap fun _ : α => β) : total f (m.mapVal g) = total (fun a b => f a (g a b)) m := by
  simp [total, mapVal, Multiset.map_map]

omit [DecidableEq α] in
theorem total_add [AddCommMonoid M] (m : Finmap fun _ : α => β) :
    total (fun a b => f a b + g a b) m = total f m + total g m := by
  simp [total, Multiset.sum_map_add]

end Finmap
