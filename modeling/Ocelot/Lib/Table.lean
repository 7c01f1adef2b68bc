/-
# A database table: rows under a primary key, in the order they were inserted.
-/
import Mathlib.Algebra.Ring.Int.Defs
import Mathlib.Data.List.MinMax
import Mathlib.Data.List.Sort
import Mathlib.Data.Prod.Lex
import Mathlib.Algebra.Order.BigOperators.Group.List

namespace Ocelot

open List Option Prod

structure Table (κ ρ : Type*) where
  rows : List (κ × ρ)
  nodup : (rows.map Prod.fst).Nodup

/-! ## Keys -/

namespace Table

variable {κ ρ : Type*}

def empty : Table κ ρ := ⟨[], nodup_nil⟩

section

variable [DecidableEq κ]

def lookup (t : Table κ ρ) (k : κ) : Option ρ := (t.rows.find? fun e => e.1 = k).map Prod.snd

@[simp] theorem lookup_empty (k : κ) : (empty : Table κ ρ).lookup k = none := rfl

theorem lookup_eq_some_iff {t : Table κ ρ} {k : κ} {r : ρ} : t.lookup k = some r ↔ (k, r) ∈ t.rows := by
  unfold lookup
  constructor
  · intro h
    obtain ⟨⟨k', r'⟩, hfind, rfl⟩ := map_eq_some_iff.1 h
    have hk : k' = k := by simpa using find?_some hfind
    exact hk ▸ mem_of_find?_eq_some hfind
  · intro h
    -- the first row under the key is the only one
    obtain ⟨⟨k', r'⟩, hfind⟩ : ∃ e, t.rows.find? (fun e => e.1 = k) = some e := by
      rw [← isSome_iff_exists, find?_isSome]
      exact ⟨(k, r), h, by simp⟩
    have hk : k' = k := by simpa using find?_some hfind
    subst hk
    have hmem := mem_of_find?_eq_some hfind
    rw [hfind, map_some]
    exact congrArg some (congrArg snd (inj_on_of_nodup_map t.nodup hmem h rfl))

theorem lookup_eq_none_iff {t : Table κ ρ} {k : κ} : t.lookup k = none ↔ k ∉ t.rows.map Prod.fst := by
  rw [eq_none_iff_forall_ne_some]
  simp only [ne_eq, lookup_eq_some_iff, List.mem_map, Prod.exists, exists_and_right, exists_eq_right, not_exists]

end

def insert [DecidableEq κ] (t : Table κ ρ) (k : κ) (r : ρ) : Option (Table κ ρ) :=
  if h : k ∈ t.rows.map Prod.fst then none
  else
    some ⟨t.rows ++ [(k, r)], by
      rw [map_append, nodup_append]
      refine ⟨t.nodup, nodup_singleton _, ?_⟩
      rintro a ha b hb rfl
      obtain rfl : a = k := by simpa using hb
      exact h ha⟩

section

variable [DecidableEq κ] {t t' : Table κ ρ} {k : κ} {r : ρ}

theorem rows_insert (h : t.insert k r = some t') : t'.rows = t.rows ++ [(k, r)] := by
  unfold insert at h
  split_ifs at h
  cases h
  rfl

theorem lookup_of_insert (h : t.insert k r = some t') : t.lookup k = none := by
  unfold insert at h
  split_ifs at h with hk
  exact lookup_eq_none_iff.2 hk

theorem lookup_of_insert_eq_none (h : t.insert k r = none) : t.lookup k ≠ none := by
  unfold insert at h
  split_ifs at h with hk
  rw [ne_eq, lookup_eq_none_iff]
  exact fun hnot => hnot hk

theorem lookup_insert (h : t.insert k r = some t') (k' : κ) :
    t'.lookup k' = if k' = k then some r else t.lookup k' := by
  have hnone := lookup_of_insert h
  ext r'
  rw [lookup_eq_some_iff, rows_insert h, mem_append, mem_singleton, ← lookup_eq_some_iff]
  split_ifs with hk
  · subst hk
    simp [hnone, eq_comm]
  · simp [hk]

end

/-! ## Numbered rows -/

def nextKey (t : Table ℕ ρ) : ℕ := (t.rows.map Prod.fst).foldr max 0 + 1

theorem lt_nextKey {t : Table ℕ ρ} {k : ℕ} (h : k ∈ t.rows.map Prod.fst) : k < t.nextKey := by
  unfold nextKey
  generalize t.rows.map fst = keys at h
  induction keys with
  | nil => cases h
  | cons _ _ ih =>
    rw [foldr_cons]
    rcases mem_cons.1 h with rfl | hmem
    · omega
    · have hlt := ih hmem
      omega

def add (t : Table ℕ ρ) (r : ρ) : Table ℕ ρ where
  rows := t.rows ++ [(t.nextKey, r)]
  nodup := by
    rw [map_append, nodup_append]
    refine ⟨t.nodup, nodup_singleton _, ?_⟩
    rintro a ha b hb rfl
    obtain rfl : a = t.nextKey := by simpa using hb
    exact absurd (lt_nextKey ha) (lt_irrefl _)

section

variable (t : Table ℕ ρ) (r : ρ)

theorem lookup_nextKey : t.lookup t.nextKey = none :=
  lookup_eq_none_iff.2 fun hmem => absurd (lt_nextKey hmem) (lt_irrefl _)

theorem lookup_add (k : ℕ) : (t.add r).lookup k = if k = t.nextKey then some r else t.lookup k := by
  ext r'
  rw [lookup_eq_some_iff, add, mem_append, mem_singleton, ← lookup_eq_some_iff]
  split_ifs with hk
  · subst hk
    simp [lookup_nextKey, eq_comm]
  · simp [hk]

end

/-! ## Updates -/

variable (t : Table κ ρ) (p : κ → ρ → Bool)

def modify (f : ρ → ρ) : Table κ ρ where
  rows := t.rows.map fun e => (e.1, if p e.1 e.2 then f e.2 else e.2)
  nodup := by
    rw [List.map_map]
    exact t.nodup

def count : ℕ := t.rows.countP fun e => p e.1 e.2

def select : List (κ × ρ) := t.rows.filter fun e => p e.1 e.2

section

variable [DecidableEq κ] (t : Table κ ρ) (p : κ → ρ → Bool) (f : ρ → ρ)

theorem lookup_modify (k : κ) : (t.modify p f).lookup k = (t.lookup k).map fun r => if p k r then f r else r := by
  unfold lookup modify
  rw [List.find?_map, Option.map_map, Option.map_map]
  have hfind : (t.rows.find? ((fun e => decide (e.1 = k)) ∘ fun e => (e.1, if p e.1 e.2 then f e.2 else e.2))) =
      t.rows.find? fun e => e.1 = k := rfl
  rw [hfind]
  cases hrow : t.rows.find? fun e => e.1 = k with
  | none => rfl
  | some e =>
    have hk : e.1 = k := by simpa using find?_some hrow
    simp [hk]

/-- What holds between a row and itself, and between the row of `key` and what is made of it, holds
of each row. -/
theorem modify_rule {E : Option ρ → Option ρ → Prop} {t : Table κ ρ} {f : ρ → ρ} {k key : κ}
    (hrefl : ∀ row, E row row)
    (hself : ∀ row, k = key → t.lookup k = some row → E (some row) (some (f row))) :
    E (t.lookup k) ((t.modify (fun k _ => k = key) f).lookup k) := by
  rw [lookup_modify]
  cases hrow : t.lookup k with
  | none => exact hrefl none
  | some row =>
    simp only [map_some, decide_eq_true_eq]
    split_ifs with hk
    · exact hself row hk hrow
    · exact hrefl _

theorem modify_eq_self (h : ∀ k r, t.lookup k = some r → p k r = false) : t.modify p f = t := by
  have hsame : ∀ e ∈ t.rows, (e.1, if p e.1 e.2 then f e.2 else e.2) = id e := by
    intro e he
    rw [h e.1 e.2 (lookup_eq_some_iff.2 he)]
    rfl
  have hrows : (t.rows.map fun e => (e.1, if p e.1 e.2 then f e.2 else e.2)) = t.rows := by
    rw [List.map_congr_left hsame, List.map_id]
  unfold modify
  simp only [hrows]

theorem mem_select {e : κ × ρ} : e ∈ t.select p ↔ t.lookup e.1 = some e.2 ∧ p e.1 e.2 = true := by
  rw [select, mem_filter, lookup_eq_some_iff]

theorem count_pos_iff : 0 < t.count p ↔ ∃ k r, t.lookup k = some r ∧ p k r = true := by
  simp only [count, countP_pos_iff, Prod.exists, lookup_eq_some_iff]

end

def delete [DecidableEq κ] (t : Table κ ρ) (k : κ) : Table κ ρ where
  rows := t.rows.filter fun e => e.1 ≠ k
  nodup := (filter_sublist.map Prod.fst).nodup t.nodup

theorem lookup_delete [DecidableEq κ] (t : Table κ ρ) (k k' : κ) :
    (t.delete k).lookup k' = if k' = k then none else t.lookup k' := by
  ext r
  rw [lookup_eq_some_iff, delete, mem_filter, ← lookup_eq_some_iff]
  split_ifs with hk <;> simp [hk]

section

variable {t : Table κ ρ} {p q : κ → ρ → Bool} {f : ρ → ρ}

theorem select_insert [DecidableEq κ] {t' : Table κ ρ} {k : κ} {r : ρ}
    (h : t.insert k r = some t') : t'.select q = t.select q ++ if q k r then [(k, r)] else [] := by
  rw [select, rows_insert h, filter_append]
  congr 1
  by_cases hq : q k r = true <;> simp [hq]

theorem select_modify_of_unseen (h : ∀ k r, p k r = true → q k r = false ∧ q k (f r) = false) :
    (t.modify p f).select q = t.select q := by
  unfold select modify
  rw [List.filter_map]
  have hsame : ∀ e ∈ t.rows, ((fun e => q e.1 e.2) ∘ fun e =>
      (e.1, if p e.1 e.2 then f e.2 else e.2)) e = q e.1 e.2 := by
    intro e _
    by_cases hp : p e.1 e.2 = true
    · simp [hp, h e.1 e.2 hp]
    · simp [hp]
  rw [filter_congr hsame]
  -- the rows that are found are not rewritten
  have hkept : ∀ e ∈ t.rows.filter fun e => q e.1 e.2, (e.1, if p e.1 e.2 then f e.2 else e.2) = id e := by
    intro e he
    have hq : q e.1 e.2 = true := (mem_filter.1 he).2
    by_cases hp : p e.1 e.2 = true
    · rw [(h e.1 e.2 hp).1] at hq
      cases hq
    · simp [hp]
  rw [List.map_congr_left hkept, List.map_id]

theorem select_modify_of_kept (h : ∀ k r, q k (f r) = q k r) :
    (t.modify p f).select q = (t.select q).map fun e => (e.1, if p e.1 e.2 then f e.2 else e.2) := by
  unfold select modify
  rw [List.filter_map]
  congr 1
  refine filter_congr fun e _ => ?_
  simp only [Function.comp_apply]
  split_ifs
  · exact h e.1 e.2
  · rfl

theorem select_modify_of_dropped (h : ∀ k r, p k r = true → q k (f r) = false) :
    (t.modify p f).select q = (t.select q).filter fun e => !p e.1 e.2 := by
  show (t.rows.map fun e => (e.1, if p e.1 e.2 then f e.2 else e.2)).filter (fun e => q e.1 e.2) =
    (t.rows.filter fun e => q e.1 e.2).filter fun e => !p e.1 e.2
  induction t.rows with
  | nil => rfl
  | cons e _ ih =>
    by_cases hp : p e.1 e.2 = true
    · by_cases hq : q e.1 e.2 = true <;> simpa [hp, hq, h e.1 e.2 hp] using ih
    · by_cases hq : q e.1 e.2 = true <;> simpa [hp, hq] using ih

end

/-! ## Sums -/

def sum (t : Table κ ρ) (f : κ → ρ → ℤ) : ℤ := (t.rows.map fun e => f e.1 e.2).sum

section

variable {t : Table κ ρ} {f : κ → ρ → ℤ}

theorem count_eq_sum (p : κ → ρ → Bool) : (t.count p : ℤ) = t.sum fun k r => if p k r then 1 else 0 := by
  show ((t.rows.countP fun e => p e.1 e.2 : ℕ) : ℤ) = (t.rows.map fun e => if p e.1 e.2 then 1 else 0).sum
  induction t.rows with
  | nil => rfl
  | cons _ _ ih =>
    rw [countP_cons, map_cons, sum_cons, ← ih]
    split_ifs <;> omega

variable [DecidableEq κ]

theorem sum_insert {t' : Table κ ρ} {k : κ} {r : ρ} (h : t.insert k r = some t') : t'.sum f = t.sum f + f k r := by
  unfold sum
  rw [rows_insert h, map_append, sum_append]
  simp

theorem sum_modify_of_lookup {k : κ} {r : ρ} (h : t.lookup k = some r) (g : ρ → ρ) :
    (t.modify (fun k' _ => k' = k) g).sum f = t.sum f - f k r + f k (g r) := by
  have hmem : (k, r) ∈ t.rows := lookup_eq_some_iff.1 h
  obtain ⟨pre, post, hsplit⟩ := append_of_mem hmem
  have hnodup := t.nodup
  rw [hsplit, map_append, map_cons, nodup_append, nodup_cons] at hnodup
  obtain ⟨-, ⟨haft, -⟩, hbef⟩ := hnodup
  -- the rows under other keys stay as they are
  have hother : ∀ rows : List (κ × ρ), k ∉ rows.map fst →
      (rows.map fun e => (e.1, if decide (e.1 = k) then g e.2 else e.2)) = rows := by
    intro rows hk
    have hsame : ∀ e ∈ rows, (e.1, if decide (e.1 = k) then g e.2 else e.2) = id e := by
      intro e he
      have hne : e.1 ≠ k := by
        rintro rfl
        exact hk (mem_map_of_mem he)
      simp [hne]
    rw [List.map_congr_left hsame, List.map_id]
  have hk : k ∉ pre.map fst := fun hin => hbef k hin k mem_cons_self rfl
  unfold sum modify
  simp only [hsplit, map_append, map_cons, hother pre hk, hother post haft, sum_append, sum_cons]
  simp only [decide_true, if_true]
  omega

theorem sum_eq_zero (h : ∀ k r, t.lookup k = some r → f k r = 0) : t.sum f = 0 := by
  refine List.sum_eq_zero fun x hx => ?_
  obtain ⟨e, he, rfl⟩ := List.mem_map.1 hx
  exact h e.1 e.2 (lookup_eq_some_iff.2 he)

theorem sum_nonneg (h : ∀ k r, t.lookup k = some r → 0 ≤ f k r) : 0 ≤ t.sum f := by
  refine List.sum_nonneg fun x hx => ?_
  obtain ⟨e, he, rfl⟩ := List.mem_map.1 hx
  exact h e.1 e.2 (lookup_eq_some_iff.2 he)

end

/-! ## Ordered rows -/

def ordered {μ : Type*} [LinearOrder μ] (t : Table κ ρ) (p : κ → ρ → Bool) (m : κ → ρ → μ)
    (rank : κ → ℕ) : List (κ × ρ) :=
  (t.select p).insertionSort fun a b => toLex (m a.1 a.2, rank a.1) ≤ toLex (m b.1 b.2, rank b.1)

def least {μ : Type*} [LinearOrder μ] (t : Table κ ρ) (p : κ → ρ → Bool) (m : κ → ρ → μ)
    (rank : κ → ℕ) : Option (κ × ρ) :=
  (t.select p).argmin fun e => toLex (m e.1 e.2, rank e.1)

section

variable {μ : Type*} [LinearOrder μ] {t : Table κ ρ} {p : κ → ρ → Bool} {m : κ → ρ → μ} {rank : κ → ℕ} {e : κ × ρ}

theorem pairwise_ordered : (t.ordered p m rank).Pairwise fun a b => m a.1 a.2 ≤ m b.1 b.2 := by
  have hsort : (t.ordered p m rank).Pairwise fun a b =>
      toLex (m a.1 a.2, rank a.1) ≤ toLex (m b.1 b.2, rank b.1) :=
    pairwise_insertionSort _ _
  refine hsort.imp fun {a b} hab => ?_
  rcases Prod.Lex.toLex_le_toLex.1 hab with hlt | ⟨heq, -⟩
  · exact hlt.le
  · exact heq.le

theorem take_ordered_split {x y : κ × ρ} {limit : ℕ} (hx : x ∈ t.ordered p m rank)
    (hy : y ∈ (t.ordered p m rank).take limit)
    (hlt : m x.1 x.2 < m y.1 y.2) : ∃ pre post, (t.ordered p m rank).take limit = pre ++ x :: post ∧ y ∈ post := by
  have hsort : (t.ordered p m rank).Pairwise fun a b => m a.1 a.2 ≤ m b.1 b.2 := pairwise_ordered
  rw [← take_append_drop limit (t.ordered p m rank)] at hx hsort
  obtain ⟨htaken, -, hacross⟩ := pairwise_append.1 hsort
  have hmem : x ∈ (t.ordered p m rank).take limit := by
    rcases mem_append.1 hx with htake | hdrop
    · exact htake
    · exact absurd (hacross y hy x hdrop) (not_le.2 hlt)
  obtain ⟨pre, post, hsplit⟩ := append_of_mem hmem
  refine ⟨pre, post, hsplit, ?_⟩
  rw [hsplit] at hy htaken
  rcases mem_append.1 hy with hbef | haft
  · exact absurd ((pairwise_append.1 htaken).2.2 y hbef x mem_cons_self) (not_le.2 hlt)
  · rcases mem_cons.1 haft with rfl | haft
    · exact absurd hlt (lt_irrefl _)
    · exact haft

theorem nodup_ordered : ((t.ordered p m rank).map Prod.fst).Nodup := by
  have hsub : ((t.select p).map fst).Sublist (t.rows.map fst) := filter_sublist.map fst
  have hperm : ((t.ordered p m rank).map fst).Perm ((t.select p).map fst) := (perm_insertionSort _ _).map fst
  exact hperm.nodup_iff.2 (hsub.nodup t.nodup)

theorem pairwise_fst_ordered : (t.ordered p m rank).Pairwise fun x y => y.1 ≠ x.1 := by
  have hnodup : ((t.ordered p m rank).map fst).Nodup := nodup_ordered
  rw [nodup_iff_pairwise_ne, pairwise_map] at hnodup
  exact hnodup.imp fun hne => hne.symm

variable [DecidableEq κ]

theorem mem_ordered : e ∈ t.ordered p m rank ↔ t.lookup e.1 = some e.2 ∧ p e.1 e.2 = true := by
  rw [ordered, mem_insertionSort, mem_select]

theorem least_eq_some (h : t.least p m rank = some e) : t.lookup e.1 = some e.2 ∧ p e.1 e.2 = true :=
  (t.mem_select p).1 (argmin_mem h)

theorem least_le (h : t.least p m rank = some e) {k : κ} {r : ρ} (hrow : t.lookup k = some r)
    (hp : p k r = true) : m e.1 e.2 ≤ m k r := by
  have hle := le_of_mem_argmin ((t.mem_select p).2 ⟨hrow, hp⟩ : (k, r) ∈ t.select p) h
  rcases Prod.Lex.toLex_le_toLex.1 hle with hlt | ⟨heq, -⟩
  · exact hlt.le
  · exact heq.le

theorem least_ne_none {k : κ} {r : ρ} (hrow : t.lookup k = some r) (hp : p k r = true) :
    t.least p m rank ≠ none := by
  intro hnone
  have hmem : (k, r) ∈ t.select p := (t.mem_select p).2 ⟨hrow, hp⟩
  rw [argmin_eq_none.1 hnone] at hmem
  cases hmem

end

end Table

end Ocelot
