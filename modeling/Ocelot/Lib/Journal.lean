/-
# An append-only table of postings and the balance it stands for.
-/
import Mathlib.Algebra.BigOperators.Group.List.Basic
import Mathlib.Data.List.Nodup

structure Posting (G : Type*) where
  charge : G
  before : G
  after : G
  deriving DecidableEq

namespace Posting

open List

variable {G : Type*}

def closing : G → List (Posting G) → G
  | b, [] => b
  | _, p :: ps => closing p.after ps

theorem closing_concat (b : G) (ps : List (Posting G)) (p : Posting G) : closing b (ps ++ [p]) = p.after := by
  induction ps generalizing b with
  | nil => rfl
  | cons q _ ih => exact ih q.after

section

variable [AddCommGroup G]

def Chained : G → List (Posting G) → Prop
  | _, [] => True
  | b, p :: ps => p.before = b ∧ p.after = p.before - p.charge ∧ Chained p.after ps

variable {b : G} {ps : List (Posting G)}

theorem chained_concat {p : Posting G} :
    Chained b (ps ++ [p]) ↔ Chained b ps ∧ p.before = closing b ps ∧ p.after = p.before - p.charge := by
  induction ps generalizing b with
  | nil => simp [Chained, closing]
  | cons _ _ ih =>
    simp only [cons_append, Chained, closing, ih]
    tauto

def charged (ps : List (Posting G)) : G := (ps.map Posting.charge).sum

theorem Chained.closing_eq (h : Chained b ps) : closing b ps = b - charged ps := by
  induction ps generalizing b with
  | nil => simp [closing, charged]
  | cons p ps ih =>
    obtain ⟨hbef, haft, hrest⟩ := h
    show closing p.after ps = b - (p.charge + charged ps)
    rw [ih hrest, haft, hbef, sub_sub]

theorem Chained.isChain (h : Chained b ps) : ps.IsChain fun p q => q.before = p.after := by
  induction ps generalizing b with
  | nil => exact .nil
  | cons p ps ih =>
    obtain ⟨-, -, hrest⟩ := h
    cases ps with
    | nil => exact .singleton p
    | cons => exact isChain_cons_cons.2 ⟨hrest.1, ih hrest⟩

theorem Chained.before_head (h : Chained b ps) : ∀ p ∈ ps.head?, p.before = b := by
  cases ps with
  | nil => simp
  | cons =>
    rintro p ⟨⟩
    exact h.1

theorem Chained.after_eq (h : Chained b ps) {p : Posting G} (hp : p ∈ ps) : p.after = p.before - p.charge := by
  induction ps generalizing b with
  | nil => cases hp
  | cons _ _ ih =>
    rcases mem_cons.1 hp with rfl | hp
    · exact h.2.1
    · exact ih h.2.2 hp

end

end Posting

structure Journal {ρ κ : Type*} (key : ρ → κ) where
  rows : List ρ
  unique : (rows.map key).Nodup

namespace Journal

variable {ρ κ : Type*} {key : ρ → κ}

@[ext] theorem ext {j j' : Journal key} (h : j.rows = j'.rows) : j = j' := by
  cases j
  cases j'
  cases h
  rfl

def empty : Journal key where
  rows := []
  unique := List.nodup_nil

variable [DecidableEq κ]

def has (j : Journal key) (k : κ) : Bool := (j.rows.map key).contains k

variable {j : Journal key} {r : ρ}

theorem has_iff {k : κ} : j.has k = true ↔ ∃ r ∈ j.rows, key r = k := by
  rw [has, List.contains_iff_mem, List.mem_map]

theorem nodup_concat (h : ¬ j.has (key r) = true) : ((j.rows ++ [r]).map key).Nodup := by
  rw [List.map_append, List.map_singleton]
  apply List.Nodup.append j.unique (List.nodup_singleton _)
  rw [List.disjoint_singleton]
  intro hmem
  exact h (List.contains_iff_mem.2 hmem)

def insertOrIgnore (j : Journal key) (r : ρ) : Journal key :=
  if h : j.has (key r) = true then j else ⟨j.rows ++ [r], nodup_concat h⟩

theorem insertOrIgnore_of_has (h : j.has (key r) = true) : j.insertOrIgnore r = j := dif_pos h

theorem rows_insertOrIgnore (h : j.has (key r) = false) : (j.insertOrIgnore r).rows = j.rows ++ [r] := by
  unfold insertOrIgnore
  rw [dif_neg (by rw [h]; decide)]

theorem has_insertOrIgnore {k : κ} : (j.insertOrIgnore r).has k = true ↔ j.has k = true ∨ key r = k := by
  cases h : j.has (key r) with
  | true =>
    rw [insertOrIgnore_of_has h]
    refine ⟨.inl, ?_⟩
    rintro (hk | rfl)
    · exact hk
    · exact h
  | false =>
    rw [has_iff, has_iff, rows_insertOrIgnore h]
    simp only [List.mem_append, List.mem_singleton]
    constructor
    · rintro ⟨x, hx | rfl, hk⟩
      · exact .inl ⟨x, hx, hk⟩
      · exact .inr hk
    · rintro (⟨x, hx, hk⟩ | hk)
      · exact ⟨x, .inl hx, hk⟩
      · exact ⟨r, .inr rfl, hk⟩

theorem rows_isPrefix_insertOrIgnore (j : Journal key) (r : ρ) : j.rows <+: (j.insertOrIgnore r).rows := by
  cases h : j.has (key r) with
  | true => simp only [insertOrIgnore_of_has h, List.prefix_refl]
  | false =>
    rw [rows_insertOrIgnore h]
    exact List.prefix_append _ _

end Journal
