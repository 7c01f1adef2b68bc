/-
# A table with a primary key and a second unique column.
-/
import Ocelot.Lib.FinmapTotal

structure UniqueTable (α γ β : Type*) [DecidableEq α] where
  rows : Finmap fun _ : α => γ × β
  unique : ∀ {a a' : α} {c : γ} {b b' : β}, rows.lookup a = some (c, b) → rows.lookup a' = some (c, b') → a = a'

namespace UniqueTable

open Finmap Option

variable {α γ β : Type*} [DecidableEq α]

@[ext] theorem ext {t t' : UniqueTable α γ β} (h : t.rows = t'.rows) : t = t' := by
  cases t
  cases t'
  cases h
  rfl

instance [DecidableEq γ] [DecidableEq β] : DecidableEq (UniqueTable α γ β) :=
  fun _ _ => decidable_of_iff _ ⟨ext, congrArg rows⟩

def empty : UniqueTable α γ β where
  rows := ∅
  unique h := by cases h

def index (t : UniqueTable α γ β) : Finmap fun _ : γ => α × β where
  entries := t.rows.entries.map fun e => ⟨e.2.1, e.1, e.2.2⟩
  nodupKeys := by
    apply Multiset.nodup_keys.mp
    show (Multiset.map Sigma.fst (Multiset.map _ t.rows.entries)).Nodup
    rw [Multiset.map_map]
    apply Multiset.Nodup.map_on _ t.rows.nodup_entries
    -- two rows with one column are one row
    rintro ⟨a, c, b⟩ hmem ⟨a', c', b'⟩ hmem' hcolumn
    obtain rfl : c = c' := hcolumn
    rw [Finmap.mem_entries_iff] at hmem hmem'
    obtain rfl := t.unique hmem hmem'
    rw [hmem] at hmem'
    cases hmem'
    rfl

variable [DecidableEq γ] {t : UniqueTable α γ β} {a : α} {c : γ} {b : β}

theorem lookup_index : t.index.lookup c = some (a, b) ↔ t.rows.lookup a = some (c, b) := by
  rw [← mem_entries_iff, ← mem_entries_iff]
  show _ ∈ Multiset.map _ _ ↔ _
  rw [Multiset.mem_map]
  constructor
  · rintro ⟨⟨_, _, _⟩, hmem, heq⟩
    cases heq
    exact hmem
  · intro hmem
    exact ⟨_, hmem, rfl⟩

def delete (t : UniqueTable α γ β) (c : γ) : UniqueTable α γ β where
  rows := t.rows.filter fun _ r => r.1 ≠ c
  unique h h' := by
    rw [Finmap.lookup_filter, Option.filter_eq_some_iff] at h h'
    exact t.unique h.1 h'.1

def replace (t : UniqueTable α γ β) (a : α) (c : γ) (b : β) : UniqueTable α γ β where
  rows := (t.delete c).rows.insert a (c, b)
  unique {x x' d e e'} h h' := by
    -- a row with the new column can only be the new row
    have hnew : ∀ {y : α} {e : β}, y ≠ a → ((t.delete c).rows.insert a (c, b)).lookup y = some (d, e) →
        d ≠ c ∧ (t.delete c).rows.lookup y = some (d, e) := by
      intro y e hne hy
      rw [Finmap.lookup_insert_of_ne _ hne] at hy
      refine ⟨?_, hy⟩
      have hkept := hy
      rw [delete, Finmap.lookup_filter, Option.filter_eq_some_iff] at hkept
      simpa using hkept.2
    have hself : ∀ {e : β}, ((t.delete c).rows.insert a (c, b)).lookup a = some (d, e) → d = c := by
      intro e ha
      rw [Finmap.lookup_insert] at ha
      cases ha
      rfl
    by_cases hx : x = a
    · by_cases hx' : x' = a
      · rw [hx, hx']
      · subst hx
        exact absurd (hself h) (hnew hx' h').1
    · by_cases hx' : x' = a
      · subst hx'
        exact absurd (hself h') (hnew hx h).1
      · exact (t.delete c).unique (hnew hx h).2 (hnew hx' h').2

theorem index_delete (t : UniqueTable α γ β) (c : γ) : (t.delete c).index = t.index.erase c := by
  apply ext_lookup
  intro d
  apply Option.ext
  rintro ⟨a, b⟩
  rw [lookup_index, delete, lookup_filter, filter_eq_some_iff]
  by_cases hd : d = c
  · subst hd
    simp
  · rw [lookup_erase_ne hd, lookup_index]
    simp [hd]

theorem lookup_index_replace (t : UniqueTable α γ β) (a : α) (c d : γ) (b : β) : (t.replace a c b).index.lookup d =
      if d = c then some (a, b) else (t.index.lookup d).filter fun r => r.1 ≠ a := by
  apply Option.ext
  rintro ⟨a', _⟩
  rw [lookup_index, replace]
  by_cases ha : a' = a
  · subst ha
    rw [lookup_insert]
    by_cases hd : d = c
    · simp [hd]
    · simp [hd, Ne.symm hd, filter_eq_some_iff]
  · rw [lookup_insert_of_ne _ ha, ← lookup_index, index_delete]
    by_cases hd : d = c
    · subst hd
      simp [Ne.symm ha]
    · rw [lookup_erase_ne hd, if_neg hd, filter_eq_some_iff]
      simp [ha]

theorem index_replace_of_fresh (h : ∀ d r, t.index.lookup d = some r → r.1 ≠ a) :
    (t.replace a c b).index = t.index.insert c (a, b) := by
  apply ext_lookup
  intro d
  rw [lookup_index_replace]
  by_cases hd : d = c
  · rw [if_pos hd, hd, lookup_insert]
  · rw [if_neg hd, lookup_insert_of_ne _ hd]
    cases hrow : t.index.lookup d with
    | none => rfl
    | some r => simp [h d r hrow]

theorem index_replace_of_row {c' : γ} {b' : β} (h : t.index.lookup c = some (a, b)) :
    (t.replace a c' b').index = (t.index.erase c).insert c' (a, b') := by
  apply ext_lookup
  intro d
  rw [lookup_index_replace]
  by_cases hd : d = c'
  · rw [if_pos hd, hd, lookup_insert]
  · rw [if_neg hd, lookup_insert_of_ne _ hd]
    by_cases hdc : d = c
    · subst hdc
      rw [h, lookup_erase]
      simp
    · rw [lookup_erase_ne hdc]
      cases hrow : t.index.lookup d with
      | none => rfl
      | some r =>
        -- another row with this key would be the same row
        have hne : r.1 ≠ a := by
          rintro rfl
          have hsame := lookup_index.1 hrow
          rw [lookup_index.1 h] at hsame
          cases hsame
          exact hdc rfl
        simp [hne]

theorem delete_eq_self_iff : t.delete c = t ↔ t.index.lookup c = none := by
  constructor
  · intro h
    rw [← h, index_delete, lookup_erase]
  · intro h
    apply ext
    apply ext_lookup
    intro a
    rw [delete, lookup_filter]
    cases hrow : t.rows.lookup a with
    | none => rfl
    | some r =>
      have hne : r.1 ≠ c := by
        rintro rfl
        rw [lookup_index.2 hrow] at h
        cases h
      simp [hne]

theorem replace_eq_self_iff : t.replace a c b = t ↔ t.index.lookup c = some (a, b) := by
  constructor
  · intro h
    rw [← h, lookup_index_replace, if_pos rfl]
  · intro h
    apply ext
    apply ext_lookup
    intro x
    by_cases hx : x = a
    · subst hx
      rw [replace, lookup_insert, lookup_index.1 h]
    · rw [replace, lookup_insert_of_ne _ hx, delete, lookup_filter]
      cases hrow : t.rows.lookup x with
      | none => rfl
      | some r =>
        have hne : r.1 ≠ c := by
          rintro rfl
          exact hx (t.unique hrow (lookup_index.1 h))
        simp [hne]

end UniqueTable
