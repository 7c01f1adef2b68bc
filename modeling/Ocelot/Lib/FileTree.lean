/-
# File trees, and copies of them.
-/
import Mathlib.Data.List.Infix
import Mathlib.Tactic.SplitIfs

namespace Ocelot

inductive FileTree.Entry (γ : Type) where
  | dir
  | file (content : γ)
  deriving DecidableEq

structure FileTree (α γ : Type) where
  entry : List α → Option (FileTree.Entry γ)
  closed : ∀ p q, entry (p ++ q) ≠ none → entry p ≠ none

namespace FileTree

variable {α γ : Type} {t u : FileTree α γ} {p dst : List α}

@[ext] theorem ext (h : ∀ p, t.entry p = u.entry p) : t = u := by
  cases t
  cases u
  congr
  exact funext h

def at_ (t : FileTree α γ) (p : List α) : FileTree α γ where
  entry q := t.entry (p ++ q)
  closed q r h := t.closed (p ++ q) r (by rwa [List.append_assoc])

def single (e : Entry γ) : FileTree α γ where
  entry
    | [] => some e
    | _ :: _ => none
  closed p q h := by cases p <;> simp_all

def Apart (p dst : List α) : Prop := ¬ p <+: dst ∧ ¬ dst <+: p

theorem Apart.append (h : Apart p dst) (q : List α) : Apart (p ++ q) dst :=
  ⟨fun hall => h.1 ((List.prefix_append p q).trans hall),
    fun hlong => Or.elim ( List.prefix_or_prefix_of_prefix hlong (List.prefix_append p q)) h.2 h.1⟩

variable [DecidableEq α]

instance (p dst : List α) : Decidable (Apart p dst) := instDecidableAnd

def graft (t : FileTree α γ) (dst : List α) (u : FileTree α γ) : FileTree α γ where
  entry p :=
    if dst <+: p then (u.entry (p.drop dst.length)).or (t.entry p)
    else if p <+: dst then (t.entry p).or (some .dir)
    else t.entry p
  closed p q h := by
    by_cases hdst : dst <+: p
    · have hlong : dst <+: p ++ q := hdst.trans (List.prefix_append p q)
      simp only [if_pos hlong, if_pos hdst, ne_eq, Option.or_eq_none_iff, not_and_or,
        List.drop_append_of_le_length hdst.length_le] at h ⊢
      exact h.imp (u.closed _ q) (t.closed p q)
    · rw [if_neg hdst]
      by_cases habove : p <+: dst
      · rw [if_pos habove]
        simp
      · have hshort : ¬ dst <+: p ++ q := fun hlong =>
          Or.elim ( List.prefix_or_prefix_of_prefix hlong (List.prefix_append p q)) hdst habove
        rw [if_neg hshort, if_neg fun hall => habove ((List.prefix_append p q).trans hall)] at h
        rw [if_neg habove]
        exact t.closed p q h

def removeAll (t : FileTree α γ) (dst : List α) : FileTree α γ where
  entry p := if dst <+: p then none else t.entry p
  closed p q h := by
    by_cases hlong : dst <+: p ++ q
    · exact absurd (if_pos hlong) h
    · rw [if_neg hlong] at h
      rw [if_neg fun hdst => hlong (hdst.trans (List.prefix_append p q))]
      exact t.closed p q h

theorem at_graft (h : t.entry dst = none) : (t.graft dst u).at_ dst = u := by
  ext1 q
  have hnone : t.entry (dst ++ q) = none := by
    by_contra hsome
    exact t.closed dst q hsome h
  simp [at_, graft, hnone]

theorem at_graft_of_apart (h : Apart p dst) : (t.graft dst u).at_ p = t.at_ p := by
  ext1 q
  simp [at_, graft, (h.append q).1, (h.append q).2]

theorem at_removeAll_of_apart (h : Apart p dst) : (t.removeAll dst).at_ p = t.at_ p := by
  ext1 q
  simp [at_, removeAll, (h.append q).2]

theorem at_graft_single {e : Entry γ} (h : ¬ p <+: dst) : (t.graft dst (single e)).at_ p = t.at_ p := by
  ext1 q
  have habove : ¬ p ++ q <+: dst := fun hall => h ((List.prefix_append p q).trans hall)
  show (if dst <+: p ++ q then _ else if p ++ q <+: dst then _ else _) = t.entry (p ++ q)
  split_ifs with hdst
  · obtain ⟨r, hr⟩ := hdst
    cases r with
    | nil => exact absurd (by rw [← hr, List.append_nil]) habove
    | cons => simp [← hr, single]
  · rfl

end FileTree

end Ocelot
