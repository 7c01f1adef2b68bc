/-
# Setting and reading spending caps (`commons.go`, `ledger.go`, `tracker/update.go`).
-/
import Ocelot.Commons.FixedPoint
import Ocelot.Commons.Ledger
import Ocelot.Tracker.Update

namespace Ocelot.Commons

open List Int64
open Tracker (Bytes lit UserID TorrentID Query digits atoi)

structure BudgetEnv where
  deleteFault : Option Bytes
  insertFault : Option Bytes
  deriving DecidableEq

def nullableUint32 (id : TorrentID) : Option TorrentID := if id = 0 then none else some id

namespace Tables

def budgetsFor (t : Tables) (u : UserID) (k : Option TorrentID) : List BudgetRow :=
  t.budgets.filter fun b => b.userID = u ∧ b.torrentID = k

def clearBudget (t : Tables) (u : UserID) (k : Option TorrentID) : Tables :=
  { t with budgets := t.budgets.filter fun b => ¬ (b.userID = u ∧ b.torrentID = k) }

def insertBudget (t : Tables) (u : UserID) (k : Option TorrentID) (maxCredits : ComputeCredit) : Tables := { t with
    budgets := t.budgets ++ [{ userID := u, torrentID := k, maxCredits, consumed := 0, deadline := none }] }

end Tables

def setUserBudget (env : BudgetEnv) (t : Tables) (u : UserID) (torrentID : TorrentID)
    (maxCredits : Int64) : Tables × Except Bytes Unit :=
  let rawCredits := fromCC maxCredits
  match env.deleteFault with
  | some err => (t, .error (lit "commons: clear old budget: " ++ err))
  | none =>
    let cleared := t.clearBudget u (nullableUint32 torrentID)
    match env.insertFault with
    | some err => (cleared, .error (lit "commons: insert budget: " ++ err))
    | none => (cleared.insertBudget u (nullableUint32 torrentID) rawCredits, .ok ())

def parseUint32 (s : Bytes) : Option UInt32 :=
  (digits s).bind fun n => if n < 2 ^ 32 then some (UInt32.ofNat n) else none

def actionUserID (q : Query) : Except Bytes UserID :=
  if q.get "id" = [] then .error (lit "missing id")
  else
    match (parseUint32 (q.get "id")).filter (· ≠ 0) with
    | none => .error (lit "invalid id")
    | some id => .ok id

namespace Tables

theorem mem_budgetsFor {t : Tables} {u : UserID} {k : Option TorrentID} {b : BudgetRow} :
    b ∈ t.budgetsFor u k ↔ b ∈ t.budgets ∧ b.userID = u ∧ b.torrentID = k := by
  simp [budgetsFor]

variable (t : Tables) (u v : UserID) (k l : Option TorrentID) (m : ComputeCredit)

theorem budgetsFor_clearBudget :
    (t.clearBudget u k).budgetsFor v l = if u = v ∧ k = l then [] else t.budgetsFor v l := by
  unfold budgetsFor clearBudget
  rw [filter_filter]
  split_ifs with h
  · obtain ⟨rfl, rfl⟩ := h
    simp
  · apply filter_congr
    intro b _
    by_cases hb : b.userID = v ∧ b.torrentID = l
    · obtain ⟨rfl, rfl⟩ := hb
      simp only [and_self, decide_true, Bool.true_and, decide_eq_true_eq]
      tauto
    · simp [hb]

theorem budgetsFor_insertBudget : (t.insertBudget u k m).budgetsFor v l =
      t.budgetsFor v l ++ if u = v ∧ k = l then [⟨u, k, m, 0, none⟩] else [] := by
  unfold budgetsFor insertBudget
  rw [filter_append]
  by_cases h : u = v ∧ k = l <;> simp [h]

theorem clearBudget_budgets_iff : (t.clearBudget u k).budgets = t.budgets ↔ t.budgetsFor u k = [] := by
  unfold clearBudget budgetsFor
  rw [filter_eq_self, filter_eq_nil_iff]
  simp [imp_iff_not_or]

end Tables

theorem toInt_fromCC_iff {m : Int64} (h : 0 ≤ m) : (fromCC m).toInt = m.toInt * 1000000 ↔ m ≤ 9223372036854 := by
  have hscale : creditScale.toInt = 1000000 := by decide
  have hlim : (9223372036854 : Int64).toInt = 9223372036854 := by decide
  rw [le_iff_toInt_le, toInt_zero] at h
  rw [fromCC, toInt_mul, hscale, le_iff_toInt_le, hlim]
  obtain ⟨k, _, _, _⟩ := bmod_spec (m.toInt * 1000000)
  omega

def SetsExactly (env : BudgetEnv) (t : Tables) (u : UserID) (torrentID : TorrentID) (maxCredits : Int64) : Prop :=
  match setUserBudget env t u torrentID maxCredits with
  | (t', .error _) => t'.budgets = t.budgets
  | (t', .ok ()) =>
    ∃ b, t'.budgetsFor u (nullableUint32 torrentID) = [b] ∧ b.maxCredits.toInt = maxCredits.toInt * 1000000

/-- **When setting a cap is atomic and exact**: the second statement does not fail after the first
one has taken a row away, and the cap is an `int64` in base units. -/
theorem setUserBudget_exact_iff (env : BudgetEnv) (t : Tables) (u : UserID) (torrentID : TorrentID)
    (maxCredits : Int64) (h : 0 ≤ maxCredits) : SetsExactly env t u torrentID maxCredits ↔
      (env.deleteFault = none → env.insertFault ≠ none → t.budgetsFor u (nullableUint32 torrentID) = []) ∧
      (env.deleteFault = none → env.insertFault = none → maxCredits ≤ 9223372036854) := by
  unfold SetsExactly setUserBudget
  rcases env with ⟨_ | _, _ | _⟩
  · -- both statements succeed
    simp only [true_implies, ne_eq, not_true_eq_false, false_implies, true_and, Tables.budgetsFor_insertBudget,
      Tables.budgetsFor_clearBudget, and_self, if_true, nil_append, cons.injEq, and_true, exists_eq_left']
    exact toInt_fromCC_iff h
  · simp only [true_implies, ne_eq, reduceCtorEq, not_false_eq_true, false_implies, and_true]
    exact t.clearBudget_budgets_iff u _
  · simp
  · simp

namespace Sample

def capped : Tables := Tables.initial [⟨1, some 7, fromCC 1, 0, none⟩]

def budgetEnv : BudgetEnv := ⟨none, none⟩

end Sample

open Sample

theorem setUserBudget_exact_largest : SetsExactly budgetEnv capped 1 7 9223372036854 :=
  (setUserBudget_exact_iff budgetEnv capped 1 7 9223372036854 (by decide)).2
    ⟨fun _ hfault => absurd rfl hfault, fun _ _ => by decide⟩

/-- An `INSERT` that fails leaves user 1 without the cap it had, and a cap of `9223372036855`
credits is stored as a negative number. -/
theorem setUserBudget_loses_cap : ¬ SetsExactly ⟨none, some (lit "disk I/O error")⟩ capped 1 7 5 ∧
      ¬ SetsExactly budgetEnv capped 1 7 9223372036855 := by
  constructor
  · intro h
    have hgone : (capped.clearBudget 1 (nullableUint32 7)).budgets = capped.budgets := h
    exact absurd hgone (by decide)
  · rintro ⟨b, hrow, hcap⟩
    have hsto : [(⟨1, some 7, fromCC 9223372036855, 0, none⟩ : BudgetRow)] = [b] := hrow
    cases hsto
    exact absurd hcap (by decide)

end Ocelot.Commons
