/-
# Every balance is the opening balance less what the ledger says.
-/
import Ocelot.Commons.Ledger
import Ocelot.Lib.Run

namespace Ocelot.Commons

open List Finmap Tables
open Tracker (Bytes lit UserID)

/-! ## The books -/

namespace Tables

def postings (t : Tables) (u : UserID) : List (Posting ComputeCredit) := (t.rowsOf u).map LedgerRow.posting

theorem charged_postings (t : Tables) (u : UserID) : Posting.charged (t.postings u) = t.charged u := by
  unfold Posting.charged postings charged
  rw [map_map]
  rfl

structure Books (t : Tables) : Prop where
  chained : ∀ u, Posting.Chained defaultStartingBalance (t.postings u)
  closing : ∀ u, t.balanceOf u = Posting.closing defaultStartingBalance (t.postings u)
  opened : ∀ r ∈ t.ledger.rows, ∃ a, t.accounts.lookup r.accountID = some a

theorem Books.initial (budgets : List BudgetRow) : Books (initial budgets) where
  chained _ := trivial
  closing _ := rfl
  opened _ h := nomatch h

variable {t : Tables} {a : AccountRow} {row : LedgerRow}

theorem Books.balanceOf_eq (h : t.Books) (u : UserID) : t.balanceOf u = defaultStartingBalance - t.charged u := by
  rw [h.closing u, (h.chained u).closing_eq, charged_postings]

theorem Books.balance_eq (h : t.Books) {u : UserID}
    (ha : t.accounts.lookup u = some a) : a.balance = defaultStartingBalance - t.charged u := by
  rw [← h.balanceOf_eq u, balanceOf, ha]

structure Keeps (t t' : Tables) : Prop where
  ledger : t'.ledger = t.ledger
  balance : ∀ u, t'.balanceOf u = t.balanceOf u
  accounts : ∀ u a, t.accounts.lookup u = some a → ∃ a', t'.accounts.lookup u = some a'

theorem Keeps.refl (t : Tables) : Keeps t t := ⟨rfl, fun _ => rfl, fun _ a h => ⟨a, h⟩⟩

variable {t' : Tables}

theorem Keeps.rowsOf (h : Keeps t t') (u : UserID) : t'.rowsOf u = t.rowsOf u := by
  unfold Tables.rowsOf
  rw [h.ledger]

theorem Keeps.charged (h : Keeps t t') (u : UserID) : t'.charged u = t.charged u := by
  unfold Tables.charged
  rw [h.rowsOf]

theorem Keeps.books (h : Keeps t t') (ht : t.Books) : t'.Books := by
  have hposts : ∀ u, t'.postings u = t.postings u := by
    intro u
    unfold postings
    rw [h.rowsOf]
  refine ⟨fun u => ?_, fun u => ?_, fun r hr => ?_⟩
  · rw [hposts]
    exact ht.chained u
  · rw [hposts, h.balance]
    exact ht.closing u
  · rw [h.ledger] at hr
    obtain ⟨a, ha⟩ := ht.opened r hr
    exact h.accounts _ a ha

theorem Keeps.opened (t : Tables) (u : UserID) (now : Int64) : Keeps t (t.opened u now) :=
  ⟨t.opened_ledger u now, fun v => t.opened_balanceOf u v now, fun _ a h => ⟨a, opened_lookup_of_some now h⟩⟩

theorem updateBalance_ledger (t : Tables) (u : UserID) (b : ComputeCredit) (now : Int64) :
    (t.updateBalance u b now).ledger = t.ledger := by
  unfold updateBalance
  split <;> rfl

variable (now : Int64)

section

variable (h : t.ledger.has row.txnID = false)
include h

theorem post_rows : (t.post row now).ledger.rows = t.ledger.rows ++ [row] := by
  rw [post, updateBalance_ledger]
  exact Journal.rows_insertOrIgnore h

theorem post_rowsOf (u : UserID) :
    (t.post row now).rowsOf u = if row.accountID = u then t.rowsOf u ++ [row] else t.rowsOf u := by
  unfold rowsOf
  rw [post_rows now h, filter_append]
  by_cases hu : row.accountID = u <;> simp [hu]

theorem post_charged (u : UserID) :
    (t.post row now).charged u = t.charged u + if row.accountID = u then row.charge else 0 := by
  unfold charged
  rw [post_rowsOf now h]
  split_ifs <;> simp

end

theorem post_accounts (h : t.accounts.lookup row.accountID = some a) :
    (t.post row now).accounts = t.accounts.insert row.accountID
      { a with balance := row.balanceAfter, updatedAt := now } := by
  unfold post updateBalance
  rw [h]

theorem post_balanceOf (h : t.accounts.lookup row.accountID = some a) (u : UserID) :
    (t.post row now).balanceOf u = if row.accountID = u then row.balanceAfter else t.balanceOf u := by
  rw [balanceOf, post_accounts now h]
  split_ifs with hu
  · rw [← hu, lookup_insert]
  · rw [lookup_insert_of_ne _ (Ne.symm hu)]
    rfl

theorem Books.post (ht : t.Books) {now : Int64} (hnew : t.ledger.has row.txnID = false)
    (ha : t.accounts.lookup row.accountID = some a) (hbef : row.balanceBefore = t.balanceOf row.accountID)
    (haft : row.balanceAfter = row.balanceBefore - row.charge) : (t.post row now).Books := by
  have hrows := post_rows now hnew
  have haccounts := post_accounts now ha
  have hposts : ∀ u, (t.post row now).postings u =
      if row.accountID = u then t.postings u ++ [row.posting] else t.postings u := by
    intro u
    unfold postings
    rw [post_rowsOf now hnew]
    split_ifs
    · rw [map_append, map_singleton]
    · rfl
  refine ⟨fun u => ?_, fun u => ?_, fun r hr => ?_⟩
  · rw [hposts]
    split
    · rename_i hu
      subst hu
      rw [Posting.chained_concat]
      exact ⟨ht.chained _, hbef.trans (ht.closing _), haft⟩
    · exact ht.chained u
  · rw [hposts, post_balanceOf now ha]
    split
    · rw [Posting.closing_concat]
      rfl
    · exact ht.closing u
  · rw [haccounts]
    by_cases hu : r.accountID = row.accountID
    · rw [hu]
      exact ⟨_, lookup_insert _⟩
    · rw [lookup_insert_of_ne _ hu]
      rw [hrows, List.mem_append, List.mem_singleton] at hr
      rcases hr with hr | rfl
      · exact ht.opened r hr
      · exact absurd rfl hu

theorem Books.withBudgets (ht : t.Books) (budgets : List BudgetRow) :
    Books { t with budgets := budgets } := ⟨ht.chained, ht.closing, ht.opened⟩

end Tables

open Tables (Books Keeps)

/-! ## One call -/

variable {env : SettleEnv} {t : Tables} {req : Settlement} {out : Tables × Except Bytes SettleResult}

theorem Settles.books (h : Settles env t req out) (ht : t.Books) : out.1.Books := by
  cases h with
  | aborted => exact ht
  | repeated => exact (Keeps.opened t req.accountID env.openedAt).books ht
  | recorded h =>
    have hopen := Keeps.opened t req.accountID env.openedAt
    obtain ⟨a, ha⟩ := t.opened_mem req.accountID env.openedAt
    apply Books.withBudgets
    apply (hopen.books ht).post
    · rw [hopen.ledger]
      exact h.1
    · exact ha
    · exact (hopen.balance _).symm
    · rfl

theorem Settles.rows_isPrefix (h : Settles env t req out) :
    t.ledger.rows <+: out.1.ledger.rows := by
  cases h with
  | aborted => exact prefix_refl _
  | repeated =>
    rw [opened_ledger]
  | recorded =>
    rw [post, updateBalance_ledger]
    have hledg := t.opened_ledger req.accountID env.openedAt
    exact hledg ▸ Journal.rows_isPrefix_insertOrIgnore _ _

theorem upsertAccount_keeps (fault : Option Bytes) {a : Account}
    (h : a.row.balance = t.balanceOf a.userID) : Keeps t (upsertAccount fault t a).1 := by
  unfold upsertAccount
  cases fault with
  | some => exact .refl t
  | none =>
    have hkeeps : ∀ row : AccountRow, row.balance = a.row.balance →
        Keeps t { t with accounts := t.accounts.insert a.userID row } := by
      intro row hrow
      refine ⟨rfl, fun u => ?_, fun u b hb => ?_⟩
      · by_cases hu : u = a.userID
        · subst hu
          rw [← h, ← hrow, balanceOf, lookup_insert]
        · rw [balanceOf, lookup_insert_of_ne _ hu]
          rfl
      · by_cases hu : u = a.userID
        · exact ⟨row, by rw [hu, lookup_insert]⟩
        · exact ⟨b, by rw [lookup_insert_of_ne _ hu, hb]⟩
    cases t.accounts.lookup a.userID with
    | none | some => exact hkeeps _ rfl

variable {acct : Account}

theorem readForPriority_ok {env : PriorityEnv} {u : UserID} {pc : PriorityClass}
    (h : readForPriority env t u pc = .ok acct) : acct.userID = u ∧ acct.row.balance = t.balanceOf u := by
  unfold readForPriority at h
  split at h
  · obtain ⟨_, hload, h⟩ := succeeds_split h
    cases h
    unfold loadAccount at hload
    cases hfault : env.loadFault with
    | some => simp [hfault] at hload
    | none =>
      rw [hfault] at hload
      cases hload
      unfold balanceOf
      cases t.accounts.lookup u with
      | none | some => exact ⟨rfl, rfl⟩
  · cases h

theorem setUserPriority_keeps (env : PriorityEnv) (t : Tables) (u : UserID) (pc : PriorityClass) :
    Keeps t (setUserPriority env t u pc).1 := by
  unfold setUserPriority
  cases hread : readForPriority env t u pc with
  | error => exact .refl t
  | ok =>
    obtain ⟨rfl, hbal⟩ := readForPriority_ok hread
    exact upsertAccount_keeps env.upsertFault hbal

theorem settle_balanceOf_eq (env : SettleEnv) (t : Tables) (req : Settlement) (u : UserID) :
    (settle env t req).1.balanceOf u =
      if env.Records t req ∧ req.accountID = u then t.balanceOf u - req.charge else t.balanceOf u := by
  have hsettles := settle_settles env t req
  by_cases hrecs : env.Records t req
  · obtain ⟨a, ha⟩ := t.opened_mem req.accountID env.openedAt
    have hrow : (t.opened req.accountID env.openedAt).accounts.lookup
        (req.row env (t.balanceOf req.accountID)).accountID = some a := ha
    rw [settle_of_records hrecs]
    show ((t.opened req.accountID env.openedAt).post _ env.updatedAt).balanceOf u = _
    rw [post_balanceOf env.updatedAt hrow, opened_balanceOf]
    show (if req.accountID = u then t.balanceOf req.accountID - req.charge else t.balanceOf u) = _
    by_cases hu : req.accountID = u
    · rw [if_pos hu, if_pos ⟨hrecs, hu⟩, hu]
    · rw [if_neg hu, if_neg fun hposts => hu hposts.2]
  · rw [if_neg fun hposts => hrecs hposts.1]
    generalize settle env t req = out at hsettles
    cases hsettles with
    | aborted => rfl
    | repeated => exact t.opened_balanceOf req.accountID u env.openedAt
    | recorded h => exact absurd h hrecs

/-! ## Runs of calls -/

inductive Call where
  | settle (env : SettleEnv) (req : Settlement)
  | setUserPriority (env : PriorityEnv) (u : UserID) (pc : PriorityClass)

def Call.run (t : Tables) : Call → Tables
  | .settle env req => (Commons.settle env t req).1
  | .setUserPriority env u pc => (Commons.setUserPriority env t u pc).1

def runCalls (t : Tables) (cs : List Call) : Tables := cs.foldl Call.run t

theorem Call.books (ht : t.Books) (c : Call) : (c.run t).Books := by
  cases c with
  | settle env req => exact (settle_settles env t req).books ht
  | setUserPriority env u pc => exact (setUserPriority_keeps env t u pc).books ht

theorem Call.rows_isPrefix (t : Tables) (c : Call) : t.ledger.rows <+: (c.run t).ledger.rows := by
  cases c with
  | settle env req => exact (settle_settles env t req).rows_isPrefix
  | setUserPriority env u pc =>
    show t.ledger.rows <+: (Commons.setUserPriority env t u pc).1.ledger.rows
    rw [(setUserPriority_keeps env t u pc).ledger]

theorem runCalls_books (ht : t.Books) (cs : List Call) : (runCalls t cs).Books := by
  induction cs generalizing t with
  | nil => exact ht
  | cons c _ ih => exact ih (c.books ht)

theorem runCalls_rows_isPrefix (t : Tables) (cs : List Call) : t.ledger.rows <+: (runCalls t cs).ledger.rows := by
  induction cs generalizing t with
  | nil => exact prefix_refl _
  | cons c _ ih => exact (c.rows_isPrefix t).trans (ih (c.run t))

theorem settle_of_has (h : t.ledger.has (env.txnID req) = true) :
    (settle env t req).1.ledger = t.ledger ∧ (settle env t req).1.budgets = t.budgets ∧
      ∀ u a, t.accounts.lookup u = some a → (settle env t req).1.accounts.lookup u = some a := by
  have hsettles := settle_settles env t req
  generalize settle env t req = out at hsettles
  cases hsettles with
  | aborted => exact ⟨rfl, rfl, fun _ _ ha => ha⟩
  | repeated =>
    exact ⟨t.opened_ledger _ _, t.opened_budgets _ _, fun u a ha => opened_lookup_of_some _ ha⟩
  | recorded hrecs =>
    rw [hrecs.1] at h
    cases h

/-- **The ledger is conserved.** -/
theorem ledger_conserved (budgets : List BudgetRow) (cs : List Call) :
    let t := runCalls (initial budgets) cs
    (∀ u a, t.accounts.lookup u = some a → a.balance = defaultStartingBalance - t.charged u) ∧
    (∀ r ∈ t.ledger.rows, r.balanceAfter = r.balanceBefore - r.charge) ∧
    (∀ u, ((t.rowsOf u).IsChain fun r r' => r'.balanceBefore = r.balanceAfter) ∧
      ∀ r ∈ (t.rowsOf u).head?, r.balanceBefore = defaultStartingBalance) ∧
    (∀ r ∈ t.ledger.rows, ∃ a, t.accounts.lookup r.accountID = some a) ∧
    (∀ ds, t.ledger.rows <+: (runCalls t ds).ledger.rows) ∧ ∀ env req, t.ledger.has (env.txnID req) = true →
      (settle env t req).1.ledger = t.ledger ∧ (settle env t req).1.budgets = t.budgets ∧
        ∀ u a, t.accounts.lookup u = some a → (settle env t req).1.accounts.lookup u = some a := by
  intro t
  have hbooks : t.Books := runCalls_books (Books.initial budgets) cs
  refine ⟨fun u a ha => hbooks.balance_eq ha, fun r hr => ?_, fun u => ⟨?_, fun r hr => ?_⟩,
    hbooks.opened, runCalls_rows_isPrefix t, fun env req => settle_of_has⟩
  · have hmem : r.posting ∈ t.postings r.accountID := mem_map_of_mem (mem_filter.2 ⟨hr, by simp⟩)
    exact (hbooks.chained r.accountID).after_eq hmem
  · have hchain := (hbooks.chained u).isChain
    unfold postings at hchain
    rw [isChain_map] at hchain
    exact hchain
  · apply (hbooks.chained u).before_head r.posting
    unfold postings
    rw [head?_map]
    exact Option.mem_map_of_mem _ hr

/-! ## Calls that overlap

A `SetUserPriority` call is two database calls, a read and a write, and announces settle from goroutines of
their own.  The state holds, for every call that has read and not yet written, the row it is going to
write. -/

structure Service where
  tables : Tables
  /-- The calls of `SetUserPriority` between their read and their write. -/
  pending : Finmap fun _ : ℕ => Account

namespace Service

inductive Step where
  /-- A `Settle` transaction. -/
  | settle (env : SettleEnv) (req : Settlement)
  /-- Call `h` of `SetUserPriority` checks its argument and reads. -/
  | read (h : ℕ) (env : PriorityEnv) (u : UserID) (pc : PriorityClass)
  /-- Call `h` writes its row; `fault` is the error of the statement, if it fails. -/
  | write (h : ℕ) (fault : Option Bytes)

def step (s : Service) : Step → Option Service
  | .settle env req => some { s with tables := (Commons.settle env s.tables req).1 }
  | .read h env u pc =>
    match s.pending.lookup h with
    | some _ => none
    | none =>
      match readForPriority env s.tables u pc with
      | .error _ => some s
      | .ok acct => some { s with pending := s.pending.insert h acct }
  | .write h fault =>
    match s.pending.lookup h with
    | none => none
    | some acct => some { tables := (upsertAccount fault s.tables acct).1, pending := s.pending.erase h }

def initial (budgets : List BudgetRow) : Service := ⟨Tables.initial budgets, ∅⟩

theorem exec_read_write (s : Service) {h : ℕ} (hfresh : s.pending.lookup h = none) (env : PriorityEnv)
    (u : UserID) (pc : PriorityClass) (hread : readForPriority env s.tables u pc = .ok acct) :
    Run.exec step s [.read h env u pc, .write h env.upsertFault] =
      some { s with tables := (setUserPriority env s.tables u pc).1 } := by
  have herase : (s.pending.insert h acct).erase h = s.pending := by
    rw [erase_insert_self, erase_of_notMem (lookup_eq_none.1 hfresh)]
  simp [Run.exec, step, hfresh, hread, setUserPriority, herase]

def Balanced (t : Tables) : Prop :=
  ∀ u a, t.accounts.lookup u = some a → a.balance = defaultStartingBalance - t.charged u

def Undisturbed (s : Service) : Step → Prop
  | .settle env req =>
    ∀ h acct, s.pending.lookup h = some acct → acct.userID = req.accountID → req.charge ≠ 0 →
      ¬ env.Records s.tables req
  | _ => True

instance (s : Service) (l : Step) : Decidable (Undisturbed s l) := by
  unfold Undisturbed
  split <;> infer_instance

structure Agrees (s : Service) : Prop where
  books : s.tables.Books
  current : ∀ h acct, s.pending.lookup h = some acct → acct.row.balance = s.tables.balanceOf acct.userID

theorem agrees_initial (budgets : List BudgetRow) : Agrees (initial budgets) :=
  ⟨Books.initial budgets, fun _ _ h => nomatch h⟩

theorem settle_balanceOf {env : SettleEnv} {t : Tables} {req : Settlement} {u : UserID}
    (h : env.Records t req → req.accountID = u → req.charge = 0) :
    (Commons.settle env t req).1.balanceOf u = t.balanceOf u := by
  rw [settle_balanceOf_eq]
  split_ifs with hposts
  · rw [h hposts.1 hposts.2, sub_zero]
  · rfl

theorem Agrees.step {s s' : Service} (l : Step) (hs : s.Agrees) (hquiet : Undisturbed s l)
    (h : s.step l = some s') : s'.Agrees := by
  cases l with
  | settle env req =>
    cases h
    refine ⟨(settle_settles env s.tables req).books hs.books, fun h acct hacct => ?_⟩
    refine (hs.current h acct hacct).trans (settle_balanceOf fun hrecs huser => ?_).symm
    by_contra hcharge
    exact hquiet h acct hacct huser.symm hcharge hrecs
  | read h env u pc =>
    simp only [Service.step] at h
    split at h
    · cases h
    · split at h
      · cases h
        exact hs
      · rename_i acct hread
        cases h
        obtain ⟨huser, hbal⟩ := readForPriority_ok hread
        refine ⟨hs.books, fun k acct' hk => ?_⟩
        rcases lookup_insert_cases hk with ⟨rfl, rfl⟩ | ⟨-, hk⟩
        · rw [hbal, huser]
        · exact hs.current k acct' hk
  | write h fault =>
    simp only [Service.step] at h
    split at h
    · cases h
    · rename_i acct hacct
      cases h
      have hkeeps := upsertAccount_keeps fault (hs.current _ acct hacct)
      refine ⟨hkeeps.books hs.books, fun k acct' hk => ?_⟩
      by_cases hkh : k = h
      · subst hkh
        rw [lookup_erase] at hk
        cases hk
      · rw [lookup_erase_ne hkh] at hk
        rw [hkeeps.balance]
        exact hs.current k acct' hk

/-- **No settlement is lost if none commits between a read and its write**: in every interleaving of
that kind, every balance is the starting balance less the charges of the account's rows, at every
moment. -/
theorem balances_of_no_settlement_between (budgets : List BudgetRow) (ls : List Step) (s : Service)
    (hrun : Run.exec step (initial budgets) ls = some s)
    (hquiet : Run.Meets step Undisturbed (initial budgets) ls) : Balanced s.tables := by
  have hagrees : s.Agrees :=
    Run.exec_invariant_of_meets (fun _ l _ hs hq h => hs.step l hq h) (agrees_initial budgets) hquiet hrun
  intro u a ha
  exact hagrees.books.balance_eq ha

end Service

namespace Sample

def settleEnv : SettleEnv := ⟨0, 0, 0, [], fun _ => none⟩

def priorityEnv : PriorityEnv := ⟨0, none, none⟩

def download (u : UserID) (charge : ComputeCredit) (txnID : String) : Settlement :=
  ⟨u, 1, resourceDownload, 1, 1, charge, lit "download_charge", lit txnID⟩

def overlapping : List Service.Step :=
  [.settle settleEnv (download 7 5 "a"), .read 0 priorityEnv 7 1, .settle settleEnv (download 7 10 "b"),
    .write 0 none]

def apart : List Service.Step :=
  [.settle settleEnv (download 7 5 "a"), .read 0 priorityEnv 7 1, .settle settleEnv (download 8 10 "b"),
    .write 0 none]

end Sample

open Sample

namespace Service

/-- **A settlement is lost**: the write-back restores the balance from before the charge of 10. -/
theorem settlement_lost : ¬ ∀ (budgets : List BudgetRow) (ls : List Step) (s : Service),
      Run.exec step (initial budgets) ls = some s → s.pending = ∅ → Balanced s.tables := by
  intro hclaim
  obtain ⟨s, hs, hdone, ⟨a, ha, habalance⟩, hcharged⟩ : ∃ s, Run.exec step (initial []) overlapping = some s ∧
      s.pending = ∅ ∧ (∃ a, s.tables.accounts.lookup 7 = some a ∧ a.balance = defaultStartingBalance - 5) ∧
      s.tables.charged 7 = 15 := by
    decide +kernel
  have hclaimed := hclaim [] _ s hs hdone 7 a ha
  rw [habalance, hcharged] at hclaimed
  revert hclaimed
  decide

theorem balances_of_apart :
    ∃ s, Run.exec step (initial []) apart = some s ∧ Run.Meets step Undisturbed (initial []) apart ∧
      s.tables.charged 7 = 5 ∧ s.tables.charged 8 = 10 ∧ Balanced s.tables := by
  obtain ⟨s, hs, hseven, height⟩ : ∃ s, Run.exec step (initial []) apart = some s ∧
      s.tables.charged 7 = 5 ∧ s.tables.charged 8 = 10 := by
    decide +kernel
  have hmeets : Run.Meets step Undisturbed (initial []) apart := by decide +kernel
  exact ⟨s, hs, hmeets, hseven, height, balances_of_no_settlement_between [] _ s hs hmeets⟩

end Service

end Ocelot.Commons
