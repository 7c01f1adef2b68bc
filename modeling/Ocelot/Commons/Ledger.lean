/-
# Accounts, budgets and the ledger (`commons/ledger.go`, `db.go`, `commons.go`).
-/
import Ocelot.Commons.Price
import Ocelot.Lib.Decimal

namespace Ocelot.Commons

open Tracker (Bytes lit UserID TorrentID)

/-! ## The tables -/

abbrev PriorityClass := Int64

namespace PriorityClass

def p0Critical : PriorityClass := 0
def p1Guaranteed : PriorityClass := 1
def p2Standard : PriorityClass := 2
def p3Opportunistic : PriorityClass := 3

def isValid (pc : PriorityClass) : Bool := p0Critical ≤ pc && pc ≤ p3Opportunistic

def isProtected (pc : PriorityClass) : Bool := pc == p0Critical || pc == p1Guaranteed

end PriorityClass

def reputationDefault : Int64 := 5000

structure AccountRow where
  balance : ComputeCredit
  allocated : ComputeCredit
  reserved : ComputeCredit
  reputation : Int64
  priorityClass : PriorityClass
  createdAt : Int64
  updatedAt : Int64
  deriving DecidableEq

structure BudgetRow where
  userID : UserID
  torrentID : Option TorrentID
  maxCredits : ComputeCredit
  consumed : ComputeCredit
  deadline : Option Int64
  deriving DecidableEq

structure LedgerRow where
  txnID : Bytes
  accountID : UserID
  torrentID : TorrentID
  resourceType : ResourceType
  quantity : Int64
  unitPrice : ComputeCredit
  charge : ComputeCredit
  balanceBefore : ComputeCredit
  balanceAfter : ComputeCredit
  allocReason : Bytes
  createdAt : Int64
  deriving DecidableEq

def LedgerRow.posting (r : LedgerRow) : Posting ComputeCredit := ⟨r.charge, r.balanceBefore, r.balanceAfter⟩

structure Tables where
  accounts : Finmap fun _ : UserID => AccountRow
  budgets : List BudgetRow
  ledger : Journal LedgerRow.txnID

namespace Tables

def initial (budgets : List BudgetRow) : Tables := ⟨∅, budgets, .empty⟩

def rowsOf (t : Tables) (u : UserID) : List LedgerRow := t.ledger.rows.filter fun r => r.accountID = u

def charged (t : Tables) (u : UserID) : ComputeCredit := ((t.rowsOf u).map LedgerRow.charge).sum

def balanceOf (t : Tables) (u : UserID) : ComputeCredit :=
  match t.accounts.lookup u with
  | some a => a.balance
  | none => defaultStartingBalance

end Tables

/-! ## `Settle` -/

inductive SettleStmt where
  | begin | selectBalance | createAccount | insertLedger | rowsAffected | updateBalance | updateBudget
  | commit
  deriving DecidableEq

structure SettleEnv where
  openedAt : Int64
  postedAt : Int64
  updatedAt : Int64
  newTxnID : Bytes
  fault : SettleStmt → Option Bytes

open SettleEnv

structure Settlement where
  accountID : UserID
  torrentID : TorrentID
  resourceType : ResourceType
  quantity : Int64
  unitPrice : ComputeCredit
  charge : ComputeCredit
  reason : Bytes
  txnID : Bytes
  deriving DecidableEq

structure SettleResult where
  txnID : Bytes
  balanceBefore : ComputeCredit
  balanceAfter : ComputeCredit
  charge : ComputeCredit
  wasIdempotent : Bool
  deriving DecidableEq

def SettleEnv.attempt (env : SettleEnv) (stmt : SettleStmt) (context : String) : Except Bytes Unit :=
  match env.fault stmt with
  | none => .ok ()
  | some err => .error (lit context ++ err)

def SettleEnv.txnID (env : SettleEnv) (req : Settlement) : Bytes :=
  if req.txnID = [] then env.newTxnID else req.txnID

namespace Tables

def createAccount (t : Tables) (u : UserID) (now : Int64) : Tables := { t with
    accounts := t.accounts.insert u
      { balance := defaultStartingBalance
        allocated := defaultStartingBalance
        reserved := 0
        reputation := reputationDefault
        priorityClass := .p2Standard
        createdAt := now
        updatedAt := now } }

def updateBalance (t : Tables) (u : UserID) (balance : ComputeCredit) (now : Int64) : Tables :=
  match t.accounts.lookup u with
  | none => t
  | some a => { t with accounts := t.accounts.insert u { a with balance, updatedAt := now } }

def consumeBudget (t : Tables) (u : UserID) (torrent : TorrentID) (charge : ComputeCredit) : Tables := { t with
    budgets := t.budgets.map fun b =>
      if b.userID = u ∧ b.torrentID = some torrent ∧ charge.toInt ≤ b.maxCredits.toInt - b.consumed.toInt then
        { b with consumed := b.consumed + charge }
      else b }

end Tables

variable (env : SettleEnv)

def Settlement.row (req : Settlement) (balanceBefore : ComputeCredit) : LedgerRow where
  txnID := env.txnID req
  accountID := req.accountID
  torrentID := req.torrentID
  resourceType := req.resourceType
  quantity := req.quantity
  unitPrice := req.unitPrice
  charge := req.charge
  balanceBefore := balanceBefore
  balanceAfter := balanceBefore - req.charge
  allocReason := req.reason
  createdAt := env.postedAt

def fetchBalance (t : Tables) (u : UserID) : Except Bytes (Tables × ComputeCredit) := do
  env.attempt .selectBalance "commons: settle fetch balance: "
  match t.accounts.lookup u with
  | some a => return (t, a.balance)
  | none =>
    env.attempt .createAccount "commons: settle create account: "
    return (t.createAccount u env.openedAt, defaultStartingBalance)

def settleTx (t : Tables) (req : Settlement) : Except Bytes (Tables × SettleResult) := do
  let txnID := env.txnID req
  env.attempt .begin "commons: settle begin tx: "
  let (opened, balanceBefore) ← fetchBalance env t req.accountID
  let row := req.row env balanceBefore
  env.attempt .insertLedger "commons: settle insert ledger: "
  let posted := { opened with ledger := opened.ledger.insertOrIgnore row }
  env.attempt .rowsAffected "commons: settle rows affected: "
  if opened.ledger.has txnID then
    -- no row was affected: the id was settled before
    env.attempt .commit "commons: settle commit (idempotent): "
    return (posted, ⟨txnID, balanceBefore, balanceBefore, req.charge, true⟩)
  else
    env.attempt .updateBalance "commons: settle update balance: "
    let moved := posted.updateBalance req.accountID row.balanceAfter env.updatedAt
    -- the budget is updated if there is one, and an error of this statement is ignored
    let spent :=
      if 0 < req.charge ∧ 0 < req.torrentID ∧ env.fault .updateBudget = none then
        moved.consumeBudget req.accountID req.torrentID req.charge
      else moved
    env.attempt .commit "commons: settle commit: "
    return (spent, ⟨txnID, balanceBefore, row.balanceAfter, req.charge, false⟩)

def settle (t : Tables) (req : Settlement) : Tables × Except Bytes SettleResult :=
  match settleTx env t req with
  | .error err => (t, .error err)
  | .ok (t', res) => (t', .ok res)

/-! ## `SetUserPriority` -/

structure Account where
  userID : UserID
  row : AccountRow
  deriving DecidableEq

def loadAccount (fault : Option Bytes) (t : Tables) (u : UserID) : Except Bytes (Option Account) :=
  match fault with
  | some err => .error (lit "commons: load account: " ++ err)
  | none => .ok ((t.accounts.lookup u).map fun row => ⟨u, row⟩)

def upsertAccount (fault : Option Bytes) (t : Tables) (a : Account) : Tables × Except Bytes Unit :=
  match fault with
  | some err => (t, .error err)
  | none =>
    match t.accounts.lookup a.userID with
    | none => ({ t with accounts := t.accounts.insert a.userID a.row }, .ok ())
    | some row =>
      ({ t with accounts := t.accounts.insert a.userID { a.row with createdAt := row.createdAt } }, .ok ())

def withPriority (u : UserID) (pc : PriorityClass) (now : Int64) : Option Account → Account
  | none =>
    { userID := u
      row :=
        { balance := defaultStartingBalance
          allocated := 0
          reserved := 0
          reputation := reputationDefault
          priorityClass := pc
          createdAt := now
          updatedAt := now } }
  | some acct => { acct with row := { acct.row with priorityClass := pc, updatedAt := now } }

structure PriorityEnv where
  now : Int64
  loadFault : Option Bytes
  upsertFault : Option Bytes
  deriving DecidableEq

def readForPriority (env : PriorityEnv) (t : Tables) (u : UserID) (pc : PriorityClass) : Except Bytes Account := do
  if pc.isValid then
    let acct ← loadAccount env.loadFault t u
    return withPriority u pc env.now acct
  else .error (lit "commons: invalid priority class " ++ Decimal.integer pc.toInt)

def setUserPriority (env : PriorityEnv) (t : Tables) (u : UserID) (pc : PriorityClass) :
    Tables × Except Bytes Unit :=
  match readForPriority env t u pc with
  | .error err => (t, .error err)
  | .ok acct => upsertAccount env.upsertFault t acct

/-! ## What a settlement does -/

namespace Tables

variable (t : Tables) (u : UserID) (now : Int64)

def opened : Tables :=
  match t.accounts.lookup u with
  | some _ => t
  | none => t.createAccount u now

@[simp] theorem opened_ledger : (t.opened u now).ledger = t.ledger := by
  unfold opened
  split <;> rfl

@[simp] theorem opened_budgets : (t.opened u now).budgets = t.budgets := by
  unfold opened
  split <;> rfl

theorem opened_lookup_of_some {t : Tables} {u v : UserID} {a : AccountRow} (now : Int64)
    (h : t.accounts.lookup v = some a) : (t.opened u now).accounts.lookup v = some a := by
  unfold opened
  split
  · exact h
  · rename_i hnone
    have hne : v ≠ u := by
      rintro rfl
      rw [hnone] at h
      cases h
    rw [createAccount, Finmap.lookup_insert_of_ne _ hne]
    exact h

theorem opened_mem : ∃ a, (t.opened u now).accounts.lookup u = some a := by
  unfold opened
  split
  · rename_i a h
    exact ⟨a, h⟩
  · exact ⟨_, Finmap.lookup_insert _⟩

@[simp] theorem opened_balanceOf (u v : UserID) (now : Int64) :
    (t.opened u now).balanceOf v = t.balanceOf v := by
  unfold opened
  split
  · rfl
  · rename_i hnone
    by_cases hv : v = u
    · subst hv
      simp [balanceOf, createAccount, hnone]
    · simp [balanceOf, createAccount, Finmap.lookup_insert_of_ne _ hv]

def post (row : LedgerRow) (now : Int64) : Tables :=
  { t with ledger := t.ledger.insertOrIgnore row }.updateBalance row.accountID row.balanceAfter now

end Tables

def SettleEnv.needed : List SettleStmt :=
  [.begin, .selectBalance, .insertLedger, .rowsAffected, .updateBalance, .commit]

def SettleEnv.Records (env : SettleEnv) (t : Tables) (req : Settlement) : Prop :=
  t.ledger.has (env.txnID req) = false ∧ (∀ stmt ∈ needed, env.fault stmt = none) ∧
    (t.accounts.lookup req.accountID = none → env.fault .createAccount = none)

instance (env : SettleEnv) (t : Tables) (req : Settlement) : Decidable (env.Records t req) :=
  inferInstanceAs (Decidable (_ ∧ _ ∧ (_ → _)))

theorem succeeds_split {α β : Type} {first : Except Bytes α} {rest : α → Except Bytes β} {out : β}
    (h : first >>= rest = .ok out) : ∃ mid, first = .ok mid ∧ rest mid = .ok out := by
  rcases first with _ | mid
  · nomatch h
  · exact ⟨mid, rfl, h⟩

variable {env : SettleEnv} {stmt : SettleStmt}

theorem SettleEnv.attempt_ok {context : String} {r : Unit}
    (h : env.attempt stmt context = .ok r) : env.fault stmt = none := by
  unfold attempt at h
  split at h
  · assumption
  · cases h

theorem SettleEnv.attempt_of_none (context : String)
    (h : env.fault stmt = none) : env.attempt stmt context = .ok () := by
  unfold attempt
  rw [h]

theorem fetchBalance_ok {t t' : Tables} {u : UserID} {b : ComputeCredit}
    (h : fetchBalance env t u = .ok (t', b)) :
    (t' = t.opened u env.openedAt ∧ b = t.balanceOf u) ∧ env.fault .selectBalance = none ∧
      (t.accounts.lookup u = none → env.fault .createAccount = none) := by
  unfold Tables.opened Tables.balanceOf
  obtain ⟨_, hsel, h⟩ := succeeds_split h
  cases hu : t.accounts.lookup u with
  | some =>
    rw [hu] at h
    cases h
    exact ⟨⟨rfl, rfl⟩, attempt_ok hsel, fun hnone => nomatch hnone⟩
  | none =>
    rw [hu] at h
    obtain ⟨_, hcreate, h⟩ := succeeds_split h
    cases h
    exact ⟨⟨rfl, rfl⟩, attempt_ok hsel, fun _ => attempt_ok hcreate⟩

def SettleEnv.budgetsAfter (env : SettleEnv) (t : Tables) (req : Settlement) : List BudgetRow :=
  if 0 < req.charge ∧ 0 < req.torrentID ∧ env.fault .updateBudget = none then
    (t.consumeBudget req.accountID req.torrentID req.charge).budgets
  else t.budgets

@[simp] theorem Tables.updateBalance_budgets (t : Tables) (u : UserID) (b : ComputeCredit)
    (now : Int64) : (t.updateBalance u b now).budgets = t.budgets := by
  unfold Tables.updateBalance
  split <;> rfl

/-- **What a `Settle` call can do**: fail and leave everything, find its id settled and leave all
but a missing account row, or post its row. -/
inductive Settles (env : SettleEnv) (t : Tables) (req : Settlement) : Tables × Except Bytes SettleResult → Prop
  | aborted (err : Bytes) : Settles env t req (t, .error err)
  | repeated (h : t.ledger.has (env.txnID req) = true) : Settles env t req (t.opened req.accountID env.openedAt,
        .ok ⟨env.txnID req, t.balanceOf req.accountID, t.balanceOf req.accountID, req.charge, true⟩)
  | recorded (h : env.Records t req) : Settles env t req
        ({ (t.opened req.accountID env.openedAt).post (req.row env (t.balanceOf req.accountID)) env.updatedAt
            with budgets := env.budgetsAfter t req },
        .ok ⟨env.txnID req, t.balanceOf req.accountID, t.balanceOf req.accountID - req.charge, req.charge, false⟩)

theorem settle_settles (env : SettleEnv) (t : Tables) (req : Settlement) :
    Settles env t req (settle env t req) := by
  unfold settle
  cases htx : settleTx env t req with
  | error err => exact .aborted err
  | ok out =>
    obtain ⟨_, _⟩ := out
    -- every call before the branch succeeded
    obtain ⟨_, hbeg, htx⟩ := succeeds_split htx
    obtain ⟨⟨opened, _⟩, hfetch, htx⟩ := succeeds_split htx
    obtain ⟨⟨rfl, rfl⟩, hsel, hcreate⟩ := fetchBalance_ok hfetch
    obtain ⟨_, hins, htx⟩ := succeeds_split htx
    obtain ⟨_, haffected, htx⟩ := succeeds_split htx
    have hledg := Tables.opened_ledger t req.accountID env.openedAt
    cases hhas : (t.opened req.accountID env.openedAt).ledger.has (env.txnID req) with
    | true =>
      rw [hhas, if_pos rfl] at htx
      obtain ⟨_, -, htx⟩ := succeeds_split htx
      cases htx
      rw [Journal.insertOrIgnore_of_has hhas]
      exact .repeated (hledg ▸ hhas)
    | false =>
      rw [hhas, if_neg (by decide)] at htx
      obtain ⟨_, hbal, htx⟩ := succeeds_split htx
      obtain ⟨_, hcom, htx⟩ := succeeds_split htx
      have hrecs : env.Records t req := by
        refine ⟨hledg ▸ hhas, ?_, hcreate⟩
        simp only [needed, List.forall_mem_cons, List.not_mem_nil, false_implies, implies_true, and_true]
        exact ⟨env.attempt_ok hbeg, hsel, env.attempt_ok hins, env.attempt_ok haffected,
          env.attempt_ok hbal, env.attempt_ok hcom⟩
      cases htx
      dsimp only
      convert Settles.recorded hrecs using 2
      · unfold budgetsAfter
        split_ifs
        · simp [Tables.post, Tables.consumeBudget, Settlement.row]
        · have hsame : ((t.opened req.accountID env.openedAt).post (req.row env (t.balanceOf req.accountID))
              env.updatedAt).budgets = t.budgets := by
            simp [Tables.post]
          rw [← hsame]
          rfl
      · rfl

variable {req : Settlement}

/-- No statement that the call needs fails, so it commits. -/
theorem settle_ok {t : Tables} (h : (∀ stmt ∈ needed, env.fault stmt = none) ∧
    (t.accounts.lookup req.accountID = none → env.fault .createAccount = none)) :
    ∃ t' res, settle env t req = (t', .ok res) := by
  have hatt : ∀ stmt ∈ needed, ∀ context, env.attempt stmt context = .ok () :=
    fun stmt hstmt context => attempt_of_none context (h.1 stmt hstmt)
  have hfetch : ∃ out, fetchBalance env t req.accountID = .ok out := by
    unfold fetchBalance
    rw [hatt .selectBalance (by decide)]
    cases hu : t.accounts.lookup req.accountID with
    | some => exact ⟨_, rfl⟩
    | none =>
      rw [attempt_of_none _ (h.2 hu)]
      exact ⟨_, rfl⟩
  obtain ⟨_, hfetch⟩ := hfetch
  simp only [settle, settleTx, hfetch, hatt .begin (by decide), hatt .insertLedger (by decide),
    hatt .rowsAffected (by decide), hatt .updateBalance (by decide), hatt .commit (by decide),
    bind, Except.bind, pure, Except.pure]
  split_ifs <;> exact ⟨_, _, rfl⟩

theorem settle_of_records {t : Tables} (h : env.Records t req) : settle env t req =
      ({ (t.opened req.accountID env.openedAt).post (req.row env (t.balanceOf req.accountID)) env.updatedAt
          with budgets := env.budgetsAfter t req },
        .ok ⟨env.txnID req, t.balanceOf req.accountID, t.balanceOf req.accountID - req.charge,
            req.charge, false⟩) := by
  obtain ⟨_, _, hok⟩ := settle_ok h.2
  have hsettles := settle_settles env t req
  rw [hok] at hsettles ⊢
  cases hsettles with
  | repeated hhas =>
    rw [h.1] at hhas
    cases hhas
  | recorded => rfl

theorem settle_budgets (env : SettleEnv) (t : Tables) (req : Settlement) :
    (settle env t req).1.budgets = if env.Records t req then env.budgetsAfter t req else t.budgets := by
  split_ifs with hrecs
  · rw [settle_of_records hrecs]
  · have hsettles := settle_settles env t req
    generalize settle env t req = out at hsettles
    cases hsettles with
    | aborted => rfl
    | repeated => exact t.opened_budgets _ _
    | recorded h => exact absurd h hrecs

end Ocelot.Commons
