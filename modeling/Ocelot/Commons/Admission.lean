/-
# Who may download (`commons/scheduler.go`, `ledger.go`, `commons.go`, `tracker/optimize.go`).
-/
import Ocelot.Commons.Budget
import Ocelot.Commons.Conservation
import Ocelot.Lib.InsertionSort
import Ocelot.Tracker.PeerSelection

namespace Ocelot.Commons

open Int64 List Tables Sample SettleResult
open Tracker (Bytes lit UserID TorrentID Torrent Peer Query atoi)

/-! ## Balances and budgets -/

def checkBalance (fault : Option Bytes) (t : Tables) (u : UserID) : Except Bytes ComputeCredit :=
  match fault with
  | some err => .error (lit "commons: check balance: " ++ err)
  | none =>
    match t.accounts.lookup u with
    | none => .ok 0
    | some a => .ok a.balance

def Tables.remaining (t : Tables) (now : Int64) (u : UserID) (torrentID : TorrentID) : List ℤ :=
  (t.budgets.filter fun b =>
    b.userID = u ∧ (b.torrentID = some torrentID ∨ b.torrentID = none) ∧ b.deadline.all fun d =>
        now < d).map fun b =>
      b.maxCredits.toInt - b.consumed.toInt

/-- `CheckBudgetAvailable`: the least of what is left, not below zero; `MaxCredit` where there is no
budget. -/
def checkBudgetAvailable (fault : Option Bytes) (now : Int64) (t : Tables) (u : UserID)
    (torrentID : TorrentID) : Except Bytes ComputeCredit :=
  match fault with
  | some err => .error (lit "commons: check budget: " ++ err)
  | none =>
    match (t.remaining now u torrentID).min? with
    | none => .ok maxCredit
    | some remaining => .ok (if remaining < 0 then 0 else Int64.ofInt remaining)

structure CheckEnv where
  now : Int64
  balanceFault : Option Bytes
  budgetFault : Option Bytes
  deriving DecidableEq

inductive AllocationError where
  | insufficientBalance (userID : UserID) (required available : ComputeCredit)
  | budgetExhausted (userID : UserID) (torrentID : TorrentID) (requested remaining : ComputeCredit)
  deriving DecidableEq

variable (env : CheckEnv)

/-- **`CheckAllocation`**: protected classes pass, and so does everyone while the database fails. -/
def checkAllocation (t : Tables) (u : UserID) (torrentID : TorrentID) (pc : PriorityClass) :
    Except AllocationError Unit :=
  if pc.isProtected then .ok ()
  else
    match checkBalance env.balanceFault t u with
    | .error _ => .ok ()
    | .ok balance =>
      if balance ≤ 0 ∧ pc = .p3Opportunistic then .error (.insufficientBalance u (fromCC 1) balance)
      else
        match checkBudgetAvailable env.budgetFault env.now t u torrentID with
        | .error _ => .ok ()
        | .ok budget => if budget ≤ 0 then .error (.budgetExhausted u torrentID (fromCC 1) 0) else .ok ()

/-! ## The scheduler -/

structure WorkloadEconomics where
  maxTotalCredits : ComputeCredit
  priorityClass : PriorityClass
  maxResourcePrice : Finmap fun _ : ResourceType => ComputeCredit

def WorkloadEconomics.effectivePriority (we : WorkloadEconomics) : PriorityClass :=
  if we.priorityClass.isValid then we.priorityClass else .p2Standard

structure SeederCandidate where
  userID : UserID
  artifactLocal : Bool := false
  storageLocal : Bool := false
  uptimeSec : Int64
  reputationScore : Int64
  connectedPeers : Int64 := 0
  priorityClass : PriorityClass
  deriving DecidableEq

structure AllocationRequest where
  leecherUserID : UserID
  torrentID : TorrentID
  economics : Option WorkloadEconomics
  candidates : List SeederCandidate
  seeders : Int64
  leechers : Int64

inductive Rejection where
  | insufficientBalance
  | budgetExhausted
  | priceCapExceeded
  deriving DecidableEq

structure AllocationDecision where
  rejection : Option Rejection
  rankedSeeders : List SeederCandidate := []
  estimatedCost : ComputeCredit := 0
  effectivePrice : ComputeCredit
  deriving DecidableEq

def reputationMax : Int64 := 10000

def SeederCandidate.score (c : SeederCandidate) : Int64 :=
  let s := if c.artifactLocal then 500 else 0
  let s := if c.storageLocal then s + 300 else s
  let s := s + c.uptimeSec * 400 / (c.uptimeSec + 3600 + 1)
  let s := s + c.reputationScore * 200 / (reputationMax + 1)
  let s := s - c.connectedPeers / 10 * 50
  if c.priorityClass = .p1Guaranteed then s + 200 else s

def rankCandidates (candidates : List SeederCandidate) : List SeederCandidate :=
  InsertionSort.sort (fun a b => b.score < a.score) candidates

def estimateCost (pricePerGB : ComputeCredit) (we : WorkloadEconomics) : ComputeCredit :=
  let cost := pricePerGB.mulFrac 10485760 resourceGB
  if 0 < we.maxTotalCredits ∧ we.maxTotalCredits < cost then we.maxTotalCredits else cost

def defaultEconomics : WorkloadEconomics where
  maxTotalCredits := 0
  priorityClass := .p2Standard
  maxResourcePrice := ∅

def AllocationRequest.policy (req : AllocationRequest) : WorkloadEconomics := req.economics.getD defaultEconomics

/-- **`EconomicScheduler.Evaluate`**: policy first, then balance, budget and price, then the
ranking. -/
def evaluate (prices : PriceTable) (req : AllocationRequest)
    (leecherBalance leecherBudget : ComputeCredit) : AllocationDecision :=
  let pc := req.policy.effectivePriority
  let effectivePrice := prices.effectiveForDownload req.seeders req.leechers
  if pc.isProtected then
    { rejection := none, rankedSeeders := rankCandidates req.candidates, effectivePrice }
  else if leecherBalance ≤ 0 then { rejection := some .insufficientBalance, effectivePrice }
  else if leecherBudget ≤ 0 then { rejection := some .budgetExhausted, effectivePrice }
  else if (∃ cap ∈ req.policy.maxResourcePrice.lookup resourceDownload, 0 < cap ∧
      cap < effectivePrice) ∧ pc = .p3Opportunistic then
    { rejection := some .priceCapExceeded, effectivePrice }
  else
    { rejection := none
      rankedSeeders := rankCandidates req.candidates
      estimatedCost := estimateCost effectivePrice req.policy
      effectivePrice }

def failOpen (checked : Except Bytes ComputeCredit) : ComputeCredit :=
  match checked with
  | .error _ => maxCredit
  | .ok credit => credit

def CheckEnv.balance (t : Tables) (u : UserID) : ComputeCredit :=
  failOpen (checkBalance env.balanceFault t u)

def CheckEnv.budget (t : Tables) (u : UserID) (torrentID : TorrentID) : ComputeCredit :=
  failOpen (checkBudgetAvailable env.budgetFault env.now t u torrentID)

def evaluatePeers (prices : PriceTable) (t : Tables) (req : AllocationRequest) : AllocationDecision :=
  evaluate prices req (env.balance t req.leecherUserID) (env.budget t req.leecherUserID req.torrentID)

/-! ## The selection of peers -/

structure EconomicEnv where
  enabled : Bool
  announceInterval : Int64
  selection : Tracker.SelectionEnv
  check : CheckEnv

variable (env : EconomicEnv) (torrent : Torrent) (userID : UserID)

def EconomicEnv.seeders : List Peer :=
  Tracker.collectVisiblePeers (env.selection.order .seeder) torrent.seeders userID

def EconomicEnv.candidate (p : Peer) : SeederCandidate where
  userID := p.userID
  uptimeSec := Int64.ofNat p.announces.toNat * env.announceInterval
  reputationScore := reputationDefault
  priorityClass := .p2Standard

def EconomicEnv.request : AllocationRequest where
  leecherUserID := userID
  torrentID := torrent.id
  economics := none
  candidates := (env.seeders torrent userID).map env.candidate
  seeders := Int64.ofNat torrent.seeders.keys.card
  leechers := Int64.ofNat torrent.leechers.keys.card

def EconomicEnv.asks (numwant : Int32)
    (isLeecher : Bool) : Bool := isLeecher && env.enabled && 0 < numwant && !(env.seeders torrent userID).isEmpty

def EconomicEnv.decision (prices : PriceTable) (t : Tables) (torrent : Torrent) (userID : UserID)
    (numwant : Int32) (isLeecher : Bool) : Option AllocationDecision :=
  if env.asks torrent userID numwant isLeecher then
    some (evaluatePeers env.check prices t (env.request torrent userID))
  else none

def peerByUserID (seeders : List Peer) (u : UserID) : Option Peer := seeders.reverse.find? fun p => p.userID = u

def emitRanked (seeders : List Peer) (n : ℤ) (ranked : List SeederCandidate) : Bytes :=
  ranked.foldl (fun result sc =>
      if n ≤ result.length / 6 then result
      else
        match (peerByUserID seeders sc.userID).filter fun p => p.ipPort.length = 6 with
        | none => result
        | some p => result ++ p.ipPort)
    []

def selectPeersWithEconomics (prices : PriceTable) (t : Tables) (torrent : Torrent)
    (userID : UserID) (numwant : Int32) (isLeecher : Bool) : Bytes :=
  match env.decision prices t torrent userID numwant isLeecher with
  | none => Tracker.selectPeersOptimized env.selection torrent userID numwant isLeecher
  | some decision =>
    match decision.rejection with
    | some _ => []
    | none =>
      let n := numwant.toInt
      let result := emitRanked (env.seeders torrent userID) n decision.rankedSeeders
      -- the slots that are left are filled with a sample of the leechers
      let remaining := n - result.length / 6
      if 0 < remaining then
        result ++ Tracker.compactPeers (Tracker.sampleSide env.selection torrent .leecher userID remaining)
      else result

def actionPriorityClass (q : Query) : Except Bytes PriorityClass :=
  if q.get "priority_class" = [] then .error (lit "missing priority_class")
  else
    match atoi (q.get "priority_class") with
    | none => .error (lit "invalid priority_class")
    | some n =>
      let pc : PriorityClass := Int64.ofInt n
      if pc.isValid then .ok pc else .error (lit "priority_class must be 0–3, got " ++ Tracker.decimal n)

def priorityRequest (enabled : Bool) (q : Query) : Except Bytes (UserID × PriorityClass) := do
  if enabled then
    let id ← actionUserID q
    let pc ← actionPriorityClass q
    return (id, pc)
  else .error (lit "compute commons not enabled")

def setPriorityClass (env : PriorityEnv) (enabled : Bool) (t : Tables) (q : Query) : Tables × Except Bytes Unit :=
  match priorityRequest enabled q with
  | .error err => (t, .error err)
  | .ok (id, pc) => setUserPriority env t id pc

/-! ## Runs of operations -/

inductive Operation where
  | settle (env : SettleEnv) (req : Settlement)
  | setUserPriority (env : PriorityEnv) (u : UserID) (pc : PriorityClass)
  | setUserBudget (env : BudgetEnv) (u : UserID) (torrentID : TorrentID) (maxCredits : Int64)

def Operation.run (t : Tables) : Operation → Tables
  | .settle env req => (Commons.settle env t req).1
  | .setUserPriority env u pc => (Commons.setUserPriority env t u pc).1
  | .setUserBudget env u torrentID maxCredits => (Commons.setUserBudget env t u torrentID maxCredits).1

def runOperations (ops : List Operation) : Tables := ops.foldl Operation.run (initial [])

structure Sound (t : Tables) : Prop where
  books : t.Books
  consumed : ∀ b ∈ t.budgets, 0 ≤ b.consumed.toInt

variable {t : Tables} {prices : PriceTable} {req : AllocationRequest}

theorem consumeBudget_consumed (h : ∀ b ∈ t.budgets, 0 ≤ b.consumed.toInt) (u : UserID)
    (torrentID : TorrentID) {charge : ComputeCredit} (hcharge : 0 < charge) :
    ∀ b ∈ (t.consumeBudget u torrentID charge).budgets, 0 ≤ b.consumed.toInt := by
  intro b hb
  obtain ⟨b', hb', rfl⟩ := mem_map.1 hb
  have hold := h b' hb'
  split_ifs with hguard
  · -- the guard keeps the sum below the cap, so it does not wrap
    have hmax := toInt_lt b'.maxCredits
    rw [lt_iff_toInt_lt, toInt_zero] at hcharge
    rw [toInt_add, bmod_of_range (by omega) (by omega)]
    omega
  · exact hold

theorem setUserBudget_keeps (env : BudgetEnv) (t : Tables) (u : UserID) (torrentID : TorrentID)
    (maxCredits : Int64) :
    Keeps t (setUserBudget env t u torrentID maxCredits).1 := by
  unfold setUserBudget
  split
  · exact .refl t
  · split <;> exact ⟨rfl, fun _ => rfl, fun _ a h => ⟨a, h⟩⟩

theorem setUserBudget_consumed (h : ∀ b ∈ t.budgets, 0 ≤ b.consumed.toInt) (env : BudgetEnv)
    (u : UserID) (torrentID : TorrentID) (maxCredits : Int64) :
    ∀ b ∈ (setUserBudget env t u torrentID maxCredits).1.budgets, 0 ≤ b.consumed.toInt := by
  have hclear : ∀ b ∈ (t.clearBudget u (nullableUint32 torrentID)).budgets, 0 ≤ b.consumed.toInt := by
    intro b hb
    exact h b (mem_of_mem_filter hb)
  unfold setUserBudget
  split
  · exact h
  · split
    · exact hclear
    · intro b hb
      rcases mem_append.1 hb with hb | hb
      · exact hclear b hb
      · rw [mem_singleton] at hb
        subst hb
        exact le_refl 0

theorem setUserPriority_budgets (env : PriorityEnv) (t : Tables) (u : UserID) (pc : PriorityClass) :
    (setUserPriority env t u pc).1.budgets = t.budgets := by
  unfold setUserPriority
  split
  · rfl
  · unfold upsertAccount
    split
    · rfl
    · split <;> rfl

theorem Operation.sound (h : Sound t) (op : Operation) : Sound (op.run t) := by
  cases op with
  | settle env req =>
    refine ⟨(settle_settles env t req).books h.books, ?_⟩
    show ∀ b ∈ (Commons.settle env t req).1.budgets, 0 ≤ b.consumed.toInt
    rw [settle_budgets]
    unfold SettleEnv.budgetsAfter
    split_ifs with _ hcharge
    · exact consumeBudget_consumed h.consumed _ _ hcharge.1
    · exact h.consumed
    · exact h.consumed
  | setUserPriority env u pc =>
    refine ⟨(setUserPriority_keeps env t u pc).books h.books, ?_⟩
    show ∀ b ∈ (Commons.setUserPriority env t u pc).1.budgets, 0 ≤ b.consumed.toInt
    rw [setUserPriority_budgets]
    exact h.consumed
  | setUserBudget env u torrentID maxCredits =>
    exact ⟨(setUserBudget_keeps env t u torrentID maxCredits).books h.books,
      setUserBudget_consumed h.consumed env u torrentID maxCredits⟩

theorem runOperations_sound (ops : List Operation) : Sound (runOperations ops) := by
  have hrun : ∀ t, Sound t → Sound (ops.foldl Operation.run t) := by
    induction ops with
    | nil => exact fun t h => h
    | cons op _ ih => exact fun t h => ih _ (op.sound h)
  exact hrun _ ⟨Books.initial [], fun b hb => nomatch hb⟩

/-! ## Who is refused -/

theorem balance_pos_iff (env : CheckEnv) (t : Tables) (u : UserID) :
    0 < env.balance t u ↔ (env.balanceFault = none → ∃ a, t.accounts.lookup u = some a ∧ 0 < a.balance) := by
  unfold CheckEnv.balance checkBalance failOpen
  cases env.balanceFault with
  | some =>
    have hmax : 0 < maxCredit := by decide
    simp [hmax]
  | none =>
    cases t.accounts.lookup u with
    | none | some => simp

theorem budget_pos_iff (env : CheckEnv) (h : Sound t) (u : UserID) (torrentID : TorrentID) :
    0 < env.budget t u torrentID ↔ (env.budgetFault = none → ∀ r ∈ t.remaining env.now u torrentID, 0 < r) := by
  have hmax : 0 < maxCredit := by decide
  unfold CheckEnv.budget checkBudgetAvailable failOpen
  cases env.budgetFault with
  | some => simp [hmax]
  | none =>
    cases hmin : (t.remaining env.now u torrentID).min? with
    | none =>
      rw [min?_eq_none_iff] at hmin
      simp [hmin, hmax]
    | some m =>
      obtain ⟨hmem, hleast⟩ := min?_eq_some_iff.1 hmin
      -- what is left of a budget is at most its cap
      obtain ⟨b, hb, hm⟩ := mem_map.1 hmem
      have hconsumed := h.consumed b (mem_of_mem_filter hb)
      have hcap := toInt_lt b.maxCredits
      have hpos : 0 < (if m < 0 then 0 else Int64.ofInt m) ↔ 0 < m := by
        split_ifs with hneg
        · constructor
          · intro hzero
            exact absurd hzero (by decide)
          · intro hm
            omega
        · rw [lt_iff_toInt_lt, toInt_zero, toInt_ofInt_of_le (by omega) (by omega)]
      simp only [true_implies]
      rw [hpos]
      exact ⟨fun hm r hr => hm.trans_le (hleast r hr), fun hall => hall m hmem⟩

theorem evaluate_balance_iff (balance budget : ComputeCredit)
    (h : req.policy.effectivePriority.isProtected = false) :
    (evaluate prices req balance budget).rejection ≠ some .insufficientBalance ↔ 0 < balance := by
  simp only [evaluate, h, Bool.false_eq_true, if_false]
  by_cases hbal : balance ≤ 0
  · simp [hbal, Int64.not_lt.2 hbal]
  · rw [if_neg hbal]
    refine iff_of_true ?_ (Int64.not_le.1 hbal)
    split_ifs <;> simp

theorem evaluate_budget_iff {balance : ComputeCredit}
    (budget : ComputeCredit) (h : req.policy.effectivePriority.isProtected = false) (hbal : 0 < balance) :
    (evaluate prices req balance budget).rejection ≠ some .budgetExhausted ↔ 0 < budget := by
  simp only [evaluate, h, Bool.false_eq_true, if_false, if_neg (Int64.not_le.2 hbal)]
  by_cases hbud : budget ≤ 0
  · simp [hbud, Int64.not_lt.2 hbud]
  · rw [if_neg hbud]
    refine iff_of_true ?_ (Int64.not_le.1 hbud)
    split_ifs <;> simp

structure CheckEnv.Funded (env : CheckEnv) (t : Tables) (u : UserID) (torrentID : TorrentID) : Prop where
  balance : env.balanceFault = none → ∃ a, t.accounts.lookup u = some a ∧ 0 < a.balance
  budget : env.budgetFault = none → ∀ r ∈ t.remaining env.now u torrentID, 0 < r

theorem request_unprotected (env : EconomicEnv) (torrent : Torrent) (userID : UserID) :
    (env.request torrent userID).policy.effectivePriority.isProtected = false := by
  show defaultEconomics.effectivePriority.isProtected = false
  decide

/-- **Only money protects.** -/
theorem protected_iff (ops : List Operation) (env : EconomicEnv) (prices : PriceTable)
    (torrent : Torrent) (userID : UserID) (numwant : Int32) (isLeecher : Bool) :
    (∀ d, env.decision prices (runOperations ops) torrent userID numwant isLeecher = some d →
        d.rejection ≠ some .insufficientBalance ∧ d.rejection ≠ some .budgetExhausted) ↔
      (env.asks torrent userID numwant isLeecher = true →
          env.check.Funded (runOperations ops) userID torrent.id) := by
  have hsound := runOperations_sound ops
  generalize runOperations ops = t at *
  have hprot := request_unprotected env torrent userID
  unfold EconomicEnv.decision
  cases hasks : env.asks torrent userID numwant isLeecher with
  | false => simp
  | true =>
    simp only [if_true, Option.some.injEq, forall_eq', true_implies]
    unfold evaluatePeers
    rw [evaluate_balance_iff _ _ hprot]
    constructor
    · rintro ⟨hbal, hbud⟩
      rw [evaluate_budget_iff _ hprot hbal] at hbud
      exact ⟨(balance_pos_iff env.check t userID).1 hbal, (budget_pos_iff env.check hsound userID _).1 hbud⟩
    · rintro ⟨hbal, hbud⟩
      have hpos := (balance_pos_iff env.check t userID).2 hbal
      exact ⟨hpos, (evaluate_budget_iff _ hprot hpos).2 ((budget_pos_iff env.check hsound userID _).2 hbud)⟩

namespace Sample

def seededTorrent : Torrent :=
  { id := 9
    seeders := (∅ : Tracker.PeerList).insert (lit "k")
      { userID := 2, visible := true, ipPort := [10, 0, 0, 1, 26, 225] } }

def economicEnv : EconomicEnv where
  enabled := true
  announceInterval := 1800
  selection := ⟨fun _ => [lit "k"], fun _ _ => 0, fun _ _ => 0⟩
  check := ⟨0, none, none⟩

def overdrawn : List Operation :=
  [.setUserPriority priorityEnv 7 .p0Critical, .settle settleEnv (download 7 (fromCC 1500) "a")]

end Sample

/-- **A `P0` user gets no peers**: the operator has given user 7 class `P0`, its balance is
negative, and the selection of its announce is refused for the balance. -/
theorem protected_user_refused :
    setPriorityClass priorityEnv true (runOperations []) [(lit "id", lit "7"), (lit "priority_class", lit "0")] =
        ((Operation.setUserPriority priorityEnv 7 .p0Critical).run (runOperations []), .ok ()) ∧
      ((runOperations overdrawn).accounts.lookup 7).map AccountRow.priorityClass = some .p0Critical ∧
      (economicEnv.decision defaultPriceTable (runOperations overdrawn) seededTorrent 7 50
        true).map AllocationDecision.rejection = some (some .insufficientBalance) ∧
      selectPeersWithEconomics economicEnv defaultPriceTable (runOperations overdrawn)
        seededTorrent 7 50 true = [] := by
  refine ⟨?_, ?_⟩
  · have hreq : priorityRequest true [(lit "id", lit "7"), (lit "priority_class", lit "0")] = .ok
        (7, .p0Critical) := by
      rfl
    rw [setPriorityClass, hreq]
    rfl
  · decide +kernel

theorem settle_balanceBefore {env : SettleEnv} {t : Tables} {req : Settlement} (h : env.Records t req) :
    (settle env t req).2.map balanceBefore = .ok (t.balanceOf req.accountID) := by
  rw [settle_of_records h]
  rfl

/-- **Admission knows the accounts that exist.** -/
theorem admission_balance_iff (ops : List Operation) (env : SettleEnv) (req : Settlement)
    (hrecords : env.Records (runOperations ops) req) (check : CheckEnv)
    (hanswered : check.balanceFault = none) (prices : PriceTable) (torrentID : TorrentID) :
    (checkBalance check.balanceFault (runOperations ops) req.accountID =
          (settle env (runOperations ops) req).2.map balanceBefore ∧
        ((runOperations ops).rowsOf req.accountID = [] →
          (∀ areq : AllocationRequest, areq.leecherUserID = req.accountID →
            (evaluatePeers check prices (runOperations ops) areq).rejection ≠ some .insufficientBalance) ∧
          ∀ pc required available, checkAllocation check (runOperations ops) req.accountID torrentID pc ≠
            .error (.insufficientBalance req.accountID required available))) ↔
      ∃ a, (runOperations ops).accounts.lookup req.accountID = some a := by
  have hbooks := (runOperations_sound ops).books
  generalize runOperations ops = t at *
  rw [settle_balanceBefore hrecords, hanswered]
  unfold checkBalance balanceOf
  constructor
  · rintro ⟨hagree, -⟩
    cases ha : t.accounts.lookup req.accountID with
    | some a => exact ⟨a, rfl⟩
    | none =>
      rw [ha] at hagree
      exact absurd hagree (by decide)
  · rintro ⟨a, ha⟩
    rw [ha]
    refine ⟨rfl, fun hrows => ?_⟩
    have hdefault : a.balance = defaultStartingBalance := by
      rw [hbooks.balance_eq ha, charged, hrows]
      decide
    have hpos : 0 < a.balance := by
      rw [hdefault]
      decide
    constructor
    · intro areq hareq
      have hbal : 0 < check.balance t areq.leecherUserID := by
        rw [hareq, balance_pos_iff]
        exact fun _ => ⟨a, ha, hpos⟩
      unfold evaluatePeers
      cases hprot : areq.policy.effectivePriority.isProtected with
      | false => exact (evaluate_balance_iff _ _ hprot).2 hbal
      | true =>
        simp only [evaluate, hprot, if_true]
        simp
    · intro pc required available
      unfold checkAllocation checkBalance
      rw [hanswered, ha]
      have hnot : ¬ (a.balance ≤ 0 ∧ pc = .p3Opportunistic) := fun h => absurd h.1 (Int64.not_le.2 hpos)
      simp only [if_neg hnot]
      split_ifs
      · simp
      · split
        · simp
        · split_ifs <;> simp

theorem admission_balance_of_class :
    checkBalance none (runOperations [.setUserPriority priorityEnv 7 .p2Standard]) 7 =
      (settle settleEnv (runOperations [.setUserPriority priorityEnv 7 .p2Standard])
        (download 7 5 "a")).2.map balanceBefore :=
  ((admission_balance_iff [.setUserPriority priorityEnv 7 .p2Standard] settleEnv
    (download 7 5 "a") (by decide +kernel) ⟨0, none, none⟩ rfl defaultPriceTable 9).2
      ⟨⟨defaultStartingBalance, 0, 0, reputationDefault, .p2Standard, 0, 0⟩, by decide +kernel⟩).1

/-- **A new user is turned away**: no account row, so the balance reads as zero and the scheduler
refuses, while a settlement would start from a thousand credits. -/
theorem new_user_refused :
    failOpen (checkBalance none (runOperations []) 7) = 0 ∧ (runOperations []).rowsOf 7 = [] ∧
      (evaluatePeers economicEnv.check defaultPriceTable (runOperations [])
        (economicEnv.request seededTorrent 7)).rejection = some .insufficientBalance ∧
      ((settle settleEnv (runOperations []) (download 7 5 "a")).1.rowsOf 7).map LedgerRow.balanceBefore =
        [fromCC 1000] := by
  decide +kernel

end Ocelot.Commons
