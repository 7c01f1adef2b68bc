/-
# "Balance >= 0 must hold for non-protected accounts" (`commons/account.go`).
-/
import Ocelot.Commons.Settlement
import Ocelot.Commons.FixedPoint

namespace Ocelot.Commons

open Int64 Finmap
open Tracker (Bytes UserID AnnounceStats)

namespace Tables

variable (t : Tables)

def classOf (u : UserID) : PriorityClass :=
  match t.accounts.lookup u with
  | some a => a.priorityClass
  | none => .p2Standard

/-- **The invariant**: no account outside the protected classes is overdrawn. -/
def Solvent : Prop := ∀ u a, t.accounts.lookup u = some a → a.priorityClass.isProtected = false → 0 ≤ a.balance

theorem solvent_iff : t.Solvent ↔ ∀ u, (t.classOf u).isProtected = false → 0 ≤ t.balanceOf u := by
  unfold Solvent classOf balanceOf
  constructor
  · intro h u
    cases hu : t.accounts.lookup u with
    | none =>
      intro _
      decide
    | some a => exact h u a hu
  · intro h u a ha
    have hu := h u
    rw [ha] at hu
    exact hu

theorem opened_classOf (u v : UserID) (now : Int64) : (t.opened u now).classOf v = t.classOf v := by
  unfold opened
  cases hu : t.accounts.lookup u with
  | some => rfl
  | none =>
    by_cases hv : v = u
    · subst hv
      simp [classOf, createAccount, hu]
    · simp [classOf, createAccount, lookup_insert_of_ne _ hv]

theorem updateBalance_classOf (u v : UserID) (b : ComputeCredit) (now : Int64) :
    (t.updateBalance u b now).classOf v = t.classOf v := by
  unfold updateBalance
  cases hu : t.accounts.lookup u with
  | none => rfl
  | some =>
    by_cases hv : v = u
    · subst hv
      simp [classOf, hu]
    · simp [classOf, lookup_insert_of_ne _ hv]

end Tables

variable (env : SettleEnv) (t : Tables)

theorem settle_classOf (req : Settlement) (u : UserID) :
    (settle env t req).1.classOf u = t.classOf u := by
  have hsettles := settle_settles env t req
  generalize settle env t req = out at hsettles
  cases hsettles with
  | aborted => rfl
  | repeated => exact t.opened_classOf _ _ _
  | recorded =>
    show ((t.opened req.accountID env.openedAt).post _ env.updatedAt).classOf u = _
    rw [Tables.post, Tables.updateBalance_classOf]
    exact t.opened_classOf req.accountID u env.openedAt

variable (bytes : Int64) (amount : ComputeCredit) (req : Settlement)

def HalfPosts : Prop :=
  (0 < bytes ∧ 0 < amount) ∧ env.Records t req

instance (env : SettleEnv) (t : Tables) (bytes : Int64) (amount : ComputeCredit) (req : Settlement) :
    Decidable (HalfPosts env t bytes amount req) := inferInstanceAs (Decidable (_ ∧ _))

variable (context : String)

theorem settleHalf_fst :
    (settleHalf env t bytes amount req context).1 = if 0 < bytes ∧ 0 < amount then
      (settle env t req).1 else t := by
  unfold settleHalf
  split_ifs
  · rcases settle env t req with ⟨_, _ | _⟩ <;> rfl
  · rfl

theorem settleHalf_balanceOf (u : UserID) : (settleHalf env t bytes amount req context).1.balanceOf u =
      if HalfPosts env t bytes amount req ∧ req.accountID = u then t.balanceOf u - req.charge
          else t.balanceOf u := by
  rw [settleHalf_fst]
  unfold HalfPosts
  by_cases hpos : 0 < bytes ∧ 0 < amount
  · rw [if_pos hpos, settle_balanceOf_eq]
    simp only [hpos, and_self, true_and]
  · rw [if_neg hpos, if_neg fun h => hpos h.1.1]

theorem settleHalf_classOf (u : UserID) :
    (settleHalf env t bytes amount req context).1.classOf u = t.classOf u := by
  rw [settleHalf_fst]
  split_ifs
  · exact settle_classOf env t req u
  · rfl

theorem settleHalf_has {env : SettleEnv} {t : Tables} {bytes : Int64} {amount : ComputeCredit}
    {req : Settlement} {context : String} {id : Bytes} (h : t.ledger.has id = true) :
    (settleHalf env t bytes amount req context).1.ledger.has id = true := by
  rw [settleHalf_fst]
  split_ifs
  · have hgrows := (settle_settles env t req).rows_isPrefix
    rw [Journal.has_iff] at h ⊢
    obtain ⟨row, hrow, hid⟩ := h
    exact ⟨row, hgrows.subset hrow, hid⟩
  · exact h

inductive AccountCall where
  | settleAnnounce (env : AnnounceEnv) (a : AnnounceStats)
  | setUserPriority (env : PriorityEnv) (u : UserID) (pc : PriorityClass)

variable (pt : PriceTable)

def AccountCall.step (t : Tables) : AccountCall → Option Tables
  | .settleAnnounce env a => some (Commons.settleAnnounce pt env t a).1
  | .setUserPriority env u pc => some (Commons.setUserPriority env t u pc).1

def creditPosted (env : AnnounceEnv) (t : Tables) (a : AnnounceStats) : ComputeCredit :=
  if HalfPosts env.upload t a.effectiveUploaded (pt.announceCredit a) (pt.uploadHalf a) then pt.announceCredit a
  else 0

/-- **The call is affordable**: an unprotected account can pay a charge that is not settled yet from
its balance and the credit of the same announce, and that sum is an `int64`; a class without
protection is given only to an account that is not overdrawn. -/
def AccountCall.Affordable (t : Tables) : AccountCall → Prop
  | .settleAnnounce env a =>
    (t.classOf a.userID).isProtected = false →
      (t.balanceOf a.userID).toInt + (creditPosted pt env t a).toInt < 2 ^ 63 ∧
      (t.ledger.has (pt.downloadHalf a).txnID = false →
        (pt.announceCharge a).toInt ≤ (t.balanceOf a.userID).toInt + (creditPosted pt env t a).toInt)
  | .setUserPriority _ u pc => pc.isValid = true → pc.isProtected = false → 0 ≤ t.balanceOf u

instance (pt : PriceTable) (t : Tables) (c : AccountCall) : Decidable (c.Affordable pt t) := by
  unfold AccountCall.Affordable
  split <;> infer_instance

section

variable {pt : PriceTable} {env : AnnounceEnv} {t : Tables} {a : AnnounceStats}

theorem creditPosted_nonneg : 0 ≤ (creditPosted pt env t a).toInt := by
  unfold creditPosted
  split_ifs with hposts
  · exact (lt_iff_toInt_lt.1 hposts.1.2).le
  · exact le_rfl

theorem uploadHalf_balanceOf (context : String) :
    (settleHalf env.upload t a.effectiveUploaded (pt.announceCredit a)
      (pt.uploadHalf a) context).1.balanceOf a.userID =
      t.balanceOf a.userID + creditPosted pt env t a := by
  rw [settleHalf_balanceOf]
  unfold creditPosted
  by_cases hposts : HalfPosts env.upload t a.effectiveUploaded (pt.announceCredit a) (pt.uploadHalf a)
  · rw [if_pos ⟨hposts, rfl⟩, if_pos hposts]
    show t.balanceOf a.userID - -pt.announceCredit a = _
    rw [sub_neg_eq_add]
  · rw [if_neg fun h => hposts h.1, if_neg hposts, add_zero]

theorem settleAnnounce_fst (pt : PriceTable) (env : AnnounceEnv) (t : Tables) (a : AnnounceStats) :
    (settleAnnounce pt env t a).1 = (settleHalf env.upload t a.effectiveUploaded (pt.announceCredit a)
        (pt.uploadHalf a) "commons: settle upload credit: ").1 ∨
          (settleAnnounce pt env t a).1 = (settleHalf env.download
        (settleHalf env.upload t a.effectiveUploaded (pt.announceCredit a) (pt.uploadHalf a)
          "commons: settle upload credit: ").1
        a.effectiveDownloaded (pt.announceCharge a)
            (pt.downloadHalf a) "commons: settle download charge: ").1 := by
  unfold settleAnnounce
  rcases settleHalf env.upload t a.effectiveUploaded (pt.announceCredit a) (pt.uploadHalf a)
    "commons: settle upload credit: " with ⟨t', err | _⟩
  · exact .inl rfl
  · exact .inr rfl

theorem settleAnnounce_classOf (u : UserID) : (settleAnnounce pt env t a).1.classOf u = t.classOf u := by
  rcases settleAnnounce_fst pt env t a with h | h
  · rw [h, settleHalf_classOf]
  · rw [h, settleHalf_classOf, settleHalf_classOf]

theorem settleAnnounce_balanceOf_of_ne {u : UserID} (hu : a.userID ≠ u) :
    (settleAnnounce pt env t a).1.balanceOf u = t.balanceOf u := by
  have hupl := settleHalf_balanceOf env.upload t a.effectiveUploaded (pt.announceCredit a)
    (pt.uploadHalf a) "commons: settle upload credit: " u
  rw [if_neg fun h => hu h.2] at hupl
  rcases settleAnnounce_fst pt env t a with h | h
  · rw [h, hupl]
  · rw [h, settleHalf_balanceOf, if_neg fun h => hu h.2, hupl]

theorem settleAnnounce_balanceOf (pt : PriceTable) (env : AnnounceEnv) (t : Tables) (a : AnnounceStats) :
    (settleAnnounce pt env t a).1.balanceOf a.userID = t.balanceOf a.userID + creditPosted pt env t a ∨
      (0 < pt.announceCharge a ∧ t.ledger.has (pt.downloadHalf a).txnID = false) ∧
        (settleAnnounce pt env t a).1.balanceOf a.userID =
          t.balanceOf a.userID + creditPosted pt env t a - pt.announceCharge a := by
  rcases settleAnnounce_fst pt env t a with h | h
  · rw [h]
    exact .inl (uploadHalf_balanceOf _)
  · rw [h, settleHalf_balanceOf, uploadHalf_balanceOf]
    split_ifs with hposts
    · refine .inr ⟨⟨hposts.1.1.2, ?_⟩, rfl⟩
      -- the download id was new after the upload half, so it was new before it
      by_contra hold
      have hnew := hposts.1.2.1
      have htxn : env.download.txnID (pt.downloadHalf a) = (pt.downloadHalf a).txnID :=
        if_neg (announceTxnID_ne_nil _ _ _ _)
      rw [htxn, settleHalf_has (Bool.not_eq_false _ ▸ hold)] at hnew
      cases hnew
    · exact .inl rfl

theorem settleAnnounce_solvent (hbal : 0 ≤ t.balanceOf a.userID)
    (hfits : (t.balanceOf a.userID).toInt + (creditPosted pt env t a).toInt < 2 ^ 63)
    (hpays : t.ledger.has (pt.downloadHalf a).txnID = false →
      (pt.announceCharge a).toInt ≤ (t.balanceOf a.userID).toInt + (creditPosted pt env t a).toInt) :
    0 ≤ (settleAnnounce pt env t a).1.balanceOf a.userID := by
  have hbef : 0 ≤ (t.balanceOf a.userID).toInt := le_iff_toInt_le.1 hbal
  have hcred : 0 ≤ (creditPosted pt env t a).toInt := creditPosted_nonneg
  have hsum : (t.balanceOf a.userID + creditPosted pt env t a).toInt =
      (t.balanceOf a.userID).toInt + (creditPosted pt env t a).toInt := by
    rw [toInt_add]
    exact bmod_of_range (by omega) hfits
  rw [le_iff_toInt_le]
  show 0 ≤ ((settleAnnounce pt env t a).1.balanceOf a.userID).toInt
  rcases settleAnnounce_balanceOf pt env t a with h | ⟨⟨hpos, hnew⟩, h⟩
  · rw [h, hsum]
    omega
  · have hcharge : 0 < (pt.announceCharge a).toInt := lt_iff_toInt_lt.1 hpos
    have hcovered := hpays hnew
    rw [h, toInt_sub, hsum, bmod_of_range (by omega) (by omega)]
    omega

end

theorem readForPriority_class {env : PriorityEnv} {t : Tables} {u : UserID} {pc : PriorityClass}
    {acct : Account} (h : readForPriority env t u pc = .ok acct) :
    acct.userID = u ∧ pc.isValid = true ∧ acct.row.priorityClass = pc := by
  refine ⟨(readForPriority_ok h).1, ?_⟩
  unfold readForPriority at h
  split_ifs at h with hval
  · obtain ⟨loaded, -, h⟩ := succeeds_split h
    cases h
    refine ⟨hval, ?_⟩
    cases loaded with
    | none | some => rfl

theorem setUserPriority_classOf (env : PriorityEnv) (t : Tables) (u v : UserID)
    (pc : PriorityClass) : (setUserPriority env t u pc).1.classOf v = t.classOf v ∨
      (v = u ∧ pc.isValid = true) ∧ (setUserPriority env t u pc).1.classOf v = pc := by
  unfold setUserPriority
  cases hread : readForPriority env t u pc with
  | error => exact .inl rfl
  | ok acct =>
    obtain ⟨huser, hval, hclass⟩ := readForPriority_class hread
    subst huser
    show (upsertAccount env.upsertFault t acct).1.classOf v = _ ∨ _ ∧
      (upsertAccount env.upsertFault t acct).1.classOf v = _
    unfold upsertAccount
    cases env.upsertFault with
    | some => exact .inl rfl
    | none =>
      by_cases hv : v = acct.userID
      · refine .inr ⟨⟨hv, hval⟩, ?_⟩
        subst hv
        cases t.accounts.lookup acct.userID with
        | none | some => simpa [Tables.classOf] using hclass
      · left
        cases t.accounts.lookup acct.userID with
        | none | some => simp [Tables.classOf, lookup_insert_of_ne _ hv]

theorem AccountCall.solvent {pt : PriceTable} {t t' : Tables} {c : AccountCall} (ht : t.Solvent)
    (hc : c.Affordable pt t) (hstep : AccountCall.step pt t c = some t') : t'.Solvent := by
  rw [Tables.solvent_iff] at ht ⊢
  cases c with
  | settleAnnounce _ a =>
    cases hstep
    intro u hclass
    rw [settleAnnounce_classOf] at hclass
    by_cases hu : a.userID = u
    · subst hu
      obtain ⟨hfits, hpays⟩ := hc hclass
      exact settleAnnounce_solvent (ht _ hclass) hfits hpays
    · rw [settleAnnounce_balanceOf_of_ne hu]
      exact ht u hclass
  | setUserPriority env u pc =>
    cases hstep
    intro v hclass
    rw [(setUserPriority_keeps env t u pc).balance]
    rcases setUserPriority_classOf env t u v pc with hkept | ⟨⟨rfl, hval⟩, hgiven⟩
    · exact ht v (hkept ▸ hclass)
    · exact hc hval (hgiven ▸ hclass)

/-- **The invariant of accounts**: from no accounts, over any sequence of affordable calls, no
account outside the protected classes is overdrawn after any call. -/
theorem solvent_of_affordable (pt : PriceTable) (budgets : List BudgetRow) (calls : List AccountCall)
    (h : Run.Meets (AccountCall.step pt) (fun t c => c.Affordable pt t) (Tables.initial budgets) calls) :
    ∀ pre t, pre <+: calls → Run.exec (AccountCall.step pt) (Tables.initial budgets) pre = some t → t.Solvent := by
  rintro pre t ⟨_, rfl⟩ hrun
  refine Run.exec_invariant_of_meets (I := Tables.Solvent) ?_ ?_ h.of_append hrun
  · intro s c _ hs hc hstep
    exact AccountCall.solvent hs hc hstep
  · intro u a hu
    simp [Tables.initial] at hu

namespace Sample

def payable : List AccountCall :=
  [.settleAnnounce announceEnv (gigabyte 1000000000), .setUserPriority priorityEnv 7 .p0Critical,
    .settleAnnounce announceEnv (gigabyte 2000000000), .setUserPriority priorityEnv 7 .p2Standard]

def unpayable : List AccountCall :=
  [.settleAnnounce announceEnv { gigabyte 1000000000 with effectiveDownloaded := 30 * resourceGB }]

end Sample

theorem solvent_payable : ∃ t, Run.exec (AccountCall.step defaultPriceTable)
    (Tables.initial []) Sample.payable = some t ∧
      t.Solvent ∧ t.balanceOf 7 < defaultStartingBalance := by
  refine Run.ends_of (P := fun t => t.balanceOf 7 < defaultStartingBalance)
    (by decide +kernel) fun t ht hbelow => ?_
  exact ⟨solvent_of_affordable defaultPriceTable [] Sample.payable (by decide +kernel) _ t
    (List.prefix_refl _) ht, hbelow⟩

/-- **One announce overdraws a standard account.** -/
theorem announce_overdraws :
    ∃ t, Run.exec (AccountCall.step defaultPriceTable)
    (Tables.initial []) Sample.unpayable = some t ∧ ¬ t.Solvent := by
  refine Run.ends_of (P := fun t => (t.classOf 7).isProtected = false ∧ t.balanceOf 7 < 0) (by decide +kernel) ?_
  rintro t - ⟨hclass, hnegative⟩ hsolvent
  exact absurd (t.solvent_iff.1 hsolvent 7 hclass) (Int64.not_le.2 hnegative)

end Ocelot.Commons
