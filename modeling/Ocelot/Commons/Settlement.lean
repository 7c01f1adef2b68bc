/-
# What announces are charged (`ComputeCommons.SettleAnnounce`).
-/
import Ocelot.Commons.Conservation
import Ocelot.Tracker.Announce

namespace Ocelot.Commons

open List PriceTable Sample Decimal Tables
open Tracker (Bytes lit UserID TorrentID Time AnnounceStats)

/-! ## One announce -/

def unixNano (t : Time) : Int64 := Int64.ofInt t

def announceTxnID (userID : UserID) (torrentID : TorrentID) (nanos : Int64) (direction : Bytes) : Bytes :=
  lit "announce:" ++ (numeral userID.toNat ++ (lit ":" ++ (numeral torrentID.toNat ++
    (lit ":" ++ (integer (nanos / 1000000000).toInt ++ (lit ":" ++ direction))))))

namespace PriceTable

variable (pt : PriceTable) (a : AnnounceStats)

def announceCredit : ComputeCredit :=
  pt.creditForUpload a.effectiveUploaded (Int64.ofNat a.seeders) (Int64.ofNat a.leechers)

def announceCharge : ComputeCredit :=
  pt.chargeForDownload a.effectiveDownloaded (Int64.ofNat a.seeders) (Int64.ofNat a.leechers)

def uploadHalf : Settlement where
  accountID := a.userID
  torrentID := a.torrentID
  resourceType := resourceUpload
  quantity := a.effectiveUploaded
  unitPrice := pt.effectiveForUpload (Int64.ofNat a.seeders) (Int64.ofNat a.leechers)
  charge := -pt.announceCredit a
  reason := lit "upload_credit"
  txnID := announceTxnID a.userID a.torrentID (unixNano a.timestamp) (lit "up")

def downloadHalf : Settlement where
  accountID := a.userID
  torrentID := a.torrentID
  resourceType := resourceDownload
  quantity := a.effectiveDownloaded
  unitPrice := pt.effectiveForDownload (Int64.ofNat a.seeders) (Int64.ofNat a.leechers)
  charge := pt.announceCharge a
  reason := lit "download_charge"
  txnID := announceTxnID a.userID a.torrentID (unixNano a.timestamp) (lit "dl")

end PriceTable

def settleHalf (env : SettleEnv) (t : Tables) (bytes : Int64) (amount : ComputeCredit)
    (req : Settlement) (context : String) : Tables × Except Bytes Unit :=
  if 0 < bytes ∧ 0 < amount then
    match settle env t req with
    | (t', .error err) => (t', .error (lit context ++ err))
    | (t', .ok _) => (t', .ok ())
  else (t, .ok ())

structure AnnounceEnv where
  upload : SettleEnv
  download : SettleEnv

def settleAnnounce (pt : PriceTable) (env : AnnounceEnv) (t : Tables) (a : AnnounceStats) :
    Tables × Except Bytes Unit :=
  match settleHalf env.upload t a.effectiveUploaded (pt.announceCredit a) (pt.uploadHalf a)
      "commons: settle upload credit: " with
  | (t', .error err) => (t', .error err)
  | (t', .ok ()) =>
    settleHalf env.download t' a.effectiveDownloaded (pt.announceCharge a) (pt.downloadHalf a)
      "commons: settle download charge: "

def settleAnnounces (pt : PriceTable) (t : Tables) (calls : List (AnnounceEnv × AnnounceStats)) : Tables :=
  calls.foldl (fun t c => (settleAnnounce pt c.1 t c.2).1) t

/-! ## Transaction ids -/

theorem announceTxnID_inj {u u' : UserID} {t t' : TorrentID} {n n' : Int64} {d d' : Bytes}
    (h : announceTxnID u t n d = announceTxnID u' t' n' d') :
    u = u' ∧ t = t' ∧ n / 1000000000 = n' / 1000000000 ∧ d = d' := by
  -- every field but the last is a number in front of a colon
  have hcol : ∀ (rest : Bytes), ∀ b ∈ (lit ":" ++ rest).head?, isDigit b = false := by
    intro rest b hb
    have hb' : b ∈ (58 :: rest).head? := hb
    obtain rfl : (58 : UInt8) = b := by simpa using hb'
    decide
  unfold announceTxnID at h
  rw [append_cancel_left_eq] at h
  obtain ⟨hu, h⟩ := numeral_append_inj h (hcol _) (hcol _)
  rw [append_cancel_left_eq] at h
  obtain ⟨ht, h⟩ := numeral_append_inj h (hcol _) (hcol _)
  rw [append_cancel_left_eq] at h
  obtain ⟨hn, h⟩ := integer_append_inj h (hcol _) (hcol _)
  rw [append_cancel_left_eq] at h
  exact ⟨UInt32.toNat_inj.1 hu, UInt32.toNat_inj.1 ht, Int64.toInt_inj.1 hn, h⟩

theorem announceTxnID_ne_nil (u : UserID) (t : TorrentID) (n : Int64) (d : Bytes) :
    announceTxnID u t n d ≠ [] := by
  intro h
  have hlen := congrArg length h
  have hlit : (lit "announce:").length = 9 := by decide +kernel
  rw [announceTxnID, length_append, hlit, length_nil] at hlen
  omega

def secondOf (a : AnnounceStats) : Int64 := unixNano a.timestamp / 1000000000

/-! ## Settlements -/

def SettleEnv.Healthy (env : SettleEnv) : Prop := ∀ stmt, stmt ≠ .updateBudget → env.fault stmt = none

variable {env : SettleEnv}

theorem settle_of_healthy (h : env.Healthy) (t : Tables) (req : Settlement) :
    ∃ t' res, settle env t req = (t', .ok res) :=
  settle_ok ⟨fun stmt hstmt => h stmt (by rintro rfl; revert hstmt; decide), fun _ => h _ (by decide)⟩

theorem settle_effect (h : env.Healthy) {req : Settlement} (hid : req.txnID ≠ []) (t : Tables) :
    (∀ k, (settle env t req).1.ledger.has k = true ↔ t.ledger.has k = true ∨ req.txnID = k) ∧
    ∀ u, (settle env t req).1.charged u =
      t.charged u + if t.ledger.has req.txnID = false ∧ req.accountID = u then req.charge else 0 := by
  have htxn : env.txnID req = req.txnID := if_neg hid
  obtain ⟨_, _, hok⟩ := settle_of_healthy h t req
  have hsettles := settle_settles env t req
  rw [hok] at hsettles ⊢
  cases hsettles with
  | repeated hhas =>
    rw [htxn] at hhas
    have hkeeps := Keeps.opened t req.accountID env.openedAt
    refine ⟨fun k => ?_, fun u => ?_⟩
    · rw [hkeeps.ledger]
      refine ⟨.inl, ?_⟩
      rintro (hk | rfl)
      · exact hk
      · exact hhas
    · rw [if_neg (fun hnew => by rw [hhas] at hnew; cases hnew.1), add_zero]
      exact hkeeps.charged u
  | recorded hrecs =>
    have hnew : t.ledger.has req.txnID = false := htxn ▸ hrecs.1
    have hkeeps := Keeps.opened t req.accountID env.openedAt
    have hopen : (t.opened req.accountID env.openedAt).ledger.has
        (req.row env (t.balanceOf req.accountID)).txnID = false := by
      rw [hkeeps.ledger]
      exact hrecs.1
    refine ⟨fun k => ?_, fun u => ?_⟩
    · rw [post, updateBalance_ledger, Journal.has_insertOrIgnore, hkeeps.ledger]
      show t.ledger.has k = true ∨ env.txnID req = k ↔ _
      rw [htxn]
    · show ((t.opened req.accountID env.openedAt).post _ env.updatedAt).charged u = _
      rw [post_charged env.updatedAt hopen, hkeeps.charged]
      simp only [hnew, true_and]
      rfl

def settleAll (t : Tables) (rs : List (SettleEnv × Settlement)) : Tables :=
  rs.foldl (fun t r => (settle r.1 t r.2).1) t

theorem charged_settleAll (budgets : List BudgetRow) (rs : List (SettleEnv × Settlement))
    (hhealthy : ∀ r ∈ rs, r.1.Healthy) (hid : ∀ r ∈ rs, r.2.txnID ≠ [])
    (hinj : ∀ r ∈ rs, ∀ r' ∈ rs, r.2.txnID = r'.2.txnID → r.2 = r'.2) :
    (∀ k, (settleAll (.initial budgets) rs).ledger.has k = true ↔ ∃ r ∈ rs, r.2.txnID = k) ∧
    ∀ u, (settleAll (.initial budgets) rs).charged u =
      ∑ q ∈ (rs.map Prod.snd).toFinset.filter (fun q => q.accountID = u), q.charge := by
  induction rs using reverseRecOn with
  | nil => exact ⟨fun k => by simp [settleAll, initial, Journal.has, Journal.empty], fun u => rfl⟩
  | append_singleton rs r ih =>
    obtain ⟨ihhas, ihcharged⟩ := ih (fun x hx => hhealthy x (by simp [hx]))
      (fun x hx => hid x (by simp [hx])) fun x hx y hy => hinj x (by simp [hx]) y (by simp [hy])
    obtain ⟨hhas, hcharged⟩ := settle_effect (hhealthy r (by simp)) (hid r (by simp))
      (settleAll (.initial budgets) rs)
    have hstep : settleAll (.initial budgets)
        (rs ++ [r]) = (settle r.1 (settleAll (.initial budgets) rs) r.2).1 := by
      simp [settleAll]
    rw [hstep]
    refine ⟨fun k => ?_, fun u => ?_⟩
    · rw [hhas, ihhas]
      simp only [mem_append, mem_singleton]
      constructor
      · rintro (⟨x, hx, hk⟩ | hk)
        · exact ⟨x, .inl hx, hk⟩
        · exact ⟨r, .inr rfl, hk⟩
      · rintro ⟨x, hx | rfl, hk⟩
        · exact .inl ⟨x, hx, hk⟩
        · exact .inr hk
    · rw [hcharged, ihcharged, map_append, toFinset_append, map_singleton]
      have hsingle : [r.2].toFinset = {r.2} := rfl
      rw [hsingle, Finset.union_comm, ← Finset.insert_eq, Finset.filter_insert]
      -- the id is taken exactly if the same settlement was made before
      have hseen : (settleAll (.initial budgets) rs).ledger.has r.2.txnID = true ↔
          r.2 ∈ (rs.map Prod.snd).toFinset := by
        rw [ihhas, mem_toFinset, mem_map]
        constructor
        · rintro ⟨x, hx, hk⟩
          exact ⟨x, hx, hinj x (by simp [hx]) r (by simp) hk⟩
        · rintro ⟨x, hx, hk⟩
          exact ⟨x, hx, by rw [hk]⟩
      by_cases hmem : r.2 ∈ (rs.map Prod.snd).toFinset
      · rw [hseen.2 hmem]
        by_cases hu : r.2.accountID = u
        · rw [if_pos hu, Finset.insert_eq_of_mem (Finset.mem_filter.2 ⟨hmem, hu⟩)]
          simp
        · rw [if_neg hu]
          simp
      · have hnew : (settleAll (.initial budgets) rs).ledger.has r.2.txnID = false := by
          rw [Bool.eq_false_iff]
          exact fun h => hmem (hseen.1 h)
        rw [hnew]
        by_cases hu : r.2.accountID = u
        · rw [if_pos hu, if_pos ⟨rfl, hu⟩, Finset.sum_insert (fun h => hmem (Finset.mem_filter.1 h).1), add_comm]
        · rw [if_neg hu, if_neg (fun h => hu h.2), add_zero]

/-! ## The halves of an announce -/

namespace PriceTable

variable (pt : PriceTable)

def halves (a : AnnounceStats) : List Settlement :=
  (if 0 < pt.announceCredit a then [pt.uploadHalf a] else []) ++
    if 0 < pt.announceCharge a then [pt.downloadHalf a] else []

def calls (c : AnnounceEnv × AnnounceStats) : List (SettleEnv × Settlement) :=
  (if 0 < pt.announceCredit c.2 then [(c.1.upload, pt.uploadHalf c.2)] else []) ++
    if 0 < pt.announceCharge c.2 then [(c.1.download, pt.downloadHalf c.2)] else []

theorem map_snd_calls (c : AnnounceEnv × AnnounceStats) : (pt.calls c).map Prod.snd = pt.halves c.2 := by
  unfold calls halves
  rw [map_append, apply_ite (map Prod.snd), apply_ite (map Prod.snd)]
  rfl

variable {pt : PriceTable} {a : AnnounceStats}

theorem uploaded_pos (h : 0 < pt.announceCredit a) : 0 < a.effectiveUploaded := by
  by_contra hle
  rw [announceCredit, creditForUpload, if_pos (Int64.not_lt.1 hle)] at h
  exact absurd h (by decide)

theorem downloaded_pos (h : 0 < pt.announceCharge a) : 0 < a.effectiveDownloaded := by
  by_contra hle
  rw [announceCharge, chargeForDownload, if_pos (Int64.not_lt.1 hle)] at h
  exact absurd h (by decide)

theorem mem_halves {q : Settlement} :
    q ∈ pt.halves a ↔ (0 < pt.announceCredit a ∧ q = pt.uploadHalf a) ∨
      (0 < pt.announceCharge a ∧ q = pt.downloadHalf a) := by
  unfold halves
  rw [mem_append]
  by_cases hup : 0 < pt.announceCredit a <;> by_cases hdown : 0 < pt.announceCharge a <;> simp [hup, hdown]

theorem mem_calls {c : AnnounceEnv × AnnounceStats} {r : SettleEnv × Settlement}
    (h : r ∈ pt.calls c) : (r.1 = c.1.upload ∨ r.1 = c.1.download) ∧ r.2 ∈ pt.halves c.2 := by
  refine ⟨?_, by rw [← map_snd_calls]; exact mem_map_of_mem h⟩
  unfold calls at h
  rw [mem_append] at h
  rcases h with h | h
  · split at h
    · rw [mem_singleton.1 h]
      exact .inl rfl
    · cases h
  · split at h
    · rw [mem_singleton.1 h]
      exact .inr rfl
    · cases h

theorem uploadHalf_ne_downloadHalf (pt : PriceTable) (a b : AnnounceStats) :
    pt.uploadHalf a ≠ pt.downloadHalf b := by
  intro h
  have hresource : resourceUpload = resourceDownload := congrArg Settlement.resourceType h
  exact absurd hresource (by decide +kernel)

end PriceTable

theorem settleHalf_of_healthy {env : SettleEnv} (h : env.Healthy) (t : Tables) (bytes : Int64)
    (amount : ComputeCredit) (req : Settlement) (context : String) : settleHalf env t bytes amount req context =
      (if 0 < bytes ∧ 0 < amount then (settle env t req).1 else t, .ok ()) := by
  unfold settleHalf
  split_ifs
  · obtain ⟨_, _, hok⟩ := settle_of_healthy h t req
    rw [hok]
  · rfl

variable {pt : PriceTable}

theorem settleAnnounce_eq {c : AnnounceEnv × AnnounceStats} (hup : c.1.upload.Healthy)
    (hdown : c.1.download.Healthy)
    (t : Tables) : (settleAnnounce pt c.1 t c.2).1 = settleAll t (pt.calls c) := by
  have hpos : (0 < c.2.effectiveUploaded ∧ 0 < pt.announceCredit c.2 ↔ 0 < pt.announceCredit c.2) ∧
      (0 < c.2.effectiveDownloaded ∧ 0 < pt.announceCharge c.2 ↔ 0 < pt.announceCharge c.2) :=
    ⟨and_iff_right_of_imp pt.uploaded_pos, and_iff_right_of_imp pt.downloaded_pos⟩
  unfold settleAnnounce
  rw [settleHalf_of_healthy hup]
  dsimp only
  rw [settleHalf_of_healthy hdown]
  simp only [hpos.1, hpos.2, settleAll, calls]
  split_ifs <;> rfl

theorem settleAnnounces_eq {cs : List (AnnounceEnv × AnnounceStats)}
    (h : ∀ c ∈ cs, c.1.upload.Healthy ∧ c.1.download.Healthy)
    (t : Tables) : settleAnnounces pt t cs = settleAll t (cs.flatMap pt.calls) := by
  induction cs generalizing t with
  | nil => rfl
  | cons c cs ih =>
    obtain ⟨hup, hdown⟩ := h c mem_cons_self
    have hrest := ih (fun x hx => h x (mem_cons_of_mem c hx)) (settleAnnounce pt c.1 t c.2).1
    rw [flatMap_cons, settleAll, foldl_append]
    show settleAnnounces pt (settleAnnounce pt c.1 t c.2).1 cs = _
    rw [hrest, settleAnnounce_eq hup hdown]
    rfl

structure Separated (pt : PriceTable) (as : List AnnounceStats) : Prop where
  nonneg : ∀ a ∈ as, 0 ≤ pt.announceCredit a ∧ 0 ≤ pt.announceCharge a
  apart : ∀ a ∈ as, ∀ b ∈ as, a.userID = b.userID → a.torrentID = b.torrentID →
    secondOf a = secondOf b → (0 < pt.announceCredit a ∧ 0 < pt.announceCredit b) ∨
      (0 < pt.announceCharge a ∧ 0 < pt.announceCharge b) → a = b

theorem Separated.inj {as : List AnnounceStats} (hsep : Separated pt as) {a b : AnnounceStats}
    (ha : a ∈ as) (hb : b ∈ as) {q q' : Settlement} (hq : q ∈ pt.halves a) (hq' : q' ∈ pt.halves b)
    (htxn : q.txnID = q'.txnID) : a = b ∧ q = q' := by
  have hcross : lit "up" ≠ lit "dl" := by decide +kernel
  rcases mem_halves.1 hq with ⟨hpos, rfl⟩ | ⟨hpos, rfl⟩ <;>
    rcases mem_halves.1 hq' with ⟨hpos', rfl⟩ | ⟨hpos', rfl⟩ <;>
    obtain ⟨huser, htor, hsecond, hdirection⟩ := announceTxnID_inj htxn
  · obtain rfl := hsep.apart a ha b hb huser htor hsecond (.inl ⟨hpos, hpos'⟩)
    exact ⟨rfl, rfl⟩
  · exact absurd hdirection hcross
  · exact absurd hdirection.symm hcross
  · obtain rfl := hsep.apart a ha b hb huser htor hsecond (.inr ⟨hpos, hpos'⟩)
    exact ⟨rfl, rfl⟩

theorem sum_halves {a : AnnounceStats} (h : 0 ≤ pt.announceCredit a ∧ 0 ≤ pt.announceCharge a)
    (u : UserID) : ∑ q ∈ (pt.halves a).toFinset.filter (fun q => q.accountID = u), q.charge =
      if a.userID = u then pt.announceCharge a - pt.announceCredit a else 0 := by
  have hzero : ∀ {x : ComputeCredit}, 0 ≤ x → ¬ 0 < x → x = 0 := fun hle hlt =>
    (Int64.le_antisymm hle (Int64.not_lt.1 hlt)).symm
  by_cases hu : a.userID = u
  · have hall : (pt.halves a).toFinset.filter (fun q => q.accountID = u) = (pt.halves a).toFinset := by
      apply Finset.filter_true_of_mem
      intro q hq
      rcases mem_halves.1 (mem_toFinset.1 hq) with ⟨-, rfl⟩ | ⟨-, rfl⟩ <;> exact hu
    rw [hall, if_pos hu]
    unfold halves
    have hne := pt.uploadHalf_ne_downloadHalf a a
    split_ifs with hup hdown hdown
    · rw [singleton_append, toFinset_cons, toFinset_cons, toFinset_nil, insert_empty_eq, Finset.sum_pair hne]
      show -pt.announceCredit a + pt.announceCharge a = _
      rw [add_comm, sub_eq_add_neg]
    · show (∑ q ∈ {pt.uploadHalf a}, q.charge) = _
      rw [Finset.sum_singleton, hzero h.2 hdown, zero_sub]
      rfl
    · show (∑ q ∈ {pt.downloadHalf a}, q.charge) = _
      rw [Finset.sum_singleton, hzero h.1 hup, sub_zero]
      rfl
    · rw [hzero h.1 hup, hzero h.2 hdown]
      rfl
  · have hnone : (pt.halves a).toFinset.filter (fun q => q.accountID = u) = ∅ := by
      apply Finset.filter_false_of_mem
      intro q hq
      rcases mem_halves.1 (mem_toFinset.1 hq) with ⟨-, rfl⟩ | ⟨-, rfl⟩ <;> exact hu
    rw [hnone, if_neg hu, Finset.sum_empty]

/-- **Every announce is settled exactly once**, if no database call fails and the announces are
separated: the total charged to an account is the sum of `ChargeForDownload` less `CreditForUpload`
over the distinct announces of its user, whatever the order of the calls and their repetitions. -/
theorem charged_of_separated (pt : PriceTable) (budgets : List BudgetRow)
    (calls : List (AnnounceEnv × AnnounceStats))
    (hhealthy : ∀ c ∈ calls, c.1.upload.Healthy ∧ c.1.download.Healthy)
    (hsep : Separated pt (calls.map Prod.snd)) (u : UserID) :
    (settleAnnounces pt (.initial budgets) calls).charged u =
      ∑ a ∈ (calls.map Prod.snd).toFinset.filter (fun a => a.userID = u),
          (pt.announceCharge a - pt.announceCredit a) := by
  have hof : ∀ r ∈ calls.flatMap pt.calls, ∃ c ∈ calls, r ∈ pt.calls c := fun r hr => mem_flatMap.1 hr
  have hmem : ∀ {c : AnnounceEnv × AnnounceStats}, c ∈ calls → c.2 ∈ calls.map Prod.snd := fun hc =>
    mem_map_of_mem hc
  rw [settleAnnounces_eq hhealthy]
  rw [(charged_settleAll budgets (calls.flatMap pt.calls) ?_ ?_ ?_).2 u]
  · -- the distinct settlements are those of the distinct announces
    have hunion : ((calls.flatMap pt.calls).map Prod.snd).toFinset =
        (calls.map Prod.snd).toFinset.biUnion fun a => (pt.halves a).toFinset := by
      ext q
      simp only [map_flatMap, map_snd_calls, mem_toFinset, mem_flatMap,
        Finset.mem_biUnion, mem_map, exists_exists_and_eq_and]
    rw [hunion, Finset.filter_biUnion, Finset.sum_biUnion, Finset.sum_filter]
    · apply Finset.sum_congr rfl
      intro a ha
      exact sum_halves (hsep.nonneg a (mem_toFinset.1 ha)) u
    · intro a ha b hb hab
      apply Finset.disjoint_filter_filter
      rw [Finset.disjoint_left]
      intro q hqa hqb
      exact hab (hsep.inj (mem_toFinset.1 ha) (mem_toFinset.1 hb) (mem_toFinset.1 hqa) (mem_toFinset.1 hqb) rfl).1
  · intro r hr
    obtain ⟨c, hc, hrc⟩ := hof r hr
    rcases (mem_calls hrc).1 with henv | henv
    · rw [henv]
      exact (hhealthy c hc).1
    · rw [henv]
      exact (hhealthy c hc).2
  · intro r hr
    obtain ⟨c, -, hrc⟩ := hof r hr
    rcases mem_halves.1 (mem_calls hrc).2 with ⟨-, hq⟩ | ⟨-, hq⟩
    · rw [hq]
      exact announceTxnID_ne_nil _ _ _ _
    · rw [hq]
      exact announceTxnID_ne_nil _ _ _ _
  · intro r hr r' hr' htxn
    obtain ⟨c, hc, hrc⟩ := hof r hr
    obtain ⟨_, hc', hrc'⟩ := hof r' hr'
    exact (hsep.inj (hmem hc) (hmem hc') (mem_calls hrc).2 (mem_calls hrc').2 htxn).2

namespace Sample

def announceEnv : AnnounceEnv := ⟨settleEnv, settleEnv⟩

theorem settleEnv_healthy : settleEnv.Healthy := fun _ _ => rfl

def gigabyte (nanos : Time) : AnnounceStats where
  userID := 7
  torrentID := 1
  effectiveUploaded := 0
  effectiveDownloaded := resourceGB
  seeders := 1
  leechers := 0
  isSeeder := false
  isStopped := false
  timestamp := nanos

def sameSecond : List (AnnounceEnv × AnnounceStats) :=
  [(announceEnv, gigabyte 1000000000), (announceEnv, gigabyte 1500000000), (announceEnv, gigabyte 1000000000)]

def secondsApart : List (AnnounceEnv × AnnounceStats) :=
  [(announceEnv, gigabyte 1000000000), (announceEnv, gigabyte 2000000000), (announceEnv, gigabyte 1000000000)]

end Sample

/-- **An announce is dropped**: of two gibibytes downloaded from two clients within a second, one is
charged. -/
theorem announce_dropped :
    ¬ ∀ (pt : PriceTable) (budgets : List BudgetRow) (calls : List (AnnounceEnv × AnnounceStats)),
      (∀ c ∈ calls, c.1.upload.Healthy ∧ c.1.download.Healthy) →
      (∀ a ∈ calls.map Prod.snd, ∀ b ∈ calls.map Prod.snd, a.userID = b.userID →
        a.torrentID = b.torrentID → unixNano a.timestamp = unixNano b.timestamp → a = b) →
      ∀ u, (settleAnnounces pt (.initial budgets) calls).charged u =
        ∑ a ∈ (calls.map Prod.snd).toFinset.filter (fun a => a.userID = u),
          (pt.announceCharge a - pt.announceCredit a) := by
  intro hclaim
  have hclaimed := hclaim defaultPriceTable [] sameSecond ?_ (by decide +kernel) 7
  · have hcharged : (settleAnnounces defaultPriceTable (.initial []) sameSecond).charged 7 = 50000000 := by
      decide +kernel
    have howed : ∑ a ∈ (sameSecond.map Prod.snd).toFinset.filter (fun a => a.userID = 7),
        (defaultPriceTable.announceCharge a - defaultPriceTable.announceCredit a) = 100000000 := by
      decide +kernel
    rw [hcharged, howed] at hclaimed
    exact absurd hclaimed (by decide)
  · intro c hc
    simp only [sameSecond, mem_cons, not_mem_nil, or_false] at hc
    rcases hc with rfl | rfl | rfl <;> exact ⟨settleEnv_healthy, settleEnv_healthy⟩

theorem charged_of_secondsApart : Separated defaultPriceTable (secondsApart.map Prod.snd) ∧
      (settleAnnounces defaultPriceTable (.initial []) secondsApart).charged 7 =
        ∑ a ∈ (secondsApart.map Prod.snd).toFinset.filter (fun a => a.userID = 7),
          (defaultPriceTable.announceCharge a - defaultPriceTable.announceCredit a) := by
  have hsep : Separated defaultPriceTable (secondsApart.map Prod.snd) := ⟨by decide +kernel, by decide +kernel⟩
  refine ⟨hsep, charged_of_separated defaultPriceTable [] secondsApart ?_ hsep 7⟩
  intro c hc
  simp only [secondsApart, mem_cons, not_mem_nil, or_false] at hc
  rcases hc with rfl | rfl | rfl <;> exact ⟨settleEnv_healthy, settleEnv_healthy⟩

end Ocelot.Commons
