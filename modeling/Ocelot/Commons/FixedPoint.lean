/-
# How far `MulFrac` is exact (`commons/credit.go`, `price.go`).
-/
import Ocelot.Commons.Price
import Mathlib.Tactic.Linarith
import Mathlib.Tactic.Ring

namespace Ocelot.Commons

open Int ComputeCredit

/-! ## Integers -/

section

variable {v n d : ℤ}

theorem tdiv_mul_split_of_nonneg (hv : 0 ≤ v) (hn : 0 ≤ n) (hd : 0 < d) :
    (v * n).tdiv d = v.tdiv d * n + (v.tmod d * n).tdiv d := by
  have hr : 0 ≤ v % d := emod_nonneg v hd.ne'
  have hsplit : v * n = v % d * n + v / d * n * d := by
    have hdiv := mul_ediv_add_emod v d
    calc v * n = (d * (v / d) + v % d) * n := by rw [hdiv]
      _ = v % d * n + v / d * n * d := by ring
  rw [tdiv_eq_ediv_of_nonneg (mul_nonneg hv hn), tdiv_eq_ediv_of_nonneg hv, tmod_eq_emod_of_nonneg hv,
    tdiv_eq_ediv_of_nonneg (mul_nonneg hr hn), hsplit, add_mul_ediv_right _ _ hd.ne']
  ring

theorem tdiv_mul_split (hn : 0 ≤ n) (hd : 0 < d) : (v * n).tdiv d = v.tdiv d * n + (v.tmod d * n).tdiv d := by
  rcases le_total 0 v with hv | hv
  · exact tdiv_mul_split_of_nonneg hv hn hd
  · have hneg := tdiv_mul_split_of_nonneg (neg_nonneg.2 hv) hn hd
    rw [neg_mul, Int.neg_tdiv, Int.neg_tdiv, Int.neg_tmod, neg_mul, neg_mul, Int.neg_tdiv] at hneg
    omega

theorem bmod_spec (x : ℤ) : ∃ k, x.bmod (2 ^ 64) = x - 2 ^ 64 * k ∧ -2 ^ 63 ≤ x.bmod (2 ^ 64) ∧
    x.bmod (2 ^ 64) < 2 ^ 63 := by
  have hlow : -(((2 ^ 64 : ℕ) : ℤ) / 2) ≤ x.bmod (2 ^ 64) := le_bmod (by decide)
  have hhigh : x.bmod (2 ^ 64) < (((2 ^ 64 : ℕ) : ℤ) + 1) / 2 := bmod_lt (by decide)
  refine ⟨x.bdiv (2 ^ 64), ?_, ?_, ?_⟩
  · exact_mod_cast bmod_eq_self_sub_mul_bdiv x (2 ^ 64)
  · omega
  · omega

theorem bmod_of_range {x : ℤ} (hlow : -2 ^ 63 ≤ x) (hhigh : x < 2 ^ 63) : x.bmod (2 ^ 64) = x := by
  obtain ⟨k, _, _, _⟩ := bmod_spec x
  omega

theorem tdiv_range {w : ℤ} (hlow : -2 ^ 63 ≤ w) (hhigh : w < 2 ^ 63) (hd : 0 < d) :
    -2 ^ 63 ≤ w.tdiv d ∧ w.tdiv d < 2 ^ 63 := by
  have habs : (w.tdiv d).natAbs ≤ w.natAbs := natAbs_tdiv_le_natAbs w d
  rcases le_or_gt 0 w with hw | hw
  · have hpos : 0 ≤ w.tdiv d := Int.tdiv_nonneg hw hd.le
    omega
  · have hneg : 0 ≤ (-w).tdiv d := Int.tdiv_nonneg (by omega) hd.le
    rw [Int.neg_tdiv] at hneg
    omega

end

/-! ## Where nothing overflows -/

namespace ComputeCredit

def exactMulFrac (c num denom : ℤ) : ℤ := min ((c * num).tdiv denom) maxCredit.toInt

def Exact (c : ComputeCredit) (num denom : Int64) : Prop :=
  (c.mulFrac num denom).toInt = exactMulFrac c.toInt num.toInt denom.toInt

instance (c : ComputeCredit) (num denom : Int64) :
    Decidable (c.Exact num denom) := inferInstanceAs (Decidable (_ = _))

/-- **Nothing wraps and nothing is to be clamped**: the product of the remainder with the multiplier
is an `int64`, and the rounded quotient is one that is at most `MaxCredit`. -/
structure NoOverflow (c num denom : ℤ) : Prop where
  remainder : -2 ^ 63 ≤ c.tmod denom * num ∧ c.tmod denom * num < 2 ^ 63
  quotient : -2 ^ 63 ≤ (c * num).tdiv denom ∧ (c * num).tdiv denom ≤ maxCredit.toInt

theorem toInt_maxCredit : maxCredit.toInt = 9200000000000 := by decide

variable {num denom : Int64} {c : ComputeCredit} {a n d : ℤ}

theorem toInt_mulFrac (c : ComputeCredit) (hn : 0 < num.toInt) (hd : 0 < denom.toInt) :
    (c.mulFrac num denom).toInt =
      (c.toInt.tdiv denom.toInt * num.toInt +
        ((c.toInt.tmod denom.toInt * num.toInt).bmod (2 ^ 64)).tdiv denom.toInt).bmod (2 ^ 64) := by
  have hone : denom ≠ -1 := by
    rintro rfl
    exact absurd hd (by decide)
  have hnum : num ≠ 0 := by
    rintro rfl
    exact absurd hn (by decide)
  unfold mulFrac
  by_cases hc : c = 0
  · subst hc
    rw [if_pos (Or.inr rfl)]
    simp
  · rw [if_neg (by tauto)]
    simp only [Int64.toInt_add, Int64.toInt_mul, Int64.toInt_mod,
      Int64.toInt_div_of_ne_right _ _ hone, bmod_add_bmod]

theorem exact_of_noOverflow (hn : 0 < num.toInt) (hd : 0 < denom.toInt)
    (h : NoOverflow c.toInt num.toInt denom.toInt) : c.Exact num denom := by
  have hmax := toInt_maxCredit
  have hsplit := tdiv_mul_split (v := c.toInt) hn.le hd
  unfold Exact exactMulFrac
  rw [toInt_mulFrac c hn hd, bmod_of_range h.remainder.1 h.remainder.2, ← hsplit,
    bmod_of_range h.quotient.1 (by have := h.quotient.2; omega), min_eq_left h.quotient.2]

theorem debit_fits (hn : 0 < n) (hn' : n < 2 ^ 63) (hd : 0 < d) (hd' : d < 2 ^ 63)
    (h : (-(a / d) * n + ((-(a % d) * n).bmod (2 ^ 64)).tdiv d).bmod (2 ^ 64) = -(a / d * n + a % d * n / d)) :
    a % d * n ≤ 2 ^ 63 ∧ a / d * n + a % d * n / d ≤ 2 ^ 63 := by
  have hr : 0 ≤ a % d := emod_nonneg a hd.ne'
  have hP : 0 ≤ a % d * n := mul_nonneg hr hn.le
  have hT : 0 ≤ a % d * n / d := ediv_nonneg hP hd.le
  have hTn : a % d * n / d < n := by
    apply Int.ediv_lt_of_lt_mul hd
    have hrd : a % d < d := Int.emod_lt_of_pos a hd
    nlinarith
  rw [neg_mul, neg_mul] at h
  generalize a / d * n = G, a % d * n = P at *
  obtain ⟨j, _, hWlow, hWhigh⟩ := bmod_spec (-P)
  generalize (-P).bmod (2 ^ 64) = W at *
  have hrange := tdiv_range hWlow hWhigh hd
  obtain ⟨k, hk, hklow, -⟩ := bmod_spec (-G + W.tdiv d)
  rw [h] at hk hklow
  -- the two quotients are less than one period apart
  have hquot : W.tdiv d = -(P / d) := by omega
  refine ⟨?_, by omega⟩
  by_contra hlarge
  have hone : 1 ≤ P / d := by
    apply (Int.le_ediv_iff_mul_le hd).2
    omega
  have hneg : W < 0 := by
    by_contra hpos
    have := Int.tdiv_nonneg (not_lt.1 hpos) hd.le
    omega
  have hW : -W / d = P / d := by
    rw [← Int.tdiv_eq_ediv_of_nonneg (by omega), Int.neg_tdiv, hquot, neg_neg]
  have hstep : (-W + 1 * d) / d ≤ P / d := Int.ediv_le_ediv hd (by omega)
  rw [add_mul_ediv_right _ _ hd.ne'] at hstep
  omega

theorem credit_fits_step {M : ℤ} (ha : 0 ≤ a) (haM : a ≤ M) (hM : M = 9200000000000) (hn : 0 ≤ n)
    (hd : 0 < d) (hd' : d < 2 ^ 63) (hP : a % d * n < 2 ^ 63) (hE : a * n / d ≤ M)
    (h : (a / d * (n + 1) + ((a % d * (n + 1)).bmod (2 ^ 64)).tdiv d).bmod (2 ^ 64) = min (a * (n + 1) / d) M) :
    a % d * (n + 1) < 2 ^ 63 ∧ a * (n + 1) / d ≤ M := by
  have hr : 0 ≤ a % d := emod_nonneg a hd.ne'
  have hq : 0 ≤ a / d := ediv_nonneg ha hd.le
  have hra : a % d ≤ a := by
    have hdiv := mul_ediv_add_emod a d
    have hpos : 0 ≤ d * (a / d) := mul_nonneg hd.le hq
    omega
  have hsplit : ∀ m : ℤ, 0 ≤ m → a * m / d = a / d * m + a % d * m / d := by
    intro m hm
    have hs := tdiv_mul_split_of_nonneg ha hm hd
    rwa [tdiv_eq_ediv_of_nonneg (mul_nonneg ha hm), tdiv_eq_ediv_of_nonneg ha,
      tmod_eq_emod_of_nonneg ha, tdiv_eq_ediv_of_nonneg (mul_nonneg hr hm)] at hs
  have hT : 0 ≤ a % d * n / d := ediv_nonneg (mul_nonneg hr hn) hd.le
  have hnext : 0 ≤ a % d * (n + 1) := mul_nonneg hr (by omega)
  have hT' : 0 ≤ a % d * (n + 1) / d := ediv_nonneg hnext hd.le
  have hgrow : a * (n + 1) / d ≤ a * n / d + a := by
    apply lt_add_one_iff.1
    apply Int.ediv_lt_of_lt_mul hd
    have hlast := Int.lt_ediv_add_one_mul_self (a * n) hd
    nlinarith
  have hPn : a % d * (n + 1) = a % d * n + a % d := by ring
  have hQn : a / d * (n + 1) = a / d * n + a / d := by ring
  have hQ : 0 ≤ a / d * n := mul_nonneg hq hn
  rw [hsplit n hn] at hE hgrow
  rw [hsplit (n + 1) (by omega)] at h hgrow ⊢
  by_cases hwrap : a % d * (n + 1) < 2 ^ 63
  · refine ⟨hwrap, ?_⟩
    rw [bmod_of_range (by omega) hwrap, tdiv_eq_ediv_of_nonneg hnext, bmod_of_range (by omega) (by omega)] at h
    omega
  · exfalso
    obtain ⟨k, _, hlow, hhigh⟩ := bmod_spec (a % d * (n + 1))
    generalize (a % d * (n + 1)).bmod (2 ^ 64) = W at *
    -- the product has wrapped once, to almost the lowest value
    have hW : -W = 2 ^ 64 - a % d * (n + 1) := by omega
    have hneg : W.tdiv d = -(-W / d) := by
      rw [← Int.tdiv_eq_ediv_of_nonneg (by omega), Int.neg_tdiv, neg_neg]
    obtain ⟨_, -⟩ := tdiv_range hlow hhigh hd
    have hU : 0 ≤ -W / d := ediv_nonneg (by omega) hd.le
    have hone : 1 ≤ a % d * (n + 1) / d := by
      apply (Int.le_ediv_iff_mul_le hd).2
      omega
    rw [bmod_of_range (by omega) (by omega)] at h
    have hlim : -W / d ≤ a / d := by omega
    rcases le_or_gt d a with hda | hda
    · have hstep : (a + 1 * d) / d ≤ -W / d := Int.ediv_le_ediv hd (by omega)
      rw [add_mul_ediv_right _ _ hd.ne'] at hstep
      omega
    · have hzero : a / d = 0 := ediv_eq_zero_of_lt ha hda
      rw [hzero, zero_mul] at h
      omega

theorem noOverflow_of_nonneg (ha : 0 ≤ a) (hn : 0 ≤ n) (hd : 0 < d) (hP : a % d * n < 2 ^ 63)
    (hE : a * n / d ≤ maxCredit.toInt) : NoOverflow a n d := by
  have hr : 0 ≤ a % d * n := mul_nonneg (emod_nonneg a hd.ne') hn
  have hq : 0 ≤ a * n / d := ediv_nonneg (mul_nonneg ha hn) hd.le
  constructor
  · rw [tmod_eq_emod_of_nonneg ha]
    omega
  · rw [tdiv_eq_ediv_of_nonneg (mul_nonneg ha hn)]
    omega

theorem noOverflow_of_exact_of_neg (hc : c.toInt < 0) (hn : 0 < num.toInt)
    (hd : 0 < denom.toInt) (h : c.Exact num denom) : NoOverflow c.toInt num.toInt denom.toInt := by
  have hM := toInt_maxCredit
  unfold Exact exactMulFrac at h
  rw [toInt_mulFrac c hn hd, tdiv_mul_split hn.le hd] at h
  obtain ⟨a, ha⟩ : ∃ a, c.toInt = -a := ⟨-c.toInt, by omega⟩
  have ha0 : 0 ≤ a := by omega
  have hP : 0 ≤ a % denom.toInt * num.toInt := mul_nonneg (emod_nonneg a hd.ne') hn.le
  have hQ : 0 ≤ a / denom.toInt * num.toInt := mul_nonneg (ediv_nonneg ha0 hd.le) hn.le
  have hT : 0 ≤ a % denom.toInt * num.toInt / denom.toInt := ediv_nonneg hP hd.le
  have hdiv : c.toInt.tdiv denom.toInt = -(a / denom.toInt) := by
    rw [ha, Int.neg_tdiv, Int.tdiv_eq_ediv_of_nonneg ha0]
  have hmod : c.toInt.tmod denom.toInt = -(a % denom.toInt) := by
    rw [ha, neg_tmod, tmod_eq_emod_of_nonneg ha0]
  have hpart : (c.toInt.tmod denom.toInt * num.toInt).tdiv denom.toInt =
      -(a % denom.toInt * num.toInt / denom.toInt) := by
    rw [hmod, neg_mul, Int.neg_tdiv, Int.tdiv_eq_ediv_of_nonneg hP]
  rw [hpart, hdiv, hmod, min_eq_left (by rw [neg_mul]; omega)] at h
  have hfits := debit_fits hn (Int64.toInt_lt num) hd (Int64.toInt_lt denom) (h.trans (by ring))
  constructor
  · rw [hmod, neg_mul]
    omega
  · rw [tdiv_mul_split hn.le hd, hpart, hdiv, neg_mul]
    omega

theorem noOverflow_of_exact_of_nonneg (hc : 0 ≤ c.toInt) (hmax : c.toInt ≤ maxCredit.toInt)
    (hn : 0 < num.toInt) (hd : 0 < denom.toInt) (h : ∀ n : Int64, 0 < n → n ≤ num →
    c.Exact n denom) : NoOverflow c.toInt num.toInt denom.toInt := by
  have hM := toInt_maxCredit
  have hnlt := Int64.toInt_lt num
  have hupto : ∀ m : ℕ, (m : ℤ) ≤ num.toInt →
      c.toInt % denom.toInt * m < 2 ^ 63 ∧ c.toInt * m / denom.toInt ≤ maxCredit.toInt := by
    intro m
    induction m with
    | zero =>
      intro _
      simp only [Nat.cast_zero, mul_zero, zero_ediv]
      omega
    | succ m ih =>
      intro hm
      obtain ⟨hP, hE⟩ := ih (by omega)
      have hnext : (Int64.ofInt (m + 1)).toInt = m + 1 := Int64.toInt_ofInt_of_le (by omega) (by omega)
      have hpos : 0 < Int64.ofInt (m + 1) := by
        rw [Int64.lt_iff_toInt_lt, hnext, Int64.toInt_zero]
        omega
      have hle : Int64.ofInt (m + 1) ≤ num := by
        rw [Int64.le_iff_toInt_le, hnext]
        exact hm
      have hexact := h (Int64.ofInt (m + 1)) hpos hle
      unfold Exact exactMulFrac at hexact
      rw [toInt_mulFrac c (by omega) hd, hnext, tdiv_eq_ediv_of_nonneg hc,
        tmod_eq_emod_of_nonneg hc, tdiv_eq_ediv_of_nonneg (mul_nonneg hc (by omega))] at hexact
      exact credit_fits_step hc hmax hM (by omega) hd (Int64.toInt_lt denom) hP hE hexact
  have hlast := hupto num.toInt.toNat (by omega)
  rw [toNat_of_nonneg hn.le] at hlast
  exact noOverflow_of_nonneg hc hn.le hd hlast.1 hlast.2

theorem NoOverflow.mono {c m : ℤ} (hm : 0 ≤ m) (hmn : m ≤ n) (hd : 0 < d) (h : NoOverflow c n d) :
    NoOverflow c m d := by
  have hM := toInt_maxCredit
  obtain ⟨⟨hrlow, hrhigh⟩, hqlow, hqhigh⟩ := h
  rcases le_total 0 c with hc | hc
  · have hr : 0 ≤ c % d := emod_nonneg c hd.ne'
    rw [tmod_eq_emod_of_nonneg hc] at hrhigh
    rw [tdiv_eq_ediv_of_nonneg (mul_nonneg hc (by omega))] at hqhigh
    refine noOverflow_of_nonneg hc hm hd ?_ ?_
    · exact (mul_le_mul_of_nonneg_left hmn hr).trans_lt hrhigh
    · exact (Int.ediv_le_ediv hd (mul_le_mul_of_nonneg_left hmn hc)).trans hqhigh
  · obtain ⟨a, rfl⟩ : ∃ a, c = -a := ⟨-c, by omega⟩
    have ha : 0 ≤ a := by omega
    have hr : 0 ≤ a % d := emod_nonneg a hd.ne'
    have hrm : a % d * m ≤ a % d * n := mul_le_mul_of_nonneg_left hmn hr
    have hqm : a * m / d ≤ a * n / d := Int.ediv_le_ediv hd (mul_le_mul_of_nonneg_left hmn ha)
    have hr0 : 0 ≤ a % d * m := mul_nonneg hr hm
    have hq0 : 0 ≤ a * m / d := ediv_nonneg (mul_nonneg ha hm) hd.le
    rw [neg_tmod, tmod_eq_emod_of_nonneg ha, neg_mul] at hrlow
    rw [neg_mul, Int.neg_tdiv, Int.tdiv_eq_ediv_of_nonneg (mul_nonneg ha (by omega))] at hqlow
    constructor
    · rw [neg_tmod, tmod_eq_emod_of_nonneg ha, neg_mul]
      omega
    · rw [neg_mul, Int.neg_tdiv, Int.tdiv_eq_ediv_of_nonneg (mul_nonneg ha hm)]
      omega

end ComputeCredit

/-! ## Charges and credits -/

def metered (price : ComputeCredit) (bytes : Int64) : ComputeCredit :=
  if bytes ≤ 0 then 0 else price.mulFrac bytes resourceGB

theorem chargeForDownload_eq_metered (pt : PriceTable) (bytes seeders leechers : Int64) :
    pt.chargeForDownload bytes seeders leechers = metered (pt.effectiveForDownload seeders leechers) bytes := rfl

theorem creditForUpload_eq_metered (pt : PriceTable) (bytes seeders leechers : Int64) :
    pt.creditForUpload bytes seeders leechers = metered (pt.effectiveForUpload seeders leechers) bytes := rfl

theorem toInt_metered {price : ComputeCredit} {limit bytes : Int64} (hprice : 0 ≤ price.toInt)
    (h : NoOverflow price.toInt limit.toInt resourceGB.toInt) (hbytes : bytes ≤ limit) :
    (metered price bytes).toInt = price.toInt * max bytes.toInt 0 / 1073741824 := by
  have hGB : resourceGB.toInt = 1073741824 := by decide
  rw [Int64.le_iff_toInt_le] at hbytes
  unfold metered
  split_ifs with hzero
  · rw [Int64.le_iff_toInt_le, Int64.toInt_zero] at hzero
    rw [max_eq_right hzero]
    simp
  · rw [Int64.le_iff_toInt_le, Int64.toInt_zero, not_le] at hzero
    have hsmaller := h.mono hzero.le hbytes (by omega)
    have hexact := exact_of_noOverflow hzero (by omega) hsmaller
    unfold Exact exactMulFrac at hexact
    rw [hexact, min_eq_left hsmaller.quotient.2, max_eq_left hzero.le, hGB,
      tdiv_eq_ediv_of_nonneg (mul_nonneg hprice hzero.le)]

theorem metered_mono {price : ComputeCredit} {limit : Int64} (hprice : 0 ≤ price.toInt)
    (h : NoOverflow price.toInt limit.toInt resourceGB.toInt) {a b : Int64} (hab : a ≤ b)
    (hb : b ≤ limit) : 0 ≤ metered price a ∧ metered price a ≤ metered price b := by
  have hab' := Int64.le_iff_toInt_le.1 hab
  rw [Int64.le_iff_toInt_le, Int64.le_iff_toInt_le, Int64.toInt_zero, toInt_metered hprice h hb,
    toInt_metered hprice h (Int64.le_trans hab hb)]
  constructor
  · exact ediv_nonneg (mul_nonneg hprice (le_max_right _ _)) (by omega)
  · apply Int.ediv_le_ediv (by omega)
    exact mul_le_mul_of_nonneg_left (max_le_max_right 0 hab') hprice

open ComputeCredit in
/-- **Exact up to an overflow, and only up to it.** -/
theorem mulFrac_exact_iff (c : ComputeCredit) (num denom : Int64) (hmax : c ≤ maxCredit)
    (hnum : 0 < num) (hdenom : 0 < denom) :
    ((∀ n : Int64, 0 < n → n ≤ num → c.Exact n denom) ↔ NoOverflow c.toInt num.toInt denom.toInt) ∧
      ∀ (pt : PriceTable) (seeders leechers a b limit : Int64), a ≤ b → b ≤ limit →
        (0 ≤ pt.effectiveForDownload seeders leechers →
          NoOverflow (pt.effectiveForDownload seeders leechers).toInt limit.toInt resourceGB.toInt →
          0 ≤ pt.chargeForDownload a seeders leechers ∧
            pt.chargeForDownload a seeders leechers ≤ pt.chargeForDownload b seeders leechers) ∧
        (0 ≤ pt.effectiveForUpload seeders leechers →
          NoOverflow (pt.effectiveForUpload seeders leechers).toInt limit.toInt resourceGB.toInt →
          0 ≤ pt.creditForUpload a seeders leechers ∧
            pt.creditForUpload a seeders leechers ≤ pt.creditForUpload b seeders leechers) := by
  rw [Int64.lt_iff_toInt_lt, Int64.toInt_zero] at hnum hdenom
  refine ⟨⟨fun h => ?_, fun h n hn hle => ?_⟩, ?_⟩
  · rcases lt_or_ge c.toInt 0 with hc | hc
    · have hlast := h num (Int64.lt_iff_toInt_lt.2 (by rwa [Int64.toInt_zero])) (Int64.le_refl num)
      exact noOverflow_of_exact_of_neg hc hnum hdenom hlast
    · exact noOverflow_of_exact_of_nonneg hc (Int64.le_iff_toInt_le.1 hmax) hnum hdenom h
  · rw [Int64.lt_iff_toInt_lt, Int64.toInt_zero] at hn
    exact exact_of_noOverflow hn hdenom (h.mono hn.le (Int64.le_iff_toInt_le.1 hle) hdenom)
  · intro pt seeders leechers a b limit hab hb
    refine ⟨fun hprice h => ?_, fun hprice h => ?_⟩
    · rw [Int64.le_iff_toInt_le, Int64.toInt_zero] at hprice
      rw [chargeForDownload_eq_metered, chargeForDownload_eq_metered]
      exact metered_mono hprice h hab hb
    · rw [Int64.le_iff_toInt_le, Int64.toInt_zero] at hprice
      rw [creditForUpload_eq_metered, creditForUpload_eq_metered]
      exact metered_mono hprice h hab hb

open ComputeCredit in
theorem mulFrac_exact_hundred_gib : (∀ n : Int64, 0 < n → n ≤ 107374182400 →
      (fromCC 50).Exact n resourceGB) ∧ 0 ≤ defaultPriceTable.chargeForDownload 1073741824 10 0 ∧
        defaultPriceTable.chargeForDownload 1073741824 10 0 ≤
          defaultPriceTable.chargeForDownload 107374182400 10 0 := by
  have hfits : NoOverflow (fromCC 50).toInt (107374182400 : Int64).toInt resourceGB.toInt := ⟨by decide, by decide⟩
  have hprice : defaultPriceTable.effectiveForDownload 10 0 = fromCC 50 := by decide +kernel
  have h := mulFrac_exact_iff (fromCC 50) 107374182400 resourceGB (by decide) (by decide) (by decide)
  refine ⟨h.1.2 hfits, ?_⟩
  apply (h.2 defaultPriceTable 10 0 1073741824 107374182400 107374182400 (by decide) (by decide)).1
  · rw [hprice]
    decide
  · rw [hprice]
    exact hfits

open ComputeCredit in
/-- Two hundred gibibytes at the default price are charged a negative amount, and twice the largest
credit is not limited. -/
theorem mulFrac_wraps :
    ¬ (fromCC 50).Exact 214748364800 resourceGB ∧
      defaultPriceTable.chargeForDownload 214748364800 10 0 < 0 ∧ ¬ maxCredit.Exact 2 1 := by
  decide +kernel

end Ocelot.Commons
