/-
# The scarcity multiplier and the effective price.

Within the configured ranges no product wraps around, so each step is its quotient over the integers.
-/
import Ocelot.Commons.FixedPoint

namespace Ocelot.Commons

open Int ComputeCredit

theorem ediv_le_ediv_of_le {a a' b b' : ℤ} (ha : 0 ≤ a) (haa : a ≤ a') (hb : 0 < b')
    (hbb : b' ≤ b) : a / b ≤ a' / b' := by
  rw [Int.le_ediv_iff_mul_le hb]
  have hq : 0 ≤ a / b := ediv_nonneg ha (by omega)
  calc a / b * b' ≤ a / b * b := mul_le_mul_of_nonneg_left hbb hq
    _ ≤ a := Int.ediv_mul_le a (by omega)
    _ ≤ a' := haa

theorem toInt_div_of_nonneg {a b : Int64} (ha : 0 ≤ a.toInt) (hb : 0 < b.toInt) :
    (a / b).toInt = a.toInt / b.toInt := by
  have hlow := ediv_nonneg ha hb.le
  have hhigh := (ediv_le_self b.toInt ha).trans_lt (Int64.toInt_lt a)
  rw [Int64.toInt_div, tdiv_eq_ediv_of_nonneg ha]
  exact bmod_of_range (by omega) hhigh

theorem toInt_mulFrac_of_fits {c : ComputeCredit} {num denom : Int64} (hc : 0 ≤ c.toInt)
    (hn : 0 < num.toInt) (hd : 0 < denom.toInt) (hrem : c.toInt % denom.toInt * num.toInt < 2 ^ 63)
    (hquot : c.toInt * num.toInt / denom.toInt < 2 ^ 63) :
    (c.mulFrac num denom).toInt = c.toInt * num.toInt / denom.toInt := by
  have hprod : 0 ≤ c.toInt * num.toInt := mul_nonneg hc hn.le
  have hrem0 : 0 ≤ c.toInt % denom.toInt * num.toInt := mul_nonneg (emod_nonneg _ hd.ne') hn.le
  have hquot0 : 0 ≤ c.toInt * num.toInt / denom.toInt := ediv_nonneg hprod hd.le
  have hsplit := tdiv_mul_split_of_nonneg hc hn.le hd
  rw [tmod_eq_emod_of_nonneg hc, tdiv_eq_ediv_of_nonneg hprod] at hsplit
  rw [toInt_mulFrac c hn hd, tmod_eq_emod_of_nonneg hc, bmod_of_range (by omega) hrem, ← hsplit]
  exact bmod_of_range (by omega) hquot

theorem toInt_mulFrac_of_lt {c : ComputeCredit} {num denom : Int64} (hc : 0 ≤ c.toInt)
    (hn : 0 < num.toInt) (hd : 0 < denom.toInt) (h : c.toInt * num.toInt < 2 ^ 63) :
    (c.mulFrac num denom).toInt = c.toInt * num.toInt / denom.toInt := by
  refine toInt_mulFrac_of_fits hc hn hd (lt_of_le_of_lt ?_ h)
    ((ediv_le_self _ (mul_nonneg hc hn.le)).trans_lt h)
  refine mul_le_mul_of_nonneg_right ?_ hn.le
  rw [emod_def]
  exact sub_le_self _ (mul_nonneg hd.le (ediv_nonneg hc hd.le))

/-- Utilisation in thousandths. -/
def utilisation (s l : ℤ) : ℤ := l * 1000 / (s + l + 1)

variable {s s' l l' : ℤ}

theorem utilisation_range (hs : 0 ≤ s) (hl : 0 ≤ l) : 0 ≤ utilisation s l ∧ utilisation s l ≤ 999 := by
  refine ⟨ediv_nonneg (by omega) (by omega), ?_⟩
  have hlt : l * 1000 / (s + l + 1) < 1000 := Int.ediv_lt_of_lt_mul (by omega) (by omega)
  unfold utilisation
  omega

theorem utilisation_mono (hs : 0 ≤ s) (hss : s ≤ s') (hl : 0 ≤ l) (hll : l ≤ l') :
    utilisation s' l ≤ utilisation s l' := by
  have hmore : utilisation s l ≤ utilisation s l' := by
    have hu := utilisation_range hs hl
    have hmul : utilisation s l * (s + l + 1) ≤ l * 1000 := Int.ediv_mul_le _ (by omega)
    have hstep : utilisation s l * (l' - l) ≤ 1000 * (l' - l) := mul_le_mul_of_nonneg_right (by omega) (by omega)
    unfold utilisation at hmul hstep ⊢
    rw [Int.le_ediv_iff_mul_le (by omega)]
    linarith
  exact (ediv_le_ediv_of_le (by omega) le_rfl (by omega) (by omega)).trans hmore

/-- The multiplier before its clamps, for a scarcity factor `f`. -/
def rawMultiplier (f s l : ℤ) : ℤ := 1000 + f * utilisation s l / (1000 - utilisation s l)

theorem rawMultiplier_mono {f : ℤ} (hf : 0 ≤ f) (hs : 0 ≤ s) (hss : s ≤ s') (hl : 0 ≤ l)
    (hll : l ≤ l') : rawMultiplier f s' l ≤ rawMultiplier f s l' := by
  have hu := utilisation_mono hs hss hl hll
  have hlow := utilisation_range (hs.trans hss) hl
  have hhigh := utilisation_range hs (hl.trans hll)
  unfold rawMultiplier
  gcongr
  exact ediv_le_ediv_of_le (mul_nonneg hf hlow.1) (mul_le_mul_of_nonneg_left hu hf) (by omega) (by omega)

namespace PriceTable

variable {pt : PriceTable} {seeders leechers : Int64}

def multiplierCap (pt : PriceTable) : Int64 :=
  if pt.maxScarcityMultiplier ≤ 1000 then 3000 else pt.maxScarcityMultiplier

/-- What the operator may configure, whatever the prices. -/
structure Tame (pt : PriceTable) : Prop where
  factor : 0 ≤ pt.scarcityFactor.toInt ∧ pt.scarcityFactor.toInt ≤ 1000000000
  cap : pt.maxScarcityMultiplier.toInt ≤ 1000000

/-- The number of seeders or of leechers of a swarm. -/
def Counts (n : Int64) : Prop := 0 ≤ n.toInt ∧ n.toInt < 2 ^ 31

theorem toInt_thousand : (1000 : Int64).toInt = 1000 := by decide

theorem multiplierCap_range (h : pt.Tame) : 1000 < pt.multiplierCap.toInt ∧ pt.multiplierCap.toInt ≤ 1000000 := by
  unfold multiplierCap
  split_ifs with hsmall
  · decide
  · rw [Int64.le_iff_toInt_le, toInt_thousand] at hsmall
    exact ⟨not_le.1 hsmall, h.cap⟩

theorem toInt_utilisation (hs : Counts seeders) (hl : Counts leechers) :
    (leechers * 1000 / (seeders + leechers + 1)).toInt = utilisation seeders.toInt leechers.toInt := by
  obtain ⟨hs0, _⟩ := hs
  obtain ⟨hl0, _⟩ := hl
  have hsum : (seeders + leechers).toInt = seeders.toInt + leechers.toInt := by
    rw [Int64.toInt_add]
    exact bmod_of_range (by omega) (by omega)
  have htot : (seeders + leechers + 1).toInt = seeders.toInt + leechers.toInt + 1 := by
    rw [Int64.toInt_add, hsum, Int64.toInt_one]
    exact bmod_of_range (by omega) (by omega)
  have hmul : (leechers * 1000).toInt = leechers.toInt * 1000 := by
    rw [Int64.toInt_mul, toInt_thousand]
    exact bmod_of_range (by omega) (by omega)
  obtain ⟨hlow, hhigh⟩ := utilisation_range hs0 hl0
  rw [Int64.toInt_div, hmul, htot, tdiv_eq_ediv_of_nonneg (by omega)]
  unfold utilisation at hlow hhigh ⊢
  exact bmod_of_range (by omega) (by omega)

theorem toInt_scarcityMultiplierMillis (h : pt.Tame) (hs : Counts seeders) (hl : Counts leechers) :
    (pt.scarcityMultiplierMillis seeders leechers).toInt =
      max 1000 (min pt.multiplierCap.toInt
          (rawMultiplier pt.scarcityFactor.toInt seeders.toInt leechers.toInt)) := by
  have hu := toInt_utilisation hs hl
  have hrange := utilisation_range hs.1 hl.1
  obtain ⟨hf0, hf1⟩ := h.factor
  have hcap := multiplierCap_range h
  unfold scarcityMultiplierMillis
  dsimp only
  set u := leechers * 1000 / (seeders + leechers + 1)
  have hden : (1000 - u).toInt = 1000 - u.toInt := by
    simp (disch := omega) only [Int64.toInt_sub, toInt_thousand, bmod_of_range]
  have hpos : ¬ 1000 - u ≤ 0 := by
    rw [Int64.le_iff_toInt_le, hden, Int64.toInt_zero]
    omega
  have hprod0 : 0 ≤ pt.scarcityFactor.toInt * u.toInt := mul_nonneg hf0 (by omega)
  have hprod1 : pt.scarcityFactor.toInt * u.toInt ≤ 1000000000 * 999 :=
    mul_le_mul hf1 (by omega) (by omega) (by omega)
  have hprod : (pt.scarcityFactor * u).toInt = pt.scarcityFactor.toInt * u.toInt := by
    simp (disch := omega) only [Int64.toInt_mul, bmod_of_range]
  have hq0 : 0 ≤ pt.scarcityFactor.toInt * u.toInt / (1000 - u.toInt) := ediv_nonneg hprod0 (by omega)
  have hq1 := ediv_le_self (1000 - u.toInt) hprod0
  have hquot : (pt.scarcityFactor * u / (1000 - u)).toInt = pt.scarcityFactor.toInt * u.toInt /
      (1000 - u.toInt) := by
    rw [toInt_div_of_nonneg (by omega) (by omega), hprod, hden]
  have hraw : (1000 + pt.scarcityFactor * u / (1000 - u)).toInt =
      rawMultiplier pt.scarcityFactor.toInt seeders.toInt leechers.toInt := by
    rw [Int64.toInt_add, toInt_thousand, hquot, rawMultiplier, ← hu]
    exact bmod_of_range (by omega) (by omega)
  rw [if_neg hpos, ← multiplierCap]
  simp only [Int64.lt_iff_toInt_lt]
  split_ifs with h1 h2 h2 <;> rw [toInt_thousand] at * <;> omega

theorem clamp_mono {c c' a b : ComputeCredit} (hab : a ≤ b) (h : c.toInt ≤ c'.toInt) :
    c.clamp a b ≤ c'.clamp a b ∧ a ≤ c.clamp a b ∧ c.clamp a b ≤ b := by
  simp only [clamp, Int64.le_iff_toInt_le, Int64.lt_iff_toInt_lt] at hab h ⊢
  split_ifs <;> omega

/-- **The effective price**: within its bounds, higher with more leechers and lower with more
seeders. -/
theorem effective_bounded_monotone (h : pt.Tame) {rt : ResourceType} {rp : ResourcePrice}
    (hrp : pt.prices.lookup rt = some rp) (hbase : 0 ≤ rp.base.toInt) (hbase' : rp.base.toInt ≤ maxCredit.toInt)
    (hminmax : rp.min ≤ rp.max) (hs : Counts seeders) (hl : Counts leechers) :
    (rp.min ≤ pt.effective rt seeders leechers ∧ pt.effective rt seeders leechers ≤ rp.max) ∧
    (1000 ≤ pt.scarcityMultiplierMillis seeders leechers ∧
      pt.scarcityMultiplierMillis seeders leechers ≤ pt.multiplierCap) ∧
    ∀ seeders' leechers', Counts seeders' → Counts leechers' → seeders' ≤ seeders → leechers ≤ leechers' →
      pt.effective rt seeders leechers ≤ pt.effective rt seeders' leechers' := by
  have hcap := multiplierCap_range h
  have hm := toInt_scarcityMultiplierMillis h hs hl
  have heff : ∀ s l, pt.effective rt s l =
      (rp.base.mulMillis (pt.scarcityMultiplierMillis s l)).clamp rp.min rp.max := by
    intro s l
    rw [effective, hrp]
  refine ⟨?_, ?_, fun s' l' hs' hl' hfewer hmore => ?_⟩
  · rw [heff]
    exact (clamp_mono hminmax le_rfl).2
  · simp only [Int64.le_iff_toInt_le, hm, toInt_thousand]
    omega
  · rw [Int64.le_iff_toInt_le] at hfewer hmore
    have hm' := toInt_scarcityMultiplierMillis h hs' hl'
    have hraw := rawMultiplier_mono h.factor.1 hs'.1 hfewer hl.1 hmore
    rw [heff, heff]
    refine (clamp_mono hminmax ?_).1
    have hle : rp.base.toInt * (pt.scarcityMultiplierMillis seeders leechers).toInt ≤
        rp.base.toInt * (pt.scarcityMultiplierMillis s' l').toInt := mul_le_mul_of_nonneg_left (by omega) hbase
    have hlt : rp.base.toInt * (pt.scarcityMultiplierMillis s' l').toInt ≤ 9200000000000 * 1000000 :=
      mul_le_mul hbase' (by omega) (by omega) (by decide)
    unfold mulMillis
    rw [toInt_mulFrac_of_lt hbase (by omega) (by decide) (by omega),
      toInt_mulFrac_of_lt hbase (by omega) (by decide) (by omega)]
    exact Int.ediv_le_ediv (by decide) hle

theorem effective_bounded_monotone_default :
    defaultPriceTable.effective resourceDownload 10 3 ≤ defaultPriceTable.effective resourceDownload 9 4 :=
  have hrp : defaultPriceTable.prices.lookup resourceDownload = some
    ⟨fromCC 50, fromCC 10, fromCC 500⟩ := by decide +kernel
  (effective_bounded_monotone ⟨by decide, by decide⟩ hrp (by decide) (by decide) (by decide) ⟨by decide, by decide⟩
    ⟨by decide, by decide⟩).2.2 9 4 ⟨by decide, by decide⟩ ⟨by decide, by decide⟩ (by decide) (by decide)

/-! ## Seeding -/

/-- Whole GB-hours, as the code rounds them. -/
def gbHours (b d : ℤ) : ℤ := b / 1073741824 * d / 3600

theorem gbHours_nonneg {b d : ℤ} (hb : 0 ≤ b) (hd : 0 ≤ d) : 0 ≤ gbHours b d :=
  ediv_nonneg (mul_nonneg (by omega) hd) (by decide)

theorem gbHours_mono {b b' d d' : ℤ} (hb : 0 ≤ b) (hbb : b ≤ b') (hd : 0 ≤ d) (hdd : d ≤ d') :
    gbHours b d ≤ gbHours b' d' :=
  Int.ediv_le_ediv (by decide) (mul_le_mul (by omega) hdd hd (by omega))

/-- The range of what a client may seed, and for how long. -/
def Seeds (b d : Int64) : Prop := b.toInt ≤ 2 ^ 40 ∧ d.toInt ≤ 2 ^ 22

/-- **Nothing wraps around** at the price `p`: neither a step of the proportional formula, where
that one is used, nor the product with the whole GB-hours. -/
def Unwrapped (p b d : ℤ) : Prop :=
  0 < b → 0 < d →
    if gbHours b d = 0 then
      p % 1073741824 * b < 2 ^ 63 ∧ p * b / 1073741824 < 2 ^ 63 ∧ gbHours (p * b) d < 2 ^ 63
    else p * gbHours b d < 2 ^ 63

section Seeding

variable {b b' d d' : Int64} {p : ℤ} (hp : p = (pt.effectiveForSeeding seeders leechers).toInt)
  (hp0 : 0 ≤ p)

theorem toInt_gbHours (hb : 0 < b.toInt) (hd : 0 < d.toInt) (h : Seeds b d) :
    (b / resourceGB * d / resourceHour).toInt = gbHours b.toInt d.toInt := by
  obtain ⟨_, hd1⟩ := h
  have hquot : (b / resourceGB).toInt = b.toInt / 1073741824 :=
    toInt_div_of_nonneg hb.le (by decide)
  have hprod0 : 0 ≤ b.toInt / 1073741824 * d.toInt := mul_nonneg (by omega) hd.le
  have hprod1 : b.toInt / 1073741824 * d.toInt ≤ 1024 * 2 ^ 22 :=
    mul_le_mul (by omega) hd1 hd.le (by decide)
  have hmul : (b / resourceGB * d).toInt = b.toInt / 1073741824 * d.toInt := by
    simp (disch := omega) only [Int64.toInt_mul, hquot, bmod_of_range]
  rw [toInt_div_of_nonneg (by omega) (by decide), hmul]
  rfl

include hp hp0

theorem toInt_creditForSeeding (h : Seeds b d) (hfits : Unwrapped p b.toInt d.toInt) :
    (pt.creditForSeeding b d seeders leechers).toInt =
      if 0 < b.toInt ∧ 0 < d.toInt then
        if gbHours b.toInt d.toInt = 0 then gbHours (p * b.toInt) d.toInt
        else p * gbHours b.toInt d.toInt
      else 0 := by
  subst hp
  unfold creditForSeeding
  generalize pt.effectiveForSeeding seeders leechers = price at *
  simp only [Int64.le_iff_toInt_le, Int64.toInt_zero]
  by_cases hpos : 0 < b.toInt ∧ 0 < d.toInt
  · rw [if_neg (by omega : ¬ (b.toInt ≤ 0 ∨ d.toInt ≤ 0)), if_pos hpos]
    obtain ⟨hb, hd⟩ := hpos
    have hfits := hfits hb hd
    have hg := toInt_gbHours hb hd h
    have hg0 := gbHours_nonneg hb.le hd.le
    rw [hg]
    split_ifs at hfits ⊢ with hz hz' hz'
    · obtain ⟨hrem, hfirst, hsecond⟩ := hfits
      have hprod0 : 0 ≤ price.toInt * b.toInt := mul_nonneg hp0 hb.le
      have hquot : (price.mulFrac b resourceGB).toInt = price.toInt * b.toInt / 1073741824 :=
        toInt_mulFrac_of_fits hp0 hb (by decide) hrem hfirst
      have hsecs := h.2
      have hlt : price.toInt * b.toInt / 1073741824 % 3600 * d.toInt ≤ 3600 * 2 ^ 22 :=
        mul_le_mul (by omega) hsecs hd.le (by decide)
      rw [toInt_mulFrac_of_fits (by omega) hd (by decide)
        (by rw [hquot]; exact hlt.trans_lt (by decide)) (by rw [hquot]; exact hsecond), hquot]
      rfl
    · omega
    · omega
    · rw [toInt_mulFrac_of_lt hp0 (by omega) (by decide) (by rw [hg]; exact hfits), hg]
      exact Int.ediv_one _
  · rw [if_pos (by omega), if_neg hpos]
    rfl

/-- **Seeding earns no less for more**, unless the smaller input is paid in proportion, the larger
one by whole GB-hours, and those do not make up for the fractions they drop. -/
theorem creditForSeeding_mono_iff (hbytes : b ≤ b') (hsecs : d ≤ d') (h : Seeds b' d')
    (hfits : Unwrapped p b.toInt d.toInt) (hfits' : Unwrapped p b'.toInt d'.toInt) :
    pt.creditForSeeding b d seeders leechers ≤ pt.creditForSeeding b' d' seeders leechers ↔
      (0 < b → 0 < d → gbHours b.toInt d.toInt = 0 → gbHours b'.toInt d'.toInt ≠ 0 →
        gbHours (p * b.toInt) d.toInt ≤ p * gbHours b'.toInt d'.toInt) := by
  simp only [Int64.le_iff_toInt_le, Int64.lt_iff_toInt_lt, Int64.toInt_zero] at hbytes hsecs ⊢
  rw [toInt_creditForSeeding hp hp0 ⟨hbytes.trans h.1, hsecs.trans h.2⟩ hfits,
    toInt_creditForSeeding hp hp0 h hfits']
  by_cases hpos : 0 < b.toInt ∧ 0 < d.toInt
  · have hpos' : 0 < b'.toInt ∧ 0 < d'.toInt := ⟨hpos.1.trans_le hbytes, hpos.2.trans_le hsecs⟩
    have hg0 := gbHours_nonneg hpos.1.le hpos.2.le
    have hg := gbHours_mono hpos.1.le hbytes hpos.2.le hsecs
    rw [if_pos hpos, if_pos hpos']
    split_ifs with hz hz' hz'
    · exact iff_of_true (gbHours_mono (mul_nonneg hp0 hpos.1.le)
        (mul_le_mul_of_nonneg_left hbytes hp0) hpos.2.le hsecs) fun _ _ _ hne => absurd hz' hne
    · exact ⟨fun hle _ _ _ _ => hle, fun hle => hle hpos.1 hpos.2 hz hz'⟩
    · omega
    · exact iff_of_true (mul_le_mul_of_nonneg_left hg hp0) fun _ _ hzero => absurd hzero hz
  · refine iff_of_true ?_ fun hb hd => absurd ⟨hb, hd⟩ hpos
    rw [if_neg hpos]
    split_ifs with hpos' hz
    · exact gbHours_nonneg (mul_nonneg hp0 hpos'.1.le) hpos'.2.le
    · exact mul_nonneg hp0 (gbHours_nonneg hpos'.1.le hpos'.2.le)
    · exact le_rfl

end Seeding

/-- One gigabyte earns no less in an hour than in half of it, at a price above `2 ^ 23`. -/
theorem creditForSeeding_mono_hour : 2 ^ 23 < (defaultPriceTable.effectiveForSeeding 10 4).toInt ∧
      defaultPriceTable.creditForSeeding 1073741824 1800 10 4 ≤
        defaultPriceTable.creditForSeeding 1073741824 3600 10 4 := by
  refine ⟨by decide +kernel, (creditForSeeding_mono_iff rfl (by decide +kernel) (by decide)
    (by decide) ⟨by decide, by decide⟩ ?_ ?_).2 (by decide +kernel)⟩
  · unfold Unwrapped
    decide +kernel
  · unfold Unwrapped
    decide +kernel

/-- One second more, up to a whole GB-hour of two nearly complete gigabytes, halves what is
earned. -/
theorem creditForSeeding_drops : defaultPriceTable.creditForSeeding 2040109466 3600 10 0 <
    defaultPriceTable.creditForSeeding 2040109466 3599 10 0 := by
  decide +kernel

end PriceTable

end Ocelot.Commons
