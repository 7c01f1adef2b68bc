/-
# What a spending cap is for, and when the budgets table keeps it.
-/
import Ocelot.Commons.Admission

namespace Ocelot.Commons

open List Option Tables Function Int64 Sample BudgetRow
open Tracker (UserID TorrentID)

/-! ## Caps -/

structure Cap where
  limit : ℤ
  spent : ℤ
  deriving DecidableEq

abbrev Caps := UserID → Option TorrentID → Option Cap

namespace Caps

def none : Caps := fun _ _ => Option.none

def set (c : Caps) (u : UserID) (k : Option TorrentID) (credits : ℤ) : Caps :=
  Function.update c u (Function.update (c u) k (some ⟨credits * 1000000, 0⟩))

def spend (c : Caps) (u : UserID) (torrentID : TorrentID) (charge : ℤ) : Caps := Function.update c u fun k =>
    (c u k).map fun cap =>
      if k = Option.none ∨ k = some torrentID then { cap with spent := cap.spent + charge } else cap

def left (c : Caps) (u : UserID) (torrentID : TorrentID) : List ℤ :=
  ((c u (some torrentID)).toList ++ (c u Option.none).toList).map fun cap => cap.limit - cap.spent

def available (c : Caps) (u : UserID) (torrentID : TorrentID) : ℤ :=
  ((c.left u torrentID).min?.map fun r => max 0 r).getD maxCredit.toInt

end Caps

theorem min_clamped_congr {l l' : List ℤ} (h : ∀ r ∈ l, ∃ r' ∈ l', max 0 r = max 0 r')
    (h' : ∀ r' ∈ l', ∃ r ∈ l, max 0 r = max 0 r') :
    (l.min?.map fun r => max 0 r) = l'.min?.map fun r => max 0 r := by
  cases hm : l.min? with
  | none =>
    rw [min?_eq_none_iff] at hm
    subst hm
    cases hm' : l'.min? with
    | none => rfl
    | some m' =>
      obtain ⟨r, hr, -⟩ := h' m' (min?_eq_some_iff.1 hm').1
      cases hr
  | some m =>
    obtain ⟨hmem, hleast⟩ := min?_eq_some_iff.1 hm
    obtain ⟨r', hr', _⟩ := h m hmem
    cases hm' : l'.min? with
    | none =>
      rw [min?_eq_none_iff] at hm'
      subst hm'
      cases hr'
    | some m' =>
      obtain ⟨hmem', hleast'⟩ := min?_eq_some_iff.1 hm'
      obtain ⟨r, hr, _⟩ := h' m' hmem'
      have hle := hleast r hr
      have hle' := hleast' r' hr'
      simp only [map_some, some.injEq]
      omega

/-! ## The table -/

structure StandsFor (b : BudgetRow) (cap : Cap) : Prop where
  deadline : b.deadline = none
  limit : b.maxCredits.toInt = cap.limit
  left : max 0 (cap.limit - b.consumed.toInt) = max 0 (cap.limit - cap.spent)

def RowFor (rows : List BudgetRow) : Option Cap → Prop
  | none => rows = []
  | some cap => ∃ b, rows = [b] ∧ StandsFor b cap

/-- **The table holds the caps.** -/
structure Tracks (t : Tables) (c : Caps) : Prop where
  rows : ∀ u k, RowFor (t.budgetsFor u k) (c u k)
  /-- Torrent `0` has no cap of its own. -/
  zero : ∀ u, c u (some 0) = none
  sound : ∀ b ∈ t.budgets, 0 ≤ b.consumed.toInt

theorem tracks_initial :
    Tracks (Tables.initial []) Caps.none := ⟨fun _ _ => rfl, fun _ => rfl, fun _ h => nomatch h⟩

theorem mem_remaining {t : Tables} {c : Caps} (h : Tracks t c) (now : Int64) (u : UserID)
    (torrentID : TorrentID) (r : ℤ) :
    r ∈ t.remaining now u torrentID ↔ ∃ b, (b ∈ t.budgetsFor u (some torrentID) ∨
        b ∈ t.budgetsFor u none) ∧ b.maxCredits.toInt - b.consumed.toInt = r := by
  unfold Tables.remaining
  simp only [List.mem_map, List.mem_filter, decide_eq_true_eq, mem_budgetsFor]
  constructor
  · rintro ⟨b, ⟨hb, _, _, -⟩, rfl⟩
    exact ⟨b, by tauto, rfl⟩
  · rintro ⟨b, hb, rfl⟩
    have hmem : b ∈ t.budgets ∧ b.userID = u := by tauto
    have hdeadline : b.deadline = none := by
      have hrow := h.rows u b.torrentID
      have hb' : b ∈ t.budgetsFor u b.torrentID := mem_budgetsFor.2 ⟨hmem.1, hmem.2, rfl⟩
      cases hc : c u b.torrentID with
      | none =>
        rw [hc, RowFor] at hrow
        rw [hrow] at hb'
        cases hb'
      | some =>
        rw [hc] at hrow
        obtain ⟨_, hb'', hstands⟩ := hrow
        rw [hb'', mem_singleton] at hb'
        rw [hb']
        exact hstands.deadline
    exact ⟨b, ⟨hmem.1, hmem.2, by tauto, by simp [hdeadline]⟩, rfl⟩

variable {rows : List BudgetRow} {o : Option Cap}

theorem RowFor.left (h : RowFor rows o) :
    (∀ b ∈ rows, ∃ cap ∈ o, max 0 (b.maxCredits.toInt - b.consumed.toInt) = max 0 (cap.limit - cap.spent)) ∧
      ∀ cap ∈ o, ∃ b ∈ rows, max 0 (b.maxCredits.toInt - b.consumed.toInt) = max 0 (cap.limit - cap.spent) := by
  cases o with
  | none =>
    rw [RowFor] at h
    subst h
    simp
  | some cap =>
    obtain ⟨b, rfl, hstands⟩ := h
    have hleft : max 0 (b.maxCredits.toInt - b.consumed.toInt) = max 0 (cap.limit - cap.spent) := by
      rw [hstands.limit]
      exact hstands.left
    simp [hleft]

theorem Tracks.checkBudgetAvailable {t : Tables} {c : Caps} (h : Tracks t c) (now : Int64)
    (u : UserID) (torrentID : TorrentID) :
    ∃ credit, checkBudgetAvailable none now t u torrentID = .ok credit ∧
      credit.toInt = c.available u torrentID := by
  have hclamped : ((t.remaining now u torrentID).min?.map fun r => max 0 r) =
      (c.left u torrentID).min?.map fun r => max 0 r := by
    apply min_clamped_congr
    · intro r hr
      obtain ⟨b, hb, rfl⟩ := (mem_remaining h now u torrentID r).1 hr
      rcases hb with hb | hb
      · obtain ⟨cap, hcap, heq⟩ := (h.rows u (some torrentID)).left.1 b hb
        exact ⟨_, mem_map.2 ⟨cap, by simp [mem_def.1 hcap], rfl⟩, heq⟩
      · obtain ⟨cap, hcap, heq⟩ := (h.rows u none).left.1 b hb
        exact ⟨_, mem_map.2 ⟨cap, by simp [mem_def.1 hcap], rfl⟩, heq⟩
    · intro _ hr'
      obtain ⟨cap, hcap, rfl⟩ := mem_map.1 hr'
      rcases mem_append.1 hcap with hcap | hcap
      · obtain ⟨b, hb, heq⟩ := (h.rows u (some torrentID)).left.2 cap (mem_toList.1 hcap)
        exact ⟨_, (mem_remaining h now u torrentID _).2 ⟨b, .inl hb, rfl⟩, heq⟩
      · obtain ⟨b, hb, heq⟩ := (h.rows u none).left.2 cap (mem_toList.1 hcap)
        exact ⟨_, (mem_remaining h now u torrentID _).2 ⟨b, .inr hb, rfl⟩, heq⟩
  unfold Commons.checkBudgetAvailable Caps.available
  rw [← hclamped]
  cases hmin : (t.remaining now u torrentID).min? with
  | none => exact ⟨maxCredit, rfl, rfl⟩
  | some =>
    refine ⟨_, rfl, ?_⟩
    obtain ⟨b, hb, _⟩ := mem_map.1 (min?_eq_some_iff.1 hmin).1
    have hconsumed := h.sound b (mem_of_mem_filter hb)
    have hcap := toInt_lt b.maxCredits
    simp only [map_some, getD_some]
    split_ifs with hneg
    · rw [toInt_zero]
      omega
    · rw [toInt_ofInt_of_le (by omega) (by omega)]
      omega

/-! ## Calls -/

inductive CapCall where
  | setUserBudget (env : BudgetEnv) (u : UserID) (torrentID : TorrentID) (maxCredits : Int64)
  | settle (env : SettleEnv) (req : Settlement)

structure Capped where
  tables : Tables
  caps : Caps

namespace Capped

def initial : Capped := ⟨Tables.initial [], Caps.none⟩

def step (s : Capped) : CapCall → Option Capped
  | .setUserBudget env u torrentID maxCredits =>
    let out := Commons.setUserBudget env s.tables u torrentID maxCredits
    some
      { tables := out.1
        caps :=
          match out.2 with
          | .error _ => s.caps
          | .ok () => s.caps.set u (nullableUint32 torrentID) maxCredits.toInt }
  | .settle env req =>
    let out := Commons.settle env s.tables req
    some
      { tables := out.1
        caps :=
          match out.2 with
          | .error _ => s.caps
          | .ok res =>
            if res.wasIdempotent = false ∧ 0 < res.charge then
              s.caps.spend req.accountID req.torrentID res.charge.toInt
            else s.caps }

/-- **The call is counted**: a cap that is set is exact, and replaces the old one whole; a charge
finds no global cap with room, and where the torrent has a cap with room the charge fits and the
statement that counts it succeeds. -/
def Counted (s : Capped) : CapCall → Prop
  | .setUserBudget env u torrentID maxCredits =>
    (env.deleteFault = none → env.insertFault ≠ none → s.tables.budgetsFor u (nullableUint32 torrentID) = []) ∧
      (-9223372036854 ≤ maxCredits ∧ maxCredits ≤ 9223372036854)
  | .settle env req =>
    env.Records s.tables req → 0 < req.charge →
      (∀ b ∈ s.tables.budgetsFor req.accountID none, b.maxCredits ≤ b.consumed) ∧
        ∀ b ∈ s.tables.budgetsFor req.accountID (some req.torrentID), b.maxCredits ≤ b.consumed ∨
            req.charge.toInt ≤ b.maxCredits.toInt - b.consumed.toInt ∧ env.fault .updateBudget = none

instance (s : Capped) (l : CapCall) : Decidable (Counted s l) := by
  unfold Counted
  split <;> infer_instance

end Capped

theorem toInt_fromCC {m : Int64} (hlow : -9223372036854 ≤ m) (hhigh : m ≤ 9223372036854) :
    (fromCC m).toInt = m.toInt * 1000000 := by
  have hscale : creditScale.toInt = 1000000 := by decide
  have hlow' : (-9223372036854 : Int64).toInt = -9223372036854 := by decide
  have hhigh' : (9223372036854 : Int64).toInt = 9223372036854 := by decide
  rw [le_iff_toInt_le] at hlow hhigh
  rw [fromCC, toInt_mul, hscale, bmod_of_range (by omega) (by omega)]

theorem nullableUint32_ne_zero (torrentID : TorrentID) : nullableUint32 torrentID ≠ some 0 := by
  unfold nullableUint32
  split_ifs with hzero
  · simp
  · simpa using hzero

variable {t : Tables} {c : Caps} {s s' : Capped} {u : UserID} {torrentID : TorrentID} {b : BudgetRow}
   {charge : ComputeCredit}
  {maxCredits : Int64} {cap : Cap} {f : BudgetRow → BudgetRow} {t' : Tables} {env : SettleEnv} {req : Settlement}

theorem Tracks.insertBudget (h : Tracks t c) (u : UserID) (torrentID : TorrentID)
    (hlow : -9223372036854 ≤ maxCredits) (hhigh : maxCredits ≤ 9223372036854) :
    Tracks ((t.clearBudget u (nullableUint32 torrentID)).insertBudget u (nullableUint32 torrentID)
      (fromCC maxCredits))
      (c.set u (nullableUint32 torrentID) maxCredits.toInt) := by
  have hkey := nullableUint32_ne_zero torrentID
  refine ⟨fun v l => ?_, fun v => ?_, ?_⟩
  · rw [budgetsFor_insertBudget, budgetsFor_clearBudget]
    by_cases hv : u = v ∧ nullableUint32 torrentID = l
    · obtain ⟨rfl, rfl⟩ := hv
      rw [if_pos ⟨rfl, rfl⟩, if_pos ⟨rfl, rfl⟩, Caps.set, update_self, update_self]
      exact ⟨_, rfl, rfl, toInt_fromCC hlow hhigh, rfl⟩
    · rw [if_neg hv, if_neg hv, append_nil]
      have hsame : c.set u (nullableUint32 torrentID) maxCredits.toInt v l = c v l := by
        unfold Caps.set
        by_cases huv : v = u
        · subst huv
          rw [update_self, update_of_ne (by tauto)]
        · rw [update_of_ne huv]
      rw [hsame]
      exact h.rows v l
  · unfold Caps.set
    by_cases huv : v = u
    · subst huv
      rw [update_self, update_of_ne (Ne.symm hkey)]
      exact h.zero v
    · rw [update_of_ne huv]
      exact h.zero v
  · exact setUserBudget_consumed h.sound ⟨none, none⟩ u torrentID maxCredits

theorem Tracks.setUserBudget (h : Tracks s.tables s.caps) {env : BudgetEnv}
    (hcnt : s.Counted (.setUserBudget env u torrentID maxCredits))
    (hs : s.step (.setUserBudget env u torrentID maxCredits) = some s') : Tracks s'.tables s'.caps := by
  obtain ⟨hwhole, hlow, hhigh⟩ := hcnt
  cases hs
  unfold Commons.setUserBudget
  rcases env with ⟨_ | _, _ | _⟩
  · exact h.insertBudget u torrentID hlow hhigh
  · -- there was nothing to clear
    have hnothing := hwhole rfl (by simp)
    have hsame := (s.tables.clearBudget_budgets_iff u (nullableUint32 torrentID)).2 hnothing
    refine ⟨fun v l => ?_, h.zero, ?_⟩
    · have hrows := h.rows v l
      unfold budgetsFor at hrows ⊢
      rw [hsame]
      exact hrows
    · rw [hsame]
      exact h.sound
  · exact h
  · exact h

/-! ## Spending -/

def BudgetRow.consume (u : UserID) (torrentID : TorrentID) (charge : ComputeCredit) (b : BudgetRow) : BudgetRow :=
  if b.userID = u ∧ b.torrentID = some torrentID ∧ charge.toInt ≤ b.maxCredits.toInt - b.consumed.toInt then
    { b with consumed := b.consumed + charge }
  else b

theorem budgetsFor_consumeBudget (t : Tables) (u v : UserID) (torrentID : TorrentID)
    (k : Option TorrentID) (charge : ComputeCredit) :
    (t.consumeBudget u torrentID charge).budgetsFor v k = (t.budgetsFor v k).map (consume u torrentID charge) := by
  show (t.budgets.map (consume u torrentID charge)).filter _ = _
  rw [List.filter_map]
  congr 1
  apply filter_congr
  intro b _
  rw [Function.comp_apply, consume]
  split_ifs <;> rfl

theorem StandsFor.consume (h : StandsFor b cap) (hsound : 0 ≤ b.consumed.toInt)
    (hkey : b.torrentID = some torrentID) (hcharge : 0 < charge.toInt)
    (hfits : charge.toInt ≤ b.maxCredits.toInt - b.consumed.toInt) :
    StandsFor (b.consume b.userID torrentID charge) { cap with spent := cap.spent + charge.toInt } := by
  have hmax := toInt_lt b.maxCredits
  have hleft := h.left
  rw [BudgetRow.consume, if_pos ⟨rfl, hkey, hfits⟩]
  refine ⟨h.deadline, h.limit, ?_⟩
  show max 0 (cap.limit - (b.consumed + charge).toInt) = _
  rw [toInt_add, bmod_of_range (by omega) (by omega)]
  show _ = max 0 (cap.limit - (cap.spent + charge.toInt))
  omega

theorem StandsFor.exhausted (h : StandsFor b cap) {charge : ℤ} (hcharge : 0 < charge)
    (hfull : b.maxCredits ≤ b.consumed) : StandsFor b { cap with spent := cap.spent + charge } := by
  have hleft := h.left
  have hlim := h.limit
  rw [le_iff_toInt_le] at hfull
  refine ⟨h.deadline, h.limit, ?_⟩
  show max 0 (cap.limit - b.consumed.toInt) = max 0 (cap.limit - (cap.spent + charge))
  omega

theorem BudgetRow.consume_of_full (hfull : b.maxCredits ≤ b.consumed) (u : UserID)
    (torrentID : TorrentID) (hcharge : 0 < charge.toInt) : b.consume u torrentID charge = b := by
  rw [le_iff_toInt_le] at hfull
  unfold consume
  rw [if_neg]
  rintro ⟨-, -, _⟩
  omega

theorem BudgetRow.consume_of_ne (charge : ComputeCredit)
    (h : ¬ (b.userID = u ∧ b.torrentID = some torrentID)) : b.consume u torrentID charge = b := by
  unfold consume
  rw [if_neg]
  rintro ⟨huser, htor, -⟩
  exact h ⟨huser, htor⟩

theorem RowFor.map (h : RowFor rows o) {g : Cap → Cap}
    (hfg : ∀ b ∈ rows, ∀ cap, StandsFor b cap → StandsFor (f b) (g cap)) : RowFor (rows.map f) (o.map g) := by
  cases o with
  | none =>
    rw [RowFor] at h
    subst h
    rfl
  | some cap =>
    obtain ⟨b, rfl, hstands⟩ := h
    exact ⟨f b, rfl, hfg b (mem_singleton.2 rfl) cap hstands⟩

theorem Tracks.of_budgets_eq (h : Tracks t c) (heq : t'.budgets = t.budgets) : Tracks t' c := by
  refine ⟨fun u k => ?_, h.zero, ?_⟩
  · have hrows := h.rows u k
    unfold budgetsFor at hrows ⊢
    rw [heq]
    exact hrows
  · rw [heq]
    exact h.sound

theorem Tracks.spend (h : Tracks t c) (hcharge : 0 < charge.toInt) (hf : f = consume u torrentID charge ∨ f = id)
    (hrows : ∀ v k, t'.budgetsFor v k = (t.budgetsFor v k).map f) (hsound : ∀ b ∈ t'.budgets, 0 ≤ b.consumed.toInt)
    (hglob : ∀ b ∈ t.budgetsFor u none, b.maxCredits ≤ b.consumed)
    (htor : ∀ b ∈ t.budgetsFor u (some torrentID), b.maxCredits ≤ b.consumed ∨
        charge.toInt ≤ b.maxCredits.toInt - b.consumed.toInt ∧ f = consume u torrentID charge) :
    Tracks t' (c.spend u torrentID charge.toInt) := by
  -- rows of other keys, and rows of caps that are used up, stay as they are
  have hother : ∀ b, ¬ (b.userID = u ∧ b.torrentID = some torrentID) → f b = b := by
    intro b hb
    rcases hf with rfl | rfl
    · exact consume_of_ne charge hb
    · rfl
  have hfull : ∀ b, b.maxCredits ≤ b.consumed → f b = b := by
    intro b hb
    rcases hf with rfl | rfl
    · exact consume_of_full hb u torrentID hcharge
    · rfl
  refine ⟨fun v k => ?_, fun v => ?_, hsound⟩
  · rw [hrows]
    unfold Caps.spend
    by_cases hv : v = u
    · subst hv
      rw [update_self]
      refine (h.rows v k).map fun b hb cap hstands => ?_
      obtain ⟨hmem, huser, hkey⟩ := mem_budgetsFor.1 hb
      by_cases hcovers : k = none ∨ k = some torrentID
      · rw [if_pos hcovers]
        rcases hcovers with rfl | rfl
        · rw [hfull b (hglob b hb)]
          exact hstands.exhausted hcharge (hglob b hb)
        · rcases htor b hb with hb' | ⟨hfits, rfl⟩
          · rw [hfull b hb']
            exact hstands.exhausted hcharge hb'
          · subst huser
            exact hstands.consume (h.sound b hmem) hkey hcharge hfits
      · rw [if_neg hcovers, hother b fun hb' => hcovers (.inr (hkey.symm.trans hb'.2))]
        exact hstands
    · rw [update_of_ne hv]
      have hsame := (h.rows v k).map (f := f) (g := id) fun b hb cap hstands => by
        obtain ⟨-, huser, -⟩ := mem_budgetsFor.1 hb
        rw [hother b fun hb' => hv (huser.symm.trans hb'.1)]
        exact hstands
      rwa [Option.map_id] at hsame
  · unfold Caps.spend
    by_cases hv : v = u
    · subst hv
      rw [update_self, h.zero v]
      rfl
    · rw [update_of_ne hv]
      exact h.zero v

theorem settle_not_charged (h : ¬ env.Records t req) :
    ∀ res, (Commons.settle env t req).2 = .ok res → res.wasIdempotent = true := by
  have hsettles := settle_settles env t req
  generalize Commons.settle env t req = out at hsettles
  cases hsettles with
  | aborted =>
    intro res hres
    cases hres
  | repeated =>
    intro res hres
    cases hres
    rfl
  | recorded hrecs => exact absurd hrecs h

theorem Tracks.settle (h : Tracks s.tables s.caps)
    (hcnt : s.Counted (.settle env req)) (hs : s.step (.settle env req) = some s') : Tracks s'.tables s'.caps := by
  cases hs
  have hbuds := settle_budgets env s.tables req
  by_cases hrecs : env.Records s.tables req
  · rw [if_pos hrecs] at hbuds
    have hans := congrArg Prod.snd (settle_of_records hrecs)
    simp only [hans]
    by_cases hcharge : 0 < req.charge
    · obtain ⟨hglob, htor⟩ := hcnt hrecs hcharge
      rw [if_pos ⟨trivial, hcharge⟩]
      have hpos : 0 < req.charge.toInt := by
        rwa [lt_iff_toInt_lt, toInt_zero] at hcharge
      by_cases hupd : 0 < req.torrentID ∧ env.fault .updateBudget = none
      · -- the statement runs
        have haft : env.budgetsAfter s.tables req =
            (s.tables.consumeBudget req.accountID req.torrentID req.charge).budgets := if_pos ⟨hcharge, hupd⟩
        rw [haft] at hbuds
        refine h.spend hpos (.inl rfl) (fun v k => ?_) ?_ hglob fun b hb => ?_
        · rw [← budgetsFor_consumeBudget]
          unfold Tables.budgetsFor
          rw [hbuds]
        · rw [hbuds]
          exact consumeBudget_consumed h.sound _ _ hcharge
        · exact (htor b hb).imp id fun hfits => ⟨hfits.1, rfl⟩
      · -- it does not: the torrent is `0`, which has no cap, or the error is ignored
        have haft : env.budgetsAfter s.tables req = s.tables.budgets := if_neg fun hall => hupd hall.2
        rw [haft] at hbuds
        refine h.spend hpos (.inr rfl) (fun v k => ?_) ?_ hglob fun b hb => ?_
        · rw [List.map_id]
          unfold Tables.budgetsFor
          rw [hbuds]
        · rw [hbuds]
          exact h.sound
        · rcases htor b hb with hfull | ⟨-, hfault⟩
          · exact .inl hfull
          · have hzero : req.torrentID = 0 := by
              by_contra hne
              exact hupd ⟨UInt32.pos_iff_ne_zero.2 hne, hfault⟩
            have hnone := h.rows req.accountID (some 0)
            rw [h.zero, RowFor, ← hzero] at hnone
            rw [hnone] at hb
            cases hb
    · rw [if_neg fun hall => hcharge hall.2]
      apply h.of_budgets_eq
      rw [hbuds]
      exact if_neg fun hall => hcharge hall.1
  · rw [if_neg hrecs] at hbuds
    have hcaps : (match (Commons.settle env s.tables req).2 with
        | .error _ => s.caps
        | .ok res =>
          if res.wasIdempotent = false ∧ 0 < res.charge then
            s.caps.spend req.accountID req.torrentID res.charge.toInt
          else s.caps) = s.caps := by
      split
      · rfl
      · rename_i res hres
        rw [if_neg]
        rintro ⟨hfirst, -⟩
        rw [settle_not_charged hrecs res hres] at hfirst
        cases hfirst
    rw [hcaps]
    exact h.of_budgets_eq hbuds

theorem Tracks.step {l : CapCall} (h : Tracks s.tables s.caps) (hcnt : s.Counted l)
    (hs : s.step l = some s') : Tracks s'.tables s'.caps := by
  cases l with
  | setUserBudget => exact h.setUserBudget hcnt hs
  | settle => exact h.settle hcnt hs

theorem refused_of_nothing_left {env : CheckEnv}
    (hbal : env.balanceFault = none) (hbud : checkBudgetAvailable env.budgetFault env.now t u torrentID = .ok 0) :
    (∀ pc : PriorityClass, pc.isProtected = false → checkAllocation env t u torrentID pc ≠ .ok ()) ∧
      ∀ prices (req : AllocationRequest), req.leecherUserID = u → req.torrentID = torrentID →
        req.policy.effectivePriority.isProtected = false → (evaluatePeers env prices t req).rejection ≠ none := by
  constructor
  · intro pc hpc
    unfold checkAllocation checkBalance
    rw [hpc, hbal, hbud]
    cases t.accounts.lookup u with
    | none | some =>
      simp only [Bool.false_eq_true, if_false, Int64.le_refl, if_true]
      split_ifs <;> simp
  · rintro prices req rfl rfl hprot
    have hzero : env.budget t req.leecherUserID req.torrentID = 0 := by
      rw [CheckEnv.budget, hbud]
      rfl
    simp only [evaluatePeers, evaluate, hprot, hzero, Bool.false_eq_true, if_false, Int64.le_refl, if_true]
    split_ifs <;> simp

/-- **A spending cap is effective where every call is counted.** -/
theorem caps_effective (calls : List CapCall) (h : Run.Meets Capped.step Capped.Counted Capped.initial calls) :
    ∀ pre s, pre <+: calls → Run.exec Capped.step Capped.initial pre = some s →
      ∀ (u : UserID) (torrentID : TorrentID) (now : Int64),
        (checkBudgetAvailable none now s.tables u torrentID).map Int64.toInt = .ok (s.caps.available u torrentID) ∧
        (s.caps.available u torrentID = 0 → (∀ pc : PriorityClass, pc.isProtected = false →
            checkAllocation ⟨now, none, none⟩ s.tables u torrentID pc ≠ .ok ()) ∧
          ∀ prices (req : AllocationRequest), req.leecherUserID = u → req.torrentID = torrentID →
            req.policy.effectivePriority.isProtected = false →
            (evaluatePeers ⟨now, none, none⟩ prices s.tables req).rejection ≠ none) := by
  rintro pre s ⟨_, rfl⟩ hs u torrentID now
  have htracks : Tracks s.tables s.caps := by
    refine Run.exec_invariant_of_meets (I := fun s => Tracks s.tables s.caps) ?_ tracks_initial h.of_append hs
    intro s l _ htracks hcnt hstep
    exact htracks.step hcnt hstep
  obtain ⟨credit, hcheck, hcred⟩ := htracks.checkBudgetAvailable now u torrentID
  rw [hcheck]
  refine ⟨congrArg Except.ok hcred, fun hzero => ?_⟩
  have hnothing : credit = 0 := by
    rw [← toInt_inj, hcred, hzero]
    rfl
  rw [hnothing] at hcheck
  exact refused_of_nothing_left rfl hcheck

namespace Sample

def withinCap : List CapCall :=
  [.setUserBudget budgetEnv 7 1 10, .settle settleEnv (download 7 (fromCC 6) "a"),
    .settle settleEnv (download 7 (fromCC 4) "b")]

def pastGlobalCap : List CapCall :=
  [.setUserBudget budgetEnv 7 0 1, .settle settleEnv (download 7 (fromCC 10) "a")]

def pastTorrentCap : List CapCall :=
    [.setUserBudget budgetEnv 7 1 10, .settle settleEnv (download 7 (fromCC 11) "a")]

end Sample

theorem cap_effective_within :
    ∃ s, Run.exec Capped.step Capped.initial withinCap = some s ∧ s.caps.available 7 1 = 0 ∧
      (checkBudgetAvailable none 0 s.tables 7 1).map Int64.toInt = .ok 0 := by
  refine Run.ends_and (by decide +kernel) fun s hs hzero => ?_
  have heffective := caps_effective withinCap (by decide +kernel) _ s (prefix_refl _) hs 7 1 0
  rw [heffective.1, hzero]

/-- **Two caps that do nothing**: after ten credits under a global cap of one, one credit is still
available, and after eleven under a cap of ten on the torrent all ten are. -/
theorem caps_ineffective : (Run.exec Capped.step Capped.initial pastGlobalCap).map (fun s =>
        (s.caps.available 7 1, failOpen (checkBudgetAvailable none 0 s.tables 7 1))) = some (0, fromCC 1) ∧
      (Run.exec Capped.step Capped.initial pastTorrentCap).map (fun s =>
        (s.caps.available 7 1, failOpen (checkBudgetAvailable none 0 s.tables 7 1))) = some (0, fromCC 10) := by
  decide +kernel

end Ocelot.Commons
