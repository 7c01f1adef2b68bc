/-
# Runs of a labelled step function.
-/
import Mathlib.Data.List.Induction

namespace Run

open List Option

/-! ## Runs -/

variable {σ ι : Type*}

def exec (step : σ → ι → Option σ) : σ → List ι → Option σ
  | s, [] => some s
  | s, l :: ls => (step s l).bind fun t => exec step t ls

variable {step : σ → ι → Option σ}

@[simp] theorem exec_nil (s : σ) : exec step s [] = some s := rfl

theorem exec_append (s : σ) (ls ms : List ι) :
    exec step s (ls ++ ms) = (exec step s ls).bind fun t => exec step t ms := by
  induction ls generalizing s with
  | nil => rfl
  | cons l _ ih =>
    simp only [cons_append, exec]
    cases step s l with
    | none => rfl
    | some t => simpa using ih t

theorem exec_concat (s : σ) (ls : List ι) (l : ι) :
    exec step s (ls ++ [l]) = (exec step s ls).bind fun t => step t l := by
  rw [exec_append]
  congr 1
  funext t
  simp [exec]

variable {s u : σ} {ls : List ι} {l : ι} {I : σ → Prop} {t : σ} {G : σ → ι → Prop} {ms : List ι} {P : σ → Prop}
   {Q : σ → ι → Prop}

theorem exec_concat_eq_some :
    exec step s (ls ++ [l]) = some u ↔ ∃ t, exec step s ls = some t ∧ step t l = some u := by
  rw [exec_concat, bind_eq_some_iff]

theorem exec_invariant (hstep : ∀ s l t, I s → step s l = some t → I t) (hs : I s)
    (h : exec step s ls = some t) : I t := by
  induction ls generalizing s with
  | nil =>
    cases h
    exact hs
  | cons l _ ih =>
    obtain ⟨u, hu, hut⟩ := bind_eq_some_iff.mp h
    exact ih (hstep s l u hs hu) hut

/-! ## Conditions on a run -/

def Meets (step : σ → ι → Option σ) (G : σ → ι → Prop) (s : σ) (ls : List ι) : Prop :=
  ∀ pre l post t, ls = pre ++ l :: post → exec step s pre = some t → G t l

theorem meets_nil (G : σ → ι → Prop) (s : σ) : Meets step G s [] := by
  intro pre l _ t h
  cases pre <;> cases h

theorem Meets.of_append (h : Meets step G s (ls ++ ms)) : Meets step G s ls := by
  intro pre l post t hl ht
  exact h pre l (post ++ ms) t (by rw [hl]; simp) ht

theorem Meets.of_exec (h : Meets step G s (ls ++ ms)) (ht : exec step s ls = some t) : Meets step G t ms := by
  rintro pre l post u rfl hu
  refine h (ls ++ pre) l post u (by simp) ?_
  rw [exec_append, ht, bind_some]
  exact hu

theorem Meets.and {H : σ → ι → Prop} (hG : Meets step G s ls)
    (hH : Meets step H s ls) : Meets step (fun t l => G t l ∧ H t l) s ls := by
  intro pre l post t hl ht
  exact ⟨hG pre l post t hl ht, hH pre l post t hl ht⟩

theorem meets_of_forall {L : ι → Prop} (h : ∀ l ∈ ls, L l) (s : σ) : Meets step (fun _ l => L l) s ls := by
  rintro _ l _ t rfl -
  exact h l (by simp)

theorem meets_concat : Meets step G s (ls ++ [l]) ↔ Meets step G s ls ∧ ∀ t, exec step s ls = some t → G t l := by
  constructor
  · intro h
    exact ⟨h.of_append, fun t ht => h ls l [] t rfl ht⟩
  · rintro ⟨hls, hl⟩ pre m post t heq ht
    rcases eq_nil_or_concat post with rfl | ⟨post', x, rfl⟩
    · obtain ⟨rfl, hm⟩ := append_inj' heq rfl
      cases hm
      exact hl t ht
    · rw [concat_eq_append, ← cons_append, ← append_assoc] at heq
      obtain ⟨rfl, -⟩ := append_inj' heq rfl
      exact hls pre m post' t rfl ht

theorem exec_invariant_of_meets (hstep : ∀ s l t, I s → G s l → step s l = some t → I t) (hs : I s)
    (hG : Meets step G s ls) (h : exec step s ls = some t) : I t := by
  induction ls using reverseRecOn generalizing t with
  | nil =>
    cases h
    exact hs
  | append_singleton _ l ih =>
    obtain ⟨u, hu, hut⟩ := exec_concat_eq_some.mp h
    obtain ⟨hls, hl⟩ := meets_concat.mp hG
    exact hstep u l t (ih hls hu) (hl u hu) hut

theorem exec_between {R : σ → σ → Prop} {pre mid post : List ι}
    (hR : ∀ pre' l post' v w, pre ++ mid ++ post = pre' ++ l :: post' → exec step s pre' = some v →
      step v l = some w → R v w)
    (hstep : ∀ v w, I v → R v w → I w) (hu : exec step s pre = some u) (h : I u)
    (ht : exec step u mid = some t) : I t := by
  have hmeets : Meets step (fun v l => ∀ w, step v l = some w → R v w) u mid := by
    rintro pre' l post' v rfl hv w hw
    refine hR (pre ++ pre') l (post' ++ post) v w (by simp) ?_ hw
    rw [exec_append, hu, bind_some]
    exact hv
  exact exec_invariant_of_meets (fun v l w hv hl hw => hstep v w hv (hl w hw)) h hmeets ht

theorem forall_prefix_iff_meets_of {L : ι → Prop} {O : σ → Prop} (hO : ∀ s, I s → O s)
    (hstep : ∀ s l t, L l → I s → step s l = some t → (O t → G s l) ∧ (G s l → I t)) (hs : I s)
    (hL : ∀ l ∈ ls, L l)
    (h : exec step s ls = some t) : (∀ pre u, pre <+: ls → exec step s pre = some u → O u) ↔
      Meets step G s ls := by
  have hgood : ∀ s l t, I s → L l ∧ G s l → step s l = some t → I t := by
    intro s l t hI hlG hst
    exact (hstep s l t hlG.1 hI hst).2 hlG.2
  constructor
  · intro hseen
    induction ls using reverseRecOn generalizing t with
    | nil => exact meets_nil G s
    | append_singleton ls l ih =>
      obtain ⟨u, hu, hut⟩ := exec_concat_eq_some.1 h
      have hLls : ∀ m ∈ ls, L m := fun m hm => hL m (mem_append_left _ hm)
      have hls : Meets step G s ls := ih hLls hu fun pre v hpre hv =>
        hseen pre v (hpre.trans (prefix_append _ _)) hv
      refine meets_concat.2 ⟨hls, fun v hv => ?_⟩
      rw [hu] at hv
      cases hv
      -- the state before the step is in `I`, and the one after it is seen to be good
      have hIu : I u := exec_invariant_of_meets hgood hs ((meets_of_forall hLls s).and hls) hu
      exact (hstep u l t (hL l (by simp)) hIu hut).1 (hseen _ t (prefix_refl _) h)
  · rintro hmeets pre u ⟨_, rfl⟩ hu
    have hLpre : ∀ m ∈ pre, L m := fun m hm => hL m (mem_append_left _ hm)
    exact hO u (exec_invariant_of_meets hgood hs ((meets_of_forall hLpre s).and hmeets.of_append) hu)

theorem forall_prefix_iff_meets (hstep : ∀ s l t, I s → step s l = some t → (I t ↔ G s l)) (hs : I s)
    (h : exec step s ls = some t) : (∀ pre u, pre <+: ls → exec step s pre = some u → I u) ↔ Meets step G s ls :=
  forall_prefix_iff_meets_of (fun _ hI => hI)
    (fun s l t _ hI hst => ⟨(hstep s l t hI hst).1, (hstep s l t hI hst).2⟩) hs (fun _ _ => trivial) h

theorem holds_iff_meets (hstep : ∀ s l t, I s → step s l = some t → I t ∧ (P t ↔ P s ∧ G s l))
    (hI : I s) (hP : P s) (h : exec step s ls = some t) : I t ∧ (P t ↔ Meets step G s ls) := by
  induction ls using reverseRecOn generalizing t with
  | nil =>
    cases h
    exact ⟨hI, fun _ => meets_nil G s, fun _ => hP⟩
  | append_singleton _ l ih =>
    obtain ⟨u, hu, hut⟩ := exec_concat_eq_some.1 h
    obtain ⟨hIu, hPu⟩ := ih hu
    obtain ⟨hIt, hPt⟩ := hstep u l t hIu hut
    refine ⟨hIt, ?_⟩
    rw [hPt, hPu, meets_concat]
    constructor
    · rintro ⟨hls, hl⟩
      refine ⟨hls, fun v hv => ?_⟩
      rw [hu] at hv
      cases hv
      exact hl
    · rintro ⟨hls, hl⟩
      exact ⟨hls, hl u hu⟩

theorem meets_cons : Meets step G s (l :: ls) ↔ G s l ∧ ∀ t ∈ step s l, Meets step G t ls := by
  constructor
  · intro h
    refine ⟨h [] l ls s rfl rfl, fun t ht pre m post u hsplit hu => ?_⟩
    exact h (l :: pre) m post u (by rw [hsplit]; rfl) (by rw [exec, ht]; exact hu)
  · rintro ⟨hl, hls⟩ pre m post u hsplit hu
    cases pre with
    | nil =>
      obtain ⟨rfl, rfl⟩ := cons.inj hsplit
      cases hu
      exact hl
    | cons _ pre =>
      obtain ⟨rfl, rfl⟩ := cons.inj hsplit
      obtain ⟨t, ht, hu⟩ := bind_eq_some_iff.1 hu
      exact hls t ht pre m post u rfl hu

instance decidableMeets {G : σ → ι → Prop} [∀ s l, Decidable (G s l)] :
    (s : σ) → (ls : List ι) → Decidable (Meets step G s ls)
  | s, [] => isTrue (meets_nil G s)
  | s, l :: ls =>
    have : ∀ t, Decidable (Meets step G t ls) := fun t => decidableMeets t ls
    decidable_of_iff (G s l ∧ ∀ t ∈ step s l, Meets step G t ls) meets_cons.symm

instance decidableEnds {α : Type*} {P : α → Prop} [DecidablePred P] :
    (o : Option α) → Decidable (∃ a, o = some a ∧ P a)
  | none => isFalse (by simp)
  | some a => decidable_of_iff (P a) (by simp)

section

variable {α : Type*} {o : Option α} {P Q : α → Prop}

theorem ends_of (h : ∃ a, o = some a ∧ P a) (hQ : ∀ a, o = some a → P a → Q a) : ∃ a, o = some a ∧ Q a := by
  obtain ⟨a, ha, hP⟩ := h
  exact ⟨a, ha, hQ a ha hP⟩

theorem ends_and (h : ∃ a, o = some a ∧ P a) (hQ : ∀ a, o = some a → P a → Q a) : ∃ a, o = some a ∧ P a ∧ Q a :=
  ends_of h fun a ha hP => ⟨hP, hQ a ha hP⟩

theorem ends_run (h : o.isSome = true) (hQ : ∀ a, o = some a → Q a) : ∃ a, o = some a ∧ Q a := by
  obtain ⟨a, ha⟩ := isSome_iff_exists.1 h
  exact ⟨a, ha, hQ a ha⟩

end

/-! ## What happened since -/

def Since (step : σ → ι → Option σ) (Q : σ → ι → Prop) (P : σ → Prop) (s : σ) (ls : List ι) : Prop :=
  ∃ pre l post t, ls = pre ++ l :: post ∧ exec step s pre = some t ∧ Q t l ∧
    ∀ mid u, mid <+: post → exec step s (pre ++ l :: mid) = some u → P u

theorem since_concat_of_taken (ht : exec step s ls = some t) (hu : step t l = some u) (hQ : Q t l)
    (hP : P u) : Since step Q P s (ls ++ [l]) := by
  refine ⟨ls, l, [], t, rfl, ht, hQ, fun _ v hmid hv => ?_⟩
  rw [prefix_nil] at hmid
  subst hmid
  rw [exec_concat_eq_some.2 ⟨t, ht, hu⟩] at hv
  cases hv
  exact hP

theorem Since.concat (h : Since step Q P s ls) (hu : exec step s (ls ++ [l]) = some u) (hP : P u) :
    Since step Q P s (ls ++ [l]) := by
  obtain ⟨pre, m, post, t, rfl, ht, hQ, hquiet⟩ := h
  refine ⟨pre, m, post ++ [l], t, by simp, ht, hQ, fun mid v hmid hv => ?_⟩
  rcases prefix_concat_iff.1 hmid with rfl | hmid
  · rw [append_assoc, cons_append, hv] at hu
    cases hu
    exact hP
  · exact hquiet mid v hmid hv

theorem not_since (hu : exec step s ls = some u)
    (hP : ¬ P u) (hQ : ∀ l ∈ ms, ∀ t, ¬ Q t l) : ¬ Since step Q P s (ls ++ ms) := by
  rintro ⟨_, l, _, t, hsplit, _, hl, hquiet⟩
  rcases append_eq_append_iff.1 hsplit with ⟨mid, rfl, hms⟩ | ⟨mid, rfl, hpost⟩
  · exact hQ l (by rw [hms]; simp) t hl
  · rcases mid with _ | ⟨m, mid⟩
    · rw [nil_append] at hpost
      exact hQ l (by rw [← hpost]; exact mem_cons_self) t hl
    · obtain ⟨rfl, rfl⟩ := cons.inj hpost
      exact hP (hquiet mid u (prefix_append _ _) hu)

/-! ## Answers -/

section

variable {α β ρ : Type*}

def collect (step : σ → ι → Option σ) (f : σ → ι → Option α) : σ → List ι → List α
  | _, [] => []
  | s, l :: ls => (f s l).toList ++ (step s l).elim [] fun t => collect step f t ls

def answers (g : ρ → α → ρ × β) : ρ → List α → List β
  | _, [] => []
  | p, a :: as => (g p a).2 :: answers g (g p a).1 as

variable {f : σ → ι → Option α} {π : σ → ρ} {G : σ → ι → Prop} {s t : σ} {ls : List ι}

theorem collect_eq_answers {out : σ → ι → Option β} {g : ρ → α → ρ × β}
    (hstep : ∀ s l t, G s l → step s l = some t →
      (∃ a, f s l = some a ∧ out s l = some (g (π s) a).2 ∧ π t = (g (π s) a).1) ∨
        f s l = none ∧ out s l = none ∧ π t = π s) (hG : Meets step G s ls) (h : exec step s ls = some t) :
    collect step out s ls = answers g (π s) (collect step f s ls) := by
  induction ls generalizing s with
  | nil => rfl
  | cons l _ ih =>
    obtain ⟨hl, hls⟩ := meets_cons.1 hG
    obtain ⟨u, hu, hrest⟩ := bind_eq_some_iff.1 h
    have hlater := ih (hls u hu) hrest
    rcases hstep s l u hl hu with ⟨a, hf, hout, hpart⟩ | ⟨hf, hout, hpart⟩
    · simp only [collect, answers, hf, hout, hu, elim_some, toList_some, singleton_append]
      rw [hlater, hpart]
    · simp only [collect, hf, hout, hu, elim_some, toList_none, nil_append]
      rw [hlater, hpart]

theorem exec_eq_foldl {g : ρ → α → ρ}
    (hstep : ∀ s l t, G s l → step s l = some t → π t = (f s l).elim (π s) (g (π s)))
    (hG : Meets step G s ls) (h : exec step s ls = some t) : π t = (collect step f s ls).foldl g (π s) := by
  induction ls generalizing s with
  | nil =>
    cases h
    rfl
  | cons l _ ih =>
    obtain ⟨hl, hls⟩ := meets_cons.1 hG
    obtain ⟨u, hu, hrest⟩ := bind_eq_some_iff.1 h
    rw [ih (hls u hu) hrest, hstep s l u hl hu, collect, hu, foldl_append]
    cases f s l with
    | none | some => rfl

end

theorem latch_iff {σ ι : Type*} (step : σ → ι → σ) (P : σ → Prop) {sets clears : σ → ι → Prop}
    (hstep : ∀ s l, P (step s l) ↔ sets s l ∨ (P s ∧ ¬ clears s l)) {s : σ} (hs : ¬ P s)
    (ls : List ι) : P (ls.foldl step s) ↔ ∃ before a after, ls = before ++ a :: after ∧ sets
      (before.foldl step s) a ∧
        ∀ mid b rest, after = mid ++ b :: rest → ¬ clears ((before ++ a :: mid).foldl step s) b := by
  induction ls using reverseRecOn with
  | nil => exact ⟨fun h => absurd h hs, fun ⟨before, a, after, hsplit, _⟩ => by simp at hsplit⟩
  | append_singleton ls l ih =>
    rw [foldl_append, foldl_cons, foldl_nil, hstep, ih]
    constructor
    · rintro (hset | ⟨⟨before, a, after, rfl, hset, hquiet⟩, hlive⟩)
      · exact ⟨ls, l, [], rfl, hset, fun mid b rest hnil => by simp at hnil⟩
      · refine ⟨before, a, after ++ [l], by simp, hset, ?_⟩
        intro mid b rest hsplit
        -- the step in question is the last one, or one of those before
        rcases eq_nil_or_concat rest with rfl | ⟨rest', d, rfl⟩
        · obtain ⟨rfl, hb⟩ := append_inj' hsplit rfl
          obtain rfl : l = b := by simpa using hb
          exact hlive
        · have hlast : after ++ [l] = (mid ++ b :: rest') ++ [d] := hsplit.trans (by simp)
          obtain ⟨hmid, -⟩ := append_inj' hlast rfl
          exact hquiet mid b rest' hmid
    · rintro ⟨before, a, after, hsplit, hset, hquiet⟩
      rcases eq_nil_or_concat after with rfl | ⟨after', d, rfl⟩
      · obtain ⟨rfl, ha⟩ := append_inj' hsplit rfl
        obtain rfl : l = a := by simpa using ha
        exact .inl hset
      · have hlast : ls ++ [l] = (before ++ a :: after') ++ [d] := hsplit.trans (by simp)
        obtain ⟨rfl, hd⟩ := append_inj' hlast rfl
        obtain rfl : l = d := by simpa using hd
        refine .inr ⟨⟨before, a, after', rfl, hset, ?_⟩, hquiet after' l [] (by simp)⟩
        rintro mid b rest rfl
        exact hquiet mid b (rest ++ [l]) (by simp)

end Run
