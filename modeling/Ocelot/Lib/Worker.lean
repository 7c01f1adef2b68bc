/-
# A worker that runs one program at a time, and may be cut off.
-/
import Ocelot.Lib.Program

namespace Ocelot

open List

/-! ## Weakest preconditions -/

namespace Prog

variable {Op : Type} {Ans : Op → Type} {α β γ σ ε : Type}

/-- **The guarded weakest precondition.** -/
def Wp (act : ε → (op : Op) → σ → σ × Ans op) (G : ε → Op → σ → Prop) (J : σ → Prop) :
    Prog Op Ans α → (α → σ → Prop) → σ → Prop
  | .ret a, Q, s => Q a s
  | .call op k, Q, s => ∀ e, G e op s → J (act e op s).1 ∧ Wp act G J (k (act e op s).2) Q (act e op s).1

/-- A guard holds at each call that a run of the program makes. -/
def Along (act : ε → (op : Op) → σ → σ × Ans op) (G : ε → Op → σ → Prop) : (ℕ → ε) → Prog Op Ans α → σ → Prop
  | _, .ret _, _ => True
  | env, .call op k, s =>
    G (env 0) op s ∧ Along act G (fun n => env (n + 1)) (k (act (env 0) op s).2) (act (env 0) op s).1

theorem Along.of_forall {act : ε → (op : Op) → σ → σ × Ans op} {G : ε → Op → σ → Prop} {env : ℕ → ε}
    (h : ∀ n op t, G (env n) op t) (p : Prog Op Ans α) (s : σ) : Along act G env p s := by
  induction p generalizing s env with
  | ret => trivial
  | call op _ ih => exact ⟨h 0 op s, ih _ (fun n => h (n + 1)) _⟩

namespace Wp

variable {act : ε → (op : Op) → σ → σ × Ans op} {G : ε → Op → σ → Prop} {J : σ → Prop} {p : Prog Op Ans α}
  {Q Q' : α → σ → Prop} {s : σ}

theorem mono (h : Wp act G J p Q s) (hQ : ∀ a t, Q a t → Q' a t) : Wp act G J p Q' s := by
  induction p generalizing s with
  | ret a => exact hQ a s h
  | call _ _ ih =>
    intro e he
    obtain ⟨hJ, hrest⟩ := h e he
    exact ⟨hJ, ih _ hrest⟩

variable {f : α → Prog Op Ans β} {R : β → σ → Prop} {O : Op → Prop} {K : σ → Prop} {body : γ → Prog Op Ans Unit}
   {I : σ → Prop} {xs : List γ}

theorem bind (h : Wp act G J p (fun a t => Wp act G J (f a) R t) s) : Wp act G J (p.bind f) R s := by
  induction p generalizing s with
  | ret => exact h
  | call _ _ ih =>
    intro e he
    exact ⟨(h e he).1, ih _ (h e he).2⟩

theorem run {env : ℕ → ε} (h : Wp act G J p Q s) (hG : Along act G env p s) :
    Q (Prog.run act env p s).2 (Prog.run act env p s).1 := by
  induction p generalizing s env with
  | ret => exact h
  | call _ _ ih => exact ih _ (h (env 0) hG.1).2 hG.2

theorem seq (h : Wp act G J p (fun a t => Wp act G J (f a) R t) s) : Wp act G J (p >>= f) R s := bind h

theorem perform {op : Op} {k : Ans op → Prog Op Ans α}
    (h : ∀ e, G e op s → J (act e op s).1 ∧ Wp act G J (k (act e op s).2) Q (act e op s).1) :
    Wp act G J (Prog.perform op >>= k) Q s := h

theorem ite {c : Prop} [Decidable c] {q : Prog Op Ans α} (hp : c → Wp act G J p Q s)
    (hq : ¬ c → Wp act G J q Q s) :
    Wp act G J (if c then p else q) Q s := by
  split_ifs with h
  · exact hp h
  · exact hq h

theorem of_issues (hp : p.Issues O) (hkeep : ∀ e op t, G e op t → O op → K t → K (act e op t).1)
    (hJ : ∀ t, K t → J t) (hs : K s) : Wp act G J p (fun _ => K) s := by
  induction hp generalizing s with
  | ret => exact hs
  | call hop _ ih =>
    intro e he
    have hnext := hkeep e _ s he hop hs
    exact ⟨hJ _ hnext, ih _ hnext⟩

theorem frame (h : Wp act G J p Q s) (hp : p.Issues O)
    (hkeep : ∀ e op t, G e op t → O op → K t → K (act e op t).1) (hs : K s) :
    Wp act G J p (fun a t => Q a t ∧ K t) s := by
  induction hp generalizing s with
  | ret => exact ⟨h, hs⟩
  | call hop _ ih =>
    intro e he
    exact ⟨(h e he).1, ih _ (h e he).2 (hkeep e _ s he hop hs)⟩

theorem of_reads (hp : p.Issues O) (hread : ∀ e op t, O op → (act e op t).1 = t) (hJ : J s)
    (hQ : ∀ a, Q a s) : Wp act G J p Q s := by
  refine mono (of_issues (K := fun t => t = s) hp ?_ ?_ rfl) ?_
  · rintro e op t - hop rfl
    exact hread e op t hop
  · rintro t rfl
    exact hJ
  · rintro a t rfl
    exact hQ a

theorem forEach (h : ∀ x ∈ xs, ∀ t, I t → Wp act G J (body x) (fun _ => I) t) (hs : I s) :
    Wp act G J (Prog.forEach body xs) (fun _ => I) s := by
  induction xs generalizing s with
  | nil => exact hs
  | cons x _ ih =>
    refine bind (mono (h x mem_cons_self s hs) fun _ t ht => ih ?_ ht)
    intro y hy
    exact h y (mem_cons_of_mem x hy)

theorem forEach_each {F D : γ → σ → Prop} {O : γ → Op → Prop} {apart : γ → γ → Prop}
    (hxs : xs.Pairwise apart) (hiss : ∀ x, (body x).Issues (O x))
    (hF : ∀ x y e op t, apart x y → G e op t → O x op → F y t → F y (act e op t).1)
    (hD : ∀ x y e op t, apart x y → G e op t → O y op → D x t → D x (act e op t).1)
    (hbody : ∀ x ∈ xs, ∀ t, I t → F x t → Wp act G J (body x) (fun _ u => I u ∧ D x u) t) (hs : I s)
    (hFs : ∀ x ∈ xs, F x s) :
    Wp act G J (Prog.forEach body xs) (fun _ u => I u ∧ ∀ x ∈ xs, D x u) s := by
  induction xs generalizing s with
  | nil => exact ⟨hs, fun x hx => absurd hx not_mem_nil⟩
  | cons x xs ih =>
    obtain ⟨hx, hrest⟩ := pairwise_cons.1 hxs
    -- after the turn of `x`, the facts about the elements that are left are still there
    have hturn : Wp act G J (body x) (fun _ u => (I u ∧ D x u) ∧ ∀ y ∈ xs, F y u) s := by
      refine frame (hbody x mem_cons_self s hs (hFs x mem_cons_self)) (hiss x) ?_ ?_
      · intro e op t he hop ht y hy
        exact hF x y e op t (hx y hy) he hop (ht y hy)
      · exact fun y hy => hFs y (mem_cons_of_mem x hy)
    refine bind (mono hturn fun _ t ht => ?_)
    obtain ⟨⟨hI, hDx⟩, hFt⟩ := ht
    have hlater := ih hrest (fun y hy => hbody y (mem_cons_of_mem x hy)) hI hFt
    refine mono (frame hlater (Issues.forEach (O := fun op => ∃ y ∈ xs, O y op) fun y hy => ?_) ?_ hDx) ?_
    · exact (hiss y).mono fun op hop => ⟨y, hy, hop⟩
    · rintro e op t he ⟨y, hy, hop⟩ ht
      exact hD x y e op t (hx y hy) he hop ht
    · exact fun _ u hu => ⟨hu.1.1, forall_mem_cons.2 ⟨hu.2, hu.1.2⟩⟩

end Wp

end Prog

/-! ## The worker -/

structure Worker (σ : Type) (Op : Type) (Ans : Op → Type) (α : Type) where
  shared : σ
  current : Option (Prog Op Ans α)

inductive Turn (η ε : Type) where
  | begin (h : η)
  | step (e : ε)
  | stop

namespace Worker

variable {Op : Type} {Ans : Op → Type} {α σ ε η : Type}

def isIdle (s : Worker σ Op Ans α) : Bool :=
  match s.current with
  | some (.call _ _) => false
  | _ => true

section

variable (act : ε → (op : Op) → σ → σ × Ans op) (code : η → Prog Op Ans α)

def step (s : Worker σ Op Ans α) : Turn η ε → Option (Worker σ Op Ans α)
  | .begin h => if s.isIdle then some { s with current := some (code h) } else none
  | .step e =>
    match s.current with
    | some (.call op k) =>
      let out := act e op s.shared
      some ⟨out.1, some (k out.2)⟩
    | _ => none
  | .stop => some { s with current := none }

end

def Guarded (G : ε → Op → σ → Prop) (H : σ → Prop) (s : Worker σ Op Ans α) : Turn η ε → Prop
  | .begin _ => True
  | .step e =>
    match s.current with
    | some (.call op _) => G e op s.shared
    | _ => True
  | .stop => H s.shared

instance (G : ε → Op → σ → Prop) (H : σ → Prop) [∀ e op s, Decidable (G e op s)] [DecidablePred H]
    (s : Worker σ Op Ans α) (l : Turn η ε) : Decidable (Guarded G H s l) := by
  unfold Guarded
  split
  · infer_instance
  · split <;> infer_instance
  · infer_instance

variable {act : ε → (op : Op) → σ → σ × Ans op} {code : η → Prog Op Ans α} {G : ε → Op → σ → Prop}
  {H I J : σ → Prop}

structure Holds (act : ε → (op : Op) → σ → σ × Ans op) (G : ε → Op → σ → Prop) (I J : σ → Prop)
    (s : Worker σ Op Ans α) :
    Prop where
  during : J s.shared
  left : ∀ p, s.current = some p → p.Wp act G J (fun _ => I) s.shared
  idle : s.current = none → I s.shared

variable {s s' : Worker σ Op Ans α} {ls : List (Turn η ε)}

theorem Holds.of_idle (h : s.Holds act G I J) (hidle : s.isIdle = true) : I s.shared := by
  unfold isIdle at hidle
  split at hidle
  · cases hidle
  · rename_i hcurrent
    cases hprog : s.current with
    | none => exact h.idle hprog
    | some p =>
      cases p with
      | ret => exact h.left _ hprog
      | call op k => exact absurd hprog (hcurrent op k)

theorem step_holds (hcode : ∀ h t, I t → (code h).Wp act G J (fun _ => I) t)
    (hstop : ∀ t, J t → H t → I t) {l : Turn η ε} (h : s.Holds act G I J) (hl : s.Guarded G H l)
    (hstep : step act code s l = some s') : s'.Holds act G I J := by
  cases l with
  | begin c =>
    unfold step at hstep
    split_ifs at hstep with hidle
    cases hstep
    refine ⟨h.during, fun p hp => ?_, fun hnone => by cases hnone⟩
    cases hp
    exact hcode c s.shared (h.of_idle hidle)
  | step e =>
    rcases hprog : s.current with _ | (a | ⟨op, k⟩)
    · simp [step, hprog] at hstep
    · simp [step, hprog] at hstep
    · simp only [step, hprog, Option.some.injEq] at hstep
      simp only [Guarded, hprog] at hl
      subst hstep
      obtain ⟨hJ, hrest⟩ := h.left _ hprog e hl
      refine ⟨hJ, fun p hp => ?_, fun hnone => by cases hnone⟩
      cases hp
      exact hrest
  | stop =>
    cases hstep
    exact ⟨h.during, fun p hp => (by cases hp), fun _ => hstop s.shared h.during hl⟩

theorem exec_holds (hcode : ∀ h t, I t → (code h).Wp act G J (fun _ => I) t)
    (hstop : ∀ t, J t → H t → I t) (hstart : s.Holds act G I J)
    (hmeets : Run.Meets (step act code) (Guarded G H) s ls)
    (hrun : Run.exec (step act code) s ls = some s') : s'.Holds act G I J :=
  Run.exec_invariant_of_meets (fun _ _ _ hu hl hst => step_holds hcode hstop hu hl hst) hstart hmeets hrun

theorem exec_guarded (hIJ : ∀ t, I t → J t) (hcode : ∀ h t, I t →
    (code h).Wp act G J (fun _ => I) t) (hstop : ∀ t, J t → H t → I t) {t : σ} (ht : I t)
    (hmeets : Run.Meets (step act code) (Guarded G H) ⟨t, none⟩ ls)
    (hrun : Run.exec (step act code) ⟨t, none⟩ ls = some s') : J s'.shared ∧ (s'.isIdle = true → I s'.shared) := by
  have hstart : Holds act G I J (⟨t, none⟩ : Worker σ Op Ans α) :=
    ⟨hIJ t ht, fun p hp => (by cases hp), fun _ => ht⟩
  have hend := exec_holds hcode hstop hstart hmeets hrun
  exact ⟨hend.during, hend.of_idle⟩

theorem exists_isIdle (s : Worker σ Op Ans α) (e : ℕ → ε) :
    ∃ n s', Run.exec (step act code) s ((List.range n).map fun k => .step (e k)) = some s' ∧ s'.isIdle = true := by
  obtain ⟨t, current⟩ := s
  cases current with
  | none => exact ⟨0, _, rfl, rfl⟩
  | some p =>
    induction p generalizing t e with
    | ret => exact ⟨0, _, rfl, rfl⟩
    | call op _ ih =>
      obtain ⟨n, s', hrun, hidle⟩ := ih (act (e 0) op t).2 (fun m => e (m + 1)) (act (e 0) op t).1
      refine ⟨n + 1, s', ?_, hidle⟩
      rw [range_succ_eq_map, map_cons, map_map]
      exact hrun

end Worker

end Ocelot
