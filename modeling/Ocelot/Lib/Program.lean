/-
# Programs over a shared state, run alone and interleaved.
-/
import Ocelot.Lib.Run
import Mathlib.Data.List.Basic

namespace Ocelot

open List Option Run

/-! ## Programs -/

inductive Prog (Op : Type) (Ans : Op → Type) (α : Type) where
  | ret (a : α)
  | call (op : Op) (k : Ans op → Prog Op Ans α)

namespace Prog

variable {Op : Type} {Ans : Op → Type} {α β σ ε : Type}

protected def bind : Prog Op Ans α → (α → Prog Op Ans β) → Prog Op Ans β
  | .ret a, f => f a
  | .call op k, f => .call op fun ans => (k ans).bind f

instance : Monad (Prog Op Ans) where
  pure := .ret
  bind := Prog.bind

def perform (op : Op) : Prog Op Ans (Ans op) := .call op .ret

def forEach {γ : Type} (body : γ → Prog Op Ans Unit) : List γ → Prog Op Ans Unit
  | [] => .ret ()
  | x :: xs => (body x).bind fun _ => forEach body xs

section

variable (act : ε → (op : Op) → σ → σ × Ans op)

def run : (ℕ → ε) → Prog Op Ans α → σ → σ × α
  | _, .ret a, s => (s, a)
  | env, .call op k, s =>
    let out := act (env 0) op s
    run (fun n => env (n + 1)) (k out.2) out.1

@[simp] theorem run_ret (env : ℕ → ε) (a : α) (s : σ) : run act env (.ret a : Prog Op Ans α) s = (s, a) := rfl

theorem run_call (env : ℕ → ε) (op : Op) (k : Ans op → Prog Op Ans α) (s : σ) :
    run act env (.call op k) s = run act (fun n => env (n + 1)) (k (act (env 0) op s).2)
    (act (env 0) op s).1 := rfl

theorem run_map (f : α → β) (p : Prog Op Ans α) (env : ℕ → ε) (s : σ) :
    run act env (f <$> p) s = ((run act env p s).1, f (run act env p s).2) := by
  induction p generalizing env s with
  | ret => rfl
  | call op _ ih => exact ih (act (env 0) op s).2 (fun n => env (n + 1)) (act (env 0) op s).1

end

/-! ## Triples -/

/-- **The triple**: from a state in `P`, with every environment value in `E`, the program ends with
a result and a state in `Q`. -/
def Triple (act : ε → (op : Op) → σ → σ × Ans op) (E : ε → Prop) (P : σ → Prop) (p : Prog Op Ans α)
    (Q : α → σ → Prop) : Prop :=
  ∀ env : ℕ → ε, (∀ n, E (env n)) → ∀ s, P s → Q (run act env p s).2 (run act env p s).1

namespace Triple

variable {act : ε → (op : Op) → σ → σ × Ans op} {E : ε → Prop} {P : σ → Prop} {Q : α → σ → Prop}

theorem ret {a : α} (h : ∀ s, P s → Q a s) : Triple act E P (.ret a) Q := fun _ _ s hs => h s hs

variable {op : Op} {k : Ans op → Prog Op Ans α} {R : Ans op → σ → Prop}

theorem call (hop : ∀ e s, E e → P s → R (act e op s).2 (act e op s).1)
    (hk : ∀ ans, Triple act E (R ans) (k ans) Q) :
    Triple act E P (.call op k) Q := by
  intro _ henv s hs
  rw [run_call]
  exact hk _ _ (fun n => henv (n + 1)) _ (hop _ s (henv 0) hs)

theorem bind {p : Prog Op Ans β} {f : β → Prog Op Ans α} {R : β → σ → Prop} (hp : Triple act E P p R)
    (hf : ∀ b, Triple act E (R b) (f b) Q) : Triple act E P (p.bind f) Q := by
  induction p generalizing P with
  | ret b =>
    intro env henv s hs
    exact hf b env henv s (hp env henv s hs)
  | call op _ ih =>
    -- what is left of `p` after the operation, as a precondition of its own
    refine call (R := fun ans s => ∃ e s0, E e ∧ P s0 ∧ (act e op s0).2 = ans ∧ (act e op s0).1 = s) ?_ ?_
    · intro e s he hs
      exact ⟨e, s, he, hs, rfl, rfl⟩
    · intro ans
      apply ih ans
      rintro env henv s ⟨e, s0, he, hs0, rfl, rfl⟩
      have hrest := hp (fun n => Nat.casesOn n e env) (fun n => Nat.casesOn n he henv) s0 hs0
      rw [run_call] at hrest
      exact hrest

theorem perform (hop : ∀ e s, E e → P s → R (act e op s).2 (act e op s).1)
    (hk : ∀ ans, Triple act E (R ans) (k ans) Q) :
    Triple act E P (Prog.perform op >>= k) Q := call hop hk

variable {p : Prog Op Ans α} {γ : Type} {I : σ → Prop}

theorem lift {φ : Prop} (h : φ → Triple act E P p Q) : Triple act E (fun s => φ ∧ P s) p Q := by
  rintro env henv s ⟨hφ, hs⟩
  exact h hφ env henv s hs

theorem ex {P : γ → σ → Prop} (h : ∀ x, Triple act E (P x) p Q) : Triple act E (fun s => ∃ x, P x s) p Q := by
  rintro env henv s ⟨x, hs⟩
  exact h x env henv s hs

theorem invariant (hI : ∀ e op s, E e → I s → I (act e op s).1) (p : Prog Op Ans α) :
    Triple act E I p fun _ => I := by
  induction p with
  | ret => exact ret fun _ hs => hs
  | call op _ ih => exact call (fun e s he hs => hI e op s he hs) ih

variable {R : σ → Prop} {Q' : α → σ → Prop} {P' : σ → Prop} {body : γ → Prog Op Ans Unit} {xs : List γ}

theorem map {p : Prog Op Ans β} {f : β → α} (h : Triple act E P p fun _ => R) :
    Triple act E P (f <$> p) fun _ => R :=
  bind h fun _ => ret fun _ hs => hs

theorem mono (h : Triple act E P p Q) (hQ : ∀ a s, Q a s → Q' a s) :
    Triple act E P p Q' := fun env henv s hs => hQ _ _ (h env henv s hs)

theorem and (h : Triple act E P p Q)
    (h' : Triple act E P' p Q') : Triple act E (fun s => P s ∧ P' s) p fun a s => Q a s ∧ Q' a s :=
  fun env henv s hs => ⟨h env henv s hs.1, h' env henv s hs.2⟩

theorem or (h : Triple act E P p Q) (h' : Triple act E P' p Q) : Triple act E (fun s => P s ∨ P' s) p Q :=
  fun env henv s hs => hs.elim (h env henv s) (h' env henv s)

theorem forEach (h : ∀ x ∈ xs, Triple act E I (body x) fun _ => I) :
    Triple act E I (Prog.forEach body xs) fun _ => I := by
  induction xs with
  | nil => exact ret fun _ hs => hs
  | cons x _ ih =>
    refine bind (h x mem_cons_self) fun _ => ih ?_
    intro y hy
    exact h y (mem_cons_of_mem x hy)

theorem forEach_of_mem {x : γ} (hx : x ∈ xs)
    (hI : ∀ y ∈ xs, Triple act E I (body y) fun _ => I) (hbody : Triple act E I (body x) fun _ => R)
    (hR : ∀ y ∈ xs, Triple act E R (body y) fun _ => R) : Triple act E I (Prog.forEach body xs) fun _ => R := by
  induction xs with
  | nil => cases hx
  | cons y _ ih =>
    rcases mem_cons.1 hx with rfl | hmem
    · refine bind hbody fun _ => forEach fun z hz => ?_
      exact hR z (mem_cons_of_mem _ hz)
    · refine bind (hI y mem_cons_self) fun _ => ih hmem ?_ ?_
      · intro z hz
        exact hI z (mem_cons_of_mem y hz)
      · intro z hz
        exact hR z (mem_cons_of_mem y hz)

end Triple

/-! ## What a program issues -/

inductive Issues (O : Op → Prop) : Prog Op Ans α → Prop
  | ret (a : α) : Issues O (.ret a)
  | call {op : Op} {k : Ans op → Prog Op Ans α} (hop : O op) (hk : ∀ ans, Issues O (k ans)) : Issues O (.call op k)

namespace Issues

variable {O : Op → Prop} {p : Prog Op Ans α}

theorem bind {f : α → Prog Op Ans β} (hp : Issues O p) (hf : ∀ a, Issues O (f a)) : Issues O (p.bind f) := by
  induction hp with
  | ret a => exact hf a
  | call hop _ ih => exact .call hop ih

theorem tail {op : Op} {k : Ans op → Prog Op Ans α} (h : Issues O (.call op k)) (ans : Ans op) :
    Issues O (k ans) := by
  cases h with
  | call _ hk => exact hk ans

theorem perform {op : Op} {k : Ans op → Prog Op Ans α} (hop : O op) (hk : ∀ ans, Issues O (k ans)) :
    Issues O (Prog.perform op >>= k) := .call hop hk

theorem mono {O' : Op → Prop} (hp : Issues O p) (h : ∀ op, O op → O' op) : Issues O' p := by
  induction hp with
  | ret a => exact .ret a
  | call hop _ ih => exact .call (h _ hop) ih

theorem map (hp : Issues O p) (f : α → β) : Issues O (f <$> p) := bind hp fun a => .ret (f a)

theorem ite {c : Prop} [Decidable c] {q : Prog Op Ans α} (hp : c → Issues O p)
    (hq : ¬ c → Issues O q) : Issues O (if c then p else q) := by
  split_ifs with h
  · exact hp h
  · exact hq h

theorem forEach {γ : Type} {body : γ → Prog Op Ans Unit} {xs : List γ}
    (h : ∀ x ∈ xs, Issues O (body x)) : Issues O (Prog.forEach body xs) := by
  induction xs with
  | nil => exact .ret ()
  | cons x _ ih =>
    refine bind (h x mem_cons_self) fun _ => ih fun y hy => ?_
    exact h y (mem_cons_of_mem x hy)

theorem triple {act : ε → (op : Op) → σ → σ × Ans op} {E : ε → Prop} {I : σ → Prop}
    (hp : Issues O p) (hI : ∀ e op s, E e → O op → I s → I (act e op s).1) : Triple act E I p fun _ => I := by
  induction hp with
  | ret => exact Triple.ret fun _ hs => hs
  | call hop _ ih => exact Triple.call (fun e s he hs => hI e _ s he hop hs) ih

end Issues

inductive Returns (Q : α → Prop) : Prog Op Ans α → Prop
  | ret {a : α} (h : Q a) : Returns Q (.ret a)
  | call {op : Op} {k : Ans op → Prog Op Ans α} (h : ∀ ans, Returns Q (k ans)) : Returns Q (.call op k)

end Prog

/-! ## Pools of threads -/

structure Pool (σ : Type) (Op : Type) (Ans : Op → Type) (α : Type) where
  shared : σ
  threads : List (Prog Op Ans α)

inductive Move (η ε : Type) where
  | start (h : η)
  | step (i : ℕ) (e : ε)

namespace Pool

variable {Op : Type} {Ans : Op → Type} {α σ ε η : Type}

def issued (s : Pool σ Op Ans α) : Move η ε → Option Op
  | .start _ => none
  | .step i _ =>
    match s.threads[i]? with
    | some (.call op _) => some op
    | _ => none

section

variable (act : ε → (op : Op) → σ → σ × Ans op) (code : η → Prog Op Ans α)

def step (s : Pool σ Op Ans α) : Move η ε → Option (Pool σ Op Ans α)
  | .start h => some { s with threads := s.threads ++ [code h] }
  | .step i e =>
    match s.threads[i]? with
    | some (.call op k) =>
      let out := act e op s.shared
      some ⟨out.1, s.threads.set i (k out.2)⟩
    | _ => none

theorem step_shared {s s' : Pool σ Op Ans α} {m : Move η ε} (h : step act code s m = some s') :
    (s.issued m = none ∧ s'.shared = s.shared) ∨
      ∃ i e op, m = .step i e ∧ s.issued m = some op ∧ s'.shared = (act e op s.shared).1 := by
  cases m with
  | start =>
    cases h
    exact .inl ⟨rfl, rfl⟩
  | step i e =>
    right
    rcases hth : s.threads[i]? with _ | (a | ⟨op, k⟩)
    · simp [step, hth] at h
    · simp [step, hth] at h
    · simp only [step, hth, some.injEq] at h
      subst h
      exact ⟨i, e, op, rfl, by simp only [issued, hth], rfl⟩

theorem exec_alone (i : ℕ) (p : Prog Op Ans α) :
    ∀ (env : ℕ → ε) (s : σ) (threads : List (Prog Op Ans α)), threads[i]? = some p →
      ∃ n, Run.exec (step act code) ⟨s, threads⟩ ((List.range n).map fun j => .step i (env j)) =
        some ⟨(p.run act env s).1, threads.set i (.ret (p.run act env s).2)⟩ := by
  induction p with
  | ret a =>
    intro env s threads hth
    refine ⟨0, ?_⟩
    have hsame : threads.set i (.ret a) = threads := by
      obtain ⟨hi, hget⟩ := List.getElem?_eq_some_iff.1 hth
      rw [← hget, set_getElem_self]
    simp [hsame]
  | call op k ih =>
    intro env s threads hth
    obtain ⟨hi, -⟩ := List.getElem?_eq_some_iff.1 hth
    obtain ⟨n, hn⟩ := ih (act (env 0) op s).2 (fun j => env (j + 1)) (act (env 0) op s).1
      (threads.set i (k (act (env 0) op s).2)) (by simp [hi])
    refine ⟨n + 1, ?_⟩
    rw [set_set] at hn
    rw [List.range_succ_eq_map, List.map_cons, List.map_map, Prog.run_call, Run.exec]
    simp only [step, hth, bind_some]
    exact hn

variable {act code} {s s' : Pool σ Op Ans α} {ms : List (Move η ε)} {i : ℕ}
  {m : Move η ε} {p : Prog Op Ans α} {op : Op} {k : Ans op → Prog Op Ans α} {a : α} {O : Op → Prop}

theorem step_thread_of_ne (hth : s.threads[i]? = some p)
    (hm : ∀ e, m ≠ .step i e) (h : step act code s m = some s') : s'.threads[i]? = some p := by
  obtain ⟨hi, -⟩ := List.getElem?_eq_some_iff.1 hth
  cases m with
  | start =>
    cases h
    rw [getElem?_append_left hi]
    exact hth
  | step j e =>
    have hj : j ≠ i := by
      rintro rfl
      exact hm e rfl
    rcases hother : s.threads[j]? with _ | (a | ⟨op, k⟩)
    · simp [step, hother] at h
    · simp [step, hother] at h
    · simp only [step, hother, some.injEq] at h
      subst h
      rw [getElem?_set_ne hj]
      exact hth

theorem step_thread_self {e : ε} (hth : s.threads[i]? = some (.call op k))
    (h : step act code s (.step i e) = some s') : s'.threads[i]? = some (k (act e op s.shared).2) := by
  obtain ⟨hi, -⟩ := List.getElem?_eq_some_iff.1 hth
  simp only [step, hth, some.injEq] at h
  subst h
  exact getElem?_set_self hi

theorem step_shared_self {e : ε} (hth : s.threads[i]? = some (.call op k))
    (h : step act code s (.step i e) = some s') : s'.shared = (act e op s.shared).1 := by
  simp only [step, hth, some.injEq] at h
  rw [← h]

theorem exec_thread_cases (hth : s.threads[i]? = some (.call op k)) (h : exec (step act code) s ms = some s') :
    ((∀ e, .step i e ∉ ms) ∧ s'.threads[i]? = some (.call op k)) ∨
      ∃ pre e post u u', ms = pre ++ .step i e :: post ∧ (∀ e, .step i e ∉ pre) ∧
        exec (step act code) s pre = some u ∧ u.threads[i]? = some (.call op k) ∧
        step act code u (.step i e) = some u' ∧ u'.threads[i]? = some (k (act e op u.shared).2) ∧
        exec (step act code) u' post = some s' := by
  induction ms generalizing s with
  | nil =>
    cases h
    exact .inl ⟨fun e => not_mem_nil, hth⟩
  | cons m ms ih =>
    rw [exec] at h
    obtain ⟨v, hv, hrest⟩ := bind_eq_some_iff.1 h
    by_cases hm : ∃ e, m = .step i e
    · obtain ⟨e, rfl⟩ := hm
      exact .inr ⟨[], e, ms, s, v, rfl, fun e => not_mem_nil, rfl, hth, hv, step_thread_self hth hv, hrest⟩
    · have hne : ∀ e, m ≠ .step i e := fun e he => hm ⟨e, he⟩
      have hnotmem : ∀ {l : List (Move η ε)}, (∀ e, .step i e ∉ l) → ∀ e, .step i e ∉ m :: l := by
        intro l hl e hmem
        rcases mem_cons.1 hmem with heq | hmem
        · exact hne e heq.symm
        · exact hl e hmem
      rcases ih (step_thread_of_ne hth hne hv) hrest with ⟨hnone, hsame⟩ |
        ⟨pre, e, post, u, u', rfl, hnone, hpre, hu⟩
      · exact .inl ⟨hnotmem hnone, hsame⟩
      · refine .inr ⟨m :: pre, e, post, u, u', rfl, hnotmem hnone, ?_, hu⟩
        rw [exec, hv, bind_some]
        exact hpre

theorem exec_first_step (hth : s.threads[i]? = some (.call op k))
    (h : exec (step act code) s ms = some s') (hend : s'.threads[i]? = some (.ret a)) :
    ∃ pre e post u u', ms = pre ++ .step i e :: post ∧ exec (step act code) s pre = some u ∧
      u.threads[i]? = some (.call op k) ∧ step act code u (.step i e) = some u' ∧
      u'.threads[i]? = some (k (act e op u.shared).2) ∧ exec (step act code) u' post = some s' := by
  rcases exec_thread_cases hth h with ⟨-, hsame⟩ | ⟨pre, e, post, u, u', hms, -, hrest⟩
  · rw [hsame] at hend
    cases hend
  · exact ⟨pre, e, post, u, u', hms, hrest⟩

theorem exec_second_step {op' : Ans op → Op} {k : (ans : Ans op) → Ans (op' ans) → Prog Op Ans α}
    (hth : s.threads[i]? = some (.call op fun ans => .call (op' ans) (k ans)))
    (h : exec (step act code) s ms = some s') (hend : s'.threads[i]? = some (.ret a)) :
    ∃ pre ans e post u u', ms = pre ++ .step i e :: post ∧ exec (step act code) s pre = some u ∧
      u.threads[i]? = some (.call (op' ans) (k ans)) ∧ step act code u (.step i e) = some u' ∧
      u'.threads[i]? = some (k ans (act e (op' ans) u.shared).2) ∧ exec (step act code) u' post = some s' := by
  obtain ⟨pre1, e1, _, v, _, rfl, hpre1, -, hstep1, hth1, hpost1⟩ := exec_first_step hth h hend
  obtain ⟨pre2, e2, post2, u, u', rfl, hpre2, hrest⟩ := exec_first_step hth1 hpost1 hend
  refine ⟨pre1 ++ .step i e1 :: pre2, _, e2, post2, u, u', by simp, ?_, hrest⟩
  rw [exec_append, hpre1, bind_some, exec, hstep1, bind_some]
  exact hpre2

theorem exec_thread {Q : Prog Op Ans α → Prop} (hQ : ∀ {op k}, Q (.call op k) → ∀ ans, Q (k ans))
    (hth : s.threads[i]? = some p) (hp : Q p) (h : exec (step act code) s ms = some s') :
    ∃ p', s'.threads[i]? = some p' ∧ Q p' := by
  induction ms generalizing s p with
  | nil =>
    cases h
    exact ⟨p, hth, hp⟩
  | cons m _ ih =>
    rw [exec] at h
    obtain ⟨v, hv, hrest⟩ := bind_eq_some_iff.1 h
    by_cases hm : ∃ e, m = .step i e
    · obtain ⟨e, rfl⟩ := hm
      cases p with
      | ret => simp [step, hth] at hv
      | call => exact ih (step_thread_self hth hv) (hQ hp _) hrest
    · exact ih (step_thread_of_ne hth (fun e he => hm ⟨e, he⟩) hv) hp hrest

theorem exec_issues (hth : s.threads[i]? = some p) (hp : p.Issues O)
    (h : exec (step act code) s ms = some s') : ∃ p', s'.threads[i]? = some p' ∧ p'.Issues O :=
  exec_thread (fun hk => hk.tail) hth hp h

theorem step_issues (hcode : ∀ h, (code h).Issues O) (hs : ∀ p ∈ s.threads, p.Issues O)
    (h : step act code s m = some s') : ∀ p ∈ s'.threads, p.Issues O := by
  cases m with
  | start h' =>
    cases h
    intro p hp
    rcases mem_append.1 hp with hold | hnew
    · exact hs p hold
    · rw [mem_singleton.1 hnew]
      exact hcode h'
  | step i =>
    rcases hth : s.threads[i]? with _ | (a | ⟨op, k⟩)
    · simp [step, hth] at h
    · simp [step, hth] at h
    · simp only [step, hth, some.injEq] at h
      subst h
      intro p hp
      rcases mem_or_eq_of_mem_set hp with hold | rfl
      · exact hs p hold
      · exact (hs _ (mem_of_getElem? hth)).tail _

theorem issued_mem (hs : ∀ p ∈ s.threads, p.Issues O) (h : s.issued m = some op) : O op := by
  cases m with
  | start => cases h
  | step i e =>
    simp only [issued] at h
    split at h
    · rename_i op' k hth
      cases h
      cases hs _ (mem_of_getElem? hth) with
      | call hop => exact hop
    · cases h

def Heeds (C : ε → Op → σ → Prop) (s : Pool σ Op Ans α) : Move η ε → Prop
  | .start _ => True
  | .step i e => ∀ op ∈ s.issued (.step i e : Move η ε), C e op s.shared

theorem meets_heeds_iff {C D : ε → Op → σ → Prop} (hcode : ∀ h, (code h).Issues O)
    (h : ∀ e op x, O op → (C e op x ↔ D e op x)) (x : σ) (ms : List (Move η ε)) :
    Meets (step act code) (Heeds C) ⟨x, []⟩ ms ↔ Meets (step act code) (Heeds D) ⟨x, []⟩ ms := by
  refine forall₄_congr fun _ m _ u => forall₂_congr fun _ hu => ?_
  have hths : ∀ p ∈ u.threads, p.Issues O :=
    exec_invariant (fun _ _ _ hs hstep => step_issues hcode hs hstep) (by simp) hu
  cases m with
  | start => exact Iff.rfl
  | step _ e => exact forall₂_congr fun op hop => h e op u.shared (issued_mem hths hop)

theorem exec_returns {Q : α → Prop} (hth : s.threads[i]? = some p) (hp : p.Returns Q)
    (h : exec (step act code) s ms = some s') (hend : s'.threads[i]? = some (.ret a)) : Q a := by
  obtain ⟨_, hp', hreturns⟩ := exec_thread (fun hk ans => by cases hk with | call hk => exact hk ans) hth hp h
  rw [hend] at hp'
  cases hp'
  cases hreturns with
  | ret hQ => exact hQ

end

end Pool

end Ocelot
