/-
# The books of an asynchronous write queue.
-/
import Mathlib.Data.List.Perm.Subperm
import Mathlib.Tactic.Common

namespace Outbox

open List

variable {ω : Type*}

structure Ledger (ω : Type*) where
  passed : List ω := []
  accepted : List ω := []
  lost : List ω := []
  executed : List ω := []
  refused : List ω := []
  pending : List ω := []

def Ledger.settled (l : Ledger ω) : List ω := l.executed ++ l.refused ++ l.lost

inductive Move (refusals : Prop) (l : Ledger ω) : Ledger ω → Prop where
  | stay : Move refusals l l
  | accept (op : ω) : Move refusals l
      { l with
        passed := l.passed ++ [op], accepted := l.accepted ++ [op], pending := l.pending ++ [op] }
  | lose (op : ω) : Move refusals l { l with passed := l.passed ++ [op], lost := l.lost ++ [op] }
  | execute (op : ω) (rest : List ω) (h : l.pending = op :: rest) : Move refusals l
      { l with pending := rest, executed := l.executed ++ [op] }
  | refuse (op : ω) (rest : List ω) (h : l.pending = op :: rest) (hr : refusals) : Move refusals l
      { l with pending := rest, refused := l.refused ++ [op] }

/-- **The books are in order**: what was executed and what waits stands in the order of acceptance,
and every operation is in exactly one place. -/
structure Ledger.Sound (l : Ledger ω) : Prop where
  inOrder : (l.executed ++ l.pending).Sublist l.accepted
  conserved : (l.executed ++ l.refused ++ l.pending).Perm l.accepted
  parted : l.passed.Perm (l.accepted ++ l.lost)

theorem Ledger.sound_empty : (({} : Ledger ω)).Sound := ⟨.slnil, .nil, .nil⟩

variable {refusals : Prop} {l l' : Ledger ω}

theorem Ledger.Sound.move (hl : l.Sound) (h : Move refusals l l') : l'.Sound := by
  obtain ⟨hord, hcons, hpart⟩ := hl
  cases h with
  | stay => exact ⟨hord, hcons, hpart⟩
  | accept op =>
    refine ⟨?_, ?_, ?_⟩
    · rw [← append_assoc]
      exact hord.append_right [op]
    · rw [← append_assoc]
      exact hcons.append_right [op]
    · -- the new operation moves in front of the lost ones
      have hswap : (l.accepted ++ l.lost ++ [op]).Perm (l.accepted ++ [op] ++ l.lost) := by
        rw [append_assoc, append_assoc]
        exact perm_append_comm.append_left l.accepted
      exact (hpart.append_right [op]).trans hswap
  | lose op =>
    refine ⟨hord, hcons, ?_⟩
    rw [← append_assoc]
    exact hpart.append_right [op]
  | execute op rest h =>
    rw [h] at hord hcons
    refine ⟨?_, ?_, hpart⟩
    · rw [append_assoc]
      exact hord
    · have hswap : ((l.executed ++ [op]) ++ l.refused ++ rest).Perm (l.executed ++ l.refused ++ op :: rest) := by
        have hmiddle : (op :: (l.refused ++ rest)).Perm (l.refused ++ op :: rest) := perm_middle.symm
        rw [append_assoc, append_assoc, append_assoc]
        exact hmiddle.append_left l.executed
      exact hswap.trans hcons
  | refuse op rest h =>
    rw [h] at hord hcons
    refine ⟨?_, ?_, hpart⟩
    · exact ((sublist_cons_self op rest).append_left l.executed).trans hord
    · rw [← append_assoc, append_assoc (l.executed ++ l.refused)]
      exact hcons

theorem Ledger.Sound.fifo (hl : l.Sound) (h : l.refused = []) : l.executed ++ l.pending = l.accepted := by
  have hlen := hl.conserved.length_eq
  rw [h, append_nil] at hlen
  exact hl.inOrder.eq_of_length hlen

theorem Ledger.Sound.settled_of_idle (hl : l.Sound) (h : l.pending = []) : l.passed.Perm l.settled := by
  have hcons := hl.conserved
  rw [h, append_nil] at hcons
  exact hl.parted.trans (hcons.symm.append_right l.lost)

theorem Move.refused_nil (h : Move refusals l l') (hr : ¬ refusals) (hl : l.refused = []) : l'.refused = [] := by
  cases h with
  | stay | accept | lose | execute => exact hl
  | refuse _ _ _ hrefuse => exact absurd hrefuse hr

theorem Move.passed_grows (h : Move refusals l l') : l.passed <+: l'.passed := by
  cases h with
  | stay | execute | refuse => exact prefix_rfl
  | accept | lose => exact prefix_append _ _

theorem Move.settled_grows (h : Move refusals l l') : l.settled.Subperm l'.settled := by
  cases h with
  | stay | accept => exact List.Subperm.refl _
  | lose op =>
    exact ((sublist_append_left l.lost [op]).append_left _).subperm
  | execute op =>
    exact (((sublist_append_left l.executed [op]).append_right _).append_right _).subperm
  | refuse op =>
    exact (((sublist_append_left l.refused [op]).append_left _).append_right _).subperm

end Outbox
