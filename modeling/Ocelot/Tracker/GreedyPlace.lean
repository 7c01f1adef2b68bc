/-
# Spreading replicas over failure domains (`tracker/locality.go`).
-/
import Ocelot.Tracker.Types

namespace Ocelot.Tracker

open List

structure NodeCandidate (F : Type) where
  nodeID : UInt64
  failureDomain : Bytes
  score : F
  deriving DecidableEq

namespace NodeCandidate

variable {F κ : Type} [DecidableEq κ] {key : NodeCandidate F → κ} {needed : ℕ}
  {before cs ranked : List (NodeCandidate F)}

/-- The body of both loops of `GreedyPlace`, after whose `break` the remaining rounds do nothing:
the first loop compares failure domains (`covered` holds those of the nodes selected so far), the
second node ids. -/
def pick (key : NodeCandidate F → κ) (needed : ℕ) (selected : List (NodeCandidate F))
    (c : NodeCandidate F) : List (NodeCandidate F) :=
  if needed ≤ selected.length ∨ key c ∈ selected.map key then selected else selected ++ [c]

def greedyPlace (ranked : List (NodeCandidate F)) (needed : ℕ) : List (NodeCandidate F) :=
  ranked.foldl (pick nodeID needed) (ranked.foldl (pick failureDomain needed) [])

def domains (cs : List (NodeCandidate F)) : Finset Bytes := (cs.map failureDomain).toFinset

/-- What a placement is to be. -/
structure Spreads (ranked : List (NodeCandidate F)) (needed : ℕ) (selected : List (NodeCandidate F)) : Prop where
  length : selected.length = min needed ranked.length
  distinct : (selected.map nodeID).Nodup
  listed : selected ⊆ ranked
  covered : (domains selected).card = min needed (domains ranked).card
  represented : ∀ c ∈ selected, ∃ best ∈ selected, ranked.find? (·.failureDomain = c.failureDomain) = some best

/-- What one loop over `cs` makes of `before`. -/
structure Picked (key : NodeCandidate F → κ) (needed : ℕ) (before cs after : List (NodeCandidate F)) : Prop where
  kept : before <+: after
  length : after.length ≤ max needed before.length
  nodup : (after.map key).Nodup
  first : ∀ c ∈ after, c ∈ before ∨ key c ∉ before.map key ∧ cs.find? (key · = key c) = some c
  full : after.length < needed → ∀ c ∈ cs, key c ∈ after.map key

theorem picked_foldl (h : (before.map key).Nodup) :
    Picked key needed before cs (cs.foldl (pick key needed) before) := by
  induction cs generalizing before with
  | nil => exact ⟨prefix_rfl, le_max_right .., h, fun _ => .inl, by simp⟩
  | cons c _ ih =>
    rw [foldl_cons, pick]
    split_ifs with hskip
    · obtain ⟨hkept, hlen, hnodup, hfirst, hfull⟩ := ih h
      rcases hskip with hroom | hseen
      · have hsame := hkept.eq_of_length (le_antisymm hkept.length_le (hlen.trans_eq (max_eq_right hroom)))
        rw [← hsame]
        exact ⟨prefix_rfl, le_max_right .., h, fun _ => .inl, fun hlt => absurd hroom hlt.not_ge⟩
      · refine ⟨hkept, hlen, hnodup, fun d hd => ?_, fun hlt d hd => ?_⟩
        · refine (hfirst d hd).imp_right fun ⟨hnew, hfind⟩ => ⟨hnew, ?_⟩
          rw [find?_cons_of_neg (by simpa using fun hkey : key c = key d => hnew (hkey ▸ hseen)), hfind]
        · rcases mem_cons.1 hd with rfl | hd
          · exact (hkept.map key).subset hseen
          · exact hfull hlt d hd
    · rw [not_or, not_le] at hskip
      have hnod' : ((before ++ [c]).map key).Nodup := by
        rw [map_append, nodup_append]
        exact ⟨h, nodup_singleton _, fun a ha b hb hab => hskip.2 (by rw [← mem_singleton.1 hb, ← hab]; exact ha)⟩
      obtain ⟨hkept, hlen, hnodup, hfirst, hfull⟩ := ih hnod'
      rw [length_append, length_singleton] at hlen
      refine ⟨(prefix_append _ _).trans hkept, by omega, hnodup, fun d hd => ?_, fun hlt d hd => ?_⟩
      · rcases hfirst d hd with hd | ⟨hnew, hfind⟩
        · rcases mem_append.1 hd with hd | hd
          · exact .inl hd
          · rw [mem_singleton.1 hd]
            exact .inr ⟨hskip.2, find?_cons_of_pos (decide_eq_true rfl)⟩
        · rw [map_append, mem_append, not_or, map_singleton, mem_singleton] at hnew
          exact .inr ⟨hnew.1, by rw [find?_cons_of_neg (by simpa using Ne.symm hnew.2), hfind]⟩
      · rcases mem_cons.1 hd with rfl | hd
        · exact (hkept.map key).subset (by simp)
        · exact hfull hlt d hd

theorem domains_mono (h : before ⊆ cs) : domains before ⊆ domains cs :=
  fun _ hd => mem_toFinset.2 (map_subset _ h (mem_toFinset.1 hd))

/-- **The greedy placement spreads**, whatever the domains are. -/
theorem spreads_greedyPlace (hranked : (ranked.map nodeID).Nodup) :
    Spreads ranked needed (greedyPlace ranked needed) := by
  have hone : Picked failureDomain needed [] ranked _ := picked_foldl nodup_nil
  unfold greedyPlace
  generalize ranked.foldl (pick failureDomain needed) [] = first at hone ⊢
  have hlist : ∀ c ∈ first, ranked.find? (·.failureDomain = c.failureDomain) = some c :=
    fun c hc => ((hone.first c hc).resolve_left not_mem_nil).2
  have hsub : first ⊆ ranked := fun c hc => mem_of_find?_eq_some (hlist c hc)
  have htwo : Picked nodeID needed first ranked _ :=
    picked_foldl (hone.nodup.of_map.map_on fun a ha b hb h => inj_on_of_nodup_map hranked (hsub ha) (hsub hb) h)
  generalize ranked.foldl (pick nodeID needed) first = selected at htwo ⊢
  have hsel : selected ⊆ ranked := fun c hc =>
    (htwo.first c hc).elim (fun h => hsub h) fun h => mem_of_find?_eq_some h.2
  have hcard : (domains first).card = first.length := by
    rw [domains, toFinset_card_of_nodup hone.nodup, length_map]
  -- either the first loop has met every domain, or it has left no room
  have hcover : domains first = domains ranked ∨ needed = first.length ∧ selected = first := by
    rcases lt_or_ge first.length needed with hroom | hroom
    · refine .inl (Finset.Subset.antisymm (domains_mono hsub) fun d hd => ?_)
      obtain ⟨c, hc, rfl⟩ := mem_map.1 (mem_toFinset.1 hd)
      exact mem_toFinset.2 (hone.full hroom c hc)
    · have hlen := htwo.length
      rw [max_eq_right hroom] at hlen
      exact .inr ⟨le_antisymm hroom (by simpa using hone.length),
        (htwo.kept.eq_of_length (le_antisymm htwo.kept.length_le hlen)).symm⟩
  have hdomains : domains selected = domains first := by
    refine Finset.Subset.antisymm ?_ (domains_mono htwo.kept.subset)
    rcases hcover with h | ⟨-, h⟩
    · exact h ▸ domains_mono hsel
    · rw [h]
  refine ⟨?_, htwo.nodup, hsel, ?_, fun c hc => ?_⟩
  · have hmost := (htwo.nodup.of_map.subperm hsel).length_le
    have hall : selected.length < needed → ranked.length ≤ selected.length := by
      intro hroom
      have hids : ranked.map nodeID ⊆ selected.map nodeID := by
        intro _ hid
        obtain ⟨c, hc, rfl⟩ := mem_map.1 hid
        exact htwo.full hroom c hc
      simpa using (hranked.subperm hids).length_le
    have hfirst := hone.length
    have hlen := htwo.length
    simp only [length_nil] at hfirst
    omega
  · have hle := Finset.card_le_card (domains_mono hsub)
    have hfirst := hone.length
    simp only [length_nil] at hfirst
    rw [hdomains, hcard]
    rcases hcover with h | ⟨h, -⟩
    · rw [h] at hcard
      omega
    · omega
  · have hmem : c.failureDomain ∈ domains first := hdomains ▸ mem_toFinset.2 (mem_map_of_mem hc)
    obtain ⟨best, hbest, hdomain⟩ := mem_map.1 (mem_toFinset.1 hmem)
    exact ⟨best, htwo.kept.subset hbest, hdomain ▸ hlist best hbest⟩

def Sample.racks : List (NodeCandidate ℚ) := [⟨1, [0], 9⟩, ⟨2, [0], 8⟩, ⟨3, [1], 7⟩]

theorem spreads_racks : Spreads Sample.racks 2 [⟨1, [0], 9⟩, ⟨3, [1], 7⟩] :=
  @spreads_greedyPlace _ 2 Sample.racks (by decide)

end NodeCandidate

end Ocelot.Tracker
