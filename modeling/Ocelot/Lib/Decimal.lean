/-
# Decimal numerals as byte strings.
-/
import Mathlib.Data.Nat.Digits.Lemmas

namespace Decimal

open List

def isDigit (b : UInt8) : Bool := 48 ≤ b && b ≤ 57

def digitByte (d : ℕ) : UInt8 := UInt8.ofNat (48 + d)

def numeral (n : ℕ) : List UInt8 :=
  if n = 0 then [48] else ((Nat.digits 10 n).map digitByte).reverse

def integer (n : ℤ) : List UInt8 := if n < 0 then 45 :: numeral n.natAbs else numeral n.natAbs

def value (ds : List UInt8) : ℕ := Nat.ofDigits 10 ((ds.map fun b => b.toNat - 48).reverse)

def parse (bs : List UInt8) : Option (ℕ × List UInt8) :=
  match bs.takeWhile isDigit with
  | [] => none
  | d :: ds => if d = 48 ∧ ds ≠ [] then none else some (value (d :: ds), bs.dropWhile isDigit)

variable {d : ℕ} {b : UInt8} {n : ℕ} {ds rest bs rest' : List UInt8}

theorem toNat_digitByte (h : d < 10) : (digitByte d).toNat = 48 + d := by
  unfold digitByte
  rw [UInt8.toNat_ofNat']
  omega

theorem isDigit_iff : isDigit b = true ↔ 48 ≤ b.toNat ∧ b.toNat ≤ 57 := by
  simp only [isDigit, Bool.and_eq_true, decide_eq_true_eq, UInt8.le_iff_toNat_le]
  rfl

theorem isDigit_digitByte (h : d < 10) : isDigit (digitByte d) = true := by
  rw [isDigit_iff, toNat_digitByte h]
  omega

theorem digitByte_toNat_sub (h : isDigit b = true) : digitByte (b.toNat - 48) = b := by
  rw [isDigit_iff] at h
  apply UInt8.toNat_inj.1
  rw [toNat_digitByte (by omega)]
  omega

theorem isDigit_of_mem_numeral (h : b ∈ numeral n) : isDigit b = true := by
  unfold numeral at h
  split at h
  · rw [mem_singleton.1 h]
    rfl
  · obtain ⟨d, hd, rfl⟩ := mem_map.1 (mem_reverse.1 h)
    exact isDigit_digitByte (Nat.digits_lt_base (by norm_num) hd)

theorem value_numeral (n : ℕ) : value (numeral n) = n := by
  unfold numeral
  split
  · rename_i hn
    rw [hn]
    rfl
  · have hdigs : (Nat.digits 10 n).map ((fun b : UInt8 => b.toNat - 48) ∘ digitByte) = Nat.digits 10 n := by
      refine (map_congr_left fun d hd => ?_).trans (map_id _)
      have hlt := Nat.digits_lt_base (by norm_num) hd
      rw [Function.comp_apply, toNat_digitByte hlt]
      exact Nat.add_sub_cancel_left ..
    rw [value, ← map_reverse, reverse_reverse, map_map, hdigs, Nat.ofDigits_digits]

theorem numeral_ne_nil (n : ℕ) : numeral n ≠ [] := by
  unfold numeral
  split
  · exact cons_ne_nil _ _
  · rename_i hn
    simpa [Nat.digits_eq_nil_iff_eq_zero] using hn

theorem numeral_lead (h : numeral n = 48 :: ds) : ds = [] := by
  unfold numeral at h
  split at h
  · exact (cons.inj h).2.symm
  · rename_i hn
    -- the last digit of the list of Mathlib is the first that is written
    have hlast := Nat.getLast_digit_ne_zero 10 hn
    have hne : Nat.digits 10 n ≠ [] := Nat.digits_ne_nil_iff_ne_zero.2 hn
    have hlt : (Nat.digits 10 n).getLast hne < 10 := Nat.digits_lt_base (by norm_num) (getLast_mem _)
    have hhead : (((Nat.digits 10 n).map digitByte).reverse).head? = some
        (digitByte ((Nat.digits 10 n).getLast hne)) := by
      rw [head?_reverse, getLast?_map, getLast?_eq_some_getLast hne, Option.map_some]
    rw [h, head?_cons, Option.some_inj] at hhead
    have hval := congrArg UInt8.toNat hhead
    rw [toNat_digitByte hlt] at hval
    change 48 = _ at hval
    omega

theorem numeral_value {d : UInt8} (hdig : ∀ b ∈ d :: ds, isDigit b = true)
    (hlead : ds = [] ∨ d ≠ 48) : numeral (value (d :: ds)) = d :: ds := by
  by_cases hzero : d = 48
  · obtain rfl : ds = [] := hlead.resolve_right (not_not.2 hzero)
    rw [hzero]
    rfl
  · set digits := ((d :: ds).map fun b : UInt8 => b.toNat - 48).reverse with hdigs
    have hd := isDigit_iff.1 (hdig d mem_cons_self)
    have hne : digits ≠ [] := by simp [hdigs]
    have hlt : ∀ x ∈ digits, x < 10 := by
      intro x hx
      obtain ⟨b, hb, rfl⟩ := mem_map.1 (mem_reverse.1 hx)
      have hb := isDigit_iff.1 (hdig b hb)
      omega
    have hlast : ∀ h : digits ≠ [], digits.getLast h ≠ 0 := by
      intro h
      have hhead : digits.getLast h = d.toNat - 48 := by simp [hdigs]
      rw [hhead]
      intro _
      exact hzero (UInt8.toNat_inj.1 (show d.toNat = 48 by omega))
    have hback := Nat.digits_ofDigits 10 (by norm_num) digits hlt hlast
    have hpos : value (d :: ds) ≠ 0 := by
      intro hval
      have hnil : Nat.digits 10 (value (d :: ds)) = [] := by rw [hval]; rfl
      exact hne (hback.symm.trans hnil)
    rw [numeral, if_neg hpos]
    change ((Nat.digits 10 (Nat.ofDigits 10 digits)).map digitByte).reverse = d :: ds
    rw [hback, hdigs, ← map_reverse, reverse_reverse, map_map]
    refine (map_congr_left fun b hb => ?_).trans (map_id _)
    exact digitByte_toNat_sub (hdig b hb)

theorem takeWhile_numeral (n : ℕ) (h : ∀ b ∈ rest.head?, isDigit b = false) :
    (numeral n ++ rest).takeWhile isDigit = numeral n ∧ (numeral n ++ rest).dropWhile isDigit = rest := by
  have hall : ∀ b ∈ numeral n, isDigit b = true := fun b hb => isDigit_of_mem_numeral hb
  rw [takeWhile_append_of_pos hall, dropWhile_append_of_pos hall]
  cases rest with
  | nil => simp
  | cons b =>
    have hb : isDigit b = false := h b rfl
    simp [hb]

theorem parse_numeral (n : ℕ) (h : ∀ b ∈ rest.head?, isDigit b = false) :
    parse (numeral n ++ rest) = some (n, rest) := by
  obtain ⟨htake, hdrop⟩ := takeWhile_numeral n h
  obtain ⟨d, ds, hds⟩ := exists_cons_of_ne_nil (numeral_ne_nil n)
  have hlead : ¬ (d = 48 ∧ ds ≠ []) := by
    rintro ⟨rfl, hne⟩
    exact hne (numeral_lead hds)
  unfold parse
  rw [htake, hdrop, hds]
  dsimp only
  rw [if_neg hlead, ← hds, value_numeral]

theorem parse_sound (h : parse bs = some (n, rest)) : bs = numeral n ++ rest := by
  have hsplit : bs.takeWhile isDigit ++ bs.dropWhile isDigit = bs := takeWhile_append_dropWhile
  have hall : ∀ b ∈ bs.takeWhile isDigit, isDigit b = true := all_eq_true.1 all_takeWhile
  unfold parse at h
  cases hds : bs.takeWhile isDigit with
  | nil =>
    rw [hds] at h
    cases h
  | cons d ds =>
    rw [hds] at h hsplit hall
    dsimp only at h
    split at h
    · cases h
    · rename_i hlead
      cases h
      have hcan : ds = [] ∨ d ≠ 48 := by
        by_cases hd : d = 48
        · exact .inl (not_not.1 fun hne => hlead ⟨hd, hne⟩)
        · exact .inr hd
      rw [numeral_value hall hcan]
      exact hsplit.symm

theorem numeral_append_inj {m : ℕ} (h : numeral n ++ rest = numeral m ++ rest')
    (hrest : ∀ b ∈ rest.head?, isDigit b = false)
    (hrest' : ∀ b ∈ rest'.head?, isDigit b = false) : n = m ∧ rest = rest' := by
  have hparse := parse_numeral n hrest
  rw [h, parse_numeral m hrest'] at hparse
  cases hparse
  exact ⟨rfl, rfl⟩

theorem cons_ne_numeral_append : 45 :: bs ≠ numeral n ++ rest := by
  intro h
  obtain ⟨d, _, hds⟩ := exists_cons_of_ne_nil (numeral_ne_nil n)
  rw [hds, cons_append] at h
  obtain ⟨rfl, -⟩ := cons.inj h
  have hdig : isDigit 45 = true := isDigit_of_mem_numeral (by rw [hds]; exact mem_cons_self)
  exact absurd hdig (by decide)

theorem integer_append_inj {n m : ℤ} (h : integer n ++ rest = integer m ++ rest')
    (hrest : ∀ b ∈ rest.head?, isDigit b = false)
    (hrest' : ∀ b ∈ rest'.head?, isDigit b = false) : n = m ∧ rest = rest' := by
  unfold integer at h
  split_ifs at h with hn hm hm
  · obtain ⟨habs, hrests⟩ := numeral_append_inj (cons.inj h).2 hrest hrest'
    exact ⟨by omega, hrests⟩
  · exact absurd h cons_ne_numeral_append
  · exact absurd h.symm cons_ne_numeral_append
  · obtain ⟨habs, hrests⟩ := numeral_append_inj h hrest hrest'
    exact ⟨by omega, hrests⟩

end Decimal
