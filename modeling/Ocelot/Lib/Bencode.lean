/-
# Canonical bencode: the values, their one encoding, and a strict decoder.
-/
import Ocelot.Lib.Decimal
import Mathlib.Data.List.Chain

namespace Bencode

open List Option Decimal

/-! ## Values -/

inductive Value where
  | str (s : List UInt8)
  | int (n : ℤ)
  | list (items : List Value)
  | dict (entries : List (List UInt8 × Value))

def encodeString (s : List UInt8) : List UInt8 := numeral s.length ++ 58 :: s

mutual

def Value.encode : Value → List UInt8
  | .str s => encodeString s
  | .int n => 105 :: (integer n ++ [101])
  | .list items => 108 :: (encodeItems items ++ [101])
  | .dict entries => 100 :: (encodeEntries entries ++ [101])

def encodeItems : List Value → List UInt8
  | [] => []
  | v :: items => v.encode ++ encodeItems items

def encodeEntries : List (List UInt8 × Value) → List UInt8
  | [] => []
  | (k, v) :: entries => encodeString k ++ v.encode ++ encodeEntries entries

end

mutual

def Value.Every (P : Value → Prop) : Value → Prop
  | .str s => P (.str s)
  | .int n => P (.int n)
  | .list items => P (.list items) ∧ EveryItem P items
  | .dict entries => P (.dict entries) ∧ EveryEntry P entries

def EveryItem (P : Value → Prop) : List Value → Prop
  | [] => True
  | v :: items => v.Every P ∧ EveryItem P items

def EveryEntry (P : Value → Prop) : List (List UInt8 × Value) → Prop
  | [] => True
  | (_, v) :: entries => v.Every P ∧ EveryEntry P entries

end

def Value.Ascending : Value → Prop
  | .dict entries => (entries.map Prod.fst).IsChain (· < ·)
  | _ => True

def Value.Canonical (v : Value) : Prop := v.Every Value.Ascending

/-! ## The decoder -/

def parseString (bs : List UInt8) : Option (List UInt8 × List UInt8) :=
  match parse bs with
  | some (n, 58 :: rest) => if n ≤ rest.length then some (rest.take n, rest.drop n) else none
  | _ => none

def parseNat (bs : List UInt8) : Option (ℕ × List UInt8) :=
  match parse bs with
  | some (n, 101 :: rest) => some (n, rest)
  | _ => none

def parseInt : List UInt8 → Option (ℤ × List UInt8)
  | 45 :: bs => (parseNat bs).bind fun r => if r.1 = 0 then none else some (-(r.1 : ℤ), r.2)
  | bs => (parseNat bs).map fun r => ((r.1 : ℤ), r.2)

mutual

def parse : ℕ → List UInt8 → Option (Value × List UInt8)
  | 0, _ => none
  | _ + 1, [] => none
  | n + 1, b :: bs =>
    if b = 105 then (parseInt bs).map fun r => (.int r.1, r.2)
    else if b = 108 then (parseItems n bs).map fun r => (.list r.1, r.2)
    else if b = 100 then
      (parseEntries n bs).bind fun r =>
        -- also refuses a key that is repeated
        if (r.1.map Prod.fst).IsChain (· < ·) then some (.dict r.1, r.2) else none
    else (parseString (b :: bs)).map fun r => (.str r.1, r.2)

def parseItems : ℕ → List UInt8 → Option (List Value × List UInt8)
  | 0, _ => none
  | _ + 1, [] => none
  | n + 1, b :: bs =>
    if b = 101 then some ([], bs)
    else (parse n (b :: bs)).bind fun r => (parseItems n r.2).map fun r' => (r.1 :: r'.1, r'.2)

def parseEntries : ℕ → List UInt8 → Option (List (List UInt8 × Value) × List UInt8)
  | 0, _ => none
  | _ + 1, [] => none
  | n + 1, b :: bs =>
    if b = 101 then some ([], bs)
    else (parseString (b :: bs)).bind fun k =>
      (parse n k.2).bind fun r => (parseEntries n r.2).map fun r' => ((k.1, r.1) :: r'.1, r'.2)

end

/-- **The reference decoder**: one value, and nothing after it. -/
def decode (bs : List UInt8) : Option Value :=
  match parse bs.length bs with
  | some (v, []) => some v
  | _ => none

/-! ## Round trips -/

theorem parseString_encodeString (s rest : List UInt8) :
    parseString (encodeString s ++ rest) = some (s, rest) := by
  have hparse : Decimal.parse (encodeString s ++ rest) = some (s.length, 58 :: (s ++ rest)) := by
    rw [encodeString, append_assoc]
    refine parse_numeral _ fun b hb => ?_
    cases hb
    rfl
  simp [parseString, hparse]

theorem parseString_sound {bs s rest : List UInt8} (h : parseString bs = some (s, rest)) :
    bs = encodeString s ++ rest := by
  unfold parseString at h
  split at h
  · rename_i n tail hparse
    split at h
    · rename_i hle
      cases h
      have hlen : (tail.take n).length = n := by rw [length_take, min_eq_left hle]
      rw [parse_sound hparse, encodeString, hlen, append_assoc, cons_append, take_append_drop]
    · cases h
  · cases h

theorem parseNat_numeral (n : ℕ) (rest : List UInt8) :
    parseNat (Decimal.numeral n ++ 101 :: rest) = some (n, rest) := by
  have hparse : Decimal.parse (Decimal.numeral n ++ 101 :: rest) = some (n, 101 :: rest) := by
    refine parse_numeral _ fun b hb => ?_
    cases hb
    rfl
  simp [parseNat, hparse]

theorem parseNat_sound {bs rest : List UInt8} {n : ℕ} (h : parseNat bs = some (n, rest)) :
    bs = numeral n ++ 101 :: rest := by
  unfold parseNat at h
  split at h
  · rename_i m tail hparse
    cases h
    exact parse_sound hparse
  · cases h

theorem parseInt_integer (n : ℤ) (rest : List UInt8) : parseInt (integer n ++ 101 :: rest) = some (n, rest) := by
  unfold integer
  split
  · have hne : n.natAbs ≠ 0 := by omega
    have hback : -(n.natAbs : ℤ) = n := by omega
    rw [cons_append, parseInt, parseNat_numeral, bind_some, if_neg hne, hback]
  · -- a numeral does not begin with a minus sign
    obtain ⟨d, ds, hds⟩ := exists_cons_of_ne_nil (numeral_ne_nil n.natAbs)
    have hdig : isDigit d = true := isDigit_of_mem_numeral (by rw [hds]; simp)
    have hminus : d ≠ 45 := by
      rintro rfl
      cases hdig
    have hback : (n.natAbs : ℤ) = n := by omega
    have hnat := parseNat_numeral n.natAbs rest
    rw [hds] at hnat ⊢
    rw [cons_append] at hnat ⊢
    rw [parseInt, hnat]
    · simp [hback]
    · simpa using hminus

theorem parseInt_sound {bs rest : List UInt8} {n : ℤ} (h : parseInt bs = some (n, rest)) :
    bs = integer n ++ 101 :: rest := by
  unfold parseInt at h
  split at h
  · obtain ⟨⟨m, rest'⟩, hm, hif⟩ := bind_eq_some_iff.1 h
    split at hif
    · cases hif
    · rename_i hne
      cases hif
      have hneg : -(m : ℤ) < 0 := by
        change m ≠ 0 at hne
        omega
      rw [integer, if_pos hneg, parseNat_sound hm, Int.natAbs_neg, Int.natAbs_natCast]
      rfl
  · obtain ⟨⟨m, rest'⟩, hm, heq⟩ := map_eq_some_iff.1 h
    cases heq
    have hnn : ¬ (m : ℤ) < 0 := by omega
    rw [integer, if_neg hnn, parseNat_sound hm, Int.natAbs_natCast]

theorem encodeString_head (s : List UInt8) : ∃ b bs, encodeString s = b :: bs ∧ isDigit b = true := by
  obtain ⟨d, ds, hds⟩ := exists_cons_of_ne_nil (numeral_ne_nil s.length)
  refine ⟨d, ds ++ 58 :: s, ?_, isDigit_of_mem_numeral (n := s.length) ?_⟩
  · rw [encodeString, hds]
    rfl
  · rw [hds]
    exact mem_cons_self

theorem Value.encode_head (v : Value) : ∃ b bs, v.encode = b :: bs ∧ b ≠ 101 := by
  cases v with
  | str s =>
    obtain ⟨b, bs, hs, hdig⟩ := encodeString_head s
    refine ⟨b, bs, by rw [encode, hs], ?_⟩
    rintro rfl
    cases hdig
  | int => exact ⟨105, _, by rw [encode], by decide⟩
  | list => exact ⟨108, _, by rw [encode], by decide⟩
  | dict => exact ⟨100, _, by rw [encode], by decide⟩

theorem parse_of_isDigit {b : UInt8} (hb : isDigit b = true) (n : ℕ) (bs : List UInt8) :
    parse (n + 1) (b :: bs) = (parseString (b :: bs)).map fun r => (.str r.1, r.2) := by
  have hne : b ≠ 105 ∧ b ≠ 108 ∧ b ≠ 100 := by
    refine ⟨?_, ?_, ?_⟩ <;>
    · rintro rfl
      cases hb
  rw [parse, if_neg hne.1, if_neg hne.2.1, if_neg hne.2.2]

mutual

-- The induction is on the value; the fuel is enough as long as it covers the bytes.
theorem Value.parse_encode : ∀ (v : Value) (n : ℕ) (rest : List UInt8), v.Canonical →
    v.encode.length ≤ n → parse n (v.encode ++ rest) = some (v, rest)
  | .str s, n, rest, _, hn => by
    obtain ⟨b, bs, hs, hdig⟩ := encodeString_head s
    have hparse := parseString_encodeString s rest
    rw [Value.encode, hs] at hn ⊢
    rw [hs, cons_append] at hparse
    obtain ⟨m, rfl⟩ := Nat.exists_eq_add_of_lt (Nat.lt_of_lt_of_le (Nat.succ_pos _) hn)
    rw [cons_append, Nat.zero_add, parse_of_isDigit hdig, hparse]
    rfl
  | .int i, n, rest, _, hn => by
    obtain ⟨m, rfl⟩ : ∃ m, n = m + 1 := ⟨n - 1, by simp [Value.encode] at hn; omega⟩
    rw [Value.encode, cons_append, append_assoc, parse, if_pos rfl]
    have hparse := parseInt_integer i rest
    rw [singleton_append, hparse]
    rfl
  | .list items, n, rest, hv, hn => by
    rw [Value.encode] at hn
    obtain ⟨m, rfl⟩ : ∃ m, n = m + 1 := ⟨n - 1, by simp at hn; omega⟩
    have hitems := parseItems_encodeItems items m rest hv.2 (by simpa using hn)
    rw [Value.encode, cons_append, append_assoc, parse, if_neg (by decide), if_pos rfl, singleton_append, hitems]
    rfl
  | .dict entries, n, rest, hv, hn => by
    rw [Value.encode] at hn
    obtain ⟨m, rfl⟩ : ∃ m, n = m + 1 := ⟨n - 1, by simp at hn; omega⟩
    have hents := parseEntries_encodeEntries entries m rest hv.2 (by simpa using hn)
    have hchain : (entries.map Prod.fst).IsChain (· < ·) := hv.1
    rw [Value.encode, cons_append, append_assoc, parse, if_neg (by decide),
      if_neg (by decide), if_pos rfl, singleton_append, hents, bind_some, if_pos hchain]

theorem parseItems_encodeItems : ∀ (items : List Value) (n : ℕ) (rest : List UInt8),
    EveryItem Value.Ascending items → (encodeItems items).length + 1 ≤ n →
    parseItems n (encodeItems items ++ 101 :: rest) = some (items, rest)
  | [], n, rest, _, hn => by
    obtain ⟨m, rfl⟩ : ∃ m, n = m + 1 := ⟨n - 1, by omega⟩
    rw [encodeItems, nil_append, parseItems, if_pos rfl]
  | v :: items, n, rest, hv, hn => by
    obtain ⟨b, _, hb, hend⟩ := v.encode_head
    rw [encodeItems, length_append] at hn
    have hpos : 0 < v.encode.length := by
      rw [hb]
      exact Nat.succ_pos _
    obtain ⟨m, rfl⟩ : ∃ m, n = m + 1 := ⟨n - 1, by omega⟩
    have hval := v.parse_encode m (encodeItems items ++ 101 :: rest) hv.1 (by omega)
    have hitems := parseItems_encodeItems items m rest hv.2 (by omega)
    rw [encodeItems, append_assoc]
    rw [hb, cons_append] at hval ⊢
    rw [parseItems, if_neg hend, hval, bind_some, hitems]
    rfl

theorem parseEntries_encodeEntries : ∀ (entries : List (List UInt8 × Value)) (n : ℕ)
    (rest : List UInt8), EveryEntry Value.Ascending entries → (encodeEntries entries).length + 1 ≤ n →
    parseEntries n (encodeEntries entries ++ 101 :: rest) = some (entries, rest)
  | [], n, rest, _, hn => by
    obtain ⟨m, rfl⟩ : ∃ m, n = m + 1 := ⟨n - 1, by omega⟩
    rw [encodeEntries, nil_append, parseEntries, if_pos rfl]
  | (k, v) :: entries, n, rest, hv, hn => by
    obtain ⟨b, _, hb, hdig⟩ := encodeString_head k
    have hend : b ≠ 101 := by
      rintro rfl
      cases hdig
    rw [encodeEntries, length_append, length_append] at hn
    have hpos : 0 < (encodeString k).length := by
      rw [hb]
      exact Nat.succ_pos _
    obtain ⟨m, rfl⟩ : ∃ m, n = m + 1 := ⟨n - 1, by omega⟩
    have hkey := parseString_encodeString k (v.encode ++ (encodeEntries entries ++ 101 :: rest))
    have hval := v.parse_encode m (encodeEntries entries ++ 101 :: rest) hv.1 (by omega)
    have hents := parseEntries_encodeEntries entries m rest hv.2 (by omega)
    rw [encodeEntries, append_assoc, append_assoc]
    rw [hb, cons_append] at hkey ⊢
    rw [parseEntries, if_neg hend, hkey, bind_some, hval, bind_some, hents]
    rfl

end

/-! ## What is accepted -/

structure SoundAt (n : ℕ) : Prop where
  value : ∀ {bs v rest}, parse n bs = some (v, rest) → v.Canonical ∧ bs = v.encode ++ rest
  items : ∀ {bs items rest}, parseItems n bs = some (items, rest) →
    EveryItem Value.Ascending items ∧ bs = encodeItems items ++ 101 :: rest
  entries : ∀ {bs entries rest}, parseEntries n bs = some (entries, rest) →
    EveryEntry Value.Ascending entries ∧ bs = encodeEntries entries ++ 101 :: rest

variable {n : ℕ} {bs rest : List UInt8}

theorem SoundAt.parse_succ (ih : SoundAt n) {v : Value} (h : parse (n + 1) bs = some (v, rest)) :
    v.Canonical ∧ bs = v.encode ++ rest := by
  cases bs with
  | nil =>
    rw [parse] at h
    cases h
  | cons b bs =>
    rw [parse] at h
    split_ifs at h with hint hlist hdict
    · obtain ⟨⟨i, rest'⟩, hparse, heq⟩ := map_eq_some_iff.1 h
      cases heq
      refine ⟨trivial, ?_⟩
      rw [hint, parseInt_sound hparse, Value.encode]
      simp
    · obtain ⟨⟨items, rest'⟩, hparse, heq⟩ := map_eq_some_iff.1 h
      cases heq
      obtain ⟨hitems, rfl⟩ := ih.items hparse
      refine ⟨⟨trivial, hitems⟩, ?_⟩
      rw [hlist, Value.encode]
      simp
    · obtain ⟨⟨entries, rest'⟩, hparse, hif⟩ := bind_eq_some_iff.1 h
      split at hif
      · rename_i hchain
        cases hif
        obtain ⟨hents, rfl⟩ := ih.entries hparse
        refine ⟨⟨hchain, hents⟩, ?_⟩
        rw [hdict, Value.encode]
        simp
      · cases hif
    · obtain ⟨⟨s, rest'⟩, hparse, heq⟩ := map_eq_some_iff.1 h
      cases heq
      exact ⟨trivial, by rw [parseString_sound hparse, Value.encode]⟩

theorem SoundAt.parseItems_succ (ih : SoundAt n) {items : List Value}
    (h : parseItems (n + 1) bs = some (items, rest)) :
    EveryItem Value.Ascending items ∧ bs = encodeItems items ++ 101 :: rest := by
  cases bs with
  | nil =>
    rw [parseItems] at h
    cases h
  | cons b bs =>
    rw [parseItems] at h
    split at h
    · rename_i hend
      cases h
      exact ⟨trivial, by rw [hend, encodeItems, nil_append]⟩
    · obtain ⟨⟨v, tail⟩, hval, hmore⟩ := bind_eq_some_iff.1 h
      obtain ⟨⟨vs, rest'⟩, hparse, heq⟩ := map_eq_some_iff.1 hmore
      cases heq
      obtain ⟨hv, hbytes⟩ := ih.value hval
      obtain ⟨hvs, rfl⟩ := ih.items hparse
      refine ⟨⟨hv, hvs⟩, ?_⟩
      rw [hbytes, encodeItems, append_assoc]

theorem SoundAt.parseEntries_succ (ih : SoundAt n) {entries : List (List UInt8 × Value)}
    (h : parseEntries (n + 1) bs = some (entries, rest)) :
    EveryEntry Value.Ascending entries ∧ bs = encodeEntries entries ++ 101 :: rest := by
  cases bs with
  | nil =>
    rw [parseEntries] at h
    cases h
  | cons b bs =>
    rw [parseEntries] at h
    split at h
    · rename_i hend
      cases h
      exact ⟨trivial, by rw [hend, encodeEntries, nil_append]⟩
    · obtain ⟨⟨k, tail⟩, hkey, hmore⟩ := bind_eq_some_iff.1 h
      obtain ⟨⟨v, tail'⟩, hval, hmore⟩ := bind_eq_some_iff.1 hmore
      obtain ⟨⟨es, rest'⟩, hparse, heq⟩ := map_eq_some_iff.1 hmore
      cases heq
      obtain ⟨hv, rfl⟩ := ih.value hval
      obtain ⟨hes, rfl⟩ := ih.entries hparse
      refine ⟨⟨hv, hes⟩, ?_⟩
      rw [parseString_sound hkey, encodeEntries, append_assoc, append_assoc]

theorem soundAt (n : ℕ) : SoundAt n := by
  induction n with
  | zero =>
    constructor
    · intro bs v rest h
      rw [parse] at h
      cases h
    · intro bs _ rest h
      rw [parseItems] at h
      cases h
    · intro bs _ rest h
      rw [parseEntries] at h
      cases h
  | succ _ ih => exact ⟨ih.parse_succ, ih.parseItems_succ, ih.parseEntries_succ⟩

theorem decode_eq_some_iff {v : Value} : decode bs = some v ↔ v.Canonical ∧ bs = v.encode := by
  constructor
  · intro h
    unfold decode at h
    split at h
    · rename_i v' hparse
      cases h
      obtain ⟨hv, hbytes⟩ := (soundAt bs.length).value hparse
      exact ⟨hv, by rw [hbytes, append_nil]⟩
    · cases h
  · rintro ⟨hv, rfl⟩
    have hparse := v.parse_encode v.encode.length [] hv le_rfl
    rw [append_nil] at hparse
    simp [decode, hparse]

example : decode [105, 45, 48, 101] = none := by decide +kernel

end Bencode
