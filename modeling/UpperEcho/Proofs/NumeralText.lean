import UpperEcho.Net.Numeral
import Mathlib.Data.Nat.Digits.Defs
import Mathlib.Tactic.Ring

/-! Numerals: `readNumber` reads back what `Nat.toDigits` writes, and a port text is an optional `+`
and decimal digits worth at most 65535. -/
namespace UpperEcho.Net

theorem digitValue_hex : ∀ d < 16, digitValue 16 d.digitChar = some d := by decide

theorem digitValue_dec : ∀ d < 10, digitValue 10 d.digitChar = some d := by decide

theorem digitValue_digitChar {radix d : Nat} (hr : radix = 10 ∨ radix = 16) (hd : d < radix) :
    digitValue radix d.digitChar = some d := by
  rcases hr with rfl | rfl
  · exact digitValue_dec d hd
  · exact digitValue_hex d hd

@[simp] theorem digitValue_colon (radix : Nat) : digitValue radix ':' = none := by simp [digitValue]

@[simp] theorem digitValue_dot (radix : Nat) : digitValue radix '.' = none := by simp [digitValue]

theorem utf8Size_of_digitValue {radix : Nat} {c : Char} (h : (digitValue radix c).isSome) :
    c.utf8Size = 1 := by
  rw [Char.utf8Size_eq_one_iff]
  have below : c ≤ 'f' := by
    unfold digitValue at h
    split at h
    · rename_i digit; exact Char.le_trans digit.2 (by decide)
    · split at h
      · rename_i lower; exact lower.2.2
      · split at h
        · rename_i upper; exact Char.le_trans upper.2.2 (by decide)
        · simp at h
  exact UInt32.le_trans below (by decide)

theorem hex_of_dec {c : Char} (h : (digitValue 10 c).isSome) : (digitValue 16 c).isSome := by
  unfold digitValue at h ⊢
  split at h
  · simp [*]
  · simp at h

theorem digitRun_stop {radix : Nat} {c : Char} (h : digitValue radix c = none) (cs : List Char) :
    digitRun radix (c :: cs) = ([], c :: cs) := by
  simp [digitRun, h]

theorem digitRun_digits (radix : Nat) (ds : List Nat) (rest : List Char)
    (digits : ∀ d ∈ ds, digitValue radix d.digitChar = some d) (stop : digitRun radix rest = ([], rest)) :
    digitRun radix (ds.map Nat.digitChar ++ rest) = (ds, rest) := by
  induction ds with
  | nil => exact stop
  | cons d ds ih =>
    rw [List.forall_mem_cons] at digits
    simp [digitRun, digits.1, ih digits.2]

theorem digitRun_split (radix : Nat) (cs : List Char) :
    ∃ used, cs = used ++ (digitRun radix cs).2 ∧ used.length = (digitRun radix cs).1.length ∧
      ∀ c ∈ used, (digitValue radix c).isSome := by
  induction cs with
  | nil => exact ⟨[], rfl, rfl, by simp⟩
  | cons c cs ih =>
    obtain ⟨used, split, count, digits⟩ := ih
    cases h : digitValue radix c with
    | none => exact ⟨[], by simp [digitRun, h], by simp [digitRun, h], by simp⟩
    | some d =>
      refine ⟨c :: used, ?_, ?_, List.forall_mem_cons.2 ⟨by simp [h], digits⟩⟩
      · simp only [digitRun, h, List.cons_append, List.cons.injEq, true_and]
        exact split
      · simp [digitRun, h, count]

theorem valueOf_append (radix : Nat) (ds : List Nat) (d : Nat) :
    valueOf radix (ds ++ [d]) = valueOf radix ds * radix + d := by
  simp [valueOf, List.foldl_append]

theorem valueOf_eq_ofDigits (radix : Nat) (ds : List Nat) :
    valueOf radix ds = Nat.ofDigits radix ds.reverse := by
  rw [valueOf, List.foldl_eq_foldr_reverse]
  generalize ds.reverse = L
  induction L with
  | nil => rfl
  | cons d L ih =>
    rw [List.foldr_cons, ih, Nat.ofDigits_cons]
    ring

theorem toDigits_digits {radix : Nat} (hr : 1 < radix) (n : Nat) :
    ∃ ds : List Nat, Nat.toDigits radix n = ds.map Nat.digitChar ∧ (∀ d ∈ ds, d < radix) ∧
      valueOf radix ds = n ∧ (ds.head? = some 0 → n = 0) := by
  induction n using Nat.strong_induction_on with
  | _ n ih =>
    rw [Nat.toDigits_eq_if hr]
    split
    · rename_i small
      exact ⟨[n], rfl, by simpa using small, by simp [valueOf], by simp⟩
    · rename_i large
      obtain ⟨ds, eq, lt, val, head⟩ := ih (n / radix) (Nat.div_lt_self (by omega) hr)
      have nonempty : ds ≠ [] := by
        intro empty
        have := Nat.toDigits_ne_nil (n := n / radix) (b := radix)
        simp [eq, empty] at this
      refine ⟨ds ++ [n % radix], by simp [eq], ?_, ?_, ?_⟩
      · exact List.forall_mem_append.2 ⟨lt, List.forall_mem_singleton.2 (Nat.mod_lt n (by omega))⟩
      · rw [valueOf_append, val, Nat.div_add_mod']
      · intro zero
        obtain ⟨x, xs, rfl⟩ := List.exists_cons_of_ne_nil nonempty
        have := Nat.div_pos (Nat.le_of_not_lt large) (by omega : 0 < radix)
        have := head (by simpa using zero)
        omega

theorem readNumber_toDigits {radix maxDigits bound : Nat} {zeroPrefixOk : Bool} {n : Nat}
    {rest : List Char} (hr : radix = 10 ∨ radix = 16) (short : (Nat.toDigits radix n).length ≤ maxDigits)
    (le : n ≤ bound) (stop : digitRun radix rest = ([], rest)) :
    readNumber radix maxDigits bound zeroPrefixOk (Nat.toDigits radix n ++ rest) = some (n, rest) := by
  have big : 1 < radix := by omega
  obtain ⟨ds, eq, lt, val, head⟩ := toDigits_digits big n
  have read := digitRun_digits radix ds rest (fun d mem => digitValue_digitChar hr (lt d mem)) stop
  have nonempty : ds ≠ [] := by
    intro empty
    have := Nat.toDigits_ne_nil (n := n) (b := radix)
    simp [eq, empty] at this
  rw [eq] at short ⊢
  rw [List.length_map] at short
  -- a numeral with a leading zero is the numeral 0, one digit long
  have single : ds.head? = some 0 → ds.length ≤ 1 := by
    intro zero
    have zeroN := head zero
    subst zeroN
    simp [Nat.toDigits_zero] at eq
    simp [← List.length_map (f := Nat.digitChar), ← eq]
  simp only [readNumber, read, val]
  have : ¬(ds.isEmpty = true ∨ maxDigits < ds.length) := by simp [List.isEmpty_iff, nonempty]; omega
  rw [if_neg this, if_neg (by intro h; have := single h.2.1; omega), if_neg (by omega)]

theorem readNumber_stop {radix maxDigits bound : Nat} {zeroPrefixOk : Bool} {c : Char}
    (h : digitValue radix c = none) (cs : List Char) :
    readNumber radix maxDigits bound zeroPrefixOk (c :: cs) = none := by
  simp [readNumber, digitRun_stop h]

theorem readNumber_consumes {radix maxDigits bound : Nat} {zeroPrefixOk : Bool} {cs rest : List Char}
    {v : Nat} (h : readNumber radix maxDigits bound zeroPrefixOk cs = some (v, rest)) :
    ∃ used, cs = used ++ rest ∧ used.length ≤ maxDigits ∧ ∀ c ∈ used, (digitValue radix c).isSome := by
  obtain ⟨used, split, count, digits⟩ := digitRun_split radix cs
  simp only [readNumber] at h
  split at h
  · simp at h
  · rename_i fits
    split at h
    · simp at h
    · split at h
      · simp at h
      · simp only [Option.some.injEq, Prod.mk.injEq] at h
        obtain ⟨-, rfl⟩ := h
        refine ⟨used, split, ?_, digits⟩
        rw [count]
        omega

def PortText (P : String) (p : UInt16) : Prop :=
  ∃ ds : List Char, (P.toList = ds ∨ P.toList = '+' :: ds) ∧ ds ≠ [] ∧ (∀ c ∈ ds, c.isDigit) ∧
    Nat.ofDigits 10 (ds.reverse.map fun c => c.toNat - '0'.toNat) = p.toNat

theorem decimal_eq_some {bound v : Nat} {ds : List Char} :
    (if ds.isEmpty ∨ !ds.all Char.isDigit then none
      else if bound < valueOf 10 (ds.map fun c => c.toNat - '0'.toNat) then none
      else some (valueOf 10 (ds.map fun c => c.toNat - '0'.toNat))) = some v ↔
    ds ≠ [] ∧ (∀ c ∈ ds, c.isDigit) ∧ v ≤ bound ∧ valueOf 10 (ds.map fun c => c.toNat - '0'.toNat) = v := by
  constructor
  · intro h
    split at h
    · simp at h
    · rename_i fits
      split at h
      · simp at h
      · rename_i small
        simp only [Option.some.injEq] at h
        subst h
        simp only [List.isEmpty_iff, Bool.not_eq_true', not_or, Bool.not_eq_false, List.all_eq_true] at fits
        exact ⟨fits.1, fits.2, Nat.le_of_not_lt small, rfl⟩
  · rintro ⟨nonempty, digits, small, rfl⟩
    rw [List.all_eq_true.2 digits, if_neg (by simp [List.isEmpty_iff, nonempty]), if_neg (by omega)]

theorem parsePort_eq_some_iff (P : String) (p : UInt16) : parsePort P = some p ↔ PortText P p := by
  have ofDigitsValue : ∀ (ds : List Char) (v : Nat), v < 65536 →
      valueOf 10 (ds.map fun c => c.toNat - '0'.toNat) = v →
      Nat.ofDigits 10 (ds.reverse.map fun c => c.toNat - '0'.toNat) = (UInt16.ofNat v).toNat := by
    intro ds v small eq
    rw [List.map_reverse, ← valueOf_eq_ofDigits, eq, UInt16.toNat_ofNat', Nat.mod_eq_of_lt (by simpa using small)]
  constructor
  · intro h
    simp only [parsePort, Option.map_eq_some_iff] at h
    obtain ⟨v, decimal, rfl⟩ := h
    unfold parseDecimal at decimal
    rcases shape : P.toList with _ | ⟨c, cs⟩
    · simp [shape] at decimal
    · simp only [shape] at decimal
      -- the digits after an optional `+`
      split at decimal
      next _ rest same =>
        obtain ⟨nonempty, digits, small, eq⟩ := decimal_eq_some.1 decimal
        exact ⟨rest, .inr (shape.trans same), nonempty, digits, ofDigitsValue rest v (by omega) eq⟩
      next =>
        obtain ⟨nonempty, digits, small, eq⟩ := decimal_eq_some.1 decimal
        exact ⟨c :: cs, .inl shape, nonempty, digits, ofDigitsValue _ v (by omega) eq⟩
  · rintro ⟨ds, shape, nonempty, digits, value⟩
    have small : valueOf 10 (ds.map fun c => c.toNat - '0'.toNat) = p.toNat := by
      rw [valueOf_eq_ofDigits, ← List.map_reverse, value]
    have fits : p.toNat ≤ 65535 := by have := p.toNat_lt; simp at this; omega
    have decimal := decimal_eq_some.2 ⟨nonempty, digits, fits, small⟩
    unfold parsePort parseDecimal
    rcases shape with eq | eq
    · simp only [eq]
      split
      next => simp at digits
      next => rw [decimal]; simp
    · simp only [eq]
      rw [decimal]
      simp

theorem digitChar_dec : ∀ d < 10, (Nat.digitChar d).isDigit ∧ (Nat.digitChar d).toNat - '0'.toNat = d := by
  decide

theorem isDigit_of_mem_toDigits {k : Nat} {c : Char} (mem : c ∈ Nat.toDigits 10 k) : c.isDigit := by
  obtain ⟨ds, eq, lt, -, -⟩ := toDigits_digits (by decide : 1 < 10) k
  rw [eq] at mem
  obtain ⟨d, small, rfl⟩ := List.mem_map.1 mem
  exact (digitChar_dec d (lt d small)).1

theorem parseDecimal_toString {bound k : Nat} (le : k ≤ bound) : parseDecimal bound (toString k) = some k := by
  obtain ⟨ds, eq, lt, val, -⟩ := toDigits_digits (by decide : 1 < 10) k
  have text : (toString k).toList = Nat.toDigits 10 k := by simp [Nat.toString_eq_repr, Nat.toList_repr]
  have back : (Nat.toDigits 10 k).map (fun c => c.toNat - '0'.toNat) = ds := by
    rw [eq, List.map_map]
    conv_rhs => rw [← List.map_id ds]
    exact List.map_congr_left fun d mem => (digitChar_dec d (lt d mem)).2
  have digits : ∀ c ∈ Nat.toDigits 10 k, c.isDigit := fun _ => isDigit_of_mem_toDigits
  -- a numeral starts with a digit, never with a sign
  have unsigned : ∀ rest, Nat.toDigits 10 k ≠ '+' :: rest := fun rest same => by
    simpa using digits '+' (by simp [same])
  have decimal := decimal_eq_some.2 ⟨Nat.toDigits_ne_nil, digits, le, by rw [back, val]⟩
  unfold parseDecimal
  rw [text]
  dsimp only
  split
  · rename_i rest same
    exact absurd same (unsigned rest)
  · exact decimal

theorem portText_toString (p : UInt16) : PortText (toString p.toNat) p := by
  have small : p.toNat ≤ 65535 := by have := p.toNat_lt; simp at this; omega
  apply (parsePort_eq_some_iff _ _).1
  rw [parsePort, parseDecimal_toString small]
  simp

end UpperEcho.Net
