import StackScript.Proofs.Decimal.Layout
import StackScript.Proofs.Value.Parse

/-!
# Values that come back from their text

Display drops the kind of a value. What the reader makes of the text is known for every text
(`Value.parse_eq_iff`), so a value comes back just if its text belongs to the class of the value's own kind
and there denotes this value.

* `Value.ComesBack`: the values for which this is so;
* `Value.parse_display_int_iff`, `Value.parse_display_float_iff` and `Value.parse_display_text_iff`: kind by
  kind;
* `display_comes_back_iff`: for all values.
-/

namespace StackScript

open Decimal (Digits Spells spelledNat)

/-! ## Texts of numbers -/

namespace Decimal

theorem Digits.notMem {cs : List Char} (h : Digits cs) {c : Char} (hc : c.isDigit = false) : c ∉ cs := by
  intro hm
  rw [h.2 c hm] at hc
  cases hc

/-- A plain text has a point just if digits follow it; it is then a number with a point, with or without
a sign. -/
theorem Plain.spells {text : List Char} {coefficient : Nat} {exponent : Int} (negative : Bool)
    (h : Plain text coefficient exponent) (hp : '.' ∈ Binary32.minus negative ++ text) :
    Spells (Binary32.minus negative ++ text) ⟨negative, coefficient, exponent⟩ := by
  have hsign : Sign (Binary32.minus negative) negative := by
    cases negative
    · exact .none
    · exact .minus
  have hsignless : '.' ∉ Binary32.minus negative := by cases negative <;> decide
  cases h with
  | whole hd =>
    exact absurd ((List.mem_append.1 hp).resolve_left hsignless) (Value.point_notMem_of_digits hd)
  | @pointed whole fraction hw hf =>
    have hspells := Spells.mk hsign (Pointed.whole hw hf.2) Exponent.none
    rwa [List.append_nil, zero_sub] at hspells

/-- A plain text that consists of digits spells a whole number without sign. -/
theorem Plain.of_digits {text : List Char} {coefficient : Nat} {exponent : Int} {negative : Bool}
    (h : Plain text coefficient exponent) (hd : Digits (Binary32.minus negative ++ text)) :
    negative = false ∧ coefficient = spelledNat text ∧ exponent = 0 := by
  have hneg : negative = false := by
    cases negative with
    | false => rfl
    | true => exact absurd List.mem_cons_self (hd.notMem (c := '-') rfl)
  cases h with
  | whole _ => exact ⟨hneg, rfl, rfl⟩
  | pointed hw hf => exact absurd (by simp) (Value.point_notMem_of_digits hd)

end Decimal

/-- What is not finite is shown in letters. -/
theorem Binary32.display_of_not_isFinite {x : Binary32} (h : ¬ x.IsFinite) :
    ¬ Digits x.display.toList ∧ '.' ∉ x.display.toList := by
  cases x with
  | nan => exact ⟨fun hd => hd.notMem (c := 'N') rfl (by decide), by decide⟩
  | signed negative rank =>
    have hinf : rank = infinite := Fin.ext (Nat.le_antisymm (Fin.le_last rank) (Nat.not_lt.1 h))
    rw [display, if_pos hinf]
    exact ⟨fun hd => hd.notMem (c := 'i') rfl (by cases negative <;> decide), by cases negative <;> decide⟩

namespace Value

/-! ## Kind by kind -/

theorem digits_toList_natCast (n : Nat) :
    Digits (toString (n : Int)).toList ∧ spelledNat (toString (n : Int)).toList = n := by
  rw [show toString (n : Int) = toString n from rfl, Nat.toString_eq_ofList_toDigits, String.toList_ofList]
  exact ⟨Decimal.digits_toDigits n, Decimal.spelledNat_toDigits n⟩

theorem parse_display_int_iff {n : Int32} : parse (display (.int n)) = .int n ↔ 0 ≤ n.toInt := by
  rw [parse_eq_int_iff, display]
  have hle : n.toInt ≤ 2147483647 := Int.le_of_lt_add_one n.toInt_lt
  cases hn : n.toInt with
  | ofNat k =>
    obtain ⟨hd, hs⟩ := digits_toList_natCast k
    have hk : k ≤ greatestInt := by
      rw [hn] at hle
      exact Int.ofNat_le.1 hle
    exact iff_of_true ⟨hd, hs.le.trans hk, congrArg Int.ofNat hs.symm⟩ (Int.natCast_nonneg k)
  | negSucc k =>
    -- the text of a negative integer begins with a sign
    have hsign : '-' ∈ (toString (Int.negSucc k)).toList := by
      rw [show toString (Int.negSucc k) = "-" ++ toString (k + 1) from rfl]
      simp
    exact iff_of_false (fun h => h.1.notMem rfl hsign)
      (Int.not_le.2 (Int.negSucc_lt_zero k))

theorem parse_display_float_iff {x : Binary32} :
    parse (display (.float x)) = .float x ↔ x.IsFinite ∧ ('.' ∈ x.display.toList ∨
      Digits x.display.toList ∧ greatestInt < spelledNat x.display.toList) := by
  rw [parse_eq_float_iff, display]
  by_cases hfin : x.IsFinite
  · obtain ⟨negative, text, coefficient, exponent, htext, hplain, hreads⟩ := Binary32.exists_plain hfin
    constructor
    · rintro (⟨hd, hn, -⟩ | ⟨hp, -⟩)
      · exact ⟨hfin, .inr ⟨hd, hn⟩⟩
      · exact ⟨hfin, .inl hp⟩
    · rintro ⟨-, hp | ⟨hd, hn⟩⟩
      · rw [htext] at hp ⊢
        exact .inr ⟨hp, _, hplain.spells negative hp, hreads.symm⟩
      · refine .inl ⟨hd, hn, ?_⟩
        rw [htext] at hd ⊢
        obtain ⟨rfl, rfl, rfl⟩ := hplain.of_digits hd
        exact hreads.symm
  · obtain ⟨hd, hp⟩ := Binary32.display_of_not_isFinite hfin
    simp [hd, hp, hfin]

theorem parse_display_text_iff {s : String} :
    parse (display (.text s)) = .text s ↔ s ≠ "" ∧ s ≠ "true" ∧ s ≠ "false" ∧ ¬ Digits s.toList ∧
      ∀ d, ¬ Spells s.toList d := by
  rw [display, parse_eq_text_iff, Bool.forall_bool]
  simp only [display, true_and]
  tauto

/-- The value is the one that its text denotes: a truth value; an integer without sign; a finite float whose
text has a point, or consists of digits and is beyond the integers; or a text that is not empty, no truth
value, not made of digits and no number with a point. -/
inductive ComesBack : Value → Prop
  | bool (b : Bool) : ComesBack (.bool b)
  | int {n : Int32} (h : 0 ≤ n.toInt) : ComesBack (.int n)
  | pointed {x : Binary32} (hx : x.IsFinite) (hp : '.' ∈ x.display.toList) : ComesBack (.float x)
  | large {x : Binary32} (hx : x.IsFinite) (hd : Digits x.display.toList)
    (hn : 2147483647 < spelledNat x.display.toList) : ComesBack (.float x)
  | text {s : String} (hne : s ≠ "") (ht : s ≠ "true") (hf : s ≠ "false") (hd : ¬ Digits s.toList)
    (hs : ¬ ('.' ∈ s.toList ∧ ∃ d, Spells s.toList d)) : ComesBack (.text s)

end Value

/-- Reading the text of a value gives the value again if and only if the value is one of those that
`Value.ComesBack` names; floats are compared by their encoding, so that also the two zeros differ. -/
theorem display_comes_back_iff (v : Value) : Value.parse v.display = v ↔ v.ComesBack := by
  cases v with
  | mono => exact iff_of_false (by decide) (by rintro ⟨⟩)
  | bool b => exact iff_of_true (Value.parse_eq_bool_iff.2 rfl) (.bool b)
  | int n =>
    rw [Value.parse_display_int_iff]
    refine ⟨.int, ?_⟩
    rintro ⟨⟩
    assumption
  | float x =>
    rw [Value.parse_display_float_iff]
    constructor
    · rintro ⟨hx, hp | ⟨hd, hn⟩⟩
      · exact .pointed hx hp
      · exact .large hx hd hn
    · intro h
      cases h with
      | pointed hx hp => exact ⟨hx, .inl hp⟩
      | large hx hd hn => exact ⟨hx, .inr ⟨hd, hn⟩⟩
  | text s =>
    rw [Value.parse_display_text_iff]
    constructor
    · rintro ⟨hne, ht, hf, hd, hs⟩
      exact .text hne ht hf hd fun ⟨_, d, h⟩ => hs d h
    · intro h
      cases h with
      | text hne ht hf hd hs =>
        exact ⟨hne, ht, hf, hd, fun d h => hs ⟨Value.point_mem_of_spells h, d, h⟩⟩

/-- The least float beyond the integers is shown by its shortest digits, which denote an integer. -/
example : Value.parse (Value.display (.float (Binary32.ofBits 0x4f000000))) = .int 2147483600 := by
  decide +kernel

end StackScript
