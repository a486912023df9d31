import StackScript.Decimal.Layout
import StackScript.Proofs.Decimal.Shortest
import StackScript.Proofs.Decimal.Parse

/-!
# The plain text of a number

The plain text of a finite number has no exponent: it is an optional minus, digits, and possibly a point
and more digits. As a decimal it is the number that was found by the search for the shortest one, in other
terms where zeros had to be added, so that it reads back as the number it was written for.

* `Decimal.Plain`: the form of these texts, without the sign;
* `Decimal.plain_positional`: the positional digits of a decimal have this form;
* `Binary32.exists_plain`: the text of a finite number has this form, and reads back.
-/

namespace StackScript

namespace Decimal

/-! ## Spelling digits -/

theorem spelledNat_toDigits (n : Nat) : spelledNat (Nat.toDigits 10 n) = n := by
  rw [← natOfDigits_eq, natOfDigits, ← Nat.ofDigitChars_eq_foldl, Nat.ofDigitChars_ten_toDigits]

theorem spelledNat_append (cs ds : List Char) :
    spelledNat (cs ++ ds) = spelledNat cs * 10 ^ ds.length + spelledNat ds := by
  simp only [spelledNat, List.reverse_append, List.map_append, Nat.ofDigits_append, List.length_map,
    List.length_reverse]
  rw [Nat.add_comm, Nat.mul_comm]

theorem spelledNat_zeros (n : Nat) : spelledNat (List.replicate n '0') = 0 := by
  induction n with
  | zero => rfl
  | succ n ih => rw [List.replicate_succ', spelledNat_append, ih]; rfl

theorem digits_toDigits (n : Nat) : Digits (Nat.toDigits 10 n) :=
  ⟨Nat.toDigits_ne_nil, fun _ h => Nat.isDigit_of_mem_toDigits (by decide) (by decide) h⟩

theorem digits_zero : Digits ['0'] :=
  digits_toDigits 0

theorem isDigit_of_mem_zeros {n : Nat} {c : Char} (h : c ∈ List.replicate n '0') :
    c.isDigit = true := by
  rw [List.eq_of_mem_replicate h]
  rfl

/-! ## Positional texts -/

/-- A text without sign and exponent, with the coefficient and the power of ten that it spells. -/
inductive Plain : List Char → Nat → Int → Prop
  | whole {ds : List Char} (hd : Digits ds) : Plain ds (spelledNat ds) 0
  | pointed {whole fraction : List Char} (hw : Digits whole) (hf : Digits fraction) :
    Plain (whole ++ '.' :: fraction) (spelledNat (whole ++ fraction)) (-fraction.length)

/-- Positional digits spell the decimal that they are made of; a positive power of ten goes into the
coefficient. -/
theorem plain_positional (coefficient : Nat) (exponent : Int) :
    Plain (positional coefficient exponent []) (coefficient * 10 ^ exponent.toNat) (min exponent 0) := by
  have hd := digits_toDigits coefficient
  have hn := spelledNat_toDigits coefficient
  simp only [positional]
  generalize Nat.toDigits 10 coefficient = digits at hd hn ⊢
  split
  · rename_i hplaces
    have hall : Digits (digits ++ List.replicate exponent.toNat '0') :=
      ⟨by simp [hd.1], fun c hc => (List.mem_append.1 hc).elim (hd.2 c) isDigit_of_mem_zeros⟩
    have hspell : spelledNat (digits ++ List.replicate exponent.toNat '0') =
        coefficient * 10 ^ exponent.toNat := by
      rw [spelledNat_append, hn, List.length_replicate, spelledNat_zeros, Nat.add_zero]
    rw [List.append_nil, ← hspell, show min exponent 0 = 0 by omega]
    exact .whole hall
  · rename_i hplaces
    rw [show exponent.toNat = 0 by omega, Nat.pow_zero, Nat.mul_one]
    have hexp : min exponent 0 = -((-exponent).toNat : Int) := by omega
    split
    · rename_i hlen
      -- the point stands among the digits
      have htake : Digits (digits.take (digits.length - (-exponent).toNat)) :=
        ⟨List.ne_nil_of_length_pos (by rw [List.length_take]; omega),
          fun c hc => hd.2 c (List.mem_of_mem_take hc)⟩
      have hdrop : Digits (digits.drop (digits.length - (-exponent).toNat)) :=
        ⟨List.ne_nil_of_length_pos (by rw [List.length_drop]; omega),
          fun c hc => hd.2 c (List.mem_of_mem_drop hc)⟩
      have hplain := Plain.pointed htake hdrop
      rwa [List.take_append_drop, hn, List.length_drop, Nat.sub_sub_self (by omega), ← hexp] at hplain
    · rename_i hlen
      -- zeros fill the places between the point and the digits
      have hfrac : Digits (List.replicate ((-exponent).toNat - digits.length) '0' ++ digits) :=
        ⟨by simp [hd.1], fun c hc => (List.mem_append.1 hc).elim isDigit_of_mem_zeros (hd.2 c)⟩
      have hspell : spelledNat (['0'] ++
          (List.replicate ((-exponent).toNat - digits.length) '0' ++ digits)) = coefficient := by
        rw [spelledNat_append, spelledNat_append, spelledNat_zeros, hn,
          show spelledNat ['0'] = 0 from rfl]
        simp
      have hplain := Plain.pointed digits_zero hfrac
      rwa [hspell, List.length_append, List.length_replicate, Nat.sub_add_cancel (by omega),
        ← hexp] at hplain

/-- A power of ten may be moved into the coefficient. -/
theorem nearestRank_shift (negative : Bool) (coefficient : Nat) (exponent : Int) :
    nearestRank ⟨negative, coefficient * 10 ^ exponent.toNat, min exponent 0⟩ =
      nearestRank { coefficient, exponent } := by
  have hnum : numerator ⟨negative, coefficient * 10 ^ exponent.toNat, min exponent 0⟩ =
      numerator { coefficient, exponent } := by
    simp [numerator, show (min exponent 0).toNat = 0 by omega]
  have hden : denominator ⟨negative, coefficient * 10 ^ exponent.toNat, min exponent 0⟩ =
      denominator { coefficient, exponent } := by
    simp [denominator, show (-min exponent 0).toNat = (-exponent).toNat by omega]
  rw [nearestRank_eq, nearestRank_eq, hnum, hden]

theorem nearestRank_zero (negative : Bool) : (nearestRank ⟨negative, 0, 0⟩).val = 0 := by
  rw [nearestRank, Nat.zero_mul, Nat.zero_mul, Binary32.val_nearestRank_zero]

end Decimal

namespace Binary32

/-- The number is neither infinite nor not a number. -/
def IsFinite (x : Binary32) : Prop :=
  x.rank < infinityRank

/-- The sign in front of a plain text. -/
def minus (negative : Bool) : List Char :=
  if negative then ['-'] else []

theorem toList_withSign (negative : Bool) (text : List Char) :
    (withSign negative text).toList = minus negative ++ text := by
  cases negative <;> simp [withSign, minus]

/-- The magnitude of a finite number in positional digits, and that it reads back. -/
theorem exists_plain_magnitude (negative : Bool) {rank : Fin (infinityRank + 1)}
    (h : rank.val < infinityRank) :
    ∃ text coefficient exponent,
      display (.signed negative rank) = withSign negative text ∧
      Decimal.Plain text coefficient exponent ∧
      Decimal.toBinary32 ⟨negative, coefficient, exponent⟩ = .signed negative rank := by
  have hfin : rank ≠ infinite := by
    rintro rfl
    exact Nat.lt_irrefl _ h
  by_cases hzero : rank.val = 0
  · refine ⟨['0'], 0, 0, by simp only [display, hfin, hzero, if_false, if_true],
      .whole Decimal.digits_zero, ?_⟩
    exact congrArg _ (Fin.ext ((Decimal.nearestRank_zero negative).trans hzero.symm))
  · obtain ⟨coefficient, exponent, hshort, hreads⟩ := Decimal.exists_shortest h.le
    refine ⟨_, _, _, by simp only [display, hfin, hzero, if_false, hshort],
      Decimal.plain_positional coefficient exponent, ?_⟩
    rw [Decimal.toBinary32, Decimal.nearestRank_shift]
    exact congrArg _ (Fin.ext (Decimal.readsBack_iff.1 hreads))

/-- The text of a finite number is plain, and reads back as the number. -/
theorem exists_plain {x : Binary32} (h : x.IsFinite) :
    ∃ negative text coefficient exponent, x.display.toList = minus negative ++ text ∧
      Decimal.Plain text coefficient exponent ∧
      Decimal.toBinary32 ⟨negative, coefficient, exponent⟩ = x := by
  cases x with
  | nan => exact absurd h (Nat.lt_irrefl _)
  | signed negative rank =>
    obtain ⟨text, coefficient, exponent, hdisplay, hplain, hreads⟩ := exists_plain_magnitude negative h
    exact ⟨negative, text, coefficient, exponent, by rw [hdisplay, toList_withSign], hplain, hreads⟩

end Binary32

end StackScript
