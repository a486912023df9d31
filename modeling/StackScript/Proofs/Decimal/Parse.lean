import Mathlib.Data.Nat.Digits.Defs
import StackScript.Decimal.Basic
import StackScript.Proofs.Text.Runs

/-!
# The spelling of decimal numbers

The grammar of numbers with a point, said without the reader: an optional sign, digits with a point
behind or before some of them, and an optional exponent.

* `Decimal.parse?_eq_some_iff_spells`: on texts with a point the reader accepts this grammar, and reads
  the number that is spelled.
-/

namespace StackScript.Decimal

open Text (StartsOutside)

/-- One digit or more. -/
def Digits (cs : List Char) : Prop :=
  cs ≠ [] ∧ ∀ c ∈ cs, c.isDigit = true

instance (cs : List Char) : Decidable (Digits cs) :=
  inferInstanceAs (Decidable (_ ∧ _))

/-- The natural number that digits spell, the last of them being the units. -/
def spelledNat (cs : List Char) : Nat :=
  Nat.ofDigits 10 (cs.reverse.map fun c => c.toNat - '0'.toNat)

theorem natOfDigits_eq (cs : List Char) : natOfDigits cs = spelledNat cs := by
  rw [natOfDigits, spelledNat, Nat.ofDigits_eq_foldr, List.foldr_map, List.foldr_reverse]
  simp only [Nat.cast_id, Nat.add_comm]

/-- An optional sign, and whether it is a minus. -/
inductive Sign : List Char → Bool → Prop
  | none : Sign [] false
  | plus : Sign ['+'] false
  | minus : Sign ['-'] true

/-- Digits with a point, and the digits before and behind it; there is a digit on one side at least. -/
inductive Pointed : List Char → List Char → List Char → Prop
  | whole {whole fraction : List Char} (hw : Digits whole) (hf : ∀ c ∈ fraction, c.isDigit = true) :
    Pointed (whole ++ '.' :: fraction) whole fraction
  | fraction {fraction : List Char} (hf : Digits fraction) : Pointed ('.' :: fraction) [] fraction

/-- An optional exponent with its mark, and its value. -/
inductive Exponent : List Char → Int → Prop
  | none : Exponent [] 0
  | marked {mark : Char} {sign ds : List Char} {negative : Bool} (hm : mark = 'e' ∨ mark = 'E')
    (hs : Sign sign negative) (hd : Digits ds) :
    Exponent (mark :: (sign ++ ds))
      (if negative then -(exponentOfDigits ds : Int) else exponentOfDigits ds)

/-- The text of a number with a point, and the number. -/
inductive Spells : List Char → Decimal → Prop
  | mk {sign digits whole fraction tail : List Char} {negative : Bool} {exponent : Int}
    (hs : Sign sign negative) (hp : Pointed digits whole fraction) (he : Exponent tail exponent) :
    Spells (sign ++ (digits ++ tail))
      ⟨negative, spelledNat (whole ++ fraction), exponent - fraction.length⟩

/-! ## Signs and exponents -/

/-- The character is a sign. -/
def isSign (c : Char) : Bool :=
  c = '+' || c = '-'

theorem takeSign_append {sign rest : List Char} {negative : Bool} (hs : Sign sign negative)
    (hr : StartsOutside isSign rest) : takeSign (sign ++ rest) = (negative, rest) := by
  cases hs with
  | plus | minus => rfl
  | none =>
    cases rest with
    | nil => rfl
    | cons c rest =>
      have hc : c ≠ '+' ∧ c ≠ '-' := by simpa [isSign] using Text.startsOutside_cons.1 hr
      simp [takeSign, hc]

theorem exists_of_takeSign (cs : List Char) :
    ∃ sign, Sign sign (takeSign cs).1 ∧ cs = sign ++ (takeSign cs).2 := by
  unfold takeSign
  split
  · exact ⟨['-'], .minus, rfl⟩
  · exact ⟨['+'], .plus, rfl⟩
  · exact ⟨[], .none, rfl⟩

/-- A digit is neither a sign nor a point. -/
theorem plain_of_isDigit {c : Char} (h : c.isDigit = true) : isSign c = false ∧ c ≠ '.' := by
  have hne : ∀ d : Char, d.isDigit = false → c ≠ d := by
    rintro d hd rfl
    rw [h] at hd
    cases hd
  exact ⟨by simp [isSign, hne '+' (by decide), hne '-' (by decide)], hne '.' (by decide)⟩

theorem Digits.startsOutside {ds : List Char} (h : Digits ds) (rest : List Char) :
    StartsOutside isSign (ds ++ rest) := by
  obtain ⟨d, ds, rfl⟩ := List.exists_cons_of_ne_nil h.1
  exact Text.startsOutside_cons.2 (plain_of_isDigit (h.2 d List.mem_cons_self)).1

/-- The whole of an exponent is read exactly if it has the form of one. -/
theorem parseExponent?_eq_some_iff {cs : List Char} {e : Int} :
    parseExponent? cs = some e ↔ Exponent cs e := by
  constructor
  · intro h
    cases cs with
    | nil => cases h; exact .none
    | cons mark rest =>
      obtain ⟨sign, hs, hrest⟩ := exists_of_takeSign rest
      rcases ht : takeSign rest with ⟨negative, ds⟩
      rw [ht] at hs hrest
      simp only [parseExponent?, ht] at h
      split at h
      · rename_i hm
        split at h
        · rename_i hd
          cases h
          rw [hrest]
          exact .marked hm hs ⟨hd.1, List.all_eq_true.1 hd.2⟩
        · cases h
      · cases h
  · intro h
    cases h with
    | none => rfl
    | @marked mark sign ds negative hm hs hd =>
      have htake : takeSign (sign ++ ds) = (negative, ds) := by
        have hout := hd.startsOutside []
        rw [List.append_nil] at hout
        exact takeSign_append hs hout
      have hdigits : ds ≠ [] ∧ ds.all Char.isDigit = true := ⟨hd.1, List.all_eq_true.2 hd.2⟩
      simp only [parseExponent?, hm, htake, if_true, if_pos hdigits]

/-- An exponent begins neither with a digit nor with a point, and holds no point. -/
theorem Exponent.plain {cs : List Char} {e : Int} (h : Exponent cs e) :
    StartsOutside Char.isDigit cs ∧ '.' ∉ cs := by
  cases h with
  | none => exact ⟨Text.startsOutside_nil _, List.not_mem_nil⟩
  | @marked mark sign ds negative hm hs hd =>
    have hmark : mark.isDigit = false ∧ '.' ≠ mark := by rcases hm with rfl | rfl <;> decide
    have hsign : '.' ∉ sign := by cases hs <;> decide
    have hdigits : '.' ∉ ds := fun hp => (plain_of_isDigit (hd.2 _ hp)).2 rfl
    refine ⟨Text.startsOutside_cons.2 hmark.1, ?_⟩
    simp [hmark.2, hsign, hdigits]

/-! ## Whole texts -/

theorem pointed_iff {digits whole fraction : List Char} :
    Pointed digits whole fraction ↔ digits = whole ++ '.' :: fraction ∧
      (∀ c ∈ whole, c.isDigit = true) ∧ (∀ c ∈ fraction, c.isDigit = true) ∧
      ¬ (whole = [] ∧ fraction = []) := by
  constructor
  · intro h
    cases h with
    | whole hw hf => exact ⟨rfl, hw.2, hf, fun h => hw.1 h.1⟩
    | fraction hf => exact ⟨rfl, by simp, hf.2, fun h => hf.1 h.2⟩
  · rintro ⟨rfl, hw, hf, hne⟩
    by_cases h : whole = []
    · subst h
      exact .fraction ⟨fun hnil => hne ⟨rfl, hnil⟩, hf⟩
    · exact .whole ⟨h, hw⟩ hf

theorem Pointed.startsOutside {digits whole fraction : List Char} (h : Pointed digits whole fraction)
    (rest : List Char) : StartsOutside isSign (digits ++ rest) := by
  cases h with
  | whole hw hf =>
    rw [List.append_assoc]
    exact hw.startsOutside _
  | fraction hf => exact Text.startsOutside_cons.2 (by decide)

theorem takeDigits_append {ds rest : List Char} (hd : ∀ c ∈ ds, c.isDigit = true)
    (hr : StartsOutside Char.isDigit rest) : takeDigits (ds ++ rest) = (ds, rest) := by
  rw [takeDigits, Text.takeWhile_append hd hr, Text.dropWhile_append hd hr]

theorem parse?_of_spells {cs : List Char} {d : Decimal} (h : Spells cs d) : parse? cs = some d := by
  obtain @⟨sign, digits, whole, fraction, tail, negative, exponent, hs, hp, he⟩ := h
  obtain ⟨hdigits, hw, hf, hne⟩ := pointed_iff.1 hp
  have hsign := takeSign_append hs (hp.startsOutside tail)
  have hpoint : StartsOutside Char.isDigit ('.' :: (fraction ++ tail)) :=
    Text.startsOutside_cons.2 (by decide)
  have hwhole : takeDigits (digits ++ tail) = (whole, '.' :: (fraction ++ tail)) := by
    rw [hdigits, List.append_assoc, List.cons_append, takeDigits_append hw hpoint]
  have hfraction : takeFraction ('.' :: (fraction ++ tail)) = (fraction, tail) :=
    takeDigits_append hf he.plain.1
  simp only [parse?, hsign, hwhole, hfraction, hne, if_false, parseExponent?_eq_some_iff.2 he,
    Option.map_some, natOfDigits_eq]

/-- There is a point behind the first digits, or no fraction. -/
theorem takeFraction_cases (cs : List Char) :
    (∃ rest, cs = '.' :: rest) ∨ takeFraction cs = ([], cs) := by
  unfold takeFraction
  split
  · exact .inl ⟨_, rfl⟩
  · exact .inr rfl

/-- What the reader accepts has the form of a number with a point, if it has a point at all. -/
theorem spells_of_parse? {cs : List Char} {d : Decimal} (hpoint : '.' ∈ cs)
    (h : parse? cs = some d) : Spells cs d := by
  obtain ⟨sign, hs, hcs⟩ := exists_of_takeSign cs
  rcases ht : takeSign cs with ⟨negative, rest⟩
  rw [ht] at hs hcs
  have hw : ∀ c ∈ rest.takeWhile Char.isDigit, c.isDigit = true := fun c h => List.mem_takeWhile_imp h
  rw [← List.takeWhile_append_dropWhile (p := Char.isDigit) (l := rest)] at hcs
  simp only [parse?, ht, takeDigits] at h
  rcases takeFraction_cases (rest.dropWhile Char.isDigit) with ⟨more, hmore⟩ | hnone
  · rw [hmore] at h hcs
    have hf : ∀ c ∈ more.takeWhile Char.isDigit, c.isDigit = true :=
      fun c h => List.mem_takeWhile_imp h
    simp only [takeFraction, takeDigits] at h
    split at h
    · cases h
    · rename_i hne
      obtain ⟨e, he, rfl⟩ := Option.map_eq_some_iff.1 h
      have htext : cs = sign ++ (rest.takeWhile Char.isDigit ++ '.' :: more.takeWhile Char.isDigit ++
          more.dropWhile Char.isDigit) := by
        rw [hcs, List.append_assoc, List.cons_append, List.takeWhile_append_dropWhile]
      rw [htext, natOfDigits_eq]
      exact .mk hs (pointed_iff.2 ⟨rfl, hw, hf, hne⟩) (parseExponent?_eq_some_iff.1 he)
  · -- without a point behind its first digits a number has none at all
    exfalso
    simp only [hnone] at h
    split at h
    · cases h
    · obtain ⟨e, he, -⟩ := Option.map_eq_some_iff.1 h
      have hsign : '.' ∉ sign := by cases hs <;> decide
      have hwhole : '.' ∉ rest.takeWhile Char.isDigit := fun hp => (plain_of_isDigit (hw _ hp)).2 rfl
      have htail := (parseExponent?_eq_some_iff.1 he).plain.2
      rw [hcs, List.mem_append, List.mem_append] at hpoint
      exact hpoint.elim hsign fun hrest => hrest.elim hwhole htail

/-- On texts with a point the reader accepts the grammar. -/
theorem parse?_eq_some_iff_spells {cs : List Char} {d : Decimal} (hpoint : '.' ∈ cs) :
    parse? cs = some d ↔ Spells cs d :=
  ⟨spells_of_parse? hpoint, parse?_of_spells⟩

end StackScript.Decimal
