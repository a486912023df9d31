import StackScript.Proofs.Decimal.Parse
import StackScript.Value.Parse

/-!
# What a text denotes

The reader of values tries its rules in a fixed order. The classes of texts that they accept are said here
without that order, and turn out not to overlap:

* `Value.Reads` relates a text to the value of its class;
* `Value.parse_eq_iff`: this is the value that is read;
* `value_parse_classifies`: which texts denote which values.
-/

namespace StackScript

open Decimal (Digits Spells spelledNat)

namespace Value

/-- What a text denotes: nothing is `mono`, digits are an integer or, beyond the greatest one, a float,
the text of a number with a point is a float, two words are truth values, and all else is text. -/
inductive Reads (t : String) : Value → Prop
  | mono (h : t = "") : Reads t .mono
  | int (hd : Digits t.toList) (hn : spelledNat t.toList ≤ greatestInt) :
    Reads t (.int (Int32.ofNat (spelledNat t.toList)))
  | large (hd : Digits t.toList) (hn : greatestInt < spelledNat t.toList) :
    Reads t (.float (Decimal.toBinary32 { coefficient := spelledNat t.toList }))
  | number {d : Decimal} (hd : Spells t.toList d) : Reads t (.float d.toBinary32)
  | bool {b : Bool} (h : t = display (.bool b)) : Reads t (.bool b)
  | text (hne : t ≠ "") (hd : ¬ Digits t.toList) (hs : ∀ d, ¬ Spells t.toList d)
    (hb : ∀ b, t ≠ display (.bool b)) : Reads t (.text t)

/-- Digits hold no point. -/
theorem point_notMem_of_digits {cs : List Char} (h : Digits cs) : '.' ∉ cs :=
  fun hp => (Decimal.plain_of_isDigit (h.2 _ hp)).2 rfl

theorem point_mem_of_spells {cs : List Char} {d : Decimal} (h : Spells cs d) : '.' ∈ cs := by
  obtain ⟨hs, hp, he⟩ := h
  rw [(Decimal.pointed_iff.1 hp).1]
  simp

theorem parse_of_digits {t : String} (h : Digits t.toList) : parse t = ofDigits t.toList := by
  have hall : t.toList.all Char.isDigit = true := List.all_eq_true.2 h.2
  simp only [parse, h.1, hall, if_false, if_true]

/-- A text with a point is the number that it spells, or itself. -/
theorem parse_of_point {t : String} (h : '.' ∈ t.toList) :
    parse t = ((Decimal.parse? t.toList).map fun d => float d.toBinary32).getD (.text t) := by
  have hne : t.toList ≠ [] := List.ne_nil_of_mem h
  have hall : ¬ t.toList.all Char.isDigit = true := fun hall =>
    point_notMem_of_digits ⟨hne, List.all_eq_true.1 hall⟩ h
  simp only [parse, hne, hall, h, if_false, if_true]
  cases Decimal.parse? t.toList <;> rfl

/-- A text without a point that is neither empty nor digits nor a truth value is itself. -/
theorem parse_of_plain {t : String} (hne : t ≠ "") (hd : ¬ Digits t.toList) (hp : '.' ∉ t.toList)
    (hb : ∀ b, t ≠ display (.bool b)) : parse t = .text t := by
  have hnil : t.toList ≠ [] := mt String.toList_eq_nil_iff.1 hne
  have hall : ¬ t.toList.all Char.isDigit = true := fun hall => hd ⟨hnil, List.all_eq_true.1 hall⟩
  have ht : t ≠ "true" := hb true
  have hf : t ≠ "false" := hb false
  simp only [parse, hnil, hall, hp, ht, hf, Bool.false_eq_true, if_false]

theorem exists_reads (t : String) : ∃ v, Reads t v := by
  by_cases hne : t = ""
  · exact ⟨_, .mono hne⟩
  by_cases hd : Digits t.toList
  · rcases Nat.lt_or_ge greatestInt (spelledNat t.toList) with hn | hn
    · exact ⟨_, .large hd hn⟩
    · exact ⟨_, .int hd hn⟩
  by_cases hb : ∃ b, t = display (.bool b)
  · obtain ⟨b, hb⟩ := hb
    exact ⟨_, .bool hb⟩
  by_cases hs : ∃ d, Spells t.toList d
  · obtain ⟨d, hs⟩ := hs
    exact ⟨_, .number hs⟩
  exact ⟨_, .text hne hd (not_exists.1 hs) (not_exists.1 hb)⟩

theorem Reads.parse_eq {t : String} {v : Value} (h : Reads t v) : parse t = v := by
  cases h with
  | mono h => rw [h]; rfl
  | int hd hn => rw [parse_of_digits hd, ofDigits, Decimal.natOfDigits_eq, if_pos hn]
  | large hd hn =>
    rw [parse_of_digits hd, ofDigits, Decimal.natOfDigits_eq, if_neg (Nat.not_le_of_lt hn)]
  | number hd =>
    have hp := point_mem_of_spells hd
    rw [parse_of_point hp, (Decimal.parse?_eq_some_iff_spells hp).2 hd]
    rfl
  | @bool b h => rw [h]; cases b <;> rfl
  | text hne hd hs hb =>
    by_cases hp : '.' ∈ t.toList
    · rw [parse_of_point hp]
      cases hparse : Decimal.parse? t.toList with
      | some d => exact absurd ((Decimal.parse?_eq_some_iff_spells hp).1 hparse) (hs d)
      | none => rfl
    · exact parse_of_plain hne hd hp hb

/-- A text denotes the value of its class. -/
theorem parse_eq_iff {t : String} {v : Value} : parse t = v ↔ Reads t v := by
  obtain ⟨v', hv'⟩ := exists_reads t
  refine ⟨?_, Reads.parse_eq⟩
  rintro rfl
  rwa [hv'.parse_eq]

theorem parse_eq_mono_iff {t : String} : parse t = .mono ↔ t = "" := by
  rw [parse_eq_iff]
  refine ⟨fun h => ?_, .mono⟩
  cases h with
  | mono h => exact h

theorem parse_eq_int_iff {t : String} {n : Int32} :
    parse t = .int n ↔ Digits t.toList ∧ spelledNat t.toList ≤ greatestInt ∧
      n.toInt = spelledNat t.toList := by
  have hexact : spelledNat t.toList ≤ greatestInt →
      (Int32.ofNat (spelledNat t.toList)).toInt = spelledNat t.toList := fun hn =>
    Int32.toInt_ofNat_of_lt (Nat.lt_succ_of_le hn)
  rw [parse_eq_iff]
  constructor
  · intro h
    cases h with
    | int hd hn => exact ⟨hd, hn, hexact hn⟩
  · rintro ⟨hd, hn, h⟩
    rw [Int32.toInt_inj.1 (h.trans (hexact hn).symm)]
    exact .int hd hn

theorem parse_eq_float_iff {t : String} {x : Binary32} :
    parse t = .float x ↔
      (Digits t.toList ∧ greatestInt < spelledNat t.toList ∧
        x = Decimal.toBinary32 { coefficient := spelledNat t.toList }) ∨
      '.' ∈ t.toList ∧ ∃ d, Spells t.toList d ∧ x = d.toBinary32 := by
  rw [parse_eq_iff]
  constructor
  · intro h
    cases h with
    | large hd hn => exact .inl ⟨hd, hn, rfl⟩
    | number hd => exact .inr ⟨point_mem_of_spells hd, _, hd, rfl⟩
  · rintro (⟨hd, hn, rfl⟩ | ⟨-, d, hd, rfl⟩)
    · exact .large hd hn
    · exact .number hd

theorem parse_eq_bool_iff {t : String} {b : Bool} : parse t = .bool b ↔ t = display (.bool b) := by
  rw [parse_eq_iff]
  refine ⟨fun h => ?_, .bool⟩
  cases h with
  | bool h => exact h

/-- What a text denotes is a text only if it is that text itself, and belongs to no other class. -/
theorem parse_eq_text_iff {t s : String} :
    parse t = .text s ↔ s = t ∧ t ≠ "" ∧ ¬ Digits t.toList ∧ (∀ d, ¬ Spells t.toList d) ∧
      ∀ b, t ≠ display (.bool b) := by
  rw [parse_eq_iff]
  constructor
  · intro h
    cases h with
    | text hne hd hs hb => exact ⟨rfl, hne, hd, hs, hb⟩
  · rintro ⟨rfl, hne, hd, hs, hb⟩
    exact .text hne hd hs hb

end Value

/-- Every text denotes exactly one value, and its class is known. The empty text is `mono`; digits are the
integer that they spell, whatever zeros stand in front, or the nearest float if it is greater than
2147483647; the text of a number with a point is the nearest float; `true` and `false` are the truth
values; and every other text is itself. No text denotes a float that is no number, a negative integer or
an empty text. -/
theorem value_parse_classifies (t : String) :
    (Value.parse t = .mono ↔ t = "") ∧
    (∀ n : Int32, Value.parse t = .int n ↔
      Digits t.toList ∧ spelledNat t.toList ≤ 2147483647 ∧ n.toInt = spelledNat t.toList) ∧
    (∀ x : Binary32, Value.parse t = .float x ↔
      (Digits t.toList ∧ 2147483647 < spelledNat t.toList ∧
        x = Decimal.toBinary32 { coefficient := spelledNat t.toList }) ∨
      '.' ∈ t.toList ∧ ∃ d, Spells t.toList d ∧ x = d.toBinary32) ∧
    (Value.parse t = .bool true ↔ t = "true") ∧
    (Value.parse t = .bool false ↔ t = "false") ∧
    (∀ s, Value.parse t = .text s ↔ s = t ∧ t ≠ "" ∧ ¬ Digits t.toList ∧
      (∀ d, ¬ Spells t.toList d) ∧ t ≠ "true" ∧ t ≠ "false") ∧
    Value.parse t ≠ .float .nan ∧ (∀ n, Value.parse t = .int n → 0 ≤ n.toInt) ∧
    Value.parse t ≠ .text "" := by
  refine ⟨Value.parse_eq_mono_iff, fun _ => Value.parse_eq_int_iff, fun _ => Value.parse_eq_float_iff,
    Value.parse_eq_bool_iff, Value.parse_eq_bool_iff, fun s => ?_, fun h => ?_, fun n h => ?_, fun h => ?_⟩
  · rw [Value.parse_eq_text_iff, Bool.forall_bool]
    exact and_congr_right' (and_congr_right' (and_congr_right' (and_congr_right' and_comm)))
  · -- rounding a number gives no `nan`
    rcases Value.parse_eq_float_iff.1 h with ⟨-, -, h⟩ | ⟨-, d, -, h⟩ <;> cases h
  · rw [(Value.parse_eq_int_iff.1 h).2.2]
    exact Int.natCast_nonneg _
  · obtain ⟨hs, hne, -⟩ := Value.parse_eq_text_iff.1 h
    exact hne hs.symm

end StackScript
