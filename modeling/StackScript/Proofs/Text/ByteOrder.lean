import StackScript.Proofs.Text.Lines

/-!
# The order of encoded texts

Texts are compared character by character, and characters by their code points. The encodings in UTF-8
compare in the same way byte by byte: a longer encoding has a greater leading byte, and encodings of one
length hold the digits of the code points to the base 64, the highest first.

* `utf8EncodeChar_eq_spread`: an encoding by its length and its digits;
* `utf8EncodeChar_append_lt`: of two characters, whatever stands behind them;
* `encode_lt_encode`: of two texts.
-/

namespace StackScript.Text

/-- A number in `k + 1` bytes. The `k` lowest digits to the base 64, each raised by 128, stand behind a
leading byte with the rest of the number, raised by the mark. -/
def spread (mark : Nat) : Nat → Nat → List UInt8
  | 0, v => [UInt8.ofNat (v + mark)]
  | k + 1, v => spread mark k (v / 64) ++ [UInt8.ofNat (v % 64 + 128)]

/-- The number in the leading byte. -/
def lead (mark : Nat) : Nat → Nat → Nat
  | 0, v => v + mark
  | k + 1, v => lead mark k (v / 64)

/-- How many bytes stand behind the leading one in the encoding of a code point. -/
def trailing (v : Nat) : Nat :=
  if v ≤ 0x7f then 0 else if v ≤ 0x7ff then 1 else if v ≤ 0xffff then 2 else 3

/-- The mark by which the leading byte shows how many bytes stand behind it. -/
def mark : Nat → Nat
  | 0 => 0
  | 1 => 0xc0
  | 2 => 0xe0
  | _ => 0xf0

/-- The encoding of a character is its code point, spread over as many bytes as it needs. -/
theorem utf8EncodeChar_eq_spread (c : Char) :
    String.utf8EncodeChar c = spread (mark (trailing c.toNat)) (trailing c.toNat) c.toNat := by
  have hc : c.toNat < 0xd800 ∨ 0xdfff < c.toNat ∧ c.toNat < 0x110000 := c.valid
  have hv : c.val.toNat = c.toNat := rfl
  simp only [String.utf8EncodeChar, trailing, hv]
  split
  · rfl
  · split
    · have hlead : c.toNat / 64 % 0x20 = c.toNat / 64 := by omega
      rw [hlead]
      rfl
    · split
      · have hlead : c.toNat / 4096 % 0x10 = c.toNat / 64 / 64 := by omega
        rw [hlead]
        rfl
      · have hlead : c.toNat / 262144 % 0x08 = c.toNat / 64 / 64 / 64 := by omega
        have hsecond : c.toNat / 4096 % 0x40 = c.toNat / 64 / 64 % 64 := by omega
        rw [hlead, hsecond]
        rfl

theorem exists_spread (mark k v : Nat) : ∃ rest, spread mark k v = UInt8.ofNat (lead mark k v) :: rest := by
  induction k generalizing v with
  | zero => exact ⟨[], rfl⟩
  | succ k ih =>
    obtain ⟨rest, hrest⟩ := ih (v / 64)
    exact ⟨rest ++ [UInt8.ofNat (v % 64 + 128)], by rw [spread, hrest, lead, List.cons_append]⟩

theorem ofNat_cons_lt {a b : Nat} (h : a < b) (hb : b < 256) (xs ys : List UInt8) :
    UInt8.ofNat a :: xs < UInt8.ofNat b :: ys := by
  rw [List.cons_lt_cons_iff, UInt8.lt_iff_toNat_lt, UInt8.toNat_ofNat', UInt8.toNat_ofNat']
  exact .inl (by omega)

/-- Where the leading bytes differ they decide. -/
theorem spread_lt_of_lead {p q k l v w : Nat} (h : lead p k v < lead q l w) (hw : lead q l w < 256)
    (xs ys : List UInt8) : spread p k v ++ xs < spread q l w ++ ys := by
  obtain ⟨restv, hv⟩ := exists_spread p k v
  obtain ⟨restw, hw'⟩ := exists_spread q l w
  rw [hv, hw']
  exact ofNat_cons_lt h hw _ _

/-- Over equally many bytes the smaller number comes first. -/
theorem spread_lt_spread {p k v w : Nat} (h : v < w) (hw : lead p k w < 256) (xs ys : List UInt8) :
    spread p k v ++ xs < spread p k w ++ ys := by
  -- the induction peels off the last byte, which matters only if all others agree
  induction k generalizing v w xs ys with
  | zero => exact ofNat_cons_lt (Nat.add_lt_add_right h p) hw xs ys
  | succ k ih =>
    rw [spread, spread, List.append_assoc, List.append_assoc]
    by_cases hhigh : v / 64 < w / 64
    · exact ih hhigh hw _ _
    · have heq : v / 64 = w / 64 := by omega
      rw [heq]
      exact List.append_left_lt (ofNat_cons_lt (by omega) (by omega) xs ys)

/-! ## Leading bytes -/

theorem trailing_le_three (v : Nat) : trailing v ≤ 3 := by
  unfold trailing
  split_ifs <;> decide

theorem trailing_mono {v w : Nat} (h : v ≤ w) : trailing v ≤ trailing w := by
  unfold trailing
  split_ifs <;> omega

theorem mark_mono {k l : Nat} (h : k ≤ l) : mark k ≤ mark l := by
  rcases k with _ | _ | _ | k <;> rcases l with _ | _ | _ | l <;> simp only [mark] <;> omega

theorem mark_le_lead (p k v : Nat) : p ≤ lead p k v := by
  induction k generalizing v with
  | zero => exact Nat.le_add_left p v
  | succ k ih => exact ih (v / 64)

/-- The leading byte stays below the mark of the next longer encoding. -/
theorem lead_lt_mark {v : Nat} (h : trailing v < 3) :
    lead (mark (trailing v)) (trailing v) v < mark (trailing v + 1) := by
  unfold trailing at h ⊢
  split_ifs at h ⊢ <;> simp only [lead, mark] <;> omega

theorem lead_lt_256 {v : Nat} (h : v < 0x110000) : lead (mark (trailing v)) (trailing v) v < 256 := by
  unfold trailing
  split_ifs <;> simp only [lead, mark] <;> omega

/-- A longer encoding has a greater leading byte. -/
theorem lead_lt_lead {v w : Nat} (h : trailing v < trailing w) :
    lead (mark (trailing v)) (trailing v) v < lead (mark (trailing w)) (trailing w) w := by
  have hthree := trailing_le_three w
  calc lead (mark (trailing v)) (trailing v) v
      _ < mark (trailing v + 1) := lead_lt_mark (by omega)
      _ ≤ mark (trailing w) := mark_mono h
      _ ≤ lead (mark (trailing w)) (trailing w) w := mark_le_lead _ _ w

/-! ## Characters and texts -/

/-- The encodings of two characters compare as their code points do, whatever stands behind them. -/
theorem utf8EncodeChar_append_lt {c d : Char} (h : c < d) (xs ys : List UInt8) :
    String.utf8EncodeChar c ++ xs < String.utf8EncodeChar d ++ ys := by
  have hlt : c.toNat < d.toNat := h
  have hvalid : d.toNat < 0xd800 ∨ 0xdfff < d.toNat ∧ d.toNat < 0x110000 := d.valid
  have hd := lead_lt_256 (v := d.toNat) (by omega)
  rw [utf8EncodeChar_eq_spread, utf8EncodeChar_eq_spread]
  by_cases hlength : trailing c.toNat = trailing d.toNat
  · rw [hlength]
    exact spread_lt_spread hlt hd xs ys
  · have hlonger := trailing_mono (Nat.le_of_lt hlt)
    exact spread_lt_of_lead (lead_lt_lead (by omega)) hd xs ys

/-- The encodings of two texts compare as the texts do. -/
theorem encode_lt_encode {cs ds : List Char} (h : cs < ds) : encode cs < encode ds := by
  induction cs generalizing ds with
  | nil =>
    cases ds with
    | nil => exact absurd h (List.lt_irrefl [])
    | cons d ds =>
      obtain ⟨b, bs, hbytes⟩ := List.exists_cons_of_ne_nil (mt encode_eq_nil_iff.1 (List.cons_ne_nil d ds))
      rw [encode_nil, hbytes]
      exact List.nil_lt_cons b bs
  | cons c cs ih =>
    cases ds with
    | nil => exact absurd h (List.not_lt_nil _)
    | cons d ds =>
      rw [encode_cons, encode_cons]
      rcases List.cons_lt_cons_iff.1 h with hlt | ⟨rfl, hlt⟩
      · exact utf8EncodeChar_append_lt hlt _ _
      · exact List.append_left_lt (ih hlt)

end StackScript.Text
