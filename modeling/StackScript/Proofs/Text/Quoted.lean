import StackScript.Text.Quoted

/-!
# Reading quoted text

A quoted text is read character by character: a backslash begins an escape, and everything else stands
for itself. Reading undoes quoting, so that two texts with the same quoted form are the same.

* `natOfHex_toDigits`: hexadecimal digits are read as the number that they were written for;
* `unescape?_escapeChar_append`: one character is read back, however it was written;
* `unquote?_quote`: a quoted text is read back;
* `not_isControl_of_mem_quote`: a quoted text holds no control character.
-/

namespace StackScript.Text

/-! ## Hexadecimal digits -/

/-- The value of a hexadecimal digit. -/
def hexValue (c : Char) : Nat :=
  if c.isDigit then c.toNat - '0'.toNat else c.toNat - 'a'.toNat + 10

/-- The number that hexadecimal digits spell. -/
def natOfHex (cs : List Char) : Nat :=
  cs.foldl (fun n c => 16 * n + hexValue c) 0

theorem hexValue_digitChar : ∀ k < 16, hexValue k.digitChar = k := by decide

/-- A hexadecimal digit is a character from `0` to `f`. -/
theorem toNat_digitChar : ∀ k < 16, 48 ≤ k.digitChar.toNat ∧ k.digitChar.toNat ≤ 102 := by decide

theorem natOfHex_toDigits (n : Nat) : natOfHex (Nat.toDigits 16 n) = n := by
  induction n using Nat.strongRecOn with
  | _ n ih =>
    by_cases hn : n < 16
    · rw [Nat.toDigits_of_lt_base hn, natOfHex, List.foldl_cons, List.foldl_nil, hexValue_digitChar n hn,
        Nat.mul_zero, Nat.zero_add]
    · have hlast : n % 16 < 16 := Nat.mod_lt n (by decide)
      have hfront := ih (n / 16) (by omega)
      rw [natOfHex] at hfront
      rw [Nat.toDigits_of_base_le (by decide) (Nat.le_of_not_lt hn), natOfHex, List.foldl_append, hfront,
        List.foldl_cons, List.foldl_nil, hexValue_digitChar _ hlast]
      omega

theorem toNat_of_mem_toDigits {n : Nat} {c : Char} (h : c ∈ Nat.toDigits 16 n) :
    48 ≤ c.toNat ∧ c.toNat ≤ 102 := by
  induction n using Nat.strongRecOn with
  | _ n ih =>
    by_cases hn : n < 16
    · rw [Nat.toDigits_of_lt_base hn, List.mem_singleton] at h
      exact h ▸ toNat_digitChar n hn
    · rw [Nat.toDigits_of_base_le (by decide) (Nat.le_of_not_lt hn), List.mem_append,
        List.mem_singleton] at h
      rcases h with h | rfl
      · exact ih (n / 16) (by omega) h
      · exact toNat_digitChar _ (Nat.mod_lt n (by decide))

/-! ## Control characters -/

/-- The character is a control: one of the general category Cc. -/
def IsControl (c : Char) : Prop :=
  c.toNat < 0x20 ∨ 0x7f ≤ c.toNat ∧ c.toNat < 0xa0

instance (c : Char) : Decidable (IsControl c) :=
  inferInstanceAs (Decidable (_ ∨ _))

theorem isUnprintable_of_isControl {c : Char} (h : IsControl c) : isUnprintable c = true := by
  rw [isUnprintable, Bool.or_eq_true, Bool.and_eq_true]
  rcases h with h | ⟨hlow, hhigh⟩
  · exact .inl (decide_eq_true h)
  · exact .inr ⟨decide_eq_true hlow,
      RangeTable.contains_iff.2 ⟨(0x7f, 0xa0), List.mem_cons_self, hlow, Nat.le_of_lt hhigh⟩⟩

/-! ## Reading -/

/-- The character that an escape stands for, read behind its backslash, and what follows it. -/
def readEscape? : List Char → Option (Char × List Char)
  | '0' :: rest => some ('\x00', rest)
  | 't' :: rest => some ('\t', rest)
  | 'r' :: rest => some ('\r', rest)
  | 'n' :: rest => some ('\n', rest)
  | '\\' :: rest => some ('\\', rest)
  | '"' :: rest => some ('"', rest)
  | 'u' :: '\x7b' :: rest =>
    some (Char.ofNat (natOfHex (rest.takeWhile (· ≠ '\x7d'))), (rest.dropWhile (· ≠ '\x7d')).drop 1)
  | _ => none

theorem length_of_readEscape? {cs rest : List Char} {c : Char} (h : readEscape? cs = some (c, rest)) :
    rest.length < cs.length := by
  unfold readEscape? at h
  split at h
  case h_7 rest =>
    cases h
    have hle := (List.dropWhile_sublist (l := rest) (fun c => decide (c ≠ '\x7d'))).length_le
    simp only [List.length_drop, List.length_cons]
    omega
  all_goals cases h
  all_goals exact Nat.lt_succ_self _

/-- The characters up to a closing quote that ends the text. -/
def unescape? : List Char → Option (List Char)
  | [] => none
  | c :: cs =>
    if c = '"' then if cs = [] then some [] else none
    else if c = '\\' then
      match h : readEscape? cs with
      | some (d, rest) =>
        have := length_of_readEscape? h
        (unescape? rest).map (d :: ·)
      | none => none
    else (unescape? cs).map (c :: ·)
termination_by cs => cs.length

/-- The text that a quoted form stands for. -/
def unquote? (s : String) : Option String :=
  match s.toList with
  | '"' :: cs => (unescape? cs).map String.ofList
  | _ => none

theorem unescape?_plain {c : Char} (hq : c ≠ '"') (hb : c ≠ '\\') (cs : List Char) :
    unescape? (c :: cs) = (unescape? cs).map (c :: ·) := by
  rw [unescape?, if_neg hq, if_neg hb]

theorem unescape?_escape {cs rest : List Char} {c : Char} (h : readEscape? cs = some (c, rest)) :
    unescape? ('\\' :: cs) = (unescape? rest).map (c :: ·) := by
  rw [unescape?, if_neg (by decide), if_pos rfl]
  split
  · rename_i h'
    rw [h] at h'
    cases h'
    rfl
  · rename_i h'
    rw [h] at h'
    cases h'

/-- A code point in braces is read up to the closing brace. -/
theorem readEscape?_codePoint (c : Char) (rest : List Char) :
    readEscape? ('u' :: '\x7b' :: (Nat.toDigits 16 c.toNat ++ '\x7d' :: rest)) = some (c, rest) := by
  have hdigits : ∀ d ∈ Nat.toDigits 16 c.toNat, decide (d ≠ '\x7d') = true := by
    intro d hd
    refine decide_eq_true ?_
    rintro rfl
    exact absurd (toNat_of_mem_toDigits hd).2 (by decide)
  simp only [readEscape?, List.takeWhile_append_of_pos hdigits, List.dropWhile_append_of_pos hdigits]
  simp [natOfHex_toDigits]

/-- A character is written as itself, in the short form of a backslash and one more character, or by its
code point. -/
theorem escapeChar_cases (c : Char) :
    (escapeChar c = [c] ∧ c ≠ '"' ∧ c ≠ '\\' ∧ isUnprintable c = false) ∨
      (∃ d, escapeChar c = ['\\', d] ∧ ¬ IsControl d ∧
        ∀ rest, readEscape? (d :: rest) = some (c, rest)) ∨
      escapeChar c = escapeCodePoint c := by
  unfold escapeChar
  split
  · rename_i h
    exact .inr (.inl ⟨'0', rfl, by decide, fun _ => h ▸ rfl⟩)
  split
  · rename_i h
    exact .inr (.inl ⟨'t', rfl, by decide, fun _ => h ▸ rfl⟩)
  split
  · rename_i h
    exact .inr (.inl ⟨'r', rfl, by decide, fun _ => h ▸ rfl⟩)
  split
  · rename_i h
    exact .inr (.inl ⟨'n', rfl, by decide, fun _ => h ▸ rfl⟩)
  split
  · rename_i h
    rcases h with rfl | rfl
    · exact .inr (.inl ⟨_, rfl, by decide, fun _ => rfl⟩)
    · exact .inr (.inl ⟨_, rfl, by decide, fun _ => rfl⟩)
  rename_i hmark
  obtain ⟨hbackslash, hquote⟩ := not_or.1 hmark
  split
  · exact .inr (.inr rfl)
  · rename_i hprint
    rw [Bool.not_eq_true, Bool.or_eq_false_iff] at hprint
    exact .inl ⟨rfl, hquote, hbackslash, hprint.2⟩

/-- One character is read back, however it was written. -/
theorem unescape?_escapeChar_append (c : Char) (rest : List Char) :
    unescape? (escapeChar c ++ rest) = (unescape? rest).map (c :: ·) := by
  rcases escapeChar_cases c with ⟨h, hquote, hbackslash, -⟩ | ⟨d, h, -, hread⟩ | h
  · rw [h]
    exact unescape?_plain hquote hbackslash rest
  · rw [h]
    exact unescape?_escape (hread rest)
  · rw [h, escapeCodePoint, List.append_assoc, List.append_assoc]
    exact unescape?_escape (readEscape?_codePoint c rest)

theorem unescape?_flatMap (cs : List Char) :
    unescape? (cs.flatMap escapeChar ++ ['"']) = some cs := by
  induction cs with
  | nil => rw [List.flatMap_nil, List.nil_append, unescape?, if_pos rfl, if_pos rfl]
  | cons c cs ih =>
    rw [List.flatMap_cons, List.append_assoc, unescape?_escapeChar_append, ih, Option.map_some]

/-- A quoted text is read back. -/
theorem unquote?_quote (s : String) : unquote? (quote s) = some s := by
  have htext : (quote s).toList = '"' :: (s.toList.flatMap escapeChar ++ ['"']) := by
    rw [quote, quoteChars, String.toList_ofList, List.cons_append]
  simp only [unquote?, htext, unescape?_flatMap, Option.map_some, String.ofList_toList]

theorem quote_injective {s t : String} (h : quote s = quote t) : s = t := by
  have hread := unquote?_quote s
  rw [h, unquote?_quote] at hread
  exact (Option.some.inj hread).symm

/-! ## What a quoted text holds -/

theorem not_isControl_of_mem_escapeCodePoint {c d : Char} (h : d ∈ escapeCodePoint c) :
    ¬ IsControl d := by
  rw [escapeCodePoint, List.mem_append, List.mem_append] at h
  rcases h with (h | h) | h
  · simp only [List.mem_cons, List.not_mem_nil, or_false] at h
    rcases h with rfl | rfl | rfl <;> decide
  · have hd := toNat_of_mem_toDigits h
    rw [IsControl]
    omega
  · rw [List.mem_singleton.1 h]
    decide

theorem not_isControl_of_mem_escapeChar {c d : Char} (h : d ∈ escapeChar c) : ¬ IsControl d := by
  rcases escapeChar_cases c with ⟨hc, -, -, hprint⟩ | ⟨short, hc, hshort, -⟩ | hc
  · rw [hc, List.mem_singleton] at h
    intro hcontrol
    rw [← h, isUnprintable_of_isControl hcontrol] at hprint
    cases hprint
  · rw [hc, List.mem_cons, List.mem_singleton] at h
    rcases h with rfl | rfl
    · decide
    · exact hshort
  · exact not_isControl_of_mem_escapeCodePoint (hc ▸ h)

theorem not_isControl_of_mem_quote {s : String} {c : Char} (h : c ∈ (quote s).toList) :
    ¬ IsControl c := by
  rw [quote, String.toList_ofList, quoteChars, List.cons_append, List.mem_cons, List.mem_append,
    List.mem_flatMap] at h
  rcases h with rfl | ⟨d, -, h⟩ | h
  · decide
  · exact not_isControl_of_mem_escapeChar h
  · rw [List.mem_singleton.1 h]
    decide

end StackScript.Text
