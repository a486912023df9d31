import Mathlib.Data.List.Basic
import StackScript.Text.Lines

/-!
# Lines of characters and of bytes

A text can be cut into lines before or after it is encoded in UTF-8. The two agree because the bytes
of the marks occur in no encoding but their own.

* `byteLines_encode`: the lines of an encoded text are its lines, each encoded;
* `decode?_encode` and `encode_of_decode?`: what was encoded can be decoded, and the other way round;
* `not_mem_of_mem_lines` and `not_mem_of_decode?_byteLines`: no line holds a line feed;
* `splitLinesFrom_append_lineFeed`: the lines of two texts with a line feed between them;
* `splitLines_flatMap`: the lines of a text that was made of lines.
-/

namespace StackScript.Text

/-- The characters in UTF-8. -/
def encode (cs : List Char) : List UInt8 :=
  cs.flatMap String.utf8EncodeChar

@[simp] theorem encode_nil : encode [] = [] := rfl

theorem encode_cons (c : Char) (cs : List Char) :
    encode (c :: cs) = String.utf8EncodeChar c ++ encode cs := rfl

theorem encode_append (cs ds : List Char) : encode (cs ++ ds) = encode cs ++ encode ds :=
  List.flatMap_append

theorem encode_eq_nil_iff {cs : List Char} : encode cs = [] ↔ cs = [] := by
  cases cs <;> simp [encode_cons]

/-- The bytes of a text are its characters in UTF-8. -/
theorem toList_toUTF8 (s : String) : s.toUTF8.data.toList = encode s.toList := by
  rw [String.toUTF8_eq_toByteArray, ← String.utf8Encode_toList, List.utf8Encode,
    List.data_toByteArray, List.toList_toArray]
  rfl

theorem toList_toUTF8_append (s t : String) :
    (s ++ t).toUTF8.data.toList = s.toUTF8.data.toList ++ t.toUTF8.data.toList := by
  rw [toList_toUTF8, toList_toUTF8, toList_toUTF8, String.toList_append, encode_append]

theorem decode?_encode (cs : List Char) : decode? (encode cs) = some (String.ofList cs) := by
  have hb : (⟨(encode cs).toArray⟩ : ByteArray) = (String.ofList cs).toByteArray := by
    rw [String.toByteArray_ofList]
    apply ByteArray.ext
    rw [List.utf8Encode, List.data_toByteArray]
    rfl
  rw [decode?, hb, String.fromUTF8?, dif_pos (String.ofList cs).isValidUTF8]
  rfl

/-- Bytes that can be decoded are the encoding of what they denote. -/
theorem encode_of_decode? {bytes : List UInt8} {s : String} (h : decode? bytes = some s) :
    encode s.toList = bytes := by
  rw [decode?, String.fromUTF8?] at h
  split at h
  · cases h
    rw [← toList_toUTF8]
    rfl
  · cases h

/-- A byte below 128 is the whole encoding of the character with its number. -/
theorem eq_of_mem_utf8EncodeChar {c : Char} {b : UInt8} (hb : b ∈ String.utf8EncodeChar c)
    (hlt : b.toNat < 128) : c.toNat = b.toNat ∧ String.utf8EncodeChar c = [b] := by
  have hc : c.val.toNat = c.toNat := rfl
  unfold String.utf8EncodeChar at hb ⊢
  simp only [hc] at hb ⊢
  split at hb
  · rename_i h
    obtain rfl := List.mem_singleton.1 hb
    rw [if_pos h]
    exact ⟨by simp; omega, rfl⟩
  · exfalso
    split at hb
    · simp only [List.mem_cons, List.not_mem_nil, or_false] at hb
      rcases hb with rfl | rfl <;> simp at hlt <;> omega
    · split at hb
      · simp only [List.mem_cons, List.not_mem_nil, or_false] at hb
        rcases hb with rfl | rfl | rfl <;> simp at hlt <;> omega
      · simp only [List.mem_cons, List.not_mem_nil, or_false] at hb
        rcases hb with rfl | rfl | rfl | rfl <;> simp at hlt <;> omega

/-- The byte of an ASCII character occurs in no other encoding. -/
theorem mem_utf8EncodeChar_iff {c d : Char} (hd : d.toNat < 128) :
    UInt8.ofNat d.toNat ∈ String.utf8EncodeChar c ↔ c = d := by
  have hn : (UInt8.ofNat d.toNat).toNat = d.toNat := by simp; omega
  constructor
  · intro h
    have hc := (eq_of_mem_utf8EncodeChar h (by omega)).1
    exact Char.toNat_inj.1 (hc.trans hn)
  · rintro rfl
    have hv : c.val.toNat ≤ 0x7f := Nat.le_of_lt_succ hd
    rw [String.utf8EncodeChar, if_pos hv]
    exact List.mem_singleton.2 rfl

/-- A text has a line feed for each of the bytes of one. -/
theorem count_lineFeed_encode (cs : List Char) : (encode cs).count 10 = cs.count '\n' := by
  induction cs with
  | nil => rfl
  | cons c cs ih =>
    rw [encode_cons, List.count_append, ih, List.count_cons, Nat.add_comm]
    congr 1
    by_cases hc : c = '\n'
    · subst hc
      rfl
    · have hno : (10 : UInt8) ∉ String.utf8EncodeChar c := fun h =>
        hc ((mem_utf8EncodeChar_iff (d := '\n') (by decide)).1 h)
      rw [List.count_eq_zero.2 hno, if_neg (by simpa using hc)]

/-! ## Cutting at line feeds -/

section

variable {α : Type} [DecidableEq α] {lf cr : α}

/-- Characters other than the line feed belong to the open line. -/
theorem splitLinesFrom_append {front : List α} (h : lf ∉ front) (pending rest : List α) :
    splitLinesFrom lf cr pending (front ++ rest) =
      splitLinesFrom lf cr (front.reverse ++ pending) rest := by
  induction front generalizing pending with
  | nil => rfl
  | cons c front ih =>
    obtain ⟨hc, hf⟩ := not_or.1 (mt List.mem_cons.2 h)
    rw [List.cons_append, splitLinesFrom, if_neg (Ne.symm hc), ih hf, List.reverse_cons,
      List.append_assoc, List.singleton_append]

/-- A text can be cut into lines up to one of its line feeds, and from there on its own. -/
theorem splitLinesFrom_append_lineFeed (pending cs rest : List α) :
    splitLinesFrom lf cr pending (cs ++ lf :: rest) =
      splitLinesFrom lf cr pending (cs ++ [lf]) ++ splitLinesFrom lf cr [] rest := by
  induction cs generalizing pending with
  | nil => simp [splitLinesFrom]
  | cons c cs ih =>
    rw [List.cons_append, List.cons_append, splitLinesFrom, splitLinesFrom, ih, ih]
    split <;> rfl

/-- A text that ends with a line feed has as many lines as line feeds. -/
theorem length_splitLinesFrom_concat (pending cs : List α) :
    (splitLinesFrom lf cr pending (cs ++ [lf])).length = 1 + cs.count lf := by
  induction cs generalizing pending with
  | nil => simp [splitLinesFrom]
  | cons c cs ih =>
    rw [List.cons_append, splitLinesFrom]
    by_cases hc : c = lf
    · rw [if_pos hc, List.length_cons, ih, hc, List.count_cons_self, Nat.add_assoc]
    · rw [if_neg hc, ih, List.count_cons_of_ne hc]

/-- Without a line feed there is one line, or none if the text is empty. -/
theorem splitLines_of_notMem {cs : List α} (h : lf ∉ cs) :
    splitLines lf cr cs = if cs = [] then [] else [cs] := by
  have hsplit : splitLinesFrom lf cr [] cs = splitLinesFrom lf cr cs.reverse [] := by
    simpa using splitLinesFrom_append h [] []
  simp [splitLines, hsplit, splitLinesFrom]

theorem mem_of_mem_dropReturn {line : List α} {a : α} (h : a ∈ dropReturn cr line) : a ∈ line := by
  unfold dropReturn at h
  split at h
  · exact List.dropLast_subset _ h
  · exact h

theorem not_mem_of_mem_splitLinesFrom {pending cs : List α} (hp : lf ∉ pending) :
    ∀ line ∈ splitLinesFrom lf cr pending cs, lf ∉ line := by
  induction cs generalizing pending with
  | nil =>
    intro line hl
    rw [splitLinesFrom] at hl
    split at hl
    · cases hl
    · rw [List.mem_singleton.1 hl]
      simpa using hp
  | cons c cs ih =>
    intro line hl
    rw [splitLinesFrom] at hl
    split at hl
    · rcases List.mem_cons.1 hl with rfl | hl
      · exact fun h => hp (by simpa using mem_of_mem_dropReturn h)
      · exact ih List.not_mem_nil line hl
    · rename_i hc
      exact ih (mt List.mem_cons.1 (not_or.2 ⟨Ne.symm hc, hp⟩)) line hl

/-- Lines that are ended by line feeds one after the other are the lines of the text, if none of them holds
a line feed or ends with a carriage return. -/
theorem splitLines_flatMap {ls : List (List α)} (h : ∀ l ∈ ls, lf ∉ l ∧ l.getLast? ≠ some cr) :
    splitLines lf cr (ls.flatMap (· ++ [lf])) = ls := by
  induction ls with
  | nil => rfl
  | cons l ls ih =>
    obtain ⟨⟨hl, hr⟩, hls⟩ := List.forall_mem_cons.1 h
    have ih := ih hls
    rw [splitLines] at ih
    rw [List.flatMap_cons, splitLines, List.append_assoc, splitLinesFrom_append hl, List.singleton_append,
      splitLinesFrom, if_pos rfl, ih, List.append_nil, List.reverse_reverse, dropReturn, if_neg hr]

end

/-- No line holds a line feed. -/
theorem not_mem_of_mem_lines {s : String} {line : List Char} (h : line ∈ lines s) : '\n' ∉ line :=
  not_mem_of_mem_splitLinesFrom List.not_mem_nil line h

/-! ## Encoded lines -/

/-- A line of bytes is decoded to a text without line feed. -/
theorem not_mem_of_decode?_byteLines {input line : List UInt8} {s : String}
    (h : line ∈ byteLines input) (hd : decode? line = some s) : '\n' ∉ s.toList := by
  intro hs
  have hlf : (10 : UInt8) ∈ encode s.toList := List.mem_flatMap.2 ⟨'\n', hs, by decide⟩
  rw [encode_of_decode? hd] at hlf
  exact not_mem_of_mem_splitLinesFrom List.not_mem_nil line h hlf

theorem dropReturn_encode (cs : List Char) :
    dropReturn 13 (encode cs) = encode (dropReturn '\r' cs) := by
  rcases List.eq_nil_or_concat' cs with rfl | ⟨ds, c, rfl⟩
  · rfl
  · have hne : String.utf8EncodeChar c ≠ [] := String.utf8EncodeChar_ne_nil
    have hlast : (encode (ds ++ [c])).getLast? = (String.utf8EncodeChar c).getLast? := by
      rw [encode_append, encode_cons, encode_nil, List.append_nil,
        List.getLast?_append_of_ne_nil _ hne]
    by_cases hc : c = '\r'
    · subst hc
      have henc : encode (ds ++ ['\r']) = encode ds ++ [13] := encode_append ds ['\r']
      simp [dropReturn, henc]
    · have hcr : (String.utf8EncodeChar c).getLast? ≠ some 13 := by
        intro h
        exact hc ((mem_utf8EncodeChar_iff (d := '\r') (by decide)).1 (List.mem_of_getLast? h))
      rw [dropReturn, dropReturn, hlast, if_neg hcr, if_neg (by simpa using hc)]

theorem splitLinesFrom_encode (pending cs : List Char) :
    splitLinesFrom 10 13 (encode pending.reverse).reverse (encode cs) =
      (splitLinesFrom '\n' '\r' pending cs).map encode := by
  induction cs generalizing pending with
  | nil =>
    rw [encode_nil, splitLinesFrom, splitLinesFrom, List.reverse_reverse]
    by_cases hp : pending = []
    · simp [hp]
    · have he : encode pending.reverse ≠ [] := by simpa [encode_eq_nil_iff] using hp
      simp [hp, he]
  | cons c cs ih =>
    rw [encode_cons]
    by_cases hc : c = '\n'
    · subst hc
      have henc : String.utf8EncodeChar '\n' = [10] := rfl
      have ih := ih []
      rw [henc, List.singleton_append, splitLinesFrom, splitLinesFrom, if_pos rfl, if_pos rfl,
        List.reverse_reverse, dropReturn_encode, List.map_cons]
      exact congrArg _ ih
    · have hlf : (10 : UInt8) ∉ String.utf8EncodeChar c := fun h =>
        hc ((mem_utf8EncodeChar_iff (d := '\n') (by decide)).1 h)
      have hpend : (String.utf8EncodeChar c).reverse ++ (encode pending.reverse).reverse =
          (encode (c :: pending).reverse).reverse := by
        rw [List.reverse_cons, encode_append, List.reverse_append, encode_cons, encode_nil,
          List.append_nil]
      rw [splitLinesFrom_append hlf, hpend, ih, splitLinesFrom, if_neg hc]

/-- The lines of an encoded text are its lines, each encoded. -/
theorem byteLines_encode (s : String) : byteLines (encode s.toList) = (lines s).map encode :=
  splitLinesFrom_encode [] s.toList

end StackScript.Text
