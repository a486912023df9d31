import Mathlib.Data.String.Basic

/-!
# Texts cut at byte offsets

A text in memory is its encoding in UTF-8, and a place in it is a number of bytes. It can be cut only
between two characters:

* `cut?` cuts a text at an offset, if there is such a cut, and `cut?_eq_some_iff` says what it gives;
* `isSome_cut?_iff`: the offsets with a cut are the valid positions of the text;
* `runEnd_eq`, `windowEnd_eq` and `reverse_ends_take_succ`: the offsets that a search through a text
  comes upon lie behind whole characters.
-/

namespace StackScript.Text

open String (utf8Len)

/-- What stands before a byte offset and what behind it. There is no cut inside a character and none
beyond the end. -/
def cut? : Nat → List Char → Option (List Char × List Char)
  | 0, cs => some ([], cs)
  | _ + 1, [] => none
  | n + 1, c :: cs =>
    if c.utf8Size ≤ n + 1 then (cut? (n + 1 - c.utf8Size) cs).map (.map (c :: ·) id) else none

/-- The text up to a byte offset. -/
def upTo? (n : Nat) (cs : List Char) : Option (List Char) :=
  (cut? n cs).map Prod.fst

/-- The text from a byte offset on. -/
def from? (n : Nat) (cs : List Char) : Option (List Char) :=
  (cut? n cs).map Prod.snd

theorem cut?_append (front rest : List Char) :
    cut? (utf8Len front) (front ++ rest) = some (front, rest) := by
  induction front with
  | nil => rw [String.utf8Len_nil, List.nil_append, cut?]
  | cons c front ih =>
    obtain ⟨n, hn⟩ : ∃ n, utf8Len (c :: front) = n + 1 :=
      ⟨_, (Nat.succ_pred_eq_of_pos (Nat.add_pos_right _ c.utf8Size_pos)).symm⟩
    have hfront : n + 1 - c.utf8Size = utf8Len front := by
      rw [String.utf8Len_cons] at hn
      omega
    have hfits : c.utf8Size ≤ n + 1 := by rw [← hn, String.utf8Len_cons]; omega
    rw [hn, List.cons_append, cut?, if_pos hfits, hfront, ih]
    rfl

theorem eq_of_cut? {n : Nat} {cs front rest : List Char} (h : cut? n cs = some (front, rest)) :
    cs = front ++ rest ∧ n = utf8Len front := by
  induction cs generalizing n front with
  | nil =>
    cases n with
    | zero => cases h; exact ⟨rfl, rfl⟩
    | succ n => cases h
  | cons c cs ih =>
    cases n with
    | zero => cases h; exact ⟨rfl, rfl⟩
    | succ n =>
      rw [cut?] at h
      split at h
      · rename_i hc
        obtain ⟨⟨front', rest'⟩, hcut, heq⟩ := Option.map_eq_some_iff.1 h
        cases heq
        obtain ⟨rfl, hn⟩ := ih hcut
        refine ⟨rfl, ?_⟩
        rw [String.utf8Len_cons, ← hn]
        omega
      · cases h

/-- A cut leaves whole characters on both sides, and the offset is the length of the first part. -/
theorem cut?_eq_some_iff {n : Nat} {cs front rest : List Char} :
    cut? n cs = some (front, rest) ↔ cs = front ++ rest ∧ n = utf8Len front := by
  refine ⟨eq_of_cut?, ?_⟩
  rintro ⟨rfl, rfl⟩
  exact cut?_append front rest

/-- A text can be cut exactly at the boundaries of its characters. -/
theorem isSome_cut?_iff {n : Nat} {s : String} :
    (cut? n s.toList).isSome = true ↔ (⟨n⟩ : String.Pos.Raw).IsValid s := by
  rw [Option.isSome_iff_exists, String.Pos.Raw.isValid_iff_exists_append]
  constructor
  · rintro ⟨⟨front, rest⟩, h⟩
    obtain ⟨hs, rfl⟩ := cut?_eq_some_iff.1 h
    refine ⟨String.ofList front, String.ofList rest, ?_, ?_⟩
    · rw [← String.ofList_append, ← hs, String.ofList_toList]
    · rw [String.rawEndPos, String.utf8ByteSize_ofList]
  · rintro ⟨a, b, rfl, hn⟩
    obtain rfl : n = a.utf8ByteSize := congrArg String.Pos.Raw.byteIdx hn
    refine ⟨(a.toList, b.toList), cut?_eq_some_iff.2 ⟨String.toList_append, ?_⟩⟩
    rw [← String.utf8ByteSize_ofList, String.ofList_toList]

theorem upTo?_append (front rest : List Char) :
    upTo? (utf8Len front) (front ++ rest) = some front := by
  rw [upTo?, cut?_append, Option.map_some]

theorem from?_append (front rest : List Char) :
    from? (utf8Len front) (front ++ rest) = some rest := by
  rw [from?, cut?_append, Option.map_some]

/-- What stands behind an offset is what the text ends with behind as many bytes. -/
theorem from?_eq_some_iff {n : Nat} {cs rest : List Char} :
    from? n cs = some rest ↔ ∃ front, cs = front ++ rest ∧ n = utf8Len front := by
  rw [from?, Option.map_eq_some_iff]
  constructor
  · rintro ⟨⟨front, rest'⟩, hcut, rfl⟩
    exact ⟨front, cut?_eq_some_iff.1 hcut⟩
  · rintro ⟨front, h⟩
    exact ⟨(front, rest), cut?_eq_some_iff.2 h, rfl⟩

/-- A text from an offset on, from the end of a piece of it on. -/
theorem from?_add {n : Nat} {cs text rest : List Char} (h : from? n cs = some (text ++ rest)) :
    from? (n + utf8Len text) cs = some rest := by
  obtain ⟨front, rfl, rfl⟩ := from?_eq_some_iff.1 h
  rw [← List.append_assoc, ← String.utf8Len_append, from?_append]

/-! ## Offsets found by a search -/

/-- The offset of the first character with the property. -/
def find? (p : Char → Bool) : List Char → Option Nat
  | [] => none
  | c :: cs => if p c then some 0 else (find? p cs).map (· + c.utf8Size)

/-- The offset behind the characters of a class with which a text begins. -/
def runEnd (p : Char → Bool) (cs : List Char) : Nat :=
  (find? (fun c => !p c) cs).getD (utf8Len cs)

/-- The offset of the character with the index `n`. -/
def offset? : Nat → List Char → Option Nat
  | _, [] => none
  | 0, _ :: _ => some 0
  | n + 1, c :: cs => (offset? n cs).map (· + c.utf8Size)

/-- The offset behind the first `n` characters, or the end of a shorter text. -/
def windowEnd (n : Nat) (cs : List Char) : Nat :=
  (offset? n cs).getD (utf8Len cs)

/-- The offsets behind each of the characters. -/
def ends : List Char → List Nat
  | [] => []
  | c :: cs => c.utf8Size :: (ends cs).map (· + c.utf8Size)

theorem runEnd_eq (p : Char → Bool) (cs : List Char) : runEnd p cs = utf8Len (cs.takeWhile p) := by
  induction cs with
  | nil => rfl
  | cons c cs ih =>
    by_cases hc : p c = true
    · rw [List.takeWhile_cons_of_pos hc, String.utf8Len_cons, ← ih, runEnd, runEnd, find?, hc]
      cases find? (fun c => !p c) cs <;> rfl
    · rw [List.takeWhile_cons_of_neg hc, runEnd, find?, Bool.of_not_eq_true hc]
      rfl

theorem upTo?_runEnd (p : Char → Bool) (cs : List Char) :
    upTo? (runEnd p cs) cs = some (cs.takeWhile p) := by
  have h := upTo?_append (cs.takeWhile p) (cs.dropWhile p)
  rwa [List.takeWhile_append_dropWhile, ← runEnd_eq] at h

theorem from?_runEnd (p : Char → Bool) (cs : List Char) :
    from? (runEnd p cs) cs = some (cs.dropWhile p) := by
  have h := from?_append (cs.takeWhile p) (cs.dropWhile p)
  rwa [List.takeWhile_append_dropWhile, ← runEnd_eq] at h

theorem windowEnd_eq (n : Nat) (cs : List Char) : windowEnd n cs = utf8Len (cs.take n) := by
  induction cs generalizing n with
  | nil => rw [List.take_nil, windowEnd, offset?, Option.getD_none]
  | cons c cs ih =>
    cases n with
    | zero => rfl
    | succ n =>
      rw [List.take_succ_cons, String.utf8Len_cons, ← ih, windowEnd, windowEnd, offset?]
      cases offset? n cs <;> rfl

theorem ends_concat (cs : List Char) (c : Char) : ends (cs ++ [c]) = ends cs ++ [utf8Len (cs ++ [c])] := by
  induction cs with
  | nil => simp [ends]
  | cons d cs ih => simp [ends, ih]

/-- From the back, the characters of a text end where ever shorter pieces of it do. -/
theorem reverse_ends_take_succ {n : Nat} {cs : List Char} (h : n < cs.length) :
    (ends (cs.take (n + 1))).reverse = utf8Len (cs.take (n + 1)) :: (ends (cs.take n)).reverse := by
  rw [List.take_succ_eq_append_getElem h, ends_concat, List.reverse_append]
  rfl

end StackScript.Text
