import Mathlib.Data.List.Basic
import StackScript.Proofs.Text.Runs
import StackScript.Text.Blank

/-!
# The ends of a text

`stripEnds` removes the characters of a class from both ends of a text.

* `exists_stripEnds`: what is removed, and what is left;
* `stripEnds_append_left` and `stripEnds_append_right`: characters of the class that are added at an end
  are removed again;
* `stripEnds_word_append`: what is left of a text that begins with a word.
-/

namespace StackScript.Text

variable {p : Char → Bool}

/-- The text does not end with a character of the class. -/
def EndsOutside (p : Char → Bool) (cs : List Char) : Prop :=
  ∀ c ∈ cs.getLast?, p c = false

instance (cs : List Char) : Decidable (EndsOutside p cs) :=
  decidable_of_iff ((cs.getLast?.all fun c => !p c) = true) (by simp [EndsOutside, Option.all_eq_true])

theorem startsOutside_reverse {cs : List Char} : StartsOutside p cs.reverse ↔ EndsOutside p cs := by
  rw [StartsOutside, EndsOutside, List.head?_reverse]

/-- Nothing is removed from a text that neither begins nor ends with a character of the class. -/
theorem stripEnds_of_outside {cs : List Char} (hs : StartsOutside p cs) (he : EndsOutside p cs) :
    stripEnds p cs = cs := by
  rw [stripEnds, dropWhile_of_outside hs, dropWhile_of_outside (startsOutside_reverse.2 he),
    List.reverse_reverse]

/-- What is removed at the ends of a text are characters of the class, and none of them is left there. -/
theorem exists_stripEnds (p : Char → Bool) (cs : List Char) :
    ∃ before after, cs = before ++ stripEnds p cs ++ after ∧ (∀ c ∈ before ++ after, p c = true) ∧
      StartsOutside p (stripEnds p cs) ∧ EndsOutside p (stripEnds p cs) := by
  have hfront := List.takeWhile_append_dropWhile (p := p) (l := cs)
  have hback := congrArg List.reverse
    (List.takeWhile_append_dropWhile (p := p) (l := (cs.dropWhile p).reverse))
  rw [List.reverse_append, List.reverse_reverse] at hback
  refine ⟨cs.takeWhile p, ((cs.dropWhile p).reverse.takeWhile p).reverse, ?_, ?_, ?_, ?_⟩
  · rw [List.append_assoc, stripEnds, hback, hfront]
  · refine List.forall_mem_append.2 ⟨fun c h => List.mem_takeWhile_imp h, fun c h => ?_⟩
    exact List.mem_takeWhile_imp (List.mem_reverse.1 h)
  · -- the first character that is kept is the first behind the front, if any is kept
    intro c hc
    have hstart := startsOutside_dropWhile p cs
    rw [← hback, StartsOutside, List.head?_append] at hstart
    exact hstart c (Option.or_eq_some_iff.2 (.inl hc))
  · rw [← startsOutside_reverse, stripEnds, List.reverse_reverse]
    exact startsOutside_dropWhile p _

theorem mem_of_mem_stripEnds {c : Char} {cs : List Char} (h : c ∈ stripEnds p cs) : c ∈ cs := by
  have h := (List.dropWhile_sublist p).subset (List.mem_reverse.1 h)
  exact (List.dropWhile_sublist p).subset (List.mem_reverse.1 h)

/-! ## Texts with something at an end -/

/-- A character of the class at the end is removed with the others. -/
theorem stripEnds_concat {c : Char} (hc : p c = true) (cs : List Char) :
    stripEnds p (cs ++ [c]) = stripEnds p cs := by
  rw [stripEnds, stripEnds, List.dropWhile_append]
  split
  · rename_i h
    have hnil : cs.dropWhile p = [] := List.isEmpty_iff.1 h
    simp [hnil, hc]
  · simp [hc]

theorem stripEnds_append_left {pad : List Char} (h : ∀ c ∈ pad, p c = true) (cs : List Char) :
    stripEnds p (pad ++ cs) = stripEnds p cs := by
  rw [stripEnds, stripEnds, List.dropWhile_append_of_pos h]

theorem stripEnds_append_right {pad : List Char} (h : ∀ c ∈ pad, p c = true) (cs : List Char) :
    stripEnds p (cs ++ pad) = stripEnds p cs := by
  induction pad generalizing cs with
  | nil => rw [List.append_nil]
  | cons c pad ih =>
    obtain ⟨hc, hpad⟩ := List.forall_mem_cons.1 h
    rw [← List.singleton_append, ← List.append_assoc, ih hpad, stripEnds_concat hc]

/-- Behind a word without characters of the class only the end of the text can lose some. -/
theorem stripEnds_word_append {word : List Char} (hne : word ≠ []) (hw : ∀ c ∈ word, p c = false)
    (cs : List Char) :
    stripEnds p (word ++ cs) = word ++ (cs.reverse.dropWhile p).reverse := by
  obtain ⟨first, rest, rfl⟩ := List.exists_cons_of_ne_nil hne
  have hstart : StartsOutside p (first :: rest ++ cs) := startsOutside_cons.2 (hw first List.mem_cons_self)
  have hend : StartsOutside p (first :: rest).reverse := fun c hc =>
    hw c (List.mem_reverse.1 (List.mem_of_mem_head? hc))
  rw [stripEnds, dropWhile_of_outside hstart, List.reverse_append, dropWhile_append_outside hend,
    List.reverse_append, List.reverse_reverse]

end StackScript.Text
