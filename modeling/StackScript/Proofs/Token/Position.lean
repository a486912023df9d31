import Mathlib.Data.List.Induction
import StackScript.Token.Basic

/-!
# Places in a source

A stream counts rows and columns as it reads. Here the place behind a text is found from the text
alone, and places are moved down by whole rows:

* `Position.after_start`: the place behind what a source begins with;
* `Position.before_after`: reading leads to a place further on;
* `Position.after_lower`: reading on from a lower place leads to a lower place.
-/

namespace StackScript.Position

theorem after_append (p : Position) (cs ds : List Char) :
    p.after (cs ++ ds) = (p.after cs).after ds :=
  List.foldl_append

theorem after_singleton (p : Position) (c : Char) : p.after [c] = p.advance c := rfl

/-- The place behind a text with which a source begins: its row is found from the line feeds, and its
column from the characters behind the last of them. -/
def behind (cs : List Char) : Position :=
  ⟨1 + cs.count '\n', 1 + (cs.reverse.takeWhile (· ≠ '\n')).length⟩

theorem behind_concat (cs : List Char) (c : Char) : behind (cs ++ [c]) = (behind cs).advance c := by
  by_cases hc : c = '\n'
  · simp [behind, advance, hc, Nat.add_assoc]
  · simp [behind, advance, hc, Nat.add_assoc]

theorem after_start (cs : List Char) : start.after cs = behind cs := by
  induction cs using List.reverseRecOn with
  | nil => rfl
  | append_singleton cs c ih => rw [after_append, after_singleton, ih, behind_concat]

theorem after_behind (cs ds : List Char) : (behind cs).after ds = behind (cs ++ ds) := by
  rw [← after_start, ← after_append, after_start]

/-! ## The order of places -/

/-- The first place lies in a row above the second, or further left in the same row. -/
def Before (p q : Position) : Prop :=
  p.row < q.row ∨ p.row = q.row ∧ p.column < q.column

theorem before_advance (p : Position) (c : Char) : p.Before (p.advance c) := by
  unfold Before advance
  split
  · exact .inl (Nat.lt_succ_self _)
  · exact .inr ⟨rfl, Nat.lt_succ_self _⟩

theorem Before.trans {p q r : Position} (hpq : p.Before q) (hqr : q.Before r) : p.Before r := by
  unfold Before at *
  omega

/-- What lies before a place lies before all that is reached from there. -/
theorem Before.after {p q : Position} (h : p.Before q) (cs : List Char) : p.Before (q.after cs) := by
  induction cs generalizing q with
  | nil => exact h
  | cons c cs ih => exact ih (h.trans (q.before_advance c))

theorem before_after (p : Position) {cs : List Char} (h : cs ≠ []) : p.Before (p.after cs) := by
  obtain ⟨c, cs, rfl⟩ := List.exists_cons_of_ne_nil h
  exact (p.before_advance c).after cs

/-! ## Lower places -/

/-- The place in the same column `k` rows further down. -/
def lower (k : Nat) (p : Position) : Position :=
  ⟨p.row + k, p.column⟩

theorem advance_lower (k : Nat) (p : Position) (c : Char) :
    (p.lower k).advance c = (p.advance c).lower k := by
  by_cases hc : c = '\n'
  · simp only [advance, lower, hc, if_true, Nat.add_right_comm]
  · simp only [advance, lower, hc, if_false]

theorem after_lower (k : Nat) (p : Position) (cs : List Char) :
    (p.lower k).after cs = (p.after cs).lower k := by
  induction cs generalizing p with
  | nil => rfl
  | cons c cs ih =>
    have hstep := ih (p.advance c)
    rwa [← advance_lower] at hstep

/-- Behind a line feed a source goes on in the first column, one row below the line feeds before it. -/
theorem advance_lineFeed (cs : List Char) :
    (start.after cs).advance '\n' = start.lower (1 + cs.count '\n') := by
  rw [after_start]
  simp [advance, behind, lower, start, Nat.add_comm, Nat.add_left_comm]

end StackScript.Position
