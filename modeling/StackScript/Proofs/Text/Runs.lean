import Mathlib.Data.List.TakeWhile

/-!
# Runs of a class of characters

What is taken from the start of a text as long as its characters belong to a class, when the text is put
together from parts: a run ends where the text goes on outside the class.
-/

namespace StackScript.Text

/-- The text does not begin with a character of the class. -/
def StartsOutside (p : Char → Bool) (cs : List Char) : Prop :=
  ∀ c ∈ cs.head?, p c = false

theorem startsOutside_nil (p : Char → Bool) : StartsOutside p [] := by
  simp [StartsOutside]

theorem startsOutside_cons {p : Char → Bool} {c : Char} {cs : List Char} :
    StartsOutside p (c :: cs) ↔ p c = false := by
  simp [StartsOutside]

theorem startsOutside_dropWhile (p : Char → Bool) (cs : List Char) :
    StartsOutside p (cs.dropWhile p) := by
  intro c hc
  have h := List.head?_dropWhile_not p cs
  rw [Option.mem_def.1 hc] at h
  simpa using h

theorem dropWhile_of_outside {p : Char → Bool} {cs : List Char} (h : StartsOutside p cs) :
    cs.dropWhile p = cs := by
  cases cs with
  | nil => rfl
  | cons c cs => exact List.dropWhile_cons_of_neg (by simp [startsOutside_cons.1 h])

/-- A text that begins outside the class adds nothing to a run. -/
theorem takeWhile_append_outside {p : Char → Bool} {rest : List Char} (hr : StartsOutside p rest)
    (cs : List Char) : (cs ++ rest).takeWhile p = cs.takeWhile p := by
  induction cs with
  | nil =>
    cases rest with
    | nil => rfl
    | cons c rest => simp [startsOutside_cons.1 hr]
  | cons c cs ih => simp only [List.cons_append, List.takeWhile_cons, ih]

theorem dropWhile_append_outside {p : Char → Bool} {rest : List Char} (hr : StartsOutside p rest)
    (cs : List Char) : (cs ++ rest).dropWhile p = cs.dropWhile p ++ rest := by
  induction cs with
  | nil =>
    cases rest with
    | nil => rfl
    | cons c rest => simp [startsOutside_cons.1 hr]
  | cons c cs ih =>
    simp only [List.cons_append, List.dropWhile_cons, ih]
    split <;> rfl

/-- A run of a class is all that is taken if the text goes on outside the class. -/
theorem takeWhile_append {p : Char → Bool} {run rest : List Char} (hp : ∀ c ∈ run, p c = true)
    (hr : StartsOutside p rest) : (run ++ rest).takeWhile p = run := by
  rw [takeWhile_append_outside hr, List.takeWhile_eq_self_iff.2 hp]

theorem dropWhile_append {p : Char → Bool} {run rest : List Char} (hp : ∀ c ∈ run, p c = true)
    (hr : StartsOutside p rest) : (run ++ rest).dropWhile p = rest := by
  rw [dropWhile_append_outside hr, List.dropWhile_eq_nil_iff.2 hp, List.nil_append]

theorem drop_length_takeWhile (p : Char → Bool) (cs : List Char) :
    cs.drop (cs.takeWhile p).length = cs.dropWhile p := by
  have h := List.prefix_iff_eq_append.1 (List.takeWhile_prefix (l := cs) p)
  exact List.append_cancel_left (h.trans List.takeWhile_append_dropWhile.symm)

end StackScript.Text
