import StackScript.Template

/-!
# Templates by segments

A template is cut at its opening braces into segments. Filling it puts one argument between each two
neighbours, in order, and does not look into the arguments.

* `Template.segments`, `Template.atPlace`: the segments, and what comes between them;
* `Template.fill_append`: parts of a template are filled on their own, each with its own arguments;
* `template_is_compositional`: both descriptions for texts.
-/

namespace StackScript

namespace Template

/-- The number of places of a template. -/
def places (t : List Char) : Nat :=
  t.count '\x7b'

/-- The parts of a template between its opening braces, without closing braces. -/
def segments (t : List Char) : List (List Char) :=
  (t.splitOn '\x7b').map fun s => s.filter (· ≠ '\x7d')

/-- What comes to the place with this number, counted from zero: the argument as it is displayed, or an
opening brace if there is none. -/
def atPlace (args : List Value) (i : Nat) : List Char :=
  (args[i]?.map fun v => v.display.toList).getD ['\x7b']

/-- The segments behind the first, each behind its place. -/
def behindPlaces (args : List Value) (rest : List (List Char)) : List Char :=
  (rest.mapIdx fun i s => atPlace args i ++ s).flatten

theorem atPlace_succ (args : List Value) (i : Nat) : atPlace args (i + 1) = atPlace args.tail i := by
  cases args with
  | nil => rfl
  | cons arg args => simp [atPlace]

theorem behindPlaces_cons (args : List Value) (s : List Char) (rest : List (List Char)) :
    behindPlaces args (s :: rest) = atPlace args 0 ++ s ++ behindPlaces args.tail rest := by
  simp [behindPlaces, List.mapIdx_cons, atPlace_succ]

/-! ## Character by character -/

/-- What a character other than an opening brace leaves in the text. -/
def kept (c : Char) : List Char :=
  if c = '\x7d' then [] else [c]

theorem places_open (t : List Char) : places ('\x7b' :: t) = places t + 1 :=
  List.count_cons_self

theorem places_cons {c : Char} (h : c ≠ '\x7b') (t : List Char) : places (c :: t) = places t :=
  List.count_cons_of_ne h

theorem fill_open (t : List Char) (args : List Value) :
    fill ('\x7b' :: t) args = atPlace args 0 ++ fill t args.tail := by
  cases args with
  | nil => rfl
  | cons arg args => rfl

theorem fill_cons {c : Char} (h : c ≠ '\x7b') (t : List Char) (args : List Value) :
    fill (c :: t) args = kept c ++ fill t args := by
  by_cases hclose : c = '\x7d'
  · subst hclose
    cases args <;> simp [fill, kept]
  · cases args <;> simp [fill, kept, h, hclose]

theorem segments_open (t : List Char) : segments ('\x7b' :: t) = [] :: segments t := by
  simp [segments, List.splitOn_cons_eq_if_modifyHead]

theorem exists_segments (t : List Char) : ∃ first rest, segments t = first :: rest := by
  refine List.exists_cons_of_ne_nil fun h => List.splitOn_ne_nil '\x7b' t ?_
  exact List.map_eq_nil_iff.1 h

theorem segments_cons {c : Char} (h : c ≠ '\x7b') {t first : List Char} {rest : List (List Char)}
    (ht : segments t = first :: rest) : segments (c :: t) = (kept c ++ first) :: rest := by
  obtain ⟨s, ss, hs⟩ := List.exists_cons_of_ne_nil (List.splitOn_ne_nil '\x7b' t)
  simp only [segments, hs, List.map_cons, List.cons.injEq] at ht
  obtain ⟨rfl, rfl⟩ := ht
  have hc : (c == '\x7b') = false := beq_eq_false_iff_ne.2 h
  rw [segments, List.splitOn_cons_eq_if_modifyHead, hc, hs, kept]
  by_cases hclose : c = '\x7d'
  · simp [hclose]
  · simp [hclose]

/-! ## Whole templates -/

theorem length_segments (t : List Char) : (segments t).length = places t + 1 := by
  induction t with
  | nil => rfl
  | cons c t ih =>
    by_cases hc : c = '\x7b'
    · subst hc
      rw [segments_open, List.length_cons, ih, places_open]
    · obtain ⟨first, rest, h⟩ := exists_segments t
      rw [h] at ih
      rw [segments_cons hc h, places_cons hc]
      exact ih

/-- A template is its first segment, and then each place with the segment behind it. -/
theorem fill_eq_segments {t first : List Char} {rest : List (List Char)}
    (h : segments t = first :: rest) (args : List Value) :
    fill t args = first ++ behindPlaces args rest := by
  induction t generalizing first rest args with
  | nil =>
    cases h
    rfl
  | cons c t ih =>
    obtain ⟨first', rest', h'⟩ := exists_segments t
    by_cases hc : c = '\x7b'
    · subst hc
      rw [segments_open, h'] at h
      cases h
      rw [fill_open, ih h', behindPlaces_cons, List.nil_append, List.append_assoc]
    · rw [segments_cons hc h'] at h
      cases h
      rw [fill_cons hc, ih h', List.append_assoc]

/-- The first part takes as many arguments as it has places, and the second part the rest. -/
theorem fill_append (t u : List Char) (args : List Value) :
    fill (t ++ u) args = fill t (args.take (places t)) ++ fill u (args.drop (places t)) := by
  induction t generalizing args with
  | nil => simp [fill, places]
  | cons c t ih =>
    by_cases hc : c = '\x7b'
    · -- a place takes the head of the arguments, so that the two parts share out the tail
      subst hc
      have hfirst : atPlace (args.take (places t + 1)) 0 = atPlace args 0 := by cases args <;> rfl
      have htake : (args.take (places t + 1)).tail = args.tail.take (places t) := by cases args <;> simp
      have hdrop : args.tail.drop (places t) = args.drop (places t + 1) := by cases args <;> simp
      rw [List.cons_append, fill_open, ih, places_open, fill_open, hfirst, htake, hdrop,
        List.append_assoc]
    · rw [List.cons_append, fill_cons hc, ih, places_cons hc, fill_cons hc, List.append_assoc]

end Template

/-- A template with `k` opening braces has `k + 1` segments: what lies between the braces, without closing
braces. Filled, it is the first segment and then, for each place, the argument of this number as it is
displayed, or an opening brace if there are fewer arguments, and the next segment. More arguments than
places are ignored, and of two templates in a row the second is filled with the arguments that the first
leaves. -/
theorem template_is_compositional (t : String) (args : List Value) :
    (∃ first rest, Template.segments t.toList = first :: rest ∧ rest.length = t.toList.count '\x7b' ∧
      Template.format t args =
        String.ofList (first ++ (rest.mapIdx fun i s => Template.atPlace args i ++ s).flatten)) ∧
    Template.format t (args.take (t.toList.count '\x7b')) = Template.format t args ∧
    ∀ u, Template.format (t ++ u) args =
      Template.format t (args.take (t.toList.count '\x7b')) ++
        Template.format u (args.drop (t.toList.count '\x7b')) := by
  refine ⟨?_, ?_, fun u => ?_⟩
  · obtain ⟨first, rest, h⟩ := Template.exists_segments t.toList
    have hlength := Template.length_segments t.toList
    rw [h, List.length_cons] at hlength
    exact ⟨first, rest, h, Nat.succ.inj hlength, congrArg String.ofList (Template.fill_eq_segments h args)⟩
  · have happend := Template.fill_append t.toList [] args
    rw [List.append_nil, Template.fill, List.append_nil] at happend
    exact congrArg String.ofList happend.symm
  · rw [Template.format, String.toList_append, Template.fill_append, String.ofList_append]
    rfl

/-- A brace in an argument is no place, and a place without argument keeps its brace. -/
example : Template.format "a\x7b\x7db\x7b\x7d" [.text "\x7bx\x7d"] = "a\x7bx\x7db\x7b" := by
  decide

end StackScript
