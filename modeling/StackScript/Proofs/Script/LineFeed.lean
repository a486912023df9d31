import StackScript.Proofs.Text.Ends
import StackScript.Proofs.Text.Lines
import StackScript.Script

/-!
# Scripts are read line by line

Two scripts with a line feed between them are one script, whose commands are those of the first and
then those of the second. How the first of them ends does not matter: with a line feed of its own,
with a carriage return, which then belongs to the line feed behind it, or with neither.

* `Script.parseLine_dropReturn`: a carriage return at the end of a line has no meaning;
* `Script.parseLines_append`: what lines one after the other hold;
* `Script.parseLines_eq_error_iff`: the error is that of the first line that cannot be read;
* `script_parses_line_by_line`: the same of whole texts.
-/

namespace StackScript

/-- The error `k` lines further down. -/
def ParseError.lower (k : Nat) (e : ParseError) : ParseError :=
  { e with line := e.line.map (· + k) }

namespace Script

/-! ## One line -/

/-- A carriage return at the end of a line has no meaning. -/
theorem parseLine_dropReturn (line : List Char) :
    parseLine (Text.dropReturn '\r' line) = parseLine line := by
  unfold Text.dropReturn
  split
  · rename_i h
    obtain ⟨front, rfl⟩ := List.getLast?_eq_some_iff.1 h
    rw [List.dropLast_concat, parseLine, parseLine, Text.stripEnds_concat (by decide)]
  · rfl

theorem parseLine_nil : parseLine [] = .ok none := rfl

/-- What is wrong with a line is said without its number. -/
theorem line_of_parseLine_error {line : List Char} {e : ParseError}
    (h : parseLine line = .error e) : e.line = none := by
  simp only [parseLine] at h
  split at h
  · cases h
  · split at h <;> cases h
    rfl

/-! ## Lines one after the other -/

theorem parseLines_append (n : Nat) (xs ys : List (List Char)) :
    parseLines n (xs ++ ys) = do
      let cs ← parseLines n xs
      let ds ← parseLines (n + xs.length) ys
      return cs ++ ds := by
  induction xs generalizing n with
  | nil =>
    rw [List.nil_append, List.length_nil, Nat.add_zero]
    cases parseLines n ys <;> rfl
  | cons x xs ih =>
    rw [List.cons_append, parseLines, parseLines, ih, List.length_cons, Nat.add_comm xs.length,
      ← Nat.add_assoc]
    rcases parseLine x with e | _ | c
    · rfl
    · rfl
    · cases parseLines (n + 1) xs with
      | error e => rfl
      | ok cs => cases parseLines (n + 1 + xs.length) ys <;> rfl

/-- Lines that start further down hold the same commands, or have the same error further down. -/
theorem parseLines_add (n k : Nat) (xs : List (List Char)) :
    parseLines (n + k) xs = (parseLines n xs).mapError (ParseError.lower k) := by
  induction xs generalizing n with
  | nil => rfl
  | cons x xs ih =>
    rw [parseLines, parseLines, Nat.add_right_comm, ih]
    rcases parseLine x with e | _ | c
    · rfl
    · rfl
    · cases parseLines (n + 1) xs <;> rfl

/-- A line feed at the end of a text changes nothing: it ends the last line, or adds an empty one. -/
theorem parseLines_concat_lineFeed (n : Nat) (pending cs : List Char) :
    parseLines n (Text.splitLinesFrom '\n' '\r' pending (cs ++ ['\n'])) =
      parseLines n (Text.splitLinesFrom '\n' '\r' pending cs) := by
  induction cs generalizing n pending with
  | nil =>
    rw [List.nil_append, Text.splitLinesFrom, Text.splitLinesFrom, if_pos rfl, Text.splitLinesFrom,
      if_pos rfl, parseLines, parseLine_dropReturn]
    by_cases hp : pending = []
    · rw [if_pos hp, hp, List.reverse_nil, parseLine_nil]
      rfl
    · rw [if_neg hp]
      rfl
  | cons c cs ih =>
    rw [List.cons_append, Text.splitLinesFrom, Text.splitLinesFrom]
    split
    · rw [parseLines, parseLines, ih]
    · exact ih n (c :: pending)

/-- A line that cannot be read is where the reading ends. -/
theorem parseLines_of_parseLine_error {line : List Char} {e : ParseError}
    (h : parseLine line = .error e) (n : Nat) (lines : List (List Char)) :
    parseLines n (line :: lines) = .error ⟨e.token, some n⟩ := by
  rw [parseLines, h]

/-- Behind a line that can be read the error is that of the other lines. -/
theorem parseLines_cons_eq_error_iff {n : Nat} {line : List Char} {lines : List (List Char)}
    {command : Option Command} {e : ParseError} (h : parseLine line = .ok command) :
    parseLines n (line :: lines) = .error e ↔ parseLines (n + 1) lines = .error e := by
  rw [parseLines, h]
  cases command with
  | none => rfl
  | some c => cases parseLines (n + 1) lines <;> simp [Except.map]

/-- Behind lines that can be read the error is that of the other lines. -/
theorem parseLines_append_eq_error_iff {n : Nat} {before lines : List (List Char)} {e : ParseError}
    (h : ∀ l ∈ before, ∃ command, parseLine l = .ok command) :
    parseLines n (before ++ lines) = .error e ↔
      parseLines (n + before.length) lines = .error e := by
  induction before generalizing n with
  | nil => rfl
  | cons x before ih =>
    obtain ⟨⟨command, hx⟩, hbefore⟩ := List.forall_mem_cons.1 h
    rw [List.cons_append, parseLines_cons_eq_error_iff hx, ih hbefore, List.length_cons,
      Nat.add_right_comm, Nat.add_assoc]

/-- Lines of which all can be read, or a first line that cannot. -/
theorem readable_or_exists_error (lines : List (List Char)) :
    (∀ l ∈ lines, ∃ command, parseLine l = .ok command) ∨
      ∃ before line after e, lines = before ++ line :: after ∧
        (∀ l ∈ before, ∃ command, parseLine l = .ok command) ∧ parseLine line = .error e := by
  induction lines with
  | nil => exact .inl (by simp)
  | cons x xs ih =>
    cases hx : parseLine x with
    | error e => exact .inr ⟨[], x, xs, e, rfl, by simp, hx⟩
    | ok command =>
      rcases ih with hall | ⟨before, line, after, e, rfl, hbefore, hline⟩
      · exact .inl (List.forall_mem_cons.2 ⟨⟨command, hx⟩, hall⟩)
      · exact .inr ⟨x :: before, line, after, e, rfl,
          List.forall_mem_cons.2 ⟨⟨command, hx⟩, hbefore⟩, hline⟩

/-- The error of lines is that of the first that cannot be read, with its number. -/
theorem parseLines_eq_error_iff {n : Nat} {lines : List (List Char)} {e : ParseError} :
    parseLines n lines = .error e ↔
      ∃ before line after, lines = before ++ line :: after ∧
        (∀ l ∈ before, ∃ command, parseLine l = .ok command) ∧
        parseLine line = .error { token := e.token } ∧ e.line = some (n + before.length) := by
  constructor
  · intro h
    rcases readable_or_exists_error lines with hall | ⟨before, line, after, e', rfl, hbefore, hline⟩
    · rw [← List.append_nil lines, parseLines_append_eq_error_iff hall] at h
      cases h
    · rw [parseLines_append_eq_error_iff hbefore, parseLines_of_parseLine_error hline] at h
      cases h
      refine ⟨before, line, after, rfl, hbefore, ?_, rfl⟩
      rw [hline, ← line_of_parseLine_error hline]
  · rintro ⟨before, line, after, rfl, hbefore, hline, hnumber⟩
    rw [parseLines_append_eq_error_iff hbefore, parseLines_of_parseLine_error hline, ← hnumber]

/-! ## Whole texts -/

theorem parse_append_lineFeed (a b : String) :
    parse (a ++ "\n" ++ b) = do
      let cs ← parse a
      let ds ← (parse b).mapError (ParseError.lower (1 + a.toList.count '\n'))
      return cs ++ ds := by
  have hlines : Text.lines (a ++ "\n" ++ b) =
      Text.splitLinesFrom '\n' '\r' [] (a.toList ++ ['\n']) ++ Text.lines b := by
    rw [Text.lines, Text.lines, Text.splitLines, Text.splitLines,
      ← Text.splitLinesFrom_append_lineFeed]
    simp
  rw [parse, hlines, parseLines_append, parseLines_concat_lineFeed,
    Text.length_splitLinesFrom_concat, parseLines_add]
  rfl

theorem parse_of_notMem {text : String} (h : '\n' ∉ text.toList) :
    parse text =
      ((parseLine text.toList).mapError fun e => { e with line := some 1 }).map Option.toList := by
  rw [parse, Text.lines, Text.splitLines_of_notMem h]
  by_cases ht : text.toList = []
  · rw [if_pos ht, ht, parseLine_nil]
    rfl
  · rw [if_neg ht, parseLines]
    rcases parseLine text.toList with e | _ | c <;> rfl

end Script

/-- Two texts with a line feed between them are read one after the other, and the lines of the second
are counted behind those of the first; a text without a line feed is read as one line. The error of a
text is thus that of its first line that cannot be read, with the number of that line. -/
theorem script_parses_line_by_line :
    (∀ a b : String, Script.parse (a ++ "\n" ++ b) = do
      let cs ← Script.parse a
      let ds ← (Script.parse b).mapError (ParseError.lower (1 + a.toList.count '\n'))
      return cs ++ ds) ∧
    (∀ text : String, '\n' ∉ text.toList → Script.parse text =
      ((Script.parseLine text.toList).mapError fun e => { e with line := some 1 }).map
        Option.toList) ∧
    (∀ (text : String) (e : ParseError), Script.parse text = .error e ↔
      ∃ before line after, Text.lines text = before ++ line :: after ∧
        (∀ l ∈ before, ∃ command, Script.parseLine l = .ok command) ∧
        Script.parseLine line = .error { token := e.token } ∧
        e.line = some (1 + before.length)) :=
  ⟨Script.parse_append_lineFeed, fun _ h => Script.parse_of_notMem h,
    fun _ _ => Script.parseLines_eq_error_iff⟩

/-- A single line that ends in a carriage return. -/
theorem script_parses_line_by_line_return :
    '\n' ∉ "\tPOP 1\r".toList ∧ Script.parse "\tPOP 1\r" = .error ⟨"POP", some 1⟩ :=
  have h : '\n' ∉ "\tPOP 1\r".toList := by decide
  ⟨h, (script_parses_line_by_line.2.1 _ h).trans (by rfl)⟩

end StackScript
