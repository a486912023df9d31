import StackScript.Proofs.Machine.Outcome
import StackScript.Value.Parse

/-!
# Texts on one line

A line feed cannot enter a machine whose commands are read from lines, and it cannot arise there
either: no operation makes one, and neither do the texts of numbers nor the wordings of errors.

* `Value.oneLine_display`: a value without line feed is displayed on one line;
* `Operator.oneLine_apply`, `oneLine_printedText` and `oneLine_thrownMessage`: operators, printing
  and `throw` make no line feed;
* `Outcome.oneLine`: a step leaves a machine without line feeds, or fails with a wording on one
  line.
-/

namespace StackScript

/-- The text has no line feed. -/
def Text.OneLine (s : String) : Prop :=
  '\n' ∉ s.toList

namespace Text

instance (s : String) : Decidable (OneLine s) :=
  inferInstanceAs (Decidable (_ ∉ _))

theorem OneLine.append {s t : String} (hs : OneLine s) (ht : OneLine t) : OneLine (s ++ t) := by
  rw [OneLine, String.toList_append, List.mem_append]
  exact not_or.2 ⟨hs, ht⟩

theorem oneLine_ofList {cs : List Char} : OneLine (String.ofList cs) ↔ '\n' ∉ cs := by
  simp [OneLine]

/-- Texts on one line stay so when they are put in a row. -/
theorem oneLine_intercalate {sep : String} (hsep : OneLine sep) {texts : List String}
    (h : ∀ s ∈ texts, OneLine s) : OneLine (sep.intercalate texts) := by
  induction texts with
  | nil => simp [OneLine]
  | cons s rest ih =>
    cases rest with
    | nil => simpa using h s
    | cons t rest =>
      rw [String.intercalate_cons_cons]
      exact ((h s (by simp)).append hsep).append (ih fun u hu => h u (by simp [hu]))

theorem oneLine_join {texts : List String} (h : ∀ s ∈ texts, OneLine s) :
    OneLine (String.join texts) := by
  induction texts with
  | nil => exact List.not_mem_nil
  | cons s rest ih =>
    obtain ⟨hs, hrest⟩ := List.forall_mem_cons.1 h
    rw [String.join_cons]
    exact hs.append (ih hrest)

/-- Decimal digits are on one line. -/
theorem lineFeed_notMem_toDigits (n : Nat) : '\n' ∉ Nat.toDigits 10 n := fun h =>
  absurd (Nat.isDigit_of_mem_toDigits (by decide) (by decide) h) (by decide)

theorem oneLine_nat (n : Nat) : OneLine (toString n) := by
  rw [Nat.toString_eq_ofList_toDigits, oneLine_ofList]
  exact lineFeed_notMem_toDigits n

theorem oneLine_int (n : Int) : OneLine (toString n) := by
  cases n with
  | ofNat n => exact oneLine_nat n
  | negSucc n => exact OneLine.append (by decide) (oneLine_nat (n + 1))

end Text

/-! ## Values -/

/-- The characters of the value, if it is text, are on one line. -/
def Value.OneLine (v : Value) : Prop :=
  ∀ s, v.text? = some s → Text.OneLine s

theorem Decimal.lineFeed_notMem_positional (coefficient : Nat) (exponent : Int) :
    '\n' ∉ positional coefficient exponent [] := by
  have hd := Text.lineFeed_notMem_toDigits coefficient
  have ht := fun n => mt (List.mem_of_mem_take (i := n)) hd
  have hr := fun n => mt (List.mem_of_mem_drop (i := n)) hd
  simp only [positional]
  split
  · simp [hd]
  · split <;> simp [hd, ht, hr]

theorem Binary32.oneLine_withSign (negative : Bool) {cs : List Char} (h : '\n' ∉ cs) :
    Text.OneLine (withSign negative cs) := by
  rw [withSign, Text.oneLine_ofList]
  cases negative <;> simp [h]

theorem Binary32.oneLine_display (x : Binary32) : Text.OneLine x.display := by
  cases x with
  | nan => decide
  | signed negative rank =>
    refine oneLine_withSign negative ?_
    split
    · decide
    · split
      · decide
      · exact Decimal.lineFeed_notMem_positional _ _

namespace Value

variable {v : Value}

theorem oneLine_text {s : String} : (text s).OneLine ↔ Text.OneLine s := by
  simp [OneLine, text?]

theorem oneLine_of_text?_eq_none (h : v.text? = none) : v.OneLine := by
  simp [OneLine, h]

/-- A value without line feed is displayed on one line. -/
theorem oneLine_display (h : v.OneLine) : Text.OneLine v.display := by
  cases v with
  | mono => decide
  | int n => exact Text.oneLine_int _
  | float x => exact x.oneLine_display
  | bool b => cases b <;> decide
  | text s => exact oneLine_text.1 h

/-- A text denotes a value without line feed if it has none itself. -/
theorem oneLine_parse {s : String} (h : Text.OneLine s) : (parse s).OneLine := by
  rw [parse]
  split
  · exact oneLine_of_text?_eq_none rfl
  · split
    · rw [ofDigits]
      split <;> exact oneLine_of_text?_eq_none rfl
    · split
      · split
        · exact oneLine_of_text?_eq_none rfl
        · exact oneLine_text.2 h
      · split
        · exact oneLine_of_text?_eq_none rfl
        · split
          · exact oneLine_of_text?_eq_none rfl
          · exact oneLine_text.2 h

end Value

namespace Operator

theorem text?_of_onNumber {op : Operator} {a b : Number} {v : Value}
    (h : op.onNumber a b = .ok v) : v.text? = none := by
  cases a <;> cases b <;> simp only [onNumber, checked] at h
  case int.int =>
    split at h
    · cases h
    · split at h <;> cases h
      rfl
  all_goals cases h; rfl

theorem text?_of_onNumeric {op : Operator} {left right v : Value}
    (h : op.onNumeric left right = .ok v) : v.text? = none := by
  rw [onNumeric] at h
  split at h
  · exact text?_of_onNumber h
  · cases h

theorem oneLine_of_joinText? {left right : Value} (hl : left.OneLine) (hr : right.OneLine)
    {s : String} (h : joinText? left right = some s) : Text.OneLine s := by
  unfold joinText? at h
  split at h <;> cases h
  · exact (Value.oneLine_text.1 hl).append (Value.oneLine_text.1 hr)
  · exact Value.oneLine_text.1 hr
  · exact Value.oneLine_text.1 hl

/-- An operator makes no line feed. -/
theorem oneLine_apply {op : Operator} {left right v : Value} (hl : left.OneLine)
    (hr : right.OneLine) (h : op.apply left right = .ok v) : v.OneLine := by
  unfold apply at h
  split at h
  · rename_i s hs
    cases h
    exact Value.oneLine_text.2 (oneLine_of_joinText? hl hr hs)
  · exact Value.oneLine_of_text?_eq_none (text?_of_onNumeric h)

end Operator

/-! ## Wordings -/

theorem oneLine_sumFrom {args : List Value} (h : ∀ v ∈ args, v.OneLine) {acc sum : Value}
    (hacc : acc.OneLine) (hs : sumFrom acc args = .ok sum) : sum.OneLine := by
  induction args generalizing acc with
  | nil => cases hs; exact hacc
  | cons arg args ih =>
    rw [sumFrom] at hs
    split at hs
    · rename_i next hnext
      exact ih (fun v hv => h v (by simp [hv]))
        (Operator.oneLine_apply hacc (h arg (by simp)) hnext) hs
    · cases hs

/-- Putting arguments in the places of a template makes no line feed. -/
theorem Template.lineFeed_notMem_fill {cs : List Char} (hcs : '\n' ∉ cs) {args : List Value}
    (h : ∀ v ∈ args, v.OneLine) : '\n' ∉ fill cs args := by
  fun_induction fill cs args with
  | case1 args => exact hcs
  | case2 cs ih =>
    have hrest := (not_or.1 (mt List.mem_cons.2 hcs)).2
    exact mt List.mem_cons.1 (not_or.2 ⟨by decide, ih hrest h⟩)
  | case3 cs arg args ih =>
    obtain ⟨harg, hargs⟩ := List.forall_mem_cons.1 h
    have hrest := (not_or.1 (mt List.mem_cons.2 hcs)).2
    exact mt List.mem_append.1 (not_or.2 ⟨Value.oneLine_display harg, ih hrest hargs⟩)
  | case4 cs args _ ih => exact ih (not_or.1 (mt List.mem_cons.2 hcs)).2 h
  | case5 c cs args _ _ ih =>
    obtain ⟨hc, hrest⟩ := not_or.1 (mt List.mem_cons.2 hcs)
    exact mt List.mem_cons.1 (not_or.2 ⟨hc, ih hrest h⟩)

/-- What is printed of values without line feed is on one line. -/
theorem oneLine_printedText {args : List Value} (h : ∀ v ∈ args, v.OneLine) :
    Text.OneLine (printedText args) := by
  rcases args with _ | ⟨top, _ | ⟨next, rest⟩⟩
  · exact List.not_mem_nil
  · exact Value.oneLine_display (h top (by simp))
  · obtain ⟨htop, hrest⟩ := List.forall_mem_cons.1 h
    exact Text.oneLine_ofList.2
      (Template.lineFeed_notMem_fill (Value.oneLine_display htop) hrest)

/-- The message with which `throw` fails is on one line if the arguments are. -/
theorem oneLine_thrownMessage {args : List Value} (h : ∀ v ∈ args, v.OneLine) :
    Text.OneLine (thrownMessage args) := by
  rw [thrownMessage]
  split
  · rename_i sum hs
    exact Value.oneLine_display
      (oneLine_sumFrom h (Value.oneLine_of_text?_eq_none rfl) hs)
  · refine Text.OneLine.append (by decide) (Text.oneLine_intercalate (by decide) ?_)
    intro s hs
    obtain ⟨v, hv, rfl⟩ := List.mem_map.1 hs
    exact Value.oneLine_display (h v hv)

theorem Kind.oneLine_name (k : Kind) : Text.OneLine k.name := by
  cases k <;> decide

theorem Operator.oneLine_symbol (op : Operator) : Text.OneLine op.symbol := by
  cases op <;> decide

theorem Operator.oneLine_operation (op : Operator) : Text.OneLine op.operation := by
  cases op <;> decide

theorem Arity.oneLine_display (arity : Arity) : Text.OneLine arity.display := by
  cases arity with
  | fixed n => exact Text.oneLine_nat n
  | variadic => decide

-- The wordings are taken piece by piece: no proof has to open a literal longer than a piece.
theorem OperationError.oneLine_pieces (e : OperationError) : ∀ s ∈ e.pieces, Text.OneLine s := by
  cases e with
  | typeMismatch expected found =>
    simp only [pieces, List.forall_mem_cons]
    exact ⟨by decide, expected.oneLine_name, by decide, found.oneLine_name, List.forall_mem_nil _⟩
  | invalidOperands op left right =>
    simp only [pieces, List.forall_mem_cons]
    exact ⟨by decide, op.oneLine_symbol, by decide, left.oneLine_name, by decide, right.oneLine_name,
      by decide, List.forall_mem_nil _⟩
  | divisionByZero =>
    simp only [pieces, List.forall_mem_cons]
    exact ⟨by decide, List.forall_mem_nil _⟩
  | integerOverflow op =>
    simp only [pieces, List.forall_mem_cons]
    exact ⟨by decide, op.oneLine_operation, List.forall_mem_nil _⟩

namespace MachineError

theorem oneLine_stackUnderflow (expected found : Nat) :
    Text.OneLine (stackUnderflow expected found).message := by
  refine Text.oneLine_join ?_
  simp only [pieces, List.forall_mem_cons]
  exact ⟨by decide, Text.oneLine_nat _, by decide, Text.oneLine_nat _, List.forall_mem_nil _⟩

theorem oneLine_stackOverflow (limit : Nat) : Text.OneLine (stackOverflow limit).message := by
  refine Text.oneLine_join ?_
  simp only [pieces, List.forall_mem_cons]
  exact ⟨by decide, Text.oneLine_nat _, by decide, List.forall_mem_nil _⟩

theorem oneLine_unknownHook {name : String} (h : Text.OneLine name) :
    Text.OneLine (unknownHook name).message := by
  refine Text.oneLine_join ?_
  simp only [pieces, List.forall_mem_cons]
  exact ⟨by decide, h, List.forall_mem_nil _⟩

theorem oneLine_arityMismatch {name : String} (h : Text.OneLine name) (expected : Arity) (got : Nat) :
    Text.OneLine (arityMismatch name expected got).message := by
  refine Text.oneLine_join ?_
  simp only [pieces, List.forall_mem_cons]
  exact ⟨by decide, h, by decide, expected.oneLine_display, by decide, Text.oneLine_nat _, by decide,
    List.forall_mem_nil _⟩

theorem oneLine_thrown {message : String} (h : Text.OneLine message) :
    Text.OneLine (thrown message).message := by
  refine Text.oneLine_join ?_
  simp only [pieces, List.forall_mem_cons]
  exact ⟨h, List.forall_mem_nil _⟩

theorem oneLine_operation (e : OperationError) : Text.OneLine (operation e).message :=
  Text.oneLine_join e.oneLine_pieces

end MachineError

/-! ## Machines -/

namespace HookTable

variable {ε : Type} {t : HookTable ε}

/-- The names of the hooks are on one line. -/
def OneLine (t : HookTable ε) : Prop :=
  ∀ key hook, t.get? key = some hook → Text.OneLine hook.name

theorem oneLine_empty : (empty : HookTable ε).OneLine := by
  simp [OneLine, get?_empty]

theorem OneLine.register (h : t.OneLine) {name : String} (hn : Text.OneLine name) (arity : Arity)
    (body : Body ε) : (t.register name arity body).OneLine := by
  intro key hook hg
  rw [get?_register] at hg
  split at hg
  · cases hg
    exact hn
  · exact h key hook hg

theorem OneLine.registerBuiltins (h : t.OneLine) : t.registerBuiltins.OneLine :=
  ((h.register (by decide) _ _).register (by decide) _ _).register (by decide) _ _

end HookTable

/-- Neither the operands nor the names of the hooks have a line feed. -/
structure Machine.OneLine {ε : Type} (m : Machine ε) : Prop where
  stack : ∀ v ∈ m.stack, v.OneLine
  hooks : m.hooks.OneLine

/-- A result without line feed: what is returned has none, or the wording of the error is on one
line. -/
def OneLineResult {α : Type} (returned : α → Prop) : Except MachineError α → Prop
  | .ok a => returned a
  | .error e => Text.OneLine e.message

theorem Stack.oneLine_step (limit : Nat) {c : Command} {s : List Value} (hc : c.operand.OneLine)
    (hs : ∀ v ∈ s, v.OneLine) :
    OneLineResult (fun s => ∀ v ∈ s, v.OneLine) (Stack.step limit c s) := by
  obtain ⟨opcode, operand⟩ := c
  cases opcode with
  | push =>
    by_cases hl : limit ≤ s.length
    · simp only [step, hl, ↓reduceIte]
      exact MachineError.oneLine_stackOverflow limit
    · simpa [step, hl, OneLineResult] using ⟨hc, hs⟩
  | arith op =>
    cases s with
    | nil => exact MachineError.oneLine_stackUnderflow 2 0
    | cons left s =>
      cases s with
      | nil => exact MachineError.oneLine_stackUnderflow 2 1
      | cons right rest =>
        cases ha : op.apply left right with
        | error e =>
          simp only [step, ha]
          exact MachineError.oneLine_operation e
        | ok v =>
          have hv := Operator.oneLine_apply (hs left (by simp)) (hs right (by simp)) ha
          simp only [step, ha, OneLineResult, List.mem_cons, forall_eq_or_imp]
          exact ⟨hv, fun v hv => hs v (by simp [hv])⟩
  | call => exact hs

/-- A step leaves a machine without line feeds, or fails with a wording on one line. -/
theorem Outcome.oneLine {ε : Type} {m : Machine ε} {c : Command}
    {r : Except MachineError (Machine ε)} {texts : List String} (h : Outcome m c r texts)
    (hm : m.OneLine) (hc : c.operand.OneLine) : OneLineResult Machine.OneLine r := by
  cases h with
  | callFree _ =>
    have hs := Stack.oneLine_step m.config.maxDepth hc hm.stack
    cases hstep : Stack.step m.config.maxDepth c m.stack with
    | error e => rw [hstep] at hs; exact hs
    | ok s => rw [hstep] at hs; exact ⟨hs, hm.hooks⟩
  | call _ h =>
    generalize c.operand = operand at h hc
    cases h with
    | notText _ => exact MachineError.oneLine_operation _
    | unknown _ => exact MachineError.oneLine_unknownHook (Value.oneLine_text.1 hc)
    | arity hg _ => exact MachineError.oneLine_arityMismatch (hm.hooks _ _ hg) _ _
    | print _ _ | println _ _ => exact ⟨fun v hv => absurd hv List.not_mem_nil, hm.hooks⟩
    | throw _ _ => exact MachineError.oneLine_thrown (oneLine_thrownMessage hm.stack)

end StackScript
