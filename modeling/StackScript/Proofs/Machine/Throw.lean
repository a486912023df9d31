import StackScript.Proofs.Machine.Integers
import StackScript.Proofs.Machine.Kinds

/-!
# The message of `throw`

The arguments of `throw` are added up from the left, and the kind of the sum so far decides what may be
added next. There are two ways to come to the end: the first argument is text, and nothing but text and
`mono` follows; or all arguments are numbers or `mono`, and the integers before the first float never
leave their range.

* `Arguments.Textual` and `Arguments.Numeric`: these two, and `Arguments.Clash`: what rules out both;
* `sumFrom_text_eq_ok_iff`, `sumFrom_float_eq_ok_iff` and `sumFrom_int_eq_ok_iff`: when there is a sum, and
  what it is, for each kind of the sum so far;
* `throw_message_is_exact`: the message of `throw`.
-/

namespace StackScript

/-- The float that a number reads as; `mono` is zero. -/
def Value.toBinary32 : Value → Binary32
  | .int n => Binary32.ofInt n.toInt
  | .float x => x
  | _ => Binary32.ofInt 0

namespace Arguments

/-- The exact sum of the integers among the arguments. -/
def total : List Value → Int
  | [] => 0
  | v :: args => v.integer + total args

/-- The sum of floats from the left, each step of which is rounded. -/
def floatTotal (start : Binary32) (args : List Value) : Binary32 :=
  args.foldl (fun x v => x.add v.toBinary32) start

/-- The sum of numbers from the left: exact up to the first float, and rounded from there on. -/
def sum (start : Int) (args : List Value) : Value :=
  if ∀ v ∈ args, v.kind ≠ .float then .int (Int32.ofInt (start + total args))
  else
    .float (floatTotal (Binary32.ofInt (start + total (args.takeWhile (·.kind ≠ .float))))
      (args.dropWhile (·.kind ≠ .float)))

/-- As long as there is no float, the sum lies in the range of the integers. -/
def WithinRange (start : Int) (args : List Value) : Prop :=
  ∀ whole, whole <+: args → (∀ v ∈ whole, v.kind ≠ .float) → InRange (start + total whole)

/-- The first argument is text, and each other is text or `mono`. -/
def Textual (args : List Value) : Prop :=
  ∃ s rest, args = .text s :: rest ∧ ∀ v ∈ rest, v.kind = .string ∨ v.kind = .mono

/-- There is an argument, all are numbers or `mono`, and the integers before the first float stay in
range. -/
structure Numeric (args : List Value) : Prop where
  ne_nil : args ≠ []
  numeric : ∀ v ∈ args, v.kind ∈ Kind.numeric
  withinRange : WithinRange 0 args

/-- What keeps arguments from having a sum, whatever the others are: text behind a number or `mono`, a truth
value, or integers in front that leave the range, even if later ones would lead back. -/
inductive Clash (args : List Value) : Prop
  | text {first v : Value} {rest : List Value} (h : args = first :: rest) (hf : first.kind ∈ Kind.numeric)
    (hv : v ∈ rest) (hs : v.kind = .string) : Clash args
  | bool {v : Value} (hv : v ∈ args) (hb : v.kind = .bool) : Clash args
  | overflow {whole : List Value} (hw : whole <+: args) (hi : ∀ v ∈ whole, v.kind ∈ Kind.integral)
    (hr : ¬ InRange (total whole)) : Clash args

/-- All arguments in a row. -/
def listing (args : List Value) : String :=
  "Error: " ++ " ".intercalate (args.map Value.display)

/-! ## Sums argument by argument -/

theorem sum_cons {v : Value} (h : v.kind ≠ .float) (start : Int) (args : List Value) :
    sum start (v :: args) = sum (start + v.integer) args := by
  simp [sum, h, total, Int.add_assoc]

theorem sum_cons_float (start : Int) (x : Binary32) (args : List Value) :
    sum start (.float x :: args) = .float (floatTotal ((Binary32.ofInt start).add x) args) := by
  simp [sum, Value.kind, total, floatTotal, Value.toBinary32]

theorem WithinRange.inRange {start : Int} {args : List Value} (h : WithinRange start args) :
    InRange start := by
  simpa [total] using h [] (List.nil_prefix) (by simp)

theorem withinRange_nil {start : Int} : WithinRange start [] ↔ InRange start := by
  refine ⟨WithinRange.inRange, fun h whole hw _ => ?_⟩
  rw [List.prefix_nil.1 hw]
  simpa [total] using h

theorem withinRange_cons {v : Value} (h : v.kind ≠ .float) {start : Int} {args : List Value} :
    WithinRange start (v :: args) ↔ InRange start ∧ WithinRange (start + v.integer) args := by
  constructor
  · refine fun hr => ⟨hr.inRange, fun whole hw hf => ?_⟩
    have hv := hr (v :: whole) (List.cons_prefix_cons.2 ⟨rfl, hw⟩) (List.forall_mem_cons.2 ⟨h, hf⟩)
    rwa [total, ← Int.add_assoc] at hv
  · rintro ⟨hs, hr⟩ whole hw hf
    rcases List.prefix_cons_iff.1 hw with rfl | ⟨rest, rfl, hrest⟩
    · simpa [total] using hs
    · rw [total, ← Int.add_assoc]
      exact hr rest hrest (List.forall_mem_cons.1 hf).2

/-- Behind a float no range is checked. -/
theorem withinRange_cons_float {start : Int} {x : Binary32} {args : List Value} :
    WithinRange start (.float x :: args) ↔ InRange start := by
  refine ⟨WithinRange.inRange, fun hs whole hw hf => ?_⟩
  rcases List.prefix_cons_iff.1 hw with rfl | ⟨rest, rfl, -⟩
  · simpa [total] using hs
  · exact absurd rfl (hf (.float x) List.mem_cons_self)

/-! ## The two classes and what is outside -/

theorem textual_cons_text {s : String} {args : List Value} :
    Textual (.text s :: args) ↔ ∀ v ∈ args, v.kind = .string ∨ v.kind = .mono := by
  refine ⟨?_, fun h => ⟨s, args, rfl, h⟩⟩
  rintro ⟨_, _, h, hall⟩
  cases h
  exact hall

theorem not_textual_cons {v : Value} (h : v.kind ≠ .string) (args : List Value) :
    ¬ Textual (v :: args) := by
  rintro ⟨s, rest, hs, -⟩
  cases hs
  exact h rfl

theorem numeric_cons_iff {v : Value} {args : List Value} :
    Numeric (v :: args) ↔
      (∀ w ∈ v :: args, w.kind ∈ Kind.numeric) ∧ WithinRange 0 (v :: args) :=
  ⟨fun h => ⟨h.numeric, h.withinRange⟩, fun h => ⟨List.cons_ne_nil v args, h.1, h.2⟩⟩

theorem not_numeric_of_mem {v : Value} {args : List Value} (hv : v ∈ args) (h : v.kind ∉ Kind.numeric) :
    ¬ Numeric args :=
  fun hn => h (hn.numeric v hv)

theorem Clash.ne_nil {args : List Value} (h : Clash args) : args ≠ [] := by
  rintro rfl
  cases h with
  | text h hf hv hs => cases h
  | bool hv hb => cases hv
  | overflow hw hi hr => exact hr (by rw [List.prefix_nil.1 hw]; decide)

theorem Clash.not_textual {args : List Value} (h : Clash args) : ¬ Textual args := by
  rintro ⟨s, rest, rfl, hall⟩
  cases h with
  | text h hf hv hs =>
    cases h
    exact absurd hf (by simp [Value.kind, Kind.numeric])
  | bool hv hb =>
    rcases List.mem_cons.1 hv with rfl | hv
    · cases hb
    · rcases hall _ hv with h | h <;> cases hb.symm.trans h
  | overflow hw hi hr =>
    rcases List.prefix_cons_iff.1 hw with rfl | ⟨whole, rfl, -⟩
    · exact hr (by decide)
    · exact absurd (hi _ List.mem_cons_self) (by simp [Value.kind, Kind.integral])

theorem Clash.not_numeric {args : List Value} (h : Clash args) : ¬ Numeric args := by
  cases h with
  | @text first v rest h hf hv hs =>
    exact not_numeric_of_mem (h ▸ List.mem_cons_of_mem first hv) (by rw [hs]; decide)
  | bool hv hb => exact not_numeric_of_mem hv (by rw [hb]; decide)
  | @overflow whole hw hi hr =>
    intro hn
    have hin := hn.withinRange whole hw fun v hv => Kind.ne_float_of_integral (hi v hv)
    exact hr (by rwa [Int.zero_add] at hin)

end Arguments

open Arguments

/-! ## One addition -/

theorem add_text_eq_ok_iff {s : String} {v sum : Value} :
    Operator.add.apply (.text s) v = .ok sum ↔
      (v.kind = .string ∨ v.kind = .mono) ∧ sum = .text (s ++ v.text?.getD "") := by
  cases v <;>
    simp [Operator.apply, Operator.joinText?, Operator.onNumeric, Value.number?, Value.kind, Value.text?,
      eq_comm]

theorem add_float_eq_ok_iff {x : Binary32} {v sum : Value} :
    Operator.add.apply (.float x) v = .ok sum ↔
      v.kind ∈ Kind.numeric ∧ sum = .float (x.add v.toBinary32) := by
  cases v <;>
    simp [Operator.apply, Operator.joinText?, Operator.onNumeric, Value.number?, Value.kind, Kind.numeric,
      Operator.onNumber, Operator.onBinary32, Number.toBinary32, Value.toBinary32, eq_comm]

/-- The sum of two integers is exact, or there is none. -/
theorem add_int_eq_ok_iff {n : Int32} {v sum : Value} (h : v.IsIntegral) :
    Operator.add.apply (.int n) v = .ok sum ↔
      InRange (n.toInt + v.integer) ∧ sum = .int (Int32.ofInt (n.toInt + v.integer)) := by
  have hadd : Operator.add.apply (.int n) v =
      if InRange (n.toInt + v.integer) then .ok (.int (Int32.ofInt (n.toInt + v.integer)))
      else .error (.integerOverflow .add) := by
    rw [Ideal.apply_reads .add (Ideal.reads_given (.inr ⟨n, rfl⟩)) (Ideal.reads_given h),
      if_neg (by simp)]
    rfl
  rw [hadd]
  by_cases hr : InRange (n.toInt + v.integer)
  · rw [if_pos hr, Except.ok.injEq]
    simp only [hr, true_and, eq_comm]
  · rw [if_neg hr]
    simp only [hr, false_and, reduceCtorEq]

theorem add_int_ne_ok {n : Int32} {v : Value} (h : v.kind ∉ Kind.numeric) (sum : Value) :
    Operator.add.apply (.int n) v ≠ .ok sum := by
  cases v with
  | mono | int m | float x => exact absurd (by simp [Value.kind, Kind.numeric]) h
  | bool b | text s => simp [Operator.apply, Operator.joinText?, Operator.onNumeric, Value.number?]

/-- At the start of a sum `mono` is a zero, except to text. -/
theorem add_mono_eq_ok_iff {v sum : Value} (h : v.kind ≠ .string) :
    Operator.add.apply .mono v = .ok sum ↔ Operator.add.apply (.int 0) v = .ok sum := by
  cases v with
  | text s => exact absurd rfl h
  | mono | int n | float x => exact Iff.rfl
  | bool b => simp [Operator.apply, Operator.joinText?, Operator.onNumeric, Value.number?]

/-- To a sum of integers an argument is one more integer, a float, or nothing that can be added. -/
theorem Value.isIntegral_or (v : Value) :
    v.IsIntegral ∨ (∃ x, v = .float x) ∨ v.kind ∉ Kind.numeric := by
  cases v with
  | mono => exact .inl (.inl rfl)
  | int n => exact .inl (.inr ⟨n, rfl⟩)
  | float x => exact .inr (.inl ⟨x, rfl⟩)
  | bool b | text s => exact .inr (.inr (by simp [Value.kind, Kind.numeric]))

theorem Value.IsIntegral.kind {v : Value} (h : v.IsIntegral) : v.kind ∈ Kind.integral := by
  rcases h with rfl | ⟨n, rfl⟩ <;> simp [Value.kind, Kind.integral]

/-! ## Whole sums -/

theorem sumFrom_cons_eq_ok_iff {acc arg sum : Value} {args : List Value} :
    sumFrom acc (arg :: args) = .ok sum ↔
      ∃ next, Operator.add.apply acc arg = .ok next ∧ sumFrom next args = .ok sum := by
  rw [sumFrom]
  cases Operator.add.apply acc arg with
  | ok next => simp
  | error e => simp

/-- A sum that keeps its kind: it takes the arguments of one class, and each of them moves it on. -/
theorem sumFrom_eq_ok_iff_of_step {α : Type} {inject : α → Value} {next : α → Value → α}
    {Fits : Value → Prop}
    (hstep : ∀ a v sum, Operator.add.apply (inject a) v = .ok sum ↔ Fits v ∧ sum = inject (next a v))
    {args : List Value} {a : α} {sum : Value} :
    sumFrom (inject a) args = .ok sum ↔ (∀ v ∈ args, Fits v) ∧ sum = inject (args.foldl next a) := by
  induction args generalizing a with
  | nil => simp [sumFrom, eq_comm]
  | cons v args ih =>
    simp only [sumFrom_cons_eq_ok_iff, hstep, List.forall_mem_cons, List.foldl_cons]
    constructor
    · rintro ⟨_, ⟨hv, rfl⟩, hrest⟩
      obtain ⟨hall, hsum⟩ := ih.1 hrest
      exact ⟨⟨hv, hall⟩, hsum⟩
    · rintro ⟨⟨hv, hall⟩, hsum⟩
      exact ⟨_, ⟨hv, rfl⟩, ih.2 ⟨hall, hsum⟩⟩

theorem foldl_append_texts (args : List Value) (s : String) :
    args.foldl (fun s v => s ++ v.text?.getD "") s = s ++ String.join (args.filterMap Value.text?) := by
  induction args generalizing s with
  | nil => simp
  | cons v args ih =>
    rw [List.foldl_cons, ih]
    cases hv : v.text? with
    | none => simp [hv]
    | some t => simp [hv, String.append_assoc]

theorem sumFrom_text_eq_ok_iff {args : List Value} {s : String} {sum : Value} :
    sumFrom (.text s) args = .ok sum ↔ (∀ v ∈ args, v.kind = .string ∨ v.kind = .mono) ∧
      sum = .text (s ++ String.join (args.filterMap Value.text?)) := by
  rw [sumFrom_eq_ok_iff_of_step fun _ _ _ => add_text_eq_ok_iff, foldl_append_texts]

theorem sumFrom_float_eq_ok_iff {args : List Value} {x : Binary32} {sum : Value} :
    sumFrom (.float x) args = .ok sum ↔
      (∀ v ∈ args, v.kind ∈ Kind.numeric) ∧ sum = .float (floatTotal x args) :=
  sumFrom_eq_ok_iff_of_step fun _ _ _ => add_float_eq_ok_iff

/-- An integer so far: the exact sum goes on up to the first float, and must stay in range. -/
theorem sumFrom_int_eq_ok_iff {args : List Value} {n : Int32} {sum : Value} :
    sumFrom (.int n) args = .ok sum ↔ (∀ v ∈ args, v.kind ∈ Kind.numeric) ∧
      WithinRange n.toInt args ∧ sum = Arguments.sum n.toInt args := by
  induction args generalizing n with
  | nil =>
    have hn : InRange n.toInt := Ideal.fits_toInt n
    simp [sumFrom, withinRange_nil, hn, Arguments.sum, total, eq_comm]
  | cons v args ih =>
    have hn : InRange n.toInt := Ideal.fits_toInt n
    rcases v.isIntegral_or with hv | ⟨x, rfl⟩ | hv
    · have hfloat : v.kind ≠ .float := Kind.ne_float_of_integral hv.kind
      rw [withinRange_cons hfloat, sum_cons hfloat, List.forall_mem_cons, sumFrom_cons_eq_ok_iff]
      simp only [add_int_eq_ok_iff hv]
      constructor
      · rintro ⟨_, ⟨hr, rfl⟩, hrest⟩
        rw [ih, Ideal.toInt_ofInt hr] at hrest
        exact ⟨⟨Kind.numeric_of_integral hv.kind, hrest.1⟩, ⟨hn, hrest.2.1⟩, hrest.2.2⟩
      · rintro ⟨⟨-, hall⟩, ⟨-, hr⟩, hsum⟩
        refine ⟨_, ⟨hr.inRange, rfl⟩, ?_⟩
        rw [ih, Ideal.toInt_ofInt hr.inRange]
        exact ⟨hall, hr, hsum⟩
    · -- from here on the sum is a float
      have hfirst : sumFrom (.int n) (.float x :: args) =
          sumFrom (.float ((Binary32.ofInt n.toInt).add x)) args := rfl
      rw [hfirst, sumFrom_float_eq_ok_iff, withinRange_cons_float, sum_cons_float]
      simp [hn, Value.kind, Kind.numeric]
    · simp [sumFrom_cons_eq_ok_iff, add_int_ne_ok hv, hv]

/-- The sum of the arguments: nothing, text or a number. -/
theorem sumFrom_mono_eq_ok_iff {args : List Value} {sum : Value} :
    sumFrom .mono args = .ok sum ↔ (args = [] ∧ sum = .mono) ∨
      (Textual args ∧ sum = .text (String.join (args.filterMap Value.text?))) ∨
      (Numeric args ∧ sum = Arguments.sum 0 args) := by
  cases args with
  | nil =>
    have htext : ¬ Textual [] := by
      rintro ⟨s, rest, h, -⟩
      cases h
    have hnum : ¬ Numeric [] := fun h => h.ne_nil rfl
    simp [sumFrom, htext, hnum, eq_comm]
  | cons v args =>
    by_cases hv : v.kind = .string
    · obtain ⟨s, rfl⟩ : ∃ s, v = .text s := by
        cases v with
        | text s => exact ⟨s, rfl⟩
        | mono | int n | float x | bool b => cases hv
      have hnum : ¬ Numeric (.text s :: args) :=
        not_numeric_of_mem List.mem_cons_self (by rw [hv]; decide)
      have hfirst : sumFrom .mono (.text s :: args) = sumFrom (.text s) args := rfl
      rw [hfirst, sumFrom_text_eq_ok_iff]
      simp [textual_cons_text, hnum, Value.text?]
    · have hzero : sumFrom .mono (v :: args) = .ok sum ↔ sumFrom (.int 0) (v :: args) = .ok sum := by
        simp only [sumFrom_cons_eq_ok_iff, add_mono_eq_ok_iff hv]
      rw [hzero, sumFrom_int_eq_ok_iff, numeric_cons_iff]
      simp [not_textual_cons hv, and_assoc]

theorem thrownMessage_of_sum {args : List Value} {sum : Value} (h : sumFrom .mono args = .ok sum) :
    thrownMessage args = sum.display := by
  simp only [thrownMessage, h]

theorem thrownMessage_of_no_sum {args : List Value} (h : ∀ sum, sumFrom .mono args ≠ .ok sum) :
    thrownMessage args = listing args := by
  cases hs : sumFrom .mono args with
  | ok sum => exact absurd hs (h sum)
  | error e => simp only [thrownMessage, hs, listing]

/-- The built-in `throw` writes nothing and fails with a message that its arguments determine: `(mono)` if
there are none; their texts in a row if the first is text and each other is text or `mono`; their sum if all
are numbers or `mono` and the integers before the first float stay in range; and in every other case a list
of all of them. A clash, such as a sum that leaves the range on its way, is always such a case. -/
theorem throw_message_is_exact {ε : Type} [Host ε] (m : Machine ε) :
    ∃ hook, m.withBuiltins.hook "throw" = .ok hook ∧
      ∀ (args : List Value) (caller : Machine ε) (sink : Sink), ∃ message,
        hook.call ⟨args, caller⟩ sink = (.error (.thrown message), sink) ∧
        (args = [] → message = "(mono)") ∧
        (Textual args → message = String.join (args.filterMap Value.text?)) ∧
        (Numeric args → message = (Arguments.sum 0 args).display) ∧
        (args ≠ [] → ¬ Textual args → ¬ Numeric args → message = listing args) ∧
        (Clash args → message = listing args) := by
  have hget : m.withBuiltins.hooks.get? "throw" = some ⟨"throw", .variadic, .throw⟩ := by
    simp [Machine.withBuiltins, HookTable.registerBuiltins, HookTable.get?_register]
  refine ⟨⟨"throw", .variadic, .throw⟩, by simp only [Machine.hook, hget], fun args caller sink => ?_⟩
  have hlisting (hne : args ≠ []) (ht : ¬ Textual args) (hn : ¬ Numeric args) :
      thrownMessage args = listing args :=
    thrownMessage_of_no_sum fun sum h => by
      rcases sumFrom_mono_eq_ok_iff.1 h with ⟨h, -⟩ | ⟨h, -⟩ | ⟨h, -⟩
      · exact hne h
      · exact ht h
      · exact hn h
  refine ⟨thrownMessage args, rfl, ?_, fun h => ?_, fun h => ?_, hlisting, fun h => ?_⟩
  · rintro rfl
    rfl
  · exact thrownMessage_of_sum (sumFrom_mono_eq_ok_iff.2 (.inr (.inl ⟨h, rfl⟩)))
  · exact thrownMessage_of_sum (sumFrom_mono_eq_ok_iff.2 (.inr (.inr ⟨h, rfl⟩)))
  · exact hlisting h.ne_nil h.not_textual h.not_numeric

/-- Two integers leave the range and a third leads back; the message is the list of all three. -/
example : thrownMessage [.int 2147483647, .int 1, .int (-1)] = "Error: 2147483647 1 -1" := by
  decide

end StackScript
