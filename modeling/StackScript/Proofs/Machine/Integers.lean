import Mathlib.Data.List.Forall2
import StackScript.Proofs.Machine.CallFree

/-!
# Integer runs against unbounded integers

An *ideal* machine computes on a stack of unbounded integers. Nothing there is checked: an
arithmetic command on fewer than two entries leaves the stack as it is, and no result is too large.
`Ideal.fault?` says which rule of the language a command offends on an ideal stack.

* `Ideal.step_reads`: on integers and `mono` a machine takes the ideal step, or fails with the fault;
* `run_reads_ideal`: so does a whole run. Without a fault every entry of its stack reads as the ideal
  one, and otherwise it fails at the first command with a fault, with that fault.
-/

namespace StackScript

namespace Value

/-- The value is an integer or `mono`. -/
def IsIntegral (v : Value) : Prop :=
  v = .mono ∨ ∃ n, v = .int n

/-- The integer that a value reads as, which is zero for `mono`. -/
def integer : Value → Int
  | .int n => n.toInt
  | _ => 0

end Value

/-- No call, and no operand other than an integer or `mono` is pushed. -/
def Command.IsIntegral (c : Command) : Prop :=
  c.CallFree ∧ (c.opcode = .push → c.operand.IsIntegral)

namespace Ideal

/-- An integer on the ideal stack, and whether it is the result of an operator. -/
structure Entry where
  value : Int
  computed : Bool
deriving DecidableEq, Repr

/-- The entry for a value that was not computed. -/
def Entry.given (v : Value) : Entry :=
  ⟨v.integer, false⟩

/-- The exact result of an operator; division goes toward zero. -/
def exact : Operator → Int → Int → Int
  | .add, a, b => a + b
  | .sub, a, b => a - b
  | .mul, a, b => a * b
  | .div, a, b => a.tdiv b

/-- The effect of a command on an ideal stack; the top is the left operand. -/
def step (s : List Entry) (c : Command) : List Entry :=
  match c.opcode, s with
  | .push, s => .given c.operand :: s
  | .arith op, a :: b :: s => ⟨exact op a.value b.value, true⟩ :: s
  | _, s => s

/-- The ideal stack after commands. -/
def run (s : List Entry) (cs : List Command) : List Entry :=
  cs.foldl step s

/-- The integer has 32 bits. -/
def Fits (n : Int) : Prop :=
  -2147483648 ≤ n ∧ n ≤ 2147483647

instance (n : Int) : Decidable (Fits n) :=
  inferInstanceAs (Decidable (_ ∧ _))

/-- The rule that a command offends on an ideal stack. -/
def fault? (limit : Nat) (s : List Entry) (c : Command) : Option MachineError :=
  match c.opcode, s with
  | .push, s => if limit ≤ s.length then some (.stackOverflow limit) else none
  | .arith op, a :: b :: _ =>
    if op = .div ∧ b.value = 0 then some (.operation .divisionByZero)
    else if Fits (exact op a.value b.value) then none
    else some (.operation (.integerOverflow op))
  | .arith _, s => some (.stackUnderflow 2 s.length)
  | .call, _ => none

/-- No command offends a rule on the ideal stack that it meets. -/
def Faultless (limit : Nat) (s : List Entry) (cs : List Command) : Prop :=
  ∀ before c after, cs = before ++ c :: after → fault? limit (run s before) c = none

/-- The value reads as the entry, and is an integer if the entry was computed. -/
structure Reads (v : Value) (e : Entry) : Prop where
  isIntegral : v.IsIntegral
  value : v.integer = e.value
  computed : e.computed = true → ∃ n, v = .int n

theorem reads_given {v : Value} (h : v.IsIntegral) : Reads v (.given v) :=
  ⟨h, rfl, nofun⟩

/-! ## One operation -/

theorem exact_eq_onInt (op : Operator) (a b : Int) : exact op a b = op.onInt a b := by
  cases op <;> rfl

theorem fits_iff_inRange {n : Int} : Fits n ↔ InRange n := Iff.rfl

theorem fits_toInt (n : Int32) : Fits n.toInt :=
  ⟨n.le_toInt, Int.le_of_lt_add_one n.toInt_lt⟩

theorem toInt_ofInt {n : Int} (h : Fits n) : (Int32.ofInt n).toInt = n :=
  Int32.toInt_ofInt_of_le h.1 (Int.lt_add_one_of_le h.2)

theorem Reads.fits {v : Value} {e : Entry} (h : Reads v e) : Fits e.value := by
  rw [← h.value]
  rcases h.isIntegral with rfl | ⟨n, rfl⟩
  · exact fits_toInt 0
  · exact fits_toInt n

/-- An integral value is an integer to every operator. -/
theorem number?_of_isIntegral {v : Value} (h : v.IsIntegral) :
    ∃ n : Int32, v.number? = some (.int n) ∧ n.toInt = v.integer := by
  rcases h with rfl | ⟨n, rfl⟩
  · exact ⟨0, rfl, rfl⟩
  · exact ⟨n, rfl, rfl⟩

theorem joinText?_of_isIntegral {v w : Value} (hv : v.IsIntegral) (hw : w.IsIntegral) :
    Operator.joinText? v w = none := by
  rcases hv with rfl | ⟨m, rfl⟩ <;> rcases hw with rfl | ⟨n, rfl⟩ <;> rfl

/-- An operator on integral values gives the exact result, or a fault where there is none. -/
theorem apply_reads (op : Operator) {v w : Value} {a b : Entry} (hv : Reads v a) (hw : Reads w b) :
    op.apply v w =
      if op = .div ∧ b.value = 0 then .error .divisionByZero
      else if Fits (exact op a.value b.value) then
        .ok (.int (Int32.ofInt (exact op a.value b.value)))
      else .error (.integerOverflow op) := by
  obtain ⟨m, hm, hma⟩ := number?_of_isIntegral hv.isIntegral
  obtain ⟨n, hn, hnb⟩ := number?_of_isIntegral hw.isIntegral
  have happly : op.apply v w = op.checked m n := by
    have hj := joinText?_of_isIntegral hv.isIntegral hw.isIntegral
    cases op <;> simp only [Operator.apply, hj, Operator.onNumeric, hm, hn, Operator.onNumber]
  have hzero : n = 0 ↔ b.value = 0 := by
    rw [← Int32.toInt_inj, Int32.toInt_zero, hnb, hw.value]
  rw [happly, Operator.checked, hma, hnb, hv.value, hw.value, ← exact_eq_onInt]
  simp only [hzero, ← fits_iff_inRange]

/-- A quotient of 32-bit integers has more bits only if the least of them is divided by `-1`. -/
theorem eq_of_not_fits_tdiv {a b : Int} (ha : Fits a) (hb : b ≠ 0) (h : ¬ Fits (a.tdiv b)) :
    a = -2147483648 ∧ b = -1 := by
  obtain ⟨hlo, hhi⟩ := ha
  have habs : (a.tdiv b).natAbs = a.natAbs / b.natAbs := Int.natAbs_tdiv a b
  have hle : a.natAbs / b.natAbs ≤ a.natAbs := Nat.div_le_self _ _
  have hmin : a = -2147483648 := by
    by_contra hne
    exact h ⟨by omega, by omega⟩
  refine ⟨hmin, ?_⟩
  by_contra hne
  by_cases hone : b = 1
  · rw [hone, Int.tdiv_one] at h
    exact h ⟨hlo, hhi⟩
  · have hhalf : a.natAbs / b.natAbs ≤ a.natAbs / 2 := Nat.div_le_div_left (by omega) (by decide)
    exact h ⟨by omega, by omega⟩

/-! ## One command -/

/-- A command on integral values takes the ideal step, or fails with the fault. -/
theorem step_reads (limit : Nat) {s : List Value} {t : List Entry} {c : Command}
    (h : List.Forall₂ Reads s t) (hc : c.IsIntegral) :
    match fault? limit t c with
    | none => ∃ s', Stack.step limit c s = .ok s' ∧ List.Forall₂ Reads s' (step t c)
    | some e => Stack.step limit c s = .error e := by
  obtain ⟨opcode, operand⟩ := c
  cases opcode with
  | call => exact absurd rfl hc.1
  | push =>
    have hlen := h.length_eq
    by_cases hm : limit ≤ t.length
    · simp [fault?, Stack.step, hm, hlen]
    · simp only [fault?, Stack.step, hm, hlen, if_false]
      exact ⟨_, rfl, .cons (reads_given (hc.2 rfl)) h⟩
  | arith op =>
    cases h with
    | nil => rfl
    | @cons v a s t hv h =>
      cases h with
      | nil => rfl
      | @cons w b s t hw h =>
        have happly := apply_reads op hv hw
        by_cases hz : op = .div ∧ b.value = 0
        · rw [if_pos hz] at happly
          simp only [fault?, Stack.step, happly, if_pos hz]
        · by_cases hf : Fits (exact op a.value b.value)
          · simp only [fault?, Stack.step, happly, hz, hf, if_false, if_true]
            exact ⟨_, rfl, .cons ⟨.inr ⟨_, rfl⟩, toInt_ofInt hf, fun _ => ⟨_, rfl⟩⟩ h⟩
          · simp [fault?, Stack.step, happly, hz, hf]

/-- The only division that overflows is that of the least integer by `-1`. -/
theorem operands_of_fault?_div {limit : Nat} {s : List Value} {t : List Entry} {c : Command}
    (h : List.Forall₂ Reads s t)
    (hf : fault? limit t c = some (.operation (.integerOverflow .div))) :
    ∃ a b rest, t = a :: b :: rest ∧ a.value = -2147483648 ∧ b.value = -1 := by
  obtain ⟨opcode, operand⟩ := c
  cases opcode with
  | call => cases hf
  | push =>
    simp only [fault?] at hf
    split at hf <;> cases hf
  | arith op =>
    match s, t, h with
    | _, _, .nil => cases hf
    | _, _, .cons _ .nil => cases hf
    | v :: w :: s, a :: b :: t, .cons hv (.cons hw h) =>
      simp only [fault?] at hf
      split at hf
      · cases hf
      · rename_i hz
        split at hf
        · cases hf
        · rename_i hfit
          cases hf
          exact ⟨a, b, t, rfl, eq_of_not_fits_tdiv hv.fits (fun hb => hz ⟨rfl, hb⟩) hfit⟩

/-! ## Whole runs -/

theorem faultless_nil (limit : Nat) (s : List Entry) : Faultless limit s [] :=
  fun before c after h => by simp at h

theorem faultless_cons {limit : Nat} {s : List Entry} {c : Command} {cs : List Command} :
    Faultless limit s (c :: cs) ↔ fault? limit s c = none ∧ Faultless limit (step s c) cs := by
  constructor
  · intro h
    exact ⟨h [] c cs rfl, fun before d after hcs => h (c :: before) d after (by rw [hcs]; rfl)⟩
  · rintro ⟨hc, hcs⟩ before d after heq
    cases before with
    | nil =>
      obtain ⟨rfl, -⟩ := List.cons.inj heq
      exact hc
    | cons b before =>
      obtain ⟨rfl, hrest⟩ := List.cons.inj heq
      exact hcs before d after hrest

/-- Either no command has a fault, or there is a first one that has. -/
theorem faultless_or_exists (limit : Nat) (s : List Entry) (cs : List Command) :
    Faultless limit s cs ∨ ∃ before c after e, cs = before ++ c :: after ∧
      Faultless limit s before ∧ fault? limit (run s before) c = some e := by
  induction cs generalizing s with
  | nil => exact .inl (faultless_nil limit s)
  | cons c cs ih =>
    cases hc : fault? limit s c with
    | some e => exact .inr ⟨[], c, cs, e, rfl, faultless_nil limit s, hc⟩
    | none =>
      rcases ih (step s c) with h | ⟨before, d, after, e, rfl, hb, hd⟩
      · exact .inl (faultless_cons.2 ⟨hc, h⟩)
      · exact .inr ⟨c :: before, d, after, e, rfl, faultless_cons.2 ⟨hc, hb⟩, hd⟩

/-- Commands without a fault take a stack to one that reads as the ideal stack. -/
theorem run_reads {limit : Nat} {s : List Value} {t : List Entry} {cs : List Command}
    (h : List.Forall₂ Reads s t) (hc : ∀ c ∈ cs, c.IsIntegral) (hf : Faultless limit t cs) :
    ∃ s', Stack.run limit cs s = .ok s' ∧ List.Forall₂ Reads s' (run t cs) := by
  induction cs generalizing s t with
  | nil => exact ⟨s, rfl, h⟩
  | cons c cs ih =>
    obtain ⟨hfc, hfcs⟩ := faultless_cons.1 hf
    have hstep := step_reads limit h (hc c List.mem_cons_self)
    rw [hfc] at hstep
    obtain ⟨s', hs', h'⟩ := hstep
    rw [Stack.run, hs']
    exact ih h' (fun d hd => hc d (List.mem_cons_of_mem _ hd)) hfcs

end Ideal

/-- A run on integers and `mono` follows the ideal run. If no command has a fault there, it succeeds
and every entry of its stack reads as the ideal one, each result of an operator being an integer.
Otherwise it fails at the first command with a fault, with that fault; the fault is the overflow of a
division only if the least integer is divided by `-1`. -/
theorem run_reads_ideal {ε : Type} [Host ε] (m : Machine ε) (cs : List Command) (sink : Sink)
    (hs : ∀ v ∈ m.stack, v.IsIntegral) (hc : ∀ c ∈ cs, c.IsIntegral) :
    (Ideal.Faultless m.config.maxDepth (m.stack.map .given) cs →
      ∃ stack, m.run cs sink = (.ok (m.advance stack cs), sink) ∧
        List.Forall₂ Ideal.Reads stack (Ideal.run (m.stack.map .given) cs)) ∧
    (¬ Ideal.Faultless m.config.maxDepth (m.stack.map .given) cs →
      ∃ before c after e stack, cs = before ++ c :: after ∧
        Ideal.Faultless m.config.maxDepth (m.stack.map .given) before ∧
        Ideal.fault? m.config.maxDepth (Ideal.run (m.stack.map .given) before) c = some e ∧
        m.run before sink = (.ok (m.advance stack before), sink) ∧
        (m.advance stack before).execute c sink = (.error e, sink) ∧
        m.run cs sink = (.error e, sink) ∧
        (e = .operation (.integerOverflow .div) →
          ∃ a b rest, Ideal.run (m.stack.map .given) before = a :: b :: rest ∧
            a.value = -2147483648 ∧ b.value = -1)) := by
  have hgiven : List.Forall₂ Ideal.Reads m.stack (m.stack.map .given) := by
    rw [List.forall₂_map_right_iff, List.forall₂_same]
    exact fun v hv => Ideal.reads_given (hs v hv)
  have hfree : ∀ c ∈ cs, c.CallFree := fun c h => (hc c h).1
  constructor
  · intro hf
    obtain ⟨s, hrun, hreads⟩ := Ideal.run_reads hgiven hc hf
    exact ⟨s, by rw [m.run_callFree hfree, hrun]; rfl, hreads⟩
  · intro hf
    rcases Ideal.faultless_or_exists m.config.maxDepth (m.stack.map .given) cs with h | h
    · exact absurd h hf
    · obtain ⟨before, c, after, e, rfl, hb, he⟩ := h
      obtain ⟨s, hrun, hreads⟩ :=
        Ideal.run_reads hgiven (fun d hd => hc d (List.mem_append_left _ hd)) hb
      have hcc : c.IsIntegral := hc c (by simp)
      have hstep := Ideal.step_reads m.config.maxDepth hreads hcc
      rw [he] at hstep
      refine ⟨before, c, after, e, s, rfl, hb, he, ?_, ?_, ?_, ?_⟩
      · rw [m.run_callFree fun d hd => hfree d (List.mem_append_left _ hd), hrun]
        rfl
      · rw [Machine.execute_callFree _ hcc.1]
        exact congrArg (·, sink) (congrArg _ hstep)
      · rw [m.run_callFree hfree, Stack.run_append, hrun]
        simp only [Stack.run, hstep]
        rfl
      · rintro rfl
        exact Ideal.operands_of_fault?_div hreads he

/-- A negative quotient goes toward zero, and `mono` is a zero on the left. -/
theorem run_reads_ideal_quotient :
    ∃ stack, (Machine.run { name := "m", stack := [.int (-7), .int 2] : Machine Empty }
        [⟨.arith .div, .mono⟩, ⟨.push, .mono⟩, ⟨.arith .sub, .mono⟩] .null) =
      (.ok (Machine.advance { name := "m", stack := [.int (-7), .int 2] } stack
        [⟨.arith .div, .mono⟩, ⟨.push, .mono⟩, ⟨.arith .sub, .mono⟩]), .null) ∧
      List.Forall₂ Ideal.Reads stack [⟨3, true⟩] := by
  refine (run_reads_ideal _ _ _ ?_ ?_).1 ?_
  · simp [Value.IsIntegral]
  · simp [Command.IsIntegral, Command.CallFree, Value.IsIntegral]
  · rw [Ideal.faultless_cons, Ideal.faultless_cons, Ideal.faultless_cons]
    exact ⟨by decide, by decide, by decide, Ideal.faultless_nil _ _⟩

end StackScript
