import StackScript.Proofs.Machine.CallFree

/-!
# Sums of texts

A machine that only pushes texts and adds never loses a character and never moves one: the top of the
stack is the left operand, so that an addition takes away a boundary between two texts and nothing else.
Read from the top, the stack therefore spells at all times what was pushed, the newest first.

* `Command.Halts`: where such a command fails, which depends on the depth of the stack alone;
* `Stack.step_eq_error_iff` and `Stack.run_eq_error_iff`: one command, and a run of commands, fails there
  and nowhere else;
* `Stack.spells_of_step` and `Stack.spells_of_run`: what one command, and a run of commands, leaves;
* `text_is_conserved`: the same of a machine, and that the places of the additions have no influence on a
  sum of all texts.
-/

namespace StackScript

namespace Command

/-- The command pushes a text or adds. -/
inductive Joins : Command → Prop
  | push (s : String) : Joins ⟨.push, .text s⟩
  | add (operand : Value) : Joins ⟨.arith .add, operand⟩

theorem Joins.callFree {c : Command} (h : c.Joins) : c.CallFree := by
  cases h <;> simp [CallFree]

/-- The text that a command pushes. -/
def pushedText? (c : Command) : Option String :=
  if c.opcode = .push then c.operand.text? else none

/-- The command is an addition. -/
def isAdd (c : Command) : Bool :=
  c.opcode = .arith .add

/-- Where a command that pushes a text or adds fails on a stack of the given depth: a push for want of
room, and an addition for want of operands. -/
inductive Halts (limit depth : Nat) : Command → MachineError → Prop
  | push {s : String} (h : limit ≤ depth) : Halts limit depth ⟨.push, .text s⟩ (.stackOverflow limit)
  | add {operand : Value} (h : depth < 2) :
    Halts limit depth ⟨.arith .add, operand⟩ (.stackUnderflow 2 depth)

end Command

/-- The texts that commands push, in their order. -/
def pushedTexts (cs : List Command) : List String :=
  cs.filterMap Command.pushedText?

theorem pushedTexts_append (cs ds : List Command) :
    pushedTexts (cs ++ ds) = pushedTexts cs ++ pushedTexts ds :=
  List.filterMap_append

namespace Stack

/-- The stack holds texts only, and `texts` pieced together, the last of them on top, are what it spells
from its top to its bottom. -/
def Spells (s : List Value) (texts : List String) : Prop :=
  ∃ pieces : List String, s = pieces.map .text ∧ String.join pieces = String.join texts.reverse

theorem spells_nil : Spells [] [] :=
  ⟨[], rfl, rfl⟩

/-- A stack of one value that spells texts is their sum. -/
theorem Spells.eq_text {v : Value} {texts : List String} (h : Spells [v] texts) :
    v = .text (String.join texts.reverse) := by
  obtain ⟨pieces, hv, hjoin⟩ := h
  obtain ⟨piece, rfl, rfl⟩ := List.map_eq_singleton_iff.1 hv.symm
  rw [← hjoin, String.join_cons, String.join_nil, String.append_empty]

/-- On texts a command that pushes a text or adds fails where the depth makes it fail, and nowhere else. -/
theorem step_eq_error_iff {c : Command} (hc : c.Joins) {s : List Value} {texts : List String}
    (hs : Spells s texts) {limit : Nat} {e : MachineError} :
    step limit c s = .error e ↔ c.Halts limit s.length e := by
  obtain ⟨pieces, rfl, -⟩ := hs
  constructor
  · intro h
    cases hc with
    | push text =>
      simp only [step] at h
      split at h
      case isTrue hfull =>
        cases h
        exact .push hfull
      case isFalse => cases h
    | add operand =>
      -- two texts can always be added
      rcases pieces with _ | ⟨left, _ | ⟨right, rest⟩⟩
      · cases h
        exact .add (by decide)
      · cases h
        exact .add (by decide : 1 < 2)
      · cases h
  · intro h
    cases h with
    | push hfull => exact if_pos hfull
    | add hfew =>
      rcases pieces with _ | ⟨left, _ | ⟨right, rest⟩⟩
      · rfl
      · rfl
      · rw [List.length_map, List.length_cons, List.length_cons] at hfew
        omega

/-- A step keeps what the stack spells, with the text that it pushed in front. Each text that is pushed
makes the stack deeper by one, and each addition makes it less deep by one. -/
theorem spells_of_step {c : Command} (hc : c.Joins) {s s' : List Value} {texts : List String}
    (hs : Spells s texts) {limit : Nat} (h : step limit c s = .ok s') :
    Spells s' (texts ++ pushedTexts [c]) ∧
      s'.length + [c].countP Command.isAdd = s.length + (pushedTexts [c]).length := by
  obtain ⟨pieces, rfl, hjoin⟩ := hs
  cases hc with
  | push text =>
    simp only [step] at h
    split at h
    case isTrue => cases h
    case isFalse =>
      cases h
      refine ⟨⟨text :: pieces, rfl, ?_⟩, rfl⟩
      simp [pushedTexts, Command.pushedText?, Value.text?, hjoin]
  | add operand =>
    rcases pieces with _ | ⟨left, _ | ⟨right, rest⟩⟩
    · cases h
    · cases h
    · cases h
      refine ⟨⟨(left ++ right) :: rest, rfl, ?_⟩, rfl⟩
      -- concatenation is associative, and the left operand lay on top
      simpa [pushedTexts, Command.pushedText?, String.append_assoc] using hjoin

/-- What one step keeps is kept by a run. -/
theorem spells_of_run {cs : List Command} (hcs : ∀ c ∈ cs, c.Joins) {s s' : List Value}
    {texts : List String} (hs : Spells s texts) {limit : Nat} (h : run limit cs s = .ok s') :
    Spells s' (texts ++ pushedTexts cs) ∧
      s'.length + cs.countP Command.isAdd = s.length + (pushedTexts cs).length := by
  induction cs generalizing s texts with
  | nil =>
    cases h
    exact ⟨by simpa [pushedTexts] using hs, rfl⟩
  | cons c cs ih =>
    obtain ⟨hc, hcs⟩ := List.forall_mem_cons.1 hcs
    rw [run] at h
    cases hstep : step limit c s with
    | error e =>
      rw [hstep] at h
      cases h
    | ok s₁ =>
      rw [hstep] at h
      obtain ⟨hs₁, hdepth₁⟩ := spells_of_step hc hs hstep
      obtain ⟨hs', hdepth⟩ := ih hcs hs₁ h
      rw [← List.singleton_append, pushedTexts_append, List.countP_append, List.length_append,
        ← List.append_assoc]
      exact ⟨hs', by omega⟩

/-- A run fails at the first command that the depth makes fail. -/
theorem run_eq_error_iff {cs : List Command} (hcs : ∀ c ∈ cs, c.Joins) {s : List Value}
    {texts : List String} (hs : Spells s texts) {limit : Nat} {e : MachineError} :
    run limit cs s = .error e ↔ ∃ done c rest s', cs = done ++ c :: rest ∧
      run limit done s = .ok s' ∧ c.Halts limit s'.length e := by
  constructor
  · intro h
    obtain ⟨done, c, rest, s', rfl, hdone, hstep⟩ := exists_failing_of_run h
    obtain ⟨hd, hc⟩ := List.forall_mem_append.1 hcs
    have hs' := (spells_of_run hd hs hdone).1
    exact ⟨done, c, rest, s', rfl, hdone, (step_eq_error_iff (hc c List.mem_cons_self) hs').1 hstep⟩
  · rintro ⟨done, c, rest, s', rfl, hdone, hhalts⟩
    obtain ⟨hd, hc⟩ := List.forall_mem_append.1 hcs
    have hs' := (spells_of_run hd hs hdone).1
    have hstep := (step_eq_error_iff (hc c List.mem_cons_self) hs').2 hhalts
    rw [run_append, hdone]
    simp only [run, hstep]

end Stack

namespace Machine

variable {ε : Type} [Host ε] {m : Machine ε} (hm : m.stack = []) {cs : List Command}
  (hcs : ∀ c ∈ cs, c.Joins) {sink : Sink}
include hm hcs

/-- A run on a machine with an empty stack leaves the texts that it pushed. -/
theorem spells_of_run {m' : Machine ε} (h : (m.run cs sink).1 = .ok m') :
    Stack.Spells m'.stack (pushedTexts cs) ∧
      m'.stack.length + cs.countP Command.isAdd = (pushedTexts cs).length := by
  have hrun := stackRun_of_run (fun c hc => (hcs c hc).callFree) h
  rw [hm] at hrun
  simpa using Stack.spells_of_run hcs Stack.spells_nil hrun

/-- A run on a machine with an empty stack fails at the first command that the depth makes fail. -/
theorem run_eq_error_iff_halts {e : MachineError} :
    (m.run cs sink).1 = .error e ↔ ∃ done c rest m', cs = done ++ c :: rest ∧
      (m.run done sink).1 = .ok m' ∧ c.Halts m.config.maxDepth m'.stack.length e := by
  have hfree : ∀ done c rest, cs = done ++ c :: rest → ∀ d ∈ done, d.CallFree :=
    fun done c rest heq d hd => (hcs d (heq ▸ List.mem_append_left _ hd)).callFree
  rw [run_eq_error_iff fun c hc => (hcs c hc).callFree, hm, Stack.run_eq_error_iff hcs Stack.spells_nil]
  constructor
  · rintro ⟨done, c, rest, s, heq, hdone, hhalts⟩
    rw [← hm] at hdone
    have hrun := run_of_stackRun_ok (hfree done c rest heq) hdone sink
    exact ⟨done, c, rest, m.advance s done, heq, congrArg Prod.fst hrun, hhalts⟩
  · rintro ⟨done, c, rest, m', heq, hdone, hhalts⟩
    have hrun := stackRun_of_run (hfree done c rest heq) hdone
    rw [hm] at hrun
    exact ⟨done, c, rest, m'.stack, heq, hrun, hhalts⟩

end Machine

/-- Text is conserved by additions, and keeps its order. A run of commands that push texts or add, on a
machine with an empty stack, fails exactly at a push for which there is no room or at an addition that
lacks an operand. After each command that did not fail the stack holds texts only, which read from the top
are the texts pushed so far, the newest first; each addition has made one of two. So a run that ends with
a single value ends with the sum of all texts, and any other run that pushes the same texts, on whatever
machine and wherever it adds, ends with the same value if it ends with a single one. -/
theorem text_is_conserved {ε ε' : Type} [Host ε] [Host ε'] (m : Machine ε) (n : Machine ε')
    (hm : m.stack = []) (hn : n.stack = []) (cs ds : List Command) (hcs : ∀ c ∈ cs, c.Joins)
    (hds : ∀ d ∈ ds, d.Joins) (sink sink' : Sink) :
    (∀ e, (m.run cs sink).1 = .error e ↔ ∃ done c rest m', cs = done ++ c :: rest ∧
      (m.run done sink).1 = .ok m' ∧ c.Halts m.config.maxDepth m'.stack.length e) ∧
    (∀ done rest m', cs = done ++ rest → (m.run done sink).1 = .ok m' →
      (∃ texts, m'.stack = texts.map .text ∧ String.join texts = String.join (pushedTexts done).reverse) ∧
      m'.stack.length + done.countP Command.isAdd = (pushedTexts done).length) ∧
    (∀ m' v, (m.run cs sink).1 = .ok m' → m'.stack = [v] →
      v = .text (String.join (pushedTexts cs).reverse) ∧
      ∀ n' w, pushedTexts ds = pushedTexts cs → (n.run ds sink').1 = .ok n' → n'.stack = [w] → w = v) := by
  refine ⟨fun e => Machine.run_eq_error_iff_halts hm hcs, fun done rest m' hcs' hrun => ?_,
    fun m' v hrun hv => ?_⟩
  · have hd : ∀ c ∈ done, c.Joins := fun c hc => hcs c (hcs' ▸ List.mem_append_left _ hc)
    exact Machine.spells_of_run hm hd hrun
  · have h := (Machine.spells_of_run hm hcs hrun).1
    rw [hv] at h
    refine ⟨h.eq_text, fun n' w htexts hrun' hw => ?_⟩
    have h' := (Machine.spells_of_run hn hds hrun').1
    rw [hw] at h'
    rw [h.eq_text, h'.eq_text, htexts]

/-- Three texts added one by one on a stack with room for two, and all at the end on a stack with room for
three. -/
theorem text_is_conserved_interleaved :
    let m : Machine Empty := { name := "m", config := ⟨2⟩ }
    let n : Machine Empty := { name := "n", config := ⟨3⟩ }
    let cs : List Command := [⟨.push, .text "c"⟩, ⟨.push, .text "b"⟩, ⟨.arith .add, .mono⟩,
      ⟨.push, .text "a"⟩, ⟨.arith .add, .mono⟩]
    let ds : List Command := [⟨.push, .text "c"⟩, ⟨.push, .text "b"⟩, ⟨.push, .text "a"⟩,
      ⟨.arith .add, .mono⟩, ⟨.arith .add, .mono⟩]
    (∀ c ∈ cs, c.Joins) ∧ (∀ d ∈ ds, d.Joins) ∧ (m.run ds .null).1 = .error (.stackOverflow 2) ∧
      ∃ m' n' v, (m.run cs .null).1 = .ok m' ∧ (n.run ds .null).1 = .ok n' ∧ m'.stack = [v] ∧
        n'.stack = [v] ∧ v = .text "abc" := by
  intro m n cs ds
  have hcs : ∀ c ∈ cs, c.Joins := by simp [cs, Command.Joins.push, Command.Joins.add]
  have hds : ∀ d ∈ ds, d.Joins := by simp [ds, Command.Joins.push, Command.Joins.add]
  have hm : (m.run cs .null).1 = .ok (m.advance [.text ("a" ++ ("b" ++ "c"))] cs) := rfl
  have hn : (n.run ds .null).1 = .ok (n.advance [.text (("a" ++ "b") ++ "c")] ds) := rfl
  obtain ⟨htext, hsame⟩ := (text_is_conserved m n rfl rfl cs ds hcs hds .null .null).2.2 _ _ hm rfl
  have hw := hsame _ _ rfl hn rfl
  exact ⟨hcs, hds, rfl, _, _, _, hm, hn, rfl, congrArg (fun v => [v]) hw, htext⟩

end StackScript
