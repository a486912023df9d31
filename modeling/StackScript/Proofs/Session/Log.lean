import Mathlib.Data.List.TakeWhile
import StackScript.Proofs.Machine.Run
import StackScript.Proofs.Stream
import StackScript.Session

/-!
# The log of a session

A session takes lines up to the first that is not UTF-8 or holds an exit word. `Log` says what these
lines do on a machine with a sink: which commands are executed, which failures are reported, and
that a failure changes nothing.

* `Log.history_eq` and `Log.run_eq`: the history is the list of the executed commands, and running
  them anew leads to the same machine and the same output;
* `Session.feedLines_log`: a session does what the log says;
* `session_log_replays`: so does every session on a byte stream, whatever the bytes are.
-/

namespace StackScript

/-- `Log m sink lines executed failures m' sink'`: the lines take the machine from `m` to `m'` and
the sink from `sink` to `sink'`, executing some commands and failing at others. -/
inductive Log : Machine Empty → Sink → List String → List Command → List ScriptError →
    Machine Empty → Sink → Prop
  | nil {m : Machine Empty} {sink : Sink} : Log m sink [] [] [] m sink
  | blank {m m' : Machine Empty} {sink sink' : Sink} {line : String} {lines : List String}
    {executed : List Command} {failures : List ScriptError}
    (hp : Script.parseLine line.toList = .ok none)
    (h : Log m sink lines executed failures m' sink') :
    Log m sink (line :: lines) executed failures m' sink'
  | executed {m m₁ m' : Machine Empty} {sink sink₁ sink' : Sink} {line : String}
    {lines : List String} {c : Command} {executed : List Command} {failures : List ScriptError}
    (hp : Script.parseLine line.toList = .ok (some c))
    (hx : m.execute c sink = (.ok m₁, sink₁)) (h : Log m₁ sink₁ lines executed failures m' sink') :
    Log m sink (line :: lines) (c :: executed) failures m' sink'
  | unread {m m' : Machine Empty} {sink sink' : Sink} {line : String} {lines : List String}
    {e : ParseError} {executed : List Command} {failures : List ScriptError}
    (hp : Script.parseLine line.toList = .error e)
    (h : Log m sink lines executed failures m' sink') :
    Log m sink (line :: lines) executed (.parse e :: failures) m' sink'
  | failed {m m' : Machine Empty} {sink sink' : Sink} {line : String} {lines : List String}
    {c : Command} {e : MachineError} {executed : List Command} {failures : List ScriptError}
    (hp : Script.parseLine line.toList = .ok (some c)) (hx : (m.execute c sink).1 = .error e)
    (h : Log m sink lines executed failures m' sink') :
    Log m sink (line :: lines) executed (.machine e :: failures) m' sink'

/-- The wording of failures, each on a line. -/
def ScriptError.report (failures : List ScriptError) : String :=
  String.join (failures.map fun e => e.message ++ "\n")

/-! ## Steps -/

namespace Machine

/-- An executed command is the newest of the history. -/
theorem history_of_execute {m m' : Machine Empty} {c : Command} {sink sink' : Sink}
    (h : m.execute c sink = (.ok m', sink')) : m'.history = m.history.prepend c := by
  rw [eq_advance_of_execute m.builtinOnly_empty h]
  rfl

/-- A step that fails leaves the sink as it was. -/
theorem sink_of_execute_error {m : Machine Empty} {c : Command} {sink sink' : Sink}
    {e : MachineError} (h : m.execute c sink = (.error e, sink')) : sink' = sink := by
  obtain ⟨r, texts, ho, hr⟩ := exists_outcome m.builtinOnly_empty c
  obtain ⟨rfl, rfl⟩ := Prod.mk.inj ((hr sink).symm.trans h)
  rw [ho.texts_of_error, Sink.writeAll_nil]

end Machine

namespace Log

variable {m m' : Machine Empty} {sink sink' : Sink} {lines : List String}
  {executed : List Command} {failures : List ScriptError}

theorem history_eq (h : Log m sink lines executed failures m' sink') :
    m'.history = executed.foldl .prepend m.history := by
  induction h with
  | nil => rfl
  | blank _ _ ih => exact ih
  | executed _ hx _ ih => rw [ih, Machine.history_of_execute hx]; rfl
  | unread _ _ ih => exact ih
  | failed _ _ _ ih => exact ih

/-- Logs of lines and of the lines behind them make one log. -/
theorem append {m₁ : Machine Empty} {sink₁ : Sink} {lines' : List String}
    {executed' : List Command} {failures' : List ScriptError}
    (h : Log m sink lines executed failures m₁ sink₁)
    (h' : Log m₁ sink₁ lines' executed' failures' m' sink') :
    Log m sink (lines ++ lines') (executed ++ executed') (failures ++ failures') m' sink' := by
  induction h with
  | nil => exact h'
  | blank hp _ ih => exact .blank hp (ih h')
  | executed hp hx _ ih => exact .executed hp hx (ih h')
  | unread hp _ ih => exact .unread hp (ih h')
  | failed hp hx _ ih => exact .failed hp hx (ih h')

/-- Running the executed commands anew leads to the same machine and the same sink. -/
theorem run_eq (h : Log m sink lines executed failures m' sink') :
    m.run executed sink = (.ok m', sink') := by
  induction h with
  | nil => rfl
  | blank _ _ ih => exact ih
  | executed _ hx _ ih => rw [Machine.run, hx]; exact ih
  | unread _ _ ih => exact ih
  | failed _ _ _ ih => exact ih

end Log

/-! ## Sessions -/

namespace Session

/-- A new session that keeps its output and its diagnostics in memory. -/
def fresh : Session :=
  { sink := .capture "" }

/-- The line lets a session go on: it is UTF-8 and holds no exit word. -/
def goesOn (line : List UInt8) : Bool :=
  (Text.decode? line).any fun line => !isExit line

/-- The lines that a session takes from an input. -/
def processed (input : List UInt8) : List String :=
  ((Text.byteLines input).takeWhile goesOn).filterMap Text.decode?

/-- The line at which a session stops, if there is one before the end of the input. -/
def stop? (input : List UInt8) : Option (List UInt8) :=
  ((Text.byteLines input).dropWhile goesOn).head?

/-- The device of the diagnostics takes something of whatever it is offered. -/
def Reporting (s : Session) : Prop :=
  s.diagnostics.device.Accepting

theorem reporting_fresh : fresh.Reporting := Device.accepting_memory

/-- What a session hands on to its next line: whether it reports, and what it has reported. -/
def Reported (s s' : Session) (failures : List ScriptError) : Prop :=
  s'.Reporting ∧ s'.diagnostics.received =
    s.diagnostics.received ++ (ScriptError.report failures).toUTF8.data.toList

variable {s s' s'' : Session}

theorem Reported.refl (h : s.Reporting) : Reported s s [] :=
  ⟨h, by simp [ScriptError.report]⟩

theorem Reported.trans {failures failures' : List ScriptError} (h : Reported s s' failures)
    (h' : Reported s' s'' failures') : Reported s s'' (failures ++ failures') :=
  ⟨h'.1, by
    rw [h'.2, h.2, List.append_assoc, ← Text.toList_toUTF8_append]
    simp [ScriptError.report]⟩

/-- A failure is reported without harm to the rest of the session. -/
theorem exists_report (hs : s.Reporting) (e : ScriptError) :
    ∃ s', s.report e = (.ok (), s') ∧ s'.machine = s.machine ∧ s'.sink = s.sink ∧
      Reported s s' [e] := by
  obtain ⟨diagnostics, hw, hd, hreceived⟩ := Stream.writeEach_of_accepting hs (e.pieces ++ ["\n"])
  have hs' : diagnostics.device.Accepting := hd ▸ hs
  refine ⟨{ s with diagnostics }, by rw [report, hw], rfl, rfl, hs', hreceived.trans ?_⟩
  simp [ScriptError.report, ScriptError.message]

theorem goesOn_eq_true_iff {line : List UInt8} :
    goesOn line = true ↔ ∃ text, Text.decode? line = some text ∧ isExit text = false := by
  cases h : Text.decode? line <;> simp [goesOn, h]

/-- A line that lets the session go on does what the log says. -/
theorem feedBytes_log (hs : s.Reporting) {line : List UInt8} {text : String}
    (hd : Text.decode? line = some text) (hx : isExit text = false) :
    ∃ s' executed failures, s.feedBytes line = (.ok true, s') ∧ Reported s s' failures ∧
      Log s.machine s.sink [text] executed failures s'.machine s'.sink := by
  cases hp : Script.parseLine text.toList with
  | error e =>
    obtain ⟨s', hr, hm, hk, hs'⟩ := exists_report hs (.parse e)
    refine ⟨s', [], [.parse e], by simp [feedBytes, hd, feed, hx, executeLine, hp, hr], hs', ?_⟩
    rw [hm, hk]
    exact .unread hp .nil
  | ok command =>
    cases command with
    | none =>
      exact ⟨s, [], [], by simp [feedBytes, hd, feed, hx, executeLine, hp], .refl hs,
        .blank hp .nil⟩
    | some c =>
      rcases hc : s.machine.execute c s.sink with ⟨r, sink⟩
      cases r with
      | ok m =>
        exact ⟨{ s with machine := m, sink }, [c], [],
          by simp [feedBytes, hd, feed, hx, executeLine, hp, hc], .refl hs, .executed hp hc .nil⟩
      | error e =>
        obtain rfl := Machine.sink_of_execute_error hc
        obtain ⟨s', hr, hm, hk, hs'⟩ := exists_report hs (.machine e)
        refine ⟨s', [], [.machine e], by simp [feedBytes, hd, feed, hx, executeLine, hp, hc, hr],
          hs', ?_⟩
        rw [hm, hk]
        exact .failed hp (by rw [hc]) .nil

/-- Lines of which each lets the session go on do what the log says. -/
theorem feedLines_log (hs : s.Reporting) {lines : List (List UInt8)}
    (hl : ∀ line ∈ lines, goesOn line) :
    ∃ s' executed failures, s.feedLines lines = (.ok (), s') ∧ Reported s s' failures ∧
      Log s.machine s.sink (lines.filterMap Text.decode?) executed failures s'.machine s'.sink := by
  induction lines generalizing s with
  | nil => exact ⟨s, [], [], rfl, .refl hs, .nil⟩
  | cons line lines ih =>
    obtain ⟨text, hd, hx⟩ := goesOn_eq_true_iff.1 (hl line (by simp))
    obtain ⟨s₁, cs₁, es₁, h₁, hr₁, hlog₁⟩ := feedBytes_log hs hd hx
    obtain ⟨s₂, cs₂, es₂, h₂, hr₂, hlog₂⟩ := ih hr₁.1 fun line h => hl line (by simp [h])
    refine ⟨s₂, cs₁ ++ cs₂, es₁ ++ es₂, by rw [feedLines, h₁]; exact h₂, hr₁.trans hr₂, ?_⟩
    rw [List.filterMap_cons_some hd]
    exact hlog₁.append hlog₂

/-- Lines that let the session go on can be taken first. -/
theorem feedLines_append (hs : s.Reporting) {lines : List (List UInt8)}
    (hl : ∀ line ∈ lines, goesOn line) (rest : List (List UInt8)) :
    s.feedLines (lines ++ rest) = (s.feedLines lines).2.feedLines rest := by
  induction lines generalizing s with
  | nil => rfl
  | cons line lines ih =>
    obtain ⟨text, hd, hx⟩ := goesOn_eq_true_iff.1 (hl line (by simp))
    obtain ⟨s₁, _, _, h₁, hr₁, -⟩ := feedBytes_log hs hd hx
    simp only [List.cons_append, feedLines, h₁]
    exact ih hr₁.1 fun line h => hl line (by simp [h])

/-- A line that does not let the session go on ends it, with an error if it is not UTF-8. -/
theorem feedLines_of_not_goesOn {line : List UInt8} (h : goesOn line = false)
    (s : Session) (rest : List (List UInt8)) :
    s.feedLines (line :: rest) =
      (if Text.decode? line = none then .error .notUtf8 else .ok (), s) := by
  cases hd : Text.decode? line with
  | none => simp [feedLines, feedBytes, hd]
  | some text =>
    have hx : isExit text = true := by simpa [goesOn, hd] using h
    simp [feedLines, feedBytes, hd, feed, hx]

/-- The line that stops a session, if there is one, decides how it ends, and nothing behind it has
an effect. -/
theorem run_of_reporting (hs : s.Reporting) (input : List UInt8) :
    s.run input =
      (if ∃ line, stop? input = some line ∧ Text.decode? line = none then .error .notUtf8
        else .ok (),
        (s.feedLines ((Text.byteLines input).takeWhile goesOn)).2) := by
  have hsplit : s.run input =
      (s.feedLines ((Text.byteLines input).takeWhile goesOn)).2.feedLines
        ((Text.byteLines input).dropWhile goesOn) := by
    rw [run, ← feedLines_append hs fun _ h => List.mem_takeWhile_imp h,
      List.takeWhile_append_dropWhile]
  rw [hsplit]
  cases hrest : (Text.byteLines input).dropWhile goesOn with
  | nil => simp [stop?, hrest, feedLines]
  | cons line rest =>
    have hline : goesOn line = false := by
      have h := List.head?_dropWhile_not goesOn (Text.byteLines input)
      simpa [hrest] using h
    rw [feedLines_of_not_goesOn hline]
    simp [stop?, hrest]

theorem run_fresh (input : List UInt8) :
    fresh.run input =
      (if ∃ line, stop? input = some line ∧ Text.decode? line = none then .error .notUtf8
        else .ok (),
        (fresh.feedLines ((Text.byteLines input).takeWhile goesOn)).2) :=
  run_of_reporting reporting_fresh input

end Session

/-- The history of a session on any bytes is a log that can be replayed: it holds the commands that
were executed, running them on a new machine gives the same machine and the same output, and the
diagnostics are the wordings of the failures. Only a line that is not UTF-8 ends a session with an
error, and lines behind the one that ends it have no effect. -/
theorem session_log_replays (input : List UInt8) :
    ∃ s executed failures,
      Session.fresh.run input =
        (if ∃ line, Session.stop? input = some line ∧ Text.decode? line = none
          then .error .notUtf8 else .ok (), s) ∧
      s = (Session.fresh.feedLines ((Text.byteLines input).takeWhile Session.goesOn)).2 ∧
      Log Script.machine (.capture "") (Session.processed input) executed failures
        s.machine s.sink ∧
      s.machine.history.commands.reverse = executed ∧
      s.machine.history.len = executed.length ∧
      Script.machine.run executed (.capture "") = (.ok s.machine, s.sink) ∧
      s.diagnostics.received = (ScriptError.report failures).toUTF8.data.toList := by
  have hgo : ∀ line ∈ (Text.byteLines input).takeWhile Session.goesOn, Session.goesOn line :=
    fun _ h => List.mem_takeWhile_imp h
  obtain ⟨s, executed, failures, hs, hr, hlog⟩ := Session.feedLines_log Session.reporting_fresh hgo
  have hhistory : s.machine.history.commands = executed.reverse := by
    rw [hlog.history_eq, History.commands_foldl_prepend]
    exact List.append_nil _
  refine ⟨s, executed, failures, ?_, by rw [hs], hlog, by simp [hhistory],
    by simp [History.len_eq, hhistory], hlog.run_eq, ?_⟩
  · rw [Session.run_fresh, hs]
  · rw [hr.2]
    exact List.nil_append _

end StackScript
