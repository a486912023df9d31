import Mathlib.Data.List.Induction
import Mathlib.Data.List.Nodup
import Mathlib.Logic.Function.Basic
import StackScript.Machine.Step
import StackScript.Proofs.Text.ByteOrder

/-!
# Tables of hooks

A table is filled by registrations, each of a single hook or of all built-in ones. Seen through
`HookTable.get?` it is a function from names to hooks, and a registration updates this function at one
name. All that can be asked of a table follows from that.

* `HookTable.get?_eq_some_iff`: a name has the hook that was registered last under it;
* `HookTable.pairwise_names`: the names are listed in the order of their bytes;
* `HookTable.get?_of_perm`: registrations of different names can change places;
* `hook_table_is_last_writer_wins`: all of this for any registrations, also of a machine.
-/

namespace StackScript

/-- One call that fills a table: it registers a hook, or all built-in hooks. -/
inductive Registration (ε : Type) where
  | hook (name : String) (arity : Arity) (body : Body ε)
  | builtins

namespace Registration

variable {ε : Type}

/-- The hooks that a registration brings, in their order. -/
def hooks : Registration ε → List (Hook ε)
  | .hook name arity body => [⟨name, arity, body⟩]
  | .builtins =>
    [⟨"print", .variadic, .print⟩, ⟨"println", .variadic, .println⟩, ⟨"throw", .variadic, .throw⟩]

/-- The hooks that registrations bring, in their order. -/
def registered (rs : List (Registration ε)) : List (Hook ε) :=
  rs.flatMap hooks

/-- The table after a registration. -/
def onTable (t : HookTable ε) : Registration ε → HookTable ε
  | .hook name arity body => t.register name arity body
  | .builtins => t.registerBuiltins

/-- The machine after a registration. -/
def onMachine (m : Machine ε) : Registration ε → Machine ε
  | .hook name arity body => m.register name arity body
  | .builtins => m.withBuiltins

/-- The table that registrations lead to from the empty one. -/
def table (rs : List (Registration ε)) : HookTable ε :=
  rs.foldl onTable .empty

end Registration

/-- The hook is the last with its name. -/
def Hook.IsLast {ε : Type} (h : Hook ε) (hs : List (Hook ε)) : Prop :=
  ∃ before after, hs = before ++ h :: after ∧ ∀ later ∈ after, later.name ≠ h.name

theorem Hook.isLast_concat {ε : Type} {h d : Hook ε} {hs : List (Hook ε)} :
    h.IsLast (hs ++ [d]) ↔ h = d ∨ d.name ≠ h.name ∧ h.IsLast hs := by
  constructor
  · rintro ⟨before, after, heq, hlater⟩
    rcases after.eq_nil_or_concat with rfl | ⟨after, last, rfl⟩
    · obtain ⟨-, hd⟩ := List.append_inj' heq rfl
      exact .inl (List.cons.inj hd).1.symm
    · rw [List.concat_eq_append, ← List.cons_append, ← List.append_assoc] at heq
      obtain ⟨hhs, hd⟩ := List.append_inj' heq rfl
      obtain rfl := (List.cons.inj hd).1
      exact .inr ⟨hlater d (by simp), before, after, hhs, fun later hl => hlater later (by simp [hl])⟩
  · rintro (rfl | ⟨hne, before, after, rfl, hlater⟩)
    · exact ⟨hs, [], rfl, by simp⟩
    · refine ⟨before, after ++ [d], by simp, fun later hl => ?_⟩
      rcases List.mem_append.1 hl with hl | hl
      · exact hlater later hl
      · rwa [List.mem_singleton.1 hl]

namespace HookTable

variable {ε : Type}

/-- The table with one more hook. -/
def add (t : HookTable ε) (h : Hook ε) : HookTable ε :=
  t.register h.name h.arity h.body

theorem get?_add (t : HookTable ε) (h : Hook ε) : (t.add h).get? = Function.update t.get? h.name (some h) := by
  funext name
  rw [add, get?_register, Function.update_apply]
  exact if_congr eq_comm rfl rfl

theorem onTable_eq_foldl (t : HookTable ε) (r : Registration ε) : r.onTable t = r.hooks.foldl add t := by
  cases r <;> rfl

/-- Registrations add the hooks that they bring, one by one. -/
theorem foldl_onTable (t : HookTable ε) (rs : List (Registration ε)) :
    rs.foldl Registration.onTable t = (Registration.registered rs).foldl add t := by
  rw [Registration.registered, List.foldl_flatMap]
  congr
  funext t r
  exact onTable_eq_foldl t r

/-! ## Hooks by name -/

/-- The last hook decides about its name, and about no other. -/
theorem get?_foldl_concat (t : HookTable ε) (hs : List (Hook ε)) (d : Hook ε) (name : String) :
    ((hs ++ [d]).foldl add t).get? name =
      if name = d.name then some d else (hs.foldl add t).get? name := by
  rw [List.foldl_append, List.foldl_cons, List.foldl_nil, get?_add, Function.update_apply]

/-- A name has the hook that was added last under it. -/
theorem get?_eq_some_iff {hs : List (Hook ε)} {name : String} {h : Hook ε} :
    (hs.foldl add .empty).get? name = some h ↔ h.name = name ∧ h.IsLast hs := by
  -- from the back, since the last hook with a name is the one that counts
  induction hs using List.reverseRecOn with
  | nil =>
    rw [List.foldl_nil, get?_empty]
    simp [Hook.IsLast]
  | append_singleton hs d ih =>
    rw [get?_foldl_concat, Hook.isLast_concat]
    by_cases hd : name = d.name
    · subst hd
      rw [if_pos rfl, Option.some.injEq]
      constructor
      · rintro rfl
        exact ⟨rfl, .inl rfl⟩
      · rintro ⟨hname, rfl | ⟨hne, -⟩⟩
        · rfl
        · exact absurd hname.symm hne
    · rw [if_neg hd, ih]
      constructor
      · rintro ⟨rfl, hlast⟩
        exact ⟨rfl, .inr ⟨Ne.symm hd, hlast⟩⟩
      · rintro ⟨rfl, rfl | ⟨-, hlast⟩⟩
        · exact absurd rfl hd
        · exact ⟨rfl, hlast⟩

theorem get?_eq_none_iff {hs : List (Hook ε)} {name : String} :
    (hs.foldl add .empty).get? name = none ↔ ∀ h ∈ hs, h.name ≠ name := by
  induction hs using List.reverseRecOn with
  | nil => simp [get?_empty]
  | append_singleton hs d ih =>
    rw [get?_foldl_concat, List.forall_mem_append, List.forall_mem_singleton, ← ih]
    by_cases hd : name = d.name
    · simp [hd]
    · simp [hd, Ne.symm hd]

theorem get?_foldl_add (hs : List (Hook ε)) (t : HookTable ε) :
    (hs.foldl add t).get? = hs.foldl (fun (f : String → Option (Hook ε)) h =>
      Function.update f h.name (some h)) t.get? := by
  induction hs generalizing t with
  | nil => rfl
  | cons h hs ih => rw [List.foldl_cons, List.foldl_cons, ih, get?_add]

/-- Hooks with different names can be added in any order. -/
theorem get?_of_perm {hs hs' : List (Hook ε)} (hperm : hs.Perm hs') (hnames : (hs.map Hook.name).Nodup)
    (t : HookTable ε) : (hs.foldl add t).get? = (hs'.foldl add t).get? := by
  rw [get?_foldl_add, get?_foldl_add]
  refine hperm.foldl_eq' (fun h hh k hk f => ?_) _
  by_cases hname : h.name = k.name
  · rw [List.inj_on_of_nodup_map hnames hh hk hname]
  · exact Function.update_comm hname _ _ f

/-- Registrations of different names can change places, whatever was registered before and after. -/
theorem get?_table_of_perm (before after : List (Registration ε)) {block block' : List (Registration ε)}
    (hperm : (Registration.registered block).Perm (Registration.registered block'))
    (hnames : ((Registration.registered block).map Hook.name).Nodup) :
    (Registration.table (before ++ block' ++ after)).get? =
      (Registration.table (before ++ block ++ after)).get? := by
  simp only [Registration.table, List.foldl_append, foldl_onTable]
  rw [get?_foldl_add, ← get?_of_perm hperm hnames, ← get?_foldl_add]

/-! ## The listing -/

theorem contains_eq_isSome_get? (t : HookTable ε) (name : String) :
    t.contains name = (t.get? name).isSome :=
  Std.TreeMap.contains_eq_isSome_getElem?

theorem mem_names_iff {t : HookTable ε} {name : String} : name ∈ t.names ↔ t.get? name ≠ none := by
  rw [names, List.mem_mergeSort, Std.TreeMap.mem_keys, Std.TreeMap.mem_iff_isSome_getElem?,
    Option.isSome_iff_ne_none]
  rfl

theorem length_names (t : HookTable ε) : t.names.length = t.size := by
  rw [names, List.length_mergeSort]
  exact Std.TreeMap.length_keys

theorem nodup_names (t : HookTable ε) : t.names.Nodup :=
  (List.mergeSort_perm t.byName.keys _).nodup_iff.2 Std.TreeMap.nodup_keys

/-- Whatever the order in which the names are collected, they are sorted. -/
theorem pairwise_le_names (t : HookTable ε) : t.names.Pairwise fun a b => a ≤ b := by
  have htrans (a b c : String) (hab : decide (a ≤ b) = true) (hbc : decide (b ≤ c) = true) :
      decide (a ≤ c) = true :=
    decide_eq_true (String.le_trans (of_decide_eq_true hab) (of_decide_eq_true hbc))
  have htotal (a b : String) : (decide (a ≤ b) || decide (b ≤ a)) = true := by
    simpa using String.le_total a b
  refine (List.pairwise_mergeSort htrans htotal t.byName.keys).imp fun {a b} hab => ?_
  exact of_decide_eq_true hab

/-- The names are listed in the order of their bytes, and none is listed twice. -/
theorem pairwise_names (t : HookTable ε) :
    t.names.Pairwise fun a b => a.toUTF8.data.toList < b.toUTF8.data.toList := by
  refine (t.pairwise_le_names.and t.nodup_names).imp fun {a b} ⟨hle, hne⟩ => ?_
  have hlt : a < b := String.not_le.1 fun hge => hne (String.le_antisymm hle hge)
  rw [Text.toList_toUTF8, Text.toList_toUTF8]
  exact Text.encode_lt_encode hlt

/-- What is asked of a table depends on the hooks by name alone: two sorted listings of the same names
are equal. -/
theorem listing_congr {t t' : HookTable ε} (h : t.get? = t'.get?) : t.names = t'.names ∧ t.size = t'.size := by
  have hmem (name : String) : name ∈ t.names ↔ name ∈ t'.names := by
    rw [mem_names_iff, mem_names_iff, h]
  have hperm := (List.perm_ext_iff_of_nodup t.nodup_names t'.nodup_names).2 hmem
  have hnames : t.names = t'.names :=
    hperm.eq_of_pairwise (fun _ _ _ _ => String.le_antisymm) t.pairwise_le_names t'.pairwise_le_names
  exact ⟨hnames, by rw [← length_names, hnames, length_names]⟩

end HookTable

namespace Machine

variable {ε : Type} {m : Machine ε} {name : String}

theorem hook_eq_ok_iff {h : Hook ε} : m.hook name = .ok h ↔ m.hooks.get? name = some h := by
  unfold Machine.hook
  cases m.hooks.get? name <;> simp

theorem hook_eq_error_iff {e : MachineError} :
    m.hook name = .error e ↔ m.hooks.get? name = none ∧ e = .unknownHook name := by
  unfold Machine.hook
  cases m.hooks.get? name <;> simp [eq_comm]

theorem hooks_foldl_onMachine (m : Machine ε) (rs : List (Registration ε)) :
    (rs.foldl Registration.onMachine m).hooks = rs.foldl Registration.onTable m.hooks := by
  induction rs generalizing m with
  | nil => rfl
  | cons r rs ih =>
    rw [List.foldl_cons, List.foldl_cons, ih]
    cases r <;> rfl

end Machine

/-- A table of hooks is a map in which the last writer wins, with a listing that does not depend on how it was
filled. After any registrations a name has the hook that was registered last under it, with this name, and
a look-up fails, as that of an unknown hook, exactly if nothing was registered under the name; whether a
name is contained agrees with that. The listing holds the registered names, in strictly ascending order of
their bytes, and its length is the size of the table. Hooks with different names that are registered one
after the other can be registered in any other order. A machine without hooks that makes the same
registrations looks up hooks in this table. -/
theorem hook_table_is_last_writer_wins {ε : Type} (rs : List (Registration ε)) :
    let t := Registration.table rs
    (∀ name h, t.get? name = some h ↔ h.name = name ∧ h.IsLast (Registration.registered rs)) ∧
    (∀ name, t.contains name = (t.get? name).isSome) ∧
    t.names.Pairwise (fun a b => a.toUTF8.data.toList < b.toUTF8.data.toList) ∧
    (∀ name, name ∈ t.names ↔ ∃ h ∈ Registration.registered rs, h.name = name) ∧
    t.size = t.names.length ∧
    (∀ m : Machine ε, m.hooks = .empty → ∀ name,
      (∀ h, (rs.foldl Registration.onMachine m).hook name = .ok h ↔ t.get? name = some h) ∧
      ∀ e, (rs.foldl Registration.onMachine m).hook name = .error e ↔
        (∀ h ∈ Registration.registered rs, h.name ≠ name) ∧ e = .unknownHook name) ∧
    ∀ before block block' after, rs = before ++ block ++ after →
      (Registration.registered block).Perm (Registration.registered block') →
      ((Registration.registered block).map Hook.name).Nodup →
      let t' := Registration.table (before ++ block' ++ after)
      (∀ name, t'.get? name = t.get? name ∧ t'.contains name = t.contains name) ∧
        t'.names = t.names ∧ t'.size = t.size := by
  intro t
  have ht : t = (Registration.registered rs).foldl .add .empty := HookTable.foldl_onTable .empty rs
  refine ⟨fun name h => ?_, t.contains_eq_isSome_get?, t.pairwise_names, fun name => ?_, ?_,
    fun m hm name => ⟨fun h => ?_, fun e => ?_⟩, fun before block block' after hrs hperm hnames => ?_⟩
  · rw [ht, HookTable.get?_eq_some_iff]
  · rw [HookTable.mem_names_iff, ht, ne_eq, HookTable.get?_eq_none_iff]
    simp
  · exact t.length_names.symm
  · rw [Machine.hook_eq_ok_iff, Machine.hooks_foldl_onMachine, hm]
    rfl
  · rw [Machine.hook_eq_error_iff, Machine.hooks_foldl_onMachine, hm, HookTable.foldl_onTable,
      HookTable.get?_eq_none_iff]
  · intro t'
    have hget : t'.get? = t.get? := by
      rw [show t = Registration.table (before ++ block ++ after) from congrArg Registration.table hrs]
      exact HookTable.get?_table_of_perm before after hperm hnames
    obtain ⟨hlist, hsize⟩ := HookTable.listing_congr hget
    refine ⟨fun name => ⟨congrFun hget name, ?_⟩, hlist, hsize⟩
    rw [t'.contains_eq_isSome_get?, t.contains_eq_isSome_get?, hget]

/-- A built-in hook that replaces one of the host, and one of the host that replaces a built-in hook; a
third hook of the host is registered before or after the built-in ones. -/
theorem hook_table_is_last_writer_wins_replaced :
    let early : Registration Empty := .hook "print" (.fixed 1) .throw
    let other : Registration Empty := .hook "é" (.fixed 2) .println
    let late : Registration Empty := .hook "throw" (.fixed 0) .print
    let t := Registration.table [early, .builtins, other, late]
    t.get? "print" = some ⟨"print", .variadic, .print⟩ ∧ t.get? "throw" = some ⟨"throw", .fixed 0, .print⟩ ∧
      (Registration.table [early, other, .builtins, late]).names = t.names := by
  intro early other late t
  obtain ⟨hget, -, -, -, -, -, hperm⟩ := hook_table_is_last_writer_wins [early, .builtins, other, late]
  refine ⟨(hget _ _).2 ⟨rfl, Registration.hooks early, _, rfl, ?_⟩,
    (hget _ _).2 ⟨rfl, Registration.registered [early, .builtins, other], [], rfl, ?_⟩,
    (hperm [early] [.builtins, other] [other, .builtins] [late] rfl ?_ ?_).2.1⟩
  · simp [Registration.hooks, other, late]
  · simp
  · exact (List.perm_append_comm :
      (Registration.hooks .builtins ++ Registration.hooks other).Perm (Registration.hooks other ++ _))
  · decide

end StackScript
