import Std.Data.TreeMap
import StackScript.Text.Outline
import StackScript.Text.Quoted

/-!
# Hooks

A hook is a named body that a machine can call, with the number of arguments it takes. Three
bodies are built in; the bodies of a host form a type `ε` of its own, about which nothing is
assumed here. A table holds one hook for a name: the one registered last. Names are listed in
ascending order of their code points, which is also that of their UTF-8 bytes.
-/

namespace StackScript

/-- How many arguments a hook takes. -/
inductive Arity where
  | fixed (n : Nat)
  | variadic
deriving DecidableEq, Repr

namespace Arity

/-- The hook takes this many arguments. -/
def accepts : Arity → Nat → Bool
  | .fixed n, count => n = count
  | .variadic, _ => true

/-- The number of arguments in words. -/
def display : Arity → String
  | .fixed n => toString n
  | .variadic => "any number of"

/-- The number of arguments in an outline. -/
def outline : Arity → Text.Outline
  | .fixed n => .wrap "Fixed" (.atom (toString n))
  | .variadic => .atom "Variadic"

end Arity

/-- What a hook does: one of the built-in bodies, or one of the host. -/
inductive Body (ε : Type) where
  | print
  | println
  | throw
  | host (body : ε)

/-- A body under a name. -/
structure Hook (ε : Type) where
  name : String
  arity : Arity
  body : Body ε

/-- Name and arity of a hook; the body is not shown. -/
def Hook.outline {ε : Type} (h : Hook ε) : Text.Outline :=
  .record "Hook"
    [.field "name" (.atom (Text.quote h.name)), .field "arity" h.arity.outline] false

/-- The hooks of a machine by name. -/
structure HookTable (ε : Type) where
  byName : Std.TreeMap String (Hook ε) := ∅

namespace HookTable

variable {ε : Type}

/-- The table without hooks. -/
def empty : HookTable ε := {}

/-- The table with a hook added, in place of one with the same name. -/
def register (t : HookTable ε) (name : String) (arity : Arity) (body : Body ε) : HookTable ε :=
  ⟨t.byName.insert name ⟨name, arity, body⟩⟩

/-- The table with the built-in hooks added. -/
def registerBuiltins (t : HookTable ε) : HookTable ε :=
  ((t.register "print" .variadic .print).register "println" .variadic .println).register
    "throw" .variadic .throw

/-- The hook with the given name. -/
def get? (t : HookTable ε) (name : String) : Option (Hook ε) :=
  t.byName[name]?

theorem get?_empty (name : String) : (empty : HookTable ε).get? name = none := by
  simp [empty, get?]

/-- A table gives the hook registered last under a name. -/
theorem get?_register (t : HookTable ε) (name : String) (arity : Arity) (body : Body ε)
    (key : String) :
    (t.register name arity body).get? key =
      if name = key then some ⟨name, arity, body⟩ else t.get? key := by
  simp only [register, get?, Std.TreeMap.getElem?_insert, Std.LawfulEqCmp.compare_eq_iff_eq]

/-- There is a hook with the given name. -/
def contains (t : HookTable ε) (name : String) : Bool :=
  t.byName.contains name

/-- The names of all hooks, collected and put in ascending order. -/
def names (t : HookTable ε) : List String :=
  t.byName.keys.mergeSort

/-- The number of hooks. -/
def size (t : HookTable ε) : Nat :=
  t.byName.size

/-- There is no hook. -/
def isEmpty (t : HookTable ε) : Bool :=
  t.byName.isEmpty

/-- The set of names of a table. -/
def outline (t : HookTable ε) : Text.Outline :=
  .set (t.names.map fun name => .atom (Text.quote name))

end HookTable

end StackScript
