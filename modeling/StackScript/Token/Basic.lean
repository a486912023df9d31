import StackScript.Token.Kind
import StackScript.Value.Parse

/-!
# Tokens

A token is a piece of source text with its kind, and the place where it was found unless it was
made by hand. The place takes no part in equality. A literal token denotes a value.
-/

namespace StackScript

/-- A place in a source text; rows and columns count from one. -/
structure Position where
  row : Nat
  column : Nat
deriving DecidableEq, Repr

namespace Position

/-- The place of the first character. -/
def start : Position := ⟨1, 1⟩

/-- The place behind a character. -/
def advance (p : Position) (c : Char) : Position :=
  if c = '\n' then ⟨p.row + 1, 1⟩ else ⟨p.row, p.column + 1⟩

/-- The place behind a piece of text. -/
def after (p : Position) (cs : List Char) : Position :=
  cs.foldl advance p

/-- Row and column with a colon between them. -/
def display (p : Position) : String :=
  toString p.row ++ ":" ++ toString p.column

end Position

/-- A classified piece of source text. -/
structure Token where
  kind : TokenKind
  text : String
  position : Option Position := none
deriving Repr

namespace Token

instance : BEq Token :=
  ⟨fun a b => a.kind == b.kind && a.text == b.text⟩

instance : Hashable Token :=
  ⟨fun t => mixHash (hash t.kind) (hash t.text)⟩

/-- The token of a kind that has only one text. -/
def ofKind? (kind : TokenKind) : Option Token :=
  kind.fixedText?.map fun text => { kind, text }

/-- The token has the given kind. -/
def hasKind (t : Token) (kind : TokenKind) : Bool :=
  t.kind = kind

/-- The characters between a double quote at the start and one at the end. -/
def unquoted? : List Char → Option (List Char)
  | '"' :: cs => if cs.getLast? = some '"' then some cs.dropLast else none
  | _ => none

/-- The value that a literal token denotes: the text between its quotes, or the number. -/
def literalValue? (t : Token) : Option Value :=
  if t.kind = .literal then
    some <| match unquoted? t.text.toList with
      | some inner => .text (String.ofList inner)
      | none => Value.parse t.text
  else none

/-- Kind and text of a token. -/
def display (t : Token) : String :=
  "Token( " ++ t.kind.name ++ " value='" ++ t.text ++ "' )"

end Token

end StackScript
