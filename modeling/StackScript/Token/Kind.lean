/-!
# Kinds of tokens

The kinds, their names, and the two tables of texts known in advance: symbols and keywords, each
with a kind of its own, and the names of types, which share one. A text is looked up without a walk
through the tables.
-/

namespace StackScript

/-- The kind of a token. -/
inductive TokenKind where
  | function
  | identifier
  | literal
  | parenOpen
  | parenClose
  | comma
  | typeName
  | braceOpen
  | braceClose
  | forKeyword
  | equals
  | plus
  | minus
  | multiply
  | divide
  | semicolon
  | lessThan
  | greaterThan
  | returnKeyword
  | mutKeyword
deriving DecidableEq, Repr, Hashable

namespace TokenKind

/-- All kinds. -/
def all : List TokenKind :=
  [.function, .identifier, .literal, .parenOpen, .parenClose, .comma, .typeName, .braceOpen,
   .braceClose, .forKeyword, .equals, .plus, .minus, .multiply, .divide, .semicolon, .lessThan,
   .greaterThan, .returnKeyword, .mutKeyword]

/-- The name of a kind. -/
def name : TokenKind → String
  | .function => "FUNCTION"
  | .identifier => "IDENTIFIER"
  | .literal => "LITERAL"
  | .parenOpen => "PAREN_OPEN"
  | .parenClose => "PAREN_CLOSE"
  | .comma => "COMMA"
  | .typeName => "TYPE"
  | .braceOpen => "BRACE_OPEN"
  | .braceClose => "BRACE_CLOSE"
  | .forKeyword => "FOR"
  | .equals => "EQUALS"
  | .plus => "PLUS"
  | .minus => "MINUS"
  | .multiply => "MULTIPLY"
  | .divide => "DIVIDE"
  | .semicolon => "SEMICOLON"
  | .lessThan => "LESS_THAN"
  | .greaterThan => "GREATER_THAN"
  | .returnKeyword => "RETURN"
  | .mutKeyword => "MUT"

/-- The kind with the given name. -/
def ofName? (name : String) : Option TokenKind :=
  all.find? fun kind => kind.name == name

/-- The symbols and keywords. -/
def fixedTexts : List (String × TokenKind) :=
  [("fn", .function), ("(", .parenOpen), (")", .parenClose), (",", .comma),
   ("\x7b", .braceOpen), ("\x7d", .braceClose), ("for", .forKeyword), ("=", .equals),
   ("+", .plus), ("-", .minus), ("*", .multiply), ("/", .divide), (";", .semicolon),
   ("<", .lessThan), (">", .greaterThan), ("return", .returnKeyword), ("mut", .mutKeyword)]

/-- The names of the built-in types. -/
def typeNames : List String :=
  ["mono", "int", "float", "bool", "string"]

/-- The kind of a text that is a symbol, a keyword or the name of a type. -/
def lookup? : String → Option TokenKind
  | "fn" => some .function
  | "(" => some .parenOpen
  | ")" => some .parenClose
  | "," => some .comma
  | "\x7b" => some .braceOpen
  | "\x7d" => some .braceClose
  | "for" => some .forKeyword
  | "=" => some .equals
  | "+" => some .plus
  | "-" => some .minus
  | "*" => some .multiply
  | "/" => some .divide
  | ";" => some .semicolon
  | "<" => some .lessThan
  | ">" => some .greaterThan
  | "return" => some .returnKeyword
  | "mut" => some .mutKeyword
  | "mono" | "int" | "float" | "bool" | "string" => some .typeName
  | _ => none

/-- The text of a kind that has only one. -/
def fixedText? (kind : TokenKind) : Option String :=
  (fixedTexts.find? fun entry => entry.2 = kind).map (·.1)

end TokenKind

end StackScript
