/-!
# Languages and their node kinds

The languages whose sources fold, how files and settings name them, and which kinds of syntax nodes
are pieces of string literals or binary expressions.
-/

namespace GlyphFold

inductive Language where
  | python
  | javascript
  | typescript
  deriving DecidableEq, Repr

namespace Language

/-- Lower case. The names below are ASCII, and no other letter has one of theirs as its lower case,
so mapping the ASCII letters is enough to compare with them. -/
def lowercase (s : String) : String := String.ofList (s.toList.map Char.toLower)

/-- The language of a file extension. -/
def ofExtension? (extension : String) : Option Language :=
  match lowercase extension with
  | "py" | "pyi" => some python
  | "js" | "mjs" | "cjs" | "jsx" => some javascript
  | "ts" | "mts" | "cts" | "tsx" => some typescript
  | _ => none

/-- The language of a name in a project file. -/
def ofName? (name : String) : Option Language :=
  match lowercase name with
  | "python" | "py" => some python
  | "javascript" | "js" => some javascript
  | "typescript" | "ts" => some typescript
  | _ => none

def name : Language → String
  | python => "python"
  | javascript => "javascript"
  | typescript => "typescript"

@[simp] theorem ofName?_name (l : Language) : ofName? l.name = some l := by
  cases l <;> decide +kernel

end Language

/-- What a resolver asks about node kinds. -/
structure Grammar where
  /-- The kind is a string literal or a piece of one. -/
  isStringLiteral : String → Bool
  /-- The kind is a binary expression. -/
  isBinaryExpression : String → Bool

namespace Language

def stringKinds : Language → List String
  | python =>
    ["string", "concatenated_string", "string_start", "string_content", "string_end",
     "escape_sequence"]
  | javascript | typescript =>
    ["string", "string_fragment", "template_string", "escape_sequence", "regex", "regex_pattern",
     "jsx_text"]

def binaryKinds : Language → List String
  | python => ["binary_operator", "boolean_operator", "comparison_operator"]
  | javascript | typescript => ["binary_expression"]

def grammar (l : Language) : Grammar where
  isStringLiteral kind := l.stringKinds.contains kind
  isBinaryExpression kind := l.binaryKinds.contains kind

end Language

end GlyphFold
