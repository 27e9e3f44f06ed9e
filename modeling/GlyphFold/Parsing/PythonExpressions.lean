import GlyphFold.Parsing.PythonTokens

/-!
# Expressions of Python

A chain of comparisons is one phrase. The two-word operators `not in` and `is not` are phrases of
their own inside it, so their words do not lie directly below a binary phrase.

1. string literals, with the expressions inside formatted ones
2. collections, comprehensions, calls, subscripts
3. operators, from powers up to conditional expressions
4. types and parameters
-/

namespace GlyphFold.Parsing.Python

/-- The rules that recursion goes through. -/
inductive Rule where
  | program
  | expression
  /-- An expression that is neither conditional nor a lambda. -/
  | disjunction
  | negation
  /-- Operators that bind at least as tightly as a level. -/
  | arithmetic (level : Nat)
  | unary
  /-- An expression between braces inside a string literal. -/
  | interpolation (kind : String)
  | type
  | pattern
  | simplePattern

def sym (s : String) : Parser := lexicon.symbol s

def kw (s : String) : Parser := lexicon.keyword s

def identifier : Parser := lexicon.name keywords "identifier"

/-- One item, or a phrase of several with commas between them. -/
def listed (kind : String) (item : Parser) : Parser := do
  let first ← item
  phraseOf kind [pure first, sym ",", optional (sepEndBy1 item (sym ","))] <|> pure first

mutual

/-- An expression in the place of a target of assignment. -/
def asPattern : Concrete → Concrete
  | .leaf kind range => .leaf kind range
  | .node "tuple" cs => .node "tuple_pattern" (asPatterns cs)
  | .node "list" cs => .node "list_pattern" (asPatterns cs)
  | .node "list_splat" cs => .node "list_splat_pattern" (asPatterns cs)
  | .node "expression_list" cs => .node "pattern_list" (asPatterns cs)
  | .node kind cs => .node kind cs

def asPatterns : List Concrete → List Concrete
  | [] => []
  | c :: cs => asPattern c :: asPatterns cs

end

variable (g : Rule → Parser)

/-! ## String literals -/

def formatText : Parser := do
  skip ((← ahead).takeWhile fun c => c != '\x7b' && c != '\x7d' && c != '\n').length

def formatSpecifier : Parser :=
  phraseOf "format_specifier"
    [sym ":", many (formatText <|> g (.interpolation "format_expression"))]

def conversion : Parser := lexicon.token "type_conversion" fun cs =>
  match cs with
  | '!' :: c :: _ => if c.isAlpha then 2 else 0
  | _ => 0

def splat : Parser := phraseOf "list_splat" [sym "*", g (.arithmetic 0)]

def expressionList : Parser := listed "expression_list" (splat g <|> g .expression)

def yieldExpression : Parser :=
  phraseOf "yield"
    [kw "yield", firstOf [inOrder [kw "from", g .expression], expressionList g, nothing]]

def interpolation (kind : String) : Parser :=
  phraseOf kind
    [sym "\x7b",
     withLines false (inOrder
      [yieldExpression g <|> expressionList g, optional (sym "="), optional conversion,
       optional (formatSpecifier g), sym "\x7d"])]

def stringLiteral : Parser := do
  let comments ← lexicon.blanks
  match Quoting.opened? (← ahead) with
  | none => failure
  | some (q, length) =>
    let text : Parser := do leafOf "string_content" (q.textLength (← ahead))
    let closing : Parser := do
      check (q.closing.isPrefixOf (← ahead))
      leafOf "string_end" q.closing.length
    let literal ← phraseOf "string"
      [leafOf "string_start" length, many (text <|> g (.interpolation "interpolation")), closing]
    return comments ++ literal

/-- Neighbouring literals are one string. -/
def strings : Parser := do
  let first ← stringLiteral g
  let more ← many (stringLiteral g)
  return if more.isEmpty then first else Concrete.phrase "concatenated_string" (first ++ more)

/-! ## Collections, calls and subscripts -/

/-- A target of assignment or of a loop. -/
def targets : Parser := do
  return asPatterns (← listed "expression_list" (splat g <|> g (.arithmetic 0)))

def comprehensionClause : Parser := firstOf
  [phraseOf "for_in_clause"
    [optional (kw "async"), kw "for", targets g, kw "in", g .disjunction],
   phraseOf "if_clause" [kw "if", g .disjunction]]

/-- Items in brackets, or one item with the clauses of a comprehension. The kind depends on the
first item, on the items behind it, and on whether there are clauses. -/
def enclosed (opening closing : String) (item : Parser)
    (kind : (first more : List Concrete) → (comprehension : Bool) → String) : Parser := do
  let start ← sym opening
  withLines false do
    let first ← optional item
    let clauses ← if first.isEmpty then nothing else many (comprehensionClause g)
    let more ← if clauses.isEmpty && !first.isEmpty then
        optional (inOrder [sym ",", optional (sepEndBy1 item (sym ","))])
      else nothing
    let stop ← sym closing
    return Concrete.phrase (kind first more !clauses.isEmpty)
      (start ++ first ++ clauses ++ more ++ stop)

def element : Parser := firstOf [splat g, yieldExpression g, g .expression]

def parenthesized : Parser := enclosed g "(" ")" (element g) fun first more comprehension =>
  if comprehension then "generator_expression"
  else if first.isEmpty || !more.isEmpty then "tuple"
  else "parenthesized_expression"

def listDisplay : Parser := enclosed g "[" "]" (element g) fun _ _ comprehension =>
  if comprehension then "list_comprehension" else "list"

def entry : Parser := firstOf
  [phraseOf "dictionary_splat" [sym "**", g (.arithmetic 0)],
   splat g,
   do
    let key ← g .expression
    phraseOf "pair" [pure key, sym ":", g .expression] <|> pure key]

/-- Whether the first item makes a collection in braces a dictionary. -/
def beginsDictionary : List Concrete → Bool
  | .node kind _ :: rest =>
    kind == "pair" || kind == "dictionary_splat" || (kind == "comment" && beginsDictionary rest)
  | .leaf "comment" _ :: rest => beginsDictionary rest
  | .leaf _ _ :: _ => false
  | [] => true

def braced : Parser := enclosed g "\x7b" "\x7d" (entry g) fun first _ comprehension =>
  (if beginsDictionary first then "dictionary" else "set") ++
    if comprehension then "_comprehension" else ""

def argument : Parser := firstOf
  [splat g, phraseOf "dictionary_splat" [sym "**", g .expression],
   phraseOf "keyword_argument" [identifier, sym "=", g .expression],
   g .expression]

def arguments : Parser := enclosed g "(" ")" (argument g) fun _ _ comprehension =>
  if comprehension then "generator_expression" else "argument_list"

/-- An index, or bounds with colons between them. -/
def index : Parser := do
  let start ← optional (g .expression)
  let bound := inOrder [sym ":", optional (g .expression)]
  phraseOf "slice" [pure start, bound, optional bound] <|>
    (do check !start.isEmpty; return start)

def trailer (operand : List Concrete) : Parser := firstOf
  [phraseOf "attribute" [pure operand, sym ".", identifier],
   phraseOf "call" [pure operand, arguments g],
   phraseOf "subscript" [pure operand, lexicon.bracketed "[" "]" (splat g <|> index g)]]

def atom : Parser := firstOf
  [strings g,
   lexicon.number "number",
   identifier,
   do
    let kind := (← lexicon.nextWord).toLower
    check (["true", "false", "none"].contains kind)
    lexicon.token kind wordLength,
   sym "...",
   parenthesized g,
   listDisplay g,
   braced g]

def primary : Parser := do extend (trailer g) (← atom g)

/-! ## Operators -/

/-- A power binds tighter than a sign on its left and looser than one on its right. -/
def power : Parser := do
  let base ← primary g
  phraseOf "binary_operator" [pure base, sym "**", g .unary] <|> pure base

def unary : Parser := firstOf
  [phraseOf "unary_operator" [lexicon.symbols ["-", "+", "~"].contains, g .unary],
   phraseOf "await" [kw "await", power g],
   power g]

/-- How tightly a binary operator binds. -/
def levelOf? : String → Option Nat
  | "|" => some 1
  | "&" => some 2
  | "^" => some 3
  | "<<" | ">>" => some 4
  | "+" | "-" => some 5
  | "*" | "/" | "//" | "%" | "@" => some 6
  | _ => none

def arithmetic (level : Nat) : Parser := do
  let first ← unary g
  extend (fun left => do
    match levelOf? (← lexicon.nextOperator) with
    | some n =>
      check (level ≤ n)
      phraseOf "binary_operator"
        [pure left, lexicon.symbols fun _ => true, g (.arithmetic (n + 1))]
    | none => failure) first

def comparator : Parser := firstOf
  [lexicon.symbols ["<", "<=", "==", "!=", ">=", ">", "<>"].contains,
   kw "in",
   phraseOf "not in" [kw "not", kw "in"],
   phraseOf "is not" [kw "is", kw "not"],
   kw "is"]

def comparison : Parser := do
  let first ← g (.arithmetic 0)
  let more ← many (inOrder [comparator, g (.arithmetic 0)])
  return if more.isEmpty then first else Concrete.phrase "comparison_operator" (first ++ more)

def negation : Parser :=
  phraseOf "not_operator" [kw "not", g .negation] <|> comparison g

/-- Operands with a word between them, grouped to the left. -/
def joined (word : String) (operand : Parser) : Parser := do
  extend (fun left => phraseOf "boolean_operator" [pure left, kw word, operand]) (← operand)

def disjunction : Parser := joined "or" (joined "and" (g .negation))

/-! ## Types and parameters -/

/-- A type in brackets, which may have a bound. -/
def typeParameter : Parser := firstOf
  [phraseOf "splat_type" [sym "**", identifier],
   do
    let first ← g .type
    phraseOf "constrained_type" [pure first, sym ":", g .type] <|> pure first]

def typeParameters : Parser :=
  phraseOf "type_parameter" [lexicon.bracketed "[" "]" (typeParameter g)]

/-- A generic type with its members and the alternatives behind it, or any expression. -/
def typeBody : Parser :=
  (do
    let generic ← phraseOf "generic_type" [identifier, typeParameters g]
    check !(["[", "("].contains (← lexicon.nextOperator))
    extend (fun left => firstOf
      [phraseOf "union_type" [pure left, sym "|", g .type],
       phraseOf "member_type" [pure left, sym ".", identifier]]) generic) <|>
  firstOf [phraseOf "splat_type" [sym "*", identifier], g .expression]

def typeClause : Parser := phraseOf "type" [typeBody g]

/-- A parameter; those of a lambda have no types. -/
def parameter (typed : Bool) : Parser := firstOf
  [phraseOf "positional_separator" [sym "/"],
   do
    let target ← firstOf
      [phraseOf "list_splat_pattern" [sym "*", identifier],
       phraseOf "dictionary_splat_pattern" [sym "**", identifier],
       phraseOf "keyword_separator" [sym "*"],
       identifier,
       do return asPatterns (← parenthesized g)]
    let annotation ← if typed then optional (inOrder [sym ":", g .type]) else nothing
    let default ← optional (inOrder [sym "=", g .expression])
    let all := target ++ annotation ++ default
    return match annotation.isEmpty, default.isEmpty with
    | true, true => all
    | true, false => Concrete.phrase "default_parameter" all
    | false, true => Concrete.phrase "typed_parameter" all
    | false, false => Concrete.phrase "typed_default_parameter" all]

def lambda : Parser :=
  phraseOf "lambda"
    [kw "lambda",
     optional (phraseOf "lambda_parameters" [sepEndBy1 (parameter g false) (sym ",")]),
     sym ":", g .expression]

def expression : Parser := lambda g <|> do
  let first ← g .disjunction
  firstOf
    [phraseOf "named_expression" [pure first, sym ":=", g .expression],
     phraseOf "conditional_expression"
      [pure first, kw "if", g .disjunction, kw "else", g .expression],
     pure first]

end GlyphFold.Parsing.Python
