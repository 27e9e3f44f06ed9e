import GlyphFold.Parsing.ScriptTypes

/-!
# Expressions of JavaScript and TypeScript

1. regular expressions and markup, which only the place of an operand admits
2. objects, functions, classes
3. members, calls, type arguments
4. operators and arrow functions
-/

namespace GlyphFold.Parsing.Script

variable (typed : Bool) (g : Rule → Parser)

/-! ## Regular expressions and markup -/

def regex : Parser := do
  let comments ← lexicon.blanks
  let cs ← ahead
  check (cs.head? == some '/')
  match regexTextLength? false (cs.drop 1) with
  | none => failure
  | some length =>
    let flags : Parser := do leafOf "regex_flags" (wordLength (← ahead))
    return comments ++ (← phraseOf "regex"
      [leafOf "/" 1, leafOf "regex_pattern" length, leafOf "/" 1, optional flags])

def markupName : Parser := do
  let first ← lexicon.token "identifier" markupNameLength
  let more (kind : String) (dot : String) (left : List Concrete) : Parser :=
    phraseOf kind [pure left, sym dot, lexicon.token "property_identifier" markupNameLength]
  more "jsx_namespace_name" ":" first <|> extend (more "member_expression" ".") first

/-- An expression in braces, which may be left out. -/
def markupExpression : Parser :=
  phraseOf "jsx_expression"
    [sym "\x7b",
     optional (phraseOf "spread_element" [sym "...", g .assignment] <|> g .expression),
     sym "\x7d"]

/-- A string without escapes, which may hold line breaks. -/
def markupString : Parser := do
  let comments ← lexicon.blanks
  let mark := (← ahead).headD ' '
  check (mark == '\'' || mark == '"')
  let text : Parser := do leafOf "string_fragment" ((← ahead).takeWhile (· != mark)).length
  let quote := leafOf (String.singleton mark) 1
  return comments ++ (← phraseOf "string" [quote, optional text, quote])

def markupAttribute : Parser := firstOf
  [markupExpression g,
   phraseOf "jsx_attribute"
    [do
      let name ← lexicon.token "property_identifier" markupNameLength
      phraseOf "jsx_namespace_name"
        [pure name, sym ":", lexicon.token "identifier" markupNameLength] <|> pure name,
     optional (inOrder
      [sym "=", firstOf [markupString, markupExpression g, g .markup]])]]

/-- A tag with its attributes, up to its end. -/
def openTag : Parser :=
  inOrder [lexicon.exactly "<", markupName, ifTyped typed (typeArguments g),
    many (markupAttribute g)]

def markupChildren : Parser :=
  let text : Parser := do leafOf "jsx_text" (markupTextLength (← ahead))
  let reference : Parser := do
    leafOf "html_character_reference" (characterReferenceLength (← ahead))
  many (firstOf [text, reference, markupExpression g, g .markup])

def markup : Parser :=
  let closeTag (name : Parser) : Parser := phraseOf "jsx_closing_element"
    [lexicon.exactly "</", name, lexicon.exactly ">"]
  firstOf
    [phraseOf "jsx_element"
      [phraseOf "jsx_opening_element" [lexicon.exactly "<", lexicon.exactly ">"],
       markupChildren g, closeTag nothing],
     do
      let tag ← openTag typed g
      firstOf
        [phraseOf "jsx_self_closing_element" [pure tag, lexicon.exactly "/>"],
         phraseOf "jsx_element"
          [phraseOf "jsx_opening_element" [pure tag, lexicon.exactly ">"],
           markupChildren g, closeTag markupName]]]

/-! ## Objects, functions, classes -/

def spread : Parser := phraseOf "spread_element" [sym "...", g .assignment]

def property : Parser := firstOf
  [spread g,
   phraseOf "method_definition"
    [many (modifier g ["async", "get", "set"]), optional (sym "*"), propertyName g,
     signature typed g, g .block],
   phraseOf "pair" [propertyName g, sym ":", g .assignment],
   withDefault g "object_assignment_pattern" (word "shorthand_property_identifier")]

def object : Parser :=
  phraseOf "object" [lexicon.bracketed "\x7b" "\x7d" (property typed g)]

def array : Parser := phraseOf "array" [sparse "[" "]" (spread g <|> g .assignment)]

/-- A function under the kind that it has with and without a star. -/
def function (plain generator : String) (name : Parser) : Parser := do
  let front ← inOrder [optional (inOrder [kw "async", sameLine]), kw "function"]
  let star ← optional (sym "*")
  phraseOf (if star.isEmpty then plain else generator)
    [pure (front ++ star), name, signature typed g, g .block]

/-- What follows the name of a class member: a function with or without its body, or a value. -/
def memberTail (field method : String) (front : List Concrete) : Parser := firstOf
  [phraseOf "method_definition" [pure front, optional (sym "?"), signature typed g, g .block],
   phraseOf method [pure front, optional (sym "?"), signature typed g, optional (sym ";")],
   phraseOf field
    [pure front, ifTyped typed (lexicon.symbols ["?", "!"].contains),
     ifTyped typed (typeClause g), optional (inOrder [sym "=", g .assignment]),
     optional (sym ";")]]

def classModifiers : List String :=
  if typed then
    ["static", "public", "private", "protected", "readonly", "abstract", "override", "declare",
     "accessor", "async", "get", "set"]
  else ["static", "async", "get", "set"]

def classMember : Parser := firstOf
  [sym ";",
   phraseOf "class_static_block" [kw "static", g .block],
   if typed then inOrder [optional (modifier g ["static"]), indexSignature g] else failure,
   do
    let front ← inOrder
      [many (decorator g), many (modifier g (classModifiers typed)), optional (sym "*"),
       propertyName g]
    memberTail typed g (if typed then "public_field_definition" else "field_definition")
      "method_signature" front]

def heritage : Parser :=
  phraseOf "class_heritage"
    (if typed then
      [optional (phraseOf "extends_clause"
        [kw "extends", g .operand, optional (typeArguments g)]),
       optional (phraseOf "implements_clause" [kw "implements", sepBy1 (g .type) (sym ",")])]
    else [kw "extends", g .operand])

def classOf (kind : String) (front name : Parser) : Parser :=
  phraseOf kind
    [many (decorator g), front, kw "class", name, ifTyped typed (typeParameters g),
     optional (heritage typed g),
     phraseOf "class_body" [sym "\x7b", many (classMember typed g), sym "\x7d"]]

/-- The name of a class; the words of a heritage clause are none. -/
def className : Parser :=
  lexicon.name ("implements" :: reserved) (if typed then "type_identifier" else "identifier")

/-! ## Operands -/

/-- The operator or bracket ahead tells that type arguments stand before it, as no operand could. -/
def endsTypeArguments (op : String) : Bool :=
  [")", "]", ",", ";", ":", "\x7d", ".", "?.", "?", "??", "=", "==", "===", "!=", "!==", "&&",
   "||", "&", "|", "^"].contains op

def arguments : Parser :=
  phraseOf "arguments" [lexicon.bracketed "(" ")" (spread g <|> g .assignment)]

def templateString : Parser := template "template_string" "template_substitution" (g .expression)

def memberName : Parser := privateName <|> word "property_identifier"

/-- A member or an element of an operand. -/
def member (operand : List Concrete) : Parser := firstOf
  [phraseOf "member_expression" [pure operand, sym ".", memberName],
   phraseOf "member_expression" [pure operand, sym "?.", memberName],
   phraseOf "subscript_expression"
    [pure operand, optional (sym "?."), sym "[", g .expression, sym "]"],
   if typed then phraseOf "non_null_expression" [pure operand, sameLine, sym "!"] else failure]

/-- A call of an operand, or the operand at certain types. -/
def call (operand : List Concrete) : Parser := firstOf
  [phraseOf "call_expression"
    [pure operand, optional (sym "?."), ifTyped typed (typeArguments g),
     arguments g <|> templateString g],
   if typed then do
      let instantiated ← phraseOf "instantiation_expression" [pure operand, typeArguments g]
      let next ← lexicon.nextChars
      check (next.isEmpty || endsTypeArguments (lexicon.operatorAhead next))
      return instantiated
    else failure]

def atom : Parser := firstOf
  [function typed g "function_expression" "generator_function" (optional identifier),
   identifier,
   privateName,
   lexicon.keywords ["this", "super", "true", "false", "null"].contains,
   stringLiteral,
   templateString g,
   lexicon.number "number",
   regex,
   phraseOf "parenthesized_expression" [sym "(", g .expression, sym ")"],
   array g,
   object typed g,
   classOf typed g "class" nothing (optional (className typed)),
   phraseOf "meta_property" [kw "import", sym ".", kw "meta"],
   inOrder [kw "import", succeeding (sym "(")],
   g .markup]

/-- What `new` makes an object of, and its arguments. -/
def construction (bound : Nat) : Parser :=
  match bound with
  | 0 => failure
  | bound + 1 => firstOf
    [phraseOf "meta_property" [kw "new", sym ".", kw "target"],
     do
      let start ← kw "new"
      let callee ← extend (member typed g) (← construction bound <|> atom typed g)
      let types ← ifTyped typed (typeArguments g)
      phraseOf "new_expression" [pure (start ++ callee ++ types), optional (arguments g)]]

def operand : Parser := do
  let first ← construction typed g (← get).room <|> atom typed g
  extend (fun left => member typed g left <|> call typed g left) first

/-! ## Operators -/

def unary : Parser := firstOf
  [phraseOf "unary_expression"
    [lexicon.symbols ["!", "~", "-", "+"].contains <|>
      lexicon.keywords ["typeof", "void", "delete"].contains,
     g .unary],
   phraseOf "update_expression" [lexicon.symbols ["++", "--"].contains, g .unary],
   phraseOf "await_expression" [kw "await", g .unary],
   do
    let value ← operand typed g
    phraseOf "update_expression"
      [pure value, sameLine, lexicon.symbols ["++", "--"].contains] <|> pure value]

/-- How tightly a binary operator binds. -/
def levelOf? : String → Option Nat
  | "??" => some 1
  | "||" => some 2
  | "&&" => some 3
  | "|" => some 4
  | "^" => some 5
  | "&" => some 6
  | "==" | "!=" | "===" | "!==" => some 7
  | "<" | ">" | "<=" | ">=" | "in" | "instanceof" => some 8
  | "<<" | ">>" | ">>>" => some 9
  | "+" | "-" => some 10
  | "*" | "/" | "%" => some 11
  | "**" => some 12
  | _ => none

/-- The operand behind an operator of a level; powers group to the right. -/
def rightLevel (level : Nat) : Nat := if level = 12 then 12 else level + 1

def binary (level : Nat) : Parser := do
  let first ← unary typed g
  extend (fun left => do
    let cs ← lexicon.nextChars
    let word := lexicon.wordAhead cs
    if typed && (word == "as" || word == "satisfies") then
      check (level ≤ 8)
      phraseOf (word ++ "_expression")
        [pure left, sameLine, kw word, kw "const" <|> g .type]
    else
      let op := if word.isEmpty then lexicon.operatorAhead cs else word
      match levelOf? op with
      | some n =>
        check (level ≤ n)
        phraseOf "binary_expression"
          [pure left, lexicon.exactly op, g (.binary (rightLevel n))]
      | none => failure) first

def arrowFunction : Parser :=
  let head := identifier <|> signature typed g
  let front := firstOf [inOrder [kw "async", sameLine, head], head]
  phraseOf "arrow_function" [front, sym "=>", g .block <|> g .assignment]

def yieldExpression : Parser :=
  phraseOf "yield_expression"
    [kw "yield",
     firstOf [inOrder [sym "*", g .assignment], inOrder [sameLine, g .assignment], nothing]]

mutual

/-- An expression in the place of a target of assignment. -/
def asPattern : Concrete → Concrete
  | .leaf kind range => .leaf kind range
  | .node "array" cs => .node "array_pattern" (asPatterns cs)
  | .node "object" cs => .node "object_pattern" (asPatterns cs)
  | .node "pair" cs => .node "pair_pattern" (asPatterns cs)
  | .node "spread_element" cs => .node "rest_pattern" (asPatterns cs)
  | .node kind cs => .node kind cs

def asPatterns : List Concrete → List Concrete
  | [] => []
  | c :: cs => asPattern c :: asPatterns cs

end

def isAugmentedAssignment (op : String) : Bool :=
  op.length > 1 && op.endsWith "=" && (levelOf? op).isNone

def assignment : Parser := firstOf
  [arrowFunction typed g,
   yieldExpression g,
   do
    let first ← g (.binary 0)
    firstOf
      [phraseOf "ternary_expression"
        [pure first, sym "?", g .assignment, sym ":", g .assignment],
       -- a colon that seemed to begin the result type of an arrow function
       phraseOf "ternary_expression"
        [pure first, sym "?", g (.binary 0), sym ":", g .assignment],
       phraseOf "assignment_expression" [pure (asPatterns first), sym "=", g .assignment],
       phraseOf "augmented_assignment_expression"
        [pure first, lexicon.symbols isAugmentedAssignment, g .assignment],
       pure first]]

def expression : Parser := listed "sequence_expression" (g .assignment)

end GlyphFold.Parsing.Script
