import GlyphFold.Parsing.ScriptTokens

/-!
# Literals, bindings and types of JavaScript and TypeScript

What expressions and statements share: string and template literals, names of properties, the
patterns that bind names, parameters, and the types of TypeScript. The vertical bar and the
ampersand between types make no binary phrase.
-/

namespace GlyphFold.Parsing.Script

/-- The rules that recursion goes through. -/
inductive Rule where
  | program
  | statement
  | block
  /-- Expressions with commas between them. -/
  | expression
  /-- One expression. -/
  | assignment
  /-- Binary operators that bind at least as tightly as a level. -/
  | binary (level : Nat)
  | unary
  /-- An operand with its members, calls and subscripts. -/
  | operand
  | markup
  | binding
  | type
  /-- A type without operators between types. -/
  | narrowType

def sym (s : String) : Parser := lexicon.symbol s

def kw (s : String) : Parser := lexicon.keyword s

def identifier : Parser := lexicon.name reserved "identifier"

/-- Any word, under a kind of name that has no reserved words. -/
def word (kind : String) : Parser := lexicon.name [] kind

/-- The next token stands on the same line. -/
def sameLine : Parser := do
  let here ← get
  let _ ← withLines true lexicon.blanks
  check !((← ahead).head?.any endsLine)
  set here
  return []

/-- One item, or a phrase of several with commas between them. -/
def listed (kind : String) (item : Parser) : Parser := do
  let first ← item
  phraseOf kind [pure first, sym ",", sepBy1 item (sym ",")] <|> pure first

/-- Items between brackets, any of which may be missing. -/
def sparse (opening closing : String) (item : Parser) : Parser :=
  inOrder [sym opening, many (sym "," <|> item), sym closing]

variable (typed : Bool) (g : Rule → Parser)

/-! ## Literals and names of properties -/

def stringLiteral : Parser := do
  let comments ← lexicon.blanks
  let mark := (← ahead).headD ' '
  check (mark == '\'' || mark == '"')
  let quote : Parser := do
    check ((← ahead).head? == some mark)
    leafOf (String.singleton mark) 1
  let text : Parser := do leafOf "string_fragment" (stringTextLength mark (← ahead))
  return comments ++ (← phraseOf "string" [quote, optional text, quote])

/-- Text between backquotes, with phrases in braces inside. -/
def template (kind substitution : String) (inner : Parser) : Parser :=
  let text : Parser := do leafOf "string_fragment" (templateTextLength (← ahead))
  let closing : Parser := do
    check ((← ahead).head? == some '\x60')
    leafOf "\x60" 1
  phraseOf kind
    [lexicon.exactly "\x60",
     many (text <|> phraseOf substitution [lexicon.exactly "$\x7b", inner, sym "\x7d"]),
     closing]

def privateName : Parser := lexicon.token "private_property_identifier" fun cs =>
  match cs with
  | '#' :: rest => if 0 < wordLength rest then 1 + wordLength rest else 0
  | _ => 0

def propertyName : Parser := firstOf
  [stringLiteral, lexicon.number "number", privateName, word "property_identifier",
   phraseOf "computed_property_name" [sym "[", g .assignment, sym "]"]]

/-! ## Bindings -/

/-- A pattern with a value for when there is none. -/
def withDefault (kind : String) (target : Parser) : Parser := do
  let first ← target
  phraseOf kind [pure first, sym "=", g .assignment] <|> pure first

def restPattern : Parser := phraseOf "rest_pattern" [sym "...", g .binding]

def bindingProperty : Parser := firstOf
  [restPattern g,
   phraseOf "pair_pattern" [propertyName g, sym ":", withDefault g "assignment_pattern" (g .binding)],
   withDefault g "object_assignment_pattern" (word "shorthand_property_identifier_pattern")]

def binding : Parser := firstOf
  [identifier,
   phraseOf "array_pattern"
    [sparse "[" "]" (restPattern g <|> withDefault g "assignment_pattern" (g .binding))],
   phraseOf "object_pattern" [lexicon.bracketed "\x7b" "\x7d" (bindingProperty g)]]

/-! ## Types -/

/-- The end of type arguments, also where an operator seems to begin. -/
def closingAngle : Parser := lexicon.exactly ">"

def typeArguments : Parser :=
  phraseOf "type_arguments" [sym "<", sepEndBy1 (g .type) (sym ","), closingAngle]

def typeParameter : Parser :=
  phraseOf "type_parameter"
    [optional (kw "const"), word "type_identifier",
     optional (phraseOf "constraint" [kw "extends", g .type]),
     optional (phraseOf "default_type" [sym "=", g .type])]

def typeParameters : Parser :=
  phraseOf "type_parameters" [sym "<", sepEndBy1 (typeParameter g) (sym ","), closingAngle]

def typeClause : Parser := phraseOf "type_annotation" [sym ":", g .type]

/-- A part that only TypeScript has. -/
def ifTyped (p : Parser) : Parser := if typed then optional p else nothing

/-- What a function returns, or what it tells about an argument. -/
def returnType : Parser :=
  let predicate := phraseOf "type_predicate" [identifier <|> kw "this", kw "is", g .type]
  firstOf
    [phraseOf "asserts_annotation"
      [sym ":", phraseOf "asserts" [kw "asserts", predicate <|> identifier <|> kw "this"]],
     phraseOf "type_predicate_annotation" [sym ":", predicate],
     typeClause g]

/-- A modifier, which another name must follow. -/
def modifier (words : List String) : Parser :=
  let marked : Parser := firstOf [sym "[", propertyName g, sym "*", sym "\x7b"]
  inOrder [lexicon.keywords words.contains, sameLine, succeeding marked]

def decorator : Parser := phraseOf "decorator" [sym "@", g .operand]

def parameter : Parser :=
  if typed then do
    let front ← inOrder
      [many (decorator g),
       many (modifier g ["public", "private", "protected", "override", "readonly"]),
       firstOf [restPattern g, g .binding, kw "this"]]
    let mark ← optional (sym "?")
    phraseOf (if mark.isEmpty then "required_parameter" else "optional_parameter")
      [pure (front ++ mark), optional (typeClause g),
       optional (inOrder [sym "=", g .assignment])]
  else restPattern g <|> withDefault g "assignment_pattern" (g .binding)

def parameters : Parser :=
  phraseOf "formal_parameters" [lexicon.bracketed "(" ")" (parameter typed g)]

/-- The parameters and the result of a function. -/
def signature : Parser :=
  inOrder [ifTyped typed (typeParameters g), parameters typed g, ifTyped typed (returnType g)]

/-- The mark in front of the type of a mapped property, which keeps, adds or removes an optional
property; it is one token with its colon. -/
def propertyTypeMark : Parser :=
  firstOf [lexicon.exactly "-?:", lexicon.exactly "+?:", lexicon.exactly "?:", sym ":"]

def indexSignature : Parser :=
  phraseOf "index_signature"
    [optional (lexicon.symbols ["-", "+"].contains), optional (modifier g ["readonly"]), sym "[",
     firstOf
      [phraseOf "mapped_type_clause"
        [word "type_identifier", kw "in", g .type, optional (inOrder [kw "as", g .type])],
       inOrder [identifier, sym ":", g .type]],
     sym "]", optional (phraseOf "type_annotation" [propertyTypeMark, g .type])]

def typeMember : Parser := firstOf
  [indexSignature g,
   phraseOf "construct_signature" [kw "new", signature true g],
   phraseOf "call_signature" [signature true g],
   phraseOf "method_signature"
    [optional (modifier g ["get", "set"]), propertyName g, optional (sym "?"), signature true g],
   phraseOf "property_signature"
    [optional (modifier g ["readonly"]), propertyName g, optional (sym "?"),
     optional (typeClause g)]]

def typeMembers (kind : String) : Parser :=
  phraseOf kind
    [sym "\x7b", many (lexicon.symbols [",", ";"].contains <|> typeMember g), sym "\x7d"]

def predefinedType : Parser := phraseOf "predefined_type"
  [lexicon.keywords
    ["any", "number", "boolean", "string", "symbol", "void", "unknown", "never", "object"].contains]

/-- A module in the place of a namespace. -/
def importedModule : Parser := phraseOf "call_expression"
  [kw "import", phraseOf "arguments" [sym "(", stringLiteral, sym ")"]]

/-- A name with the namespaces in front of it and the arguments behind it. -/
def namedType : Parser := do
  let first ← importedModule <|> identifier
  let name ← extend (fun left => phraseOf "nested_type_identifier"
    [pure left, sym ".", word "type_identifier"]) first
  phraseOf "generic_type" [pure name, typeArguments g] <|> pure name

/-- The value whose type is asked for. -/
def queried : Parser := do
  let first ← firstOf [importedModule, identifier, kw "this"]
  let name ← extend (fun left => phraseOf "member_expression"
    [pure left, sym ".", privateName <|> word "property_identifier"]) first
  phraseOf "instantiation_expression" [pure name, typeArguments g] <|> pure name

def tupleMember : Parser := firstOf
  [do
    let name := phraseOf "rest_pattern" [sym "...", word "identifier"] <|> word "identifier"
    let first ← inOrder [name, optional (sym "?")]
    phraseOf "required_parameter" [pure first, typeClause g],
   phraseOf "rest_type" [sym "...", g .type],
   do
    let first ← g .type
    phraseOf "optional_type" [pure first, sym "?"] <|> pure first]

def functionType : Parser := firstOf
  [phraseOf "constructor_type"
    [optional (kw "abstract"), kw "new", optional (typeParameters g), parameters true g, sym "=>",
     g .type],
   phraseOf "function_type"
    [optional (typeParameters g), parameters true g, sym "=>", g .type]]

def primaryType : Parser := firstOf
  [phraseOf "predefined_type" [phraseOf "unique symbol" [kw "unique", kw "symbol"]],
   phraseOf "index_type_query" [kw "keyof", g .narrowType],
   phraseOf "readonly_type" [kw "readonly", g .narrowType],
   phraseOf "infer_type" [kw "infer", word "type_identifier", optional (inOrder [kw "extends", g .narrowType])],
   phraseOf "type_query" [kw "typeof", queried g],
   predefinedType,
   phraseOf "literal_type"
    [firstOf
      [stringLiteral, lexicon.number "number",
       phraseOf "unary_expression" [sym "-", lexicon.number "number"],
       lexicon.keywords ["true", "false", "null", "undefined"].contains]],
   kw "this",
   template "template_literal_type" "template_type" (g .type),
   phraseOf "parenthesized_type" [sym "(", g .type, sym ")"],
   phraseOf "tuple_type" [lexicon.bracketed "[" "]" (tupleMember g)],
   typeMembers g "object_type",
   namedType g]

/-- A type with the brackets behind it. -/
def postfixType : Parser := do
  extend (fun left => firstOf
    [phraseOf "array_type" [pure left, sameLine, sym "[", sym "]"],
     phraseOf "lookup_type" [pure left, sameLine, sym "[", g .type, sym "]"]]) (← primaryType g)

/-- Types with an operator between them and perhaps in front of the first. -/
def joinedType (kind operator : String) (part : Parser) : Parser := do
  let front ← optional (sym operator)
  let first ← part
  let left := if front.isEmpty then first else Concrete.phrase kind (front ++ first)
  extend (fun left => phraseOf kind [pure left, sym operator, part]) left

def type : Parser := functionType g <|> do
  let first ← joinedType "union_type" "|" (joinedType "intersection_type" "&" (postfixType g))
  phraseOf "conditional_type"
    [pure first, sameLine, kw "extends", g .type, sym "?", g .type, sym ":", g .type] <|> pure first

end GlyphFold.Parsing.Script
