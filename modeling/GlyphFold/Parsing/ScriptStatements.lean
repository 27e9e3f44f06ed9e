import GlyphFold.Parsing.ScriptExpressions

/-!
# Statements of JavaScript and TypeScript

A semicolon at the end of a statement may be left out. A token that begins no statement stands
alone, and reading goes on behind it.
-/

namespace GlyphFold.Parsing.Script

variable (typed : Bool) (g : Rule → Parser)

def semicolon : Parser := optional (sym ";")

/-! ## Imports and exports -/

def importedName : Parser :=
  let name := word "identifier" <|> stringLiteral
  let renamed := inOrder [name, optional (inOrder [kw "as", name])]
  let typeName := inOrder [kw "type", lexicon.name ["as"] "identifier"]
  typeName.bind (fun front => inOrder [pure front, optional (inOrder [kw "as", name])]) <|> renamed

def namesIn (clause specifier : String) : Parser :=
  phraseOf clause [lexicon.bracketed "\x7b" "\x7d" (phraseOf specifier [importedName])]

def importClause : Parser :=
  let names := phraseOf "namespace_import" [sym "*", kw "as", identifier] <|>
    namesIn "named_imports" "import_specifier"
  phraseOf "import_clause"
    [firstOf [inOrder [identifier, sym ",", names], identifier, names]]

def importSource : Parser :=
  inOrder
    [stringLiteral,
     optional (phraseOf "import_attribute" [kw "with" <|> kw "assert", object false g]), semicolon]

def importStatement : Parser :=
  let clause := inOrder [importClause, kw "from", importSource g]
  let required := phraseOf "import_require_clause"
    [identifier, sym "=", kw "require", sym "(", stringLiteral, sym ")"]
  let kinds := lexicon.keywords ["type", "typeof"].contains
  firstOf
    [phraseOf "import_statement" [kw "import", importSource g],
     phraseOf "import_statement" [kw "import", if typed then kinds else failure, clause],
     phraseOf "import_statement" [kw "import", clause],
     if typed then phraseOf "import_statement" [kw "import", optional kinds, required, semicolon]
      else failure,
     if typed then phraseOf "import_alias"
        [kw "import", identifier, sym "=", g .operand, semicolon]
      else failure]

/-! ## Declarations -/

def declarator : Parser :=
  phraseOf "variable_declarator"
    [g .binding, ifTyped typed (sym "!"), ifTyped typed (typeClause g),
     optional (inOrder [sym "=", g .assignment])]

def bindings : Parser := firstOf
  [phraseOf "variable_declaration" [kw "var", sepBy1 (declarator typed g) (sym ","), semicolon],
   phraseOf "lexical_declaration"
    [kw "let" <|> kw "const", sepBy1 (declarator typed g) (sym ","), semicolon]]

/-- A function without a body. -/
def functionSignature : Parser :=
  phraseOf "function_signature"
    [optional (inOrder [kw "async", sameLine]), kw "function", optional (sym "*"), identifier,
     signature typed g, semicolon]

def typeDeclaration : Parser := firstOf
  [phraseOf "interface_declaration"
    [kw "interface", sameLine, lexicon.name reserved "type_identifier",
     optional (typeParameters g),
     optional (phraseOf "extends_type_clause" [kw "extends", sepBy1 (g .type) (sym ",")]),
     typeMembers g "interface_body"],
   phraseOf "type_alias_declaration"
    [kw "type", sameLine, lexicon.name reserved "type_identifier", optional (typeParameters g),
     sym "=", g .type, semicolon],
   phraseOf "enum_declaration"
    [optional (kw "const"), kw "enum", identifier,
     phraseOf "enum_body"
      [lexicon.bracketed "\x7b" "\x7d" (withDefault g "enum_assignment" (propertyName g))]],
   phraseOf "internal_module"
    [kw "namespace", sameLine, sepBy1 identifier (sym "."), g .block],
   phraseOf "module"
    [kw "module", sameLine, stringLiteral <|> sepBy1 identifier (sym "."), optional (g .block),
     semicolon],
   classOf typed g "abstract_class_declaration" (kw "abstract") (className typed)]

def plainDeclaration : Parser := firstOf
  [function typed g "function_declaration" "generator_function_declaration" identifier,
   if typed then functionSignature typed g else failure,
   if typed then typeDeclaration typed g else failure,
   classOf typed g "class_declaration" nothing (className typed),
   bindings typed g]

def declaration : Parser :=
  if typed then
    plainDeclaration typed g <|>
      phraseOf "ambient_declaration"
        [kw "declare", sameLine, plainDeclaration typed g <|> inOrder [kw "global", g .block]]
  else plainDeclaration typed g

def exportStatement : Parser :=
  let name := word "identifier" <|> stringLiteral
  phraseOf "export_statement"
    [many (decorator g), kw "export",
     firstOf
      [inOrder
        [ifTyped typed (kw "type"), sym "*",
         optional (phraseOf "namespace_export" [kw "as", name]), kw "from", importSource g],
       inOrder
        [ifTyped typed (kw "type"), namesIn "export_clause" "export_specifier",
         inOrder [kw "from", importSource g] <|> semicolon],
       inOrder [kw "default", declaration typed g],
       inOrder [kw "default", g .assignment, semicolon],
       declaration typed g,
       if typed then inOrder [sym "=", g .assignment, semicolon] else failure,
       if typed then inOrder [kw "as", kw "namespace", identifier, semicolon] else failure,
       if typed then importStatement typed g else failure]]

/-! ## Control -/

def condition : Parser :=
  phraseOf "parenthesized_expression" [sym "(", g .expression, sym ")"]

def forHeader : Parser :=
  let target := inOrder
      [lexicon.keywords ["var", "let", "const"].contains, g .binding] <|>
    (do return asPatterns (← g .operand))
  let clause := bindings typed g <|> inOrder [optional (g .expression), sym ";"]
  firstOf
    [phraseOf "for_in_statement"
      [kw "for", optional (kw "await"), sym "(", target,
       lexicon.keywords ["in", "of"].contains, g .expression, sym ")", g .statement],
     phraseOf "for_statement"
      [kw "for", sym "(", clause, optional (g .expression), sym ";", optional (g .expression),
       sym ")", g .statement]]

def switchStatement : Parser :=
  let body := many (g .statement)
  phraseOf "switch_statement"
    [kw "switch", condition g,
     phraseOf "switch_body"
      [sym "\x7b",
       many (phraseOf "switch_case" [kw "case", g .expression, sym ":", body] <|>
         phraseOf "switch_default" [kw "default", sym ":", body]),
       sym "\x7d"]]

def tryStatement : Parser :=
  let caught := inOrder [sym "(", g .binding, ifTyped typed (typeClause g), sym ")"]
  phraseOf "try_statement"
    [kw "try", g .block,
     optional (phraseOf "catch_clause" [kw "catch", optional caught, g .block]),
     optional (phraseOf "finally_clause" [kw "finally", g .block])]

def label : Parser := inOrder [sameLine, lexicon.name reserved "statement_identifier"]

def control : Parser := firstOf
  [phraseOf "if_statement"
    [kw "if", condition g, g .statement,
     optional (phraseOf "else_clause" [kw "else", g .statement])],
   forHeader typed g,
   phraseOf "while_statement" [kw "while", condition g, g .statement],
   phraseOf "do_statement" [kw "do", g .statement, kw "while", condition g, semicolon],
   switchStatement g,
   tryStatement typed g,
   phraseOf "with_statement" [kw "with", condition g, g .statement],
   phraseOf "break_statement" [kw "break", optional label, semicolon],
   phraseOf "continue_statement" [kw "continue", optional label, semicolon],
   phraseOf "return_statement"
    [kw "return", optional (inOrder [sameLine, g .expression]), semicolon],
   phraseOf "throw_statement" [kw "throw", g .expression, semicolon],
   phraseOf "debugger_statement" [kw "debugger", semicolon],
   phraseOf "labeled_statement"
    [lexicon.name reserved "statement_identifier", sym ":", g .statement]]

/-! ## Programs -/

/-- A comment of markup, up to the end of its line. -/
def markupComment : Parser := do
  let comments ← lexicon.blanks
  let cs ← ahead
  check ("<!--".toList.isPrefixOf cs || "-->".toList.isPrefixOf cs)
  return comments ++ (← leafOf "html_comment" (cs.takeWhile (!endsLine ·)).length)

def statement : Parser := firstOf
  [markupComment,
   phraseOf "empty_statement" [sym ";"],
   g .block,
   control typed g,
   importStatement typed g,
   exportStatement typed g,
   declaration typed g,
   phraseOf "expression_statement" [g .expression, semicolon]]

/-- Statements between braces; a token that fits none of them does not end the block. -/
def block : Parser :=
  let other : Parser := do
    check ((← lexicon.nextOperator) != "\x7d")
    lexicon.stray
  phraseOf "statement_block" [sym "\x7b", many (g .statement <|> other), sym "\x7d"]

/-- The line with which a source names its interpreter. -/
def interpreterLine : Parser := do
  let cs ← ahead
  check (['#', '!'].isPrefixOf cs)
  leafOf "hash_bang_line" (cs.takeWhile (!endsLine ·)).length

def program : Parser :=
  withLines false
    (inOrder
      [optional interpreterLine, many (g .statement <|> lexicon.stray), lexicon.blanks])

def step (typed : Bool) (g : Rule → Parser) : Rule → Parser
  | .program => program g
  | .statement => statement typed g
  | .block => block g
  | .expression => expression g
  | .assignment => assignment typed g
  | .binary level => binary typed g level
  | .unary => unary typed g
  | .operand => operand typed g
  | .markup => markup typed g
  | .binding => binding g
  | .type => type g
  | .narrowType => postfixType g

/-- The token tree of a source. -/
def tokenTree (typed : Bool) (source : String) : TokenTree :=
  Concrete.toTokenTree source "program" (parseWith (step typed) .program source)

end GlyphFold.Parsing.Script
