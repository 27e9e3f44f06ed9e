import GlyphFold.Parsing.PythonExpressions

/-!
# Statements of Python

Blocks are flat: the header of a compound statement is a phrase, and the statements of its block
follow it. Indentation therefore plays no part. A token that begins no statement stands alone, and
reading goes on behind it.
-/

namespace GlyphFold.Parsing.Python

variable (g : Rule → Parser)

/-! ## Imports -/

def dottedName : Parser := phraseOf "dotted_name" [sepBy1 identifier (sym ".")]

def importedName : Parser := do
  let name ← dottedName
  phraseOf "aliased_import" [pure name, kw "as", identifier] <|> pure name

def importedNames : Parser := firstOf
  [phraseOf "wildcard_import" [sym "*"],
   lexicon.bracketed "(" ")" importedName,
   sepEndBy1 importedName (sym ",")]

/-- The module of a relative import, behind its dots. -/
def relativeModule : Parser :=
  let dot := lexicon.exactly "."
  phraseOf "relative_import" [phraseOf "import_prefix" [dot, many dot], optional dottedName]

def importStatement : Parser := firstOf
  [phraseOf "import_statement" [kw "import", sepBy1 importedName (sym ",")],
   phraseOf "import_from_statement"
    [kw "from", relativeModule <|> dottedName, kw "import", importedNames]]

/-! ## Simple statements -/

/-- Assignments, and expressions that stand alone. -/
def expressionStatement : Parser := do
  let first ← yieldExpression g <|> expressionList g
  let value := yieldExpression g <|> expressionList g
  let assigned := many (inOrder [sym "=", value])
  let augmented := lexicon.symbols fun op => op.length > 1 && op.endsWith "=" &&
    !(["==", "!=", "<=", ">=", ":="].contains op)
  firstOf
    [phraseOf "assignment"
      [pure first, sym ":", g .type, optional (inOrder [sym "=", value])],
     phraseOf "assignment" [pure (asPatterns first), sym "=", value, assigned],
     phraseOf "augmented_assignment" [pure first, augmented, value],
     pure (Concrete.phrase "expression_statement" first)]

/-- Output to a given file, and code run in given scopes. -/
def commandStatement : Parser := firstOf
  [phraseOf "print_statement"
    [kw "print", phraseOf "chevron" [sym ">>", g .expression],
     many (inOrder [sym ",", g .expression]), optional (sym ",")],
   phraseOf "exec_statement"
    [kw "exec", strings g <|> identifier,
     optional (inOrder [kw "in", sepEndBy1 (g .expression) (sym ",")])]]

def simpleStatement : Parser := firstOf
  [importStatement,
   commandStatement g,
   phraseOf "pass_statement" [kw "pass"],
   phraseOf "break_statement" [kw "break"],
   phraseOf "continue_statement" [kw "continue"],
   phraseOf "return_statement" [kw "return", optional (expressionList g)],
   phraseOf "raise_statement"
    [kw "raise", optional (expressionList g), optional (inOrder [kw "from", g .expression])],
   phraseOf "delete_statement" [kw "del", expressionList g],
   phraseOf "assert_statement" [kw "assert", sepBy1 (g .expression) (sym ",")],
   phraseOf "global_statement" [kw "global", sepBy1 identifier (sym ",")],
   phraseOf "nonlocal_statement" [kw "nonlocal", sepBy1 identifier (sym ",")],
   phraseOf "type_alias_statement"
    [kw "type", succeeding identifier, g .type, sym "=", g .type],
   expressionStatement g]

/-! ## Patterns -/

def signedNumber : Parser := inOrder [optional (sym "-"), lexicon.number "number"]

def numberPattern : Parser := do
  let real ← signedNumber
  phraseOf "complex_pattern"
    [pure real, lexicon.symbols ["+", "-"].contains, lexicon.number "number"] <|> pure real

def splatPattern (stars : String) : Parser := phraseOf "splat_pattern" [sym stars, identifier]

def keywordPattern : Parser :=
  phraseOf "case_pattern" [phraseOf "keyword_pattern" [identifier, sym "=", g .simplePattern]]

/-- A name, or a class with patterns for its parts. -/
def namePattern : Parser := do
  let name ← dottedName
  phraseOf "class_pattern"
    [pure name, lexicon.bracketed "(" ")" (keywordPattern g <|> g .pattern)] <|> pure name

def entryPattern : Parser := firstOf
  [splatPattern "**",
   inOrder [g .simplePattern, sym ":", g .pattern]]

def closedPattern : Parser := firstOf
  [splatPattern "*",
   strings g,
   numberPattern,
   namePattern g,
   phraseOf "tuple_pattern" [lexicon.bracketed "(" ")" (g .pattern)],
   phraseOf "list_pattern" [lexicon.bracketed "[" "]" (g .pattern)],
   phraseOf "dict_pattern" [lexicon.bracketed "\x7b" "\x7d" (entryPattern g)],
   lexicon.keywords ["None", "True", "False"].contains]

/-- Alternatives. -/
def simplePattern : Parser := do
  let first ← closedPattern g
  let more ← many (inOrder [sym "|", closedPattern g])
  return if more.isEmpty then first else Concrete.phrase "union_pattern" (first ++ more)

def pattern : Parser := do
  let first ← simplePattern g
  let named := phraseOf "as_pattern"
    [pure (Concrete.phrase "case_pattern" first), kw "as", identifier]
  return Concrete.phrase "case_pattern" (← named <|> pure first)

/-! ## Headers of compound statements -/

/-- An expression with a name for its value. -/
def asTarget (value : Parser) : Parser := do
  let first ← value
  phraseOf "as_pattern"
    [pure first, kw "as", phraseOf "as_pattern_target" [g (.arithmetic 0)]] <|> pure first

/-- Items in brackets may be one expression in brackets as well; the colon behind tells. -/
def withItems : Parser :=
  let item := phraseOf "with_item" [asTarget g (g .expression)]
  firstOf
    [phraseOf "with_clause" [lexicon.bracketed "(" ")" item, sym ":"],
     phraseOf "with_clause" [sepBy1 item (sym ","), sym ":"]]

def definition : Parser := firstOf
  [phraseOf "function_definition"
    [optional (kw "async"), kw "def", identifier, optional (typeParameters g),
     phraseOf "parameters" [lexicon.bracketed "(" ")" (parameter g true)],
     optional (inOrder [sym "->", g .type]), sym ":"],
   phraseOf "class_definition"
    [kw "class", identifier, optional (typeParameters g), optional (arguments g), sym ":"],
   phraseOf "decorator" [sym "@", g .expression]]

def exceptHeader : Parser :=
  let caught := listed "expression_list" (asTarget g (g .expression))
  firstOf
    [phraseOf "except_group_clause" [lexicon.exactly "except*", caught, sym ":"],
     phraseOf "except_clause" [kw "except", optional caught, sym ":"]]

def compoundHeader : Parser := firstOf
  [phraseOf "if_statement" [kw "if", g .expression, sym ":"],
   phraseOf "elif_clause" [kw "elif", g .expression, sym ":"],
   phraseOf "else_clause" [kw "else", sym ":"],
   phraseOf "while_statement" [kw "while", g .expression, sym ":"],
   phraseOf "for_statement"
    [optional (kw "async"), kw "for", targets g, kw "in", expressionList g, sym ":"],
   phraseOf "try_statement" [kw "try", sym ":"],
   exceptHeader g,
   phraseOf "finally_clause" [kw "finally", sym ":"],
   phraseOf "with_statement" [optional (kw "async"), kw "with", withItems g],
   definition g,
   phraseOf "match_statement" [kw "match", sepEndBy1 (g .expression) (sym ","), sym ":"],
   phraseOf "case_clause"
    [kw "case", sepEndBy1 (g .pattern) (sym ","),
     optional (phraseOf "if_clause" [kw "if", g .expression]), sym ":"]]

/-! ## Programs -/

/-- Line ends and semicolons between statements. -/
def separator : Parser := withLines false lexicon.blanks

def program : Parser :=
  many (inOrder
    [separator, firstOf [sym ";", compoundHeader g, simpleStatement g, lexicon.stray]])

def step (g : Rule → Parser) : Rule → Parser
  | .program => inOrder [program g, separator]
  | .expression => expression g
  | .disjunction => disjunction g
  | .negation => negation g
  | .arithmetic level => arithmetic g level
  | .unary => unary g
  | .interpolation kind => interpolation g kind
  | .type => typeClause g
  | .pattern => pattern g
  | .simplePattern => simplePattern g

/-- The token tree of a source. -/
def tokenTree (source : String) : TokenTree :=
  Concrete.toTokenTree source "module" (parseWith step .program source)

end GlyphFold.Parsing.Python
