import GlyphFold.Table

/-!
# The built-in table

Comparison signs, the arrow, `lambda`, the power operator where it is one, and the Greek letters.
-/

namespace GlyphFold

/-- The lower-case Greek letters that have a spelled-out name in source code. -/
def greekLetters : List (String × String) :=
  [("alpha", "α"), ("beta", "β"), ("gamma", "γ"), ("delta", "δ"), ("epsilon", "ε"), ("zeta", "ζ"),
   ("eta", "η"), ("theta", "θ"), ("iota", "ι"), ("kappa", "κ"), ("mu", "μ"), ("nu", "ν"),
   ("xi", "ξ"), ("omicron", "ο"), ("pi", "π"), ("rho", "ρ"), ("sigma", "σ"), ("tau", "τ"),
   ("upsilon", "υ"), ("phi", "φ"), ("chi", "χ"), ("psi", "ψ"), ("omega", "ω")]

def builtinMappings : List Mapping :=
  [{ source := ">=", glyph := "≥", category := "Comparison" },
   { source := "<=", glyph := "≤", category := "Comparison" },
   { source := "!=", glyph := "≠", category := "Comparison" },
   { source := "->", glyph := "➔", category := "Arrow" },
   { source := "lambda", glyph := "λ", category := "Keyword" },
   { source := "**", glyph := "^", category := "Operator", condition := .parentIsBinary }] ++
  greekLetters.map fun (name, letter) =>
    { source := name, glyph := letter, category := "Greek Letters" }

namespace Table

def builtin : Table := ofMappings builtinMappings

/-- Mappings in the order of their sources. -/
def sorted (ms : List Mapping) : List Mapping := ms.mergeSort (·.source ≤ ·.source)

/-- The table holds the built-in mappings, in whatever order. -/
def isBuiltin (t : Table) : Bool :=
  t.all.length == builtinMappings.length && sorted t.all == sorted builtinMappings

end Table

end GlyphFold
