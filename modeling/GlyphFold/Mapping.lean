import GlyphFold.Text.CodePoints

/-!
# Mappings and their conditions

A mapping is one replacement rule: the exact text of a token and the glyph shown in its place. Its
condition says when it may fold: always, as an operand or operator of a binary expression, or when a
named predicate of the host says so. `ofText` reads the names that mapping documents use, an older
one included; `text` writes the current name.
-/

namespace GlyphFold

inductive Condition where
  | always
  | parentIsBinary
  | custom (name : String)
  deriving DecidableEq, Repr

namespace Condition

/-- The condition a name stands for; blanks around the name do not count. -/
def ofText (name : String) : Condition :=
  match Text.trim name with
  | "" | "none" | "NONE" => always
  | "parent_is_binary_expression" | "PARENT_IS_BINARY_EXPRESSION" | "PY_BINARY_EXP" =>
    parentIsBinary
  | other => custom other

/-- The name of a condition. -/
def text : Condition → String
  | always => "none"
  | parentIsBinary => "parent_is_binary_expression"
  | custom name => name

@[simp] theorem ofText_empty : ofText "" = always := by decide +kernel

@[simp] theorem ofText_text_always : ofText always.text = always := by decide +kernel

@[simp] theorem ofText_text_parentIsBinary : ofText parentIsBinary.text = parentIsBinary := by
  decide +kernel

end Condition

structure Mapping where
  /-- The token's text. -/
  source : String := ""
  /-- What is shown instead. -/
  glyph : String := ""
  /-- The group it is listed under; empty for none. -/
  category : String := ""
  condition : Condition := .always
  deriving DecidableEq, Repr, Inhabited

end GlyphFold
