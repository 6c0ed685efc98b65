import SyntaxOutline.Collapse
import SyntaxOutline.Files.Route

/-
  Settings: what is atomic, how the end of the input reads,
  which channel is hidden, and where plugins are.

  Key definitions include:
    * `Settings`
    * `Settings.classification`
    * `Settings.policy`
-/

------------------------------------------------------------
-- Defaults
------------------------------------------------------------

namespace SyntaxOutline

/- Rules that are atomic unless settings say otherwise. -/
def defaultRuleNames : List String :=
  ["identifier", "literal", "arrayLiteral", "objectLiteral",
    "templateStringLiteral", "numericLiteral", "bigintLiteral"]

/- Token types that are atomic unless settings say otherwise. -/
def defaultSymbolNames : List String :=
  ["RegularExpressionLiteral", "NullLiteral", "BooleanLiteral",
    "DecimalLiteral", "HexIntegerLiteral", "OctalIntegerLiteral",
    "OctalIntegerLiteral2", "BinaryIntegerLiteral",
    "BigHexIntegerLiteral", "BigOctalIntegerLiteral",
    "BigBinaryIntegerLiteral", "BigDecimalIntegerLiteral",
    "Identifier", "StringLiteral"]

------------------------------------------------------------
-- Settings
------------------------------------------------------------

/- All settings, with their defaults. -/
structure Settings where
  ruleNames : List String := defaultRuleNames
  symbolNames : List String := defaultSymbolNames
  identifierName : String := "Identifier"
  endText : String := "<EOF>"
  hiddenChannel : Int := Token.hiddenChannel
  pluginsDir : Option Route := none
  deriving DecidableEq, Repr, Inhabited

namespace Settings

/- The classification that settings describe. -/
def classification
    (s : Settings) : Classification :=
  ⟨s.ruleNames, s.symbolNames, s.identifierName⟩

/- The policy that settings describe for a classification. -/
def policy
    (s : Settings)
    (c : Classification) : Collapse.Policy :=
  ⟨c, some s.endText, some s.hiddenChannel⟩

end Settings

end SyntaxOutline
