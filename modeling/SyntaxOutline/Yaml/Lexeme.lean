/-
  The lexemes of a YAML document.

  Blocks that are shown by indentation alone are opened and
  closed by lexemes of their own, so the grammar need not look
  at columns.  The text of a scalar is kept by code points.

  Key definitions include:
    * `Yaml.Lexeme`
-/

------------------------------------------------------------
-- Lexemes
------------------------------------------------------------

namespace SyntaxOutline

namespace Yaml

/- A lexeme. -/
inductive Lexeme where
  | streamEnd
  | versionDirective (major : Nat)
  | tagDirective (handle start : String)
  | otherDirective
  | documentStart
  | documentEnd
  | blockSequenceStart
  | blockMappingStart
  | blockEnd
  | flowSequenceStart
  | flowSequenceEnd
  | flowMappingStart
  | flowMappingEnd
  | blockEntry
  | flowEntry
  | key
  | value
  | reference (name : String)
  | anchor (name : String)
  | tag (handle : Option String) (suffix : String)
  | scalar (text : List Nat) (plain : Bool)
  deriving DecidableEq, Repr, Inhabited

namespace Lexeme

/- The lexeme is a directive. -/
def isDirective : Lexeme → Bool
  | .versionDirective _ => true
  | .tagDirective _ _ => true
  | .otherDirective => true
  | _ => false

end Lexeme

end Yaml

end SyntaxOutline
