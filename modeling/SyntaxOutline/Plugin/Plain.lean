import SyntaxOutline.Plugin.Basic
import SyntaxOutline.Schema.Outline
import SyntaxOutline.Schema.Source

/-
  Plugins that are given by data alone.

  A configured plugin takes its name, extensions and tag from
  its configuration and sees an empty tree in every source.  A
  prepared plugin hands over the tree it was given, whatever the
  source, or fails as it was told to.

  Key definitions include:
    * `Plugin.configured`
    * `Plugin.fixed`
    * `Plugin.Prepared`
    * `Plugin.prepared`
-/

------------------------------------------------------------
-- Configured Plugins
------------------------------------------------------------

namespace SyntaxOutline

namespace Plugin

/- What an empty source is parsed to. -/
def emptySource : ParsedSource :=
  ⟨⟨some 0, []⟩, ["program"], [none], ⟨[]⟩⟩

/- A plugin with fixed answers that sees only empty trees. -/
def plain
    (className : String)
    (language extensions tag : Except Misuse Value) : Plugin where
  className := className
  language := language
  extensions := extensions
  tag := tag
  classification := .ok {}
  parse := fun _ _ => .quiet (.ok emptySource)

/- The plugin that a configuration describes. -/
def configured
    (config : Value) : Plugin :=
  let config := config.orEmpty
  plain "ConfigPlugin"
    (config.getOr "name" (.str "stub"))
    (config.getOr "file_extensions" (.strs [".stub"]))
    (config.getOr "tag" .null)

/- A plugin that heeds no configuration but for its tag. -/
def fixed
    (config : Value) : Plugin :=
  plain "FixedPlugin" (.ok (.str "fixed"))
    (.ok (.strs [".fixed", ".fx"]))
    (config.orEmpty.getOr "tag" .null)

------------------------------------------------------------
-- Prepared Plugins
------------------------------------------------------------

/- What a prepared plugin answers. -/
structure Prepared where
  language : Value
  extensions : Value
  tag : Value
  parsed : Value
  classification : Value
  raises : Option Raised

/- The parsed source that data describes: tree, tokens, whole. -/
def parsedOf
    (data : Value) : Except Schema.Rejection ParsedSource := do
  let _ ← (Schema.titled "RuleNode"
    (Schema.rule ((data.field? "tree").getD .null))).mapError .invalid
  let stream ←
    Schema.streamOf ((data.field? "tokens").getD (.list []))
  (Schema.titled "ParsedSource"
    (Schema.parsedSource (some stream) data)).mapError .invalid

/- What a plugin reports when data is refused. -/
def refused : Schema.Rejection → Failure
  | .invalid cause => .invalid cause
  | .misuse cause => .misuse cause

/- A plugin that answers as it was told to. -/
def prepared
    (p : Prepared) : Plugin where
  className := "TreePlugin"
  language := .ok p.language
  extensions := .ok p.extensions
  tag := .ok p.tag
  classification :=
    (Schema.titled "LeafClassification"
      (Schema.classification p.classification)).mapError .invalid
  parse := fun _ _ =>
    .quiet <|
      match p.raises with
      | some cause => .error (.raised cause)
      | none => (parsedOf p.parsed).mapError refused

end Plugin

end SyntaxOutline
