import SyntaxOutline.Plugin.Basic
import SyntaxOutline.Schema.Outline
import SyntaxOutline.Span.Conversion

/-
  The plugin for JavaScript.

  The parser itself is external: it gives names to the kinds of
  spans and hands over a tree of spans, or fails.  Which spans
  are tokens and which tokens are atomic is configured.

  Key definitions include:
    * `JavaScript.Parser`
    * `JavaScript.parse`
    * `JavaScript.classification`
    * `JavaScript.plugin`
    * `JavaScript.bundledConfig`
-/

------------------------------------------------------------
-- External Parsers
------------------------------------------------------------

namespace SyntaxOutline

namespace JavaScript

/- The names of kinds, and what parsing any source comes to. -/
structure Parser where
  names : List String := []
  outcome : Except Raised (Option SpanTree) := .ok none

/- Where the plugin writes to the log. -/
def logger : Log.Logger :=
  { name := "plugins.javascript.plugin"
    bound := [("language", .str "javascript")] }

/- A record of the plugin. -/
def record
    (level : Log.Level)
    (message : String) : Log.Record :=
  { level := level
    logger := logger.name
    message := message
    extra := logger.bound }

------------------------------------------------------------
-- Configuration
------------------------------------------------------------

/- The extensions that a configuration gives. -/
def extensions
    (config : Value) : Except Misuse Value :=
  config.getOr "file_extensions" (.strs [".js"])

/- The set of values that a configuration lists under a name. -/
def configuredSet
    (config : Value)
    (name : String) : Except Misuse (List Value) := do
  let items ← config.getOr name (.list [])
  items.elementSet

/- The value is a row of characters, or no text at all. -/
def isWhole : Value → Bool
  | .halved _ => false
  | _ => true

/- A name that is longer than all the given ones. -/
def unusedName
    (names : List String) : String :=
  String.join names ++ "?"

/-
  The value as a name.  No kind of span has a name with halves
  of characters in it, so an unused name stands for such a one.
-/
def nameable
    (names : List String) :
    Value → Value
  | .halved _ => .str (unusedName names)
  | value => value

/- The classification that a configuration gives for some names. -/
def classification
    (names : List String)
    (config : Value) : Except Plugin.Failure Classification := do
  let rules ←
    (configuredSet config "leaf_rule_names").mapError .misuse
  let symbols ←
    (configuredSet config "leaf_symbolic_names").mapError .misuse
  let identifier ←
    (config.getOr "identifier_symbolic_name" (.str "identifier")).mapError
      .misuse
  let data :=
    Value.record
      [("rule_names", .set (rules.filter isWhole)),
        ("symbolic_names", .set (symbols.filter isWhole)),
        ("identifier_symbolic_name", nameable names identifier)]
  (Schema.titled "LeafClassification"
    (Schema.classification data)).mapError .invalid

------------------------------------------------------------
-- Parsing
------------------------------------------------------------

/- What the log says when the external parser fails. -/
def failureRecords
    (path : Value)
    (cause : Raised) : List Log.Record :=
  let message := "Error parsing JavaScript file " ++ sourceName path
  ((logger.failure message cause.cause
    [("file_path", path)]).toOption).getD []

/- What the log says about a tree with errors in it. -/
def errorRecords
    (path : Value)
    (root : SpanTree) : List Log.Record :=
  if root.span.hasError then
    [record .warning
      ("JavaScript source " ++ sourceName path ++
        " contains syntax errors")]
  else []

/- The parsed source of a tree of spans. -/
def parsedSource
    (names : List String)
    (content : String)
    (tokenTypes : List Value)
    (root : SpanTree) : ParsedSource :=
  let isToken (name : String) : Bool :=
    tokenTypes.any (·.text? = some name)
  let (tree, stream) :=
    Span.convert (Text.encode content) isToken root
  ⟨tree, names, names.map some, stream⟩

/- Parse a text. -/
def parseText
    (parser : Parser)
    (config : Value)
    (content : String)
    (path : Value) :
    Logged (Except Plugin.Failure ParsedSource) :=
  match parser.outcome with
  | .error cause =>
      ⟨failureRecords path cause, .error (.parserFailed cause)⟩
  | .ok none => ⟨[], .error (.noTree (sourceName path))⟩
  | .ok (some root) =>
      let logs := errorRecords path root
      match configuredSet config "token_node_types" with
      | .error cause => ⟨logs, .error (.misuse cause)⟩
      | .ok tokenTypes =>
          let parsed :=
            parsedSource parser.names content tokenTypes root
          ⟨logs ++
            [record .debug
              ("Successfully parsed JavaScript file: " ++
                sourceName path ++ " (" ++
                toString parsed.stream.size ++ " tokens)")],
            .ok parsed⟩

/- Parse a source, which must be a text. -/
def parse
    (parser : Parser)
    (config content path : Value) :
    Logged (Except Plugin.Failure ParsedSource) :=
  match content with
  | .str text => parseText parser config text path
  | _ => .quiet (.error (.misuse .notEncodable))

------------------------------------------------------------
-- The Plugin
------------------------------------------------------------

/- The plugin of a parser and a configuration. -/
def plugin
    (parser : Parser)
    (config : Value) : Plugin where
  className := "JavaScriptPlugin"
  language := .ok (.str "javascript")
  extensions := extensions config
  tag := .ok .null
  classification := classification parser.names config
  parse := parse parser config

/- What the log says when the plugin is made. -/
def startRecord : Log.Record :=
  record .info "JavaScript plugin initialized successfully"

/- The configuration that comes with the plugin. -/
def bundledConfig : String :=
  "\n".intercalate
    ["name: javascript",
      "version: 1.0.0",
      "plugin_class: plugins.javascript.plugin:JavaScriptPlugin",
      "file_extensions:",
      "  - .js",
      "  - .mjs",
      "  - .cjs",
      "  - .jsx",
      "token_node_types:",
      "  - string",
      "  - regex",
      "leaf_rule_names:",
      "  - template_string",
      "  - array",
      "  - object",
      "leaf_symbolic_names:",
      "  - identifier",
      "  - property_identifier",
      "  - shorthand_property_identifier",
      "  - shorthand_property_identifier_pattern",
      "  - private_property_identifier",
      "  - statement_identifier",
      "  - number",
      "  - string",
      "  - regex",
      "  - \x22true\x22",
      "  - \x22false\x22",
      "  - \x22null\x22",
      "  - undefined",
      "identifier_symbolic_name: identifier",
      ""]

end JavaScript

end SyntaxOutline
