import SyntaxOutline.Plugin.JavaScript
import SyntaxOutline.Plugin.Registry

/-
  The plugins that come along.

  Key definitions include:
    * `Bundled.files`
    * `Bundled.catalog`
    * `Bundled.javaScript`
-/

------------------------------------------------------------
-- Files
------------------------------------------------------------

namespace SyntaxOutline

namespace Bundled

/- Where the configuration of a bundled plugin lies. -/
def javaScriptDirectory
    (home : Route) : Route :=
  home.child "javascript"

/- The files of the bundled plugins, below their home. -/
def files
    (home : Route)
    (tree : FileTree) : FileTree :=
  tree.write ((javaScriptDirectory home).child Registry.configName)
    JavaScript.bundledConfig

------------------------------------------------------------
-- Classes
------------------------------------------------------------

/- A class of plugins whose configuration decides everything. -/
def classOf
    (make : (config : Value) → Plugin)
    (logs : List Log.Record := []) : Catalog.Entry :=
  .plugin fun config => ⟨logs, .ok (make config)⟩

/- A class of plugins that cannot be made. -/
def failing
    (kind : Raised.Kind)
    (message : String) : Catalog.Entry :=
  .plugin fun _ => .quiet (.error (.notBuilt kind message))

/- The class that all plugins extend; it takes no configuration. -/
def baseClass : Catalog.Entry :=
  failing .type "GrammarPlugin() takes no arguments"

/- A module with some classes of plugins and some other names. -/
def moduleOf
    (name : String)
    (isPackage : Bool)
    (classes : List (String × Catalog.Entry))
    (others : List String) : Catalog.Module :=
  ⟨name, isPackage,
    classes ++ others.map fun other => (other, .other)⟩

/- The modules that come along, for a parser of JavaScript. -/
def catalog
    (parser : JavaScript.Parser) : Catalog :=
  let javaScript :=
    classOf (JavaScript.plugin parser) [JavaScript.startRecord]
  [moduleOf "plugins" true [("GrammarPlugin", baseClass)]
      ["ParseError", "PluginManager", "base", "manager", "javascript"],
    moduleOf "plugins.base" false [("GrammarPlugin", baseClass)]
      ["ParseError", "LeafClassification", "ParsedSource"],
    moduleOf "plugins.manager" false [("GrammarPlugin", baseClass)]
      ["PluginManager"],
    moduleOf "plugins.javascript" true [("JavaScriptPlugin", javaScript)]
      ["plugin"],
    moduleOf "plugins.javascript.plugin" false
      [("JavaScriptPlugin", javaScript), ("GrammarPlugin", baseClass)]
      ["ParseError", "PluginManager", "LeafClassification",
        "ParsedSource"]]

------------------------------------------------------------
-- Making The JavaScript Plugin
------------------------------------------------------------

/- The plugin for JavaScript with the configuration given to it. -/
def javaScriptWith
    (parser : JavaScript.Parser)
    (config : Value) : Logged Plugin :=
  ⟨[JavaScript.startRecord], JavaScript.plugin parser config⟩

/-
  The plugin for JavaScript.  Without a configuration it reads
  the one that comes along.
-/
def javaScript
    (parser : JavaScript.Parser)
    (home : Route) :
    (config : Value) →
      Logged (Except Registry.LoadFailure Plugin)
  | .null =>
      let loaded :=
        Registry.empty.load (.ofCatalog []) (files home .empty)
          (javaScriptDirectory home)
      match loaded.result with
      | .error failure => ⟨loaded.logs, .error failure⟩
      | .ok config =>
          ((javaScriptWith parser config).map .ok).after loaded.logs
  | config => (javaScriptWith parser config).map .ok

end Bundled

end SyntaxOutline
