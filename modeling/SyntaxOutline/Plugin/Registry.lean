import SyntaxOutline.Files.FileTree
import SyntaxOutline.Plugin.Catalog
import SyntaxOutline.Text.Lines
import SyntaxOutline.Yaml.Document

/-
  The registry of plugins.

  Plugins are registered under their language, and their
  extensions lead to the language.  A later registration takes
  over the language and the extensions it names.  Configurations
  are read once for each path.  An operation that fails leaves
  the registry as far as it had come, and returns it.

  Key definitions include:
    * `Registry`
    * `Registry.register`
    * `Registry.pluginFor?`
    * `Registry.load`
    * `Registry.scan`
-/

------------------------------------------------------------
-- State
------------------------------------------------------------

namespace SyntaxOutline

/- Plugins by language, languages by extension, configurations. -/
structure Registry where
  plugins : Table Plugin := []
  extensions : Table Value := []
  configs : List (String × Value) := []

namespace Registry

/- What an operation leaves: the registry, its log, its result. -/
structure Step (α : Type) where
  registry : Registry
  logs : List Log.Record
  result : α

/- A registry without plugins. -/
def empty : Registry :=
  {}

/- A record of the registry. -/
def record
    (level : Log.Level)
    (message : String) : Log.Record :=
  { level := level, logger := "plugins.manager", message := message }

------------------------------------------------------------
-- Registering
------------------------------------------------------------

/- What the log says when a language is already there. -/
def replacedRecords
    (isThere : Bool)
    (language : Value) : Except Misuse (List Log.Record) := do
  if isThere then
    return [record .warning
      ("Plugin for language '" ++ (← language.inMessage) ++
        "' already registered, replacing it")]
  else return []

/- What the log says when an extension changes its language. -/
def movedRecords
    (previous : Option Value)
    (extension language : Value) :
    Except Misuse (List Log.Record) := do
  match previous with
  | none | some .null => return []
  | some other =>
      if other.differs language then
        return [record .warning
          ("Extension '" ++ (← extension.inMessage) ++ "' moves from '" ++
            (← other.inMessage) ++ "' to '" ++
            (← language.inMessage) ++ "'")]
      else return []

/- Lead extensions to a language, one by one. -/
def addExtensions
    (language : Value)
    (r : Registry)
    (logs : List Log.Record) :
    List Value → Step (Except Misuse Unit)
  | [] => ⟨r, logs, .ok ()⟩
  | extension :: rest =>
      let outcome : Except Misuse (Key × List Log.Record) := do
        let key ← extension.keyOrMisuse
        let moved ←
          movedRecords (r.extensions.get? key) extension language
        return (key, moved)
      match outcome with
      | .error cause => ⟨r, logs, .error cause⟩
      | .ok (key, moved) =>
          addExtensions language
            { r with
              extensions := r.extensions.put key extension language }
            (logs ++ moved) rest

/- What the log says when a plugin has been registered. -/
def registeredRecord
    (language extensions : Value) : Except Misuse Log.Record := do
  return record .info
    ("Registered '" ++ (← language.inMessage) ++ "' plugin for " ++
      (← extensions.inMessage))

/- A registration with the record that ends it, if it got so far. -/
def finish
    (step : Step (Except Misuse Unit))
    (last : Except Misuse Log.Record) : Step (Except Misuse Unit) :=
  match step.result, last with
  | .error _, _ => step
  | .ok (), .error cause => { step with result := .error cause }
  | .ok (), .ok last => { step with logs := step.logs ++ [last] }

/- Register a plugin under its language and its extensions. -/
def register
    (r : Registry)
    (plugin : Plugin) : Step (Except Misuse Unit) :=
  let start : Except Misuse (Value × Key × List Log.Record) := do
    let language ← plugin.language
    let key ← language.keyOrMisuse
    let logs ← replacedRecords (r.plugins.has key) language
    return (language, key, logs)
  match start with
  | .error cause => ⟨r, [], .error cause⟩
  | .ok (language, key, logs) =>
      let r := { r with plugins := r.plugins.put key language plugin }
      let outcome : Except Misuse (Value × List Value) := do
        let extensions ← plugin.extensions
        let items ← extensions.elements
        return (extensions, items)
      match outcome with
      | .error cause => ⟨r, logs, .error cause⟩
      | .ok (extensions, items) =>
          finish (addExtensions language r logs items)
            (registeredRecord language extensions)

------------------------------------------------------------
-- Asking
------------------------------------------------------------

/-
  The plugin for an extension, if there is one.  A language that
  an extension leads to must have a plugin.
-/
def pluginByExtension?
    (r : Registry)
    (extension : String) : Except Misuse (Option Plugin) :=
  match r.extensions.get? (.str extension) with
  | none | some .null => .ok none
  | some language => do
      let key ← language.keyOrMisuse
      match r.plugins.get? key with
      | some plugin => return some plugin
      | none => throw (.missingKey language.sentence)

/- What the log says when a file has no plugin. -/
def unknownRecord
    (extension path : String) : Log.Record :=
  record .debug
    ("No grammar plugin for extension '" ++ extension ++ "' (" ++
      path ++ ")")

/- The plugin for a file, by the suffix of its path. -/
def pluginFor?
    (r : Registry)
    (path : String) : Logged (Except Misuse (Option Plugin)) :=
  let extension := (Route.ofText path).suffix
  match r.pluginByExtension? extension with
  | .ok none => ⟨[unknownRecord extension path], .ok none⟩
  | found => .quiet found

/- All languages, in order of first registration. -/
def languages
    (r : Registry) : List Value :=
  r.plugins.spellings

/- All extensions, in order of first registration. -/
def supportedExtensions
    (r : Registry) : List Value :=
  r.extensions.spellings

------------------------------------------------------------
-- Configurations
------------------------------------------------------------

/- What every configuration must have. -/
def requiredFields : List String :=
  ["name", "version", "file_extensions", "plugin_class"]

/- Why a configuration cannot be loaded. -/
inductive LoadFailure where
  | notFound (path : String)
  | file (fault : FileFault)
  | unreadable (cause : Yaml.Failure)
  | misuse (cause : Misuse)
  | missing (fields : List String) (path : String)
  deriving DecidableEq, Repr

/- The document is no YAML, so its fault belongs in the log. -/
def isYamlFault : Yaml.Failure → Bool
  | .value _ => false
  | _ => true

/- The text that stands for any fault of a document. -/
def yamlFaultText : String :=
  "<yaml error>"

/- The text of a failure inside a sentence. -/
def LoadFailure.sentence : LoadFailure → String
  | .notFound path => "Plugin configuration not found: " ++ path
  | .file fault => fault.message
  | .unreadable (.value cause) => cause.sentence
  | .unreadable _ => yamlFaultText
  | .misuse cause => cause.sentence
  | .missing fields path =>
      "Missing required fields " ++ (Value.strs fields).literal ++
        " in " ++ path

/- The text of a failure by itself. -/
def LoadFailure.message : LoadFailure → String
  | .unreadable (.value cause) => cause.message
  | .misuse cause => cause.message
  | other => other.sentence

/- How texts become values and configurations become plugins. -/
structure Workshop where
  read : (path text : String) → Except Yaml.Failure Value
  build : (reference config : Value) →
    Logged (Except Catalog.Failure Plugin)

/- A workshop that reads YAML and finds plugins in a catalog. -/
def Workshop.ofCatalog
    (catalog : Catalog) : Workshop where
  read := fun path text => Yaml.load path (Text.asRead text)
  build := catalog.build

/- The required fields that a configuration lacks. -/
def missingFields
    (config : Value) :
    List String → Except Misuse (List String)
  | [] => .ok []
  | field :: rest => do
      let isThere ← config.holds field
      let others ← missingFields config rest
      return if isThere then others else field :: others

/- The configuration of a text, if it is complete. -/
def configOf
    (workshop : Workshop)
    (path text : String) : Except LoadFailure Value := do
  let document ← (workshop.read path text).mapError .unreadable
  let config := document.orEmpty
  let missing ← (missingFields config requiredFields).mapError .misuse
  if missing.isEmpty then return config
  else .error (.missing missing path)

/- What the log says when a configuration cannot be loaded. -/
def loadFailureRecords
    (path : String) :
    LoadFailure → List Log.Record
  | .unreadable cause =>
      if isYamlFault cause then
        [record .error
          ("Failed to parse plugin configuration " ++ path ++ ": " ++
            yamlFaultText)]
      else []
  | _ => []

/- The name of the file with a configuration. -/
def configName : String :=
  "config.yaml"

/- The configuration in the file that a route leads to. -/
def readConfig
    (workshop : Workshop)
    (files : FileTree)
    (route : Route) : Except LoadFailure Value :=
  if files.isTooLong route then .error (.file (.tooLong route.text))
  else
    match files.find? route with
    | none => .error (.notFound route.text)
    | some .directory => .error (.file (.isDirectory route.text))
    | some (.file text) => configOf workshop route.text text

/- Load the configuration in a directory, once for each path. -/
def load
    (workshop : Workshop)
    (files : FileTree)
    (r : Registry)
    (directory : Route) : Step (Except LoadFailure Value) :=
  let route := directory.child configName
  let path := route.text
  match r.configs.lookup path with
  | some config => ⟨r, [], .ok config⟩
  | none =>
      match readConfig workshop files route with
      | .error failure =>
          ⟨r, loadFailureRecords path failure, .error failure⟩
      | .ok config =>
          ⟨{ r with configs := r.configs ++ [(path, config)] },
            [record .debug
              ("Loaded plugin configuration from " ++ path)],
            .ok config⟩

------------------------------------------------------------
-- Scanning A Directory
------------------------------------------------------------

/- Why a directory cannot be scanned to its end. -/
inductive ScanFailure where
  | file (fault : FileFault)
  | misuse (cause : Misuse)
  deriving DecidableEq, Repr

/- Make the plugin of a loaded configuration. -/
def buildFrom
    (workshop : Workshop)
    (config : Value) : Logged (Except Catalog.Failure Plugin) :=
  match config.item "plugin_class" with
  | .error cause => .quiet (.error (.misuse cause))
  | .ok reference => workshop.build reference config

/- What the log says when a directory gives no plugin. -/
def skippedRecord
    (directory : Route)
    (cause : String) : Log.Record :=
  record .error
    ("Skipping plugin in " ++ directory.text ++ ": " ++ cause)

/- A field of a configuration inside a sentence. -/
def fieldText
    (config : Value)
    (name : String) : Except Misuse String :=
  ((config.field? name).getD .null).inMessage

/- What the log says when a plugin has been made and registered. -/
def startedRecord
    (config : Value) : Except Misuse Log.Record := do
  return record .info
    ("Initialized plugin " ++ (← fieldText config "name") ++ " v" ++
      (← fieldText config "version"))

/- The plugin and the configuration of a directory, if it has one. -/
def prepare
    (workshop : Workshop)
    (files : FileTree)
    (r : Registry)
    (directory : Route) : Step (Option (Plugin × Value)) :=
  let loaded := r.load workshop files directory
  match loaded.result with
  | .error failure =>
      { registry := loaded.registry
        logs := loaded.logs ++ [skippedRecord directory failure.sentence]
        result := none }
  | .ok config =>
      let built := buildFrom workshop config
      match built.result with
      | .error failure =>
          { registry := loaded.registry
            logs :=
              loaded.logs ++ built.logs ++
                [skippedRecord directory failure.sentence]
            result := none }
      | .ok plugin =>
          { registry := loaded.registry
            logs := loaded.logs ++ built.logs
            result := some (plugin, config) }

/-
  Register a plugin that was made from a configuration: its
  language, and what the log says last.
-/
def takeIn
    (r : Registry)
    (plugin : Plugin)
    (config : Value) : Step (Except Misuse (Value × Log.Record)) :=
  let registered := r.register plugin
  let outcome : Except Misuse (Value × Log.Record) := do
    registered.result
    let language ← plugin.language
    let started ← startedRecord config
    return (language, started)
  { registered with result := outcome }

/- Register the plugins of directories, one by one. -/
def scanAll
    (workshop : Workshop)
    (files : FileTree)
    (r : Registry)
    (logs : List Log.Record)
    (found : List Value) :
    List Route → Step (Except ScanFailure (List Value))
  | [] => ⟨r, logs, .ok found⟩
  | directory :: rest =>
      let made := r.prepare workshop files directory
      let logs := logs ++ made.logs
      match made.result with
      | none => scanAll workshop files made.registry logs found rest
      | some (plugin, config) =>
          let taken := made.registry.takeIn plugin config
          let logs := logs ++ taken.logs
          match taken.result with
          | .error cause =>
              ⟨taken.registry, logs, .error (.misuse cause)⟩
          | .ok (language, started) =>
              scanAll workshop files taken.registry
                (logs ++ [started]) (found ++ [language]) rest

/- The directories inside one, in the order of their names. -/
def innerDirectories
    (files : FileTree)
    (directory : Route) : List Route :=
  (files.names directory).map directory.child

/- A directory cannot be asked for its configuration. -/
def isOutOfReach
    (files : FileTree)
    (directory : Route) : Bool :=
  files.isTooLong (directory.child configName)

/-
  The directories inside one that hold a configuration, up to
  one that is out of reach.
-/
def pluginDirectories
    (files : FileTree)
    (directory : Route) : List Route :=
  ((innerDirectories files directory).takeWhile fun inner =>
    !isOutOfReach files inner).filter fun inner =>
      files.isFile (inner.child configName)

/- What keeps a scan from going through a directory to its end. -/
def obstacle?
    (files : FileTree)
    (directory : Route) : Option FileFault :=
  ((innerDirectories files directory).find?
    (isOutOfReach files)).map fun inner =>
      .tooLong (inner.child configName).text

/- What a scan ends with that may meet an obstacle at last. -/
def endAt
    (obstacle : Option FileFault)
    (found : List Value) : Except ScanFailure (List Value) :=
  match obstacle with
  | none => .ok found
  | some fault => .error (.file fault)

/- Register all plugins that a directory holds. -/
def scan
    (workshop : Workshop)
    (files : FileTree)
    (r : Registry)
    (directory : Route) : Step (Except ScanFailure (List Value)) :=
  if files.isTooLong directory then
    ⟨r, [], .error (.file (.tooLong directory.text))⟩
  else if files.isDirectory directory then
    let scanned :=
      scanAll workshop files r
        [record .info ("Initializing plugins from " ++ directory.text)]
        [] (pluginDirectories files directory)
    -- Nothing changes the files meanwhile, so the obstacle can be
    -- asked for when the directories before it are through.
    { scanned with
      result := scanned.result.bind (endAt (obstacle? files directory)) }
  else
    ⟨r,
      [record .warning
        ("Plugins directory not found: " ++ directory.text)],
      .ok []⟩

end Registry

end SyntaxOutline
