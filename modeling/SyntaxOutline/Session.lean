import SyntaxOutline.Bracket.Drawing
import SyntaxOutline.Plugin.Bundled
import SyntaxOutline.Settings.Basic

/-
  Sessions: one source, parsed once.

  A session is opened with a plugin, or with a path by whose
  suffix a registry chooses the plugin.  It then gives the
  outline of the source, the texts of its terminals, and draws
  trees in bracket notation.

  Key definitions include:
    * `Session`
    * `Session.openWith`
    * `Session.start`
    * `Session.outline`
    * `Session.terminalTexts`
-/

------------------------------------------------------------
-- Sessions
------------------------------------------------------------

namespace SyntaxOutline

/- A parsed source with its plugin and the language of that. -/
structure Session where
  plugin : Plugin
  language : Value
  path : Value
  parsed : ParsedSource

namespace Session

/- Why a session cannot be opened. -/
inductive Failure where
  | noPlugin (source : String)
  | misuse (cause : Misuse)
  | registry (cause : Registry.ScanFailure)
  | plugin (cause : Plugin.Failure)
  deriving DecidableEq, Repr

/- The text of the failure to find a plugin. -/
def noPluginMessage
    (source : String) : String :=
  "No grammar plugin available for " ++ source

/- Where a session writes to the log. -/
def logger
    (language path : Value) : Log.Logger :=
  { name := "simpletree.services.syntax_tree_parser"
    bound :=
      [("language", language), ("file_path", path)] }

/- What the log says about a phase of the work. -/
def phaseRecords
    (language path : Value)
    (phase status : String) : List Log.Record :=
  (((logger language path).phase (.str phase) (.str status)).toOption).getD
    []

------------------------------------------------------------
-- Opening
------------------------------------------------------------

/- Open a session with a plugin. -/
def openWith
    (plugin : Plugin)
    (content path : Value) : Logged (Except Failure Session) :=
  match plugin.language with
  | .error cause => .quiet (.error (.plugin (.misuse cause)))
  | .ok language =>
      let phase := phaseRecords language path "parse"
      let parsed := plugin.parse content path
      let logs := phase "started" ++ parsed.logs
      match parsed.result with
      | .error cause => ⟨logs, .error (.plugin cause)⟩
      | .ok source =>
          ⟨logs ++ phase "completed",
            .ok ⟨plugin, language, path, source⟩⟩

/- Open a session with the plugin that a registry has for a path. -/
def openBy
    (registry : Registry)
    (content path : Value) : Logged (Except Failure Session) :=
  match path with
  | .str text =>
      let chosen := registry.pluginFor? text
      match chosen.result with
      | .error cause => ⟨chosen.logs, .error (.misuse cause)⟩
      | .ok none => ⟨chosen.logs, .error (.noPlugin (sourceName path))⟩
      | .ok (some plugin) =>
          (openWith plugin content path).after chosen.logs
  | other => .quiet (.error (.misuse (.notRoute other.kindName)))

/-
  Open a session.  A plugin that is given wins; otherwise the
  registry chooses by the path.  Without a registry, one is
  filled by scanning a directory first.
-/
def start
    (workshop : Registry.Workshop)
    (files : FileTree)
    (directory : Route)
    (plugin : Option Plugin)
    (registry : Option Registry)
    (content path : Value) : Logged (Except Failure Session) :=
  match plugin, path with
  | some plugin, _ => openWith plugin content path
  | none, .null => .quiet (.error (.noPlugin (sourceName path)))
  | none, path =>
      match registry with
      | some registry => openBy registry content path
      | none =>
          let scanned := Registry.empty.scan workshop files directory
          match scanned.result with
          | .error cause => ⟨scanned.logs, .error (.registry cause)⟩
          | .ok _ =>
              (openBy scanned.registry content path).after scanned.logs

------------------------------------------------------------
-- Asking
------------------------------------------------------------

/- Why there is no outline. -/
inductive OutlineFailure where
  | plugin (cause : Plugin.Failure)
  | collapse (cause : Collapse.Failure)
  deriving DecidableEq, Repr

/- The outline of the source by the plugin's classification. -/
def outline
    (settings : Settings)
    (s : Session) : Logged (Except OutlineFailure (Option Branch)) :=
  match s.plugin.classification with
  | .error cause => .quiet (.error (.plugin cause))
  | .ok classification =>
      let phase := phaseRecords s.language s.path "simplify"
      let source := Collapse.Source.ofParsed s.parsed
      let policy := settings.policy classification
      match Collapse.collapse policy source s.parsed.tree with
      | .error cause => ⟨phase "started", .error (.collapse cause)⟩
      | .ok outline =>
          ⟨phase "started" ++ Collapse.report outline ++
            phase "completed", .ok outline⟩

/- The texts of all terminals of the source. -/
def terminalTexts
    (s : Session) : List String :=
  s.parsed.tree.toCst.texts

/- Draw a tree given in bracket notation. -/
def drawText
    (text : Option String) : Except Bracket.DrawError String :=
  Bracket.drawText text

end Session

end SyntaxOutline
