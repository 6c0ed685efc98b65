import SyntaxOutline.Files.Route
import SyntaxOutline.Settings.Failure
import SyntaxOutline.Text.LetterCase
import SyntaxOutline.Value.Fields
import SyntaxOutline.Value.Key

/-
  Options: how the variables for settings are read.

  Options stand among the explicit settings, under names of
  their own.  They say with which word the names of variables
  start, whether the case of letters counts, whether empty
  variables count, which word means null, what divides the
  names of nested variables, in which files and encoding other
  variables are, and where secrets are.  Most other options
  change nothing here.

  Key definitions include:
    * `Settings.optionNames`
    * `Settings.Options`
    * `Settings.Options.of`
    * `Settings.readsFile`
    * `Settings.decoded`
    * `Settings.checkSecrets`
-/

------------------------------------------------------------
-- Options
------------------------------------------------------------

namespace SyntaxOutline

namespace Settings

/- Options by name; each may also be left to its default. -/
def optionNames : List String :=
  ["_case_sensitive", "_nested_model_default_partial_update",
    "_env_prefix", "_env_prefix_target", "_env_file",
    "_env_file_encoding", "_env_file_depth", "_env_ignore_empty",
    "_env_nested_delimiter", "_env_nested_max_split",
    "_env_parse_none_str", "_env_parse_enums", "_cli_prog_name",
    "_cli_parse_args", "_cli_settings_source",
    "_cli_parse_none_str", "_cli_hide_none_type",
    "_cli_avoid_json", "_cli_enforce_required",
    "_cli_use_class_docs_for_groups", "_cli_exit_on_error",
    "_cli_prefix", "_cli_flag_prefix_char", "_cli_implicit_flags",
    "_cli_ignore_unknown_args", "_cli_kebab_case",
    "_cli_shortcuts", "_cli_show_env_vars", "_secrets_dir",
    "_build_sources"]

/-
  How variables are read.  Their names start with a word, which
  is missing when it is no text.
-/
structure Options where
  start : Option String := some "SIMPLETREE_"
  minding : Bool := false
  skipsEmpty : Bool := false
  nullWord : Option String := none
  delimiter : Option String := none
  deriving DecidableEq, Repr, Inhabited

/- The value of an option that is given and not null. -/
def option?
    (explicit : Fields)
    (name : String) : Option Value :=
  match explicit.lookup name with
  | some .null => none
  | found => found

/- An option is given that does not count as nothing. -/
def isSet
    (explicit : Fields)
    (name : String) : Bool :=
  ((option? explicit name).map fun value => !value.isEmpty).getD false

/- The names of variables start with the word of the settings. -/
def usesStart
    (explicit : Fields) : Bool :=
  match option? explicit "_env_prefix_target" with
  | none => true
  | some target =>
      target.text? = some "variable" || target.text? = some "all"

/- The word that the names of variables start with. -/
def startOf
    (explicit : Fields) : Option String :=
  if usesStart explicit then
    match option? explicit "_env_prefix" with
    | none => Options.start {}
    | some word => word.text?
  else some ""

/- The number of splits must be a number, if it is given. -/
def checkSplits
    (explicit : Fields) : Except Failure Unit :=
  match option? explicit "_env_nested_max_split" with
  | none => .ok ()
  | some value =>
      if value.isEmpty then .ok ()
      else
        match value with
        | .bool _ | .int _ | .float _ => .ok ()
        | other => .error (.notNumber other.kindName)

/- The word at the start must have a size, if it is given. -/
def checkStart
    (explicit : Fields) : Except Failure Unit :=
  match option? explicit "_env_prefix" with
  | none => .ok ()
  | some word =>
      match word.parts? with
      | some _ => .ok ()
      | none => .error (.misuse (.sizeless word.kindName))

/- The options among explicit settings. -/
def Options.of
    (explicit : Fields) : Except Failure Options := do
  checkSplits explicit
  checkStart explicit
  return {
    start := startOf explicit
    minding := isSet explicit "_case_sensitive"
    skipsEmpty := isSet explicit "_env_ignore_empty"
    nullWord := (option? explicit "_env_parse_none_str").bind Value.text?
    delimiter :=
      ((option? explicit "_env_nested_delimiter").bind
        Value.text?).filter (· ≠ "") }

------------------------------------------------------------
-- Names Of Variables
------------------------------------------------------------

namespace Options

/- A name as it is compared: in lower case, unless case counts. -/
def fold
    (options : Options)
    (name : String) : String :=
  if options.minding then name else Text.lower name

/- The name of the variable of a setting. -/
def variableName
    (options : Options)
    (field : String) : String :=
  options.fold (options.start.getD "" ++ field)

/- A variable is nested in the one of a setting. -/
def isNested
    (options : Options)
    (field name : String) : Bool :=
  match options.delimiter with
  | none => false
  | some mark =>
      (options.variableName field ++ mark).toList.isPrefixOf name.toList

/- Variables under their compared names; the last one wins. -/
def gather
    (options : Options)
    (given : Fields) : Fields :=
  given.foldl
    (fun known (name, value) =>
      if options.skipsEmpty ∧ value.text? = some "" then known
      else Fields.set (options.fold name) value known)
    []

end Options

------------------------------------------------------------
-- Files Of Variables
------------------------------------------------------------

/- The name of the file of variables. -/
def variablesFile : Route :=
  ⟨"", [".env"]⟩

/- The routes that an option names: one, or several of them. -/
def routesOf : Value → Except Failure (List Route)
  | .str s => .ok [Route.ofText s]
  | value =>
      match value.parts? with
      | none => .error (.misuse (.notIterable value.kindName))
      | some items =>
          items.mapM fun item =>
            match item with
            | .str s => .ok (Route.ofText s)
            | other => .error (.misuse (.notRoute other.kindName))

/- The file of variables is among the files to read. -/
def readsFile
    (explicit : Fields) : Except Failure Bool :=
  match explicit.lookup "_env_file" with
  | none => .ok true
  | some .null => .ok false
  | some value => do
      let routes ← routesOf value
      return routes.contains variablesFile

/- The text of a file in the encoding that an option names. -/
def decoded
    (explicit : Fields)
    (text : String) : Except Failure String :=
  match option? explicit "_env_file_encoding" with
  | none => .ok text
  | some value =>
      if value.isEmpty then .ok text
      else
        match value with
        | .str name =>
            if name = "locale" then .ok text
            else
              ((Encoding.named name).bind (Encoding.reread text)).mapError
                .encoding
        | other => .error (.encodingKind other.kindName)

------------------------------------------------------------
-- Secrets
------------------------------------------------------------

/- Secrets lie in directories, not in the file of variables. -/
def checkSecrets
    (explicit : Fields)
    (hasFile : Bool) : Except Failure Unit :=
  match option? explicit "_secrets_dir" with
  | none => .ok ()
  | some value => do
      let routes ← routesOf value
      if hasFile && routes.contains variablesFile then
        .error .secretsFile
      else return ()

end Settings

end SyntaxOutline
