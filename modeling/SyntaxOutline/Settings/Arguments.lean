import SyntaxOutline.Settings.ListItems
import SyntaxOutline.Settings.Options
import SyntaxOutline.Text.Printable

/-
  Settings out of the arguments of a command line.

  An option may hold such arguments.  Each setting is an option
  of the command line, named behind two hyphens, in letters of
  any case unless case counts.  Further options say what stands
  before the names, what marks them, which short names there are,
  whether low lines become hyphens, which word means null, and
  what happens to arguments that cannot be read.  Where a list is
  named several times, all its items count.

  Key definitions include:
    * `Settings.ArgumentStyle`
    * `Settings.ArgumentStyle.of`
    * `Settings.ArgumentStyle.grammar`
    * `Settings.folded`
    * `Settings.argumentTexts`
-/

------------------------------------------------------------
-- Styles
------------------------------------------------------------

namespace SyntaxOutline

namespace Settings

/- The settings, in order. -/
def fieldNames : List String :=
  ["leaf_rule_names", "leaf_symbolic_names",
    "identifier_symbolic_name", "eof_text", "hidden_channel",
    "plugins_dir"]

/- The settings that are lists. -/
def listNames : List String :=
  ["leaf_rule_names", "leaf_symbolic_names"]

/- How arguments are read. -/
structure ArgumentStyle where
  stem : String := ""
  marks : String := "-"
  hyphens : Bool := false
  folds : Bool := true
  shortcuts : List (String × List String) := []
  nullWord : Option String := some "null"
  skipsUnknown : Bool := false
  exits : Bool := true
  deriving DecidableEq, Repr, Inhabited

/- The characters make a name: letters, digits and low lines. -/
def isName : List Char → Bool
  | [] => false
  | c :: rest => isLetter c && rest.all fun d => isLetter d || d.isDigit
where
  isLetter (c : Char) : Bool :=
    c.isAlpha || c = '_' || (128 ≤ c.toNat && Text.isPrintable c)

/- What stands before the names of settings: names with dots. -/
def stemOf
    (explicit : Fields) : Except Failure String :=
  match option? explicit "_cli_prefix" with
  | none => .ok ""
  | some value =>
      if value.isEmpty then .ok ""
      else
        match value with
        | .str text =>
            let chars := text.toList
            if chars.head? = some '.' || chars.getLast? = some '.' ||
                !isName (chars.filter (· ≠ '.')) then
              .error (.stem text)
            else .ok (text ++ ".")
        | other => .error (.misuse (.lacks other.kindName "startswith"))

/- The characters that mark flags. -/
def marksOf
    (explicit : Fields) : Except Failure String :=
  match option? explicit "_cli_flag_prefix_char" with
  | some (.str "") => .error .noMark
  | some (.str text) => .ok text
  | some (.bool _) => .error (.misuse (.notSearchable "bool"))
  | some (.int _) => .error (.misuse (.notSearchable "int"))
  | some (.float _) => .error (.misuse (.notSearchable "float"))
  | _ => .ok "-"

/- The texts that a value is or lists. -/
def textsOf : Value → List String
  | .str text => [text]
  | .list items => items.filterMap Value.text?
  | _ => []

/- Further names for flags, by the name that they stand for. -/
def shortcutsOf
    (explicit : Fields) :
    Except Failure (List (String × List String)) :=
  match option? explicit "_cli_shortcuts" with
  | none => .ok []
  | some value =>
      if value.isEmpty then .ok []
      else
        match value with
        | .map entries =>
            .ok (entries.map fun (name, others) =>
              (name.sentence, textsOf others))
        | other => .error (.misuse (.lacks other.kindName "items"))

/- The word for null among arguments. -/
def argumentNull
    (explicit : Fields) : Option String :=
  let usual :=
    match option? explicit "_cli_avoid_json" with
    | some (.bool true) => "None"
    | _ => "null"
  match option? explicit "_cli_parse_none_str" with
  | none => some usual
  | some value => if value.isEmpty then some usual else value.text?

/- Letters of any case name a setting. -/
def foldsCase
    (explicit : Fields) : Bool :=
  match option? explicit "_case_sensitive" with
  | none | some (.bool false) => true
  | _ => false

/- The style that explicit settings ask for. -/
def ArgumentStyle.of
    (explicit : Fields) : Except Failure ArgumentStyle := do
  let stem ← stemOf explicit
  let marks ← marksOf explicit
  let shortcuts ← shortcutsOf explicit
  return {
    stem := stem
    marks := marks
    hyphens := isSet explicit "_cli_kebab_case"
    folds := foldsCase explicit
    shortcuts := shortcuts
    nullWord := argumentNull explicit
    skipsUnknown := isSet explicit "_cli_ignore_unknown_args"
    exits :=
      (option? explicit "_cli_exit_on_error").all fun value =>
        !value.isEmpty }

------------------------------------------------------------
-- Grammars
------------------------------------------------------------

namespace ArgumentStyle

/- The name that a setting has in flags. -/
def flagName
    (style : ArgumentStyle)
    (field : String) : String :=
  let name := style.stem ++ field
  if style.hyphens then
    String.ofList (name.toList.map fun c => if c = '_' then '-' else c)
  else name

/- The flag for a name: a name of one letter has one mark. -/
def flag
    (style : ArgumentStyle)
    (name : String) : String :=
  let marks := (style.marks ++ style.marks).toList
  String.ofList (marks.take name.length ++ name.toList)

/- The names of a setting in flags. -/
def flagNames
    (style : ArgumentStyle)
    (field : String) : List String :=
  let name := style.flagName field
  name ::
    (style.shortcuts.filter (·.1 = name)).flatMap fun (_, others) =>
      others.filter fun other =>
        !(fieldNames.map style.flagName).contains other

/- The option that asks for help. -/
def help
    (style : ArgumentStyle) : CommandLine.Switch :=
  let mark :=
    if style.marks.toList.contains '-' then "-"
    else String.ofList (style.marks.toList.take 1)
  { flags := [mark ++ "h", mark ++ mark ++ "help"]
    target := "help"
    takesValue := false }

/- The command line of all settings. -/
def grammar
    (style : ArgumentStyle) : CommandLine.Grammar where
  marks := style.marks.toList
  switches :=
    style.help ::
      fieldNames.map fun field =>
        { flags := (style.flagNames field).map style.flag
          target := field }

end ArgumentStyle

------------------------------------------------------------
-- Arguments
------------------------------------------------------------

/-
  An argument with its flag in lower case.  What follows the first
  line of such an argument is lost.
-/
def folded
    (style : ArgumentStyle)
    (argument : String) : String :=
  let text := argument.toList
  let isPart (c : Char) : Bool := !Text.isBlank c && c ≠ '='
  let flag := text.takeWhile isPart
  if text.head?.any style.marks.toList.contains && 2 ≤ flag.length then
    Text.lower (String.ofList flag) ++
      String.ofList ((text.dropWhile isPart).takeWhile (· ≠ '\n'))
  else argument

/- The text of an argument; what counts as nothing is empty. -/
def argumentText
    (style : ArgumentStyle) :
    Value → Except Failure String
  | .str text => .ok (if style.folds then folded style text else text)
  | other =>
      if other.isEmpty then .ok ""
      else .error (.notArgument other.kindName)

/- The arguments that a value holds, if any are to be read. -/
def argumentsIn
    (style : ArgumentStyle) :
    Value → Except Failure (Option (List String))
  | .bool b => .ok (if b then some [] else none)
  | .list items => (items.mapM (argumentText style)).map some
  | other =>
      if other.isEmpty && other.parts?.isNone then .ok none
      else .error (.argumentsKind other.kindName)

/- Why arguments cannot be read; some styles give up at once. -/
def argumentFailure
    (style : ArgumentStyle) :
    CommandLine.Failure → Failure
  | .help => .leaving 0
  | cause => if style.exits then .leaving 2 else .commandLine cause

/- What arguments set, in order. -/
def readArguments
    (style : ArgumentStyle)
    (arguments : List String) :
    Except Failure (List (String × String)) := do
  let outcome ←
    (style.grammar.read arguments).mapError (argumentFailure style)
  if style.skipsUnknown || outcome.leftOver.isEmpty then
    return outcome.settings
  else
    throw (argumentFailure style (.unrecognized outcome.leftOver))

/- The text that values give to a setting: the last one or all. -/
def mergedText
    (style : ArgumentStyle)
    (field : String)
    (values : List String) : Except Failure String :=
  if field ∈ listNames then
    (ListItems.listText style.nullWord values).mapError
      (.items (style.stem ++ field))
  else .ok (values.getLastD "")

/- The texts that arguments give to settings. -/
def argumentTexts
    (explicit : Fields) : Except Failure (List (String × String)) :=
  match option? explicit "_cli_parse_args" with
  | none => .ok []
  | some value => do
      let style ← ArgumentStyle.of explicit
      match ← argumentsIn style value with
      | none => return []
      | some arguments =>
          let given ← readArguments style arguments
          (given.map (·.1)).eraseDups.mapM fun field => do
            let values := (given.filter (·.1 = field)).map (·.2)
            return (field, ← mergedText style field values)

end Settings

end SyntaxOutline
