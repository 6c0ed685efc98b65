import SyntaxOutline.Text.Digit
import SyntaxOutline.Text.Quoted

/-
  Command lines.

  A command line is a row of words.  A word that starts with a
  mark can be a flag, which names an option.  The value of an
  option stands behind an equals sign, right behind a flag of one
  letter, or in the next word, if that is no flag itself.  Two
  hyphens by themselves end the flags.  Words that belong to no
  option are left over.

  Key definitions include:
    * `CommandLine.Switch`
    * `CommandLine.Grammar`
    * `CommandLine.Failure`
    * `CommandLine.Grammar.classify`
    * `CommandLine.Grammar.read`
-/

------------------------------------------------------------
-- Grammars
------------------------------------------------------------

namespace SyntaxOutline

namespace CommandLine

/- An option: its flags, what it sets, and whether it has a value. -/
structure Switch where
  flags : List String
  target : String
  takesValue : Bool := true
  deriving DecidableEq, Repr, Inhabited

/- The options of a command line, and the marks that start flags. -/
structure Grammar where
  marks : List Char := ['-']
  switches : List Switch
  deriving DecidableEq, Repr, Inhabited

/- Why a command line cannot be read. -/
inductive Failure where
  | help
  | missing (option : Switch)
  | ignored (option : Switch) (value : String)
  | unrecognized (words : List String)
  deriving DecidableEq, Repr

/- The flags of an option in a message. -/
def Switch.name
    (option : Switch) : String :=
  "argument " ++ "/".intercalate option.flags

/- The text of a failure; a call for help is none. -/
def Failure.message : Failure → String
  | .help => ""
  | .missing option => option.name ++ ": expected one argument"
  | .ignored option value =>
      option.name ++ ": ignored explicit argument " ++ Text.quote value
  | .unrecognized words =>
      "unrecognized arguments: " ++ " ".intercalate words

------------------------------------------------------------
-- Words
------------------------------------------------------------

/- What a word is: a plain one, or a flag that is known or not. -/
inductive Word where
  | plain (text : String)
  | unknown (text : String)
  | flag (option : Switch) (value : Option String)
  deriving DecidableEq, Repr

/- The text has digits only, and some of them. -/
def isDigits
    (text : List Char) : Bool :=
  !text.isEmpty && (Text.unifyDigits text).all Char.isDigit

/- The text is a number below zero, maybe before a line end. -/
def isNegative : List Char → Bool
  | '-' :: rest =>
      let digits :=
        if rest.getLast? = some '\n' then rest.dropLast else rest
      let whole := digits.takeWhile (· ≠ '.')
      isDigits digits ||
        ((whole.isEmpty || isDigits whole) &&
          isDigits ((digits.dropWhile (· ≠ '.')).drop 1))
  | _ => false

namespace Grammar

/- The option with a flag. -/
def find?
    (g : Grammar)
    (flag : List Char) : Option Switch :=
  g.switches.find? (·.flags.contains (String.ofList flag))

/- The option whose flag stands before an equals sign. -/
def assigned?
    (g : Grammar)
    (text : List Char) : Option Word :=
  match text.dropWhile (· ≠ '=') with
  | [] => none
  | _ :: value =>
      (g.find? (text.takeWhile (· ≠ '='))).map fun option =>
        .flag option (some (String.ofList value))

/-
  The option of one letter with its value right behind it.  An
  option without a value leaves further letters aside.
-/
def joined?
    (g : Grammar)
    (text : List Char) : Option Word :=
  let value := text.drop 2
  match text.drop 1 with
  | [] => none
  | c :: _ =>
      if g.marks.contains c then none
      else
        (g.find? (text.take 2)).map fun option =>
          if option.takesValue || value.head?.any g.marks.contains then
            .flag option (some (String.ofList value))
          else .flag option none

/- What a word is. -/
def classify
    (g : Grammar)
    (word : String) : Word :=
  let text := word.toList
  if !text.head?.any g.marks.contains then .plain word
  else
    match g.find? text with
    | some option => .flag option none
    | none =>
        if text.length = 1 then .plain word
        else
          match (g.assigned? text).or (g.joined? text) with
          | some found => found
          | none =>
              if isNegative text || text.contains ' ' then .plain word
              else .unknown word

/- What words are; behind two hyphens all of them are plain. -/
def classifyAll
    (g : Grammar) :
    List String → List Word
  | [] => []
  | word :: rest =>
      if word = "--" then .unknown word :: rest.map .plain
      else g.classify word :: g.classifyAll rest

end Grammar

------------------------------------------------------------
-- Reading
------------------------------------------------------------

/- What a command line sets, in order, and what is left over. -/
structure Outcome where
  settings : List (String × String) := []
  leftOver : List String := []
  deriving DecidableEq, Repr, Inhabited

namespace Outcome

/- The outcome with one more setting before. -/
def withSetting
    (option : Switch)
    (value : String)
    (o : Outcome) : Outcome :=
  { o with settings := (option.target, value) :: o.settings }

/- The outcome with one more word left over. -/
def withWord
    (word : String)
    (o : Outcome) : Outcome :=
  { o with leftOver := word :: o.leftOver }

end Outcome

/- What classified words come to. -/
def readWords : List Word → Except Failure Outcome
  | [] => .ok {}
  | .plain word :: rest => (readWords rest).map (·.withWord word)
  | .unknown word :: rest => (readWords rest).map (·.withWord word)
  | .flag option (some value) :: rest =>
      if option.takesValue then
        (readWords rest).map (·.withSetting option value)
      else .error (.ignored option value)
  | .flag option none :: .plain value :: rest =>
      if option.takesValue then
        (readWords rest).map (·.withSetting option value)
      else .error .help
  | .flag option none :: _ =>
      if option.takesValue then .error (.missing option)
      else .error .help

/- What the words of a command line come to. -/
def Grammar.read
    (g : Grammar)
    (words : List String) : Except Failure Outcome :=
  readWords (g.classifyAll words)

end CommandLine

end SyntaxOutline
