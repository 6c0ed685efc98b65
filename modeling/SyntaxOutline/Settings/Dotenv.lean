import SyntaxOutline.Text.Blank
import SyntaxOutline.Value.Fields

/-
  Files of environment variables.

  A line gives a name and a value.  Both may be in quotes; a
  value in quotes may run over several lines and hold escapes;
  one without quotes ends at a comment that follows a blank.  A
  name alone has no value.  A line that does not fit is left
  out.  In values, `${NAME}` stands for another variable.

  Key definitions include:
    * `Dotenv.Binding`
    * `Dotenv.bindings`
    * `Dotenv.expand`
    * `Dotenv.read`
-/

------------------------------------------------------------
-- Characters
------------------------------------------------------------

namespace SyntaxOutline

namespace Dotenv

/- A line end. -/
def isLineEnd
    (c : Char) : Bool :=
  c = '\n' || c = '\r'

/- A blank within a line. -/
def isInlineBlank
    (c : Char) : Bool :=
  Text.isBlank c && !isLineEnd c

/- The text behind blanks of the same line. -/
def skipInline
    (text : List Char) : List Char :=
  text.dropWhile isInlineBlank

/- The text behind one line end. -/
def dropLineEnd : List Char → List Char
  | '\r' :: '\n' :: rest => rest
  | c :: rest => if isLineEnd c then rest else c :: rest
  | [] => []

/- The text behind the rest of the line. -/
def skipLine
    (text : List Char) : List Char :=
  dropLineEnd (text.dropWhile fun c => !isLineEnd c)

------------------------------------------------------------
-- Quotes And Escapes
------------------------------------------------------------

/-
  The text up to the closing quote, and what follows.  A
  backslash takes the character behind it along.
-/
def closed?
    (quote : Char)
    (done : List Char) :
    List Char → Option (List Char × List Char)
  | [] => none
  | [c] => if c = quote then some (done.reverse, []) else none
  | c :: d :: rest =>
      if c = quote then some (done.reverse, d :: rest)
      else if c = '\\' then closed? quote (d :: c :: done) rest
      else closed? quote (c :: done) (d :: rest)

/- What an escaped character stands for between double quotes. -/
def doubleEscape?
    (c : Char) : Option Char :=
  if c = '\\' ∨ c = '\x27' ∨ c = '\x22' then some c
  else if c = 'a' then some '\x07'
  else if c = 'b' then some '\x08'
  else if c = 'f' then some '\x0C'
  else if c = 'n' then some '\n'
  else if c = 'r' then some '\r'
  else if c = 't' then some '\t'
  else if c = 'v' then some '\x0B'
  else none

/- What an escaped character stands for between single quotes. -/
def singleEscape?
    (c : Char) : Option Char :=
  if c = '\\' ∨ c = '\x27' then some c else none

/- The text with its escapes resolved; other backslashes stay. -/
def unescape
    (escape? : Char → Option Char) :
    List Char → List Char
  | [] => []
  | [c] => [c]
  | c :: d :: rest =>
      if c = '\\' then
        match escape? d with
        | some e => e :: unescape escape? rest
        | none => c :: unescape escape? (d :: rest)
      else c :: unescape escape? (d :: rest)

------------------------------------------------------------
-- Names And Values
------------------------------------------------------------

/- The text behind the word that may stand before a name. -/
def skipExport
    (text : List Char) : List Char :=
  let word := "export".toList
  let rest := text.drop word.length
  if word.isPrefixOf text ∧ rest.head?.any isInlineBlank then
    skipInline rest
  else text

/- A character of a name without quotes. -/
def isNameChar
    (c : Char) : Bool :=
  c ≠ '=' && c ≠ '#' && !Text.isBlank c

/- The name that starts here. -/
def name? : List Char → Option (List Char × List Char)
  | [] => none
  | c :: rest =>
      if c = '\x27' then
        match rest.takeWhile (· ≠ '\x27'), rest.dropWhile (· ≠ '\x27') with
        | n :: ns, _ :: after => some (n :: ns, after)
        | _, _ => none
      else
        match (c :: rest).takeWhile isNameChar with
        | [] => none
        | chars => some (chars, (c :: rest).dropWhile isNameChar)

/- The text before the first comment that follows a blank. -/
def cutComment : List Char → List Char
  | [] => []
  | c :: rest =>
      if Text.isBlank c ∧
          (rest.dropWhile Text.isBlank).head? = some '#' then []
      else c :: cutComment rest

/- A value without quotes, up to the end of the line. -/
def plainValue
    (text : List Char) : List Char × List Char :=
  let line := text.takeWhile fun c => !isLineEnd c
  (Text.trimWhile Text.isBlank (cutComment line),
    text.dropWhile fun c => !isLineEnd c)

/-
  The value behind an equals sign.  Blanks before a quote do not
  count; without quotes they may start a comment.
-/
def value?
    (text : List Char) : Option (List Char × List Char) :=
  match skipInline text with
  | [] => some ([], [])
  | c :: rest =>
      if c = '\x27' then
        (closed? c [] rest).map fun (value, after) =>
          (unescape singleEscape? value, after)
      else if c = '\x22' then
        (closed? c [] rest).map fun (value, after) =>
          (unescape doubleEscape? value, after)
      else some (plainValue text)

------------------------------------------------------------
-- Bindings
------------------------------------------------------------

/- A name and, unless it stands alone, its value. -/
structure Binding where
  name : String
  value : Option String
  deriving DecidableEq, Repr

/- The end of a line behind a binding, after a comment. -/
def lineEnd?
    (text : List Char) : Option (List Char) :=
  let text :=
    match skipInline text with
    | '#' :: rest => rest.dropWhile fun c => !isLineEnd c
    | _ => text
  match skipInline text with
  | [] => some []
  | c :: rest =>
      if isLineEnd c then some (dropLineEnd (c :: rest)) else none

/- The value behind a name, if an equals sign follows it. -/
def assigned?
    (text : List Char) : Option (Option (List Char) × List Char) :=
  match skipInline text with
  | '=' :: rest =>
      (value? rest).map fun (value, after) =>
        (some value, after)
  | after => some (none, after)

/-
  The binding of a line that starts here, and what follows.  A
  comment and a line that does not fit bind nothing.
-/
def line
    (text : List Char) : Option Binding × List Char :=
  let text := skipExport text
  match text with
  | '#' :: _ => (none, skipLine text)
  | _ =>
      match name? text with
      | none => (none, skipLine text)
      | some (name, after) =>
          match assigned? after with
          | none =>
              let rest := skipInline after
              (none, skipLine (skipInline (rest.drop 1)))
          | some (value, after) =>
              match lineEnd? after with
              | none => (none, skipLine after)
              | some rest =>
                  (some ⟨String.ofList name, value.map String.ofList⟩,
                    rest)

/- All bindings of a text, in order. -/
def bindingsFrom : (fuel : Nat) → List Char → List Binding
  | 0, _ => []
  | fuel + 1, text =>
      match text.dropWhile Text.isBlank with
      | [] => []
      | text =>
          let (binding, rest) := line text
          binding.toList ++ bindingsFrom fuel rest

/- The text without a byte order mark at its start. -/
def dropMark : List Char → List Char
  | c :: rest => if c = '\uFEFF' then rest else c :: rest
  | [] => []

/- All bindings of a text, in order. -/
def bindings
    (text : String) : List Binding :=
  bindingsFrom (text.length + 1) (dropMark text.toList)

------------------------------------------------------------
-- Expansion
------------------------------------------------------------

/- A reference to a variable: its name and its default. -/
def reference? : List Char → Option (List Char × List Char × List Char)
  | '$' :: '\x7b' :: rest =>
      let inName (c : Char) : Bool := c ≠ '\x7d' && c ≠ ':'
      let name := rest.takeWhile inName
      match rest.dropWhile inName with
      | '\x7d' :: after => some (name, [], after)
      | ':' :: '-' :: rest =>
          match rest.dropWhile (· ≠ '\x7d') with
          | _ :: after => some (name, rest.takeWhile (· ≠ '\x7d'), after)
          | [] => none
      | _ => none
  | _ => none

/- The text with all references replaced. -/
def expandFrom
    (lookup : String → Option String) :
    (fuel : Nat) → List Char → List Char
  | 0, text => text
  | _ + 1, [] => []
  | fuel + 1, c :: rest =>
      match reference? (c :: rest) with
      | none => c :: expandFrom lookup fuel rest
      | some (name, default, after) =>
          let value :=
            (lookup (String.ofList name)).getD (String.ofList default)
          value.toList ++ expandFrom lookup fuel after

/- The text with all references replaced. -/
def expand
    (lookup : String → Option String)
    (text : String) : String :=
  String.ofList (expandFrom lookup (text.length + 1) text.toList)

/-
  The value of a variable that a reference names.  Variables of
  the file win; one without a value there counts as empty.
-/
def lookupIn
    (environment : List (String × String))
    (known : Fields)
    (name : String) : Option String :=
  match known.lookup name with
  | some (.str value) => some value
  | some _ => some ""
  | none => environment.lookup name

/- The variables of a file, each expanded by those before it. -/
def read
    (environment : List (String × String))
    (text : String) : Fields :=
  (bindings text).foldl
    (fun known b =>
      let value :=
        match b.value with
        | none => .null
        | some v => .str (expand (lookupIn environment known) v)
      Fields.set b.name value known)
    []

end Dotenv

end SyntaxOutline
