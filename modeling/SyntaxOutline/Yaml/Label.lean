import SyntaxOutline.Text.Utf8
import SyntaxOutline.Yaml.Lexeme
import SyntaxOutline.Yaml.Scalar

/-
  Names of anchors, tags and directives.

  Key definitions include:
    * `Yaml.anchorName`
    * `Yaml.tag`
    * `Yaml.directive`
-/

------------------------------------------------------------
-- Anchors
------------------------------------------------------------

namespace SyntaxOutline

namespace Yaml

/- A word that must not be empty. -/
def word
    (c : Cursor) : Except Fault (String × Cursor) :=
  match c.span isWordChar with
  | ([], _) => .error (c.fault .lexical)
  | (chars, c) => .ok (String.ofList chars, c)

/- The name behind the sign of an anchor or a reference. -/
def anchorName
    (c : Cursor) : Except Fault (String × Cursor) := do
  let (name, c) ← word c.next
  if isGap c.peek || "?:,]\x7d%@\x60".toList.contains c.peek then
    return (name, c)
  else .error (c.fault .lexical)

------------------------------------------------------------
-- Tags
------------------------------------------------------------

/- A character of a tag that stands for itself. -/
def isTagChar
    (c : Char) : Bool :=
  c.isAlphanum || "-;/?:@&=+$,_.!~*\x27()[]".toList.contains c

/- The octets that codes behind percent signs give. -/
def tagOctets :
    (fuel : Nat) → List UInt8 → Cursor →
      Except Fault (List UInt8 × Cursor)
  | 0, done, c => .ok (done, c)
  | fuel + 1, done, c =>
      if c.peek = '%' then
        do
          let c := c.next
          let code ← codeAt 2 c
          tagOctets fuel (done ++ [UInt8.ofNat code]) (c.advance 2)
      else .ok (done, c)

/- The text of octets that all belong to characters. -/
def strictText?
    (octets : List UInt8) : Option (List Char) :=
  let text := Text.decode octets
  if Text.encode text = octets then some text.toList else none

/- The text of a tag from here on. -/
def tagText :
    (fuel : Nat) → List Char → Cursor →
      Except Fault (List Char × Cursor)
  | 0, done, c => .ok (done, c)
  | fuel + 1, done, c =>
      let (piece, c) := c.span isTagChar
      let done := done ++ piece
      if c.peek = '%' then do
        let (octets, c) ← tagOctets (c.left + 1) [] c
        match strictText? octets with
        | none => .error (c.fault .lexical)
        | some text => tagText fuel (done ++ text) c
      else .ok (done, c)

/- The text of a tag, which must not be empty. -/
def tagUri
    (c : Cursor) : Except Fault (String × Cursor) := do
  let (text, after) ← tagText (c.left + 1) [] c
  if after.index = c.index then .error (c.fault .lexical)
  else return (String.ofList text, after)

/- A handle: exclamation marks around an optional word. -/
def tagHandle
    (c : Cursor) : Except Fault (String × Cursor) :=
  if c.peek ≠ '!' then .error (c.fault .lexical)
  else if c.peek 1 = ' ' then .ok ("!", c.next)
  else
    let (name, after) := c.next.span isWordChar
    if after.peek = '!' then
      .ok (String.ofList ('!' :: name ++ ['!']), after.next)
    else .error (after.fault .lexical)

/-
  The place of the second exclamation mark of the tag here, or
  of its end, counted from the first mark.
-/
def markPlace
    (c : Cursor) : Nat :=
  (c.next.rest.takeWhile fun ch =>
    !isSpaceOrStop ch && ch ≠ '!').length + 1

/- The handle and the place behind it, for a tag that starts here. -/
def handle
    (c : Cursor) : Except Fault (String × Cursor) :=
  let place := markPlace c
  let c := c.demand place
  if c.peek place = '!' then tagHandle c else .ok ("!", c.next)

/- The tag that starts here. -/
def tag
    (c : Cursor) : Except Fault (Lexeme × Cursor) := do
  let c := c.demand 1
  let next := c.peek 1
  let (name, suffix, c) ←
    if next = '<' then do
      let (suffix, c) ← tagUri (c.advance 2)
      if c.peek = '>' then pure (none, suffix, c.next)
      else .error (c.fault .lexical)
    else if isGap next then pure (none, "!", c.next)
    else do
      let (name, c) ← handle c
      let (suffix, c) ← tagUri c
      pure (some name, suffix, c)
  if isSpaceOrStop c.peek then return (.tag name suffix, c)
  else .error (c.fault .lexical)

------------------------------------------------------------
-- Directives
------------------------------------------------------------

/- A decimal number, which must not have too many digits. -/
def directiveNumber
    (c : Cursor) : Except Fault (Nat × Cursor) :=
  match c.span Json.isDigit with
  | ([], _) => .error (c.fault .lexical)
  | (digits, after) =>
      if Value.maxDigits < digits.length then
        .error (after.fault (.value (.longInteger digits.length)))
      else .ok (Json.natOf digits, after)

/- The version that a directive asks for. -/
def versionDirective
    (c : Cursor) : Except Fault (Lexeme × Cursor) := do
  let (major, c) ← directiveNumber c.skipSpaces
  if c.peek = '.' then
    let (_, c) ← directiveNumber c.next
    if isSpaceOrStop c.peek then return (.versionDirective major, c)
    else .error (c.fault .lexical)
  else .error (c.fault .lexical)

/- A handle for tags and what it stands for. -/
def tagDirective
    (c : Cursor) : Except Fault (Lexeme × Cursor) := do
  let (handle, c) ← tagHandle c.skipSpaces
  if c.peek = ' ' then
    let (start, c) ← tagUri c.skipSpaces
    if isSpaceOrStop c.peek then return (.tagDirective handle start, c)
    else .error (c.fault .lexical)
  else .error (c.fault .lexical)

/- The directive that starts here. -/
def directive
    (c : Cursor) : Except Fault (Lexeme × Cursor) := do
  let (name, c) ← word c.next
  if !isSpaceOrStop c.peek then .error (c.fault .lexical)
  else
    let (lexeme, c) ←
      if name = "YAML" then versionDirective c
      else if name = "TAG" then tagDirective c
      else pure (.otherDirective, c.skip (!isStop ·))
    let c := c.skipSpaces.skipComment
    if isStop c.peek then return (lexeme, c.takeBreak.2)
    else .error (c.fault .lexical)

end Yaml

end SyntaxOutline
