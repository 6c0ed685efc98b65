import SyntaxOutline.Yaml.Cursor

/-
  The texts of scalars: plain, in quotes, and in blocks.

  A line break within a scalar is folded into a space, unless
  empty lines follow it, which then stand for themselves.  In
  a literal block every break is kept.  Escapes between quotes
  can give halves of characters, so the text there is one of
  code points.

  Key definitions include:
    * `Yaml.plain`
    * `Yaml.quoted`
    * `Yaml.blockScalar`
-/

------------------------------------------------------------
-- Folding
------------------------------------------------------------

namespace SyntaxOutline

namespace Yaml

/- What a break and the breaks behind it become. -/
def folded
    (lineBreak : List Char)
    (breaks : List Char) : List Char :=
  if lineBreak ≠ ['\n'] then lineBreak ++ breaks
  else if breaks.isEmpty then [' ']
  else breaks

------------------------------------------------------------
-- Plain Scalars
------------------------------------------------------------

/- A character that ends a piece of plain text. -/
def endsPlain
    (inFlow : Bool)
    (c next : Char) : Bool :=
  isGap c ||
    (c = ':' && (isGap next || (inFlow && ",[]\x7b\x7d".toList.contains next))) ||
    (inFlow && ",?[]\x7b\x7d".toList.contains c)

/- The piece of plain text that starts here. -/
def plainPiece
    (inFlow : Bool) :
    List Char → List Char
  | [] => []
  | c :: rest =>
      if endsPlain inFlow c (rest.head?.getD endMark) then []
      else c :: plainPiece inFlow rest

/-
  The empty lines that follow a break inside plain text, or
  `none` when a line divides documents.
-/
def plainBreaks :
    (fuel : Nat) → List Char → Cursor → Option (List Char) × Cursor
  | 0, done, c => (some done, c)
  | fuel + 1, done, c =>
      if c.peek = ' ' then plainBreaks fuel done c.next
      else if isBreak c.peek then
        let (lineBreak, c) := c.takeBreak
        let c := c.seekDivider
        if c.atDivider then (none, c)
        else plainBreaks fuel (done ++ lineBreak) c
      else (some done, c)

/- A gap inside plain text. -/
structure PlainGap where
  text : List Char
  cursor : Cursor
  broken : Bool

/-
  The gap that starts here.  It is empty where plain text has
  to end, and tells whether a line ended in it.
-/
def plainGap
    (c : Cursor) : PlainGap :=
  let (spaces, c) := c.span (· = ' ')
  if isBreak c.peek then
    let (lineBreak, c) := c.takeBreak
    let c := c.seekDivider
    if c.atDivider then ⟨[], c, true⟩
    else
      match plainBreaks (c.left + 1) [] c with
      | (none, c) => ⟨[], c, true⟩
      | (some breaks, c) => ⟨folded lineBreak breaks, c, true⟩
  else ⟨spaces, c, false⟩

/-
  The place behind a piece of plain text.  Whether a colon ends
  it is only known from what follows the colon.
-/
def behindPiece
    (c : Cursor)
    (piece : List Char) : Cursor :=
  let c := c.advance piece.length
  if c.peek = ':' then c.demand 1 else c

/-
  A plain scalar: text, line just ended, place behind it.  The
  text is kept with its last character first.
-/
def plainFrom
    (inFlow : Bool)
    (indent : Nat) :
    (fuel : Nat) → (done gap : List Char) → (broken : Bool) →
      Cursor → List Char × Bool × Cursor
  | 0, done, _, broken, c => (done, broken, c)
  | fuel + 1, done, gap, broken, c =>
      if c.peek = '#' then (done, broken, c)
      else
        match plainPiece inFlow c.rest with
        | [] => (done, broken, behindPiece c [])
        | piece =>
            let done := piece.reverseAux (gap.reverseAux done)
            let next := plainGap (behindPiece c piece)
            if next.text.isEmpty || next.cursor.peek = '#' ||
                (!inFlow && next.cursor.column < indent) then
              (done, next.broken, next.cursor)
            else
              plainFrom inFlow indent fuel done next.text next.broken
                next.cursor

/- The plain scalar that starts here. -/
def plain
    (inFlow : Bool)
    (indent : Nat)
    (c : Cursor) : List Char × Bool × Cursor :=
  let (done, broken, c) :=
    plainFrom inFlow indent (c.left + 1) [] [] false c
  (done.reverse, broken, c)

------------------------------------------------------------
-- Escapes
------------------------------------------------------------

/- What an escaped character stands for. -/
def escaped?
    (c : Char) : Option Char :=
  if c = '0' then some '\x00'
  else if c = 'a' then some '\x07'
  else if c = 'b' then some '\x08'
  else if c = 't' ∨ c = '\t' then some '\t'
  else if c = 'n' then some '\n'
  else if c = 'v' then some '\x0B'
  else if c = 'f' then some '\x0C'
  else if c = 'r' then some '\r'
  else if c = 'e' then some '\x1B'
  else if c = ' ' ∨ c = '\x22' ∨ c = '\\' ∨ c = '/' then some c
  else if c = 'N' then some '\x85'
  else if c = '_' then some '\xA0'
  else if c = 'L' then some '\u2028'
  else if c = 'P' then some '\u2029'
  else none

/- The number of digits behind the letter of a code. -/
def codeWidth?
    (c : Char) : Option Nat :=
  if c = 'x' then some 2
  else if c = 'u' then some 4
  else if c = 'U' then some 8
  else none

/- The hexadecimal digits here, at most a number of them. -/
def hexDigits
    (width : Nat)
    (c : Cursor) : List Char :=
  (c.ahead width).takeWhile fun d => (Json.hexValue? d).isSome

/-
  The number of hexadecimal digits that stand here, which must
  all be there.
-/
def codeAt
    (width : Nat)
    (c : Cursor) : Except Fault Nat :=
  let digits := hexDigits width c
  if digits.length < width then
    .error ((c.demand digits.length).fault .lexical)
  else
    .ok (digits.foldl
      (fun n d => n * 16 + (Json.hexValue? d).getD 0) 0)

/- A code is the code point of a character or of a half. -/
def checkCode
    (code : Nat) : Except BadValue Unit :=
  if 0x7FFFFFFF < code then .error .hugeCharacter
  else if 0x10FFFF < code then .error .character
  else .ok ()

------------------------------------------------------------
-- Scalars In Quotes
------------------------------------------------------------

/- The empty lines that follow a break inside quotes. -/
def quotedBreaks :
    (fuel : Nat) → List Char → Cursor →
      Except Fault (List Char × Cursor)
  | 0, done, c => .ok (done, c)
  | fuel + 1, done, c =>
      let c := c.seekDivider
      if c.atDivider then .error (c.fault .lexical)
      else
        let c := c.skip fun ch => ch = ' ' || ch = '\t'
        if isBreak c.peek then
          let (lineBreak, c) := c.takeBreak
          quotedBreaks fuel (done ++ lineBreak) c
        else .ok (done, c)

/- The code points of characters. -/
def pointsOf
    (chars : List Char) : List Nat :=
  chars.map Char.toNat

/- What an escape stands for, and the place behind it. -/
def escape
    (c : Cursor) : Except Fault (List Nat × Cursor) :=
  let ch := c.peek
  match escaped? ch, codeWidth? ch with
  | some e, _ => .ok ([e.toNat], c.next)
  | none, some width => do
      let c := c.next
      let code ← codeAt width c
      (checkCode code).mapError fun cause =>
        (c.demand (width - 1)).fault (.value cause)
      return ([code], c.advance width)
  | none, none =>
      if isBreak ch then do
        let (breaks, c) ← quotedBreaks (c.left + 1) [] c.takeBreak.2
        return (pointsOf breaks, c)
      else .error (c.fault .lexical)

/- A character that stands for itself between any quotes. -/
def isQuotedPlain
    (c : Char) : Bool :=
  !(isGap c || c = '\x27' || c = '\x22' || c = '\\')

/-
  Text between quotes up to a gap or the closing quote, with the
  last code point first.
-/
def quotedPieces
    (double : Bool) :
    (fuel : Nat) → List Nat → Cursor →
      Except Fault (List Nat × Cursor)
  | 0, done, c => .ok (done, c)
  | fuel + 1, done, c =>
      let (piece, c) := c.span isQuotedPlain
      let done := (pointsOf piece).reverseAux done
      let ch := c.peek
      let c := if !double && ch = '\x27' then c.demand 1 else c
      if !double && ch = '\x27' && c.peek 1 = '\x27' then
        quotedPieces double fuel (ch.toNat :: done) (c.advance 2)
      else if (double && ch = '\x27') ||
          (!double && (ch = '\x22' || ch = '\\')) then
        quotedPieces double fuel (ch.toNat :: done) c.next
      else if double && ch = '\\' then do
        let (text, c) ← escape c.next
        quotedPieces double fuel (text.reverseAux done) c
      else .ok (done, c)

/- The gap between quotes that starts here. -/
def quotedGap
    (c : Cursor) : Except Fault (List Char × Cursor) :=
  let (blanks, c) := c.span fun ch => ch = ' ' || ch = '\t'
  if c.peek = endMark then .error (c.fault .lexical)
  else if isBreak c.peek then do
    let (lineBreak, c) := c.takeBreak
    let (breaks, c) ← quotedBreaks (c.left + 1) [] c
    return (folded lineBreak breaks, c)
  else .ok (blanks, c)

/- The rest of a scalar in quotes. -/
def quotedFrom
    (double : Bool)
    (quote : Char) :
    (fuel : Nat) → List Nat → Cursor →
      Except Fault (List Nat × Cursor)
  | 0, _, c => .error (c.fault .lexical)
  | fuel + 1, done, c => do
      let (done, c) ← quotedPieces double (c.left + 1) done c
      if c.peek = quote then return (done.reverse, c.next)
      else
        let (gap, c) ← quotedGap c
        quotedFrom double quote fuel ((pointsOf gap).reverseAux done) c

/- The code points of the scalar in quotes that starts here. -/
def quoted
    (c : Cursor) : Except Fault (List Nat × Cursor) :=
  let quote := c.peek
  quotedFrom (quote = '\x22') quote (c.left + 1) [] c.next

------------------------------------------------------------
-- Scalars In Blocks
------------------------------------------------------------

/- What becomes of the breaks at the end of a block. -/
inductive Chomping where
  | clip
  | strip
  | keep
  deriving DecidableEq, Repr

/- The sign of chomping. -/
def chomping?
    (c : Char) : Option Chomping :=
  if c = '+' then some .keep
  else if c = '-' then some .strip
  else none

/- The step of indentation that a digit gives. -/
def increment?
    (c : Cursor) : Except Fault (Option Nat) :=
  let digit := c.peek
  if Json.isDigit digit then
    if digit = '0' then .error (c.fault .lexical)
    else .ok (some (digit.toNat - 48))
  else .ok none

/- Chomping and indentation in the head of a block. -/
def blockHead
    (c : Cursor) :
    Except Fault (Chomping × Option Nat × Cursor) := do
  let (chomping, increment, c) ←
    match chomping? c.peek with
    | some chomping => do
        let c := c.next
        match ← increment? c with
        | some n => pure (chomping, some n, c.next)
        | none => pure (chomping, none, c)
    | none => do
        match ← increment? c with
        | some n =>
            let c := c.next
            match chomping? c.peek with
            | some chomping => pure (chomping, some n, c.next)
            | none => pure (.clip, some n, c)
        | none => pure (.clip, none, c)
  if !isSpaceOrStop c.peek then .error (c.fault .lexical)
  else
    let c := c.skipSpaces.skipComment
    if isStop c.peek then return (chomping, increment, c.takeBreak.2)
    else .error (c.fault .lexical)

/- The empty lines before a block, and its widest indentation. -/
def blockStart :
    (fuel : Nat) → (done : List Char) → (widest : Nat) → Cursor →
      List Char × Nat × Cursor
  | 0, done, widest, c => (done, widest, c)
  | fuel + 1, done, widest, c =>
      if c.peek = ' ' then
        let c := c.next
        blockStart fuel done (max widest c.column) c
      else if isBreak c.peek then
        let (lineBreak, c) := c.takeBreak
        blockStart fuel (done ++ lineBreak) widest c
      else (done, widest, c)

/- The place behind spaces that lie left of the indentation. -/
def skipIndent
    (indent : Nat)
    (c : Cursor) : Cursor :=
  c.advance
    ((c.rest.take (indent - c.column)).takeWhile (· = ' ')).length

/- The empty lines between the lines of a block. -/
def blockBreaks
    (indent : Nat) :
    (fuel : Nat) → List Char → Cursor → List Char × Cursor
  | 0, done, c => (done, c)
  | fuel + 1, done, c =>
      let c := skipIndent indent c
      if isBreak c.peek then
        let (lineBreak, c) := c.takeBreak
        blockBreaks indent fuel (done ++ lineBreak) c
      else (done, c)

/- A blank at the start of a line of a block. -/
def startsBlank
    (c : Cursor) : Bool :=
  c.peek = ' ' || c.peek = '\t'

/-
  The lines of a block, and the breaks behind them.  The lines
  are kept with their last character first.
-/
def blockLines
    (isFolded : Bool)
    (indent : Nat) :
    (fuel : Nat) → (done lineBreak breaks : List Char) → Cursor →
      List Char × List Char × List Char × Cursor
  | 0, done, lineBreak, breaks, c => (done, lineBreak, breaks, c)
  | fuel + 1, done, lineBreak, breaks, c =>
      if c.column ≠ indent ∨ c.peek = endMark then
        (done, lineBreak, breaks, c)
      else
        let blank := startsBlank c
        let (text, c) := c.span (!isStop ·)
        let done := text.reverseAux (breaks.reverseAux done)
        let (lineBreak, c) := c.takeBreak
        let (breaks, c) := blockBreaks indent (c.left + 1) [] c
        if c.column ≠ indent ∨ c.peek = endMark then
          (done, lineBreak, breaks, c)
        else
          let between :=
            if isFolded && lineBreak = ['\n'] && !blank &&
                !startsBlank c then
              if breaks.isEmpty then [' '] else []
            else lineBreak
          blockLines isFolded indent fuel (between.reverseAux done)
            lineBreak breaks c

/- The block that starts here, in a block of given indentation. -/
def blockScalar
    (isFolded : Bool)
    (outer : Int)
    (c : Cursor) : Except Fault (List Char × Cursor) := do
  let (chomping, increment, c) ← blockHead c.next
  let least := (max (outer + 1) 1).toNat
  let fuel := c.left + 1
  let (indent, breaks, c) :=
    match increment with
    | none =>
        let (breaks, widest, c) := blockStart fuel [] 0 c
        (max least widest, breaks, c)
    | some n =>
        let indent := least + n - 1
        let (breaks, c) := blockBreaks indent fuel [] c
        (indent, breaks, c)
  let (done, lineBreak, breaks, c) :=
    blockLines isFolded indent fuel [] [] breaks c
  let tail :=
    match chomping with
    | .strip => []
    | .clip => lineBreak
    | .keep => lineBreak ++ breaks
  return (done.reverse ++ tail, c)

end Yaml

end SyntaxOutline
