import SyntaxOutline.Yaml.Label

/-
  Reading lexemes one after another.

  Whether a scalar is a key is known only when a colon follows
  it.  So a lexeme that may turn out to be a key is remembered
  with its number, and what opens a key is put before it later.
  Lexemes wait in a queue as long as one of them may still be a
  key.  A key without a question mark lies on one line and is
  not longer than 1024 characters.

  Key definitions include:
    * `Yaml.Candidate`
    * `Yaml.Lexing`
    * `Yaml.Lexing.fetch`
    * `Yaml.Lexing.peek`
    * `Yaml.Lexing.take`
-/

------------------------------------------------------------
-- State
------------------------------------------------------------

namespace SyntaxOutline

namespace Yaml

/- A lexeme that may start a key: its number and its place. -/
structure Candidate where
  number : Nat
  required : Bool
  index : Nat
  line : Nat
  column : Nat
  deriving Repr, DecidableEq

/-
  The state of reading.  `flow` counts open brackets, `indent`
  is the column of the innermost block, and `taken` counts the
  lexemes that have left the queue.
-/
structure Lexing where
  cursor : Cursor
  queue : List Lexeme := []
  taken : Nat := 0
  done : Bool := false
  flow : Int := 0
  indent : Int := -1
  outer : List Int := []
  allowKey : Bool := true
  candidates : List (Int × Candidate) := []
  deriving Repr, Inhabited

namespace Lexing

/- Reading stands inside brackets. -/
def inFlow
    (s : Lexing) : Bool :=
  s.flow ≠ 0

/- The state with one more lexeme at the end of the queue. -/
def push
    (s : Lexing)
    (lexeme : Lexeme) : Lexing :=
  { s with queue := s.queue ++ [lexeme] }

/- The state with a lexeme before the one of a number. -/
def insertAt
    (s : Lexing)
    (number : Nat)
    (lexeme : Lexeme) : Lexing :=
  let place := number - s.taken
  { s with
    queue := s.queue.take place ++ lexeme :: s.queue.drop place }

/- The state with a lexeme of some characters. -/
def pushOver
    (s : Lexing)
    (count : Nat)
    (lexeme : Lexeme) : Lexing :=
  { s with cursor := s.cursor.advance count }.push lexeme

------------------------------------------------------------
-- Candidates
------------------------------------------------------------

/- Drop the candidate of the current level. -/
def dropCandidate
    (s : Lexing) : Except Fault Lexing :=
  match s.candidates.lookup s.flow with
  | none => .ok s
  | some candidate =>
      if candidate.required then .error (s.cursor.fault .lexical)
      else
        .ok { s with
          candidates := s.candidates.filter (·.1 ≠ s.flow) }

/- Remember that the next lexeme may be a key. -/
def saveCandidate
    (s : Lexing) : Except Fault Lexing :=
  if s.allowKey then do
    let required : Bool := !s.inFlow && s.indent = s.cursor.column
    let t ← s.dropCandidate
    return { t with
      candidates :=
        t.candidates ++
          [(t.flow,
            ⟨t.taken + t.queue.length, required, t.cursor.index,
              t.cursor.line, t.cursor.column⟩)] }
  else .ok s

/- The candidate cannot be a key any more. -/
def isStale
    (s : Lexing)
    (candidate : Candidate) : Bool :=
  candidate.line ≠ s.cursor.line ||
    candidate.index + 1024 < s.cursor.index

/- Drop all candidates that cannot be keys any more. -/
def dropStale
    (s : Lexing) : Except Fault Lexing :=
  if s.candidates.any fun (_, c) => s.isStale c && c.required then
    .error (s.cursor.fault .lexical)
  else
    .ok { s with
      candidates := s.candidates.filter fun (_, c) => !s.isStale c }

/- The least number of a candidate. -/
def firstCandidate?
    (s : Lexing) : Option Nat :=
  (s.candidates.map (·.2.number)).min?

------------------------------------------------------------
-- Indentation
------------------------------------------------------------

/- Close all blocks that lie right of a column. -/
def closeBlocks
    (column indent : Int)
    (s : Lexing) :
    List Int → Lexing
  | [] => { s with indent := indent, outer := [] }
  | next :: rest =>
      if column < indent then
        closeBlocks column next (s.push .blockEnd) rest
      else { s with indent := indent, outer := next :: rest }

/- Close all blocks that end before a column. -/
def unwind
    (s : Lexing)
    (column : Int) : Lexing :=
  if s.inFlow then s else closeBlocks column s.indent s s.outer

/- Open a block at a column, if it lies right of the others. -/
def opensBlock
    (s : Lexing)
    (column : Nat) : Option Lexing :=
  if s.indent < column then
    some { s with indent := column, outer := s.indent :: s.outer }
  else none

/- Open a block here and say so, if it lies right of the others. -/
def openBlock
    (s : Lexing)
    (lexeme : Lexeme) : Lexing :=
  match s.opensBlock s.cursor.column with
  | some t => t.push lexeme
  | none => s

------------------------------------------------------------
-- Lexemes One By One
------------------------------------------------------------

/- The end of the document. -/
def fetchEnd
    (s : Lexing) : Except Fault Lexing := do
  let s ← (s.unwind (-1)).dropCandidate
  return { s with allowKey := false, candidates := [], done := true }
    |>.push .streamEnd

/- A directive. -/
def fetchDirective
    (s : Lexing) : Except Fault Lexing := do
  let s ← (s.unwind (-1)).dropCandidate
  let (lexeme, cursor) ← directive s.cursor
  return { s with allowKey := false, cursor := cursor }.push lexeme

/- A line that divides documents. -/
def fetchDivider
    (s : Lexing)
    (lexeme : Lexeme) : Except Fault Lexing := do
  let s ← (s.unwind (-1)).dropCandidate
  return { s with allowKey := false }.pushOver 3 lexeme

/- An opening bracket. -/
def fetchOpening
    (s : Lexing)
    (lexeme : Lexeme) : Except Fault Lexing := do
  let s ← s.saveCandidate
  return { s with flow := s.flow + 1, allowKey := true }.pushOver 1 lexeme

/- A closing bracket. -/
def fetchClosing
    (s : Lexing)
    (lexeme : Lexeme) : Except Fault Lexing := do
  let s ← s.dropCandidate
  return { s with flow := s.flow - 1, allowKey := false }.pushOver 1 lexeme

/- A comma. -/
def fetchComma
    (s : Lexing) : Except Fault Lexing := do
  let s ← { s with allowKey := true }.dropCandidate
  return s.pushOver 1 .flowEntry

/- The hyphen before an entry of a block. -/
def fetchEntry
    (s : Lexing) : Except Fault Lexing := do
  if !s.inFlow && !s.allowKey then .error (s.cursor.fault .lexical)
  else
    let s := if s.inFlow then s else s.openBlock .blockSequenceStart
    let s ← { s with allowKey := true }.dropCandidate
    return s.pushOver 1 .blockEntry

/- The question mark before a key. -/
def fetchKey
    (s : Lexing) : Except Fault Lexing := do
  if !s.inFlow && !s.allowKey then .error (s.cursor.fault .lexical)
  else
    let s := if s.inFlow then s else s.openBlock .blockMappingStart
    let s ← { s with allowKey := !s.inFlow }.dropCandidate
    return s.pushOver 1 .key

/- The colon behind a key that was a candidate. -/
def fetchValueOf
    (s : Lexing)
    (candidate : Candidate) : Lexing :=
  let s :=
    { s with candidates := s.candidates.filter (·.1 ≠ s.flow) }.insertAt
      candidate.number .key
  let s :=
    if s.inFlow then s
    else
      match s.opensBlock candidate.column with
      | some t => t.insertAt candidate.number .blockMappingStart
      | none => s
  { s with allowKey := false }.pushOver 1 .value

/- A colon. -/
def fetchValue
    (s : Lexing) : Except Fault Lexing :=
  match s.candidates.lookup s.flow with
  | some candidate => .ok (s.fetchValueOf candidate)
  | none => do
      if !s.inFlow && !s.allowKey then .error (s.cursor.fault .lexical)
      else
        let s := if s.inFlow then s else s.openBlock .blockMappingStart
        let s ← { s with allowKey := !s.inFlow }.dropCandidate
        return s.pushOver 1 .value

/- A lexeme that may be a key, read by the given function. -/
def fetchWith
    (s : Lexing)
    (read : Cursor → Except Fault (Lexeme × Cursor)) :
    Except Fault Lexing := do
  let s ← s.saveCandidate
  let (lexeme, cursor) ← read s.cursor
  return { s with allowKey := false, cursor := cursor }.push lexeme

/- A scalar in a block. -/
def fetchBlock
    (s : Lexing)
    (isFolded : Bool) : Except Fault Lexing := do
  let s ← { s with allowKey := true }.dropCandidate
  let (text, cursor) ← blockScalar isFolded s.indent s.cursor
  return { s with cursor := cursor }.push
    (.scalar (pointsOf text) false)

/- A plain scalar; a new line behind it may start a key. -/
def fetchPlain
    (s : Lexing) : Except Fault Lexing := do
  let s ← s.saveCandidate
  let (text, broken, cursor) :=
    plain s.inFlow (s.indent + 1).toNat s.cursor
  return { s with allowKey := broken, cursor := cursor }.push
    (.scalar (pointsOf text) true)

------------------------------------------------------------
-- The Next Lexeme
------------------------------------------------------------

/- Skip spaces, comments and line breaks. -/
def skipBlanks : (fuel : Nat) → Lexing → Lexing
  | 0, s => s
  | fuel + 1, s =>
      let cursor := s.cursor.skipSpaces.skipComment
      match cursor.takeBreak with
      | ([], _) => { s with cursor := cursor }
      | (_, behind) =>
          skipBlanks fuel { s with
            cursor := behind
            allowKey := s.allowKey || !s.inFlow }

/- The place behind a byte order mark at the very start. -/
def skipByteOrderMark
    (s : Lexing) : Lexing :=
  if s.cursor.index = 0 ∧ s.cursor.peek = '\uFEFF' then
    { s with cursor := s.cursor.next }
  else s

/- A character that no lexeme starts with, unless one is plain. -/
def startsNothing
    (s : Lexing) : Bool :=
  let c := s.cursor.peek
  c = '\t' || c = '@' || c = '\x60' ||
    (c = '%' && s.cursor.column ≠ 0) ||
    (s.inFlow && (c = '|' || c = '>'))

/-
  The state with as much looked at as the next lexeme takes to be
  told from others.
-/
def lookAhead
    (s : Lexing) : Lexing :=
  let c := s.cursor.peek
  let cursor :=
    if s.cursor.column = 0 ∧ (c = '-' ∨ c = '.') then
      s.cursor.seekDivider
    else if c = '-' ∨ (!s.inFlow ∧ (c = '?' ∨ c = ':')) then
      s.cursor.demand 1
    else if s.startsNothing then s.cursor.demand 1
    else s.cursor
  { s with cursor := cursor }

/- Plain text can start here. -/
def startsPlain
    (s : Lexing) : Bool :=
  let c := s.cursor.peek
  !(isGap c || "-?:,[]\x7b\x7d#&*!|>\x27\x22%@\x60".toList.contains c) ||
    (!isGap (s.cursor.peek 1) &&
      (c = '-' || (!s.inFlow && (c = '?' || c = ':'))))

/- The text read so far starts a line that divides documents. -/
def startsDivider
    (s : Lexing)
    (mark : Char) : Bool :=
  s.cursor.column = 0 && s.cursor.peek = mark && s.cursor.atDivider

/- Put what is next into the queue. -/
def fetch
    (s : Lexing) : Except Fault Lexing := do
  let s := s.skipByteOrderMark
  let s := skipBlanks (s.cursor.left + 1) s
  let s ← s.dropStale
  let s := (s.unwind s.cursor.column).lookAhead
  let c := s.cursor.peek
  let gapNext : Bool := s.inFlow || isGap (s.cursor.peek 1)
  if c = endMark then s.fetchEnd
  else if c = '%' ∧ s.cursor.column = 0 then s.fetchDirective
  else if s.startsDivider '-' then s.fetchDivider .documentStart
  else if s.startsDivider '.' then s.fetchDivider .documentEnd
  else if c = '[' then s.fetchOpening .flowSequenceStart
  else if c = '\x7b' then s.fetchOpening .flowMappingStart
  else if c = ']' then s.fetchClosing .flowSequenceEnd
  else if c = '\x7d' then s.fetchClosing .flowMappingEnd
  else if c = ',' then s.fetchComma
  else if c = '-' ∧ isGap (s.cursor.peek 1) then s.fetchEntry
  else if c = '?' ∧ gapNext then s.fetchKey
  else if c = ':' ∧ gapNext then s.fetchValue
  else if c = '*' then
    s.fetchWith fun cursor => do
      let (name, cursor) ← anchorName cursor
      return (.reference name, cursor)
  else if c = '&' then
    s.fetchWith fun cursor => do
      let (name, cursor) ← anchorName cursor
      return (.anchor name, cursor)
  else if c = '!' then s.fetchWith tag
  else if c = '|' ∧ !s.inFlow then s.fetchBlock false
  else if c = '>' ∧ !s.inFlow then s.fetchBlock true
  else if c = '\x27' ∨ c = '\x22' then
    s.fetchWith fun cursor => do
      let (text, cursor) ← quoted cursor
      return (.scalar text false, cursor)
  else if s.startsPlain then s.fetchPlain
  else .error (s.cursor.fault .lexical)

------------------------------------------------------------
-- The Queue
------------------------------------------------------------

/- Fetch until the first lexeme of the queue cannot change. -/
def fill : (fuel : Nat) → Lexing → Except Fault Lexing
  | 0, s => .ok s
  | fuel + 1, s => do
      if s.done then return s
      else if s.queue.isEmpty then fill fuel (← s.fetch)
      else
        let s ← s.dropStale
        if s.firstCandidate? = some s.taken then fill fuel (← s.fetch)
        else return s

/- The state with its queue filled. -/
def ready
    (s : Lexing) : Except Fault Lexing :=
  fill (s.cursor.left + 2) s

/- The next lexeme. -/
def peek
    (s : Lexing) : Lexeme :=
  s.queue.head?.getD .streamEnd

/- The state behind the next lexeme. -/
def take
    (s : Lexing) : Lexing :=
  { s with queue := s.queue.tail, taken := s.taken + 1 }

end Lexing

end Yaml

end SyntaxOutline
