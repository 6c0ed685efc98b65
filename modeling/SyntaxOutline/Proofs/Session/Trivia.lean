import SyntaxOutline.Proofs.Collapse.Leaves
import SyntaxOutline.Proofs.Span.Surroundings
import SyntaxOutline.Session

/-
  Trivia is the source between tokens, from end to end.

  A session over a source with spans in order has an outline,
  and each leaf of it comes from the place of an atomic span.
  Its leading text is the source from the end of the visible
  span before it, and its trailing text the source up to the
  start of the visible span behind it.

  Key definitions include:
    * `IsTrivia`
    * `Span.Place.IsLeaf`
    * `Collapse.IsAtomicPlace`

  Main statements:
    * `Collapse.exists_contributes_convert`
    * `Collapse.exists_collapse_convert`
    * `Session.forall₂_isLeaf_outline`
-/

------------------------------------------------------------
-- Leaves At Places
------------------------------------------------------------

namespace SyntaxOutline

/-
  The text between two octets as a leaf carries it: it is
  missing exactly when it is empty.
-/
def IsTrivia
    (content : String)
    (start stop : Int)
    (trivia : Option String) : Prop :=
  ∃ text, Text.IsExcerpt content start stop text ∧
    trivia = if text = "" then none else some text

/-
  The leaf carries the text of the span at a place, and the
  source around it up to the neighbours of the place.
-/
structure Span.Place.IsLeaf
    (content : String)
    (place : Span.Place)
    (leaf : Leaf) : Prop where
  token :
    Text.IsExcerpt content place.piece.span.start
      place.piece.span.stop leaf.token
  leading :
    IsTrivia content place.before place.piece.span.start
      leaf.leading
  trailing :
    IsTrivia content place.piece.span.stop place.after
      leaf.trailing

namespace Collapse

open SyntaxOutline.Span

variable {policy : Policy} {source : Source}
variable {content : String}

/- A terminal in its surroundings becomes a leaf of its place. -/
theorem isLeaf_of_isLeafOf
    {place : Place}
    {t : Terminal}
    {leaf : Leaf}
    (hChannel :
      policy.hiddenChannel = some Token.hiddenChannel)
    (hPlace : place.Holds content source.stream t)
    (hLeaf : IsLeafOf policy source t leaf) :
    place.IsLeaf content leaf := by
  rcases hPlace with ⟨token, rfl, hToken⟩
  rcases hLeaf with ⟨symbol, hSymbol, hLeaf⟩
  have hSame : token = symbol := Option.some.inj hSymbol
  subst hSame
  rcases hToken.before with ⟨before, hBefore, hFront⟩
  rcases hToken.after with ⟨after, hAfter, hBack⟩
  rw [← hChannel] at hBefore hAfter
  rcases leafOf_eq_ok hBefore hAfter
      (place.terminal token) with
    ⟨_, _, hMade⟩
  rw [hMade] at hLeaf
  rw [← Except.ok.inj hLeaf]
  exact ⟨hToken.text, ⟨_, hFront, rfl⟩, ⟨_, hBack, rfl⟩⟩

------------------------------------------------------------
-- Atomic Places
------------------------------------------------------------

variable (policy source content)

/-
  The span at a place is atomic, and its text is not the one
  that marks the end of the input.
-/
def IsAtomicPlace
    (place : Place) : Prop :=
  policy.endText ≠
      some (place.piece.span.text (Text.encode content)) ∧
    policy.classification.IsAtomic
      (nameAt? source.ruleNames (some place.piece.rule))
      (nameAt? source.symbolNames
        (some place.piece.span.kind))

instance
    (place : Place) :
    Decidable
      (IsAtomicPlace policy source content place) := by
  unfold IsAtomicPlace
  infer_instance

variable {policy source content}

/- A place is atomic exactly when its terminal is. -/
theorem isAtomicPlace_iff
    {place : Place}
    {t : Terminal}
    (hPlace : place.Holds content source.stream t) :
    IsAtomicPlace policy source content place ↔
      policy.endText ≠ some t.text ∧
        IsAtomicTerminal policy source t := by
  rcases hPlace with ⟨token, rfl, hToken⟩
  have hText :
      place.piece.span.text (Text.encode content) =
        token.text := hToken.text.textBetween_eq
  rw [IsAtomicPlace, hText, ← hToken.type,
    isAtomicTerminal_iff policy source rfl]
  rfl

theorem forall₂_atomicTerminals
    {places : List Place}
    {terminals : List Terminal}
    (hPlaces :
      List.Forall₂ (Place.Holds content source.stream)
        places terminals) :
    List.Forall₂ (Place.Holds content source.stream)
      (places.filter
        fun place => IsAtomicPlace policy source content place)
      (atomicTerminals policy source terminals) := by
  apply List.rel_filter _ hPlaces
  intro place t hPlace
  simpa using isAtomicPlace_iff hPlace

------------------------------------------------------------
-- Leaves Of A Conversion
------------------------------------------------------------

/- Relations one by one, put one behind the other. -/
theorem forall₂_isLeaf
    {places : List Place}
    {terminals : List Terminal}
    {leaves : List Leaf}
    (hChannel :
      policy.hiddenChannel = some Token.hiddenChannel)
    (hPlaces :
      List.Forall₂ (Place.Holds content source.stream)
        places terminals)
    (hLeaves :
      List.Forall₂ (IsLeafOf policy source) terminals
        leaves) :
    List.Forall₂ (Place.IsLeaf content) places leaves := by
  induction hPlaces generalizing leaves with
  | nil =>
      cases hLeaves
      exact .nil
  | cons hPlace _ ih =>
      cases hLeaves with
      | cons hLeaf hRest =>
          exact .cons
            (isLeaf_of_isLeafOf hChannel hPlace hLeaf)
            (ih hRest)

/- Any conversion has an outline. -/
theorem exists_contributes_convert
    (policy : Policy)
    {isToken : String → Bool}
    {root : SpanTree}
    (hStream :
      source.stream =
        (convert (Text.encode content) isToken root).2) :
    ∃ branch,
      collapse policy source
          (convert (Text.encode content) isToken root).1 =
        .ok (some branch) ∧
      Contributes policy source
        (convert (Text.encode content) isToken
          root).1.children branch := by
  have hTerminals :
      ∀ t ∈ Cst.terminalsAll
          (convert (Text.encode content) isToken
            root).1.children,
        ∃ symbol, t.symbol = some symbol ∧
          source.stream.InRange symbol.index := by
    intro t hMem
    rw [hStream]
    exact exists_symbol_convert hMem
  rcases exists_contributes hTerminals with ⟨branch, hRun⟩
  refine ⟨branch, ?_, hRun⟩
  rw [collapse_eq_some_iff]
  refine ⟨?_, hRun⟩
  rw [children_convert]
  simp

/-
  A conversion of spans in order has an outline, whose leaves
  come from the atomic places one by one.
-/
theorem exists_collapse_convert
    {isToken : String → Bool}
    {root : SpanTree}
    (hEnd : policy.endText = some endText)
    (hChannel :
      policy.hiddenChannel = some Token.hiddenChannel)
    (hStream :
      source.stream =
        (convert (Text.encode content) isToken root).2)
    (hOrder :
      StandInOrder content 0 (rootPieces isToken root)) :
    ∃ branch,
      collapse policy source
          (convert (Text.encode content) isToken root).1 =
        .ok (some branch) ∧
      List.Forall₂ (Place.IsLeaf content)
        ((rootPlaces content isToken root).filter
          fun place =>
            IsAtomicPlace policy source content place)
        branch.leaves := by
  rcases exists_contributes_convert policy hStream with
    ⟨branch, hCollapse, hRun⟩
  refine ⟨branch, hCollapse, ?_⟩
  have hPlaces := forall₂_holds_convert hOrder
  rw [← hStream] at hPlaces
  have hLeaves := hRun.forall₂_leaves
  have hSplit :=
    terminals_convert (Text.encode content) isToken root
  rw [Rule.toCst, Cst.terminals] at hSplit
  rw [hSplit, atomicTerminals, List.filter_append,
    List.filter_cons_of_neg (by simp [hEnd]),
    List.filter_nil, List.append_nil] at hLeaves
  exact forall₂_isLeaf hChannel
    (forall₂_atomicTerminals hPlaces) hLeaves

end Collapse

------------------------------------------------------------
-- Sessions
------------------------------------------------------------

namespace Session

open JavaScript SyntaxOutline.Span

/- A session opens once the plugin parses the source. -/
theorem result_openWith
    {plugin : Plugin}
    {content path language : Value}
    {parsed : ParsedSource}
    (hLanguage : plugin.language = .ok language)
    (hParsed :
      (plugin.parse content path).result = .ok parsed) :
    (openWith plugin content path).result =
      .ok ⟨plugin, language, path, parsed⟩ := by
  simp [openWith, hLanguage, hParsed]

/- A session has the outline that collapsing gives. -/
theorem result_outline
    {settings : Settings}
    {s : Session}
    {classification : Classification}
    {branch : Option Branch}
    (hClassification :
      s.plugin.classification = .ok classification)
    (hCollapse :
      Collapse.collapse (settings.policy classification)
          (Collapse.Source.ofParsed s.parsed)
          s.parsed.tree =
        .ok branch) :
    (s.outline settings).result = .ok branch := by
  simp [outline, hClassification, hCollapse]

/-
  Where the spans that become tokens stand in order, a session
  opens and has an outline.  The visible tokens of its stream,
  the end of the input apart, are those of the places of the
  visible spans, and the leaves of its outline come one by one
  from the atomic ones of these places: what they carry around
  their tokens is the source up to the neighbours, however it
  was cut into hidden tokens.
-/
theorem forall₂_isLeaf_outline
    {parser : Parser}
    {config : Value}
    {root : SpanTree}
    {types : List Value}
    {classification : Classification}
    {settings : Settings}
    {content : String}
    (hRoot : parser.outcome = .ok (some root))
    (hTypes :
      configuredSet config "token_node_types" = .ok types)
    (hClassification :
      JavaScript.classification parser.names config =
        .ok classification)
    (hEnd : settings.endText = "<EOF>")
    (hChannel : settings.hiddenChannel = 1)
    (hOrder :
      StandInOrder content 0
        (rootPieces (isTokenType types) root))
    (path : Value) :
    ∃ session symbols last branch,
      (openWith (JavaScript.plugin parser config)
          (.str content) path).result = .ok session ∧
        Token.visible session.parsed.stream.tokens =
          symbols ++ [last] ∧
        last.text = "<EOF>" ∧
        List.Forall₂ (Place.IsToken content)
          (rootPlaces content (isTokenType types) root)
          symbols ∧
        (session.outline settings).result =
          .ok (some branch) ∧
        List.Forall₂ (Place.IsLeaf content)
          ((rootPlaces content (isTokenType types)
              root).filter
            fun place =>
              Collapse.IsAtomicPlace
                (settings.policy classification)
                (Collapse.Source.ofParsed session.parsed)
                content place)
          branch.leaves := by
  have hOpen :
      (openWith (JavaScript.plugin parser config)
          (.str content) path).result =
        .ok ⟨JavaScript.plugin parser config,
          .str "javascript", path,
          parsedSource parser.names content types root⟩ :=
    result_openWith rfl
      (result_parse hRoot hTypes content path)
  rcases (interleaved_convert hOrder).forall₂_isToken with
    ⟨symbols, last, hVisible, hLast, hSymbols⟩
  have hPolicy :
      (settings.policy classification).endText =
        some endText := congrArg some hEnd
  have hHidden :
      (settings.policy classification).hiddenChannel =
        some Token.hiddenChannel := congrArg some hChannel
  have hStream :
      (Collapse.Source.ofParsed
        (parsedSource parser.names content types
          root)).stream =
        (convert (Text.encode content)
          (isTokenType types) root).2 := rfl
  rcases Collapse.exists_collapse_convert hPolicy hHidden
      hStream hOrder with
    ⟨branch, hCollapse, hLeaves⟩
  exact ⟨_, symbols, last, branch, hOpen, hVisible, hLast,
    hSymbols, result_outline hClassification hCollapse,
    hLeaves⟩

/- Identifiers and strings are the atomic tokens of the note. -/
def noteClassification : Classification where
  symbolNames := ["identifier", "string"]
  identifierName := "identifier"

/- The leaves of the note carry its comment and its blank. -/
theorem forall₂_isLeaf_of_note :
    noteParser.outcome = .ok (some noteTree) ∧
      configuredSet noteConfig "token_node_types" =
        .ok [.str "string"] ∧
      JavaScript.classification noteParser.names noteConfig =
        .ok noteClassification ∧
      StandInOrder noteText 0
        (rootPieces (isTokenType [.str "string"])
          noteTree) ∧
      ∃ session symbols last branch,
        (openWith (JavaScript.plugin noteParser noteConfig)
            (.str noteText) .null).result = .ok session ∧
          Token.visible session.parsed.stream.tokens =
            symbols ++ [last] ∧
          last.text = "<EOF>" ∧
          List.Forall₂ (Place.IsToken noteText)
            (rootPlaces noteText
              (isTokenType [.str "string"]) noteTree)
            symbols ∧
          (session.outline {}).result = .ok (some branch) ∧
          List.Forall₂ (Place.IsLeaf noteText)
            ((rootPlaces noteText
                (isTokenType [.str "string"])
                noteTree).filter
              fun place =>
                Collapse.IsAtomicPlace
                  (Settings.policy {} noteClassification)
                  (Collapse.Source.ofParsed session.parsed)
                  noteText place)
            branch.leaves := by
  have hClassification :
      JavaScript.classification noteParser.names noteConfig =
        .ok noteClassification := rfl
  exact ⟨rfl, configuredSet_note, hClassification,
    standInOrder_note,
    forall₂_isLeaf_outline rfl configuredSet_note
      hClassification rfl rfl standInOrder_note .null⟩

end Session

end SyntaxOutline
