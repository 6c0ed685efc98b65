import SyntaxOutline.Proofs.Collapse.Expansion
import SyntaxOutline.Proofs.Session.Trivia

/-
  Leaves are the atomic tokens of the stream.

  The terminals of a conversion show the visible tokens of its
  stream, so those that become leaves can be told by their
  tokens alone.  The end of the input is told by its text: a
  token of the source that reads the same gives no leaf, however
  atomic it is.

  Key definitions include:
    * `Collapse.IsAtomicToken`
    * `Collapse.IsLeafFrom`

  Main statements:
    * `Collapse.isAtomicToken_iff`
    * `Collapse.map_symbol_atomicTerminals`
    * `Collapse.Contributes.forall₂_isLeafFrom`
    * `Session.forall₂_isLeafFrom_outline`
-/

------------------------------------------------------------
-- Atomic Tokens
------------------------------------------------------------

namespace SyntaxOutline

namespace Collapse

open SyntaxOutline.Span

variable (policy : Policy) (source : Source) (tree : Rule)

/- The token belongs to an atomic terminal of the tree. -/
def IsAtomicToken
    (token : Token) : Prop :=
  ∃ t ∈ tree.toCst.terminals,
    t.symbol = some token ∧ IsAtomicTerminal policy source t

instance
    (token : Token) :
    Decidable (IsAtomicToken policy source tree token) := by
  unfold IsAtomicToken
  infer_instance

/-
  The token becomes a leaf: it is atomic, and its text is not
  the one that marks the end of the input.
-/
def GivesLeaf
    (token : Token) : Prop :=
  policy.endText ≠ some token.text ∧
    IsAtomicToken policy source tree token

instance
    (token : Token) :
    Decidable (GivesLeaf policy source tree token) := by
  unfold GivesLeaf
  infer_instance

/-
  The leaf carries the text of the token and is made from the
  terminal of the tree that the token belongs to.
-/
def IsLeafFrom
    (token : Token)
    (leaf : Leaf) : Prop :=
  leaf.token = token.text ∧
    ∃ t ∈ tree.toCst.terminals,
      t.symbol = some token ∧
        leafOf policy source t token = .ok leaf

variable {policy source tree}

/- A token belongs to one terminal only, so it is as atomic. -/
theorem isAtomicToken_iff
    (hShows : ShowsTokens tree source.stream.tokens)
    {t : Terminal}
    {token : Token}
    (hMem : t ∈ tree.toCst.terminals)
    (hSymbol : t.symbol = some token) :
    IsAtomicToken policy source tree token ↔
      IsAtomicTerminal policy source t := by
  constructor
  · rintro ⟨other, hOther, hSame, hAtomic⟩
    have hEq : other = t :=
      List.inj_on_of_nodup_map hShows.once hOther hMem
        (hSame.trans hSymbol.symm)
    rw [← hEq]
    exact hAtomic
  · intro hAtomic
    exact ⟨t, hMem, hSymbol, hAtomic⟩

/- The terminals that become leaves, told by their tokens. -/
theorem atomicTerminals_eq
    (hShows : ShowsTokens tree source.stream.tokens) :
    atomicTerminals policy source tree.toCst.terminals =
      tree.toCst.terminals.filter
        ((Option.any fun token =>
          GivesLeaf policy source tree token) ∘
          (·.symbol)) := by
  apply List.filter_congr
  intro t hMem
  rcases Option.map_eq_some_iff.mp (hShows.texts t hMem) with
    ⟨token, hSymbol, hText⟩
  simp [GivesLeaf, hSymbol, hText,
    isAtomicToken_iff hShows hMem hSymbol]

/- Their tokens are the visible ones that become leaves. -/
theorem map_symbol_atomicTerminals
    (hShows : ShowsTokens tree source.stream.tokens) :
    (atomicTerminals policy source
        tree.toCst.terminals).map (·.symbol) =
      ((Token.visible source.stream.tokens).filter
        fun token =>
          GivesLeaf policy source tree token).map some := by
  rw [atomicTerminals_eq hShows, ← List.filter_map,
    hShows.symbols, List.filter_map]
  rfl

/- The leaf of a terminal is made from its token. -/
theorem isLeafFrom_of_isLeafOf
    (hShows : ShowsTokens tree source.stream.tokens)
    {t : Terminal}
    {token : Token}
    {leaf : Leaf}
    (hMem : t ∈ tree.toCst.terminals)
    (hSymbol : t.symbol = some token)
    (hLeaf : IsLeafOf policy source t leaf) :
    IsLeafFrom policy source tree token leaf := by
  rcases hLeaf with ⟨symbol, hOther, hMade⟩
  rcases Option.map_eq_some_iff.mp (hShows.texts t hMem) with
    ⟨shown, hShown, hText⟩
  rw [hSymbol] at hOther hShown
  cases hOther
  cases hShown
  exact ⟨(token_of_leafOf hMade).trans hText.symm, t, hMem,
    hSymbol, hMade⟩

/-
  Collapsing a tree that shows the tokens of its stream makes
  its leaves from the atomic visible ones, one by one.
-/
theorem Contributes.forall₂_isLeafFrom
    {branch : Branch}
    (hShows : ShowsTokens tree source.stream.tokens)
    (hRun : Contributes policy source tree.children branch) :
    List.Forall₂ (IsLeafFrom policy source tree)
      ((Token.visible source.stream.tokens).filter
        fun token => GivesLeaf policy source tree token)
      branch.leaves := by
  -- Along the terminals each leaf is related to the token that
  -- its terminal has; then the terminals can be left out.
  have hLeaves :
      List.Forall₂
        (fun symbol leaf =>
          ∀ token, symbol = some token →
            IsLeafFrom policy source tree token leaf)
        ((atomicTerminals policy source
          tree.toCst.terminals).map (·.symbol))
        branch.leaves := by
    rw [List.forall₂_map_left_iff]
    have hMembers :=
      (List.forall₂_and_left
        (p := (· ∈ tree.toCst.terminals)) _ _).mpr
        ⟨fun t hMem => List.mem_of_mem_filter hMem,
          hRun.forall₂_leaves⟩
    refine hMembers.imp ?_
    rintro t leaf ⟨hMem, hLeaf⟩ token hSymbol
    exact isLeafFrom_of_isLeafOf hShows hMem hSymbol hLeaf
  rw [map_symbol_atomicTerminals hShows,
    List.forall₂_map_left_iff] at hLeaves
  exact hLeaves.imp fun token leaf hLeaf => hLeaf token rfl

/- Such leaves carry the texts of the tokens. -/
theorem map_token_of_forall₂
    {tokens : List Token}
    {leaves : List Leaf}
    (hLeaves :
      List.Forall₂ (IsLeafFrom policy source tree) tokens
        leaves) :
    leaves.map (·.token) = tokens.map (·.text) := by
  rw [← List.forall₂_eq_eq_eq, List.forall₂_map_left_iff,
    List.forall₂_map_right_iff]
  exact hLeaves.flip.imp fun leaf token hLeaf => hLeaf.1

------------------------------------------------------------
-- Leaves Of Any Conversion
------------------------------------------------------------

/-
  A conversion has an outline, whose leaves are made from the
  visible tokens before the last one: from the atomic ones that
  do not read like it.
-/
theorem exists_collapse_tokens
    {content : String}
    {isToken : String → Bool}
    {root : SpanTree}
    (hEnd : policy.endText = some endText)
    (hTree :
      tree = (convert (Text.encode content) isToken root).1)
    (hStream :
      source.stream =
        (convert (Text.encode content) isToken root).2) :
    ∃ symbols last branch,
      Token.visible source.stream.tokens =
          symbols ++ [last] ∧
        source.stream.tokens.getLast? = some last ∧
        last.text = endText ∧ last.type = Token.endType ∧
        collapse policy source tree = .ok (some branch) ∧
        List.Forall₂ (IsLeafFrom policy source tree)
          (symbols.filter fun token =>
            token.text ≠ endText ∧
              IsAtomicToken policy source tree token)
          branch.leaves := by
  have hTokens :=
    tokens_convert (Text.encode content) isToken root
  have hVisible := congrArg Token.visible hTokens
  rw [Token.visible_append, Token.visible_singleton rfl]
    at hVisible
  rw [← hStream] at hTokens hVisible
  have hShows : ShowsTokens tree source.stream.tokens := by
    rw [hTree, hStream]
    exact showsTokens_convert (Text.encode content) isToken
      root
  rcases exists_contributes_convert policy hStream with
    ⟨branch, hCollapse, hRun⟩
  rw [← hTree] at hCollapse hRun
  have hLeaves := hRun.forall₂_isLeafFrom hShows
  rw [hVisible, List.filter_append,
    List.filter_cons_of_neg
      (by simp [GivesLeaf, hEnd, Tape.ending]),
    List.filter_nil, List.append_nil] at hLeaves
  refine ⟨_, _, branch, hVisible, ?_, rfl, rfl, hCollapse,
    ?_⟩
  · rw [hTokens, List.getLast?_concat]
  · simpa [GivesLeaf, hEnd, eq_comm] using hLeaves

end Collapse

------------------------------------------------------------
-- Sessions
------------------------------------------------------------

namespace Session

open JavaScript SyntaxOutline.Span

/-
  Whatever the spans, a session opens and has an outline, and
  the end of the input is the last token of its stream.  The
  leaves of the outline are made, one by one and in order, from
  all other visible tokens that are atomic and do not read like
  the end of the input.
-/
theorem forall₂_isLeafFrom_outline
    {parser : Parser}
    {config : Value}
    {root : SpanTree}
    {types : List Value}
    {classification : Classification}
    {settings : Settings}
    (hRoot : parser.outcome = .ok (some root))
    (hTypes :
      configuredSet config "token_node_types" = .ok types)
    (hClassification :
      JavaScript.classification parser.names config =
        .ok classification)
    (hEnd : settings.endText = "<EOF>")
    (content : String)
    (path : Value) :
    ∃ session symbols last branch,
      (openWith (JavaScript.plugin parser config)
          (.str content) path).result = .ok session ∧
        Token.visible session.parsed.stream.tokens =
          symbols ++ [last] ∧
        session.parsed.stream.tokens.getLast? =
          some last ∧
        last.text = "<EOF>" ∧ last.type = -1 ∧
        (session.outline settings).result =
          .ok (some branch) ∧
        List.Forall₂
          (Collapse.IsLeafFrom
            (settings.policy classification)
            (Collapse.Source.ofParsed session.parsed)
            session.parsed.tree)
          (symbols.filter fun token =>
            token.text ≠ "<EOF>" ∧
              Collapse.IsAtomicToken
                (settings.policy classification)
                (Collapse.Source.ofParsed session.parsed)
                session.parsed.tree token)
          branch.leaves := by
  have hOpen :
      (openWith (JavaScript.plugin parser config)
          (.str content) path).result =
        .ok ⟨JavaScript.plugin parser config,
          .str "javascript", path,
          parsedSource parser.names content types root⟩ :=
    result_openWith rfl
      (result_parse hRoot hTypes content path)
  have hPolicy :
      (settings.policy classification).endText =
        some endText := congrArg some hEnd
  have hStream :
      (Collapse.Source.ofParsed
        (parsedSource parser.names content types
          root)).stream =
        (convert (Text.encode content)
          (isTokenType types) root).2 := rfl
  rcases Collapse.exists_collapse_tokens hPolicy rfl
      hStream with
    ⟨symbols, last, branch, hVisible, hLast, hText, hType,
      hCollapse, hLeaves⟩
  exact ⟨_, symbols, last, branch, hOpen, hVisible, hLast,
    hText, hType, result_outline hClassification hCollapse,
    hLeaves⟩

/- The sets and names that the bundled configuration spells. -/
def bundledValue : Value :=
  .record
    [("name", .str "javascript"),
      ("version", .str "1.0.0"),
      ("plugin_class",
        .str "plugins.javascript.plugin:JavaScriptPlugin"),
      ("file_extensions",
        .strs [".js", ".mjs", ".cjs", ".jsx"]),
      ("token_node_types", .strs ["string", "regex"]),
      ("leaf_rule_names",
        .strs ["template_string", "array", "object"]),
      ("leaf_symbolic_names",
        .strs
          ["identifier", "property_identifier",
            "shorthand_property_identifier",
            "shorthand_property_identifier_pattern",
            "private_property_identifier",
            "statement_identifier", "number", "string",
            "regex", "true", "false", "null", "undefined"]),
      ("identifier_symbolic_name", .str "identifier")]

def bundledClassification : Classification where
  ruleNames := ["template_string", "array", "object"]
  symbolNames :=
    ["identifier", "property_identifier",
      "shorthand_property_identifier",
      "shorthand_property_identifier_pattern",
      "private_property_identifier", "statement_identifier",
      "number", "string", "regex", "true", "false", "null",
      "undefined"]
  identifierName := "identifier"

/- A template whose only fragment reads like the end. -/
def fragmentText : String :=
  "\x60<EOF>\x60"

/- The spans of the template. -/
def fragmentTree : SpanTree :=
  .mk ⟨0, "program", 0, 7, false, false⟩
    [.mk ⟨1, "expression_statement", 0, 7, false, false⟩
      [.mk ⟨2, "template_string", 0, 7, false, false⟩
        [.mk ⟨3, "\x60", 0, 1, false, false⟩ [],
          .mk ⟨4, "string_fragment", 1, 6, false, false⟩ [],
          .mk ⟨3, "\x60", 6, 7, false, false⟩ []]]]

def fragmentParser : Parser where
  names :=
    ["program", "expression_statement", "template_string",
      "\x60", "string_fragment"]
  outcome := .ok (some fragmentTree)

/- Its visible tokens, and the one for the end of the input. -/
def fragmentTokens : List Token :=
  [⟨"\x60", 3, 0, 0⟩, ⟨"<EOF>", 4, 1, 0⟩,
    ⟨"\x60", 3, 2, 0⟩]

def fragmentEnd : Token :=
  ⟨"<EOF>", -1, 3, 0⟩

/- Only the two marks around the fragment become leaves. -/
theorem leaves_of_fragment :
    ∃ session branch,
      (openWith
          (JavaScript.plugin fragmentParser bundledValue)
          (.str fragmentText) .null).result = .ok session ∧
        (session.outline {}).result = .ok (some branch) ∧
        branch.leaves.map (·.token) =
          ["\x60", "\x60"] := by
  have hRoot :
      fragmentParser.outcome = .ok (some fragmentTree) := rfl
  have hClassification :
      JavaScript.classification fragmentParser.names
          bundledValue =
        .ok bundledClassification := rfl
  have hEnd : Settings.endText {} = "<EOF>" := rfl
  rcases forall₂_isLeafFrom_outline hRoot rfl hClassification
      hEnd fragmentText .null with
    ⟨session, symbols, last, branch, hOpen, hVisible, -, -, -,
      hOutline, hLeaves⟩
  refine ⟨session, branch, hOpen, hOutline, ?_⟩
  cases hOpen
  have hSplit :
      fragmentTokens ++ [fragmentEnd] =
        symbols ++ [last] := hVisible
  rw [Collapse.map_token_of_forall₂ hLeaves,
    ← (List.append_inj' hSplit rfl).1]
  rfl

/-
  All three parts of the template are atomic, but they cannot
  be matched with the leaves.
-/
theorem not_forall₂_of_fragment :
    ∃ session symbols last branch,
      (openWith
          (JavaScript.plugin fragmentParser bundledValue)
          (.str fragmentText) .null).result = .ok session ∧
        Token.visible session.parsed.stream.tokens =
          symbols ++ [last] ∧
        last.type = -1 ∧
        (session.outline {}).result = .ok (some branch) ∧
        ∀ R : Token → Leaf → Prop,
          ¬ List.Forall₂ R
            (symbols.filter fun token =>
              Collapse.IsAtomicToken
                (Settings.policy {} bundledClassification)
                (Collapse.Source.ofParsed session.parsed)
                session.parsed.tree token)
            branch.leaves := by
  refine ⟨_, fragmentTokens, fragmentEnd, _, rfl, rfl, rfl,
    rfl, ?_⟩
  intro R hLeaves
  have hLength := hLeaves.length_eq
  revert hLength
  decide

end Session

end SyntaxOutline
