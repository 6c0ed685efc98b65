import SyntaxOutline.Proofs.Registry.Overwriting

/-
  What a plugin enters into a registry.

  Registering also writes to the log, and the log cannot say
  everything: there are integers too long for it.  A plugin is
  proper when its language is a key that can be written, its
  extensions are texts, and its configuration can be named.  A
  proper plugin puts one line into the table of plugins and one
  line for each extension into the other, unless one of its
  extensions leads to a language that cannot be written.

  Key definitions include:
    * `Registry.canLead`
    * `Registry.Proper`
    * `Registry.enter`
    * `Registry.enterAll`
    * `Registry.IsStuck`
    * `Registry.Names`

  Main statements:
    * `Registry.addExtensions_cases`
    * `Registry.takeIn_cases`
    * `Registry.enterAll_enterAll`
    * `Registry.get?_enterAll`
-/

------------------------------------------------------------
-- Texts And Languages
------------------------------------------------------------

namespace SyntaxOutline

namespace Value

/- The value is a text, with or without halves of characters. -/
def isText
    (v : Value) : Bool :=
  v.points?.isSome

/- The key of a value; one that is no key counts as null. -/
def keyOrNull
    (v : Value) : Key :=
  v.key.toOption.getD .null

/- A text is a key and can be written. -/
theorem of_isText
    {v : Value}
    (hText : v.isText = true) :
    v.keyOrMisuse = .ok v.keyOrNull ∧
      v.hasLong = false := by
  cases v with
  | str s => exact ⟨rfl, rfl⟩
  | halved points => exact ⟨rfl, rfl⟩
  | null | bool | int | float | nan | bytes | moment | pair
    | list | set | map | tied | loop => cases hText

theorem inMessage_of_hasLong
    {v : Value}
    (hLong : v.hasLong = true) :
    v.inMessage = .error .longInteger :=
  if_pos hLong

theorem inMessage_of_not_hasLong
    {v : Value}
    (hShort : v.hasLong = false) :
    v.inMessage = .ok v.sentence :=
  if_neg (by simp [hShort])

theorem hasLong_list_of_texts
    {items : List Value}
    (hTexts : ∀ item ∈ items, item.isText = true) :
    (Value.list items).hasLong = false := by
  rw [hasLong]
  induction items with
  | nil => rfl
  | cons item items ih =>
      rw [List.forall_mem_cons] at hTexts
      rw [anyLong, (of_isText hTexts.1).2, ih hTexts.2]
      rfl

end Value

namespace Registry

/-
  Nothing stands in the way when an extension is led to a
  language: it does not move, or the log can name the language
  that it moves away from.
-/
def canLead
    (previous : Option Value)
    (language : Value) : Bool :=
  previous.all fun other =>
    !(other.differs language && other.hasLong)

theorem canLead_of_not_hasLong
    {previous : Option Value}
    (hShort :
      ∀ other, previous = some other →
        other.hasLong = false)
    (language : Value) :
    canLead previous language = true := by
  cases previous with
  | none => rfl
  | some other => simp [canLead, hShort other rfl]

theorem canLead_self
    {language : Value}
    (hLanguage : language.hasLong = false) :
    canLead (some language) language = true := by
  simp [canLead, hLanguage]

/- What the log says about a move, if it can say it. -/
theorem movedRecords_cases
    {extension language : Value}
    (hExtension : extension.isText = true)
    (hLanguage : language.hasLong = false)
    (previous : Option Value) :
    (canLead previous language = true ∧
      ∃ moved,
        movedRecords previous extension language =
          .ok moved) ∨
      (canLead previous language = false ∧
        movedRecords previous extension language =
          .error .longInteger) := by
  have hWritten :=
    Value.inMessage_of_not_hasLong
      (Value.of_isText hExtension).2
  have hNamed := Value.inMessage_of_not_hasLong hLanguage
  unfold movedRecords
  split
  · exact .inl ⟨rfl, [], rfl⟩
  · exact .inl ⟨by simp [canLead, Value.hasLong], [], rfl⟩
  · next other _ =>
      by_cases hDiffers : other.differs language = true
      · cases hLong : other.hasLong with
        | false =>
            have hOther :=
              Value.inMessage_of_not_hasLong hLong
            left
            simp [canLead, hDiffers, hLong, hWritten, hNamed,
              hOther, bind, Except.bind, pure, Except.pure]
        | true =>
            have hOther := Value.inMessage_of_hasLong hLong
            right
            simp [canLead, hDiffers, hLong, hWritten, hOther,
              bind, Except.bind]
      · left
        simp [canLead, hDiffers, pure, Except.pure]

/- The lines that lead extensions to a language. -/
def leadLines
    (language : Value)
    (items : List Value) : List (Table.Line Value) :=
  items.map fun item => ⟨item.keyOrNull, item, language⟩

/- A text is a key, so only the log can stop it. -/
theorem addExtensions_cons
    {item : Value}
    (hText : item.isText = true)
    (language : Value)
    (r : Registry)
    (logs : List Log.Record)
    (items : List Value) :
    addExtensions language r logs (item :: items) =
      match
        movedRecords (r.extensions.get? item.keyOrNull) item
          language with
      | .error cause => ⟨r, logs, .error cause⟩
      | .ok moved =>
          addExtensions language
            { r with
              extensions :=
                r.extensions.put item.keyOrNull item
                  language }
            (logs ++ moved) items := by
  rw [addExtensions, (Value.of_isText hText).1]
  simp only [bind, Except.bind, pure, Except.pure]
  cases movedRecords (r.extensions.get? item.keyOrNull) item
      language with
  | error cause => rfl
  | ok moved => rfl

/-
  Texts are led to a language one by one, or up to one that
  leads to a language the log cannot name; that one stays.
-/
theorem addExtensions_cases
    {language : Value}
    {items : List Value}
    (hLanguage : language.hasLong = false)
    (hTexts : ∀ item ∈ items, item.isText = true)
    (r : Registry)
    (logs : List Log.Record) :
    ((∀ item ∈ items,
        canLead (r.extensions.get? item.keyOrNull)
          language = true) ∧
      ∃ written,
        addExtensions language r logs items =
          ⟨{ r with
              extensions :=
                r.extensions.putAll
                  (leadLines language items) },
            written, .ok ()⟩) ∨
      ((addExtensions language r logs items).result =
          .error .longInteger ∧
        ∃ item ∈ items,
          canLead (r.extensions.get? item.keyOrNull)
              language = false ∧
            (addExtensions language r logs
                items).registry.extensions.get?
                  item.keyOrNull =
              r.extensions.get? item.keyOrNull) := by
  induction items generalizing r logs with
  | nil => exact .inl ⟨by simp, logs, rfl⟩
  | cons item items ih =>
      rw [List.forall_mem_cons] at hTexts
      rw [addExtensions_cons hTexts.1]
      rcases movedRecords_cases hTexts.1 hLanguage
          (r.extensions.get? item.keyOrNull) with
        ⟨hLead, moved, hMoved⟩ | ⟨hLead, hMoved⟩
      · rw [hMoved]
        -- Only the extension just led is found changed, and
        -- it can be led to the same language again.
        let next : Registry :=
          { r with
            extensions :=
              r.extensions.put item.keyOrNull item
                language }
        have hNext :
            ∀ other : Value,
              canLead
                  (next.extensions.get? other.keyOrNull)
                  language =
                canLead
                  (r.extensions.get? other.keyOrNull)
                  language := by
          intro other
          rw [Table.get?_put]
          by_cases hSame : other.keyOrNull = item.keyOrNull
          · rw [if_pos hSame, hSame, hLead]
            exact canLead_self hLanguage
          · rw [if_neg hSame]
        rcases ih hTexts.2 next (logs ++ moved) with
          ⟨hAll, written, hAdded⟩ |
            ⟨hFailed, other, hMem, hOther, hStays⟩
        · refine .inl ⟨?_, written, hAdded⟩
          rw [List.forall_mem_cons]
          refine ⟨hLead, fun other hMem => ?_⟩
          rw [← hNext other]
          exact hAll other hMem
        · refine .inr ⟨hFailed, other,
            List.mem_cons_of_mem _ hMem, ?_, ?_⟩
          · rw [← hNext other]
            exact hOther
          · rw [hNext other] at hOther
            have hKeys :
                other.keyOrNull ≠ item.keyOrNull := by
              intro hSame
              rw [hSame, hLead] at hOther
              cases hOther
            rw [← Table.get?_put_ne r.extensions hKeys item
              language]
            exact hStays
      · rw [hMoved]
        exact .inr ⟨rfl, item, List.mem_cons_self, hLead,
          rfl⟩

------------------------------------------------------------
-- Plugins That Can Be Taken In
------------------------------------------------------------

/-
  A plugin with its configuration whose language is a key and
  can be written, whose extensions are texts, and whose
  configuration the log can name.
-/
structure Proper where
  plugin : Plugin
  config : Value
  language : Value
  key : Key
  items : List Value
  started : Log.Record
  language_eq : plugin.language = .ok language
  key_eq : language.keyOrMisuse = .ok key
  language_short : language.hasLong = false
  extensions_eq : plugin.extensions = .ok (.list items)
  items_text : ∀ item ∈ items, item.isText = true
  started_eq : startedRecord config = .ok started

/- The plugin and the configuration alone. -/
def Proper.made
    (p : Proper) : Plugin × Value :=
  (p.plugin, p.config)

/- The registry with a plugin under its language and extensions. -/
def enter
    (r : Registry)
    (p : Proper) : Registry :=
  { r with
    plugins := r.plugins.put p.key p.language p.plugin
    extensions :=
      r.extensions.putAll (leadLines p.language p.items) }

/- Registering, given what the plugin answers. -/
theorem register_eq
    {plugin : Plugin}
    {language : Value}
    {key : Key}
    {items : List Value}
    (hLanguage : plugin.language = .ok language)
    (hKey : language.keyOrMisuse = .ok key)
    (hExtensions : plugin.extensions = .ok (.list items))
    (r : Registry) :
    r.register plugin =
      match
        replacedRecords (r.plugins.has key) language with
      | .error cause => ⟨r, [], .error cause⟩
      | .ok logs =>
          finish
            (addExtensions language
              { r with
                plugins :=
                  r.plugins.put key language plugin }
              logs items)
            (registeredRecord language (.list items)) := by
  have hItems :
      (Value.list items).elements = .ok items := rfl
  rw [register, hLanguage, hExtensions]
  simp only [bind, Except.bind, hKey, hItems, pure,
    Except.pure]
  cases replacedRecords (r.plugins.has key) language with
  | error cause => rfl
  | ok logs => rfl

theorem exists_replacedRecords
    {language : Value}
    (hLanguage : language.hasLong = false)
    (isThere : Bool) :
    ∃ logs, replacedRecords isThere language = .ok logs := by
  cases isThere with
  | false => exact ⟨[], rfl⟩
  | true =>
      rw [replacedRecords,
        Value.inMessage_of_not_hasLong hLanguage]
      exact ⟨_, rfl⟩

/-
  One of the extensions of a plugin leads to a language that the
  log cannot name, and stays there.
-/
def IsStuck
    (r : Registry)
    (p : Proper) : Prop :=
  ∃ item ∈ p.items,
    canLead (r.extensions.get? item.keyOrNull)
        p.language = false ∧
      (r.takeIn p.plugin
          p.config).registry.extensions.get?
            item.keyOrNull =
        r.extensions.get? item.keyOrNull

/- A proper plugin is entered, unless it is stuck. -/
theorem takeIn_cases
    (r : Registry)
    (p : Proper) :
    ((∀ item ∈ p.items,
        canLead (r.extensions.get? item.keyOrNull)
          p.language = true) ∧
      (r.takeIn p.plugin p.config).result =
        .ok (p.language, p.started) ∧
      (r.takeIn p.plugin p.config).registry =
        r.enter p) ∨
      ((r.takeIn p.plugin p.config).result =
          .error .longInteger ∧
        r.IsStuck p) := by
  rcases exists_replacedRecords p.language_short
      (r.plugins.has p.key) with
    ⟨logs, hLogs⟩
  have hLast :
      ∃ last,
        registeredRecord p.language (.list p.items) =
          .ok last := by
    rw [registeredRecord,
      Value.inMessage_of_not_hasLong p.language_short,
      Value.inMessage_of_not_hasLong
        (Value.hasLong_list_of_texts p.items_text)]
    exact ⟨_, rfl⟩
  rcases hLast with ⟨last, hLast⟩
  rw [IsStuck, takeIn, p.language_eq, p.started_eq,
    register_eq p.language_eq p.key_eq p.extensions_eq,
    hLogs, hLast]
  rcases addExtensions_cases p.language_short p.items_text
      { r with
        plugins := r.plugins.put p.key p.language p.plugin }
      logs with
    ⟨hLeads, written, hAdded⟩ |
      ⟨hFailed, item, hMem, hLead, hStays⟩
  · refine .inl ⟨hLeads, ?_, ?_⟩
    · simp only [hAdded]
      rfl
    · simp only [hAdded]
      rfl
  · refine .inr ⟨?_, item, hMem, hLead, ?_⟩
    · simp only [finish, hFailed]
      rfl
    · simp only [finish, hFailed]
      exact hStays

------------------------------------------------------------
-- Entering Many Plugins
------------------------------------------------------------

/- Enter plugins one after the other. -/
def enterAll
    (r : Registry)
    (ps : List Proper) : Registry :=
  ps.foldl enter r

@[simp] theorem enterAll_nil
    (r : Registry) :
    r.enterAll [] = r := rfl

@[simp] theorem enterAll_cons
    (r : Registry)
    (p : Proper)
    (ps : List Proper) :
    r.enterAll (p :: ps) = (r.enter p).enterAll ps := rfl

/- All lines that plugins put into both tables. -/
theorem enterAll_eq
    (r : Registry)
    (ps : List Proper) :
    r.enterAll ps =
      { r with
        plugins :=
          r.plugins.putAll
            (ps.map fun p => ⟨p.key, p.language, p.plugin⟩)
        extensions :=
          r.extensions.putAll
            (ps.flatMap fun p =>
              leadLines p.language p.items) } := by
  induction ps generalizing r with
  | nil => rfl
  | cons p ps ih =>
      rw [enterAll_cons, ih, List.map_cons,
        Table.putAll_cons, List.flatMap_cons,
        Table.putAll_append]
      rfl

/- Entering the same plugins again changes nothing. -/
theorem enterAll_enterAll
    (r : Registry)
    (ps : List Proper) :
    (r.enterAll ps).enterAll ps = r.enterAll ps := by
  rw [enterAll_eq (r.enterAll ps), enterAll_eq r]
  dsimp only
  rw [Table.putAll_putAll, Table.putAll_putAll]

/- The log can name the language that a key leads to. -/
def Names
    (r : Registry)
    (key : Key) : Prop :=
  ∀ language,
    r.extensions.get? key = some language →
      language.hasLong = false

/- Keys lead where they led, or to the language of a plugin. -/
theorem get?_enterAll
    (r : Registry)
    (ps : List Proper)
    (key : Key) :
    (∃ p ∈ ps,
      (∃ item ∈ p.items, item.keyOrNull = key) ∧
        (r.enterAll ps).extensions.get? key =
          some p.language) ∨
      (∀ p ∈ ps, ∀ item ∈ p.items,
          item.keyOrNull ≠ key) ∧
        (r.enterAll ps).extensions.get? key =
          r.extensions.get? key := by
  rw [enterAll_eq]
  dsimp only
  rw [Table.get?_putAll]
  cases hLast :
      latest? (·.key = key)
        (ps.flatMap fun p =>
          leadLines p.language p.items) with
  | none =>
      right
      refine ⟨?_, rfl⟩
      intro p hMem item hItem hKey
      refine (latest?_eq_none_iff _ _).mp hLast
        ⟨item.keyOrNull, item, p.language⟩ ?_ hKey
      exact List.mem_flatMap.mpr ⟨p, hMem,
        List.mem_map_of_mem hItem⟩
  | some line =>
      left
      rcases (latest?_eq_some_iff _ _ _).mp hLast with
        ⟨before, after, hLines, hKey, -⟩
      have hLine :
          line ∈ ps.flatMap fun p =>
            leadLines p.language p.items := by
        rw [hLines]
        simp
      rcases List.mem_flatMap.mp hLine with
        ⟨p, hMem, hFrom⟩
      rcases List.mem_map.mp hFrom with ⟨item, hItem, rfl⟩
      exact ⟨p, hMem, ⟨item, hItem, hKey⟩, rfl⟩

theorem Names.enterAll
    {r : Registry}
    {key : Key}
    (hNames : r.Names key)
    (ps : List Proper) :
    (r.enterAll ps).Names key := by
  intro language hLanguage
  rcases get?_enterAll r ps key with
    ⟨p, -, -, hFrom⟩ | ⟨-, hStays⟩
  · rw [hFrom] at hLanguage
    rw [← Option.some.inj hLanguage]
    exact p.language_short
  · rw [hStays] at hLanguage
    exact hNames language hLanguage

/- The languages of proper plugins can be named. -/
theorem names_enterAll
    (r : Registry)
    {ps : List Proper}
    {p : Proper}
    (hMem : p ∈ ps)
    {item : Value}
    (hItem : item ∈ p.items) :
    (r.enterAll ps).Names item.keyOrNull := by
  intro language hLanguage
  rcases get?_enterAll r ps item.keyOrNull with
    ⟨q, -, -, hFrom⟩ | ⟨hNobody, -⟩
  · rw [hFrom] at hLanguage
    rw [← Option.some.inj hLanguage]
    exact q.language_short
  · exact absurd rfl (hNobody p hMem item hItem)

/- A plugin is not stuck where all languages can be named. -/
theorem not_isStuck
    {r : Registry}
    {p : Proper}
    (hNames : ∀ item ∈ p.items, r.Names item.keyOrNull) :
    ¬ r.IsStuck p := by
  rintro ⟨item, hItem, hLead, -⟩
  rw [canLead_of_not_hasLong (hNames item hItem)] at hLead
  cases hLead

end Registry

end SyntaxOutline
