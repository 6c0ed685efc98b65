import SyntaxOutline.Plugin.Registry

/-
  What a history of registrations leaves in a registry.

  Registering touches two tables: the plugins by language, and
  the languages by extension.  A later registration moves
  extensions to its language and takes over the plugin of its
  language, each in its own table.  So after any history a
  language leads to the last plugin that had it, and an
  extension to the language of the last plugin that listed it.

  Key definitions include:
    * `IsLatest`
    * `latest?`
    * `Plugin.Declared`
    * `Registry.registerAll`
    * `Registry.Records`

  Main statements:
    * `Registry.register_declared`
    * `Registry.Records.register`
    * `Registry.Records.registerAll`
-/

------------------------------------------------------------
-- The Last Of Its Kind
------------------------------------------------------------

namespace SyntaxOutline

section

variable {α : Type}

/- The item has a property, and no later one has it. -/
def IsLatest
    (P : α → Prop)
    (items : List α)
    (item : α) : Prop :=
  ∃ before after, items = before ++ item :: after ∧
    P item ∧ ∀ later ∈ after, ¬ P later

variable (P : α → Prop) [DecidablePred P]

/- The last item with a property, if there is one. -/
def latest?
    (items : List α) : Option α :=
  items.reverse.find? fun item => P item

/- Later items come first into question. -/
theorem latest?_append
    (front back : List α) :
    latest? P (front ++ back) =
      (latest? P back).or (latest? P front) := by
  rw [latest?, List.reverse_append, List.find?_append]
  rfl

theorem latest?_append_singleton
    (items : List α)
    (item : α) :
    latest? P (items ++ [item]) =
      if P item then some item else latest? P items := by
  rw [latest?_append]
  by_cases hItem : P item
  · simp [latest?, hItem]
  · simp [latest?, hItem]

theorem latest?_eq_none_iff
    (items : List α) :
    latest? P items = none ↔ ∀ item ∈ items, ¬ P item := by
  simp [latest?]

theorem latest?_eq_some_iff
    (items : List α)
    (item : α) :
    latest? P items = some item ↔
      IsLatest P items item := by
  rw [latest?, List.find?_eq_some_iff_append]
  constructor
  · rintro ⟨hItem, after, before, hSplit, hAfter⟩
    refine ⟨before.reverse, after.reverse, ?_,
      by simpa using hItem, by simpa using hAfter⟩
    rw [← List.reverse_reverse items, hSplit]
    simp
  · rintro ⟨before, after, rfl, hItem, hAfter⟩
    exact ⟨by simpa using hItem, after.reverse,
      before.reverse, by simp, by simpa using hAfter⟩

variable {P}

theorem exists_isLatest
    {items : List α}
    {item : α}
    (hMem : item ∈ items)
    (hItem : P item) :
    ∃ last, IsLatest P items last := by
  cases hLast : latest? P items with
  | none =>
      exact absurd hItem
        ((latest?_eq_none_iff P items).mp hLast item hMem)
  | some last =>
      exact ⟨last, (latest?_eq_some_iff P items last).mp hLast⟩

/- The last item is a given one, or it came later than that. -/
theorem IsLatest.eq_or_mem
    {before after : List α}
    {item last : α}
    (hLast : IsLatest P (before ++ item :: after) last)
    (hItem : P item) :
    ((∀ later ∈ after, ¬ P later) ∧ last = item) ∨
      (last ∈ after ∧ P last) := by
  rw [← latest?_eq_some_iff, List.append_cons,
    latest?_append, latest?_append_singleton,
    if_pos hItem] at hLast
  cases hAfter : latest? P after with
  | none =>
      rw [hAfter] at hLast
      exact .inl ⟨(latest?_eq_none_iff P after).mp hAfter,
        (Option.some.inj hLast).symm⟩
  | some later =>
      rw [hAfter] at hLast
      have hSame : later = last := Option.some.inj hLast
      rw [hSame, latest?_eq_some_iff] at hAfter
      rcases hAfter with ⟨front, back, rfl, hHolds, -⟩
      exact .inr ⟨by simp, hHolds⟩

end

------------------------------------------------------------
-- Tables Whose Keys Are Texts
------------------------------------------------------------

namespace Table

variable {β : Type}

theorem get?_put
    (t : Table β)
    (j k : Key)
    (spelling : Value)
    (item : β) :
    get? (put k spelling item t) j =
      if j = k then some item else get? t j := by
  by_cases hKey : j = k
  · rw [if_pos hKey, hKey, get?_put_self]
  · rw [if_neg hKey, get?_put_ne t hKey]

/- The keys of a table with their spellings, in order. -/
def heads
    (t : Table β) : List (Key × Value) :=
  t.map fun line => (line.key, line.spelling)

/- A new key goes last, and a known one changes nothing. -/
theorem heads_put
    (t : Table β)
    (k : Key)
    (spelling : Value)
    (item : β) :
    heads (put k spelling item t) =
      if k ∈ (heads t).map (·.1) then heads t
      else heads t ++ [(k, spelling)] := by
  induction t with
  | nil => rfl
  | cons line rest ih =>
      rw [put]
      by_cases hKey : line.key = k
      · simp [heads, hKey]
      · have hOther : k ≠ line.key := fun h => hKey h.symm
        rw [if_neg hKey, heads, List.map_cons, ← heads, ih]
        by_cases hMem : k ∈ (heads rest).map (·.1)
        · rw [if_pos hMem, if_pos]
          · rfl
          · exact List.mem_cons_of_mem _ hMem
        · rw [if_neg hMem, if_neg]
          · rfl
          · rw [heads, List.map_cons, List.map_cons,
              List.mem_cons]
            rintro (hHead | hRest)
            · exact hOther hHead
            · exact hMem hRest

/-
  The keys are texts, spelled as themselves: those of a list,
  each where it comes first.
-/
def IsKeyedBy
    (t : Table β)
    (texts : List String) : Prop :=
  heads t =
    texts.eraseDups.map fun text => (.str text, .str text)

theorem IsKeyedBy.put
    {t : Table β}
    {texts : List String}
    (hKeyed : IsKeyedBy t texts)
    (text : String)
    (item : β) :
    IsKeyedBy (Table.put (.str text) (.str text) item t)
      (texts ++ [text]) := by
  have hMem :
      Key.str text ∈ (heads t).map (·.1) ↔ text ∈ texts := by
    rw [hKeyed, List.map_map]
    simp
  rw [IsKeyedBy, heads_put, List.eraseDups_append]
  by_cases hText : text ∈ texts
  · rw [if_pos (hMem.mpr hText), hKeyed]
    simp [List.removeAll, hText]
  · rw [if_neg (fun h => hText (hMem.mp h)), hKeyed]
    simp [List.removeAll, hText, List.eraseDups_cons]

theorem IsKeyedBy.spellings
    {t : Table β}
    {texts : List String}
    (hKeyed : IsKeyedBy t texts) :
    t.spellings = texts.eraseDups.map .str := by
  have hSpellings : t.spellings = (heads t).map (·.2) := by
    rw [heads, List.map_map]
    rfl
  rw [hSpellings, hKeyed, List.map_map]
  rfl

/- Lead texts to one item, one text after the other. -/
def leadAll
    (item : β)
    (texts : List String)
    (t : Table β) : Table β :=
  texts.foldl
    (fun t text => put (.str text) (.str text) item t) t

theorem get?_leadAll
    (item : β)
    (texts : List String)
    (t : Table β)
    (text : String) :
    get? (leadAll item texts t) (.str text) =
      if text ∈ texts then some item
      else get? t (.str text) := by
  induction texts generalizing t with
  | nil => rfl
  | cons first texts ih =>
      rw [leadAll, List.foldl_cons, ← leadAll, ih, get?_put]
      by_cases hRest : text ∈ texts
      · simp [hRest]
      · by_cases hFirst : text = first
        · simp [hFirst]
        · simp [hRest, hFirst]

theorem IsKeyedBy.leadAll
    {t : Table β}
    {before : List String}
    (hKeyed : IsKeyedBy t before)
    (item : β)
    (texts : List String) :
    IsKeyedBy (Table.leadAll item texts t)
      (before ++ texts) := by
  induction texts generalizing t before with
  | nil => simpa [Table.leadAll] using hKeyed
  | cons first texts ih =>
      have hRest := ih (hKeyed.put first item)
      rwa [List.append_assoc] at hRest

end Table

------------------------------------------------------------
-- Registering One Plugin
------------------------------------------------------------

namespace Value

theorem inMessage_str
    (text : String) :
    (Value.str text).inMessage = .ok text := rfl

/- Texts hold no integer, so a list of them can be written. -/
theorem inMessage_strs
    (texts : List String) :
    (strs texts).inMessage = .ok (strs texts).sentence := by
  have hShort : anyLong (texts.map .str) = false := by
    induction texts with
    | nil => rfl
    | cons text texts ih =>
        rw [List.map_cons, anyLong, ih]
        rfl
  rw [inMessage, strs, hasLong, hShort]
  rfl

end Value

/-
  A plugin with a fixed language name and a list of texts as
  its extensions.
-/
structure Plugin.Declared where
  plugin : Plugin
  language : String
  extensions : List String
  language_eq : plugin.language = .ok (.str language)
  extensions_eq :
    plugin.extensions = .ok (.strs extensions)

namespace Registry

/- All extensions lead to languages whose names are texts. -/
def LeadsToTexts
    (r : Registry) : Prop :=
  ∀ extension language,
    r.extensions.get? (.str extension) = some language →
      ∃ name, language = .str name

/- Between texts, there is no fault in what the log says. -/
theorem exists_movedRecords
    {previous : Option Value}
    (hTexts :
      ∀ value, previous = some value →
        ∃ name, value = .str name)
    (extension language : String) :
    ∃ moved,
      movedRecords previous (.str extension)
        (.str language) = .ok moved := by
  cases hPrevious : previous with
  | none => exact ⟨[], rfl⟩
  | some value =>
      rcases hTexts value hPrevious with ⟨name, rfl⟩
      by_cases hDiffers :
          (Value.str name).differs (.str language) = true
      · exact ⟨_, if_pos hDiffers⟩
      · exact ⟨_, if_neg hDiffers⟩

/- Texts lead to a language one by one, without a fault. -/
theorem addExtensions_texts
    {r : Registry}
    (hTexts : r.LeadsToTexts)
    (language : String)
    (logs : List Log.Record)
    (names : List String) :
    ∃ written,
      addExtensions (.str language) r logs
          (names.map .str) =
        ⟨{ r with
            extensions :=
              r.extensions.leadAll (.str language) names },
          written, .ok ()⟩ := by
  induction names generalizing r logs with
  | nil => exact ⟨logs, rfl⟩
  | cons name names ih =>
      -- What the extension led to was a text, so the log can
      -- say that it moves.
      rcases exists_movedRecords
          (hTexts name) name language with
        ⟨moved, hMoved⟩
      have hNext :
          LeadsToTexts
            { r with
              extensions :=
                r.extensions.put (.str name) (.str name)
                  (.str language) } := by
        intro extension found hFound
        rw [Table.get?_put] at hFound
        by_cases hSame : Key.str extension = .str name
        · rw [if_pos hSame] at hFound
          exact ⟨language, (Option.some.inj hFound).symm⟩
        · rw [if_neg hSame] at hFound
          exact hTexts extension found hFound
      rcases ih hNext (logs ++ moved) with
        ⟨written, hWritten⟩
      refine ⟨written, ?_⟩
      have hKey :
          (Value.str name).keyOrMisuse =
            .ok (.str name) := rfl
      rw [List.map_cons, addExtensions, hKey]
      simp only [bind, Except.bind, hMoved, pure, Except.pure]
      exact hWritten

/-
  A declared plugin is registered without a fault: its language
  has it, and its extensions lead to its language.
-/
theorem register_declared
    {r : Registry}
    (hTexts : r.LeadsToTexts)
    (p : Plugin.Declared) :
    (r.register p.plugin).result = .ok () ∧
      (r.register p.plugin).registry =
        { r with
          plugins :=
            r.plugins.put (.str p.language)
              (.str p.language) p.plugin
          extensions :=
            r.extensions.leadAll (.str p.language)
              p.extensions } := by
  have hReplaced :
      ∃ logs,
        replacedRecords (r.plugins.has (.str p.language))
          (.str p.language) = .ok logs := by
    cases r.plugins.has (.str p.language) with
    | false => exact ⟨[], rfl⟩
    | true => exact ⟨_, rfl⟩
  rcases hReplaced with ⟨logs, hLogs⟩
  have hKey :
      (Value.str p.language).keyOrMisuse =
        .ok (.str p.language) := rfl
  have hItems :
      (Value.strs p.extensions).elements =
        .ok (p.extensions.map .str) := rfl
  rcases addExtensions_texts
      (r :=
        { r with
          plugins :=
            r.plugins.put (.str p.language)
              (.str p.language) p.plugin })
      hTexts p.language logs p.extensions with
    ⟨written, hAdded⟩
  have hLast :
      ∃ last,
        registeredRecord (.str p.language)
          (.strs p.extensions) = .ok last := by
    rw [registeredRecord, Value.inMessage_str,
      Value.inMessage_strs]
    exact ⟨_, rfl⟩
  rcases hLast with ⟨last, hLast⟩
  rw [register, p.language_eq, p.extensions_eq]
  simp only [bind, Except.bind, pure, Except.pure, hKey,
    hLogs, hItems, hAdded, hLast]
  exact ⟨rfl, rfl⟩

------------------------------------------------------------
-- Registering A Whole History
------------------------------------------------------------

/- Register plugins one after the other, up to a fault. -/
def registerAll
    (r : Registry) :
    List Plugin → Except Misuse Registry
  | [] => .ok r
  | plugin :: rest =>
      match (r.register plugin).result with
      | .error cause => .error cause
      | .ok () => registerAll (r.register plugin).registry rest

/-
  The registry records a history.  A language has the last
  plugin that was registered for it, and an extension leads to
  the language of the last plugin that listed it.  Languages and
  extensions stand in the order of their first registration.
-/
structure Records
    (history : List Plugin.Declared)
    (r : Registry) : Prop where
  plugins :
    ∀ language,
      r.plugins.get? (.str language) =
        (latest? (·.language = language) history).map
          (·.plugin)
  extensions :
    ∀ extension,
      r.extensions.get? (.str extension) =
        (latest? (extension ∈ ·.extensions) history).map
          fun p => .str p.language
  languages :
    r.plugins.IsKeyedBy (history.map (·.language))
  listed :
    r.extensions.IsKeyedBy (history.flatMap (·.extensions))

theorem records_empty :
    Records [] empty :=
  ⟨fun _ => rfl, fun _ => rfl, rfl, rfl⟩

theorem Records.leadsToTexts
    {history : List Plugin.Declared}
    {r : Registry}
    (hRecords : Records history r) :
    r.LeadsToTexts := by
  intro extension language hFound
  rw [hRecords.extensions] at hFound
  rcases Option.map_eq_some_iff.mp hFound with
    ⟨p, -, rfl⟩
  exact ⟨p.language, rfl⟩

/- One more registration is one more entry of the history. -/
theorem Records.register
    {history : List Plugin.Declared}
    {r : Registry}
    (hRecords : Records history r)
    (p : Plugin.Declared) :
    Records (history ++ [p])
      (r.register p.plugin).registry := by
  rw [(register_declared hRecords.leadsToTexts p).2]
  refine ⟨?_, ?_, ?_, ?_⟩
  · intro language
    rw [Table.get?_put, latest?_append_singleton]
    by_cases hSame : p.language = language
    · simp [hSame]
    · have hOther : language ≠ p.language :=
        fun h => hSame h.symm
      simp [hSame, hOther, hRecords.plugins]
  · intro extension
    rw [Table.get?_leadAll, latest?_append_singleton]
    by_cases hListed : extension ∈ p.extensions
    · simp [hListed]
    · simp [hListed, hRecords.extensions]
  · rw [List.map_append]
    exact hRecords.languages.put p.language p.plugin
  · rw [List.flatMap_append, List.flatMap_singleton]
    exact hRecords.listed.leadAll (.str p.language)
      p.extensions

/-
  Declared plugins are registered one after the other without
  a fault, and the registry then records all of them.
-/
theorem Records.registerAll
    {history : List Plugin.Declared}
    {r : Registry}
    (hRecords : Records history r)
    (later : List Plugin.Declared) :
    ∃ last,
      r.registerAll (later.map (·.plugin)) = .ok last ∧
        Records (history ++ later) last := by
  induction later generalizing history r with
  | nil =>
      rw [List.append_nil]
      exact ⟨r, rfl, hRecords⟩
  | cons p later ih =>
      rcases ih (hRecords.register p) with
        ⟨last, hRun, hLast⟩
      rw [List.append_assoc] at hLast
      refine ⟨last, ?_, hLast⟩
      rw [List.map_cons, Registry.registerAll,
        (register_declared hRecords.leadsToTexts p).1]
      exact hRun

end Registry

end SyntaxOutline
