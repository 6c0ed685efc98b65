import SyntaxOutline.Plugin.Plain
import SyntaxOutline.Proofs.Registry.History

/-
  Which plugin a registry selects for a file.

  The suffix of the path leads to a language, and the language
  to a plugin.  The language is that of the last plugin that
  listed the suffix, but the plugin is the last one of that
  language: when a language is registered again, the extensions
  that it had stay with it, listed or not.

  Main statements:
    * `Registry.Records.pluginFor?_of_unlisted`
    * `Registry.Records.pluginFor?_of_isLatest`
    * `Registry.pluginFor?_of_history`
    * `Registry.mem_extensions_iff_of_pluginFor?`
-/

------------------------------------------------------------
-- Selection In A Recorded History
------------------------------------------------------------

namespace SyntaxOutline

namespace Registry

variable {history : List Plugin.Declared} {r : Registry}

/- A file is looked up by its suffix. -/
theorem result_pluginFor?
    (r : Registry)
    (path : String) :
    (r.pluginFor? path).result =
      r.pluginByExtension? (Route.ofText path).suffix := by
  rw [pluginFor?]
  split
  · rename_i hNone
    rw [hNone]
  · rfl

/- An extension that nobody listed has no plugin. -/
theorem Records.pluginFor?_of_unlisted
    (hRecords : Records history r)
    {path : String}
    (hUnlisted :
      ∀ p ∈ history,
        (Route.ofText path).suffix ∉ p.extensions) :
    (r.pluginFor? path).result = .ok none := by
  have hNone :=
    (latest?_eq_none_iff
      ((Route.ofText path).suffix ∈ ·.extensions)
      history).mpr hUnlisted
  rw [result_pluginFor?, pluginByExtension?,
    hRecords.extensions, hNone]
  rfl

/-
  The last plugin that listed an extension gives the language,
  and the last plugin of that language is selected.
-/
theorem Records.pluginFor?_of_isLatest
    (hRecords : Records history r)
    {path : String}
    {lister : Plugin.Declared}
    (hLister :
      IsLatest ((Route.ofText path).suffix ∈ ·.extensions)
        history lister) :
    ∃ selected,
      IsLatest (·.language = lister.language) history
          selected ∧
        (r.pluginFor? path).result =
          .ok (some selected.plugin) := by
  have hListed := (latest?_eq_some_iff _ _ _).mpr hLister
  have hLanguage :
      latest? (·.language = lister.language) history ≠
        none := by
    rcases hLister with ⟨before, after, rfl, -, -⟩
    intro hNone
    exact (latest?_eq_none_iff _ _).mp hNone lister
      (by simp) rfl
  rcases Option.ne_none_iff_exists'.mp hLanguage with
    ⟨selected, hSelected⟩
  refine ⟨selected, (latest?_eq_some_iff _ _ _).mp hSelected,
    ?_⟩
  have hKey :
      (Value.str lister.language).keyOrMisuse =
        .ok (.str lister.language) := rfl
  have hPlugin := hRecords.plugins lister.language
  rw [hSelected] at hPlugin
  rw [result_pluginFor?, pluginByExtension?,
    hRecords.extensions, hListed]
  simp [hKey, hPlugin, bind, Except.bind, pure, Except.pure]

------------------------------------------------------------
-- Selection After Any History
------------------------------------------------------------

/-
  Declared plugins can be registered in any order on a new
  registry.  A file then has no plugin exactly when nobody
  listed its suffix.  Otherwise it has the last plugin of the
  language that the last lister of the suffix has.  Languages
  and extensions are listed once each, in the order in which
  they came first.
-/
theorem pluginFor?_of_history
    (history : List Plugin.Declared) :
    ∃ r,
      empty.registerAll (history.map (·.plugin)) = .ok r ∧
        (∀ path,
          ((r.pluginFor? path).result = .ok none ↔
            ∀ p ∈ history,
              (Route.ofText path).suffix ∉ p.extensions) ∧
          ((∃ p ∈ history,
              (Route.ofText path).suffix ∈ p.extensions) →
            ∃ lister selected,
              IsLatest
                  ((Route.ofText path).suffix ∈ ·.extensions)
                  history lister ∧
                IsLatest (·.language = lister.language)
                  history selected ∧
                (r.pluginFor? path).result =
                  .ok (some selected.plugin))) ∧
        r.languages =
          (history.map (·.language)).eraseDups.map .str ∧
        r.supportedExtensions =
          (history.flatMap (·.extensions)).eraseDups.map
            .str := by
  rcases records_empty.registerAll history with
    ⟨r, hRun, hRecords⟩
  rw [List.nil_append] at hRecords
  have hFound :
      ∀ path,
        (∃ p ∈ history,
          (Route.ofText path).suffix ∈ p.extensions) →
          ∃ lister selected,
            IsLatest
                ((Route.ofText path).suffix ∈ ·.extensions)
                history lister ∧
              IsLatest (·.language = lister.language)
                history selected ∧
              (r.pluginFor? path).result =
                .ok (some selected.plugin) := by
    rintro path ⟨p, hMem, hListed⟩
    rcases exists_isLatest
        (P := ((Route.ofText path).suffix ∈ ·.extensions))
        hMem hListed with
      ⟨lister, hLister⟩
    rcases hRecords.pluginFor?_of_isLatest hLister with
      ⟨selected, hSelected, hResult⟩
    exact ⟨lister, selected, hLister, hSelected, hResult⟩
  refine ⟨r, hRun, fun path => ⟨⟨?_, ?_⟩, hFound path⟩,
    hRecords.languages.spellings,
    hRecords.listed.spellings⟩
  · intro hNone p hMem hListed
    rcases hFound path ⟨p, hMem, hListed⟩ with
      ⟨-, selected, -, -, hSome⟩
    rw [hNone] at hSome
    cases Except.ok.inj hSome
  · exact hRecords.pluginFor?_of_unlisted

------------------------------------------------------------
-- Plugins That Do Not List The Extension
------------------------------------------------------------

/-
  The plugin selected for a file lists its suffix exactly when
  the language of the last plugin that listed the suffix has
  not been registered again since.
-/
theorem mem_extensions_iff_of_pluginFor?
    {history : List Plugin.Declared}
    {r : Registry}
    {path : String}
    {plugin : Plugin}
    (hRun :
      empty.registerAll (history.map (·.plugin)) = .ok r)
    (hFound :
      (r.pluginFor? path).result = .ok (some plugin)) :
    ∃ before lister after extensions,
      history = before ++ lister :: after ∧
        (Route.ofText path).suffix ∈ lister.extensions ∧
        (∀ p ∈ after,
          (Route.ofText path).suffix ∉ p.extensions) ∧
        plugin.extensions = .ok (.strs extensions) ∧
        ((Route.ofText path).suffix ∈ extensions ↔
          ∀ p ∈ after, p.language ≠ lister.language) := by
  rcases records_empty.registerAll history with
    ⟨last, hLast, hRecords⟩
  rw [List.nil_append] at hRecords
  have hSame : last = r :=
    Except.ok.inj (hLast.symm.trans hRun)
  subst hSame
  cases hLister :
      latest? ((Route.ofText path).suffix ∈ ·.extensions)
        history with
  | none =>
      have hNone :=
        hRecords.pluginFor?_of_unlisted
          ((latest?_eq_none_iff _ _).mp hLister)
      rw [hFound] at hNone
      cases Except.ok.inj hNone
  | some lister =>
      rw [latest?_eq_some_iff] at hLister
      rcases hRecords.pluginFor?_of_isLatest hLister with
        ⟨selected, hSelected, hResult⟩
      rw [hFound] at hResult
      have hPlugin : plugin = selected.plugin :=
        Option.some.inj (Except.ok.inj hResult)
      rcases hLister with
        ⟨before, after, rfl, hListed, hAfter⟩
      refine ⟨before, lister, after, selected.extensions,
        rfl, hListed, hAfter, ?_, ?_⟩
      · rw [hPlugin, selected.extensions_eq]
      · rcases hSelected.eq_or_mem rfl with
          ⟨hOthers, rfl⟩ | ⟨hLater, hLanguage⟩
        · exact iff_of_true hListed hOthers
        · exact iff_of_false (hAfter selected hLater)
            fun hOthers => hOthers selected hLater hLanguage

/- A plugin for a language with some extensions. -/
def declared
    (language : String)
    (extensions : List String) : Plugin.Declared where
  plugin :=
    .plain "ConfigPlugin" (.ok (.str language))
      (.ok (.strs extensions)) (.ok .null)
  language := language
  extensions := extensions
  language_eq := rfl
  extensions_eq := rfl

/-
  One language is registered twice, and the second plugin lists
  only one of the two extensions that the first one listed.
-/
def reducedHistory : List Plugin.Declared :=
  [declared "alpha" [".a", ".b"], declared "alpha" [".b"]]

/-
  The second plugin is selected for the extension that only the
  first one listed: its language was registered again.
-/
theorem mem_extensions_iff_of_reduced :
    ∃ r plugin,
      empty.registerAll (reducedHistory.map (·.plugin)) =
          .ok r ∧
        (r.pluginFor? "x.a").result = .ok (some plugin) ∧
        ∃ before lister after extensions,
          reducedHistory = before ++ lister :: after ∧
            (Route.ofText "x.a").suffix ∈
              lister.extensions ∧
            (∀ p ∈ after,
              (Route.ofText "x.a").suffix ∉ p.extensions) ∧
            plugin.extensions = .ok (.strs extensions) ∧
            ((Route.ofText "x.a").suffix ∈ extensions ↔
              ∀ p ∈ after,
                p.language ≠ lister.language) :=
  ⟨_, _, rfl, rfl, mem_extensions_iff_of_pluginFor? rfl rfl⟩

/- A selected plugin need not list the suffix of the file. -/
theorem not_mem_extensions_of_reduced :
    ∃ r plugin,
      empty.registerAll (reducedHistory.map (·.plugin)) =
          .ok r ∧
        (r.pluginFor? "x.a").result = .ok (some plugin) ∧
        plugin.extensions = .ok (.strs [".b"]) ∧
        (Route.ofText "x.a").suffix ∉ [".b"] :=
  ⟨_, (declared "alpha" [".b"]).plugin, rfl, rfl, rfl,
    by decide⟩

end Registry

end SyntaxOutline
