import SyntaxOutline.Proofs.Registry.Scanning

/-
  What a registry remembers of its configurations.

  Configurations are loaded one by one or in the course of a
  scan, while files and plugin classes may change at any time.
  The registry keeps, for every path, the first configuration
  that a loading of it came to, and nothing of a loading that
  failed.  So later loadings of the path come to the same
  configuration, whatever has become of the file, and a path
  without a success is read again each time.

  Key definitions include:
    * `Registry.Load`
    * `Registry.turn`
    * `Registry.Event`
    * `Registry.Scene`
    * `Registry.firstLoaded?`
    * `Registry.Remembers`

  Main statements:
    * `Registry.Remembers.load`
    * `Registry.Remembers.scanAll`
    * `Registry.Remembers.run`
    * `Registry.load_of_run`
-/

------------------------------------------------------------
-- Loadings
------------------------------------------------------------

namespace SyntaxOutline

namespace Registry

/- A loading: what it finds around it, and what it starts from. -/
structure Load where
  workshop : Workshop
  files : FileTree
  directory : Route
  before : Registry

namespace Load

/- The path under which the configuration is kept. -/
def path
    (l : Load) : String :=
  configPath l.directory

/- The configuration, or why there is none. -/
def result
    (l : Load) : Except LoadFailure Value :=
  (l.before.load l.workshop l.files l.directory).result

/- The registry that is left. -/
def after
    (l : Load) : Registry :=
  (l.before.load l.workshop l.files l.directory).registry

/- What the file says now. -/
def reading
    (l : Load) : Except LoadFailure Value :=
  readConfig l.workshop l.files
    (l.directory.child configName)

end Load

/- The first configuration that the loadings of a path came to. -/
def firstLoaded?
    (path : String)
    (loads : List Load) : Option Value :=
  loads.findSome? fun l =>
    if l.path = path then l.result.toOption else none

theorem firstLoaded?_append
    (path : String)
    (front back : List Load) :
    firstLoaded? path (front ++ back) =
      (firstLoaded? path front).or
        (firstLoaded? path back) := by
  simp only [firstLoaded?, List.findSome?_append]

theorem firstLoaded?_singleton
    (path : String)
    (l : Load) :
    firstLoaded? path [l] =
      if l.path = path then l.result.toOption
      else none := by
  simp only [firstLoaded?, List.findSome?_singleton]

/- A path whose loadings have all failed has no configuration. -/
theorem firstLoaded?_eq_none
    {path : String}
    {loads : List Load}
    (hFailed :
      ∀ l ∈ loads, l.path = path →
        ∃ failure, l.result = .error failure) :
    firstLoaded? path loads = none := by
  rw [firstLoaded?, List.findSome?_eq_none_iff]
  intro l hMem
  by_cases hPath : l.path = path
  · rcases hFailed l hMem hPath with ⟨failure, hResult⟩
    rw [if_pos hPath, hResult]
    rfl
  · rw [if_neg hPath]

------------------------------------------------------------
-- Remembering
------------------------------------------------------------

/- The registry keeps the first configuration of every path. -/
def Remembers
    (loads : List Load)
    (r : Registry) : Prop :=
  ∀ path, r.configs.lookup path = firstLoaded? path loads

theorem remembers_empty :
    Remembers [] empty :=
  fun _ => rfl

variable {earlier : List Load}

/- Plugins and extensions play no part in it. -/
theorem Remembers.of_configs
    {r s : Registry}
    (hRemembers : Remembers earlier r)
    (hConfigs : s.configs = r.configs) :
    Remembers earlier s := by
  intro path
  rw [hConfigs]
  exact hRemembers path

/- A path is loaded to what is remembered, or else it is read. -/
theorem Remembers.result_eq
    {l : Load}
    (hRemembers : Remembers earlier l.before) :
    l.result =
      match firstLoaded? l.path earlier with
      | some config => .ok config
      | none => l.reading := by
  rw [Load.result, result_load, ← Load.path,
    hRemembers l.path]
  rfl

/- One more loading is remembered if it is the first success. -/
theorem Remembers.load
    {l : Load}
    (hRemembers : Remembers earlier l.before) :
    Remembers (earlier ++ [l]) l.after := by
  intro path
  rw [firstLoaded?_append, firstLoaded?_singleton,
    ← hRemembers path]
  rcases load_cases l.workshop l.files l.before
      l.directory with
    ⟨config, hHit, -, hAfter⟩ |
      ⟨-, failure, -, hResult, hAfter⟩ |
      ⟨hMiss, config, -, hResult, hAfter⟩
  · rw [Load.after, hAfter]
    by_cases hPath : l.path = path
    · rw [← hPath, Load.path, hHit]
      rfl
    · rw [if_neg hPath, Option.or_none]
  · rw [Load.after, hAfter, Load.result, hResult]
    simp [Except.toOption]
  · rw [Load.after, hAfter, Load.result, hResult,
      withConfigs, List.lookup_append]
    by_cases hPath : l.path = path
    · rw [if_pos hPath, ← hPath]
      simp [Load.path, Except.toOption]
    · have hOther : path ≠ configPath l.directory :=
        fun h => hPath h.symm
      rw [if_neg hPath, List.lookup_cons,
        beq_false_of_ne hOther, List.lookup_nil]

/- Once a path was loaded, its configuration is settled. -/
theorem Remembers.firstLoaded?_of_ok
    {l : Load}
    {config : Value}
    (hRemembers : Remembers earlier l.before)
    (hLoaded : l.result = .ok config) :
    firstLoaded? l.path (earlier ++ [l]) = some config := by
  rw [firstLoaded?_append, firstLoaded?_singleton,
    if_pos rfl, hLoaded]
  rw [hRemembers.result_eq] at hLoaded
  cases hFirst : firstLoaded? l.path earlier with
  | none => rfl
  | some known =>
      rw [hFirst] at hLoaded
      exact congrArg some (Except.ok.inj hLoaded)

/- A failure changes nothing. -/
theorem Load.after_of_error
    {l : Load}
    {failure : LoadFailure}
    (hFailed : l.result = .error failure) :
    l.after = l.before := by
  rcases load_cases l.workshop l.files l.before
      l.directory with
    ⟨_, -, hResult, -⟩ | ⟨-, _, -, -, hAfter⟩ |
      ⟨-, _, -, hResult, -⟩
  · rw [Load.result, hResult] at hFailed
    cases hFailed
  · exact hAfter
  · rw [Load.result, hResult] at hFailed
    cases hFailed

/-
  Loadings that follow earlier ones, up to a last registry.
  Each starts from a registry that remembers those before it.
-/
inductive Follows :
    List Load → List Load → Registry → Prop
  | last
      {earlier : List Load}
      {r : Registry}
      (hLast : Remembers earlier r) :
      Follows earlier [] r
  | next
      {earlier rest : List Load}
      {l : Load}
      {r : Registry}
      (hBefore : Remembers earlier l.before)
      (hRest : Follows (earlier ++ [l]) rest r) :
      Follows earlier (l :: rest) r

theorem Follows.append
    {loads more : List Load}
    {r s : Registry}
    (hLoads : Follows earlier loads r)
    (hMore : Follows (earlier ++ loads) more s) :
    Follows earlier (loads ++ more) s := by
  induction hLoads with
  | last _ => simpa using hMore
  | next hBefore _ ih =>
      refine .next hBefore (ih ?_)
      simpa using hMore

theorem Follows.remembers
    {loads : List Load}
    {r : Registry}
    (hLoads : Follows earlier loads r) :
    Remembers (earlier ++ loads) r := by
  induction hLoads with
  | last hLast => simpa using hLast
  | next _ _ ih => simpa using ih

theorem Follows.remembers_before
    {front back : List Load}
    {l : Load}
    {r : Registry}
    (hLoads : Follows earlier (front ++ l :: back) r) :
    Remembers (earlier ++ front) l.before := by
  induction front generalizing earlier with
  | nil =>
      cases hLoads with
      | next hBefore _ => simpa using hBefore
  | cons first front ih =>
      cases hLoads with
      | next _ hRest => simpa using ih hRest

------------------------------------------------------------
-- Loadings In The Course Of A Scan
------------------------------------------------------------

variable (workshop : Workshop) (files : FileTree)

/-
  The registry after the turn of one directory, unless the scan
  ends there.
-/
def turn
    (r : Registry)
    (directory : Route) : Option Registry :=
  let made := r.prepare workshop files directory
  match made.result with
  | none => some made.registry
  | some (plugin, config) =>
      let taken := made.registry.takeIn plugin config
      match taken.result with
      | .error _ => none
      | .ok _ => some taken.registry

/- The loadings of directories, one turn after the other. -/
def loadsAlong
    (r : Registry) :
    List Route → List Load
  | [] => []
  | directory :: rest =>
      ⟨workshop, files, directory, r⟩ ::
        match r.turn workshop files directory with
        | none => []
        | some next => loadsAlong next rest

/- The loadings of a scan. -/
def loadsOfScan
    (r : Registry)
    (directory : Route) : List Load :=
  if files.isTooLong directory then []
  else if files.isDirectory directory then
    loadsAlong workshop files r
      (pluginDirectories files directory)
  else []

/-
  A scan goes on from the registry after a turn, or ends with
  the configurations that the loading of the turn left.
-/
theorem scanAll_turn
    (r : Registry)
    (logs : List Log.Record)
    (found : List Value)
    (directory : Route)
    (rest : List Route) :
    (r.turn workshop files directory = none ∧
      (scanAll workshop files r logs found
          (directory :: rest)).registry.configs =
        (r.load workshop files
          directory).registry.configs) ∨
      ∃ next written names,
        r.turn workshop files directory = some next ∧
          next.configs =
            (r.load workshop files
              directory).registry.configs ∧
          scanAll workshop files r logs found
              (directory :: rest) =
            scanAll workshop files next written names
              rest := by
  have hLoaded := (prepare_eq workshop files r directory).2
  rw [turn, scanAll, ← hLoaded]
  cases hMade :
      (r.prepare workshop files directory).result with
  | none =>
      right
      exact ⟨_, _, _, rfl, rfl, rfl⟩
  | some made =>
      rcases made with ⟨plugin, config⟩
      have hConfigs :=
        configs_takeIn
          (r.prepare workshop files directory).registry
          plugin config
      dsimp only
      cases hTaken :
          ((r.prepare workshop files
            directory).registry.takeIn plugin
              config).result with
      | error cause => exact .inl ⟨rfl, hConfigs⟩
      | ok turn =>
          right
          exact ⟨_, _, _, rfl, hConfigs, rfl⟩

/- What a scan loads is remembered turn by turn. -/
theorem Remembers.scanAll
    {r : Registry}
    (hRemembers : Remembers earlier r)
    (logs : List Log.Record)
    (found : List Value)
    (directories : List Route) :
    Follows earlier
      (loadsAlong workshop files r directories)
      (Registry.scanAll workshop files r logs found
        directories).registry := by
  induction directories generalizing earlier r logs found with
  | nil => exact .last hRemembers
  | cons directory rest ih =>
      have hLoaded :=
        Remembers.load
          (l := ⟨workshop, files, directory, r⟩)
          hRemembers
      apply Follows.next hRemembers
      rcases scanAll_turn workshop files r logs found
          directory rest with
        ⟨hStop, hConfigs⟩ |
          ⟨next, written, names, hNext, hConfigs, hScan⟩
      · rw [hStop]
        exact .last (hLoaded.of_configs hConfigs)
      · rw [hNext, hScan]
        exact ih (hLoaded.of_configs hConfigs) written names

theorem Remembers.scan
    {r : Registry}
    (hRemembers : Remembers earlier r)
    (directory : Route) :
    Follows earlier (loadsOfScan workshop files r directory)
      (r.scan workshop files directory).registry := by
  rw [loadsOfScan, Registry.scan]
  split
  · exact .last hRemembers
  · split
    · exact hRemembers.scanAll workshop files _ _ _
    · exact .last hRemembers

------------------------------------------------------------
-- Runs
------------------------------------------------------------

/- What is done with a registry, and what happens around it. -/
inductive Event where
  | load (directory : Route)
  | register (plugin : Plugin)
  | scan (directory : Route)
  | change (workshop : Workshop) (files : FileTree)

/- A registry, and what it finds around it. -/
structure Scene where
  workshop : Workshop
  files : FileTree
  registry : Registry

namespace Scene

/- The scene after an event, with or without success. -/
def step
    (s : Scene) : Event → Scene
  | .load directory =>
      { s with
        registry :=
          (s.registry.load s.workshop s.files
            directory).registry }
  | .register plugin =>
      { s with
        registry := (s.registry.register plugin).registry }
  | .scan directory =>
      { s with
        registry :=
          (s.registry.scan s.workshop s.files
            directory).registry }
  | .change workshop files =>
      { s with workshop := workshop, files := files }

/- The loadings of an event. -/
def loadsOf
    (s : Scene) : Event → List Load
  | .load directory =>
      [⟨s.workshop, s.files, directory, s.registry⟩]
  | .register _ => []
  | .scan directory =>
      loadsOfScan s.workshop s.files s.registry directory
  | .change _ _ => []

/- The scene after events, one after the other. -/
def run
    (s : Scene)
    (events : List Event) : Scene :=
  events.foldl step s

/- All loadings of events, one after the other. -/
def loads
    (s : Scene) : List Event → List Load
  | [] => []
  | event :: rest => s.loadsOf event ++ (s.step event).loads rest

end Scene

/- Whatever is done, first successes are all that is kept. -/
theorem Remembers.step
    {s : Scene}
    (hRemembers : Remembers earlier s.registry)
    (event : Event) :
    Follows earlier (s.loadsOf event)
      (s.step event).registry := by
  cases event with
  | load directory =>
      exact .next hRemembers
        (.last (Remembers.load
          (l := ⟨s.workshop, s.files, directory,
            s.registry⟩)
          hRemembers))
  | register plugin =>
      exact .last (hRemembers.of_configs
        (configs_takeIn s.registry plugin .null))
  | scan directory =>
      exact hRemembers.scan s.workshop s.files directory
  | change workshop files => exact .last hRemembers

theorem Remembers.run
    {s : Scene}
    (hRemembers : Remembers earlier s.registry)
    (events : List Event) :
    Follows earlier (s.loads events)
      (s.run events).registry := by
  induction events generalizing earlier s with
  | nil => exact .last hRemembers
  | cons event rest ih =>
      have hStep := hRemembers.step event
      exact hStep.append (ih hStep.remembers)

------------------------------------------------------------
-- Loadings In Any Run
------------------------------------------------------------

/-
  In any run on a new registry, whatever files and plugin
  classes become in between: once a path was loaded, all later
  loadings of it come to the same configuration; a loading that
  fails leaves plugins, extensions and configurations as they
  were; and a path that was never loaded is read as the file is
  now.  In the end the registry has, for each path, the first
  configuration that it was loaded to.
-/
theorem load_of_run
    (workshop : Workshop)
    (files : FileTree)
    (events : List Event) :
    (∀ earlier l later,
      Scene.loads ⟨workshop, files, empty⟩ events =
          earlier ++ l :: later →
        (∀ config, l.result = .ok config →
          ∀ next ∈ later, next.path = l.path →
            next.result = .ok config) ∧
        (∀ failure, l.result = .error failure →
          l.after.configs = l.before.configs ∧
            l.after.plugins = l.before.plugins ∧
            l.after.extensions = l.before.extensions) ∧
        ((∀ past ∈ earlier, past.path = l.path →
            ∃ failure, past.result = .error failure) →
          l.result =
            readConfig l.workshop l.files
              (l.directory.child configName))) ∧
      ∀ path,
        (Scene.run ⟨workshop, files, empty⟩
            events).registry.configs.lookup path =
          firstLoaded? path
            (Scene.loads ⟨workshop, files, empty⟩
              events) := by
  have hRun :=
    Remembers.run (s := ⟨workshop, files, empty⟩)
      remembers_empty events
  refine ⟨?_, hRun.remembers⟩
  intro earlier l later hLoads
  rw [hLoads] at hRun
  have hBefore : Remembers earlier l.before :=
    hRun.remembers_before
  refine ⟨?_, ?_, ?_⟩
  · intro config hConfig next hNext hPath
    rcases List.append_of_mem hNext with ⟨mid, back, rfl⟩
    have hNextBefore :
        Remembers (earlier ++ [l] ++ mid) next.before := by
      rw [List.append_cons, ← List.append_assoc] at hRun
      simpa using hRun.remembers_before
    rw [hNextBefore.result_eq, hPath, firstLoaded?_append,
      hBefore.firstLoaded?_of_ok hConfig]
    rfl
  · intro failure hFailed
    rw [Load.after_of_error hFailed]
    exact ⟨rfl, rfl, rfl⟩
  · intro hFailed
    rw [hBefore.result_eq, firstLoaded?_eq_none hFailed]
    rfl

/- What a complete configuration spells. -/
def keptConfig : Value :=
  .record
    [("name", .str "alpha"), ("version", .str "v1"),
      ("file_extensions", .strs [".a"]),
      ("plugin_class", .str "nowhere:Plugin")]

/- A workshop that reads one text and has no classes. -/
def keepingWorkshop : Workshop where
  read := fun _ text =>
    if text = "complete" then .ok keptConfig
    else .error .grammar
  build := Catalog.build []

/- A directory with one plugin directory in it. -/
def keepingFiles
    (text : String) : FileTree :=
  ⟨[(["p"], .directory), (["p", "a"], .directory),
    (["p", "a", configName], .file text)]⟩

/-
  A path is asked for before there is a file, then loaded by a
  scan that can build no plugin, and asked for again when the
  file is no YAML any more and when it is gone.
-/
def keepingRun : List Event :=
  [.load (.ofText "p/a"),
    .change keepingWorkshop (keepingFiles "complete"),
    .scan (.ofText "p"),
    .change keepingWorkshop (keepingFiles "broken: ["),
    .load (.ofText "p/a"),
    .change keepingWorkshop .empty,
    .load (.ofText "p/a")]

theorem pluginDirectories_keepingFiles :
    pluginDirectories (keepingFiles "complete")
        (.ofText "p") =
      [.ofText "p/a"] := by
  have hNames :
      (keepingFiles "complete").names (.ofText "p") =
        ["a"].mergeSort fun a b => decide (a ≤ b) := rfl
  rw [pluginDirectories, innerDirectories, hNames,
    List.mergeSort_singleton]
  rfl

/- The scan is the first to succeed, and that settles it. -/
theorem load_of_keepingRun :
    (Scene.loads ⟨keepingWorkshop, .empty, empty⟩
        keepingRun).map Load.result =
      [.error (.notFound "p/a/config.yaml"),
        .ok keptConfig, .ok keptConfig, .ok keptConfig] := by
  let scanned : Registry :=
    (empty.scan keepingWorkshop (keepingFiles "complete")
      (.ofText "p")).registry
  let asked : Load :=
    ⟨keepingWorkshop, keepingFiles "broken: [",
      .ofText "p/a", scanned⟩
  let again : Load :=
    ⟨keepingWorkshop, .empty, .ofText "p/a", asked.after⟩
  have hScan :
      loadsOfScan keepingWorkshop (keepingFiles "complete")
          empty (.ofText "p") =
        [⟨keepingWorkshop, keepingFiles "complete",
          .ofText "p/a", empty⟩] := by
    rw [loadsOfScan, if_neg (by decide),
      if_pos (by decide), pluginDirectories_keepingFiles]
    rfl
  have hLoads :
      Scene.loads ⟨keepingWorkshop, .empty, empty⟩
          keepingRun =
        ⟨keepingWorkshop, .empty, .ofText "p/a", empty⟩ ::
          (loadsOfScan keepingWorkshop
              (keepingFiles "complete") empty
              (.ofText "p") ++
            [asked, again]) := rfl
  rw [hScan] at hLoads
  rcases (load_of_run keepingWorkshop .empty
      keepingRun).1 [_] _ _ hLoads with
    ⟨hSettled, -, -⟩
  have hAsked : asked.result = .ok keptConfig :=
    hSettled keptConfig rfl asked (by simp) rfl
  have hAgain : again.result = .ok keptConfig :=
    hSettled keptConfig rfl again (by simp) rfl
  rw [hLoads]
  simp only [List.cons_append, List.nil_append,
    List.map_cons, List.map_nil, hAsked, hAgain]
  rfl

end Registry

end SyntaxOutline
