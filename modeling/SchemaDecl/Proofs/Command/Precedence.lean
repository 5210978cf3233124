import SchemaDecl.Proofs.Command.Generate
import SchemaDecl.Proofs.Command.SettingsFile
import SchemaDecl.Proofs.Target.Mapping

/-!
# Which settings prevail

The target of a call, its visibility and its package may be asked for in the arguments and in two
settings files.  Each of the three has its own rule.  A name of a target is taken from the first
place that has one, even if no target has this name, but an extension only if a target has it.
Declarations are public if the arguments or the settings want it.  A package is taken from the
first place that has one.

Of the settings files, only what they resolve to reaches the outcome: calls with the same target,
visibility and package leave the same, if their output goes to the same place.  Two things can be
seen of a settings file beside that.  The log warns of one that is not in order, and the directory
that it stands in is one where the output can go.

## Main definitions

* `TargetSource`, `targetSources` — where a target may come from.
* `Resolution` — what a call makes of its arguments and of the settings files.
* `Resolution.Follows`, `Surroundings.Resolves` — the rules for it.
* `Surroundings.outcomeFor` — the rest of the call, which sees no settings.
* `Surroundings.LeavesAlike` — two calls leave the same.

## Main results

* `selectTarget_withFallback` — **the first source decides the target**.
* `Surroundings.resolves_iff` — the resolution of a call.
* `Surroundings.run_resolved` — **the rules hold, and nothing else of the settings matters**.
* `Surroundings.settingsFile_seen` — what can be seen of a settings file that resolves to nothing.
-/

namespace SchemaDecl.Command

/-! ### Targets -/

/-- Where a target may come from. -/
inductive TargetSource
  /-- The arguments or the settings name it. -/
  | named (name : String)
  /-- The output has its extension. -/
  | extension (target : Target)

/-- The target that a source gives.  It may have named one that is not there. -/
def TargetSource.target : TargetSource → Except GenerateError Target
  | named name => namedTarget name
  | extension target => .ok target

/-- The sources of a target that are there, in the order of their precedence. -/
def targetSources (g : GenerateArgs) (project global : Settings) : List TargetSource :=
  (g.lang.map .named).toList ++ ((g.output.bind targetOfPath?).map .extension).toList ++
    (project.backend.map .named).toList ++ (global.backend.map .named).toList

/-- **The first source decides the target.** -/
theorem selectTarget_withFallback (g : GenerateArgs) (project global : Settings) :
    selectTarget g (project.withFallback global)
      = (targetSources g project global).head?.elim (.error .noTarget) TargetSource.target := by
  rw [selectTarget, targetSources, Settings.withFallback]
  cases g.lang with
  | some name => rfl
  | none =>
    cases g.output.bind targetOfPath? with
    | some target => rfl
    | none =>
      cases project.backend with
      | some name => rfl
      | none =>
        cases global.backend with
        | some name => rfl
        | none => rfl

/-- A name stands for the target of this name, or for none. -/
theorem namedTarget_eq_ok_iff {name : String} {target : Target} :
    namedTarget name = .ok target ↔ target ∈ Catalogue.builtin ∧ target.name = name := by
  have hname : ∀ {target : Target}, target ∈ Catalogue.builtin →
      Catalogue.builtin.byName? target.name = some target := by
    intro target h
    rcases Target.mem_builtin.mp h with rfl | rfl | rfl | rfl | rfl | rfl | rfl <;> rfl
  rw [namedTarget]
  constructor
  · intro h
    split at h
    · next found hfound =>
      cases h
      exact ⟨List.mem_of_find?_eq_some hfound, by simpa using List.find?_some hfound⟩
    · cases h
  · rintro ⟨htarget, rfl⟩
    rw [hname htarget]

/-- A path stands for the target of its extension, or for none. -/
theorem targetOfPath?_eq_some_iff {path : String} {target : Target} :
    targetOfPath? path = some target ↔
      target ∈ Catalogue.builtin ∧ fileExtension? path = some target.extension := by
  have hextension : ∀ {target : Target}, target ∈ Catalogue.builtin →
      Catalogue.builtin.byExtension? target.extension = some target := by
    intro target h
    rcases Target.mem_builtin.mp h with rfl | rfl | rfl | rfl | rfl | rfl | rfl <;> rfl
  rw [targetOfPath?, Option.bind_eq_some_iff]
  constructor
  · rintro ⟨extension, hpath, h⟩
    have hfound : (target.extension == extension) = true :=
      List.find?_some (p := fun target : Target => target.extension == extension) h
    rw [hpath, beq_iff_eq.mp hfound]
    exact ⟨List.mem_of_find?_eq_some h, rfl⟩
  · rintro ⟨htarget, hpath⟩
    exact ⟨_, hpath, hextension htarget⟩

/-! ### Calls -/

/-- What a call makes of its arguments and of the two settings files. -/
structure Resolution where
  /-- The target, or the error of a call without one. -/
  target : Except GenerateError Target
  options : Options
  /-- What the log tells about the settings files. -/
  log : List LogLine

/-- The rules of precedence, for what the two files set. -/
structure Resolution.Follows (r : Resolution) (g : GenerateArgs) (project global : Settings) :
    Prop where
  /-- The first source decides, also if it names a target that is not there. -/
  target : r.target
    = (targetSources g project global).head?.elim (.error .noTarget) TargetSource.target
  isPublic : r.options.isPublic = true ↔
    g.isPublic = true ∨ project.isPublic.or global.isPublic = some true
  package : r.options.package = ((g.package.or project.package).or global.package).getD "main"

theorem Resolution.Follows.options_unique {r r' : Resolution} {g : GenerateArgs}
    {project global : Settings} (h : r.Follows g project global)
    (h' : r'.Follows g project global) : r.options = r'.options := by
  have hpublic : r.options.isPublic = r'.options.isPublic :=
    Bool.eq_iff_iff.mpr (h.isPublic.trans h'.isPublic.symm)
  have hpackage : r.options.package = r'.options.package := h.package.trans h'.package.symm
  cases hr : r.options with
  | mk isPublic package =>
    cases hr' : r'.options with
    | mk isPublic' package' =>
      rw [hr, hr'] at hpublic hpackage
      rw [Options.mk.injEq]
      exact ⟨hpublic, hpackage⟩

namespace Surroundings

/-- What a settings file contributes that may have no place to be. -/
inductive ContributesAt (s : Surroundings) : Option String → Settings → List LogLine → Prop
  | nowhere : ContributesAt s none {} []
  | file {path : String} {settings : Settings} {log : List LogLine}
      (h : s.Contributes path settings log) : ContributesAt s (some path) settings log

/-- The call resolves like this, by what stands in its two settings files.  The global one is
loaded first, so the log begins with it. -/
def Resolves (s : Surroundings) (g : GenerateArgs) (r : Resolution) : Prop :=
  ∃ project global projectLog globalLog,
    s.Contributes projectSettingsPath project projectLog ∧
    s.ContributesAt (globalSettingsPath? s.configHome s.home) global globalLog ∧
    r.Follows g project global ∧ r.log = globalLog ++ projectLog

/-- What a call leaves once its target and its options are known.  It does not look at the
settings any more. -/
def outcomeFor (s : Surroundings) (g : GenerateArgs) (r : Resolution) : Outcome :=
  match (do
    let target ← r.target
    let root ← readSchema g (s.schemaBytes g)
    let code ← (target.compile r.options root).mapError (.compiling target.name)
    s.deliver ⟨code, g.output⟩) with
  | .ok outcome => outcome
  | .error e => s.fail e

/-- The settings of the project. -/
def projectSettings (s : Surroundings) : Settings := s.fileSettings projectSettingsPath

/-- The settings for all projects, if the environment tells where they are. -/
def globalSettings (s : Surroundings) : Settings :=
  (globalSettingsPath? s.configHome s.home).elim {} s.fileSettings

/-- Key by key, the settings of the project win. -/
theorem settings_eq (s : Surroundings) :
    s.settings = s.projectSettings.withFallback s.globalSettings := by
  rw [settings, Settings.resolve, projectSettings, globalSettings, fileSettings]
  cases globalSettingsPath? s.configHome s.home <;> rfl

/-- The resolution that the program comes to. -/
def resolution (s : Surroundings) (g : GenerateArgs) : Resolution :=
  ⟨selectTarget g s.settings, options g s.settings, s.settingsLog⟩

theorem follows_resolution (s : Surroundings) (g : GenerateArgs) :
    (s.resolution g).Follows g s.projectSettings s.globalSettings where
  target := by rw [resolution, settings_eq, selectTarget_withFallback]
  isPublic := by
    rw [resolution, settings_eq, Command.options, Settings.withFallback, Bool.or_eq_true]
    cases s.projectSettings.isPublic.or s.globalSettings.isPublic <;> simp
  package := by
    rw [resolution, settings_eq, Command.options, Settings.withFallback, Option.or_assoc]

theorem contributesAt_iff (s : Surroundings) (path : Option String) (settings : Settings)
    (log : List LogLine) :
    s.ContributesAt path settings log ↔
      settings = path.elim {} s.fileSettings ∧ log = path.elim [] s.fileLog := by
  constructor
  · intro h
    cases h with
    | nowhere => exact ⟨rfl, rfl⟩
    | file h => exact (s.contributes_iff _ _ _).mp h
  · rintro ⟨rfl, rfl⟩
    cases path with
    | none => exact .nowhere
    | some path => exact .file (s.contributes_fileSettings path)

/-- **A call has one resolution.** -/
theorem resolves_iff (s : Surroundings) (g : GenerateArgs) (r : Resolution) :
    s.Resolves g r ↔ r = s.resolution g := by
  have hfollows := s.follows_resolution g
  constructor
  · rintro ⟨project, global, projectLog, globalLog, hproject, hglobal, hr, hlog⟩
    obtain ⟨rfl, rfl⟩ := (s.contributes_iff _ _ _).mp hproject
    obtain ⟨rfl, rfl⟩ := (s.contributesAt_iff _ _ _).mp hglobal
    have htarget : r.target = (s.resolution g).target := hr.target.trans hfollows.target.symm
    have hoptions : r.options = (s.resolution g).options := hr.options_unique hfollows
    obtain ⟨target, options, log⟩ := r
    rw [resolution, Resolution.mk.injEq]
    exact ⟨htarget, hoptions, hlog⟩
  · rintro rfl
    exact ⟨_, _, _, _, s.contributes_fileSettings _, (s.contributesAt_iff _ _ _).mpr ⟨rfl, rfl⟩,
      hfollows, rfl⟩

theorem generate_eq_outcomeFor (s : Surroundings) (g : GenerateArgs) :
    s.generate g = s.outcomeFor g (s.resolution g) := by
  rw [generate, outcomeFor, resolution, Command.generate]
  dsimp only [bind, Except.bind]
  cases selectTarget g s.settings with
  | error e => rfl
  | ok target =>
    cases readSchema g (s.schemaBytes g) with
    | error e => rfl
    | ok root =>
      dsimp only
      cases (target.compile (options g s.settings) root).mapError
          (GenerateError.compiling target.name) with
      | error e => rfl
      | ok code => rfl

/-! ### Two calls -/

/-- Two calls leave the same: exit code, output and messages, and either nothing is written, or the
same contents are at the same location. -/
inductive LeavesAlike (s s' : Surroundings) : Outcome → Outcome → Prop
  | unchanged (exitCode : Nat) (output messages : String) :
      LeavesAlike s s' ⟨exitCode, output, messages, s.disk⟩ ⟨exitCode, output, messages, s'.disk⟩
  | written (exitCode : Nat) (output messages : String) {path : String} {bytes : ByteArray}
      {location : Location} {disk disk' : Disk} (h : s.disk.Written path bytes location disk)
      (h' : s'.disk.Written path bytes location disk') :
      LeavesAlike s s' ⟨exitCode, output, messages, disk⟩ ⟨exitCode, output, messages, disk'⟩

/-- Two calls read the same schema, and resolve to the same target and options. -/
structure ResolvesLike (s s' : Surroundings) (g : GenerateArgs) : Prop where
  schema : s.schemaBytes g = s'.schemaBytes g
  resolution : ∃ r r', s.Resolves g r ∧ s'.Resolves g r' ∧ r.target = r'.target ∧
    r.options = r'.options

/-- Code is delivered alike where it has the same destination. -/
theorem leavesAlike_deliver {s s' : Surroundings} (delivery : Delivery)
    (h : ∀ path, delivery.path = some path → s.disk.destination path = s'.disk.destination path) :
    (∃ outcome outcome', s.deliver delivery = .ok outcome ∧ s'.deliver delivery = .ok outcome' ∧
      LeavesAlike s s' outcome outcome') ∨
    ∃ e, s.deliver delivery = .error e ∧ s'.deliver delivery = .error e := by
  obtain ⟨code, path?⟩ := delivery
  cases path? with
  | none => exact Or.inl ⟨_, _, rfl, rfl, .unchanged 0 code ""⟩
  | some path =>
    have hpath := h path rfl
    rw [deliver, deliver]
    dsimp only
    rw [Disk.write_eq, Disk.write_eq, ← hpath]
    cases hdestination : s.disk.destination path with
    | error e => exact Or.inr ⟨_, rfl, rfl⟩
    | ok location =>
      have hwritten := Disk.written_of_destination hdestination code.toUTF8
      rw [hpath] at hdestination
      have hwritten' := Disk.written_of_destination hdestination code.toUTF8
      exact Or.inl ⟨_, _, rfl, rfl, .written 0 "" _ hwritten hwritten'⟩

/-- Calls that resolve alike leave the same.  Stage by stage, both have the same in hand; the disk
is looked at only in the last one. -/
theorem leavesAlike_outcomeFor {s s' : Surroundings} {g : GenerateArgs} {r r' : Resolution}
    (hschema : s.schemaBytes g = s'.schemaBytes g) (htarget : r.target = r'.target)
    (hoptions : r.options = r'.options)
    (hdestination : ∀ path, g.output = some path →
      s.disk.destination path = s'.disk.destination path) :
    LeavesAlike s s' (s.outcomeFor g r) (s'.outcomeFor g r') := by
  rw [outcomeFor, outcomeFor, hschema, htarget, hoptions]
  dsimp only [bind, Except.bind]
  cases r'.target with
  | error e => exact .unchanged 1 "" _
  | ok target =>
    cases readSchema g (s'.schemaBytes g) with
    | error e => exact .unchanged 1 "" _
    | ok root =>
      dsimp only
      cases (target.compile r'.options root).mapError (GenerateError.compiling target.name) with
      | error e => exact .unchanged 1 "" _
      -- both calls have the same code now, and differ in their disks
      | ok code =>
        dsimp only
        rcases leavesAlike_deliver ⟨code, g.output⟩ hdestination with
          ⟨outcome, outcome', hdelivered, hdelivered', halike⟩ | ⟨e, he, he'⟩
        · rw [hdelivered, hdelivered']
          exact halike
        · rw [he, he']
          exact .unchanged 1 "" _

/-- **The rules of precedence hold, and nothing else of the settings matters.**  A call has one
resolution.  Its target is that of the first source that is there: the name in the arguments, the
extension of the output if it is that of a target, the name in the settings of the project, and
that in the global ones.  If the first source is a name that no target has, the call fails.
Declarations are public if the arguments or the settings want it, and the package is the first one
that is given.  A settings file that cannot be read, that is no document, or that has a known key
of another type sets nothing, and does not touch the other file.

Two calls with the same arguments that read the same schema, that resolve to the same target and
options, and whose output goes to the same place leave the same behind the log, whatever the
settings are.  No contents of files change where an output goes.  The log has one line for each
settings file that is a text, which is a warning if the file is not in order. -/
theorem run_resolved {args : List String} {g : GenerateArgs}
    (h : Invocation.parse args = some (.generate g)) :
    (∀ s : Surroundings, ∃ r, s.Resolves g r ∧ (∀ r', s.Resolves g r' → r' = r) ∧
      s.run args = s.outcomeFor g r ∧
      ∀ shows, s.standardError shows args
        = ⟨r.log.filter shows, (s.outcomeFor g r).messages⟩) ∧
    (∀ (name : String) (target : Target), namedTarget name = .ok target ↔
      target ∈ Catalogue.builtin ∧ target.name = name) ∧
    (∀ (path : String) (target : Target), targetOfPath? path = some target ↔
      target ∈ Catalogue.builtin ∧ fileExtension? path = some target.extension) ∧
    (∀ s s' : Surroundings, s.ResolvesLike s' g →
      (∀ path, g.output = some path → s.disk.destination path = s'.disk.destination path) →
      LeavesAlike s s' (s.run args) (s'.run args)) ∧
    ∀ (disk disk' : Disk) (path : String), disk.SamePlaces disk' →
      disk.destination path = disk'.destination path := by
  -- whatever a call resolves to, the rest of it follows from that alone
  have hrun : ∀ s : Surroundings, ∀ r, s.Resolves g r → s.run args = s.outcomeFor g r := by
    intro s r hr
    rw [(s.resolves_iff g r).mp hr, run, h]
    exact s.generate_eq_outcomeFor g
  refine ⟨fun s => ?_, fun _ _ => namedTarget_eq_ok_iff, fun _ _ => targetOfPath?_eq_some_iff,
    fun s s' hlike hdestination => ?_, fun _ _ path h => Disk.destination_congr h path⟩
  · have hresolves : s.Resolves g (s.resolution g) := (s.resolves_iff g _).mpr rfl
    refine ⟨s.resolution g, hresolves, fun r' => (s.resolves_iff g r').mp, hrun s _ hresolves, ?_⟩
    intro shows
    rw [standardError, log, h, hrun s _ hresolves]
    rfl
  · obtain ⟨hschema, r, r', hr, hr', htarget, hoptions⟩ := hlike
    rw [hrun s r hr, hrun s' r' hr']
    exact leavesAlike_outcomeFor hschema htarget hoptions hdestination

/-! ### Settings in a directory -/

/-- A directory with settings of a project and nothing else, and a schema on the standard input. -/
def settingsDirectory (text : String) : Surroundings :=
  ⟨⟨[([".structgen", "config.toml"], text.toUTF8)], []⟩, orderSchema.toUTF8, none, none⟩

theorem text?_settingsDirectory (text : String) :
    (settingsDirectory text).text? projectSettingsPath = some text :=
  text?_of_hasText ⟨text.toUTF8, rfl, textOf_toUTF8 text⟩

theorem settings_settingsDirectory (text : String) :
    (settingsDirectory text).settings = (Settings.ofText? text).getD {} := by
  have hglobal : (settingsDirectory text).globalSettings = {} := rfl
  rw [settings_eq, hglobal, Settings.withFallback_empty, projectSettings, fileSettings,
    text?_settingsDirectory]
  rfl

theorem settingsLog_settingsDirectory (text : String) :
    (settingsDirectory text).settingsLog = LogLine.ofFile projectSettingsPath (some text) := by
  rw [settingsLog, fileLog, text?_settingsDirectory]
  rfl

theorem samePlaces_settingsDirectory (text text' : String) :
    (settingsDirectory text).disk.SamePlaces (settingsDirectory text').disk where
  workingDirectory := rfl
  files l := by
    rw [Disk.contents?, Disk.contents?, settingsDirectory, settingsDirectory,
      List.lookup_cons_eq_ite, List.lookup_cons_eq_ite]
    split <;> rfl

theorem outcomeFor_of_input {s : Surroundings} {g : GenerateArgs} {r : Resolution}
    {target : Target} {schema code : String} (hpath : g.schemaPath? = none)
    (hinput : s.standardInput = schema.toUTF8) (htarget : r.target = .ok target)
    (hcode : ((Node.ofText schema).toOption.bind fun root =>
      (target.compile r.options (withDefaultTitle g.name root)).toOption) = some code) :
    s.outcomeFor g r = match s.deliver ⟨code, g.output⟩ with
      | .ok outcome => outcome
      | .error e => s.fail e := by
  obtain ⟨root, hparse, hcompile⟩ := Option.bind_eq_some_iff.mp hcode
  have hread : (s.schemaBytes g).bind textOf = .ok schema := by
    rw [schemaBytes, hpath, hinput]
    exact textOf_toUTF8 schema
  rw [outcomeFor, readSchema_eq, htarget, hread]
  dsimp only [bind, Except.bind]
  rw [Except.eq_ok_of_toOption hparse]
  dsimp only [Except.mapError, Except.map]
  rw [Except.eq_ok_of_toOption hcompile]

/-- With a target in the arguments, no name of one in the settings matters. -/
theorem resolvesLike_of_lang {s s' : Surroundings} {g : GenerateArgs} {name : String}
    (hlang : g.lang = some name) (hschema : s.schemaBytes g = s'.schemaBytes g)
    (hpublic : s.settings.isPublic = s'.settings.isPublic)
    (hpackage : s.settings.package = s'.settings.package) : s.ResolvesLike s' g where
  schema := hschema
  resolution := by
    refine ⟨_, _, (s.resolves_iff g _).mpr rfl, (s'.resolves_iff g _).mpr rfl, ?_, ?_⟩
    · rw [resolution, resolution, selectTarget, selectTarget, hlang]
    · rw [resolution, resolution, Command.options, Command.options, hpublic, hpackage]

/-! ### What can be seen of a settings file -/

/-- A call whose output goes beside the settings of the project. -/
def orderCall : List String :=
  ["generate", "-", "-l", "go", "-o", ".structgen/order.go", "--name", "Order"]

/-- The arguments of `orderCall`. -/
def orderArgs : GenerateArgs :=
  ⟨"-", some "go", some ".structgen/order.go", false, none, some "Order"⟩

/-- Settings that the arguments of `orderCall` override. -/
def overriddenText : String := "[generate]\nbackend = 'c'\n"

/-- Settings that are not in order. -/
def brokenText : String := "[generate\nbackend = "

theorem parse_orderCall : Invocation.parse orderCall = some (.generate orderArgs) := by
  decide +kernel

theorem ofText?_overriddenText :
    Settings.ofText? overriddenText = some { backend := some "c" } := by
  decide +kernel

theorem ofText?_brokenText : Settings.ofText? brokenText = none := by
  decide +kernel

theorem settings_brokenText : (settingsDirectory brokenText).settings = {} := by
  rw [settings_settingsDirectory, ofText?_brokenText]
  rfl

/-- What one file sets is overridden, and the other one sets nothing. -/
theorem resolvesLike_brokenText :
    (settingsDirectory overriddenText).ResolvesLike (settingsDirectory brokenText) orderArgs := by
  have hoverridden : (settingsDirectory overriddenText).settings = { backend := some "c" } := by
    rw [settings_settingsDirectory, ofText?_overriddenText]
    rfl
  refine resolvesLike_of_lang rfl rfl ?_ ?_
  · rw [hoverridden, settings_brokenText]
  · rw [hoverridden, settings_brokenText]

theorem run_orderCall {s : Surroundings} (hinput : s.standardInput = orderSchema.toUTF8)
    (hsettings : s.settings = {}) :
    s.run orderCall = match s.deliver ⟨orderCode, some ".structgen/order.go"⟩ with
      | .ok outcome => outcome
      | .error e => s.fail e := by
  have hcode : ((Node.ofText orderSchema).toOption.bind fun root =>
        (Target.go.compile {} (withDefaultTitle (some "Order") root)).toOption)
      = some orderCode := by
    decide +kernel
  have hoptions : (s.resolution orderArgs).options = {} := by
    rw [resolution, hsettings]
    rfl
  rw [run, parse_orderCall]
  dsimp only
  rw [generate_eq_outcomeFor]
  refine outcomeFor_of_input rfl hinput rfl ?_
  rw [hoptions]
  exact hcode

/-- Settings that say all that can be set. -/
def modelsText : String := "[generate]\nbackend = 'go'\npublic = true\npackage = 'models'\n"

/-- What the schema without a title is under these settings and the name `Order`. -/
def modelsCode : String :=
  "package models\n\ntype Order struct \x7b\n\tId string `json:\"id\"`\n\x7d\n"

/-- A call that leaves all to the settings. -/
def modelsCall : List String := ["generate", "-", "--name", "Order"]

/-- The arguments of `modelsCall`. -/
def modelsArgs : GenerateArgs := ⟨"-", none, none, false, none, some "Order"⟩

/-- What `modelsCall` resolves to under these settings. -/
def modelsResolution : Resolution :=
  ⟨.ok .go, ⟨true, "models"⟩, [.loaded projectSettingsPath]⟩

theorem resolves_modelsResolution :
    (settingsDirectory modelsText).Resolves modelsArgs modelsResolution := by
  have hsets : Settings.Sets modelsText ⟨some "go", some true, some "models"⟩ :=
    Settings.ofText?_eq_some_iff.mp (by decide +kernel)
  exact ⟨_, {}, _, [], .accepted ⟨_, rfl, textOf_toUTF8 modelsText⟩ hsets, .nowhere,
    ⟨rfl, by simp [modelsResolution], rfl⟩, rfl⟩

/-- In the first call the settings of the project decide target, visibility and package.  In the
other two nothing that they set is used, and all that they leave behind the log is the same. -/
theorem run_resolved_of_settings :
    (settingsDirectory modelsText).run modelsCall
      = ⟨0, modelsCode, "", (settingsDirectory modelsText).disk⟩ ∧
    LeavesAlike (settingsDirectory overriddenText) (settingsDirectory brokenText)
      ((settingsDirectory overriddenText).run orderCall)
      ((settingsDirectory brokenText).run orderCall) := by
  constructor
  · have hargs : Invocation.parse modelsCall = some (.generate modelsArgs) := by decide +kernel
    obtain ⟨hresolved, -⟩ := run_resolved hargs
    obtain ⟨r, -, hunique, hrun, -⟩ := hresolved (settingsDirectory modelsText)
    obtain rfl := hunique modelsResolution resolves_modelsResolution
    have hcode : ((Node.ofText orderSchema).toOption.bind fun root =>
          (Target.go.compile ⟨true, "models"⟩ (withDefaultTitle (some "Order") root)).toOption)
        = some modelsCode := by
      decide +kernel
    have hinput : (settingsDirectory modelsText).standardInput = orderSchema.toUTF8 := rfl
    have houtcome : (settingsDirectory modelsText).outcomeFor modelsArgs modelsResolution
        = match (settingsDirectory modelsText).deliver ⟨modelsCode, none⟩ with
          | .ok outcome => outcome
          | .error e => (settingsDirectory modelsText).fail e :=
      outcomeFor_of_input rfl hinput rfl hcode
    rw [hrun, houtcome, deliver]
  · obtain ⟨-, -, -, hleaves, hdestination⟩ := run_resolved parse_orderCall
    refine hleaves _ _ resolvesLike_brokenText ?_
    intro path _
    exact hdestination _ _ path (samePlaces_settingsDirectory _ _)

/-- **A settings file can be seen although nothing that it sets is used.**  These calls read the
same schema and resolve to the same target and options.  The log warns of the file that is not in
order and not of the one that is overridden.  And where there is no settings file there is no
directory for the output, so that the call fails. -/
theorem settingsFile_seen :
    Invocation.parse orderCall = some (.generate orderArgs) ∧
    ((settingsDirectory overriddenText).ResolvesLike (settingsDirectory brokenText) orderArgs ∧
      (settingsDirectory overriddenText).standardError LogLine.isWarning orderCall
        ≠ (settingsDirectory brokenText).standardError LogLine.isWarning orderCall) ∧
    (settingsDirectory brokenText).ResolvesLike (onInput orderSchema) orderArgs ∧
    (∃ disk, (settingsDirectory brokenText).run orderCall
        = ⟨0, "", "Generated .structgen/order.go\n", disk⟩ ∧
      ([".structgen", "order.go"], orderCode.toUTF8)
        ∈ (settingsDirectory brokenText).disk.changes disk) ∧
    ∃ disk, (onInput orderSchema).run orderCall
        = ⟨1, "", "Error: failed to write .structgen/order.go: "
            ++ "No such file or directory (os error 2)\n", disk⟩ ∧
      (onInput orderSchema).disk.changes disk = [] := by
  refine ⟨parse_orderCall, ⟨resolvesLike_brokenText, ?_⟩, resolvesLike_of_lang rfl rfl ?_ ?_,
    ?_, ?_⟩
  · -- only the log of the file that is not in order has a warning
    intro h
    have hlog := congrArg StandardError.log h
    rw [standardError, standardError, log, log, parse_orderCall] at hlog
    dsimp only at hlog
    rw [settingsLog_settingsDirectory, settingsLog_settingsDirectory, LogLine.ofFile,
      LogLine.ofFile, ofText?_overriddenText, ofText?_brokenText] at hlog
    cases hlog
  · rw [settings_brokenText]
    rfl
  · rw [settings_brokenText]
    rfl
  · -- the directory of the settings is there for the output
    have hdestination : (settingsDirectory brokenText).disk.destination ".structgen/order.go"
        = .ok [".structgen", "order.go"] := by
      rfl
    rw [run_orderCall rfl settings_brokenText, deliver]
    dsimp only
    rw [Disk.write_eq, hdestination]
    refine ⟨_, rfl, Disk.mem_changes_iff.mpr ⟨?_, ?_⟩⟩
    · exact List.mem_cons_of_mem _ List.mem_cons_self
    · exact (Option.some_ne_none _).symm
  · -- nothing is in this directory, so it is not there
    have hdestination : (onInput orderSchema).disk.destination ".structgen/order.go"
        = .error .notFound := by
      rfl
    rw [run_orderCall rfl rfl, deliver]
    dsimp only
    rw [Disk.write_eq, hdestination]
    exact ⟨_, rfl, rfl⟩

end Surroundings

end SchemaDecl.Command
