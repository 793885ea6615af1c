import BombMission.CommandLine.Run
import BombMission.Proofs.CommandLine.Deciding
import BombMission.Proofs.Files.Profiles

/-!
# How a run ends

A run ends with a code and with what it prints. What the arguments decide alone is over before any
file is read. Else the snapshots are loaded, and behind them a listing, the mission text and its
compilation come in this order, each of which may end the run. Whoever reads the printed JSON can go
by the code: something is printed exactly when the code is zero.

## Main results

* `Options.ExitsWith.run_ends`: every way in which a run may go has its code and its output.
* `run_exits`: the code and the output of a run with any arguments, files and input.

## Proof strategy

`Options.ExitsWith` lists the ways a run may go by its stages. One lemma for each stage computes the
run there, and some stage always ends it.
-/

namespace BombMission.CommandLine

/-! ### Output -/

namespace Outcome

theorem line_ne_empty (text : String) : line text ≠ "" := by
  rw [line, ne_eq, ← String.toList_inj, String.toList_append]
  simp

theorem reportText_ne_empty (row : String) (rows : List String) :
    reportText (row :: rows) ≠ "" := by
  rw [reportText, List.map_cons, String.join_cons, ne_eq, ← String.toList_inj, String.toList_append]
  intro none
  exact line_ne_empty row (String.toList_inj.1 (List.append_eq_nil_iff.1 none).1)

/-- Something is printed exactly when the run succeeds. -/
def PrintsOnSuccess (outcome : Outcome) : Prop :=
  outcome.output ≠ "" ↔ outcome.code = 0

/-- What a code says about the output, and more when the run was asked for JSON. -/
structure EndsWith (outcome : Outcome) (code : UInt32) (json : Bool) : Prop where
  code_eq : outcome.code = code
  silent : code = 2 → outcome.output = ""
  prints : json = true → outcome.PrintsOnSuccess

theorem EndsWith.printed (text : String) (json : Bool) : (printed text).EndsWith 0 json :=
  ⟨rfl, fun two => absurd two (by decide), fun _ => ⟨fun _ => rfl, fun _ => line_ne_empty text⟩⟩

theorem EndsWith.failed {code : UInt32} (bad : code ≠ 0) (message : String) (json : Bool) :
    (failed code message).EndsWith code json :=
  ⟨rfl, fun _ => rfl, fun _ => ⟨fun some => absurd rfl some, fun zero => absurd zero bad⟩⟩

/-- The first row of a listing is empty, but it is a row. -/
theorem exists_listing_eq (colored : Bool) (ctx : Context) :
    ∃ rows, Report.listing colored ctx = "" :: rows := by
  simp only [Report.listing, Report.wordRows, Report.sectionTitle, List.cons_append]
  exact ⟨_, rfl⟩

theorem EndsWith.listing (colored : Bool) (ctx : Context) (json : Bool) :
    EndsWith { output := reportText (Report.listing colored ctx) } 0 json := by
  obtain ⟨rows, listed⟩ := exists_listing_eq colored ctx
  rw [listed]
  refine ⟨rfl, fun two => absurd two (by decide), fun _ => ?_⟩
  exact ⟨fun _ => rfl, fun _ => reportText_ne_empty "" rows⟩

/-- The code that a compilation is answered with. -/
def codeOf : Except CompileError Mission → UInt32
  | .ok _ => 0
  | .error _ => 1

theorem codeOf_ne_two (result : Except CompileError Mission) : codeOf result ≠ 2 := by
  cases result with
  | ok mission => exact (by decide : (0 : UInt32) ≠ 2)
  | error problems => exact (by decide : (1 : UInt32) ≠ 2)

theorem EndsWith.ofResult (result : Except CompileError Mission) (json : Bool) :
    (ofResult result).EndsWith (codeOf result) json := by
  cases result with
  | ok mission => exact .printed _ json
  | error problems => exact .failed (by decide) _ json

theorem EndsWith.ofReport (colored : Bool) (compilation : Compilation) (timings : Timings) :
    (ofReport colored compilation timings).EndsWith (codeOf compilation.result) false := by
  refine ⟨?_, fun two => absurd two (codeOf_ne_two _), fun json => Bool.noConfusion json⟩
  rw [Outcome.ofReport]
  cases compilation.result <;> rfl

end Outcome

/-! ### Stages -/

namespace Options

/-- The catalog that the options ask for, or a problem of its file. -/
def catalogOf (options : Options) (host : Host Id) : Except LoadProblem Catalog :=
  match options.modules with
  | none => .ok .vanilla
  | some path => Catalog.load host path

/-- The profiles that the options ask for, or a problem of their directory. -/
def profilesOf (options : Options) (host : Host Id) : Except LoadProblem ProfileRegistry :=
  match options.profiles with
  | none => .ok .empty
  | some path => ProfileRegistry.loadListed host path

/-- A snapshot that the options ask for does not load. -/
def FailsToLoad (options : Options) (host : Host Id) : Prop :=
  (∃ problem, options.catalogOf host = .error problem) ∨
    ∃ problem, options.profilesOf host = .error problem

/-- The snapshots that the options ask for load, and missions are compiled in this context. -/
structure Loads (options : Options) (host : Host Id) (ctx : Context) : Prop where
  catalog : options.catalogOf host = .ok ctx.catalog
  profiles : options.profilesOf host = .ok ctx.profiles
  limits : options.limits = ctx.limits

/-- The mission text: the one that was given, or else what is read from the input. -/
def missionText (options : Options) (host : Host Id) : Except ReadProblem String :=
  match options.input with
  | some text => .ok text
  | none => host.readInput

/-- The bytes of the mission text, when the input consists of some bytes. -/
def missionBytes (options : Options) (input : ByteArray) : ByteArray :=
  match options.input with
  | some text => text.toUTF8
  | none => input

/-- The source that the options ask for, or else a fresh one. -/
def source (options : Options) (host : Host Id) : ChaCha :=
  ChaCha.ofSeed (options.seed.getD host.freshSeed)

/-- The code that a run with some options ends with, by the stage that ends it. -/
inductive ExitsWith (options : Options) (host : Host Id) : UInt32 → Prop where
  | notLoaded : options.FailsToLoad host → ExitsWith options host 1
  | listed {ctx : Context} : options.Loads host ctx → options.list = true →
      ExitsWith options host 0
  | notText {ctx : Context} : options.Loads host ctx → options.list = false →
      (∀ text, options.missionText host ≠ .ok text) → ExitsWith options host 2
  | blank {ctx : Context} {text : String} : options.Loads host ctx → options.list = false →
      options.missionText host = .ok text → Text.isBlankText text = true →
      ExitsWith options host 2
  | compiled {ctx : Context} {text : String} {mission : Mission} : options.Loads host ctx →
      options.list = false → options.missionText host = .ok text →
      Text.isBlankText text = false →
      (BombMission.compile ctx text (options.source host)).1 = .ok mission →
      ExitsWith options host 0
  | refused {ctx : Context} {text : String} {problems : CompileError} : options.Loads host ctx →
      options.list = false → options.missionText host = .ok text →
      Text.isBlankText text = false →
      (BombMission.compile ctx text (options.source host)).1 = .error problems →
      ExitsWith options host 1

variable {options : Options} {host : Host Id} {input : ByteArray} {ctx : Context} {text : String}

theorem textOfBytes_eq_ok_iff {bytes : ByteArray} {text : String} :
    textOfBytes bytes = .ok text ↔ bytes = text.toUTF8 := by
  rw [← fromUTF8?_eq_some_iff, textOfBytes]
  cases String.fromUTF8? bytes <;> simp

/-- The mission text is the one that its bytes are the UTF-8 of. -/
theorem missionText_eq_ok_iff (fed : host.readInput = textOfBytes input) :
    options.missionText host = .ok text ↔ options.missionBytes input = text.toUTF8 := by
  rw [← textOfBytes_eq_ok_iff, missionText, missionBytes, fed]
  cases options.input with
  | none => rfl
  | some given => rw [textOfBytes_eq_ok_iff.2 rfl]

/-- The catalog is loaded first, and the profiles only behind one that loads. -/
theorem loadContext_eq (options : Options) (host : Host Id) :
    options.loadContext host =
      (options.catalogOf host).bind fun catalog =>
        (options.profilesOf host).map fun profiles =>
          { catalog, profiles, limits := options.limits } := by
  unfold loadContext catalogOf profilesOf
  cases options.modules with
  | none =>
    cases options.profiles with
    | none => rfl
    | some directory =>
      dsimp only [bind]
      cases ProfileRegistry.loadListed host directory <;> rfl
  | some path =>
    dsimp only [bind]
    cases Catalog.load host path with
    | error problem => rfl
    | ok catalog =>
      cases options.profiles with
      | none => rfl
      | some directory =>
        dsimp only
        cases ProfileRegistry.loadListed host directory <;> rfl

theorem loadContext_of_loads (loads : options.Loads host ctx) :
    options.loadContext host = .ok ctx := by
  rw [loadContext_eq, loads.catalog, loads.profiles, loads.limits]
  rfl

theorem loadContext_of_failsToLoad (fails : options.FailsToLoad host) :
    ∃ problem, options.loadContext host = .error problem := by
  rw [loadContext_eq]
  rcases fails with ⟨problem, failed⟩ | ⟨problem, failed⟩
  · rw [failed]
    exact ⟨problem, rfl⟩
  · rw [failed]
    cases options.catalogOf host with
    | error other => exact ⟨other, rfl⟩
    | ok catalog => exact ⟨problem, rfl⟩

theorem failsToLoad_or_loads (options : Options) (host : Host Id) :
    options.FailsToLoad host ∨ ∃ ctx, options.Loads host ctx := by
  cases catalog : options.catalogOf host with
  | error problem => exact .inl (.inl ⟨problem, catalog⟩)
  | ok found =>
    cases profiles : options.profilesOf host with
    | error problem => exact .inl (.inr ⟨problem, profiles⟩)
    | ok registry =>
      exact .inr ⟨{ catalog := found, profiles := registry, limits := options.limits },
        catalog, profiles, rfl⟩

theorem run_of_failsToLoad (fails : options.FailsToLoad host) :
    ∃ message, options.run host = .failed 1 message := by
  obtain ⟨problem, failed⟩ := loadContext_of_failsToLoad fails
  refine ⟨"error: " ++ problem.message, ?_⟩
  rw [Options.run, failed]
  rfl

theorem run_of_list (loads : options.Loads host ctx) (list : options.list = true) :
    options.run host =
      { output := Outcome.reportText (Report.listing options.colored ctx) } := by
  rw [Options.run, loadContext_of_loads loads]
  exact if_pos list

theorem run_of_loads (loads : options.Loads host ctx) (unlisted : options.list = false) :
    options.run host =
      match options.missionText host with
      | .error problem => .failed 2 ("error: failed to read stdin: " ++ problem.message)
      | .ok text => options.compile host ctx text := by
  have stage : options.run host =
      match options.input with
      | some text => options.compile host ctx text
      | none =>
        match host.readInput with
        | .error problem => .failed 2 ("error: failed to read stdin: " ++ problem.message)
        | .ok text => options.compile host ctx text := by
    rw [Options.run, loadContext_of_loads loads]
    exact if_neg (by simp [unlisted])
  rw [stage, missionText]
  cases options.input <;> rfl

theorem run_of_notText (loads : options.Loads host ctx) (unlisted : options.list = false)
    (notText : ∀ text, options.missionText host ≠ .ok text) :
    ∃ message, options.run host = .failed 2 message := by
  rw [run_of_loads loads unlisted]
  cases read : options.missionText host with
  | error problem => exact ⟨_, rfl⟩
  | ok text => exact absurd read (notText text)

theorem run_of_text (loads : options.Loads host ctx) (unlisted : options.list = false)
    (read : options.missionText host = .ok text) :
    options.run host = options.compile host ctx text := by
  rw [run_of_loads loads unlisted, read]

theorem compile_eq (options : Options) (host : Host Id) (ctx : Context) (text : String) :
    options.compile host ctx text =
      if Text.isBlankText text then
        .failed 2 (line "error: no input provided" ++ line "" ++ help)
      else
        match compileTimed host ctx text (options.source host) with
        | (compilation, timings) =>
          if options.json then .ofResult compilation.result
          else .ofReport options.colored compilation timings := by
  unfold Options.compile Options.source
  cases options.seed <;> rfl

theorem compile_of_blank (options : Options) (host : Host Id) (ctx : Context)
    (blank : Text.isBlankText text = true) :
    ∃ message, options.compile host ctx text = .failed 2 message := by
  rw [compile_eq, if_pos blank]
  exact ⟨_, rfl⟩

/-- The times that are taken show in a report, and the result is that of the compilation. -/
theorem compile_of_text (options : Options) (host : Host Id) (ctx : Context)
    (some : Text.isBlankText text = false) :
    ∃ compilation timings,
      compilation.result = (BombMission.compile ctx text (options.source host)).1 ∧
        options.compile host ctx text =
          if options.json then .ofResult compilation.result
          else .ofReport options.colored compilation timings := by
  rw [compile_eq, if_neg (by simp [some])]
  exact ⟨_, _, rfl, rfl⟩

theorem compile_ends (options : Options) (host : Host Id) (ctx : Context)
    (some : Text.isBlankText text = false) :
    (options.compile host ctx text).EndsWith
      (Outcome.codeOf (BombMission.compile ctx text (options.source host)).1) options.json := by
  obtain ⟨compilation, timings, result, whole⟩ := options.compile_of_text host ctx some
  rw [whole, ← result]
  cases options.json with
  | false => exact .ofReport _ _ _
  | true => exact .ofResult _ _

/-- A run that is under way ends with the code of the stage that ends it. -/
theorem ExitsWith.run_ends {code : UInt32} (exits : options.ExitsWith host code) :
    (options.run host).EndsWith code options.json := by
  cases exits with
  | notLoaded fails =>
    obtain ⟨message, failed⟩ := run_of_failsToLoad fails
    rw [failed]
    exact .failed (by decide) message _
  | listed loads list =>
    rw [run_of_list loads list]
    exact .listing _ _ _
  | notText loads unlisted notText =>
    obtain ⟨message, failed⟩ := run_of_notText loads unlisted notText
    rw [failed]
    exact .failed (by decide) message _
  | blank loads unlisted read blank =>
    obtain ⟨message, failed⟩ := options.compile_of_blank host _ blank
    rw [run_of_text loads unlisted read, failed]
    exact .failed (by decide) message _
  | @compiled ctx text mission loads unlisted read some made =>
    have ends := options.compile_ends host ctx some
    rw [made] at ends
    rw [run_of_text loads unlisted read]
    exact ends
  | @refused ctx text problems loads unlisted read some failed =>
    have ends := options.compile_ends host ctx some
    rw [failed] at ends
    rw [run_of_text loads unlisted read]
    exact ends

/-- Some stage ends every run. -/
theorem exists_exitsWith (options : Options) (host : Host Id) :
    ∃ code, options.ExitsWith host code := by
  rcases options.failsToLoad_or_loads host with fails | ⟨ctx, loads⟩
  · exact ⟨1, .notLoaded fails⟩
  cases unlisted : options.list with
  | true => exact ⟨0, .listed loads unlisted⟩
  | false =>
    cases read : options.missionText host with
    | error problem => exact ⟨2, .notText loads unlisted (by simp [read])⟩
    | ok text =>
      cases blank : Text.isBlankText text with
      | true => exact ⟨2, .blank loads unlisted read blank⟩
      | false =>
        cases made : (BombMission.compile ctx text (options.source host)).1 with
        | ok mission => exact ⟨0, .compiled loads unlisted read blank made⟩
        | error problems => exact ⟨1, .refused loads unlisted read blank made⟩

theorem code_run_iff {code : UInt32} :
    (options.run host).code = code ↔ options.ExitsWith host code := by
  constructor
  · rintro rfl
    obtain ⟨code, exits⟩ := options.exists_exitsWith host
    rw [exits.run_ends.code_eq]
    exact exits
  · intro exits
    exact exits.run_ends.code_eq

end Options

/-! ### Whole runs -/

/-- The options that a command line starts with. -/
def Options.atStart (host : Host Id) : Options :=
  { colored := host.isTerminal }

/-- What a run ends with when its arguments decide that. -/
inductive EndsEarly (options : Options) (arguments : List String) : Outcome → Prop where
  | help : options.ComesTo arguments (.ok .help) → EndsEarly options arguments (.printed help)
  | version : options.ComesTo arguments (.ok .version) →
      EndsEarly options arguments (.printed version)
  | refused {problem : UsageError} : options.ComesTo arguments (.error problem) →
      EndsEarly options arguments (.failed 2 problem.message)

section Runs

variable {host : Host Id} {arguments : List String}

theorem EndsEarly.ends {options : Options} {outcome : Outcome}
    (early : EndsEarly options arguments outcome) : outcome.EndsWith outcome.code true := by
  cases early with
  | help => exact .printed _ true
  | version => exact .printed _ true
  | refused => exact .failed (by decide) _ true

/-- What the arguments decide does not depend on the host, which is only asked for its terminal. -/
theorem EndsEarly.run_eq {outcome : Outcome}
    (early : EndsEarly (.atStart host) arguments outcome) {m : Type → Type} [Monad m]
    (other : Host m) :
    run other arguments = do
      let _ ← other.isTerminal
      return outcome := by
  have same : ∀ {verdict}, (Options.atStart host).ComesTo arguments verdict →
      (∀ final, verdict ≠ .ok (.run final)) →
        ∀ isTerminal, Invocation.read isTerminal arguments = verdict :=
    fun comes decided isTerminal => Options.read_eq_iff.2 (comes.of_input_eq rfl decided)
  cases early with
  | help comes => simp only [run, same comes (by simp)]
  | version comes => simp only [run, same comes (by simp)]
  | refused comes => simp only [run, same comes (by simp)]

theorem run_eq (host : Host Id) (arguments : List String) :
    run host arguments =
      match (Options.atStart host).read arguments with
      | .error problem => .failed 2 problem.message
      | .ok .help => .printed help
      | .ok .version => .printed version
      | .ok (.run options) => options.run host :=
  rfl

theorem run_of_comesTo {options : Options}
    (comes : (Options.atStart host).ComesTo arguments (.ok (.run options))) :
    run host arguments = options.run host := by
  rw [run_eq, Options.read_eq_iff.2 comes]

/-- The arguments decide, or there is a run with the options that they come to. -/
theorem run_cases (host : Host Id) (arguments : List String) :
    EndsEarly (.atStart host) arguments (run host arguments) ∨
      ∃ options, (Options.atStart host).ComesTo arguments (.ok (.run options)) := by
  have comes := (Options.atStart host).comesTo_read arguments
  rw [run_eq]
  generalize (Options.atStart host).read arguments = verdict at comes
  match verdict with
  | .error problem => exact .inl (.refused comes)
  | .ok .help => exact .inl (.help comes)
  | .ok .version => exact .inl (.version comes)
  | .ok (.run options) => exact .inr ⟨options, comes⟩

/-- Once JSON was asked for, something is printed exactly when the run succeeds. -/
theorem printsOnSuccess_run_of_json {front rest : List String} {before : Options}
    (whole : arguments = front ++ Switch.json.spelling :: rest)
    (reads : Options.ReadsTo (.atStart host) front before) :
    (run host arguments).PrintsOnSuccess := by
  rcases run_cases host arguments with early | ⟨options, comes⟩
  · exact early.ends.prints rfl
  rw [run_of_comesTo comes]
  obtain ⟨code, exits⟩ := options.exists_exitsWith host
  apply exits.run_ends.prints
  have switched : Options.ReadsTo before [Switch.json.spelling] (before.turn .json) :=
    .switch (by decide) (.nil _)
  rw [whole, reads.comesTo_append_iff] at comes
  exact (switched.comesTo_append_iff.1 comes).json rfl

/-- A run with any arguments, files and input. The arguments alone decide for help, the version or a
refusal, with the same outcome on every host. In all other runs the stages decide about the code. No
output comes with the code two or a snapshot that does not load, and with JSON it comes exactly with
the code zero. -/
theorem run_exits (host : Host Id) (arguments : List String) :
    (∃! verdict, (Options.atStart host).ComesTo arguments verdict) ∧
    (∀ outcome, EndsEarly (.atStart host) arguments outcome →
      ∀ (m : Type → Type) [Monad m] (other : Host m), run other arguments = do
        let _ ← other.isTerminal
        return outcome) ∧
    (∀ options, (Options.atStart host).ComesTo arguments (.ok (.run options)) →
      (∀ code, (run host arguments).code = code ↔ options.ExitsWith host code) ∧
      (options.FailsToLoad host → (run host arguments).output = "") ∧
      ∀ input, host.readInput = textOfBytes input →
        ∀ text, options.missionText host = .ok text ↔ options.missionBytes input = text.toUTF8) ∧
    ((run host arguments).code = 2 → (run host arguments).output = "") ∧
    ∀ front rest before, arguments = front ++ Switch.json.spelling :: rest →
      Options.ReadsTo (.atStart host) front before →
        ((run host arguments).output ≠ "" ↔ (run host arguments).code = 0) := by
  refine ⟨?_, fun outcome early m _ other => early.run_eq other, ?_, ?_, ?_⟩
  · refine ⟨_, Options.comesTo_read _ _, fun verdict comes => ?_⟩
    exact (Options.read_eq_iff.2 comes).symm
  · intro options comes
    rw [run_of_comesTo comes]
    refine ⟨fun code => Options.code_run_iff, fun fails => ?_, ?_⟩
    · obtain ⟨message, failed⟩ := Options.run_of_failsToLoad fails
      rw [failed]
      rfl
    · intro input fed text
      exact Options.missionText_eq_ok_iff fed
  · intro two
    rcases run_cases host arguments with early | ⟨options, comes⟩
    · exact early.ends.silent two
    rw [run_of_comesTo comes] at two ⊢
    exact (Options.code_run_iff.1 two).run_ends.silent rfl
  · intro front rest before whole reads
    exact printsOnSuccess_run_of_json whole reads

end Runs

/-- A host with a catalog that is cut off and an input that is no text. -/
def brokenHost : Host Id :=
  (FileTree.add {} "mods.json" (.file "\x7b".toUTF8)).host ⟨#[255]⟩

/-- A second text, a broken catalog, an input that is no text, and a mission that compiles. -/
theorem run_exits_broken :
    run brokenHost ["--json", "-i", "Wires", "--input=Maze", "--help"] =
        .failed 2 UsageError.repeatedInput.message ∧
      ((run brokenHost ["--json", "--modules", "mods.json", "Wires"]).code = 1 ∧
        (run brokenHost ["--json", "--modules", "mods.json", "Wires"]).output = "") ∧
      ((run brokenHost ["--json"]).code = 2 ∧ (run brokenHost ["--json"]).output = "") ∧
      (run brokenHost ["--json", "--seed", "3", "Wires"]).code = 0 ∧
        (run brokenHost ["--json", "--seed", "3", "Wires"]).output ≠ "" := by
  refine ⟨?_, ?_, ?_, ?_⟩
  · obtain ⟨-, early, -⟩ :=
      run_exits brokenHost ["--json", "-i", "Wires", "--input=Maze", "--help"]
    exact early _ (.refused (Options.read_eq_iff.1 rfl)) Id brokenHost
  · obtain ⟨-, -, runs, -⟩ := run_exits brokenHost ["--json", "--modules", "mods.json", "Wires"]
    let options : Options := { json := true, modules := some "mods.json", input := some "Wires" }
    have fails : options.FailsToLoad brokenHost := by
      have none : (options.catalogOf brokenHost).toOption.isNone = true := by decide +kernel
      cases loaded : options.catalogOf brokenHost with
      | error problem => exact .inl ⟨problem, loaded⟩
      | ok catalog =>
        rw [loaded] at none
        cases none
    obtain ⟨code, output, -⟩ := runs options (Options.read_eq_iff.1 rfl)
    exact ⟨(code 1).2 (.notLoaded fails), output fails⟩
  · obtain ⟨-, -, runs, two, -⟩ := run_exits brokenHost ["--json"]
    obtain ⟨code, -, bytes⟩ := runs { json := true } (Options.read_eq_iff.1 rfl)
    have notText : ∀ text, brokenHost.readInput ≠ .ok text := by
      have none : (textOfBytes ⟨#[255]⟩).toOption.isNone = true := by decide +kernel
      intro text read
      have read : textOfBytes ⟨#[255]⟩ = .ok text := read
      rw [read] at none
      cases none
    have ends := (code 2).2 (@Options.ExitsWith.notText _ _ {} ⟨rfl, rfl, rfl⟩ rfl notText)
    exact ⟨ends, two ends⟩
  · obtain ⟨-, -, runs, -, prints⟩ := run_exits brokenHost ["--json", "--seed", "3", "Wires"]
    obtain ⟨code, -⟩ := runs { json := true, seed := some 3, input := some "Wires" }
      (Options.read_eq_iff.1 rfl)
    have made : (compile {} "Wires" (ChaCha.ofSeed 3)).1.toOption.isSome = true := by
      decide +kernel
    obtain ⟨mission, found⟩ := Option.isSome_iff_exists.1 made
    have ends := (code 0).2 (@Options.ExitsWith.compiled _ _ {} _ _ ⟨rfl, rfl, rfl⟩ rfl rfl
      (by decide) (eq_ok_of_toOption found))
    exact ⟨ends, (prints [] _ _ rfl (.nil _)).2 ends⟩

end BombMission.CommandLine
