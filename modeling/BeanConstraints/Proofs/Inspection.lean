/-
# What an inspection comes to

An inspection takes its properties from the files and the settings of its arguments
and builds a factory from them, with no component registered. It fails at the first
of the obstacles that there are and tells the user about it. If there is none, the
report shows the properties and what a factory comes to under them, with the built-in
constraints, as it was before it was closed.
-/

import BeanConstraints.Proofs.Layers
import BeanConstraints.Proofs.Reports
import BeanConstraints.Proofs.Spelling

namespace BeanConstraints.CommandLine

/-- Without components, the report on what is built from properties shows them and the flags that
they set. -/
theorem report_of_built {failFast : Bool} {properties : Properties} {counters : Counters}
    {factory : Factory}
    (built : ((Factory.build Component.Registry.shared.loader
      { flags := { failFast }, properties }).run counters).result = .ok factory) :
    Inspection.report ⟨properties, factory⟩ =
      .bare properties (Values.flags properties.get? failFast) := by
  have fine : Values.fault? properties.get? failFast = none := by
    rw [← Configuration.fault?_without_components, ← Factory.fault_build, built]
    rfl
  obtain ⟨names, _, scripts⟩ := (Values.fault?_eq_none_iff _ _).mp fine
  obtain ⟨documents, contents, _, collected, extended, resolved, chosen, parts⟩ :=
    Factory.outlined_cases (Factory.outlined_of_built built)
  have empty : contents = [] := by
    have unasked : Configuration.contributorNames { flags := { failFast }, properties } = [] :=
      names
    rw [unasked] at collected
    exact (Except.ok.inj collected).symm
  subst empty
  have standard : factory.settings.scripts.role = .standard := by
    rw [Configuration.chosenScripts, Configuration.property?, scripts] at chosen
    exact (Except.ok.inj chosen).symm
  have clock : factory.settings.clock.role = .standard := congrArg Outline.clock parts
  have validators : factory.settings.validators.role = .standard :=
    congrArg Outline.validators parts
  have interpolator : factory.settings.interpolator.role = .standard :=
    congrArg Outline.interpolator parts
  have naming : factory.settings.naming.role = .standard := congrArg Outline.naming parts
  have traversal : factory.settings.traversal.role = .standard := congrArg Outline.traversal parts
  have flags : factory.settings.flags = Values.flags properties.get? failFast := by
    rw [Configuration.resolve, Flags.resolve] at resolved
    split at resolved
    · cases resolved
    · exact (Except.ok.inj resolved).symm
  have providers : Inspection.providers ⟨properties, factory⟩ =
      (Report.bare properties factory.settings.flags).providers := by
    simp only [Inspection.providers, clock, validators, interpolator, naming, standard, traversal]
    rfl
  have mappings : factory.mappings.mappings = [] :=
    List.map_eq_nil_iff.mp (congrArg (fun outline => outline.mappings.mappings) parts)
  have registry : factory.registry = .standard := (Except.ok.inj extended).symm
  rw [Inspection.report, providers, mappings, registry, flags]
  rfl

namespace Surroundings

variable (surroundings : Surroundings) (paths : List String) (settings : List Setting)
  (failFast : Bool)

/-- Everything that stands in the way of an inspection when no component is registered, in the
order in which it is looked for. -/
def obstacles : List Obstacle :=
  ((surroundings.lost? paths).map .lost).toList ++
    (paths.filterMap (PropertyFile.faultAt? surroundings.files surroundings.wording)).map .file ++
    obstaclesOf (surroundings.value? paths settings) failFast

/-- How an inspection fails, if it does. -/
def failure? : Option Failure :=
  (surroundings.unresolved? paths).or
    ((Values.fault? (surroundings.value? paths settings) failFast).map Failure.build)

/-- It fails at the first obstacle. -/
theorem failure?_eq : surroundings.failure? paths settings failFast =
    (surroundings.obstacles paths settings failFast).head?.map Obstacle.failure := by
  rw [failure?, unresolved?, obstacles, List.head?_append, List.head?_append, List.head?_map,
    List.head?_filterMap, Option.head?_toList, Option.map_or, Option.map_or, head?_obstaclesOf,
    Option.map_map, Option.map_map]
  rfl

/-- Nothing stands in the way of an inspection exactly if the current directory is known or files
are listed, all listed files load, and the values of the properties ask for no component and do not
take back fail-fast. -/
theorem obstacles_eq_nil_iff : surroundings.obstacles paths settings failFast = [] ↔
    (paths = [] → ∃ current, surroundings.current = .ok current) ∧
      (∀ path ∈ paths, (PropertyFile.at? surroundings.files path).isSome = true) ∧
      (∀ value, surroundings.value? paths settings PropertyKey.contributors.name = some value →
        Property.names value = []) ∧
      ¬ (failFast = true ∧
        ∃ value, surroundings.value? paths settings PropertyKey.failFast.name = some value ∧
          Property.isTrue value = false) ∧
      surroundings.value? paths settings PropertyKey.scriptEvaluators.name = none := by
  rw [obstacles, List.append_eq_nil_iff, List.append_eq_nil_iff, obstaclesOf_eq_nil_iff,
    Option.toList_eq_nil_iff, Option.map_eq_none_iff, lost?_eq_none_iff, List.map_eq_nil_iff,
    List.filterMap_eq_nil_iff, and_assoc]
  simp only [PropertyFile.faultAt?_eq_none_iff]

end Surroundings

/-- An inspection fails for the first reason that there is, and if there is none, the report on its
result shows properties that have the values of its files and settings. -/
theorem result_inspect {surroundings : Surroundings}
    (bare : surroundings.loader = Component.Registry.shared.loader) (paths : List String)
    (settings : List Setting) (failFast : Bool) :
    match surroundings.failure? paths settings failFast with
    | some failure => (inspect surroundings paths settings failFast).2 = .error failure
    | none => ∃ inspection properties,
        (inspect surroundings paths settings failFast).2 = .ok inspection ∧
          (∀ key, properties.get? key = surroundings.value? paths settings key) ∧
          inspection.report =
            .bare properties (Values.flags (surroundings.value? paths settings) failFast) := by
  have resolved := surroundings.result_resolveProperties paths settings
  unfold Surroundings.failure? inspect
  rw [bare]
  cases blamed : surroundings.unresolved? paths with
  | some fault =>
      rw [blamed] at resolved
      rcases ended : resolveProperties surroundings paths settings with ⟨journal, result⟩
      rw [ended] at resolved
      cases resolved
      rfl
  | none =>
      rw [blamed] at resolved
      obtain ⟨properties, ended, values⟩ := resolved
      have same : surroundings.value? paths settings = properties.get? :=
        funext fun key => (values key).symm
      rcases loaded : resolveProperties surroundings paths settings with ⟨journal, result⟩
      rw [loaded] at ended
      cases ended
      have fault := Factory.fault_build Component.Registry.shared.loader
        { flags := { failFast }, properties } {}
      rw [Configuration.fault?_without_components, ← same] at fault
      simp only [Option.none_or]
      rw [← fault]
      cases built : ((Factory.build Component.Registry.shared.loader
          { flags := { failFast }, properties }).run {}).result with
      | error fault => rfl
      | ok factory =>
          refine ⟨⟨properties, factory⟩, properties, rfl, values, ?_⟩
          rw [same]
          exact report_of_built built

/-- A run fails with what is told about the first obstacle, and if there is none, it succeeds with
the report on properties that have the values of its files and settings. -/
theorem ending_run {surroundings : Surroundings} {arguments : List String}
    {verbose colour failFast json : Bool} {paths : List String} {settings : List Setting}
    (bare : surroundings.loader = Component.Registry.shared.loader)
    (accepted : Arguments.read arguments =
      .ok ⟨verbose, colour, .inspect paths settings failFast json⟩) :
    match surroundings.obstacles paths settings failFast with
    | obstacle :: _ =>
        (run surroundings arguments).ending = .failure (linesOf (obstacle.lines colour))
    | [] => ∃ properties : Properties,
        (∀ key, properties.get? key = surroundings.value? paths settings key) ∧
          let report : Report :=
            .bare properties (Values.flags (surroundings.value? paths settings) failFast)
          Json.Written report.json ∧ (run surroundings arguments).ending =
            .success (if json then lineOf report.json.pretty else linesOf report.lines) := by
  have inspected := result_inspect bare paths settings failFast
  rw [surroundings.failure?_eq] at inspected
  cases standing : surroundings.obstacles paths settings failFast with
  | cons obstacle rest =>
      rw [standing, List.head?_cons, Option.map_some] at inspected
      have failed : (run surroundings arguments).ending =
          .failure (obstacle.failure.complaint colour) := by
        simp only [run, accepted, execute, inspected]
        rfl
      exact failed.trans (congrArg Ending.failure (obstacle.complaint_failure colour))
  | nil =>
      rw [standing, List.head?_nil, Option.map_none] at inspected
      obtain ⟨inspection, properties, ended, values, reported⟩ := inspected
      have succeeded : (run surroundings arguments).ending =
          .success (if json then lineOf inspection.toJson.pretty else inspection.text) := by
        simp only [run, accepted, execute, ended]
        rfl
      have written := inspection.written_toJson
      rw [inspection.toJson_eq, reported] at written
      rw [inspection.text_eq, inspection.toJson_eq, reported] at succeeded
      exact ⟨properties, values, written, succeeded⟩

/-- An inspection that is asked for by arguments, with no component registered. What it is asked
for is what the options amount to that the arguments spell. It ends well exactly if every listed
file loads, the values of the properties ask for no component, and they do not take back fail-fast;
if no file is listed, the current directory has to be known as well. Then it prints the report on
properties with these values, as lines or as JSON that can be read back. Otherwise it prints nothing,
tells the user about the first of these things that stands in its way, and ends with code 1. -/
theorem run_inspection {surroundings : Surroundings} {arguments : List String}
    {verbose colour failFast json : Bool} {paths : List String} {settings : List Setting}
    (bare : surroundings.loader = Component.Registry.shared.loader)
    (accepted : Arguments.read arguments =
      .ok ⟨verbose, colour, .inspect paths settings failFast json⟩) :
    let session := run surroundings arguments
    let value? : Values := surroundings.value? paths settings
    (∃ front rest outer given, arguments = front ++ "inspect" :: rest ∧
      Scope.program.Spells none front outer ∧ Scope.inspect.Spells none rest given ∧
      Given.inspection outer given =
        .ok ⟨verbose, colour, .inspect paths settings failFast json⟩) ∧
    (session.ending.code = 0 ↔
      (paths = [] → ∃ current, surroundings.current = .ok current) ∧
        (∀ path ∈ paths, (PropertyFile.at? surroundings.files path).isSome = true) ∧
        (∀ value, value? PropertyKey.contributors.name = some value →
          Property.names value = []) ∧
        ¬ (failFast = true ∧ ∃ value, value? PropertyKey.failFast.name = some value ∧
          Property.isTrue value = false) ∧
        value? PropertyKey.scriptEvaluators.name = none) ∧
    match surroundings.obstacles paths settings failFast with
    | obstacle :: _ => session.ending.code = 1 ∧ session.ending.output = "" ∧
        session.errors = session.journal.log verbose ++ linesOf (obstacle.lines colour)
    | [] => session.errors = session.journal.log verbose ∧
        ∃ properties : Properties, (∀ key, properties.get? key = value? key) ∧
          let report : Report := .bare properties (value?.flags failFast)
          if json then session.ending.output = lineOf report.json.pretty ∧
            Json.read? session.ending.output = some report.json
          else session.ending.output = linesOf report.lines := by
  intro session value?
  have ending := ending_run bare accepted
  have loud : session.verbose = verbose := by simp only [session, run, accepted]
  refine ⟨Arguments.spelled_of_read accepted rfl, ?_⟩
  rw [← surroundings.obstacles_eq_nil_iff, Session.errors, loud]
  cases standing : surroundings.obstacles paths settings failFast with
  | cons obstacle rest =>
      rw [standing] at ending
      change session.ending = _ at ending
      rw [ending]
      exact ⟨iff_of_false (fun well => by cases well) (List.cons_ne_nil _ _), rfl, rfl, rfl⟩
  | nil =>
      rw [standing] at ending
      obtain ⟨properties, values, written, ended⟩ := ending
      change session.ending = _ at ended
      rw [ended]
      refine ⟨iff_of_true rfl rfl, String.append_empty, properties, values, ?_⟩
      cases json with
      | false => rfl
      | true => exact ⟨rfl, written.read?_lineOf⟩

/-- Two files are listed, and the size of the second counts; one colour is set twice, and the last
setting counts. If none were listed, the size of the project would count before that of the user. A
contributor that is asked for besides stands in the way. -/
theorem run_inspection_of_two_files :
    let shelf : Files := fun path =>
      if path = "base.toml" then
        .content "[properties]\n\"acme.size\" = 1\n\"acme.sealed\" = true".toUTF8
      else if path = "site.toml" then .content "[properties]\n\"acme.size\" = 2".toUTF8
      else if path = "/home/.vfactory/properties.toml" then
        .content "[properties]\n\"acme.size\" = 3\n\"acme.colour\" = \"red\"".toUTF8
      else if path = "/shop/.vfactory/properties.toml" then
        .content "[properties]\n\"acme.size\" = 4".toUTF8
      else .missing "No such file or directory (os error 2)"
    let surroundings : Surroundings := ⟨shelf, fun _ => "TOML parse error", some "/home",
      .ok "/shop", Component.Registry.shared.loader⟩
    let arguments := ["inspect", "-p", "base.toml", "--properties=site.toml", "-Dacme.colour=blue",
      "--set", "acme.colour = green"]
    let more := arguments ++ ["-Dvalidator.constraint_mapping_contributors=acme.Orders"]
    let paths := ["base.toml", "site.toml"]
    let settings : List Setting := [⟨"acme.colour", "blue"⟩, ⟨"acme.colour", "green"⟩]
    Arguments.read arguments = .ok ⟨false, true, .inspect paths settings false false⟩ ∧
      surroundings.value? paths settings "acme.size" = some "2" ∧
      surroundings.value? paths settings "acme.sealed" = some "true" ∧
      surroundings.value? paths settings "acme.colour" = some "green" ∧
      surroundings.value? [] [] "acme.size" = some "4" ∧
      surroundings.value? [] [] "acme.colour" = some "red" ∧
      (run surroundings arguments).ending.code = 0 ∧
      (run surroundings more).ending.code = 1 ∧
      (run surroundings more).errors = (run surroundings more).journal.log false ++
        linesOf ["\x1b[1;31merror\x1b[0m: could not load constraint mapping contributor " ++
            "`acme.Orders`",
          "  = no component registered under this name",
          "  = named in `validator.constraint_mapping_contributors`",
          "",
          "\x1b[1;32mhelp\x1b[0m: consider:",
          "  1. Check that the name is spelled correctly",
          "  2. Ensure the component is registered with the component loader"] := by
  intro shelf surroundings arguments more paths settings
  have accepted : Arguments.read arguments =
      .ok ⟨false, true, .inspect paths settings false false⟩ := rfl
  have acceptedMore : Arguments.read more = .ok ⟨false, true, .inspect paths
      (settings ++ [⟨"validator.constraint_mapping_contributors", "acme.Orders"⟩]) false false⟩ :=
    rfl
  have loads : ∀ path ∈ paths, (PropertyFile.at? surroundings.files path).isSome = true := by
    decide +kernel
  have unasked : surroundings.value? paths settings PropertyKey.contributors.name = none := rfl
  have standing : surroundings.obstacles paths
      (settings ++ [⟨"validator.constraint_mapping_contributors", "acme.Orders"⟩]) false =
        [.contributor "acme.Orders"] := rfl
  have bare : surroundings.loader = Component.Registry.shared.loader := rfl
  have stopped := (run_inspection bare acceptedMore).2.2
  rw [standing] at stopped
  obtain ⟨code, -, said⟩ := stopped
  refine ⟨accepted, rfl, rfl, rfl, rfl, rfl, (run_inspection bare accepted).2.1.mpr
    ⟨fun _ => ⟨_, rfl⟩, loads, ?_, nofun, rfl⟩, code, said⟩
  simp [unasked]

end BeanConstraints.CommandLine
