/-
# What properties can influence

A table of properties is text, and most of it may be anything: keys that nobody
knows, blanks, letters in either case. Building looks at seven keys only, and only
at what their values mean. Two tables that mean the same lead to the same run, step
by step, so whatever comes out of it is the same as well: the fault, the factory,
the calls and the notes.

Runs that start from other identities end with other identities. Nothing else
tells them apart, and what validators are told is the same.
-/

import BeanConstraints.Proofs.ContributorOrder

namespace BeanConstraints

namespace PropertyKey

/-- The keys of the flags. -/
def flagKeys : List PropertyKey :=
  [failFast, parameterOverride, multipleCascade, parallelParameters, resultCache]

end PropertyKey

namespace Configuration

/-- The configuration with another table of properties. -/
def withProperties (configuration : Configuration) (properties : Properties) : Configuration :=
  { configuration with properties }

/-- Two tables of properties that mean the same to a configuration: the same flags, the same names
of contributors and, unless script evaluators are given, the same name of them. -/
structure Alike (configuration : Configuration) (first second : Properties) : Prop where
  flags : ∀ key ∈ PropertyKey.flagKeys, first.flag? key = second.flag? key
  contributors : (configuration.withProperties first).contributorNames =
    (configuration.withProperties second).contributorNames
  scripts : configuration.scripts.isSome = true ∨
    first.get? PropertyKey.scriptEvaluators.name = second.get? PropertyKey.scriptEvaluators.name

variable {configuration : Configuration} {first second : Properties}

/-- Of a flag only its meaning is looked at. -/
theorem Alike.resolve (alike : configuration.Alike first second) :
    (configuration.withProperties first).resolve =
      (configuration.withProperties second).resolve := by
  have flag (key : PropertyKey) (listed : key ∈ PropertyKey.flagKeys) (inCode : Bool) :
      Flags.override first key inCode = Flags.override second key inCode := by
    rw [Flags.override, Flags.override, alike.flags key listed]
  change Flags.resolve first configuration.flags = Flags.resolve second configuration.flags
  unfold Flags.resolve Flags.overrideRules
  rw [alike.flags .failFast (by decide), flag .failFast (by decide),
    flag .parameterOverride (by decide), flag .multipleCascade (by decide),
    flag .parallelParameters (by decide), flag .resultCache (by decide)]

/-- Of the list of contributors only the names are looked at. -/
theorem Alike.collect (alike : configuration.Alike first second) (loader : Component.Loader) :
    ((configuration.withProperties first).collect loader).1 =
      ((configuration.withProperties second).collect loader).1 := by
  have names := alike.contributors
  unfold contributorNames at names
  unfold Configuration.collect Bootstrap.collect
  dsimp only
  rw [names]
  rfl

/-- The name of script evaluators is looked at only if none are given. -/
theorem Alike.chooseScripts (alike : configuration.Alike first second) (loader : Component.Loader) :
    Factory.chooseScripts loader (configuration.withProperties first) =
      Factory.chooseScripts loader (configuration.withProperties second) := by
  unfold Factory.chooseScripts property? withProperties
  rcases alike.scripts with explicit | named
  · obtain ⟨scripts, given⟩ := Option.isSome_iff_exists.mp explicit
    dsimp only
    rw [given]
  · dsimp only
    rw [named]

end Configuration

namespace Settings

/-- Whether one or the other provider of parameter names was there before does not matter for
changed settings if both name parameters alike. -/
theorem role_overridden {settings other : Settings} (overrides : List Override)
    (same : settings.naming.role = other.naming.role) :
    (settings.overridden overrides).naming.role = (other.overridden overrides).naming.role := by
  rw [overridden_eq_foldl, overridden_eq_foldl]
  induction overrides generalizing settings other with
  | nil => exact same
  | cons change rest ih =>
      rw [List.foldl_cons, List.foldl_cons]
      apply ih
      cases change with
      | naming provider => rfl
      | _ => exact same

end Settings

/-- The identities of mappings do not matter for metadata. -/
theorem Metadata.build_anonymous (naming : ParameterNaming) (registry : Registry)
    (sources : List Source) (typeName : String) :
    Bean.build naming registry (sources.map Source.anonymous) typeName =
      Bean.build naming registry sources typeName := by
  unfold Bean.build
  rw [placementsOn_anonymous]

namespace Factory

/-- Building is the same for both tables, step by step. -/
theorem build_of_alike (shared : Component.Loader) {configuration : Configuration}
    {first second : Properties} (alike : configuration.Alike first second) :
    build shared (configuration.withProperties first) =
      build shared (configuration.withProperties second) := by
  unfold build
  refine bind_congr fun interpolator => ?_
  refine bind_congr fun traversal => ?_
  refine bind_congr fun naming => ?_
  refine bind_congr fun clock => ?_
  refine bind_congr fun validators => ?_
  refine bind_congr fun documents => ?_
  refine (congrArg (· >>= _) (alike.collect _)).trans (bind_congr fun collected => ?_)
  refine bind_congr fun registry => ?_
  refine (congrArg (Bootstrap.ofExcept · >>= _) alike.resolve).trans (bind_congr fun flags => ?_)
  exact congrArg (· >>= _) (alike.chooseScripts _)

/-- New factories with one outline give the same metadata under any changes of settings. -/
theorem metadataWith_of_outline {factory twin : Factory} (unused : factory.store = .empty)
    (unusedTwin : twin.store = .empty) (same : factory.outline = twin.outline)
    (overrides : List Override) (typeName : String) :
    factory.metadataWith overrides typeName = twin.metadataWith overrides typeName := by
  have naming : factory.settings.naming.role = twin.settings.naming.role :=
    congrArg Outline.naming same
  have registry : factory.registry = twin.registry := congrArg Outline.registry same
  have sources : factory.sources.map Metadata.Source.anonymous =
      twin.sources.map Metadata.Source.anonymous := congrArg Outline.sources same
  rw [metadataWith_of_unused unused, metadataWith_of_unused unusedTwin,
    ← Metadata.build_anonymous, sources, Metadata.build_anonymous, registry,
    Settings.role_overridden overrides naming]

/-- Tables of properties that mean the same lead to the same. From the same identities the two runs
are equal in every respect. From different ones they end with the same fault, or with factories
that have the same outline and whose validators are told the same about every bean type, whatever
their settings are. -/
theorem build_withProperties_of_alike (shared : Component.Loader) {configuration : Configuration}
    {first second : Properties} (alike : configuration.Alike first second) :
    let building (properties : Properties) := build shared (configuration.withProperties properties)
    (∀ counters, (building first).run counters = (building second).run counters) ∧
      ∀ counters counters',
        let one := ((building first).run counters).result
        let other := ((building second).run counters').result
        one.map outline = other.map outline ∧
          ∀ factory twin, one = .ok factory → other = .ok twin →
            ∀ overrides typeName,
              factory.metadataWith overrides typeName = twin.metadataWith overrides typeName := by
  intro building
  have equal : building first = building second := build_of_alike shared alike
  refine ⟨fun counters => congrFun equal counters, ?_⟩
  intro counters counters' one other
  have outlines : one.map outline = other.map outline := by
    have yields := yields_build shared (configuration.withProperties second)
    have same : one = ((building second).run counters).result := by
      rw [← equal]
    rw [same]
    exact (yields counters).trans (yields counters').symm
  refine ⟨outlines, fun factory twin built builtTwin overrides typeName => ?_⟩
  have same : factory.outline = twin.outline := by
    rw [built, builtTwin] at outlines
    exact Except.ok.inj outlines
  exact metadataWith_of_outline (store_of_built built) (store_of_built builtTwin) same overrides
    typeName

/-- Capitals, blanks, commas at the end and keys that nobody knows make no difference. -/
theorem build_withProperties_of_spellings :
    let building (properties : Properties) :=
      build (offering (.ok []) required) (.withProperties .empty properties)
    let first : Properties := .ofList [(PropertyKey.failFast.name, "TRUE"),
      (PropertyKey.contributors.name, "a, b"), ("acme.colour", "blue")]
    let second : Properties := .ofList [(PropertyKey.failFast.name, "true"),
      (PropertyKey.contributors.name, "a,b,,")]
    Configuration.Alike .empty first second ∧ first ≠ second ∧
      ∃ factory twin, ((building first).run {}).result = .ok factory ∧
        ((building second).run ⟨5, 9⟩).result = .ok twin ∧
        (factory.settings.flags.failFast, factory.mappings.size) = (true, 2) ∧
        factory.outline = twin.outline ∧
        ∀ overrides typeName,
          factory.metadataWith overrides typeName = twin.metadataWith overrides typeName := by
  intro building first second
  have alike : Configuration.Alike .empty first second := ⟨by decide, rfl, .inr rfl⟩
  have apart : first ≠ second := by decide
  have seen : ((building first).run {}).result.map (fun factory =>
      (factory.settings.flags.failFast, factory.mappings.size)) = .ok (true, 2) := rfl
  obtain ⟨factory, one, seen⟩ := ok_of_map seen
  obtain ⟨outlines, told⟩ := (build_withProperties_of_alike _ alike).2 {} ⟨5, 9⟩
  have other : ((building second).run ⟨5, 9⟩).result.map outline = .ok factory.outline := by
    rw [← outlines, one]
    rfl
  obtain ⟨twin, other, same⟩ := ok_of_map other
  exact ⟨alike, apart, factory, twin, one, other, seen, same.symm, told factory twin one other⟩

end Factory

end BeanConstraints
