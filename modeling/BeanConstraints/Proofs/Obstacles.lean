/-
# What stands in the way of an inspection

With no component registered, an inspection fails for one of five reasons: no file
is listed and the current directory is not known, a listed file cannot be loaded, a
contributor is asked for by name, properties take back fail-fast, or script
evaluators are asked for by name. The last three are read off the values that the
properties have.

What a user is told about each of them stands here line by line, as it is seen on the
terminal, beside the failure that the program goes through to say it.
-/

import BeanConstraints.CommandLine.Run
import BeanConstraints.Component.Registry
import BeanConstraints.Proofs.Colours
import BeanConstraints.Proofs.Decision

namespace BeanConstraints

/-- The values of properties by their keys. -/
abbrev Values := String → Option String

namespace Values

variable (value? : Values) (failFast : Bool)

/-- The names in the list of contributors. -/
def names : List String :=
  ((value? PropertyKey.contributors.name).map Property.names).getD []

/-- Whether a property takes back the fail-fast that is on in code. -/
def takesBack : Bool :=
  failFast && (value? PropertyKey.failFast.name).any fun value => !Property.isTrue value

/-- What is said about the name of a contributor when none is registered. -/
def refusal (name : String) : Fault :=
  if name.isEmpty then
    .componentLoad .mappingContributor "" "empty entry in the contributor list"
  else Component.notRegistered .mappingContributor name

/-- What stands in the way of a factory with these values when no component is registered. -/
def fault? : Option Fault :=
  (value?.names.head?.map refusal)
    |>.or (if value?.takesBack failFast then some .inconsistentFailFast else none)
    |>.or ((value? PropertyKey.scriptEvaluators.name).map fun name =>
      .scriptEvaluators name (Component.notRegistered .scriptEvaluators name))

theorem names_eq_nil_iff : value?.names = [] ↔
    ∀ value, value? PropertyKey.contributors.name = some value → Property.names value = [] := by
  unfold names
  cases value? PropertyKey.contributors.name <;> simp

theorem takesBack_eq_false_iff : value?.takesBack failFast = false ↔
    ¬ (failFast = true ∧ ∃ value, value? PropertyKey.failFast.name = some value ∧
      Property.isTrue value = false) := by
  unfold takesBack
  cases failFast <;> cases value? PropertyKey.failFast.name <;> simp

theorem fault?_eq_none_iff : value?.fault? failFast = none ↔
    value?.names = [] ∧ value?.takesBack failFast = false ∧
      value? PropertyKey.scriptEvaluators.name = none := by
  simp [fault?, and_assoc]

/-- The flag that a property sets, or else its value in code. -/
def flag (key : PropertyKey) (inCode : Bool) : Bool :=
  ((value? key.name).map Property.isTrue).getD inCode

/-- The flags in effect with these values. -/
def flags : Flags where
  failFast := value?.flag .failFast failFast
  rules := ⟨value?.flag .parameterOverride false, value?.flag .multipleCascade false,
    value?.flag .parallelParameters false⟩
  resultCache := value?.flag .resultCache true

end Values

section

variable (failFast : Bool) (properties : Properties)

/-- Without components, properties can only stand in the way of a factory by their values. -/
theorem Configuration.fault?_without_components :
    fault? { flags := { failFast }, properties } Component.Registry.shared.loader =
      Values.fault? properties.get? failFast := by
  have refused (name : String) : Component.Registry.shared.loader.entryFault name =
      some (Values.refusal name) := by
    unfold Component.Loader.entryFault Values.refusal
    split <;> rfl
  have named (names : List String) :
      names.findSome? Component.Registry.shared.loader.entryFault =
        names.head?.map Values.refusal := by
    cases names <;> simp [refused]
  have undefined : definitions { flags := { failFast }, properties }
      Component.Registry.shared.loader = [] :=
    List.flatMap_eq_nil_iff.mpr fun name _ => rfl
  have scripts : scriptsFault { flags := { failFast }, properties }
      Component.Registry.shared.loader =
        (properties.get? PropertyKey.scriptEvaluators.name).map fun name =>
          .scriptEvaluators name (Component.notRegistered .scriptEvaluators name) := by
    unfold scriptsFault property?
    cases properties.get? PropertyKey.scriptEvaluators.name <;> rfl
  have unread : streamsFault { flags := { failFast }, properties } = none := rfl
  have offered : Fault.of? Component.Registry.shared.loader.discover.result = none := rfl
  have apart : (Registration.firstRepeated []).map Registration.repetition = none := rfl
  simp only [fault?, Option.getD_none, undefined, named, scripts, unread, offered, apart,
    Option.none_or, Option.or_none]
  rfl

end

namespace CommandLine

theorem linesOf_cons (line : String) (rest : List String) :
    linesOf (line :: rest) = line ++ "\n" ++ linesOf rest := by
  rw [linesOf, List.map_cons, String.join_cons]
  rfl

theorem linesOf_singleton (line : String) : linesOf [line] = lineOf line := by
  rw [linesOf, List.map_singleton, String.join_cons, String.join_nil, String.append_empty]

theorem linesOf_append (first second : List String) :
    linesOf (first ++ second) = linesOf first ++ linesOf second := by
  rw [linesOf, List.map_append, String.join_append]
  rfl

/-- The lines of an error: what is wrong, how that comes about, and what may mend it. -/
def errorLines (inColour : Bool) (message : String) (context suggestions : List String) :
    List String :=
  ((if inColour then "\x1b[1;31merror\x1b[0m: " else "error: ") ++ message) ::
    context.map ("  = " ++ ·) ++
    ["", if inColour then "\x1b[1;32mhelp\x1b[0m: consider:" else "help: consider:"] ++
    suggestions.mapIdx fun place suggestion => "  " ++ toString (place + 1) ++ ". " ++ suggestion

/-- An error with suggestions is shown by its lines. -/
theorem render_error (inColour : Bool) (message : String) (context : List String)
    {suggestions : List String} (some : suggestions ≠ []) :
    { severity := .error, message, context, suggestions : Diagnostic }.render inColour =
      linesOf (errorLines inColour message context suggestions) := by
  have explained : String.join (context.map fun line => s!"  = {line}\n") =
      linesOf (context.map ("  = " ++ ·)) := by
    rw [linesOf, List.map_map]
    rfl
  have advised : String.join (Diagnostic.numbered 1 suggestions) =
      linesOf (suggestions.mapIdx fun place suggestion =>
        "  " ++ toString (place + 1) ++ ". " ++ suggestion) := by
    rw [Diagnostic.numbered_eq]
    rfl
  rw [Diagnostic.render, Diagnostic.help, if_neg (by simpa using some), explained, advised,
    errorLines, linesOf_append, List.cons_append, linesOf_cons, linesOf_append, linesOf_cons,
    linesOf_cons]
  cases inColour <;> simp only [String.append_assoc] <;> rfl

/-- A reason why an inspection fails. -/
inductive Obstacle where
  /-- No file is listed, and the current directory is not known, for some reason. -/
  | lost (reason : String)
  /-- A listed file cannot be loaded. -/
  | file (fault : PropertyFile.LoadFault)
  /-- A contributor is asked for by this name. -/
  | contributor (name : String)
  /-- A property takes back the fail-fast that is on in code. -/
  | failFast
  /-- Script evaluators are asked for by this name. -/
  | scripts (name : String)
  deriving DecidableEq

namespace Obstacle

/-- How a command fails at an obstacle. -/
def failure : Obstacle → Failure
  | lost reason => .lost reason
  | file fault => .load fault
  | contributor name => .build (Values.refusal name)
  | failFast => .build .inconsistentFailFast
  | scripts name => .build (.scriptEvaluators name (Component.notRegistered .scriptEvaluators name))

/-- What a user is told about an obstacle. There are colours only where a factory cannot be
built. -/
def lines (inColour : Bool) : Obstacle → List String
  | lost reason => ["error: " ++ reason]
  | file (.unreadable path reason) =>
      ["error: failed to read properties file: " ++ path ++ ": " ++ reason]
  | file (.malformed path reason) =>
      ["error: failed to parse properties file: " ++ path ++ ": " ++ reason]
  | contributor name =>
      errorLines inColour ("could not load constraint mapping contributor `" ++ name ++ "`")
        [if name = "" then "empty entry in the contributor list"
          else "no component registered under this name",
          "named in `validator.constraint_mapping_contributors`"]
        ["Check that the name is spelled correctly",
          "Ensure the component is registered with the component loader"]
  | failFast =>
      errorLines inColour
        ("inconsistent fail-fast configuration: enabled programmatically but disabled by " ++
          "`validator.fail_fast`")
        ["`validator.fail_fast` resolves to false while fail-fast was enabled in code"]
        ["Set `validator.fail_fast` to true or remove it",
          "Stop enabling fail-fast programmatically"]
  | scripts name =>
      errorLines inColour ("unable to instantiate script evaluator factory `" ++ name ++ "`")
        ["unable to load script evaluator factory `" ++ name ++
            "`: no component registered under this name",
          "`validator.script_evaluator_factory_classname` = `" ++ name ++ "`"]
        ["Register the factory or remove the property to use the default"]

section

variable (inColour : Bool)

theorem complaint_load (fault : PropertyFile.LoadFault) :
    (Failure.load fault).complaint inColour = linesOf ((file fault).lines inColour) := by
  cases fault with
  | unreadable path reason =>
      have whole : "error: " ++ ("failed to read properties file: " ++ path ++ ": " ++ reason) =
          "error: failed to read properties file: " ++ path ++ ": " ++ reason := by
        simp only [← String.append_assoc, String.reduceAppend]
      exact (congrArg lineOf whole).trans (linesOf_singleton _).symm
  | malformed path reason =>
      have whole : "error: " ++ ("failed to parse properties file: " ++ path ++ ": " ++ reason) =
          "error: failed to parse properties file: " ++ path ++ ": " ++ reason := by
        simp only [← String.append_assoc, String.reduceAppend]
      exact (congrArg lineOf whole).trans (linesOf_singleton _).symm

theorem complaint_contributor (name reason : String) :
    (Failure.build (.componentLoad .mappingContributor name reason)).complaint inColour =
      linesOf (errorLines inColour
        ("could not load constraint mapping contributor `" ++ name ++ "`")
        [reason, "named in `validator.constraint_mapping_contributors`"]
        ["Check that the name is spelled correctly",
          "Ensure the component is registered with the component loader"]) := by
  have title : s!"could not load {Component.Kind.text .mappingContributor} {Fault.ticked name}" =
      "could not load constraint mapping contributor `" ++ name ++ "`" := by
    simp only [Component.Kind.text, Fault.ticked, toString, ← String.append_assoc,
      String.reduceAppend]
  rw [← title]
  exact render_error inColour _ _ (List.cons_ne_nil _ _)

theorem complaint_scripts (name : String) :
    (Failure.build (.scriptEvaluators name
      (Component.notRegistered .scriptEvaluators name))).complaint inColour =
        linesOf ((scripts name).lines inColour) := by
  have title : "unable to instantiate script evaluator factory " ++ Fault.ticked name =
      "unable to instantiate script evaluator factory `" ++ name ++ "`" := by
    simp only [Fault.ticked, ← String.append_assoc, String.reduceAppend]
  have loading (reason : String) : Fault.message (.componentLoad .scriptEvaluators name reason) =
      "unable to load script evaluator factory `" ++ name ++ "`" ++ (": " ++ reason) := by
    change "unable to load " ++ "script evaluator factory" ++ " " ++ Fault.ticked name ++ ": " ++
      reason = _
    simp only [Fault.ticked, ← String.append_assoc, String.reduceAppend]
  have cause : Fault.message (Component.notRegistered .scriptEvaluators name) =
      "unable to load script evaluator factory `" ++ name ++
        "`: no component registered under this name" := by
    rw [Component.notRegistered, loading]
    simp only [String.append_assoc, String.reduceAppend]
  have setting : Fault.ticked PropertyKey.scriptEvaluators.name ++ " = " ++ Fault.ticked name =
      "`validator.script_evaluator_factory_classname` = `" ++ name ++ "`" := by
    simp only [PropertyKey.name, Fault.ticked, ← String.append_assoc, String.reduceAppend]
  change _ = linesOf (errorLines inColour _ [_, _] [_])
  rw [← title, ← cause, ← setting]
  exact render_error inColour _ _ (List.cons_ne_nil _ _)

/-- The complaint about a failure is what the user is told about the obstacle. -/
theorem complaint_failure (obstacle : Obstacle) :
    obstacle.failure.complaint inColour = linesOf (obstacle.lines inColour) := by
  cases obstacle with
  | lost reason => exact (linesOf_singleton _).symm
  | file fault => exact complaint_load inColour fault
  | contributor name =>
      -- The reason depends on the name. Unfolding the lines would have their texts evaluated.
      change (Failure.build (Values.refusal name)).complaint inColour = linesOf (errorLines inColour
        ("could not load constraint mapping contributor `" ++ name ++ "`")
        [if name = "" then _ else _, _] _)
      rw [Values.refusal]
      by_cases none : name = ""
      · rw [if_pos none, if_pos (String.isEmpty_iff.mpr none), ← complaint_contributor, none]
      · rw [if_neg none, if_neg (mt String.isEmpty_iff.mp none), ← complaint_contributor]
        rfl
  | failFast => exact render_error inColour _ _ (List.cons_ne_nil _ _)
  | scripts name => exact complaint_scripts inColour name

end

end Obstacle

/-- What stands in the way of a factory with these values when no component is registered, in the
order in which it is looked for. -/
def obstaclesOf (value? : Values) (failFast : Bool) : List Obstacle :=
  value?.names.map .contributor ++
    (if value?.takesBack failFast then [.failFast] else []) ++
    ((value? PropertyKey.scriptEvaluators.name).map .scripts).toList

theorem obstaclesOf_eq_nil_iff {value? : Values} {failFast : Bool} :
    obstaclesOf value? failFast = [] ↔
      (∀ value, value? PropertyKey.contributors.name = some value → Property.names value = []) ∧
        ¬ (failFast = true ∧ ∃ value, value? PropertyKey.failFast.name = some value ∧
          Property.isTrue value = false) ∧
        value? PropertyKey.scriptEvaluators.name = none := by
  rw [← Values.names_eq_nil_iff, ← Values.takesBack_eq_false_iff]
  simp [obstaclesOf]

/-- Building fails at the first of them. -/
theorem head?_obstaclesOf (value? : Values) (failFast : Bool) :
    (obstaclesOf value? failFast).head?.map Obstacle.failure =
      (value?.fault? failFast).map Failure.build := by
  unfold obstaclesOf Values.fault?
  rw [List.head?_append, List.head?_append, List.head?_map, Option.head?_toList]
  cases value?.names.head? <;> cases value?.takesBack failFast <;>
    cases value? PropertyKey.scriptEvaluators.name <;> rfl

end CommandLine

end BeanConstraints
