/-
# Faults

What can go wrong while a factory is built or asked for something it is not.
A fault holds its causes; the words for it, its code, the advice and the
diagnostic are all derived from them here.
-/

import BeanConstraints.Component.Kind
import BeanConstraints.Diagnostic
import BeanConstraints.Mapping.Basic
import BeanConstraints.Property.Key

namespace BeanConstraints

/-- Why a factory cannot be built or used. -/
inductive Fault where
  /-- Fail-fast is on in code and off by property. -/
  | inconsistentFailFast
  /-- A constraint has a second definition, in a mapping of the given origin. -/
  | duplicateDefinition (constraint : Constraint) (origin : Origin)
  | componentLoad (kind : Component.Kind) (name reason : String)
  /-- The script evaluator factory that a property names cannot be had. -/
  | scriptEvaluators (name : String) (cause : Fault)
  /-- There are mapping streams and nothing that could parse them. -/
  | missingParser (streams : Nat)
  | mappingParse (stream message : String)
  /-- The factory was asked for a type that it does not give access to. -/
  | unsupportedUnwrap (typeName : String)
  deriving DecidableEq, Inhabited

namespace Fault

/-- A name in backquotes. -/
def ticked (name : String) : String :=
  "\x60" ++ name ++ "\x60"

/-- The fault in one line. -/
def message : Fault → String
  | inconsistentFailFast =>
      "inconsistent fail-fast configuration: enabled programmatically but disabled by " ++
        ticked PropertyKey.failFast.name
  | duplicateDefinition constraint _ =>
      "constraint " ++ ticked constraint.name ++ " has already been configured"
  | componentLoad kind name reason => s!"unable to load {kind.text} {ticked name}: {reason}"
  | scriptEvaluators name _ => "unable to instantiate script evaluator factory " ++ ticked name
  | missingParser streams =>
      s!"{streams} mapping stream(s) configured but no mapping parser is set"
  | mappingParse stream message => s!"failed to parse mapping stream {ticked stream}: {message}"
  | unsupportedUnwrap typeName => s!"type {ticked typeName} is not supported for unwrapping"

/-- The code under which the fault is documented. -/
def code : Fault → String
  | inconsistentFailFast => "validator_factory::config::inconsistent_fail_fast"
  | duplicateDefinition _ _ => "validator_factory::mapping::duplicate_definition"
  | componentLoad _ _ _ => "validator_factory::loader::component_load"
  | scriptEvaluators _ _ => "validator_factory::loader::script_evaluator_factory"
  | missingParser _ => "validator_factory::xml::missing_parser"
  | mappingParse _ _ => "validator_factory::xml::parse"
  | unsupportedUnwrap _ => "validator_factory::unwrap::unsupported"

/-- General advice, where the kind of fault has some. -/
def advice : Fault → Option String
  | inconsistentFailFast =>
      some "Remove the property or stop enabling fail-fast programmatically"
  | missingParser _ =>
      some ("Supply a parser with " ++ ticked "ConfigurationState::with_mapping_parser")
  | _ => none

/-- The messages of the faults behind this one, nearest first. -/
def causes : Fault → List String
  | scriptEvaluators _ cause => cause.message :: causes cause
  | _ => []

/-- The fault for a person to act on. -/
def diagnostic : Fault → Diagnostic
  | inconsistentFailFast =>
      let key := ticked PropertyKey.failFast.name
      (Diagnostic.error (message .inconsistentFailFast))
        |>.withContext (key ++ " resolves to false while fail-fast was enabled in code")
        |>.withSuggestion ("Set " ++ key ++ " to true or remove it")
        |>.withSuggestion "Stop enabling fail-fast programmatically"
  | duplicateDefinition constraint origin =>
      (Diagnostic.error ("constraint " ++ ticked constraint.name ++ " is defined more than once"))
        |>.withContext ("second definition comes from " ++ origin.text)
        |>.withSuggestion ("Keep a single definition of " ++ ticked constraint.simpleName ++
          " and use " ++ ticked "include_existing_validators" ++ " to extend it")
  | componentLoad kind name reason =>
      let failed := (Diagnostic.error s!"could not load {kind.text} {ticked name}").withContext
        reason
      let blamed := match kind with
        | .mappingContributor =>
            failed.withContext ("named in " ++ ticked PropertyKey.contributors.name)
        | .scriptEvaluators => failed
      blamed
        |>.withSuggestion "Check that the name is spelled correctly"
        |>.withSuggestion "Ensure the component is registered with the component loader"
  | scriptEvaluators name cause =>
      (Diagnostic.error (message (.scriptEvaluators name cause)))
        |>.withContext cause.message
        |>.withContext (ticked PropertyKey.scriptEvaluators.name ++ " = " ++ ticked name)
        |>.withSuggestion "Register the factory or remove the property to use the default"
  | missingParser streams =>
      (Diagnostic.error (message (.missingParser streams)))
        |>.withSuggestion "Configure a mapping parser or drop the mapping streams"
  | mappingParse stream message =>
      (Diagnostic.error ("invalid mapping stream " ++ ticked stream)).withContext message
  | unsupportedUnwrap typeName =>
      (Diagnostic.error (message (.unsupportedUnwrap typeName)))
        |>.withContext
          ("only the factory type itself can be unwrapped, not " ++ ticked typeName)

end Fault

end BeanConstraints
