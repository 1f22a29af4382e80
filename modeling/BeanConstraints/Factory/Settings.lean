/-
# Settings of validators

What a validator works with. A validator starts from the settings of its factory;
each may be replaced, the last replacement winning, and extractors are added on
top. Only three of the settings matter for metadata: they make up its key.
-/

import BeanConstraints.Factory.Flags
import BeanConstraints.Metadata.Manager

namespace BeanConstraints

/-- What a validator works with. -/
structure Settings where
  interpolator : Instance Interpolator
  traversal : Instance Traversal
  naming : Instance ParameterNaming
  clock : Instance Clock
  validators : Instance ValidatorSupply
  scripts : Instance ScriptEvaluators
  extractors : Extractors
  flags : Flags

/-- A change to the settings for one validator. -/
inductive Override where
  | interpolator (provider : Instance Interpolator)
  | traversal (provider : Instance Traversal)
  | naming (provider : Instance ParameterNaming)
  | clock (provider : Instance Clock)
  | validators (provider : Instance ValidatorSupply)
  | scripts (provider : Instance ScriptEvaluators)
  | failFast (enabled : Bool)
  | rule (rule : MethodRule) (relaxed : Bool)
  | resultCache (enabled : Bool)
  /-- Add an extractor on top of those in effect. -/
  | extractor (extractor : Extractor)

namespace Settings

/-- The settings on which metadata depends. -/
def key (settings : Settings) : Metadata.Key :=
  ⟨settings.naming, settings.extractors, settings.flags.rules⟩

/-- Make one change. -/
def apply (settings : Settings) : Override → Settings
  | .interpolator provider => { settings with interpolator := provider }
  | .traversal provider => { settings with traversal := provider }
  | .naming provider => { settings with naming := provider }
  | .clock provider => { settings with clock := provider }
  | .validators provider => { settings with validators := provider }
  | .scripts provider => { settings with scripts := provider }
  | .failFast enabled => { settings with flags.failFast := enabled }
  | .rule rule relaxed =>
      { settings with flags.rules := settings.flags.rules.set rule relaxed }
  | .resultCache enabled => { settings with flags.resultCache := enabled }
  | .extractor extractor =>
      { settings with extractors := settings.extractors.overlay [extractor] }

end Settings

/-- A validator in the making: its settings so far, and the extractors that it is to have on top of
theirs. -/
structure Context where
  settings : Settings
  /-- In the order in which they were asked for. -/
  added : List Extractor := []

namespace Context

/-- Make one change. Extractors are only noted. -/
def change (context : Context) : Override → Context
  | .extractor extractor => { context with added := context.added ++ [extractor] }
  | override => { context with settings := context.settings.apply override }

/-- The settings with all changes, the noted extractors included. -/
def settled (context : Context) : Settings :=
  if context.added.isEmpty then context.settings
  else
    { context.settings with
      extractors := context.settings.extractors.overlay context.added }

end Context

namespace Settings

/-- A context in which nothing was changed yet. -/
def context (settings : Settings) : Context := { settings }

/-- Make changes one after the other, in a context of their own. -/
def overridden (settings : Settings) (overrides : List Override) : Settings :=
  (overrides.foldl Context.change settings.context).settled

end Settings

namespace Context

/-- Noting an extractor comes to adding it at once. -/
theorem settled_change (context : Context) (override : Override) :
    (context.change override).settled = context.settled.apply override := by
  obtain ⟨settings, added⟩ := context
  cases added with
  | nil => cases override <;> rfl
  | cons first rest =>
      cases override with
      | extractor extractor => simp [change, settled, Settings.apply, Extractors.overlay_append]
      | _ => rfl

/-- So changes can be thought of as made at once, one after the other. -/
theorem settled_foldl_change (context : Context) (overrides : List Override) :
    (overrides.foldl change context).settled =
      overrides.foldl Settings.apply context.settled := by
  induction overrides generalizing context with
  | nil => rfl
  | cons override rest ih => rw [List.foldl_cons, List.foldl_cons, ih, settled_change]

end Context

/-- Changed settings are what comes of the changes one by one. -/
theorem Settings.overridden_eq_foldl (settings : Settings) (overrides : List Override) :
    settings.overridden overrides = overrides.foldl Settings.apply settings :=
  settings.context.settled_foldl_change overrides

end BeanConstraints
