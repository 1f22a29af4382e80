/-
# Loading components

A component is made by a constructor, which may fail. A loader turns names into
components and offers some contributors on its own account. What a loader answers
comes with the calls that it made on the way, so a failure still shows what was
tried before it.
-/

import BeanConstraints.Fault
import BeanConstraints.Journal
import BeanConstraints.Provider

namespace BeanConstraints.Component

/-- An answer together with the calls made for it. -/
structure Reply (α : Type) where
  calls : List Call
  result : Except Fault α

/-- Adds mappings of its own during construction. -/
structure Contributor where
  tag : String
  drafts : List MappingDraft
  deriving DecidableEq, Inhabited

/-- Makes a component, or fails. -/
structure Constructor (α : Type) where
  tag : String
  result : Except Fault α

/-- Run a constructor. -/
def Constructor.run {α : Type} (constructor : Constructor α) : Reply α :=
  ⟨[.construct constructor.tag], constructor.result⟩

/-- Resolves names to components. -/
structure Loader where
  /-- The loader's own name, for the log. -/
  name : String := "component loader"
  /-- The contributors offered without being asked for by name. -/
  discover : Reply (List (String × Contributor))
  contributor : String → Reply Contributor
  scriptEvaluators : String → Reply ScriptEvaluators

/-- The fault of a name that is not registered. -/
def notRegistered (kind : Kind) (name : String) : Fault :=
  .componentLoad kind name "no component registered under this name"

/-- The fault of a failed constructor: a fault of loading as it is, any other one as the reason
why this component cannot be loaded. -/
def constructionFault (kind : Kind) (name : String) : Fault → Fault
  | .componentLoad inner innerName reason => .componentLoad inner innerName reason
  | fault => .componentLoad kind name fault.message

/-- Run a constructor under a name. -/
def Constructor.runAs {α : Type} (constructor : Constructor α) (kind : Kind) (name : String) :
    Reply α :=
  ⟨[.construct constructor.tag], constructor.result.mapError (constructionFault kind name)⟩

end BeanConstraints.Component
