/-
# The journal

A journal keeps, in order, what happened during a piece of work: the calls made
on parts that live outside this library, the notes for whoever reads the log, and
the places where a component is loaded under watch. Work that fails keeps the
journal up to its failure.
-/

import BeanConstraints.Component.Kind

namespace BeanConstraints

/-- A call on a part that lives outside this library. -/
inductive Call where
  /-- A parser is given a mapping stream. -/
  | parse (stream : String)
  /-- The constructor of a component is run. -/
  | construct (tag : String)
  /-- A contributor has added so many mappings. -/
  | contribute (tag : String) (added : Nat)
  | parameterNames (method : String) (arity : Nat)
  | reachable (tag bean property : String)
  | cascadable (tag bean property : String)
  | acquire (tag validator : String)
  /-- A supply of validators is told to release its instances. -/
  | clearValidators (tag : String)
  | prepare (tag language : String)
  /-- Script evaluators are told to release what they have prepared. -/
  | clearScripts (tag : String)
  deriving DecidableEq, Inhabited

/-- How loud a note is. -/
inductive Level where
  | trace
  | debug
  | info
  | warn
  deriving DecidableEq, Inhabited

/-- The word for the level. -/
def Level.text : Level → String
  | trace => "TRACE"
  | debug => "DEBUG"
  | info => "INFO"
  | warn => "WARN"

/-- One line of a journal. -/
inductive Entry where
  | call (call : Call)
  | note (level : Level) (text : String)
  /-- Loading under watch begins. -/
  | load (kind : Component.Kind) (name : String)
  deriving DecidableEq, Inhabited

/-- What happened, in order. -/
abbrev Journal := List Entry

namespace Journal

/-- The calls of a journal. -/
def calls (journal : Journal) : List Call :=
  journal.filterMap fun entry =>
    match entry with
    | .call call => some call
    | _ => none

/-- One note for debugging. -/
def debug (text : String) : Journal := [.note .debug text]

/-- One note on an event of the normal course. -/
def info (text : String) : Journal := [.note .info text]

/-- One note on detail. -/
def trace (text : String) : Journal := [.note .trace text]

/-- One warning. -/
def warn (text : String) : Journal := [.note .warn text]

end Journal

end BeanConstraints
