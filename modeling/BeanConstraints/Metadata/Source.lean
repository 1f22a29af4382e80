/-
# Sources of placements

Where the placements on beans come from: from mapping documents, which a parser
outside this library understands, and from the collected mappings. Both answer
the same two questions, what there is for a bean type and for which types there
is anything.
-/

import BeanConstraints.Bootstrap.Basic
import BeanConstraints.Table

namespace BeanConstraints

/-- A named mapping document. -/
structure MappingStream where
  name : String
  content : String
  deriving DecidableEq, Inhabited

/-- What a parser makes of a mapping document: placements, bean by bean, or the reasons why it
cannot be understood, from the outermost to the innermost. -/
abbrev MappingParser := MappingStream → Except (List String) (List BeanPlacements)

namespace Metadata

/-- The placements read from mapping documents, by bean type. -/
structure Documents where
  beans : Table String (List BeanPlacements)
  /-- The number of documents that were read. -/
  streams : Nat
  deriving Inhabited

namespace Documents

/-- Nothing read yet. -/
def empty : Documents := ⟨.empty, 0⟩

/-- The placements for a bean type in the order in which they were read. -/
def beansOf (documents : Documents) (typeName : String) : List BeanPlacements :=
  (documents.beans.get? typeName).getD []

/-- File the placements for a bean type behind those that are there. -/
def file (documents : Documents) (bean : BeanPlacements) : Documents :=
  { documents with
    beans := documents.beans.insert bean.typeName (documents.beansOf bean.typeName ++ [bean]) }

/-- File what one more document holds. -/
def add (documents : Documents) (beans : List BeanPlacements) : Documents :=
  let filed := beans.foldl file documents
  { filed with streams := filed.streams + 1 }

/-- Read streams on top of what was read, up to the first that cannot be parsed. -/
def readFrom (parser : MappingParser) (documents : Documents) :
    List MappingStream → Bootstrap Documents
  | [] => pure documents
  | stream :: rest => do
      Bootstrap.log [.call (.parse stream.name)]
      match parser stream with
      | .error reasons => Bootstrap.fail (.mappingParse stream.name (": ".intercalate reasons))
      | .ok beans => do
          Bootstrap.log (Journal.debug
            (s!"Parsed {beans.length} bean configuration(s) from mapping stream " ++
              Fault.ticked stream.name))
          readFrom parser (documents.add beans) rest

/-- Read streams in their order. -/
def read (parser : MappingParser) (streams : List MappingStream) : Bootstrap Documents :=
  readFrom parser empty streams

/-- Placements of one bean type are filed under that type, behind the others. -/
theorem beansOf_file (documents : Documents) (bean : BeanPlacements) (typeName : String) :
    (documents.file bean).beansOf typeName =
      documents.beansOf typeName ++ if bean.typeName = typeName then [bean] else [] := by
  by_cases same : bean.typeName = typeName
  · subst same
    simp [file, beansOf]
  · have apart : typeName ≠ bean.typeName := fun equal => same equal.symm
    simp [file, beansOf, same, Table.get?_insert_of_ne _ _ apart]

end Documents

/-- A source of placements. -/
inductive Source where
  | documents (filed : Documents)
  | mappings (sealed : SealedMappings)

namespace Source

/-- The kind of source, which constraints name as their origin. -/
def kind : Source → String
  | documents _ => "xml"
  | mappings _ => "programmatic"

/-- What there is for a bean type: every document bean, or the entry of every mapping that has
one. -/
def beansOf (source : Source) (typeName : String) : List BeanPlacements :=
  match source with
  | documents filed => filed.beansOf typeName
  | mappings sealed => sealed.mappings.filterMap fun mapping => mapping.bean? typeName

/-- Names in rising order, each once: they are sorted, and of equal neighbours the first stays. -/
def rising (names : List String) : List String :=
  (names.mergeSort fun first second => (compare first second).isLE).eraseReps

/-- The bean types for which there is anything, in rising order. -/
def types : Source → List String
  | documents filed => filed.beans.keys
  | mappings sealed =>
      rising (sealed.mappings.flatMap fun mapping =>
        mapping.beans.map fun bean => bean.typeName)

end Source

end Metadata

end BeanConstraints
