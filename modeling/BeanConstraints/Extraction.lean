/-
# Value extraction

How to reach the values inside container types. An extraction point is a type
argument of a container type, and at most one extractor is in effect at each
point. Extractors in effect are compared by content: two sets that answer alike
at every point are equal, however they were put together.
-/

import BeanConstraints.Json.Basic
import BeanConstraints.Table

namespace BeanConstraints

/-- A type argument of a container type. -/
structure ExtractionPoint where
  container : String
  argument : Nat
  deriving DecidableEq, Inhabited

namespace ExtractionPoint

/-- Points are ordered by container type, then by type argument. -/
instance : Ord ExtractionPoint := ⟨compareLex (compareOn container) (compareOn argument)⟩

instance : Std.TransOrd ExtractionPoint :=
  inferInstanceAs (Std.TransCmp (compareLex (compareOn container) (compareOn argument)))

instance : Std.LawfulEqOrd ExtractionPoint where
  eq_of_compare {first second} h := by
    obtain ⟨container, argument⟩ := first
    obtain ⟨container', argument'⟩ := second
    obtain ⟨sameContainer, sameArgument⟩ := Ordering.then_eq_eq.mp h
    have h₁ : container = container' :=
      Std.LawfulEqCmp.eq_of_compare (show compare container container' = .eq from sameContainer)
    have h₂ : argument = argument' :=
      Std.LawfulEqCmp.eq_of_compare (show compare argument argument' = .eq from sameArgument)
    rw [h₁, h₂]

end ExtractionPoint

/-- An extractor: the point that it serves and the name of its implementation. -/
structure Extractor where
  point : ExtractionPoint
  name : String
  deriving DecidableEq, Inhabited

namespace Extractor

/-- Extractors are ordered by their points, then by name. -/
instance : Ord Extractor := ⟨compareLex (compareOn point) (compareOn name)⟩

/-- The point followed by the name. -/
def text (extractor : Extractor) : String :=
  extractor.point.container ++ "<" ++ toString extractor.point.argument ++ "> via " ++
    extractor.name

/-- An extractor is written as a record of its three parts. -/
def toJson (extractor : Extractor) : Json :=
  .object [("container_type", .string extractor.point.container),
    ("type_argument", .nat extractor.point.argument),
    ("extractor", .string extractor.name)]

/-- Extractors in rising order. -/
def sorted (extractors : List Extractor) : List Extractor :=
  extractors.mergeSort fun first second => (compare first second).isLE

/-- The extractors of the common container types. -/
def standard : List Extractor := [
  ⟨⟨"List", 0⟩, "ListValueExtractor"⟩,
  ⟨⟨"Set", 0⟩, "IterableValueExtractor"⟩,
  ⟨⟨"Map", 0⟩, "MapKeyExtractor"⟩,
  ⟨⟨"Map", 1⟩, "MapValueExtractor"⟩,
  ⟨⟨"Optional", 0⟩, "OptionalValueExtractor"⟩,
  ⟨⟨"Object[]", 0⟩, "ObjectArrayValueExtractor"⟩]

end Extractor

/-- The extractors in effect, each filed under the point that it serves. -/
structure Extractors where
  table : Table ExtractionPoint Extractor
  deriving DecidableEq

namespace Extractors

/-- The extractors overlaid with others. At one point the last of them is in effect. -/
def overlay (extractors : Extractors) (added : List Extractor) : Extractors :=
  ⟨added.foldl (fun table extractor => table.insert extractor.point extractor) extractors.table⟩

/-- The standard extractors overlaid with configured ones. -/
def configured (added : List Extractor) : Extractors :=
  overlay (overlay ⟨.empty⟩ Extractor.standard) added

/-- The standard extractors alone. -/
def standard : Extractors := configured []

instance : Inhabited Extractors := ⟨standard⟩

/-- The extractor in effect at a point. -/
def at? (extractors : Extractors) (point : ExtractionPoint) : Option Extractor :=
  extractors.table.get? point

/-- All extractors in effect, in the order of their points. -/
def toList (extractors : Extractors) : List Extractor :=
  extractors.table.values

/-- The number of points served. -/
def size (extractors : Extractors) : Nat :=
  extractors.table.size

/-- Whether no point is served. -/
def isEmpty (extractors : Extractors) : Bool :=
  extractors.table.isEmpty

/-- Overlaying twice is overlaying once with both lists. -/
theorem overlay_append (extractors : Extractors) (first second : List Extractor) :
    (extractors.overlay first).overlay second = extractors.overlay (first ++ second) := by
  simp [overlay]

end Extractors

end BeanConstraints
