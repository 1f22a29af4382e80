/-
# Configuration survives JSON

What is written as JSON is read back, in either layout of the printer: property files
with all their values, constraints, checkers, and the rules for methods. A property
value carries no mark of its kind, and needs none: only its own kind reads it, so the
order in which the kinds are tried decides nothing, and a text that looks like a flag
or a number stays a text. A constraint is written as its name, and whoever interns the
name that is read back is given what the writer had.
-/

import BeanConstraints.MethodRules
import BeanConstraints.Proofs.Interning
import BeanConstraints.Proofs.JsonText
import BeanConstraints.Property.File

namespace BeanConstraints

namespace Json

/-- The layouts of a text. -/
inductive Layout where
  | compact
  | pretty

/-- The text of a value in a layout. -/
def Layout.write : Layout → Json → String
  | compact => Json.compact
  | pretty => Json.pretty

/-- What data of some kind a text denotes. -/
def decode? {α : Type} (ofJson? : Json → Option α) (text : String) : Option α :=
  (read? text).bind ofJson?

/-- What comes back as a value comes back as a text. -/
theorem Written.decode? {α : Type} {ofJson? : Json → Option α} {value : Json} {datum : α}
    (written : Written value) (known : ofJson? value = some datum) (layout : Layout) :
    decode? ofJson? (layout.write value) = some datum := by
  have read : Json.read? (layout.write value) = some value := by
    cases layout with
    | compact => exact written.read?.1
    | pretty => exact written.read?.2
  rw [Json.decode?, read, Option.bind_some, known]

theorem int64?_toInt (n : Int64) : int64? (.integer n.toInt) = some n := by
  rw [int64?, if_pos ⟨n.minValue_le_toInt, n.toInt_le⟩, Int64.ofInt_toInt]

end Json

namespace PropertyValue

theorem written (value : PropertyValue) : Json.Written value.toJson := by
  cases value with
  | flag b => exact .bool b
  | number n => exact .integer n.toInt
  | text s => exact .string s

/-- Of all kinds, only its own reads a value. -/
theorem filterMap_readings (value : PropertyValue) :
    readings.filterMap (fun reading => reading value.toJson) = [value] := by
  cases value with
  | flag b => rfl
  | number n => simp [readings, toJson, Json.bool?, Json.string?, Json.int64?_toInt]
  | text s => rfl

/-- In whatever order the kinds are tried, a value is read as itself. -/
theorem findSome?_readings {order : List (Json → Option PropertyValue)}
    (perm : order.Perm readings) (value : PropertyValue) :
    order.findSome? (fun reading => reading value.toJson) = some value := by
  have only : order.filterMap (fun reading => reading value.toJson) = [value] := by
    have same := perm.filterMap fun reading => reading value.toJson
    rwa [filterMap_readings, List.perm_singleton] at same
  rw [← List.head?_filterMap, only, List.head?_cons]

theorem ofJson?_toJson (value : PropertyValue) : ofJson? value.toJson = some value :=
  findSome?_readings (List.Perm.refl readings) value

end PropertyValue

namespace PropertyFile

theorem written (file : PropertyFile) : Json.Written file.toJson := by
  refine .object fun member within => ?_
  rw [List.mem_singleton.mp within]
  refine .object fun member within => ?_
  obtain ⟨entry, -, rfl⟩ := List.mem_map.mp within
  exact entry.2.written

/-- Entries that are all read back make the table that they came from. -/
theorem ofValues?_toJson (file : PropertyFile) :
    ofValues? PropertyValue.ofJson?
      (file.properties.entries.map fun entry => (entry.1, entry.2.toJson)) = some file := by
  have each : (file.properties.entries.map fun entry => (entry.1, entry.2.toJson)).mapM
      (fun entry => (PropertyValue.ofJson? entry.2).map fun known => (entry.1, known)) =
        some file.properties.entries := by
    rw [List.mapM_map]
    simp only [Function.comp_def, PropertyValue.ofJson?_toJson, Option.map_some]
    exact List.mapM_pure.trans (congrArg some (List.map_id _))
  rw [ofValues?, each, Option.bind_eq_bind, Option.bind_some, Table.ofList_entries]
  rfl

theorem ofJson?_toJson (file : PropertyFile) : ofJson? file.toJson = some file := by
  simp only [ofJson?, toJson, BEq.rfl, List.filter_cons_of_pos, List.filter_nil, Json.object?,
    Option.bind_eq_bind, Option.bind_some, ofValues?_toJson]

end PropertyFile

namespace Constraint

theorem written (constraint : Constraint) : Json.Written constraint.toJson :=
  .string constraint.name

theorem ofJson?_toJson (constraint : Constraint) : ofJson? constraint.toJson = some constraint :=
  rfl

end Constraint

namespace Checker

theorem written (checker : Checker) : Json.Written checker.toJson := by
  refine .object fun member within => ?_
  rcases List.mem_pair.mp within with rfl | rfl
  · exact .string checker.validator
  · exact .string checker.validatedType

theorem ofJson?_toJson (checker : Checker) : ofJson? checker.toJson = some checker := by
  rfl

end Checker

namespace MethodRules

theorem written (rules : MethodRules) : Json.Written rules.toJson := by
  refine .object fun member within => ?_
  obtain ⟨field, -, rfl⟩ := List.mem_map.mp within
  exact .bool field.2

theorem ofJson?_toJson (rules : MethodRules) : ofJson? rules.toJson = some rules := by
  rfl

end MethodRules

/-- What is written is read back, whatever the layout: property files, so with the properties that
the factory sees, their values, each of which is read as its own kind only, constraints, checkers,
and rules for methods. Of callers that intern names at once, whoever interns the name that is read
back for a constraint is given what its writer was given. -/
theorem written_data_are_read_back (layout : Json.Layout) :
    (∀ file : PropertyFile,
      let read := Json.decode? PropertyFile.ofJson? (layout.write file.toJson)
      read = some file ∧ read.map PropertyFile.toProperties = some file.toProperties) ∧
    (∀ value : PropertyValue,
      Json.decode? PropertyValue.ofJson? (layout.write value.toJson) = some value ∧
      PropertyValue.readings.filterMap (fun reading => reading value.toJson) = [value]) ∧
    (∀ constraint : Constraint,
      Json.decode? Constraint.ofJson? (layout.write constraint.toJson) = some constraint) ∧
    (∀ checker : Checker,
      Json.decode? Checker.ofJson? (layout.write checker.toJson) = some checker) ∧
    (∀ rules : MethodRules,
      Json.decode? MethodRules.ofJson? (layout.write rules.toJson) = some rules) ∧
    ∀ {ι : Type} [DecidableEq ι] (names : ι → String) (turns : List ι),
      let race : Constraint.Interning ι :=
        (Race.start .empty).run Constraint.interning names turns
      ∀ writer reader first second,
        race.answer? writer = some first → race.answer? reader = some second →
        (Json.decode? Constraint.ofJson? (layout.write first.constraint.toJson)).map
          Constraint.name = some (names reader) →
        (first == second) = true := by
  refine ⟨?_, ?_, ?_, ?_, ?_, ?_⟩
  · intro file read
    have back : read = some file := file.written.decode? file.ofJson?_toJson layout
    exact ⟨back, by rw [back]; rfl⟩
  · intro value
    exact ⟨value.written.decode? value.ofJson?_toJson layout, value.filterMap_readings⟩
  · intro constraint
    exact constraint.written.decode? constraint.ofJson?_toJson layout
  · intro checker
    exact checker.written.decode? checker.ofJson?_toJson layout
  · intro rules
    exact rules.written.decode? rules.ofJson?_toJson layout
  · intro ι _ names turns race writer reader first second wrote reads asked
    have settled : Constraint.Interning.Settled names race :=
      Constraint.Interning.settled_run names turns
    obtain ⟨one, -⟩ := settled.named writer first wrote
    obtain ⟨other, named⟩ := settled.named reader second reads
    have back : Json.decode? Constraint.ofJson? (layout.write first.constraint.toJson) =
        some first.constraint :=
      first.constraint.written.decode? first.constraint.ofJson?_toJson layout
    rw [back, Option.map_some, Option.some.injEq] at asked
    exact (settled.sound.beq_iff one other).mpr (asked.trans named.symm)

end BeanConstraints
