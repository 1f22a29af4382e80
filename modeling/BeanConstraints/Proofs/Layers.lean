/-
# Layers of properties

Property files are laid over one another, and settings over all of them. What comes
out answers for a key with the last setting of the key, or else with the uppermost
file that has it. Listed files have to load, and the first that does not is the one
that is blamed; the files of the user and the project may be missing or broken, and
then count for nothing.
-/

import BeanConstraints.CommandLine.Run
import BeanConstraints.Proofs.Table

namespace BeanConstraints

namespace PropertyFile

/-- The file at a path, if it can be loaded. -/
def at? (files : Files) (path : String) : Option PropertyFile :=
  match files path with
  | .content bytes => (String.fromUTF8? bytes).bind read?
  | _ => none

/-- Why the file at a path cannot be loaded, if it cannot. -/
def faultAt? (files : Files) (wording : Wording) (path : String) : Option LoadFault :=
  match files path with
  | .content bytes =>
      match String.fromUTF8? bytes with
      | none => some (.unreadable path "stream did not contain valid UTF-8")
      | some text => if (read? text).isSome then none else some (.malformed path (wording text))
  | .directory => some (.unreadable path "Is a directory (os error 21)")
  | .unreadable reason => some (.unreadable path reason)
  | .missing reason => some (.unreadable path reason)

/-- The value that files give to a key when later ones lie over earlier ones. -/
def value? (layers : List PropertyFile) (key : String) : Option PropertyValue :=
  layers.reverse.findSome? fun file => file.properties.get? key

/-- Merging files one after the other lays later ones over earlier ones. -/
theorem get?_foldl_merge (layers : List PropertyFile) (file : PropertyFile) (key : String) :
    (layers.foldl merge file).properties.get? key =
      (value? layers key).or (file.properties.get? key) := by
  induction layers using List.reverseRecOn with
  | nil => rfl
  | append_singleton lower upper ih =>
      simp only [List.foldl_append, List.foldl_cons, List.foldl_nil, merge, Table.get?_merge, ih,
        value?, List.reverse_append, List.reverse_singleton, List.singleton_append,
        List.findSome?_cons]
      cases upper.properties.get? key <;> rfl

section

variable (files : Files) (wording : Wording)

/-- What is at a path is loaded, or else there is a reason why not. -/
theorem load_cases (path : String) :
    (∃ journal file, load files wording path = (journal, .ok file) ∧
        at? files path = some file ∧ faultAt? files wording path = none) ∨
      ∃ journal fault, load files wording path = (journal, .error fault) ∧
        at? files path = none ∧ faultAt? files wording path = some fault := by
  unfold load at? faultAt?
  cases files path with
  | content bytes =>
      simp only [Finding.text]
      cases String.fromUTF8? bytes with
      | none => simp
      | some text =>
          simp only [Option.bind_some]
          cases read? text <;> simp
  | _ => simp [Finding.text]

theorem faultAt?_eq_none_iff {path : String} :
    faultAt? files wording path = none ↔ (at? files path).isSome = true := by
  rcases load_cases files wording path with ⟨_, _, _, there, fine⟩ | ⟨_, _, _, missing, blamed⟩
  · simp [there, fine]
  · simp [missing, blamed]

/-- Listed files are loaded up to the first that cannot be, which is the one that is blamed. -/
theorem result_loadAll (file : PropertyFile) (paths : List String) :
    (loadAll files wording file paths).2 = match paths.findSome? (faultAt? files wording) with
      | some fault => .error fault
      | none => .ok ((paths.filterMap (at? files)).foldl merge file) := by
  induction paths generalizing file with
  | nil => rfl
  | cons path rest ih =>
      rw [loadAll, List.findSome?_cons, List.filterMap_cons]
      rcases load_cases files wording path with
        ⟨_, other, loaded, there, fine⟩ | ⟨_, fault, loaded, missing, blamed⟩
      · rw [loaded, there, fine]
        exact ih (file.merge other)
      · rw [loaded, missing, blamed]

/-- A file that is not there cannot be loaded either. -/
theorem loadOrEmpty_eq (path : String) :
    (loadOrEmpty files wording path).2 = (at? files path).getD empty := by
  unfold loadOrEmpty
  split
  · rcases load_cases files wording path with
      ⟨_, _, loaded, there, _⟩ | ⟨_, _, loaded, missing, _⟩
    · rw [loaded, there, Option.getD_some]
    · rw [loaded, missing, Option.getD_none]
  case _ missing =>
    have nothing : at? files path = none := by
      cases found : files path with
      | missing reason => simp [at?, found]
      | _ => simp [found, Finding.isThere] at missing
    rw [nothing, Option.getD_none]

/-- Of the files of the user and the project, those that can be loaded count. -/
theorem loadLayers_eq (user project : String) :
    (loadLayers files wording user project).2 =
      ([user, project].filterMap (at? files)).foldl merge empty := by
  simp only [loadLayers, loadOrEmpty_eq, List.filterMap_cons, List.filterMap_nil]
  cases at? files user <;> cases at? files project <;> rfl

end

end PropertyFile

namespace CommandLine

namespace Surroundings

variable (surroundings : Surroundings) (paths : List String) (settings : List Setting)

/-- The places that an inspection takes properties from, lower ones first: the listed files, or
those of the user and the project if none are listed. -/
def places : List String :=
  if paths = [] then
    (surroundings.home.map PropertyFile.settingsPath).getD "" ::
      (surroundings.current.toOption.map PropertyFile.settingsPath).toList
  else paths

/-- The files at these places, as far as they can be loaded. -/
def layers : List PropertyFile :=
  (surroundings.places paths).filterMap (PropertyFile.at? surroundings.files)

/-- The value that an inspection takes for a key: the last setting of the key, or else what the
uppermost file with the key says, as a text. -/
def value? (key : String) : Option String :=
  (Table.latest? (settings.map fun setting => (setting.key, setting.value)) key).or
    ((PropertyFile.value? (surroundings.layers paths) key).map PropertyValue.toText)

/-- Why it is not known where the properties of a project are, if it matters and is not known. -/
def lost? : Option String :=
  if paths = [] then
    match surroundings.current with
    | .error reason => some reason
    | .ok _ => none
  else none

theorem lost?_eq_none_iff : surroundings.lost? paths = none ↔
    (paths = [] → ∃ current, surroundings.current = .ok current) := by
  unfold lost?
  split <;> cases surroundings.current <;> simp_all

/-- Why the properties of an inspection cannot be resolved, if they cannot: the current directory
is not known and no file is listed, or some listed file cannot be loaded. -/
def unresolved? : Option Failure :=
  ((surroundings.lost? paths).map Failure.lost).or
    ((paths.findSome? (PropertyFile.faultAt? surroundings.files surroundings.wording)).map
      Failure.load)

/-- Properties are resolved unless there is a reason why they cannot be, and have those values. -/
theorem result_resolveProperties :
    match surroundings.unresolved? paths with
    | some failure => (resolveProperties surroundings paths settings).2 = .error failure
    | none => ∃ properties, (resolveProperties surroundings paths settings).2 = .ok properties ∧
        ∀ key, properties.get? key = surroundings.value? paths settings key := by
  have overlaid (key : String) :
      ((((surroundings.layers paths).foldl PropertyFile.merge .empty).toProperties.insertAll
        (settings.map fun setting => (setting.key, setting.value))).get? key) =
        surroundings.value? paths settings key := by
    rw [Table.get?_insertAll, PropertyFile.toProperties, Table.get?_map,
      PropertyFile.get?_foldl_merge, PropertyFile.empty, Table.get?_empty, Option.or_none]
    rfl
  cases paths with
  | nil =>
      cases known : surroundings.current with
      | error reason =>
          simp [unresolved?, lost?, resolveProperties, loadUnlisted, known, Except.map]
      | ok current =>
          simp only [unresolved?, lost?, known, if_true, List.findSome?_nil, Option.map_none,
            Option.or_none]
          refine ⟨_, ?_, overlaid⟩
          simp only [resolveProperties, loadUnlisted, known, PropertyFile.loadLayers_eq, layers,
            places]
          rfl
  | cons path rest =>
      have loaded :=
        PropertyFile.result_loadAll surroundings.files surroundings.wording .empty (path :: rest)
      simp only [unresolved?, lost?, resolveProperties, loadListed, List.isEmpty_cons,
        Bool.false_eq_true, if_false, loaded, reduceCtorEq, Option.map_none, Option.none_or]
      cases (path :: rest).findSome? (PropertyFile.faultAt? surroundings.files
          surroundings.wording) with
      | some fault => rfl
      | none => exact ⟨_, rfl, overlaid⟩

end Surroundings

end CommandLine

end BeanConstraints
