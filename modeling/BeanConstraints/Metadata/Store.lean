/-
# The store of managers

One manager per key. Asking for a key takes up to two steps, each of which sees
the store as a whole: a look for the key, and only if it is missing a second look
that builds a manager and files it. Other requests may come between the two; the
second look is there for them. A builder that fails leaves the store as it was.

Managers outlive their place in the store, since whoever was handed one keeps it.
So the store lists every manager it ever made, and its index says which of them
are found under their keys.
-/

import BeanConstraints.Metadata.Manager

namespace BeanConstraints.Metadata

/-- The identity of a manager: its place among all managers made. -/
abbrev ManagerId := Nat

/-- Every manager ever made, and the index of those that are found. -/
structure Store where
  managers : List Manager := []
  index : List (Key × ManagerId) := []

/-- What a request for a key leads to. -/
inductive Answer (ε : Type) where
  | found (id : ManagerId)
  | built (id : ManagerId)
  /-- The builder failed. -/
  | failed (reason : ε)
  deriving DecidableEq

namespace Answer

/-- The manager that was handed out, or why there is none. -/
def result {ε : Type} : Answer ε → Except ε ManagerId
  | found id => .ok id
  | built id => .ok id
  | failed reason => .error reason

/-- Whether the builder ran. -/
def ran {ε : Type} : Answer ε → Bool
  | found _ => false
  | _ => true

/-- The manager that a builder without failures leads to. -/
def id : Answer Empty → ManagerId
  | found id => id
  | built id => id
  | failed reason => reason.elim

end Answer

/-- Makes a manager, or fails. -/
abbrev Maker (ε : Type) := Key → Except ε (Journal × Manager)

/-- Makes the sources for a new manager, or fails. -/
abbrev Builder (ε : Type) := Key → Except ε (List Source)

/-- Start a manager with the sources that a builder makes. -/
def Builder.maker {ε : Type} (build : Builder ε) : Maker ε := fun key =>
  (build key).map (Manager.start key)

namespace Store

/-- No manager was made yet. -/
def empty : Store := {}

/-- The first step: the manager of a key, if there is one. -/
def find? (store : Store) (key : Key) : Option ManagerId :=
  (store.index.find? fun entry => entry.1.agrees key).map Prod.snd

/-- Whether there is a manager for a key. -/
def contains (store : Store) (key : Key) : Bool :=
  (store.find? key).isSome

/-- The number of keys with a manager. -/
def size (store : Store) : Nat :=
  store.index.length

/-- Whether no key has a manager. -/
def isEmpty (store : Store) : Bool :=
  store.index.isEmpty

/-- File a new manager under a key. -/
def add (store : Store) (key : Key) (manager : Manager) : Journal × Store × ManagerId :=
  let id := store.managers.length
  (Journal.debug s!"Cached new metadata manager ({store.size + 1} total)",
    ⟨store.managers ++ [manager], store.index ++ [(key, id)]⟩, id)

/-- Start a manager and file it under its key. -/
def file (store : Store) (key : Key) (sources : List Source) : Journal × Store × ManagerId :=
  let (started, manager) := Manager.start key sources
  let (filed, store, id) := store.add key manager
  (started ++ filed, store, id)

/-- The second step: the manager of a key, made now if there still is none. -/
def claimOrMake {ε : Type} (store : Store) (key : Key) (make : Maker ε) :
    Journal × Store × Answer ε :=
  match store.find? key with
  | some id => ([], store, .found id)
  | none =>
      match make key with
      | .error reason => ([], store, .failed reason)
      | .ok (made, manager) =>
          let (filed, store, id) := store.add key manager
          (made ++ filed, store, .built id)

/-- The second step for a manager that is to be started with built sources. -/
def claim {ε : Type} (store : Store) (key : Key) (build : Builder ε) :
    Journal × Store × Answer ε :=
  store.claimOrMake key (Builder.maker build)

/-- Both steps in one. -/
def getOrMake {ε : Type} (store : Store) (key : Key) (make : Maker ε) :
    Journal × Store × Answer ε :=
  match store.find? key with
  | some id => ([], store, .found id)
  | none => store.claimOrMake key make

/-- Both steps in one for a manager that is to be started with built sources. -/
def getOrBuild {ε : Type} (store : Store) (key : Key) (build : Builder ε) :
    Journal × Store × Answer ε :=
  store.getOrMake key (Builder.maker build)

/-- The manager of a key, made with the given sources if there is none. -/
def get (store : Store) (key : Key) (sources : List Source) : Journal × Store × ManagerId :=
  let build : Builder Empty := fun _ => .ok sources
  let (journal, store, answer) := store.getOrBuild key build
  (journal, store, answer.id)

/-- A manager by its identity. -/
def manager? (store : Store) (id : ManagerId) : Option Manager :=
  store.managers[id]?

/-- Change a manager. -/
def modify (store : Store) (id : ManagerId) (change : Manager → Manager) : Store :=
  { store with managers := store.managers.modify id change }

/-- The metadata of a bean type from a manager. There is no answer if the provider of parameter
names crashes, or if no manager has that identity. -/
def bean (store : Store) (registry : Registry) (id : ManagerId) (typeName : String) :
    Journal × Store × Option Built :=
  match store.manager? id with
  | none => ([], store, none)
  | some manager =>
      let (journal, manager, built) := manager.bean registry typeName
      (journal, store.modify id fun _ => manager, built)

/-- Make one manager forget its metadata. -/
def clearManager (store : Store) (id : ManagerId) : Store :=
  store.modify id Manager.clear

/-- Make every manager that is found forget its metadata, then find none of them any more. -/
def clear (store : Store) : Journal × Store :=
  let cleared := store.index.foldl (fun store entry => store.clearManager entry.2) store
  (Journal.debug s!"Cleared {store.size} metadata manager(s)", { cleared with index := [] })

end Store

end BeanConstraints.Metadata
