/-
# Collecting mappings

The mappings of a factory come from three kinds of source, in this order: those
handed over with the configuration, those of the contributors that the loader
offers, and those of the contributors that a property names. Definitions are
registered in the order of collection, so a conflict is reported against the
later source.
-/

import BeanConstraints.Bootstrap.Basic
import BeanConstraints.Property.Names

namespace BeanConstraints.Bootstrap

/-- Make the mappings of drafts, each with an identity of its own. -/
def mappingsOf (origin : Origin) : List MappingDraft → Bootstrap (List Mapping)
  | [] => done []
  | draft :: rest => do
      let id ← freshMapping
      let others ← mappingsOf origin rest
      return Mapping.fill ⟨id, origin, [], []⟩ draft :: others

/-- Let a contributor add its mappings. -/
def contribute (contributor : Component.Contributor) (origin : Origin) (set : MappingSet) :
    Bootstrap MappingSet := do
  let added ← mappingsOf origin contributor.drafts
  log [.call (.contribute contributor.tag added.length)]
  log (Journal.debug s!"{origin.text} added {added.length} mapping(s)")
  return added.foldl MappingSet.append set

/-- Let the discovered contributors add their mappings, one after the other. -/
def contributeDiscovered (set : MappingSet) :
    List (String × Component.Contributor) → Bootstrap MappingSet
  | [] => done set
  | (name, contributor) :: rest => do
      let set ← contribute contributor (.discovered name) set
      contributeDiscovered set rest

/-- Load the named contributors, each adding its mappings before the next is loaded. An empty
name cannot be loaded. -/
def contributeNamed (loader : Component.Loader) (set : MappingSet) :
    List String → Bootstrap MappingSet
  | [] => done set
  | name :: rest => do
      if name.isEmpty then
        fail (.componentLoad .mappingContributor name "empty entry in the contributor list")
      else do
        let contributor ← watched .mappingContributor name (loader.contributor name)
        let set ← contribute contributor (.propertyNamed name) set
        contributeNamed loader set rest

/-- Collect the mappings of all sources. -/
def collect (loader : Component.Loader) (preSupplied : List Mapping)
    (contributors : Option String) : Bootstrap MappingSet := do
  let set := preSupplied.foldl (fun set mapping => (set.insert mapping).1) ⟨[]⟩
  log (Journal.debug s!"Collected {preSupplied.length} programmatic constraint mapping(s)")
  let discovered ← watched .mappingContributor loader.name loader.discover
  let set ← contributeDiscovered set discovered
  let set ← contributeNamed loader set ((contributors.map Property.names).getD [])
  log (Journal.info s!"Aggregated {set.mappings.length} constraint mapping(s)")
  return set

end BeanConstraints.Bootstrap
