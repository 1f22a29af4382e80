/-
# What collecting yields

The mappings of a factory, identities aside: those handed over with the
configuration, each identity once, then those of the discovered contributors, then
those of the named ones, every contributor giving what its drafts say. Collecting
fails with the fault of discovery or else with the fault of the first name that
cannot be loaded.
-/

import BeanConstraints.Proofs.Bootstrap

namespace BeanConstraints

namespace Mapping

/-- The mapping under no identity in particular. -/
def anonymous (mapping : Mapping) : Mapping :=
  mapping.copy 0

/-- Filling a mapping does not look at its identity. -/
theorem anonymous_fill (mapping : Mapping) (draft : MappingDraft) :
    (mapping.fill draft).anonymous = mapping.anonymous.fill draft := by
  have defined : draft.definitions.foldl define mapping.anonymous =
      (draft.definitions.foldl define mapping).anonymous :=
    List.foldl_hom anonymous fun _ _ => rfl
  unfold fill
  rw [defined]
  exact (List.foldl_hom anonymous fun _ _ => rfl).symm

/-- Mappings that were handed over, the first of each identity. Handing a mapping over twice does
not make it count twice. -/
def distinct : List Mapping → List Mapping
  | [] => []
  | mapping :: rest =>
      mapping :: (distinct rest).filter fun later => later.id != mapping.id

/-- Mappings with identities of their own all count. -/
theorem distinct_eq_self {mappings : List Mapping} (apart : (mappings.map Mapping.id).Nodup) :
    distinct mappings = mappings := by
  induction mappings with
  | nil => rfl
  | cons mapping rest ih =>
      obtain ⟨fresh, apart⟩ := List.nodup_cons.mp apart
      rw [distinct, ih apart, List.filter_eq_self.mpr]
      intro later listed
      rw [bne_iff_ne]
      exact fun same => fresh (same ▸ List.mem_map_of_mem listed)

end Mapping

namespace MappingSet

/-- The content of a set, identities aside. -/
def contents (set : MappingSet) : List Mapping :=
  set.mappings.map Mapping.anonymous

/-- Whether a set has no mapping of an identity. -/
def lacks (set : MappingSet) (mapping : Mapping) : Bool :=
  set.mappings.all fun present => present.id != mapping.id

/-- Inserting mappings one after the other adds those of new identities, in their order. -/
theorem mappings_foldl_insert (set : MappingSet) (mappings : List Mapping) :
    (mappings.foldl (fun set mapping => (set.insert mapping).1) set).mappings =
      set.mappings ++ (Mapping.distinct mappings).filter set.lacks := by
  induction mappings generalizing set with
  | nil => simp [Mapping.distinct]
  | cons mapping rest ih =>
      rw [List.foldl_cons, ih, Mapping.distinct, List.filter_cons, List.filter_filter]
      by_cases known : set.mappings.any (fun present => present.id == mapping.id) = true
      · have held : set.lacks mapping = false := by
          simpa [lacks, List.all_eq_not_any_not] using known
        have still (later : Mapping) :
            set.lacks later = (set.lacks later && later.id != mapping.id) := by
          rw [Bool.eq_iff_iff, Bool.and_eq_true, bne_iff_ne, iff_self_and]
          intro fresh same
          have alike : set.lacks later = set.lacks mapping := by unfold lacks; rw [same]
          rw [alike, held] at fresh
          exact Bool.false_ne_true fresh
        rw [insert, if_pos known, held, if_neg Bool.false_ne_true]
        congr 1
        exact List.filter_congr fun later _ => still later
      · have missing : set.lacks mapping = true := by
          simpa [lacks, List.all_eq_not_any_not] using known
        rw [insert, if_neg known, missing, if_pos rfl, List.append_assoc, List.singleton_append]
        congr 2
        apply List.filter_congr
        intro later _
        simp [lacks, List.all_append, bne, Bool.beq_comm]

theorem mappings_foldl_append (set : MappingSet) (mappings : List Mapping) :
    (mappings.foldl append set).mappings = set.mappings ++ mappings := by
  induction mappings generalizing set with
  | nil => simp
  | cons mapping rest ih => rw [List.foldl_cons, ih]; simp [append]

end MappingSet

namespace Component

/-- The mappings that a contributor adds, under no identity in particular. -/
def Contributor.mappings (contributor : Contributor) (origin : Origin) : List Mapping :=
  contributor.drafts.map (Mapping.fill ⟨0, origin, [], []⟩)

/-- What a name in the list of contributors stands for. An empty name stands for none. -/
def Loader.named (loader : Loader) (name : String) : Except Fault (String × Contributor) :=
  if name.isEmpty then
    .error (.componentLoad .mappingContributor name "empty entry in the contributor list")
  else (loader.contributor name).result.map fun contributor => (name, contributor)

end Component

namespace Bootstrap

/-- What contributors add, one after the other. -/
def added (origin : String → Origin) (contributors : List (String × Component.Contributor)) :
    List Mapping :=
  contributors.flatMap fun entry => entry.2.mappings (origin entry.1)

/-- The content of what is collected, or the fault that collecting ends with. -/
def contributions (loader : Component.Loader) (preSupplied : List Mapping) (names : List String) :
    Except Fault (List Mapping) := do
  let discovered ← loader.discover.result
  let named ← names.mapM loader.named
  return (Mapping.distinct preSupplied).map Mapping.anonymous ++ added .discovered discovered ++
    added .propertyNamed named

theorem yields_mappingsOf (origin : Origin) (drafts : List MappingDraft) :
    Yields (mappingsOf origin drafts) (List.map Mapping.anonymous)
      (.ok (drafts.map (Mapping.fill ⟨0, origin, [], []⟩))) := by
  induction drafts with
  | nil => exact yields_done [] _
  | cons draft rest ih =>
      refine yields_freshMapping.bind
        (fun _ => .ok ((draft :: rest).map (Mapping.fill ⟨0, origin, [], []⟩))) fun id => ?_
      refine ih.bind
        (fun others => .ok (Mapping.fill ⟨0, origin, [], []⟩ draft :: others)) fun others => ?_
      have filled : (Mapping.fill ⟨id, origin, [], []⟩ draft).anonymous =
          Mapping.fill ⟨0, origin, [], []⟩ draft := Mapping.anonymous_fill _ draft
      rw [← filled]
      exact yields_pure _ _

theorem yields_contribute (contributor : Component.Contributor) (origin : Origin)
    (set : MappingSet) :
    Yields (contribute contributor origin set) MappingSet.contents
      (.ok (set.contents ++ contributor.mappings origin)) := by
  refine (yields_mappingsOf origin contributor.drafts).bind
    (fun mappings => .ok (set.contents ++ mappings)) fun mappings => ?_
  refine Yields.after_log (Yields.after_log ?_)
  have whole : (mappings.foldl MappingSet.append set).contents =
      set.contents ++ mappings.map Mapping.anonymous := by
    unfold MappingSet.contents
    rw [MappingSet.mappings_foldl_append, List.map_append]
  rw [← whole]
  exact yields_pure _ _

theorem yields_contributeDiscovered (discovered : List (String × Component.Contributor))
    (set : MappingSet) :
    Yields (contributeDiscovered set discovered) MappingSet.contents
      (.ok (set.contents ++ added .discovered discovered)) := by
  induction discovered generalizing set with
  | nil =>
      rw [added, List.flatMap_nil, List.append_nil]
      exact yields_done set _
  | cons entry rest ih =>
      obtain ⟨name, contributor⟩ := entry
      rw [added, List.flatMap_cons, ← List.append_assoc]
      exact (yields_contribute contributor (.discovered name) set).bind
        (fun contents => .ok (contents ++ added .discovered rest)) ih

theorem yields_contributeNamed (loader : Component.Loader) (names : List String)
    (set : MappingSet) :
    Yields (contributeNamed loader set names) MappingSet.contents
      ((names.mapM loader.named).map fun named => set.contents ++ added .propertyNamed named) := by
  induction names generalizing set with
  | nil =>
      have nothing : set.contents ++ added .propertyNamed [] = set.contents := List.append_nil _
      rw [List.mapM_nil]
      change Yields _ _ (.ok (set.contents ++ added .propertyNamed []))
      rw [nothing]
      exact yields_done set _
  | cons name rest ih =>
      rw [contributeNamed, List.mapM_cons, Component.Loader.named]
      split
      · exact yields_fail _ _
      · have whole : (((loader.contributor name).result.map fun contributor =>
              (name, contributor)) >>= fun first => rest.mapM loader.named >>= fun others =>
                pure (first :: others)).map
              (fun named => set.contents ++ added .propertyNamed named) =
            ((loader.contributor name).result >>= fun contributor =>
              Except.ok (set.contents ++ contributor.mappings (.propertyNamed name)) >>=
                fun contents => (rest.mapM loader.named).map
                  fun named => contents ++ added .propertyNamed named) := by
          cases (loader.contributor name).result with
          | error fault => rfl
          | ok contributor =>
              cases rest.mapM loader.named with
              | error fault => rfl
              | ok named =>
                  apply congrArg Except.ok
                  simp [added]
        rw [whole]
        apply (yields_watched .mappingContributor name _).bind
        intro contributor
        exact (yields_contribute contributor (.propertyNamed name) set).bind _ ih

/-- Collecting yields the contributions of all sources. -/
theorem yields_collect (loader : Component.Loader) (preSupplied : List Mapping)
    (contributors : Option String) :
    Yields (collect loader preSupplied contributors) MappingSet.contents
      (contributions loader preSupplied ((contributors.map Property.names).getD [])) := by
  let names := (contributors.map Property.names).getD []
  let set := preSupplied.foldl (fun (set : MappingSet) mapping => (set.insert mapping).1) ⟨[]⟩
  have handedOver : set.contents = (Mapping.distinct preSupplied).map Mapping.anonymous := by
    have all : (Mapping.distinct preSupplied).filter (MappingSet.lacks ⟨[]⟩) =
        Mapping.distinct preSupplied := List.filter_eq_self.mpr fun _ _ => rfl
    rw [MappingSet.contents, MappingSet.mappings_foldl_insert, all]
    rfl
  unfold collect contributions
  apply Yields.after_log
  apply (yields_watched .mappingContributor loader.name loader.discover).bind
  intro discovered
  rw [← handedOver]
  refine (yields_contributeDiscovered discovered set).bind
    (fun contents => (names.mapM loader.named).map
      fun named => contents ++ added .propertyNamed named) fun filled => ?_
  exact (yields_contributeNamed loader names filled).noted _

end Bootstrap

end BeanConstraints
