/-
# Overlaid extractors

Extractors are put together by laying lists of them over the standard ones, in any number
of steps. How many steps there were does not matter, only what the lists say together: at
each point the last extractor for the point is in effect, or else what was in effect
before. So extractors are as good as their answers, and metadata made under one set of
them is right for every other set that answers alike.

That an extractor is found under its own point only is not said by the table. It holds
because every extractor is filed under the point that it serves.
-/

import BeanConstraints.Extraction
import BeanConstraints.Proofs.Table

namespace BeanConstraints

namespace ExtractionPoint

/-- A point comes before another one if its container type does, by code points, or if its type
argument does in the same container type. -/
def Before (first second : ExtractionPoint) : Prop :=
  first.container < second.container ∨
    first.container = second.container ∧ first.argument < second.argument

theorem compare_eq_lt_iff {first second : ExtractionPoint} :
    compare first second = .lt ↔ first.Before second := by
  have container : compare first.container second.container = .lt ↔
      first.container < second.container := compareOfLessAndEq_eq_lt
  have argument : compare first.argument second.argument = .lt ↔
      first.argument < second.argument := Nat.compare_eq_lt
  change (compare first.container second.container).then
    (compare first.argument second.argument) = .lt ↔ _
  rw [Ordering.then_eq_lt, container, argument, Std.LawfulEqCmp.compare_eq_iff_eq, Before]

/-- No point comes before itself. -/
theorem Before.ne {first second : ExtractionPoint} (before : first.Before second) :
    first ≠ second := by
  rintro rfl
  have below := compare_eq_lt_iff.mpr before
  simp [Std.ReflCmp.compare_self] at below

end ExtractionPoint

namespace Extractor

instance : Std.TransOrd Extractor :=
  inferInstanceAs (Std.TransCmp (compareLex (compareOn point) (compareOn name)))

instance : Std.LawfulEqOrd Extractor where
  eq_of_compare {first second} h := by
    obtain ⟨point, name⟩ := first
    obtain ⟨point', name'⟩ := second
    obtain ⟨samePoint, sameName⟩ := Ordering.then_eq_eq.mp h
    have h₁ : point = point' :=
      Std.LawfulEqCmp.eq_of_compare (show compare point point' = .eq from samePoint)
    have h₂ : name = name' :=
      Std.LawfulEqCmp.eq_of_compare (show compare name name' = .eq from sameName)
    rw [h₁, h₂]

/-- Sorting finds the one rising order. -/
theorem sorted_eq_of_perm {contents rising : List Extractor} (perm : contents.Perm rising)
    (order : rising.Pairwise fun first second => (compare first second).isLE = true) :
    sorted contents = rising := by
  refine List.Perm.eq_of_pairwise ?_ (pairwise_mergeSort_compare contents) order
    ((List.mergeSort_perm contents _).trans perm)
  intro first second _ _ before after
  exact Std.LawfulEqCmp.eq_of_compare (Std.OrientedCmp.isLE_antisymm before after)

end Extractor

namespace Extractors

/-- Extractors that answer alike at every point are the same. -/
theorem ext_at? {first second : Extractors}
    (alike : ∀ point, first.at? point = second.at? point) : first = second := by
  have table : first.table = second.table := Table.ext_get? alike
  cases first
  cases second
  exact congrArg Extractors.mk table

/-- Of the extractors laid over others the last one for a point is in effect there. -/
theorem at?_overlay (extractors : Extractors) (added : List Extractor) (point : ExtractionPoint) :
    (extractors.overlay added).at? point =
      (added.filter fun extractor => extractor.point = point).getLast?.or
        (extractors.at? point) := by
  induction added using List.reverseRecOn with
  | nil => rfl
  | append_singleton earlier last ih =>
      have step : (extractors.overlay (earlier ++ [last])).at? point =
          ((extractors.overlay earlier).table.insert last.point last).get? point := by
        rw [← overlay_append]
        rfl
      rw [step, List.filter_append]
      by_cases same : last.point = point
      · rw [← same, Table.get?_insert_self]
        simp
      · rw [Table.get?_insert_of_ne _ _ fun equal => same equal.symm, ← at?, ih]
        simp [same]

/-- Extractors as they can be put together. -/
inductive Made : Extractors → Prop
  /-- The standard extractors overlaid with configured ones. -/
  | configured (added : List Extractor) : Made (configured added)
  /-- Extractors overlaid once more. -/
  | overlay {extractors : Extractors} (made : Made extractors) (added : List Extractor) :
      Made (extractors.overlay added)

/-- One overlay over the standard extractors does for all of them. -/
theorem Made.exists_configured {extractors : Extractors} (made : extractors.Made) :
    ∃ added, extractors = .configured added := by
  induction made with
  | configured added => exact ⟨added, rfl⟩
  | overlay _ added ih =>
      obtain ⟨earlier, rfl⟩ := ih
      exact ⟨earlier ++ added, overlay_append _ _ _⟩

/-- Every extractor is filed under the point that it serves. -/
def Filed (extractors : Extractors) : Prop :=
  ∀ entry ∈ extractors.table.entries, entry.2.point = entry.1

theorem Filed.overlay {extractors : Extractors} (filed : extractors.Filed)
    (added : List Extractor) : (extractors.overlay added).Filed := by
  induction added generalizing extractors with
  | nil => exact filed
  | cons first rest ih =>
      have one : (extractors.overlay [first]).Filed := by
        intro entry listed
        rcases Table.mem_place listed with rfl | earlier
        · rfl
        · exact filed entry earlier
      have all := ih one
      rwa [overlay_append] at all

theorem Made.filed {extractors : Extractors} (made : extractors.Made) : extractors.Filed := by
  obtain ⟨added, rfl⟩ := made.exists_configured
  have nothing : Filed ⟨.empty⟩ := fun entry listed => absurd listed List.not_mem_nil
  exact (nothing.overlay _).overlay _

/-- The points of all extractors in effect rise. -/
theorem Filed.rising {extractors : Extractors} (filed : extractors.Filed) :
    extractors.toList.Pairwise fun first second => first.point.Before second.point := by
  refine List.pairwise_map.mpr (extractors.table.rising.imp_of_mem ?_)
  intro first second firstListed secondListed before
  rw [filed first firstListed, filed second secondListed]
  exact ExtractionPoint.compare_eq_lt_iff.mp before

/-- At most one extractor for each point leaves the order no say. -/
theorem overlay_perm (extractors : Extractors) {first second : List Extractor}
    (perm : first.Perm second) (distinct : (first.map Extractor.point).Nodup) :
    extractors.overlay first = extractors.overlay second := by
  apply ext_at?
  intro point
  have there : (first.filter fun extractor => extractor.point = point).Perm
      (second.filter fun extractor => extractor.point = point) := perm.filter _
  rw [at?_overlay, at?_overlay]
  cases served : first.filter fun extractor => extractor.point = point with
  | nil =>
      rw [served, List.nil_perm] at there
      rw [there]
  | cons one others =>
      have apart : ((one :: others).map Extractor.point).Nodup :=
        distinct.sublist (served ▸ List.filter_sublist.map _)
      have here (extractor : Extractor) (listed : extractor ∈ one :: others) :
          extractor.point = point := by
        rw [← served] at listed
        simpa using (List.mem_filter.mp listed).2
      have alone : others = [] := by
        refine List.eq_nil_iff_forall_not_mem.mpr fun other listed => ?_
        refine (List.nodup_cons.mp apart).1 (List.mem_map.mpr ⟨other, listed, ?_⟩)
        rw [here other (.tail _ listed), here one (.head _)]
      rw [served, alone, List.singleton_perm] at there
      rw [alone, there]

/-- What is in effect at a point cannot be taken away. -/
theorem isSome_at?_overlay (extractors : Extractors) (added : List Extractor)
    {point : ExtractionPoint}
    (served : (extractors.at? point).isSome = true ∨ point ∈ added.map Extractor.point) :
    ((extractors.overlay added).at? point).isSome = true := by
  rw [at?_overlay, Option.isSome_or, Bool.or_eq_true]
  refine served.symm.imp_left fun listed => ?_
  obtain ⟨extractor, there, rfl⟩ := List.mem_map.mp listed
  exact List.getLast?_isSome.mpr
    (List.ne_nil_of_mem (List.mem_filter.mpr ⟨there, decide_eq_true rfl⟩))

/-- The standard points are always served. -/
theorem Made.isSome_at? {extractors : Extractors} (made : extractors.Made) {standard : Extractor}
    (listed : standard ∈ Extractor.standard) : (extractors.at? standard.point).isSome = true := by
  obtain ⟨added, rfl⟩ := made.exists_configured
  apply isSome_at?_overlay _ _ (.inl _)
  exact isSome_at?_overlay _ _ (.inr (List.mem_map_of_mem listed))

/-- Extractors that were put together in any way obey the laws of overlays. One overlay does for
two, whether or not it is laid over the standard extractors. At each point the last of the
extractors laid over the others is in effect, or else what was in effect before, and it serves that
point. All extractors in effect stand in the order of their points, none of which is repeated, and
this is the order in which extractors are sorted. Extractors are equal exactly if they answer alike
at every point, so the order in which some are added does not matter if no two of them serve one
point. The standard points are always served. -/
theorem overlays_of_made {extractors : Extractors} (made : extractors.Made) :
    (∀ first second, (configured first).overlay second = configured (first ++ second)) ∧
      (∀ first second,
        (extractors.overlay first).overlay second = extractors.overlay (first ++ second)) ∧
      (∀ added point, (extractors.overlay added).at? point =
        (added.filter fun extractor => extractor.point = point).getLast?.or
          (extractors.at? point)) ∧
      (∀ entry ∈ extractors.table.entries, entry.2.point = entry.1) ∧
      (∀ point extractor, extractors.at? point = some extractor → extractor.point = point) ∧
      (extractors.toList.Pairwise fun first second => first.point.Before second.point) ∧
      (extractors.toList.map Extractor.point).Nodup ∧
      (∀ contents, contents.Perm extractors.toList →
        Extractor.sorted contents = extractors.toList) ∧
      (∀ other, extractors = other ↔ ∀ point, extractors.at? point = other.at? point) ∧
      (∀ first second, first.Perm second → (first.map Extractor.point).Nodup →
        extractors.overlay first = extractors.overlay second) ∧
      ∀ standard ∈ Extractor.standard, (extractors.at? standard.point).isSome = true := by
  have filed := made.filed
  have rising := filed.rising
  refine ⟨fun first second => overlay_append _ _ _, extractors.overlay_append,
    extractors.at?_overlay, filed, ?_, rising, ?_, ?_, ?_, ?_, fun standard => made.isSome_at?⟩
  · intro point extractor found
    exact filed _ (Table.get?_eq_some_iff.mp found)
  · exact List.pairwise_map.mpr (rising.imp ExtractionPoint.Before.ne)
  · intro contents perm
    refine Extractor.sorted_eq_of_perm perm (rising.imp fun {first second} before => ?_)
    have below : compare first.point second.point = .lt :=
      ExtractionPoint.compare_eq_lt_iff.mpr before
    change ((compare first.point second.point).then (compare first.name second.name)).isLE = true
    rw [below]
    rfl
  · intro other
    exact ⟨fun same point => congrArg (fun extractors => extractors.at? point) same, ext_at?⟩
  · intro first second perm distinct
    exact extractors.overlay_perm perm distinct

/-- Extractors for lists and maps are replaced one after the other, and two for other containers are
added in either order. -/
theorem overlays_of_replaced_maps :
    let maps : Extractor := ⟨⟨"Map", 1⟩, "acme.MapExtractor"⟩
    let arrays : Extractor := ⟨⟨"Array", 0⟩, "acme.ArrayExtractor"⟩
    let pairs : Extractor := ⟨⟨"Pair", 1⟩, "acme.PairExtractor"⟩
    let lists : Extractor := ⟨⟨"List", 0⟩, "acme.ListExtractor"⟩
    let extractors := (configured [maps]).overlay [lists]
    extractors.Made ∧ ([arrays, pairs].map Extractor.point).Nodup ∧
      extractors.overlay [arrays, pairs] = extractors.overlay [pairs, arrays] ∧
      extractors.at? ⟨"Map", 1⟩ = some maps ∧
      Extractor.sorted extractors.toList.reverse = extractors.toList := by
  intro maps arrays pairs lists extractors
  have made : extractors.Made := .overlay (.configured _) _
  have distinct : ([arrays, pairs].map Extractor.point).Nodup := by decide
  obtain ⟨_, _, _, _, _, _, _, sorted, _, perm, _⟩ := overlays_of_made made
  exact ⟨made, distinct, perm _ _ (List.Perm.swap _ _ _) distinct, by decide,
    sorted _ (List.reverse_perm _)⟩

end Extractors

end BeanConstraints
