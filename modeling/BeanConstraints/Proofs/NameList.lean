/-
# Lists of names

What a value says as a list of names is fixed by its segments, which are what stands
between its commas. Each segment gives an entry, which is the segment without the blanks
around it. The empty entries at the end go, and of equal entries the first stays. That
description leaves no choice, and it can be run backwards: a list of proper names comes
back from every text that spells it, with any blanks around the names and any number of
blank segments at the end.

An empty entry between names is kept, so whoever reads the list can refuse it. Such a
list is the one kind that does not come back: in `a,,a` the repeated name goes, which
leaves the empty entry at the end, where the next reading drops it.
-/

import BeanConstraints.Property.Names
import Mathlib.Data.List.DropRight
import Mathlib.Data.List.Forall2

namespace BeanConstraints

section

variable {α : Type} {p : α → Bool} {l kept : List α}

/-- What is left without the first members of a kind starts with another kind. -/
theorem dropWhile_eq_iff :
    l.dropWhile p = kept ↔
      (∃ dropped, l = dropped ++ kept ∧ ∀ x ∈ dropped, p x = true) ∧
        ∀ x ∈ kept.head?, p x = false := by
  refine ⟨?_, ?_⟩
  · rintro rfl
    refine ⟨⟨l.takeWhile p, List.takeWhile_append_dropWhile.symm, fun x => List.mem_takeWhile_imp⟩,
      fun x first => ?_⟩
    have other := List.head?_dropWhile_not p l
    rwa [Option.mem_def.mp first] at other
  · rintro ⟨⟨dropped, rfl, all⟩, first⟩
    rw [List.dropWhile_append_of_pos all]
    cases kept with
    | nil => rfl
    | cons x rest => simp [first x rfl]

/-- What is left without the last members of a kind ends with another kind. -/
theorem rdropWhile_eq_iff :
    l.rdropWhile p = kept ↔
      (∃ dropped, l = kept ++ dropped ∧ ∀ x ∈ dropped, p x = true) ∧
        ∀ x ∈ kept.getLast?, p x = false := by
  rw [List.rdropWhile, List.reverse_eq_iff, dropWhile_eq_iff, List.head?_reverse]
  refine and_congr_left fun _ => ⟨?_, ?_⟩
  · rintro ⟨dropped, whole, all⟩
    refine ⟨dropped.reverse, ?_, fun x listed => all x (List.mem_reverse.mp listed)⟩
    rw [← List.reverse_inj, whole, List.reverse_append, List.reverse_reverse]
  · rintro ⟨dropped, rfl, all⟩
    exact ⟨dropped.reverse, List.reverse_append, fun x listed => all x (List.mem_reverse.mp listed)⟩

end

namespace Text

/-- There are only blanks. -/
def Blank (cs : List Char) : Prop := ∀ c ∈ cs, isBlank c = true

/-- There is no blank at either end. -/
def Trimmed (cs : List Char) : Prop :=
  (∀ c ∈ cs.head?, isBlank c = false) ∧ ∀ c ∈ cs.getLast?, isBlank c = false

/-- A text without blanks at its ends stands in another one with nothing but blanks around it. -/
def Pads (text core : List Char) : Prop :=
  Trimmed core ∧ ∃ before after, text = before ++ core ++ after ∧ Blank before ∧ Blank after

/-- Trimming finds the text that has nothing but blanks around it. -/
theorem pads_iff {text core : List Char} : Pads text core ↔ trimChars text = core := by
  change _ ↔ (text.dropWhile isBlank).rdropWhile isBlank = core
  refine ⟨?_, ?_⟩
  · rintro ⟨⟨first, last⟩, before, after, rfl, leading, trailing⟩
    cases core with
    | nil =>
        have nothing : (before ++ [] ++ after).dropWhile isBlank = [] := by
          rw [List.dropWhile_eq_nil_iff]
          intro c listed
          rw [List.append_nil, List.mem_append] at listed
          exact listed.elim (leading c) (trailing c)
        rw [nothing]
        rfl
    | cons c rest =>
        have front : (before ++ c :: rest ++ after).dropWhile isBlank = c :: rest ++ after :=
          dropWhile_eq_iff.mpr ⟨⟨before, List.append_assoc _ _ _, leading⟩, first⟩
        rw [front]
        exact rdropWhile_eq_iff.mpr ⟨⟨after, rfl, trailing⟩, last⟩
  · intro trimmed
    obtain ⟨⟨after, rest, trailing⟩, last⟩ := rdropWhile_eq_iff.mp trimmed
    obtain ⟨⟨before, whole, leading⟩, first⟩ := dropWhile_eq_iff.mp rest
    refine ⟨⟨fun c head => first c ?_, last⟩, before, after, ?_, leading, trailing⟩
    · rw [List.head?_append, Option.mem_def.mp head]
      rfl
    · rw [whole, List.append_assoc]

/-- What has no blank at its ends needs no trimming. -/
theorem Trimmed.pads_self {core : List Char} (trimmed : Trimmed core) : Pads core core :=
  ⟨trimmed, [], [], by simp, by simp [Blank], by simp [Blank]⟩

/-- Padding adds blanks only. -/
theorem Pads.mem_iff {text core : List Char} (pads : Pads text core) {c : Char}
    (visible : isBlank c = false) : c ∈ text ↔ c ∈ core := by
  obtain ⟨_, before, after, rfl, leading, trailing⟩ := pads
  have absent {cs : List Char} (blank : Blank cs) : c ∉ cs := fun listed => by
    simp [blank c listed] at visible
  simp [absent leading, absent trailing]

theorem blank_iff {cs : List Char} : Blank cs ↔ trimChars cs = [] := by
  rw [← pads_iff]
  refine ⟨fun blank => ⟨by simp [Trimmed], cs, [], by simp, blank, by simp [Blank]⟩, ?_⟩
  rintro ⟨_, before, after, rfl, leading, trailing⟩ c listed
  rw [List.append_nil, List.mem_append] at listed
  exact listed.elim (leading c) (trailing c)

end Text

/-- A list keeps of another one every member at its first place. -/
structure Firsts {α : Type} [BEq α] (all kept : List α) : Prop where
  same : ∀ x, x ∈ kept ↔ x ∈ all
  order : kept.Pairwise fun first second => all.idxOf first < all.idxOf second

namespace Firsts

variable {α : Type} [BEq α] {all kept : List α}

/-- A member has one first place, so it is kept once. -/
theorem nodup (firsts : Firsts all kept) : kept.Nodup :=
  firsts.order.imp fun before same => by simp [same] at before

/-- There is one way to keep first places only. -/
theorem unique {other : List α} (firsts : Firsts all kept) (others : Firsts all other) :
    kept = other := by
  refine List.Perm.eq_of_pairwise (fun a b _ _ before after => ?_) firsts.order others.order
    ((List.perm_ext_iff_of_nodup firsts.nodup others.nodup).mpr fun x => ?_)
  · exact absurd before (Nat.lt_asymm after)
  · rw [firsts.same, others.same]

/-- Without repetitions every place is a first place. -/
theorem of_nodup [LawfulBEq α] (nodup : all.Nodup) : Firsts all all where
  same _ := Iff.rfl
  order := by
    rw [List.pairwise_iff_getElem]
    intro i j hi hj before
    rwa [nodup.idxOf_getElem, nodup.idxOf_getElem]

/-- Places do not change when the members are written differently. -/
theorem map {β : Type} [BEq β] [LawfulBEq α] [LawfulBEq β] {f : α → β}
    (injective : Function.Injective f) (firsts : Firsts all kept) :
    Firsts (all.map f) (kept.map f) where
  same y := by simp [firsts.same]
  order := by
    have place (x : α) : (all.map f).idxOf (f x) = all.idxOf x := by
      rw [List.idxOf, List.findIdx_map, List.idxOf]
      congr 1
      funext y
      simp [injective.eq_iff]
    rw [List.pairwise_map]
    simpa only [place] using firsts.order

end Firsts

namespace Property

/-- The parts of a value between its commas. -/
structure Segments (value : String) (segments : List String) : Prop where
  joined : value = ",".intercalate segments
  some : segments ≠ []
  free : ∀ segment ∈ segments, ',' ∉ segment.toList

/-- Every entry stands in its segment with nothing but blanks around it. -/
def Padded (segments entries : List String) : Prop :=
  List.Forall₂ (fun segment entry => Text.Pads segment.toList entry.toList) segments entries

/-- A list is what a value says: it has the entries of the segments up to the last one that is not
empty, each at its first place. -/
def Listed (value : String) (list : List String) : Prop :=
  ∃ segments kept empties, Segments value segments ∧
    Padded segments (kept ++ List.replicate empties "") ∧ kept.getLast? ≠ some "" ∧
    Firsts kept list

/-- The parts between separators have no separator. -/
theorem not_mem_of_mem_splitOn {separator : Char} {cs segment : List Char}
    (listed : segment ∈ cs.splitOn separator) : separator ∉ segment := by
  rw [List.splitOn_eq_splitOnP] at listed
  induction cs generalizing segment with
  | nil => simp_all
  | cons c rest ih =>
      rw [List.splitOnP_cons_eq_if_modifyHead] at listed
      split at listed
      · rcases List.mem_cons.mp listed with rfl | later
        · exact List.not_mem_nil
        · exact ih later
      case _ other =>
        have apart : separator ≠ c := fun same => other (by simp [same])
        cases parts : rest.splitOnP (· == separator) with
        | nil => exact absurd parts (List.splitOnP_ne_nil _ _)
        | cons first others =>
            rw [parts, List.modifyHead_cons, List.mem_cons] at listed
            rcases listed with rfl | later
            · rw [List.mem_cons, not_or]
              exact ⟨apart, ih (parts ▸ List.mem_cons_self)⟩
            · exact ih (parts ▸ List.mem_cons_of_mem _ later)

/-- A value has one division into segments. -/
theorem segments_iff {value : String} {segments : List String} :
    Segments value segments ↔ segments.map String.toList = value.toList.splitOn ',' := by
  refine ⟨?_, ?_⟩
  · rintro ⟨rfl, some, free⟩
    rw [String.toList_intercalate]
    refine (List.splitOn_intercalate ',' ?_ (by simpa using some)).symm
    simpa using free
  · intro split
    refine ⟨?_, ?_, ?_⟩
    · apply String.toList_injective
      rw [String.toList_intercalate, split]
      exact (List.intercalate_splitOn ',').symm
    · rintro rfl
      exact List.splitOn_ne_nil _ _ split.symm
    · intro segment listed
      have part : segment.toList ∈ value.toList.splitOn ',' := split ▸ List.mem_map_of_mem listed
      exact not_mem_of_mem_splitOn part

/-- The empty entries at the end are those that go. -/
theorem dropTrailingEmpty_eq_iff {all kept : List (List Char)} :
    dropTrailingEmpty all = kept ↔
      (∃ empties, all = kept ++ List.replicate empties []) ∧ kept.getLast? ≠ some [] := by
  change all.rdropWhile List.isEmpty = kept ↔ _
  rw [rdropWhile_eq_iff]
  refine and_congr ⟨?_, ?_⟩ ⟨?_, ?_⟩
  · rintro ⟨dropped, rfl, empty⟩
    refine ⟨dropped.length, congrArg (kept ++ ·) (List.eq_replicate_iff.mpr ⟨rfl, ?_⟩)⟩
    exact fun entry listed => List.isEmpty_iff.mp (empty entry listed)
  · rintro ⟨empties, rfl⟩
    exact ⟨_, rfl, fun entry listed => List.isEmpty_iff.mpr (List.eq_of_mem_replicate listed)⟩
  · intro last empty
    exact absurd (last [] empty) (by simp)
  · intro last entry listed
    cases entry with
    | nil => exact absurd listed last
    | cons c rest => rfl

/-- The first places are kept. -/
theorem firsts_firsts (entries : List (List Char)) : Firsts entries (firsts entries) := by
  induction entries with
  | nil => exact Firsts.of_nodup List.nodup_nil
  | cons entry rest ih =>
      refine ⟨?_, ?_⟩
      · intro x
        by_cases same : x = entry <;> simp [firsts, ih.same, same]
      · -- The first entry stands at place zero, and the places of all others move up by one.
        have place {later : List Char} (other : later ≠ entry) :
            (entry :: rest).idxOf later = rest.idxOf later + 1 :=
          List.idxOf_cons_ne _ other.symm
        have others {later : List Char}
            (listed : later ∈ (firsts rest).filter fun later => later != entry) :
            later ≠ entry := by
          simpa using (List.mem_filter.mp listed).2
        rw [firsts, List.pairwise_cons]
        refine ⟨fun later listed => ?_, ?_⟩
        · rw [List.idxOf_cons_self, place (others listed)]
          exact Nat.succ_pos _
        · refine (ih.order.filter _).imp_of_mem fun first second before => ?_
          rw [place (others first), place (others second)]
          exact Nat.succ_lt_succ before

/-- A value is divided in one way only. -/
theorem Segments.unique {value : String} {segments others : List String}
    (one : Segments value segments) (other : Segments value others) : segments = others := by
  apply List.map_injective_iff.mpr (fun _ _ => String.toList_injective)
  exact (segments_iff.mp one).trans (segments_iff.mp other).symm

/-- The entries are found by trimming the segments. -/
theorem padded_iff {segments all : List String} :
    Padded segments all ↔ segments.map Text.trim = all := by
  have equal (first second : List String) :
      first = second ↔ List.Forall₂ (· = ·) first second := by
    rw [List.forall₂_eq_eq_eq]
  have trimmed (segment entry : String) :
      Text.Pads segment.toList entry.toList ↔ Text.trim segment = entry := by
    rw [Text.pads_iff, ← Text.toList_trim, String.toList_inj]
  rw [equal, List.forall₂_map_left_iff, Padded]
  simp only [trimmed]

/-- The entries of a value are its segments without the blanks around them. -/
theorem entries_eq {value : String} {segments : List String} (division : Segments value segments) :
    entries value = (segments.map Text.trim).map String.toList := by
  rw [entries, ← segments_iff.mp division, List.map_map, List.map_map]
  exact List.map_congr_left fun segment _ => (Text.toList_trim segment).symm

/-- An entry is empty or not whichever way it is written. -/
theorem getLast?_toList_iff {kept : List String} :
    (kept.map String.toList).getLast? ≠ some [] ↔ kept.getLast? ≠ some "" := by
  rw [List.getLast?_map, Ne, Ne, not_iff_not, Option.map_eq_some_iff]
  simp

/-- What is read from a value is what the value says, and the value says nothing else. -/
theorem names_eq_iff {value : String} {list : List String} :
    names value = list ↔ Listed value list := by
  have spelled (entries : List (List Char)) :
      (entries.map String.ofList).map String.toList = entries := by
    simp [Function.comp_def]
  -- The entries that are kept determine the list.
  have read (kept : List String)
      (same : dropTrailingEmpty (entries value) = kept.map String.toList) :
      Firsts kept (names value) := by
    have chars := firsts_firsts (dropTrailingEmpty (entries value))
    have strings := chars.map (f := String.ofList) fun _ _ => String.ofList_injective
    have unspelled : (kept.map String.toList).map String.ofList = kept := by
      simp [Function.comp_def]
    rwa [same, unspelled, ← same] at strings
  refine ⟨?_, ?_⟩
  · rintro rfl
    let segments := (value.toList.splitOn ',').map String.ofList
    let kept := (dropTrailingEmpty (entries value)).map String.ofList
    have division : Segments value segments := segments_iff.mpr (spelled _)
    have same : dropTrailingEmpty (entries value) = kept.map String.toList := (spelled _).symm
    obtain ⟨⟨empties, whole⟩, last⟩ := dropTrailingEmpty_eq_iff.mp same
    refine ⟨segments, kept, empties, division, padded_iff.mpr ?_,
      getLast?_toList_iff.mp last, read kept same⟩
    apply List.map_injective_iff.mpr (fun _ _ => String.toList_injective)
    rw [← entries_eq division, whole, List.map_append, List.map_replicate]
    rfl
  · rintro ⟨segments, kept, empties, division, pads, last, firsts⟩
    have whole := entries_eq division
    rw [padded_iff.mp pads, List.map_append, List.map_replicate] at whole
    exact (read kept (dropTrailingEmpty_eq_iff.mpr
      ⟨⟨empties, whole⟩, getLast?_toList_iff.mpr last⟩)).unique firsts

/-- Empty entries stand before other ones exactly if they do so among all entries, those at the
end included. -/
theorem mem_empty_iff {kept : List String} (last : kept.getLast? ≠ some "") (empties : Nat) :
    "" ∈ kept ↔
      ∃ name, ["", name].Sublist (kept ++ List.replicate empties "") ∧ name ≠ "" := by
  refine ⟨?_, ?_⟩
  · intro listed
    obtain ⟨earlier, later, rfl⟩ := List.append_of_mem listed
    have some : later ≠ [] := by
      rintro rfl
      simp at last
    refine ⟨later.getLast some, ?_, fun empty => last ?_⟩
    · refine List.Sublist.trans ?_ (List.sublist_append_left _ _)
      refine List.Sublist.trans ?_ (List.sublist_append_right _ _)
      exact List.Sublist.cons_cons _ (List.singleton_sublist.mpr (List.getLast_mem some))
    · rw [List.getLast?_append_cons, ← empty]
      rw [List.getLast?_cons, List.getLast?_eq_some_getLast some]
      rfl
  · rintro ⟨name, before, proper⟩
    obtain ⟨front, back, whole, inKept, inEmpties⟩ := List.sublist_append_iff.mp before
    cases front with
    | nil =>
        rw [List.nil_append] at whole
        have there : name ∈ back := whole ▸ List.mem_cons_of_mem _ List.mem_cons_self
        exact absurd (List.eq_of_mem_replicate (inEmpties.subset there)) proper
    | cons first rest =>
        obtain ⟨rfl, _⟩ := List.cons.inj whole
        exact inKept.subset List.mem_cons_self

/-- A list of proper names is what every text says that spells it. -/
theorem listed_of_proper {list segments tail : List String} (nodup : list.Nodup)
    (proper : ∀ name ∈ list, name ≠ "" ∧ ',' ∉ name.toList) (padded : Padded segments list)
    (blank : ∀ segment ∈ tail, Text.Blank segment.toList) (some : segments ++ tail ≠ []) :
    Listed (",".intercalate (segments ++ tail)) list := by
  have visible : Text.isBlank ',' = false := by decide
  have trimmed := padded_iff.mp padded
  refine ⟨segments ++ tail, list, tail.length, ⟨rfl, some, ?_⟩, padded_iff.mpr ?_, ?_,
    Firsts.of_nodup nodup⟩
  · intro segment listed
    rcases List.mem_append.mp listed with named | last
    · have there : Text.trim segment ∈ list := trimmed ▸ List.mem_map_of_mem named
      have pads := Text.pads_iff.mpr (Text.toList_trim segment).symm
      rw [pads.mem_iff visible]
      exact (proper _ there).2
    · intro comma
      rw [blank segment last ',' comma] at visible
      cases visible
  · rw [List.map_append, trimmed]
    refine congrArg _ (List.eq_replicate_iff.mpr ⟨List.length_map _, ?_⟩)
    intro entry listed
    obtain ⟨segment, last, rfl⟩ := List.mem_map.mp listed
    rw [Text.trim, Text.blank_iff.mp (blank segment last)]
  · intro empty
    exact (proper "" (List.mem_of_getLast? empty)).1 rfl

/-- What a value lists was one of its segments, apart from blanks around it. -/
theorem Listed.pads {value : String} {list : List String} (listed : Listed value list)
    {name : String} (there : name ∈ list) :
    ∃ segment : String, ',' ∉ segment.toList ∧ Text.Pads segment.toList name.toList := by
  obtain ⟨segments, kept, empties, division, padded, _, firsts⟩ := listed
  have among := List.mem_append_left (List.replicate empties "") ((firsts.same name).mp there)
  rw [← padded_iff.mp padded] at among
  obtain ⟨segment, one, rfl⟩ := List.mem_map.mp among
  exact ⟨segment, division.free segment one, Text.pads_iff.mpr (Text.toList_trim segment).symm⟩

/-- The empty name is listed exactly if a blank segment comes before one that is not blank. -/
theorem Listed.mem_empty_iff {value : String} {list segments : List String}
    (listed : Listed value list) (division : Segments value segments) :
    "" ∈ list ↔ ∃ blank named, [blank, named].Sublist segments ∧
      Text.Blank blank.toList ∧ ¬ Text.Blank named.toList := by
  obtain ⟨others, kept, empties, same, padded, last, firsts⟩ := listed
  have trimmed (segment : String) : Text.trim segment = "" ↔ Text.Blank segment.toList := by
    rw [Text.blank_iff, ← Text.toList_trim, String.toList_eq_nil_iff]
  rw [firsts.same, Property.mem_empty_iff last empties, ← padded_iff.mp padded,
    same.unique division]
  refine ⟨?_, ?_⟩
  · rintro ⟨name, before, proper⟩
    obtain ⟨pair, sublist, whole⟩ := List.sublist_map_iff.mp before
    obtain ⟨blank, rest, rfl, empty, others⟩ := List.map_eq_cons_iff.mp whole.symm
    obtain ⟨named, rfl, rfl⟩ := List.map_eq_singleton_iff.mp others
    exact ⟨blank, named, sublist, (trimmed blank).mp empty,
      fun nothing => proper ((trimmed named).mpr nothing)⟩
  · rintro ⟨blank, named, before, nothing, something⟩
    refine ⟨Text.trim named, ?_, fun empty => something ((trimmed named).mp empty)⟩
    have mapped := before.map Text.trim
    rwa [List.map_cons, (trimmed blank).mpr nothing] at mapped

/-- The format of lists of names. A value says one list, and that is what is read from it. The list
has no repetition, its names have no comma and no blank at an end, and the empty name is among them
exactly if a blank segment of the value comes before one that is not blank. A list of proper names
comes back from every text that spells it, with any blanks around the names and any number of blank
segments after them. So reading what was read once more, joined by commas, changes nothing as long
as the empty name is not in it. -/
theorem names_follow_format (value : String) :
    (∀ list, names value = list ↔ Listed value list) ∧
      (names value).Nodup ∧
      (∀ name ∈ names value, ',' ∉ name.toList ∧ Text.Trimmed name.toList) ∧
      (∀ segments, Segments value segments →
        ("" ∈ names value ↔ ∃ blank named, [blank, named].Sublist segments ∧
          Text.Blank blank.toList ∧ ¬ Text.Blank named.toList)) ∧
      (∀ list segments tail, list.Nodup → (∀ name ∈ list, name ≠ "" ∧ ',' ∉ name.toList) →
        Padded segments list → (∀ segment ∈ tail, Text.Blank segment.toList) →
        value = ",".intercalate (segments ++ tail) → names value = list) ∧
      ("" ∉ names value → names (",".intercalate (names value)) = names value) := by
  have listed : Listed value (names value) := names_eq_iff.mp rfl
  have distinct : (names value).Nodup := by
    obtain ⟨_, _, _, _, _, _, firsts⟩ := listed
    exact firsts.nodup
  have clean (name : String) (there : name ∈ names value) :
      ',' ∉ name.toList ∧ Text.Trimmed name.toList := by
    obtain ⟨segment, free, pads⟩ := listed.pads there
    exact ⟨(pads.mem_iff (by decide)).not.mp free, pads.1⟩
  have back (list segments tail : List String) (nodup : list.Nodup)
      (proper : ∀ name ∈ list, name ≠ "" ∧ ',' ∉ name.toList) (padded : Padded segments list)
      (blank : ∀ segment ∈ tail, Text.Blank segment.toList) :
      names (",".intercalate (segments ++ tail)) = list := by
    by_cases nothing : segments ++ tail = []
    · obtain ⟨rfl, rfl⟩ := List.append_eq_nil_iff.mp nothing
      rw [← padded_iff.mp padded]
      rfl
    · exact names_eq_iff.mpr (listed_of_proper nodup proper padded blank nothing)
  refine ⟨fun list => names_eq_iff, distinct, clean, fun segments => listed.mem_empty_iff, ?_, ?_⟩
  · intro list segments tail nodup proper padded blank spelled
    rw [spelled]
    exact back list segments tail nodup proper padded blank
  · intro proper
    have self : Padded (names value) (names value) :=
      List.forall₂_same.mpr fun name there => (clean name there).2.pads_self
    have read := back (names value) (names value) [] distinct
      (fun name there => ⟨fun empty => proper (empty ▸ there), (clean name there).1⟩) self
      (by simp)
    rwa [List.append_nil] at read

/-- Blanks of several kinds stand around two names, and two blank segments after them. -/
theorem names_follow_format_of_orders :
    let list := ["acme.Orders", "acme.Items"]
    let segments := [" acme.Orders\t", "\u2003acme.Items"]
    let tail := ["", "\u00a0"]
    list.Nodup ∧ (∀ name ∈ list, name ≠ "" ∧ ',' ∉ name.toList) ∧ Padded segments list ∧
      (∀ segment ∈ tail, Text.Blank segment.toList) ∧
      names " acme.Orders\t,\u2003acme.Items,,\u00a0" = list := by
  intro list segments tail
  have nodup : list.Nodup := by decide
  have proper : ∀ name ∈ list, name ≠ "" ∧ ',' ∉ name.toList := by decide
  have padded : Padded segments list := padded_iff.mpr (by decide)
  have blank : ∀ segment ∈ tail, Text.Blank segment.toList := by
    simp only [Text.blank_iff]
    decide
  refine ⟨nodup, proper, padded, blank, ?_⟩
  exact (names_follow_format _).2.2.2.2.1 list segments tail nodup proper padded blank rfl

/-- What does not come back: the second reading drops an empty name that the first one kept. -/
example : names "a,,a" = ["a", ""] ∧ names (",".intercalate ["a", ""]) = ["a"] := by
  decide

end Property

end BeanConstraints
