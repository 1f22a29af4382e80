/-
# Interned names at once

Callers that intern names at the same time take turns: each looks for its name, and if
it misses, it claims the name, which keeps the text unless somebody has done so since
the look. In whatever order the turns come, a name is kept once, at one place, for
everybody. Places can therefore stand for names: equality and hashes, which see the
place only, and the order, which sees the name only, tell the same things apart, and so
do a map by hash and a map in order.

What carries this is that a pool is sound: its entries differ in their names and in
their tickets as well. The second look is what keeps it so.
-/

import BeanConstraints.Constraint.Interner
import BeanConstraints.Proofs.Table
import BeanConstraints.Proofs.Turns
import Std.Data.HashMap.Lemmas
import Std.Data.HashSet.Lemmas

namespace BeanConstraints.Constraint

namespace Interned

/-- The order is that of the names. -/
theorem compare_eq_eq_iff {first second : Interned} :
    compare first second = .eq ↔ first.name = second.name := by
  change compare first.name second.name = .eq ↔ _
  exact Std.LawfulEqCmp.compare_eq_iff_eq

end Interned

namespace Pool

/-- A pool in which names and places determine each other. -/
structure Sound (pool : Pool) : Prop where
  nodup : (pool.kept.map Interned.name).Nodup
  /-- Tickets are those given out so far. -/
  given : ∀ interned ∈ pool.kept, interned.ticket < pool.next
  /-- The ticket of the empty text is for the empty text. -/
  empty : ∀ interned ∈ pool.kept, interned.ticket = 0 ↔ interned.name = ""
  next : 0 < pool.next
  /-- Entries at one place are one entry. -/
  apart : ∀ first ∈ pool.kept, ∀ second ∈ pool.kept,
    first.ticket = second.ticket → first = second

theorem sound_empty : Sound empty where
  nodup := .nil
  given := nofun
  empty := nofun
  next := Nat.one_pos
  apart := nofun

variable {pool : Pool} {name : String} {interned : Interned}

/-- What is found is kept, and under the name that was looked for. -/
theorem of_find? (found : pool.find? name = some interned) :
    interned ∈ pool.kept ∧ interned.name = name :=
  ⟨List.mem_of_find?_eq_some found, by simpa using List.find?_some found⟩

/-- A name that is not found is not kept. -/
theorem ne_of_find? (missing : pool.find? name = none) (there : interned ∈ pool.kept) :
    interned.name ≠ name := by
  simpa using List.find?_eq_none.mp missing interned there

/-- One entry more. -/
theorem kept_keep : (pool.keep name).1.kept = pool.kept ++ [(pool.keep name).2] := by
  unfold keep
  split <;> rfl

theorem mem_keep :
    interned ∈ (pool.keep name).1.kept ↔ interned ∈ pool.kept ∨ interned = (pool.keep name).2 := by
  rw [kept_keep, List.mem_append, List.mem_singleton]

theorem name_keep : (pool.keep name).2.name = name := by
  unfold keep
  split <;> rfl

/-- The new entry gets a ticket of its own. -/
theorem ticket_keep (pool : Pool) (name : String) :
    name = "" ∧ (pool.keep name).2.ticket = 0 ∧ (pool.keep name).1.next = pool.next ∨
      name ≠ "" ∧ (pool.keep name).2.ticket = pool.next ∧
        (pool.keep name).1.next = pool.next + 1 := by
  unfold keep
  split
  · rename_i blank
    exact .inl ⟨String.isEmpty_iff.mp blank, rfl, rfl⟩
  · rename_i filled
    exact .inr ⟨fun blank => filled (String.isEmpty_iff.mpr blank), rfl, rfl⟩

/-- Keeping a name that was missing leaves a pool sound. -/
theorem Sound.keep (sound : pool.Sound) (missing : pool.find? name = none) :
    (pool.keep name).1.Sound := by
  have positive := sound.next
  have fresh : ∀ interned ∈ pool.kept, interned.ticket ≠ (pool.keep name).2.ticket := by
    intro interned there same
    rcases ticket_keep pool name with ⟨blank, ticket, -⟩ | ⟨-, ticket, -⟩
    · have named := (sound.empty interned there).mp (same.trans ticket)
      exact ne_of_find? missing there (named.trans blank.symm)
    · have before := sound.given interned there
      omega
  refine ⟨?nodup, ?given, ?empty, ?next, ?apart⟩
  case nodup =>
    rw [kept_keep, List.map_append, List.map_singleton, name_keep]
    refine sound.nodup.append (List.nodup_singleton name) ?_
    rw [List.disjoint_singleton, List.mem_map]
    rintro ⟨interned, there, named⟩
    exact ne_of_find? missing there named
  case given =>
    intro interned there
    have before : interned ∈ pool.kept → interned.ticket < pool.next := sound.given interned
    rcases ticket_keep pool name with ⟨-, ticket, next⟩ | ⟨-, ticket, next⟩ <;>
      rcases mem_keep.mp there with there | rfl <;> grind
  case empty =>
    intro interned there
    rcases mem_keep.mp there with there | rfl
    · exact sound.empty interned there
    · rw [name_keep]
      rcases ticket_keep pool name with ⟨blank, ticket, -⟩ | ⟨filled, ticket, -⟩
      · exact iff_of_true ticket blank
      · exact iff_of_false (by omega) filled
  case next =>
    rcases ticket_keep pool name with ⟨-, -, next⟩ | ⟨-, -, next⟩ <;> omega
  case apart =>
    intro first one second other same
    rcases mem_keep.mp one with one | rfl <;> rcases mem_keep.mp other with other | rfl
    · exact sound.apart first one second other same
    · exact absurd same (fresh first one)
    · exact absurd same.symm (fresh second other)
    · rfl

/-- Entries of a sound pool are equal if their places are, and also if their names are. -/
theorem Sound.beq_iff (sound : pool.Sound) {first second : Interned} (one : first ∈ pool.kept)
    (other : second ∈ pool.kept) : (first == second) = true ↔ first.name = second.name := by
  rw [Interned.beq_iff]
  refine ⟨?_, ?_⟩
  · rintro ⟨place, -⟩
    rw [sound.apart first one second other place]
  · intro named
    rw [List.inj_on_of_nodup_map sound.nodup one other named]
    exact ⟨rfl, rfl⟩

/-- A claim answers from the pool, or else keeps the name that was missing. -/
theorem claim_cases {motive : Pool × Interned → Prop}
    (found : ∀ interned, pool.find? name = some interned → motive (pool, interned))
    (missing : pool.find? name = none → motive (pool.keep name)) :
    motive (pool.claim name) := by
  unfold claim
  split
  · rename_i interned there
    exact found interned there
  · rename_i none
    exact missing none

end Pool

/-- The two steps of interning. -/
def interning : TwoStep Pool String Interned where
  look := Pool.find?
  claim := Pool.claim

/-- Callers at work on a pool. -/
abbrev Interning (ι : Type) := Race ι Pool Interned

namespace Interning

variable {ι : Type}

/-- Some caller was given it. -/
def Gives (race : Interning ι) (interned : Interned) : Prop :=
  ∃ caller, race.answer? caller = some interned

/-- What is true of callers at work on a pool that was empty before them. -/
structure Settled (names : ι → String) (race : Interning ι) : Prop where
  sound : race.shared.Sound
  /-- Whoever has an answer was given the name it asked for, as it is kept. -/
  named : ∀ caller interned, race.answer? caller = some interned →
    interned ∈ race.shared.kept ∧ interned.name = names caller
  /-- Nothing is kept that nobody was given. -/
  asked : ∀ interned ∈ race.shared.kept, race.Gives interned

theorem settled_start (names : ι → String) :
    Settled names (Race.start Pool.empty : Interning ι) where
  sound := Pool.sound_empty
  named := nofun
  asked := nofun

variable [DecidableEq ι] {names : ι → String} {race : Interning ι} {caller : ι}

/-- A caller that misses changes nothing that counts. -/
theorem Settled.of_missed (settled : Settled names race) (waiting : race.answer? caller = none) :
    Settled names (race.advance race.shared caller .missed) := by
  have answers (other : ι) :
      (race.advance race.shared caller .missed).answer? other = race.answer? other := by
    rw [Race.answer?_advance]
    split
    · rename_i same
      rw [same, waiting]
      rfl
    · rfl
  refine ⟨settled.sound, ?_, ?_⟩
  · intro other interned given
    exact settled.named other interned (answers other ▸ given)
  · intro interned there
    obtain ⟨other, given⟩ := settled.asked interned there
    exact ⟨other, (answers other).trans given⟩

/-- A caller may be given its name from a sound pool that has at most this one entry more. -/
theorem Settled.of_answered (settled : Settled names race) (waiting : race.answer? caller = none)
    {shared : Pool} {given : Interned} (sound : shared.Sound) (named : given.name = names caller)
    (kept : ∀ interned, interned ∈ shared.kept ↔ interned ∈ race.shared.kept ∨ interned = given) :
    Settled names (race.advance shared caller (.answered given)) := by
  refine ⟨sound, ?_, ?_⟩
  · intro other interned got
    rw [Race.answer?_advance] at got
    split at got
    · rename_i same
      cases got
      exact ⟨(kept _).mpr (.inr rfl), same ▸ named⟩
    · obtain ⟨there, named⟩ := settled.named other interned got
      exact ⟨(kept interned).mpr (.inl there), named⟩
  · intro interned there
    rcases (kept interned).mp there with there | rfl
    · obtain ⟨other, got⟩ := settled.asked interned there
      have apart : other ≠ caller := by
        rintro rfl
        rw [waiting] at got
        cases got
      exact ⟨other, by rw [Race.answer?_advance, if_neg apart, got]⟩
    · exact ⟨caller, by rw [Race.answer?_advance, if_pos rfl]; rfl⟩

/-- Being given what is found leaves the pool as it is. -/
theorem Settled.of_found (settled : Settled names race) (waiting : race.answer? caller = none)
    {interned : Interned} (found : race.shared.find? (names caller) = some interned) :
    Settled names (race.advance race.shared caller (.answered interned)) := by
  obtain ⟨there, named⟩ := Pool.of_find? found
  refine settled.of_answered waiting settled.sound named fun other => ?_
  rw [or_iff_left_of_imp]
  rintro rfl
  exact there

/-- Whoever has the turn, things stay settled. -/
theorem Settled.turn (settled : Settled names race) (caller : ι) :
    Settled names (race.turn interning names caller) := by
  apply Race.turn_cases (motive := Settled names) caller
  · intro interned here found
    exact settled.of_found (by rw [Race.answer?, here]; rfl) found
  · intro here _
    exact settled.of_missed (by rw [Race.answer?, here]; rfl)
  · intro here
    have waiting : race.answer? caller = none := by rw [Race.answer?, here]; rfl
    -- Somebody else may have kept the name since the look.
    apply Pool.claim_cases
      (motive := fun claimed => Settled names (race.advance claimed.1 caller (.answered claimed.2)))
    · intro interned found
      exact settled.of_found waiting found
    · intro missing
      exact settled.of_answered waiting (settled.sound.keep missing) Pool.name_keep
        fun _ => Pool.mem_keep
  · intro _ _
    exact settled

theorem settled_run (names : ι → String) (turns : List ι) :
    Settled names ((Race.start Pool.empty : Interning ι).run interning names turns) :=
  Race.run_induction (settled_start names) fun _ caller settled => settled.turn caller

/-- A caller that has both turns to itself gets what interning in one go gives. -/
theorem run_alone (names : ι → String) (pool : Pool) (caller : ι) :
    let race := (Race.start pool : Interning ι).run interning names [caller, caller]
    race.shared = (pool.intern (names caller)).1 ∧
      race.answer? caller = some (pool.intern (names caller)).2 := by
  have both : interning.ask pool (names caller) = pool.intern (names caller) := by
    unfold TwoStep.ask Pool.intern
    cases found : pool.find? (names caller) <;> simp only [interning, found]
  rw [← both]
  exact Race.start_run_twice pool caller

end Interning

/-- A map by hash into which entries were put one after the other. -/
def hashed {α : Type} (entries : List (Interned × α)) : Std.HashMap Interned α :=
  entries.foldl (fun map entry => map.insert entry.1 entry.2) ∅

/-- On entries of a sound pool, looking up by hash and looking up in order come to the same. -/
theorem getElem?_hashed {pool : Pool} (sound : pool.Sound) {α : Type}
    {entries : List (Interned × α)} (known : ∀ entry ∈ entries, entry.1 ∈ pool.kept)
    {key : Interned} (there : key ∈ pool.kept) :
    (hashed entries)[key]? = (Table.ofList entries).get? key := by
  induction entries using List.reverseRecOn with
  | nil => exact Std.HashMap.getElem?_empty
  | append_singleton earlier entry ih =>
      have last := known entry (List.mem_append_right earlier (List.mem_singleton_self entry))
      have before := ih fun other within => known other (List.mem_append_left _ within)
      have alike : (entry.1 == key) = true ↔ compare key entry.1 = .eq := by
        rw [sound.beq_iff last there, Interned.compare_eq_eq_iff, eq_comm]
      rw [hashed, Table.ofList, Table.insertAll, List.foldl_append, List.foldl_append]
      change ((hashed earlier).insert entry.1 entry.2)[key]? =
        ((Table.ofList earlier).insert entry.1 entry.2).get? key
      rw [Std.HashMap.getElem?_insert, Table.get?_insert, before]
      exact if_congr alike rfl rfl

/-- On entries of a sound pool, what was seen by hash was seen by name. -/
theorem contains_ofList {pool : Pool} (sound : pool.Sound) {seen : List Interned}
    (known : ∀ interned ∈ seen, interned ∈ pool.kept) {key : Interned} (there : key ∈ pool.kept) :
    (Std.HashSet.ofList seen).contains key =
      (seen.map Interned.constraint).contains key.constraint := by
  rw [Std.HashSet.contains_ofList, Bool.eq_iff_iff, List.contains_iff_exists_mem_beq,
    List.contains_iff_mem, List.mem_map]
  refine exists_congr fun interned => and_congr_right fun within => ?_
  rw [sound.beq_iff there (known interned within)]
  exact ⟨fun named => congrArg Constraint.mk named.symm,
    fun same => (congrArg Constraint.name same).symm⟩

/-- In whatever order the turns come, whoever has two of them is given its name. What callers were
given is equal exactly if the names are, hashes alike then, and stands in the order of the names,
which is total and takes exactly the equal ones for equal. So a map by hash answers like a map in
order that went through the same insertions, and a set by hash knows what a list of constraints
knows. Each name that was given out is kept, and kept once. -/
theorem interned_by_name {ι : Type} [DecidableEq ι] (names : ι → String) (turns : List ι) :
    let race : Interning ι := (Race.start Pool.empty).run interning names turns
    (∀ caller, 2 ≤ turns.count caller → (race.answer? caller).isSome = true) ∧
    (∀ caller interned, race.answer? caller = some interned → interned.name = names caller) ∧
    (∀ first second, race.Gives first → race.Gives second →
      ((first == second) = true ↔ first.name = second.name) ∧
      ((first == second) = true → hash first = hash second) ∧
      compare first second = compare first.name second.name ∧
      (compare first second = .eq ↔ (first == second) = true)) ∧
    Std.TransOrd Interned ∧
    (∀ {α : Type} (entries : List (Interned × α)) (key : Interned),
      (∀ entry ∈ entries, race.Gives entry.1) → race.Gives key →
      (hashed entries)[key]? = (Table.ofList entries).get? key) ∧
    (∀ (seen : List Interned) (key : Interned),
      (∀ interned ∈ seen, race.Gives interned) → race.Gives key →
      (Std.HashSet.ofList seen).contains key =
        (seen.map Interned.constraint).contains key.constraint) ∧
    (race.shared.kept.map Interned.name).Nodup ∧
    ∀ interned, interned ∈ race.shared.kept ↔ race.Gives interned := by
  intro race
  have settled : Interning.Settled names race := Interning.settled_run names turns
  have kept {interned : Interned} (given : race.Gives interned) :
      interned ∈ race.shared.kept := by
    obtain ⟨caller, got⟩ := given
    exact (settled.named caller interned got).1
  refine ⟨?_, ?_, ?_, inferInstance, ?_, ?_, settled.sound.nodup, ?_⟩
  · intro caller twice
    exact Race.isSome_answer?_run twice
  · intro caller interned got
    exact (settled.named caller interned got).2
  · intro first second one other
    have alike := settled.sound.beq_iff (kept one) (kept other)
    refine ⟨alike, LawfulHashable.hash_eq first second, rfl, ?_⟩
    rw [alike, Interned.compare_eq_eq_iff]
  · intro α entries key known there
    exact getElem?_hashed settled.sound (fun entry within => kept (known entry within)) (kept there)
  · intro seen key known there
    exact contains_ofList settled.sound (fun other within => kept (known other within)) (kept there)
  · intro interned
    exact ⟨settled.asked interned, kept⟩

/-- Two callers miss the same name, and the one that claims it later is given what the first one
kept. The empty name of the third has a place of its own. -/
example :
    let race := (Race.start Pool.empty : Interning (Fin 3)).run interning
      (fun caller => if caller = 2 then "" else "acme.Size") [0, 1, 2, 1, 0, 2]
    race.answer? 0 = some ⟨1, "acme.Size"⟩ ∧ race.answer? 1 = some ⟨1, "acme.Size"⟩ ∧
      race.answer? 2 = some ⟨0, ""⟩ := by
  decide

end BeanConstraints.Constraint
