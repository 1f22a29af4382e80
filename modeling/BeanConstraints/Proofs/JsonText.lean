/-
# JSON texts are read back

One value has many texts: blanks may stand between all tokens. What a value may be
spelled like is said by a grammar here, with the escapes and digits that are printed,
and the reader makes of every such text the value that it spells. Both layouts of
the printer keep to the grammar, so whatever is printed is read back.

The reader counts its nested steps. A spelled item is read in at most two steps for
each of its characters, and the text of an array or object is longer than those of
its items by its brackets and commas, so the length of the text is always enough.
-/

import BeanConstraints.Proofs.JsonTokens
import Mathlib.Data.List.DropRight

namespace BeanConstraints.Json

/-- Nothing but blanks. -/
def Blank (cs : List Char) : Prop := ∀ c ∈ cs, isSpace c = true

theorem blank_nil : Blank [] := nofun

mutual

/-- What a value may be spelled like. -/
inductive Spells : Json → List Char → Prop where
  | null : Spells .null "null".toList
  | bool (b : Bool) : Spells (.bool b) (toString b).toList
  | integer (n : Int) : Spells (.integer n) (toString n).toList
  | string (s : String) : Spells (.string s) (stringLiteral s).toList
  | noItems : Spells (.array []) ['[', ']']
  | array {items cs} : SpellsItems items cs → Spells (.array items) ('[' :: (cs ++ [']']))
  | noMembers : Spells (.object []) ['\x7b', '\x7d']
  | object {members cs} :
      SpellsMembers members cs → Spells (.object members) ('\x7b' :: (cs ++ ['\x7d']))

/-- What stands between the brackets of an array. -/
inductive SpellsItems : List Json → List Char → Prop where
  | last {item before cs after} : Blank before → Spells item cs → Blank after →
      SpellsItems [item] (before ++ cs ++ after)
  | more {item before cs after rest others} : Blank before → Spells item cs → Blank after →
      SpellsItems rest others → SpellsItems (item :: rest) (before ++ cs ++ after ++ ',' :: others)

/-- What stands between the braces of an object. -/
inductive SpellsMembers : List (String × Json) → List Char → Prop where
  | last {key item before between cs after} : Blank before → Blank between → Spells item cs →
      Blank after →
      SpellsMembers [(key, item)]
        (before ++ (stringLiteral key).toList ++ ':' :: between ++ cs ++ after)
  | more {key item before between cs after rest others} : Blank before → Blank between →
      Spells item cs → Blank after → SpellsMembers rest others →
      SpellsMembers ((key, item) :: rest)
        (before ++ (stringLiteral key).toList ++ ':' :: between ++ cs ++ after ++ ',' :: others)

end

section

variable {cs rest : List Char} {fuel : Nat}

theorem skipSpace_append {blank : List Char} (h : Blank blank) (cs : List Char) :
    skipSpace (blank ++ cs) = skipSpace cs :=
  List.dropWhile_append_of_pos h

theorem skipSpace_cons {c : Char} (solid : isSpace c = false) (cs : List Char) :
    skipSpace (c :: cs) = c :: cs :=
  List.dropWhile_cons_of_neg (by simp [solid])

/-- A number ends before blanks and what may stand behind them. -/
theorem Ends.append {blank : List Char} (h : Blank blank) (ends : Ends rest) :
    Ends (blank ++ rest) := by
  cases blank with
  | nil => exact ends
  | cons c blank =>
      have space : isSpace c = true := h c List.mem_cons_self
      simp only [isSpace, Bool.or_eq_true, beq_iff_eq] at space
      rintro other ⟨⟩
      rcases space with ((rfl | rfl) | rfl) | rfl <;> decide

/-- Blanks in front of a value do not matter. -/
theorem value?_congr {other : List Char} (same : skipSpace cs = skipSpace other) (fuel : Nat) :
    value? fuel cs = value? fuel other := by
  cases fuel with
  | zero => rw [value?, value?]
  | succ fuel => rw [value?, value?, same]

theorem items?_congr {other : List Char} (same : skipSpace cs = skipSpace other) (fuel : Nat) :
    items? fuel cs = items? fuel other := by
  cases fuel with
  | zero => rw [items?, items?]
  | succ fuel => rw [items?, items?, value?_congr same]

theorem members?_congr {other : List Char} (same : skipSpace cs = skipSpace other) (fuel : Nat) :
    members? fuel cs = members? fuel other := by
  cases fuel with
  | zero => rw [members?, members?]
  | succ fuel => rw [members?, members?, same]

theorem skipSpace_skipSpace (cs : List Char) : skipSpace (skipSpace cs) = skipSpace cs :=
  List.dropWhile_idempotent isSpace cs

/-- Where items are read, the array is not closed yet. -/
theorem skipSpace_ne_of_items? {read : List Json × List Char} (items : items? fuel cs = some read)
    (tail : List Char) : skipSpace cs ≠ ']' :: tail := by
  intro closed
  have nothing : ∀ fuel, value? fuel cs = none := by
    intro fuel
    cases fuel with
    | zero => rfl
    | succ fuel => rw [value?, closed]; rfl
  cases fuel with
  | zero => cases items
  | succ fuel =>
      rw [items?, nothing] at items
      cases items

/-- Where members are read, the object is not closed yet. -/
theorem skipSpace_ne_of_members? {read : List (List Piece × Json) × List Char}
    (members : members? fuel cs = some read) (tail : List Char) :
    skipSpace cs ≠ '\x7d' :: tail := by
  intro closed
  cases fuel with
  | zero => cases members
  | succ fuel =>
      rw [members?, closed] at members
      cases members

/-- An array is read by its items. -/
theorem value?_array {items : List Json} (read : items? fuel cs = some (items, rest)) :
    value? (fuel + 1) ('[' :: cs) = some (array items, rest) := by
  rw [value?, skipSpace_cons rfl]
  simp only
  split
  · rename_i tail closed
    exact absurd closed (skipSpace_ne_of_items? read tail)
  · rw [items?_congr (skipSpace_skipSpace cs), read, Option.map_some]

/-- An object is read by its members. -/
theorem value?_object {members : List (List Piece × Json)}
    (read : members? fuel cs = some (members, rest)) :
    value? (fuel + 1) ('\x7b' :: cs) = some (ofMembers members, rest) := by
  rw [value?, skipSpace_cons rfl]
  simp only
  split
  · rename_i tail closed
    exact absurd closed (skipSpace_ne_of_members? read tail)
  · rw [members?_congr (skipSpace_skipSpace cs), read, Option.map_some]

/-- The item before the bracket is the last one. -/
theorem items?_last {item : Json} {after : List Char} (blank : Blank after)
    (first : value? fuel cs = some (item, after ++ ']' :: rest)) :
    items? (fuel + 1) cs = some ([item], rest) := by
  rw [items?, first]
  simp only [Option.bind_eq_bind, Option.bind_some, skipSpace_append blank]
  rfl

/-- More items follow the one before a comma. -/
theorem items?_more {item : Json} {items : List Json} {after others : List Char}
    (blank : Blank after) (first : value? fuel cs = some (item, after ++ ',' :: others))
    (read : items? fuel others = some (items, rest)) :
    items? (fuel + 1) cs = some (item :: items, rest) := by
  rw [items?, first]
  simp only [Option.bind_eq_bind, Option.bind_some, skipSpace_append blank]
  change (items? fuel others).bind _ = _
  rw [read]
  rfl

/-- A member that was read with its key in pieces. -/
def Names (read : List Piece × Json) (member : String × Json) : Prop :=
  join? read.1 = some member.1.toList ∧ read.2 = member.2

/-- Members whose keys denote something make an object. -/
theorem ofMembers_of_names {read : List (List Piece × Json)} {members : List (String × Json)}
    (names : List.Forall₂ Names read members) : ofMembers read = object members := by
  have named : (read.mapM fun entry =>
      (join? entry.1).map fun key => (String.ofList key, entry.2)) = some members := by
    induction names with
    | nil => rfl
    | @cons entry member read members first others ih =>
        obtain ⟨key, item⟩ := first
        rw [List.mapM_cons, ih, key, Option.map_some, String.ofList_toList, item]
        rfl
  unfold ofMembers
  rw [named]

/-- The member before the brace is the last one. -/
theorem members?_last (key : String) {item : Json} {before tail after : List Char}
    (front : Blank before) (back : Blank after)
    (first : value? fuel tail = some (item, after ++ '\x7d' :: rest)) :
    ∃ read, Names read (key, item) ∧
      members? (fuel + 1) (before ++ ((stringLiteral key).toList ++ ':' :: tail)) =
        some ([read], rest) := by
  obtain ⟨body, pieces, text, read, joined⟩ := pieces?_stringLiteral key (':' :: tail)
  refine ⟨(pieces, item), ⟨joined, rfl⟩, ?_⟩
  have colon : skipSpace (':' :: tail) = ':' :: tail := skipSpace_cons rfl tail
  rw [members?, skipSpace_append front, text, skipSpace_cons rfl]
  simp only [read, colon, first, Option.bind_eq_bind, Option.bind_some, skipSpace_append back]
  rfl

/-- More members follow the one before a comma. -/
theorem members?_more (key : String) {item : Json} {members : List (List Piece × Json)}
    {before tail after others : List Char} (front : Blank before) (back : Blank after)
    (first : value? fuel tail = some (item, after ++ ',' :: others))
    (later : members? fuel others = some (members, rest)) :
    ∃ read, Names read (key, item) ∧
      members? (fuel + 1) (before ++ ((stringLiteral key).toList ++ ':' :: tail)) =
        some (read :: members, rest) := by
  obtain ⟨body, pieces, text, read, joined⟩ := pieces?_stringLiteral key (':' :: tail)
  refine ⟨(pieces, item), ⟨joined, rfl⟩, ?_⟩
  have colon : skipSpace (':' :: tail) = ':' :: tail := skipSpace_cons rfl tail
  rw [members?, skipSpace_append front, text, skipSpace_cons rfl]
  simp only [read, colon, first, Option.bind_eq_bind, Option.bind_some, skipSpace_append back]
  change (members? fuel others).bind _ = _
  rw [later]
  rfl

/-- A value is read between blanks. -/
theorem value?_padded {item : Json} {before after : List Char} (front : Blank before)
    (back : Blank after) (ends : Ends rest)
    (read : ∀ {rest}, Ends rest → value? fuel (cs ++ rest) = some (item, rest)) :
    value? fuel (before ++ (cs ++ (after ++ rest))) = some (item, after ++ rest) := by
  rw [value?_congr (skipSpace_append front _)]
  exact read (ends.append back)

/-- An integer is told from all other values by how it begins. -/
theorem value?_toString (n : Int) (ends : Ends rest) :
    value? (fuel + 1) ((toString n).toList ++ rest) = some (integer n, rest) := by
  have read := number?_toString n ends
  obtain ⟨c, tail, text, begins⟩ := exists_head_toString n
  rw [text, List.cons_append] at read ⊢
  -- No blank and no other kind of value begins with a sign or a digit.
  have apart (other : Char) (minus : other ≠ '-') (letter : other.isDigit = false) :
      c ≠ other := by
    rintro rfl
    rcases begins with same | digit
    · exact minus same
    · exact absurd digit (by simp [letter])
  have solid : isSpace c = false := by
    simp [isSpace, apart ' ', apart '\t', apart '\n', apart '\r']
  rw [value?, skipSpace_cons solid]
  split
  case h_7 => exact read
  all_goals
    rename_i same
    exact absurd (List.cons.inj same).1 (apart _ (by decide) (by decide))

end

mutual

/-- A value is read from whatever spells it. -/
theorem value?_of_spells {value : Json} {cs : List Char} (spells : Spells value cs) {fuel : Nat}
    {rest : List Char} (enough : 2 * cs.length < fuel) (ends : Ends rest) :
    value? fuel (cs ++ rest) = some (value, rest) := by
  obtain ⟨fuel, rfl⟩ : ∃ less, fuel = less + 1 := ⟨fuel - 1, by omega⟩
  cases spells with
  | null => rfl
  | bool b => cases b <;> rfl
  | integer n => exact value?_toString n ends
  | string s =>
      obtain ⟨body, pieces, text, read, joined⟩ := pieces?_stringLiteral s rest
      rw [text, value?, skipSpace_cons rfl]
      simp only [read, Option.map_some, ofPieces, joined, String.ofList_toList]
  | noItems => rfl
  | @array items cs inside =>
      have short : 2 * cs.length + 1 < fuel := by
        simp only [List.length_cons, List.length_append] at enough
        omega
      rw [List.cons_append, List.append_assoc]
      exact value?_array (items?_of_spells inside short)
  | noMembers => rfl
  | @object members cs inside =>
      have short : 2 * cs.length + 1 < fuel := by
        simp only [List.length_cons, List.length_append] at enough
        omega
      obtain ⟨named, names, read⟩ := members?_of_spells inside short
      rw [List.cons_append, List.append_assoc, ← ofMembers_of_names names]
      exact value?_object read

/-- Items are read up to the bracket. -/
theorem items?_of_spells {items : List Json} {cs : List Char} (spells : SpellsItems items cs)
    {fuel : Nat} {rest : List Char} (enough : 2 * cs.length + 1 < fuel) :
    items? fuel (cs ++ ']' :: rest) = some (items, rest) := by
  obtain ⟨fuel, rfl⟩ : ∃ less, fuel = less + 1 := ⟨fuel - 1, by omega⟩
  cases spells with
  | last front item back =>
      simp only [List.length_append] at enough
      simp only [List.append_assoc]
      exact items?_last back (value?_padded front back (ends_cons (by decide))
        (value?_of_spells item (by omega)))
  | more front item back later =>
      simp only [List.length_append, List.length_cons] at enough
      simp only [List.append_assoc, List.cons_append]
      exact items?_more back (value?_padded front back (ends_cons (by decide))
        (value?_of_spells item (by omega))) (items?_of_spells later (by omega))

/-- Members are read up to the brace. -/
theorem members?_of_spells {members : List (String × Json)} {cs : List Char}
    (spells : SpellsMembers members cs) {fuel : Nat} {rest : List Char}
    (enough : 2 * cs.length + 1 < fuel) :
    ∃ read, List.Forall₂ Names read members ∧
      members? fuel (cs ++ '\x7d' :: rest) = some (read, rest) := by
  obtain ⟨fuel, rfl⟩ : ∃ less, fuel = less + 1 := ⟨fuel - 1, by omega⟩
  cases spells with
  | @last key item before between cs after front gap spells back =>
      simp only [List.length_append, List.length_cons] at enough
      simp only [List.append_assoc, List.cons_append]
      have first : value? fuel (between ++ (cs ++ (after ++ '\x7d' :: rest))) =
          some (item, after ++ '\x7d' :: rest) :=
        value?_padded gap back (ends_cons (by decide)) (value?_of_spells spells (by omega))
      obtain ⟨entry, names, read⟩ := members?_last key front back first
      exact ⟨[entry], .cons names .nil, read⟩
  | @more key item before between cs after members others front gap spells back later =>
      simp only [List.length_append, List.length_cons] at enough
      simp only [List.append_assoc, List.cons_append]
      have first : value? fuel (between ++ (cs ++ (after ++ ',' :: (others ++ '\x7d' :: rest)))) =
          some (item, after ++ ',' :: (others ++ '\x7d' :: rest)) :=
        value?_padded gap back (ends_cons (by decide)) (value?_of_spells spells (by omega))
      have short : 2 * others.length + 1 < fuel := by omega
      obtain ⟨entries, named, second⟩ := members?_of_spells later short
      obtain ⟨entry, names, read⟩ := members?_more key front back first second
      exact ⟨entry :: entries, .cons names named, read⟩

end

/-- The length of a text is enough to read it, blanks around it included. -/
theorem read?_of_spells {value : Json} {text : String} {before cs after : List Char}
    (spells : Spells value cs) (front : Blank before) (back : Blank after)
    (same : text.toList = before ++ (cs ++ after)) : read? text = some value := by
  have enough : 2 * cs.length < 2 * text.toList.length + 2 := by
    rw [same]
    simp only [List.length_append]
    omega
  have read : value? (2 * text.toList.length + 2) text.toList = some (value, after) := by
    have padded := value?_padded front back ends_nil (value?_of_spells spells enough)
    rwa [List.append_nil, ← same] at padded
  have nothing : skipSpace after = [] := by
    rw [← List.append_nil after, skipSpace_append back]
    rfl
  unfold read?
  simp only [read, nothing, List.isEmpty_nil, if_true]

section

variable {front back between : List Char} (write : Json → List Char)

/-- Items that are spelled, with blanks in front of each and behind the last. -/
theorem spellsItems_intercalate (before : Blank front) (after : Blank back) {items : List Json}
    (filled : items ≠ []) (spells : ∀ item ∈ items, Spells item (write item)) :
    SpellsItems items ([','].intercalate (items.map fun item => front ++ write item) ++ back) := by
  induction items with
  | nil => exact absurd rfl filled
  | cons item rest ih =>
      have first := spells item List.mem_cons_self
      cases rest with
      | nil =>
          rw [List.map_singleton, List.intercalate_singleton]
          exact .last before first after
      | cons next rest =>
          have later := ih (List.cons_ne_nil next rest) fun other within =>
            spells other (List.mem_cons_of_mem item within)
          simpa only [List.map_cons, List.intercalate_cons_cons, List.append_assoc,
            List.singleton_append, List.nil_append, List.cons_append] using
            SpellsItems.more before first blank_nil later

/-- Members that are spelled, with blanks in front of each, behind each colon, and behind the
last. -/
theorem spellsMembers_intercalate (before : Blank front) (gap : Blank between) (after : Blank back)
    {members : List (String × Json)} (filled : members ≠ [])
    (spells : ∀ member ∈ members, Spells member.2 (write member.2)) :
    SpellsMembers members ([','].intercalate (members.map fun member =>
      front ++ (stringLiteral member.1).toList ++ ':' :: between ++ write member.2) ++ back) := by
  induction members with
  | nil => exact absurd rfl filled
  | cons member rest ih =>
      have first := spells member List.mem_cons_self
      cases rest with
      | nil =>
          rw [List.map_singleton, List.intercalate_singleton]
          exact .last before gap first after
      | cons next rest =>
          have later := ih (List.cons_ne_nil next rest) fun other within =>
            spells other (List.mem_cons_of_mem member within)
          simpa only [List.map_cons, List.intercalate_cons_cons, List.append_assoc,
            List.singleton_append, List.nil_append, List.cons_append] using
            SpellsMembers.more before gap first blank_nil later

end

/-- Both layouts of a value spell it. -/
structure Written (value : Json) : Prop where
  compact : Spells value value.compact.toList
  indented : ∀ depth, Spells value (indented depth value).toList

theorem compactItems_eq (items : List Json) : compactItems items = items.map compact := by
  induction items with
  | nil => rfl
  | cons item rest ih => rw [compactItems, ih, List.map_cons]

theorem compactMembers_eq (members : List (String × Json)) :
    compactMembers members =
      members.map fun member => stringLiteral member.1 ++ ":" ++ compact member.2 := by
  induction members with
  | nil => rfl
  | cons member rest ih => rw [compactMembers, ih, List.map_cons]

theorem indentedItems_eq (depth : Nat) (items : List Json) :
    indentedItems depth items = items.map fun item => newline depth ++ indented depth item := by
  induction items with
  | nil => rfl
  | cons item rest ih => rw [indentedItems, ih, List.map_cons]

theorem indentedMembers_eq (depth : Nat) (members : List (String × Json)) :
    indentedMembers depth members = members.map fun member =>
      newline depth ++ stringLiteral member.1 ++ ": " ++ indented depth member.2 := by
  induction members with
  | nil => rfl
  | cons member rest ih => rw [indentedMembers, ih, List.map_cons]

theorem blank_newline (depth : Nat) : Blank (newline depth).toList := by
  intro c within
  rw [newline, String.toList_ofList] at within
  rcases List.mem_cons.mp within with rfl | within
  · rfl
  · rw [List.eq_of_mem_replicate within]
    rfl

namespace Written

theorem null : Written .null where
  compact := .null
  indented _ := by rw [Json.indented]; exact .null

theorem bool (b : Bool) : Written (.bool b) where
  compact := by cases b <;> exact .bool _
  indented depth := by cases b <;> exact .bool _

theorem integer (n : Int) : Written (.integer n) where
  compact := by rw [Json.compact]; exact .integer n
  indented depth := by rw [Json.indented]; exact .integer n

theorem string (s : String) : Written (.string s) where
  compact := by rw [Json.compact]; exact .string s
  indented depth := by rw [Json.indented]; exact .string s

/-- An array is spelled in both layouts if its items are. -/
theorem array {items : List Json} (written : ∀ item ∈ items, Written item) :
    Written (.array items) := by
  cases items with
  | nil => exact ⟨.noItems, fun _ => by rw [Json.indented]; exact .noItems⟩
  | cons item rest =>
      have filled := List.cons_ne_nil item rest
      refine ⟨?_, fun depth => ?_⟩
      · have inside := spellsItems_intercalate (fun item => item.compact.toList) blank_nil blank_nil
          filled fun item within => (written item within).compact
        rw [List.append_nil] at inside
        rw [Json.compact, compactItems_eq]
        simp only [String.toList_append, String.toList_intercalate, List.map_map]
        exact .array inside
      · have inside := spellsItems_intercalate (fun item => (item.indented (depth + 1)).toList)
          (blank_newline (depth + 1)) (blank_newline depth) filled
          fun item within => (written item within).indented (depth + 1)
        rw [Json.indented, indentedItems_eq]
        simp only [String.toList_append, String.toList_intercalate, List.map_map,
          Function.comp_def]
        exact .array inside

/-- An object is spelled in both layouts if the values of its members are. -/
theorem object {members : List (String × Json)} (written : ∀ member ∈ members, Written member.2) :
    Written (.object members) := by
  cases members with
  | nil => exact ⟨.noMembers, fun _ => by rw [Json.indented]; exact .noMembers⟩
  | cons member rest =>
      have filled := List.cons_ne_nil member rest
      refine ⟨?_, fun depth => ?_⟩
      · have inside := spellsMembers_intercalate (fun item => item.compact.toList) blank_nil
          blank_nil blank_nil filled fun member within => (written member within).compact
        rw [List.append_nil] at inside
        rw [Json.compact, compactMembers_eq]
        simp only [String.toList_append, String.toList_intercalate, List.map_map,
          Function.comp_def, List.append_assoc, List.cons_append, List.nil_append] at inside ⊢
        exact .object inside
      · have space : Blank [' '] := by
          intro c within
          rw [List.mem_singleton.mp within]
          rfl
        have inside := spellsMembers_intercalate (fun item => (item.indented (depth + 1)).toList)
          (blank_newline (depth + 1)) space (blank_newline depth) filled
          fun member within => (written member within).indented (depth + 1)
        rw [Json.indented, indentedMembers_eq]
        simp only [String.toList_append, String.toList_intercalate, List.map_map,
          Function.comp_def, List.append_assoc] at inside ⊢
        have all := Spells.object inside
        rw [List.append_assoc] at all
        exact all

/-- Whatever is written is read back, in both layouts. -/
theorem read? {value : Json} (written : Written value) :
    Json.read? value.compact = some value ∧ Json.read? value.pretty = some value := by
  have whole (text : List Char) : text = [] ++ (text ++ []) := (List.append_nil text).symm
  exact ⟨read?_of_spells written.compact blank_nil blank_nil (whole _),
    read?_of_spells (written.indented 0) blank_nil blank_nil (whole _)⟩

end Written

end BeanConstraints.Json
