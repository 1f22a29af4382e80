/-
# Names of parameters and return values

A parameter is named by its method and, after a dot, by what the provider calls it; where the
provider has too few names, the position takes their place. The standard provider names by
position as well, so whether it has enough names does not show. It cannot make a list of names
that is longer than memory can be, and crashes instead.

What follows the last dot of such a name is a position or stands for the return value, and
has no dot of its own. So the name says which method it is about, whatever the method is
called, and which parameter.
-/

import BeanConstraints.Proofs.Bean

namespace BeanConstraints

/-- What a constraint on a call is about: the method, and the position of the parameter unless it
is the return value. -/
def Element.site? : Element → Option (String × Option Nat)
  | parameter method index _ => some (method, some index)
  | returnValue method => some (method, none)
  | _ => none

namespace Metadata

section

/-- What follows the last dot in the name of a site, if parameters are named by position. -/
def sitePart : Option Nat → String
  | some index => ParameterNaming.positional index
  | none => "<return value>"

theorem toList_positional (index : Nat) :
    (ParameterNaming.positional index).toList = 'a' :: 'r' :: 'g' :: Nat.toDigits 10 index := by
  rw [← Nat.toList_repr]
  exact String.toList_append

theorem dot_not_mem_sitePart (part : Option Nat) : '.' ∉ (sitePart part).toList := by
  cases part with
  | none => decide
  | some index =>
      rw [sitePart, toList_positional]
      have digits : '.' ∉ Nat.toDigits 10 index := fun within =>
        absurd (Nat.isDigit_of_mem_toDigits (by decide) (by decide) within) (by decide)
      simp [digits]

/-- Positions are told apart, and none is taken for the return value. -/
theorem sitePart_injective : Function.Injective sitePart := by
  have apart (index : Nat) : sitePart (some index) ≠ sitePart none := by
    intro same
    have heads := congrArg (fun part => part.toList.head?) same
    rw [sitePart, toList_positional, List.head?_cons] at heads
    exact absurd (Option.some.inj heads) (by decide)
  intro first second same
  cases first with
  | none =>
      cases second with
      | none => rfl
      | some index => exact absurd same.symm (apart index)
  | some index =>
      cases second with
      | none => exact absurd same (apart index)
      | some other =>
          have digits : Nat.toDigits 10 index = Nat.toDigits 10 other := by
            simpa [sitePart, toList_positional] using congrArg String.toList same
          have value (n : Nat) : Nat.ofDigitChars 10 (Nat.toDigits 10 n) 0 = n :=
            Nat.ofDigitChars_toDigits (by decide) (by decide)
          rw [← value index, digits, value]

/-- Nothing fits between two dots if no dot is behind the first. -/
theorem eq_nil_of_dot {more part other : List Char} (free : '.' ∉ part)
    (same : '.' :: part = more ++ '.' :: other) : more = [] ∧ part = other := by
  cases more with
  | nil => exact ⟨rfl, (List.cons.inj same).2⟩
  | cons c more =>
      have within : '.' ∈ part := by
        rw [(List.cons.inj same).2]
        exact List.mem_append_right more List.mem_cons_self
      exact absurd within free

/-- A text falls into what is before its last dot and what is behind it in one way only. -/
theorem eq_of_last_dot {first second part other : List Char} (free : '.' ∉ part)
    (without : '.' ∉ other) (same : first ++ '.' :: part = second ++ '.' :: other) :
    first = second ∧ part = other := by
  rcases List.append_eq_append_iff.mp same with ⟨more, rfl, rest⟩ | ⟨more, rfl, rest⟩
  · obtain ⟨rfl, parts⟩ := eq_nil_of_dot free rest
    exact ⟨(List.append_nil first).symm, parts⟩
  · obtain ⟨rfl, parts⟩ := eq_nil_of_dot without rest
    exact ⟨List.append_nil second, parts.symm⟩

/-- The name of a site, if parameters are named by position. -/
def siteName (site : String × Option Nat) : String :=
  site.1 ++ "." ++ sitePart site.2

theorem siteName_injective : Function.Injective siteName := by
  rintro ⟨method, part⟩ ⟨other, index⟩ same
  have texts : method.toList ++ '.' :: (sitePart part).toList =
      other.toList ++ '.' :: (sitePart index).toList := by
    simpa [siteName] using congrArg String.toList same
  obtain ⟨methods, parts⟩ :=
    eq_of_last_dot (dot_not_mem_sitePart part) (dot_not_mem_sitePart index) texts
  rw [String.toList_inj.mp methods, sitePart_injective (String.toList_inj.mp parts)]

end

/-- A parameter is named by the provider, or else by its position. -/
theorem elementName_parameter (naming : ParameterNaming) (method : String) (index arity : Nat) :
    (elementName naming (.parameter method index arity)).2 =
      (naming.names method arity).map fun names => method ++ "." ++
        if within : index < names.length then names[index] else "arg" ++ toString index := by
  change (naming.names method arity).map (parameterName method index) = _
  congr 1
  funext names
  rw [parameterName]
  split
  · rename_i within
    rw [List.getElem?_eq_getElem within, Option.getD_some]
  · rename_i beyond
    rw [List.getElem?_eq_none (Nat.not_lt.mp beyond)]
    rfl

/-- The standard provider names by position, whether there are names enough or not. It crashes if
there would be too many. -/
theorem elementName_standard_parameter (method : String) (index arity : Nat) :
    (elementName .standard (.parameter method index arity)).2 =
      if arity ≤ ParameterNaming.mostNames then some (siteName (method, some index)) else none := by
  have names : ParameterNaming.standard.names method arity =
      if arity ≤ ParameterNaming.mostNames then
        some ((List.range arity).map ParameterNaming.positional)
      else none := rfl
  rw [elementName_parameter, names]
  split
  · rw [Option.map_some]
    congr 2
    split
    · rw [List.getElem_map, List.getElem_range]
      rfl
    · rfl
  · rfl

/-- Whatever the standard provider names is named by what it is about. -/
theorem eq_siteName {element : Element} {name : String} {site : String × Option Nat}
    (named : (elementName .standard element).2 = some name) (about : element.site? = some site) :
    name = siteName site := by
  cases element with
  | parameter method index arity =>
      cases about
      rw [elementName_standard_parameter] at named
      split at named
      · exact (Option.some.inj named).symm
      · cases named
  | returnValue method =>
      cases about
      have parted : method ++ ".<return value>" = siteName (method, none) := by
        rw [siteName, String.append_assoc]
        rfl
      rw [← parted]
      exact (Option.some.inj named).symm
  | _ => cases about

/-- What a list of steps yields was yielded by one of them. -/
theorem exists_of_mem_mapM {α β : Type} {f : α → Option β} {list : List α} {results : List β}
    (all : list.mapM f = some results) {result : β} (listed : result ∈ results) :
    ∃ item ∈ list, f item = some result := by
  induction list generalizing results with
  | nil =>
      cases all
      cases listed
  | cons item rest ih =>
      rw [List.mapM_cons] at all
      obtain ⟨first, found, all⟩ := Option.bind_eq_some_iff.mp all
      obtain ⟨others, later, all⟩ := Option.bind_eq_some_iff.mp all
      cases all
      rcases List.mem_cons.mp listed with rfl | listed
      · exact ⟨item, List.mem_cons_self, found⟩
      · obtain ⟨other, within, yields⟩ := ih later listed
        exact ⟨other, List.mem_cons_of_mem item within, yields⟩

/-- The constraints of a bean are under the names of their elements. -/
theorem elementName_of_built {naming : ParameterNaming} {registry : Registry}
    {sources : List Source} {typeName : String} {bean : Bean}
    (built : (Bean.build naming registry sources typeName).2 = some bean) {held : MetaConstraint}
    (listed : held ∈ bean.constraints) :
    (elementName naming held.element).2 = some held.elementName := by
  rw [build_result] at built
  obtain ⟨constraints, all, rfl⟩ := Option.map_eq_some_iff.mp built
  obtain ⟨placed, -, found⟩ := exists_of_mem_mapM all listed
  obtain ⟨name, named, rfl⟩ := Option.map_eq_some_iff.mp found
  exact named

/-- A parameter is called by its method, a dot, and the name that the provider has for its
position, or the position itself if there are not so many names. With the standard provider it is
the position in any case, as long as the names fit into a list. Under the standard provider, two
constraints of a bean on parameters or return values have the same name exactly if they are about
the same parameter of the same method, or both about the return value of the same method. -/
theorem sites_named_apart :
    (∀ (naming : ParameterNaming) (method : String) (index arity : Nat),
      (elementName naming (.parameter method index arity)).2 =
        (naming.names method arity).map fun names => method ++ "." ++
          if within : index < names.length then names[index] else "arg" ++ toString index) ∧
    (∀ (method : String) (index arity : Nat),
      (elementName .standard (.parameter method index arity)).2 =
        if arity ≤ ParameterNaming.mostNames then some (method ++ "." ++ ("arg" ++ toString index))
        else none) ∧
    ∀ (registry : Registry) (sources : List Source) (typeName : String) (bean : Bean),
      (Bean.build .standard registry sources typeName).2 = some bean →
      ∀ first ∈ bean.constraints, ∀ second ∈ bean.constraints,
        first.element.site?.isSome = true → second.element.site?.isSome = true →
        (first.elementName = second.elementName ↔ first.element.site? = second.element.site?) := by
  refine ⟨elementName_parameter, elementName_standard_parameter, ?_⟩
  intro registry sources typeName bean built first one second other called calls
  obtain ⟨site, about⟩ := Option.isSome_iff_exists.mp called
  obtain ⟨target, aims⟩ := Option.isSome_iff_exists.mp calls
  rw [eq_siteName (elementName_of_built built one) about,
    eq_siteName (elementName_of_built built other) aims, about, aims, Option.some.injEq,
    siteName_injective.eq_iff]

/-- A method may be called like the parameter of another one, and a position may lie beyond the
parameters of the method. -/
theorem sites_named_apart_of_dotted_method :
    let placed (element : Element) : Placement := ⟨element, ⟨"constraints.NotNull"⟩⟩
    let orders : BeanPlacements := ⟨"Order", [placed (.parameter "ship" 1 2),
      placed (.parameter "ship" 1 0), placed (.returnValue "ship.arg1")]⟩
    let sources : List Source := [.mappings ⟨[⟨1, .preSupplied, [], [orders]⟩]⟩]
    let held (element : Element) (name : String) : MetaConstraint :=
      ⟨element, name, ⟨"constraints.NotNull"⟩, [], "programmatic"⟩
    let within := held (.parameter "ship" 1 2) "ship.arg1"
    let beyond := held (.parameter "ship" 1 0) "ship.arg1"
    let dotted := held (.returnValue "ship.arg1") "ship.arg1.<return value>"
    let bean : Bean := ⟨"Order", [within, beyond, dotted]⟩
    (Bean.build .standard .empty sources "Order").2 = some bean ∧
      within.element.site?.isSome = true ∧ beyond.element.site?.isSome = true ∧
      dotted.element.site?.isSome = true ∧ within.elementName = beyond.elementName ∧
      within.elementName ≠ dotted.elementName := by
  intro placed orders sources held within beyond dotted bean
  have built : (Bean.build .standard .empty sources "Order").2 = some bean := rfl
  have apart := sites_named_apart.2.2 .empty sources "Order" bean built
  refine ⟨built, rfl, rfl, rfl, ?_, ?_⟩
  · exact (apart within (by simp [bean]) beyond (by simp [bean]) rfl rfl).mpr rfl
  · intro same
    have alike := (apart within (by simp [bean]) dotted (by simp [bean]) rfl rfl).mp same
    exact absurd alike (by decide)

/-- A method with so many parameters that their names fit into no list: its first parameter gets no
name, since the standard provider crashes. -/
theorem first_of_too_many_unnamed :
    (elementName .standard (.parameter "ship" 0 9223372036854775808)).2 ≠
      some ("ship" ++ "." ++ ("arg" ++ toString 0)) := by
  rw [elementName_standard_parameter, if_neg (by decide)]
  exact nofun

end Metadata

end BeanConstraints
