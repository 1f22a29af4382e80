/-
# What the flags come to

Each of the five flags has a property of its own and a value in code, and what it comes to
depends on these two alone. The property wins. There is one exception: if code stops
validation at the first violation and the property of that flag says anything else than
"true", nothing is resolved at all, so a flag that is on in code can be relied on.

The flags live in different places, three of them packed in the rules for methods. They are
listed here once more with the names of their properties written out, since nothing but the
names tells the five lookups apart.
-/

import BeanConstraints.Factory.Configuration
import Mathlib.Data.List.Forall2

namespace BeanConstraints

namespace Property

/-- Only a small ASCII letter itself and its capital come to that letter in lower case. -/
theorem toLower_eq_iff {c letter : Char} (small : letter.isLower = true) :
    c.toLower = letter ↔ c = letter ∨ c = letter.toUpper := by
  obtain ⟨above, below⟩ := Bool.and_eq_true_iff.mp small
  have range : 'a'.val ≤ letter.val ∧ letter.val ≤ 'z'.val :=
    ⟨of_decide_eq_true above, of_decide_eq_true below⟩
  unfold Char.toLower Char.toUpper
  rw [dif_pos range]
  -- Capitals lie 32 code points below the small letters, so both cases are arithmetic.
  split
  all_goals
    simp only [Char.ext_iff] at *
    grind

theorem map_toLower_eq_iff {cs letters : List Char}
    (small : ∀ letter ∈ letters, letter.isLower = true) :
    cs.map Char.toLower = letters ↔
      List.Forall₂ (fun c letter => c = letter ∨ c = letter.toUpper) cs letters := by
  induction letters generalizing cs with
  | nil => rw [List.map_eq_nil_iff, List.forall₂_nil_right_iff]
  | cons letter rest ih =>
      obtain ⟨here, later⟩ := List.forall_mem_cons.mp small
      cases cs with
      | nil => simp
      | cons c cs =>
          rw [List.map_cons, List.cons.injEq, List.forall₂_cons, toLower_eq_iff here, ih later]

/-- Letter by letter the word "true", each of them small or capital, and nothing else. -/
def SpellsTrue (value : String) : Prop :=
  List.Forall₂ (fun c letter => c = letter ∨ c = letter.toUpper) value.toList "true".toList

theorem isTrue_iff {value : String} : isTrue value = true ↔ SpellsTrue value :=
  beq_iff_eq.trans (map_toLower_eq_iff (List.all_eq_true.mp rfl))

instance : DecidablePred SpellsTrue := fun _ => decidable_of_iff _ isTrue_iff

end Property

/-- A flag under which a factory works. -/
inductive Flag where
  | failFast
  | rule (rule : MethodRule)
  | resultCache
  deriving DecidableEq

namespace Flag

/-- The name of its own property. -/
def property : Flag → String
  | failFast => "validator.fail_fast"
  | rule .parameterOverride => "validator.allow_parameter_constraint_override"
  | rule .multipleCascade => "validator.allow_multiple_cascaded_validation_on_result"
  | rule .parallelParameters => "validator.allow_parallel_method_parameter_constraint"
  | resultCache => "validator.enable_traversable_resolver_result_cache"

/-- The key under which it is looked up. -/
def key : Flag → PropertyKey
  | failFast => .failFast
  | rule .parameterOverride => .parameterOverride
  | rule .multipleCascade => .multipleCascade
  | rule .parallelParameters => .parallelParameters
  | resultCache => .resultCache

/-- The lookup goes to the property of the flag. -/
theorem name_key (flag : Flag) : flag.key.name = flag.property := by
  cases flag with
  | rule rule => cases rule <;> rfl
  | _ => rfl

end Flag

namespace Flags

/-- The value of one flag. -/
def get (flags : Flags) : Flag → Bool
  | .failFast => flags.failFast
  | .rule rule => flags.rules.allows rule
  | .resultCache => flags.resultCache

/-- There is nothing to flags but the five values. -/
theorem ext_get {first second : Flags} (alike : ∀ flag, first.get flag = second.get flag) :
    first = second := by
  obtain ⟨failFast, ⟨parameterOverride, multipleCascade, parallelParameters⟩, resultCache⟩ := first
  have inFail : failFast = second.failFast := alike .failFast
  have inParameter : parameterOverride = second.rules.parameterOverride :=
    alike (.rule .parameterOverride)
  have inCascade : multipleCascade = second.rules.multipleCascade :=
    alike (.rule .multipleCascade)
  have inParallel : parallelParameters = second.rules.parallelParameters :=
    alike (.rule .parallelParameters)
  have inCache : resultCache = second.resultCache := alike .resultCache
  rw [inFail, inParameter, inCascade, inParallel, inCache]

/-- Setting the rules one after the other sets each to what its own property makes of it. -/
theorem allows_overrideRules (properties : Properties) (inCode : MethodRules)
    (rule : MethodRule) :
    (overrideRules properties inCode).allows rule =
      override properties (Flag.rule rule).key (inCode.allows rule) := by
  unfold overrideRules
  rw [MethodRules.allows_set, MethodRules.allows_set, MethodRules.allows_set]
  cases rule <;> rfl

/-- Every flag is resolved by the same rule, wherever it is kept. -/
theorem get_of_resolve {properties : Properties} {inCode flags : Flags}
    (resolved : resolve properties inCode = .ok flags) (flag : Flag) :
    flags.get flag = override properties flag.key (inCode.get flag) := by
  unfold resolve at resolved
  split at resolved
  · cases resolved
  · cases resolved
    cases flag with
    | failFast => rfl
    | rule rule => exact allows_overrideRules properties inCode.rules rule
    | resultCache => rfl

end Flags

namespace Configuration

/-- What a flag comes to: what its own property says, or else its own value in code. -/
structure Settles (configuration : Configuration) (flag : Flag) (on : Bool) : Prop where
  present : ∀ value, configuration.property? flag.property = some value →
    (on = true ↔ Property.SpellsTrue value)
  absent : configuration.property? flag.property = none → on = configuration.flags.get flag

/-- Code stops validation at the first violation, and the property of that flag says anything else
than "true". -/
def Contradicted (configuration : Configuration) : Prop :=
  configuration.flags.failFast = true ∧
    ∃ value, configuration.property? Flag.failFast.property = some value ∧
      ¬ Property.SpellsTrue value

variable {configuration other : Configuration} {flag : Flag} {on : Bool}

/-- Overriding a flag settles it, and nothing else does. -/
theorem settles_iff :
    configuration.Settles flag on ↔
      on = Flags.override configuration.properties flag.key (configuration.flags.get flag) := by
  unfold Flags.override Properties.flag?
  rw [flag.name_key]
  cases found : configuration.properties.get? flag.property with
  | none =>
      refine ⟨fun settles => settles.absent found, fun same => ⟨?_, fun _ => same⟩⟩
      intro value there
      cases found.symm.trans there
  | some value =>
      rw [Option.map_some, Option.getD_some, Bool.eq_iff_iff, Property.isTrue_iff]
      refine ⟨fun settles => settles.present value found, fun same => ⟨?_, fun absent => ?_⟩⟩
      · intro known there
        cases found.symm.trans there
        exact same
      · cases found.symm.trans absent

/-- Only its own property and its own value in code settle a flag. -/
theorem Settles.congr (property : other.property? flag.property =
      configuration.property? flag.property)
    (inCode : other.flags.get flag = configuration.flags.get flag)
    (settles : configuration.Settles flag on) : other.Settles flag on where
  present value there := settles.present value (property ▸ there)
  absent missing := (settles.absent (property ▸ missing)).trans inCode.symm

/-- The check before resolving finds the contradiction. -/
theorem contradicted_iff :
    configuration.Contradicted ↔
      (configuration.flags.failFast &&
        configuration.properties.flag? .failFast == some false) = true := by
  unfold Contradicted Properties.flag?
  rw [Bool.and_eq_true, beq_iff_eq, Option.map_eq_some_iff]
  refine and_congr_right fun _ => exists_congr fun value => and_congr_right fun _ => ?_
  rw [← Property.isTrue_iff, Bool.not_eq_true]

theorem resolve_of_contradicted (contradicted : configuration.Contradicted) :
    configuration.resolve = .error .inconsistentFailFast :=
  if_pos (contradicted_iff.mp contradicted)

theorem exists_resolve (consistent : ¬ configuration.Contradicted) :
    ∃ flags, configuration.resolve = .ok flags :=
  ⟨_, if_neg fun found => consistent (contradicted_iff.mpr found)⟩

/-- Flags are resolved as the ones in which every flag is settled. -/
theorem resolve_eq_ok_iff {flags : Flags} :
    configuration.resolve = .ok flags ↔
      ¬ configuration.Contradicted ∧ ∀ flag, configuration.Settles flag (flags.get flag) := by
  refine ⟨fun resolved => ⟨fun contradicted => ?_, fun flag => ?_⟩, ?_⟩
  · rw [resolve_of_contradicted contradicted] at resolved
    cases resolved
  · exact settles_iff.mpr (Flags.get_of_resolve resolved flag)
  · rintro ⟨consistent, settled⟩
    obtain ⟨resolved, result⟩ := exists_resolve consistent
    have same : resolved = flags := by
      apply Flags.ext_get
      intro flag
      rw [Flags.get_of_resolve result flag, settles_iff.mp (settled flag)]
    rw [result, same]

/-- In every configuration, whatever its properties and its values in code, resolving the flags
fails exactly if code stops validation at the first violation and the property of that flag says
anything else than "true". Otherwise each of the five flags comes to what its own property says, or
else to its own value in code. Two configurations that agree in these two give the flag the same
value whatever else they say, and a flag that stops validation in code stops it in effect. -/
theorem resolve_flag_by_flag (configuration : Configuration) :
    (∀ fault, configuration.resolve = .error fault ↔
        fault = .inconsistentFailFast ∧ configuration.Contradicted) ∧
      (¬ configuration.Contradicted → ∃ flags, configuration.resolve = .ok flags) ∧
      (∀ flags, configuration.resolve = .ok flags ↔
        ¬ configuration.Contradicted ∧ ∀ flag, configuration.Settles flag (flags.get flag)) ∧
      (∀ flags, configuration.resolve = .ok flags →
        configuration.flags.failFast = true → flags.failFast = true) ∧
      ∀ flags (other : Configuration) (changed : Flags),
        configuration.resolve = .ok flags → other.resolve = .ok changed → ∀ flag,
          other.property? flag.property = configuration.property? flag.property →
          other.flags.get flag = configuration.flags.get flag →
          changed.get flag = flags.get flag := by
  refine ⟨fun fault => ⟨fun failed => ?_, ?_⟩, exists_resolve, fun flags => resolve_eq_ok_iff,
    ?_, ?_⟩
  · by_cases contradicted : configuration.Contradicted
    · rw [resolve_of_contradicted contradicted] at failed
      exact ⟨(Except.error.inj failed).symm, contradicted⟩
    · obtain ⟨flags, resolved⟩ := exists_resolve contradicted
      cases resolved.symm.trans failed
  · rintro ⟨rfl, contradicted⟩
    exact resolve_of_contradicted contradicted
  · intro flags resolved inCode
    obtain ⟨consistent, settled⟩ := resolve_eq_ok_iff.mp resolved
    cases found : configuration.property? Flag.failFast.property with
    | none => exact ((settled .failFast).absent found).trans inCode
    | some value =>
        refine ((settled .failFast).present value found).mpr ?_
        by_contra different
        exact consistent ⟨inCode, value, found, different⟩
  · intro flags other changed resolved resolvedOther flag property inCode
    have settled := (resolve_eq_ok_iff.mp resolved).2 flag
    have settledOther := (resolve_eq_ok_iff.mp resolvedOther).2 flag
    rw [settles_iff.mp settledOther, ← settles_iff.mp (settled.congr property inCode)]

/-- Capitals do not matter, blanks do. -/
example :
    let cached : Configuration := { flags := { failFast := true, resultCache := false } }
    (cached.setProperty "validator.fail_fast" "TrUe").resolve =
        .ok { failFast := true, resultCache := false } ∧
      (cached.setProperty "validator.fail_fast" " true").resolve =
        .error .inconsistentFailFast := by
  decide

end Configuration

end BeanConstraints
