/-
# What steps of construction try

On the way to a factory others are called: parsers, constructors of components and
contributors. A row of attempts says in advance what a step will try, calls as well
as checks that call nobody, each with the fault that it ends with. The step makes
the calls up to and including the first attempt that fails, and it fails with the
fault of that attempt. Rows are put together as steps are.
-/

import BeanConstraints.Proofs.Decision

namespace BeanConstraints

/-- Something that is tried: a call, or a check that calls nobody. -/
structure Attempt where
  call : Option Call
  /-- What it fails with, if it fails. -/
  fault : Option Fault

namespace Attempt

/-- A check that calls nobody. -/
def check (fault : Option Fault) : Attempt := ⟨none, fault⟩

/-- The calls that are made in a row of attempts, up to the first that fails. -/
def calls : List Attempt → List Call
  | [] => []
  | attempt :: rest => attempt.call.toList ++ if attempt.fault.isSome then [] else calls rest

/-- The fault of the first attempt that fails. -/
def fault? (attempts : List Attempt) : Option Fault :=
  attempts.findSome? Attempt.fault

@[simp]
theorem calls_singleton (attempt : Attempt) : calls [attempt] = attempt.call.toList := by
  simp [calls]

@[simp]
theorem fault?_singleton (attempt : Attempt) : fault? [attempt] = attempt.fault := by
  cases failed : attempt.fault <;> simp [fault?, failed]

theorem fault?_cons (attempt : Attempt) (rest : List Attempt) :
    fault? (attempt :: rest) = attempt.fault.or (fault? rest) := by
  cases failed : attempt.fault <;> simp [fault?, failed]

theorem fault?_append (first second : List Attempt) :
    fault? (first ++ second) = (fault? first).or (fault? second) :=
  List.findSome?_append

/-- Further attempts are made only if those before them go well. -/
theorem calls_append (first second : List Attempt) :
    calls (first ++ second) =
      calls first ++ if (fault? first).isSome then [] else calls second := by
  induction first with
  | nil => rfl
  | cons attempt rest ih =>
      rw [List.cons_append, calls, calls, ih, fault?_cons]
      cases attempt.fault with
      | none => exact (List.append_assoc _ _ _).symm
      | some fault => exact (List.append_nil _).symm

/-- Only calls that are planned are made. -/
theorem exists_of_mem_calls {attempts : List Attempt} {call : Call} (made : call ∈ calls attempts) :
    ∃ attempt ∈ attempts, attempt.call = some call := by
  induction attempts with
  | nil => cases made
  | cons attempt rest ih =>
      rw [calls, List.mem_append, Option.mem_toList] at made
      rcases made with here | later
      · exact ⟨attempt, .head _, here⟩
      · split at later
        · cases later
        · obtain ⟨attempt, listed, called⟩ := ih later
          exact ⟨attempt, .tail _ listed, called⟩

/-- If nothing fails, all calls are made. -/
theorem calls_eq_filterMap {attempts : List Attempt} (well : fault? attempts = none) :
    calls attempts = attempts.filterMap Attempt.call := by
  induction attempts with
  | nil => rfl
  | cons attempt rest ih =>
      rw [fault?_cons, Option.or_eq_none_iff] at well
      rw [calls, well.1, ih well.2, List.filterMap_cons]
      cases attempt.call <;> rfl

end Attempt

theorem Journal.calls_append (first second : Journal) :
    (first ++ second).calls = first.calls ++ second.calls :=
  List.filterMap_append

namespace Bootstrap

variable {α β : Type}

/-- From any counters, the step makes the calls of the attempts and ends with their fault. -/
def Tries (step : Bootstrap α) (attempts : List Attempt) : Prop :=
  ∀ counters, (step.run counters).journal.calls = Attempt.calls attempts ∧
    Fault.of? (step.run counters).result = Attempt.fault? attempts

/-- Attempts follow one another as steps do. -/
theorem Tries.bind {step : Bootstrap α} {next : α → Bootstrap β} {first second : List Attempt}
    (tries : step.Tries first)
    (later : ∀ counters value, (step.run counters).result = .ok value → (next value).Tries second) :
    (step >>= next).Tries (first ++ second) := by
  intro counters
  obtain ⟨calls, fault⟩ := tries counters
  rw [Attempt.calls_append, Attempt.fault?_append, ← calls, ← fault]
  cases ended : (step.run counters).result with
  | error reason =>
      rw [run_bind_error next ended]
      exact ⟨(List.append_nil _).symm, rfl⟩
  | ok value =>
      rw [run_bind_ok next ended, Journal.calls_append]
      obtain ⟨laterCalls, laterFault⟩ := later counters value ended (step.run counters).counters
      exact ⟨congrArg _ laterCalls, laterFault⟩

/-- Nothing is tried behind an attempt that fails. -/
theorem Tries.cut {step : Bootstrap α} {attempts : List Attempt} {fault : Fault}
    (tries : step.Tries attempts) (failed : Attempt.fault? attempts = some fault)
    (rest : List Attempt) : step.Tries (attempts ++ rest) := by
  intro counters
  obtain ⟨calls, ended⟩ := tries counters
  rw [Attempt.calls_append, Attempt.fault?_append, failed]
  exact ⟨calls.trans (List.append_nil _).symm, ended.trans failed⟩

/-- A step that tries nothing does not show before others. -/
theorem Tries.after {step : Bootstrap α} {next : α → Bootstrap β} {attempts : List Attempt}
    (quiet : step.Tries []) (later : ∀ value, (next value).Tries attempts) :
    (step >>= next).Tries attempts :=
  quiet.bind fun _ value _ => later value

/-- A step that tries nothing does not show behind others. -/
theorem Tries.before {step : Bootstrap α} {next : α → Bootstrap β} {attempts : List Attempt}
    (tries : step.Tries attempts) (quiet : ∀ value, (next value).Tries []) :
    (step >>= next).Tries attempts := by
  have whole := tries.bind fun _ value _ => quiet value
  rwa [List.append_nil] at whole

theorem tries_pure (value : α) : (pure value : Bootstrap α).Tries [] :=
  fun _ => ⟨rfl, rfl⟩

theorem tries_fail (fault : Fault) : (fail fault : Bootstrap α).Tries [.check (some fault)] :=
  fun _ => ⟨rfl, rfl⟩

theorem tries_ofExcept (result : Except Fault α) :
    (ofExcept result).Tries [.check (Fault.of? result)] :=
  fun _ => ⟨(Attempt.calls_singleton (.check _)).symm,
    (Attempt.fault?_singleton (.check _)).symm⟩

theorem tries_log {journal : Journal} (notes : journal.calls = []) : (log journal).Tries [] :=
  fun _ => ⟨notes, rfl⟩

theorem tries_call (call : Call) : (log [.call call]).Tries [⟨some call, none⟩] :=
  fun _ => ⟨rfl, rfl⟩

theorem tries_freshMapping : freshMapping.Tries [] :=
  fun _ => ⟨rfl, rfl⟩

theorem tries_instantiate {ρ : Type} (role : ρ) : (instantiate role).Tries [] :=
  fun _ => ⟨rfl, rfl⟩

theorem tries_configuredOr {ρ : Type} (configured : Option (Instance ρ)) (standard : ρ) :
    (configuredOr configured standard).Tries [] := by
  cases configured with
  | none => exact tries_instantiate standard
  | some provider => exact tries_pure provider

/-- The calls of a load are those of the loader. -/
theorem calls_watched (kind : Component.Kind) (name : String) (reply : Component.Reply α)
    (counters : Counters) :
    ((watched kind name reply).run counters).journal.calls = reply.calls := by
  change (Journal.calls (reply.calls.map .call ++ Journal.debug _)) = _
  rw [Journal.calls_append, Journal.calls, List.filterMap_map]
  simp [Journal.calls, Journal.debug]

/-- Loading tries what stands behind the reply. -/
theorem tries_watched {kind : Component.Kind} {name : String} {reply : Component.Reply α}
    {attempts : List Attempt} (calls : reply.calls = Attempt.calls attempts)
    (fault : Fault.of? reply.result = Attempt.fault? attempts) :
    (watched kind name reply).Tries attempts :=
  fun counters => ⟨(calls_watched kind name reply counters).trans calls, fault⟩

theorem Tries.mapFault {step : Bootstrap α} {attempt : Attempt} (tries : step.Tries [attempt])
    (change : Fault → Fault) :
    (step.mapFault change).Tries [⟨attempt.call, attempt.fault.map change⟩] := by
  intro counters
  obtain ⟨calls, fault⟩ := tries counters
  refine ⟨?_, ?_⟩
  · rw [Attempt.calls_singleton] at calls ⊢
    exact calls
  · rw [Attempt.fault?_singleton] at fault ⊢
    rw [← fault, ← Fault.of?_mapError]
    rfl

end Bootstrap

end BeanConstraints
