/-
# What steps of construction yield

Steps of construction draw identities from counters, so two runs of one step do
not end alike. Seen through a view that forgets the identities they do: a step
yields one result under a view whatever the counters are. Results compose as steps
do, which takes the counters and the journal out of every argument on what
building leads to.
-/

import BeanConstraints.Bootstrap.Collection

namespace BeanConstraints.Bootstrap

variable {α β γ δ : Type}

/-- Under the view, the step ends with the result from any counters. -/
def Yields (step : Bootstrap α) (view : α → β) (result : Except Fault β) : Prop :=
  ∀ counters, (step.run counters).result.map view = result

/-- A step that ends with a value yields the value under the view. -/
theorem Yields.of_ok {step : Bootstrap α} {view : α → β} {result : Except Fault β}
    (yields : Yields step view result) {counters : Counters} {value : α}
    (ended : (step.run counters).result = .ok value) : result = .ok (view value) := by
  rw [← yields counters, ended]
  rfl

/-- What a step yields decides what comes after it. -/
theorem Yields.bind {step : Bootstrap α} {next : α → Bootstrap γ} {view : α → β} {later : γ → δ}
    {result : Except Fault β} (first : Yields step view result) (rest : β → Except Fault δ)
    (second : ∀ value, Yields (next value) later (rest (view value))) :
    Yields (step >>= next) later (result >>= rest) := by
  intro counters
  rw [← first counters]
  cases ended : (step.run counters).result with
  | error fault =>
      rw [run_bind_error next ended]
      rfl
  | ok value =>
      rw [run_bind_ok next ended]
      exact second value (step.run counters).counters

/-- After a step that cannot fail, the result is that of what comes next. -/
theorem Yields.bind_ok {step : Bootstrap α} {next : α → Bootstrap γ} {view : α → β} {later : γ → δ}
    {expected : β} {result : Except Fault δ} (first : Yields step view (.ok expected))
    (second : ∀ value, view value = expected → Yields (next value) later result) :
    Yields (step >>= next) later result := by
  intro counters
  have seen := first counters
  cases ended : (step.run counters).result with
  | error fault =>
      rw [ended] at seen
      cases seen
  | ok value =>
      rw [ended] at seen
      rw [run_bind_ok next ended]
      exact second value (Except.ok.inj seen) (step.run counters).counters

/-- If what comes next cannot fail, the result is finished off by it. -/
theorem Yields.finish {step : Bootstrap α} {next : α → Bootstrap γ} {view : α → β} {later : γ → δ}
    {result : Except Fault β} (first : Yields step view result) (finish : β → δ)
    (second : ∀ value, Yields (next value) later (.ok (finish (view value)))) :
    Yields (step >>= next) later (result.map finish) := by
  have whole : result.map finish = (result >>= fun value => .ok (finish value)) := by
    cases result <;> rfl
  rw [whole]
  exact first.bind _ second

/-- If what comes next cannot fail and keeps the view, so does all of it. -/
theorem Yields.keep {step : Bootstrap α} {next : α → Bootstrap γ} {view : α → β} {later : γ → β}
    {result : Except Fault β} (first : Yields step view result)
    (second : ∀ value, Yields (next value) later (.ok (view value))) :
    Yields (step >>= next) later result := by
  have whole : Yields (step >>= next) later (result.map id) := first.finish id second
  rwa [Except.map_id] at whole

theorem yields_pure (value : α) (view : α → β) :
    Yields (pure value : Bootstrap α) view (.ok (view value)) :=
  fun _ => rfl

theorem yields_done (value : α) (view : α → β) : Yields (done value) view (.ok (view value)) :=
  fun _ => rfl

theorem yields_fail (fault : Fault) (view : α → β) : Yields (fail fault) view (.error fault) :=
  fun _ => rfl

theorem yields_ofExcept (result : Except Fault α) : Yields (ofExcept result) id result := by
  intro counters
  exact congrFun Except.map_id result

theorem yields_log (journal : Journal) : Yields (log journal) id (.ok ()) :=
  fun _ => rfl

/-- Notes do not matter for what comes after them. -/
theorem Yields.after_log {journal : Journal} {next : Unit → Bootstrap α} {view : α → β}
    {result : Except Fault β} (rest : Yields (next ()) view result) :
    Yields (log journal >>= next) view result :=
  (yields_log journal).bind_ok fun _ _ => rest

/-- Notes on what a step yielded do not change it. -/
theorem Yields.noted {step : Bootstrap α} {view : α → β} {result : Except Fault β}
    (yields : Yields step view result) (notes : α → Journal) :
    Yields (step >>= fun value => log (notes value) >>= fun _ => pure value) view result :=
  yields.keep fun value => Yields.after_log (yields_pure value view)

theorem yields_freshMapping : Yields freshMapping (fun _ => ()) (.ok ()) :=
  fun _ => rfl

theorem yields_instantiate {ρ : Type} (role : ρ) :
    Yields (instantiate role) Instance.role (.ok role) :=
  fun _ => rfl

/-- Which identity a provider gets does not matter for what it does. -/
theorem yields_configuredOr {ρ : Type} (configured : Option (Instance ρ)) (standard : ρ) :
    Yields (configuredOr configured standard) Instance.role
      (.ok ((configured.map Instance.role).getD standard)) := by
  cases configured with
  | none => exact yields_instantiate standard
  | some provider => exact yields_done provider Instance.role

theorem yields_watched (kind : Component.Kind) (name : String) (reply : Component.Reply α) :
    Yields (watched kind name reply) id reply.result := by
  intro counters
  exact congrFun Except.map_id reply.result

theorem Yields.mapFault {step : Bootstrap α} {view : α → β} {result : Except Fault β}
    (yields : Yields step view result) (change : Fault → Fault) :
    Yields (step.mapFault change) view (result.mapError change) := by
  intro counters
  rw [← yields counters]
  change ((step.run counters).result.mapError change).map view = _
  cases (step.run counters).result <;> rfl

end BeanConstraints.Bootstrap
