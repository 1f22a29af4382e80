/-
# Requests that take turns

Some requests come in two steps: a look at a shared state, and only if the look
finds nothing, a claim that changes the state. Requests made at the same time take
turns, where a turn is one step of one of them, and every order of turns can come
about. What is true of all orders is shown by going through the turns: each is a
look that finds something, a look that misses, or a claim after a miss.
-/

import Mathlib.Logic.Function.Basic
import Mathlib.Data.List.Count

namespace BeanConstraints

/-- Requests in two steps, each of which sees the shared state as a whole. -/
structure TwoStep (σ κ α : Type) where
  look : σ → κ → Option α
  claim : σ → κ → σ × α

/-- Both steps in one. -/
def TwoStep.ask {σ κ α : Type} (steps : TwoStep σ κ α) (shared : σ) (request : κ) : σ × α :=
  match steps.look shared request with
  | some answer => (shared, answer)
  | none => steps.claim shared request

/-- How far a request has come. -/
inductive Stage (α : Type) where
  | waiting
  /-- The look found nothing, so a claim is to follow. -/
  | missed
  | answered (answer : α)

namespace Stage

variable {α : Type}

/-- The answer to a request that has one. -/
def answer? : Stage α → Option α
  | answered answer => some answer
  | _ => none

/-- How many turns a request may still need. -/
def ahead : Stage α → Nat
  | waiting => 2
  | missed => 1
  | answered _ => 0

theorem ahead_le (stage : Stage α) : stage.ahead ≤ 2 := by
  cases stage <;> simp [ahead]

/-- A request that needs no more turns has its answer. -/
theorem isSome_answer? {stage : Stage α} (done : stage.ahead = 0) :
    stage.answer?.isSome = true := by
  cases stage with
  | answered answer => rfl
  | _ => cases done

end Stage

/-- Requests at work on a shared state, each on behalf of its caller. -/
structure Race (ι σ α : Type) where
  shared : σ
  stage : ι → Stage α

namespace Race

variable {ι σ κ α : Type}

/-- Nobody had a turn yet. -/
def start (shared : σ) : Race ι σ α := ⟨shared, fun _ => .waiting⟩

/-- The answer that a caller has got. -/
def answer? (race : Race ι σ α) (caller : ι) : Option α :=
  (race.stage caller).answer?

variable [DecidableEq ι]

/-- A caller comes further, and the state may change with it. -/
def advance (race : Race ι σ α) (shared : σ) (caller : ι) (stage : Stage α) : Race ι σ α :=
  ⟨shared, Function.update race.stage caller stage⟩

variable (steps : TwoStep σ κ α) (requests : ι → κ)

/-- Give a caller a turn: it looks, or claims what it has missed. One that has its answer does
nothing more. -/
def turn (race : Race ι σ α) (caller : ι) : Race ι σ α :=
  match race.stage caller with
  | .waiting =>
      match steps.look race.shared (requests caller) with
      | some answer => race.advance race.shared caller (.answered answer)
      | none => race.advance race.shared caller .missed
  | .missed =>
      let (shared, answer) := steps.claim race.shared (requests caller)
      race.advance shared caller (.answered answer)
  | .answered _ => race

/-- Give turns to callers in an order. -/
def run (race : Race ι σ α) (turns : List ι) : Race ι σ α :=
  turns.foldl (turn steps requests) race

section

variable (race : Race ι σ α) (shared : σ) (caller other : ι) (stage : Stage α)

@[simp]
theorem shared_advance : (race.advance shared caller stage).shared = shared := rfl

/-- A caller that comes further does not move the others. -/
theorem stage_advance :
    (race.advance shared caller stage).stage other =
      if other = caller then stage else race.stage other :=
  Function.update_apply race.stage caller stage other

theorem answer?_advance :
    (race.advance shared caller stage).answer? other =
      if other = caller then stage.answer? else race.answer? other := by
  rw [answer?, stage_advance, apply_ite Stage.answer?]
  rfl

/-- Of two steps that a caller takes, the later one counts. -/
theorem advance_advance (first : σ) (earlier : Stage α) :
    (race.advance first caller earlier).advance shared caller stage =
      race.advance shared caller stage := by
  unfold advance
  rw [Function.update_idem]

end

variable {steps requests} {race : Race ι σ α}

theorem run_append (earlier later : List ι) :
    race.run steps requests (earlier ++ later) =
      (race.run steps requests earlier).run steps requests later :=
  List.foldl_append

/-- A turn answers a caller from the state, or lets it miss, or answers it by a claim, or does
nothing since the caller has its answer. -/
theorem turn_cases {motive : Race ι σ α → Prop} (caller : ι)
    (found : ∀ answer, race.stage caller = .waiting →
      steps.look race.shared (requests caller) = some answer →
      motive (race.advance race.shared caller (.answered answer)))
    (missed : race.stage caller = .waiting →
      steps.look race.shared (requests caller) = none →
      motive (race.advance race.shared caller .missed))
    (claimed : race.stage caller = .missed →
      motive (race.advance (steps.claim race.shared (requests caller)).1 caller
        (.answered (steps.claim race.shared (requests caller)).2)))
    (idle : ∀ answer, race.stage caller = .answered answer → motive race) :
    motive (race.turn steps requests caller) := by
  unfold turn
  split
  · rename_i here
    split
    · rename_i answer seen
      exact found answer here seen
    · rename_i unseen
      exact missed here unseen
  · rename_i here
    exact claimed here
  · rename_i answer here
    exact idle answer here

/-- What holds at the start and is kept by every turn holds after all of them. -/
theorem run_induction {motive : Race ι σ α → Prop} {turns : List ι} (started : motive race)
    (kept : ∀ race caller, motive race → motive (race.turn steps requests caller)) :
    motive (race.run steps requests turns) := by
  induction turns generalizing race with
  | nil => exact started
  | cons caller rest ih => exact ih (kept race caller started)

/-- A caller that has both turns to itself gets what asking in one go gives. -/
theorem run_twice {caller : ι} (new : race.stage caller = .waiting) :
    race.run steps requests [caller, caller] =
      race.advance (steps.ask race.shared (requests caller)).1 caller
        (.answered (steps.ask race.shared (requests caller)).2) := by
  change (race.turn steps requests caller).turn steps requests caller = _
  have stage (shared : σ) (stage : Stage α) :
      (race.advance shared caller stage).stage caller = stage := by
    rw [stage_advance, if_pos rfl]
  cases seen : steps.look race.shared (requests caller) with
  | some answer =>
      have first : race.turn steps requests caller =
          race.advance race.shared caller (.answered answer) := by
        rw [turn, new]
        simp only [seen]
      rw [first, turn, stage, TwoStep.ask, seen]
  | none =>
      have first : race.turn steps requests caller =
          race.advance race.shared caller .missed := by
        rw [turn, new]
        simp only [seen]
      rw [first, turn, stage, TwoStep.ask, seen]
      exact advance_advance _ _ _ _ _ _

/-- The first caller, if nobody else has a turn, is answered like one that asks in one go. -/
theorem start_run_twice (shared : σ) (caller : ι) :
    let race := (start shared).run steps requests [caller, caller]
    race.shared = (steps.ask shared (requests caller)).1 ∧
      race.answer? caller = some (steps.ask shared (requests caller)).2 := by
  intro race
  have alone : race = _ := run_twice rfl
  rw [alone, answer?_advance, if_pos rfl]
  exact ⟨rfl, rfl⟩

/-- An answer is final. -/
theorem answer?_run {caller : ι} {answer : α} (got : race.answer? caller = some answer)
    (turns : List ι) : (race.run steps requests turns).answer? caller = some answer := by
  refine run_induction (motive := fun later => later.answer? caller = some answer) got ?_
  intro now mover kept
  -- Whoever moves has no answer yet, so it is not the caller.
  have apart (stage : Stage α) (here : now.stage mover = stage) (open' : stage.answer? = none) :
      caller ≠ mover := by
    rintro rfl
    rw [answer?, here, open'] at kept
    cases kept
  apply turn_cases (motive := fun later => later.answer? caller = some answer) mover
  · intro found here _
    rw [answer?_advance, if_neg (apart _ here rfl), kept]
  · intro here _
    rw [answer?_advance, if_neg (apart _ here rfl), kept]
  · intro here
    rw [answer?_advance, if_neg (apart _ here rfl), kept]
  · intro _ _
    exact kept

/-- With every turn of its own a request comes nearer to its answer, and it never falls back. -/
theorem ahead_turn (race : Race ι σ α) (mover caller : ι) :
    ((race.turn steps requests mover).stage caller).ahead ≤
      (race.stage caller).ahead - if mover = caller then 1 else 0 := by
  have moved (shared : σ) (stage : Stage α)
      (nearer : stage.ahead ≤ (race.stage mover).ahead - 1) :
      ((race.advance shared mover stage).stage caller).ahead ≤
        (race.stage caller).ahead - if mover = caller then 1 else 0 := by
    rw [stage_advance]
    by_cases same : caller = mover
    · rwa [if_pos same, if_pos same.symm, same]
    · rw [if_neg same, if_neg fun equal => same equal.symm]
      exact Nat.le_refl _
  apply turn_cases (motive := fun later => (later.stage caller).ahead ≤
    (race.stage caller).ahead - if mover = caller then 1 else 0) mover
  · intro answer _ _
    exact moved _ _ (Nat.zero_le _)
  · intro here _
    exact moved _ _ (by rw [here]; exact Nat.le_refl 1)
  · intro _
    exact moved _ _ (Nat.zero_le _)
  · intro answer here
    split
    · rename_i same
      rw [← same, here]
      exact Nat.le_refl 0
    · exact Nat.le_refl _

/-- Every caller has its answer after two turns. -/
theorem isSome_answer?_run {turns : List ι} {caller : ι} (twice : 2 ≤ turns.count caller) :
    ((race.run steps requests turns).answer? caller).isSome = true := by
  have nearer (race : Race ι σ α) (turns : List ι) :
      ((race.run steps requests turns).stage caller).ahead ≤
        (race.stage caller).ahead - turns.count caller := by
    induction turns generalizing race with
    | nil => exact Nat.le_refl _
    | cons mover rest ih =>
        have first : ((race.turn steps requests mover).stage caller).ahead ≤
            (race.stage caller).ahead - if mover = caller then 1 else 0 :=
          ahead_turn race mover caller
        have others := ih (race.turn steps requests mover)
        rw [List.count_cons]
        simp only [beq_iff_eq]
        change ((Race.run steps requests (race.turn steps requests mover) rest).stage
          caller).ahead ≤ _
        omega
  have most := (race.stage caller).ahead_le
  have least := nearer race turns
  exact Stage.isSome_answer? (by omega)

end Race

end BeanConstraints
