/-
# Requests and answers in a row

Something that is asked one request after the other answers each of them and may be
another thing afterwards. What happens to it is told by a history of requests with
their answers. Some answers say that nothing has happened; the requests that got them
can be struck out of a history, and everybody else is answered as before.

States need not be the same for that. It is enough that they look the same to those
who ask, now and later, so the statements are made through a view of the state.
-/

import Mathlib.Data.List.Basic

namespace BeanConstraints

/-- How a state is changed by a request and what it answers. -/
abbrev Serving (σ ι ρ : Type) := σ → ι → σ × ρ

namespace Serving

variable {σ ι ρ τ : Type} (serve : Serving σ ι ρ)

/-- The state after requests, one after the other. -/
def after (state : σ) (requests : List ι) : σ :=
  requests.foldl (fun state request => (serve state request).1) state

/-- Requests with their answers, one after the other. -/
def history (state : σ) : List ι → List (ι × ρ)
  | [] => []
  | request :: rest => (request, (serve state request).2) :: history (serve state request).1 rest

/-- The view shows all of a state that matters to answers, now and later. -/
def DecidedBy (view : σ → τ) : Prop :=
  ∀ one other request, view one = view other →
    view (serve one request).1 = view (serve other request).1 ∧
      (serve one request).2 = (serve other request).2

variable {serve}

/-- What holds of a history and of the state behind it when nothing was asked, and goes on to hold
with every request, holds of all histories. -/
theorem run_induction {motive : List (ι × ρ) → σ → Prop} {state : σ} (start : motive [] state)
    (step : ∀ turns state request, motive turns state →
      motive (turns ++ [(request, (serve state request).2)]) (serve state request).1)
    (requests : List ι) :
    motive (history serve state requests) (after serve state requests) := by
  -- The requests that come first count as asked already.
  have behind (turns : List (ι × ρ)) (state : σ) (here : motive turns state) :
      motive (turns ++ history serve state requests) (after serve state requests) := by
    induction requests generalizing turns state with
    | nil => rwa [history, List.append_nil]
    | cons request rest ih =>
        have next := ih _ _ (step turns state request here)
        rwa [List.append_assoc] at next
  exact behind [] state start

/-- All of a state is enough. -/
theorem decidedBy_id : DecidedBy serve id := by
  rintro one _ request rfl
  exact ⟨rfl, rfl⟩

variable {view : σ → τ}

/-- States that look the same have the same histories and look the same behind them. -/
theorem DecidedBy.run (decided : DecidedBy serve view) {one other : σ}
    (alike : view one = view other) (requests : List ι) :
    history serve one requests = history serve other requests ∧
      view (after serve one requests) = view (after serve other requests) := by
  induction requests generalizing one other with
  | nil => exact ⟨rfl, alike⟩
  | cons request rest ih =>
      obtain ⟨later, answer⟩ := decided one other request alike
      obtain ⟨histories, ends⟩ := ih later
      rw [history, history, answer, histories]
      exact ⟨rfl, ends⟩

/-- If the state looks the same after answers of some kind, the requests that got them can be struck
out: the other answers stay, and so does the look of the state in the end. -/
theorem DecidedBy.struck (decided : DecidedBy serve view) {idle : ρ → Bool}
    (unmoved : ∀ state request, idle (serve state request).2 = true →
      view (serve state request).1 = view state) (state : σ) (requests : List ι) :
    let others := (history serve state requests).filter fun turn => !idle turn.2
    history serve state (others.map Prod.fst) = others ∧
      view (after serve state (others.map Prod.fst)) = view (after serve state requests) := by
  induction requests generalizing state with
  | nil => exact ⟨rfl, rfl⟩
  | cons request rest ih =>
      obtain ⟨answers, ends⟩ := ih (serve state request).1
      rw [history, List.filter_cons]
      cases kind : idle (serve state request).2 with
      | true =>
          -- The requests behind this one find a state that looks as it did before.
          obtain ⟨histories, looks⟩ := decided.run (unmoved state request kind) _
          exact ⟨histories.symm.trans answers, looks.symm.trans ends⟩
      | false => exact ⟨congrArg _ answers, ends⟩

end Serving

end BeanConstraints
