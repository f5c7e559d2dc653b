import Mathlib.Data.List.Basic

/-!
# Runs of a deterministic step function

A system is a step function `σ → ε → σ`; a run is a list of events. Facts about
whole runs come from facts about one step through `run_induction`. Where a step
keeps the invariant only under a condition on the event and the state it meets,
`Along` says that every step of a run meets the condition.
-/

namespace WebRtc.Lib

variable {σ ε : Type*}

def run (step : σ → ε → σ) (s : σ) (evs : List ε) : σ := evs.foldl step s

/-- Every event of the run satisfies `ok` in the state in which it happens. -/
def Along (step : σ → ε → σ) (ok : σ → ε → Prop) : σ → List ε → Prop
  | _, [] => True
  | s, e :: evs => ok s e ∧ Along step ok (step s e) evs

instance Along.decidable (step : σ → ε → σ) (ok : σ → ε → Prop) [∀ s e, Decidable (ok s e)] :
    ∀ (s : σ) (evs : List ε), Decidable (Along step ok s evs)
  | _, [] => isTrue trivial
  | s, e :: evs => @instDecidableAnd _ _ _ (Along.decidable step ok (step s e) evs)

@[simp] lemma run_nil (step : σ → ε → σ) (s : σ) : run step s [] = s := rfl

@[simp] lemma run_cons (step : σ → ε → σ) (s : σ) (e : ε) (evs : List ε) :
    run step s (e :: evs) = run step (step s e) evs := rfl

lemma run_append (step : σ → ε → σ) (s : σ) (evs evs' : List ε) :
    run step s (evs ++ evs') = run step (run step s evs) evs' := List.foldl_append

variable {step : σ → ε → σ} {s : σ} {P : σ → Prop} {ok : σ → ε → Prop} {evs : List ε}

lemma along_append {evs' : List ε} :
    Along step ok s (evs ++ evs') ↔ Along step ok s evs ∧ Along step ok (run step s evs) evs' := by
  induction evs generalizing s with
  | nil => simp [Along]
  | cons e evs ih => simp only [List.cons_append, Along, ih, run_cons, and_assoc]

lemma run_induction_along (hstep : ∀ s e, P s → ok s e → P (step s e)) :
    ∀ (evs : List ε) (s : σ), P s → Along step ok s evs → P (run step s evs)
  | [], _, hs, _ => hs
  | e :: evs, s, hs, hok =>
    run_induction_along hstep evs (step s e) (hstep s e hs hok.1) hok.2

lemma run_induction (hstep : ∀ s e, P s → P (step s e)) (evs : List ε) (hs : P s) :
    P (run step s evs) := by
  induction evs generalizing s with
  | nil => exact hs
  | cons e evs ih => exact ih (hstep s e hs)

/-- The same where a step is only known to preserve the property for the run's own events. -/
lemma run_induction_mem
    (hstep : ∀ s, ∀ e ∈ evs, P s → P (step s e)) (hs : P s) : P (run step s evs) := by
  induction evs generalizing s with
  | nil => exact hs
  | cons e evs ih =>
    exact ih (fun s' e' he' => hstep s' e' (List.mem_cons_of_mem e he'))
      (hstep s e List.mem_cons_self hs)

end WebRtc.Lib
