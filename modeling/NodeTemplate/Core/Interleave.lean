/-
Runs of a numbered process among steps of an environment.

`Run own env s n t`: from `s`, the process has taken its steps 0, …, n - 1, the environment any number of steps of its
own in between, and the state is now `t`. Neither side is deterministic. Two rules:
- `Run.inv`: what holds at the start, each step of the process carries from its number to the next, and the environment
  keeps, holds at every point of every run;
- `Run.map`: a map on states that takes steps to steps takes runs to runs, so that a run of an opaque state is a run of
  its visible part.

`Logged step s log t` is for a system whose steps are not numbered but reported: each step says what happened, and a run
collects the reports in order. Its rules are the same two, the invariant speaking about the log.
-/
import Mathlib.Tactic

namespace NodeTemplate.Core

section Runs

variable {σ τ : Type}

inductive Run (own : ℕ → σ → σ → Prop) (env : σ → σ → Prop) (s : σ) : ℕ → σ → Prop
  | start : Run own env s 0 s
  | own {n : ℕ} {t u : σ} : Run own env s n t → own n t u → Run own env s (n + 1) u
  | env {n : ℕ} {t u : σ} : Run own env s n t → env t u → Run own env s n u

variable {own : ℕ → σ → σ → Prop} {env : σ → σ → Prop} {s : σ}

/-- **Invariant rule.** The invariant may speak about the number of steps taken. -/
theorem Run.inv {I : ℕ → σ → Prop} (hstart : I 0 s) (hown : ∀ n t u, I n t → own n t u → I (n + 1) u)
    (henv : ∀ n t u, I n t → env t u → I n u) {n : ℕ} {t : σ} (h : Run own env s n t) : I n t := by
  induction h with
  | start => exact hstart
  | own _ hstep ih => exact hown _ _ _ ih hstep
  | env _ hstep ih => exact henv _ _ _ ih hstep

theorem Run.map {own' : ℕ → τ → τ → Prop} {env' : τ → τ → Prop} {f : σ → τ}
    (hown : ∀ n t u, own n t u → own' n (f t) (f u)) (henv : ∀ t u, env t u → env' (f t) (f u)) {n : ℕ} {t : σ}
    (h : Run own env s n t) : Run own' env' (f s) n (f t) := by
  induction h with
  | start => exact .start
  | own _ hstep ih => exact .own ih (hown _ _ _ hstep)
  | env _ hstep ih => exact .env ih (henv _ _ hstep)

/-! ## Runs with a log -/

inductive Logged {ε : Type} (step : σ → List ε → σ → Prop) (s : σ) : List ε → σ → Prop
  | start : Logged step s [] s
  | step {log es : List ε} {t u : σ} : Logged step s log t → step t es u → Logged step s (log ++ es) u

section Logged

variable {ε : Type} {step : σ → List ε → σ → Prop}

/-- **Invariant rule.** The invariant may speak about the log so far. -/
theorem Logged.inv {I : List ε → σ → Prop} (hstart : I [] s)
    (hstep : ∀ log t es u, I log t → step t es u → I (log ++ es) u) {log : List ε} {t : σ} (h : Logged step s log t) :
    I log t := by
  induction h with
  | start => exact hstart
  | step _ hs ih => exact hstep _ _ _ _ ih hs

theorem Logged.map {step' : τ → List ε → τ → Prop} {f : σ → τ} (hstep : ∀ t es u, step t es u → step' (f t) es (f u))
    {log : List ε} {t : σ} (h : Logged step s log t) : Logged step' (f s) log (f t) := by
  induction h with
  | start => exact .start
  | step _ hs ih => exact .step ih (hstep _ _ _ hs)

end Logged

end Runs

end NodeTemplate.Core
