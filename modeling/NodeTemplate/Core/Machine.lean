/-
Machines whose steps can fail, and what holds along their runs.

A step returns a result AND the state it leaves, also when the result is an error: nothing is rolled back. `run` folds
the steps over a list of operations. The rules here are the only inductions over runs that the rest of the development
needs:
- `run_inv`: an invariant that every step keeps holds after every run;
- `run_sim`: a relation to an abstract state that every step keeps holds after every run (simulation);
- `prefix_iff`: if, from a state with the property, a step keeps it exactly when the step is good, then the property
  holds after every prefix of a run exactly when every step of the run is good where it is taken.
-/
import Mathlib.Tactic

namespace NodeTemplate.Core

/-- a deterministic machine: one step gives a result and the state it leaves -/
structure Machine (Op St Res : Type) where
  step : St → Op → Res × St

namespace Machine

variable {Op St Res : Type} (M : Machine Op St Res)

/-- the state a step leaves -/
def next (s : St) (o : Op) : St := (M.step s o).2

/-- the result a step returns -/
def result (s : St) (o : Op) : Res := (M.step s o).1

def run (s : St) (ops : List Op) : St := ops.foldl M.next s

theorem run_cons (s : St) (o : Op) (ops : List Op) : M.run s (o :: ops) = M.run (M.next s o) ops := rfl

theorem run_snoc (s : St) (ops : List Op) (o : Op) : M.run s (ops ++ [o]) = M.next (M.run s ops) o := by
  simp [run, List.foldl_append]

/-- **Invariant rule.** What every step keeps holds after every run. -/
theorem run_inv {I : St → Prop} (hstep : ∀ s o, I s → I (M.next s o)) (s : St) (ops : List Op) (h : I s) :
    I (M.run s ops) := by
  induction ops generalizing s with
  | nil => exact h
  | cons o ops ih =>
    rw [run_cons]
    exact ih _ (hstep s o h)

/-- **Simulation rule.** A relation to an abstract state that every step keeps holds after every run, the abstract
state being folded over the same operations. -/
theorem run_sim {Abs : Type} {R : St → Abs → Prop} {anext : Abs → Op → Abs}
    (hstep : ∀ s a o, R s a → R (M.next s o) (anext a o)) (s : St) (a : Abs) (ops : List Op) (h : R s a) :
    R (M.run s ops) (ops.foldl anext a) := by
  induction ops generalizing s a with
  | nil => exact h
  | cons o ops ih => exact ih _ _ (hstep s a o h)

/-- **Exact prefix rule.** If a step from a state with the property keeps it exactly when the step is good, then the
property holds after every prefix of the run exactly when every step of the run is good in the state it is taken in. -/
theorem prefix_iff {I : St → Prop} {ok : Op → Prop} {good : St → Op → Prop}
    (hstep : ∀ s o, ok o → I s → (I (M.next s o) ↔ good s o)) (s : St) (ops : List Op) (hops : ∀ o ∈ ops, ok o)
    (h : I s) :
    (∀ p, p <+: ops → I (M.run s p)) ↔ ∀ p o, p ++ [o] <+: ops → good (M.run s p) o := by
  have hok : ∀ p o, p ++ [o] <+: ops → ok o := fun p o hp => hops o (hp.subset (by simp))
  have hsub : ∀ p o, p ++ [o] <+: ops → p <+: ops := fun p o hp => (List.prefix_append p [o]).trans hp
  constructor
  · intro hI p o hp
    have h1 := hI _ hp
    rw [run_snoc] at h1
    exact (hstep _ o (hok p o hp) (hI p (hsub p o hp))).1 h1
  · intro hgood p
    induction p using List.reverseRecOn with
    | nil => intro _; exact h
    | append_singleton p o ih =>
      intro hp
      rw [run_snoc]
      exact (hstep _ o (hok p o hp) (ih (hsub p o hp))).2 (hgood p o hp)

end Machine

end NodeTemplate.Core
