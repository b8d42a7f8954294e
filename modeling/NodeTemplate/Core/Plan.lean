/-
Programs that make calls which can fail, and the plans they follow.

A `Script` runs in a `World` that decides, from the calls made so far, whether the next call fails and with which error;
calls that cannot fail (`fallible op = false`) do not. A script returns a value or an error, and in both cases leaves the
calls it made. `exec plan` makes the calls of a list in order and stops at the first failure.

`Follows x plan a`: the script `x` makes exactly the calls of `plan`, stops at the first that fails and returns `a` if none
does. The rules follow the structure of a program (`pure`, `call`, `bind`, `ite`, `mapError`); what they give is read off
in two theorems:
- `Follows.outcome`: every execution is the whole plan, or a proper beginning of it with the error of the call it stops
  at;
- `Follows.prefix_of`: whatever the world, the calls made are a beginning of the plan; a beginning has reached a call, or
  stops before it (`Follows.reached_or_before`).
-/
import Mathlib.Tactic

namespace NodeTemplate.Core

/-- what happens to calls: an error, or none; infallible calls succeed -/
structure World (Op E : Type) (fallible : Op → Bool) where
  error : List Op → Op → Option E
  infallible : ∀ log op, fallible op = false → error log op = none

/-- a program over calls: given the world and the calls made before, a result and all the calls made -/
def Script (Op E : Type) (fallible : Op → Bool) (ε α : Type) : Type :=
  World Op E fallible → List Op → Except ε α × List Op

namespace Script

variable {Op E : Type} {fallible : Op → Bool} {ε ε' α β : Type}

instance : Monad (Script Op E fallible ε) where
  pure a := fun _ log => (.ok a, log)
  bind x f := fun w log =>
    match x w log with
    | (.ok a, log) => f a w log
    | (.error e, log) => (.error e, log)

/-- make one call; `err` says how the program reports its failure -/
def call (err : Op → E → ε) (op : Op) : Script Op E fallible ε Unit := fun w log =>
  match w.error log op with
  | none => (.ok (), log ++ [op])
  | some e => (.error (err op e), log)

def fail (e : ε) : Script Op E fallible ε α := fun _ log => (.error e, log)

/-- Rust's `map_err` -/
def mapError (f : ε → ε') (x : Script Op E fallible ε α) : Script Op E fallible ε' α := fun w log =>
  match x w log with
  | (.ok a, log) => (.ok a, log)
  | (.error e, log) => (.error (f e), log)

instance : LawfulMonad (Script Op E fallible ε) := LawfulMonad.mk' _
  (by
    intro α x
    funext w log
    show (match x w log with | (.ok a, log) => (.ok (id a), log) | (.error e, log) => (.error e, log)) = x w log
    rcases x w log with ⟨_ | _, _⟩ <;> rfl)
  (fun _ _ => rfl)
  (by
    intro α β γ x f g
    funext w log
    simp only [bind]
    rcases x w log with ⟨_ | _, _⟩ <;> rfl)

/-- the calls of a plan, in order -/
def exec (err : Op → E → ε) : List Op → Script Op E fallible ε Unit
  | [] => pure ()
  | op :: plan => call err op >>= fun _ => exec err plan

theorem exec_append (err : Op → E → ε) (p q : List Op) :
    (exec err (p ++ q) : Script Op E fallible ε Unit) = exec err p >>= fun _ => exec err q := by
  induction p with
  | nil => rfl
  | cons op p ih => rw [List.cons_append, exec, exec, ih, bind_assoc]

/-- **Executions of a plan.** -/
theorem exec_outcome (err : Op → E → ε) (plan : List Op) (w : World Op E fallible) (log : List Op) :
    exec err plan w log = (.ok (), log ++ plan) ∨
    ∃ p op q e, plan = p ++ op :: q ∧ w.error (log ++ p) op = some e ∧
      exec err plan w log = (.error (err op e), log ++ p) := by
  induction plan generalizing log with
  | nil => exact Or.inl (by rw [List.append_nil]; rfl)
  | cons op plan ih =>
    cases hop : w.error log op with
    | some e =>
      refine Or.inr ⟨[], op, plan, e, rfl, by rwa [List.append_nil], ?_⟩
      simp [exec, bind, call, hop]
    | none =>
      have hstep : exec err (op :: plan) w log = exec err plan w (log ++ [op]) := by
        simp [exec, bind, call, hop]
      rw [hstep]
      rcases ih (log ++ [op]) with hok | ⟨p, op', q, e, rfl, he, herr⟩
      · exact Or.inl (by rw [hok, List.append_assoc, List.singleton_append])
      · refine Or.inr ⟨op :: p, op', q, e, rfl, ?_, ?_⟩
        · rwa [List.append_assoc, List.singleton_append] at he
        · rw [herr, List.append_assoc, List.singleton_append]

theorem mapError_exec (f : ε → ε') (err : Op → E → ε) (plan : List Op) :
    (exec err plan : Script Op E fallible ε Unit).mapError f = exec (fun op e => f (err op e)) plan := by
  funext w log
  induction plan generalizing log with
  | nil => rfl
  | cons op plan ih =>
    have htail := ih (log ++ [op])
    cases hop : w.error log op with
    | some e => simp [exec, mapError, bind, call, hop]
    | none => simpa [exec, mapError, bind, call, hop] using htail

theorem exec_congr {err err' : Op → E → ε} {plan : List Op} (h : ∀ op ∈ plan, err op = err' op) :
    (exec err plan : Script Op E fallible ε Unit) = exec err' plan := by
  induction plan with
  | nil => rfl
  | cons op plan ih =>
    have hcall : (call err op : Script Op E fallible ε Unit) = call err' op := by
      unfold call
      rw [h op List.mem_cons_self]
    rw [exec, exec, hcall, ih fun o ho => h o (List.mem_cons_of_mem _ ho)]

/-! ## Following a plan -/

/-- `x` makes the calls of `plan` and returns `a` -/
def Follows (err : Op → E → ε) (x : Script Op E fallible ε α) (plan : List Op) (a : α) : Prop :=
  x = exec err plan >>= fun _ => pure a

namespace Follows

variable {err : Op → E → ε} {x : Script Op E fallible ε α} {plan p q : List Op} {a : α} {b : β}

theorem pure (err : Op → E → ε) (a : α) : Follows err (Pure.pure a : Script Op E fallible ε α) [] a := rfl

theorem call (err : Op → E → ε) (op : Op) : Follows err (Script.call err op : Script Op E fallible ε Unit) [op] () := by
  unfold Follows
  simp [exec]

theorem bind {f : α → Script Op E fallible ε β} (hx : Follows err x p a) (hf : Follows err (f a) q b) :
    Follows err (x >>= f) (p ++ q) b := by
  unfold Follows at *
  rw [hx, exec_append, bind_assoc, bind_assoc]
  simp only [pure_bind, hf]

/-- one call, then the rest -/
theorem andThen {op : Op} {y : Script Op E fallible ε β} (hy : Follows err y q b) :
    Follows err (Script.call err op >>= fun _ => y) (op :: q) b :=
  (Follows.call err op).bind (f := fun _ => y) hy

theorem of_eq {a' : α} (h : Follows err x p a) (hp : p = q) (ha : a = a') : Follows err x q a' := hp ▸ ha ▸ h

theorem mapError {f : ε → ε'} {err' : Op → E → ε'} (hx : Follows err x plan a)
    (herr : ∀ op ∈ plan, ∀ e, f (err op e) = err' op e) : Follows err' (x.mapError f) plan a := by
  have hcongr : (exec (fun op e => f (err op e)) plan : Script Op E fallible ε' Unit) = exec err' plan :=
    exec_congr fun op hop => funext (herr op hop)
  unfold Follows at *
  rw [hx, ← hcongr, ← mapError_exec]
  funext w log
  simp only [Script.mapError, Bind.bind, Pure.pure]
  rcases exec err plan w log with ⟨_ | _, _⟩ <;> rfl

/-- **Outcome.** The whole plan and its value, or a beginning of the plan and the error of the call after it. -/
theorem outcome (h : Follows err x plan a) (w : World Op E fallible) :
    x w [] = (.ok a, plan) ∨
    ∃ p op q e, plan = p ++ op :: q ∧ w.error p op = some e ∧ x w [] = (.error (err op e), p) := by
  unfold Follows at h
  rcases exec_outcome err plan w [] with hok | ⟨p, op, q, e, hplan, he, herr⟩
  · refine Or.inl ?_
    simp [h, Bind.bind, hok, Pure.pure]
  · refine Or.inr ⟨p, op, q, e, hplan, he, ?_⟩
    simp [h, Bind.bind, herr]

/-- a beginning of a plan has reached a call of it, or stops before -/
theorem reached_or_before {calls before rest : List Op} {op : Op} (h : calls <+: before ++ op :: rest) :
    op ∈ calls ∨ calls <+: before := by
  have hop : before ++ [op] <+: before ++ op :: rest := ⟨rest, by simp⟩
  rcases List.prefix_or_prefix_of_prefix hop h with hreached | hshort
  · exact Or.inl (hreached.subset (by simp))
  · rcases List.prefix_concat_iff.1 hshort with rfl | hbefore
    · exact Or.inl (by simp)
    · exact Or.inr hbefore

/-- the calls made are a beginning of the plan -/
theorem prefix_of (h : Follows err x plan a) (w : World Op E fallible) : (x w []).2 <+: plan := by
  rcases h.outcome w with hok | ⟨p, op, q, e, hplan, -, herr⟩
  · rw [hok]
  · rw [herr, hplan]
    exact List.prefix_append p (op :: q)

end Follows

end Script

end NodeTemplate.Core
