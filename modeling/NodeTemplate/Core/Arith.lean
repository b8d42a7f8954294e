/-
Rust's fixed-width arithmetic, as the language documents it.

- `checkedAdd`: `u32::checked_add`, `None` on overflow.
- `Profile.fit`: a plain `+` or `*` on a `w`-bit unsigned type whose exact result is `x`. A build with overflow checks
  (debug) panics on overflow; a build without them (release) wraps. Every result about the program is stated for both.
- `Profile.sum`: a fold of `+` over a list, the shape `iter().fold(zero, |acc, n| acc + n)`.
- `asU32`: a cast `as u32`, which truncates without a check in every profile.
-/
import Mathlib.Tactic

namespace NodeTemplate.Core

/-- `u32::checked_add` -/
def checkedAdd (a b : UInt32) : Option UInt32 := if a.toNat + b.toNat < 2 ^ 32 then some (a + b) else none

theorem checkedAdd_one_eq_none {a : UInt32} : checkedAdd a 1 = none ↔ a.toNat = 2 ^ 32 - 1 := by
  have ha := a.toNat_lt
  simp only [checkedAdd, UInt32.toNat_one]
  split_ifs with h
  · simp only [false_iff]; omega
  · simp only [true_iff]; omega

theorem checkedAdd_one_toNat {a b : UInt32} (h : checkedAdd a 1 = some b) : b.toNat = a.toNat + 1 := by
  simp only [checkedAdd, UInt32.toNat_one] at h
  split_ifs at h with hlt
  rw [Option.some.injEq] at h
  rw [← h, UInt32.toNat_add, UInt32.toNat_one, Nat.mod_eq_of_lt hlt]

/-- whether overflow checks are compiled in -/
inductive Profile where
  | debug
  | release
deriving DecidableEq, Repr

/-- an arithmetic operation on `w`-bit unsigned integers with exact result `x`; `none` is a panic -/
def Profile.fit (p : Profile) (w x : ℕ) : Option ℕ :=
  if x < 2 ^ w then some x
  else match p with
    | .debug => none
    | .release => some (x % 2 ^ w)

theorem Profile.fit_of_lt (p : Profile) {w x : ℕ} (h : x < 2 ^ w) : p.fit w x = some x := if_pos h

/-- `iter().fold(zero, |acc, n| acc + n)` on `w`-bit unsigned integers -/
def Profile.sum (p : Profile) (w : ℕ) (l : List ℕ) : Option ℕ := l.foldlM (fun acc n => p.fit w (acc + n)) 0

theorem Profile.foldlM_fit (p : Profile) (w : ℕ) (l : List ℕ) (acc : ℕ) (h : acc + l.sum < 2 ^ w) :
    l.foldlM (fun acc n => p.fit w (acc + n)) acc = some (acc + l.sum) := by
  induction l generalizing acc with
  | nil => simp
  | cons n l ih =>
    rw [List.sum_cons] at h
    have hn : p.fit w (acc + n) = some (acc + n) := p.fit_of_lt (by omega)
    rw [List.foldlM_cons, hn, Option.bind_eq_bind, Option.bind_some, ih (acc + n) (by omega), List.sum_cons,
      Nat.add_assoc]

/-- a sum that fits is exact in every profile: no partial sum overflows -/
theorem Profile.sum_of_lt (p : Profile) {w : ℕ} {l : List ℕ} (h : l.sum < 2 ^ w) : p.sum w l = some l.sum := by
  have := p.foldlM_fit w l 0 (by simpa using h)
  simpa [Profile.sum] using this

/-- `n as u32` -/
def asU32 (n : ℕ) : ℕ := n % 2 ^ 32

theorem asU32_of_lt {n : ℕ} (h : n < 2 ^ 32) : asU32 n = n := Nat.mod_eq_of_lt h

end NodeTemplate.Core
