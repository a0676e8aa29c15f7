import Mathlib.Tactic.Cases
import Mathlib.Tactic.SplitIfs

/-!
# Computations that may fail

A Go function that returns an `error` keeps what it did before it failed. `Comp ε σ α` is such a
function: it reads and writes a state `σ`, and the state it reached is there whether it returns a
value or an error. `deferred` is a `defer` statement, `attempt` is a call whose error the caller
looks at.

Proofs about a computation go by four rules. `run_bind` and `run_bind_ok` take a sequence apart.
`Keeps` is a relation between the state before and the state after that every run respects, composed
along a sequence by `Keeps.bind`. `Raises` says what errors a computation may end in. `Ensures` is
what holds of the result and the state of the run from one state; `Ensures.bind` goes on from what the
first part of a sequence ensures.
-/

namespace Go

/-- A computation over the state `σ` that returns a value or fails with an error. -/
def Comp (ε σ α : Type) := σ → Except ε α × σ

namespace Comp

variable {ε σ α β γ : Type}

/-- The result of a computation, and the state it leaves. -/
def run (x : Comp ε σ α) (s : σ) : Except ε α × σ := x s

/-- The value of a run that does not fail, in the state it leaves. -/
def bind (x : Comp ε σ α) (f : α → Comp ε σ β) : Comp ε σ β := fun s =>
  match x s with
  | (.ok a, s') => f a s'
  | (.error e, s') => (.error e, s')

instance : Monad (Comp ε σ) where
  pure a := fun s => (.ok a, s)
  bind := bind

/-- `return err`. -/
def fail (e : ε) : Comp ε σ α := fun s => (.error e, s)

/-- The state. -/
def get : Comp ε σ σ := fun s => (.ok s, s)

/-- Change the state. -/
def modify (f : σ → σ) : Comp ε σ Unit := fun s => (.ok (), f s)

/-- `defer`: `cleanup` runs when `x` returns, in whichever way, and its own error is dropped. -/
def deferred (cleanup : Comp ε σ Unit) (x : Comp ε σ α) : Comp ε σ α := fun s =>
  ((x s).1, (cleanup (x s).2).2)

/-- A call whose error is looked at rather than returned. -/
def attempt (x : Comp ε σ α) : Comp ε σ (Except ε α) := fun s => (.ok (x s).1, (x s).2)

/-- A cleanup on the way out with an error, and only there. -/
def onError (cleanup : Comp ε σ Unit) (x : Comp ε σ α) : Comp ε σ α := fun s =>
  match x s with
  | (.ok a, s') => (.ok a, s')
  | (.error e, s') => (.error e, (cleanup s').2)

/-- `if c { x }`. -/
def when (c : Prop) [Decidable c] (x : Comp ε σ Unit) : Comp ε σ Unit := if c then x else pure ()

/-- A result that was computed before. -/
def ofExcept (r : Except ε α) : Comp ε σ α := fun s => (r, s)

/-- Returning a value leaves the state alone. -/
@[simp] theorem run_pure (a : α) (s : σ) : (pure a : Comp ε σ α).run s = (.ok a, s) := rfl
/-- Failing leaves the state as it is at that point: what was done before stays done. -/
@[simp] theorem run_fail (e : ε) (s : σ) : (fail e : Comp ε σ α).run s = (.error e, s) := rfl
/-- Reading the state does not change it. -/
@[simp] theorem run_get (s : σ) : (get : Comp ε σ σ).run s = (.ok s, s) := rfl
/-- A change of the state cannot fail. -/
@[simp] theorem run_modify (f : σ → σ) (s : σ) :
    (modify f : Comp ε σ Unit).run s = (.ok (), f s) := rfl
/-- An attempt turns the error into a value, and keeps what was done up to it. -/
@[simp] theorem run_attempt (x : Comp ε σ α) (s : σ) :
    x.attempt.run s = (.ok (x.run s).1, (x.run s).2) := rfl
/-- A result without effects. -/
@[simp] theorem run_ofExcept (r : Except ε α) (s : σ) :
    (ofExcept r : Comp ε σ α).run s = (r, s) := rfl
/-- The deferred call runs at the end, whatever the result, and its own error is dropped. -/
@[simp] theorem run_deferred (cleanup : Comp ε σ Unit) (x : Comp ε σ α) (s : σ) :
    (deferred cleanup x).run s = ((x.run s).1, (cleanup.run (x.run s).2).2) := rfl

/-- The second part runs in the state that the first one left, unless that failed. -/
theorem run_bind (x : Comp ε σ α) (f : α → Comp ε σ β) (s : σ) :
    (x >>= f).run s = match x.run s with
      | (.ok a, s') => (f a).run s'
      | (.error e, s') => (.error e, s') := rfl

/-- A sequence whose first part returns a value goes on with it. -/
theorem run_bind_of_ok {x : Comp ε σ α} {f : α → Comp ε σ β} {s s' : σ} {a : α}
    (h : x.run s = (.ok a, s')) : (x >>= f).run s = (f a).run s' := by
  rw [run_bind, h]

/-- A sequence whose first part fails stops there. -/
theorem run_bind_of_error {x : Comp ε σ α} {f : α → Comp ε σ β} {s s' : σ} {e : ε}
    (h : x.run s = (.error e, s')) : (x >>= f).run s = (.error e, s') := by
  rw [run_bind, h]

/-- A sequence that returns a value ran both of its parts. -/
theorem run_bind_ok {x : Comp ε σ α} {f : α → Comp ε σ β} {s s'' : σ} {b : β}
    (h : (x >>= f).run s = (.ok b, s'')) :
    ∃ a s', x.run s = (.ok a, s') ∧ (f a).run s' = (.ok b, s'') := by
  rw [run_bind] at h
  cases hx : x.run s with
  | mk r s' =>
    rw [hx] at h
    cases r with
    | ok a => exact ⟨a, s', rfl, h⟩
    | error e => cases h

/-- Nothing is cleaned up after a success. -/
theorem run_onError_of_ok {cleanup : Comp ε σ Unit} {x : Comp ε σ α} {s s' : σ} {a : α}
    (h : x.run s = (.ok a, s')) : (onError cleanup x).run s = (.ok a, s') := by
  rw [run] at h
  simp only [run, onError, h]

/-- After an error the cleanup runs, and the error is that of the computation. -/
theorem run_onError_of_error {cleanup : Comp ε σ Unit} {x : Comp ε σ α} {s s' : σ} {e : ε}
    (h : x.run s = (.error e, s')) :
    (onError cleanup x).run s = (.error e, (cleanup.run s').2) := by
  rw [run] at h
  simp only [run, onError, h]

instance : LawfulMonad (Comp ε σ) := LawfulMonad.mk' (Comp ε σ)
  (fun x => funext fun s => by
    show bind x (fun a s => (.ok a, s)) s = x s
    unfold bind
    split <;> simp_all)
  (fun _ _ => rfl)
  (fun x f g => funext fun s => by
    show bind (bind x f) g s = bind x (fun a => bind (f a) g) s
    unfold bind
    cases x s with
    | mk r s' => cases r <;> rfl)

/-! ## What every run respects -/

/-- Every run of `x` relates the state it starts in to the state it leaves. -/
def Keeps (R : σ → σ → Prop) (x : Comp ε σ α) : Prop := ∀ s, R s (x.run s).2

section
variable {R : σ → σ → Prop} (hr : ∀ s, R s s) (ht : ∀ s₁ s₂ s₃, R s₁ s₂ → R s₂ s₃ → R s₁ s₃)
include hr

/-- A value changes nothing. -/
theorem Keeps.pure (a : α) : Keeps R (pure a : Comp ε σ α) := fun s => hr s

/-- An error changes nothing. -/
theorem Keeps.fail (e : ε) : Keeps R (fail e : Comp ε σ α) := fun s => hr s

/-- A step that is taken only under a condition keeps what it keeps when it is taken. -/
theorem Keeps.when {c : Prop} [Decidable c] {x : Comp ε σ Unit} (hx : Keeps R x) :
    Keeps R (when c x) := by
  intro s
  unfold Comp.when
  split_ifs
  · exact hx s
  · exact hr s

/-- Reading the state changes nothing. -/
theorem Keeps.get : Keeps R (get : Comp ε σ σ) := fun s => hr s

/-- A result without effects changes nothing. -/
theorem Keeps.ofExcept (r : Except ε α) : Keeps R (ofExcept r : Comp ε σ α) := fun s => hr s

omit hr
include ht

/-- A sequence keeps what its parts keep. -/
theorem Keeps.bind {x : Comp ε σ α} {f : α → Comp ε σ β} (hx : Keeps R x)
    (hf : ∀ a, Keeps R (f a)) : Keeps R (x >>= f) := by
  intro s
  have hs := hx s
  rw [run_bind]
  cases hr : x.run s with
  | mk r s' =>
    rw [hr] at hs
    cases r with
    | ok a => exact ht _ _ _ hs (hf a s')
    | error e => exact hs

/-- With its cleanup, a computation keeps what both keep. -/
theorem Keeps.onError {cleanup : Comp ε σ Unit} {x : Comp ε σ α}
    (hc : Keeps R cleanup) (hx : Keeps R x) : Keeps R (onError cleanup x) := by
  intro s
  have hs := hx s
  cases hrun : x.run s with
  | mk r s' =>
    rw [hrun] at hs
    cases r with
    | ok a =>
      rw [run_onError_of_ok hrun]
      exact hs
    | error e =>
      rw [run_onError_of_error hrun]
      exact ht _ _ _ hs (hc s')

/-- With its deferred call, a computation keeps what both keep. -/
theorem Keeps.deferred {cleanup : Comp ε σ Unit} {x : Comp ε σ α}
    (hc : Keeps R cleanup) (hx : Keeps R x) : Keeps R (deferred cleanup x) :=
  fun s => ht _ _ _ (hx s) (hc _)

omit ht

/-- Catching the error does not change the state. -/
theorem Keeps.attempt {x : Comp ε σ α} (hx : Keeps R x) : Keeps R x.attempt := hx

end

/-! ## How a run may fail -/

/-- Every error of `x` is an `E`. -/
def Raises (E : ε → Prop) (x : Comp ε σ α) : Prop := ∀ s e, (x.run s).1 = .error e → E e

section
variable {E : ε → Prop}

/-- What never fails raises only errors that satisfy `E`. -/
theorem Raises.of_ok {x : Comp ε σ α} (h : ∀ s, ∃ a, (x.run s).1 = .ok a) : Raises E x := by
  intro s e he
  obtain ⟨a, ha⟩ := h s
  rw [ha] at he
  cases he

/-- An error that satisfies `E`. -/
theorem Raises.fail {e : ε} (h : E e) : Raises E (fail e : Comp ε σ α) := by
  rintro s e' ⟨⟩
  exact h

/-- A sequence raises the errors of its parts. -/
theorem Raises.bind {x : Comp ε σ α} {f : α → Comp ε σ β} (hx : Raises E x)
    (hf : ∀ a, Raises E (f a)) : Raises E (x >>= f) := by
  intro s e he
  cases hrun : x.run s with
  | mk r s' =>
    cases r with
    | ok a =>
      rw [run_bind_of_ok hrun] at he
      exact hf a s' e he
    | error e' =>
      rw [run_bind_of_error hrun] at he
      cases he
      exact hx s e (congrArg Prod.fst hrun)

end

/-! ## What a run ends in -/

/-- The run of `x` from `s` ends in a result and a state that satisfy `Q`. -/
def Ensures (x : Comp ε σ α) (s : σ) (Q : Except ε α → σ → Prop) : Prop := Q (x.run s).1 (x.run s).2

section
variable {s : σ} {P Q : Except ε α → σ → Prop} {x : Comp ε σ α}

/-- What is ensured of a run that is known. -/
theorem Ensures.of_run {r : Except ε α} {s' : σ} (h : Ensures x s Q) (hrun : x.run s = (r, s')) :
    Q r s' := by
  rw [Ensures, hrun] at h
  exact h

/-- A postcondition of the run that there is. -/
theorem ensures_of_run {r : Except ε α} {s' : σ} (hrun : x.run s = (r, s')) (h : Q r s') :
    Ensures x s Q := by
  rw [Ensures, hrun]
  exact h

/-- A sequence: what its first part ensures is where the second goes on, or is what the sequence
fails with. -/
theorem Ensures.bind {f : α → Comp ε σ β} {R : Except ε β → σ → Prop} (hx : Ensures x s P)
    (hok : ∀ a s', P (.ok a) s' → Ensures (f a) s' R)
    (herr : ∀ e s', P (.error e) s' → R (.error e) s') : Ensures (x >>= f) s R := by
  rw [Ensures] at hx ⊢
  rw [run_bind]
  cases hrun : x.run s with
  | mk r s' =>
    rw [hrun] at hx
    cases r with
    | ok a => exact hok a s' hx
    | error e => exact herr e s' hx

end

end Comp

end Go
