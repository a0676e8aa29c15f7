import Mailout.Go.Comp

/-!
# Refinement of computations

A computation `x` over states `σ` refines one over states `τ` along a relation `R` between them, if
from related states both end in the same way and leave related states. `Matches` is this for one pair
of states; its rules follow the way a computation is built (`Matches.bind`, `Matches.attempt`), with a
step that only one of the two takes as a rule of its own (`Matches.left`, `Matches.right`).
-/

namespace Go.Comp

variable {ε σ τ α β : Type}

/-- From these states, `x` and `X` end in the same way, in states that are related. -/
def Matches (R : σ → τ → Prop) (x : Comp ε σ α) (X : Comp ε τ α) (s : σ) (t : τ) : Prop :=
  (x.run s).1 = (X.run t).1 ∧ R (x.run s).2 (X.run t).2

/-- From all related states. -/
def Refines (R : σ → τ → Prop) (x : Comp ε σ α) (X : Comp ε τ α) : Prop :=
  ∀ s t, R s t → Matches R x X s t

section
variable {R R₁ : σ → τ → Prop} {x : Comp ε σ α} {X : Comp ε τ α} {s s' : σ} {t t' : τ}
  {f : α → Comp ε σ β} {F : α → Comp ε τ β}

/-- Two runs with the same result that end in related states. -/
theorem Matches.of_run {r : Except ε α} (hx : x.run s = (r, s')) (hX : X.run t = (r, t'))
    (h : R s' t') : Matches R x X s t := by
  rw [Matches, hx, hX]
  exact ⟨rfl, h⟩

/-- The two end in the same way, in related states. -/
theorem Matches.elim (h : Matches R x X s t) :
    ∃ r s' t', x.run s = (r, s') ∧ X.run t = (r, t') ∧ R s' t' :=
  ⟨_, _, _, rfl, Prod.ext h.1.symm rfl, h.2⟩

/-- A value on both sides. -/
theorem Matches.pure (a : α) (h : R s t) : Matches R (pure a) (pure a : Comp ε τ α) s t := ⟨rfl, h⟩

/-- An error on both sides. -/
theorem Matches.fail (e : ε) (h : R s t) : Matches R (fail e) (fail e : Comp ε τ α) s t := ⟨rfl, h⟩

/-- A result without effects on both sides. -/
theorem Matches.ofExcept (r : Except ε α) (h : R s t) :
    Matches R (ofExcept r) (ofExcept r : Comp ε τ α) s t := ⟨rfl, h⟩

/-- Catching an error on both sides. -/
theorem Matches.attempt (h : Matches R x X s t) : Matches R x.attempt X.attempt s t :=
  ⟨congrArg Except.ok h.1, h.2⟩

/-- What is related more closely is related. -/
theorem Matches.mono (h : Matches R₁ x X s t) (hR : ∀ s t, R₁ s t → R s t) : Matches R x X s t :=
  ⟨h.1, hR _ _ h.2⟩

/-- A sequence, of which the first parts match. -/
theorem Matches.bind (hx : Matches R₁ x X s t)
    (hf : ∀ a s' t', R₁ s' t' → Matches R (f a) (F a) s' t') (herr : ∀ s' t', R₁ s' t' → R s' t') :
    Matches R (x >>= f) (X >>= F) s t := by
  obtain ⟨r, s', t', hrun, hRun, h⟩ := hx.elim
  cases r with
  | ok a =>
    rw [Matches, run_bind_of_ok hrun, run_bind_of_ok hRun]
    exact hf a s' t' h
  | error e => exact .of_run (run_bind_of_error hrun) (run_bind_of_error hRun) (herr s' t' h)

/-- A step that `x` takes by itself. -/
theorem Matches.left {γ : Type} {y : Comp ε σ γ} {g : γ → Comp ε σ α} {c : γ}
    (hrun : y.run s = (.ok c, s')) (h : Matches R (g c) X s' t) : Matches R (y >>= g) X s t := by
  rwa [Matches, run_bind_of_ok hrun]

/-- A step that `X` takes by itself. -/
theorem Matches.right {γ : Type} {Y : Comp ε τ γ} {G : γ → Comp ε τ α} {c : γ}
    (hrun : Y.run t = (.ok c, t')) (h : Matches R x (G c) s t') : Matches R x (Y >>= G) s t := by
  rwa [Matches, run_bind_of_ok hrun]

/-- `x` cleans up behind itself, on whichever way out. -/
theorem Matches.deferred {cleanup : Comp ε σ Unit} (hx : Matches R₁ x X s t)
    (h : ∀ s' t', R₁ s' t' → R (cleanup.run s').2 t') : Matches R (deferred cleanup x) X s t :=
  ⟨hx.1, h _ _ hx.2⟩

/-- A sequence refines a sequence, part by part. -/
theorem Refines.bind (hx : Refines R x X) (hf : ∀ a, Refines R (f a) (F a)) :
    Refines R (x >>= f) (X >>= F) :=
  fun s t h => (hx s t h).bind (fun a s' t' h' => hf a s' t' h') fun _ _ h' => h'

/-- Catching an error refines catching it. -/
theorem Refines.attempt (hx : Refines R x X) : Refines R x.attempt X.attempt :=
  fun s t h => (hx s t h).attempt

/-- A value refines itself. -/
theorem refines_pure (a : α) : Refines R (Pure.pure a) (Pure.pure a : Comp ε τ α) :=
  fun _ _ h => .pure a h

/-- An error refines itself. -/
theorem refines_fail (e : ε) : Refines R (Comp.fail e) (Comp.fail e : Comp ε τ α) :=
  fun _ _ h => .fail e h

/-- Both look at their states, which need not be the same for what they do next to match. -/
theorem Refines.get {k : σ → Comp ε σ α} {K : τ → Comp ε τ α}
    (h : ∀ s t, R s t → Matches R (k s) (K t) s t) : Refines R (get >>= k) (get >>= K) :=
  fun s t hR => .left (run_get s) (.right (run_get t) (h s t hR))

/-- A step that is taken only under a condition, on both sides under the same one. -/
theorem Refines.when {c : Prop} [Decidable c] {y : Comp ε σ Unit} {Y : Comp ε τ Unit}
    (h : Refines R y Y) : Refines R (when c y) (when c Y) := by
  unfold Comp.when
  split_ifs
  · exact h
  · exact refines_pure ()

end

end Go.Comp
