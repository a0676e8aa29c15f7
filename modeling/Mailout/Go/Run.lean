import Mathlib.Data.List.Basic

/-!
# Runs of a transition system

A system is a function `step` that says what a label does to a state, if it can happen there at all.
`runs` takes the labels of a run one after the other. A property of the history and the state that
the first state has and every step keeps holds after every run (`runs_invariant`); where only the
steps that meet a condition keep it, it holds after every run all of whose steps meet the condition
(`runs_invariant_of_meets`). The history may also be what is noted of each step in the state where it
happens (`log_invariant`, `log_invariant_of_meets`).
-/

namespace Go

variable {σ ℓ : Type}

/-- The state a sequence of labels leads to, `none` if one of them cannot happen. -/
def runs (step : σ → ℓ → Option σ) (s : σ) : List ℓ → Option σ
  | [] => some s
  | l :: ls => (step s l).bind (runs step · ls)

variable {step : σ → ℓ → Option σ} {s t u : σ}

/-- A run begins with a step, and goes on from where that led. -/
theorem runs_cons {l : ℓ} {ls : List ℓ} (h : runs step s (l :: ls) = some u) :
    ∃ t, step s l = some t ∧ runs step t ls = some u :=
  Option.bind_eq_some_iff.mp h

/-- A run goes on from where another ended. -/
theorem runs_append {t : σ} {ls' : List ℓ} : ∀ {ls : List ℓ} {s : σ}, runs step s ls = some t →
    runs step t ls' = some u → runs step s (ls ++ ls') = some u
  | [], _, h, h' => Option.some.inj h ▸ h'
  | _ :: _, _, h, h' => by
    obtain ⟨r, hl, hls⟩ := runs_cons h
    exact Option.bind_eq_some_iff.mpr ⟨r, hl, runs_append hls h'⟩

/-- A condition on a label, in the state where it happens, for every step of a run. -/
def Meets (step : σ → ℓ → Option σ) (cond : σ → ℓ → Prop) (s : σ) : List ℓ → Prop
  | [] => True
  | l :: ls => cond s l ∧ ∀ t, step s l = some t → Meets step cond t ls

instance Meets.decidable {cond : σ → ℓ → Prop} [∀ s l, Decidable (cond s l)] :
    ∀ (s : σ) (ls : List ℓ), Decidable (Meets step cond s ls)
  | _, [] => isTrue trivial
  | s, l :: ls =>
    have : ∀ t, Decidable (Meets step cond t ls) := fun t => Meets.decidable t ls
    inferInstanceAs (Decidable (cond s l ∧ ∀ t ∈ step s l, Meets step cond t ls))

/-- What every step that meets the condition keeps holds after every run that meets it; the
invariant may speak of the labels so far. -/
theorem runs_invariant_of_meets {cond : σ → ℓ → Prop} {I : List ℓ → σ → Prop}
    (hstep : ∀ past t l u, I past t → cond t l → step t l = some u → I (past ++ [l]) u) :
    ∀ (ls past : List ℓ) (s : σ), I past s → Meets step cond s ls → runs step s ls = some u →
      I (past ++ ls) u := by
  intro ls
  induction ls with
  | nil =>
    intro past s hs _ hrun
    cases hrun
    rwa [List.append_nil]
  | cons l ls ih =>
    intro past s hs hmeets hrun
    obtain ⟨t, hl, hls⟩ := runs_cons hrun
    have := ih (past ++ [l]) t (hstep past s l t hs hmeets.1 hl) (hmeets.2 t hl) hls
    rwa [List.append_assoc, List.singleton_append] at this

/-- A condition that says nothing is met by every run. -/
theorem meets_true (ls : List ℓ) : ∀ s : σ, Meets step (fun _ _ => True) s ls := by
  induction ls with
  | nil => exact fun _ => trivial
  | cons l ls ih => exact fun _ => ⟨trivial, fun t _ => ih t⟩

/-- What every step keeps holds after every run. -/
theorem runs_invariant {I : List ℓ → σ → Prop} (h₀ : I [] s)
    (hstep : ∀ past t l u, I past t → step t l = some u → I (past ++ [l]) u) {ls : List ℓ}
    (hrun : runs step s ls = some u) : I ls u :=
  runs_invariant_of_meets (I := I) (fun past t l u hi _ hs => hstep past t l u hi hs) ls [] s h₀
    (meets_true ls s) hrun

/-- What is noted of the steps of a run, each in the state where it happens. -/
def log {ν : Type} (step : σ → ℓ → Option σ) (note : σ → ℓ → ν) (s : σ) : List ℓ → List ν
  | [] => []
  | l :: ls => note s l :: (step s l).elim [] (log step note · ls)

/-- What every step that meets the condition keeps holds after every run that meets it; the
invariant speaks of what was noted so far. -/
theorem log_invariant_of_meets {ν : Type} {note : σ → ℓ → ν} {cond : σ → ℓ → Prop}
    {I : List ν → σ → Prop}
    (hstep : ∀ past t l u, I past t → cond t l → step t l = some u → I (past ++ [note t l]) u) :
    ∀ (ls : List ℓ) (past : List ν) (s : σ), I past s → Meets step cond s ls →
      runs step s ls = some u → I (past ++ log step note s ls) u := by
  intro ls
  induction ls with
  | nil =>
    intro past s hs _ hrun
    cases hrun
    rwa [log, List.append_nil]
  | cons l ls ih =>
    intro past s hs hmeets hrun
    obtain ⟨t, hl, hls⟩ := runs_cons hrun
    have := ih (past ++ [note s l]) t (hstep past s l t hs hmeets.1 hl) (hmeets.2 t hl) hls
    rw [List.append_assoc, List.singleton_append] at this
    rwa [log, hl]

/-- What every step keeps holds after every run; the invariant speaks of what was noted so far. -/
theorem log_invariant {ν : Type} {note : σ → ℓ → ν} {I : List ν → σ → Prop}
    (hstep : ∀ past t l u, I past t → step t l = some u → I (past ++ [note t l]) u)
    (ls : List ℓ) (past : List ν) (s : σ) (hs : I past s) (hrun : runs step s ls = some u) :
    I (past ++ log step note s ls) u :=
  log_invariant_of_meets (fun past t l u hi _ hl => hstep past t l u hi hl) ls past s hs
    (meets_true ls s) hrun

end Go
