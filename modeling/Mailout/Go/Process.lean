import Mailout.Go.Run
import Mathlib.Logic.Function.Basic

/-!
# Processes that share a service

A `Prog` is a program that calls a service and goes on with the answer. Any number of programs run
side by side: a step of the whole is one call of one of them being answered (`Act.answered`), or the
service moving on its own (`Act.moved`). The service decides which answers it may give and what each
does to its state.

`history_follows` says what a program has left to do after its part of a run: what `Prog.after`
computes from the answers it got.
-/

namespace Go

/-- A program that calls operations `Op`, an operation `op` being answered with an `Ans op`. -/
inductive Prog (Op : Type) (Ans : Op → Type) (α : Type) where
  | ret (a : α)
  | call (op : Op) (k : Ans op → Prog Op Ans α)

variable {Op : Type} {Ans : Op → Type} {α β ι σ μ : Type}

namespace Prog

/-- The second program from where the first one returns. -/
def bind : Prog Op Ans α → (α → Prog Op Ans β) → Prog Op Ans β
  | ret a, f => f a
  | call op k, f => call op fun ans => bind (k ans) f

instance : Monad (Prog Op Ans) where
  pure := ret
  bind := bind

/-- One call. -/
def perform (op : Op) : Prog Op Ans (Ans op) := call op ret

/-- What a program has left to do after the answers given, `none` if it does not ask for them. -/
def after [DecidableEq Op] : List (Σ op, Ans op) → Prog Op Ans α → Option (Prog Op Ans α)
  | [], p => some p
  | _ :: _, ret _ => none
  | ⟨op', ans⟩ :: rest, call op k => if h : op' = op then after rest (k (h ▸ ans)) else none

/-- The result of a program that returned. -/
def result : Prog Op Ans α → Option α
  | ret a => some a
  | call .. => none

/-- Whatever a program is answered, its result is a `P`. -/
def Returns (P : α → Prop) : Prog Op Ans α → Prop
  | ret a => P a
  | call _ k => ∀ ans, (k ans).Returns P

end Prog

/-- A service with the state `σ`: what an answer to a call does to it, `none` if it cannot be
answered so, and what it does on its own. -/
structure Service (Op : Type) (Ans : Op → Type) (σ μ : Type) where
  serve : σ → (op : Op) → Ans op → Option σ
  move : σ → μ → Option σ

/-- A program on its own at a service, from its first call to its result: the service may move before
each call and at the end. -/
inductive Prog.Completes (svc : Service Op Ans σ μ) : σ → Prog Op Ans α → σ → α → Prop
  | ret (s : σ) (a : α) : Completes svc s (.ret a) s a
  | call {s s₁ s' : σ} {op : Op} {ans : Ans op} {k : Ans op → Prog Op Ans α} {a : α} :
      svc.serve s op ans = some s₁ → Completes svc s₁ (k ans) s' a →
      Completes svc s (.call op k) s' a
  | moved {s s₁ s' : σ} {m : μ} {p : Prog Op Ans α} {a : α} :
      svc.move s m = some s₁ → Completes svc s₁ p s' a → Completes svc s p s' a

namespace Prog.Completes

variable {svc : Service Op Ans σ μ} {s s' : σ} {I : σ → Prop}

/-- What the moves of the service keep holds behind a program that makes no more calls. -/
theorem of_ret {a b : α} (hmove : ∀ s m s', I s → svc.move s m = some s' → I s')
    (h : Completes svc s (.ret a) s' b) (hs : I s) : I s' ∧ b = a := by
  generalize hp : (Prog.ret a : Prog Op Ans α) = p at h
  induction h with
  | ret s c =>
    cases hp
    exact ⟨hs, rfl⟩
  | call hserve hrest ih => cases hp
  | moved hm hrest ih => exact ih (hmove _ _ _ hs hm) hp

/-- What the moves of the service keep holds when the first call is answered. -/
theorem of_call {op : Op} {k : Ans op → Prog Op Ans α} {a : α}
    (hmove : ∀ s m s', I s → svc.move s m = some s' → I s')
    (h : Completes svc s (.call op k) s' a) (hs : I s) :
    ∃ s₁ ans s₂, I s₁ ∧ svc.serve s₁ op ans = some s₂ ∧ Completes svc s₂ (k ans) s' a := by
  generalize hp : Prog.call op k = p at h
  induction h with
  | ret s c => cases hp
  | call hserve hrest ih =>
    cases hp
    exact ⟨_, _, _, hs, hserve, hrest⟩
  | moved hm hrest ih => exact ih (hmove _ _ _ hs hm) hp

end Prog.Completes

/-- A step of a system of processes. -/
inductive Act (ι : Type) (Op : Type) (Ans : Op → Type) (μ : Type) where
  | answered (i : ι) (op : Op) (ans : Ans op)
  | moved (m : μ)

/-- The processes and the service they share. -/
structure Processes (ι : Type) (Op : Type) (Ans : Op → Type) (α σ : Type) where
  service : σ
  procs : ι → Prog Op Ans α

section
variable [DecidableEq Op] [DecidableEq ι]

/-- What a step does. -/
def Processes.step (svc : Service Op Ans σ μ) (c : Processes ι Op Ans α σ) :
    Act ι Op Ans μ → Option (Processes ι Op Ans α σ)
  | .moved m => (svc.move c.service m).map fun s => { c with service := s }
  | .answered i op ans =>
    match c.procs i with
    | .ret _ => none
    | .call op' k =>
      if h : op = op' then
        (svc.serve c.service op ans).map fun s => ⟨s, Function.update c.procs i (k (h ▸ ans))⟩
      else none

/-- The answers one process got. -/
def answersTo (i : ι) : List (Act ι Op Ans μ) → List (Σ op, Ans op)
  | [] => []
  | .moved _ :: acts => answersTo i acts
  | .answered j op ans :: acts => if j = i then ⟨op, ans⟩ :: answersTo i acts else answersTo i acts

variable {svc : Service Op Ans σ μ} {c c' : Processes ι Op Ans α σ}

/-- A move of the service leaves the programs as they are. -/
theorem step_moved {m : μ} (h : c.step svc (.moved m) = some c') :
    ∃ s, svc.move c.service m = some s ∧ c' = { c with service := s } := by
  obtain ⟨s, hs, rfl⟩ := Option.map_eq_some_iff.mp h
  exact ⟨s, hs, rfl⟩

/-- A call is answered to a process that makes it. -/
theorem step_answered {i : ι} {op : Op} {ans : Ans op}
    (h : c.step svc (.answered i op ans) = some c') :
    ∃ k s, c.procs i = .call op k ∧ svc.serve c.service op ans = some s ∧
      c' = ⟨s, Function.update c.procs i (k ans)⟩ := by
  rw [Processes.step] at h
  cases hp : c.procs i with
  | ret a => rw [hp] at h; cases h
  | call op' k =>
    rw [hp] at h
    by_cases heq : op = op'
    · subst heq
      simp only [dif_pos] at h
      obtain ⟨s, hs, rfl⟩ := Option.map_eq_some_iff.mp h
      exact ⟨k, s, rfl, hs, rfl⟩
    · simp only [dif_neg heq] at h
      cases h

omit [DecidableEq Op] in
/-- The answers to a program in two stretches are those of one after the other. -/
theorem answersTo_append (i : ι) (acts acts' : List (Act ι Op Ans μ)) :
    answersTo i (acts ++ acts') = answersTo i acts ++ answersTo i acts' := by
  induction acts with
  | nil => rfl
  | cons act acts ih =>
    cases act with
    | moved m => exact ih
    | answered j op ans =>
      rw [List.cons_append, answersTo, answersTo, ih]
      split <;> rfl

/-- A program goes on from where it was. -/
theorem after_append {p q : Prog Op Ans α} {h h' : List (Σ op, Ans op)} (hp : p.after h = some q) :
    p.after (h ++ h') = q.after h' := by
  induction h generalizing p with
  | nil =>
    cases hp
    rfl
  | cons x h ih =>
    obtain ⟨op', ans⟩ := x
    cases p with
    | ret a => cases hp
    | call op k =>
      rw [Prog.after] at hp
      rw [List.cons_append, Prog.after]
      by_cases heq : op' = op
      · rw [dif_pos heq] at hp ⊢
        exact ih hp
      · rw [dif_neg heq] at hp
        cases hp

/-- A program that returned got an answer to its first call. -/
theorem after_call_ret {op : Op} {k : Ans op → Prog Op Ans α} {h : List (Σ op, Ans op)} {a : α}
    (hp : (Prog.call op k).after h = some (.ret a)) :
    ∃ ans rest, h = ⟨op, ans⟩ :: rest ∧ (k ans).after rest = some (.ret a) := by
  cases h with
  | nil => cases hp
  | cons x rest =>
    obtain ⟨op', ans⟩ := x
    rw [Prog.after] at hp
    by_cases heq : op' = op
    · subst heq
      rw [dif_pos rfl] at hp
      exact ⟨ans, rest, rfl, hp⟩
    · rw [dif_neg heq] at hp
      cases hp

/-- A program that returned gets no more answers. -/
theorem after_ret {a b : α} {h : List (Σ op, Ans op)}
    (hp : (Prog.ret a : Prog Op Ans α).after h = some (.ret b)) : h = [] ∧ a = b := by
  cases h with
  | nil =>
    cases hp
    exact ⟨rfl, rfl⟩
  | cons x rest => cases hp

/-- **Processes in a run.** What a process has left to do is what it started with, after the answers
it got. -/
theorem history_follows {acts : List (Act ι Op Ans μ)} {c₀ : Processes ι Op Ans α σ}
    (h : runs (Processes.step svc) c₀ acts = some c) (i : ι) :
    (c₀.procs i).after (answersTo i acts) = some (c.procs i) := by
  refine runs_invariant (I := fun acts c => (c₀.procs i).after (answersTo i acts) =
    some (c.procs i)) rfl ?_ h
  intro past t act u ht hstep
  rw [answersTo_append, after_append ht]
  cases act with
  | moved m =>
    obtain ⟨s, -, rfl⟩ := step_moved hstep
    rfl
  | answered j op ans =>
    obtain ⟨k, s, hj, -, rfl⟩ := step_answered hstep
    by_cases hij : j = i
    · subst hij
      simp [answersTo, Prog.after, hj]
    · simp [answersTo, Prog.after, hij, Function.update_of_ne (Ne.symm hij)]

end

end Go
