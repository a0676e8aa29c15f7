import Mathlib.Data.List.Basic

/-!
# Reading what changes

A reader copies items of an environment one after the other while the environment changes. Some of the
items are watched: when one of them changes, a signal is given that makes the reader start over. `Tracks`
says that this is enough: what was read of the watched items is what they are, or the signal is given. It
is kept by everything either of them can do, so that a reader that finished without a signal has a copy of
all the items at one moment, although it read them at many.
-/

namespace Go

variable {ι ν : Type}

/-- What was read of the watched items is what they are. -/
def Current (env : ι → ν) (watched : ι → Prop) (seen : List (ι × ν)) : Prop :=
  ∀ p ∈ seen, watched p.1 → p.2 = env p.1

/-- The reader is up to date, or a signal is given. -/
def Tracks (signal : Prop) (env : ι → ν) (watched : ι → Prop) (seen : List (ι × ν)) : Prop :=
  signal ∨ Current env watched seen

variable {signal signal' : Prop} {env env' : ι → ν} {watched watched' : ι → Prop}
  {seen : List (ι × ν)}

/-- A reader that starts over. -/
theorem Tracks.start : Tracks signal env watched [] :=
  .inr fun p hp => by cases hp

/-- One more item is read. -/
theorem Tracks.read (h : Tracks signal env watched seen) (i : ι) :
    Tracks signal env watched ((i, env i) :: seen) := by
  refine h.imp id fun hcurrent => ?_
  intro p hp hw
  rcases List.mem_cons.mp hp with rfl | hp
  · rfl
  · exact hcurrent p hp hw

/-- The environment changes, and what is watched. The signal is given if a watched item changed, or is
watched anew. -/
theorem Tracks.change (h : Tracks signal env watched seen) (hkeep : signal → signal')
    (hraise : ∀ i, watched' i → signal' ∨ watched i ∧ env' i = env i) :
    Tracks signal' env' watched' seen := by
  by_cases hsignal : signal'
  · exact .inl hsignal
  · rcases h with hgiven | hcurrent
    · exact absurd (hkeep hgiven) hsignal
    · right
      intro p hp hw
      obtain ⟨hwatched, hsame⟩ := (hraise p.1 hw).resolve_left hsignal
      rw [hcurrent p hp hwatched, hsame]

end Go
