import Mailout.Go.Process
import Mailout.Go.Strconv
import Mailout.Spool

/-!
# Counting against the quota store

`limiter.check` of `internal/gateway/ratelimit.go`, as a program that calls the clock and the store.
It counts one message and its recipients, each in a counter of the current minute, and refuses as
soon as a counter is past its limit or cannot be reached.

`check_accepts` says what a check that returns no error has done: every dimension that is counted was
incremented once, and its counter was within the limit.
-/

namespace Mailout

open Go

/-- A `time.Duration`, and a reading of the clock since 1970: in nanoseconds. -/
def second : Nat := 1000000000

/-- `rateLimitWindow`. -/
def rateLimitWindow : Nat := 60 * second

/-- `defaultRateLimitTimeout`. -/
def defaultRateLimitTimeout : Int := 2 * second

/-- `RateLimit`, with the timeout of its store. -/
structure RateLimit where
  messagesPerMinute : Int
  recipientsPerMinute : Int
  timeout : Int
  deriving DecidableEq, Repr

/-- `limiter`. -/
structure Limiter where
  gateway : Bytes
  limits : RateLimit
  deriving DecidableEq, Repr

/-- What `limiter.key` makes a name from: `at_` is the clock it reads. -/
structure Key where
  gateway : Bytes
  account : Bytes
  dimension : Bytes
  at_ : Nat
  deriving DecidableEq, Repr

/-- `time.Now().Unix() / int64(rateLimitWindow.Seconds())`. -/
def windowOf (t : Nat) : Nat := t / second / (rateLimitWindow / second)

namespace Key

def window (key : Key) : Nat := windowOf key.at_

/-- `limiter.key`: the name of a counter. -/
def name (key : Key) : Bytes :=
  lit "mailout:" ++ key.gateway ++ [colon] ++ key.account ++ [colon] ++ key.dimension ++ [colon] ++
    formatNat key.window

end Key

/-- A call to the clock or to the store. A command to the store is given up at its deadline. -/
inductive StoreCall where
  | now
  | incrBy (key : Key) (by_ : Int) (deadline : Int)
  | expireNX (key : Key) (ttl : Nat) (deadline : Int)
  deriving DecidableEq, Repr

/-- What a call is answered with. -/
def StoreCall.Answer : StoreCall → Type
  | now => Nat
  | incrBy .. => Except Bytes Int
  | expireNX .. => Except Bytes Unit

abbrev StoreProg := Prog StoreCall StoreCall.Answer

/-- `time.Now()`. -/
def now : StoreProg Nat := Prog.perform StoreCall.now

/-- `INCRBY`. -/
def incrBy (key : Key) (by_ deadline : Int) : StoreProg (Except Bytes Int) :=
  Prog.perform (StoreCall.incrBy key by_ deadline)

/-- `EXPIRE ... NX`. -/
def expireNX (key : Key) (ttl : Nat) (deadline : Int) : StoreProg (Except Bytes Unit) :=
  Prog.perform (StoreCall.expireNX key ttl deadline)

/-- `errOverQuota`. -/
def errOverQuota (what : Bytes) : Err :=
  .smtp ⟨452, (4, 2, 2), lit "Too many " ++ what ++ lit " for this account, try again later"⟩

/-- `errStoreUnavailable`. -/
def errStoreUnavailable : Err := .smtp ⟨451, (4, 3, 2), lit "Quota store unavailable, try again later"⟩

/-- A row of the table in `limiter.check`. -/
structure Dimension where
  name : Bytes
  what : Bytes
  limit : Int
  by_ : Int
  deriving DecidableEq, Repr

namespace Limiter

/-- `limiter.increment`. The timeout runs from before the clock is read for the name; both commands
go out in one pipeline, whose error is the first of theirs. -/
def increment (l : Limiter) (account dimension : Bytes) (by_ timeout : Int) :
    StoreProg (Except Bytes Int) := do
  let start ← now
  let at_ ← now
  let key : Key := ⟨l.gateway, account, dimension, at_⟩
  let incr ← incrBy key by_ (start + timeout)
  let expire ← expireNX key (rateLimitWindow * 2) (start + timeout)
  match incr, expire with
  | .error e, _ => return .error e
  | .ok _, .error e => return .error e
  | .ok count, .ok () => return .ok count

/-- The timeout of one call. -/
def timeout (l : Limiter) : Int :=
  if l.limits.timeout = 0 then defaultRateLimitTimeout else l.limits.timeout

/-- The table of `limiter.check`. -/
def dimensions (l : Limiter) (recipients : Nat) : List Dimension :=
  [⟨lit "messages", lit "messages", l.limits.messagesPerMinute, 1⟩,
    ⟨lit "recipients", lit "recipients", l.limits.recipientsPerMinute, recipients⟩]

/-- The loop of `limiter.check`. -/
def checkDimensions (l : Limiter) (account : Bytes) : List Dimension → StoreProg (Except Err Unit)
  | [] => return .ok ()
  | d :: ds =>
    if d.limit ≤ 0 ∨ d.by_ ≤ 0 then checkDimensions l account ds
    else do
      match ← l.increment account d.name d.by_ l.timeout with
      | .error _ => return .error errStoreUnavailable
      | .ok count =>
        if count > d.limit then return .error (errOverQuota d.what)
        else checkDimensions l account ds

/-- `limiter.check`; a gateway without a quota has no limiter. -/
def check (l : Option Limiter) (account : Bytes) (recipients : Nat) :
    StoreProg (Except Err Unit) :=
  match l with
  | none => return .ok ()
  | some l => l.checkDimensions account (l.dimensions recipients)

end Limiter

/-! ## What a check does -/

/-- A command that counted: the amount, and the value it brought the counter to. -/
structure Charge where
  key : Key
  by_ : Int
  count : Int
  deriving DecidableEq, Repr

/-- The charge of an answered call, if it is one. -/
def chargeOf : (op : StoreCall) → op.Answer → Option Charge
  | .now, _ => none
  | .incrBy key by_ _, Except.ok count => some ⟨key, by_, count⟩
  | .incrBy .., Except.error _ => none
  | .expireNX .., _ => none

/-- The charges among the answers a program got. -/
def chargesIn (answers : List (Σ op, StoreCall.Answer op)) : List Charge :=
  answers.filterMap fun x => chargeOf x.1 x.2

/-- A dimension that is counted. -/
def Dimension.Counted (d : Dimension) : Prop := 0 < d.limit ∧ 0 < d.by_

instance (d : Dimension) : Decidable d.Counted := inferInstanceAs (Decidable (_ ∧ _))

namespace Limiter

variable {l : Limiter} {account : Bytes} {d : Dimension} {ds : List Dimension}

/-- The end of a turn of the loop of `check`. -/
def judge (l : Limiter) (account : Bytes) (d : Dimension) (ds : List Dimension)
    (incr : Except Bytes Int) (expire : Except Bytes Unit) : StoreProg (Except Err Unit) :=
  match incr, expire with
  | .ok count, .ok () =>
    if count > d.limit then .ret (.error (errOverQuota d.what)) else l.checkDimensions account ds
  | _, _ => .ret (.error errStoreUnavailable)

/-- A quantity without a limit is not counted. -/
theorem checkDimensions_skipped (h : ¬ d.Counted) :
    l.checkDimensions account (d :: ds) = l.checkDimensions account ds := by
  have hskip : d.limit ≤ 0 ∨ d.by_ ≤ 0 := by
    unfold Dimension.Counted at h
    omega
  rw [checkDimensions, if_pos hskip]

/-- A turn of the loop of `check`, call by call. -/
theorem checkDimensions_counted (h : d.Counted) : l.checkDimensions account (d :: ds) =
    .call .now fun (start : Nat) => .call .now fun at_ =>
      .call (.incrBy ⟨l.gateway, account, d.name, at_⟩ d.by_ (start + l.timeout)) fun incr =>
        .call (.expireNX ⟨l.gateway, account, d.name, at_⟩ (rateLimitWindow * 2)
          (start + l.timeout)) fun expire => l.judge account d ds incr expire := by
  have hcount : ¬ (d.limit ≤ 0 ∨ d.by_ ≤ 0) := by
    unfold Dimension.Counted at h
    omega
  rw [checkDimensions, if_neg hcount]
  refine congrArg (Prog.call _) (funext fun start => congrArg (Prog.call _) (funext fun at_ => ?_))
  refine congrArg (Prog.call _) (funext fun incr => congrArg (Prog.call _) (funext fun expire => ?_))
  cases incr with
  | error e => rfl
  | ok count =>
    cases expire with
    | error e => rfl
    | ok u => rfl

/-- The charge of a dimension that was found within its limit. -/
def Settles (l : Limiter) (account : Bytes) (d : Dimension) (c : Charge) : Prop :=
  c.key.gateway = l.gateway ∧ c.key.account = account ∧ c.key.dimension = d.name ∧ c.by_ = d.by_ ∧
    c.count ≤ d.limit

/-- A check that is accepted was told a count within the limit, and the other quantities were accepted after
it. -/
theorem judge_accepts {incr : Except Bytes Int} {expire : Except Bytes Unit}
    {h : List (Σ op, StoreCall.Answer op)}
    (hret : (l.judge account d ds incr expire).after h = some (.ret (.ok ()))) :
    ∃ count, incr = .ok count ∧ count ≤ d.limit ∧
      (l.checkDimensions account ds).after h = some (.ret (.ok ())) := by
  cases incr with
  | error e => exact nomatch (after_ret hret).2
  | ok count =>
    cases expire with
    | error e => exact nomatch (after_ret hret).2
    | ok u =>
      simp only [judge] at hret
      split_ifs at hret with hover
      · exact nomatch (after_ret hret).2
      · exact ⟨count, rfl, not_lt.mp hover, hret⟩

/-- **Accepted checks.** A check that returns no error charged every dimension it counts, in order
and once, and found each within its limit. -/
theorem check_accepts {h : List (Σ op, StoreCall.Answer op)}
    (hret : (l.checkDimensions account ds).after h = some (.ret (.ok ()))) :
    List.Forall₂ (l.Settles account) (ds.filter (·.Counted)) (chargesIn h) := by
  induction ds generalizing h with
  | nil =>
    obtain ⟨rfl, -⟩ := after_ret hret
    exact .nil
  | cons d ds ih =>
    by_cases hd : d.Counted
    · rw [checkDimensions_counted hd] at hret
      obtain ⟨start, h₁, rfl, hret₁⟩ := after_call_ret hret
      obtain ⟨at_, h₂, rfl, hret₂⟩ := after_call_ret hret₁
      obtain ⟨incr, h₃, rfl, hret₃⟩ := after_call_ret hret₂
      obtain ⟨expire, h₄, rfl, hret₄⟩ := after_call_ret hret₃
      obtain ⟨count, rfl, hle, hrest⟩ := judge_accepts hret₄
      rw [List.filter_cons_of_pos (by simpa using hd)]
      show List.Forall₂ _ _ (⟨⟨l.gateway, account, d.name, at_⟩, d.by_, count⟩ :: chargesIn h₄)
      exact .cons ⟨rfl, rfl, rfl, rfl, hle⟩ (ih hrest)
    · rw [checkDimensions_skipped hd] at hret
      rw [List.filter_cons_of_neg (by simpa using hd)]
      exact ih hret

end Limiter

/-! ## Names of counters -/

/-- The text `limiter.key` prints for a window, which is a signed number in the source. -/
def counterName (gateway account dimension : Bytes) (window : Int) : Bytes :=
  lit "mailout:" ++ gateway ++ [colon] ++ account ++ [colon] ++ dimension ++ [colon] ++
    formatInt window

/-- The name of a counter says whose it is, of what, and in which window. -/
theorem Key.name_eq (key : Key) :
    key.name = counterName key.gateway key.account key.dimension key.window := by
  rw [counterName, formatInt_of_nonneg (Int.natCast_nonneg _)]
  rfl

/-- A number is written without a colon. -/
theorem colon_not_mem_formatInt (n : Int) : colon ∉ formatInt n := by
  intro h
  rcases mem_formatInt h with hminus | hdigit
  · exact absurd hminus (by decide)
  · exact absurd hdigit.2 (by decide)

/-- The name of a counter ends in its window, behind the last colon. -/
theorem counterName_window {g g' u u' d d' : Bytes} {w w' : Int}
    (h : counterName g u d w = counterName g' u' d' w') :
    lit "mailout:" ++ g ++ [colon] ++ u ++ [colon] ++ d =
      lit "mailout:" ++ g' ++ [colon] ++ u' ++ [colon] ++ d' ∧ w = w' := by
  unfold counterName at h
  rw [List.append_assoc _ [colon], List.append_assoc _ [colon] (formatInt w')] at h
  obtain ⟨hfront, hwindow⟩ :=
    append_cons_inj_last (colon_not_mem_formatInt w) (colon_not_mem_formatInt w') h
  exact ⟨hfront, formatInt_inj hwindow⟩

/-- The name of a counter says which minute it counts. -/
theorem Key.window_of_name {key key' : Key} (h : key.name = key'.name) :
    key.window = key'.window := by
  rw [key.name_eq, key'.name_eq] at h
  exact Int.ofNat_inj.mp (counterName_window h).2

end Mailout
