import Mailout.Render
import Mathlib.Data.List.Sort

/-!
# Dropping accounts until a configuration fits

`FitAccounts` of `internal/render/render.go`. The accounts are ordered by the size each would have on
its own, and dropped from the largest down until the configuration without them fits the budget. How
large a configuration is, is a parameter, and nothing is assumed of it: neither that it grows with the
accounts nor that it is made up of their sizes.

The loop passes prefixes of the order that do not fit and stops at the first that does
(`fitLoop_cases`); all that is said about what is dropped (`Fitted`) is read off the place where it
stops.
-/

namespace Mailout

open Go

/-! ## The elements of a list at the positions that are left -/

section
variable {α : Type}

/-- The elements whose position, counted from `i`, is not dropped. -/
def keptFrom (dropped : List Nat) : Nat → List α → List α
  | _, [] => []
  | i, x :: xs => if i ∈ dropped then keptFrom dropped (i + 1) xs else x :: keptFrom dropped (i + 1) xs

/-- Dropping leaves the others in their order. -/
theorem keptFrom_sublist (dropped : List Nat) (xs : List α) :
    ∀ i, (keptFrom dropped i xs).Sublist xs := by
  induction xs with
  | nil => exact fun _ => .slnil
  | cons x xs ih =>
    intro i
    rw [keptFrom]
    split_ifs
    · exact (ih (i + 1)).cons x
    · exact (ih (i + 1)).cons_cons x

/-- With nothing to drop, all are kept. -/
theorem keptFrom_nil (xs : List α) : ∀ i, keptFrom [] i xs = xs := by
  induction xs with
  | nil => exact fun _ => rfl
  | cons x xs ih =>
    intro i
    rw [keptFrom, if_neg List.not_mem_nil, ih]

/-- Dropping an index that exists makes the list shorter. -/
theorem keptFrom_length_lt {dropped : List Nat} {xs : List α} : ∀ {i j : Nat},
    j < xs.length → i + j ∈ dropped → (keptFrom dropped i xs).length < xs.length := by
  induction xs with
  | nil => exact fun hj => absurd hj (Nat.not_lt_zero _)
  | cons x xs ih =>
    intro i j hj hmem
    have hle := (keptFrom_sublist dropped xs (i + 1)).length_le
    rw [keptFrom]
    split_ifs with hi
    · rw [List.length_cons]
      omega
    · cases j with
      | zero => exact absurd hmem hi
      | succ j =>
        have hlt := @ih (i + 1) j (by simpa using hj) (by rwa [Nat.add_right_comm, Nat.add_assoc])
        rw [List.length_cons, List.length_cons]
        omega

/-- With all of them dropped, none is left. -/
theorem keptFrom_all {dropped : List Nat} {xs : List α} : ∀ {i : Nat},
    (∀ j < xs.length, i + j ∈ dropped) → keptFrom dropped i xs = [] := by
  induction xs with
  | nil => exact fun _ => rfl
  | cons x xs ih =>
    intro i h
    have hi : i ∈ dropped := h 0 (by simp)
    rw [keptFrom, if_pos hi]
    refine ih fun j hj => ?_
    rw [show i + 1 + j = i + (j + 1) by omega]
    exact h (j + 1) (by simpa using hj)

end

/-! ## The function -/

/-- `marshalledSize`, of a configuration and of an account. -/
structure Marshaller where
  config : DataplaneConfig → Except Bytes Int
  account : Account → Except Bytes Int

/-- `sized`. -/
structure Sized where
  index : Nat
  size : Int
  deriving DecidableEq, Repr

/-- `cfg.Accounts[i].Username` -/
def usernameAt (accounts : List Account) (i : Nat) : Bytes := (accounts[i]?).elim [] (·.username)

/-- The comparison `FitAccounts` sorts by: the larger first, then the smaller username. -/
def larger (accounts : List Account) (a b : Sized) : Bool :=
  if a.size ≠ b.size then a.size > b.size
  else usernameAt accounts a.index < usernameAt accounts b.index

/-- What the comparison of the sort does not put first: a smaller account, or one of the same size whose
username is not before the other's. -/
theorem larger_eq_false {accounts : List Account} {a b : Sized} : larger accounts a b = false ↔
    a.size < b.size ∨ a.size = b.size ∧ usernameAt accounts b.index ≤ usernameAt accounts a.index := by
  unfold larger
  split_ifs with hsize
  · simp only [gt_iff_lt, decide_eq_false_iff_not, not_lt, hsize, false_and, or_false]
    omega
  · simp [not_not.mp hsize]

/-- One way to sort by it. -/
def largestFirst (accounts : List Account) (order : List Sized) : List Sized :=
  order.insertionSort fun a b => larger accounts b a = false

/-- The insertion sort of the model sorts by that comparison. -/
theorem sorts_largestFirst (accounts : List Account) (order : List Sized) :
    Sorts (larger accounts) order (largestFirst accounts order) := by
  have htotal : Std.Total fun a b : Sized => larger accounts b a = false := by
    constructor
    intro a b
    rw [larger_eq_false, larger_eq_false]
    rcases lt_trichotomy a.size b.size with hlt | heq | hgt
    · exact .inr (.inl hlt)
    · rcases List.le_total (usernameAt accounts a.index) (usernameAt accounts b.index) with hle | hle
      · exact .inl (.inr ⟨heq.symm, hle⟩)
      · exact .inr (.inr ⟨heq, hle⟩)
    · exact .inl (.inl hgt)
  have htrans : IsTrans Sized fun a b => larger accounts b a = false := by
    constructor
    intro a b c hab hbc
    rw [larger_eq_false] at hab hbc ⊢
    rcases hab with hab | ⟨hab, hname⟩
    · left
      rcases hbc with hbc | ⟨hbc, -⟩ <;> omega
    · rcases hbc with hbc | ⟨hbc, hname'⟩
      · left
        omega
      · exact .inr ⟨hbc.trans hab, List.le_trans hname hname'⟩
  exact ⟨List.perm_insertionSort _ _, List.pairwise_insertionSort _ _⟩

/-- The accounts from the `i`-th on with their sizes. -/
def sizesFrom (m : Marshaller) : Nat → List Account → Except Bytes (List Sized)
  | _, [] => .ok []
  | i, account :: accounts =>
    match m.account account with
    | .error err => .error err
    | .ok size => (sizesFrom m (i + 1) accounts).map (⟨i, size⟩ :: ·)

/-- The configuration without the accounts at some positions. -/
def DataplaneConfig.without (cfg : DataplaneConfig) (dropped : List Nat) : DataplaneConfig :=
  { cfg with accounts := keptFrom dropped 0 cfg.accounts }

/-- The loop of `FitAccounts` over the candidates that are left, with the positions dropped so far, in
the order of `names`. What is returned is nil where the list is empty. -/
def fitLoop (m : Marshaller) (cfg : DataplaneConfig) (budget : Int) (dropped : List Nat) :
    List Sized → List Bytes × DataplaneConfig
  | [] => ([], cfg)
  | candidate :: order =>
    let dropped := dropped ++ [candidate.index]
    match m.config (cfg.without dropped) with
    | .error _ => ([], cfg)
    | .ok size =>
      if size ≤ budget then (dropped.map (usernameAt cfg.accounts), cfg.without dropped)
      else fitLoop m cfg budget dropped order

/-- `FitAccounts`: what it returns, and the configuration it leaves. `sort` is `sort.Slice`. -/
def FitAccounts (m : Marshaller) (sort : List Sized → List Sized) (cfg : DataplaneConfig)
    (budget : Int) : List Bytes × DataplaneConfig :=
  match m.config cfg with
  | .error _ => ([], cfg)
  | .ok size =>
    if size ≤ budget then ([], cfg)
    else
      match sizesFrom m 0 cfg.accounts with
      | .error _ => ([], cfg)
      | .ok order => fitLoop m cfg budget [] (sort order)

/-! ## Whether something is dropped -/

/-- The sizes are those of accounts that exist. -/
theorem sizesFrom_inRange {m : Marshaller} {accounts : List Account} : ∀ {i : Nat} {order : List Sized},
    sizesFrom m i accounts = .ok order → ∀ s ∈ order, i ≤ s.index ∧ s.index < i + accounts.length := by
  induction accounts with
  | nil =>
    intro i order h s hs
    cases h
    cases hs
  | cons account accounts ih =>
    intro i order h s hs
    rw [sizesFrom] at h
    cases hsize : m.account account with
    | error err => rw [hsize] at h; cases h
    | ok size =>
      cases hrest : sizesFrom m (i + 1) accounts with
      | error err => rw [hsize, hrest] at h; cases h
      | ok rest =>
        rw [hsize, hrest] at h
        cases h
        rw [List.length_cons]
        rcases List.mem_cons.mp hs with rfl | hs
        · exact ⟨le_rfl, by simp⟩
        · have hrange := ih hrest s hs
          omega

/-- The loop returns nil and leaves the configuration as it is, or drops some of the candidates. -/
theorem fitLoop_drops {m : Marshaller} {cfg : DataplaneConfig} {budget : Int} {order : List Sized} :
    ∀ {dropped : List Nat}, fitLoop m cfg budget dropped order = ([], cfg) ∨
      ∃ candidate ∈ order, ∃ others, fitLoop m cfg budget dropped order =
        ((others ++ [candidate.index]).map (usernameAt cfg.accounts),
          cfg.without (others ++ [candidate.index])) := by
  induction order with
  | nil => exact .inl rfl
  | cons candidate order ih =>
    intro dropped
    rw [fitLoop]
    cases hsize : m.config (cfg.without (dropped ++ [candidate.index])) with
    | error err => exact .inl rfl
    | ok size =>
      dsimp only
      split_ifs with hfits
      · exact .inr ⟨candidate, by simp, dropped, rfl⟩
      · rcases @ih (dropped ++ [candidate.index]) with hrun | ⟨last, hlast, others, hrun⟩
        · exact .inl hrun
        · exact .inr ⟨last, List.mem_cons_of_mem _ hlast, others, hrun⟩

/-- Whatever the sizes are and whether they can be had: nothing is dropped and the configuration is
left as it is, or there are fewer accounts. -/
theorem FitAccounts_shrinks (m : Marshaller) {sort : List Sized → List Sized} {cfg : DataplaneConfig}
    (hsort : ∀ order, (sort order).Perm order) (budget : Int) :
    FitAccounts m sort cfg budget = ([], cfg) ∨
      (FitAccounts m sort cfg budget).1 ≠ [] ∧
        (FitAccounts m sort cfg budget).2.accounts.length < cfg.accounts.length := by
  rw [FitAccounts]
  cases m.config cfg with
  | error err => exact .inl rfl
  | ok size =>
    dsimp only
    split_ifs with hfits
    · exact .inl rfl
    · cases horder : sizesFrom m 0 cfg.accounts with
      | error err => exact .inl rfl
      | ok order =>
        dsimp only
        rcases @fitLoop_drops m cfg budget (sort order) [] with hrun | ⟨last, hlast, others, hrun⟩
        · exact .inl hrun
        · right
          rw [hrun]
          refine ⟨by simp, ?_⟩
          have hrange := sizesFrom_inRange horder last ((hsort order).mem_iff.mp hlast)
          exact @keptFrom_length_lt _ _ _ 0 last.index (by omega) (by simp)

/-! ## What is dropped -/

section
variable {size : DataplaneConfig → Int} {weight : Account → Int}

/-- A measure that does not fail. -/
def measure (size : DataplaneConfig → Int) (weight : Account → Int) : Marshaller where
  config := fun cfg => .ok (size cfg)
  account := fun account => .ok (weight account)

/-- Every position is a candidate once, with the size of its account. -/
theorem sizesFrom_measure (accounts : List Account) : ∀ i, ∃ order,
    sizesFrom (measure size weight) i accounts = .ok order ∧
      order.map Sized.index = List.range' i accounts.length ∧
      ∀ s ∈ order, ∃ account, accounts[s.index - i]? = some account ∧ i ≤ s.index ∧
        s.size = weight account := by
  induction accounts with
  | nil => exact fun i => ⟨[], rfl, rfl, by simp⟩
  | cons account accounts ih =>
    intro i
    obtain ⟨order, hok, hindex, hsize⟩ := ih (i + 1)
    refine ⟨⟨i, weight account⟩ :: order, ?_, ?_, ?_⟩
    · rw [sizesFrom, hok]
      rfl
    · rw [List.map_cons, hindex, List.length_cons, List.range'_succ]
    · intro s hs
      rcases List.mem_cons.mp hs with rfl | hs
      · exact ⟨account, by simp, le_rfl, rfl⟩
      · obtain ⟨found, hfound, hle, hweight⟩ := hsize s hs
        refine ⟨found, ?_, by omega, hweight⟩
        rw [show s.index - i = s.index - (i + 1) + 1 by omega, List.getElem?_cons_succ]
        exact hfound

/-- The loop fails at every prefix of the candidates, or stops at the first at which it does not. -/
theorem fitLoop_cases {cfg : DataplaneConfig} {budget : Int} {order : List Sized} :
    ∀ {dropped : List Nat}, budget < size (cfg.without dropped) →
      (fitLoop (measure size weight) cfg budget dropped order = ([], cfg) ∧
        budget < size (cfg.without (dropped ++ order.map Sized.index))) ∨
      ∃ before last after, order = before ++ last :: after ∧
        fitLoop (measure size weight) cfg budget dropped order =
          ((dropped ++ (before ++ [last]).map Sized.index).map (usernameAt cfg.accounts),
            cfg.without (dropped ++ (before ++ [last]).map Sized.index)) ∧
        size (cfg.without (dropped ++ (before ++ [last]).map Sized.index)) ≤ budget ∧
        budget < size (cfg.without (dropped ++ before.map Sized.index)) := by
  induction order with
  | nil =>
    intro dropped hlarge
    exact .inl ⟨rfl, by simpa using hlarge⟩
  | cons candidate order ih =>
    intro dropped hlarge
    by_cases hfits : size (cfg.without (dropped ++ [candidate.index])) ≤ budget
    · refine .inr ⟨[], candidate, order, rfl, ?_, by simpa using hfits, by simpa using hlarge⟩
      simp [fitLoop, measure, hfits]
    · have hloop : fitLoop (measure size weight) cfg budget dropped (candidate :: order) =
          fitLoop (measure size weight) cfg budget (dropped ++ [candidate.index]) order := by
        rw [fitLoop]
        simp [measure, hfits]
      rw [hloop]
      rcases ih (not_le.mp hfits) with ⟨hrun, hall⟩ | ⟨before, last, after, rfl, hrun, hfit, hbefore⟩
      · exact .inl ⟨hrun, by simpa using hall⟩
      · refine .inr ⟨candidate :: before, last, after, rfl, ?_, ?_, ?_⟩
        · simpa using hrun
        · simpa using hfit
        · simpa using hbefore

/-- What it means that the accounts at some positions were dropped, in this order. -/
structure Fitted (size : DataplaneConfig → Int) (weight : Account → Int) (cfg : DataplaneConfig)
    (budget : Int) (removed : List Nat) (names : List Bytes) (cfg' : DataplaneConfig) : Prop where
  /-- They are positions of accounts, each of them once. -/
  nodup : removed.Nodup
  inRange : ∀ i ∈ removed, i < cfg.accounts.length
  names : names = removed.map (usernameAt cfg.accounts)
  /-- Nothing but the accounts changes, and of these only those are gone. -/
  config : cfg' = cfg.without removed
  sublist : cfg'.accounts.Sublist cfg.accounts
  fits : size cfg' ≤ budget
  /-- A removed account is larger than a kept one, or as large and not behind it by its username. -/
  largest : ∀ i ∈ removed, ∀ j, j ∉ removed → ∀ a b, cfg.accounts[i]? = some a →
    cfg.accounts[j]? = some b → weight b < weight a ∨ weight b = weight a ∧ ¬ b.username < a.username
  /-- The last one had to go. -/
  needed : removed ≠ [] ∧ budget < size (cfg.without removed.dropLast)

/-- A candidate that the sort puts behind another is not larger. -/
theorem not_larger {accounts : List Account} {s t : Sized} {a b : Account}
    (ha : accounts[s.index]? = some a) (hb : accounts[t.index]? = some b) (hs : s.size = weight a)
    (ht : t.size = weight b) (h : larger accounts t s = false) :
    weight b < weight a ∨ weight b = weight a ∧ ¬ b.username < a.username := by
  rw [larger_eq_false, hs, ht] at h
  simpa [usernameAt, ha, hb] using h

/-- The place where the loop stops, in terms of the accounts. -/
theorem fitted_of_stop {cfg : DataplaneConfig} {budget : Int} {order before after : List Sized}
    {last : Sized} (hindex : order.map Sized.index = List.range' 0 cfg.accounts.length)
    (hsize : ∀ s ∈ order, ∃ account, cfg.accounts[s.index]? = some account ∧ s.size = weight account)
    (hsorts : Sorts (larger cfg.accounts) order (before ++ last :: after))
    (hfits : size (cfg.without ((before ++ [last]).map Sized.index)) ≤ budget)
    (hbefore : budget < size (cfg.without (before.map Sized.index))) :
    Fitted size weight cfg budget ((before ++ [last]).map Sized.index)
      (((before ++ [last]).map Sized.index).map (usernameAt cfg.accounts))
      (cfg.without ((before ++ [last]).map Sized.index)) := by
  have hsplit : before ++ last :: after = (before ++ [last]) ++ after := by simp
  rw [hsplit] at hsorts
  have hperm : ((before ++ [last]) ++ after).map Sized.index |>.Perm
      (List.range' 0 cfg.accounts.length) := hindex ▸ hsorts.perm.map Sized.index
  rw [List.map_append] at hperm
  have hnodup := hperm.nodup_iff.mpr List.nodup_range'
  refine ⟨(List.nodup_append.mp hnodup).1, fun i hi => ?_, rfl, rfl, keptFrom_sublist _ _ _, hfits, ?_,
    by simp, ?_⟩
  · have hmem := hperm.mem_iff.mp (List.mem_append_left _ hi)
    simpa using hmem
  · intro i hi j hj a b ha hb
    -- A position that is not removed is that of a candidate behind the last one.
    have hlt : j < cfg.accounts.length := (List.getElem?_eq_some_iff.mp hb).1
    have hmem : j ∈ after.map Sized.index := by
      have hall := hperm.mem_iff.mpr (List.mem_range'_1.mpr ⟨Nat.zero_le j, by omega⟩)
      exact (List.mem_append.mp hall).resolve_left hj
    obtain ⟨s, hs, rfl⟩ := List.mem_map.mp hi
    obtain ⟨t, ht, rfl⟩ := List.mem_map.mp hmem
    have hnot := (List.pairwise_append.mp hsorts.sorted).2.2 s hs t ht
    obtain ⟨a', ha', hws⟩ := hsize s (hsorts.perm.mem_iff.mp (List.mem_append_left _ hs))
    obtain ⟨b', hb', hwt⟩ := hsize t (hsorts.perm.mem_iff.mp (List.mem_append_right _ ht))
    rw [ha] at ha'
    rw [hb] at hb'
    cases ha'
    cases hb'
    exact not_larger ha hb hws hwt hnot
  · rw [List.map_append, List.map_singleton, List.dropLast_concat]
    exact hbefore

end

/-- **`FitAccounts` drops the fewest, largest accounts**, for every measure that does not fail: it
returns nil and changes nothing, because the configuration fits or would not without any account; or
it drops the largest accounts it has to. -/
theorem fit_drops_largest (size : DataplaneConfig → Int) (weight : Account → Int)
    (sort : List Sized → List Sized) (cfg : DataplaneConfig) (budget : Int)
    (hsort : ∀ order, Sorts (larger cfg.accounts) order (sort order)) :
    let res := FitAccounts (measure size weight) sort cfg budget
    (res.1 = [] → res.2 = cfg ∧
      (size cfg ≤ budget ∨ budget < size { cfg with accounts := [] })) ∧
    (res.1 ≠ [] → ∃ removed, Fitted size weight cfg budget removed res.1 res.2) := by
  intro res
  by_cases hfits : size cfg ≤ budget
  · have hres : res = ([], cfg) := by simp [res, FitAccounts, measure, hfits]
    rw [hres]
    exact ⟨fun _ => ⟨rfl, .inl hfits⟩, fun h => absurd rfl h⟩
  · obtain ⟨order, hok, hindex, hsize⟩ := @sizesFrom_measure size weight cfg.accounts 0
    have hres : res = fitLoop (measure size weight) cfg budget [] (sort order) := by
      simp only [res, FitAccounts, hok]
      simp [measure, hfits]
    have hwhole : cfg.without [] = cfg := by rw [DataplaneConfig.without, keptFrom_nil]
    have hlarge : budget < size (cfg.without []) := by
      rw [hwhole]
      exact not_le.mp hfits
    have hsorts := hsort order
    rw [hres]
    rcases @fitLoop_cases size weight cfg budget (sort order) [] hlarge with
      ⟨hrun, hall⟩ | ⟨before, last, after, hsplit, hrun, hfit, hbefore⟩
    · rw [hrun]
      refine ⟨fun _ => ⟨rfl, .inr ?_⟩, fun h => absurd rfl h⟩
      -- All positions were candidates, so the last probe had no account.
      have hempty : cfg.without ((sort order).map Sized.index) = { cfg with accounts := [] } := by
        rw [DataplaneConfig.without, keptFrom_all]
        intro j hj
        refine ((hsorts.perm.map Sized.index).mem_iff).mpr ?_
        rw [hindex]
        exact List.mem_range'_1.mpr ⟨by omega, by omega⟩
      rw [← hempty]
      exact hall
    · rw [hrun]
      simp only [List.nil_append] at hfit hbefore ⊢
      refine ⟨fun h => absurd h (by simp), fun _ =>
        ⟨_, fitted_of_stop hindex ?_ (?_ : Sorts _ _ (before ++ last :: after)) hfit hbefore⟩⟩
      · intro s hs
        obtain ⟨account, hfound, -, hweight⟩ := hsize s hs
        exact ⟨account, hfound, hweight⟩
      · rw [← hsplit]
        exact hsorts

/-- A gateway with two accounts, of which the second has the longer list of senders. -/
def crowdedConfig : DataplaneConfig where
  hostname := lit "relay.test"
  listeners := []
  tls := ⟨[], []⟩
  upstream := ⟨lit "smtp.example.com", 587, .mode .startTLS, false, [], [], [], 0⟩
  accounts := [⟨lit "shop.app", lit "h", false, [], false⟩,
    ⟨lit "blog.app", lit "k", false, [lit "a@b.test", lit "c@d.test"], false⟩]
  milters := []
  dkim := []
  rateLimit := none
  limits := ⟨0, 0, 0, 0, 0, 0, [], 0⟩
  metricsToken := []

/-- A size: how many senders there are, with one more for each account. -/
def senderCount (accounts : List Account) : Int :=
  accounts.foldl (fun n account => n + 1 + account.allowedSenders.length) 0

/-- The account with the most senders is dropped first. -/
theorem fit_drops_longest :
    (let res := FitAccounts (measure (fun cfg => senderCount cfg.accounts) fun a => senderCount [a])
        (largestFirst crowdedConfig.accounts) crowdedConfig 2;
      (res.1 = [] → res.2 = crowdedConfig ∧ (senderCount crowdedConfig.accounts ≤ 2 ∨
        2 < senderCount ({ crowdedConfig with accounts := [] } : DataplaneConfig).accounts)) ∧
      (res.1 ≠ [] → ∃ removed, Fitted (fun cfg => senderCount cfg.accounts)
        (fun a => senderCount [a]) crowdedConfig 2 removed res.1 res.2)) ∧
    (FitAccounts (measure (fun cfg => senderCount cfg.accounts) fun a => senderCount [a])
      (largestFirst crowdedConfig.accounts) crowdedConfig 2).1 = [lit "blog.app"] :=
  ⟨fit_drops_largest _ _ _ crowdedConfig 2 (sorts_largestFirst crowdedConfig.accounts),
    by decide +kernel⟩

end Mailout
