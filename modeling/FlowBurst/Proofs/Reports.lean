import FlowBurst.Proofs.StopPolicy
import Mathlib.Data.List.Perm.Basic
import Mathlib.Data.List.Induction
import Mathlib.Data.List.Nodup
import Mathlib.Tactic.SplitIfs

/-!
# In which order reports come

A call of a harness counts its burst, decides and reports in three steps. The reports stand in the
channel in the order of the third steps, and the bursts were counted in the order of the first ones:
these are two orders, and nothing holds a call that has been counted back until those before it have
reported. The reports come in the order in which the bursts were counted exactly as long as no call
overtakes another between the two, as when each call takes its three steps in one go; and where
steps may come between, every pair of orders can come about.

Main statements: `run?_isSome_iff`, which says what orders of steps there are, and `reports_follow`;
`reports_overtaken` is a run in which two reports change places.
-/

namespace FlowBurst.Gathering

open FlowBurst.Burst (Result)
open FlowBurst.Harness (Call)
open FlowBurst.Switch (Reference)

/-! ### First steps and third steps -/

/-- The calls that have taken more than `k` steps, in the order in which they took the step after
those. -/
def nthSteps (k : Nat) (order : List Nat) : List Nat :=
  order.zipIdx.filterMap fun x => if (order.take x.2).count x.1 = k then some x.1 else none

section NthSteps

variable {k i : Nat} {order : List Nat}

@[simp] lemma nthSteps_nil : nthSteps k [] = [] := rfl

lemma nthSteps_concat :
    nthSteps k (order ++ [i]) = nthSteps k order ++ if order.count i = k then [i] else [] := by
  unfold nthSteps
  rw [List.zipIdx_append, List.filterMap_append]
  congr 1
  · apply List.filterMap_congr
    intro x hx
    rw [List.take_append_of_le_length (Nat.le_of_lt (List.snd_lt_of_mem_zipIdx hx))]
  · by_cases now : order.count i = k <;> simp [now]

/-- A call stands there if it has taken so many steps. -/
lemma mem_nthSteps : i ∈ nthSteps k order ↔ k < order.count i := by
  induction order using List.reverseRecOn with
  | nil => simp
  | append_singleton order j ih =>
    rw [nthSteps_concat, List.mem_append, ih, List.count_append, List.count_singleton]
    by_cases own : j = i
    · subst own
      by_cases now : order.count j = k
      · simp [now]
      · simp [now]
        omega
    · have other : i ≠ j := fun e => own e.symm
      split <;> simp [own, other]

/-- Nobody takes a step twice. -/
lemma nodup_nthSteps : (nthSteps k order).Nodup := by
  induction order using List.reverseRecOn with
  | nil => exact List.nodup_nil
  | append_singleton order j ih =>
    rw [nthSteps_concat]
    split
    next now =>
      refine List.nodup_append.2 ⟨ih, List.nodup_singleton j, ?_⟩
      intro a ha b hb same
      rw [List.mem_singleton.1 hb] at same
      rw [same, mem_nthSteps] at ha
      omega
    next => simpa using ih

end NthSteps

/-! ### Overtaking -/

/-- Whoever stands before someone of the first part is of the first part too. -/
lemma sublist_of_first {all part : List Nat} {i j : Nat} (once : all.Nodup) (first : part <+: all)
    (before : [i, j].Sublist all) (hj : j ∈ part) : [i, j].Sublist part := by
  obtain ⟨rest, rfl⟩ := first
  have later : j ∉ rest := fun hj' => (List.nodup_append.1 once).2.2 j hj j hj' rfl
  obtain ⟨front, back, both, inPart, inRest⟩ := List.sublist_append_iff.1 before
  rcases List.eq_nil_or_concat back with rfl | ⟨back, k, rfl⟩
  · rw [both, List.append_nil]
    exact inPart
  · -- what stands in the rest ends with `j`
    rw [List.concat_eq_append, ← List.append_assoc] at both
    have last : j = k := by simpa using congrArg List.getLast? both
    exact (later (inRest.subset (by simp [last]))).elim

/-- A part that has everybody after all who stand before is the first part. -/
lemma prefix_of_sublists {all part : List Nat} (once : all.Nodup) (once' : part.Nodup)
    (sub : part ⊆ all) (follows : ∀ i j, [i, j].Sublist all → j ∈ part → [i, j].Sublist part) :
    part <+: all := by
  induction all generalizing part with
  | nil =>
    obtain rfl := List.subset_nil.1 sub
    exact List.nil_prefix
  | cons a all ih =>
    obtain ⟨fresh, others⟩ := List.nodup_cons.1 once
    cases part with
    | nil => exact List.nil_prefix
    | cons b part =>
      obtain ⟨fresh', others'⟩ := List.nodup_cons.1 once'
      -- if another one were first of all, it would come before `b` in the part as well
      obtain rfl : b = a := by
        by_contra other
        have hb : b ∈ all := (List.mem_cons.1 (sub List.mem_cons_self)).resolve_left other
        have ahead := follows a b (List.cons_sublist_cons.2 (List.singleton_sublist.2 hb))
          List.mem_cons_self
        cases ahead with
        | cons _ ahead => exact fresh' (ahead.subset (by simp))
        | cons_cons _ ahead => exact other rfl
      refine List.cons_prefix_cons.2 ⟨rfl, ih others others' ?_ ?_⟩
      · intro j hj
        refine (List.mem_cons.1 (sub (List.mem_cons_of_mem b hj))).resolve_left ?_
        rintro rfl
        exact fresh' hj
      · intro i j before hj
        have ahead := follows i j (before.cons b) (List.mem_cons_of_mem b hj)
        cases ahead with
        | cons _ ahead => exact ahead
        | cons_cons _ ahead => exact (fresh (before.subset (by simp))).elim

/-- A call overtakes another one that was counted before it: it has reported, and the other has not
reported before it. -/
def Overtakes (order : List Nat) (j i : Nat) : Prop :=
  [i, j].Sublist (nthSteps 0 order) ∧ j ∈ nthSteps 2 order ∧ ¬ [i, j].Sublist (nthSteps 2 order)

/-- The calls that have reported stand in the order in which they were counted exactly as long as
none of them overtakes another. -/
theorem prefix_iff_none_overtakes (order : List Nat) :
    nthSteps 2 order <+: nthSteps 0 order ↔ ∀ i j, ¬ Overtakes order j i := by
  have sub : nthSteps 2 order ⊆ nthSteps 0 order := by
    intro i hi
    rw [mem_nthSteps] at hi ⊢
    omega
  constructor
  · rintro first i j ⟨before, hj, after⟩
    exact after (sublist_of_first nodup_nthSteps first before hj)
  · intro none_
    refine prefix_of_sublists nodup_nthSteps nodup_nthSteps sub fun i j before hj => ?_
    by_contra after
    exact none_ i j ⟨before, hj, after⟩

/-! ### Orders of steps -/

/-- A call is about its own burst until it has returned. -/
def IsOwn (c : Call) : Prop :=
  match c.todo with
  | .counting r | .deciding r _ | .reporting r => r = c.result
  | .settled => True

/-- The results of some calls, in their order. -/
def resultsOf (results : List (Result Reference)) (calls : List Nat) : List (Result Reference) :=
  calls.filterMap (results[·]?)

lemma resultsOf_append (results : List (Result Reference)) (first rest : List Nat) :
    resultsOf results (first ++ rest) = resultsOf results first ++ resultsOf results rest :=
  List.filterMap_append

/-- What calls about the given results have come to by steps in the given order. -/
structure Follows (h : Harness) (results : List (Result Reference)) (order : List Nat)
    (g : Gathering) : Prop where
  same : g.calls.map Call.result = results
  calls : ∀ i c, g.calls[i]? = some c → c.todo.taken = order.count i ∧ IsOwn c
  counted : g.counted = nthSteps 0 order
  finished : g.harness.finished = h.finished + (nthSteps 0 order).length.toUInt64
  reports : ∀ earlier, h.reports = .queued earlier →
    g.harness.reports = .queued (earlier ++ resultsOf results (nthSteps 2 order))

variable {h : Harness} {results : List (Result Reference)} {order : List Nat} {i : Nat}
  {g g' : Gathering}

lemma follows_start : Follows h results [] (start h results) where
  same := by simp [start, Function.comp_def]
  calls := by
    intro i c hc
    obtain ⟨r, -, rfl⟩ := by simpa [start] using hc
    exact ⟨rfl, rfl⟩
  counted := rfl
  finished := (UInt64.add_zero _).symm
  reports := by
    intro earlier queued
    simpa [start, resultsOf] using queued

/-- A call goes on with its own burst, and the others stay where they are. -/
lemma Follows.goes_on (follows : Follows h results order g) (inside : i < g.calls.length)
    (next : Harness.Settling) (goesOn : next.taken = g.calls[i].todo.taken + 1)
    (own : IsOwn { g.calls[i] with todo := next }) :
    (g.calls.set i { g.calls[i] with todo := next }).map Call.result = results ∧
      ∀ j x, (g.calls.set i { g.calls[i] with todo := next })[j]? = some x →
        x.todo.taken = (order ++ [i]).count j ∧ IsOwn x := by
  constructor
  · have inside' : i < (g.calls.map Call.result).length := by simpa using inside
    have kept := List.set_getElem_self inside'
    simp only [List.getElem_map] at kept
    rw [List.map_set, ← follows.same]
    exact kept
  · intro j x hx
    rw [List.getElem?_set] at hx
    rw [List.count_append, List.count_singleton]
    by_cases here : i = j
    · subst here
      obtain ⟨taken, -⟩ := follows.calls i _ (List.getElem?_eq_getElem inside)
      rw [if_pos rfl, if_pos inside] at hx
      cases hx
      exact ⟨by simp [goesOn, taken], own⟩
    · rw [if_neg here] at hx
      simpa [here] using follows.calls j x hx

/-- **Each step of a call keeps the account**: the first one counts its burst, and the third one puts
its own result at the end of the channel. -/
theorem Follows.step (follows : Follows h results order g) (step : g.step? i = some g') :
    Follows h results (order ++ [i]) g' := by
  simp only [step?, Option.bind_eq_bind, Option.bind_eq_some_iff, Option.pure_def,
    Option.some.injEq] at step
  obtain ⟨c, at_i, effect, settles, rfl⟩ := step
  obtain ⟨inside, rfl⟩ := List.getElem?_eq_some_iff.1 at_i
  obtain ⟨taken, own⟩ := follows.calls i _ at_i
  cases todo : g.calls[i].todo with
  | counting r =>
    rw [todo] at settles taken
    cases settles
    have first : order.count i = 0 := taken.symm
    have ownResult : r = g.calls[i].result := by simpa [IsOwn, todo] using own
    obtain ⟨same, calls⟩ := follows.goes_on inside (g.harness.count r).next
      (by rw [todo]; rfl) ownResult
    refine ⟨same, calls, ?_, ?_, ?_⟩
    · rw [nthSteps_concat, if_pos first, ← follows.counted]
    · rw [nthSteps_concat, if_pos first, List.length_append, List.length_singleton]
      show g.harness.finished + 1 = h.finished + UInt64.ofNat _
      rw [follows.finished, UInt64.ofNat_add, ← UInt64.add_assoc]
      rfl
    · rw [nthSteps_concat, if_neg (by omega), List.append_nil]
      exact follows.reports
  | deciding r reached =>
    rw [todo] at settles taken
    cases settles
    have second : order.count i = 1 := taken.symm
    have ownResult : r = g.calls[i].result := by simpa [IsOwn, todo] using own
    obtain ⟨decided, next, -⟩ := Harness.decide_eq g.harness r reached
    obtain ⟨same, calls⟩ := follows.goes_on inside (.reporting r) (by rw [todo]; rfl) ownResult
    rw [decided, next]
    refine ⟨same, calls, ?_, ?_, ?_⟩
    all_goals rw [nthSteps_concat, if_neg (by omega), List.append_nil]
    · exact follows.counted
    · exact follows.finished
    · exact follows.reports
  | reporting r =>
    rw [todo] at settles taken
    cases settles
    have third : order.count i = 2 := taken.symm
    have ownResult : r = g.calls[i].result := by simpa [IsOwn, todo] using own
    obtain ⟨same, calls⟩ := follows.goes_on inside .settled (by rw [todo]; rfl) trivial
    refine ⟨same, calls, ?_, ?_, ?_⟩
    · rw [nthSteps_concat, if_neg (by omega), List.append_nil]
      exact follows.counted
    · rw [nthSteps_concat, if_neg (by omega), List.append_nil]
      exact follows.finished
    · intro earlier queued
      have result : resultsOf results [i] = [g.calls[i].result] := by
        rw [← follows.same]
        simp [resultsOf, inside]
      show g.harness.reports.push r = _
      rw [follows.reports earlier queued, nthSteps_concat, if_pos third, resultsOf_append, result,
        ownResult, ← List.append_assoc]
      rfl
  | settled =>
    rw [todo] at settles
    cases settles

lemma run?_concat : g.run? (order ++ [i]) = (g.run? order).bind (step? · i) := by
  simp [run?, List.foldlM_append]

/-- The account of a whole run. -/
lemma follows_of_run? : ∀ {order : List Nat} {g : Gathering},
    (start h results).run? order = some g → Follows h results order g := by
  intro order
  induction order using List.reverseRecOn with
  | nil =>
    intro g run
    obtain rfl := Option.some.inj run
    exact follows_start
  | append_singleton order i ih =>
    intro g run
    obtain ⟨before, earlier, step⟩ := Option.bind_eq_some_iff.1 (run?_concat ▸ run)
    exact (ih earlier).step step

lemma Follows.length (follows : Follows h results order g) : g.calls.length = results.length := by
  rw [← follows.same, List.length_map]

/-- A call has a next step as long as it has taken fewer than three. -/
lemma Follows.step?_isSome (follows : Follows h results order g) :
    (g.step? i).isSome ↔ i < results.length ∧ order.count i < 3 := by
  rw [← follows.length]
  by_cases inside : i < g.calls.length
  · obtain ⟨taken, -⟩ := follows.calls i _ (List.getElem?_eq_getElem inside)
    rw [← taken]
    cases todo : g.calls[i].todo <;>
      simp [step?, inside, todo, Harness.settle?, Harness.Settling.taken]
  · simp [step?, inside]

/-- **What orders of steps there are**: each call takes at most three. -/
theorem run?_isSome_iff :
    ((start h results).run? order).isSome ↔ ∀ i ∈ order, i < results.length ∧ order.count i ≤ 3 := by
  induction order using List.reverseRecOn with
  | nil => simp [run?]
  | append_singleton order i ih =>
    rw [run?_concat]
    constructor
    · intro possible j hj
      obtain ⟨g', run⟩ := Option.isSome_iff_exists.1 possible
      obtain ⟨g, run, step⟩ := Option.bind_eq_some_iff.1 run
      have last := (follows_of_run? run).step?_isSome.1 (Option.isSome_of_eq_some step)
      have earlier := ih.1 (Option.isSome_of_eq_some run)
      rw [List.count_append, List.count_singleton]
      by_cases own : i = j
      · subst own
        exact ⟨last.1, by simp; omega⟩
      · have member : j ∈ order := by simpa [Ne.symm own] using hj
        simpa [own] using earlier j member
    · intro allowed
      have less (j : Nat) : order.count j ≤ (order ++ [i]).count j := by simp
      obtain ⟨g, run⟩ := Option.isSome_iff_exists.1 (ih.2 fun j hj => by
        obtain ⟨inside, few⟩ := allowed j (List.mem_append_left _ hj)
        exact ⟨inside, Nat.le_trans (less j) few⟩)
      obtain ⟨inside, few⟩ := allowed i (by simp)
      rw [List.count_append, List.count_singleton_self] at few
      rw [run, Option.bind_some]
      exact (follows_of_run? run).step?_isSome.2 ⟨inside, few⟩

/-- The calls have returned when each has taken its three steps. -/
lemma Follows.isSettled (follows : Follows h results order g)
    (all : ∀ i < results.length, order.count i = 3) : g.isSettled := by
  apply List.all_eq_true.2
  intro c hc
  obtain ⟨i, inside, rfl⟩ := List.getElem_of_mem hc
  obtain ⟨taken, -⟩ := follows.calls i _ (List.getElem?_eq_getElem inside)
  rw [all i (follows.length ▸ inside)] at taken
  cases todo : g.calls[i].todo with
  | settled => rfl
  | _ =>
    rw [todo] at taken
    cases taken

/-! ### Rounds and turns -/

/-- A round, in which each of some calls that are equally far takes one step. -/
lemma nthSteps_round {k m : Nat} {first round : List Nat} (once : round.Nodup)
    (even : ∀ i ∈ round, first.count i = m) :
    nthSteps k (first ++ round) = nthSteps k first ++ if m = k then round else [] := by
  induction round using List.reverseRecOn with
  | nil => simp
  | append_singleton round i ih =>
    obtain ⟨others, -, apart⟩ := List.nodup_append.1 once
    have fresh : round.count i = 0 :=
      List.count_eq_zero.2 fun hi => apart i hi i (List.mem_singleton_self i) rfl
    rw [← List.append_assoc, nthSteps_concat, List.count_append, fresh, even i (by simp),
      ih others fun j hj => even j (List.mem_append_left _ hj)]
    by_cases now : m = k <;> simp [now]

/-- Two rounds of some calls in one order and a third one in another order. -/
lemma nthSteps_rounds {k : Nat} {first last : List Nat} (once : first.Nodup) (once' : last.Nodup)
    (sub : last ⊆ first) : nthSteps k (first ++ first ++ last) =
      ((if 0 = k then first else []) ++ if 1 = k then first else []) ++ if 2 = k then last else [] := by
  have one {i : Nat} (hi : i ∈ first) : first.count i = 1 := List.count_eq_one_of_mem once hi
  have start : nthSteps k first = if 0 = k then first else [] := by
    have even : ∀ i ∈ first, ([] : List Nat).count i = 0 := fun _ _ => rfl
    simpa using nthSteps_round (k := k) once even
  rw [nthSteps_round once' (m := 2), nthSteps_round once (m := 1), start]
  · exact fun i => one
  · intro i hi
    rw [List.count_append, one (sub hi)]

/-- Calls that take their three steps in one go. -/
lemma nthSteps_turns {k : Nat} {turns : List Nat} (once : turns.Nodup) (few : k < 3) :
    nthSteps k (turns.flatMap (List.replicate 3)) = turns := by
  induction turns using List.reverseRecOn with
  | nil => rfl
  | append_singleton turns i ih =>
    obtain ⟨others, -, apart⟩ := List.nodup_append.1 once
    have fresh : (turns.flatMap (List.replicate 3)).count i = 0 := by
      refine List.count_eq_zero.2 fun hi => ?_
      obtain ⟨j, hj, same⟩ := List.mem_flatMap.1 hi
      exact apart j hj i (List.mem_singleton_self i) (List.eq_of_mem_replicate same).symm
    rw [List.flatMap_append, List.flatMap_singleton,
      show List.replicate 3 i = [i] ++ [i] ++ [i] from rfl, ← List.append_assoc, ← List.append_assoc,
      nthSteps_concat, nthSteps_concat, nthSteps_concat, ih others]
    obtain rfl | rfl | rfl : k = 0 ∨ k = 1 ∨ k = 2 := by omega
    all_goals simp [fresh]

/-- Calls that may take their steps in one go are all different. -/
lemma nodup_of_turns {turns : List Nat}
    (few : ∀ i, (turns.flatMap (List.replicate 3)).count i ≤ 3) : turns.Nodup := by
  refine List.nodup_iff_count_le_one.2 fun i => ?_
  have thrice : (turns.flatMap (List.replicate 3)).count i = 3 * turns.count i := by
    clear few
    induction turns with
    | nil => rfl
    | cons j turns ih =>
      rw [List.flatMap_cons, List.count_append, ih, List.count_replicate, List.count_cons]
      split <;> omega
  have := few i
  omega

/-! ### The order of the reports -/

/-- The reports that have come stand in the order in which their bursts were counted, the burst that
was counted first being reported first. -/
def InCountingOrder (earlier results : List (Result Reference)) (g : Gathering) : Prop :=
  ∃ pushed, g.harness.reports = .queued (earlier ++ pushed) ∧ pushed <+: resultsOf results g.counted

/-- Different calls about different results are told apart by these. -/
lemma prefix_of_resultsOf (distinct : results.Nodup) {part all : List Nat}
    (inside : ∀ i ∈ part, i < results.length) (inside' : ∀ i ∈ all, i < results.length)
    (first : resultsOf results part <+: resultsOf results all) : part <+: all := by
  have unfolds {i : Nat} (rest : List Nat) (hi : i < results.length) :
      resultsOf results (i :: rest) = results[i] :: resultsOf results rest := by
    simp [resultsOf, hi]
  induction part generalizing all with
  | nil => exact List.nil_prefix
  | cons b part ih =>
    have hb := inside b List.mem_cons_self
    rw [unfolds part hb] at first
    cases all with
    | nil => cases List.prefix_nil.1 first
    | cons a all =>
      have ha := inside' a List.mem_cons_self
      rw [unfolds all ha] at first
      obtain ⟨same, rest⟩ := List.cons_prefix_cons.1 first
      refine List.cons_prefix_cons.2 ⟨(distinct.getElem_inj_iff).1 same, ih ?_ ?_ rest⟩
      · exact fun i hi => inside i (List.mem_cons_of_mem b hi)
      · exact fun i hi => inside' i (List.mem_cons_of_mem a hi)

/-- In which order the reports of calls have come, some of which may still have steps to take. -/
structure ReportsFollow (h : Harness) (earlier results : List (Result Reference)) (order : List Nat)
    (g : Gathering) : Prop where
  /-- The reports are those of the calls that took their third steps, in the order of these, -/
  reports : g.harness.reports = .queued (earlier ++ resultsOf results (nthSteps 2 order))
  /-- and the bursts were counted in the order of the first steps. -/
  counted : g.counted = nthSteps 0 order
  finished : g.harness.finished = h.finished + g.counted.length.toUInt64
  /-- Every report is of a burst that has been counted, and no two are of one burst. -/
  once : nthSteps 2 order ⊆ g.counted ∧ (nthSteps 2 order).Nodup
  /-- As long as no call overtakes another the reports come in the order in which the bursts were
  counted, -/
  kept : (∀ i j, ¬ Overtakes order j i) → InCountingOrder earlier results g
  /-- and, where results tell the bursts apart, only as long as that. -/
  overtaken : results.Nodup → InCountingOrder earlier results g → ∀ i j, ¬ Overtakes order j i
  /-- Nobody is overtaken when each call takes its steps in one go. -/
  uninterrupted : ∀ turns : List Nat, order = turns.flatMap (List.replicate 3) →
    ∀ i j, ¬ Overtakes order j i

/-- What holds of the reports of any calls. -/
lemma reportsFollow_of_run? {earlier : List (Result Reference)}
    (listening : h.reports = .queued earlier)
    (run : (start h results).run? order = some g) : ReportsFollow h earlier results order g := by
  have follows := follows_of_run? run
  have allowed := run?_isSome_iff.1 (Option.isSome_of_eq_some run)
  have inside (k : Nat) : ∀ i ∈ nthSteps k order, i < results.length := fun i hi =>
    (allowed i (List.count_pos_iff.1 (Nat.lt_of_le_of_lt (Nat.zero_le k) (mem_nthSteps.1 hi)))).1
  constructor
  case reports => exact follows.reports earlier listening
  case counted => exact follows.counted
  case finished => rw [follows.counted, follows.finished]
  case once =>
    rw [follows.counted]
    refine ⟨fun i hi => ?_, nodup_nthSteps⟩
    rw [mem_nthSteps] at hi ⊢
    omega
  case kept =>
    intro none_
    refine ⟨_, follows.reports earlier listening, ?_⟩
    rw [follows.counted]
    exact ((prefix_iff_none_overtakes order).2 none_).filterMap _
  case overtaken =>
    rintro distinct ⟨pushed, reports, first⟩
    refine (prefix_iff_none_overtakes order).1
      (prefix_of_resultsOf distinct (inside 2) (inside 0) ?_)
    obtain rfl : resultsOf results (nthSteps 2 order) = pushed :=
      List.append_cancel_left (Reports.queued.inj
        ((follows.reports earlier listening).symm.trans reports))
    rwa [follows.counted] at first
  case uninterrupted =>
    rintro turns rfl
    have once : turns.Nodup := nodup_of_turns fun i => by
      by_cases hi : i ∈ turns.flatMap (List.replicate 3)
      · exact (allowed i hi).2
      · rw [List.count_eq_zero.2 hi]
        exact Nat.zero_le 3
    have same : nthSteps 2 (turns.flatMap (List.replicate 3)) =
        nthSteps 0 (turns.flatMap (List.replicate 3)) :=
      (nthSteps_turns once (by omega)).trans (nthSteps_turns once (by omega)).symm
    exact (prefix_iff_none_overtakes _).1 ⟨[], (List.append_nil _).trans same⟩

/-- Every order of counting goes with every order of reporting: all calls count their bursts, all
decide, and then all report. -/
lemma exists_run_of_orders {earlier : List (Result Reference)}
    (listening : h.reports = .queued earlier)
    {first last : List Nat} (hfirst : first.Perm (List.range results.length))
    (hlast : last.Perm (List.range results.length)) :
    ∃ g, (start h results).run? (first ++ first ++ last) = some g ∧ g.isSettled ∧
      g.counted = first ∧ g.harness.reports = .queued (earlier ++ resultsOf results last) := by
  have count {l : List Nat} (hl : l.Perm (List.range results.length)) (i : Nat) :
      l.count i = if i < results.length then 1 else 0 := by
    rw [hl.count_eq, List.count_range]
  have thrice (i : Nat) : (first ++ first ++ last).count i = if i < results.length then 3 else 0 := by
    rw [List.count_append, List.count_append, count hfirst, count hlast]
    split <;> rfl
  have allowed : ∀ i ∈ first ++ first ++ last,
      i < results.length ∧ (first ++ first ++ last).count i ≤ 3 := by
    intro i hi
    have some_ := List.count_pos_iff.2 hi
    rw [thrice] at some_ ⊢
    split at some_
    next inside => exact ⟨inside, Nat.le_of_eq (if_pos inside)⟩
    next => cases some_
  have steps (k : Nat) := nthSteps_rounds (k := k) (hfirst.nodup_iff.2 List.nodup_range)
    (hlast.nodup_iff.2 List.nodup_range) (hlast.trans hfirst.symm).subset
  obtain ⟨g, run⟩ := Option.isSome_iff_exists.1 ((run?_isSome_iff (h := h)).2 allowed)
  have follows := follows_of_run? run
  refine ⟨g, run, follows.isSettled fun i hi => by rw [thrice, if_pos hi], ?_, ?_⟩
  · rw [follows.counted, steps]
    simp
  · rw [follows.reports earlier listening, steps]
    simp

/-- **In which order reports come.** They come in the order of the last steps of their calls, which
is that in which the bursts were counted as long as no call overtakes another, and which may be any
other order whatever the order of counting. -/
theorem reports_follow {earlier : List (Result Reference)} (listening : h.reports = .queued earlier) :
    (∀ order g, (start h results).run? order = some g → ReportsFollow h earlier results order g) ∧
    ∀ first last : List Nat, first.Perm (List.range results.length) →
      last.Perm (List.range results.length) →
      ∃ g, (start h results).run? (first ++ first ++ last) = some g ∧ g.isSettled ∧
        g.counted = first ∧ g.harness.reports = .queued (earlier ++ resultsOf results last) :=
  ⟨fun _ _ => reportsFollow_of_run? listening, fun _ _ => exists_run_of_orders listening⟩

/-- The results of two bursts of one message. -/
def twoResults : List (Result Reference) :=
  [⟨⟨⟨1⟩, 1⟩, 1, 1, none, none, .completed⟩, ⟨⟨⟨2⟩, 2⟩, 1, 1, none, none, .completed⟩]

/-- A harness with a report channel. -/
def listened : Harness := { request := { count := 1 }, reports := .queued [] }

/-- Two calls in either order, reporting in either order. -/
theorem reports_follow_two :
    listened.reports = .queued [] ∧
      (∀ order g, (start listened twoResults).run? order = some g →
        ReportsFollow listened [] twoResults order g) ∧
      ∃ g, (start listened twoResults).run? [0, 1, 0, 1, 1, 0] = some g ∧ g.counted = [0, 1] ∧
        g.harness.reports = .queued [twoResults[1], twoResults[0]] := by
  have open_ : listened.reports = .queued [] := rfl
  obtain ⟨follow, every⟩ := @reports_follow listened twoResults [] open_
  obtain ⟨g, run, -, counted, reports⟩ := every [0, 1] [1, 0] (List.Perm.refl _) (List.Perm.swap ..)
  exact ⟨open_, follow, g, run, counted, reports⟩

/-- **Reports change places**: the first call counts its burst and is held up, and by the time it
goes on the second call has counted its own and reported it. -/
theorem reports_overtaken :
    ∃ g, (start listened twoResults).run? [0, 1, 1, 1, 0, 0] = some g ∧ g.isSettled ∧
      g.counted = [0, 1] ∧ g.harness.reports = .queued [twoResults[1], twoResults[0]] ∧
      ¬ InCountingOrder [] twoResults g := by
  have ends : ((start listened twoResults).run? [0, 1, 1, 1, 0, 0]).any fun g =>
      g.isSettled ∧ g.counted = [0, 1] ∧
        g.harness.reports = .queued [twoResults[1], twoResults[0]] := by
    decide +kernel
  obtain ⟨g, run, ends⟩ := (Option.any_eq_true ..).1 ends
  obtain ⟨settled, counted, reports⟩ := of_decide_eq_true ends
  refine ⟨g, run, settled, counted, reports, ?_⟩
  rintro ⟨pushed, same, first⟩
  rw [reports] at same
  obtain rfl : [twoResults[1], twoResults[0]] = pushed := Reports.queued.inj same
  rw [counted] at first
  exact absurd first (by decide)

end FlowBurst.Gathering
