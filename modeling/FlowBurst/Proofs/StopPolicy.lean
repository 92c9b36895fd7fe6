import FlowBurst.Harness.Gathering
import Mathlib.Algebra.Group.Nat.Defs
import Mathlib.Tactic.Lemma

/-!
# When a harness stops the controller

The calls of a harness count their bursts, decide and report in steps that others may come between.
What they come to together does not depend on the order of these steps: every burst is counted and
reported once, a failure ends the program if it is told to, and the controller is asked to stop if a
failure ends the program, or once as many bursts have ended as are allowed. A call that finds the
limit reached and its burst failed asks for a stop because of the failure; so no stop is lost.

`Settles` is what holds of calls that settle their bursts, after so many steps of theirs
(`Settles.step`). Main statement: `stop_policy`.
-/

namespace FlowBurst

open FlowBurst.Burst (Result)
open FlowBurst.Switch (Reference)

namespace Harness

/-! ### One step of one call -/

/-- How many steps of settling a burst have been taken. -/
def Settling.taken : Settling → Nat
  | counting _ => 0
  | deciding _ _ => 1
  | reporting _ => 2
  | settled => 3

/-- Whether the limit was found reached when a burst was counted and nothing has followed yet. -/
def Settling.foundLimit : Settling → Bool
  | deciding _ reached => reached.isSome
  | _ => false

/-- Whether so many bursts reach the limit. A limit of zero is reached by the first one. -/
def LimitReached (h : Harness) (bursts : Nat) : Prop :=
  ∃ limit, h.maxBursts = some limit ∧ max 1 limit.toNat ≤ bursts

variable {h : Harness} {r : Result Reference} {n : Nat}

lemma LimitReached.mono {m : Nat} (reached : h.LimitReached n) (le : n ≤ m) : h.LimitReached m := by
  obtain ⟨limit, allowed, upTo⟩ := reached
  exact ⟨limit, allowed, Nat.le_trans upTo le⟩

lemma reached?_isSome {finished : UInt64} :
    (h.reached? finished).isSome = true ↔ ∃ limit, h.maxBursts = some limit ∧ limit ≤ finished := by
  unfold reached?
  cases h.maxBursts with
  | none => simp
  | some limit => by_cases le : limit ≤ finished <;> simp [le]

/-- What the counter has come to by so many bursts is found to reach the limit only if they do. -/
lemma limitReached_of_reached? {finished : UInt64} (count : finished.toNat = (n + 1) % 2 ^ 64)
    (reached : (h.reached? finished).isSome) : h.LimitReached (n + 1) := by
  obtain ⟨limit, allowed, upTo⟩ := reached?_isSome.1 reached
  refine ⟨limit, allowed, ?_⟩
  have := UInt64.le_iff_toNat_le.1 upTo
  omega

/-- The burst that reaches the limit is found to. -/
lemma reached?_of_limitReached {finished : UInt64} (count : finished.toNat = (n + 1) % 2 ^ 64)
    (before : ¬ h.LimitReached n) (reached : h.LimitReached (n + 1)) :
    (h.reached? finished).isSome := by
  obtain ⟨limit, allowed, upTo⟩ := reached
  have least : ¬ max 1 limit.toNat ≤ n := fun le => before ⟨limit, allowed, le⟩
  have bound := limit.toNat_lt
  exact reached?_isSome.2 ⟨limit, allowed, UInt64.le_iff_toNat_le.2 (by omega)⟩

/-- What a decision does: a failure that ends the program is noted, and the controller is asked to stop
because of it or because the limit was found reached. -/
lemma decide_eq (h : Harness) (r : Result Reference) (reached : Option UInt64) :
    (h.decide r reached).harness =
        { h with
          stoppedOnFailure := h.stoppedOnFailure || (h.canStop && h.exitOnFailure && r.isAborted) } ∧
      (h.decide r reached).next = .reporting r ∧
      (h.decide r reached).stop =
        (h.canStop && (h.exitOnFailure && r.isAborted || reached.isSome)) := by
  obtain ⟨request, exits, maxBursts, stops, reports, finished, stopped⟩ := h
  unfold decide
  cases stops <;> cases exits <;> cases aborted : r.isAborted <;> cases reached <;> simp

/-- A call is about its own burst, and finds the limit reached only if as many bursts have been
counted. -/
def Call.Honest (h : Harness) (counted : Nat) (c : Call) : Prop :=
  match c.todo with
  | .counting r | .reporting r => r = c.result
  | .deciding r reached => r = c.result ∧ (reached.isSome → h.LimitReached counted)
  | .settled => True

lemma Call.Honest.mono {c : Call} {m : Nat} (honest : c.Honest h n) (le : n ≤ m) : c.Honest h m := by
  unfold Honest at honest ⊢
  split at honest
  · exact honest
  · exact honest
  · exact ⟨honest.1, fun found => (honest.2 found).mono le⟩
  · trivial

/-- The part of a harness that no step changes. -/
structure SamePolicy (h g : Harness) : Prop where
  canStop : g.canStop = h.canStop
  exitOnFailure : g.exitOnFailure = h.exitOnFailure
  maxBursts : g.maxBursts = h.maxBursts

lemma SamePolicy.trans {g g' : Harness} (same : SamePolicy h g) (same' : SamePolicy g g') :
    SamePolicy h g' :=
  ⟨same'.canStop.trans same.canStop, same'.exitOnFailure.trans same.exitOnFailure,
    same'.maxBursts.trans same.maxBursts⟩

lemma SamePolicy.reached? {g : Harness} (same : SamePolicy h g) (finished : UInt64) :
    g.reached? finished = h.reached? finished := by
  unfold Harness.reached?
  rw [same.maxBursts]

end Harness

namespace Gathering

open Harness (Call LimitReached)

/-! ### Calls side by side -/

/-- How many calls have taken so many steps. -/
def past (g : Gathering) (steps : Nat) : Nat := g.calls.countP fun c => steps ≤ c.todo.taken

/-- Whether a call has decided about a failed burst. -/
def anyFailed (g : Gathering) : Bool :=
  g.calls.any fun c => decide (2 ≤ c.todo.taken) && c.result.isAborted

/-- Whether a call is about to ask for a stop because of the limit. -/
def anyFoundLimit (g : Gathering) : Bool := g.calls.any fun c => c.todo.foundLimit

/-- What holds of calls that settle the bursts with the given results, after so many steps. -/
structure Settles (h : Harness) (results : List (Result Reference)) (steps : Nat) (g : Gathering) :
    Prop where
  results : g.calls.map Call.result = results
  policy : h.SamePolicy g.harness
  honest : ∀ c ∈ g.calls, c.Honest h (g.past 1)
  steps : g.past 1 + g.past 2 + g.past 3 = steps
  finished : g.harness.finished.toNat = g.past 1 % 2 ^ 64
  failed : g.harness.stoppedOnFailure = (h.canStop && h.exitOnFailure && g.anyFailed)
  /-- A stop has a reason. -/
  reason : g.stopped → h.canStop ∧ (g.harness.stoppedOnFailure ∨ h.LimitReached (g.past 1))
  failure_stops : g.harness.stoppedOnFailure → g.stopped
  /-- When the limit has been reached, a call has asked for a stop or is about to. -/
  limit_stops : h.canStop → h.LimitReached (g.past 1) → g.stopped ∨ g.anyFoundLimit
  reports : ∃ pushed : List (Result Reference), g.harness.reports = pushed.foldl Reports.push h.reports ∧
    pushed.Perm ((g.calls.filter fun c => 3 ≤ c.todo.taken).map Call.result)

variable {h : Harness} {results : List (Result Reference)} {steps i : Nat} {g g' : Gathering}

/-- A step is that of one call, with the other calls around it as they are. -/
lemma step?_eq_some (step : g.step? i = some g') : ∃ before c after effect,
    g.calls = before ++ c :: after ∧ g.harness.settle? c.todo = some effect ∧
      g'.harness = effect.harness ∧ g'.calls = before ++ { c with todo := effect.next } :: after ∧
      g'.stopped = (g.stopped || effect.stop) := by
  simp only [step?, Option.bind_eq_bind, Option.bind_eq_some_iff, Option.pure_def,
    Option.some.injEq] at step
  obtain ⟨c, at_i, effect, settles, rfl⟩ := step
  obtain ⟨inside, rfl⟩ := List.getElem?_eq_some_iff.1 at_i
  refine ⟨g.calls.take i, g.calls[i], g.calls.drop (i + 1), effect, ?_, settles, rfl, ?_, rfl⟩
  · simp
  · rw [List.set_eq_take_append_cons_drop, if_pos inside]

/-- Calls whose bursts have just ended have done nothing yet. -/
lemma settles_start (finished : h.finished = 0) (stopped : h.stoppedOnFailure = false) :
    Settles h results 0 (start h results) := by
  have idle : (start h results).past 1 = 0 := by
    simp [start, past, Harness.Settling.taken, List.countP_map, Function.comp_def]
  exact {
    results := by simp [start, Function.comp_def]
    policy := ⟨rfl, rfl, rfl⟩
    honest := by
      intro c hc
      obtain ⟨r, -, rfl⟩ := List.mem_map.1 hc
      rfl
    steps := by simp [start, past, Harness.Settling.taken, List.countP_map, Function.comp_def]
    finished := by
      rw [idle]
      exact congrArg UInt64.toNat finished
    failed := by simp [start, anyFailed, Harness.Settling.taken, stopped]
    reason := nofun
    failure_stops := fun failed => absurd (stopped.symm.trans failed) (by decide)
    limit_stops := by
      intro _ ⟨limit, _, upTo⟩
      omega
    reports := ⟨[], rfl, by
      simp [start, Harness.Settling.taken, List.filter_map, Function.comp_def]⟩ }

/-! ### One call goes on -/

section Step

variable {before after : List Call} {c : Call} {r : Result Reference} {next : Harness.Settling}

section Replaced

variable (calls : g.calls = before ++ c :: after)
  (calls' : g'.calls = before ++ { c with todo := next } :: after)
include calls calls'

lemma results_of_replaced : g'.calls.map Call.result = g.calls.map Call.result := by
  rw [calls, calls']
  simp

/-- As many calls have taken so many steps as before, or one more if this is the step it was about. -/
lemma past_of_replaced (goesOn : next.taken = c.todo.taken + 1) (steps : Nat) :
    g'.past steps = g.past steps + if steps = next.taken then 1 else 0 := by
  simp only [past, calls, calls', List.countP_append, List.countP_cons, decide_eq_true_eq, goesOn]
  by_cases earlier : steps ≤ c.todo.taken
  · rw [if_pos earlier, if_pos (by omega), if_neg (by omega)]
    rfl
  · by_cases now : steps = c.todo.taken + 1
    · rw [if_neg earlier, if_pos (by omega), if_pos now]
      omega
    · rw [if_neg earlier, if_neg (by omega), if_neg now]
      rfl

/-- Whichever step it was about, it is one of the three. -/
lemma steps_of_replaced (goesOn : next.taken = c.todo.taken + 1) (final : next.taken ≤ 3) :
    g'.past 1 + g'.past 2 + g'.past 3 = g.past 1 + g.past 2 + g.past 3 + 1 := by
  have changed := past_of_replaced calls calls' goesOn
  rw [changed 1, changed 2, changed 3]
  repeat' split
  all_goals omega

/-- Only the last step reports a burst. -/
lemma reported_of_replaced (goesOn : next.taken = c.todo.taken + 1) (early : next.taken < 3) :
    g'.calls.filter (fun c => 3 ≤ c.todo.taken) = g.calls.filter (fun c => 3 ≤ c.todo.taken) := by
  have before_it : ¬ 3 ≤ c.todo.taken := by omega
  have not_yet : ¬ 3 ≤ next.taken := by omega
  simp [calls, calls', before_it, not_yet]

/-- What holds of all calls still does if it does of the one that goes on. -/
lemma forall_of_replaced {P : Call → Prop} (all : ∀ x ∈ g.calls, P x)
    (own : P { c with todo := next }) : ∀ x ∈ g'.calls, P x := by
  intro x hx
  rw [calls', List.mem_append, List.mem_cons] at hx
  rcases hx with hx | rfl | hx
  · exact all x (by simp [calls, hx])
  · exact own
  · exact all x (by simp [calls, hx])

end Replaced

/-- What a call that goes on was about. -/
lemma Settles.honest_of_mem (settles : Settles h results steps g)
    (calls : g.calls = before ++ c :: after) {todo : Harness.Settling} (at_todo : c.todo = todo) :
    Call.Honest h (g.past 1) { result := c.result, todo } := by
  have honest := settles.honest c (by simp [calls])
  rwa [← at_todo]

/-- A call counts its burst. -/
lemma Settles.counts (settles : Settles h results steps g) (calls : g.calls = before ++ c :: after)
    (todo : c.todo = .counting r)
    (harness : g'.harness = { g.harness with finished := g.harness.finished + 1 })
    (calls' : g'.calls = before ++
      { c with todo := .deciding r (g.harness.reached? (g.harness.finished + 1)) } :: after)
    (stopped : g'.stopped = g.stopped) : Settles h results (steps + 1) g' := by
  have counted : g'.past 1 = g.past 1 + 1 := past_of_replaced calls calls' (by rw [todo]; rfl) 1
  have failed : g'.anyFailed = g.anyFailed := by
    simp [anyFailed, calls, calls', todo, Harness.Settling.taken]
  have found : g'.anyFoundLimit =
      (g.anyFoundLimit || (g.harness.reached? (g.harness.finished + 1)).isSome) := by
    simp only [anyFoundLimit, calls, calls', todo, Harness.Settling.foundLimit, List.any_append,
      List.any_cons, Bool.false_or]
    rw [← Bool.or_assoc, Bool.or_right_comm]
  have number : (g.harness.finished + 1).toNat = (g.past 1 + 1) % 2 ^ 64 := by
    rw [UInt64.toNat_add, settles.finished]
    simp
  have own : r = c.result := settles.honest_of_mem calls todo
  have reached := settles.policy.reached? (g.harness.finished + 1)
  exact {
    results := (results_of_replaced calls calls').trans settles.results
    policy := settles.policy.trans (by rw [harness]; exact ⟨rfl, rfl, rfl⟩)
    honest := by
      rw [counted]
      exact forall_of_replaced calls calls'
        (fun x hx => (settles.honest x hx).mono (Nat.le_succ _))
        ⟨own, fun found => Harness.limitReached_of_reached? number (reached ▸ found)⟩
    steps := by
      rw [← settles.steps]
      exact steps_of_replaced calls calls' (by rw [todo]; rfl) (by simp [Harness.Settling.taken])
    finished := by
      rw [harness, counted]
      exact number
    failed := by
      rw [harness, failed]
      exact settles.failed
    reason := by
      rw [harness, stopped, counted]
      intro asked
      obtain ⟨canStop, reason⟩ := settles.reason asked
      exact ⟨canStop, reason.imp_right fun reached => reached.mono (Nat.le_succ _)⟩
    failure_stops := by
      rw [harness, stopped]
      exact settles.failure_stops
    limit_stops := by
      rw [stopped, counted, found]
      intro canStop now
      by_cases before : h.LimitReached (g.past 1)
      · exact (settles.limit_stops canStop before).imp_right fun found => by simp [found]
      · right
        simp [reached, Harness.reached?_of_limitReached number before now]
    reports := by
      rw [harness, reported_of_replaced calls calls' (by rw [todo]; rfl)
        (by simp [Harness.Settling.taken])]
      exact settles.reports }

/-- A call decides. The decision takes one reason or the other, and either way asks for the stop. -/
lemma Settles.decides (settles : Settles h results steps g) {reached : Option UInt64}
    (calls : g.calls = before ++ c :: after) (todo : c.todo = .deciding r reached)
    (harness : g'.harness = (g.harness.decide r reached).harness)
    (calls' : g'.calls = before ++ { c with todo := .reporting r } :: after)
    (stopped : g'.stopped = (g.stopped || (g.harness.decide r reached).stop)) :
    Settles h results (steps + 1) g' := by
  obtain ⟨own, honest⟩ : r = c.result ∧ (reached.isSome → h.LimitReached (g.past 1)) :=
    settles.honest_of_mem calls todo
  obtain ⟨decided, -, asks⟩ := Harness.decide_eq g.harness r reached
  rw [decided] at harness
  rw [asks, settles.policy.canStop, settles.policy.exitOnFailure] at stopped
  have counted : g'.past 1 = g.past 1 := past_of_replaced calls calls' (by rw [todo]; rfl) 1
  have failed : g'.anyFailed = (g.anyFailed || r.isAborted) := by
    simp only [anyFailed, calls, calls', todo, Harness.Settling.taken, own, List.any_append,
      List.any_cons, Nat.le_refl, decide_true, Bool.true_and, Nat.reduceLeDiff, decide_false,
      Bool.false_and, Bool.false_or]
    rw [← Bool.or_assoc, Bool.or_right_comm]
  have found : g.anyFoundLimit = (g'.anyFoundLimit || reached.isSome) := by
    simp only [anyFoundLimit, calls, calls', todo, Harness.Settling.foundLimit, List.any_append,
      List.any_cons, Bool.false_or]
    rw [← Bool.or_assoc, Bool.or_right_comm]
  have noted : g'.harness.stoppedOnFailure =
      (g.harness.stoppedOnFailure || (h.canStop && h.exitOnFailure && r.isAborted)) := by
    rw [harness, ← settles.policy.canStop, ← settles.policy.exitOnFailure]
  exact {
    results := (results_of_replaced calls calls').trans settles.results
    policy := settles.policy.trans (by rw [harness]; exact ⟨rfl, rfl, rfl⟩)
    honest := by
      rw [counted]
      exact forall_of_replaced calls calls' settles.honest own
    steps := by
      rw [← settles.steps]
      exact steps_of_replaced calls calls' (by rw [todo]; rfl) (by simp [Harness.Settling.taken])
    finished := by
      rw [harness, counted]
      exact settles.finished
    failed := by
      rw [noted, failed, settles.failed, Bool.and_or_distrib_left]
    reason := by
      rw [noted, stopped, counted]
      intro asked
      rcases Bool.or_eq_true_iff.1 asked with earlier | now
      · obtain ⟨canStop, reason⟩ := settles.reason earlier
        exact ⟨canStop, reason.imp_left fun failed => by simp [failed]⟩
      · obtain ⟨canStop, reason⟩ := Bool.and_eq_true_iff.1 now
        refine ⟨canStop, (Bool.or_eq_true_iff.1 reason).imp (fun failure => ?_) honest⟩
        rw [Bool.and_assoc, canStop, failure]
        simp
    failure_stops := by
      rw [noted, stopped]
      intro failed
      rcases Bool.or_eq_true_iff.1 failed with earlier | now
      · simp [settles.failure_stops earlier]
      · obtain ⟨⟨canStop, exits⟩, aborted⟩ := by simpa using now
        simp [canStop, exits, aborted]
    limit_stops := by
      rw [stopped, counted]
      intro canStop now
      rcases settles.limit_stops canStop now with earlier | finds
      · simp [earlier]
      · rcases Bool.or_eq_true_iff.1 (found ▸ finds) with other | own
        · exact .inr other
        · simp [canStop, own]
    reports := by
      rw [harness, reported_of_replaced calls calls' (by rw [todo]; rfl)
        (by simp [Harness.Settling.taken])]
      exact settles.reports }

/-- A call reports its burst. -/
lemma Settles.pushes (settles : Settles h results steps g) (calls : g.calls = before ++ c :: after)
    (todo : c.todo = .reporting r)
    (harness : g'.harness = { g.harness with reports := g.harness.reports.push r })
    (calls' : g'.calls = before ++ { c with todo := .settled } :: after)
    (stopped : g'.stopped = g.stopped) : Settles h results (steps + 1) g' := by
  have own : r = c.result := settles.honest_of_mem calls todo
  have counted : g'.past 1 = g.past 1 := past_of_replaced calls calls' (by rw [todo]; rfl) 1
  have failed : g'.anyFailed = g.anyFailed := by
    simp [anyFailed, calls, calls', todo, Harness.Settling.taken]
  have found : g'.anyFoundLimit = g.anyFoundLimit := by
    simp [anyFoundLimit, calls, calls', todo, Harness.Settling.foundLimit]
  exact {
    results := (results_of_replaced calls calls').trans settles.results
    policy := settles.policy.trans (by rw [harness]; exact ⟨rfl, rfl, rfl⟩)
    honest := by
      rw [counted]
      exact forall_of_replaced calls calls' settles.honest trivial
    steps := by
      rw [← settles.steps]
      exact steps_of_replaced calls calls' (by rw [todo]; rfl) (by simp [Harness.Settling.taken])
    finished := by
      rw [harness, counted]
      exact settles.finished
    failed := by
      rw [harness, failed]
      exact settles.failed
    reason := by
      rw [harness, stopped, counted]
      exact settles.reason
    failure_stops := by
      rw [harness, stopped]
      exact settles.failure_stops
    limit_stops := by
      rw [stopped, counted, found]
      exact settles.limit_stops
    reports := by
      rw [harness]
      obtain ⟨pushed, reports, perm⟩ := settles.reports
      refine ⟨pushed ++ [r], by simp [reports], ?_⟩
      have earlier : pushed.Perm ((before.filter fun c => 3 ≤ c.todo.taken).map Call.result ++
          (after.filter fun c => 3 ≤ c.todo.taken).map Call.result) := by
        simpa [calls, todo, Harness.Settling.taken] using perm
      have now : ((g'.calls.filter fun c => 3 ≤ c.todo.taken).map Call.result) =
          (before.filter fun c => 3 ≤ c.todo.taken).map Call.result ++
            r :: (after.filter fun c => 3 ≤ c.todo.taken).map Call.result := by
        simp [calls', Harness.Settling.taken, own]
      rw [now]
      exact (List.perm_append_singleton r pushed).trans
        ((earlier.cons r).trans List.perm_middle.symm) }

end Step

/-- **A step of a call keeps what holds of the calls.** -/
theorem Settles.step (settles : Settles h results steps g) (step : g.step? i = some g') :
    Settles h results (steps + 1) g' := by
  obtain ⟨before, c, after, effect, calls, settle, harness, calls', stopped⟩ := step?_eq_some step
  cases todo : c.todo with
  | counting r =>
    rw [todo] at settle
    cases settle
    exact settles.counts calls todo harness calls' (stopped.trans (Bool.or_false _))
  | deciding r reached =>
    rw [todo] at settle
    cases settle
    rw [(Harness.decide_eq g.harness r reached).2.1] at calls'
    exact settles.decides calls todo harness calls' stopped
  | reporting r =>
    rw [todo] at settle
    cases settle
    exact settles.pushes calls todo harness calls' (stopped.trans (Bool.or_false _))
  | settled =>
    rw [todo] at settle
    cases settle

/-- The steps of calls, in any order, keep what holds of the calls. -/
lemma settles_of_run? (settles : Settles h results steps g) {order : List Nat}
    (run : g.run? order = some g') : Settles h results (steps + order.length) g' := by
  induction order generalizing steps g with
  | nil =>
    obtain rfl := Option.some.inj run
    exact settles
  | cons i order ih =>
    simp only [run?, List.foldlM_cons, Option.bind_eq_bind, Option.bind_eq_some_iff] at run
    obtain ⟨next, step, rest⟩ := run
    have later := ih (settles.step step) rest
    rwa [List.length_cons, Nat.add_comm order.length, ← Nat.add_assoc]

/-! ### Calls that have returned -/

/-- What a harness and its calls have come to when the calls about the given results have returned. -/
structure Settled (h : Harness) (results : List (Result Reference)) (g : Gathering) : Prop where
  /-- Every burst has been counted, with a counter of 64 bits. -/
  finished : g.harness.finished.toNat = results.length % 2 ^ 64
  stoppedOnFailure : g.harness.stoppedOnFailure ↔
    h.canStop ∧ h.exitOnFailure ∧ ∃ r ∈ results, r.isAborted
  stopped : g.stopped ↔
    h.canStop ∧ (h.exitOnFailure ∧ (∃ r ∈ results, r.isAborted) ∨ h.LimitReached results.length)
  /-- Every burst has been reported once, with its result. -/
  reports : ∀ earlier, h.reports = .queued earlier →
    ∃ pushed : List (Result Reference), g.harness.reports = .queued (earlier ++ pushed) ∧
      pushed.Perm results

lemma foldl_push (pushed earlier : List (Result Reference)) :
    pushed.foldl Reports.push (.queued earlier) = .queued (earlier ++ pushed) := by
  induction pushed generalizing earlier with
  | nil => simp
  | cons r pushed ih => simp [Reports.push, ih]

lemma Settles.settled (settles : Settles h results steps g) (returned : g.isSettled) :
    Settled h results g := by
  have todo : ∀ c ∈ g.calls, c.todo = .settled := by simpa [isSettled] using returned
  have length : g.calls.length = results.length := by rw [← settles.results, List.length_map]
  have counted : g.past 1 = results.length := by
    rw [← length]
    apply List.countP_eq_length.2
    intro c hc
    simp [todo c hc, Harness.Settling.taken]
  have failed : g.anyFailed = true ↔ ∃ r ∈ results, r.isAborted := by
    simp only [anyFailed, List.any_eq_true, ← settles.results, List.mem_map]
    constructor
    · rintro ⟨c, hc, failed⟩
      exact ⟨c.result, ⟨c, hc, rfl⟩, (Bool.and_eq_true_iff.1 failed).2⟩
    · rintro ⟨_, ⟨c, hc, rfl⟩, aborted⟩
      exact ⟨c, hc, by simp [todo c hc, Harness.Settling.taken, aborted]⟩
  have noneFound : g.anyFoundLimit = false := by
    simp only [anyFoundLimit, List.any_eq_false]
    intro c hc
    simp [todo c hc, Harness.Settling.foundLimit]
  have noted : g.harness.stoppedOnFailure ↔
      h.canStop ∧ h.exitOnFailure ∧ ∃ r ∈ results, r.isAborted := by
    rw [settles.failed, Bool.and_eq_true_iff, Bool.and_eq_true_iff, failed, and_assoc]
  exact {
    finished := by rw [settles.finished, counted]
    stoppedOnFailure := noted
    stopped := by
      constructor
      · intro stopped
        obtain ⟨canStop, reason⟩ := settles.reason stopped
        rw [counted, noted] at reason
        exact ⟨canStop, reason.imp_left fun failure => failure.2⟩
      · rintro ⟨canStop, failure | reached⟩
        · exact settles.failure_stops (noted.2 ⟨canStop, failure⟩)
        · have stops := settles.limit_stops canStop (counted ▸ reached)
          simpa [noneFound] using stops
    reports := by
      intro earlier queued
      obtain ⟨pushed, reports, perm⟩ := settles.reports
      refine ⟨pushed, by rw [reports, queued, foldl_push], ?_⟩
      have all : g.calls.filter (fun c => 3 ≤ c.todo.taken) = g.calls := by
        apply List.filter_eq_self.2
        intro c hc
        simp [todo c hc, Harness.Settling.taken]
      rwa [all, settles.results] at perm }

/-- As long as a call has not returned it has a next step. -/
lemma exists_step (waiting : ¬ g.isSettled) : ∃ i, (g.step? i).isSome := by
  obtain ⟨c, hc, todo⟩ : ∃ c ∈ g.calls, c.todo ≠ .settled := by simpa [isSettled] using waiting
  obtain ⟨i, inside, rfl⟩ := List.getElem_of_mem hc
  have goesOn : (g.harness.settle? g.calls[i].todo).isSome := by
    cases next : g.calls[i].todo with
    | settled => exact absurd next todo
    | _ => rfl
  obtain ⟨effect, settle⟩ := Option.isSome_iff_exists.1 goesOn
  exact ⟨i, by simp [step?, inside, settle]⟩

/-- A call takes three steps. -/
lemma Settles.bounded (settles : Settles h results steps g) : steps ≤ 3 * results.length := by
  have each (steps : Nat) : g.past steps ≤ results.length := by
    rw [← settles.results, List.length_map]
    exact List.countP_le_length
  have first := each 1
  have second := each 2
  have third := each 3
  rw [← settles.steps]
  omega

/-- **When a harness stops the controller**, whatever the order of the steps of its calls. Calls of a
harness that has not counted a burst before all return in at most three steps each, and then
what they have come to hangs on the policy and the results alone. -/
theorem stop_policy (finished : h.finished = 0) (stopped : h.stoppedOnFailure = false)
    {order : List Nat} (run : (start h results).run? order = some g) :
    (g.isSettled → Settled h results g) ∧
      (∀ order' g', (start h results).run? order' = some g' → g.isSettled → g'.isSettled →
        g'.harness.finished = g.harness.finished ∧
          g'.harness.stoppedOnFailure = g.harness.stoppedOnFailure ∧ g'.stopped = g.stopped) ∧
      (¬ g.isSettled → ∃ i, (g.step? i).isSome) ∧ order.length ≤ 3 * results.length := by
  have settles {order : List Nat} {g : Gathering} (run : (start h results).run? order = some g) :
      Settles h results order.length g := by
    have settles := settles_of_run? (settles_start finished stopped) run
    rwa [Nat.zero_add] at settles
  refine ⟨(settles run).settled, ?_, exists_step, (settles run).bounded⟩
  intro order' g' run' returned returned'
  have ours := (settles run).settled returned
  have theirs := (settles run').settled returned'
  refine ⟨UInt64.toNat_inj.1 (theirs.finished.trans ours.finished.symm), ?_, ?_⟩
  · exact Bool.eq_iff_iff.2 (theirs.stoppedOnFailure.trans ours.stoppedOnFailure.symm)
  · exact Bool.eq_iff_iff.2 (theirs.stopped.trans ours.stopped.symm)

/-- The results of three bursts of one message, of which the second has failed. -/
def threeResults : List (Result Reference) :=
  [⟨⟨⟨1⟩, 1⟩, 1, 1, none, none, .completed⟩,
    ⟨⟨⟨2⟩, 2⟩, 1, 0, some 1, some ⟨.disconnected, .described "switch went away"⟩, .aborted⟩,
    ⟨⟨⟨3⟩, 3⟩, 1, 1, none, none, .completed⟩]

/-- A harness that stops the controller after a failure, or after two bursts. -/
def cautious : Harness :=
  { request := { count := 1 }, exitOnFailure := true, maxBursts := some 2, canStop := true
    reports := .queued [] }

/-- The burst that fails is the second one that is counted, and the last one about which it is
decided. -/
theorem stop_policy_failureLast : ∃ g,
    (start cautious threeResults).run? [0, 1, 2, 2, 0, 2, 0, 1, 1] = some g ∧ g.isSettled ∧
      g.harness.reports = .queued [threeResults[2], threeResults[0], threeResults[1]] ∧
      Settled cautious threeResults g := by
  have returned : ((start cautious threeResults).run? [0, 1, 2, 2, 0, 2, 0, 1, 1]).any fun g =>
      g.isSettled ∧
        g.harness.reports = .queued [threeResults[2], threeResults[0], threeResults[1]] := by
    decide +kernel
  obtain ⟨g, run, returned⟩ := (Option.any_eq_true ..).1 returned
  obtain ⟨returned, reports⟩ := of_decide_eq_true returned
  exact ⟨g, run, returned, reports, (stop_policy rfl rfl run).1 returned⟩

end Gathering

end FlowBurst
