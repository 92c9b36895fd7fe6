import FlowBurst.Burst.Run
import Mathlib.Data.List.Chain
import Mathlib.Tactic.Lemma

/-!
# The attempts of a burst

The sender of a burst may keep a state and change it with every call, so what an attempt comes to
may hang on all attempts before it. A sender that is called again and again for one switch with
messages of one kind goes through the states `stateAfter` and answers `attempt`, whether or not anybody
stops after a failure. A burst follows this course: it ends with the first attempt that fails, or with
the last one of its request, and makes no call beyond.

The calls that a sender gets are read off the same sender with a list of its calls besides
(`noting`). Main statement: `burst_stops_at_first_failure`.
-/

namespace FlowBurst.Burst

/-! ### A sender that keeps a state -/

/-- What a sender makes of a call for a switch with a message of a kind: an outcome and its next
state. -/
abbrev StatefulSender (σ ι : Type) := σ → ι → Kind → Except Failure Unit × σ

/-- A call of a sender: the state in which it found the sender, and what it asked for. -/
structure SenderCall (σ ι : Type) where
  state : σ
  switch : ι
  kind : Kind
  deriving DecidableEq, Repr

namespace StatefulSender

variable {σ ι : Type} (send : StatefulSender σ ι) (switch : ι) (kind : Kind) (s : σ)

/-- The state of a sender after so many calls. -/
def stateAfter : Nat → σ
  | 0 => s
  | n + 1 => (send (stateAfter n) switch kind).2

/-- What the calls come to, counted from one. -/
def attempt (k : Nat) : Except Failure Unit :=
  (send (send.stateAfter switch kind s (k - 1)) switch kind).1

/-- The first calls. -/
def callsUpTo (k : Nat) : List (SenderCall σ ι) :=
  (List.range k).map fun n => ⟨send.stateAfter switch kind s n, switch, kind⟩

/-- The same sender with a list of its calls besides. -/
def noting : StatefulSender (σ × List (SenderCall σ ι)) ι := fun (s, calls) switch kind =>
  let (outcome, next) := send s switch kind
  (outcome, next, calls ++ [⟨s, switch, kind⟩])

/-- The `k`-th attempt, counted from one, is the first one that fails. -/
structure FailsFirst (k : Nat) (cause : Failure) : Prop where
  counted : 1 ≤ k
  succeeds : ∀ j, 1 ≤ j → j < k → send.attempt switch kind s j = .ok ()
  fails : send.attempt switch kind s k = .error cause

/-- So many attempts succeed. -/
def AllSucceed (n : Nat) : Prop := ∀ k, 1 ≤ k → k ≤ n → send.attempt switch kind s k = .ok ()

variable {send switch kind s}

/-- Among so many attempts there is a first one that fails, or all succeed. -/
lemma failsFirst_or_allSucceed (send : StatefulSender σ ι) (switch : ι) (kind : Kind) (s : σ)
    (n : Nat) :
    (∃ k cause, k ≤ n ∧ send.FailsFirst switch kind s k cause) ∨ send.AllSucceed switch kind s n := by
  induction n with
  | zero => exact .inr fun k counted upTo => absurd counted (by omega)
  | succ n ih =>
    rcases ih with ⟨k, cause, upTo, first⟩ | earlier
    · exact .inl ⟨k, cause, Nat.le_succ_of_le upTo, first⟩
    · cases last : send.attempt switch kind s (n + 1) with
      | ok _ =>
        refine .inr fun k counted upTo => ?_
        by_cases h : k = n + 1
        · rw [h, last]
        · exact earlier k counted (by omega)
      | error cause =>
        refine .inl ⟨n + 1, cause, Nat.le_refl _, ?_⟩
        exact ⟨by omega, fun j counted before => earlier j counted (by omega), last⟩

/-- There is one first attempt that fails at most. -/
lemma FailsFirst.unique {k k' : Nat} {cause cause' : Failure}
    (first : send.FailsFirst switch kind s k cause) (other : send.FailsFirst switch kind s k' cause') :
    k = k' ∧ cause = cause' := by
  have fails := first.fails
  rcases Nat.lt_trichotomy k k' with before | rfl | before
  · rw [other.succeeds k first.counted before] at fails
    cases fails
  · rw [other.fails] at fails
    exact ⟨rfl, (Except.error.inj fails).symm⟩
  · have fails' := other.fails
    rw [first.succeeds k' other.counted before] at fails'
    cases fails'

lemma callsUpTo_succ (n : Nat) : send.callsUpTo switch kind s (n + 1) =
    send.callsUpTo switch kind s n ++ [⟨send.stateAfter switch kind s n, switch, kind⟩] := by
  simp [callsUpTo, List.range_succ]

@[simp] lemma length_callsUpTo (n : Nat) : (send.callsUpTo switch kind s n).length = n := by
  simp [callsUpTo]

/-- A sender that notes its calls goes through the same states, with the calls that led there. -/
lemma stateAfter_noting (n : Nat) : send.noting.stateAfter switch kind (s, []) n =
    (send.stateAfter switch kind s n, send.callsUpTo switch kind s n) := by
  induction n with
  | zero => rfl
  | succ n ih =>
    rw [stateAfter, ih, callsUpTo_succ]
    rfl

/-- A sender that notes its calls gives the same answers. -/
lemma attempt_noting (k : Nat) :
    send.noting.attempt switch kind (s, []) k = send.attempt switch kind s k := by
  unfold attempt
  rw [stateAfter_noting]
  rfl

lemma FailsFirst.noting {k : Nat} {cause : Failure}
    (first : send.FailsFirst switch kind s k cause) :
    send.noting.FailsFirst switch kind (s, []) k cause where
  counted := first.counted
  succeeds j counted before := (attempt_noting j).trans (first.succeeds j counted before)
  fails := (attempt_noting k).trans first.fails

lemma AllSucceed.noting {n : Nat} (all : send.AllSucceed switch kind s n) :
    send.noting.AllSucceed switch kind (s, []) n :=
  fun k counted upTo => (attempt_noting k).trans (all k counted upTo)

end StatefulSender

/-! ### The counters of a burst -/

namespace Run

variable {σ ι : Type}

/-- The number of an attempt does not overflow as long as there is a further message to send. -/
lemma toNat_attempt {r : Run ι} {count : UInt64} (more : r.sent < count) :
    r.attempt.toNat = r.sent.toNat + 1 := by
  have bound := count.toNat_lt
  have below := UInt64.lt_iff_toNat_lt.1 more
  unfold attempt
  rw [UInt64.toNat_add]
  simp only [UInt64.reduceToNat]
  omega

/-- A burst after so many sends that have succeeded. -/
def after (switch : ι) (request : Request) : Nat → Run ι
  | 0 => start switch request
  | n + 1 => (after switch request n).succeed

variable {switch : ι} {request : Request} {n : Nat}

@[simp] lemma switch_after : (after switch request n).switch = switch := by
  induction n with
  | zero => rfl
  | succ n ih => exact ih

@[simp] lemma request_after : (after switch request n).request = request := by
  induction n with
  | zero => rfl
  | succ n ih => exact ih

@[simp] lemma path_after : (after switch request n).path = [.discovered, .ready, .bursting] := by
  induction n with
  | zero => rfl
  | succ n ih => exact ih

/-- The counter of a burst is the number of the sends that have succeeded. -/
lemma toNat_sent_after (switch : ι) (upTo : n ≤ request.count.toNat) :
    (after switch request n).sent.toNat = n := by
  induction n with
  | zero => rfl
  | succ n ih =>
    have before := ih (Nat.le_of_succ_le upTo)
    have more : (after switch request n).sent < request.count :=
      UInt64.lt_iff_toNat_lt.2 (by omega)
    change (after switch request n).attempt.toNat = n + 1
    rw [toNat_attempt more, before]

lemma isSending_after (switch : ι) (upTo : n ≤ request.count.toNat) :
    (after switch request n).isSending = true ↔ n < request.count.toNat := by
  unfold isSending
  rw [request_after, decide_eq_true_iff, UInt64.lt_iff_toNat_lt, toNat_sent_after switch upTo]

lemma toNat_attempt_after (switch : ι) (below : n < request.count.toNat) :
    (after switch request n).attempt.toNat = n + 1 := by
  have upTo := toNat_sent_after switch (Nat.le_of_lt below)
  have more : (after switch request n).sent < request.count :=
    UInt64.lt_iff_toNat_lt.2 (by omega)
  rw [toNat_attempt more, upTo]

/-! ### The course of a burst -/

/-- A burst goes on after a call that succeeds. -/
lemma playUpTo_of_ok {send : StatefulSender σ ι} {fuel : Nat} {r : Run ι} {s : σ}
    (sending : r.isSending) (answer : (send s r.switch r.request.kind).1 = .ok ()) :
    playUpTo send (fuel + 1) r s = playUpTo send fuel r.succeed (send s r.switch r.request.kind).2 := by
  rw [playUpTo, if_pos sending]
  dsimp only
  rw [answer]
  rfl

/-- A burst ends after a call that fails. -/
lemma playUpTo_of_error {send : StatefulSender σ ι} {fuel : Nat} {r : Run ι} {s : σ} {cause : Failure}
    (sending : r.isSending) (answer : (send s r.switch r.request.kind).1 = .error cause) :
    playUpTo send (fuel + 1) r s = (r.abort cause, (send s r.switch r.request.kind).2) := by
  rw [playUpTo, if_pos sending]
  dsimp only
  rw [answer]
  rfl

/-- A burst that has no further message to send makes no call. -/
lemma playUpTo_of_done {send : StatefulSender σ ι} {fuel : Nat} {r : Run ι} {s : σ}
    (done : ¬ r.isSending) : playUpTo send fuel r s = (r.complete, s) := by
  cases fuel with
  | zero => rfl
  | succ fuel => rw [playUpTo, if_neg done]

section Course

variable {send : StatefulSender σ ι} {s : σ}

/-- **As long as the attempts succeed, a burst follows the course of its sender.** -/
lemma play_eq_playUpTo (upTo : n ≤ request.count.toNat)
    (all : send.AllSucceed switch request.kind s n) :
    play send switch request s = playUpTo send (request.count.toNat - n)
      (after switch request n) (send.stateAfter switch request.kind s n) := by
  induction n with
  | zero => rfl
  | succ n ih =>
    have earlier : send.AllSucceed switch request.kind s n :=
      fun k counted le => all k counted (Nat.le_succ_of_le le)
    have sending := (isSending_after switch (Nat.le_of_lt upTo)).2 upTo
    have answer : (send (send.stateAfter switch request.kind s n) switch request.kind).1 = .ok () :=
      all (n + 1) (by omega) (Nat.le_refl _)
    rw [ih (Nat.le_of_lt upTo) earlier,
      show request.count.toNat - n = request.count.toNat - (n + 1) + 1 by omega,
      playUpTo_of_ok sending (by rw [switch_after, request_after, answer]), switch_after,
      request_after]
    rfl

/-- A burst ends with the first attempt that fails. -/
lemma play_of_failsFirst {k : Nat} {cause : Failure}
    (first : send.FailsFirst switch request.kind s k cause) (upTo : k ≤ request.count.toNat) :
    play send switch request s =
      ((after switch request (k - 1)).abort cause, send.stateAfter switch request.kind s k) := by
  obtain ⟨n, rfl⟩ := Nat.exists_eq_add_of_le' first.counted
  have earlier : send.AllSucceed switch request.kind s n :=
    fun j counted le => first.succeeds j counted (by omega)
  have sending := (isSending_after switch (Nat.le_of_lt upTo)).2 upTo
  have answer : (send (send.stateAfter switch request.kind s n) switch request.kind).1 =
      .error cause := first.fails
  rw [play_eq_playUpTo (Nat.le_of_lt upTo) earlier,
    show request.count.toNat - n = request.count.toNat - (n + 1) + 1 by omega,
    playUpTo_of_error sending (by rw [switch_after, request_after, answer]), switch_after,
    request_after]
  rfl

/-- A burst whose attempts all succeed makes them all. -/
lemma play_of_allSucceed (all : send.AllSucceed switch request.kind s request.count.toNat) :
    play send switch request s = ((after switch request request.count.toNat).complete,
      send.stateAfter switch request.kind s request.count.toNat) := by
  have done : ¬ (after switch request request.count.toNat).isSending := by
    rw [isSending_after switch (Nat.le_refl _)]
    exact Nat.lt_irrefl _
  rw [play_eq_playUpTo (Nat.le_refl _) all, playUpTo_of_done done]

end Course

/-- A burst that ends: the phases it has gone through, and its result. -/
inductive Ends (r : Run ι) : List Phase → Result ι → Prop
  | completed (done : ¬ r.isSending) : Ends r r.completedPath r.complete
  | aborted (more : r.isSending) (cause : Failure) : Ends r r.abortedPath (r.abort cause)

/-- The phases of a burst follow one another as they may, from the first one to the last, which is
that of its result. -/
lemma Ends.path {r : Run ι} {path : List Phase} {result : Result ι} (ends : r.Ends path result)
    (begun : r.path = [.discovered, .ready, .bursting]) :
    path.head? = some .discovered ∧ path.IsChain (fun p q => p.mayBecome q) ∧
      path.getLast? = some result.phase ∧ result.phase.isTerminal := by
  cases ends with
  | completed done => simp [completedPath, complete, begun, Phase.mayBecome, Phase.isTerminal]
  | aborted more cause => simp [abortedPath, abort, begun, Phase.mayBecome, Phase.isTerminal]

end Run

/-! ### What a burst comes to -/

section Outcome

variable {σ ι : Type} (send : StatefulSender σ ι) (switch : ι) (request : Request) (s : σ)

/-- A burst that ends with its `k`-th attempt: its result, the state of the sender and the calls. -/
structure Aborts (k : Nat) (cause : Failure) (result : Result ι) (last : σ)
    (calls : List (SenderCall σ ι)) : Prop where
  sent : result.sent.toNat = k - 1
  failedAt : result.failedAt.map UInt64.toNat = some k
  cause : result.cause = some cause
  phase : result.phase = .aborted
  state : last = send.stateAfter switch request.kind s k
  calls : calls = send.callsUpTo switch request.kind s k

/-- A burst that sends all its messages: its result, the state of the sender and the calls. -/
structure Completes (result : Result ι) (last : σ) (calls : List (SenderCall σ ι)) : Prop where
  sent : result.sent = request.count
  failedAt : result.failedAt = none
  cause : result.cause = none
  phase : result.phase = .completed
  state : last = send.stateAfter switch request.kind s request.count.toNat
  calls : calls = send.callsUpTo switch request.kind s request.count.toNat

variable {send switch request s}

/-- The result of a burst whose sends before the `k`-th one have succeeded and whose `k`-th one has
failed. -/
lemma aborts_after {k : Nat} {cause : Failure} (upTo : k ≤ request.count.toNat) (counted : 1 ≤ k) :
    Aborts send switch request s k cause ((Run.after switch request (k - 1)).abort cause)
      (send.stateAfter switch request.kind s k) (send.callsUpTo switch request.kind s k) := by
  have number : (Run.after switch request (k - 1)).attempt.toNat = k := by
    rw [Run.toNat_attempt_after switch (by omega)]
    omega
  have one_le : 1 ≤ (Run.after switch request (k - 1)).attempt :=
    UInt64.le_iff_toNat_le.2 (by rw [number]; exact counted)
  refine ⟨?_, ?_, rfl, ?_, rfl, rfl⟩
  · change ((Run.after switch request (k - 1)).attempt - 1).toNat = k - 1
    rw [UInt64.toNat_sub_of_le _ _ one_le, number]
    rfl
  · exact congrArg some number
  · simp [Run.abort, Run.abortedPath]

lemma completes_after : Completes send switch request s
    (Run.after switch request request.count.toNat).complete
    (send.stateAfter switch request.kind s request.count.toNat)
    (send.callsUpTo switch request.kind s request.count.toNat) := by
  refine ⟨?_, rfl, rfl, ?_, rfl, rfl⟩
  · exact congrArg Request.count Run.request_after
  · simp [Run.complete, Run.completedPath]

variable (send switch request s)

/-- What holds of a burst over a sender, however it ends. -/
structure Follows (result : Result ι) (last : σ) (calls : List (SenderCall σ ι)) : Prop where
  /-- Whether the calls are noted makes no difference. -/
  unnoted : Run.play send switch request s = (result, last)
  about : result.switch = switch
  requested : result.requested = request.count
  aborts : ∀ k cause, k ≤ request.count.toNat → send.FailsFirst switch request.kind s k cause →
    Aborts send switch request s k cause result last calls
  completes : send.AllSucceed switch request.kind s request.count.toNat →
    Completes send switch request s result last calls
  /-- Every change of phase is one that may be. -/
  phases : ∃ n path, (Run.after switch request n).Ends path result ∧
    path.head? = some .discovered ∧ path.IsChain (fun p q => p.mayBecome q) ∧
    path.getLast? = some result.phase ∧ result.phase.isTerminal
  /-- The counters of the calls count without overflow. -/
  counters : calls.length ≤ request.count.toNat ∧ ∀ n < calls.length,
    (Run.after switch request n).isSending ∧ (Run.after switch request n).sent.toNat = n ∧
      (Run.after switch request n).attempt.toNat = n + 1

/-- **A burst stops at the first failure of its sender**, and nowhere else. Over a sender that keeps any
state, a burst makes the calls of the course of the sender one after another, up to the first attempt
that fails or to the last one of its request, and reports just that. -/
theorem burst_stops_at_first_failure : ∃ result last calls,
    Run.play send.noting switch request (s, []) = (result, last, calls) ∧
      Follows send switch request s result last calls := by
  -- every call of the burst is made with the number that it has
  have counters {n : Nat} (upTo : n ≤ request.count.toNat) : ∀ j < n,
      (Run.after switch request j).isSending ∧ (Run.after switch request j).sent.toNat = j ∧
        (Run.after switch request j).attempt.toNat = j + 1 := by
    intro j before
    have below : j < request.count.toNat := Nat.lt_of_lt_of_le before upTo
    exact ⟨(Run.isSending_after switch (Nat.le_of_lt below)).2 below,
      Run.toNat_sent_after switch (Nat.le_of_lt below), Run.toNat_attempt_after switch below⟩
  rcases send.failsFirst_or_allSucceed switch request.kind s request.count.toNat with
    ⟨k, cause, upTo, first⟩ | all
  · have below : k - 1 < request.count.toNat := by
      have := first.counted
      omega
    have noted := Run.play_of_failsFirst first.noting upTo
    rw [StatefulSender.stateAfter_noting] at noted
    refine ⟨_, _, _, noted, ?_⟩
    have more := (Run.isSending_after switch (Nat.le_of_lt below)).2 below
    have ends := Run.Ends.aborted more cause
    exact {
      unnoted := Run.play_of_failsFirst first upTo
      about := Run.switch_after
      requested := congrArg Request.count Run.request_after
      aborts := fun k' cause' _ other => by
        obtain ⟨rfl, rfl⟩ := first.unique other
        exact aborts_after upTo first.counted
      completes := fun all => absurd (all k first.counted upTo) (by simp [first.fails])
      phases := ⟨_, _, ends, ends.path Run.path_after⟩
      counters := by
        rw [StatefulSender.length_callsUpTo]
        exact ⟨upTo, counters upTo⟩ }
  · have noted := Run.play_of_allSucceed all.noting
    rw [StatefulSender.stateAfter_noting] at noted
    refine ⟨_, _, _, noted, ?_⟩
    have done : ¬ (Run.after switch request request.count.toNat).isSending := by
      rw [Run.isSending_after switch (Nat.le_refl _)]
      exact Nat.lt_irrefl _
    have ends := Run.Ends.completed done
    exact {
      unnoted := Run.play_of_allSucceed all
      about := Run.switch_after
      requested := congrArg Request.count Run.request_after
      aborts := fun k cause upTo first => absurd (all k first.counted upTo) (by simp [first.fails])
      completes := fun _ => completes_after
      phases := ⟨_, _, ends, ends.path Run.path_after⟩
      counters := by
        rw [StatefulSender.length_callsUpTo]
        exact ⟨Nat.le_refl _, counters (Nat.le_refl _)⟩ }

end Outcome

/-- A sender that counts its calls and fails the third one. -/
def failsThird : StatefulSender Nat Unit := fun n _ _ =>
  (if n = 2 then .error ⟨.write, .described "broken pipe"⟩ else .ok (), n + 1)

-- as many messages as can be asked for, and none
example : Run.play failsThird () { count := 18446744073709551615 } 0 =
    (⟨(), 18446744073709551615, 2, some 3, some ⟨.write, .described "broken pipe"⟩, .aborted⟩, 3) ∧
      Run.play failsThird () { count := 0 } 0 = (⟨(), 0, 0, none, none, .completed⟩, 0) := by
  decide +kernel

end FlowBurst.Burst
