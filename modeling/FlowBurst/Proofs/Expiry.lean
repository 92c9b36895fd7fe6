import FlowBurst.Proofs.Interruption

/-!
# Where the failure of an operation comes from

An operation fails at its deadline, as its context is cancelled, or because the operating system
says so. Its failure counts as a timeout in the first case, and in the last if the error is that of a
peer that no longer answers. Main statement: `punctual`.
-/

namespace FlowBurst.Transport

/-! ### Failures of an operation -/

lemma OsError.eq_timedOut_of_category {e : OsError} (h : e.kind.category = .timeout) :
    e = .timedOut := by
  cases e <;> first | rfl | cases h

section Failures

variable {limits : Limits} {m : Moment} {d : Disposition} {f : Failure}

/-- Where a failure of an operation comes from: one of its limits, the system as it has made up its
mind to, or a connection that is gone. -/
inductive Origin (limits : Limits) (m : Moment) (d : Disposition) (f : Failure) : Prop
  | late (cause : f.cause = .deadline) (passed : limits.expired m = true)
  | unwanted (cause : f.cause = .cancelled) (raised : limits.cancelled m = true)
  | system {e : OsError} (cause : f.cause = .io (.system e))
      (given : (∃ c, d = .fail c e) ∨ e ≠ .timedOut)

/-- The deadline of an operation has passed. -/
def Failure.Overdue (f : Failure) (limits : Limits) (m : Moment) : Prop :=
  f.cause = .deadline ∧ limits.expired m = true

/-- The system says of a call that it timed out. -/
def Failure.Declared (f : Failure) (d : Disposition) : Prop :=
  f.cause = .io (.system .timedOut) ∧ ∃ c, d = .fail c .timedOut

/-- **What a timeout means**, of a failure of an operation. -/
theorem Origin.isTimeout_iff (origin : Origin limits m d f) :
    f.isTimeout = true ↔ f.Overdue limits m ∨ f.Declared d := by
  unfold Failure.isTimeout Failure.category Failure.Overdue Failure.Declared
  cases origin with
  | late cause passed => simp [cause, passed]
  | unwanted cause raised => simp [cause]
  | @system e cause given =>
    simp only [cause, IoError.kind, beq_iff_eq]
    constructor
    · intro timeout
      obtain rfl := OsError.eq_timedOut_of_category timeout
      exact .inr ⟨rfl, given.resolve_right fun other => other rfl⟩
    · rintro (⟨late, -⟩ | ⟨declared, -⟩)
      · cases late
      · cases declared
        rfl

lemma origin_of_stop {started : Bool} {cause : Cause} (operation : Operation)
    (stop : (if started then limits.interruption? m else limits.refusal? m) = some cause) :
    Origin limits m d ⟨operation, cause⟩ := by
  obtain ⟨rfl, passed⟩ | ⟨rfl, raised⟩ := Limits.cause_of_stop stop
  · exact .late rfl passed
  · exact .unwanted rfl raised

end Failures

section Operations

variable {limits : Limits} {m : Moment} {d : Disposition} {f : Failure} {started waiting : Bool}
  {listening : Option Bool}

lemma origin_of_bind {a : Address} {inUse : Bool} (h : bind? a inUse d = some (.error f)) :
    Origin {} m d f := by
  unfold bind? at h
  dsimp only at h
  split at h
  · cases h
    exact .system rfl (.inl ⟨_, rfl⟩)
  · cases h
    exact .system rfl (.inl ⟨_, rfl⟩)
  · split_ifs at h <;> cases h <;> exact .system rfl (.inr (by simp))
  · cases h

lemma origin_of_accept {p : Accepting} (h : pollAccept? m limits started waiting d = some p)
    (failed : p.failure? = some f) : Origin limits m d f := by
  cases stop : if started then limits.interruption? m else limits.refusal? m with
  | none =>
    obtain ⟨operation, c, e, rfl, given⟩ := failure_of_accept stop h failed
    exact .system rfl (.inl ⟨c, given⟩)
  | some cause =>
    unfold pollAccept? at h
    rw [stop] at h
    cases d <;> cases h
    cases failed
    exact origin_of_stop _ stop

lemma origin_of_connect {p : Connecting} (h : pollConnect? m limits started listening d = some p)
    (failed : p.failure? = some f) : Origin limits m d f := by
  cases stop : if started then limits.interruption? m else limits.refusal? m with
  | none =>
    obtain ⟨operation, e, rfl, given⟩ := failure_of_connect stop h failed
    exact .system rfl (given.imp_right fun refused => by simp [refused])
  | some cause =>
    unfold pollConnect? at h
    rw [stop] at h
    cases d <;> cases h
    cases failed
    exact origin_of_stop _ stop

lemma origin_of_poll {τ : Type} [DecidableEq τ] {side : Side} {who : τ} {call : Call} {link : Link}
    {locks : Locks τ} {p : Polled τ} (h : call.poll? m side who d link locks = some p)
    (failed : p.progress.failure? = some f) : Origin call.limits m d f := by
  cases Call.poll?_comes h with
  | empty | waits => cases failed
  | stopped more stop =>
    cases failed
    exact origin_of_stop _ stop
  | attempted more going holds attempts =>
    obtain ⟨e, rfl, given⟩ := Call.failure_of_attempt attempts failed
    refine .system rfl (given.imp_right ?_)
    rintro closed rfl
    cases closed

end Operations

/-- **What a timeout of an operation means**, whatever the operation. -/
structure Punctual (τ : Type) [DecidableEq τ] : Prop where
  binding : ∀ m a inUse d f, bind? a inUse d = some (.error f) →
    (f.isTimeout = true ↔ f.Overdue {} m ∨ f.Declared d)
  accepting : ∀ m limits started waiting d p f, pollAccept? m limits started waiting d = some p →
    p.failure? = some f → (f.isTimeout = true ↔ f.Overdue limits m ∨ f.Declared d)
  connecting : ∀ m limits started listening d p f,
    pollConnect? m limits started listening d = some p → p.failure? = some f →
      (f.isTimeout = true ↔ f.Overdue limits m ∨ f.Declared d)
  calls : ∀ m side (who : τ) d (call : Call) link locks p f,
    call.poll? m side who d link locks = some p → p.progress.failure? = some f →
      (f.isTimeout = true ↔ f.Overdue call.limits m ∨ f.Declared d)

theorem punctual (τ : Type) [DecidableEq τ] : Punctual τ where
  binding _ _ _ _ _ h := (origin_of_bind h).isTimeout_iff
  accepting _ _ _ _ _ _ _ h failed := (origin_of_accept h failed).isTimeout_iff
  connecting _ _ _ _ _ _ _ h failed := (origin_of_connect h failed).isTimeout_iff
  calls _ _ _ _ _ _ _ _ _ h failed := (origin_of_poll h failed).isTimeout_iff

end FlowBurst.Transport

namespace FlowBurst.Controller

open FlowBurst.Transport (Call Disposition)

/-- A poll that ends with a timeout does so at its deadline, or because the system says so. -/
lemma cause_of_poll? {s u : State} {i : Nat} {who : Actor} {d : Disposition} {call : Call}
    {put : List Event} {f : Transport.Failure}
    (h : s.poll? i who d call = some (u, put, .ready (.error f))) (timeout : f.isTimeout = true) :
    call.limits.expired s.moment = true ∨ ∃ c, d = .fail c .timedOut := by
  obtain ⟨link, b, p, -, -, poll, -, -, progress⟩ := State.poll?_eq_some h
  have failed : p.progress.failure? = some f := by rw [← progress]; rfl
  exact ((Transport.origin_of_poll poll failed).isTimeout_iff.1 timeout).imp And.right And.right

end FlowBurst.Controller
