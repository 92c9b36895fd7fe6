import FlowBurst.Proofs.Deadlines
import FlowBurst.Proofs.Following

/-!
# When the time of a message and of a handshake begins

The limits of a message are those of the moment at which its task begins to write it, and those of a
handshake of the moment at which its task opens it; a run that comes to either has taken that step
before. Main statements: `began_of_writing`, `opened_of_exchanging`.
-/

namespace FlowBurst.Controller

open FlowBurst.OpenFlow (Frame)
open FlowBurst.Switch (Failure Handle)
open FlowBurst.Transport (Call)

/-! ### Points of a run -/

/-- A run took a step of some kind, in a state, with an action and others that came after it. -/
def Once (s₀ : State) (actions : List Action) (kind : State → Action → List Action → Prop) : Prop :=
  ∃ first a rest s before, actions = first ++ a :: rest ∧ s₀.steps? first = some (s, before) ∧
    kind s a rest

section Once

variable {s₀ s : State} {actions : List Action} {events : List Event}
  {kind kind' : State → Action → List Action → Prop}

lemma Once.last {a : Action} (run : s₀.steps? actions = some (s, events)) (h : kind s a []) :
    Once s₀ (actions ++ [a]) kind :=
  ⟨actions, a, [], s, events, rfl, run, h⟩

lemma Once.earlier {b : Action} (h : Once s₀ actions kind)
    (imp : ∀ s a rest, kind s a rest → kind' s a (rest ++ [b])) :
    Once s₀ (actions ++ [b]) kind' := by
  obtain ⟨first, a, rest, s, before, rfl, run, holds⟩ := h
  exact ⟨first, a, rest ++ [b], s, before, by simp, run, imp s a rest holds⟩

lemma Once.mono (h : Once s₀ actions kind) (imp : ∀ s a rest, kind s a rest → kind' s a rest) :
    Once s₀ actions kind' := by
  obtain ⟨first, a, rest, s, before, e, run, holds⟩ := h
  exact ⟨first, a, rest, s, before, e, run, imp s a rest holds⟩

/-- An event of a run is shown in a step of some kind, taken in a state after the first actions. -/
def Shown (s₀ : State) (actions : List Action) (e : Event)
    (shows : List Action → State → Action → Prop) : Prop :=
  ∃ first a rest s before t more, actions = first ++ a :: rest ∧
    s₀.steps? first = some (s, before) ∧ s.step? a = some (t, more) ∧ e ∈ more ∧ shows first s a

/-- Every event of a run is shown in a step. -/
lemma shown_of_mem {e : Event} {shows : List Action → State → Action → Prop}
    (run : s₀.steps? actions = some (s, events)) (he : e ∈ events)
    (holds : ∀ {first s before a t more}, s₀.steps? first = some (s, before) →
      s.step? a = some (t, more) → e ∈ more → shows first s a) : Shown s₀ actions e shows := by
  refine State.run_induction (P := fun actions _ events => e ∈ events → Shown s₀ actions e shows)
    (fun he => by cases he) ?_ run he
  intro actions s before a t more before_run ih step he
  rcases List.mem_append.1 he with he | he
  · obtain ⟨first, b, rest, u, past, v, new, rfl, at_step⟩ := ih he
    exact ⟨first, b, rest ++ [a], u, past, v, new, by simp, at_step⟩
  · exact ⟨actions, a, [], s, before, t, more, rfl, before_run, step, he, holds before_run step he⟩

end Once

/-! ### The time of a message -/

section Messages

variable {s t : State} {who : Actor} {events more : List Event} {settings : Settings}
  {handler : Handler} {capacity : Nat} {actions : List Action}

lemma watch?_of_step {a : Action} (step : s.step? a = some (t, more))
    (unended : s.returned? who a = none) : s.watch? who [a] = some (t, more, none) := by
  simp [State.watch?, step, unended]

/-- A message that has not ended in some steps, and does not in the next one. -/
lemma watch?_concat {rest : List Action} {a : Action} (step : s.step? a = some (t, more))
    (unended : s.returned? who a = none) :
    ∀ {u : State} {later : List Event}, u.watch? who rest = some (s, later, none) →
      u.watch? who (rest ++ [a]) = some (t, later ++ more, none) := by
  induction rest with
  | nil =>
    intro u later watch
    cases watch
    exact watch?_of_step step unended
  | cons b rest ih =>
    intro u later watch
    obtain ⟨⟨v, new⟩, first, watch⟩ := Option.bind_eq_some_iff.1 watch
    rw [List.cons_append, State.watch?, first, Option.bind_some]
    dsimp only at watch ⊢
    cases returned : u.returned? who b with
    | some result =>
      rw [returned] at watch
      cases watch
    | none =>
      rw [returned] at watch
      obtain ⟨⟨w, past, result⟩, watched, e⟩ := Option.map_eq_some_iff.1 watch
      cases e
      dsimp only
      rw [ih watched, Option.map_some, List.append_assoc]

/-- What a task writes of a message it has begun to write in this step, or before. -/
lemma writing_of_step (orderly : s.Orderly) {a : Action} (h : s.step? a = some (t, more))
    {k : Handle} {frame : Frame} {call : Call}
    (hy : t.sending? who = some (.writing k frame call)) :
    s.returned? who a = none ∧
      ((∃ message, s.sending? who = some (.holding k message)) ∧ a.task? = some who ∧
          call.limits = s.sendLimits ∨
        ∃ was, s.sending? who = some (.writing k frame was) ∧ was.limits = call.limits) := by
  cases hx : s.sending? who with
  | none => exact (unbegun_of_new orderly h hx hy).elim
  | some x =>
    have carried := step?_carries orderly h hx
    have own : t.sending? who ≠ some x → a.task? = some who := fun other => by
      by_contra apart
      exact other (State.step?_sending? orderly h apart hx)
    generalize s.returned? who a = returned at carried
    cases carried with
    | rests same silent =>
      rw [same] at hy
      cases hy
      exact ⟨rfl, .inr ⟨call, rfl, rfl⟩⟩
    | @moves u seen result step next written =>
      rw [next] at hy own
      cases result with
      | inr answer => cases hy
      | inl z =>
        cases hy
        refine ⟨rfl, ?_⟩
        generalize hr : (Sum.inl _ : Sending ⊕ Except Failure UInt32) = result at step
        cases step with
        | begun connection encoded =>
          cases hr
          exact .inl ⟨⟨_, rfl⟩, own (by simp), rfl⟩
        | waited polling pending =>
          cases hr
          obtain ⟨link, -, polls⟩ := polling.polls
          exact .inr ⟨_, rfl, (polls.request_of_pending pending).1.symm⟩
        | found | unknown | refused | wrote => cases hr

/-- The step in which a task began to write the message that it has on its way ever since. -/
structure Began (who : Actor) (s u : State) (a : Action) (rest : List Action) : Prop where
  held : ∃ k message, u.sending? who = some (.holding k message)
  own : a.task? = some who
  since : ∃ later, u.watch? who (a :: rest) = some (s, later, none)

/-- **The limits of a message that is being written** are those of the moment at which its task began
to write it. -/
theorem began_of_writing
    (run : (State.start settings handler capacity).steps? actions = some (s, events))
    {k : Handle} {frame : Frame} {call : Call}
    (hx : s.sending? who = some (.writing k frame call)) :
    Once (State.start settings handler capacity) actions fun u a rest =>
      Began who s u a rest ∧ call.limits = u.sendLimits := by
  refine State.run_induction (P := fun actions s _ => ∀ call,
    s.sending? who = some (.writing k frame call) →
      Once (State.start settings handler capacity) actions fun u a rest =>
        Began who s u a rest ∧ call.limits = u.sendLimits)
    ?_ ?_ run call hx
  · intro call hx
    cases who <;> cases hx
  · intro actions s before a t after before_run ih step call hy
    obtain ⟨unended, ⟨held, own, limits⟩ | ⟨was, hx, limits⟩⟩ :=
      writing_of_step (orderly_of_run before_run) step hy
    · exact .last before_run
        ⟨⟨⟨k, held⟩, own, after, watch?_of_step step unended⟩, limits⟩
    · refine (ih was hx).earlier fun u b rest ⟨began, limits'⟩ => ?_
      obtain ⟨later, watch⟩ := began.since
      exact ⟨⟨began.held, began.own, _, watch?_concat step unended watch⟩, limits ▸ limits'⟩

end Messages

/-! ### The time of a handshake -/

section Handshakes

variable {s : State} {i : Nat} {c : Connection} {settings : Settings} {handler : Handler}
  {capacity : Nat} {actions : List Action} {events : List Event}

/-- A driving task opens its handshake. -/
def Opens (i : Nat) (s : State) (a : Action) : Prop :=
  s.stage? i = some .opening ∧ a.task? = some (.driver i)

/-- **The deadline of a handshake** is set as its task opens it. -/
theorem opened_of_exchanging
    (run : (State.start settings handler capacity).steps? actions = some (s, events))
    (hc : s.connection? i = some c) (exchanging : c.stage.part.isExchanging = true)
    (opened : c.stage ≠ .opening) :
    Once (State.start settings handler capacity) actions fun u a _ =>
      Opens i u a ∧ c.handshakeDeadline = u.now + settings.handshakeTimeout := by
  refine State.run_induction (P := fun actions s _ => ∀ c, s.connection? i = some c →
    c.stage.part.isExchanging = true → c.stage ≠ .opening →
      Once (State.start settings handler capacity) actions fun u a _ =>
        Opens i u a ∧ c.handshakeDeadline = u.now + settings.handshakeTimeout)
    ?_ ?_ run c hc exchanging opened
  · intro c hc
    simp [State.connection?, State.start] at hc
  intro actions s before a t after before_run ih step c' hc' exchanging opened
  have orderly := orderly_of_run before_run
  by_cases own : a.task? = some (.driver i)
  · obtain ⟨d, rfl⟩ := Action.eq_run_of_task? own
    obtain ⟨c, b, hc, hb, converses⟩ := State.drive?_converses step
    obtain rfl : b = c' := Option.some.inj (hb.symm.trans hc')
    have before := converses.exchanging exchanging
    obtain ⟨b', hb', deadline, -, -⟩ :=
      inTime_of_drive? step hc before (timed_of_steps? before_run hc)
    obtain rfl : b' = b := Option.some.inj (hb'.symm.trans hb)
    by_cases opening : c.stage = .opening
    · rw [if_pos opening, settings_of_steps? before_run] at deadline
      have here : s.stage? i = some .opening := by
        rw [State.stage?_of_connection? hc, opening]
      exact .last before_run ⟨⟨here, rfl⟩, deadline⟩
    · rw [if_neg opening] at deadline
      rw [deadline]
      exact (ih c hc before opening).earlier fun _ _ _ => id
  · have now := State.intake?_of_connection? hc'
    rcases intake?_of_other orderly step own with same | opening
    · rw [same] at now
      obtain ⟨c, hc, e⟩ := Option.map_eq_some_iff.1 now
      obtain ⟨-, deadline, same⟩ : _ ∧ _ ∧ _ := by simpa using e
      rw [← deadline]
      rw [← same] at exchanging opened
      exact (ih c hc exchanging opened).earlier fun _ _ _ => id
    · rw [opening] at now
      obtain ⟨-, -, start⟩ : _ ∧ _ ∧ _ := by simpa using now
      exact absurd start.symm opened

/-- The calls of a driving task in its handshake are kept to its deadline. -/
lemma limits_of_exchanging
    (run : (State.start settings handler capacity).steps? actions = some (s, events))
    (hc : s.connection? i = some c) (exchanging : c.stage.part.isExchanging = true) {job : Job}
    (under : c.stage.job? i = some job) :
    job.call.limits = { deadline := some c.handshakeDeadline } := by
  cases stage : c.stage with
  | writing purpose frame call =>
    rw [stage] at under exchanging
    cases under
    exact timed_of_steps? run hc purpose frame call stage exchanging
  | reading w call =>
    rw [stage] at under exchanging
    cases under
    rw [((attended_of_steps? run).2 i c hc w call stage).1]
    cases w with
    | hello | features => rfl
    | service switch => cases exchanging
  | displacing | closing =>
    rw [stage] at exchanging
    cases exchanging
  | _ =>
    rw [stage] at under
    cases under

end Handshakes

end FlowBurst.Controller
