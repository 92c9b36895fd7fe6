import FlowBurst.Proofs.Recognition

/-!
# The time of a handshake

A driving task sets a deadline when it turns to its handshake, and every write of that is kept to it.
Main statement: `timed_of_steps?`.
-/

namespace FlowBurst.Controller

open FlowBurst.OpenFlow (Features Frame)
open FlowBurst.Switch (Failure)
open FlowBurst.Transport (Disposition Limits Reply)

/-- The writes of a handshake are kept to its deadline. -/
def Connection.Timed (c : Connection) : Prop := ∀ purpose frame call,
  c.stage = .writing purpose frame call → purpose.part.isExchanging = true →
    call.limits = { deadline := some c.handshakeDeadline }

/-- What a driving task turns to leaves the deadline of its handshake as it is, and keeps to that. -/
def InTime (i : Nat) (deadline : Nat) (r : State × List Event) : Prop :=
  ∃ c, r.1.connection? i = some c ∧ c.handshakeDeadline = deadline ∧ c.stage ≠ .opening ∧ c.Timed

section InTime

variable {s t : State} {i : Nat} {b c : Connection} {more : List Event}

lemma inTime_enter (hb : s.connection? i = some b) (stage : Stage)
    (other : stage ≠ .opening ∧ ∀ purpose frame call, stage ≠ .writing purpose frame call)
    (events : List Event) : InTime i b.handshakeDeadline (s.enter i stage, events) :=
  ⟨_, State.connection?_enter hb stage, rfl, other.1, fun _ _ _ e => (other.2 _ _ _ e).elim⟩

lemma inTime_failHandshake (hb : s.connection? i = some b) (f : Failure) :
    InTime i b.handshakeDeadline (s.failHandshake i f) :=
  inTime_enter hb (.closing none (closeCall s.now)) (by simp) _

lemma inTime_fail (hb : s.connection? i = some b) (w : Awaiting) (f : Failure) :
    InTime i b.handshakeDeadline (s.fail i w f) := by
  cases w with
  | hello | features => exact inTime_failHandshake hb f
  | service switch => exact inTime_enter hb (.closing (some switch) (closeCall s.now)) (by simp) _

lemma inTime_begin (hb : s.connection? i = some b) (purpose : Purpose) {limits : Limits}
    (kept : purpose.part.isExchanging = true → limits = { deadline := some b.handshakeDeadline })
    (frame : Frame) : InTime i b.handshakeDeadline (s.begin i purpose limits frame) := by
  unfold State.begin
  split
  · refine ⟨_, State.connection?_enter hb _, rfl, by simp, fun p f call e exchanging => ?_⟩
    cases e
    exact kept exchanging
  · exact inTime_fail hb _ _

lemma inTime_answerEcho (hb : s.connection? i = some b)
    (same : c.handshakeDeadline = b.handshakeDeadline) (w : Awaiting) (xid : UInt32)
    (payload : List UInt8) : InTime i b.handshakeDeadline (s.answerEcho i c w xid payload) := by
  refine inTime_begin hb (.echo w) (fun exchanging => ?_) _
  cases w with
  | hello | features => simp [Awaiting.limits, same]
  | service switch => cases exchanging

/-- What a driving task does with a frame is done in time. -/
lemma inTime_receive (hb : s.connection? i = some b) (same : c.handshakeDeadline = b.handshakeDeadline)
    (w : Awaiting) (frame : Frame) : InTime i b.handshakeDeadline (s.receive i c w frame) := by
  have entered (events : List Event) : InTime i b.handshakeDeadline (s.enter i (.deciding w), events) :=
    inTime_enter hb _ (by simp) _
  have aside : InTime i b.handshakeDeadline (s.receiveAside i c w frame) := by
    unfold State.receiveAside
    split
    · exact inTime_answerEcho hb same w _ _
    · obtain ⟨c', hc', kept⟩ :=
        inTime_failHandshake hb (.unexpectedMessage (s.peer i).text w.name "error")
      exact ⟨c', hc', kept⟩
    · exact entered _
  unfold State.receive
  split
  next elements hello =>
    have limits : Awaiting.hello.limits c = { deadline := some b.handshakeDeadline } := by
      simp [Awaiting.limits, same]
    split
    · exact inTime_begin hb _ (fun _ => limits) _
    · have taken : (s.modifyConnection i fun c => { c with nextXid := c.nextXid + 1 }).connection? i =
          some { b with nextXid := b.nextXid + 1 } := by simp [hb]
      exact inTime_begin taken _ (fun _ => limits) _
  next => exact inTime_enter hb _ (by simp) _
  next => exact inTime_answerEcho hb same _ _ _
  next => exact entered _
  next => exact entered _
  next => exact aside

lemma inTime_decide (hc : s.connection? i = some c) (w : Awaiting) :
    InTime i c.handshakeDeadline (s.decide i c w) := by
  rcases decoded : Frame.decode s.settings.maxFrameLength c.inbound with ⟨answer, rest⟩
  have left : (s.modifyConnection i fun c => { c with inbound := rest }).connection? i =
      some { c with inbound := rest } := by simp [hc]
  unfold State.decide
  rw [decoded]
  rcases answer with e | _ | frame
  · exact inTime_fail left w _
  · exact inTime_enter left _ (by simp) _
  · obtain ⟨c', hc', kept⟩ := inTime_receive (c := c) left rfl w frame
    exact ⟨c', hc', kept⟩

lemma inTime_afterRead (hb : s.connection? i = some b) (w : Awaiting)
    (answer : Except Transport.Failure Reply) :
    InTime i b.handshakeDeadline (s.afterRead i w answer) := by
  unfold State.afterRead
  split
  next => exact inTime_fail hb w _
  next bytes _ =>
    have more : (s.modifyConnection i fun c => { c with inbound := c.inbound ++ bytes }).connection? i =
        some { b with inbound := b.inbound ++ bytes } := by simp [hb]
    exact inTime_enter more _ (by simp) _
  next => exact inTime_enter hb _ (by simp) _
  next f => exact inTime_fail hb w _

lemma inTime_afterWrite (hb : s.connection? i = some b) (purpose : Purpose)
    (answer : Except Transport.Failure Unit) :
    InTime i b.handshakeDeadline (s.afterWrite i purpose answer) := by
  unfold State.afterWrite
  split
  next => exact inTime_failHandshake hb _
  next => exact inTime_enter hb _ (by simp) _
  next => exact inTime_fail hb _ _

/-- **A step of a driving task in its handshake** is kept to the deadline that was set with the first one.
-/
theorem inTime_of_drive? {d : Disposition} (h : s.drive? i d = some (t, more))
    (hc : s.connection? i = some c) (exchanging : c.stage.part.isExchanging = true) (timed : c.Timed) :
    InTime i (if c.stage = .opening then s.now + s.settings.handshakeTimeout else c.handshakeDeadline)
      (t, more) := by
  obtain ⟨c₁, hc₁, step⟩ := State.drive?_stepped h
  obtain rfl : c = c₁ := Option.some.inj (hc.symm.trans hc₁)
  cases step with
  | opened stage next =>
    subst next
    have taken := connection?_opened hc
    rw [if_pos stage]
    exact inTime_begin taken _ (fun _ => rfl) _
  | @waited job call u put under poll =>
    obtain ⟨locks, bytes, polled, rfl⟩ := State.connection?_of_poll? poll hc
    obtain ⟨b, p, polling, -, -, pending⟩ := State.polling_of_poll? poll
    obtain ⟨link, -, polls⟩ := polling.polls
    cases stage : c.stage with
    | writing purpose frame was =>
      rw [stage] at under exchanging
      cases under
      rw [if_neg (by simp)]
      refine ⟨_, State.connection?_enter polled _, rfl, by simp [Stage.withCall],
        fun purpose' frame' call' e _ => ?_⟩
      cases e
      rw [(polls.request_of_pending pending).1]
      exact timed purpose frame was stage exchanging
    | opening =>
      rw [stage] at under
      cases under
    | _ =>
      rw [if_neg (by simp)]
      exact inTime_enter polled _ (by simp [Stage.withCall]) _
  | @wrote purpose frame call u put answer r stage poll next =>
    subst next
    obtain ⟨locks, bytes, polled, rfl⟩ := State.connection?_of_poll? poll hc
    rw [if_neg (by simp [stage])]
    obtain ⟨c', hc', kept⟩ := inTime_afterWrite polled purpose (answer.map fun _ => ())
    exact ⟨c', hc', kept⟩
  | decided stage next =>
    rw [if_neg (by simp [stage]), ← next]
    exact inTime_decide hc _
  | @got w call u put answer r stage poll next =>
    subst next
    obtain ⟨locks, bytes, polled, rfl⟩ := State.connection?_of_poll? poll hc
    rw [if_neg (by simp [stage])]
    obtain ⟨c', hc', kept⟩ := inTime_afterRead polled w answer
    exact ⟨c', hc', kept⟩
  | registered stage | displaced stage | launched stage | closed stage | deregistered stage
  | joined stage | notified stage =>
    rw [stage] at exchanging
    cases exchanging

/-- A step of another task leaves what a driving task has at hand alone, unless it starts that. -/
lemma intake?_of_other (orderly : s.Orderly) {a : Action} (h : s.step? a = some (t, more))
    (other : a.task? ≠ some (.driver i)) :
    t.intake? i = s.intake? i ∨ t.intake? i = some ([], 0, .opening) := by
  cases State.step?_moved h with
  | @drove j d c _ _ hc step =>
    refine .inl (step.intake?_of_ne ?_)
    rintro rfl
    exact other rfl
  | told hc step => exact .inl step.intake?
  | answered call step => exact .inl step.intake?
  | @accepted d k rest started acceptor backlog =>
    obtain ⟨session, -, -, -, hn, connection, seen⟩ := State.core?_acceptFirst orderly backlog
    by_cases own : k = i
    · refine .inr ?_
      unfold State.intake?
      rw [connection, if_pos own]
      rfl
    · refine .inl (State.intake?_congr ?_)
      rw [connection, if_neg own]
  | called call =>
    obtain ⟨caller, rfl, -⟩ := State.call?_eq_some call
    exact .inl (State.intake?_congr rfl)
  | @connected peer going => exact .inl (State.intake?_congr (State.connection?_connect s peer i))
  | aside moved task silent quiet => exact .inl (State.intake?_congr (moved.connection i))

/-- **In every run the writes of a handshake are kept to its deadline.** -/
theorem timed_of_steps? {settings : Settings} {handler : Handler} {capacity : Nat}
    {actions : List Action} {events : List Event}
    (run : (State.start settings handler capacity).steps? actions = some (s, events))
    (hc : s.connection? i = some c) : c.Timed := by
  refine State.run_induction (P := fun _ s _ => ∀ c, s.connection? i = some c → c.Timed) ?_ ?_ run c hc
  · intro c hc
    simp [State.connection?, State.start] at hc
  intro actions s before a t after before_run ih step c' hc'
  have orderly := orderly_of_run before_run
  intro purpose frame call stage exchanging
  by_cases own : a.task? = some (.driver i)
  · obtain ⟨d, rfl⟩ := Action.eq_run_of_task? own
    obtain ⟨c, b, hc, hb, converses⟩ := State.drive?_converses step
    obtain rfl : b = c' := Option.some.inj (hb.symm.trans hc')
    have before := converses.exchanging (by rw [stage]; exact exchanging)
    obtain ⟨b', hb', -, -, timed⟩ := inTime_of_drive? step hc before (ih c hc)
    obtain rfl : b' = b := Option.some.inj (hb'.symm.trans hb)
    exact timed purpose frame call stage exchanging
  · have now := State.intake?_of_connection? hc'
    rcases intake?_of_other orderly step own with same | opening
    · rw [same] at now
      obtain ⟨c, hc, e⟩ := Option.map_eq_some_iff.1 now
      obtain ⟨-, deadline, same⟩ : _ ∧ _ ∧ _ := by simpa using e
      rw [← deadline]
      exact ih c hc purpose frame call (same.trans stage) exchanging
    · rw [opening] at now
      obtain ⟨-, -, start⟩ : _ ∧ _ ∧ _ := by simpa using now
      exact absurd (start.trans stage) (by simp)

end InTime

end FlowBurst.Controller
