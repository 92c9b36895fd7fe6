import FlowBurst.Proofs.Jobs

/-!
# What a step moves

A step of a run moves one task, or only the world around the tasks. This module says for every step
what becomes of the connections, the calls from outside, the registry and the jobs, so that an
invariant over the tasks is checked against a handful of moves. Main statements:
`Drove.effect`, `step?_moved`, `step?_works`.
-/

namespace FlowBurst.Controller

open FlowBurst.OpenFlow (Frame)
open FlowBurst.Switch (DatapathId Failure Handle Reference Registry Session)
open FlowBurst.Transport (Call Disposition Polled Reply)

/-! ### The driving task -/

/-- What a step of the driving task of a line does to its session, its stage, its news and the
registry, with the events of the coming and going of switches. -/
inductive Course (g : Registry) (i : Nat) (c : Connection) :
    Session → Stage → News → Registry → List Event → Prop
  | goes {session : Session} {stage : Stage} (datapath : session.datapath = c.session.datapath)
      (number : session.connection = c.session.connection) (phase : stage.phase = c.stage.phase)
      (next : stage.isLast = false ∨ ∃ switch, c.stage = .joining switch true ∧
        stage = .notifying switch ∧ (c.news = .returned ∨ c.news = .lost))
      (kept : stage.phase = .arriving → session = c.session) :
      Course g i c session stage c.news g []
  | registers {session : Session} {stage : Stage} {d : DatapathId} (was : c.stage.phase = .arriving)
      (datapath : session.datapath = some d) (number : session.connection = c.session.connection)
      (phase : stage.phase = .entering ⟨d, c.session.connection⟩)
      (reported : ∃ features, c.stage = .registering features ∧ d = ⟨features.datapathId⟩) :
      Course g i c session stage c.news (g.register ⟨⟨d, c.session.connection⟩, i⟩).2
        [.registered ⟨⟨d, c.session.connection⟩, i⟩ (g.get? d)]
  | launches {stage : Stage} {switch : Reference} (was : c.stage.phase = .entering switch)
      (phase : stage.phase = .serving switch) :
      Course g i c c.session stage (.spawned switch) g []
  | deregisters {stage : Stage} {switch : Reference} (was : c.stage.phase = .serving switch)
      (phase : stage.phase = .left switch (g.deregister switch).1) (next : stage.isLast = false) :
      Course g i c c.session stage c.news (g.deregister switch).2
        [.deregistered i switch (g.deregister switch).1]
  | ends {session : Session} {stage : Stage} {events : List Event}
      (was : c.stage.phase = .arriving ∨ ∃ switch removed, c.stage.phase = .left switch removed)
      (datapath : session.datapath = c.session.datapath)
      (number : session.connection = c.session.connection) (phase : stage.phase = .gone)
      (seen : events = [] ∨ ∃ switch, events = [.disconnectedCalled i switch])
      (leaves : c.stage.phase = .arriving ∧ events = [] ∨
        (∃ switch, c.stage = .joining switch false ∧ (c.news = .returned ∨ c.news = .lost) ∧
          events = []) ∨
        ∃ switch, c.stage = .notifying switch ∧ events = [.disconnectedCalled i switch]) :
      Course g i c session stage c.news g events

lemma Next.phase {i : Nat} {served : Option Reference} {stage : Stage} {events : List Event}
    (h : Next i served stage events) : stage.phase = .of served := by
  cases h <;> rfl

lemma Next.isLast {i : Nat} {served : Option Reference} {stage : Stage} {events : List Event}
    (h : Next i served stage events) : stage.isLast = false := by
  cases h <;> rfl

lemma Stage.isLast_withCall (call : Call) {stage : Stage} {i : Nat} {job : Job}
    (h : stage.job? i = some job) : (stage.withCall call).isLast = false := by
  cases stage <;> first | rfl | cases h

lemma Stage.phase_withCall (call : Call) (stage : Stage) : (stage.withCall call).phase = stage.phase := by
  cases stage <;> rfl

lemma State.closedSession_datapath (session : Session) :
    (State.closedSession session).datapath = session.datapath := by
  unfold State.closedSession Session.enter
  split
  · rfl
  · split <;> rfl

lemma State.closedSession_connection (session : Session) :
    (State.closedSession session).connection = session.connection := by
  unfold State.closedSession Session.enter
  split
  · rfl
  · split <;> rfl

/-- A session that became ready notes the datapath and keeps its number. -/
lemma becomeReady_eq_ok {session ready : Session} {d : DatapathId}
    (h : session.becomeReady d = .ok ready) :
    ready.datapath = some d ∧ ready.connection = session.connection := by
  unfold Session.becomeReady Session.enter at h
  split at h
  · cases h
    exact ⟨rfl, rfl⟩
  · split at h
    · cases h
      exact ⟨rfl, rfl⟩
    · cases h

namespace State

/-- The states of a line and of all others after a change of its connection alone. -/
lemma core?_of_change {s t : State} {i : Nat} {c : Connection} (hc : s.connection? i = some c)
    {g : Session × Stage × News → Session × Stage × News}
    (h : ∀ j, t.core? j = if i = j then (s.core? j).map g else s.core? j) (j : Nat) :
    t.core? j = if i = j then some (g c.core) else s.core? j := by
  rw [h j]
  split
  · subst i
    simp [core?, hc]
  · rfl

/-- The lines once the news of one of them have changed. -/
lemma core?_told {s t : State} {i : Nat} {c : Connection} (hc : s.connection? i = some c)
    (core : ∀ j, t.core? j = s.core? j) (news : News) (j : Nat) :
    (t.tell i news).core? j = if i = j then some (c.session, c.stage, news) else s.core? j :=
  core?_of_change hc (g := fun core => (core.1, core.2.1, news))
    (fun j => by rw [core?_tell, core]) j

end State

/-- What comes of a step of the driving task of a line: only its own connection and the registry
change, and the step is one of its course and one of its job. -/
def Outcome (s : State) (i : Nat) (c : Connection) (t : State) (events : List Event) : Prop :=
  ∃ session stage news,
    (∀ j, t.core? j = if i = j then some (session, stage, news) else s.core? j) ∧
    Works s (.driver i) t (c.stage.job? i) (stage.job? i) events ∧
    Course s.registry i c session stage news t.registry (registrations events)

section Outcomes

variable {s : State} {i : Nat} {c : Connection} (hc : s.connection? i = some c)
include hc

lemma outcome_turned {served : Option Reference} {r : State × List Event}
    (idle : c.stage.job? i = none) (same : c.stage.phase = .of served)
    (turn : Turned s i served r) : Outcome s i c r.1 r.2 := by
  obtain ⟨stage, next, core⟩ := turn.core?
  obtain ⟨silent, g, -, e, -, -⟩ := id turn
  refine ⟨_, stage, _, State.core?_of_change hc core, ?_, ?_⟩
  · rw [idle]
    exact .begins turn.locks next.fresh
  · rw [silent, e]
    exact .goes rfl rfl (next.phase.trans same.symm) (.inl next.isLast) fun _ => rfl

lemma outcome_waited {job : Job} {call : Call} {b : Connection} {p : Polled Actor}
    (under : c.stage.job? i = some job) (polling : Polling s job.line (.driver i) job.call b p)
    (pending : p.progress = .pending call) :
    Outcome s i c ((s.polled job.line b p).enter i (c.stage.withCall call))
      (putEvents job.line (.driver i) p.put) := by
  refine ⟨_, c.stage.withCall call, _, State.core?_of_change hc
    (g := fun core => (core.1, c.stage.withCall call, core.2.2)) fun j => ?_, ?_, ?_⟩
  · rw [State.core?_enter, State.core?_polled _ polling.connection]
  · rw [under, Stage.job?_withCall call under]
    refine .waits job polling (fun j => ?_) pending (outgoing_putEvents _ _ _)
    rw [State.locks_enter, State.locks_polled polling.connection]
  · rw [registrations_putEvents]
    exact .goes rfl rfl (c.stage.phase_withCall call) (.inl (Stage.isLast_withCall call under))
      fun _ => rfl

/-- The end of a call on the line itself, after which the driving task turns to something else. -/
lemma outcome_ended (job : Job) {served : Option Reference} {b : Connection} {p : Polled Actor}
    {answer : Except Transport.Failure Reply} {r : State × List Event} {events : List Event}
    (under : c.stage.job? i = some job) (same : c.stage.phase = .of served)
    (polling : Polling s job.line (.driver i) job.call b p) (ready : p.progress = .ready answer)
    (turn : Turned (s.polled job.line b p) i served r) (silent : outgoing r.2 = [])
    (seen : outgoing events = putEvents job.line (.driver i) p.put ++ job.endEvents (.driver i) answer)
    (quiet : registrations events = registrations r.2) : Outcome s i c r.1 events := by
  obtain ⟨stage, next, core⟩ := turn.core?
  obtain ⟨still, g, -, e, -, -⟩ := id turn
  rw [silent] at next
  refine ⟨_, stage, _, State.core?_of_change hc
    (g := fun core => (core.1, stage, core.2.2)) fun j => ?_, ?_, ?_⟩
  · rw [core, State.core?_polled _ polling.connection]
  · rw [under]
    refine .ends job polling (fun j => ?_) ready next.fresh seen
    rw [turn.locks, State.locks_polled polling.connection]
  · rw [quiet, still, e]
    exact .goes rfl rfl (next.phase.trans same.symm) (.inl next.isLast) fun _ => rfl

lemma outcome_displaced {switch : Reference} {previous : Handle} {call : Call} {b : Connection}
    {p : Polled Actor} {answer : Except Transport.Failure Reply}
    (stage : c.stage = .displacing switch previous call)
    (polling : Polling s previous.channel (.driver i) call b p) (ready : p.progress = .ready answer) :
    Outcome s i c ((s.polled previous.channel b p).enter i (.launching switch))
      (putEvents previous.channel (.driver i) p.put) := by
  refine ⟨_, .launching switch, _, State.core?_of_change hc
    (g := fun core => (core.1, .launching switch, core.2.2)) fun j => ?_, ?_, ?_⟩
  · rw [State.core?_enter, State.core?_polled _ polling.connection]
  · rw [stage]
    refine .ends ⟨previous.channel, call, none⟩ polling (fun j => ?_) ready .idle ?_
    · rw [State.locks_enter, State.locks_polled polling.connection]
    · rw [outgoing_putEvents]
      simp [Job.endEvents]
  · rw [registrations_putEvents]
    exact .goes rfl rfl (by rw [stage]; rfl) (.inl rfl) fun _ => rfl

lemma outcome_closed {served : Option Reference} {call : Call} {b : Connection} {p : Polled Actor}
    {answer : Except Transport.Failure Reply} (stage : c.stage = .closing served call)
    (polling : Polling s i (.driver i) call b p) (ready : p.progress = .ready answer) :
    Outcome s i c ((s.polled i b p).afterClose i served) (putEvents i (.driver i) p.put) := by
  refine ⟨_, State.stageAfterClose served, _, State.core?_of_change hc
    (g := fun core => (State.closedSession core.1, State.stageAfterClose served, core.2.2))
    fun j => ?_, ?_, ?_⟩
  · rw [State.core?_afterClose, State.core?_polled _ polling.connection]
  · have idle : (State.stageAfterClose served).job? i = none := by cases served <;> rfl
    rw [stage, idle]
    refine .ends ⟨i, call, none⟩ polling (fun j => ?_) ready .idle ?_
    · rw [State.locks_afterClose, State.locks_polled polling.connection]
    · rw [outgoing_putEvents]
      simp [Job.endEvents]
  · have kept : ((s.polled i b p).afterClose i served).registry = s.registry := by
      cases served <;> rfl
    rw [registrations_putEvents, kept]
    cases served with
    | none =>
      exact .ends (.inl (by rw [stage]; rfl)) (State.closedSession_datapath _)
        (State.closedSession_connection _) rfl (.inl rfl) (.inl ⟨by rw [stage]; rfl, rfl⟩)
    | some switch =>
      exact .goes (State.closedSession_datapath _) (State.closedSession_connection _)
        (by rw [stage]; rfl) (.inl rfl) fun arriving => by cases arriving

lemma outcome_registered {features : OpenFlow.Features} (stage : c.stage = .registering features) :
    Outcome s i c (s.register i c ⟨features.datapathId⟩).1
      (s.register i c ⟨features.datapathId⟩).2 := by
  cases h : c.session.becomeReady ⟨features.datapathId⟩ with
  | error move =>
    exact outcome_turned hc (by rw [stage]; rfl) (by rw [stage]; rfl) (s.register_of_refused i h)
  | ok session =>
    obtain ⟨⟨tail, seen, quiet, silent⟩, registry, core⟩ := s.register_of_ready i h
    obtain ⟨datapath, number⟩ := becomeReady_eq_ok h
    refine ⟨_, _, _, State.core?_of_change hc core, ?_, ?_⟩
    · have outgoing_eq : outgoing (s.register i c ⟨features.datapathId⟩).2 = [] := by
        rw [seen]
        exact quiet
      rw [stage]
      refine .begins (s.locks_register i · c _) ?_
      rw [outgoing_eq]
      cases s.registry.get? ⟨features.datapathId⟩ with
      | none => exact .idle
      | some previous => exact fresh_closeCall _ _ _
    · have registrations_eq : registrations (s.register i c ⟨features.datapathId⟩).2 =
          [.registered ⟨⟨⟨features.datapathId⟩, session.connection⟩, i⟩
            (s.registry.get? ⟨features.datapathId⟩)] := by
        rw [seen]
        exact congrArg (_ :: ·) silent
      rw [registrations_eq, registry, number]
      refine .registers (by rw [stage]; rfl) datapath number ?_ ⟨features, stage, rfl⟩
      cases s.registry.get? ⟨features.datapathId⟩ <;> rfl

end Outcomes

/-- **What a step of the driving task does** is one of the outcomes. -/
theorem Drove.effect {s t : State} {i : Nat} {c : Connection} {events : List Event}
    (hc : s.connection? i = some c) (h : Drove s i c t events) : Outcome s i c t events := by
  cases h with
  | turned idle same turn => exact outcome_turned hc idle same turn
  | waited under polling pending => exact outcome_waited hc under polling pending
  | @wrote purpose frame call b p answer r stage polling ready turn silent =>
    refine outcome_ended hc ⟨i, call, some frame⟩ (by rw [stage]; rfl) (by rw [stage]; rfl)
      polling ready turn silent ?_ ?_
    · rw [outgoing_append, outgoing_putEvents]
      exact congrArg (_ ++ _ :: ·) silent
    · rw [registrations_append, registrations_putEvents]
      rfl
  | @got w call b p answer r stage polling ready turn silent =>
    refine outcome_ended hc ⟨i, call, none⟩ (by rw [stage]; rfl) (by rw [stage]; rfl)
      polling ready turn silent ?_ ?_
    · rw [outgoing_append, outgoing_putEvents, silent]
      rfl
    · rw [registrations_append, registrations_putEvents]
      rfl
  | displaced stage polling ready => exact outcome_displaced hc stage polling ready
  | closed stage polling ready => exact outcome_closed hc stage polling ready
  | registered stage => exact outcome_registered hc stage
  | @launched switch stage =>
    refine ⟨_, .deciding (.service switch), _, State.core?_of_change hc
      (g := fun core => (core.1, .deciding (.service switch), .spawned switch)) fun j => ?_, ?_, ?_⟩
    · rw [State.core?_enter, State.core?_tell]
      split <;> simp [Function.comp_def]
    · rw [stage]
      exact .idle (fun j => by rw [State.locks_enter, State.locks_tell]) rfl
    · exact .launches (by rw [stage]; rfl) rfl
  | @deregistered switch stage =>
    refine ⟨_, .joining switch _, _, State.core?_of_change hc fun j => s.core?_enter i j _, ?_, ?_⟩
    · rw [stage]
      exact .idle (fun j => s.locks_enter i j _) rfl
    · exact .deregisters (by rw [stage]; rfl) rfl rfl
  | @joined switch removed events stage told silent =>
    unfold Outcome
    rw [silent.2]
    cases removed with
    | true =>
      refine ⟨_, .notifying switch, _, State.core?_of_change hc fun j => s.core?_enter i j _, ?_, ?_⟩
      · rw [stage]
        exact .idle (fun j => s.locks_enter i j _) silent.1
      · exact .goes rfl rfl (by rw [stage]; rfl) (.inr ⟨switch, stage, rfl, told⟩)
          fun _ => rfl
    | false =>
      refine ⟨_, .ended, _, State.core?_of_change hc fun j => s.core?_enter i j _, ?_, ?_⟩
      · rw [stage]
        exact .idle (fun j => s.locks_enter i j _) silent.1
      · exact .ends (.inr ⟨switch, false, by rw [stage]; rfl⟩) rfl rfl rfl (.inl rfl)
          (.inr (.inl ⟨switch, stage, told, rfl⟩))
  | @notified switch stage =>
    refine ⟨_, .ended, _, State.core?_of_change hc fun j => s.core?_enter i j _, ?_, ?_⟩
    · rw [stage]
      exact .idle (fun j => s.locks_enter i j _) rfl
    · exact .ends (.inr ⟨switch, true, by rw [stage]; rfl⟩) rfl rfl rfl (.inr ⟨switch, rfl⟩)
        (.inr (.inr ⟨switch, stage, rfl⟩))

/-! ### Messages, handlers and calls from outside -/

/-- The job of a message that may be on its way. -/
def jobOf (sending : Option Sending) : Option Job := sending.bind Sending.job?

/-- **What a step of a message does.** It is a step of its job and changes no stage, news or
registry. -/
theorem Sent.effect {s t : State} {who : Actor} {sending : Sending} {events : List Event}
    {result : Sending ⊕ Except Failure UInt32} (h : Sent s who sending t events result) :
    (∀ j, t.core? j = s.core? j) ∧ t.registry = s.registry ∧ t.callers = s.callers ∧
      registrations events = [] ∧ Works s who t sending.job? (jobOf result.getLeft?) events := by
  cases h with
  | found find => exact ⟨fun _ => rfl, rfl, rfl, rfl, .idle (fun _ => rfl) rfl⟩
  | unknown find => exact ⟨fun _ => rfl, rfl, rfl, rfl, .idle (fun _ => rfl) rfl⟩
  | @begun hd message c bytes connection encoded =>
    exact ⟨fun j => s.core?_modifyConnection_of_core _ j fun _ => rfl, rfl, rfl, rfl,
      .begins (fun j => s.locks_modifyConnection _ j fun _ => rfl) (.frame hd.channel rfl encoded)⟩
  | @refused hd message c e connection encoded =>
    exact ⟨fun j => s.core?_modifyConnection_of_core _ j fun _ => rfl, rfl, rfl, rfl,
      .idle (fun j => s.locks_modifyConnection _ j fun _ => rfl) rfl⟩
  | @waited hd frame call call' b p polling pending =>
    exact ⟨fun j => State.core?_polled j polling.connection p, rfl, rfl,
      registrations_putEvents _ _ _, .waits ⟨hd.channel, call, some frame⟩ polling
        (fun j => State.locks_polled polling.connection p j) pending (outgoing_putEvents _ _ _)⟩
  | @wrote hd frame call b p answer polling ready =>
    refine ⟨fun j => State.core?_polled j polling.connection p, rfl, rfl, ?_,
      .ends ⟨hd.channel, call, some frame⟩ polling
        (fun j => State.locks_polled polling.connection p j) ready .idle ?_⟩
    · rw [registrations_append, registrations_putEvents]
      rfl
    · rw [outgoing_append, outgoing_putEvents]
      rfl

/-- Whether an event is about the handler being told of the switch of a line. -/
def Event.IsTold (i : Nat) (e : Event) : Prop :=
  ∃ switch, e = .readyCalled i switch ∨ e = .readyReturned i switch

lemma filter_settling (f : Event → Bool) (notices : List Harness.Notice) (stop : Bool)
    (hn : ∀ n, f (.notice n) = false) (hs : f .stopRequested = false) :
    ((notices.map fun n => Event.notice (.harness n)) ++
      if stop then [Event.stopRequested] else []).filter f = [] := by
  rw [List.filter_append, List.append_eq_nil_iff]
  refine ⟨by simp [List.filter_eq_nil_iff, hn], ?_⟩
  cases stop
  · rfl
  · simp [hs]

/-- What a step of settling a burst leaves: the news that it has come further. -/
lemma State.settle_effect (s : State) (i : Nat) (switch : Reference) (effect : Harness.Effect) :
    ∃ handler stopping news,
      (s.settle i switch effect).1 = State.tell { s with handler, stopping } i news ∧
      news.sending? = none ∧ outgoing (s.settle i switch effect).2 = [] ∧
      ∀ e ∈ registrations (s.settle i switch effect).2, e.IsTold i := by
  unfold settle
  dsimp only
  split
  next =>
    refine ⟨_, _, _, rfl, rfl, ?_, fun e he => ⟨switch, .inr ?_⟩⟩
    · rw [outgoing_append, outgoing, filter_settling _ _ _ (fun _ => rfl) rfl]
      rfl
    · rw [registrations_append, registrations, filter_settling _ _ _ (fun _ => rfl) rfl] at he
      exact List.mem_singleton.1 he
  next =>
    refine ⟨_, _, _, rfl, rfl, filter_settling _ _ _ (fun _ => rfl) rfl, fun e he => ?_⟩
    rw [registrations, filter_settling _ _ _ (fun _ => rfl) rfl] at he
    cases he

/-- **What a step of a handler does.** Only its news change, and the step is one of the job of its
message. -/
theorem Handled.effect {s t : State} {i : Nat} {c : Connection} {events : List Event}
    (hc : s.connection? i = some c) (h : Handled s i c t events) :
    ∃ news, (∀ j, t.core? j = if i = j then some (c.session, c.stage, news) else s.core? j) ∧
      t.registry = s.registry ∧ t.callers = s.callers ∧
      (∀ e ∈ registrations events, e.IsTold i) ∧ c.news ≠ .absent ∧
      Works s (.handler i) t (jobOf c.news.sending?) (jobOf news.sending?) events := by
  have told {u : State} := State.core?_told (t := u) hc
  have quiet : ∀ e ∈ ([] : List Event), e.IsTold i := fun e he => by cases he
  have same : ∀ j, s.core? j = s.core? j := fun _ => rfl
  cases h with
  | @called switch news was now =>
    have idle : jobOf news.sending? = none := by
      rcases now with rfl | rfl | ⟨request, rfl⟩ <;> rfl
    refine ⟨news, told same news, rfl, rfl, ?_, by simp [was], ?_⟩
    · rintro e he
      exact ⟨switch, .inl (List.mem_singleton.1 he)⟩
    · rw [was, idle]
      exact .idle (fun j => s.locks_tell i j _) rfl
  | @observed switch was =>
    refine ⟨_, told same _, rfl, rfl, ?_, by simp [was], ?_⟩
    · rintro e he
      exact ⟨switch, .inr (List.mem_singleton.1 he)⟩
    · rw [was]
      exact .idle (fun j => s.locks_tell i j _) rfl
  | @attempted run was =>
    refine ⟨_, told same _, rfl, rfl, quiet, by simp [was], ?_⟩
    rw [was]
    exact .idle (fun j => s.locks_tell i j _) rfl
  | @completed run was =>
    refine ⟨_, told same _, rfl, rfl, quiet, by simp [was], ?_⟩
    rw [was]
    exact .idle (fun j => s.locks_tell i j _) rfl
  | @sent run sending sending' s' events was step =>
    obtain ⟨core, registry, callers, silent, works⟩ := step.effect
    refine ⟨_, told core _, registry, callers, by simp [silent], by simp [was], ?_⟩
    rw [was]
    exact works.congr (fun j => s'.locks_tell i j _) rfl
  | @delivered run sending xid s' events was step =>
    obtain ⟨core, registry, callers, silent, works⟩ := step.effect
    refine ⟨_, told core _, registry, callers, by simp [silent], by simp [was], ?_⟩
    rw [was]
    exact works.congr (fun j => s'.locks_tell i j _) rfl
  | @aborted run sending f s' events was step =>
    obtain ⟨core, registry, callers, silent, works⟩ := step.effect
    refine ⟨_, told core _, registry, callers, ?_, by simp [was], ?_⟩
    · rw [registrations_append, silent]
      exact quiet
    · rw [was]
      exact works.congr (fun j => s'.locks_tell i j _)
        ((outgoing_append _ _).trans (List.append_nil _))
  | @settled switch todo harness effect was handler settle =>
    obtain ⟨handler, stopping, news, e, idle, silent, quietly⟩ := s.settle_effect i switch effect
    rw [e]
    refine ⟨news, told (u := { s with handler, stopping }) same news, rfl, rfl, quietly,
      by simp [was], ?_⟩
    rw [was, idle]
    exact .idle (fun j => State.locks_tell { s with handler, stopping } i j news) silent

/-- **What a step of a call from outside does.** Only the call itself changes, and the step is one
of its job. -/
theorem Answered.effect {s t : State} {k : Nat} {caller : Caller} {events : List Event}
    (h : Answered s k caller t events) :
    ∃ caller', (∀ j, t.core? j = s.core? j) ∧ t.registry = s.registry ∧
      t.callers = s.callers.set k caller' ∧ registrations events = [] ∧
      Works s (.caller k) t caller.job? caller'.job? events := by
  cases h with
  | @sent sending sending' s' events step =>
    obtain ⟨core, registry, callers, silent, works⟩ := step.effect
    exact ⟨.sending sending', core, registry, congrArg (List.set · k _) callers, silent,
      works.congr (fun _ => rfl) rfl⟩
  | @delivered sending xid s' events step =>
    obtain ⟨core, registry, callers, silent, works⟩ := step.effect
    exact ⟨.sent xid, core, registry, congrArg (List.set · k _) callers, silent,
      works.congr (fun _ => rfl) rfl⟩
  | @failed sending f s' events step =>
    obtain ⟨core, registry, callers, silent, works⟩ := step.effect
    exact ⟨.failed f, core, registry, congrArg (List.set · k _) callers, silent,
      works.congr (fun _ => rfl) rfl⟩
  | @waited h call call' b p polling pending =>
    exact ⟨.closing h call', fun j => State.core?_polled j polling.connection p, rfl, rfl,
      registrations_putEvents _ _ _, .waits ⟨h.channel, call, none⟩ polling
        (fun j => State.locks_polled polling.connection p j) pending (outgoing_putEvents _ _ _)⟩
  | @closed h call b p answer polling ready =>
    exact ⟨.closed, fun j => State.core?_polled j polling.connection p, rfl, rfl,
      registrations_putEvents _ _ _, .ends ⟨h.channel, call, none⟩ polling
        (fun j => State.locks_polled polling.connection p j) ready .idle
        (by rw [outgoing_putEvents]; exact (List.append_nil _).symm)⟩

end FlowBurst.Controller
