import FlowBurst.Proofs.Turns

/-!
# What the steps of the tasks do

One step of a driving task, of a message on its way, of a handler and of a call from outside, each
with everything that the step can do. Later arguments look at these cases and at no definition of a
step. Main statements: `drive?_stepped`, `drive?_eq_some`, `send?_eq_some`, `handle?_eq_some`,
`answer?_eq_some`.
-/

namespace FlowBurst.Controller

open FlowBurst.OpenFlow (Features Frame FrameError Message)
open FlowBurst.Switch (Failure Handle Reference Target)
open FlowBurst.Transport (Call Disposition Link Polled Reply)

/-- A step that is done unless a call is made to fail is done. -/
lemma eq_of_unlessFailing {α : Type} {d : Disposition} {a b : α}
    (h : d.unlessFailing a = some b) : a = b := by
  cases d with
  | proceed n => exact Option.some.inj h
  | fail call e => exact absurd h (by simp [Disposition.unlessFailing])

/-- What is done unless a call is made to fail is done when none is. -/
lemma proceed_of_unlessFailing {α : Type} {d : Disposition} {a b : α}
    (h : d.unlessFailing a = some b) : ∃ n, d = .proceed n := by
  cases d with
  | proceed n => exact ⟨n, rfl⟩
  | fail call e => cases h

/-- A call of a task that is under way on a line, with the frame that it writes, if it is a write. -/
structure Job where
  line : Nat
  call : Call
  frame : Option Frame := none

/-- A poll of a call of a task, on a line with the given connection. -/
structure Polling (s : State) (j : Nat) (who : Actor) (call : Call) (b : Connection)
    (p : Polled Actor) : Prop where
  connection : s.connection? j = some b
  poll : ∃ link d, s.link? j = some link ∧
    call.poll? s.moment .server who d link b.locks = some p

lemma Polling.lasting {s : State} {j : Nat} {who : Actor} {call : Call} {b : Connection}
    {p : Polled Actor} (h : Polling s j who call b p) : s.Lasting (s.polled j b p) := by
  obtain ⟨hb, link, d, hl, hp⟩ := h
  exact .polled hb hl (Call.poll?_polls hp).becomes

/-- What a poll on a line does is what a poll of the call does. -/
lemma Polling.polls {s : State} {j : Nat} {who : Actor} {call : Call} {b : Connection}
    {p : Polled Actor} (h : Polling s j who call b p) :
    ∃ link, s.link? j = some link ∧ call.Polls s.moment .server who link (s.locks j) p := by
  obtain ⟨hb, link, d, hl, hp⟩ := h
  rw [← State.locks_of_connection? hb] at hp
  exact ⟨link, hl, Call.poll?_polls hp⟩

/-! ### The driving task -/

/-- How far a connection has come with its switch. -/
inductive Phase
  | arriving
  /-- The switch is registered, and nobody has been told. -/
  | entering (switch : Reference)
  | serving (switch : Reference)
  /-- The switch has been deregistered. -/
  | left (switch : Reference) (removed : Bool)
  | gone
  deriving DecidableEq, Repr

/-- The phase of a connection that serves a switch, or none yet. -/
def Phase.of : Option Reference → Phase
  | none => arriving
  | some switch => serving switch

namespace Stage

/-- The call that a driving task at a stage waits for. -/
def job? (i : Nat) : Stage → Option Job
  | writing _ frame call => some ⟨i, call, some frame⟩
  | reading _ call => some ⟨i, call, none⟩
  | displacing _ previous call => some ⟨previous.channel, call, none⟩
  | closing _ call => some ⟨i, call, none⟩
  | _ => none

/-- A stage with its call replaced. -/
def withCall (call : Call) : Stage → Stage
  | writing purpose frame _ => writing purpose frame call
  | reading w _ => reading w call
  | displacing switch previous _ => displacing switch previous call
  | closing served _ => closing served call
  | stage => stage

/-- Whether a driving task has nothing left to do but to tell that the switch is gone. -/
def isLast : Stage → Bool
  | notifying _ | ended => true
  | _ => false

/-- The phase that a stage belongs to. -/
def phase : Stage → Phase
  | opening | registering _ => .arriving
  | writing purpose _ _ => .of purpose.awaiting.served
  | deciding w | reading w _ => .of w.served
  | displacing switch _ _ | launching switch => .entering switch
  | closing served _ => .of served
  | deregistering switch => .serving switch
  | joining switch removed => .left switch removed
  | notifying switch => .left switch true
  | ended => .gone

end Stage

/-- A connection as its driving task opens it: there is a deadline for the handshake, and an id is
taken for the greeting. -/
def Connection.opened (s : State) (c : Connection) : Connection :=
  { c with handshakeDeadline := s.now + s.settings.handshakeTimeout, nextXid := c.nextXid + 1 }

lemma connection?_opened {s : State} {i : Nat} {c : Connection} (hc : s.connection? i = some c) :
    (s.modifyConnection i (Connection.opened s)).connection? i = some (Connection.opened s c) := by
  rw [State.connection?_modifyConnection, if_pos rfl, hc, Option.map_some]

/-- **How the driving task of a line steps**, by the stage that it is at: what its step comes to, and
all that the world sees of it. -/
inductive Stepped (s : State) (i : Nat) (d : Disposition) (c : Connection) :
    State → List Event → Prop
  | opened {r : State × List Event} (stage : c.stage = .opening)
      (next : (s.modifyConnection i (Connection.opened s)).begin i .greeting
        { deadline := some (s.now + s.settings.handshakeTimeout) }
        { xid := c.nextXid, message := .hello [] } = r) : Stepped s i d c r.1 r.2
  | waited {job : Job} {call : Call} {u : State} {put : List Event}
      (under : c.stage.job? i = some job)
      (poll : s.poll? job.line (.driver i) d job.call = some (u, put, .pending call)) :
      Stepped s i d c (u.enter i (c.stage.withCall call)) put
  | wrote {purpose : Purpose} {frame : Frame} {call : Call} {u : State} {put : List Event}
      {answer : Except Transport.Failure Reply} {r : State × List Event}
      (stage : c.stage = .writing purpose frame call)
      (poll : s.poll? i (.driver i) d call = some (u, put, .ready answer))
      (next : u.afterWrite i purpose (answer.map fun _ => ()) = r) :
      Stepped s i d c r.1 (put ++ .frameEnded i (.driver i) frame (failureOf answer) :: r.2)
  | decided {w : Awaiting} {r : State × List Event} (stage : c.stage = .deciding w)
      (next : s.decide i c w = r) : Stepped s i d c r.1 r.2
  | got {w : Awaiting} {call : Call} {u : State} {put : List Event}
      {answer : Except Transport.Failure Reply} {r : State × List Event}
      (stage : c.stage = .reading w call)
      (poll : s.poll? i (.driver i) d call = some (u, put, .ready answer))
      (next : u.afterRead i w answer = r) : Stepped s i d c r.1 (put ++ r.2)
  | registered {features : Features} {r : State × List Event}
      (stage : c.stage = .registering features)
      (next : s.register i c ⟨features.datapathId⟩ = r) : Stepped s i d c r.1 r.2
  | displaced {switch : Reference} {previous : Handle} {call : Call} {u : State}
      {put : List Event} {answer : Except Transport.Failure Reply}
      (stage : c.stage = .displacing switch previous call)
      (poll : s.poll? previous.channel (.driver i) d call = some (u, put, .ready answer)) :
      Stepped s i d c (u.enter i (.launching switch)) put
  | launched {switch : Reference} (stage : c.stage = .launching switch) :
      Stepped s i d c ((s.tell i (.spawned switch)).enter i (.deciding (.service switch))) []
  | closed {served : Option Reference} {call : Call} {u : State} {put : List Event}
      {answer : Except Transport.Failure Reply} (stage : c.stage = .closing served call)
      (poll : s.poll? i (.driver i) d call = some (u, put, .ready answer)) :
      Stepped s i d c (u.afterClose i served) put
  | deregistered {switch : Reference} (stage : c.stage = .deregistering switch) :
      Stepped s i d c
        { s.enter i (.joining switch (s.registry.deregister switch).1) with
          registry := (s.registry.deregister switch).2 }
        [.deregistered i switch (s.registry.deregister switch).1]
  | joined {switch : Reference} {removed : Bool} {events : List Event}
      (stage : c.stage = .joining switch removed)
      (told : c.news = .returned ∧ events = [] ∨
        c.news = .lost ∧ events = [.notice (.handlerLost switch)]) :
      Stepped s i d c (s.enter i (if removed then .notifying switch else .ended)) events
  | notified {switch : Reference} (stage : c.stage = .notifying switch) :
      Stepped s i d c (s.enter i .ended) [.disconnectedCalled i switch]

/-- What a step of the driving task of a line can do, as far as the other tasks are concerned. -/
inductive Drove (s : State) (i : Nat) (c : Connection) : State → List Event → Prop
  | turned {served : Option Reference} {r : State × List Event}
      (idle : c.stage.job? i = none) (same : c.stage.phase = .of served)
      (turn : Turned s i served r) : Drove s i c r.1 r.2
  | waited {job : Job} {call : Call} {b : Connection} {p : Polled Actor}
      (under : c.stage.job? i = some job) (polling : Polling s job.line (.driver i) job.call b p)
      (pending : p.progress = .pending call) :
      Drove s i c ((s.polled job.line b p).enter i (c.stage.withCall call))
        (putEvents job.line (.driver i) p.put)
  | wrote {purpose : Purpose} {frame : Frame} {call : Call} {b : Connection} {p : Polled Actor}
      {answer : Except Transport.Failure Reply} {r : State × List Event}
      (stage : c.stage = .writing purpose frame call)
      (polling : Polling s i (.driver i) call b p) (ready : p.progress = .ready answer)
      (turn : Turned (s.polled i b p) i purpose.awaiting.served r) (silent : outgoing r.2 = [])
      (closes : failureOf answer ≠ none → r.1 = (s.polled i b p).enter i
        (.closing purpose.awaiting.served (closeCall (s.polled i b p).now))) :
      Drove s i c r.1 (putEvents i (.driver i) p.put ++
        .frameEnded i (.driver i) frame (failureOf answer) :: r.2)
  | got {w : Awaiting} {call : Call} {b : Connection} {p : Polled Actor}
      {answer : Except Transport.Failure Reply} {r : State × List Event}
      (stage : c.stage = .reading w call)
      (polling : Polling s i (.driver i) call b p) (ready : p.progress = .ready answer)
      (turn : Turned (s.polled i b p) i w.served r) (silent : outgoing r.2 = []) :
      Drove s i c r.1 (putEvents i (.driver i) p.put ++ r.2)
  | displaced {switch : Reference} {previous : Handle} {call : Call} {b : Connection}
      {p : Polled Actor} {answer : Except Transport.Failure Reply}
      (stage : c.stage = .displacing switch previous call)
      (polling : Polling s previous.channel (.driver i) call b p)
      (ready : p.progress = .ready answer) :
      Drove s i c ((s.polled previous.channel b p).enter i (.launching switch))
        (putEvents previous.channel (.driver i) p.put)
  | closed {served : Option Reference} {call : Call} {b : Connection} {p : Polled Actor}
      {answer : Except Transport.Failure Reply} (stage : c.stage = .closing served call)
      (polling : Polling s i (.driver i) call b p) (ready : p.progress = .ready answer) :
      Drove s i c ((s.polled i b p).afterClose i served) (putEvents i (.driver i) p.put)
  | registered {features : Features} (stage : c.stage = .registering features) :
      Drove s i c (s.register i c ⟨features.datapathId⟩).1 (s.register i c ⟨features.datapathId⟩).2
  | launched {switch : Reference} (stage : c.stage = .launching switch) :
      Drove s i c ((s.tell i (.spawned switch)).enter i (.deciding (.service switch))) []
  | deregistered {switch : Reference} (stage : c.stage = .deregistering switch) :
      Drove s i c
        { s.enter i (.joining switch (s.registry.deregister switch).1) with
          registry := (s.registry.deregister switch).2 }
        [.deregistered i switch (s.registry.deregister switch).1]
  | joined {switch : Reference} {removed : Bool} {events : List Event}
      (stage : c.stage = .joining switch removed) (told : c.news = .returned ∨ c.news = .lost)
      (silent : outgoing events = [] ∧ registrations events = []) :
      Drove s i c (s.enter i (if removed then .notifying switch else .ended)) events
  | notified {switch : Reference} (stage : c.stage = .notifying switch) :
      Drove s i c (s.enter i .ended) [.disconnectedCalled i switch]

namespace State

/-- What is done with a poll is done with a poll of the call on the line. -/
lemma polling_of_bind {α : Type} {s : State} {j : Nat} {who : Actor} {d : Disposition} {call : Call}
    {f : State × List Event × Transport.Progress → Option α} {a : α}
    (h : (s.poll? j who d call).bind f = some a) :
    ∃ b p, Polling s j who call b p ∧
      f (s.polled j b p, putEvents j who p.put, p.progress) = some a := by
  obtain ⟨⟨t, events, progress⟩, hp, h⟩ := Option.bind_eq_some_iff.1 h
  obtain ⟨link, b, p, hl, hb, hc, rfl, rfl, rfl⟩ := poll?_eq_some hp
  exact ⟨b, p, ⟨hb, link, d, hl, hc⟩, h⟩

/-- **The driving task of a line takes no step that `Stepped` does not list.** -/
theorem drive?_stepped {s t : State} {i : Nat} {d : Disposition} {events : List Event}
    (h : s.drive? i d = some (t, events)) :
    ∃ c, s.connection? i = some c ∧ Stepped s i d c t events := by
  obtain ⟨c, hc, h⟩ := Option.bind_eq_some_iff.1 h
  refine ⟨c, hc, ?_⟩
  have waited (job : Job) {call : Call} {u : State} {put : List Event} {stage : Stage}
      (here : c.stage = stage) (under : stage.job? i = some job)
      (poll : s.poll? job.line (.driver i) d job.call = some (u, put, .pending call)) :
      Stepped s i d c (u.enter i (stage.withCall call)) put :=
    here ▸ .waited (here ▸ under) poll
  cases stage : c.stage with
  | opening =>
    rw [stage] at h
    exact .opened (r := (t, events)) stage (eq_of_unlessFailing h)
  | writing purpose frame call =>
    rw [stage] at h
    obtain ⟨⟨u, put, progress⟩, poll, h⟩ := Option.bind_eq_some_iff.1 h
    cases progress with
    | pending call' =>
      cases h
      exact waited ⟨i, call, some frame⟩ stage rfl poll
    | ready answer =>
      cases h
      exact .wrote stage poll rfl
  | deciding w =>
    rw [stage] at h
    exact .decided (r := (t, events)) stage (eq_of_unlessFailing h)
  | reading w call =>
    rw [stage] at h
    obtain ⟨⟨u, put, progress⟩, poll, h⟩ := Option.bind_eq_some_iff.1 h
    cases progress with
    | pending call' =>
      cases h
      exact waited ⟨i, call, none⟩ stage rfl poll
    | ready answer =>
      cases h
      exact .got stage poll rfl
  | registering features =>
    rw [stage] at h
    exact .registered (r := (t, events)) stage (eq_of_unlessFailing h)
  | displacing switch previous call =>
    rw [stage] at h
    obtain ⟨⟨u, put, progress⟩, poll, h⟩ := Option.bind_eq_some_iff.1 h
    cases progress with
    | pending call' =>
      cases h
      exact waited ⟨previous.channel, call, none⟩ stage rfl poll
    | ready answer =>
      cases h
      exact .displaced stage poll
  | launching switch =>
    rw [stage] at h
    cases eq_of_unlessFailing h
    exact .launched stage
  | closing served call =>
    rw [stage] at h
    obtain ⟨⟨u, put, progress⟩, poll, h⟩ := Option.bind_eq_some_iff.1 h
    cases progress with
    | pending call' =>
      cases h
      exact waited ⟨i, call, none⟩ stage rfl poll
    | ready answer =>
      cases h
      exact .closed stage poll
  | deregistering switch =>
    rw [stage] at h
    cases eq_of_unlessFailing h
    exact .deregistered stage
  | joining switch removed =>
    rw [stage] at h
    dsimp only at h
    split at h
    next told =>
      cases eq_of_unlessFailing h
      exact .joined stage (.inl ⟨told, rfl⟩)
    next told =>
      cases eq_of_unlessFailing h
      exact .joined stage (.inr ⟨told, rfl⟩)
    next => cases h
  | notifying switch =>
    rw [stage] at h
    cases eq_of_unlessFailing h
    exact .notified stage
  | ended =>
    rw [stage] at h
    cases h

/-- A poll on a line is a poll of the call there. -/
lemma polling_of_poll? {s u : State} {j : Nat} {who : Actor} {d : Disposition} {call : Call}
    {put : List Event} {progress : Transport.Progress}
    (poll : s.poll? j who d call = some (u, put, progress)) :
    ∃ b p, Polling s j who call b p ∧ u = s.polled j b p ∧ put = putEvents j who p.put ∧
      p.progress = progress := by
  obtain ⟨link, b, p, hl, hb, hp, rfl, rfl, rfl⟩ := poll?_eq_some poll
  exact ⟨b, p, ⟨hb, link, d, hl, hp⟩, rfl, rfl, rfl⟩

end State

/-- How a driving task steps, as far as the other tasks are concerned. -/
theorem Stepped.drove {s t : State} {i : Nat} {d : Disposition} {c : Connection}
    {events : List Event} (h : Stepped s i d c t events) : Drove s i c t events := by
  cases h with
  | opened stage next =>
    subst next
    have cancellable : Transport.Limits.cancellable
        { deadline := some (s.now + s.settings.handshakeTimeout) } = true := rfl
    exact .turned (by rw [stage]; rfl) (by rw [stage]; rfl)
      (Turned.after (f := Connection.opened s) (fun _ => ⟨rfl, rfl, rfl⟩)
        (State.turned_begin _ i .greeting cancellable { xid := c.nextXid, message := .hello [] }))
  | waited under poll =>
    obtain ⟨b, p, polling, rfl, rfl, pending⟩ := State.polling_of_poll? poll
    exact .waited under polling pending
  | @wrote purpose frame call u put answer r stage poll next =>
    subst next
    obtain ⟨b, p, polling, rfl, rfl, ready⟩ := State.polling_of_poll? poll
    refine .wrote stage polling ready (State.turned_afterWrite _ i purpose _)
      (State.outgoing_afterWrite _ i _ _) fun failed => ?_
    cases answer with
    | ok reply => exact (failed rfl).elim
    | error f => exact State.afterWrite_error _ i purpose f
  | decided stage next =>
    subst next
    exact .turned (by rw [stage]; rfl) (by rw [stage]; rfl) (s.turned_decide i c _)
  | got stage poll next =>
    subst next
    obtain ⟨b, p, polling, rfl, rfl, ready⟩ := State.polling_of_poll? poll
    exact .got stage polling ready (State.turned_afterRead _ i _ _) (State.outgoing_afterRead _ i _ _)
  | registered stage next =>
    subst next
    exact .registered stage
  | displaced stage poll =>
    obtain ⟨b, p, polling, rfl, rfl, ready⟩ := State.polling_of_poll? poll
    exact .displaced stage polling ready
  | launched stage => exact .launched stage
  | closed stage poll =>
    obtain ⟨b, p, polling, rfl, rfl, ready⟩ := State.polling_of_poll? poll
    exact .closed stage polling ready
  | deregistered stage => exact .deregistered stage
  | joined stage told =>
    refine .joined stage (told.imp And.left And.left) ?_
    rcases told with ⟨-, rfl⟩ | ⟨-, rfl⟩ <;> exact ⟨rfl, rfl⟩
  | notified stage => exact .notified stage

namespace State

/-- The driving task of a line takes no step that `Drove` does not list. -/
theorem drive?_eq_some {s t : State} {i : Nat} {d : Disposition} {events : List Event}
    (h : s.drive? i d = some (t, events)) :
    ∃ c, s.connection? i = some c ∧ Drove s i c t events := by
  obtain ⟨c, hc, step⟩ := drive?_stepped h
  exact ⟨c, hc, step.drove⟩

end State

/-! ### A message on its way -/

/-- What a step of a message that a task sends can do. -/
inductive Sent (s : State) (who : Actor) :
    Sending → State → List Event → Sending ⊕ Except Failure UInt32 → Prop
  | found {target : Target} {message : Message} {h : Handle}
      (find : s.registry.find target = .ok h) :
      Sent s who (.looking target message) s [] (.inl (.holding h message))
  | unknown {target : Target} {message : Message} {f : Failure}
      (find : s.registry.find target = .error f) :
      Sent s who (.looking target message) s [] (.inr (.error f))
  | begun {h : Handle} {message : Message} {c : Connection} {bytes : List UInt8}
      (connection : s.connection? h.channel = some c)
      (encoded : Frame.encode { xid := c.nextXid, message } = .ok bytes) :
      Sent s who (.holding h message)
        (s.modifyConnection h.channel fun c => { c with nextXid := c.nextXid + 1 })
        [.frameBegun h.channel who { xid := c.nextXid, message }]
        (.inl (.writing h { xid := c.nextXid, message } (.write s.sendLimits bytes)))
  | refused {h : Handle} {message : Message} {c : Connection} {e : FrameError}
      (connection : s.connection? h.channel = some c)
      (encoded : Frame.encode { xid := c.nextXid, message } = .error e) :
      Sent s who (.holding h message)
        (s.modifyConnection h.channel fun c => { c with nextXid := c.nextXid + 1 }) []
        (.inr (.error (.frame e)))
  | waited {h : Handle} {frame : Frame} {call call' : Call} {b : Connection} {p : Polled Actor}
      (polling : Polling s h.channel who call b p) (pending : p.progress = .pending call') :
      Sent s who (.writing h frame call) (s.polled h.channel b p) (putEvents h.channel who p.put)
        (.inl (.writing h frame call'))
  | wrote {h : Handle} {frame : Frame} {call : Call} {b : Connection} {p : Polled Actor}
      {answer : Except Transport.Failure Reply} (polling : Polling s h.channel who call b p)
      (ready : p.progress = .ready answer) :
      Sent s who (.writing h frame call) (s.polled h.channel b p)
        (putEvents h.channel who p.put ++ [.frameEnded h.channel who frame (failureOf answer)])
        (.inr (match answer with
          | .ok _ => .ok frame.xid
          | .error f => .error (.transport f)))

namespace State

/-- A message on its way takes no step that `Sent` does not list. -/
theorem send?_eq_some {s t : State} {who : Actor} {d : Disposition} {sending : Sending}
    {events : List Event} {result : Sending ⊕ Except Failure UInt32}
    (h : s.send? who d sending = some (t, events, result)) :
    Sent s who sending t events result := by
  cases sending with
  | looking target message =>
    have e := eq_of_unlessFailing h
    split at e
    next hd find =>
      cases e
      exact .found find
    next f find =>
      cases e
      exact .unknown find
  | holding hd message =>
    obtain ⟨c, hc, h⟩ := Option.bind_eq_some_iff.1 h
    have e := eq_of_unlessFailing h
    split at e
    next err encoded =>
      cases e
      exact .refused hc encoded
    next bytes encoded =>
      cases e
      exact .begun hc encoded
  | writing hd frame call =>
    obtain ⟨b, p, polling, h⟩ := polling_of_bind h
    dsimp only at h
    split at h
    next call' pending =>
      cases h
      exact .waited polling pending
    next ready =>
      cases h
      exact .wrote polling ready
    next ready =>
      cases h
      exact .wrote polling ready

end State

/-! ### The handler and the calls from outside -/

/-- What the news of a switch are once the handler has been told of it: a handler that breaks down over
the switch is lost, an observer has yet to return, and the harness begins a burst. -/
def Handler.firstNews (h : Handler) (switch : Reference) : News :=
  match h with
  | .observer faulty => if switch.datapath ∈ faulty then .lost else .observing switch
  | .harness policy => .bursting (.start switch policy.request)

/-- What a step of the task that tells the handler of the switch of a line can do. -/
inductive Handled (s : State) (i : Nat) (c : Connection) : State → List Event → Prop
  | called {switch : Reference} {news : News} (was : c.news = .spawned switch)
      (now : news = .lost ∨ news = .observing switch ∨
        ∃ request, news = .bursting (.start switch request))
      (first : news = s.handler.firstNews switch) :
      Handled s i c (s.tell i news) [.readyCalled i switch]
  | observed {switch : Reference} (was : c.news = .observing switch) :
      Handled s i c (s.tell i .returned) [.readyReturned i switch]
  | attempted {run : Burst.Run Reference} (was : c.news = .bursting run)
      (more : run.isSending = true) :
      Handled s i c
        (s.tell i (.sending run (.looking (.connection run.switch) run.request.kind.message))) []
  | completed {run : Burst.Run Reference} (was : c.news = .bursting run)
      (done : run.isSending = false) :
      Handled s i c (s.tell i (.settling run.switch (.counting run.complete)))
        [.burstEnded i run.complete]
  | sent {run : Burst.Run Reference} {sending sending' : Sending} {s' : State}
      {events : List Event} (was : c.news = .sending run sending)
      (step : Sent s (.handler i) sending s' events (.inl sending')) :
      Handled s i c (s'.tell i (.sending run sending')) events
  | delivered {run : Burst.Run Reference} {sending : Sending} {xid : UInt32} {s' : State}
      {events : List Event} (was : c.news = .sending run sending)
      (step : Sent s (.handler i) sending s' events (.inr (.ok xid))) :
      Handled s i c (s'.tell i (.bursting run.succeed)) events
  | aborted {run : Burst.Run Reference} {sending : Sending} {f : Failure} {s' : State}
      {events : List Event} (was : c.news = .sending run sending)
      (step : Sent s (.handler i) sending s' events (.inr (.error f))) :
      Handled s i c (s'.tell i (.settling run.switch (.counting (run.abort (.ofSwitch f)))))
        (events ++ [.burstEnded i (run.abort (.ofSwitch f))])
  | settled {switch : Reference} {todo : Harness.Settling} {harness : Harness}
      {effect : Harness.Effect} (was : c.news = .settling switch todo)
      (handler : s.handler = .harness harness) (settle : harness.settle? todo = some effect) :
      Handled s i c (s.settle i switch effect).1 (s.settle i switch effect).2

/-- What a step of a call from outside can do. -/
inductive Answered (s : State) (k : Nat) : Caller → State → List Event → Prop
  | sent {sending sending' : Sending} {s' : State} {events : List Event}
      (step : Sent s (.caller k) sending s' events (.inl sending')) :
      Answered s k (.sending sending)
        { s' with callers := s'.callers.set k (.sending sending') } events
  | delivered {sending : Sending} {xid : UInt32} {s' : State} {events : List Event}
      (step : Sent s (.caller k) sending s' events (.inr (.ok xid))) :
      Answered s k (.sending sending) { s' with callers := s'.callers.set k (.sent xid) } events
  | failed {sending : Sending} {f : Failure} {s' : State} {events : List Event}
      (step : Sent s (.caller k) sending s' events (.inr (.error f))) :
      Answered s k (.sending sending) { s' with callers := s'.callers.set k (.failed f) } events
  | waited {h : Handle} {call call' : Call} {b : Connection} {p : Polled Actor}
      (polling : Polling s h.channel (.caller k) call b p)
      (pending : p.progress = .pending call') :
      Answered s k (.closing h call)
        { s.polled h.channel b p with
          callers := s.callers.set k (.closing h call') } (putEvents h.channel (.caller k) p.put)
  | closed {h : Handle} {call : Call} {b : Connection} {p : Polled Actor}
      {answer : Except Transport.Failure Reply} (polling : Polling s h.channel (.caller k) call b p)
      (ready : p.progress = .ready answer) :
      Answered s k (.closing h call)
        { s.polled h.channel b p with callers := s.callers.set k .closed }
        (putEvents h.channel (.caller k) p.put)

namespace State

/-- The task that tells the handler takes no step that `Handled` does not list. -/
theorem handle?_eq_some {s t : State} {i : Nat} {d : Disposition} {events : List Event}
    (h : s.handle? i d = some (t, events)) :
    ∃ c, s.connection? i = some c ∧ Handled s i c t events := by
  obtain ⟨c, hc, h⟩ := Option.bind_eq_some_iff.1 h
  refine ⟨c, hc, ?_⟩
  split at h
  next switch faulty was handler =>
    cases eq_of_unlessFailing h
    refine .called was ?_ (by rw [handler]; rfl)
    split
    · exact .inl rfl
    · exact .inr (.inl rfl)
  next switch harness was handler =>
    cases eq_of_unlessFailing h
    exact .called was (.inr (.inr ⟨_, rfl⟩)) (by rw [handler]; rfl)
  next switch was =>
    cases eq_of_unlessFailing h
    exact .observed was
  next run was =>
    have e := eq_of_unlessFailing h
    split at e
    next more =>
      cases e
      exact .attempted was more
    next done =>
      cases e
      exact .completed was (by simpa using done)
  next run sending was =>
    obtain ⟨⟨s', before, result⟩, hs, h⟩ := Option.bind_eq_some_iff.1 h
    have step := send?_eq_some hs
    dsimp only at h
    split at h
    · cases h
      exact .sent was step
    · cases h
      exact .delivered was step
    · cases h
      exact .aborted was step
  next switch todo harness was handler =>
    obtain ⟨effect, settle, h⟩ := Option.bind_eq_some_iff.1 h
    have e := eq_of_unlessFailing h
    have := Handled.settled (i := i) was handler settle
    rwa [e] at this
  next => cases h

/-- A call from outside takes no step that `Answered` does not list. -/
theorem answer?_eq_some {s t : State} {k : Nat} {d : Disposition} {events : List Event}
    (h : s.answer? k d = some (t, events)) :
    ∃ caller, s.callers[k]? = some caller ∧ Answered s k caller t events := by
  obtain ⟨caller, hk, h⟩ := Option.bind_eq_some_iff.1 h
  refine ⟨caller, hk, ?_⟩
  dsimp only at h
  split at h
  next sending =>
    obtain ⟨⟨s', before, result⟩, hs, h⟩ := Option.bind_eq_some_iff.1 h
    have step := send?_eq_some hs
    dsimp only at h
    split at h
    · cases h
      exact .sent step
    · cases h
      exact .delivered step
    · cases h
      exact .failed step
  next hd call =>
    obtain ⟨b, p, polling, h⟩ := polling_of_bind h
    dsimp only at h
    split at h
    next call' pending =>
      cases h
      exact .waited polling pending
    next answer ready =>
      cases h
      exact .closed polling ready
  all_goals cases h

end State

end FlowBurst.Controller
