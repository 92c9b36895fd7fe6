import FlowBurst.Proofs.Closing

/-!
# What passes over a line

Nothing that a switch sends is lost on its way to the driving task of its line, and nothing is made up:
the bytes sent are those that the task has read, and then those that have arrived. The other way it is
the same: the bytes that were put on the wire are those that the switch has read, and then those that
have arrived there. As long as nobody shuts the line down, there is an end to what the task reads only
once the switch ends its sending. Main statements: `delivered_of_steps?`, `collected_of_steps?`,
`heard_of_unknown`.
-/

namespace FlowBurst.Transport

/-! ### What arrives on a connection -/

/-- The bytes that pass over a connection in a step. -/
structure Traffic where
  /-- The connecting side sends them. -/
  sent : List UInt8 := []
  /-- The accepting side reads them. -/
  taken : List UInt8 := []
  /-- The accepting side puts them in. -/
  put : List UInt8 := []
  /-- The connecting side reads them. -/
  collected : List UInt8 := []

/-- **What a step makes of a connection**: on each side some bytes arrive behind those that are there
and some are taken off in front, and only a shutdown ends the reading of the accepting side. -/
structure Link.Conveys (x : Traffic) (shuts : Prop) (l l' : Link) : Prop where
  arrived : l.server.arrived ++ x.sent = x.taken ++ l'.server.arrived
  entered : l.client.arrived ++ x.put = x.collected ++ l'.client.arrived
  reading : l'.server.readingEnded = l.server.readingEnded ∨ shuts

namespace Link.Conveys

variable {l l' l'' : Link} {shuts : Prop} {taken put : List UInt8}

/-- A change that leaves alone what has arrived, and the reading of the accepting side. -/
lemma of_eq (arrived : l'.server.arrived = l.server.arrived)
    (entered : l'.client.arrived = l.client.arrived)
    (reading : l'.server.readingEnded = l.server.readingEnded) : Conveys {} shuts l l' :=
  ⟨by rw [arrived, List.append_nil, List.nil_append],
    by rw [entered, List.append_nil, List.nil_append], .inl reading⟩

lemma rfl : Conveys {} shuts l l := of_eq (by rfl) (by rfl) (by rfl)

lemma trans (h : Conveys { taken, put } shuts l l') (k : Conveys {} shuts l' l'') :
    Conveys { taken, put } shuts l l'' := by
  have arrived : l'.server.arrived = l''.server.arrived := by simpa using k.arrived
  have entered : l'.client.arrived = l''.client.arrived := by simpa using k.entered
  refine ⟨h.arrived.trans (by rw [arrived]), h.entered.trans (by rw [entered]), ?_⟩
  rcases k.reading with e | shut
  · rw [e]
    exact h.reading
  · exact .inr shut

lemma mono {x : Traffic} {shuts' : Prop} (h : Conveys x shuts l l') (imp : shuts → shuts') :
    Conveys x shuts' l l' := ⟨h.arrived, h.entered, h.reading.imp_right imp⟩

/-- What the accepting side writes enters the pipe as far as the write succeeds. -/
lemma of_write? {bytes : List UInt8} {limit : Nat} {answer : Except OsError Nat}
    (h : l.write? .server bytes limit = some (answer, l')) :
    Conveys { put := bytes.take (answer.toOption.getD 0) } shuts l l' := by
  cases Link.write?_writes h with
  | broken gone | reset reset => exact rfl
  | put => exact ⟨List.append_nil _, by rfl, .inl (by rfl)⟩

lemma of_read? {size : Nat} {answer : Except OsError (List UInt8)}
    (h : l.read? .server size = some (answer, l')) :
    Conveys { taken := answer.toOption.getD [] } shuts l l' := by
  cases Link.read?_reads h with
  | took left =>
    refine ⟨?_, List.append_nil _, .inl (by rfl)⟩
    show l.server.arrived ++ [] = l.server.arrived.take size ++ l.server.arrived.drop size
    rw [List.append_nil, List.take_append_drop]
  | reset dry reset | ended dry ended => exact rfl

/-- What the other side puts in arrives. -/
lemma of_delivery {bytes : List UInt8} {limit n : Nat}
    (h : l.write? .client bytes limit = some (.ok n, l')) :
    Conveys { sent := bytes.take n } shuts l l' := by
  cases Link.write?_writes h with
  | put => exact ⟨by rfl, List.append_nil _, .inl (by rfl)⟩

/-- What the other side reads had entered the pipe. -/
lemma of_collection {size : Nat} {bytes : List UInt8}
    (h : l.read? .client size = some (.ok bytes, l')) : Conveys { collected := bytes } shuts l l' := by
  cases Link.read?_reads h with
  | took left =>
    refine ⟨List.append_nil _, ?_, .inl (by rfl)⟩
    show l.client.arrived ++ [] = l.client.arrived.take size ++ l.client.arrived.drop size
    rw [List.append_nil, List.take_append_drop]
  | ended dry ended => exact rfl

end Link.Conveys

/-- A shutdown takes nothing off on either side. -/
lemma Call.arrived_of_shutDown {link link' : Link} {direction : Direction} {d : Disposition}
    {answer : Except OsError Unit} (h : shutDown link .server direction d = some (answer, link')) :
    link'.server.arrived = link.server.arrived ∧ link'.client.arrived = link.client.arrived := by
  have stopReading (link : Link) :
      (link.stopReading .server).server.arrived = link.server.arrived ∧
        (link.stopReading .server).client.arrived = link.client.arrived := by
    unfold Link.stopReading
    split <;> exact ⟨rfl, rfl⟩
  obtain rfl | ⟨rfl, -⟩ | rfl := link_of_shutDown h
  · exact ⟨rfl, rfl⟩
  · exact ⟨rfl, rfl⟩
  · cases direction with
    | reading => exact stopReading link
    | writing => exact ⟨rfl, rfl⟩
    | both => exact stopReading (link.endWriting .server)

/-- The bytes that a poll has read. -/
def Progress.taken : Progress → List UInt8
  | .ready (.ok (.data bytes)) => bytes
  | _ => []

section Polls

variable {τ : Type} [DecidableEq τ] {m : Moment} {who : τ} {d : Disposition} {call : Call} {link : Link}
  {locks : Locks τ} {p : Polled τ}

/-- What an attempt conveys. -/
lemma conveys_of_attempts (h : Call.Attempts .server who d call link locks p) :
    link.Conveys { taken := p.progress.taken, put := p.put }
        (∃ direction, call.request = .shutdown direction) p.link ∧
      (p.progress.taken ≠ [] → ∃ size, call.request = .read size) := by
  have nothing : ([] : List UInt8) ≠ [] → ∃ size, call.request = .read size :=
    fun some_taken => (some_taken rfl).elim
  cases h with
  | interrupted | refused => exact ⟨.rfl, nothing⟩
  | @reads size answer link' request read =>
    refine ⟨?_, fun _ => ⟨size, request⟩⟩
    cases answer <;> exact .of_read? read
  | broken request wrote | advances request wrote more => exact ⟨.of_write? wrote, nothing⟩
  | @completes rest total limit n link' request wrote all =>
    have whole : rest.take n = rest := List.take_of_length_le (List.drop_eq_nil_iff.1 all)
    have conveys (shuts : Prop) : link.Conveys { put := rest.take n } shuts link' := .of_write? wrote
    rw [whole] at conveys
    exact ⟨conveys _, nothing⟩
  | @shuts direction answer link' request shut =>
    obtain ⟨arrived, entered⟩ := Call.arrived_of_shutDown shut
    have conveys : link.Conveys {} (∃ direction, call.request = .shutdown direction) link' :=
      ⟨by rw [arrived, List.append_nil, List.nil_append],
        by rw [entered, List.append_nil, List.nil_append], .inr ⟨direction, request⟩⟩
    cases answer <;> exact ⟨conveys, nothing⟩

/-- **What a poll conveys**: a read takes off what has arrived, a write puts bytes in, and nothing else
does either. -/
theorem conveys_of_poll (h : call.poll? m .server who d link locks = some p) :
    link.Conveys { taken := p.progress.taken, put := p.put }
        (∃ direction, call.request = .shutdown direction) p.link ∧
      (p.progress.taken ≠ [] → ∃ size, call.request = .read size) := by
  cases Call.poll?_comes h with
  | empty | stopped | waits => exact ⟨.rfl, fun some_taken => (some_taken rfl).elim⟩
  | attempted more going holds attempts =>
    have conveys := conveys_of_attempts attempts
    exact conveys

end Polls

end FlowBurst.Transport

namespace FlowBurst.Controller

open FlowBurst.Switch (Handle)
open FlowBurst.Transport (Call Disposition Link Polled Traffic)

/-! ### What arrives on a line -/

/-- The bytes that a switch sends on a line in an action. -/
def Action.delivered (i : Nat) : Action → List UInt8
  | deliver j bytes => if j = i then bytes else []
  | _ => []

/-- The bytes that a switch sends on a line in a run, in order. -/
def delivered (i : Nat) (actions : List Action) : List UInt8 := actions.flatMap (Action.delivered i)

/-- The bytes that a switch takes off a line in an action. -/
def Action.collected (s : State) (i : Nat) : Action → List UInt8
  | collect j size =>
    if j = i then
      match (s.link? i).bind fun l => l.read? .client size with
      | some (.ok bytes, _) => bytes
      | _ => []
    else []
  | _ => []

/-- The bytes that a switch takes off a line in a run, in order. -/
def collected (i : Nat) (s : State) : List Action → List UInt8
  | [] => []
  | a :: rest =>
    a.collected s i ++
      match s.step? a with
      | some (t, _) => collected i t rest
      | none => []

/-- What a switch takes in a run it takes before the last action or in that. -/
lemma collected_concat {s t : State} {i : Nat} {actions : List Action} {events : List Event}
    (run : s.steps? actions = some (t, events)) (a : Action) :
    collected i s (actions ++ [a]) = collected i s actions ++ a.collected t i := by
  have one (s : State) : collected i s [a] = a.collected s i := by
    unfold collected
    split <;> exact List.append_nil _
  induction actions generalizing s events with
  | nil =>
    cases run
    exact one t
  | cons b rest ih =>
    obtain ⟨⟨u, seen⟩, step, further⟩ := Option.bind_eq_some_iff.1 run
    obtain ⟨⟨v, more⟩, rest_run, same⟩ := Option.bind_eq_some_iff.1 further
    cases same
    simp only [List.cons_append, collected, step]
    rw [ih rest_run, List.append_assoc]

/-- Some task is about to shut a line down. -/
def State.Shuts (s : State) (i : Nat) : Prop :=
  ∃ who job direction, s.job? who = some job ∧ job.line = i ∧ job.call.request = .shutdown direction

/-- **What a step conveys on a line**, if that is there. -/
def State.Conveys (i : Nat) (x : Traffic) (s t : State) : Prop :=
  ∀ l, s.link? i = some l → ∃ l', t.link? i = some l' ∧ l.Conveys x (s.Shuts i) l'

section Conveys

variable {s t u : State} {i : Nat} {more : List Event} {taken put : List UInt8}

lemma conveys_of_eq (same : t.link? i = s.link? i) : State.Conveys i {} s t :=
  fun l hl => ⟨l, same.trans hl, .rfl⟩

/-- A change of the link after what a step conveys, which leaves what has arrived alone. -/
lemma State.Conveys.andThen (h : State.Conveys i { taken, put } s t)
    (same : ∀ l, t.link? i = some l → ∃ l', u.link? i = some l' ∧ l.Conveys {} False l') :
    State.Conveys i { taken, put } s u := by
  intro l hl
  obtain ⟨l', hl', conveys⟩ := h l hl
  obtain ⟨l'', hl'', further⟩ := same l' hl'
  exact ⟨l'', hl'', conveys.trans (further.mono False.elim)⟩

lemma State.Conveys.of_link (h : State.Conveys i { taken, put } s t)
    (same : u.link? i = t.link? i) : State.Conveys i { taken, put } s u :=
  h.andThen fun l hl => ⟨l, same.trans hl, .rfl⟩

/-- The accepting side of a link goes away. -/
lemma State.Conveys.andClosed (h : State.Conveys i { taken, put } s t) (j : Nat) :
    State.Conveys i { taken, put } s
      (t.modifyLine j fun l => { l with link := l.link.close .server }) := by
  refine h.andThen fun l hl => ?_
  rw [State.link?_modifyLink t j i fun l => l.close .server]
  split
  · exact ⟨l.close .server, by rw [hl]; rfl, .of_eq rfl rfl rfl⟩
  · exact ⟨l, hl, .rfl⟩

/-- **What a poll of a job conveys** on the line of the job. -/
lemma conveys_of_polling {who : Actor} {job : Job} {b : Connection} {p : Polled Actor}
    (under : s.job? who = some job) (polling : Polling s job.line who job.call b p) :
    State.Conveys i { taken := if job.line = i then p.progress.taken else []
                      put := if job.line = i then p.put else [] } s (s.polled job.line b p) := by
  obtain ⟨hb, link, d, hl, poll⟩ := polling
  intro l hl'
  rw [State.link?_polled hb]
  split
  next line =>
    subst line
    obtain rfl : link = l := Option.some.inj (hl.symm.trans hl')
    exact ⟨p.link, rfl, (Transport.conveys_of_poll poll).1.mono fun ⟨direction, request⟩ =>
      ⟨who, job, direction, under, rfl, request⟩⟩
  next => exact ⟨l, hl', .rfl⟩

end Conveys

/-! ### What a step does to the links -/

/-- **What a step of a task does to the links** and shows of it: nothing, or it polls the call of the
task, and once a handshake was given up the driving task lets its connection go after that. -/
inductive Touched (s : State) (who : Actor) (t : State) (events : List Event) : Prop
  | nothing (links : ∀ i, t.link? i = s.link? i) (silent : ∀ i, Event.wire i events = [])
  | polls {job : Job} {b : Connection} {p : Polled Actor} (under : s.job? who = some job)
      (polling : Polling s job.line who job.call b p)
      (links : ∀ i, t.link? i = (s.polled job.line b p).link? i)
      (put : ∀ i, Event.wire i events = if job.line = i then p.put else [])
  | lets_go {job : Job} {b : Connection} {p : Polled Actor} (under : s.job? who = some job)
      (polling : Polling s job.line who job.call b p)
      (links : ∀ i, t.link? i =
        ((s.polled job.line b p).modifyLine job.line fun l =>
          { l with link := l.link.close .server }).link? i)
      (put : ∀ i, Event.wire i events = if job.line = i then p.put else [])

section Touched

variable {s t : State} {more : List Event}

/-- Nothing is put on the wire where the world sees nothing of writing. -/
lemma wire_of_silent {i : Nat} (silent : outgoing more = []) : Event.wire i more = [] := by
  rw [← Event.wire_outgoing, silent]
  rfl

lemma wire_of_turned {i j : Nat} {served : Option Switch.Reference} {r : State × List Event}
    (turn : Turned s j served r) : Event.wire i r.2 = [] := by
  obtain ⟨stage, next, -⟩ := turn.core?
  rw [← Event.wire_outgoing]
  exact (next.fresh.silent i).1

lemma Drove.touched {j : Nat} {c : Connection} (hc : s.connection? j = some c)
    (h : Drove s j c t more) : Touched s (.driver j) t more := by
  have under : s.job? (.driver j) = c.stage.job? j := State.job?_driver (State.core?_of_connection? hc)
  have entered (u : State) (stage : Stage) (i : Nat) : (u.enter j stage).link? i = u.link? i :=
    u.link?_modifyConnection j i _
  cases h with
  | turned idle same turn => exact .nothing turn.links.2 fun i => wire_of_turned turn
  | waited at_job polling pending =>
    exact .polls (under.trans at_job) polling (entered _ _) fun i => Event.wire_putEvents i ..
  | @wrote purpose frame call b p answer r stage polling ready turn silent =>
    have at_job : s.job? (.driver j) = some ⟨j, call, some frame⟩ := by rw [under, stage]; rfl
    refine .polls at_job polling turn.links.2 fun i => ?_
    rw [Event.wire_append, Event.wire_putEvents]
    exact (congrArg _ (wire_of_silent silent)).trans (List.append_nil _)
  | @got w call b p answer r stage polling ready turn silent =>
    have at_job : s.job? (.driver j) = some ⟨j, call, none⟩ := by rw [under, stage]; rfl
    refine .polls at_job polling turn.links.2 fun i => ?_
    rw [Event.wire_append, Event.wire_putEvents, wire_of_silent silent, List.append_nil]
  | @displaced switch previous call b p answer stage polling ready =>
    have at_job : s.job? (.driver j) = some ⟨previous.channel, call, none⟩ := by rw [under, stage]; rfl
    exact .polls at_job polling (entered _ _) fun i => Event.wire_putEvents i ..
  | @closed served call b p answer stage polling ready =>
    have at_job : s.job? (.driver j) = some ⟨j, call, none⟩ := by rw [under, stage]; rfl
    have left (u : State) (stage : Stage) (f : Connection → Connection) (i : Nat) :
        ((u.modifyConnection j f).enter j stage).link? i = u.link? i :=
      (entered _ _ i).trans (u.link?_modifyConnection j i f)
    cases served with
    | some switch =>
      exact .polls at_job polling (left _ _ _) fun i => Event.wire_putEvents i ..
    | none =>
      refine .lets_go at_job polling (fun i => ?_) fun i => Event.wire_putEvents i ..
      unfold State.afterClose
      dsimp only
      rw [State.link?_modifyLink _ j i fun l => l.close .server,
        State.link?_modifyLink _ j i fun l => l.close .server, left]
  | @registered features stage =>
    refine .nothing (fun i => ?_) fun i => wire_of_silent ?_
    · unfold State.register
      split
      · exact entered _ _ i
      · dsimp only
        split <;> exact (entered _ _ i).trans (s.link?_modifyConnection j i _)
    · unfold State.register
      split
      · rfl
      · dsimp only
        split <;> rfl
  | launched stage =>
    exact .nothing (fun i => (entered _ _ i).trans (s.link?_modifyConnection j i _)) fun i => rfl
  | deregistered stage => exact .nothing (entered s _) fun i => rfl
  | joined stage told silent => exact .nothing (entered s _) fun i => wire_of_silent silent.1
  | notified stage => exact .nothing (entered s _) fun i => rfl

/-- What a step of a message on its way does to the links. -/
lemma Sent.touched {who : Actor} {x : Sending} {result : Sending ⊕ Except Switch.Failure UInt32}
    (here : s.sending? who = some x) (h : Sent s who x t more result) : Touched s who t more := by
  cases h with
  | found find | unknown find => exact .nothing (fun i => rfl) fun i => rfl
  | begun connection encoded | refused connection encoded =>
    exact .nothing (fun i => s.link?_modifyConnection _ i _) fun i => rfl
  | waited polling pending =>
    exact .polls (job?_of_sending here) polling (fun i => rfl) fun i => Event.wire_putEvents i ..
  | wrote polling ready =>
    refine .polls (job?_of_sending here) polling (fun i => rfl) fun i => ?_
    rw [Event.wire_append, Event.wire_putEvents]
    exact List.append_nil _

/-- A change that is not seen on the links or on the wire. -/
lemma Touched.congr {who : Actor} {u : State} {seen : List Event} (h : Touched s who t more)
    (links : ∀ i, u.link? i = t.link? i) (wire : ∀ i, Event.wire i seen = Event.wire i more) :
    Touched s who u seen := by
  cases h with
  | nothing same silent =>
    exact .nothing (fun i => (links i).trans (same i)) fun i => (wire i).trans (silent i)
  | polls under polling same put =>
    exact .polls under polling (fun i => (links i).trans (same i)) fun i => (wire i).trans (put i)
  | lets_go under polling same put =>
    exact .lets_go under polling (fun i => (links i).trans (same i)) fun i => (wire i).trans (put i)

/-- What a step of a handler does to the links. -/
lemma Handled.touched {j : Nat} {c : Connection} (hc : s.connection? j = some c)
    (h : Handled s j c t more) : Touched s (.handler j) t more := by
  have told (u : State) (news : News) (i : Nat) : (u.tell j news).link? i = u.link? i :=
    u.link?_modifyConnection j i _
  have here {burst : Burst.Run Switch.Reference} {x : Sending} (was : c.news = .sending burst x) :
      s.sending? (.handler j) = some x := by
    rw [State.sending?_handler (State.core?_of_connection? hc)]
    exact congrArg News.sending? was
  cases h with
  | called was now | observed was | attempted was | completed was =>
    exact .nothing (told s _) fun i => rfl
  | sent was step | delivered was step =>
    exact (step.touched (here was)).congr (told _ _) fun i => rfl
  | aborted was step =>
    exact (step.touched (here was)).congr (told _ _) fun i =>
      (Event.wire_append i ..).trans (List.append_nil _)
  | @settled switch todo harness effect was handler settle =>
    obtain ⟨handler, stopping, news, e, -, silent, -⟩ := s.settle_effect j switch effect
    rw [e]
    exact .nothing (told { s with handler, stopping } news) fun i => wire_of_silent silent

/-- What a step of a call from outside does to the links. -/
lemma Answered.touched {k : Nat} {caller : Caller} (call : s.callers[k]? = some caller)
    (h : Answered s k caller t more) : Touched s (.caller k) t more := by
  cases h with
  | sent step | delivered step | failed step =>
    exact (step.touched (State.sending?_caller call)).congr (fun i => rfl) fun i => rfl
  | @waited hd call₀ call' b p polling pending | @closed hd call₀ b p answer polling ready =>
    have under : s.job? (.caller k) = some ⟨hd.channel, call₀, none⟩ := by
      simp [State.job?, call, Caller.job?]
    exact .polls under polling (fun i => rfl) fun i => Event.wire_putEvents i ..

/-- **Every step of a task but the accepting one is a step on the links.** -/
theorem touched_of_task {who : Actor} {d : Disposition} (h : s.step? (.run who d) = some (t, more))
    (working : who ≠ .acceptor) : Touched s who t more := by
  cases who with
  | acceptor => exact (working rfl).elim
  | driver j =>
    obtain ⟨c, hc, step⟩ := State.drive?_eq_some h
    exact step.touched hc
  | handler j =>
    obtain ⟨c, hc, step⟩ := State.handle?_eq_some h
    exact step.touched hc
  | caller k =>
    obtain ⟨caller, hk, step⟩ := State.answer?_eq_some h
    exact step.touched hk

/-- Nothing is put on the wire of a line that has not been accepted. -/
lemma Touched.wire_of_unaccepted {who : Actor} {i : Nat} (h : Touched s who t more)
    (unaccepted : s.connection? i = none) : Event.wire i more = [] := by
  have elsewhere {job : Job} {b : Connection} {p : Polled Actor}
      (polling : Polling s job.line who job.call b p) : job.line ≠ i := by
    rintro rfl
    cases unaccepted.symm.trans polling.connection
  cases h with
  | nothing links silent => exact silent i
  | polls under polling links put | lets_go under polling links put =>
    exact (put i).trans (if_neg (elsewhere polling))

end Touched

/-! ### What a step conveys -/

/-- The driving task of a line is about to read. -/
def State.Reading (s : State) (i : Nat) : Prop := ∃ w call, s.stage? i = some (.reading w call)

lemma reading_of_stage {s : State} {i : Nat} {c : Connection} (hc : s.connection? i = some c)
    {w : Awaiting} {call : Call} (stage : c.stage = .reading w call) : s.Reading i := by
  refine ⟨w, call, ?_⟩
  rw [State.stage?_of_connection? hc, stage]

section Jobs

variable {s : State} {settings : Settings} {handler : Handler} {capacity : Nat} {actions : List Action}
  {events : List Event}
  (run : (State.start settings handler capacity).steps? actions = some (s, events))
include run

/-- A task that reads or shuts a line down writes no frame there. -/
lemma unframed_of_request {who : Actor} {job : Job} (under : s.job? who = some job)
    (other : ∀ rest total, job.call.request ≠ .write rest total) : job.frame = none := by
  by_contra framed
  obtain ⟨frame, framed⟩ := Option.ne_none_iff_exists'.1 framed
  obtain ⟨pieces, part, ledger⟩ := ledger_of_steps? job.line run
  obtain ⟨rest, total, request, -⟩ := ledger.desk.owed who job frame under rfl framed
  exact other rest total request

/-- Nobody but the driving task of a line reads there, and only when it is at reading. -/
lemma reading_of_request {who : Actor} {job : Job} (under : s.job? who = some job) {size : Nat}
    (request : job.call.request = .read size) : who = .driver job.line ∧ s.Reading job.line := by
  obtain rfl := (attended_of_steps? run).1.own who job size under request
  refine ⟨rfl, ?_⟩
  have unframed := unframed_of_request run under fun rest total e => by simp [request] at e
  have closers := closers_of_steps? run
  obtain ⟨stage, hs, hj⟩ := Option.bind_eq_some_iff.1 under
  obtain ⟨session, hx⟩ := standing?_of_stage? hs
  have closes := closers.stages _ session stage hx
  have shuts {call : Call} (closes : Closes call) (e : call = job.call) : False := by
    have := closes.request.1
    rw [e, request] at this
    cases this
  cases stage with
  | writing purpose frame call =>
    rw [← Option.some.inj hj] at unframed
    cases unframed
  | reading w call => exact ⟨w, call, hs⟩
  | displacing switch previous call =>
    exact (shuts closes.2.2 (congrArg Job.call (Option.some.inj hj))).elim
  | closing served call => exact (shuts closes (congrArg Job.call (Option.some.inj hj))).elim
  | _ => cases hj

end Jobs

section Steps

variable {s t u : State} {i : Nat} {settings : Settings} {handler : Handler} {capacity : Nat}
  {actions : List Action} {events more : List Event}
  (run : (State.start settings handler capacity).steps? actions = some (s, events))
include run

/-- A poll by someone else than the driving task of a line that reads takes nothing off the line. -/
lemma conveys_of_apart {who : Actor} (apart : who ≠ .driver i ∨ ¬ s.Reading i) {job : Job}
    {b : Connection} {p : Polled Actor} (under : s.job? who = some job)
    (polling : Polling s job.line who job.call b p) :
    State.Conveys i { put := if job.line = i then p.put else [] } s (s.polled job.line b p) := by
  have nothing : (if job.line = i then p.progress.taken else []) = [] := by
    split
    next line =>
      by_contra some_taken
      obtain ⟨-, link, d, -, poll⟩ := polling
      obtain ⟨size, request⟩ := (Transport.conveys_of_poll poll).2 some_taken
      obtain ⟨own, reading⟩ := reading_of_request run under request
      rw [line] at own reading
      exact apart.elim (fun ne => ne own) fun still => still reading
    next => rfl
  have conveys := conveys_of_polling (i := i) under polling
  rwa [nothing] at conveys

/-- **What a step of a task conveys on a line**, unless it reads there: what it puts on the wire. -/
lemma conveys_of_touched {who : Actor} (apart : who ≠ .driver i ∨ ¬ s.Reading i)
    (h : Touched s who t more) : State.Conveys i { put := Event.wire i more } s t := by
  cases h with
  | nothing links silent =>
    rw [silent]
    exact conveys_of_eq (links i)
  | polls under polling links put =>
    rw [put]
    exact (conveys_of_apart run apart under polling).of_link (links i)
  | lets_go under polling links put =>
    rw [put]
    exact ((conveys_of_apart run apart under polling).andClosed _).of_link (links i)

end Steps

section Steps

variable {s t : State} {i : Nat} {more : List Event}

/-- What the world sees of the bytes that a read gave. -/
lemma bytesRead_afterRead (s : State) (i : Nat) (w : Awaiting)
    (answer : Except Transport.Failure Transport.Reply) :
    Event.bytesRead i (s.afterRead i w answer).2 = (Transport.Progress.ready answer).taken := by
  have failed (f : Switch.Failure) : Event.bytesRead i (s.fail i w f).2 = [] :=
    (untaken_of_plain (fun e he => Event.isPlain_of_isRemark ((s.fail_closes i w f).2 e he)) i).1
  unfold State.afterRead
  split
  · exact failed .peerClosed
  · simp [Event.bytesRead, Transport.Progress.taken]
  next reply ne_end ne_data =>
    cases reply with
    | data bytes => exact (ne_data bytes rfl).elim
    | written n | done => rfl
  · exact failed _

/-- What the driving task of a line conveys when it reads there. -/
lemma conveys_of_reading {c : Connection} (hc : s.connection? i = some c) {w : Awaiting} {call : Call}
    (stage : c.stage = .reading w call) {d : Disposition} (h : s.drive? i d = some (t, more)) :
    State.Conveys i { taken := Event.bytesRead i more, put := Event.wire i more } s t := by
  obtain ⟨c₁, hc₁, step⟩ := Option.bind_eq_some_iff.1 h
  obtain rfl : c = c₁ := Option.some.inj (hc.symm.trans hc₁)
  rw [stage] at step
  obtain ⟨b, p, polling, step⟩ := State.polling_of_bind step
  have under : s.job? (.driver i) = some ⟨i, call, none⟩ := by
    have at_job : s.job? (.driver i) = c.stage.job? i := State.job?_driver (State.core?_of_connection? hc)
    rw [at_job, stage]
    rfl
  have conveys := conveys_of_polling (i := i) under polling
  rw [if_pos rfl, if_pos rfl] at conveys
  have unread : Event.bytesRead i (putEvents i (.driver i) p.put) = [] :=
    (untaken_of_plain (fun e he => isPlain_of_mem_putEvents he) i).1
  have put : Event.wire i (putEvents i (.driver i) p.put) = p.put := by
    rw [Event.wire_putEvents, if_pos rfl]
  cases progress : p.progress with
  | pending call' =>
    rw [progress] at step conveys
    cases step
    rw [unread, put]
    exact conveys.of_link (State.link?_modifyConnection _ i i _)
  | ready answer =>
    rw [progress] at step conveys
    obtain ⟨rfl, rfl⟩ : ((s.polled i b p).afterRead i w answer).1 = t ∧
        putEvents i (.driver i) p.put ++ ((s.polled i b p).afterRead i w answer).2 = more :=
      Prod.ext_iff.1 (Option.some.inj step)
    rw [Event.bytesRead_append, unread, List.nil_append, bytesRead_afterRead, Event.wire_append, put,
      wire_of_silent (State.outgoing_afterRead _ i w answer), List.append_nil]
    exact conveys.of_link ((State.turned_afterRead _ i w answer).links.2 i)

/-- Nobody reads on a line but its driving task, and only when it is at reading. -/
lemma bytesRead_of_apart (orderly : s.Orderly) {a : Action} (h : s.step? a = some (t, more))
    (apart : a.task? ≠ some (.driver i) ∨ ¬ s.Reading i) : Event.bytesRead i more = [] := by
  have fed := step?_takes orderly h i
  generalize s.drawn? i a = drawn at fed
  cases fed with
  | rests same untaken | begins fresh opening untaken => exact untaken.1
  | @takes c c' _ was now takes =>
    generalize Event.bytesRead i more = read, Event.framesReceived i more = frames at takes ⊢
    cases takes with
    | read stage some_read inbound next =>
      rcases apart with other | still
      · obtain ⟨c'', hc'', -, same⟩ := connection?_of_other orderly h other was
        rw [now] at hc''
        cases hc''
        rw [stage, next] at same
        cases same
      · exact (still (reading_of_stage was stage)).elim
    | _ => rfl

/-- What the accepting task conveys: nothing, and it puts nothing on the wire. -/
lemma conveys_of_accept {d : Disposition} (h : s.accept? d = some (t, more)) :
    State.Conveys i {} s t ∧ Event.wire i more = [] := by
  have lost : State.Conveys i {} s s.loseFirst := by
    unfold State.loseFirst
    split
    · exact conveys_of_eq rfl
    next j rest backlog => exact ((conveys_of_eq rfl).andClosed j).of_link rfl
  have closed (lines : List Nat) (u : State) (conveys : State.Conveys i {} s u) :
      State.Conveys i {} s (lines.foldl
        (fun s j => s.modifyLine j fun l => { l with link := l.link.close .server }) u) := by
    induction lines generalizing u with
    | nil => exact conveys
    | cons j rest ih => exact ih _ (conveys.andClosed j)
  cases accept?_admitted h with
  | waits | resumes | leaves => exact ⟨conveys_of_eq rfl, rfl⟩
  | takes acceptor calm backlog =>
    refine ⟨conveys_of_eq (link?_acceptFirst s i), ?_⟩
    unfold State.acceptFirst
    rw [backlog]
    rfl
  | @fails call e operation started lose acceptor calm =>
    cases lose with
    | true => exact ⟨lost.of_link rfl, rfl⟩
    | false => exact ⟨conveys_of_eq rfl, rfl⟩
  | ends acceptor done => exact ⟨(closed s.backlog s (conveys_of_eq rfl)).of_link rfl, rfl⟩

/-- One link becomes another one. -/
lemma conveys_of_setLink {j : Nat} {line : Line} (hline : s.lines[j]? = some line) {link : Link}
    {x : Traffic} (away : j ≠ i → x = {}) (conveys : j = i → line.link.Conveys x (s.Shuts i) link) :
    State.Conveys i x s (s.modifyLine j fun l => { l with link }) := by
  intro l hl
  rw [s.link?_modifyLink j i fun _ => link]
  split
  next own =>
    subst own
    have here : s.link? j = some line.link := by simp [State.link?, hline]
    obtain rfl : line.link = l := Option.some.inj (here.symm.trans hl)
    exact ⟨link, by rw [hl]; rfl, conveys rfl⟩
  next ne =>
    rw [away ne]
    exact ⟨l, hl, .rfl⟩

/-- A change of one link that leaves what has arrived alone. -/
lemma conveys_of_modifyLink (j : Nat) {f : Link → Link}
    (same : ∀ l : Link, l.Conveys {} (s.Shuts i) (f l)) :
    State.Conveys i {} s (s.modifyLine j fun l => { l with link := f l.link }) := by
  intro l hl
  rw [s.link?_modifyLink j i f]
  split
  · exact ⟨f l, by rw [hl]; rfl, same l⟩
  · exact ⟨l, hl, .rfl⟩

/-- A line comes into being when a switch connects, and nothing has arrived on it then. -/
lemma link?_of_fresh {a : Action} (h : s.step? a = some (t, more)) (fresh : s.link? i = none) :
    ∀ l, t.link? i = some l → l = { capacity := s.capacity } := by
  have beyond : s.lines.length ≤ i := List.getElem?_eq_none_iff.1 (Option.map_eq_none_iff.1 fresh)
  -- No other step makes a line.
  have absent (length : t.lines.length = s.lines.length) :
      ∀ l, t.link? i = some l → l = { capacity := s.capacity } := by
    intro l hl
    obtain ⟨line, hline, -⟩ := Option.map_eq_some_iff.1 hl
    rw [List.getElem?_eq_none (length ▸ beyond)] at hline
    cases hline
  cases State.step?_moved h with
  | drove hc step => exact absent step.surrounded.length
  | told hc step => exact absent step.surrounded.length
  | answered call step => exact absent step.surrounded.length
  | accepted acceptor backlog =>
    intro l hl
    rw [link?_acceptFirst, fresh] at hl
    cases hl
  | called call =>
    obtain ⟨caller, rfl, -⟩ := State.call?_eq_some call
    exact absent rfl
  | connected going =>
    intro l hl
    obtain ⟨line, hline, rfl⟩ := Option.map_eq_some_iff.1 hl
    rw [List.getElem?_append_right beyond] at hline
    rw [List.mem_singleton.1 (List.mem_of_getElem? hline)]
  | aside world task silent quiet => exact absent world.length

/-- What the surroundings of the tasks convey: what a switch sends, and what it reads. -/
lemma conveys_of_world {a : Action} (h : s.step? a = some (t, more)) (task : a.task? = none) :
    State.Conveys i { sent := a.delivered i, collected := a.collected s i } s t := by
  obtain ⟨around, -⟩ := step?_around h task
  cases around with
  | elapsed | stopped => exact conveys_of_eq rfl
  | connected going =>
    intro l hl
    obtain ⟨line, hline, rfl⟩ := Option.map_eq_some_iff.1 hl
    refine ⟨line.link, ?_, .rfl⟩
    unfold State.link?
    rw [List.getElem?_append_left (List.getElem?_eq_some_iff.1 hline).1, hline]
    rfl
  | @delivered j bytes line link hline wrote =>
    have at_line : Action.delivered i (.deliver j bytes) = if j = i then bytes else [] := rfl
    have uncollected : Action.collected s i (.deliver j bytes) = [] := rfl
    rw [at_line, uncollected]
    refine conveys_of_setLink hline (fun ne => by rw [if_neg ne]) fun own => ?_
    have whole : line.link.Conveys { sent := bytes.take bytes.length } (s.Shuts i) link :=
      .of_delivery wrote
    rw [List.take_length] at whole
    rwa [if_pos own]
  | @collected j size bytes line link hline read =>
    have here : s.link? j = some line.link := by simp [State.link?, hline]
    have undelivered : Action.delivered i (.collect j size) = [] := rfl
    have at_line : Action.collected s i (.collect j size) = if j = i then bytes else [] := by
      unfold Action.collected
      by_cases own : j = i
      · subst own
        simp only [if_pos, here, Option.bind_some, read]
      · simp only [if_neg own]
    rw [undelivered, at_line]
    refine conveys_of_setLink hline (fun ne => by rw [if_neg ne]) fun own => ?_
    rw [if_pos own]
    exact .of_collection read
  | @endedSending j =>
    exact conveys_of_modifyLink j (f := fun l => l.endWriting .client) fun l => .of_eq rfl rfl rfl
  | @left j => exact conveys_of_modifyLink j (f := fun l => l.close .client) fun l => .of_eq rfl rfl rfl
  | @reset j => exact conveys_of_modifyLink j (f := Link.reset) fun l => .of_eq rfl rfl rfl
  | @letGo j unheld =>
    exact conveys_of_modifyLink j (f := fun l => l.close .server) fun l => .of_eq rfl rfl rfl
  | called call =>
    obtain ⟨caller, rfl, -⟩ := State.call?_eq_some call
    exact conveys_of_eq rfl

end Steps

/-- What a step passes on a line: what the switch sends and reads in it, what the driving task reads and
what is put on the wire. -/
def traffic (s : State) (i : Nat) (a : Action) (more : List Event) : Traffic where
  sent := a.delivered i
  taken := Event.bytesRead i more
  put := Event.wire i more
  collected := a.collected s i

section Runs

variable {s t : State} {i : Nat} {settings : Settings} {handler : Handler} {capacity : Nat}
  {actions : List Action} {events more : List Event}
  (run : (State.start settings handler capacity).steps? actions = some (s, events))
include run

/-- **What a step conveys on a line**: what is sent arrives, what is put on the wire enters the pipe, and
what the two sides read is taken off. -/
theorem step?_conveys {a : Action} (h : s.step? a = some (t, more)) :
    State.Conveys i (traffic s i a more) s t := by
  have orderly := orderly_of_run run
  by_cases apart : a.task? = some (.driver i) ∧ s.Reading i
  · obtain ⟨own, w, call, stage⟩ := apart
    obtain ⟨d, rfl⟩ := Action.eq_run_of_task? own
    obtain ⟨c, hc, e⟩ := State.connection?_of_stage? stage
    exact conveys_of_reading hc e h
  rw [not_and_or] at apart
  unfold traffic
  rw [bytesRead_of_apart orderly h apart]
  cases a with
  | run who d =>
    have undelivered : Action.delivered i (.run who d) = [] := rfl
    have uncollected : Action.collected s i (.run who d) = [] := rfl
    have apart : who ≠ .driver i ∨ ¬ s.Reading i := apart.imp_left fun ne e => ne (congrArg some e)
    rw [undelivered, uncollected]
    cases who with
    | acceptor =>
      obtain ⟨conveys, silent⟩ := conveys_of_accept (i := i) h
      rw [silent]
      exact conveys
    | driver | handler | caller => exact conveys_of_touched run apart (touched_of_task h nofun)
  | _ =>
    obtain ⟨-, rfl⟩ := step?_around h rfl
    exact conveys_of_world h rfl

/-- Nothing passes on a line before its switch has connected. -/
lemma traffic_of_fresh {a : Action} (h : s.step? a = some (t, more)) (fresh : s.link? i = none) :
    traffic s i a more = {} := by
  have orderly := orderly_of_run run
  have beyond : s.lines.length ≤ i := List.getElem?_eq_none_iff.1 (Option.map_eq_none_iff.1 fresh)
  have unaccepted : s.connection? i = none := by
    unfold State.connection?
    rw [List.getElem?_eq_none beyond]
    rfl
  have unsent : a.delivered i = [] := by
    cases a with
    | deliver j bytes =>
      obtain ⟨line, hline, -⟩ := Option.bind_eq_some_iff.1 h
      refine if_neg ?_
      rintro rfl
      rw [List.getElem?_eq_none beyond] at hline
      cases hline
    | _ => rfl
  have unread : Event.bytesRead i more = [] := by
    refine bytesRead_of_apart orderly h (.inr ?_)
    rintro ⟨w, call, stage⟩
    unfold State.stage? State.core? at stage
    rw [unaccepted] at stage
    cases stage
  have unwritten : Event.wire i more = [] := by
    cases a with
    | run who d =>
      cases who with
      | acceptor => exact (conveys_of_accept h).2
      | driver | handler | caller => exact (touched_of_task h nofun).wire_of_unaccepted unaccepted
    | _ =>
      obtain ⟨-, rfl⟩ := step?_around h rfl
      rfl
  have uncollected : a.collected s i = [] := by
    cases a with
    | collect j size =>
      unfold Action.collected
      rw [fresh]
      exact ite_self _
    | _ => rfl
  unfold traffic
  rw [unsent, unread, unwritten, uncollected]

end Runs

/-! ### What arrives in a run -/

/-- What is said of a run from `start` to `s` about a line: the bytes that its switch sent have been read
or have arrived, and so have those that were put on its wire. -/
@[mk_iff passed_iff]
structure Passed (start : State) (i : Nat) (actions : List Action) (s : State) (events : List Event) :
    Prop where
  sent : delivered i actions =
    Event.bytesRead i events ++ ((s.link? i).map fun l => l.server.arrived).getD []
  written : Event.wire i events =
    collected i start actions ++ ((s.link? i).map fun l => l.client.arrived).getD []

/-- A driving task that receives nothing more never does again. -/
lemma isOver_step {s t : State} {i : Nat} {more : List Event} (orderly : s.Orderly) {a : Action}
    (h : s.step? a = some (t, more)) {stage : Stage} (hs : s.stage? i = some stage)
    (finished : stage.isOver = true) : ∃ stage', t.stage? i = some stage' ∧ stage'.isOver = true := by
  obtain ⟨c, hc, rfl⟩ := State.connection?_of_stage? hs
  suffices next : ∃ c', t.connection? i = some c' ∧ c'.stage.isOver = true by
    obtain ⟨c', hc', finished'⟩ := next
    exact ⟨c'.stage, State.stage?_of_connection? hc', finished'⟩
  have fed := step?_takes orderly h i
  generalize s.drawn? i a = drawn at fed
  cases fed with
  | rests same untaken =>
    have now := State.intake?_of_connection? hc
    rw [← same] at now
    obtain ⟨c', hc', e⟩ := Option.map_eq_some_iff.1 now
    have stage : c'.stage = c.stage := by simpa using congrArg (·.2.2) e
    exact ⟨c', hc', stage ▸ finished⟩
  | begins fresh =>
    rw [hc] at fresh
    cases fresh
  | takes was now takes =>
    obtain rfl := Option.some.inj (hc.symm.trans was)
    exact ⟨_, now, (Reception.takes_of_over takes finished).2.2⟩

section Runs

variable {s : State} {i : Nat} {settings : Settings} {handler : Handler} {capacity : Nat}
  {actions : List Action} {events : List Event}
  (run : (State.start settings handler capacity).steps? actions = some (s, events))
include run

/-- Nothing that passes over a line is lost and nothing is made up, in either direction. -/
theorem passed_of_steps? (i : Nat) :
    Passed (State.start settings handler capacity) i actions s events := by
  refine State.run_induction (P := Passed (State.start settings handler capacity) i) ⟨rfl, rfl⟩ ?_ run
  intro actions s before a t after before_run ⟨sent, written⟩ step
  -- What the step passes stands in for what it adds to the four streams.
  have further : delivered i (actions ++ [a]) = delivered i actions ++ a.delivered i := by
    simp [delivered]
  simp only [passed_iff, further, sent, collected_concat before_run, Event.bytesRead_append,
    Event.wire_append, written, List.append_assoc, List.append_cancel_left_eq]
  cases hl : s.link? i with
  | none =>
    obtain ⟨unsent, unread, unwritten, uncollected⟩ :=
      Traffic.mk.inj (traffic_of_fresh before_run step hl)
    rw [unsent, unread, unwritten, uncollected]
    cases hl' : t.link? i with
    | none => exact ⟨rfl, rfl⟩
    | some l =>
      cases link?_of_fresh step hl l hl'
      exact ⟨rfl, rfl⟩
  | some l =>
    obtain ⟨l', hl', conveys⟩ := step?_conveys before_run step l hl
    rw [hl']
    exact ⟨conveys.arrived, conveys.entered⟩

/-- **The bytes sent on a line** are those that were read, and then those that have arrived. -/
theorem delivered_of_steps? (i : Nat) :
    delivered i actions =
      Event.bytesRead i events ++ ((s.link? i).map fun l => l.server.arrived).getD [] :=
  (passed_of_steps? run i).sent

/-- **The bytes put on the wire of a line** are those that the switch has read, and then those that
have arrived there. -/
theorem collected_of_steps? (i : Nat) :
    Event.wire i events = collected i (State.start settings handler capacity) actions ++
      ((s.link? i).map fun l => l.client.arrived).getD [] :=
  (passed_of_steps? run i).written

/-- A shutdown that is under way closes its line. -/
lemma closing?_of_shutdown {who : Actor} {job : Job} (under : s.job? who = some job)
    {direction : Transport.Direction} (request : job.call.request = .shutdown direction) :
    s.closing? who = some (job.line, job.call) := by
  have unframed := unframed_of_request run under fun rest total e => by simp [request] at e
  cases who with
  | acceptor => cases under
  | driver j =>
    obtain ⟨stage, hs, hj⟩ := Option.bind_eq_some_iff.1 under
    show (s.stage? j).bind (Stage.closing? j) = _
    rw [hs, Option.bind_some]
    cases stage with
    | writing purpose frame call =>
      cases hj
      cases unframed
    | reading w call =>
      cases hj
      obtain ⟨core, hcore, reading⟩ := Option.map_eq_some_iff.1 hs
      obtain ⟨c, hc, rfl⟩ := Option.map_eq_some_iff.1 hcore
      have reads := ((attended_of_steps? run).2 j c hc w call reading).2
      cases reads.symm.trans request
    | displacing | closing =>
      cases hj
      rfl
    | _ => cases hj
  | handler j =>
    obtain ⟨news, -, hj⟩ := Option.bind_eq_some_iff.1 under
    obtain ⟨x, -, hj⟩ := Option.bind_eq_some_iff.1 hj
    cases x <;> cases hj
    cases unframed
  | caller k =>
    obtain ⟨caller, hk, hj⟩ := Option.bind_eq_some_iff.1 under
    show s.callers[k]?.bind Caller.closing? = _
    rw [hk, Option.bind_some]
    cases caller with
    | sending x =>
      cases x <;> cases hj
      cases unframed
    | closing h call =>
      cases hj
      rfl
    | _ => cases hj

/-- **Nobody but its driving task is at work on a line whose switch is not known**, and that shuts the
line down only once it has given the handshake up. -/
theorem alone_of_unknown (unknown : s.datapath? i = none) {who : Actor} {job : Job}
    (under : s.job? who = some job) (line : job.line = i) : who = .driver i ∧
      ∀ direction, job.call.request = .shutdown direction →
        ∃ call, s.stage? i = some (.closing none call) := by
  subst line
  have unheld (k : Handle) (known : s.knows k = true) (channel : k.channel = job.line) : False := by
    obtain ⟨c, hc⟩ := connection?_of_knows known
    rw [channel] at hc
    refine datapath_of_knows known channel hc ?_
    rw [← unknown]
    unfold State.datapath?
    rw [hc]
    rfl
  cases framed : job.frame with
  | some frame =>
    obtain ⟨pieces, part, ledger⟩ := ledger_of_steps? job.line run
    obtain ⟨rest, total, request, -⟩ := ledger.desk.owed who job frame under rfl framed
    rcases writer_of_frame under framed with ⟨own, -⟩ | ⟨k, call, hx, channel⟩
    · exact ⟨own, fun direction e => by simp [request] at e⟩
    · exact (unheld k (directed_of_steps? run who _ hx) channel).elim
  | none =>
    cases request : job.call.request with
    | read size => exact ⟨(reading_of_request run under request).1, fun direction e => by cases e⟩
    | write rest total =>
      obtain ⟨pieces, part, ledger⟩ := ledger_of_steps? job.line run
      exact (ledger.desk.others who job under rfl framed rest total request).elim
    | shutdown direction =>
      have closing := closing?_of_shutdown run under request
      rcases ((closers_of_steps? run).job (standing_of_steps? run) closing).2.2 with
        ⟨own, stage⟩ | ⟨⟨k, known, channel⟩, -⟩
      · exact ⟨own, fun _ _ => ⟨_, stage⟩⟩
      · exact (unheld k known channel).elim

/-- **Before its switch is known a line is heard** until the handshake is given up: its reading has not
been shut down. -/
theorem heard_of_unknown (unknown : s.datapath? i = none)
    (going : ∀ stage, s.stage? i = some stage → stage.isOver = false) {l : Link}
    (hl : s.link? i = some l) : l.server.readingEnded = false := by
  refine State.run_induction (P := fun _ s _ => s.datapath? i = none →
    (∀ stage, s.stage? i = some stage → stage.isOver = false) →
      ∀ l, s.link? i = some l → l.server.readingEnded = false) ?_ ?_ run unknown going l hl
  · intro _ _ l hl
    cases hl
  intro actions s before a t after before_run ih step unknown going l' hl'
  cases hl : s.link? i with
  | none =>
    rw [link?_of_fresh step hl l' hl']
  | some l =>
    have orderly := orderly_of_run before_run
    have st := standing_of_steps? before_run
    have unknown' : s.datapath? i = none := by
      cases known : s.datapath? i with
      | none => rfl
      | some d =>
        obtain ⟨h, previous, rfl, -, he⟩ := registered_of_datapath before_run known
        have further := State.steps?_concat.2 ⟨s, before, after, before_run, step, rfl⟩
        exact (datapath_of_registered further (List.mem_append_left _ he) unknown).elim
    have going' (stage : Stage) (hs : s.stage? i = some stage) : stage.isOver = false := by
      cases finished : stage.isOver with
      | false => rfl
      | true =>
        obtain ⟨stage', hs', finished'⟩ := isOver_step orderly step hs finished
        exact finished'.symm.trans (going stage' hs')
    obtain ⟨l'', hl'', conveys⟩ := step?_conveys before_run step l hl
    rw [hl'] at hl''
    cases hl''
    rcases conveys.reading with same | ⟨who, job, direction, under, line, request⟩
    · exact same.trans (ih unknown' going' l hl)
    · obtain ⟨-, shuts⟩ := alone_of_unknown before_run unknown' under line
      obtain ⟨call, stage⟩ := shuts direction request
      cases going' _ stage

end Runs

end FlowBurst.Controller
