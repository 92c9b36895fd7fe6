import FlowBurst.Proofs.Answers

/-!
# The service of a switch

Once its switch is registered, a driving task answers the echo requests of that, one after another and
whatever others write in between, and says nothing else. No frame makes it stop: it stops when the bytes
at hand are no frame, when the stream ends or a read of it fails, and when the controller stops. Main
statement: `echoes_answered`.
-/

namespace FlowBurst.Controller

open FlowBurst.OpenFlow (Frame)
open FlowBurst.Switch (Failure Handle Reference)
open FlowBurst.Transport (Call Disposition Link OsError)

/-! ### Conversations with a registered switch -/

/-- Whether the switch of a line has been registered by some part of its conversation. -/
def Part.isServed : Part → Bool
  | entering | awaiting (.service _) | finished => true
  | _ => false

/-- **Whoever is registered is answered its echo requests**, and told nothing else. -/
theorem Converses.echoes {xid : UInt32} {p p' : Part} {received said : List Frame}
    (h : Converses xid p received said p') (served : p.isServed = true) :
    p'.isServed = true ∧ said = echoes received := by
  cases h with
  | rests => exact ⟨served, rfl⟩
  | serves | ends => exact ⟨rfl, rfl⟩
  | greets | enters => cases served
  | hears w frame =>
    cases w with
    | hello | features => cases served
    | service switch =>
      rw [Awaiting.respond_service]
      refine ⟨rfl, ?_⟩
      cases reply : echo? frame <;> simp [Controller.echoes, reply]

/-- A connection that is past its handshake serves its switch, or is over. -/
lemma Stage.isServed_part {stage : Stage} (met : stage.phase ≠ .arriving) :
    stage.part.isServed = true := by
  have served {w : Awaiting} (met : Phase.of w.served ≠ .arriving) :
      (Part.awaiting w).isServed = true := by
    cases w with
    | service switch => rfl
    | hello | features => exact (met rfl).elim
  cases stage with
  | opening | registering features => exact (met rfl).elim
  | deciding w | reading w call => exact served met
  | writing purpose frame call =>
    cases purpose with
    | echo w => exact served met
    | greeting | rejection version | featuresRequest => exact (met rfl).elim
  | _ => rfl

/-! ### The end of a service -/

/-- **Why a driving task stops to serve its switch**: the bytes at hand are no frame, the stream is at
its end, a read fails, or the controller stops. -/
inductive Ceases (s : State) (i : Nat) : Failure → Prop
  | refused {c : Connection} {e : OpenFlow.FrameError} {rest : List UInt8}
      (connection : s.connection? i = some c)
      (decoded : Frame.decode s.settings.maxFrameLength c.inbound = (.error e, rest)) :
      Ceases s i (.frame e)
  | closed {l : Link} (line : s.link? i = some l) (dry : l.server.arrived = [])
      (ended : l.server.readingEnded = true ∨ l.client.writingEnded = true) : Ceases s i .peerClosed
  | failed (e : OsError) : Ceases s i (.transport (.system .read e))
  | cancelled (stopping : s.stopping = true) : Ceases s i (.transport ⟨.read, .cancelled⟩)

section Ceases

variable {s t : State} {i : Nat} {c : Connection} {switch : Reference} {d : Disposition}
  {more : List Event}

/-- Nothing is read where nothing has arrived and no more will come. -/
lemma eof_of_read? {l l' : Link} {size : Nat} (some_size : size ≠ 0)
    (read : l.read? .server size = some (.ok [], l')) :
    l.server.arrived = [] ∧ (l.server.readingEnded = true ∨ l.client.writingEnded = true) := by
  generalize taken : (.ok [] : Except Transport.OsError (List UInt8)) = answer at read
  cases Link.read?_reads read with
  | took left =>
    have none_taken : l.server.arrived.take size = [] := (Except.ok.inj taken).symm
    exact (left ((List.take_eq_nil_iff.1 none_taken).resolve_left some_size)).elim
  | reset dry reset => cases taken
  | ended dry ended => exact ⟨dry, ended⟩

/-- Why a driving task stops that looks at the bytes at hand. -/
lemma ceases_of_decide (hc : s.connection? i = some c) (stage : c.stage = .deciding (.service switch))
    (finished : (s.decide i c (.service switch)).1.part i = .finished) :
    ∃ f, drawnOfDecoding (Frame.decode s.settings.maxFrameLength c.inbound).1 = some (.error f) ∧
      Ceases s i f := by
  obtain ⟨said, part, ⟨c', hc', rfl, -⟩, converses⟩ := State.answers_decide hc stage
  obtain ⟨_, -, takes, -⟩ := State.decide_takes hc stage
  have last : c'.stage.part = .finished := (State.part_of_connection hc').symm.trans finished
  rw [takes.frames_eq, stage] at converses
  rcases decoded : Frame.decode s.settings.maxFrameLength c.inbound with ⟨e | _ | frame, rest⟩
  · exact ⟨.frame e, rfl, .refused hc decoded⟩
  · have left : (s.modifyConnection i fun c => { c with inbound := rest }).connection? i =
        some { c with inbound := rest } := by simp [hc]
    unfold State.decide at hc'
    rw [decoded] at hc'
    rw [← Option.some.inj ((State.connection?_enter left _).symm.trans hc')] at last
    cases last
  · rw [decoded, last] at converses
    have same := converses.eq_respond
    rw [Awaiting.respond_service] at same
    cases same

/-- Why a driving task stops that is done with a read. -/
lemma ceases_of_fetch {u : State} {l l' : Link} {call : Call} {size : Nat} (hl : s.link? i = some l)
    (hc : u.connection? i = some c) (limits : call.limits = (Awaiting.service switch).limits c)
    (some_size : size ≠ 0) {answer : Except Transport.Failure Transport.Reply}
    (fetches : Call.Fetches s.moment .server call size l l' answer)
    (finished : (u.afterRead i (.service switch) answer).1.part i = .finished) :
    ∃ f, drawnOfRead answer = some (.error f) ∧ Ceases s i f := by
  cases fetches with
  | @stopped cause stop =>
    have stop := Transport.Limits.cause_of_stop stop
    rw [limits] at stop
    obtain ⟨rfl, passed⟩ | ⟨rfl, raised⟩ := stop
    · cases passed
    · exact ⟨_, rfl, .cancelled raised⟩
  | failed e => exact ⟨_, rfl, .failed e⟩
  | @took got l' read =>
    cases got with
    | error e => exact ⟨_, rfl, .failed e⟩
    | ok bytes =>
      cases bytes with
      | nil =>
        obtain ⟨dry, ended⟩ := eof_of_read? some_size read
        exact ⟨_, rfl, .closed hl dry ended⟩
      | cons byte rest =>
        have more : (u.modifyConnection i
            fun c => { c with inbound := c.inbound ++ byte :: rest }).connection? i =
              some { c with inbound := c.inbound ++ byte :: rest } := by simp [hc]
        rw [show Call.readAnswer (.ok (byte :: rest)) = .ok (.data (byte :: rest)) from rfl,
          Unhindered.afterRead_of_data (by simp),
          State.part_of_connection (State.connection?_enter more _)] at finished
        cases finished

/-- A driving task that stops when it has written a reply stops because that failed. -/
lemma failed_of_afterWrite {u : State} (hc : u.connection? i = some c)
    {answer : Except Transport.Failure Transport.Reply}
    (finished : (u.afterWrite i (.echo (.service switch)) (answer.map fun _ => ())).1.part i =
      .finished) : ∃ f, failureOf answer = some f := by
  cases answer with
  | error f => exact ⟨f, rfl⟩
  | ok reply =>
    have next : (u.enter i (.deciding (.service switch))).part i = .finished := finished
    rw [State.part_of_connection (State.connection?_enter hc _)] at next
    cases next

/-- **Nothing else ends the service of a switch**, unless a write fails. -/
theorem ceases_of_step (orderly : s.Orderly) (reads : ∀ c, s.connection? i = some c → c.Reads)
    {a : Action} (h : s.step? a = some (t, more)) (unfailed : Unfailed i more)
    (serving : s.part i = .awaiting (.service switch)) (changed : t.part i ≠ s.part i) :
    t.part i = .finished ∧ ∃ f, s.drawn? i a = some (.error f) ∧ Ceases s i f := by
  have own : a.task? = some (.driver i) := by
    refine by_contra fun other => changed ?_
    exact (part_of_other orderly h other).1
  obtain ⟨d, rfl⟩ := Action.eq_run_of_task? own
  have finished : t.part i = .finished := by
    have converses := step?_converses orderly h i
    rw [serving] at converses changed
    generalize t.part i = part, Event.framesReceived i more = received,
      Event.framesBegun i (.driver i) more = said at converses changed
    cases converses with
    | rests => exact (changed rfl).elim
    | hears w frame =>
      rw [Awaiting.respond_service] at changed
      exact (changed rfl).elim
    | ends => rfl
  refine ⟨finished, ?_⟩
  rw [show s.drawn? i (.run (.driver i) d) = s.draws? i d from if_pos rfl]
  obtain ⟨c, hc, step⟩ := State.drive?_stepped h
  rw [State.part_of_connection hc] at serving changed
  cases step with
  | waited under poll =>
    obtain ⟨locks, bytes, polled, rfl⟩ := State.connection?_of_poll? poll hc
    rw [State.part_of_connection (State.connection?_enter polled _)] at changed
    exact (changed (Stage.part_withCall _ c.stage)).elim
  | @wrote purpose frame call u put answer r stage poll next =>
    subst next
    obtain ⟨locks, bytes, polled, rfl⟩ := State.connection?_of_poll? poll hc
    obtain rfl : purpose = .echo (.service switch) := by
      rw [stage] at serving
      cases purpose <;> cases serving
      rfl
    obtain ⟨f, failed⟩ := failed_of_afterWrite polled finished
    exact (unfailed (.driver i) frame f (by simp [failed])).elim
  | @decided w r stage next =>
    subst next
    obtain rfl : w = .service switch := by
      rw [stage] at serving
      exact Part.awaiting.inj serving
    rw [State.draws?_of_deciding hc stage]
    exact ceases_of_decide hc stage finished
  | @got w call u put answer r stage poll next =>
    subst next
    obtain rfl : w = .service switch := by
      rw [stage] at serving
      exact Part.awaiting.inj serving
    obtain ⟨locks, bytes, polled, rfl⟩ := State.connection?_of_poll? poll hc
    obtain ⟨link, b, p, hl, -, attempt, -, -, ready⟩ := State.poll?_eq_some poll
    obtain ⟨limits, request⟩ := reads c hc _ call stage
    rw [State.draws?_of_ready hc stage poll]
    exact ceases_of_fetch hl polled limits (by decide)
      (Call.fetches_of_ready request attempt ready.symm) finished
  | opened stage | registered stage | displaced stage | launched stage | closed stage
  | deregistered stage | joined stage | notified stage =>
    rw [stage] at serving
    cases serving

/-- No frame ends the service of a switch. -/
lemma part_of_heard (orderly : s.Orderly) {a : Action} (h : s.step? a = some (t, more)) {frame : Frame}
    (drawn : s.drawn? i a = some (.ok frame)) (served : (s.part i).isServed = true) :
    t.part i = s.part i := by
  have received : Event.framesReceived i more = [frame] := by
    have fed := step?_takes orderly h i
    rw [drawn] at fed
    cases fed with
    | takes was now takes => exact takes.frames_eq
  have converses := step?_converses orderly h i
  rw [received] at converses
  generalize s.part i = part, Event.framesBegun i (.driver i) more = said,
    t.part i = part' at converses served ⊢
  cases converses with
  | hears w =>
    cases w with
    | hello | features => cases served
    | service switch => rw [Awaiting.respond_service]

end Ceases

/-! ### The service in a run -/

section Service

variable {s t : State} {i : Nat} {settings : Settings} {handler : Handler} {capacity : Nat}
  {actions : List Action} {events more : List Event}
  (run : (State.start settings handler capacity).steps? actions = some (s, events))
include run

/-- The switch of a line is served once it is registered, until that is over. -/
lemma isServed_of_registered {h : Handle} {previous : Option Handle}
    (he : Event.registered h previous ∈ events) : (s.part h.channel).isServed = true := by
  have known := datapath_of_registered run he
  rw [datapath?_of_standing?] at known
  obtain ⟨d, known⟩ := Option.ne_none_iff_exists'.1 known
  obtain ⟨⟨session, stage⟩, hx, datapath⟩ := Option.bind_eq_some_iff.1 known
  obtain ⟨c, hc, -, rfl⟩ := connection?_of_standing? hx
  rw [State.part_of_connection hc]
  refine Stage.isServed_part fun arriving => ?_
  cases ((standing_of_steps? run).datapath_of_arriving hx arriving).symm.trans datapath

/-- Every frame that a line received was decoded, within the limit of the controller. -/
lemma decoded_of_received {frame : Frame} (he : frame ∈ Event.framesReceived i events) :
    ∃ buffer rest, Frame.decode settings.maxFrameLength buffer = (.ok (some frame), rest) := by
  refine State.run_induction (P := fun _ _ events => ∀ frame ∈ Event.framesReceived i events,
    ∃ buffer rest, Frame.decode settings.maxFrameLength buffer = (.ok (some frame), rest))
    ?_ ?_ run frame he
  · rintro frame ⟨⟩
  · intro actions s before a t after before_run ih step frame member
    rw [Event.framesReceived_append] at member
    rcases List.mem_append.1 member with old | new
    · exact ih frame old
    · have fed := step?_takes (orderly_of_run before_run) step i
      generalize s.drawn? i a = drawn at fed
      cases fed with
      | rests same untaken | begins fresh opening untaken =>
        rw [untaken.2] at new
        cases new
      | @takes c c' _ was now takes =>
        rw [settings_of_steps? before_run] at takes
        generalize Event.bytesRead i after = read, Event.framesReceived i after = frames at takes new
        cases takes with
        | took stage decoded still heeds =>
          obtain rfl := List.mem_singleton.1 new
          exact ⟨_, _, decoded⟩
        | rests | wants | refused | read | ended | failed => cases new

omit run in
/-- In the step in which it registers its switch a driving task says and hears nothing. -/
lemma quiet_of_registering (orderly : s.Orderly) {a : Action} (step : s.step? a = some (t, more))
    {h : Handle} {previous : Option Handle} (he : Event.registered h previous ∈ more) :
    s.writing h.channel (.driver h.channel) = [] ∧ Event.framesReceived h.channel more = [] ∧
      Event.framesBegun h.channel (.driver h.channel) more = [] ∧
        Event.endedBy h.channel (.driver h.channel) more = [] := by
  obtain ⟨session, features, standing, -⟩ := (step?_stir orderly step).reported he
  obtain ⟨c, hc, -, stage⟩ := connection?_of_standing? standing
  have idle : s.writing h.channel (.driver h.channel) = [] := by
    apply State.writing_of_idle
    rw [State.job?_driver (State.core?_of_connection? hc), show c.core.2.1 = _ from stage]
    rfl
  have quiet : Event.framesReceived h.channel more = [] ∧
      Event.framesBegun h.channel (.driver h.channel) more = [] := by
    have converses := step?_converses orderly step h.channel
    rw [State.part_of_connection hc, stage] at converses
    generalize Event.framesReceived h.channel more = received,
      Event.framesBegun h.channel (.driver h.channel) more = said, t.part h.channel = part at converses
    cases converses <;> exact ⟨rfl, rfl⟩
  have calls : s.writing h.channel (.driver h.channel) ++ _ = _ ++ _ := calls_of_step orderly step
  rw [idle, quiet.2] at calls
  exact ⟨idle, quiet.1, quiet.2, (List.append_eq_nil_iff.1 calls.symm).1⟩

/-- **From its registration on a switch is told the replies to its echo requests**, and nothing else by
its driving task. -/
theorem said_of_registered {h : Handle} {previous : Option Handle} {first later : List Event}
    (split : events = first ++ .registered h previous :: later) :
    Event.framesBegun h.channel (.driver h.channel) later =
      echoes (Event.framesReceived h.channel later) := by
  refine State.run_induction (P := fun _ _ events => ∀ later,
    events = first ++ .registered h previous :: later →
      Event.framesBegun h.channel (.driver h.channel) later =
        echoes (Event.framesReceived h.channel later)) ?_ ?_ run later split
  · intro later split
    simp at split
  intro actions s before a t after before_run ih step later split
  have orderly := orderly_of_run before_run
  rcases State.split_append split with ⟨new, rfl, rfl⟩ | ⟨old, rfl, rfl⟩
  · have he : Event.registered h previous ∈ new ++ .registered h previous :: later := by simp
    obtain ⟨-, unheard, unsaid, -⟩ := quiet_of_registering orderly step he
    rw [List.append_cons, Event.framesReceived_append] at unheard
    rw [List.append_cons, Event.framesBegun_append] at unsaid
    rw [(List.append_eq_nil_iff.1 unheard).2, (List.append_eq_nil_iff.1 unsaid).2]
    rfl
  · have served := isServed_of_registered before_run
      (List.mem_append_right first (List.mem_cons_self (l := old)))
    rw [Event.framesBegun_append, Event.framesReceived_append, echoes_append, ih old rfl,
      ((step?_converses orderly step h.channel).echoes served).2]

/-- Whoever registers its switch has written every frame that it has begun. -/
lemma settled_of_registered {h : Handle} {previous : Option Handle} {first later : List Event}
    (split : events = first ++ .registered h previous :: later) :
    Event.framesBegun h.channel (.driver h.channel) first =
      Event.endedBy h.channel (.driver h.channel) first := by
  subst split
  obtain ⟨earlier, u, before, a, v, new, after, later', before_run, step, rfl, -⟩ :=
    State.step_of_event run
  have he : Event.registered h previous ∈ new ++ .registered h previous :: after := by simp
  obtain ⟨idle, -, unsaid, unended⟩ := quiet_of_registering (orderly_of_run before_run) step he
  rw [Event.framesBegun_append] at unsaid
  rw [Event.endedBy_append] at unended
  rw [Event.framesBegun_append, Event.endedBy_append, (List.append_eq_nil_iff.1 unsaid).1,
    (List.append_eq_nil_iff.1 unended).1, calls_of_steps? h.channel (.driver h.channel) before_run, idle,
    List.append_nil]

end Service

/-- **What a driving task does for its switch** from when that is registered, as long as no write on the
line fails. -/
structure EchoService (s : State) (i : Nat) (later : List Event) : Prop where
  /-- It writes one reply for each echo request, in the order in which they were received, and nothing
  else. It may still be at the last one. -/
  order : ((Event.framesWritten i later).filter (·.1 = .driver i)).map (·.2) ++
    s.writing i (.driver i) = echoes (Event.framesReceived i later)
  /-- Every request has been answered by the time that it turns to the next frame. -/
  settled : ∀ c, s.connection? i = some c → c.stage.receiving? ≠ none → s.writing i (.driver i) = []
  /-- A reply is of the version of the controller, and can be encoded. -/
  replies : ∀ reply ∈ echoes (Event.framesReceived i later),
    reply.version = 4 ∧ reply.encode = .ok reply.bytes
  /-- No frame ends the service. -/
  heeds : ∀ a t more frame, s.step? a = some (t, more) → s.drawn? i a = some (.ok frame) →
    t.part i = s.part i
  /-- It ends only if the bytes at hand are no frame, the stream is at its end, a read fails, or the
  controller stops. -/
  ends : ∀ switch a t more, s.part i = .awaiting (.service switch) → s.step? a = some (t, more) →
    Unfailed i more → t.part i ≠ s.part i →
      t.part i = .finished ∧ ∃ f, s.drawn? i a = some (.error f) ∧ Ceases s i f

section EchoService

variable {s : State} {settings : Settings} {handler : Handler} {capacity : Nat} {actions : List Action}
  {events : List Event}

/-- A task that is to receive a frame writes none. -/
lemma writing_of_receiving {i : Nat} {c : Connection} (hc : s.connection? i = some c)
    (receiving : c.stage.receiving? ≠ none) : s.writing i (.driver i) = [] := by
  have job : s.job? (.driver i) = c.stage.job? i := State.job?_driver (State.core?_of_connection? hc)
  unfold State.writing
  rw [job]
  cases stage : c.stage <;> simp [stage, Stage.receiving?, Stage.job?] at receiving ⊢

/-- **The echo requests of a registered switch are answered.** Whatever the switch sends and whoever
writes on its line besides, its driving task writes the reply to each echo request and nothing else, as
long as no write fails. Each reply can be encoded, and no frame ends the service. -/
theorem echoes_answered
    (run : (State.start settings handler capacity).steps? actions = some (s, events)) {h : Handle}
    {previous : Option Handle} {first later : List Event}
    (registered : events = first ++ .registered h previous :: later)
    (unfailed : Unfailed h.channel events) : EchoService s h.channel later := by
  have orderly := orderly_of_run run
  have he : Event.registered h previous ∈ events := registered ▸ by simp
  have calls := calls_of_steps? h.channel (.driver h.channel) run
  refine ⟨?_, fun c hc => writing_of_receiving hc, fun reply member => ?_,
    fun a t more frame step drawn => ?_, fun switch a t more serving step => ?_⟩
  · have settled := settled_of_registered run registered
    have said := said_of_registered run registered
    subst registered
    have begun : Event.framesBegun h.channel (.driver h.channel) (.registered h previous :: later) =
        Event.framesBegun h.channel (.driver h.channel) later := rfl
    have ended : Event.endedBy h.channel (.driver h.channel) (.registered h previous :: later) =
        Event.endedBy h.channel (.driver h.channel) later := rfl
    rw [List.append_cons] at unfailed
    rw [Event.framesBegun_append, Event.endedBy_append, settled, List.append_assoc, begun, ended, said,
      unfailed.right.endedBy] at calls
    exact (List.append_cancel_left calls).symm
  · obtain ⟨frame, received, replies⟩ := List.mem_filterMap.1 member
    have version : reply.version = 4 := by
      unfold echo? at replies
      split at replies <;> cases replies
      rfl
    have before : frame ∈ Event.framesReceived h.channel events := by
      rw [registered, List.append_cons, Event.framesReceived_append]
      exact List.mem_append_right _ received
    obtain ⟨buffer, rest, decoded⟩ := decoded_of_received run before
    exact ⟨version, encode_echo decoded replies⟩
  · exact part_of_heard orderly step drawn (isServed_of_registered run he)
  · exact fun unfailed changed => ceases_of_step orderly ((attended_of_steps? run).2 h.channel) step
      unfailed serving changed

end EchoService

/-- A registered switch sends two echo requests, the second one with another version, while a caller is
in the middle of a message to it. -/
def twoRequests : List Action :=
  let requests := Frame.bytes { xid := 9, message := .echoRequest [7] } ++
    Frame.bytes { version := 1, xid := 10, message := .echoRequest [] }
  arrival 0 5 ++ ([.go (.driver 0), .deliver 0 requests,
    .call (.send (.datapath ⟨5⟩) .barrierRequest), .go (.driver 0), .go (.caller 0), .go (.caller 0),
    .run (.caller 0) (.proceed 3), .go (.driver 0), .go (.driver 0), .go (.caller 0)] : List Action) ++
    (List.replicate 3 (.go (.driver 0)) : List Action)

theorem answered_twoRequests :
    ∃ s first later, (State.start {} (.observer []) 60).steps? twoRequests =
        some (s, first ++ .registered ⟨⟨⟨5⟩, 1⟩, 0⟩ none :: later) ∧
      Unfailed 0 (first ++ .registered ⟨⟨⟨5⟩, 1⟩, 0⟩ none :: later) ∧
      (Event.framesWritten 0 later).map (·.2.xid) = [3, 9, 10] ∧ EchoService s 0 later := by
  obtain ⟨⟨s, events⟩, run⟩ := Option.isSome_iff_exists.1
    (show ((State.start {} (.observer []) 60).steps? twoRequests).isSome = true by decide +kernel)
  have seen : ((State.start {} (.observer []) 60).steps? twoRequests).all (fun r =>
      decide (r.2 = r.2.take 10 ++ .registered ⟨⟨⟨5⟩, 1⟩, 0⟩ none :: r.2.drop 11) &&
        (decide (Unfailed 0 r.2) &&
          decide ((Event.framesWritten 0 (r.2.drop 11)).map (·.2.xid) = [3, 9, 10]))) = true := by
    decide +kernel
  rw [run, Option.all_some, Bool.and_eq_true, Bool.and_eq_true, decide_eq_true_iff, decide_eq_true_iff,
    decide_eq_true_iff] at seen
  obtain ⟨registered, unfailed, xids⟩ := seen
  exact ⟨s, events.take 10, events.drop 11, registered ▸ run, registered ▸ unfailed, xids,
    echoes_answered run registered unfailed⟩

end FlowBurst.Controller
