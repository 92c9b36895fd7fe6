import FlowBurst.Proofs.Segmentation
import FlowBurst.Proofs.Speech

/-!
# What a driving task answers

A driving task holds a conversation with its switch: it greets, and then every frame that it receives
decides what it says next and what it goes on to wait for. Nothing else makes it say anything, and every
answer to a frame that was decoded can be encoded. Main statements: `drive?_converses`,
`step?_converses`.
-/

namespace FlowBurst.Controller

open FlowBurst.OpenFlow (Features Frame)
open FlowBurst.Switch (Failure Reference)
open FlowBurst.Transport (Call Disposition Limits)

/-! ### Answers -/

/-- The reply to a frame, if that is an echo request: it has the same transaction id and payload. -/
def echo? (frame : Frame) : Option Frame :=
  match frame.message with
  | .echoRequest payload => some { xid := frame.xid, message := .echoReply payload }
  | _ => none

/-- The replies to the echo requests among some frames, in order. -/
def echoes (frames : List Frame) : List Frame := frames.filterMap echo?

lemma echoes_append (first rest : List Frame) : echoes (first ++ rest) = echoes first ++ echoes rest :=
  List.filterMap_append

lemma echoes_cons (frame : Frame) (frames : List Frame) :
    echoes (frame :: frames) = (echo? frame).toList ++ echoes frames := by
  unfold echoes
  cases reply : echo? frame <;> simp [reply]

/-- The ERROR with which the controller refuses the version of a HELLO. -/
def refusal (xid : UInt32) : Frame :=
  { xid, message := .error (.helloIncompatible "openflow 1.3 required") }

/-- How far the conversation of a driving task with its switch has come. -/
inductive Part
  | silent
  | awaiting (w : Awaiting)
  /-- The switch does not speak the version of the controller. -/
  | refusing (version : UInt8)
  | reported (features : Features)
  /-- The switch is registered, and is not served yet. -/
  | entering
  | finished
  deriving DecidableEq, Repr

/-- How far a conversation has come once a task begins to write. -/
def Purpose.part : Purpose → Part
  | rejection version => .refusing version
  | purpose => .awaiting purpose.awaiting

/-- How far the conversation of a driving task at a stage has come. -/
def Stage.part : Stage → Part
  | opening => .silent
  | writing purpose _ _ => purpose.part
  | deciding w | reading w _ => .awaiting w
  | registering features => .reported features
  | displacing _ _ _ | launching _ => .entering
  | closing _ _ | deregistering _ | joining _ _ | notifying _ | ended => .finished

lemma Stage.part_withCall (call : Call) (stage : Stage) : (stage.withCall call).part = stage.part := by
  cases stage <;> rfl

/-- What a driving task answers to a frame, where it takes its transaction id from the given one on,
and how far the conversation has come then. -/
def Awaiting.respond (xid : UInt32) (w : Awaiting) (frame : Frame) : List Frame × Part :=
  match w, frame.message with
  | .hello, .hello _ =>
    if frame.version < OpenFlow.protocolVersion then
      ([refusal frame.xid], .refusing frame.version)
    else ([{ xid, message := .featuresRequest }], .awaiting .features)
  | .features, .featuresReply told => ([], .reported told)
  | .hello, .error _ | .features, .error _ => ([], .finished)
  | w, _ => ((echo? frame).toList, .awaiting w)

lemma Awaiting.respond_service (xid : UInt32) (switch : Reference) (frame : Frame) :
    Awaiting.respond xid (.service switch) frame =
      ((echo? frame).toList, .awaiting (.service switch)) := by
  unfold respond
  cases frame.message <;> rfl

/-- What a step adds to the conversation of a driving task whose next transaction id is `xid`: the frames
that it receives and those that it says. -/
inductive Converses (xid : UInt32) : Part → List Frame → List Frame → Part → Prop
  | rests {p : Part} : Converses xid p [] [] p
  | greets : Converses xid .silent [] [{ xid, message := .hello [] }] (.awaiting .hello)
  | hears (w : Awaiting) (frame : Frame) :
      Converses xid (.awaiting w) [frame] (w.respond xid frame).1 (w.respond xid frame).2
  | enters {features : Features} : Converses xid (.reported features) [] [] .entering
  | serves (switch : Reference) : Converses xid .entering [] [] (.awaiting (.service switch))
  | ends {p : Part} : Converses xid p [] [] .finished

/-- A conversation that nothing is added to is where it was, or at its end. -/
lemma Converses.goes {xid : UInt32} {p q : Part} (next : q = p ∨ q = .finished) :
    Converses xid p [] [] q := by
  rcases next with rfl | rfl
  · exact .rests
  · exact .ends

/-- Whoever awaits a frame and receives one answers that. -/
lemma Converses.eq_respond {xid : UInt32} {w : Awaiting} {frame : Frame} {said : List Frame} {p : Part}
    (h : Converses xid (.awaiting w) [frame] said p) : (said, p) = w.respond xid frame := by
  cases h
  rfl

lemma encode_of_le {frame : Frame} (fits : frame.encodedLength ≤ OpenFlow.maxFrameLength) :
    frame.encode = .ok frame.bytes := if_pos fits

lemma encode_greeting (xid : UInt32) :
    Frame.encode { xid, message := .hello [] } = .ok (Frame.bytes { xid, message := .hello [] }) :=
  encode_of_le (show 8 + 0 ≤ 65535 by omega)

lemma encode_featuresRequest (xid : UInt32) : Frame.encode { xid, message := .featuresRequest } =
    .ok (Frame.bytes { xid, message := .featuresRequest }) :=
  encode_of_le (show 8 + 0 ≤ 65535 by omega)

lemma encode_refusal (xid : UInt32) : (refusal xid).encode = .ok (refusal xid).bytes := by
  refine encode_of_le ?_
  show 8 + (4 + _) ≤ 65535
  decide +kernel

/-- **The reply to an echo request that was decoded can be encoded**, however long that is. -/
theorem encode_echo {limit : Nat} {buffer rest : List UInt8} {frame reply : Frame}
    (decoded : Frame.decode limit buffer = (.ok (some frame), rest))
    (replies : echo? frame = some reply) : reply.encode = .ok reply.bytes := by
  refine encode_of_le ?_
  have fits := Frame.encodedLength_of_decode decoded
  unfold echo? at replies
  split at replies
  next payload request =>
    cases replies
    simpa [Frame.encodedLength, request, OpenFlow.Message.bodyLength] using fits
  next => cases replies

/-! ### The driving task -/

/-- What comes of a step of the driving task of a line: what it says, and how far its conversation has
come. -/
def Answers (i : Nat) (r : State × List Event) (said : List Frame) (part : Part) : Prop :=
  ∃ c, r.1.connection? i = some c ∧ c.stage.part = part ∧ Event.framesBegun i (.driver i) r.2 = said

/-- What a task answers does not depend on what the world has seen before. -/
lemma Answers.note {i : Nat} {r : State × List Event} {said : List Frame} {part : Part}
    {seen : List Event} (h : Answers i r said part)
    (silent : Event.framesBegun i (.driver i) seen = []) : Answers i (r.1, seen ++ r.2) said part := by
  obtain ⟨c, hc, here, words⟩ := h
  refine ⟨c, hc, here, ?_⟩
  rw [Event.framesBegun_append, silent, List.nil_append]
  exact words

namespace State

section Answers

variable {s : State} {i : Nat} {b : Connection} (hb : s.connection? i = some b)
include hb

/-- A task that goes on without a word. -/
lemma answers_enter {stage : Stage} {part : Part} (next : stage.part = part) {events : List Event}
    (silent : outgoing events = []) : Answers i (s.enter i stage, events) [] part :=
  ⟨_, connection?_enter hb stage, next, framesBegun_of_silent silent⟩

lemma answers_fail (w : Awaiting) (f : Failure) : Answers i (s.fail i w f) [] .finished := by
  rw [show s.fail i w f = (s.enter i (.closing w.served (closeCall s.now)), (s.fail i w f).2) from
    Prod.ext (s.fail_closes i w f).1 rfl]
  exact answers_enter hb rfl (s.outgoing_fail i w f)

/-- A task that begins to write a frame says that. -/
lemma answers_begin (purpose : Purpose) (limits : Limits) {frame : Frame} {bytes : List UInt8}
    (encoded : frame.encode = .ok bytes) :
    Answers i (s.begin i purpose limits frame) [frame] purpose.part := by
  unfold begin
  rw [encoded]
  exact ⟨_, connection?_enter hb _, rfl, by simp [Event.framesBegun]⟩

lemma answers_answerEcho (c : Connection) (w : Awaiting) {xid : UInt32} {payload : List UInt8}
    {bytes : List UInt8} (encoded : Frame.encode { xid, message := .echoReply payload } = .ok bytes) :
    Answers i (s.answerEcho i c w xid payload) [{ xid, message := .echoReply payload }]
      (.awaiting w) :=
  answers_begin hb (.echo w) _ encoded

/-- What a driving task answers in its handshake to a frame that does not further that. -/
lemma answers_receiveAside (c : Connection) (w : Awaiting) {frame : Frame}
    (encodes : ∀ reply, echo? frame = some reply → reply.encode = .ok reply.bytes) :
    Answers i (s.receiveAside i c w frame) (echo? frame).toList
      (match frame.message with | .error _ => .finished | _ => .awaiting w) := by
  unfold receiveAside
  cases message : frame.message with
  | echoRequest payload =>
    have replies : echo? frame = some { xid := frame.xid, message := .echoReply payload } := by
      simp [echo?, message]
    rw [replies]
    exact answers_answerEcho hb c w (encodes _ replies)
  | error report =>
    have unanswered : echo? frame = none := by simp [echo?, message]
    rw [unanswered]
    obtain ⟨b', hb', finished, silent⟩ := answers_fail hb .hello
      (.unexpectedMessage (s.peer i).text w.name "error")
    exact ⟨b', hb', finished, silent⟩
  | _ =>
    have unanswered : echo? frame = none := by simp [echo?, message]
    rw [unanswered]
    exact answers_enter hb rfl rfl

/-- **What a driving task answers to a frame.** -/
theorem answers_receive (c : Connection) (w : Awaiting) {frame : Frame}
    (encodes : ∀ reply, echo? frame = some reply → reply.encode = .ok reply.bytes) :
    Answers i (s.receive i c w frame) (w.respond c.nextXid frame).1 (w.respond c.nextXid frame).2 := by
  cases w with
  | hello =>
    have aside := answers_receiveAside hb c .hello encodes
    unfold receive Awaiting.respond
    cases message : frame.message with
    | hello elements =>
      dsimp only
      split
      next old => exact answers_begin hb (.rejection frame.version) _ (encode_refusal frame.xid)
      next current =>
        have taken : (s.modifyConnection i fun c => { c with nextXid := c.nextXid + 1 }).connection? i =
            some { b with nextXid := b.nextXid + 1 } := by simp [hb]
        exact answers_begin taken .featuresRequest _ (encode_featuresRequest c.nextXid)
    | error report =>
      have unanswered : echo? frame = none := by simp [echo?, message]
      simpa [message, unanswered] using aside
    | _ => simpa [message] using aside
  | features =>
    have aside := answers_receiveAside hb c .features encodes
    unfold receive Awaiting.respond
    cases message : frame.message with
    | featuresReply told => exact answers_enter hb rfl rfl
    | error report =>
      have unanswered : echo? frame = none := by simp [echo?, message]
      simpa [message, unanswered] using aside
    | _ => simpa [message] using aside
  | service switch =>
    unfold receive Awaiting.respond
    cases message : frame.message with
    | echoRequest payload =>
      have replies : echo? frame = some { xid := frame.xid, message := .echoReply payload } := by
        simp [echo?, message]
      rw [replies]
      exact answers_answerEcho hb c (.service switch) (encodes _ replies)
    | _ =>
      have unanswered : echo? frame = none := by simp [echo?, message]
      rw [unanswered]
      exact answers_enter hb rfl rfl

/-- What a driving task does when it is done with a write. -/
lemma answers_afterWrite (purpose : Purpose) (answer : Except Transport.Failure Unit) :
    ∃ part, Answers i (s.afterWrite i purpose answer) [] part ∧
      (part = purpose.part ∨ part = .finished) := by
  unfold afterWrite
  split
  next version => exact ⟨_, answers_fail hb .hello _, .inr rfl⟩
  next accepted =>
    refine ⟨_, answers_enter hb rfl rfl, .inl ?_⟩
    cases purpose with
    | rejection version => exact (accepted version rfl).elim
    | greeting | echo | featuresRequest => rfl
  next f _ => exact ⟨_, answers_fail hb purpose.awaiting _, .inr rfl⟩

/-- What a driving task does when it is done with a read. -/
lemma answers_afterRead (w : Awaiting) (answer : Except Transport.Failure Transport.Reply) :
    ∃ part, Answers i (s.afterRead i w answer) [] part ∧ (part = .awaiting w ∨ part = .finished) := by
  unfold afterRead
  split
  next => exact ⟨_, answers_fail hb w _, .inr rfl⟩
  next bytes _ =>
    have more : (s.modifyConnection i fun c => { c with inbound := c.inbound ++ bytes }).connection? i =
        some { b with inbound := b.inbound ++ bytes } := by simp [hb]
    exact ⟨_, answers_enter more rfl rfl, .inl rfl⟩
  next => exact ⟨_, answers_enter hb rfl rfl, .inl rfl⟩
  next f => exact ⟨_, answers_fail hb w _, .inr rfl⟩

/-- What a driving task does that registers its switch. -/
lemma answers_register (d : Switch.DatapathId) :
    ∃ part, Answers i (s.register i b d) [] part ∧ (part = .entering ∨ part = .finished) := by
  unfold register
  split
  next => exact ⟨_, answers_enter hb rfl rfl, .inr rfl⟩
  next session ready =>
    have set : (s.modifyConnection i fun c => { c with session }).connection? i =
        some { b with session } := by simp [hb]
    dsimp only
    split
    · exact ⟨_, answers_enter (s := { s.modifyConnection i _ with registry := _ }) set rfl rfl,
        .inl rfl⟩
    · exact ⟨_, answers_enter (s := { s.modifyConnection i _ with registry := _ }) set rfl rfl,
        .inl rfl⟩

/-- **What a driving task answers when it looks at the bytes at hand.** -/
theorem answers_decide {w : Awaiting} (stage : b.stage = .deciding w) :
    ∃ said part, Answers i (s.decide i b w) said part ∧
      Converses b.nextXid b.stage.part (Event.framesReceived i (s.decide i b w).2) said part := by
  rcases decoded : Frame.decode s.settings.maxFrameLength b.inbound with ⟨answer, rest⟩
  have left : (s.modifyConnection i fun c => { c with inbound := rest }).connection? i =
      some { b with inbound := rest } := by simp [hb]
  have here : b.stage.part = .awaiting w := by rw [stage]; rfl
  obtain ⟨c', hc', takes, -⟩ := decide_takes hb stage
  rw [here, takes.frames_eq, decoded]
  unfold decide
  rw [decoded]
  rcases answer with e | _ | frame
  · exact ⟨[], _, answers_fail left w _, .ends⟩
  · exact ⟨[], _, answers_enter left rfl rfl, .rests⟩
  · obtain ⟨c', hc', part, said⟩ := answers_receive left b w fun _ => encode_echo decoded
    refine ⟨_, _, ⟨c', hc', part, ?_⟩, .hears w frame⟩
    simpa [Event.framesBegun] using said

end Answers

variable {s t : State} {i : Nat} {c : Connection} {events : List Event}

/-- **A step of the driving task of a line adds to its conversation** what it receives, and its answer. -/
theorem drive?_converses {d : Disposition} (h : s.drive? i d = some (t, events)) :
    ∃ c c', s.connection? i = some c ∧ t.connection? i = some c' ∧
      Converses c.nextXid c.stage.part (Event.framesReceived i events)
        (Event.framesBegun i (.driver i) events) c'.stage.part := by
  obtain ⟨c, hc, step⟩ := drive?_stepped h
  suffices converses : ∃ said part, Answers i (t, events) said part ∧
      Converses c.nextXid c.stage.part (Event.framesReceived i events) said part by
    obtain ⟨said, part, ⟨c', hc', rfl, rfl⟩, converses⟩ := converses
    exact ⟨c, c', hc, hc', converses⟩
  have unreceived (elsewhere : ∀ w, c.stage ≠ .deciding w) : Event.framesReceived i events = [] := by
    obtain ⟨c₁, c', hc₁, -, takes, -⟩ := drive?_takes h
    obtain rfl : c = c₁ := Option.some.inj (hc.symm.trans hc₁)
    exact takes.frames_eq_nil elsewhere
  have silently (elsewhere : ∀ w, c.stage ≠ .deciding w) {part : Part}
      (answers : Answers i (t, events) [] part) (goes : Converses c.nextXid c.stage.part [] [] part) :
      ∃ said part, Answers i (t, events) said part ∧
        Converses c.nextXid c.stage.part (Event.framesReceived i events) said part :=
    ⟨[], part, answers, unreceived elsewhere ▸ goes⟩
  cases step with
  | opened stage next =>
    subst next
    have taken := connection?_opened hc
    have begun := answers_begin taken .greeting
      { deadline := some (s.now + s.settings.handshakeTimeout) } (encode_greeting c.nextXid)
    rw [unreceived (by simp [stage]), stage]
    exact ⟨_, _, begun, .greets⟩
  | waited under poll =>
    obtain ⟨locks, bytes, polled, rfl⟩ := connection?_of_poll? poll hc
    refine silently (fun w stage => ?_) ⟨_, connection?_enter polled _, Stage.part_withCall _ c.stage,
      Event.framesBegun_putEvents ..⟩ .rests
    rw [stage] at under
    cases under
  | @wrote purpose frame call u put answer r stage poll next =>
    subst next
    obtain ⟨locks, bytes, polled, rfl⟩ := connection?_of_poll? poll hc
    obtain ⟨part, answers, next⟩ := answers_afterWrite polled purpose (answer.map fun _ => ())
    have ended : Event.framesBegun i (.driver i)
        [.frameEnded i (.driver i) frame (failureOf answer)] = [] := rfl
    exact silently (by simp [stage]) ((answers.note ended).note (Event.framesBegun_putEvents ..))
      (stage ▸ .goes next)
  | decided stage next =>
    subst next
    exact answers_decide hc stage
  | @got w call u put answer r stage poll next =>
    subst next
    obtain ⟨locks, bytes, polled, rfl⟩ := connection?_of_poll? poll hc
    obtain ⟨part, answers, next⟩ := answers_afterRead polled w answer
    exact silently (by simp [stage]) (answers.note (Event.framesBegun_putEvents ..))
      (stage ▸ .goes next)
  | registered stage next =>
    subst next
    obtain ⟨part, answers, next⟩ := answers_register hc _
    refine silently (by simp [stage]) answers ?_
    rw [stage]
    rcases next with rfl | rfl
    · exact .enters
    · exact .ends
  | displaced stage poll =>
    obtain ⟨locks, bytes, polled, rfl⟩ := connection?_of_poll? poll hc
    exact silently (by simp [stage])
      ⟨_, connection?_enter polled _, rfl, Event.framesBegun_putEvents ..⟩ (stage ▸ .rests)
  | @launched switch stage =>
    have told : (s.tell i (.spawned switch)).connection? i =
        some { c with news := .spawned switch } := by simp [tell, hc]
    exact silently (by simp [stage]) (answers_enter told rfl rfl) (stage ▸ .serves switch)
  | @closed served call u put answer stage poll =>
    obtain ⟨locks, bytes, polled, rfl⟩ := connection?_of_poll? poll hc
    obtain ⟨session, hc'⟩ := connection?_afterClose polled served
    exact silently (by simp [stage])
      ⟨_, hc', by cases served <;> rfl, Event.framesBegun_putEvents ..⟩ .ends
  | deregistered stage =>
    exact silently (by simp [stage]) ⟨_, connection?_enter hc (.joining _ _), rfl, rfl⟩ .ends
  | @joined switch removed events stage told =>
    have finished : (if removed then Stage.notifying switch else .ended).part = .finished := by
      cases removed <;> rfl
    have silent : Event.framesBegun i (.driver i) events = [] := by
      rcases told with ⟨-, rfl⟩ | ⟨-, rfl⟩ <;> rfl
    exact silently (by simp [stage]) ⟨_, connection?_enter hc _, finished, silent⟩ .ends
  | notified stage =>
    exact silently (by simp [stage]) ⟨_, connection?_enter hc .ended, rfl, rfl⟩ .ends

end State

/-! ### The conversation on a line -/

namespace State

/-- How far the conversation on a line has come. Before the line is accepted nobody has said a word. -/
def part (s : State) (i : Nat) : Part := ((s.connection? i).map fun c => c.stage.part).getD .silent

/-- The transaction id that is taken next on a line. -/
def nextXid (s : State) (i : Nat) : UInt32 := (s.nextXid? i).getD 1

lemma part_of_connection {s : State} {i : Nat} {c : Connection} (hc : s.connection? i = some c) :
    s.part i = c.stage.part := by
  unfold part
  rw [hc]
  rfl

end State

section Conversation

variable {s t : State} {i : Nat} {more : List Event}

open State

/-- A step of another task leaves the conversation on a line where it is. -/
lemma part_of_other (orderly : s.Orderly) {a : Action} (h : s.step? a = some (t, more))
    (other : a.task? ≠ some (.driver i)) :
    t.part i = s.part i ∧ Event.framesReceived i more = [] := by
  have undrawn : s.drawn? i a = none := by
    cases a with
    | run who d => exact if_neg fun e => other (congrArg some e)
    | _ => rfl
  have fed := step?_takes orderly h i
  rw [undrawn] at fed
  cases fed with
  | rests same untaken =>
    refine ⟨?_, untaken.2⟩
    have stages (u : State) : u.part i = ((u.intake? i).map fun x => x.2.2.part).getD .silent := by
      unfold part intake?
      rw [Option.map_map]
      rfl
    rw [stages, stages, same]
  | begins fresh opening untaken =>
    refine ⟨?_, untaken.2⟩
    obtain ⟨c, hc, e⟩ := Option.map_eq_some_iff.1 opening
    have start : c.stage = .opening := congrArg (·.2.2) e
    rw [part_of_connection hc, start]
    unfold part
    rw [fresh]
    rfl
  | takes was now takes =>
    obtain ⟨c', hc', -, stage⟩ := connection?_of_other orderly h other was
    rw [part_of_connection hc', part_of_connection was, stage]
    exact ⟨rfl, takes.frames_eq⟩

/-- **Every step of a run adds to the conversation on a line** what its driving task receives, and the
answer to that. -/
theorem step?_converses (orderly : s.Orderly) {a : Action} (h : s.step? a = some (t, more)) (i : Nat) :
    Converses (s.nextXid i) (s.part i) (Event.framesReceived i more)
      (Event.framesBegun i (.driver i) more) (t.part i) := by
  by_cases own : a.task? = some (.driver i)
  · obtain ⟨d, rfl⟩ := Action.eq_run_of_task? own
    obtain ⟨c, c', hc, hc', converses⟩ := drive?_converses h
    rw [part_of_connection hc, part_of_connection hc']
    rwa [show s.nextXid i = c.nextXid by unfold nextXid nextXid?; rw [hc]; rfl]
  · obtain ⟨same, unreceived⟩ := part_of_other orderly h own
    rw [same, unreceived, framesBegun_of_other orderly h own i]
    exact .rests

/-- What a task that awaits a frame has said goes by the kind of the frame. -/
lemma Stage.verse?_of_awaiting {stage : Stage} {w : Awaiting} (h : stage.part = .awaiting w) :
    stage.verse? = some w.verse := by
  cases stage with
  | writing purpose frame call => cases purpose <;> cases h <;> rfl
  | deciding v | reading v call =>
    cases h
    rfl
  | _ => cases h

/-- **The ids of a handshake**: the HELLO takes the first one, and the request for the features the
second one. -/
theorem nextXid_of_steps? {settings : Settings} {handler : Handler} {capacity : Nat}
    {actions : List Action} {events : List Event} (i : Nat)
    (run : (State.start settings handler capacity).steps? actions = some (s, events)) :
    (s.part i = .silent → s.nextXid i = 1) ∧ (s.part i = .awaiting .hello → s.nextXid i = 2) := by
  have voiced := voiced_of_steps? i run
  unfold nextXid nextXid?
  cases hc : s.connection? i with
  | none =>
    refine ⟨fun _ => rfl, fun here => ?_⟩
    unfold State.part at here
    rw [hc] at here
    cases here
  | some c =>
    obtain ⟨v, spoken, took, same, -⟩ := ((voiced_of_connection hc).1 voiced).verse
    have counter := ((voiced_of_connection hc).1 voiced).counter
    rw [part_of_connection hc]
    constructor
    · intro here
      have opening : c.stage.verse? = some .silent := by
        cases stage : c.stage with
        | opening => rfl
        | writing purpose frame call => rw [stage] at here; cases purpose <;> cases here
        | _ => rw [stage] at here; cases here
      obtain rfl := same _ opening
      rw [show idsTaken i _ actions = 0 from took] at counter
      exact counter
    · intro here
      obtain rfl := same _ (Stage.verse?_of_awaiting here)
      rw [show idsTaken i _ actions = 1 from took] at counter
      exact counter

end Conversation

end FlowBurst.Controller
