import FlowBurst.Proofs.Answers
import FlowBurst.Proofs.Deliveries

/-!
# What a handshake makes of the frames of a switch

The first HELLO or ERROR of a switch decides whether it is asked for its features, and then the first
FEATURES_REPLY or ERROR decides how the handshake ends. Echo requests are answered in between, and the
frames behind the one that decides are left to whoever reads next. The invariant of a run is that what
is still to come of an exchange, after what was said in it, is what comes of all frames of the switch.
Main statements: `recognise_of_steps?`, `concludes_of_step`.
-/

namespace FlowBurst.Controller

open FlowBurst.OpenFlow (Features Frame)
open FlowBurst.Switch (Failure)
open FlowBurst.Transport (Call Disposition Reply)

/-! ### The exchange of a handshake -/

/-- What comes of an exchange on the frames of a switch: how it ends, what is said in it, and what it
leaves of the frames. -/
structure Exchange where
  outcome : Except Failure Features
  said : List Frame
  rest : List Frame

/-- An exchange with something said before. -/
def Exchange.after (said : List Frame) (x : Exchange) : Exchange := { x with said := said ++ x.said }

@[simp] lemma Exchange.after_after (x : Exchange) (first said : List Frame) :
    (x.after said).after first = x.after (first ++ said) := by
  simp [after, List.append_assoc]

/-- Whether a frame decides what comes of waiting for another one. -/
def Awaiting.settledBy (w : Awaiting) (frame : Frame) : Bool :=
  match w, frame.message with
  | .hello, .hello _ | .hello, .error _ | .features, .featuresReply _ | .features, .error _ => true
  | _, _ => false

/-- What comes of the frames of a switch that has been asked for its features. -/
def recogniseFeatures (peer : String) (frames : List Frame) : Exchange :=
  let before := frames.takeWhile fun frame => !Awaiting.features.settledBy frame
  match frames.dropWhile fun frame => !Awaiting.features.settledBy frame with
  | [] => { outcome := .error .peerClosed, said := echoes before, rest := [] }
  | frame :: rest =>
    match frame.message with
    | .featuresReply told => { outcome := .ok told, said := echoes before, rest }
    | _ =>
      { outcome := .error (.unexpectedMessage peer "features_reply" "error")
        said := echoes before, rest }

/-- What comes of the frames of a switch that has been greeted. -/
def recogniseHello (peer : String) (frames : List Frame) : Exchange :=
  let before := frames.takeWhile fun frame => !Awaiting.hello.settledBy frame
  match frames.dropWhile fun frame => !Awaiting.hello.settledBy frame with
  | [] => { outcome := .error .peerClosed, said := echoes before, rest := [] }
  | frame :: rest =>
    match frame.message with
    | .hello _ =>
      if frame.version < 4 then
        { outcome := .error (.incompatibleVersion peer frame.version)
          said := echoes before ++ [refusal frame.xid], rest }
      else (recogniseFeatures peer rest).after (echoes before ++ [featuresRequest])
    | _ =>
      { outcome := .error (.unexpectedMessage peer "hello" "error"), said := echoes before, rest }

/-- **What comes of the frames of a switch** in a handshake. -/
def recognise (peer : String) (frames : List Frame) : Exchange :=
  (recogniseHello peer frames).after [greeting]

section Recognise

variable {peer : String} {frame : Frame} {frames : List Frame}

/-- A frame that does not decide is answered if it is an echo request, and dropped otherwise. -/
lemma recogniseFeatures_of_aside (aside : Awaiting.features.settledBy frame = false) :
    recogniseFeatures peer (frame :: frames) =
      (recogniseFeatures peer frames).after (echo? frame).toList := by
  unfold recogniseFeatures
  rw [List.takeWhile_cons_of_pos (by simp [aside]), List.dropWhile_cons_of_pos (by simp [aside])]
  dsimp only
  rw [echoes_cons]
  split
  · rfl
  · split <;> rfl

lemma recogniseHello_of_aside (aside : Awaiting.hello.settledBy frame = false) :
    recogniseHello peer (frame :: frames) =
      (recogniseHello peer frames).after (echo? frame).toList := by
  unfold recogniseHello
  rw [List.takeWhile_cons_of_pos (by simp [aside]), List.dropWhile_cons_of_pos (by simp [aside])]
  dsimp only
  rw [echoes_cons]
  split
  · rfl
  · split
    · split
      · simp [Exchange.after]
      · simp
    · rfl

end Recognise

/-- What is still to come of an exchange on some frames, by how far it has come, unless it is over. -/
def Part.exchange? (peer : String) (frames : List Frame) : Part → Option Exchange
  | silent => some (recognise peer frames)
  | awaiting .hello => some (recogniseHello peer frames)
  | awaiting .features => some (recogniseFeatures peer frames)
  | refusing version =>
    some { outcome := .error (.incompatibleVersion peer version), said := [], rest := frames }
  | reported told => some { outcome := .ok told, said := [], rest := frames }
  | awaiting (.service _) | entering | finished => none

/-- What is awaited in a handshake, and a frame that is received. -/
lemma Awaiting.exchange?_respond {peer : String} {xid : UInt32} {w : Awaiting} {frame : Frame}
    {future : List Frame} {x : Exchange} (second : w = .hello → xid = 2)
    (goes : (w.respond xid frame).2.exchange? peer future = some x) :
    (Part.awaiting w).exchange? peer (frame :: future) = some (x.after (w.respond xid frame).1) := by
  cases w with
  | service switch =>
    rw [Awaiting.respond_service] at goes
    cases goes
  | hello =>
    obtain rfl := second rfl
    refine congrArg some ?_
    unfold Awaiting.respond at goes ⊢
    cases message : frame.message with
    | hello elements =>
      have settles : Awaiting.hello.settledBy frame = true := by simp [settledBy, message]
      simp only [message] at goes ⊢
      unfold recogniseHello
      rw [List.takeWhile_cons_of_neg (by simp [settles]), List.dropWhile_cons_of_neg (by simp [settles])]
      simp only [message]
      rw [show OpenFlow.protocolVersion = 4 from rfl] at goes ⊢
      by_cases old : frame.version < 4
      · rw [if_pos old] at goes
        rw [if_pos old, if_pos old]
        cases goes
        rfl
      · rw [if_neg old] at goes
        rw [if_neg old, if_neg old]
        cases goes
        rfl
    | error report =>
      simp only [message] at goes
      cases goes
    | _ =>
      have aside : Awaiting.hello.settledBy frame = false := by simp [settledBy, message]
      simp only [message] at goes ⊢
      cases goes
      exact recogniseHello_of_aside aside
  | features =>
    refine congrArg some ?_
    unfold Awaiting.respond at goes ⊢
    cases message : frame.message with
    | featuresReply told =>
      have settles : Awaiting.features.settledBy frame = true := by simp [settledBy, message]
      simp only [message] at goes ⊢
      unfold recogniseFeatures
      rw [List.takeWhile_cons_of_neg (by simp [settles]), List.dropWhile_cons_of_neg (by simp [settles])]
      simp only [message]
      cases goes
      rfl
    | error report =>
      simp only [message] at goes
      cases goes
    | _ =>
      have aside : Awaiting.features.settledBy frame = false := by simp [settledBy, message]
      simp only [message] at goes ⊢
      cases goes
      exact recogniseFeatures_of_aside aside

/-- **What is to come of an exchange** is what a step adds to it, and then what is still to come. -/
theorem Converses.exchange? {peer : String} {xid : UInt32} {p p' : Part}
    {received said future : List Frame} {x : Exchange} (h : Converses xid p received said p')
    (first : p = .silent → xid = 1) (second : p = .awaiting .hello → xid = 2)
    (goes : p'.exchange? peer future = some x) :
    p.exchange? peer (received ++ future) = some (x.after said) := by
  cases h with
  | rests => exact goes
  | greets =>
    obtain rfl := first rfl
    cases goes
    rfl
  | hears w frame => exact Awaiting.exchange?_respond (fun e => second (congrArg _ e)) goes
  | enters | ends => cases goes
  | serves switch => cases goes

section Run

variable {s : State} {settings : Settings} {handler : Handler} {capacity : Nat} {actions : List Action}
  {events : List Event}

/-- **What comes of the frames of a switch**, those received and those to come, is what has been said to
it and what is still to come of its exchange. -/
theorem recognise_of_steps? {i : Nat} {peer : String} {future : List Frame} {x : Exchange}
    (run : (State.start settings handler capacity).steps? actions = some (s, events))
    (goes : (s.part i).exchange? peer future = some x) :
    recognise peer (Event.framesReceived i events ++ future) =
      x.after (Event.framesBegun i (.driver i) events) := by
  refine State.run_induction (P := fun _ s events => ∀ future x,
    (s.part i).exchange? peer future = some x →
      recognise peer (Event.framesReceived i events ++ future) =
        x.after (Event.framesBegun i (.driver i) events)) ?_ ?_ run future x goes
  · intro future x goes
    exact Option.some.inj goes
  · intro actions s before a t after before_run ih step future x goes
    obtain ⟨first, second⟩ := nextXid_of_steps? i before_run
    have converses := step?_converses (orderly_of_run before_run) step i
    rw [Event.framesReceived_append, Event.framesBegun_append, List.append_assoc,
      ih _ _ (converses.exchange? first second goes), Exchange.after_after]

end Run

/-! ### The end of an exchange -/

/-- Whether an exchange goes on. -/
def Part.isExchanging : Part → Bool
  | silent | awaiting .hello | awaiting .features | refusing _ => true
  | _ => false

/-- Only an exchange that goes on does so after a step. -/
lemma Converses.exchanging {xid : UInt32} {p p' : Part} {received said : List Frame}
    (h : Converses xid p received said p') (after : p'.isExchanging = true) : p.isExchanging = true := by
  cases h with
  | rests => exact after
  | greets => rfl
  | hears w frame =>
    cases w with
    | hello | features => rfl
    | service switch =>
      rw [Awaiting.respond_service] at after
      cases after
  | enters | serves | ends => cases after

/-- What an answer to a call for the next frame makes of an exchange, if it ends that. -/
def Awaiting.outcome? (peer : String) :
    Awaiting → Except Failure Frame → Option (Except Failure Features)
  | .service _, _ => none
  | .hello, .error f | .features, .error f => some (.error f)
  | .hello, .ok frame =>
    match frame.message with
    | .error _ => some (.error (.unexpectedMessage peer "hello" "error"))
    | _ => none
  | .features, .ok frame =>
    match frame.message with
    | .featuresReply told => some (.ok told)
    | .error _ => some (.error (.unexpectedMessage peer "features_reply" "error"))
    | _ => none

/-- What the end of a write makes of an exchange, if it ends that. -/
def Purpose.outcome? (peer : String) (purpose : Purpose) (answer : Except Transport.Failure Reply) :
    Option (Except Failure Features) :=
  match purpose, answer with
  | .echo (.service _), _ => none
  | .rejection version, _ => some (.error (.incompatibleVersion peer version))
  | _, .error f => some (.error (.transport f))
  | _, .ok _ => none

/-- What the exchange on a line comes to in a step, if it ends there. -/
def State.concludes? (s : State) (i : Nat) (a : Action) : Option (Except Failure Features) :=
  (s.connection? i).bind fun c =>
    match c.stage, a with
    | .writing purpose _ call, .run (.driver j) d =>
      if j = i then
        (s.poll? i (.driver i) d call).bind fun (_, _, progress) =>
          match progress with
          | .pending _ => none
          | .ready answer => purpose.outcome? (s.peer i).text answer
      else none
    | .deciding w, a | .reading w _, a => (s.drawn? i a).bind (w.outcome? (s.peer i).text)
    | _, _ => none

/-- What a step is to an exchange that comes to something in it, or goes on: the switch is registered
next, or the handshake is given up for a failure. -/
inductive Concludes (i : Nat) (t : State) (more : List Event) : Option (Except Failure Features) → Prop
  | goes (exchanging : (t.part i).isExchanging = true) : Concludes i t more none
  | succeeds {features : Features} (next : t.stage? i = some (.registering features)) :
      Concludes i t more (some (.ok features))
  | fails {f : Failure} {u : State} {seen : List Event} (closes : t = (u.failHandshake i f).1)
      (shown : more = seen ++ (u.failHandshake i f).2) : Concludes i t more (some (.error f))

section Concludes

variable {s t : State} {i : Nat} {more : List Event}

/-- Whatever becomes of a line, its switch keeps its address. -/
lemma peer_modifyLine (s : State) (i j : Nat) {f : Line → Line} (same : ∀ l, (f l).peer = l.peer) :
    (s.modifyLine i f).peer j = s.peer j := by
  unfold State.peer
  rw [State.getElem?_modifyLine]
  by_cases line : i = j <;> cases s.lines[j]? <;> simp [line, same]

/-- An exchange that goes on at another stage. -/
lemma Concludes.enter {c : Connection} (hc : s.connection? i = some c) {stage : Stage}
    (exchanging : stage.part.isExchanging = true) : Concludes i (s.enter i stage) more none := by
  refine .goes ?_
  rw [State.part_of_connection (State.connection?_enter hc stage)]
  exact exchanging

/-- What has been seen before does not matter. -/
lemma Concludes.note {outcome : Option (Except Failure Features)} (h : Concludes i t more outcome)
    (seen : List Event) : Concludes i t (seen ++ more) outcome := by
  cases h with
  | goes exchanging => exact .goes exchanging
  | succeeds next => exact .succeeds next
  | fails closes shown => exact .fails closes (by rw [shown, List.append_assoc])

/-- A handshake that is given up. -/
lemma Concludes.give_up (s : State) (f : Failure) :
    Concludes i (s.failHandshake i f).1 (s.failHandshake i f).2 (some (.error f)) :=
  .fails rfl (List.nil_append _).symm

/-- A frame that can be encoded is begun. -/
lemma Concludes.begin {c : Connection} (hc : s.connection? i = some c) (purpose : Purpose)
    (exchanging : purpose.part.isExchanging = true) (limits : Transport.Limits) {frame : Frame}
    {bytes : List UInt8} (encoded : frame.encode = .ok bytes) :
    Concludes i (s.begin i purpose limits frame).1 (s.begin i purpose limits frame).2 none := by
  unfold State.begin
  rw [encoded]
  exact .enter hc exchanging

/-- What a frame is to an exchange. -/
lemma concludes_receive {c b : Connection} (hb : s.connection? i = some b) {w : Awaiting} {frame : Frame}
    (handshake : (Part.awaiting w).isExchanging = true)
    (encodes : ∀ reply, echo? frame = some reply → reply.encode = .ok reply.bytes) :
    Concludes i (s.receive i c w frame).1 (s.receive i c w frame).2
      (w.outcome? (s.peer i).text (.ok frame)) := by
  have aside : Concludes i (s.receiveAside i c w frame).1 (s.receiveAside i c w frame).2
      (match frame.message with
        | .error _ => some (.error (.unexpectedMessage (s.peer i).text w.name "error"))
        | _ => none) := by
    unfold State.receiveAside
    cases message : frame.message with
    | echoRequest payload =>
      exact .begin hb (.echo w) handshake _ (encodes _ (by simp [echo?, message]))
    | error report => exact (Concludes.give_up s _).note [_]
    | _ => exact .enter hb handshake
  cases w with
  | service switch => cases handshake
  | hello =>
    show Concludes i _ _ (match frame.message with
      | .error _ => some (.error (.unexpectedMessage (s.peer i).text "hello" "error"))
      | _ => none)
    unfold State.receive
    cases message : frame.message with
    | hello elements =>
      dsimp only
      split
      next old => exact .begin hb (.rejection _) rfl _ (encode_refusal frame.xid)
      next current =>
        have taken : (s.modifyConnection i fun c => { c with nextXid := c.nextXid + 1 }).connection? i =
            some { b with nextXid := b.nextXid + 1 } := by simp [hb]
        exact .begin taken .featuresRequest rfl _ (encode_featuresRequest c.nextXid)
    | _ => simpa [message, Awaiting.name] using aside
  | features =>
    show Concludes i _ _ (match frame.message with
      | .featuresReply told => some (.ok told)
      | .error _ => some (.error (.unexpectedMessage (s.peer i).text "features_reply" "error"))
      | _ => none)
    unfold State.receive
    cases message : frame.message with
    | featuresReply told =>
      exact .succeeds (State.stage?_of_connection? (State.connection?_enter hb _))
    | _ => simpa [message, Awaiting.name] using aside

/-- What a failure of a call for the next frame is to an exchange. -/
lemma Concludes.fail (s : State) {peer : String} {w : Awaiting} (f : Failure)
    (handshake : (Part.awaiting w).isExchanging = true) :
    Concludes i (s.fail i w f).1 (s.fail i w f).2 (w.outcome? peer (.error f)) := by
  cases w with
  | hello | features => exact .give_up s f
  | service switch => cases handshake

/-- What a look at the bytes at hand is to an exchange. -/
lemma concludes_decide {c : Connection} (hc : s.connection? i = some c) {w : Awaiting}
    (handshake : (Part.awaiting w).isExchanging = true) :
    Concludes i (s.decide i c w).1 (s.decide i c w).2
      ((drawnOfDecoding (Frame.decode s.settings.maxFrameLength c.inbound).1).bind
        (w.outcome? (s.peer i).text)) := by
  rcases decoded : Frame.decode s.settings.maxFrameLength c.inbound with ⟨answer, rest⟩
  have left : (s.modifyConnection i fun c => { c with inbound := rest }).connection? i =
      some { c with inbound := rest } := by simp [hc]
  have peer : (s.modifyConnection i fun c => { c with inbound := rest }).peer i = s.peer i :=
    peer_modifyLine s i i fun _ => rfl
  unfold State.decide
  rw [decoded, ← peer]
  rcases answer with e | _ | frame
  · exact .fail _ (.frame e) handshake
  · exact .enter left handshake
  · exact (concludes_receive left handshake fun _ => encode_echo decoded).note [_]

/-- What the end of a read is to an exchange. -/
lemma concludes_afterRead {c : Connection} (hc : s.connection? i = some c) {peer : String} {w : Awaiting}
    (handshake : (Part.awaiting w).isExchanging = true)
    (answer : Except Transport.Failure Reply) :
    Concludes i (s.afterRead i w answer).1 (s.afterRead i w answer).2
      ((drawnOfRead answer).bind (w.outcome? peer)) := by
  unfold State.afterRead
  split
  next => exact .fail _ .peerClosed handshake
  next bytes some_read =>
    have more : (s.modifyConnection i fun c => { c with inbound := c.inbound ++ bytes }).connection? i =
        some { c with inbound := c.inbound ++ bytes } := by simp [hc]
    rw [drawnOfRead_data fun none_read => some_read (none_read ▸ rfl)]
    exact .enter more handshake
  next reply ne_end ne_data =>
    cases reply with
    | data bytes => exact (ne_data bytes rfl).elim
    | written n | done => exact .enter hc handshake
  next f => exact .fail _ (.transport f) handshake

/-- What the end of a write is to an exchange. -/
lemma concludes_afterWrite {c : Connection} (hc : s.connection? i = some c) {purpose : Purpose}
    (handshake : purpose.part.isExchanging = true) (answer : Except Transport.Failure Reply) :
    Concludes i (s.afterWrite i purpose (answer.map fun _ => ())).1
      (s.afterWrite i purpose (answer.map fun _ => ())).2
      (purpose.outcome? (s.peer i).text answer) := by
  cases purpose with
  | rejection version => exact .give_up s _
  | greeting | featuresRequest =>
    cases answer with
    | ok reply => exact .enter hc rfl
    | error f => exact .give_up s _
  | echo w =>
    cases w with
    | service switch => cases handshake
    | hello | features =>
      cases answer with
      | ok reply => exact .enter hc rfl
      | error f => exact .give_up s _

/-- **What a step of the driving task of a line is to its exchange.** -/
theorem concludes_of_drive? {d : Disposition} (h : s.drive? i d = some (t, more))
    (exchanging : (s.part i).isExchanging = true) :
    Concludes i t more (s.concludes? i (.run (.driver i) d)) := by
  obtain ⟨c, hc, step⟩ := State.drive?_stepped h
  rw [State.part_of_connection hc] at exchanging
  have drawn : s.drawn? i (.run (.driver i) d) = s.draws? i d := if_pos rfl
  unfold State.concludes?
  rw [hc, Option.bind_some]
  cases step with
  | opened stage next =>
    subst next
    have taken := connection?_opened hc
    rw [stage]
    exact .begin taken .greeting rfl _ (encode_greeting c.nextXid)
  | @waited job call u put under poll =>
    obtain ⟨locks, bytes, polled, rfl⟩ := State.connection?_of_poll? poll hc
    have goes : Concludes i (u.enter i (c.stage.withCall call)) (putEvents job.line (.driver i) bytes)
        none := .enter polled (by rw [Stage.part_withCall]; exact exchanging)
    cases stage : c.stage with
    | writing purpose frame was =>
      rw [stage] at under goes
      cases under
      dsimp only
      rw [if_pos rfl, poll]
      exact goes
    | reading w was =>
      dsimp only
      rw [drawn, State.draws?_of_pending hc under poll, ← stage]
      exact goes
    | displacing | closing =>
      rw [stage] at exchanging
      cases exchanging
    | _ =>
      rw [stage] at under
      cases under
  | @wrote purpose frame call u put answer r stage poll next =>
    subst next
    obtain ⟨locks, bytes, polled, rfl⟩ := State.connection?_of_poll? poll hc
    have peer : u.peer i = s.peer i := by
      obtain ⟨b, p, -, rfl, -⟩ := State.polling_of_poll? poll
      exact peer_modifyLine s i i fun _ => rfl
    rw [stage] at exchanging ⊢
    dsimp only
    rw [if_pos rfl, poll, ← peer]
    exact ((concludes_afterWrite polled exchanging answer).note [_]).note _
  | decided stage next =>
    subst next
    rw [stage] at exchanging ⊢
    dsimp only
    rw [drawn, State.draws?_of_deciding hc stage]
    exact concludes_decide hc exchanging
  | @got w call u put answer r stage poll next =>
    subst next
    obtain ⟨locks, bytes, polled, rfl⟩ := State.connection?_of_poll? poll hc
    rw [stage] at exchanging ⊢
    dsimp only
    rw [drawn, State.draws?_of_ready hc stage poll]
    exact (concludes_afterRead polled exchanging answer).note _
  | registered stage | displaced stage | launched stage | closed stage | deregistered stage
  | joined stage | notified stage =>
    rw [stage] at exchanging
    cases exchanging

/-- **What a step of a run is to the exchange on a line.** -/
theorem concludes_of_step (orderly : s.Orderly) {a : Action} (h : s.step? a = some (t, more))
    (exchanging : (s.part i).isExchanging = true) : Concludes i t more (s.concludes? i a) := by
  by_cases own : a.task? = some (.driver i)
  · obtain ⟨d, rfl⟩ := Action.eq_run_of_task? own
    exact concludes_of_drive? h exchanging
  · have undrawn : s.drawn? i a = none := by
      cases a with
      | run who d => exact if_neg fun e => own (congrArg some e)
      | _ => rfl
    have elsewhere : s.concludes? i a = none := by
      unfold State.concludes?
      cases hc : s.connection? i with
      | none => rfl
      | some c =>
        rw [Option.bind_some]
        split
        next purpose frame call j d _ => exact if_neg fun e => own (by rw [e]; rfl)
        next => rw [undrawn]; rfl
        next => rw [undrawn]; rfl
        next => rfl
    rw [elsewhere]
    refine .goes ?_
    rwa [(part_of_other orderly h own).1]

end Concludes

end FlowBurst.Controller
