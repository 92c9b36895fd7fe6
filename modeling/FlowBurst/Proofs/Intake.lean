import FlowBurst.Proofs.Decoding
import FlowBurst.Proofs.Ownership

/-!
# What a driving task takes in

The driving task of a connection takes frames off the bytes at hand, reads more when those hold no
whole frame, and goes on with each frame, or with the failure that it meets instead. Everything else
that it does, and everything that other tasks do, leaves the bytes at hand alone. Main statements:
`drive?_takes`, `step?_takes`.
-/

namespace FlowBurst.Controller

open FlowBurst.OpenFlow (Frame)
open FlowBurst.Switch (Failure Reference)
open FlowBurst.Transport (Call Disposition Limits Polled)

namespace Stage

/-- The kind of frame that a driving task is to receive next, unless it is past that. -/
def awaiting? : Stage → Option Awaiting
  | writing purpose _ _ => some purpose.awaiting
  | deciding w | reading w _ => some w
  | _ => none

/-- Whether a driving task waits for bytes. -/
def isReading : Stage → Bool
  | reading _ _ => true
  | _ => false

/-- Whether a driving task receives nothing more. -/
def isOver : Stage → Bool
  | closing _ _ | deregistering _ | joining _ _ | notifying _ | ended => true
  | _ => false

/-- Whether a driving task is done with the handshake, and waits for no bytes. -/
def isPast : Stage → Bool
  | deciding (.service _) | displacing _ _ _ | launching _ => true
  | stage => stage.isOver

end Stage

/-- Whether an event is a notice or the beginning of a frame, which is all that a driving task lets
the world see of what it does about a frame. -/
def Event.isRemark : Event → Bool
  | notice _ | frameBegun _ _ _ => true
  | _ => false

/-- What a driving task that is to receive a frame does about something else first: it keeps the
bytes at hand, and does not read. -/
structure Replies (s : State) (i : Nat) (w : Awaiting) (r : State × List Event) : Prop where
  change : ∃ g stage, r.1 = s.modifyConnection i g ∧
    (∀ c, (g c).inbound = c.inbound ∧ (g c).stage = stage) ∧
    stage.isReading = false ∧ (stage.awaiting? = some w ∨ stage.isOver = true)
  remarks : ∀ e ∈ r.2, e.isRemark = true

namespace Replies

variable {s : State} {i : Nat} {w : Awaiting} {r : State × List Event}

lemma enter {stage : Stage} (still : stage.isReading = false)
    (next : stage.awaiting? = some w ∨ stage.isOver = true) {events : List Event}
    (remarks : ∀ e ∈ events, e.isRemark = true) : Replies s i w (s.enter i stage, events) :=
  ⟨⟨_, stage, rfl, fun _ => ⟨rfl, rfl⟩, still, next⟩, remarks⟩

/-- A reply after a change that leaves the bytes at hand alone. -/
lemma after {f : Connection → Connection} (hf : ∀ c, (f c).inbound = c.inbound)
    (h : Replies (s.modifyConnection i f) i w r) : Replies s i w r := by
  obtain ⟨⟨g, stage, e, hg, next⟩, remarks⟩ := h
  refine ⟨⟨g ∘ f, stage, ?_, fun c => ⟨?_, (hg (f c)).2⟩, next⟩, remarks⟩
  · rw [e, State.modifyConnection_modifyConnection]
  · exact (hg (f c)).1.trans (hf c)

lemma note {n : Notice} (h : Replies s i w r) : Replies s i w (r.1, .notice n :: r.2) :=
  ⟨h.change, fun e he => (List.mem_cons.1 he).elim (fun e' => e' ▸ rfl) (h.remarks e)⟩

lemma connection (h : Replies s i w r) {c : Connection} (hc : s.connection? i = some c) :
    ∃ c', r.1.connection? i = some c' ∧ c'.inbound = c.inbound ∧ c'.stage.isReading = false ∧
      (c'.stage.awaiting? = some w ∨ c'.stage.isOver = true) := by
  obtain ⟨⟨g, stage, e, hg, still, next⟩, -⟩ := h
  refine ⟨g c, ?_, (hg c).1, ?_, ?_⟩
  · rw [e, State.connection?_modifyConnection, if_pos rfl, hc]
    rfl
  · rwa [(hg c).2]
  · rwa [(hg c).2]

end Replies

namespace State

variable (s : State) (i : Nat)

/-- A driving task that gives a handshake up closes the connection, with or without a notice. -/
lemma failHandshake_closes (f : Failure) :
    (s.failHandshake i f).1 = s.enter i (.closing none (closeCall s.now)) ∧
      ∀ e ∈ (s.failHandshake i f).2, e.isRemark = true := by
  refine ⟨rfl, fun e he => ?_⟩
  unfold failHandshake at he
  dsimp only at he
  split at he <;> split at he <;> simp_all [Event.isRemark]

/-- A driving task that meets a failure closes the connection, with or without a notice. -/
lemma fail_closes (w : Awaiting) (f : Failure) :
    (s.fail i w f).1 = s.enter i (.closing w.served (closeCall s.now)) ∧
      ∀ e ∈ (s.fail i w f).2, e.isRemark = true := by
  cases w with
  | hello | features => exact s.failHandshake_closes i f
  | service switch =>
    refine ⟨rfl, fun e he => ?_⟩
    unfold fail endService at he
    dsimp only at he
    split at he <;> simp_all [Event.isRemark]

theorem replies_failHandshake (f : Failure) {w : Awaiting} :
    Replies s i w (s.failHandshake i f) :=
  .enter rfl (.inr rfl) (s.failHandshake_closes i f).2

theorem replies_fail (v : Awaiting) (f : Failure) {w : Awaiting} : Replies s i w (s.fail i v f) := by
  obtain ⟨closes, remarks⟩ := s.fail_closes i v f
  rw [show s.fail i v f = (s.enter i (.closing v.served (closeCall s.now)), (s.fail i v f).2) from
    Prod.ext closes rfl]
  exact .enter rfl (.inr rfl) remarks

theorem replies_begin (purpose : Purpose) (limits : Limits) (frame : Frame) :
    Replies s i purpose.awaiting (s.begin i purpose limits frame) := by
  unfold begin
  split
  · exact .enter rfl (.inl rfl) (by simp [Event.isRemark])
  · exact s.replies_fail i _ _

theorem replies_afterWrite (purpose : Purpose) (answer : Except Transport.Failure Unit) :
    Replies s i purpose.awaiting (s.afterWrite i purpose answer) := by
  unfold afterWrite
  split
  · exact s.replies_failHandshake i _
  · exact .enter rfl (.inl rfl) (by simp)
  · exact s.replies_fail i _ _

theorem replies_receiveAside (c : Connection) (w : Awaiting) (frame : Frame) :
    Replies s i w (s.receiveAside i c w frame) := by
  unfold receiveAside
  split
  · exact s.replies_begin i (.echo w) _ _
  · exact (s.replies_failHandshake i
      (.unexpectedMessage (s.peer i).text w.name "error")).note
  · exact .enter rfl (.inl rfl) (by simp)

end State

/-- What a driving task turns to that has received a frame: it goes on with the handshake or the
service as it was, or the frame brings the handshake on. -/
inductive Heeds (w : Awaiting) (frame : Frame) : Stage → Prop
  | stays {stage : Stage} (next : stage.awaiting? = some w ∨ stage.isOver = true) :
      Heeds w frame stage
  | greeted {stage : Stage} {elements : List UInt8} (awaited : w = .hello)
      (hello : frame.message = .hello elements) (current : OpenFlow.protocolVersion ≤ frame.version)
      (next : stage.awaiting? = some .features ∨ stage.isOver = true) : Heeds w frame stage
  | told {features : OpenFlow.Features} (awaited : w = .features)
      (reply : frame.message = .featuresReply features) : Heeds w frame (.registering features)

namespace State

variable (s : State) (i : Nat)

/-- **What a driving task does with a frame** leaves the bytes at hand alone. -/
theorem heeds_receive (c : Connection) (w : Awaiting) (frame : Frame) {b : Connection}
    (hb : s.connection? i = some b) :
    ∃ b', (s.receive i c w frame).1.connection? i = some b' ∧ b'.inbound = b.inbound ∧
      b'.stage.isReading = false ∧ Heeds w frame b'.stage ∧
      ∀ e ∈ (s.receive i c w frame).2, e.isRemark = true := by
  have stays {r : State × List Event} (h : Replies s i w r) : ∃ b', r.1.connection? i = some b' ∧
      b'.inbound = b.inbound ∧ b'.stage.isReading = false ∧ Heeds w frame b'.stage ∧
      ∀ e ∈ r.2, e.isRemark = true := by
    obtain ⟨b', hb', inbound, still, next⟩ := h.connection hb
    exact ⟨b', hb', inbound, still, .stays next, h.remarks⟩
  unfold receive
  split
  next elements hello =>
    split
    next old => exact stays (s.replies_begin i (.rejection frame.version) _ _)
    next current =>
      have reply := Replies.after (s := s) (f := fun c => { c with nextXid := c.nextXid + 1 })
        (fun _ => rfl) (replies_begin _ i .featuresRequest (Awaiting.hello.limits c)
          { xid := c.nextXid, message := .featuresRequest })
      obtain ⟨b', hb', inbound, still, next⟩ := reply.connection hb
      exact ⟨b', hb', inbound, still, .greeted rfl hello (UInt8.not_lt.1 current) next,
        reply.remarks⟩
  next features reply =>
    refine ⟨{ b with stage := .registering features }, ?_, rfl, rfl, .told rfl reply, by simp⟩
    simp [enter, hb]
  next => exact stays (s.replies_begin i (.echo _) _ _)
  next => exact stays (.enter rfl (.inl rfl) (by simp [Event.isRemark]))
  next => exact stays (.enter rfl (.inl rfl) (by simp))
  next => exact stays (s.replies_receiveAside i c _ frame)

end State

/-! ### A call for the next frame -/

/-- What an answer of decoding means to a call for the next frame: it ends with a frame or an error,
or has to read more. -/
def drawnOfDecoding : Except OpenFlow.FrameError (Option Frame) → Option (Except Failure Frame)
  | .ok (some frame) => some (.ok frame)
  | .ok none => none
  | .error e => some (.error (.frame e))

/-- What the end of a read means to a call for the next frame. -/
def drawnOfRead : Except Transport.Failure Transport.Reply → Option (Except Failure Frame)
  | .ok (.data []) => some (.error .peerClosed)
  | .ok _ => none
  | .error f => some (.error (.transport f))

lemma drawnOfRead_data {bytes : List UInt8} (some_read : bytes ≠ []) :
    drawnOfRead (.ok (.data bytes)) = none := by
  cases bytes with
  | nil => exact (some_read rfl).elim
  | cons b rest => rfl

/-- What the call for the next frame of the driving task of a line comes to in a step of that, if it
ends there. -/
def State.draws? (s : State) (i : Nat) (d : Disposition) : Option (Except Failure Frame) :=
  (s.connection? i).bind fun c =>
    match c.stage with
    | .deciding _ => drawnOfDecoding (Frame.decode s.settings.maxFrameLength c.inbound).1
    | .reading _ call =>
      (s.poll? i (.driver i) d call).bind fun (_, _, progress) =>
        match progress with
        | .pending _ => none
        | .ready answer => drawnOfRead answer
    | _ => none

/-- What a call for the next frame on a line comes to in a step, if it ends there. -/
def State.drawn? (s : State) (i : Nat) : Action → Option (Except Failure Frame)
  | .run who d => if who = .driver i then s.draws? i d else none
  | _ => none

/-- A driving task that waits for bytes reads a chunk of them, within the limits of what it awaits. -/
def Connection.Reads (c : Connection) : Prop :=
  ∀ w call, c.stage = .reading w call → call.limits = w.limits c ∧ call.request = .read readChunk

lemma Connection.Reads.of_still {c : Connection} (still : c.stage.isReading = false) : c.Reads := by
  intro w call stage
  rw [stage] at still
  cases still

/-- The limits of what is awaited depend on the time that the handshake is given alone. -/
lemma Awaiting.limits_congr {c c' : Connection} (h : c'.handshakeDeadline = c.handshakeDeadline)
    (w : Awaiting) : w.limits c' = w.limits c := by
  cases w <;> simp [limits, h]

/-- A step of a driving task that takes nothing in. -/
structure Rests (c c' : Connection) : Prop where
  inbound : c'.inbound = c.inbound
  reading : c'.stage.isReading = true → c.stage.isReading = true
  reads : c.Reads → c'.Reads
  ceased : c.stage.isOver = true → c'.stage.isOver = true
  greeted : c'.stage.awaiting? = some .features → c.stage.awaiting? = some .features
  told : ∀ features, c'.stage = .registering features → c.stage = .registering features

/-- What a step of the driving task of a line takes in, with the bytes that it reads, the frames that
it receives, and what its call for the next frame comes to. -/
inductive Takes (limit : Nat) (c c' : Connection) :
    List UInt8 → List Frame → Option (Except Failure Frame) → Prop
  | rests (rests : Rests c c') : Takes limit c c' [] [] none
  | took {w : Awaiting} {frame : Frame} (stage : c.stage = .deciding w)
      (decoded : Frame.decode limit c.inbound = (.ok (some frame), c'.inbound))
      (still : c'.stage.isReading = false) (heeds : Heeds w frame c'.stage) :
      Takes limit c c' [] [frame] (some (.ok frame))
  | wants {w : Awaiting} (stage : c.stage = .deciding w)
      (decoded : Frame.decode limit c.inbound = (.ok none, c'.inbound))
      (next : c'.stage = .reading w (.read (w.limits c') readChunk)) : Takes limit c c' [] [] none
  | refused {w : Awaiting} {e : OpenFlow.FrameError} {rest : List UInt8}
      (stage : c.stage = .deciding w) (decoded : Frame.decode limit c.inbound = (.error e, rest))
      (ceased : c'.stage.isOver = true) : Takes limit c c' [] [] (some (.error (.frame e)))
  | read {w : Awaiting} {call : Call} {bytes : List UInt8} (stage : c.stage = .reading w call)
      (some_read : bytes ≠ []) (inbound : c'.inbound = c.inbound ++ bytes)
      (next : c'.stage = .deciding w) : Takes limit c c' bytes [] none
  | ended {w : Awaiting} {call : Call} (stage : c.stage = .reading w call)
      (ceased : c'.stage.isOver = true) : Takes limit c c' [] [] (some (.error .peerClosed))
  | failed {w : Awaiting} {call : Call} {f : Transport.Failure} (stage : c.stage = .reading w call)
      (ceased : c'.stage.isOver = true) : Takes limit c c' [] [] (some (.error (.transport f)))

lemma Stage.isReading_of_isOver {stage : Stage} (ceased : stage.isOver = true) :
    stage.isReading = false := by
  cases stage <;> first | rfl | cases ceased

/-- The frames received are those that calls for the next frame come to. -/
lemma Takes.frames_eq {limit : Nat} {c c' : Connection} {read : List UInt8} {frames : List Frame}
    {drawn : Option (Except Failure Frame)} (h : Takes limit c c' read frames drawn) :
    frames = drawn.toList.filterMap Except.toOption := by
  cases h <;> rfl

/-- Only a task that looks at the bytes at hand receives a frame. -/
lemma Takes.frames_eq_nil {limit : Nat} {c c' : Connection} {read : List UInt8} {frames : List Frame}
    {drawn : Option (Except Failure Frame)} (h : Takes limit c c' read frames drawn)
    (elsewhere : ∀ w, c.stage ≠ .deciding w) : frames = [] := by
  cases h with
  | took stage => exact (elsewhere _ stage).elim
  | _ => rfl

/-- Whatever a driving task takes in, it then waits as it should. -/
lemma Takes.reads {limit : Nat} {c c' : Connection} {read : List UInt8} {frames : List Frame}
    {drawn : Option (Except Failure Frame)} (h : Takes limit c c' read frames drawn)
    (was : c.Reads) : c'.Reads := by
  cases h with
  | rests rests => exact rests.reads was
  | took stage decoded still heeds => exact .of_still still
  | wants stage decoded next =>
    intro w call e
    rw [next] at e
    cases e
    exact ⟨rfl, rfl⟩
  | read stage some_read inbound next => exact .of_still (by rw [next]; rfl)
  | refused stage decoded ceased | ended stage ceased | failed stage ceased =>
    exact .of_still (Stage.isReading_of_isOver ceased)

/-- Whether an event says nothing of what a driving task takes in, or of what a handler is told and
comes to. -/
def Event.isPlain : Event → Bool
  | read _ _ | received _ _ | readyCalled _ _ | readyReturned _ _ | burstEnded _ _ | stopRequested =>
    false
  | _ => true

lemma Event.isPlain_of_isRemark {e : Event} (h : e.isRemark = true) : e.isPlain = true := by
  cases e <;> first | rfl | cases h

lemma isPlain_of_mem_putEvents {i : Nat} {who : Actor} {bytes : List UInt8} {e : Event}
    (h : e ∈ putEvents i who bytes) : e.isPlain = true := by
  unfold putEvents at h
  split at h
  · cases h
  · rw [List.mem_singleton.1 h]
    rfl

/-- The line whose driving task takes something in. -/
def Event.taker? : Event → Option Nat
  | read i _ | received i _ => some i
  | _ => none

lemma Event.untaken {events : List Event} {i : Nat} (h : ∀ e ∈ events, e.taker? ≠ some i) :
    bytesRead i events = [] ∧ framesReceived i events = [] := by
  constructor
  · refine List.flatMap_eq_nil_iff.2 fun e he => ?_
    have other := h e he
    cases e with
    | read j bytes => exact if_neg fun e => other (congrArg some e)
    | _ => rfl
  · refine List.filterMap_eq_nil_iff.2 fun e he => ?_
    have other := h e he
    cases e with
    | received j frame => exact if_neg fun e => other (congrArg some e)
    | _ => rfl

lemma Event.taker?_of_isPlain {e : Event} (h : e.isPlain = true) : e.taker? = none := by
  cases e <;> first | rfl | cases h

lemma untaken_of_plain {events : List Event} (h : ∀ e ∈ events, e.isPlain = true) (i : Nat) :
    Event.bytesRead i events = [] ∧ Event.framesReceived i events = [] :=
  Event.untaken fun e he => by simp [Event.taker?_of_isPlain (h e he)]

namespace Rests

variable {c c' : Connection}

/-- A reply of a driving task that is to receive a frame of some kind, now or as soon as it has
greeted the switch. -/
lemma of_reply {w : Awaiting} (inbound : c'.inbound = c.inbound) (still : c'.stage.isReading = false)
    (next : c'.stage.awaiting? = some w ∨ c'.stage.isOver = true)
    (was : c.stage.awaiting? = some w ∨ w = .hello) (going : c.stage.isOver = false) :
    Rests c c' where
  inbound := inbound
  reading h := by
    rw [still] at h
    cases h
  reads _ := .of_still still
  ceased h := by
    rw [going] at h
    cases h
  greeted h := by
    rcases next with e | ceased
    · rw [e] at h
      cases h
      exact was.resolve_right (by simp)
    · cases hs : c'.stage <;> simp [hs, Stage.awaiting?, Stage.isOver] at h ceased
  told features e := by
    rw [e] at next
    rcases next with h | h <;> cases h

/-- A driving task whose call goes on; a read is still one. -/
lemma of_call {call : Call} (inbound : c'.inbound = c.inbound)
    (deadline : c'.handshakeDeadline = c.handshakeDeadline)
    (next : c'.stage = c.stage.withCall call)
    (same : ∀ w was, c.stage = .reading w was → call.limits = was.limits ∧
      ∀ size, was.request = .read size → call.request = .read size) : Rests c c' := by
  refine ⟨inbound, ?_, fun reads w call' e => ?_, ?_, ?_, fun features => ?_⟩
  · rw [next]
    cases c.stage <;> exact id
  · rw [next] at e
    cases was : c.stage <;> rw [was] at e <;> cases e
    obtain ⟨limits, request⟩ := reads w _ was
    obtain ⟨limits', request'⟩ := same w _ was
    exact ⟨(limits'.trans limits).trans (Awaiting.limits_congr deadline w).symm, request' _ request⟩
  all_goals rw [next]
  · cases c.stage <;> exact id
  · cases c.stage <;> exact id
  · cases c.stage <;> intro h <;> first | exact h | cases h

/-- A driving task that is done with the handshake. -/
lemma of_past (inbound : c'.inbound = c.inbound) (past : c'.stage.isPast = true)
    (ceased : c.stage.isOver = true → c'.stage.isOver = true) : Rests c c' := by
  have still : c'.stage.isReading = false := by
    cases hs : c'.stage <;> simp [hs, Stage.isPast, Stage.isReading, Stage.isOver] at past ⊢
  refine ⟨inbound, ?_, fun _ => .of_still still, ceased, ?_, fun features => ?_⟩
  · intro h
    rw [still] at h
    cases h
  · intro h
    cases hs : c'.stage <;> simp [hs, Stage.isPast, Stage.awaiting?, Stage.isOver] at past h
    subst h
    cases past
  · intro h
    rw [h] at past
    cases past

end Rests

namespace State

variable {s t : State} {i : Nat}

/-- A poll changes nothing but the locks of the connection on its line. -/
lemma connection?_of_polling {j : Nat} {who : Actor} {call : Call} {b c : Connection}
    {p : Polled Actor} (polling : Polling s j who call b p) (hc : s.connection? i = some c) :
    ∃ locks, (s.polled j b p).connection? i = some { c with locks } := by
  rw [connection?_polled polling.connection]
  split
  next hj =>
    subst hj
    obtain rfl : b = c := Option.some.inj (polling.connection.symm.trans hc)
    exact ⟨p.locks, rfl⟩
  next => exact ⟨c.locks, hc⟩

/-- A poll of a task changes nothing but locks, and all that the world sees of it is bytes. -/
lemma connection?_of_poll? {u : State} {j : Nat} {who : Actor} {d : Disposition} {call : Call}
    {put : List Event} {progress : Transport.Progress} {c : Connection}
    (poll : s.poll? j who d call = some (u, put, progress)) (hc : s.connection? i = some c) :
    ∃ locks bytes, u.connection? i = some { c with locks } ∧ put = putEvents j who bytes := by
  obtain ⟨b, p, polling, rfl, rfl, -⟩ := polling_of_poll? poll
  obtain ⟨locks, polled⟩ := connection?_of_polling polling hc
  exact ⟨locks, p.put, polled, rfl⟩

lemma connection?_enter {c : Connection} (hc : s.connection? i = some c) (stage : Stage) :
    (s.enter i stage).connection? i = some { c with stage } := by
  simp [enter, hc]

lemma connection?_register {c : Connection} (hc : s.connection? i = some c) (d : Switch.DatapathId) :
    ∃ session stage, (s.register i c d).1.connection? i = some { c with session, stage } ∧
      stage.isPast = true ∧ ∀ e ∈ (s.register i c d).2, e.isPlain = true := by
  unfold register
  split
  next => exact ⟨c.session, _, connection?_enter hc _, rfl, by simp [Event.isPlain]⟩
  next session ready =>
    have set : (s.modifyConnection i fun c => { c with session }).connection? i =
        some { c with session } := by simp [hc]
    dsimp only
    split
    · exact ⟨session, _, connection?_enter set _, rfl, by simp [Event.isPlain]⟩
    · exact ⟨session, _, connection?_enter set _, rfl, by simp [Event.isPlain]⟩

lemma connection?_afterClose {c : Connection} (hc : s.connection? i = some c)
    (served : Option Reference) :
    ∃ session, (s.afterClose i served).connection? i =
      some { c with session, stage := stageAfterClose served } := by
  unfold afterClose
  cases served with
  | none => exact ⟨_, by simp [hc, enter, stageAfterClose]; rfl⟩
  | some switch => exact ⟨_, by simp [hc, enter, stageAfterClose]; rfl⟩

/-- What comes of a step in which a driving task takes nothing in, with what it lets the world see. -/
structure AtRest (i : Nat) (c : Connection) (t : State) (events : List Event) : Prop where
  next : ∃ c', t.connection? i = some c' ∧ Rests c c'
  plain : ∀ e ∈ events, e.isPlain = true

namespace AtRest

variable {c : Connection} {events : List Event}

/-- A reply to what has gone before. -/
lemma of_replies {u : State} {w : Awaiting} {r : State × List Event} {locks : Transport.Locks Actor}
    (hu : u.connection? i = some { c with locks }) (reply : Replies u i w r)
    (was : c.stage.awaiting? = some w ∨ w = .hello) (going : c.stage.isOver = false) :
    AtRest i c r.1 r.2 := by
  obtain ⟨c', hc', inbound, still, next⟩ := reply.connection hu
  exact ⟨⟨c', hc', .of_reply inbound still next was going⟩,
    fun e he => Event.isPlain_of_isRemark (reply.remarks e he)⟩

/-- A call that goes on; one to read is still that. -/
lemma waited {d : Disposition} {job : Job} {call : Call} {u : State}
    (hc : s.connection? i = some c) (under : c.stage.job? i = some job)
    (poll : s.poll? job.line (.driver i) d job.call = some (u, events, .pending call)) :
    AtRest i c (u.enter i (c.stage.withCall call)) events := by
  obtain ⟨locks, bytes, polled, rfl⟩ := connection?_of_poll? poll hc
  obtain ⟨b, p, polling, -, -, pending⟩ := polling_of_poll? poll
  obtain ⟨link, -, polls⟩ := polling.polls
  obtain ⟨limits, kind⟩ := polls.request_of_pending pending
  refine ⟨⟨_, connection?_enter polled _, .of_call rfl rfl rfl fun w was reading => ?_⟩,
    fun e he => isPlain_of_mem_putEvents he⟩
  rw [reading] at under
  cases under
  refine ⟨limits, fun size request => ?_⟩
  rcases kind with ⟨same, -⟩ | ⟨rest, total, n, other, -, -⟩
  · exact same.trans request
  · rw [request] at other
    cases other

end AtRest

/-- **A driving task that is at no call for the next frame takes nothing in.** -/
theorem rests_of_stepped {d : Disposition} {c : Connection} {events : List Event}
    (step : Stepped s i d c t events) (hc : s.connection? i = some c)
    (elsewhere : ∀ w call, c.stage ≠ .deciding w ∧ c.stage ≠ .reading w call) :
    AtRest i c t events := by
  have going {stage : Stage} (e : c.stage = stage) (next : stage.isOver = false) {P : Prop} :
      c.stage.isOver = true → P := fun ceased => by simp [e, next] at ceased
  cases step with
  | opened stage next =>
    subst next
    have reply := Replies.after (s := s) (f := Connection.opened s) (fun _ => rfl)
      (replies_begin _ i .greeting { deadline := some (s.now + s.settings.handshakeTimeout) }
        { xid := c.nextXid, message := .hello [] })
    exact .of_replies hc reply (.inr rfl) (by rw [stage]; rfl)
  | waited under poll => exact .waited hc under poll
  | @wrote purpose frame call u put answer r stage poll next =>
    subst next
    obtain ⟨locks, bytes, polled, rfl⟩ := connection?_of_poll? poll hc
    have after := AtRest.of_replies polled
      (replies_afterWrite u i purpose (answer.map fun _ => ())) (.inl (by rw [stage]; rfl))
      (by rw [stage]; rfl)
    refine ⟨after.next, fun e he => ?_⟩
    rcases List.mem_append.1 he with he | he
    · exact isPlain_of_mem_putEvents he
    · rcases List.mem_cons.1 he with rfl | he
      · rfl
      · exact after.plain e he
  | decided stage => exact ((elsewhere _ (closeCall 0)).1 stage).elim
  | got stage => exact ((elsewhere _ _).2 stage).elim
  | registered stage next =>
    subst next
    obtain ⟨session, next, hc', past, plain⟩ := connection?_register hc _
    exact ⟨⟨_, hc', .of_past rfl past (going stage rfl)⟩, plain⟩
  | displaced stage poll =>
    obtain ⟨locks, bytes, polled, rfl⟩ := connection?_of_poll? poll hc
    exact ⟨⟨_, connection?_enter polled _, .of_past rfl rfl (going stage rfl)⟩,
      fun e he => isPlain_of_mem_putEvents he⟩
  | @launched switch stage =>
    have told : (s.tell i (.spawned switch)).connection? i =
        some { c with news := .spawned switch } := by simp [tell, hc]
    exact ⟨⟨_, connection?_enter told _, .of_past rfl rfl (going stage rfl)⟩, by simp⟩
  | @closed served call u put answer stage poll =>
    obtain ⟨locks, bytes, polled, rfl⟩ := connection?_of_poll? poll hc
    obtain ⟨session, hc'⟩ := connection?_afterClose polled served
    have ceased : (stageAfterClose served).isOver = true := by cases served <;> rfl
    have past : (stageAfterClose served).isPast = true := by cases served <;> rfl
    exact ⟨⟨_, hc', .of_past rfl past fun _ => ceased⟩, fun e he => isPlain_of_mem_putEvents he⟩
  | deregistered stage =>
    exact ⟨⟨_, connection?_enter hc (.joining _ _), .of_past rfl rfl fun _ => rfl⟩,
      by simp [Event.isPlain]⟩
  | @joined switch removed events stage told =>
    refine ⟨⟨_, connection?_enter hc _, ?_⟩, ?_⟩
    · cases removed <;> exact .of_past rfl rfl fun _ => rfl
    · rcases told with ⟨-, rfl⟩ | ⟨-, rfl⟩ <;> simp [Event.isPlain]
  | notified stage =>
    exact ⟨⟨_, connection?_enter hc .ended, .of_past rfl rfl fun _ => rfl⟩, by simp [Event.isPlain]⟩

/-- What a driving task takes in as it looks at the bytes at hand. -/
lemma decide_takes {c : Connection} {w : Awaiting} (hc : s.connection? i = some c)
    (stage : c.stage = .deciding w) :
    ∃ c', (s.decide i c w).1.connection? i = some c' ∧
      Takes s.settings.maxFrameLength c c' (Event.bytesRead i (s.decide i c w).2)
        (Event.framesReceived i (s.decide i c w).2)
        (drawnOfDecoding (Frame.decode s.settings.maxFrameLength c.inbound).1) ∧
      ∀ e ∈ (s.decide i c w).2, e.isPlain = true ∨ ∃ frame, e = .received i frame := by
  rcases decoded : Frame.decode s.settings.maxFrameLength c.inbound with ⟨answer, rest⟩
  have left : (s.modifyConnection i fun c => { c with inbound := rest }).connection? i =
      some { c with inbound := rest } := by simp [hc]
  unfold decide
  rw [decoded]
  rcases answer with e | _ | frame
  · obtain ⟨closes, remarks⟩ :=
      fail_closes (s.modifyConnection i fun c => { c with inbound := rest }) i w (.frame e)
    have plain (e : Event) (he : e ∈ _) := Event.isPlain_of_isRemark (remarks e he)
    obtain ⟨unread, unreceived⟩ := untaken_of_plain plain i
    dsimp only
    rw [unread, unreceived, closes]
    exact ⟨_, connection?_enter left _, .refused stage decoded rfl, fun e he => .inl (plain e he)⟩
  · exact ⟨_, connection?_enter left _, .wants stage decoded rfl, by simp⟩
  · obtain ⟨c', hc', inbound, still, heeds, remarks⟩ := heeds_receive _ i c w frame left
    have plain (e : Event) (he : e ∈ _) := Event.isPlain_of_isRemark (remarks e he)
    obtain ⟨unread, unreceived⟩ := untaken_of_plain plain i
    have frames (events : List Event) : Event.framesReceived i (.received i frame :: events) =
        frame :: Event.framesReceived i events := by simp [Event.framesReceived]
    have bytes (events : List Event) : Event.bytesRead i (.received i frame :: events) =
        Event.bytesRead i events := by simp [Event.bytesRead]
    dsimp only
    rw [bytes, frames, unread, unreceived]
    refine ⟨c', hc', .took stage (inbound ▸ decoded) still heeds, fun e he => ?_⟩
    rcases List.mem_cons.1 he with rfl | he
    · exact .inr ⟨frame, rfl⟩
    · exact .inl (plain e he)

/-- What a driving task takes in as a read ends. -/
lemma afterRead_takes {c : Connection} {w : Awaiting} {call : Call} (stage : c.stage = .reading w call)
    {u : State} {locks : Transport.Locks Actor} (hu : u.connection? i = some { c with locks })
    (limit : Nat) (answer : Except Transport.Failure Transport.Reply) :
    ∃ c', (u.afterRead i w answer).1.connection? i = some c' ∧
      Takes limit c c' (Event.bytesRead i (u.afterRead i w answer).2)
        (Event.framesReceived i (u.afterRead i w answer).2) (drawnOfRead answer) ∧
      ∀ e ∈ (u.afterRead i w answer).2, e.isPlain = true ∨ ∃ bytes, e = .read i bytes := by
  have closes (f : Failure) : (u.fail i w f).1.connection? i =
        some { c with locks, stage := .closing w.served (closeCall u.now) } ∧
      (∀ e ∈ (u.fail i w f).2, e.isPlain = true) ∧
      Event.bytesRead i (u.fail i w f).2 = [] ∧ Event.framesReceived i (u.fail i w f).2 = [] := by
    obtain ⟨closes, remarks⟩ := u.fail_closes i w f
    have plain (e : Event) (he : e ∈ _) := Event.isPlain_of_isRemark (remarks e he)
    exact ⟨by rw [closes]; exact connection?_enter hu _, plain, untaken_of_plain plain i⟩
  unfold afterRead
  split
  next =>
    obtain ⟨hc', plain, unread, unreceived⟩ := closes .peerClosed
    rw [unread, unreceived]
    exact ⟨_, hc', .ended stage rfl, fun e he => .inl (plain e he)⟩
  next bytes some_read =>
    have longer : (u.modifyConnection i fun c => { c with inbound := c.inbound ++ bytes }).connection? i =
        some { c with locks, inbound := c.inbound ++ bytes } := by simp [hu]
    have taken : Event.bytesRead i [.read i bytes] = bytes := by simp [Event.bytesRead]
    have some_read : bytes ≠ [] := fun e => some_read (e ▸ rfl)
    dsimp only
    rw [taken, drawnOfRead_data some_read]
    exact ⟨_, connection?_enter longer _, .read stage some_read rfl rfl, by simp⟩
  next reply ne_end ne_data =>
    -- No read answers anything else; the bytes at hand would be looked at once more.
    have draws : drawnOfRead (.ok reply) = none := by
      cases reply with
      | data bytes => exact (ne_data bytes rfl).elim
      | written n | done => rfl
    dsimp only
    rw [draws]
    refine ⟨_, connection?_enter hu _, .rests ?_, by simp⟩
    exact .of_reply rfl rfl (.inl rfl) (.inl (by rw [stage]; rfl)) (by rw [stage]; rfl)
  next f =>
    obtain ⟨hc', plain, unread, unreceived⟩ := closes (.transport f)
    rw [unread, unreceived]
    exact ⟨_, hc', .failed stage rfl, fun e he => .inl (plain e he)⟩

/-- A look at the bytes at hand comes to what decoding them does. -/
lemma draws?_of_deciding {c : Connection} {w : Awaiting} (hc : s.connection? i = some c)
    (stage : c.stage = .deciding w) (d : Disposition) :
    s.draws? i d = drawnOfDecoding (Frame.decode s.settings.maxFrameLength c.inbound).1 := by
  unfold draws?
  rw [hc, Option.bind_some, stage]

/-- A poll of a call for the next frame that is not ready comes to nothing yet. -/
lemma draws?_of_pending {d : Disposition} {c : Connection} {job : Job} {call : Call} {u : State}
    {put : List Event} (hc : s.connection? i = some c) (under : c.stage.job? i = some job)
    (poll : s.poll? job.line (.driver i) d job.call = some (u, put, .pending call)) :
    s.draws? i d = none := by
  unfold draws?
  rw [hc, Option.bind_some]
  split
  next w stage =>
    rw [stage] at under
    cases under
  next w call stage =>
    rw [stage] at under
    cases under
    rw [poll]
    rfl
  next => rfl

/-- A poll of a call for the next frame that is ready comes to what it answers. -/
lemma draws?_of_ready {d : Disposition} {c : Connection} {w : Awaiting} {call : Call} {u : State}
    {put : List Event} {answer : Except Transport.Failure Transport.Reply}
    (hc : s.connection? i = some c) (stage : c.stage = .reading w call)
    (poll : s.poll? i (.driver i) d call = some (u, put, .ready answer)) :
    s.draws? i d = drawnOfRead answer := by
  unfold draws?
  rw [hc, Option.bind_some, stage]
  show (s.poll? i (.driver i) d call).bind _ = _
  rw [poll]
  rfl

/-- A task that is at no call for the next frame comes to nothing about it. -/
lemma draws?_of_elsewhere {c : Connection} (hc : s.connection? i = some c)
    (elsewhere : ∀ w call, c.stage ≠ .deciding w ∧ c.stage ≠ .reading w call) (d : Disposition) :
    s.draws? i d = none := by
  unfold draws?
  rw [hc, Option.bind_some]
  split
  next w stage => exact ((elsewhere w (closeCall 0)).1 stage).elim
  next w call stage => exact ((elsewhere w call).2 stage).elim
  next => rfl

/-- **What a step of the driving task of a line takes in.** -/
theorem drive?_takes {d : Disposition} {events : List Event} (h : s.drive? i d = some (t, events)) :
    ∃ c c', s.connection? i = some c ∧ t.connection? i = some c' ∧
      Takes s.settings.maxFrameLength c c' (Event.bytesRead i events) (Event.framesReceived i events)
        (s.draws? i d) ∧
      ∀ e ∈ events, e.isPlain = true ∨ (∃ bytes, e = .read i bytes) ∨
        ∃ frame, e = .received i frame := by
  obtain ⟨c, hc, step⟩ := drive?_stepped h
  refine ⟨c, ?_⟩
  have nothing (rest : AtRest i c t events) (draws : s.draws? i d = none) :
      ∃ c', s.connection? i = some c ∧ t.connection? i = some c' ∧
        Takes s.settings.maxFrameLength c c' (Event.bytesRead i events)
          (Event.framesReceived i events) (s.draws? i d) ∧
        ∀ e ∈ events, e.isPlain = true ∨ (∃ bytes, e = .read i bytes) ∨
          ∃ frame, e = .received i frame := by
    obtain ⟨⟨c', hc', rests⟩, plain⟩ := rest
    obtain ⟨unread, unreceived⟩ := untaken_of_plain plain i
    rw [draws, unread, unreceived]
    exact ⟨c', hc, hc', .rests rests, fun e he => .inl (plain e he)⟩
  by_cases elsewhere : ∀ w call, c.stage ≠ .deciding w ∧ c.stage ≠ .reading w call
  · exact nothing (rests_of_stepped step hc elsewhere) (draws?_of_elsewhere hc elsewhere d)
  cases step with
  | decided stage next =>
    subst next
    obtain ⟨c', hc', takes, seen⟩ := decide_takes hc stage
    rw [draws?_of_deciding hc stage]
    exact ⟨c', hc, hc', takes, fun e he => (seen e he).imp_right .inr⟩
  | @got w call u put answer r stage poll next =>
    subst next
    obtain ⟨locks, bytes, polled, rfl⟩ := connection?_of_poll? poll hc
    obtain ⟨c', hc', takes, seen⟩ := afterRead_takes stage polled s.settings.maxFrameLength answer
    have plain (e : Event) (he : e ∈ putEvents i (.driver i) bytes) : e.isPlain = true :=
      isPlain_of_mem_putEvents he
    obtain ⟨unread, unreceived⟩ := untaken_of_plain plain i
    rw [draws?_of_ready hc stage poll, Event.bytesRead_append, Event.framesReceived_append, unread,
      unreceived]
    refine ⟨c', hc, hc', takes, fun e he => ?_⟩
    rcases List.mem_append.1 he with he | he
    · exact .inl (plain e he)
    · exact (seen e he).imp_right .inl
  | waited under poll => exact nothing (.waited hc under poll) (draws?_of_pending hc under poll)
  | opened stage | wrote stage | registered stage | displaced stage | launched stage | closed stage
  | deregistered stage | joined stage | notified stage =>
    exact (elsewhere fun w call => by simp [stage]).elim

/-- **A driving task goes on with what its call for the next frame comes to**: it receives the frame,
or ends what it was at because of the failure. -/
theorem drive?_of_draws {d : Disposition} {answer : Except Failure Frame} {events : List Event}
    (draws : s.draws? i d = some answer) (h : s.drive? i d = some (t, events)) :
    ∃ (u : State) (w : Awaiting), match answer with
      | .ok frame => ∃ c, t = (u.receive i c w frame).1 ∧
          events = .received i frame :: (u.receive i c w frame).2
      | .error f => t = (u.fail i w f).1 ∧ ∃ put, events = put ++ (u.fail i w f).2 := by
  obtain ⟨c, hc, step⟩ := drive?_stepped h
  by_cases elsewhere : ∀ w call, c.stage ≠ .deciding w ∧ c.stage ≠ .reading w call
  · rw [draws?_of_elsewhere hc elsewhere] at draws
    cases draws
  cases step with
  | @decided w r stage next =>
    rw [draws?_of_deciding hc stage] at draws
    unfold decide at next
    rcases decoded : Frame.decode s.settings.maxFrameLength c.inbound with ⟨_ | _ | frame, rest⟩
    · rw [decoded] at draws next
      cases draws
      exact ⟨_, w, (Prod.ext_iff.1 next).1.symm, [], (Prod.ext_iff.1 next).2.symm⟩
    · rw [decoded] at draws
      cases draws
    · rw [decoded] at draws next
      cases draws
      exact ⟨_, w, c, (Prod.ext_iff.1 next).1.symm, (Prod.ext_iff.1 next).2.symm⟩
  | @got w call u put reply r stage poll next =>
    subst next
    rw [draws?_of_ready hc stage poll] at draws
    rcases reply with f | bytes | n | _
    · cases draws
      exact ⟨u, w, rfl, put, rfl⟩
    · cases bytes with
      | nil =>
        cases draws
        exact ⟨u, w, rfl, put, rfl⟩
      | cons b bytes => cases draws
    · cases draws
    · cases draws
  | waited under poll =>
    rw [draws?_of_pending hc under poll] at draws
    cases draws
  | opened stage | wrote stage | registered stage | displaced stage | launched stage | closed stage
  | deregistered stage | joined stage | notified stage =>
    exact (elsewhere fun w call => by simp [stage]).elim

/-! ### What a line has taken in -/

/-- The bytes at hand on a line, until when the handshake may last, and how far its driving task has
come. -/
def intake? (s : State) (i : Nat) : Option (List UInt8 × Nat × Stage) :=
  (s.connection? i).map fun c => (c.inbound, c.handshakeDeadline, c.stage)

lemma intake?_of_connection? {c : Connection} (h : s.connection? i = some c) :
    s.intake? i = some (c.inbound, c.handshakeDeadline, c.stage) := by
  simp [intake?, h]

lemma intake?_congr (h : t.connection? i = s.connection? i) : t.intake? i = s.intake? i := by
  unfold intake?
  rw [h]

section Elsewhere

variable (s : State) (i j : Nat)

/-- A change of the connection of another line, or one of something else. -/
lemma intake?_modifyConnection {f : Connection → Connection}
    (hf : j ≠ i ∨ ∀ c, (f c).inbound = c.inbound ∧ (f c).handshakeDeadline = c.handshakeDeadline ∧
      (f c).stage = c.stage) :
    (s.modifyConnection j f).intake? i = s.intake? i := by
  unfold intake?
  rw [connection?_modifyConnection]
  split
  next hj =>
    rcases hf with ne | same
    · exact (ne hj).elim
    · rw [Option.map_map]
      congr 1
      funext c
      obtain ⟨inbound, deadline, stage⟩ := same c
      simp only [Function.comp_apply, inbound, deadline, stage]
  next => rfl

lemma intake?_modifyLink (f : Line → Transport.Link) :
    (s.modifyLine j fun l => { l with link := f l }).intake? i = s.intake? i :=
  intake?_congr (s.connection?_modifyLink j i f)

variable {s j} in
lemma intake?_polled {c : Connection} (hc : s.connection? j = some c) (p : Polled Actor) :
    (s.polled j c p).intake? i = s.intake? i := by
  unfold intake?
  rw [connection?_polled hc]
  split
  next hj =>
    subst hj
    rw [hc]
    rfl
  next => rfl

variable {i j} (ne : j ≠ i)
include ne

lemma intake?_enter (stage : Stage) : (s.enter j stage).intake? i = s.intake? i :=
  s.intake?_modifyConnection i j (.inl ne)

lemma intake?_afterClose (served : Option Reference) :
    (s.afterClose j served).intake? i = s.intake? i := by
  unfold afterClose
  cases served with
  | some switch =>
    dsimp only
    rw [intake?_enter _ ne, s.intake?_modifyConnection i j (.inl ne)]
  | none =>
    dsimp only
    rw [intake?_modifyLink _ i j fun l => l.link.close .server, intake?_enter _ ne,
      s.intake?_modifyConnection i j (.inl ne)]

lemma intake?_register (c : Connection) (d : Switch.DatapathId) :
    (s.register j c d).1.intake? i = s.intake? i := by
  unfold register
  split
  · exact s.intake?_enter ne _
  next session ready =>
    have set := s.intake?_modifyConnection i j (f := fun c => { c with session }) (.inl ne)
    dsimp only
    split
    · exact (intake?_enter _ ne _).trans set
    · exact (intake?_enter _ ne _).trans set

end Elsewhere

end State

section Elsewhere

variable {s t : State} {i j : Nat} {events : List Event}

open State

lemma Turned.intake?_of_ne {served : Option Reference} {r : State × List Event}
    (h : Turned s j served r) (ne : j ≠ i) : r.1.intake? i = s.intake? i := by
  obtain ⟨-, g, stage, e, -⟩ := h
  rw [e]
  exact s.intake?_modifyConnection i j (.inl ne)

/-- The driving task of another line leaves the bytes at hand alone. -/
lemma Drove.intake?_of_ne {c : Connection} (h : Drove s j c t events) (ne : j ≠ i) :
    t.intake? i = s.intake? i := by
  cases h with
  | turned idle same turn => exact turn.intake?_of_ne ne
  | waited under polling pending => rw [intake?_enter _ ne, intake?_polled i polling.connection]
  | wrote stage polling ready turn =>
    rw [turn.intake?_of_ne ne, intake?_polled i polling.connection]
  | got stage polling ready turn =>
    rw [turn.intake?_of_ne ne, intake?_polled i polling.connection]
  | displaced stage polling ready => rw [intake?_enter _ ne, intake?_polled i polling.connection]
  | closed stage polling ready => rw [intake?_afterClose _ ne, intake?_polled i polling.connection]
  | registered stage => exact s.intake?_register ne c _
  | launched stage => rw [intake?_enter _ ne]; exact s.intake?_modifyConnection i j (.inl ne)
  | deregistered stage => exact s.intake?_enter ne _
  | joined stage told silent => exact s.intake?_enter ne _
  | notified stage => exact s.intake?_enter ne _

lemma Sent.intake? {who : Actor} {sending : Sending}
    {result : Sending ⊕ Except Failure UInt32} (h : Sent s who sending t events result) :
    t.intake? i = s.intake? i := by
  cases h with
  | found find | unknown find => rfl
  | begun connection encoded | refused connection encoded =>
    exact s.intake?_modifyConnection i _ (.inr fun _ => ⟨rfl, rfl, rfl⟩)
  | waited polling pending | wrote polling ready => exact intake?_polled i polling.connection _

/-- A handler leaves the bytes at hand alone. -/
lemma Handled.intake? {c : Connection} (h : Handled s j c t events) : t.intake? i = s.intake? i := by
  have told (u : State) (news : News) : (u.tell j news).intake? i = u.intake? i :=
    u.intake?_modifyConnection i j (.inr fun _ => ⟨rfl, rfl, rfl⟩)
  cases h with
  | called was now | observed was | attempted was | completed was => exact told s _
  | sent was step | delivered was step | aborted was step => exact (told _ _).trans step.intake?
  | settled was handler settle =>
    obtain ⟨handler, stopping, news, e, -⟩ := s.settle_effect j _ _
    rw [e]
    exact told { s with handler, stopping } news

/-- A call from outside leaves the bytes at hand alone. -/
lemma Answered.intake? {k : Nat} {caller : Caller} (h : Answered s k caller t events) :
    t.intake? i = s.intake? i := by
  cases h with
  | sent step | delivered step | failed step => exact step.intake?
  | waited polling pending | closed polling ready => exact intake?_polled i polling.connection _

/-! ### What every step takes in -/

namespace State

/-- The accepting task changes no handler, and has nothing to say of one. -/
lemma accept?_plain {d : Disposition} (h : s.accept? d = some (t, events)) :
    t.handler = s.handler ∧ ∀ e ∈ events, e.isPlain = true := by
  have lost : s.loseFirst.handler = s.handler := by
    unfold loseFirst
    split <;> rfl
  cases accept?_admitted h with
  | waits | resumes | leaves => exact ⟨rfl, by simp⟩
  | takes acceptor calm backlog =>
    unfold acceptFirst
    rw [backlog]
    exact ⟨rfl, by simp [Event.isPlain]⟩
  | @fails call e operation started lose acceptor calm =>
    refine ⟨?_, by simp [Event.isPlain]⟩
    cases lose with
    | true => exact lost
    | false => rfl
  | ends acceptor done =>
    obtain ⟨lines, e, -⟩ := Aside.closing_links s.backlog s
    unfold stopListening
    rw [e]
    exact ⟨rfl, by simp⟩

/-- The world around the tasks changes neither the handler nor the accepting task, and a step of it
shows nothing. -/
lemma step?_silent {a : Action} (h : s.step? a = some (t, events)) (task : a.task? = none) :
    t.handler = s.handler ∧ t.acceptor = s.acceptor ∧ events = [] := by
  obtain ⟨around, rfl⟩ := step?_around h task
  cases around with
  | called call =>
    obtain ⟨caller, rfl, -⟩ := call?_eq_some call
    exact ⟨rfl, rfl, rfl⟩
  | _ => exact ⟨rfl, rfl, rfl⟩

end State

lemma Sent.plain {who : Actor} {sending : Sending} {result : Sending ⊕ Except Failure UInt32}
    (h : Sent s who sending t events result) : ∀ e ∈ events, e.isPlain = true := by
  cases h with
  | found | unknown | refused => simp
  | begun => simp [Event.isPlain]
  | waited polling pending => exact fun e he => isPlain_of_mem_putEvents he
  | wrote polling ready =>
    intro e he
    rcases List.mem_append.1 he with he | he
    · exact isPlain_of_mem_putEvents he
    · rw [List.mem_singleton.1 he]
      rfl

lemma Answered.plain {k : Nat} {caller : Caller} (h : Answered s k caller t events) :
    ∀ e ∈ events, e.isPlain = true := by
  cases h with
  | sent step | delivered step | failed step => exact step.plain
  | waited polling pending | closed polling ready => exact fun e he => isPlain_of_mem_putEvents he

/-- What the world sees of a step of settling a burst. -/
lemma mem_settle {switch : Reference} {effect : Harness.Effect} {e : Event}
    (h : e ∈ (s.settle i switch effect).2) :
    (∃ n, e = .notice n) ∨ e = .stopRequested ∨ e = .readyReturned i switch := by
  have settling (he : e ∈ (effect.notices.map fun n => Event.notice (.harness n)) ++
      if effect.stop then [.stopRequested] else []) : (∃ n, e = .notice n) ∨ e = .stopRequested := by
    rcases List.mem_append.1 he with he | he
    · obtain ⟨n, -, rfl⟩ := List.mem_map.1 he
      exact .inl ⟨_, rfl⟩
    · split at he
      · exact .inr (List.mem_singleton.1 he)
      · cases he
  unfold State.settle at h
  dsimp only at h
  split at h
  · rcases List.mem_append.1 h with he | he
    · exact (settling he).imp_right .inl
    · exact .inr (.inr (List.mem_singleton.1 he))
  · exact (settling h).imp_right .inl

lemma Handled.untaken {c : Connection} (h : Handled s j c t events) :
    ∀ e ∈ events, e.taker? = none := by
  cases h with
  | called | observed | attempted | completed => simp [Event.taker?]
  | sent was step | delivered was step =>
    exact fun e he => Event.taker?_of_isPlain (step.plain e he)
  | aborted was step =>
    intro e he
    rcases List.mem_append.1 he with he | he
    · exact Event.taker?_of_isPlain (step.plain e he)
    · rw [List.mem_singleton.1 he]
      rfl
  | settled was handler settle =>
    intro e he
    rcases mem_settle he with ⟨n, rfl⟩ | rfl | rfl <;> rfl

/-- What a step does to the bytes at hand on a line: nothing, or the line is accepted, or its driving
task takes something in. -/
inductive Fed (s t : State) (i : Nat) (events : List Event) : Option (Except Failure Frame) → Prop
  | rests (same : t.intake? i = s.intake? i)
      (untaken : Event.bytesRead i events = [] ∧ Event.framesReceived i events = []) :
      Fed s t i events none
  | begins (fresh : s.connection? i = none) (opening : t.intake? i = some ([], 0, .opening))
      (untaken : Event.bytesRead i events = [] ∧ Event.framesReceived i events = []) :
      Fed s t i events none
  | takes {c c' : Connection} {drawn : Option (Except Failure Frame)}
      (was : s.connection? i = some c) (now : t.connection? i = some c')
      (takes : Takes s.settings.maxFrameLength c c' (Event.bytesRead i events)
        (Event.framesReceived i events) drawn) : Fed s t i events drawn

/-- **What a step of a run takes in on a line.** -/
theorem step?_takes (orderly : s.Orderly) {a : Action} (h : s.step? a = some (t, events)) (i : Nat) :
    Fed s t i events (s.drawn? i a) := by
  have undrawn (other : a.task? ≠ some (.driver i)) : s.drawn? i a = none := by
    cases a with
    | run who d => exact if_neg fun e => other (by rw [e]; rfl)
    | _ => rfl
  have world (task : a.task? = none) (same : t.connection? i = s.connection? i) :
      Fed s t i events (s.drawn? i a) := by
    obtain ⟨-, -, rfl⟩ := State.step?_silent h task
    rw [undrawn (by simp [task])]
    exact .rests (State.intake?_congr same) ⟨rfl, rfl⟩
  cases State.step?_moved h with
  | @drove j d c _ _ hc step =>
    by_cases own : j = i
    · subst own
      obtain ⟨c, c', hc, hc', takes, -⟩ := State.drive?_takes h
      rw [show s.drawn? j (.run (.driver j) d) = s.draws? j d from if_pos rfl]
      exact .takes hc hc' takes
    · rw [undrawn (by simpa [Action.task?] using own)]
      obtain ⟨c, c', -, -, -, seen⟩ := State.drive?_takes h
      refine .rests (step.intake?_of_ne own) (Event.untaken fun e he => ?_)
      rcases seen e he with plain | ⟨bytes, rfl⟩ | ⟨frame, rfl⟩
      · simp [Event.taker?_of_isPlain plain]
      · simpa [Event.taker?] using own
      · simpa [Event.taker?] using own
  | told hc step =>
    rw [undrawn (by simp [Action.task?])]
    exact .rests step.intake? (Event.untaken fun e he => by simp [step.untaken e he])
  | answered call step =>
    rw [undrawn (by simp [Action.task?])]
    exact .rests step.intake? (untaken_of_plain step.plain i)
  | @accepted d k rest started acceptor backlog =>
    obtain ⟨session, -, -, -, hn, connection, seen⟩ := State.core?_acceptFirst orderly backlog
    rw [undrawn (by simp [Action.task?]), seen]
    by_cases own : k = i
    · subst own
      refine .begins hn ?_ ⟨rfl, rfl⟩
      unfold State.intake?
      rw [connection, if_pos rfl]
      rfl
    · refine .rests (State.intake?_congr ?_) ⟨rfl, rfl⟩
      rw [connection, if_neg own]
  | called call =>
    obtain ⟨caller, rfl, -⟩ := State.call?_eq_some call
    exact world rfl rfl
  | @connected peer going => exact world rfl (State.connection?_connect s peer i)
  | aside moved task silent quiet =>
    rcases task with task | task
    · exact world task (moved.connection i)
    · rw [undrawn (by simp [task])]
      have plain : ∀ e ∈ events, e.isPlain = true := by
        cases a with
        | run who d =>
          cases task
          exact (State.accept?_plain h).2
        | _ => cases task
      exact .rests (State.intake?_congr (moved.connection i)) (untaken_of_plain plain i)

end Elsewhere

end FlowBurst.Controller
