import FlowBurst.Proofs.EchoService
import FlowBurst.Proofs.Recognition

/-!
# How a handshake ends

When the exchange on a line comes to something, in a step in which no call fails, it comes to what the
frames of the switch make of it, whatever pieces their bytes arrive in. The frames written by then are
those that the exchange says, and the ones behind the frame that decides are untouched. Main statements:
`recognised_of_concludes`, `recognised_of_step`.
-/

namespace FlowBurst.Controller

open FlowBurst.OpenFlow (Features Frame)
open FlowBurst.Switch (Failure)
open FlowBurst.Transport (Call Disposition Link Reply)

/-! ### Lines in the handshake -/

lemma Stage.phase_of_exchanging {stage : Stage} (exchanging : stage.part.isExchanging = true) :
    stage.phase = .arriving ∧ stage.isOver = false := by
  have awaiting {w : Awaiting} (exchanging : (Part.awaiting w).isExchanging = true) :
      Phase.of w.served = .arriving := by
    cases w with
    | hello | features => rfl
    | service switch => cases exchanging
  cases stage with
  | opening => exact ⟨rfl, rfl⟩
  | deciding w | reading w call => exact ⟨awaiting exchanging, rfl⟩
  | writing purpose frame call =>
    cases purpose with
    | echo w => exact ⟨awaiting exchanging, rfl⟩
    | greeting | rejection version | featuresRequest => exact ⟨rfl, rfl⟩
  | _ => cases exchanging

lemma Stage.part_of_receiving {stage : Stage} {w : Awaiting} (receiving : stage.receiving? = some w) :
    stage.part = .awaiting w := by
  cases stage <;> cases receiving <;> rfl

lemma State.phase_of_exchanging {s : State} {i : Nat} (exchanging : (s.part i).isExchanging = true)
    {c : Connection} (hc : s.connection? i = some c) :
    c.stage.phase = .arriving ∧ c.stage.isOver = false := by
  rw [State.part_of_connection hc] at exchanging
  exact Stage.phase_of_exchanging exchanging

section Lines

variable {s : State} {i : Nat} {settings : Settings} {handler : Handler} {capacity : Nat}
  {actions : List Action} {events : List Event}
  (run : (State.start settings handler capacity).steps? actions = some (s, events))
include run

/-- The switch of a line that has yet to register is not known. -/
lemma unknown_of_arriving
    (arriving : ∀ c, s.connection? i = some c → c.stage.phase = .arriving) : s.datapath? i = none := by
  rw [datapath?_of_standing?]
  cases hx : s.standing? i with
  | none => rfl
  | some x =>
    obtain ⟨c, hc, -, stage⟩ := connection?_of_standing? hx
    exact (standing_of_steps? run).datapath_of_arriving hx (stage ▸ arriving c hc)

lemma unknown_of_exchanging (exchanging : (s.part i).isExchanging = true) : s.datapath? i = none :=
  unknown_of_arriving run fun _ hc => (State.phase_of_exchanging exchanging hc).1

/-- No write has failed on a line whose exchange goes on. -/
lemma unfailed_of_exchanging (exchanging : (s.part i).isExchanging = true) : Unfailed i events := by
  intro who frame f failed
  rcases settled_of_steps? run failed with ⟨k, known, channel⟩ | ⟨session, stage, hx, -, given_up⟩
  · obtain ⟨c, hc⟩ := connection?_of_knows known
    rw [channel] at hc
    have unknown := unknown_of_exchanging run exchanging
    unfold State.datapath? at unknown
    rw [hc] at unknown
    exact datapath_of_knows known channel hc unknown
  · obtain ⟨c, hc, -, stage_eq⟩ := connection?_of_standing? hx
    have finished := (State.phase_of_exchanging exchanging hc).2
    rw [stage_eq] at finished
    rcases given_up with rfl | ⟨call, rfl⟩ <;> cases finished

/-- **What is written on a line whose switch is not known**, while its driving task is at no frame, is
what that has begun to write. -/
theorem written_of_unknown (unfailed : Unfailed i events) (unknown : s.datapath? i = none)
    (idle : ∀ job, s.job? (.driver i) = some job → job.frame = none) :
    Event.framesWritten i events = (Event.framesBegun i (.driver i) events).map (.driver i, ·) ∧
      Event.wire i events = (Event.framesBegun i (.driver i) events).flatMap Frame.bytes := by
  obtain ⟨pieces, part, ledger⟩ := ledger_of_steps? i run
  have spoken : s.spoken i events = Event.framesWritten i events := by
    unfold State.spoken
    cases head : (s.writers i).head? with
    | none => simp [State.framesOf]
    | some who =>
      obtain ⟨job, under, line⟩ := ledger.desk.queued who (List.mem_of_mem_head? head)
      obtain ⟨rfl, -⟩ := alone_of_unknown run unknown under line
      rw [State.framesOf_job under, idle job under]
      exact List.append_nil _
  have own : ∀ w ∈ Event.framesWritten i events, w.1 = .driver i := by
    rintro ⟨who, frame⟩ member
    by_contra apart
    have begun := mem_of_spoken run unfailed (spoken ▸ member)
    rw [framesBegun_eq apart, (voiced_of_steps? i run).unmet unknown] at begun
    cases begun
  have begun : Event.framesBegun i (.driver i) events = (Event.framesWritten i events).map (·.2) := by
    obtain ⟨waiting, waits, e⟩ := spoken_by run unfailed (.driver i)
    have none_waits : s.writing i (.driver i) = [] := by
      unfold State.writing
      cases under : s.job? (.driver i) with
      | none => rfl
      | some job => simp [idle job under]
    rw [none_waits, List.suffix_nil] at waits
    rw [e, waits, List.append_nil, spoken, List.filter_eq_self.2 fun w hw => by simpa using own w hw]
  refine ⟨begun ▸ eq_map_of_own own, ?_⟩
  obtain ⟨least, most⟩ := wire_of_steps? run i unfailed
  rw [spoken] at most
  rw [begun, List.flatMap_map]
  exact (most.eq_of_length_le least.length_le)

end Lines

/-! ### What is still to come -/

/-- **A stream holds some frames**: decoding it gives those, and then comes to its end without an error. -/
def Holds (limit : Nat) (stream : List UInt8) (frames : List Frame) : Prop :=
  verdicts limit stream = (frames.map .ok : List (Except Failure Frame)) ++ [.error .peerClosed]

/-- Calls none of which failed gave frames. -/
lemma map_ok_of_fine {answers : List (Except Failure Frame)} (fine : ∀ f, .error f ∉ answers) :
    answers = (answers.filterMap Except.toOption).map .ok := by
  induction answers with
  | nil => rfl
  | cons answer rest ih =>
    cases answer with
    | error f => exact (fine f List.mem_cons_self).elim
    | ok frame =>
      show _ = Except.ok frame :: (rest.filterMap Except.toOption).map .ok
      rw [← ih fun f hf => fine f (List.mem_cons_of_mem _ hf)]

namespace Holds

variable {limit : Nat} {bytes rest more stream : List UInt8} {frames : List Frame}

/-- A stream whose first verdicts are some frames holds those first, and then what the other verdicts
give. -/
lemma split (h : Holds limit stream frames) (received : List Frame)
    (first : verdicts limit stream = (received.map .ok : List (Except Failure Frame)) ++
      verdicts limit bytes) :
    ∃ future, frames = received ++ future ∧ Holds limit bytes future := by
  unfold Holds at h
  rw [h] at first
  unfold Holds
  clear h
  induction received generalizing frames with
  | nil => exact ⟨frames, rfl, first.symm⟩
  | cons frame _ ih =>
    cases frames with
    | nil => simp at first
    | cons _ frames =>
      simp only [List.map_cons, List.cons_append, List.cons.injEq, Except.ok.injEq] at first
      obtain ⟨rfl, first⟩ := first
      obtain ⟨future, rfl, e⟩ := ih first
      exact ⟨future, rfl, e⟩

lemma of_frame {frame : Frame} (decoded : Frame.decode limit bytes = (.ok (some frame), rest))
    (h : Holds limit (bytes ++ more) frames) : ∃ future, frames = frame :: future := by
  obtain ⟨future, e, -⟩ := h.split [frame] (verdicts_of_frame decoded more)
  exact ⟨future, e⟩

lemma of_none (decoded : Frame.decode limit bytes = (.ok none, rest)) (h : Holds limit bytes frames) :
    frames = [] := by
  unfold Holds at h
  rw [verdicts_of_none decoded] at h
  cases frames with
  | nil => rfl
  | cons frame frames => simp at h

lemma not_error {e : OpenFlow.FrameError} (decoded : Frame.decode limit bytes = (.error e, rest)) :
    ¬ Holds limit (bytes ++ more) frames := by
  unfold Holds
  rw [verdicts_of_error decoded]
  cases frames <;> simp

end Holds

section Run

variable {s : State} {i : Nat} {settings : Settings} {handler : Handler} {capacity : Nat}
  {actions : List Action} {events : List Event} {stream : List UInt8} {frames : List Frame}
  (run : (State.start settings handler capacity).steps? actions = some (s, events))
include run

/-- **What the bytes at hand still come to**, with those that have yet to be read, is the frames that
were not received. -/
theorem future_of_going {c : Connection} (hc : s.connection? i = some c)
    (going : c.stage.isOver = false) {tail : List UInt8}
    (decoded : Holds settings.maxFrameLength (Event.bytesRead i events ++ tail) frames) :
    ∃ future, frames = Event.framesReceived i events ++ future ∧
      Holds settings.maxFrameLength (c.inbound ++ tail) future ∧
      (c.stage.isReading = true →
        Frame.decode settings.maxFrameLength c.inbound = (.ok none, c.inbound)) := by
  obtain ⟨reception, received⟩ := reception_of_steps? run i
  rw [State.intake?_of_connection? hc] at reception
  generalize State.draws i _ actions = answers at reception received
  cases reception with
  | refused ceased | ended ceased | failed ceased =>
    rw [going] at ceased
    cases ceased
  | going fine whole dry =>
    have first := whole tail
    rw [map_ok_of_fine fine, ← received] at first
    obtain ⟨future, e, rest⟩ := decoded.split _ first
    exact ⟨future, e, rest, dry⟩

end Run

/-! ### The step in which an exchange comes to something -/

/-- **What a switch sends on a line**: what it has sent in a run, and then more unless it has ended its
sending. -/
structure Sends (s : State) (i : Nat) (actions : List Action) (stream : List UInt8) : Prop where
  sent : delivered i actions <+: stream
  all : ∀ l, s.link? i = some l → l.client.writingEnded = true → stream = delivered i actions

section Concludes

variable {s t : State} {i : Nat} {a : Action} {outcome : Except Failure Features} {more : List Event}

/-- How the exchange of a driving task comes to something: a call for the next frame returns, or a
write. -/
inductive Ending (s : State) (i : Nat) (c : Connection) (d : Disposition) :
    Except Failure Features → Prop
  | drew {w : Awaiting} {answer : Except Failure Frame} {outcome : Except Failure Features}
      (receiving : c.stage.receiving? = some w) (drawn : s.draws? i d = some answer)
      (comes : w.outcome? (s.peer i).text answer = some outcome) : Ending s i c d outcome
  | wrote {purpose : Purpose} {frame : Frame} {call : Call} {u : State} {put : List Event}
      {answer : Except Transport.Failure Reply} {outcome : Except Failure Features}
      (stage : c.stage = .writing purpose frame call)
      (poll : s.poll? i (.driver i) d call = some (u, put, .ready answer))
      (comes : purpose.outcome? (s.peer i).text answer = some outcome) : Ending s i c d outcome

lemma ending_of_concludes (concludes : s.concludes? i a = some outcome) :
    ∃ d c, a = .run (.driver i) d ∧ s.connection? i = some c ∧ Ending s i c d outcome := by
  obtain ⟨c, hc, h⟩ := Option.bind_eq_some_iff.1 concludes
  have drew {w : Awaiting} (receiving : c.stage.receiving? = some w)
      (h : (s.drawn? i a).bind (w.outcome? (s.peer i).text) = some outcome) :
      ∃ d c, a = .run (.driver i) d ∧ s.connection? i = some c ∧ Ending s i c d outcome := by
    obtain ⟨answer, drawn, comes⟩ := Option.bind_eq_some_iff.1 h
    cases a with
    | run who d =>
      by_cases own : who = .driver i
      · exact ⟨d, c, own ▸ rfl, hc, .drew receiving ((if_pos own).symm.trans drawn) comes⟩
      · rw [show s.drawn? i (.run who d) = none from if_neg own] at drawn
        cases drawn
    | _ => cases drawn
  cases stage : c.stage with
  | deciding w | reading w call =>
    rw [stage] at h
    exact drew (by rw [stage]; rfl) h
  | writing purpose frame call =>
    rw [stage] at h
    cases a with
    | run who d =>
      cases who with
      | driver j =>
        dsimp only at h
        split at h
        next own =>
          subst own
          obtain ⟨⟨u, put, progress⟩, poll, comes⟩ := Option.bind_eq_some_iff.1 h
          cases progress with
          | pending call => cases comes
          | ready answer => exact ⟨d, c, rfl, hc, .wrote stage poll comes⟩
        next => cases h
      | _ => cases h
    | _ => cases h
  | _ =>
    rw [stage] at h
    cases h

/-- What a frame makes of an exchange that it ends. -/
lemma Awaiting.exchange?_of_outcome {peer : String} {w : Awaiting} {frame : Frame}
    (comes : w.outcome? peer (.ok frame) = some outcome) (rest : List Frame) (xid : UInt32) :
    (Part.awaiting w).exchange? peer (frame :: rest) = some { outcome, said := [], rest } ∧
      (w.respond xid frame).1 = [] := by
  cases w with
  | service switch => cases comes
  | hello =>
    unfold outcome? at comes
    dsimp only at comes
    cases message : frame.message with
    | error report =>
      rw [message] at comes
      cases comes
      have settles : Awaiting.hello.settledBy frame = true := by simp [settledBy, message]
      refine ⟨congrArg some ?_, by simp [respond, message]⟩
      unfold recogniseHello
      rw [List.takeWhile_cons_of_neg (by simp [settles]), List.dropWhile_cons_of_neg (by simp [settles])]
      simp only [message]
      rfl
    | _ => simp [message] at comes
  | features =>
    unfold outcome? at comes
    dsimp only at comes
    cases message : frame.message with
    | error report | featuresReply told =>
      rw [message] at comes
      cases comes
      have settles : Awaiting.features.settledBy frame = true := by simp [settledBy, message]
      refine ⟨congrArg some ?_, by simp [respond, message]⟩
      unfold recogniseFeatures
      rw [List.takeWhile_cons_of_neg (by simp [settles]), List.dropWhile_cons_of_neg (by simp [settles])]
      simp only [message]
      rfl
    | _ => simp [message] at comes

/-- A failed call ends an exchange with the failure. -/
lemma Awaiting.outcome?_error {peer : String} {w : Awaiting} {f : Failure}
    (comes : w.outcome? peer (.error f) = some outcome) :
    outcome = .error f ∧ (Part.awaiting w).isExchanging = true := by
  cases w with
  | service switch => cases comes
  | hello | features =>
    cases comes
    exact ⟨rfl, rfl⟩

/-- What the end of the frames makes of an exchange. -/
lemma Awaiting.exchange?_nil {peer : String} {w : Awaiting}
    (handshake : (Part.awaiting w).isExchanging = true) :
    (Part.awaiting w).exchange? peer [] =
      some { outcome := .error .peerClosed, said := [], rest := [] } := by
  cases w with
  | hello | features => rfl
  | service switch => cases handshake

/-- A read comes to the end of the stream only where nothing has arrived and no more will come. -/
lemma eof_of_draws? {c : Connection} (hc : s.connection? i = some c) (reads : c.Reads) {w : Awaiting}
    {call : Call} (stage : c.stage = .reading w call) {d : Disposition}
    (drawn : s.draws? i d = some (.error .peerClosed)) :
    ∃ l, s.link? i = some l ∧ l.server.arrived = [] ∧
      (l.server.readingEnded = true ∨ l.client.writingEnded = true) := by
  unfold State.draws? at drawn
  rw [hc, Option.bind_some, stage] at drawn
  obtain ⟨⟨u, put, progress⟩, poll, drawn⟩ := Option.bind_eq_some_iff.1 drawn
  obtain ⟨link, b, p, hl, hb, polled, rfl, -, rfl⟩ := State.poll?_eq_some poll
  refine ⟨link, hl, ?_⟩
  dsimp only at drawn
  cases ready : p.progress with
  | pending call =>
    rw [ready] at drawn
    cases drawn
  | ready answer =>
    rw [ready] at drawn
    have fetches := Call.fetches_of_ready (reads w call stage).2 polled ready
    generalize p.link = link' at fetches
    cases fetches with
    | stopped stop => cases drawn
    | failed e => cases drawn
    | @took got link' read =>
      cases got with
      | error e => cases drawn
      | ok bytes =>
        cases bytes with
        | nil => exact eof_of_read? (by decide) read
        | cons byte rest => cases drawn

/-- Whoever has said something receives a frame before it says more. -/
lemma Converses.eq_nil {xid : UInt32} {p p' : Part} {said : List Frame} (h : Converses xid p [] said p')
    (begun : p ≠ .silent) : said = [] := by
  cases h with
  | greets => exact (begun rfl).elim
  | rests | enters | serves | ends => rfl

/-- The exchange of a driving task that settles it goes on until then. -/
lemma Ending.exchanging {c : Connection} {d : Disposition} (h : Ending s i c d outcome) :
    c.stage.part.isExchanging = true := by
  cases h with
  | @drew w answer _ receiving drawn comes =>
    rw [Stage.part_of_receiving receiving]
    cases w with
    | hello | features => rfl
    | service switch => cases comes
  | @wrote purpose frame call u put answer _ stage poll comes =>
    rw [stage]
    cases purpose with
    | echo w =>
      cases w with
      | hello | features => rfl
      | service switch => cases comes
    | greeting | rejection version | featuresRequest => rfl

end Concludes

section Cases

variable {s : State} {i : Nat} {c c' : Connection} {settings : Settings} {handler : Handler}
  {capacity : Nat} {actions : List Action} {events : List Event} {peer : String} {xid : UInt32}
  {p' : Part} {limit : Nat} {read tail : List UInt8} {new said future : List Frame}
  {outcome : Except Failure Features}

/-- A step that adds nothing to what has been said ends an exchange on the frames still to come. -/
def EndsOn (peer : String) (p : Part) (new said future : List Frame)
    (outcome : Except Failure Features) : Prop :=
  ∃ rest, future = new ++ rest ∧ said = [] ∧
    p.exchange? peer future = some { outcome, said := [], rest }

/-- The frame that is received is the first of those still to come, and decides the exchange. -/
lemma endsOn_of_frame {w : Awaiting} {frame : Frame} (part : c.stage.part = .awaiting w)
    (comes : w.outcome? peer (.ok frame) = some outcome)
    (converses : Converses xid c.stage.part new said p')
    (takes : Takes limit c c' read new (some (.ok frame)))
    (left : Holds limit (c.inbound ++ tail) future) :
    EndsOn peer c.stage.part new said future outcome := by
  rw [part] at converses ⊢
  cases takes with
  | took stage taken still heeds =>
    obtain ⟨rest, rfl⟩ := left.of_frame taken
    obtain ⟨goes, silent⟩ := Awaiting.exchange?_of_outcome comes rest xid
    exact ⟨rest, rfl, (congrArg Prod.fst converses.eq_respond).trans silent, goes⟩

/-- A call for the next frame fails for the end of the stream only, where no frame is to come. -/
lemma endsOn_of_failure {w : Awaiting} {f : Failure} (part : c.stage.part = .awaiting w)
    (comes : w.outcome? peer (.error f) = some outcome)
    (converses : Converses xid c.stage.part new said p')
    (takes : Takes limit c c' read new (some (.error f))) (heard : ∀ g, f ≠ .transport g)
    (left : Holds limit (c.inbound ++ tail) future)
    (last : f = .peerClosed → ∀ w call, c.stage = .reading w call → future = []) :
    EndsOn peer c.stage.part new said future outcome := by
  obtain ⟨rfl, handshake⟩ := Awaiting.outcome?_error comes
  rw [part] at converses ⊢
  cases takes with
  | refused stage refused ceased => exact (Holds.not_error refused left).elim
  | failed stage ceased => exact (heard _ rfl).elim
  | ended stage ceased =>
    obtain rfl := last rfl _ _ stage
    exact ⟨[], rfl, converses.eq_nil (by simp), Awaiting.exchange?_nil handshake⟩

/-- A write that does not fail ends an exchange if it is that of a refusal. -/
lemma endsOn_of_write {purpose : Purpose} {frame : Frame} {call : Call}
    {answer : Except Transport.Failure Reply} {drawn : Option (Except Failure Frame)}
    (stage : c.stage = .writing purpose frame call)
    (comes : purpose.outcome? peer answer = some outcome) (written : failureOf answer = none)
    (converses : Converses xid c.stage.part new said p') (takes : Takes limit c c' read new drawn) :
    EndsOn peer c.stage.part new said future outcome := by
  obtain ⟨version, rfl, rfl⟩ : ∃ version, purpose = .rejection version ∧
      outcome = .error (.incompatibleVersion peer version) := by
    cases answer with
    | error f => cases written
    | ok reply =>
      cases purpose with
      | rejection version => exact ⟨version, rfl, (Option.some.inj comes).symm⟩
      | echo w => cases w <;> cases comes
      | greeting | featuresRequest => cases comes
  rw [stage] at converses ⊢
  obtain rfl : new = [] := by
    cases takes with
    | rests rests => rfl
    | took reading => exact absurd (stage.symm.trans reading) (by simp)
    | wants | refused | ended | failed | read => rfl
  exact ⟨future, rfl, converses.eq_nil (by simp [Stage.part, Purpose.part]), rfl⟩

/-- Where a read comes to the end of the stream nothing is still to come. -/
lemma nothing_left
    (run : (State.start settings handler capacity).steps? actions = some (s, events))
    (sends : Sends s i actions (delivered i actions ++ tail)) (hc : s.connection? i = some c)
    (exchanging : (s.part i).isExchanging = true) {w : Awaiting} {call : Call}
    (stage : c.stage = .reading w call) {d : Disposition}
    (drawn : s.draws? i d = some (.error .peerClosed)) :
    ((s.link? i).map fun l => l.server.arrived).getD [] ++ tail = [] := by
  obtain ⟨l, hl, arrived, ended⟩ := eof_of_draws? hc ((attended_of_steps? run).2 i c hc) stage drawn
  have going (stage : Stage) (hs : s.stage? i = some stage) : stage.isOver = false := by
    rw [State.stage?_of_connection? hc] at hs
    exact Option.some.inj hs ▸ (State.phase_of_exchanging exchanging hc).2
  have reading := heard_of_unknown run (unknown_of_exchanging run exchanging) going hl
  have sent := sends.all l hl (ended.resolve_left (by simp [reading]))
  rw [List.append_right_eq_self] at sent
  rw [hl, Option.map_some, Option.getD_some, arrived, sent, List.append_nil]

end Cases

section Recognised

variable {s t : State} {i : Nat} {settings : Settings} {handler : Handler} {capacity : Nat}
  {actions : List Action} {a : Action} {events more : List Event} {stream : List UInt8}
  {frames : List Frame} {outcome : Except Failure Features}

/-- **What an exchange comes to is what the frames of the switch make of it**, unless a call fails in the
step in which it ends. -/
theorem recognised_of_concludes
    (run : (State.start settings handler capacity).steps? actions = some (s, events))
    (h : s.step? a = some (t, more)) (concludes : s.concludes? i a = some outcome)
    (unfailed : Unfailed i more) (heard : ∀ f, s.drawn? i a ≠ some (.error (.transport f)))
    (sends : Sends s i actions stream)
    (decoded : Holds settings.maxFrameLength stream frames) :
    ∃ rest, frames = Event.framesReceived i (events ++ more) ++ rest ∧
      recognise (s.peer i).text frames =
        { outcome, said := Event.framesBegun i (.driver i) (events ++ more), rest } := by
  obtain ⟨d, c, rfl, hc, ending⟩ := ending_of_concludes concludes
  have here := State.part_of_connection hc
  have exchanging : (s.part i).isExchanging = true := here ▸ ending.exchanging
  -- The stream is what was read, then what has arrived, and then what has yet to be sent.
  obtain ⟨tail, rfl⟩ := sends.sent
  rw [delivered_of_steps? run i, List.append_assoc] at decoded
  obtain ⟨future, rfl, left, dry⟩ :=
    future_of_going run hc (State.phase_of_exchanging exchanging hc).2 decoded
  have received : s.drawn? i (.run (.driver i) d) = s.draws? i d := if_pos rfl
  have converses := step?_converses (orderly_of_run run) h i
  obtain ⟨c₁, c', hc₁, hc', takes, -⟩ := State.drive?_takes h
  obtain rfl : c = c₁ := Option.some.inj (hc.symm.trans hc₁)
  rw [settings_of_steps? run] at takes
  -- What is to come of the exchange is what the step makes of that.
  suffices ends : EndsOn (s.peer i).text (s.part i) (Event.framesReceived i more)
      (Event.framesBegun i (.driver i) more) future outcome by
    obtain ⟨rest, rfl, silent, goes⟩ := ends
    refine ⟨rest, by rw [Event.framesReceived_append, List.append_assoc], ?_⟩
    rw [recognise_of_steps? run goes, Event.framesBegun_append, silent]
    simp [Exchange.after]
  rw [here] at converses ⊢
  cases ending with
  | @drew w answer _ receiving drawn comes =>
    have part := Stage.part_of_receiving receiving
    rw [received, drawn] at heard
    rw [drawn] at takes
    cases answer with
    | ok frame => exact endsOn_of_frame part comes converses takes left
    | error f =>
      refine endsOn_of_failure part comes converses takes (fun g e => heard g (by rw [e])) left ?_
      rintro rfl w call stage
      rw [nothing_left run sends hc exchanging stage drawn, List.append_nil] at left
      exact left.of_none (dry (by rw [stage]; rfl))
  | @wrote purpose frame call u put answer _ stage poll comes =>
    obtain ⟨c₂, hc₂, step⟩ := Option.bind_eq_some_iff.1 h
    obtain rfl : c = c₂ := Option.some.inj (hc.symm.trans hc₂)
    rw [stage] at step
    obtain ⟨_, poll', step⟩ := Option.bind_eq_some_iff.1 step
    cases poll.symm.trans poll'
    cases step
    have written : failureOf answer = none := by
      cases failure : failureOf answer with
      | none => rfl
      | some f => exact (unfailed (.driver i) frame f (by simp [failure])).elim
    exact endsOn_of_write stage comes written converses takes

end Recognised

/-! ### What an exchange leaves behind -/

/-- **What has become of a line** by the end of a step in which its exchange comes to `outcome`, when the
switch sends a stream that holds `frames`. -/
structure Recognised (s t : State) (i : Nat) (actions : List Action) (events more : List Event)
    (stream : List UInt8) (frames : List Frame) (outcome : Except Failure Features) : Prop where
  /-- The frames decide how the exchange ends. -/
  comes : (recognise (s.peer i).text frames).outcome = outcome
  /-- The switch is registered next, or the handshake is given up for the failure. -/
  ends : Concludes i t more (some outcome)
  /-- The driving task has written what the exchange says, and nobody has written anything else. -/
  written : Event.framesWritten i (events ++ more) =
    (recognise (s.peer i).text frames).said.map (.driver i, ·)
  wire : Event.wire i (events ++ more) = (recognise (s.peer i).text frames).said.flatMap Frame.bytes
  /-- The frames behind the one that decides have not been received. -/
  received : Event.framesReceived i (events ++ more) ++ (recognise (s.peer i).text frames).rest = frames
  /-- After a success they are what the bytes at hand come to, with those that are still on the way. -/
  left : ∀ features, outcome = .ok features → ∀ c l tail, t.connection? i = some c →
    t.link? i = some l → stream = delivered i actions ++ tail →
      Holds s.settings.maxFrameLength (c.inbound ++ (l.server.arrived ++ tail))
        (recognise (s.peer i).text frames).rest

/-- Once its exchange has come to something a driving task is at no frame, and has registered nothing. -/
lemma Concludes.settled {t : State} {i : Nat} {more : List Event} {outcome : Except Failure Features}
    (h : Concludes i t more (some outcome)) {c : Connection} (hc : t.connection? i = some c) :
    c.stage.phase = .arriving ∧ ∀ job, c.stage.job? i = some job → job.frame = none := by
  cases h with
  | succeeds next =>
    rw [State.stage?_of_connection? hc] at next
    rw [Option.some.inj next]
    exact ⟨rfl, fun job under => by cases under⟩
  | @fails f u seen closes shown =>
    rw [closes, (u.failHandshake_closes i f).1] at hc
    unfold State.enter at hc
    rw [State.connection?_modifyConnection, if_pos rfl] at hc
    obtain ⟨b, -, rfl⟩ := Option.map_eq_some_iff.1 hc
    refine ⟨rfl, fun job under => ?_⟩
    cases under
    rfl

section Recognised

variable {s t : State} {i : Nat} {settings : Settings} {handler : Handler} {capacity : Nat}
  {actions : List Action} {a : Action} {events more : List Event} {stream : List UInt8}
  {frames : List Frame} {outcome : Except Failure Features}

/-- **What a step leaves behind in which an exchange comes to something** without a failed call. -/
theorem recognised_of_step
    (run : (State.start settings handler capacity).steps? actions = some (s, events))
    (h : s.step? a = some (t, more)) (concludes : s.concludes? i a = some outcome)
    (unfailed : Unfailed i more) (heard : ∀ f, s.drawn? i a ≠ some (.error (.transport f)))
    (sends : Sends s i actions stream)
    (decoded : Holds settings.maxFrameLength stream frames) :
    Recognised s t i actions events more stream frames outcome := by
  have orderly := orderly_of_run run
  have further : (State.start settings handler capacity).steps? (actions ++ [a]) =
      some (t, events ++ more) := State.steps?_concat.2 ⟨s, events, more, run, h, rfl⟩
  obtain ⟨rest, e, recognised⟩ :=
    recognised_of_concludes run h concludes unfailed heard sends decoded
  obtain ⟨d, c, rfl, hc, ending⟩ := ending_of_concludes concludes
  have exchanging : (s.part i).isExchanging = true :=
    (State.part_of_connection hc).symm ▸ ending.exchanging
  have ends := concludes_of_step orderly h exchanging
  rw [concludes] at ends
  obtain ⟨_, c', _, hc', -⟩ := State.drive?_takes h
  obtain ⟨arriving, unframed⟩ := ends.settled hc'
  have same {b : Connection} (hb : t.connection? i = some b) : b = c' :=
    Option.some.inj (hb.symm.trans hc')
  have unknown := unknown_of_arriving further fun b hb => same hb ▸ arriving
  obtain ⟨written, wire⟩ := written_of_unknown further
    ((unfailed_of_exchanging run exchanging).append unfailed) unknown
    fun job under => unframed job (by
      rw [State.job?_driver (State.core?_of_connection? hc')] at under
      exact under)
  refine ⟨by rw [recognised], ends, by rw [recognised]; exact written, by rw [recognised]; exact wire,
    by rw [recognised]; exact e.symm, ?_⟩
  rintro features rfl b l tail hb hl split
  obtain rfl := same hb
  have next : b.stage.isOver = false := by
    cases ends with
    | succeeds next =>
      rw [State.stage?_of_connection? hb] at next
      rw [Option.some.inj next]
      rfl
  have sent : delivered i (actions ++ [.run (.driver i) d]) = delivered i actions := by
    simp [delivered, Action.delivered]
  rw [split, ← sent, delivered_of_steps? further i, hl, Option.map_some, Option.getD_some,
    List.append_assoc] at decoded
  obtain ⟨future, e', left, -⟩ := future_of_going further hb next decoded
  obtain rfl := List.append_cancel_left (e.symm.trans e')
  rw [settings_of_steps? run, recognised]
  exact left

end Recognised

end FlowBurst.Controller
