import FlowBurst.Proofs.Intake
import FlowBurst.Proofs.Muted

/-!
# Segmentation does not matter

The bytes of a switch come in pieces that the network chooses. What the calls for the next frame come
to, in the handshake and after it, is what decoding the whole stream comes to: the invariant is that
the calls so far and what the bytes at hand will still give, with anything behind them, is what the
bytes read so far give with that behind them. A call ends as soon as the bytes that have arrived decide
it. Main statements: `Unhindered.returns`, `segmentation_invisible`.
-/

namespace FlowBurst.Controller

open FlowBurst.OpenFlow (Frame)
open FlowBurst.Switch (Failure)
open FlowBurst.Transport (Call Link Locks Polled)

/-! ### The verdicts on a stream -/

/-- What calls for the next frame come to on a whole stream: the frames that decoding it gives, and
then the error that decoding ends in, or the end of the stream. -/
def verdicts (limit : Nat) (stream : List UInt8) : List (Except Failure Frame) :=
  (Frame.decodeAll limit stream).map fun answer =>
    (drawnOfDecoding answer.1).getD (.error .peerClosed)

section Verdicts

variable {limit : Nat} {bytes rest : List UInt8}

lemma verdicts_of_none (h : Frame.decode limit bytes = (.ok none, rest)) :
    verdicts limit bytes = [.error .peerClosed] := by
  unfold verdicts
  rw [Frame.decodeAll_eq, h]
  rfl

/-- The first verdict stands, whatever comes behind the bytes that it is on. -/
lemma verdicts_of_frame {frame : Frame} (h : Frame.decode limit bytes = (.ok (some frame), rest))
    (more : List UInt8) :
    verdicts limit (bytes ++ more) = .ok frame :: verdicts limit (rest ++ more) := by
  unfold verdicts
  rw [Frame.decodeAll_eq, Frame.decode_append h (by simp) more]
  rfl

lemma verdicts_of_error {e : OpenFlow.FrameError} (h : Frame.decode limit bytes = (.error e, rest))
    (more : List UInt8) : verdicts limit (bytes ++ more) = [.error (.frame e)] := by
  unfold verdicts
  rw [Frame.decodeAll_eq, Frame.decode_append h (by simp) more]
  rfl

lemma verdicts_ne_nil (limit : Nat) (bytes : List UInt8) : verdicts limit bytes ≠ [] := by
  rcases decoded : Frame.decode limit bytes with ⟨_ | _ | frame, rest⟩
  · have := verdicts_of_error decoded []
    simp_all
  · simp [verdicts_of_none decoded]
  · have := verdicts_of_frame decoded []
    simp_all

end Verdicts

/-! ### The calls of a run -/

/-- What the calls for the next frame on a line come to in a run, in order. -/
def State.draws (i : Nat) : State → List Action → List (Except Failure Frame)
  | _, [] => []
  | s, a :: rest =>
    match s.step? a with
    | some (t, _) => (s.drawn? i a).toList ++ draws i t rest
    | none => []

lemma State.draws_concat (i : Nat) {s₀ s t : State} {actions : List Action} {a : Action}
    {before after : List Event} (run : s₀.steps? actions = some (s, before))
    (step : s.step? a = some (t, after)) :
    draws i s₀ (actions ++ [a]) = draws i s₀ actions ++ (s.drawn? i a).toList := by
  induction actions generalizing s₀ before with
  | nil =>
    obtain ⟨rfl, rfl⟩ : s₀ = s ∧ [] = before := by simpa [steps?] using run
    simp [draws, step]
  | cons b rest ih =>
    obtain ⟨⟨u, first⟩, hb, h⟩ := Option.bind_eq_some_iff.1 run
    obtain ⟨⟨v, more⟩, hr, e⟩ := Option.bind_eq_some_iff.1 h
    cases e
    simp only [List.cons_append, draws, hb, ih hr, List.append_assoc]

/-- **How the reception on a line stands** whose calls came to `answers` after some bytes were read: it
goes on with the bytes at hand, or has ended for good. -/
inductive Reception (limit : Nat) (answers : List (Except Failure Frame)) (bytes : List UInt8) :
    Option (List UInt8 × Nat × Stage) → Prop
  | unborn (unasked : answers = []) (unread : bytes = []) : Reception limit answers bytes none
  | going {inbound : List UInt8} {deadline : Nat} {stage : Stage} (fine : ∀ f, .error f ∉ answers)
      (whole : ∀ more, verdicts limit (bytes ++ more) = answers ++ verdicts limit (inbound ++ more))
      (dry : stage.isReading = true → Frame.decode limit inbound = (.ok none, inbound)) :
      Reception limit answers bytes (some (inbound, deadline, stage))
  | refused {inbound : List UInt8} {deadline : Nat} {stage : Stage} (ceased : stage.isOver = true)
      (whole : ∀ more, verdicts limit (bytes ++ more) = answers) :
      Reception limit answers bytes (some (inbound, deadline, stage))
  | ended {inbound : List UInt8} {deadline : Nat} {stage : Stage} (ceased : stage.isOver = true)
      (closed : .error .peerClosed ∈ answers) (whole : verdicts limit bytes = answers) :
      Reception limit answers bytes (some (inbound, deadline, stage))
  | failed {inbound : List UInt8} {deadline : Nat} {stage : Stage} {f : Transport.Failure}
      (ceased : stage.isOver = true) (failed : .error (.transport f) ∈ answers) :
      Reception limit answers bytes (some (inbound, deadline, stage))

namespace Reception

variable {limit : Nat} {answers : List (Except Failure Frame)} {bytes : List UInt8}

/-- A driving task that is past receiving takes nothing in. -/
lemma takes_of_over {c c' : Connection} {read : List UInt8} {frames : List Frame}
    {drawn : Option (Except Failure Frame)} (takes : Takes limit c c' read frames drawn)
    (ceased : c.stage.isOver = true) : read = [] ∧ drawn = none ∧ c'.stage.isOver = true := by
  cases takes with
  | rests rests => exact ⟨rfl, rfl, rests.ceased ceased⟩
  | took stage | wants stage | refused stage | read stage | ended stage | failed stage =>
    rw [stage] at ceased
    cases ceased

/-- **A step of the driving task of a line keeps how its reception stands.** -/
theorem takes {c c' : Connection} {read : List UInt8} {frames : List Frame}
    {drawn : Option (Except Failure Frame)}
    (h : Reception limit answers bytes (some (c.inbound, c.handshakeDeadline, c.stage)))
    (takes : Takes limit c c' read frames drawn) :
    Reception limit (answers ++ drawn.toList) (bytes ++ read)
      (some (c'.inbound, c'.handshakeDeadline, c'.stage)) := by
  cases h with
  | refused ceased whole =>
    obtain ⟨rfl, rfl, ceased⟩ := takes_of_over takes ceased
    exact .refused ceased fun more => by simp [whole]
  | ended ceased closed whole =>
    obtain ⟨rfl, rfl, ceased⟩ := takes_of_over takes ceased
    exact .ended ceased (by simp [closed]) (by simp [whole])
  | failed ceased failed =>
    obtain ⟨rfl, rfl, ceased⟩ := takes_of_over takes ceased
    exact .failed ceased (List.mem_append_left _ failed)
  | going fine whole dry =>
    cases takes with
    | rests rests =>
      rw [rests.inbound, Option.toList_none, List.append_nil, List.append_nil]
      exact .going fine whole fun reading => dry (rests.reading reading)
    | @took w frame stage decoded still heeds =>
      refine .going (fun f => ?_) (fun more => ?_) fun reading => ?_
      · simpa using fine f
      · rw [List.append_nil, whole, verdicts_of_frame decoded]
        simp
      · rw [still] at reading
        cases reading
    | wants stage decoded next =>
      have same := Frame.eq_of_decode_none decoded
      rw [same, Option.toList_none, List.append_nil, List.append_nil]
      exact .going fine whole fun _ => same ▸ decoded
    | refused stage decoded ceased =>
      refine .refused ceased fun more => ?_
      rw [List.append_nil, whole, verdicts_of_error decoded]
      rfl
    | read stage some_read inbound next =>
      refine .going (by simpa using fine) (fun more => ?_) fun reading => ?_
      · rw [inbound, Option.toList_none, List.append_nil, List.append_assoc, whole,
          List.append_assoc]
      · rw [next] at reading
        cases reading
    | ended stage ceased =>
      refine .ended ceased (by simp) ?_
      have last := verdicts_of_none (dry (by rw [stage]; rfl))
      have := whole []
      rw [List.append_nil, List.append_nil, last] at this
      simpa using this
    | failed stage ceased => exact .failed ceased (List.mem_append_right _ (List.mem_singleton_self _))

end Reception

/-! ### The lock of the readers -/

/-- Nobody but the driving task of a connection reads from that, or waits to. -/
structure Attended (s : State) : Prop where
  readers : ∀ i, (s.locks i).readers = [] ∨ (s.locks i).readers = [.driver i]
  own : ∀ w job size, s.job? w = some job → job.call.request = .read size → w = .driver job.line

section Attended

variable {s t : State}

lemma Fresh.own {who : Actor} {after : Option Job} {events : List Event}
    (fresh : Fresh who after events) {job : Job} (h : after = some job) {size : Nat}
    (request : job.call.request = .read size) : who = .driver job.line := by
  cases fresh with
  | idle => cases h
  | frame =>
    cases h
    cases request
  | call line unstarted other bounded reads =>
    cases h
    exact reads size request

/-- A poll of a call that is under way leaves nobody else in the queues of the readers. -/
lemma Attended.polled (attended : Attended s) {who : Actor} {job : Job} {b : Connection}
    {p : Polled Actor} (under : s.job? who = some job)
    (polling : Polling s job.line who job.call b p)
    (locks : ∀ j, t.locks j = if job.line = j then p.locks else s.locks j) (i : Nat) :
    (t.locks i).readers = [] ∨ (t.locks i).readers = [.driver i] := by
  rw [locks]
  split
  next line =>
    subst line
    obtain ⟨link, -, polls⟩ := polling.polls
    have was := attended.readers job.line
    rcases polls.readers with e | e | ⟨⟨size, request⟩, e⟩
    · rwa [e]
    · rw [e]
      rcases was with was | was <;> rw [was]
      · exact .inl rfl
      · by_cases own : Actor.driver job.line = who <;> simp [Locks.leave, own]
    · obtain rfl := attended.own who job size under request
      rw [e]
      rcases was with was | was <;> rw [was] <;> simp [Locks.ask]
  next => exact attended.readers i

/-- **Every step leaves reading to the driving tasks.** -/
theorem Attended.step (attended : Attended s) (orderly : s.Orderly) {a : Action}
    {events : List Event} (h : s.step? a = some (t, events)) : Attended t := by
  obtain ⟨who, -, same, works⟩ := State.step?_works orderly h
  have others (readers : ∀ i, (t.locks i).readers = [] ∨ (t.locks i).readers = [.driver i])
      (own : ∀ job size, t.job? who = some job → job.call.request = .read size →
        who = .driver job.line) : Attended t := by
    refine ⟨readers, fun w job size hj request => ?_⟩
    by_cases e : w = who
    · subst e
      exact own job size hj request
    · exact attended.own w job size (same w e ▸ hj) request
  generalize hbefore : s.job? who = before, hafter : t.job? who = after at works
  cases works with
  | begins locks fresh =>
    refine others (fun i => ?_) fun job size hj request => fresh.own (hafter.symm.trans hj) request
    rw [locks]
    exact attended.readers i
  | @waits job call b p _ polling locks pending seen =>
    refine others (attended.polled hbefore polling locks) fun job' size hj request => ?_
    rw [hafter] at hj
    cases hj
    obtain ⟨link, -, polls⟩ := polling.polls
    obtain ⟨-, ⟨e, -⟩ | ⟨rest, total, n, -, e, -⟩⟩ := polls.request_of_pending pending
    · exact attended.own who job size hbefore (e.symm.trans request)
    · exact absurd (e.symm.trans request) (by simp)
  | ends job polling locks ready fresh seen =>
    exact others (attended.polled hbefore polling locks)
      fun job' size hj request => fresh.own (hafter.symm.trans hj) request

/-- **Every driving task waits for bytes as it should**, whoever takes a step. -/
theorem reads_step (orderly : s.Orderly) {a : Action} {events : List Event}
    (h : s.step? a = some (t, events)) {i : Nat}
    (reads : ∀ c, s.connection? i = some c → c.Reads) :
    ∀ c, t.connection? i = some c → c.Reads := by
  intro c' hc'
  have now := State.intake?_of_connection? hc'
  have fed := step?_takes orderly h i
  generalize s.drawn? i a = drawn at fed
  cases fed with
  | rests same untaken =>
    rw [same] at now
    obtain ⟨c, hc, e⟩ := Option.map_eq_some_iff.1 now
    obtain ⟨-, deadline, stage⟩ : _ ∧ _ ∧ _ := by simpa using e
    intro w call at_read
    obtain ⟨limits, request⟩ := reads c hc w call (stage.trans at_read)
    exact ⟨limits.trans (Awaiting.limits_congr deadline w), request⟩
  | begins fresh opening untaken =>
    rw [opening] at now
    obtain ⟨-, -, stage⟩ : _ ∧ _ ∧ _ := by simpa using now
    exact .of_still (by rw [← stage]; rfl)
  | takes was is takes =>
    rw [is] at hc'
    cases hc'
    exact takes.reads (reads _ was)

theorem attended_of_steps? {settings : Settings} {handler : Handler} {capacity : Nat}
    {actions : List Action} {events : List Event}
    (run : (State.start settings handler capacity).steps? actions = some (s, events)) :
    Attended s ∧ ∀ i c, s.connection? i = some c → c.Reads := by
  have idle (w : Actor) : (State.start settings handler capacity).job? w = none := by
    cases w <;> rfl
  refine State.run_induction (P := fun _ s _ => Attended s ∧
    ∀ i c, s.connection? i = some c → c.Reads) ⟨⟨fun i => .inl rfl, fun w job size hj => ?_⟩,
      fun i c hc => ?_⟩ ?_ run
  · rw [idle] at hj
    cases hj
  · simp [State.connection?, State.start] at hc
  · rintro actions s before a t after before_run ⟨attended, reads⟩ step
    have orderly := orderly_of_run before_run
    exact ⟨attended.step orderly step, fun i => reads_step orderly step (reads i)⟩

end Attended

/-! ### Calls that nothing hinders -/

/-- The kind of frame that a driving task is receiving. -/
def Stage.receiving? : Stage → Option Awaiting
  | deciding w | reading w _ => some w
  | _ => none

/-- A call for the next frame on a line that nothing is in the way of: there is time left, and the
bytes that have arrived decide what the call comes to, or no more will come. -/
structure Unhindered (s : State) (i : Nat) (c : Connection) (link : Link) : Prop where
  orderly : s.Orderly
  attended : Attended s
  connection : s.connection? i = some c
  line : s.link? i = some link
  reads : c.Reads
  dry : c.stage.isReading = true →
    Frame.decode s.settings.maxFrameLength c.inbound = (.ok none, c.inbound)
  going : ∃ w, c.stage.receiving? = some w ∧ (w.limits c).refusal? s.moment = none
  decided : (Frame.decode s.settings.maxFrameLength (c.inbound ++ link.server.arrived)).1 ≠ .ok none ∨
    link.wasReset = false ∧ link.client.writingEnded = true

namespace Unhindered

variable {s t : State} {i : Nat} {c c' : Connection} {link link' : Link}

/-- How many steps of its driving task a call takes at most. -/
def effort (c : Connection) (link : Link) : Nat :=
  2 * link.server.arrived.length + if c.stage.isReading then 0 else 1

/-- What a step of its task makes of a call: it ends with the first verdict on the bytes at hand and
those that have arrived, or comes nearer to that. -/
def Nears (s : State) (i : Nat) (c : Connection) (link : Link) : Prop :=
  ∃ t events, s.step? (.go (.driver i)) = some (t, events) ∧
    (s.drawn? i (.go (.driver i)) =
        (verdicts s.settings.maxFrameLength (c.inbound ++ link.server.arrived)).head? ∨
      s.drawn? i (.go (.driver i)) = none ∧ t.settings = s.settings ∧
        ∃ c' link', Unhindered t i c' link' ∧
          c'.inbound ++ link'.server.arrived = c.inbound ++ link.server.arrived ∧
          effort c' link' < effort c link)

/-- What a call is after a step of its task. -/
lemma next (h : Unhindered s i c link) {a : Action} {events : List Event}
    (step : s.step? a = some (t, events)) (settings : t.settings = s.settings)
    (connection : t.connection? i = some c') (line : t.link? i = some link')
    (going : ∃ w, c'.stage.receiving? = some w ∧ (w.limits c').refusal? t.moment = none)
    (dry : c'.stage.isReading = true →
      Frame.decode s.settings.maxFrameLength c'.inbound = (.ok none, c'.inbound))
    (whole : c'.inbound ++ link'.server.arrived = c.inbound ++ link.server.arrived)
    (sending : link'.wasReset = link.wasReset ∧ link'.client = link.client) :
    Unhindered t i c' link' where
  orderly := h.orderly.step step
  attended := h.attended.step h.orderly step
  connection := connection
  line := line
  reads := by
    refine reads_step h.orderly step (fun b hb => ?_) c' connection
    rw [h.connection] at hb
    cases hb
    exact h.reads
  dry := by rwa [settings]
  going := going
  decided := by
    rw [settings, whole, sending.1, sending.2]
    exact h.decided

lemma stopped?_of_refusal {call : Call} {m : Transport.Moment}
    (h : call.limits.refusal? m = none) : call.stopped? m = none :=
  Call.stopped?_eq_none_iff.2 (Transport.Limits.refusal?_eq_none_iff.1 h)

/-- A driving task that looks at the bytes at hand. -/
lemma drive?_of_deciding {w : Awaiting} (hc : s.connection? i = some c)
    (stage : c.stage = .deciding w) :
    s.step? (.go (.driver i)) = some (s.decide i c w) ∧
      s.drawn? i (.go (.driver i)) =
        drawnOfDecoding (Frame.decode s.settings.maxFrameLength c.inbound).1 := by
  constructor
  · show s.drive? i (.proceed readChunk) = _
    unfold State.drive?
    rw [hc]
    simp only [bind, Option.bind_some, stage]
    rfl
  · show (if Actor.driver i = .driver i then s.draws? i _ else none) = _
    rw [if_pos rfl]
    unfold State.draws?
    rw [hc, Option.bind_some, stage]

/-- A driving task whose read ends. -/
lemma drive?_of_reading {w : Awaiting} {call : Call} {u : State} {put : List Event}
    {answer : Except Transport.Failure Transport.Reply} (hc : s.connection? i = some c)
    (stage : c.stage = .reading w call)
    (polled : s.poll? i (.driver i) (.proceed readChunk) call = some (u, put, .ready answer)) :
    s.step? (.go (.driver i)) = some ((u.afterRead i w answer).1, put ++ (u.afterRead i w answer).2) ∧
      s.drawn? i (.go (.driver i)) = drawnOfRead answer := by
  constructor
  · show s.drive? i (.proceed readChunk) = _
    unfold State.drive?
    rw [hc]
    simp only [bind, Option.bind_some, stage, polled]
    rfl
  · show (if Actor.driver i = .driver i then s.draws? i _ else none) = _
    rw [if_pos rfl]
    unfold State.draws?
    rw [hc, Option.bind_some, stage]
    dsimp only
    rw [polled]
    rfl

/-- A driving task turns to reading if the bytes at hand hold no whole frame. -/
lemma decide_of_none {w : Awaiting} (decoded : Frame.decode s.settings.maxFrameLength c.inbound =
      (.ok none, c.inbound)) :
    s.decide i c w = ((s.modifyConnection i fun b => { b with inbound := c.inbound }).enter i
      (.reading w (.read (w.limits c) readChunk)), []) := by
  unfold State.decide
  rw [decoded]

/-- A driving task looks at the bytes at hand again once it has read more. -/
lemma afterRead_of_data {w : Awaiting} {bytes : List UInt8} (some_read : bytes ≠ []) :
    s.afterRead i w (.ok (.data bytes)) =
      ((s.modifyConnection i fun b => { b with inbound := b.inbound ++ bytes }).enter i (.deciding w),
        [.read i bytes]) := by
  cases bytes with
  | nil => exact (some_read rfl).elim
  | cons b rest => rfl

/-- **A call that looks at the bytes at hand** ends, or turns to reading. -/
theorem step_of_deciding (h : Unhindered s i c link) {w : Awaiting} (stage : c.stage = .deciding w) :
    Nears s i c link := by
  obtain ⟨v, receiving, time⟩ := h.going
  obtain rfl : w = v := by simpa [stage, Stage.receiving?] using receiving
  obtain ⟨step, drawn⟩ := drive?_of_deciding h.connection stage
  rcases decoded : Frame.decode s.settings.maxFrameLength c.inbound with ⟨_ | _ | frame, rest⟩
  · refine ⟨_, _, step, .inl ?_⟩
    rw [drawn, decoded, verdicts_of_error decoded]
    rfl
  · have same := Frame.eq_of_decode_none decoded
    rw [decide_of_none (same ▸ decoded)] at step
    rw [decoded] at drawn
    refine ⟨_, _, step, .inr ⟨drawn, rfl, { c with stage := .reading w (.read (w.limits c) readChunk) },
      link, h.next step rfl ?_ ?_ ⟨w, rfl, time⟩ (fun _ => same ▸ decoded) rfl ⟨rfl, rfl⟩, rfl, ?_⟩⟩
    · simp [State.enter, h.connection]
    · simp [State.enter, h.line]
    · simp [effort, stage, Stage.isReading]
  · refine ⟨_, _, step, .inl ?_⟩
    rw [drawn, decoded, verdicts_of_frame decoded]
    rfl

/-- **A call that reads** ends, or looks at the bytes at hand again. -/
theorem step_of_reading (h : Unhindered s i c link) {w : Awaiting} {call : Call}
    (stage : c.stage = .reading w call) :
    Nears s i c link := by
  obtain ⟨v, receiving, time⟩ := h.going
  obtain rfl : w = v := by simpa [stage, Stage.receiving?] using receiving
  obtain ⟨limits, request⟩ := h.reads w call stage
  have dry := h.dry (by rw [stage]; rfl)
  have going : call.stopped? s.moment = none := stopped?_of_refusal (limits ▸ time)
  have readers := h.attended.readers i
  rw [State.locks_of_connection? h.connection] at readers
  by_cases more : link.server.arrived = []
  · -- Nothing more has arrived, so that the switch has ended its sending.
    have ended : link.wasReset = false ∧ link.client.writingEnded = true := by
      refine h.decided.resolve_left fun decided => decided ?_
      rw [more, List.append_nil, dry]
    have read : link.read? .server readChunk = some (.ok [], link) := by
      simp [Link.read?, Link.endpoint, Transport.Side.other, more, ended]
    obtain ⟨locks, poll⟩ := Call.poll?_of_read readChunk request going readers read
    obtain ⟨step, drawn⟩ := drive?_of_reading h.connection stage
      (State.poll?_of_connection? h.line h.connection poll)
    refine ⟨_, _, step, .inl ?_⟩
    rw [drawn, more, List.append_nil, verdicts_of_none dry]
    rfl
  · have read : link.read? .server readChunk = some (.ok (link.server.arrived.take readChunk),
        { link with
          server := { link.server with arrived := link.server.arrived.drop readChunk } }) := by
      simp [Link.read?, Link.endpoint, Link.withEndpoint, more]
    have some_read : link.server.arrived.take readChunk ≠ [] := by
      simp [more, readChunk]
    obtain ⟨locks, poll⟩ := Call.poll?_of_read readChunk request going readers read
    obtain ⟨step, drawn⟩ := drive?_of_reading h.connection stage
      (State.poll?_of_connection? h.line h.connection poll)
    rw [afterRead_of_data some_read] at step
    have whole : c.inbound ++ link.server.arrived.take readChunk ++
        link.server.arrived.drop readChunk = c.inbound ++ link.server.arrived := by
      rw [List.append_assoc, List.take_append_drop]
    refine ⟨_, _, step, .inr ⟨drawn.trans (drawnOfRead_data some_read), rfl,
      { c with locks, inbound := c.inbound ++ link.server.arrived.take readChunk
               stage := .deciding w },
      { link with server := { link.server with arrived := link.server.arrived.drop readChunk } },
      h.next step rfl ?_ ?_ ⟨w, rfl, time⟩ (fun reading => by cases reading) whole ⟨rfl, rfl⟩,
      whole, ?_⟩⟩
    · simp [State.enter, State.connection?_polled h.connection]
    · simp only [State.enter, State.link?_modifyConnection, State.link?_polled h.connection]
      exact if_pos trivial
    · have : 0 < link.server.arrived.length := List.length_pos_iff.2 more
      simp only [effort, stage, Stage.isReading, readChunk, List.length_drop]
      simp only [Bool.false_eq_true, if_false, if_true]
      omega

/-- **A call that nothing hinders ends** within some steps of its task alone, with the first verdict on
the bytes at hand and those that have arrived. -/
theorem returns (h : Unhindered s i c link) :
    ∃ n t events, s.steps? (List.replicate n (.go (.driver i))) = some (t, events) ∧
      s.draws i (List.replicate n (.go (.driver i))) =
        (verdicts s.settings.maxFrameLength (c.inbound ++ link.server.arrived)).take 1 := by
  generalize measure : effort c link = n
  induction n using Nat.strongRecOn generalizing s c link with
  | ind n ih =>
    have nears : Nears s i c link := by
      obtain ⟨w, receiving, -⟩ := h.going
      cases stage : c.stage with
      | deciding v => exact h.step_of_deciding stage
      | reading v call => exact h.step_of_reading stage
      | _ => simp [stage, Stage.receiving?] at receiving
    obtain ⟨t, events, step, ends | ⟨goes, settings, c', link', h', whole, less⟩⟩ := nears
    · refine ⟨1, t, events, by simp [State.steps?, step], ?_⟩
      rw [List.take_one, ← ends]
      simp [State.draws, step]
    · obtain ⟨m, u, more, run, draws⟩ := ih _ (measure ▸ less) h' rfl
      refine ⟨m + 1, u, events ++ more, ?_, ?_⟩
      · rw [List.replicate_succ]
        simp [State.steps?, step, run]
      · rw [List.replicate_succ]
        simp only [State.draws, step, goes, draws, settings, whole]
        rfl

end Unhindered

section Runs

variable {settings : Settings} {handler : Handler} {capacity : Nat} {actions : List Action}
  {s : State} {events : List Event}
  (run : (State.start settings handler capacity).steps? actions = some (s, events))
include run

/-- **How the reception on a line stands at the end of a run**, with the frames that were received. -/
theorem reception_of_steps? (i : Nat) :
    Reception settings.maxFrameLength (State.draws i (State.start settings handler capacity) actions)
        (Event.bytesRead i events) (s.intake? i) ∧
      Event.framesReceived i events =
        (State.draws i (State.start settings handler capacity) actions).filterMap
          Except.toOption := by
  refine State.run_induction
    (P := fun actions s events =>
      Reception settings.maxFrameLength (State.draws i (State.start settings handler capacity) actions)
          (Event.bytesRead i events) (s.intake? i) ∧
        Event.framesReceived i events =
          (State.draws i (State.start settings handler capacity) actions).filterMap Except.toOption)
    ?_ ?_ run
  · exact ⟨.unborn rfl rfl, rfl⟩
  intro actions s before a t after before_run ⟨reception, received⟩ step
  rw [State.draws_concat i before_run step, Event.bytesRead_append, Event.framesReceived_append,
    received, List.filterMap_append]
  have fed := step?_takes (orderly_of_run before_run) step i
  generalize s.drawn? i a = drawn at fed
  cases fed with
  | rests same untaken =>
    rw [untaken.1, untaken.2, same, Option.toList_none, List.append_nil, List.append_nil]
    exact ⟨reception, by simp⟩
  | begins fresh opening untaken =>
    rw [untaken.1, untaken.2, opening, Option.toList_none, List.append_nil, List.append_nil]
    have absent : s.intake? i = none := by simp [State.intake?, fresh]
    rw [absent] at reception
    cases reception with
    | unborn unasked unread =>
      rw [unasked, unread]
      exact ⟨.going (by simp) (fun _ => rfl) (fun reading => by cases reading), by simp⟩
  | @takes c c' _ was now takes =>
    rw [State.intake?_of_connection? was] at reception
    rw [State.intake?_of_connection? now]
    rw [settings_of_steps? before_run] at takes
    exact ⟨reception.takes takes, congrArg _ takes.frames_eq⟩

end Runs

/-- What the calls for the next frame on a line come to in a run, whatever pieces the bytes come in. -/
structure Seamless (s : State) (i : Nat) (events : List Event)
    (answers : List (Except Failure Frame)) : Prop where
  /-- Unless a read fails, the calls come to what decoding any stream gives that begins with the bytes
  read, and have come to all of that once one of them did not give a frame. A stream that has ended
  is no longer than the bytes read. -/
  order : (∀ f, .error (.transport f) ∉ answers) →
    ∀ stream, Event.bytesRead i events <+: stream →
      (.error .peerClosed ∈ answers → stream = Event.bytesRead i events) →
      answers <+: verdicts s.settings.maxFrameLength stream ∧
        ∀ f, .error f ∈ answers → answers = verdicts s.settings.maxFrameLength stream
  /-- Every frame that a call gives is received, once and in order, and no other frame is. -/
  received : Event.framesReceived i events = answers.filterMap Except.toOption
  /-- A call ends as soon as the bytes that have arrived decide it, or no more will come. -/
  returns : ∀ c link w, s.connection? i = some c → s.link? i = some link →
    c.stage.receiving? = some w → (w.limits c).refusal? s.moment = none →
    ((Frame.decode s.settings.maxFrameLength (c.inbound ++ link.server.arrived)).1 ≠ .ok none ∨
      link.wasReset = false ∧ link.client.writingEnded = true) →
    ∃ n t more answer, s.steps? (List.replicate n (.go (.driver i))) = some (t, more) ∧
      s.draws i (List.replicate n (.go (.driver i))) = [answer] ∧
      (verdicts s.settings.maxFrameLength (c.inbound ++ link.server.arrived)).head? = some answer

/-- **Segmentation does not matter.** Whatever pieces the bytes of a switch are read in, and wherever
the handshake ends among them, the calls for the next frame come to what decoding the whole stream
comes to. -/
theorem segmentation_invisible {settings : Settings} {handler : Handler} {capacity : Nat}
    {actions : List Action} {s : State} {events : List Event} (i : Nat)
    (run : (State.start settings handler capacity).steps? actions = some (s, events)) :
    Seamless s i events (State.draws i (State.start settings handler capacity) actions) := by
  obtain ⟨reception, received⟩ := reception_of_steps? run i
  obtain ⟨attended, reads⟩ := attended_of_steps? run
  refine ⟨?_, received, ?_⟩
  · rintro fine stream ⟨more, rfl⟩ ceased
    rw [settings_of_steps? run]
    generalize State.draws i _ actions = answers, s.intake? i = taken at *
    cases reception with
    | unborn unasked unread =>
      rw [unasked]
      exact ⟨List.nil_prefix, fun f hf => by cases hf⟩
    | going sound whole dry =>
      rw [whole]
      exact ⟨List.prefix_append _ _, fun f hf => (sound f hf).elim⟩
    | refused isOver whole =>
      rw [whole]
      exact ⟨List.prefix_rfl, fun f hf => rfl⟩
    | ended isOver closed whole =>
      rw [ceased closed, whole]
      exact ⟨List.prefix_rfl, fun f hf => rfl⟩
    | failed isOver failed => exact (fine _ failed).elim
  · intro c link w hc hl receiving time decided
    have dry : c.stage.isReading = true →
        Frame.decode s.settings.maxFrameLength c.inbound = (.ok none, c.inbound) := by
      intro reading
      have going : c.stage.isOver = false := by
        cases hs : c.stage <;> simp [hs, Stage.isReading, Stage.isOver] at reading ⊢
      rw [settings_of_steps? run]
      rw [State.intake?_of_connection? hc] at reception
      cases reception with
      | going sound whole dry => exact dry reading
      | refused isOver whole | ended isOver closed whole | failed isOver failed =>
        rw [going] at isOver
        cases isOver
    have unhindered : Unhindered s i c link :=
      ⟨orderly_of_run run, attended, hc, hl, reads i c hc, dry, ⟨w, receiving, time⟩, decided⟩
    obtain ⟨n, t, more, run', draws⟩ := unhindered.returns
    obtain ⟨answer, rest, e⟩ := List.exists_cons_of_ne_nil
      (verdicts_ne_nil s.settings.maxFrameLength (c.inbound ++ link.server.arrived))
    rw [e] at draws ⊢
    exact ⟨n, t, more, answer, run', draws, rfl⟩

/-- A switch sends its greetings and an echo request in three pieces, the first of which ends within a
header and the second within the frame that ends the handshake, and then ends its sending. -/
def threePieces : List Action :=
  let stream := greetings 5 ++ Frame.bytes { xid := 3, message := .echoRequest [1, 2, 3] }
  [Action.connect (.loopback 6653), .go .acceptor, .deliver 0 (stream.take 3)] ++
    List.replicate 6 (Action.go (.driver 0)) ++ [Action.deliver 0 ((stream.drop 3).take 25)] ++
    List.replicate 5 (Action.go (.driver 0)) ++ [Action.deliver 0 (stream.drop 28), .endSending 0] ++
    List.replicate 8 (Action.go (.driver 0))

theorem seamless_threePieces :
    ∃ s events, (State.start {} (.observer []) 64).steps? threePieces = some (s, events) ∧
      (Event.framesReceived 0 events).length = 3 ∧
      Seamless s 0 events (State.draws 0 (.start {} (.observer []) 64) threePieces) := by
  obtain ⟨⟨s, events⟩, run⟩ := Option.isSome_iff_exists.1
    (show ((State.start {} (.observer []) 64).steps? threePieces).isSome = true by decide +kernel)
  have three : (Event.framesReceived 0 events).length = 3 := by
    have h : ((State.start {} (.observer []) 64).steps? threePieces).all
        (fun r => decide ((Event.framesReceived 0 r.2).length = 3)) = true := by decide +kernel
    simpa [run] using h
  exact ⟨s, events, run, three, segmentation_invisible 0 run⟩

end FlowBurst.Controller
