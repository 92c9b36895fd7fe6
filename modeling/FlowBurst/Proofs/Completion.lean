import FlowBurst.Proofs.Outcome
import FlowBurst.Proofs.Deadlines
import FlowBurst.Proofs.Endings

/-!
# Handshakes that come to an end

An exchange that nothing hinders ends: as long as there is time left, nobody asks the controller to stop
and the switch takes off what is written to it, every step of the driving task ends the exchange or
brings it nearer to that. With what an exchange comes to, this makes the handshake a recogniser of the
frames of the switch. Main statement: `handshake_recognises`.
-/

namespace FlowBurst.Transport

/-! ### Links that stay open -/

namespace Link

variable {l l' : Link}

lemma flags_of_read? {side : Side} {size : Nat} {answer : Except OsError (List UInt8)}
    (h : l.read? side size = some (answer, l')) : l'.flags = l.flags ∧ l'.capacity = l.capacity := by
  cases read?_reads h with
  | took left => cases side <;> exact ⟨rfl, rfl⟩
  | reset dry reset | ended dry ended => exact ⟨rfl, rfl⟩

lemma flags_of_write? {side : Side} {bytes : List UInt8} {limit : Nat} {answer : Except OsError Nat}
    (h : l.write? side bytes limit = some (answer, l')) :
    l'.flags = l.flags ∧ l'.capacity = l.capacity := by
  cases write?_writes h with
  | broken gone | reset reset => exact ⟨rfl, rfl⟩
  | put => cases side <;> exact ⟨rfl, rfl⟩

lemma shut_of_flags (same : l'.flags = l.flags) : l'.shut = l.shut := by
  simp only [flags, List.cons.injEq, and_true] at same
  obtain ⟨-, writing, -, closed, reset⟩ := same
  rw [shut, shut, writing, reset, closed]

end Link

section Polls

variable {τ : Type} [DecidableEq τ] {m : Moment} {side : Side} {who : τ} {d : Disposition} {call : Call}
  {link : Link} {locks : Locks τ} {p : Polled τ}

/-- **A poll that shuts nothing down** leaves a link as open as it was. -/
theorem flags_of_poll (unshut : ∀ direction, call.request ≠ .shutdown direction)
    (h : call.poll? m side who d link locks = some p) :
    p.link.flags = link.flags ∧ p.link.capacity = link.capacity := by
  cases Call.touches_of_poll h with
  | nothing => exact ⟨rfl, rfl⟩
  | reads asked read => exact Link.flags_of_read? read
  | writes asked write => exact Link.flags_of_write? write
  | shuts asked shuts => exact (unshut _ asked).elim

/-- A write for which there is room gets on: fewer of its bytes are left, or it is done. -/
lemma Call.poll?_gets_on (limit : Nat) {rest : List UInt8} {total : Nat}
    (request : call.request = .write rest total) (more : rest ≠ [])
    (going : call.stopped? m = none) (head : (Locks.ask locks.writers who).head? = some who)
    (shut : link.shut = false) (room : link.room .server ≠ 0) :
    ∃ p, call.poll? m .server who (.proceed limit) link locks = some p ∧
      ((∃ call' rest', p.progress = .pending call' ∧ call'.request = .write rest' total ∧
          rest'.length < rest.length) ∨
        p.progress = .ready (.ok (.written total))) := by
  obtain ⟨p, poll, put⟩ := Call.poll?_of_room limit request more going head shut room
  refine ⟨p, poll, ?_⟩
  have polls := Call.poll?_polls poll
  cases polls with
  | empty | stopped | waits | ends => exact (put rfl).elim
  | @advances rest' total' limit n link' _ request' _ wrote left =>
    cases request.symm.trans request'
    refine .inl ⟨_, _, rfl, rfl, ?_⟩
    have some_put := (Link.write?_eq_ok wrote).1
    have := List.length_pos_iff.2 more
    rw [List.length_drop]
    omega
  | completes _ request' =>
    cases request.symm.trans request'
    exact .inr rfl

end Polls

end FlowBurst.Transport

namespace FlowBurst.Controller

open FlowBurst.OpenFlow (Features Frame)
open FlowBurst.Switch (Failure)
open FlowBurst.Transport (Call Disposition Limits Link Locks Polled Reply)

/-! ### Exchanges that nothing hinders -/

/-- **Nothing hinders the exchange on a line**: nobody has asked the controller to stop, there is time
left, and what is written to the switch can arrive. -/
structure Able (s : State) (i : Nat) (c : Connection) (l : Link) : Prop where
  connection : s.connection? i = some c
  line : s.link? i = some l
  exchanging : c.stage.part.isExchanging = true
  going : s.stopping = false
  time : if c.stage = .opening then s.settings.handshakeTimeout ≠ 0 else s.now < c.handshakeDeadline
  unshut : l.shut = false
  holds : l.capacity ≠ 0

/-- A step of a driving task asks nobody to stop, and no switch changes its address. -/
lemma Drove.around {s t : State} {i : Nat} {c : Connection} {more : List Event}
    (h : Drove s i c t more) : t.stopping = s.stopping ∧ ∀ j, t.peer j = s.peer j := by
  have modified (u : State) (k : Nat) (g : Connection → Connection) (j : Nat) :
      (u.modifyConnection k g).peer j = u.peer j := peer_modifyLine u k j fun _ => rfl
  have polled (k : Nat) (b : Connection) (p : Polled Actor) (j : Nat) :
      (s.polled k b p).peer j = s.peer j := peer_modifyLine s k j fun _ => rfl
  have closed (u : State) (k j : Nat) :
      (u.modifyLine k fun l => { l with link := l.link.close .server }).peer j = u.peer j :=
    peer_modifyLine u k j fun _ => rfl
  have turned {u : State} {served : Option Switch.Reference} {r : State × List Event}
      (turn : Turned u i served r) : r.1.stopping = u.stopping ∧ ∀ j, r.1.peer j = u.peer j := by
    obtain ⟨-, g, -, e, -, -⟩ := turn
    rw [e]
    exact ⟨rfl, modified u i g⟩
  cases h with
  | turned idle same turn => exact turned turn
  | waited under polling pending => exact ⟨rfl, fun j => (modified _ i _ j).trans (polled _ _ _ j)⟩
  | wrote stage polling ready turn | got stage polling ready turn =>
    exact ⟨(turned turn).1, fun j => ((turned turn).2 j).trans (polled _ _ _ j)⟩
  | displaced stage polling ready => exact ⟨rfl, fun j => (modified _ i _ j).trans (polled _ _ _ j)⟩
  | @closed served call b p answer stage polling ready =>
    unfold State.afterClose
    cases served with
    | some switch =>
      exact ⟨rfl, fun j => (modified _ i _ j).trans ((modified _ i _ j).trans (polled _ _ _ j))⟩
    | none =>
      exact ⟨rfl, fun j => (closed _ i j).trans
        ((modified _ i _ j).trans ((modified _ i _ j).trans (polled _ _ _ j)))⟩
  | registered stage =>
    unfold State.register
    split
    · exact ⟨rfl, modified s i _⟩
    · dsimp only
      split <;> exact ⟨rfl, fun j => (modified _ i _ j).trans (modified s i _ j)⟩
  | launched stage => exact ⟨rfl, fun j => (modified _ i _ j).trans (modified s i _ j)⟩
  | deregistered stage => exact ⟨rfl, modified s i _⟩
  | joined stage told silent => exact ⟨rfl, modified s i _⟩
  | notified stage => exact ⟨rfl, modified s i _⟩

section Able

variable {s t : State} {i : Nat} {c c' : Connection} {l : Link} {settings : Settings}
  {handler : Handler} {capacity : Nat} {actions : List Action} {events more : List Event}
  (run : (State.start settings handler capacity).steps? actions = some (s, events))
include run

/-- The job of a driving task in its handshake is on its own line, and shuts nothing down. -/
lemma unshut_of_exchanging (hc : s.connection? i = some c)
    (exchanging : c.stage.part.isExchanging = true) {job : Job} (under : c.stage.job? i = some job) :
    job.line = i ∧ ∀ direction, job.call.request ≠ .shutdown direction := by
  have line : job.line = i := by
    cases stage : c.stage <;> rw [stage] at under exchanging <;> cases under <;>
      first | rfl | cases exchanging
  refine ⟨line, fun direction request => ?_⟩
  have here : (s.part i).isExchanging = true := (State.part_of_connection hc).symm ▸ exchanging
  have at_job : s.job? (.driver i) = some job := by
    rw [State.job?_driver (State.core?_of_connection? hc)]
    exact under
  obtain ⟨call, closing⟩ :=
    (alone_of_unknown run (unknown_of_exchanging run here) at_job line).2 direction request
  rw [State.stage?_of_connection? hc] at closing
  rw [Option.some.inj closing] at exchanging
  cases exchanging

/-- A step of a driving task in its handshake leaves its line as open as it was. -/
lemma flags_of_exchanging (able : Able s i c l) {d : Disposition}
    (h : s.step? (.run (.driver i) d) = some (t, more)) :
    ∃ l', t.link? i = some l' ∧ l'.flags = l.flags ∧ l'.capacity = l.capacity := by
  obtain ⟨c₁, hc₁, step⟩ := drove_of_task h rfl
  obtain rfl : c = c₁ := Option.some.inj (able.connection.symm.trans hc₁)
  have polled {job : Job} {b : Connection} {p : Polled Actor} (under : c.stage.job? i = some job)
      (polling : Polling s job.line (.driver i) job.call b p) :
      ∃ l', (s.polled job.line b p).link? i = some l' ∧ l'.flags = l.flags ∧
        l'.capacity = l.capacity := by
    obtain ⟨line, unshut⟩ := unshut_of_exchanging run able.connection able.exchanging under
    obtain ⟨hb, link, d, hl, poll⟩ := polling
    rw [line] at hl hb ⊢
    obtain rfl : l = link := Option.some.inj (able.line.symm.trans hl)
    exact ⟨p.link, by rw [State.link?_polled hb, if_pos rfl], Transport.flags_of_poll unshut poll⟩
  have exchanging := able.exchanging
  cases step with
  | turned idle same turn => exact ⟨l, (turn.links.2 i).trans able.line, rfl, rfl⟩
  | waited under polling pending =>
    obtain ⟨l', hl', same⟩ := polled under polling
    exact ⟨l', (State.link?_modifyConnection _ i i _).trans hl', same⟩
  | wrote stage polling ready turn | got stage polling ready turn =>
    obtain ⟨l', hl', same⟩ := polled (by rw [stage]; rfl) polling
    exact ⟨l', (turn.links.2 i).trans hl', same⟩
  | closed stage | displaced stage | registered stage | launched stage | deregistered stage
  | joined stage | notified stage =>
    rw [stage] at exchanging
    cases exchanging

/-- **A step of a driving task leaves its exchange as able as it was**, unless it ends that. -/
theorem Able.step (able : Able s i c l) {d : Disposition}
    (h : s.step? (.run (.driver i) d) = some (t, more)) (hc' : t.connection? i = some c')
    (exchanging : c'.stage.part.isExchanging = true) :
    ∃ l', Able t i c' l' ∧ l'.flags = l.flags ∧ (∀ j, t.peer j = s.peer j) := by
  obtain ⟨c₁, hc₁, step⟩ := drove_of_task h rfl
  obtain rfl : c = c₁ := Option.some.inj (able.connection.symm.trans hc₁)
  obtain ⟨stopping, peer⟩ := step.around
  obtain ⟨l', hl', flags, holds⟩ := flags_of_exchanging run able h
  obtain ⟨b, hb, deadline, begun, -⟩ := inTime_of_drive? h able.connection able.exchanging
    (timed_of_steps? run able.connection)
  obtain rfl : b = c' := Option.some.inj (hb.symm.trans hc')
  refine ⟨l', ⟨hc', hl', exchanging, stopping.trans able.going, ?_,
    (Link.shut_of_flags flags).trans able.unshut, holds ▸ able.holds⟩, flags, peer⟩
  rw [if_neg begun, step.surrounded.now, deadline]
  have time := able.time
  split
  next opening =>
    rw [if_pos opening] at time
    omega
  next going =>
    rwa [if_neg going] at time

end Able

/-! ### The next step of an exchange -/

/-- What a driving task has yet to write, with the steps around that. -/
def Stage.owing : Stage → Nat
  | .opening => 10
  | .writing _ _ call =>
    match call.request with
    | .write rest _ => rest.length + 1
    | _ => 1
  | _ => 0

lemma Stage.owing_of_write {purpose : Purpose} {frame : Frame} {call : Call} {rest : List UInt8}
    {total : Nat} (request : call.request = .write rest total) :
    (Stage.writing purpose frame call).owing = rest.length + 1 := by
  simp [owing, request]

/-- How far a driving task is from the next frame. -/
def effort (c : Connection) (l : Link) : Nat := Unhindered.effort c l + c.stage.owing

/-- **What a step of its driving task makes of an exchange**: it comes to something, a frame is received,
or the next one is nearer. No call fails in it. -/
def Nears (s : State) (i : Nat) (c : Connection) (l : Link) : Prop :=
  ∃ t more, s.step? (.go (.driver i)) = some (t, more) ∧ Unfailed i more ∧
    (∀ f, s.drawn? i (.go (.driver i)) ≠ some (.error (.transport f))) ∧
    (s.concludes? i (.go (.driver i)) ≠ none ∨ Event.framesReceived i more ≠ [] ∨
      ∃ c' l', t.connection? i = some c' ∧ t.link? i = some l' ∧ effort c' l' < effort c l)

section Nears

variable {s t : State} {i : Nat} {c : Connection} {l : Link} {more : List Event}

/-- No write ends in a step of a task that writes no frame. -/
lemma unfailed_of_unframed (orderly : s.Orderly) {a : Action} (h : s.step? a = some (t, more))
    (unframed : ∀ who job, a.task? = some who → s.job? who = some job → job.frame = none) :
    Unfailed i more := by
  intro who frame f failed
  obtain ⟨own, job, under, -, framed⟩ := job_of_frameEnded orderly h failed
  rw [unframed who job own under] at framed
  cases framed

/-- A driving task that has yet to greet its switch begins to. -/
lemma nears_of_opening (able : Able s i c l) (stage : c.stage = .opening) :
    Nears s i c l := by
  let started (c : Connection) : Connection :=
    { c with handshakeDeadline := s.now + s.settings.handshakeTimeout, nextXid := c.nextXid + 1 }
  let frame : Frame := { xid := c.nextXid, message := .hello [] }
  let call : Call := .write { deadline := some (s.now + s.settings.handshakeTimeout) } frame.bytes
  have taken : (s.modifyConnection i started).connection? i = some (started c) := by
    simp [able.connection]
  have step : s.step? (.go (.driver i)) =
      some ((s.modifyConnection i started).enter i (.writing .greeting frame call),
        [.frameBegun i (.driver i) frame]) := by
    show s.drive? i (.proceed readChunk) = _
    unfold State.drive?
    rw [able.connection]
    simp only [bind, Option.bind_some, stage]
    unfold State.begin
    rw [encode_greeting]
    rfl
  have undrawn : s.drawn? i (.go (.driver i)) = none := by
    show (if Actor.driver i = .driver i then s.draws? i _ else none) = _
    rw [if_pos rfl]
    unfold State.draws?
    rw [able.connection, Option.bind_some, stage]
  refine ⟨_, _, step, by simp [Unfailed], by simp [undrawn], .inr (.inr
    ⟨{ started c with stage := .writing .greeting frame call }, l, State.connection?_enter taken _,
      ?_, ?_⟩)⟩
  · exact ((s.modifyConnection i started).link?_modifyConnection i i _).trans
      ((s.link?_modifyConnection i i _).trans able.line)
  · have length : frame.bytes.length = 8 := Frame.length_bytes _
    simp [effort, Unhindered.effort, stage, Stage.isReading, Stage.owing, call, Call.write, length]

/-- As long as nothing hinders it, an exchange is in time. -/
lemma Able.in_time (able : Able s i c l) (begun : c.stage ≠ .opening) {limits : Limits}
    (kept : limits = { deadline := some c.handshakeDeadline }) : limits.refusal? s.moment = none := by
  have time := able.time
  rw [if_neg begun] at time
  subst kept
  have late : ¬ c.handshakeDeadline ≤ s.now := by omega
  simp [Limits.refusal?, Limits.expired, Limits.cancelled, State.moment, able.going, late]

/-- A driving task that writes. -/
lemma drive?_of_writing {purpose : Purpose} {frame : Frame} {call : Call} {u : State} {put : List Event}
    {progress : Transport.Progress} (hc : s.connection? i = some c)
    (stage : c.stage = .writing purpose frame call) :
    s.poll? i (.driver i) (.proceed readChunk) call = some (u, put, progress) →
      s.step? (.go (.driver i)) = some (match progress with
          | .pending call => (u.enter i (.writing purpose frame call), put)
          | .ready answer =>
            let next := u.afterWrite i purpose (answer.map fun _ => ())
            (next.1, put ++ .frameEnded i (.driver i) frame (failureOf answer) :: next.2)) ∧
        s.drawn? i (.go (.driver i)) = none ∧
        s.concludes? i (.go (.driver i)) = (match progress with
          | .pending _ => none
          | .ready answer => purpose.outcome? (s.peer i).text answer) := by
  intro polled
  refine ⟨?_, ?_, ?_⟩
  · show s.drive? i (.proceed readChunk) = _
    unfold State.drive?
    rw [hc]
    simp only [bind, Option.bind_some, stage, polled]
    cases progress <;> rfl
  · show (if Actor.driver i = .driver i then s.draws? i _ else none) = _
    rw [if_pos rfl]
    unfold State.draws?
    rw [hc, Option.bind_some, stage]
  · unfold State.concludes?
    rw [hc, Option.bind_some, stage]
    dsimp only [Action.go]
    rw [if_pos rfl, polled]
    cases progress <;> rfl

variable {settings : Settings} {handler : Handler} {capacity : Nat} {actions : List Action}
  {events : List Event}
  (run : (State.start settings handler capacity).steps? actions = some (s, events))
include run

/-- A driving task in its handshake waits for nobody else to write. -/
lemma head_of_exchanging (hc : s.connection? i = some c)
    (exchanging : c.stage.part.isExchanging = true) :
    (Locks.ask c.locks.writers (Actor.driver i)).head? = some (.driver i) := by
  rw [Locks.head?_ask]
  split
  · rfl
  next queue =>
    obtain ⟨who, others, e⟩ := List.exists_cons_of_ne_nil queue
    have queued : who ∈ s.writers i := by
      rw [State.writers, State.locks_of_connection? hc, e]
      exact List.mem_cons_self
    obtain ⟨pieces, part, ledger⟩ := ledger_of_steps? i run
    obtain ⟨job, under, line⟩ := ledger.desk.queued who queued
    have unknown := unknown_of_exchanging run ((State.part_of_connection hc).symm ▸ exchanging)
    rw [e, List.head?_cons, (alone_of_unknown run unknown under line).1]

/-- A driving task that writes puts bytes in where there is room, and is done with the frame in the
end. -/
lemma nears_of_writing (able : Able s i c l) {purpose : Purpose} {frame : Frame} {call : Call}
    (stage : c.stage = .writing purpose frame call) (room : l.room .server ≠ 0) : Nears s i c l := by
  have exchanging := able.exchanging
  have under : s.job? (.driver i) = some ⟨i, call, some frame⟩ := by
    rw [State.job?_driver (State.core?_of_connection? able.connection)]
    show c.stage.job? i = _
    rw [stage]
    rfl
  obtain ⟨pieces, part, ledger⟩ := ledger_of_steps? i run
  obtain ⟨rest, total, request, more, -⟩ := ledger.desk.owed _ _ frame under rfl rfl
  have going : call.stopped? s.moment = none := by
    refine Unhindered.stopped?_of_refusal (able.in_time (by rw [stage]; simp) ?_)
    exact timed_of_steps? run able.connection purpose frame call stage (by rwa [stage] at exchanging)
  obtain ⟨p, poll, gets_on⟩ := Call.poll?_gets_on readChunk request more going
    (head_of_exchanging run able.connection exchanging) able.unshut room
  obtain ⟨step, undrawn, comes⟩ := drive?_of_writing able.connection stage
    (State.poll?_of_connection? able.line able.connection poll)
  have connection : (s.polled i c p).connection? i = some { c with locks := p.locks } := by
    rw [State.connection?_polled able.connection, if_pos rfl]
  have line : (s.polled i c p).link? i = some p.link := by
    rw [State.link?_polled able.connection, if_pos rfl]
  have arrived : l.server.arrived = p.progress.taken ++ p.link.server.arrived := by
    simpa using (Transport.conveys_of_poll poll).1.arrived
  have quiet : Unfailed i (putEvents i (.driver i) p.put) := by
    unfold putEvents
    split <;> simp [Unfailed]
  have owing : c.stage.owing = rest.length + 1 := by
    rw [stage]
    exact Stage.owing_of_write request
  rcases gets_on with ⟨call', rest', pending, request', fewer⟩ | done
  · rw [pending] at step arrived
    refine ⟨_, _, step, quiet, by simp [undrawn], .inr (.inr ⟨_, p.link,
      State.connection?_enter connection _, (State.link?_modifyConnection _ i i _).trans line, ?_⟩)⟩
    unfold effort
    rw [owing, Stage.owing_of_write request']
    simp only [Unhindered.effort, stage, Stage.isReading, arrived, Transport.Progress.taken,
      List.nil_append, Bool.false_eq_true, if_false]
    omega
  · rw [done] at step arrived comes
    have ended {more : List Event} (remarks : ∀ e ∈ more, e.isRemark = true) :
        Unfailed i (putEvents i (.driver i) p.put ++ .frameEnded i (.driver i) frame none :: more) := by
      refine quiet.append fun who frame f failed => ?_
      rcases List.mem_cons.1 failed with e | failed
      · cases e
      · cases remarks _ failed
    have deciding (next : (s.polled i c p).afterWrite i purpose (.ok ()) =
        ((s.polled i c p).enter i (.deciding purpose.awaiting), [])) : Nears s i c l := by
      simp only [Except.map, next] at step
      refine ⟨_, _, step, ended (by simp), by simp [undrawn], .inr (.inr ⟨_, p.link,
        State.connection?_enter connection _, (State.link?_modifyConnection _ i i _).trans line, ?_⟩)⟩
      unfold effort
      rw [owing]
      simp only [Unhindered.effort, stage, Stage.isReading, Stage.owing, arrived,
        Transport.Progress.taken, List.nil_append, Bool.false_eq_true, if_false]
      omega
    cases purpose with
    | rejection version =>
      refine ⟨_, _, step, ended (State.failHandshake_closes _ i _).2, by simp [undrawn], .inl ?_⟩
      rw [comes]
      simp [Purpose.outcome?]
    | greeting | featuresRequest | echo w => exact deciding rfl

/-- Nothing hinders the call of a driving task for the next frame either, once the frames that have
arrived decide the exchange or no more will come. -/
lemma Able.unhindered (able : Able s i c l) {w : Awaiting} (receiving : c.stage.receiving? = some w)
    {frames : List Frame}
    (decoded : Holds settings.maxFrameLength (delivered i actions) frames)
    (decided : l.client.writingEnded = true ∨
      (recognise (s.peer i).text frames).outcome ≠ .error .peerClosed) :
    Unhindered s i c l ∧
      ∃ future, Holds s.settings.maxFrameLength (c.inbound ++ l.server.arrived) future := by
  obtain ⟨attended, reads⟩ := attended_of_steps? run
  have part := Stage.part_of_receiving receiving
  have handshake : (Part.awaiting w).isExchanging = true := part ▸ able.exchanging
  have idle : c.stage ≠ .opening := fun e => by
    rw [e] at receiving
    cases receiving
  have limits : w.limits c = { deadline := some c.handshakeDeadline } := by
    cases w with
    | hello | features => rfl
    | service switch => cases handshake
  rw [delivered_of_steps? run i, able.line, Option.map_some, Option.getD_some] at decoded
  obtain ⟨future, rfl, left, dry⟩ := future_of_going run able.connection
    (Stage.phase_of_exchanging able.exchanging).2 decoded
  rw [← settings_of_steps? run] at left dry
  refine ⟨⟨orderly_of_run run, attended, able.connection, able.line, reads i c able.connection, dry,
    ⟨w, receiving, able.in_time idle limits⟩, ?_⟩, future, left⟩
  rcases decoding : Frame.decode s.settings.maxFrameLength (c.inbound ++ l.server.arrived) with
    ⟨_ | _ | frame, rest⟩
  · exact .inl (by simp)
  · -- No frame is to come, so that the exchange is decided only by the end of the stream.
    refine .inr ⟨(Link.shut_eq_false.1 able.unshut).2.1, decided.resolve_right ?_⟩
    obtain rfl := left.of_none decoding
    have goes : (s.part i).exchange? (s.peer i).text [] =
        some { outcome := .error .peerClosed, said := [], rest := [] } := by
      rw [State.part_of_connection able.connection, part]
      exact Awaiting.exchange?_nil handshake
    rw [recognise_of_steps? run goes]
    simp [Exchange.after]
  · exact .inl (by simp)

/-- A driving task that receives comes to the next verdict on the bytes of its switch, or nearer to
that. -/
lemma nears_of_receiving (able : Able s i c l) {w : Awaiting} (receiving : c.stage.receiving? = some w)
    {frames : List Frame}
    (decoded : Holds settings.maxFrameLength (delivered i actions) frames)
    (decided : l.client.writingEnded = true ∨
      (recognise (s.peer i).text frames).outcome ≠ .error .peerClosed) : Nears s i c l := by
  obtain ⟨unhindered, future, left⟩ := able.unhindered run receiving decoded decided
  have nears : Unhindered.Nears s i c l := by
    cases stage : c.stage with
    | deciding v => exact unhindered.step_of_deciding stage
    | reading v call => exact unhindered.step_of_reading stage
    | _ =>
      rw [stage] at receiving
      cases receiving
  obtain ⟨t, more, step, draws⟩ := nears
  have unfailed : Unfailed i more := by
    refine unfailed_of_unframed (orderly_of_run run) step fun who job own under => ?_
    obtain rfl : Actor.driver i = who := Option.some.inj own
    rw [State.job?_driver (State.core?_of_connection? able.connection)] at under
    have under : c.stage.job? i = some job := under
    cases stage : c.stage <;> rw [stage] at receiving under <;> cases receiving <;> cases under
    rfl
  have concludes (answer : Except Failure Frame) (drawn : s.drawn? i (.go (.driver i)) = some answer) :
      s.concludes? i (.go (.driver i)) = w.outcome? (s.peer i).text answer := by
    unfold State.concludes?
    rw [able.connection, Option.bind_some]
    cases stage : c.stage <;> rw [stage] at receiving <;> cases receiving <;> simp [drawn]
  rcases draws with drawn | ⟨undrawn, -, c', l', unhindered', -, less⟩
  · unfold Holds at left
    rw [left] at drawn
    cases future with
    | nil =>
      refine ⟨t, more, step, unfailed, by simp [drawn], .inl ?_⟩
      have exchanging := able.exchanging
      rw [Stage.part_of_receiving receiving] at exchanging
      rw [concludes _ drawn]
      cases w with
      | hello | features => simp [Awaiting.outcome?]
      | service switch => cases exchanging
    | cons frame rest =>
      refine ⟨t, more, step, unfailed, by simp [drawn], .inr (.inl ?_)⟩
      obtain ⟨_, _, -, -, takes, -⟩ := State.drive?_takes step
      rw [takes.frames_eq, ← show s.drawn? i (.go (.driver i)) = s.draws? i _ from if_pos rfl, drawn]
      simp [Except.toOption]
  · refine ⟨t, more, step, unfailed, by simp [undrawn], .inr (.inr
      ⟨c', l', unhindered'.connection, unhindered'.line, ?_⟩)⟩
    obtain ⟨w', receiving', -⟩ := unhindered'.going
    have owing : c'.stage.owing = 0 := by
      cases stage : c'.stage <;> rw [stage] at receiving' <;> cases receiving' <;> rfl
    unfold effort
    omega

end Nears

/-! ### Lines that are tended -/

/-- **A line is tended** in a stretch of a run: only its driving task takes steps, and its switch takes
off what is written to it. The link stays as open as it was. -/
structure Tended (i : Nat) (s : State) (l : Link) (schedule : List Action) (t : State) (l' : Link)
    (seen : List Event) : Prop where
  only : ∀ a ∈ schedule, a = .go (.driver i) ∨ ∃ n, a = .collect i n
  runs : s.steps? schedule = some (t, seen)
  flags : l'.flags = l.flags
  peer : t.peer i = s.peer i

namespace Tended

variable {s t u : State} {i : Nat} {l l' l'' : Link} {schedule rest : List Action}
  {seen more : List Event}

lemma rfl : Tended i s l [] s l [] := ⟨by simp, by rfl, by rfl, by rfl⟩

lemma trans (h : Tended i s l schedule t l' seen) (k : Tended i t l' rest u l'' more) :
    Tended i s l (schedule ++ rest) u l'' (seen ++ more) where
  only a ha := (List.mem_append.1 ha).elim (h.only a) (k.only a)
  runs := State.steps?_trans h.runs k.runs
  flags := k.flags.trans h.flags
  peer := k.peer.trans h.peer

/-- Nothing is sent in the meantime. -/
lemma delivered_eq (h : Tended i s l schedule t l' seen) (actions : List Action) :
    delivered i (actions ++ schedule) = delivered i actions := by
  have unsent : delivered i schedule = [] := List.flatMap_eq_nil_iff.2 fun a ha => by
    rcases h.only a ha with rfl | ⟨n, rfl⟩ <;> rfl
  rw [delivered, List.flatMap_append, ← delivered, ← delivered, unsent, List.append_nil]

/-- Its switch has not ended its sending either. -/
lemma ending (h : Tended i s l schedule t l' seen) : l'.client.writingEnded = l.client.writingEnded := by
  have flags := h.flags
  simp only [Link.flags, List.cons.injEq] at flags
  exact flags.2.2.1

end Tended

section Completes

variable {s t : State} {i : Nat} {c : Connection} {l : Link}

/-- There is room to write in once the switch has taken off what has arrived there. -/
lemma Able.room (able : Able s i c l) :
    ∃ schedule u l', Tended i s l schedule u l' [] ∧ Able u i c l' ∧ l'.room .server ≠ 0 ∧
      effort c l' = effort c l := by
  by_cases room : l.room .server = 0
  · obtain ⟨x, hx, rfl⟩ := Option.map_eq_some_iff.1 able.line
    let empty : Link := { x.link with client := { x.link.client with arrived := [] } }
    have step : s.step? (.collect i x.link.client.arrived.length) =
        some (s.modifyLine i fun y => { y with link := empty }, []) :=
      State.step?_collect hx (arrived_of_no_room able.holds room)
    have aside := Aside.setLink s hx (.of_eq rfl rfl : x.link.Becomes empty)
    refine ⟨[.collect i x.link.client.arrived.length],
      s.modifyLine i fun y => { y with link := empty }, empty,
      ⟨by simp, by simp [State.steps?, step], rfl, peer_modifyLine s i i fun _ => rfl⟩,
      ⟨(aside.connection i).trans able.connection, ?_, able.exchanging, able.going, able.time,
        able.unshut, able.holds⟩, able.holds, rfl⟩
    simp [State.link?, State.modifyLine, hx]
  · exact ⟨[], s, l, .rfl, able, room, rfl⟩

/-- **How an exchange comes to something** on a line that is tended: in some step of its driving task, in
which no call fails. -/
def Reaches (s : State) (i : Nat) (l : Link) (outcome : Except Failure Features) : Prop :=
  ∃ schedule u l' seen v more, Tended i s l schedule u l' seen ∧ u.link? i = some l' ∧
    u.step? (.go (.driver i)) = some (v, more) ∧ u.concludes? i (.go (.driver i)) = some outcome ∧
    Unfailed i more ∧ ∀ f, u.drawn? i (.go (.driver i)) ≠ some (.error (.transport f))

lemma Reaches.of_tended {l' : Link} {outcome : Except Failure Features} {schedule : List Action}
    {seen : List Event} (h : Tended i s l schedule t l' seen) (comes : Reaches t i l' outcome) :
    Reaches s i l outcome := by
  obtain ⟨rest, u, l'', later, v, more, tended, last⟩ := comes
  exact ⟨schedule ++ rest, u, l'', seen ++ later, v, more, h.trans tended, last⟩

variable {settings : Settings} {handler : Handler} {capacity : Nat} {actions : List Action}
  {events : List Event} {frames : List Frame}

/-- A step of the driving task of a line where there is room ends the exchange or brings it nearer to
its end. -/
lemma nears_of_room (run : (State.start settings handler capacity).steps? actions = some (s, events))
    (able : Able s i c l) (room : l.room .server ≠ 0)
    (decoded : Holds settings.maxFrameLength (delivered i actions) frames)
    (decided : l.client.writingEnded = true ∨
      (recognise (s.peer i).text frames).outcome ≠ .error .peerClosed) : Nears s i c l := by
  have exchanging := able.exchanging
  cases stage : c.stage with
  | opening => exact nears_of_opening able stage
  | writing purpose frame call => exact nears_of_writing run able stage room
  | deciding w | reading w call =>
    exact nears_of_receiving run able (by rw [stage]; rfl) decoded decided
  | _ =>
    rw [stage] at exchanging
    cases exchanging

/-- **An exchange that nothing hinders comes to something** on a tended line, once the frames that have
arrived decide it or no more will come. -/
theorem reaches_of_able
    (run : (State.start settings handler capacity).steps? actions = some (s, events))
    (able : Able s i c l)
    (decoded : Holds settings.maxFrameLength (delivered i actions) frames)
    (decided : l.client.writingEnded = true ∨
      (recognise (s.peer i).text frames).outcome ≠ .error .peerClosed) :
    ∃ outcome, Reaches s i l outcome := by
  -- The frames still to be received get fewer, or the next one nearer.
  induction left : frames.length - (Event.framesReceived i events).length using Nat.strongRecOn
    generalizing s c l actions events with
  | ind n frame_ih =>
  induction measure : effort c l using Nat.strongRecOn generalizing s c l actions events with
  | ind m ih =>
  obtain ⟨schedule, u, l', tended, able', room, same_effort⟩ := able.room
  have run' : (State.start settings handler capacity).steps? (actions ++ schedule) =
      some (u, events) := by
    simpa using State.steps?_trans run tended.runs
  have orderly := orderly_of_run run'
  rw [← tended.delivered_eq actions] at decoded
  rw [← tended.ending, ← tended.peer] at decided
  obtain ⟨t, more, step, unfailed, heard, nears⟩ := nears_of_room run' able' room decoded decided
  cases concludes : u.concludes? i (.go (.driver i)) with
  | some outcome =>
    exact ⟨outcome, schedule, u, l', [], t, more, tended, able'.line, step, concludes, unfailed, heard⟩
  | none =>
    have goes := concludes_of_step orderly step
      ((State.part_of_connection able'.connection).symm ▸ able'.exchanging)
    rw [concludes] at goes
    obtain ⟨exchanging⟩ := goes
    obtain ⟨_, c', -, hc', -⟩ := State.drive?_takes step
    rw [State.part_of_connection hc'] at exchanging
    obtain ⟨l'', able'', flags, peer⟩ := Able.step run' able' step hc' exchanging
    have once : Tended i u l' [.go (.driver i)] t l'' more :=
      ⟨by simp, by simp [State.steps?, step], flags, peer i⟩
    have further := State.steps?_concat.2 ⟨u, events, more, run', step, rfl⟩
    rw [← once.delivered_eq] at decoded
    rw [← once.ending, ← once.peer] at decided
    obtain ⟨outcome, comes⟩ : ∃ outcome, Reaches t i l'' outcome := by
      by_cases unheard : Event.framesReceived i more = []
      · rcases nears with ended | received | ⟨b, k, hb, hk, less⟩
        · exact (ended concludes).elim
        · exact (received unheard).elim
        · obtain rfl : b = c' := Option.some.inj (hb.symm.trans hc')
          obtain rfl : k = l'' := Option.some.inj (hk.symm.trans able''.line)
          refine ih _ (measure ▸ same_effort ▸ less) further able'' decoded decided ?_ rfl
          rw [Event.framesReceived_append, unheard, List.append_nil, left]
      · refine frame_ih _ ?_ further able'' decoded decided rfl
        rw [delivered_of_steps? further i] at decoded
        obtain ⟨future, e, -⟩ := future_of_going further hc'
          (Stage.phase_of_exchanging exchanging).2 decoded
        have some_new := List.length_pos_iff.2 unheard
        rw [← left, e, Event.framesReceived_append]
        simp only [List.length_append]
        omega
    exact ⟨outcome, .of_tended tended (.of_tended once comes)⟩

end Completes

/-! ### The recogniser -/

/-- **A handshake recognises the frames of its switch**, which sends a stream that holds them. -/
structure Recognises (s : State) (i : Nat) (actions : List Action) (events : List Event)
    (stream : List UInt8) (frames : List Frame) : Prop where
  /-- A step in which the exchange comes to something leaves what the frames decide, unless a call
  fails in it. -/
  decides : ∀ a t more outcome, s.step? a = some (t, more) → s.concludes? i a = some outcome →
    Unfailed i more → (∀ f, s.drawn? i a ≠ some (.error (.transport f))) →
      Recognised s t i actions events more stream frames outcome
  /-- The exchange goes on in every other step. -/
  goes : ∀ a t more, s.step? a = some (t, more) → (s.part i).isExchanging = true →
    s.concludes? i a = none → (t.part i).isExchanging = true
  /-- Unless something hinders it, it does come to what the frames decide on a tended line, as soon as
  those that have arrived do or the switch has ended its sending. -/
  returns : ∀ c l, Able s i c l → (l.client.writingEnded = true ∨
      ∃ sent, Holds s.settings.maxFrameLength (delivered i actions) sent ∧
        (recognise (s.peer i).text sent).outcome ≠ .error .peerClosed) →
    ∃ schedule u l' seen v more, Tended i s l schedule u l' seen ∧
      u.step? (.go (.driver i)) = some (v, more) ∧
      Recognised u v i (actions ++ schedule) (events ++ seen) more stream frames
        (recognise (s.peer i).text frames).outcome

/-- **The handshake is a recogniser.** Whatever frames a switch sends, in whatever pieces, the exchange
ends as the first of them decide, after the frames that answer those have been written, and leaves the
frames behind them alone. -/
theorem handshake_recognises {settings : Settings} {handler : Handler} {capacity : Nat}
    {actions : List Action} {s : State} {events : List Event} {i : Nat} {stream : List UInt8}
    {frames : List Frame}
    (run : (State.start settings handler capacity).steps? actions = some (s, events))
    (sends : Sends s i actions stream)
    (decoded : Holds settings.maxFrameLength stream frames) :
    Recognises s i actions events stream frames where
  decides a t more outcome step concludes unfailed heard :=
    recognised_of_step run step concludes unfailed heard sends decoded
  goes a t more step exchanging concludes := by
    have goes := concludes_of_step (orderly_of_run run) step exchanging
    rw [concludes] at goes
    cases goes with
    | goes exchanging => exact exchanging
  returns c l able decided := by
    obtain ⟨outcome, schedule, u, l', seen, v, more, tended, line, step, concludes, unfailed, heard⟩ :
        ∃ outcome, Reaches s i l outcome := by
      rcases decided with ended | ⟨sent, sent_decoded, decided⟩
      · rw [sends.all l able.line ended] at decoded
        exact reaches_of_able run able decoded (.inl ended)
      · exact reaches_of_able run able (settings_of_steps? run ▸ sent_decoded) (.inr decided)
    have further : (State.start settings handler capacity).steps? (actions ++ schedule) =
        some (u, events ++ seen) := State.steps?_trans run tended.runs
    have sends' : Sends u i (actions ++ schedule) stream := by
      refine ⟨tended.delivered_eq actions ▸ sends.sent, fun l'' hl'' ended => ?_⟩
      obtain rfl : l' = l'' := Option.some.inj (line.symm.trans hl'')
      rw [tended.delivered_eq]
      exact sends.all l able.line (tended.ending ▸ ended)
    have recognised := recognised_of_step further step concludes unfailed heard sends' decoded
    refine ⟨schedule, u, l', seen, v, more, tended, step, ?_⟩
    rwa [← tended.peer, recognised.comes]

/-- What a switch sends that asks for an echo in its handshake, and again behind that. -/
def chatter : List Frame :=
  [{ xid := 1, message := .hello [] }, { xid := 7, message := .echoRequest [1, 2] },
    { xid := 2
      message := .featuresReply
        { datapathId := 5, buffers := 0, tables := 0, auxiliaryId := 0, capabilities := 0 } },
    { xid := 8, message := .echoRequest [] }]

/-- A switch sends its frames in two pieces, the first of which ends within the second frame, and ends its
sending before it has been asked for its features. -/
def twoPieces : List Action :=
  let stream := chatter.flatMap Frame.bytes
  ([.connect (.loopback 6653), .go .acceptor, .deliver 0 (stream.take 11)] : List Action) ++
    (List.replicate 4 (.go (.driver 0)) : List Action) ++
    ([.deliver 0 (stream.drop 11), .endSending 0] : List Action)

theorem recognises_twoPieces :
    ∃ s events c l, (State.start {} (.observer []) 64).steps? twoPieces = some (s, events) ∧
      Able s 0 c l ∧ l.client.writingEnded = true ∧
      (recognise (s.peer 0).text chatter).rest.map (·.xid) = [8] ∧
      Recognises s 0 twoPieces events (chatter.flatMap Frame.bytes) chatter := by
  obtain ⟨⟨s, events⟩, run⟩ := Option.isSome_iff_exists.1
    (show ((State.start {} (.observer []) 64).steps? twoPieces).isSome = true by decide +kernel)
  have facts : ((State.start {} (.observer []) 64).steps? twoPieces).all (fun r =>
      ((r.1.connection? 0).bind fun c => (r.1.link? 0).map fun l =>
        decide (c.stage.part.isExchanging = true ∧ r.1.stopping = false ∧ c.stage ≠ .opening ∧
          r.1.now < c.handshakeDeadline ∧ l.shut = false ∧ l.capacity ≠ 0 ∧
          l.client.writingEnded = true ∧
          (recognise (r.1.peer 0).text chatter).rest.map (·.xid) = [8])).getD false) = true := by
    decide +kernel
  rw [run, Option.all_some] at facts
  have decoded : Holds ({} : Settings).maxFrameLength (chatter.flatMap Frame.bytes) chatter := by
    unfold Holds
    decide +kernel
  have sent : chatter.flatMap Frame.bytes = delivered 0 twoPieces := by decide +kernel
  cases hc : s.connection? 0 with
  | none => simp [hc] at facts
  | some c =>
    cases hl : s.link? 0 with
    | none => simp [hc, hl] at facts
    | some l =>
      rw [hc, hl, Option.bind_some, Option.map_some, Option.getD_some, decide_eq_true_iff] at facts
      obtain ⟨exchanging, going, begun, time, unshut, holds, ended, left⟩ := facts
      exact ⟨s, events, c, l, run, ⟨hc, hl, exchanging, going, by rwa [if_neg begun], unshut, holds⟩,
        ended, left, handshake_recognises run ⟨sent ▸ List.prefix_rfl, fun _ _ _ => sent⟩ decoded⟩

end FlowBurst.Controller
