import FlowBurst.Proofs.Muted

/-!
# Lines on which something can follow

On a line that is not muted some run puts a further byte: whoever waits for the lock of the writers
puts bytes in or leaves in the end, and when nobody waits a caller may send over a handle of the line.
Main statement: `followed_of_open`.
-/

namespace FlowBurst.Controller

open FlowBurst.OpenFlow (Frame)
open FlowBurst.Switch (Handle Reference)
open FlowBurst.Transport (Call Disposition Link Locks Polled Progress Side)

/-! ### A poll is a step -/

section Steps

variable {s : State} {who : Actor} {d : Disposition}

/-- A poll for a message on its way is a step of the message. -/
lemma send?_of_poll {h : Handle} {frame : Frame} {call : Call} {u : State} {seen : List Event}
    {progress : Progress} (poll : s.poll? h.channel who d call = some (u, seen, progress)) :
    ∃ tail result, s.send? who d (.writing h frame call) = some (u, seen ++ tail, result) ∧
      ∀ answer, progress = .ready answer →
        .frameEnded h.channel who frame (failureOf answer) ∈ tail := by
  unfold State.send?
  simp only [poll, bind, Option.bind_some]
  cases progress with
  | pending call =>
    exact ⟨[], .inl (.writing h frame call), by rw [List.append_nil]; rfl, fun _ e => by cases e⟩
  | ready answer =>
    cases answer with
    | ok reply => exact ⟨_, _, rfl, fun _ e => by cases e; exact List.mem_cons_self⟩
    | error f => exact ⟨_, _, rfl, fun _ e => by cases e; exact List.mem_cons_self⟩

/-- The links and a request to stop, after a turn of a driving task. -/
lemma Turned.links {i : Nat} {served : Option Reference} {r : State × List Event}
    (h : Turned s i served r) : r.1.stopping = s.stopping ∧ ∀ j, r.1.link? j = s.link? j := by
  obtain ⟨-, g, -, e, -, -⟩ := h
  rw [e]
  exact ⟨rfl, fun j => s.link?_modifyConnection i j g⟩

/-- A step of a task that polled its call: it asks nobody to stop, leaves the links as the poll left
them, unless the driving task of a line gives its handshake up, and shows the end of a frame. -/
structure AfterPoll (s : State) (who : Actor) (job : Job) (u : State) (progress : Progress) (v : State)
    (tail : List Event) : Prop where
  stopping : v.stopping = u.stopping
  links : ∀ j, (who = .driver j → ∀ x, s.standing? j = some x → x.2.phase ≠ .arriving) →
    v.link? j = u.link? j
  ended : ∀ answer frame, progress = .ready answer → job.frame = some frame →
    .frameEnded job.line who frame (failureOf answer) ∈ tail

/-- A driving task that polls its call takes a step. -/
lemma drive?_of_poll {i : Nat} {c : Connection} (hc : s.connection? i = some c) {job : Job}
    (under : c.stage.job? i = some job) {u : State} {seen : List Event} {progress : Progress}
    (poll : s.poll? job.line (.driver i) d job.call = some (u, seen, progress)) :
    ∃ v tail, s.drive? i d = some (v, seen ++ tail) ∧
      AfterPoll s (.driver i) job u progress v tail := by
  have entered (stage : Stage) (j : Nat) : (u.enter i stage).link? j = u.link? j :=
    u.link?_modifyConnection i j _
  have waits {job : Job} {stage : Stage} (unended : ∀ answer frame, progress = .ready answer →
      job.frame ≠ some frame) :
      ∃ v tail, some (u.enter i stage, seen) = some (v, seen ++ tail) ∧
        AfterPoll s (.driver i) job u progress v tail :=
    ⟨u.enter i stage, [], by rw [List.append_nil], rfl, fun j _ => entered stage j,
      fun answer frame ready framed => (unended answer frame ready framed).elim⟩
  unfold State.drive?
  cases stage : c.stage with
  | opening | deciding | registering | launching | deregistering | joining | notifying | ended =>
    rw [stage] at under
    cases under
  | writing purpose frame call =>
    rw [stage] at under
    cases under
    simp only [hc, stage, poll, bind, Option.bind_some]
    cases progress with
    | pending call => exact waits fun _ _ e => by cases e
    | ready answer =>
      have turn := (State.turned_afterWrite u i purpose (answer.map fun _ => ())).links
      refine ⟨_, _, rfl, turn.1, fun j _ => turn.2 j, fun _ _ ready framed => ?_⟩
      cases ready
      cases framed
      exact List.mem_cons_self
  | reading w call =>
    rw [stage] at under
    cases under
    simp only [hc, stage, poll, bind, Option.bind_some]
    cases progress with
    | pending call => exact waits fun _ _ e => by cases e
    | ready answer =>
      have turn := (State.turned_afterRead u i w answer).links
      exact ⟨_, _, rfl, turn.1, fun j _ => turn.2 j, fun _ _ _ framed => by cases framed⟩
  | displacing switch previous call =>
    rw [stage] at under
    cases under
    simp only [hc, stage, poll, bind, Option.bind_some]
    cases progress with
    | pending call | ready answer => exact waits fun _ _ _ framed => by cases framed
  | closing served call =>
    rw [stage] at under
    cases under
    simp only [hc, stage, poll, bind, Option.bind_some]
    cases progress with
    | pending call => exact waits fun _ _ _ framed => by cases framed
    | ready answer =>
      refine ⟨u.afterClose i served, [], by rw [List.append_nil]; rfl, ?_, fun j own => ?_,
        fun _ _ _ framed => by cases framed⟩
      · cases served <;> rfl
      · unfold State.afterClose
        cases served with
        | some switch =>
          exact (State.link?_modifyConnection _ i j _).trans (u.link?_modifyConnection i j _)
        | none =>
          have ne : i ≠ j := by
            rintro rfl
            have standing := standing?_of_core? (State.core?_of_connection? hc)
            refine own rfl _ standing ?_
            show c.stage.phase = _
            rw [stage]
            rfl
          dsimp only
          rw [State.link?_modifyLink _ i j fun l => l.close .server, if_neg ne]
          exact (State.link?_modifyConnection _ i j _).trans (u.link?_modifyConnection i j _)

/-- **A task that polls its call takes a step.** -/
theorem step?_of_poll {job : Job} (under : s.job? who = some job) {u : State} {seen : List Event}
    {progress : Progress} (poll : s.poll? job.line who d job.call = some (u, seen, progress)) :
    ∃ v tail, s.step? (.run who d) = some (v, seen ++ tail) ∧
      AfterPoll s who job u progress v tail := by
  have sends {x : Sending} (hx : s.sending? who = some x) (hj : x.job? = some job) :
      ∃ v tail, s.step? (.run who d) = some (v, seen ++ tail) ∧
        AfterPoll s who job u progress v tail := by
    cases x <;> cases hj
    obtain ⟨tail, result, hsend, ended⟩ := send?_of_poll poll
    obtain ⟨resume, hstep, resumed⟩ := State.step?_run hx d
    obtain ⟨-, -, links, stopping, more, e⟩ := resumed u (seen ++ tail) result
    refine ⟨_, tail ++ more, ?_, stopping, fun j _ => links j, fun answer frame ready framed => ?_⟩
    · rw [hstep, hsend, Option.map_some, ← List.append_assoc, ← e]
    · cases framed
      exact List.mem_append_left _ (ended answer ready)
  cases who with
  | acceptor => cases under
  | driver i =>
    obtain ⟨stage, hs, hj⟩ := Option.bind_eq_some_iff.1 under
    obtain ⟨c, hc, rfl⟩ := State.connection?_of_stage? hs
    exact drive?_of_poll hc hj poll
  | handler i =>
    obtain ⟨news, hn, hj⟩ := Option.bind_eq_some_iff.1 under
    obtain ⟨x, hx, hj⟩ := Option.bind_eq_some_iff.1 hj
    exact sends (by simp [State.sending?, hn, hx]) hj
  | caller k =>
    obtain ⟨caller, hk, hj⟩ := Option.bind_eq_some_iff.1 under
    cases caller with
    | sending x => exact sends (State.sending?_caller hk) hj
    | closing h call =>
      cases hj
      have answered (caller : Caller) :
          ∃ v tail, some ({ u with callers := u.callers.set k caller }, seen) =
            some (v, seen ++ tail) ∧ AfterPoll s (.caller k) ⟨h.channel, call, none⟩ u progress v tail :=
        ⟨{ u with callers := u.callers.set k caller }, [], by rw [List.append_nil], rfl,
          fun _ _ => rfl, fun _ _ _ framed => by cases framed⟩
      show ∃ v tail, s.answer? k d = _ ∧ _
      unfold State.answer?
      simp only [hk, poll, bind, Option.bind_some]
      cases progress with
      | pending call | ready answer => exact answered _
    | sent | failed | closed => cases hj

end Steps

/-! ### A byte to follow -/

/-- Whether some run from a state puts a byte on a line. -/
def State.Followed (s : State) (i : Nat) : Prop :=
  ∃ actions t events, s.steps? actions = some (t, events) ∧ Event.wire i events ≠ []

/-- A line that can still be written on: the controller goes on, the link is not shut, and there is a
handle of the line that is known. -/
structure State.Open (s : State) (i : Nat) : Prop where
  going : s.stopping = false
  patient : s.settings.sendTimeout ≠ some 0
  link : ∃ l, s.link? i = some l ∧ l.shut = false ∧ l.capacity ≠ 0
  known : ∃ h, s.knows h = true ∧ h.channel = i

section Followed

variable {s t : State} {i : Nat} {seen : List Event}

lemma State.Followed.of_step {a : Action} (h : s.step? a = some (t, seen)) (f : t.Followed i) :
    s.Followed i := by
  obtain ⟨actions, u, later, steps, wire⟩ := f
  refine ⟨a :: actions, u, seen ++ later, ?_, ?_⟩
  · simp [State.steps?, h, steps]
  · rw [Event.wire_append]
    exact fun e => wire (List.append_eq_nil_iff.1 e).2

lemma State.Followed.of_wire {a : Action} (h : s.step? a = some (t, seen))
    (wire : Event.wire i seen ≠ []) : s.Followed i :=
  ⟨[a], t, seen, by simp [State.steps?, h], wire⟩

/-- A pipe that holds something is full only of what has arrived. -/
lemma arrived_of_no_room {l : Link} (holds : l.capacity ≠ 0) (room : l.room .server = 0) :
    l.client.arrived ≠ [] := by
  intro e
  simp only [Link.room, Link.endpoint, Side.other, e] at room
  exact holds (by simpa using room)

/-- A switch can take off all that has arrived there. -/
lemma State.step?_collect {x : Line} (hx : s.lines[i]? = some x)
    (some_there : x.link.client.arrived ≠ []) :
    s.step? (.collect i x.link.client.arrived.length) =
      some (s.modifyLine i fun y =>
        { y with link := { x.link with client := { x.link.client with arrived := [] } } }, []) := by
  have read : x.link.read? .client x.link.client.arrived.length =
      some (.ok x.link.client.arrived,
        { x.link with client := { x.link.client with arrived := [] } }) := by
    unfold Link.read?
    dsimp only [Link.endpoint]
    rw [if_pos some_there, List.take_length, List.drop_length]
    rfl
  simp only [State.step?, hx, read, bind, Option.bind_some]
  rfl

/-- A connection that is known has been accepted. -/
lemma connection?_of_knows {h : Handle} (known : s.knows h = true) :
    ∃ c, s.connection? h.channel = some c := by
  unfold State.knows at known
  split at known
  next c hc => exact ⟨c, hc⟩
  next => cases known

variable {who : Actor} {job : Job} {rest : List UInt8} {total : Nat} {c : Connection} {l : Link}
  (hc : s.connection? i = some c) (hl : s.link? i = some l) (shut : l.shut = false)
  (under : s.job? who = some job) (line : job.line = i)
  (request : job.call.request = .write rest total) (more : rest ≠ [])
  (going : job.call.stopped? s.moment = none)
  (head : (Locks.ask (s.writers i) who).head? = some who)
include hc hl shut under line request more going head

/-- The writer that has the lock puts bytes in, where there is room. -/
lemma followed_of_room (room : l.room .server ≠ 0) : s.Followed i := by
  rw [State.writers, State.locks_of_connection? hc] at head
  obtain ⟨p, poll, put⟩ := Call.poll?_of_room readChunk request more going head shut room
  subst line
  obtain ⟨v, tail, step, -⟩ := step?_of_poll under (State.poll?_of_connection? hl hc poll)
  refine .of_wire step ?_
  rw [Event.wire_append, Event.wire_putEvents, if_pos rfl]
  exact fun e => put (List.append_eq_nil_iff.1 e).1

/-- The writer that has the lock puts bytes in, once the switch has made room. -/
lemma followed_of_writer (holds : l.capacity ≠ 0) : s.Followed i := by
  by_cases room : l.room .server = 0
  · obtain ⟨x, hx, rfl⟩ := Option.map_eq_some_iff.1 hl
    let empty : Link := { x.link with client := { x.link.client with arrived := [] } }
    have step : s.step? (.collect i x.link.client.arrived.length) =
        some (s.modifyLine i fun y => { y with link := empty }, []) :=
      State.step?_collect hx (arrived_of_no_room holds room)
    have becomes : x.link.Becomes empty := .of_eq rfl rfl
    have aside := Aside.setLink s hx becomes
    have under' := (State.job?_congr (State.core?_congr aside.connection) aside.callers who).trans under
    refine .of_step step (followed_of_room (l := empty) ((aside.connection i).trans hc) ?_ shut under'
      line request more going ?_ holds)
    · simp [State.link?, State.modifyLine, hx]
    · unfold State.writers
      rwa [State.locks_congr aside.connection]
  · exact followed_of_room hc hl shut under line request more going head room

end Followed

/-! ### Lines that can still be written on -/

namespace State.Open

variable {s t : State} {i : Nat} {events seen : List Event} {settings : Settings} {handler : Handler}
  {capacity : Nat} {actions : List Action}

/-- A step that leaves the link as it is, and asks nobody to stop. -/
lemma step (o : s.Open i) (st : Standing s events) (orderly : s.Orderly) {a : Action}
    (h : s.step? a = some (t, seen)) (going : t.stopping = false) (link : t.link? i = s.link? i) :
    t.Open i where
  going := going
  patient := (step?_kept h).settings ▸ o.patient
  link := link ▸ o.link
  known := o.known.imp fun _ hk => hk.imp_left (State.knows_step st (step?_stir orderly h))

/-- Settings without a fault leave a send some time. -/
lemma patient_of_steps?
    (run : (State.start settings handler capacity).steps? actions = some (s, events))
    (valid : settings.fault? = none) : s.settings.sendTimeout ≠ some 0 := by
  rw [settings_of_steps? run]
  intro zero
  unfold Settings.fault? at valid
  rw [if_pos zero] at valid
  split at valid <;> cases valid

/-- The connection of a line with a known handle has registered. -/
lemma registered (o : s.Open i) (st : Standing s events) :
    ∃ x, s.standing? i = some x ∧ x.2.phase ≠ .arriving := by
  obtain ⟨k, known, rfl⟩ := o.known
  obtain ⟨session, stage, hx, datapath, -⟩ := State.knows_iff.1 known
  refine ⟨_, hx, fun arriving => ?_⟩
  rw [st.datapath_of_arriving hx arriving] at datapath
  cases datapath

/-- **Nobody waits for ever**: a writer whose call is stopped leaves the queue in its next step. -/
lemma leaves (o : s.Open i)
    (run : (State.start settings handler capacity).steps? actions = some (s, events))
    {who : Actor} {job : Job} (queued : who ∈ s.writers i) (under : s.job? who = some job)
    (line : job.line = i) {cause : Transport.Cause} (stop : job.call.stopped? s.moment = some cause) :
    ∃ t seen, s.step? (.go who) = some (t, seen) ∧ t.Open i ∧
      (t.writers i).length < (s.writers i).length := by
  have orderly := orderly_of_run run
  have st := standing_of_steps? run
  obtain ⟨pieces, part, ledger⟩ := ledger_of_steps? i run
  obtain ⟨k, known, channel⟩ := o.known
  obtain ⟨c, hc⟩ := connection?_of_knows known
  obtain ⟨l, hl, shut, holds⟩ := o.link
  rw [channel] at hc
  have more := ledger.desk.request_ne under line
  subst line
  have poll : job.call.poll? s.moment .server who (.proceed readChunk) l c.locks = some _ :=
    Call.poll?_of_stopped readChunk more stop
  obtain ⟨t, tail, step, after⟩ := step?_of_poll under (State.poll?_of_connection? hl hc poll)
  obtain ⟨x, hx, phase⟩ := o.registered st
  have link : t.link? job.line = s.link? job.line := by
    rw [after.links _ fun _ y hy => Option.some.inj (hx.symm.trans hy) ▸ phase,
      State.link?_polled hc, if_pos rfl, hl]
  refine ⟨t, _, step, o.step st orderly step (after.stopping.trans o.going) link, ?_⟩
  have left : t.writers job.line = Locks.leave (s.writers job.line) who := by
    have works := State.works_of_task orderly step rfl
    generalize hbefore : s.job? who = before, hafter : t.job? who = after at works
    rw [under] at hbefore
    cases works with
    | begins => cases hbefore
    | waits job' polling locks pending seen =>
      cases hbefore
      obtain ⟨link', -, polls⟩ := polling.polls
      have going := (polls.locks_of_pending pending).1
      rw [stop] at going
      cases going
    | ends job' polling locks ready fresh seen =>
      cases hbefore
      obtain ⟨link', -, polls⟩ := polling.polls
      exact ledger.desk.left under rfl polls (by rw [locks, if_pos rfl]) ready
  rw [left]
  exact List.length_filter_lt_length_iff_exists.2 ⟨who, queued, by simp⟩

/-- A call whose deadline has passed is stopped. -/
lemma stopped?_of_expired {call : Call} {m : Transport.Moment} (h : call.limits.expired m = true) :
    ∃ cause, call.stopped? m = some cause := by
  refine Option.ne_none_iff_exists'.1 fun going => ?_
  rw [(Call.stopped?_eq_none_iff.1 going).1] at h
  cases h

/-- A send that starts now is not stopped. -/
lemma going_of_send (o : s.Open i) (bytes : List UInt8) :
    Call.stopped? s.moment (.write s.sendLimits bytes) = none := by
  have in_time : s.sendLimits.expired s.moment = false := by
    have patient := o.patient
    unfold State.sendLimits Transport.Limits.expired
    cases hs : s.settings.sendTimeout with
    | none => rfl
    | some n =>
      rw [hs] at patient
      have : n ≠ 0 := fun e => patient (by rw [e])
      exact decide_eq_false (show ¬ s.now + n ≤ s.now by omega)
  have uncancelled : s.sendLimits.cancelled s.moment = false := by
    simp [Transport.Limits.cancelled, State.moment, o.going]
  exact Call.stopped?_eq_none_iff.2 ⟨in_time, uncancelled⟩

/-- When nobody waits to write, a caller may. -/
lemma followed_of_idle (o : s.Open i) (idle : s.writers i = []) : s.Followed i := by
  obtain ⟨h, known, rfl⟩ := o.known
  obtain ⟨c, hc⟩ := connection?_of_knows known
  obtain ⟨l, hl, shut, holds⟩ := o.link
  let frame : Frame := { xid := c.nextXid, message := .barrierRequest }
  have encoded : frame.encode = .ok frame.bytes := if_pos (show 8 + 0 ≤ 65535 by omega)
  let asked : State := { s with callers := s.callers ++ [.sending (.holding h .barrierRequest)] }
  have ask : s.step? (.call (.sendOver h .barrierRequest)) = some (asked, []) := by
    simp [State.step?, State.call?, known, asked]
  have here : asked.callers[s.callers.length]? = some (.sending (.holding h .barrierRequest)) := by
    simp [asked]
  let begun : State := { s.modifyConnection h.channel fun c => { c with nextXid := c.nextXid + 1 } with
    callers := asked.callers.set s.callers.length
      (.sending (.writing h frame (.write s.sendLimits frame.bytes))) }
  have begin_ : asked.step? (.go (.caller s.callers.length)) =
      some (begun, [.frameBegun h.channel (.caller s.callers.length) frame]) := by
    show asked.answer? _ _ = _
    unfold State.answer? State.send?
    simp only [here, bind, Option.bind_some, show asked.connection? h.channel = some c from hc]
    rw [show Frame.encode { xid := c.nextXid, message := .barrierRequest } = _ from encoded]
    rfl
  have under : begun.job? (.caller s.callers.length) =
      some ⟨h.channel, .write s.sendLimits frame.bytes, some frame⟩ := by
    have written : begun.callers[s.callers.length]? =
        some (.sending (.writing h frame (.write s.sendLimits frame.bytes))) :=
      List.getElem?_set_self (by simp [asked])
    exact job?_of_sending (State.sending?_caller written)
  have connection : begun.connection? h.channel = some { c with nextXid := c.nextXid + 1 } := by
    refine (s.connection?_modifyConnection h.channel h.channel _).trans ?_
    rw [if_pos rfl, hc]
    rfl
  refine .of_step ask (.of_step begin_ (followed_of_writer connection
    ((s.link?_modifyConnection h.channel h.channel _).trans hl) shut under rfl rfl
    (encode_eq_ok encoded).2.2 (o.going_of_send frame.bytes) ?_ holds))
  have locks : begun.locks h.channel = s.locks h.channel :=
    s.locks_modifyConnection h.channel h.channel (f := fun c => { c with nextXid := c.nextXid + 1 })
      fun _ => rfl
  rw [State.writers, locks, show (s.locks h.channel).writers = [] from idle]
  rfl

/-- **On a line that can still be written on a byte can follow**: the writers in the queue leave it one
after another, or one of them writes. -/
theorem followed (o : s.Open i)
    (run : (State.start settings handler capacity).steps? actions = some (s, events)) :
    s.Followed i := by
  induction hn : (s.writers i).length using Nat.strongRecOn generalizing s actions events with
  | ind n ih =>
    cases queue : s.writers i with
    | nil => exact o.followed_of_idle queue
    | cons who others =>
      have queued : who ∈ s.writers i := by rw [queue]; exact List.mem_cons_self
      obtain ⟨pieces, part, ledger⟩ := ledger_of_steps? i run
      obtain ⟨job, under, line⟩ := ledger.desk.queued who queued
      have goes {t : State} {before : List Action} {past : List Event} (o : t.Open i)
          (run : (State.start settings handler capacity).steps? before = some (t, past))
          (length : (t.writers i).length = n) (queued : who ∈ t.writers i)
          (under : t.job? who = some job) {cause : Transport.Cause}
          (stop : job.call.stopped? t.moment = some cause) : t.Followed i := by
        obtain ⟨u, seen, step, o', shorter⟩ := o.leaves run queued under line stop
        exact .of_step step (ih _ (length ▸ shorter) o'
          (State.steps?_concat.2 ⟨t, past, seen, run, step, rfl⟩) rfl)
      cases stop : job.call.stopped? s.moment with
      | some cause => exact goes o run hn queued under stop
      | none =>
        cases request : job.call.request with
        | read size => exact ((paced_of_steps? run).kind i who job queued under size request).elim
        | write rest total =>
          obtain ⟨k, known, channel⟩ := o.known
          obtain ⟨c, hc⟩ := connection?_of_knows known
          obtain ⟨l, hl, shut, holds⟩ := o.link
          have framed : job.frame ≠ none := fun hf =>
            ledger.desk.others who job under line hf rest total request
          obtain ⟨frame, hf⟩ := Option.ne_none_iff_exists'.1 framed
          obtain ⟨rest', total', request', more, -⟩ := ledger.desk.owed who job frame under line hf
          rw [request] at request'
          cases request'
          have head : (Locks.ask (s.writers i) who).head? = some who := by
            rw [Locks.head?_ask, queue]
            rfl
          exact followed_of_writer (channel ▸ hc) hl shut under line request more stop head holds
        | shutdown direction =>
          have bounded := (paced_of_steps? run).bounded who job under
          unfold Call.Bounded at bounded
          rw [request] at bounded
          obtain ⟨deadline, hd⟩ := Option.ne_none_iff_exists'.1 bounded
          have step : s.step? (.elapse deadline) =
              some ({ s with now := s.now + deadline }, []) := rfl
          have expired : job.call.limits.expired
              (State.moment { s with now := s.now + deadline }) = true := by
            unfold Transport.Limits.expired
            rw [hd]
            exact decide_eq_true (Nat.le_add_left deadline s.now)
          obtain ⟨cause, stop⟩ := stopped?_of_expired expired
          exact .of_step step (goes ⟨o.going, o.patient, o.link, o.known⟩
            (State.steps?_concat.2 ⟨s, events, [], run, step, rfl⟩) hn queued under stop)

end State.Open

end FlowBurst.Controller
