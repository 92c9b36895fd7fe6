import FlowBurst.Proofs.Following
import FlowBurst.Proofs.Replacing
import FlowBurst.Proofs.Segmentation
import FlowBurst.Proofs.Speech

/-!
# What a close leaves of a connection

Whoever closes a connection waits for the lock of its writers, and for a second at most. A close that
comes to have the lock shuts both directions down: nothing is written any more, and a read comes to an
end. One that gives up leaves the connection as it was, and whoever kept it waiting goes on to write as
soon as the switch makes room. Main statements: `close_seals_iff`, `closed_and_written_on`.
-/

namespace FlowBurst.Controller

open FlowBurst.OpenFlow (Frame)
open FlowBurst.Switch (Handle Reference)
open FlowBurst.Transport (Call Link Locks Polled)

/-! ### Lines that are down -/

/-- Both directions of a line are shut down: the controller writes no more, and there is an end to what
it reads, if there is a task left that could read. -/
def State.Down (s : State) (i : Nat) : Prop :=
  ∃ l, s.link? i = some l ∧ l.server.writingEnded = true ∧
    (l.ends = true ∨ s.stage? i = some .ended)

/-- Whoever is at work on a line is done with it in the next step: a writer whose turn it is fails, and
a read ends. -/
structure State.Fails (s : State) (i : Nat) : Prop where
  writes : ∀ who call frame, s.job? who = some ⟨i, call, some frame⟩ →
    (Locks.ask (s.writers i) who).head? = some who →
    ∃ t seen f, s.step? (.go who) = some (t, seen) ∧ .frameEnded i who frame (some f) ∈ seen
  reads : ∀ w call, s.stage? i = some (.reading w call) →
    ∃ t seen, s.step? (.go (.driver i)) = some (t, seen) ∧
      ∀ w' call', t.stage? i ≠ some (.reading w' call')

/-- A line is sealed: whatever is done, both its directions are down, nothing is put on it, no frame is
written on it to its end, and whoever is at work on it fails. -/
def State.Sealed (s : State) (i : Nat) : Prop :=
  ∀ actions t later, s.steps? actions = some (t, later) →
    t.Down i ∧ t.Fails i ∧ Event.wire i later = [] ∧ Event.framesWritten i later = []

section Down

variable {s t : State} {i : Nat} {events more : List Event}

lemma stage?_eq_standing? (s : State) (i : Nat) : s.stage? i = (s.standing? i).map (·.2) := by
  unfold State.stage? State.standing?
  rw [Option.map_map]
  rfl

lemma standing?_of_stage? {stage : Stage} (h : s.stage? i = some stage) :
    ∃ session, s.standing? i = some (session, stage) := by
  rw [stage?_eq_standing?] at h
  obtain ⟨⟨session, stage⟩, hx, rfl⟩ := Option.map_eq_some_iff.1 h
  exact ⟨session, hx⟩

/-- A driving task that has ended stays so. -/
lemma ended_step (orderly : s.Orderly) {a : Action} (h : s.step? a = some (t, more))
    (ended : s.stage? i = some .ended) : t.stage? i = some .ended := by
  obtain ⟨session, hx⟩ := standing?_of_stage? ended
  by_cases own : a.task? = some (.driver i)
  · obtain ⟨c, hc, step⟩ := drove_of_task h own
    rw [standing?_of_core? (State.core?_of_connection? hc)] at hx
    exact (step.stage_ne (congrArg Prod.snd (Option.some.inj hx))).elim
  · rw [stage?_eq_standing?, standing?_of_other orderly h own hx]
    rfl

/-- **A line that is down stays down.** -/
theorem State.Down.step (down : s.Down i) (orderly : s.Orderly) {a : Action}
    (h : s.step? a = some (t, more)) : t.Down i := by
  obtain ⟨l, hl, writing, reading⟩ := down
  obtain ⟨l', hl', becomes⟩ := (step?_kept h).links i l hl
  exact ⟨l', hl', becomes.writing writing, reading.imp becomes.ends (ended_step orderly h)⟩

lemma State.Down.silenced (down : s.Down i) : Silenced s i := by
  obtain ⟨l, hl, writing, -⟩ := down
  exact .inr (.inl ⟨l, hl, by simp [Link.shut, writing]⟩)

/-- A driving task whose read has ended does not go on with it. -/
lemma stage?_afterRead (s : State) (i : Nat) (w : Awaiting)
    (answer : Except Transport.Failure Transport.Reply) (w' : Awaiting) (call : Call) :
    (s.afterRead i w answer).1.stage? i ≠ some (.reading w' call) := by
  have entered {u : State} {stage : Stage} (other : stage ≠ .reading w' call) :
      (u.enter i stage).stage? i ≠ some (.reading w' call) := by
    unfold State.stage?
    rw [State.core?_enter, if_pos rfl]
    cases u.core? i with
    | none => simp
    | some core => simpa using other
  have failed (f : Switch.Failure) : (s.fail i w f).1.stage? i ≠ some (.reading w' call) := by
    cases w <;> exact entered (by simp)
  unfold State.afterRead
  split
  · exact failed _
  · exact entered (by simp)
  · exact entered (by simp)
  · exact failed _

/-- There is an answer to a read of what has an end. -/
lemma read?_of_ends {l : Link} (ends : l.ends = true) (size : Nat) :
    ∃ answer l', l.read? .server size = some (answer, l') := by
  by_cases arrived : l.server.arrived = []
  · cases reset : l.wasReset with
    | true =>
      exact ⟨.error .connectionReset, l, by simp [Link.read?, Link.endpoint, arrived, reset]⟩
    | false =>
      have ended : l.server.readingEnded = true ∨ l.client.writingEnded = true := by
        simpa [Link.ends, reset] using ends
      exact ⟨.ok [], l, by
        simp [Link.read?, Link.endpoint, Transport.Side.other, arrived, reset, ended]⟩
  · exact ⟨_, _, if_pos arrived⟩

variable {settings : Settings} {handler : Handler} {capacity : Nat} {actions : List Action}
  (run : (State.start settings handler capacity).steps? actions = some (s, events))
include run

/-- Whoever writes a frame on a line does so over a connection. -/
lemma connection?_of_frame {who : Actor} {job : Job} {frame : Frame} (under : s.job? who = some job)
    (framed : job.frame = some frame) : ∃ c, s.connection? job.line = some c := by
  rcases writer_of_frame under framed with ⟨-, purpose, call, hs⟩ | ⟨h, call, hx, channel⟩
  · obtain ⟨core, hcore, -⟩ := Option.map_eq_some_iff.1 hs
    obtain ⟨c, hc, -⟩ := Option.map_eq_some_iff.1 hcore
    exact ⟨c, hc⟩
  · have known : s.knows h = true := directed_of_steps? run who _ hx
    exact channel ▸ connection?_of_knows known

/-- **On a line that is down everybody fails.** -/
theorem State.Down.fails (down : s.Down i) : s.Fails i := by
  obtain ⟨l, hl, writing, reading⟩ := down
  constructor
  · intro who call frame under head
    obtain ⟨c, hc⟩ := connection?_of_frame run under rfl
    obtain ⟨pieces, part, ledger⟩ := ledger_of_steps? i run
    obtain ⟨rest, total, request, more, -⟩ := ledger.desk.owed who _ frame under rfl rfl
    rw [State.writers, State.locks_of_connection? hc] at head
    obtain ⟨p, f, poll, ready⟩ : ∃ p f,
        call.poll? s.moment .server who (.proceed readChunk) l c.locks = some p ∧
          p.progress = .ready (.error f) := by
      cases stop : call.stopped? s.moment with
      | none => exact Call.poll?_of_ended readChunk request more stop head writing
      | some cause =>
        exact ⟨_, _, Call.poll?_of_stopped readChunk (ledger.desk.request_ne under rfl) stop, rfl⟩
    obtain ⟨t, tail, step, after⟩ := step?_of_poll under (State.poll?_of_connection? hl hc poll)
    exact ⟨t, _, f, step, List.mem_append_right _ (after.ended (.error f) frame ready rfl)⟩
  · intro w call stage
    have ends : l.ends = true := reading.resolve_right (by rw [stage]; simp)
    obtain ⟨core, hcore, hs⟩ := Option.map_eq_some_iff.1 stage
    obtain ⟨c, hc, rfl⟩ := Option.map_eq_some_iff.1 hcore
    obtain ⟨attended, reads⟩ := attended_of_steps? run
    obtain ⟨-, request⟩ := reads i c hc w call hs
    have readers := attended.readers i
    rw [State.locks_of_connection? hc] at readers
    obtain ⟨p, answer, poll, ready⟩ : ∃ p answer,
        call.poll? s.moment .server (.driver i) (.proceed readChunk) l c.locks = some p ∧
          p.progress = .ready answer := by
      cases stop : call.stopped? s.moment with
      | none =>
        obtain ⟨answer, l', read⟩ := read?_of_ends ends readChunk
        obtain ⟨locks, poll⟩ := Call.poll?_of_answer readChunk request stop readers read
        exact ⟨_, _, poll, rfl⟩
      | some cause =>
        exact ⟨_, _, Call.poll?_of_stopped readChunk (by rw [request]; simp) stop, rfl⟩
    have polled := State.poll?_of_connection? hl hc poll
    rw [ready] at polled
    exact ⟨_, _, (Unhindered.drive?_of_reading hc hs polled).1, stage?_afterRead _ i w answer⟩

/-- The last byte of a frame is put on a line that is not down. -/
lemma not_down_of_written {a : Action} (h : s.step? a = some (t, more)) {who : Actor} {frame : Frame}
    (ended : .frameEnded i who frame none ∈ more) : ¬ s.Down i := by
  rintro ⟨l, hl, writing, -⟩
  have orderly := orderly_of_run run
  obtain ⟨own, job, under, rfl, framed⟩ := job_of_frameEnded orderly h ended
  obtain ⟨pieces, part, ledger⟩ := ledger_of_steps? job.line run
  have works := State.works_of_task orderly h own
  have member : Event.frameEnded job.line who frame none ∈ outgoing more :=
    List.mem_filter.2 ⟨ended, rfl⟩
  generalize hafter : t.job? who = after at works
  rw [under] at works
  cases works with
  | waits _ polling locks pending seen => exact (frameEnded_not_mem_putEvents (seen ▸ member)).elim
  | @ends _ b p answer _ _ polling locks ready fresh seen =>
    rw [seen, Job.endEvents_of_frame framed] at member
    have last := List.mem_singleton.1 ((List.mem_append.1 member).resolve_left
      frameEnded_not_mem_putEvents)
    obtain ⟨reply, rfl⟩ : ∃ reply, answer = .ok reply := by
      cases answer with
      | ok reply => exact ⟨reply, rfl⟩
      | error f => cases last
    obtain ⟨rest, total, request, more, -⟩ := ledger.desk.owed who job frame under rfl framed
    obtain ⟨link, hl', polls⟩ := polling.polls
    rw [hl] at hl'
    cases hl'
    cases polls with
    | empty empty => exact ledger.desk.request_ne under rfl empty
    | completes going request' holds wrote all =>
      have open_ := (Link.write?_eq_ok wrote).2.2.2
      rw [Link.shut, writing] at open_
      cases open_
    | ends going failed =>
      obtain ⟨f, rfl⟩ := failed rest total request
      cases ready
    | stopped | waits | advances => cases ready

/-- On a line that is down no frame is written to its end. -/
lemma State.Down.unwritten (down : s.Down i) {a : Action} (h : s.step? a = some (t, more)) :
    Event.framesWritten i more = [] := by
  refine List.filterMap_eq_nil_iff.2 fun e he => ?_
  cases e with
  | frameEnded j who frame failure =>
    cases failure with
    | some f => rfl
    | none =>
      refine if_neg ?_
      rintro rfl
      exact not_down_of_written run h he down
  | _ => rfl

/-- **A line that is down is sealed.** -/
theorem State.Down.sealed (down : s.Down i) : s.Sealed i := by
  intro rest u later h
  induction rest generalizing s actions events later with
  | nil =>
    cases h
    exact ⟨down, down.fails run, rfl, rfl⟩
  | cons a rest ih =>
    obtain ⟨⟨t, first⟩, step, h⟩ := Option.bind_eq_some_iff.1 h
    obtain ⟨⟨v, after⟩, steps, e⟩ := Option.bind_eq_some_iff.1 h
    cases e
    have further : (State.start settings handler capacity).steps? (actions ++ [a]) =
        some (t, events ++ first) := State.steps?_concat.2 ⟨s, events, first, run, step, rfl⟩
    obtain ⟨down', fails, wire, written⟩ :=
      ih further (down.step (orderly_of_run run) step) _ steps
    refine ⟨down', fails, ?_, ?_⟩
    · rw [Event.wire_append, (down.silenced.step run step).2, wire]
      rfl
    · rw [Event.framesWritten_append, down.unwritten run step, written]
      rfl

end Down

/-! ### Closes that return -/

/-- A task returns from closing a line in a step in which the system fails no call. -/
structure Returns (s : State) (who : Actor) (i : Nat) (call : Call) (t : State) : Prop where
  closing : s.closing? who = some (i, call)
  step : ∃ limit seen, s.step? (.run who (.proceed limit)) = some (t, seen)
  returned : t.job? who = none

section Returns

variable {s t : State} {i : Nat} {events : List Event} {who : Actor} {call : Call}

/-- Who closes a line does so with a call that is its job. It is the driving task of the line, after a
handshake that it gave up, or the line has a handle that is known. -/
lemma Closers.job (closers : Closers s) (st : Standing s events)
    (closing : s.closing? who = some (i, call)) :
    s.job? who = some ⟨i, call, none⟩ ∧ Closes call ∧
      ((who = .driver i ∧ s.stage? i = some (.closing none call)) ∨
        (∃ k, s.knows k = true ∧ k.channel = i) ∧
          ∀ stage, who = .driver i → s.stage? i = some stage → stage.phase.held? ≠ none) := by
  cases who with
  | acceptor | handler => cases closing
  | driver j =>
    obtain ⟨stage, hs, hj⟩ := Option.bind_eq_some_iff.1 closing
    obtain ⟨session, hx⟩ := standing?_of_stage? hs
    have closes := closers.stages j session stage hx
    have held (r : Reference) (holds : stage.phase.held? = some r) (stage' : Stage)
        (own : Actor.driver j = .driver i) (hs' : s.stage? i = some stage') :
        stage'.phase.held? ≠ none := by
      cases own
      cases hs.symm.trans hs'
      simp [holds]
    cases stage with
    | displacing switch previous call' =>
      cases hj
      exact ⟨by simp [State.job?, hs, Stage.job?], closes.2.2,
        .inr ⟨⟨previous, closes.1, rfl⟩, held switch rfl⟩⟩
    | closing served call' =>
      cases hj
      refine ⟨by simp [State.job?, hs, Stage.job?], closes, ?_⟩
      cases served with
      | none => exact .inl ⟨rfl, hs⟩
      | some switch =>
        obtain ⟨datapath, number, -⟩ := st.agrees hx (r := switch) rfl
        exact .inr ⟨⟨⟨switch, _⟩, State.knows_iff.2 ⟨_, _, hx, datapath, number⟩, rfl⟩,
          held switch rfl⟩
    | _ => cases hj
  | caller k =>
    obtain ⟨caller, hk, hj⟩ := Option.bind_eq_some_iff.1 closing
    cases caller with
    | closing h call' =>
      cases hj
      obtain ⟨known, closes⟩ := closers.callers k h call hk
      exact ⟨by simp [State.job?, hk, Caller.job?], closes,
        .inr ⟨⟨h, known, rfl⟩, fun _ own => by cases own⟩⟩
    | _ => cases hj

/-- A close is stopped by its deadline alone. -/
lemma Closes.stopped?_eq_none (closes : Closes call) (m : Transport.Moment) :
    call.stopped? m = none ↔ call.limits.expired m = false := by
  have uncancelled : call.limits.cancelled m = false := by
    simp [Transport.Limits.cancelled, closes.request.2]
  rw [Call.stopped?_eq_none_iff]
  exact and_iff_left uncancelled

variable {settings : Settings} {handler : Handler} {capacity : Nat} {actions : List Action}
  (run : (State.start settings handler capacity).steps? actions = some (s, events))
include run

/-- A connection that is closed after its handshake was given up is down, and nobody is left to read.
-/
lemma Returns.of_handshake (ret : Returns s (.driver i) i call t)
    (stage : s.stage? i = some (.closing none call)) : Abandoned s i ∧ t.Down i := by
  obtain ⟨session, hx⟩ := standing?_of_stage? stage
  obtain ⟨limit, seen, step⟩ := ret.step
  refine ⟨⟨session, _, hx, (standing_of_steps? run).datapath_of_arriving hx rfl, .inr ⟨call, rfl⟩⟩, ?_⟩
  obtain ⟨c, hc, drove⟩ := drove_of_task step rfl
  have hcore := State.core?_of_connection? hc
  have was : c.stage = .closing none call := by
    rw [standing?_of_core? hcore] at hx
    exact congrArg Prod.snd (Option.some.inj hx)
  cases drove with
  | turned idle => rw [was] at idle; cases idle
  | @waited job call' b p under polling pending =>
    have here := State.core?_enter (s.polled job.line b p) i i (c.stage.withCall call')
    rw [if_pos rfl, State.core?_polled i polling.connection, hcore] at here
    have left := ret.returned
    rw [State.job?_driver here] at left
    cases (c.stage.job?_withCall call' under).symm.trans left
  | @closed served call' b p answer closing polling ready =>
    rw [was] at closing
    cases closing
    refine ⟨p.link.close .server, ?_, rfl, .inr ?_⟩
    · unfold State.afterClose
      dsimp only
      rw [State.link?_modifyLink _ i i fun l => l.close .server, if_pos rfl]
      unfold State.enter
      rw [State.link?_modifyConnection, State.link?_modifyConnection,
        State.link?_polled polling.connection, if_pos rfl]
      rfl
    · unfold State.stage?
      rw [State.core?_afterClose, if_pos rfl, State.core?_polled i polling.connection, hcore]
      rfl
  | wrote stage | got stage | displaced stage | registered stage | launched stage
  | deregistered stage | joined stage | notified stage =>
    rw [was] at stage
    cases stage

/-- A driving task that holds an entry of the registry does not end in its next step. -/
lemma not_ended_of_held {a : Action} {more : List Event} (h : s.step? a = some (t, more))
    {stage : Stage} (before : s.stage? i = some stage) (held : stage.phase.held? ≠ none) :
    t.stage? i ≠ some .ended := by
  obtain ⟨session, hx⟩ := standing?_of_stage? before
  intro ended
  obtain ⟨session', hy⟩ := standing?_of_stage? ended
  cases step?_stir (orderly_of_run run) h with
  | calm lines =>
    rw [lines, hx] at hy
    cases hy
    exact held rfl
  | @accepts j _ fresh datapath number lines =>
    rw [lines] at hy
    split at hy
    · cases hy
    · rw [hx] at hy
      cases hy
      exact held rfl
  | @drives j c _ _ _ was lines course =>
    rw [lines] at hy
    split at hy
    next own =>
      subst own
      cases hy
      rw [hx] at was
      obtain rfl : stage = c.stage := congrArg Prod.snd (Option.some.inj was)
      generalize registrations more = shown, t.registry = after at course
      cases course with
      | goes _ _ same => exact held (by rw [← same]; rfl)
      | registers arriving => exact held (by rw [arriving]; rfl)
      | launches entering phase => cases phase
      | deregisters _ phase => cases phase
      | ends cause =>
        rcases cause with arriving | ⟨_, _, left⟩
        · exact held (by rw [arriving]; rfl)
        · exact held (by rw [left]; rfl)
    next =>
      rw [hx] at hy
      cases hy
      exact held rfl

/-- **What comes of a close**: both directions are down if it returned in time, or if nobody is left to
read, and otherwise the line is what it was. -/
theorem Returns.outcome (ret : Returns s who i call t) :
    (call.limits.expired s.moment = false ∧ t.Down i) ∨
      (who = .driver i ∧ Abandoned s i ∧ t.Down i) ∨
      (call.limits.expired s.moment = true ∧ t.stopping = s.stopping ∧ t.link? i = s.link? i ∧
        (t.stage? i = some .ended → s.stage? i = some .ended) ∧
        ∃ k, s.knows k = true ∧ k.channel = i) := by
  obtain ⟨limit, seen, step⟩ := ret.step
  have orderly := orderly_of_run run
  have st := standing_of_steps? run
  obtain ⟨under, closes, ⟨rfl, stage⟩ | ⟨known, held⟩⟩ := (closers_of_steps? run).job st ret.closing
  · obtain ⟨abandoned, down⟩ := ret.of_handshake run stage
    exact .inr (.inl ⟨rfl, abandoned, down⟩)
  obtain ⟨y, hy, phase⟩ : ∃ y, s.standing? i = some y ∧ y.2.phase ≠ .arriving := by
    obtain ⟨k, hk, rfl⟩ := known
    obtain ⟨session, stage, hy, datapath, -⟩ := State.knows_iff.1 hk
    refine ⟨_, hy, fun arriving => ?_⟩
    rw [st.datapath_of_arriving hy arriving] at datapath
    cases datapath
  have works := State.works_of_task orderly step rfl
  rw [under, ret.returned] at works
  obtain ⟨b, p, answer, ⟨hb, link, d, hl, poll⟩, ready⟩ : ∃ b p answer, Polling s i who call b p ∧
      p.progress = .ready answer := by
    cases works with
    | ends _ polling locks ready => exact ⟨_, _, _, polling, ready⟩
  -- The call is polled as the system fails nothing, whatever it did in the step.
  have polled {q : Polled Actor}
      (hq : call.poll? s.moment .server who (.proceed limit) link b.locks = some q) :
      t.stopping = s.stopping ∧ t.link? i = some q.link := by
    obtain ⟨v, tail, step', after⟩ := step?_of_poll under (State.poll?_of_connection? hl hb hq)
    rw [step] at step'
    cases step'
    refine ⟨after.stopping, ?_⟩
    rw [after.links i fun _ x hx => Option.some.inj (hy.symm.trans hx) ▸ phase,
      State.link?_polled hb, if_pos rfl]
  cases stop : call.stopped? s.moment with
  | none =>
    obtain ⟨q, reply, hq, -, writing, ends⟩ := Call.poll?_of_shutdown limit closes.request.1 stop
      (Call.head_of_shutdown closes.request.1 stop poll ready)
    exact .inl ⟨(closes.stopped?_eq_none _).1 stop, q.link, (polled hq).2, writing, .inl ends⟩
  | some cause =>
    have late : call.limits.expired s.moment = true := by
      cases expired : call.limits.expired s.moment with
      | true => rfl
      | false =>
        rw [(closes.stopped?_eq_none _).2 expired] at stop
        cases stop
    obtain ⟨stopping, same⟩ := polled (Call.poll?_of_stopped limit
      (by rw [closes.request.1]; simp) stop)
    refine .inr (.inr ⟨late, stopping, same.trans hl.symm, fun ended => ?_, known⟩)
    have before : s.stage? i = some y.2 := by rw [stage?_eq_standing?, hy]; rfl
    by_cases own : who = .driver i
    · exact (not_ended_of_held run step before (held _ own before) ended).elim
    · have other : (Action.run who (.proceed limit)).task? ≠ some (.driver i) :=
        fun e => own (Option.some.inj e)
      rw [stage?_eq_standing?, standing?_of_other orderly step other hy] at ended
      exact before.trans ended

/-- Before the switch of a line is registered no write on the line has failed. -/
lemma unfailed_of_registering {session : Switch.Session} {features : OpenFlow.Features}
    (hx : s.standing? i = some (session, .registering features)) : Unfailed i events := by
  intro who frame f failed
  rcases settled_of_steps? run failed with ⟨k, known, rfl⟩ | ⟨_, stage, hy, -, gone⟩
  · obtain ⟨_, _, hy, datapath, -⟩ := State.knows_iff.1 known
    rw [hx] at hy
    cases hy
    rw [(standing_of_steps? run).datapath_of_arriving hx rfl] at datapath
    cases datapath
  · rw [hx] at hy
    cases hy
    rcases gone with e | ⟨_, e⟩ <;> cases e

/-- Before the switch of a line is registered it has been greeted. -/
lemma wire_of_registering {session : Switch.Session} {features : OpenFlow.Features}
    (hx : s.standing? i = some (session, .registering features)) : Event.wire i events ≠ [] := by
  have unfailed := unfailed_of_registering run hx
  obtain ⟨c, hc, -, stage⟩ := connection?_of_standing? hx
  have idle : s.job? (.driver i) = none := by
    rw [State.job?_driver (State.core?_of_connection? hc)]
    show c.stage.job? i = none
    rw [stage]
    rfl
  -- The driving task has said something, and has nothing left to write.
  have said : Event.framesBegun i (.driver i) events ≠ [] := by
    obtain ⟨v, spoken, -, same, -⟩ :=
      ((voiced_of_connection hc).1 (voiced_of_steps? i run)).verse
    cases same .asked (by rw [stage]; rfl)
    intro nothing
    rw [nothing] at spoken
    cases spoken
  obtain ⟨waiting, waits, begun⟩ := spoken_by run unfailed (.driver i)
  rw [show s.writing i (.driver i) = [] by unfold State.writing; rw [idle]] at waits
  rw [List.suffix_nil.1 waits, List.append_nil] at begun
  rw [begun, ne_eq, List.map_eq_nil_iff] at said
  obtain ⟨w, hw⟩ := List.exists_mem_of_ne_nil _ said
  obtain ⟨member, own⟩ := List.mem_filter.1 hw
  have own : w.1 = .driver i := by simpa using own
  have written : w ∈ Event.framesWritten i events := by
    refine (List.mem_append.1 member).resolve_right fun holds => ?_
    obtain ⟨u, -, hu⟩ := List.mem_filterMap.1 holds
    obtain ⟨frame, under, rfl⟩ := Option.map_eq_some_iff.1 hu
    obtain rfl : u = .driver i := own
    rw [idle] at under
    cases under
  obtain ⟨pre, -⟩ := wire_of_steps? run i unfailed
  intro silent
  rw [silent, List.prefix_nil, List.flatMap_eq_nil_iff] at pre
  have length := congrArg List.length (pre w written)
  rw [Frame.length_bytes] at length
  simp [Frame.encodedLength, OpenFlow.headerLength] at length

/-- Where the switch of a line is known, its pipe can hold something. -/
lemma capacity_of_knows {k : Handle} (known : s.knows k = true) :
    ∃ l, s.link? k.channel = some l ∧ l.capacity ≠ 0 := by
  obtain ⟨session, stage, hx, datapath, -⟩ := State.knows_iff.1 known
  have met : s.datapath? k.channel = some k.datapath := by
    rw [datapath?_of_standing?, hx]
    exact datapath
  obtain ⟨h, previous, channel, -, he⟩ := registered_of_datapath run met
  obtain ⟨first, rest, rfl⟩ := List.append_of_mem he
  obtain ⟨_, u, before, a, t, new, after, later, before_run, step, rfl, rfl⟩ :=
    State.step_of_event run
  obtain ⟨_, features, standing, -⟩ := (step?_stir (orderly_of_run before_run) step).reported
    (show Event.registered h previous ∈ _ by simp)
  refine capacity_of_wire run ?_
  rw [Event.wire_append, Event.wire_append, ← channel]
  have greeted := wire_of_registering before_run standing
  simp [greeted]

/-- A line that a close left as it was can still be written on, unless it is silenced. -/
lemma State.Open.of_known (valid : settings.fault? = none) {k : Handle} (known : s.knows k = true)
    (heard : ¬ Silenced s k.channel) : s.Open k.channel := by
  obtain ⟨l, hl, holds⟩ := capacity_of_knows run known
  exact ⟨eq_false_of_ne_true fun stopping => heard (.inl stopping),
    State.Open.patient_of_steps? run valid,
    ⟨l, hl, eq_false_of_ne_true fun shut => heard (.inr (.inl ⟨l, hl, shut⟩)), holds⟩, k, known, rfl⟩

/-- **What a close is worth.** Once a task has returned from closing a line, the line is sealed exactly if
less than a second had passed since it was asked to close it, or the line was down already, or the task
is the driving task of the line itself and has given the handshake up. Otherwise the line is as it was,
and a byte can follow on it, unless something else has silenced it. -/
theorem close_seals_iff (valid : settings.fault? = none) (ret : Returns s who i call t) :
    ∃ asked, (call = closeCall asked ∨ call = (closeCall asked).begun) ∧
      (t.Sealed i ↔ s.now < asked + closePatience ∨ s.Down i ∨ who = .driver i ∧ Abandoned s i) ∧
      ((∀ more u later, t.steps? more = some (u, later) → Event.wire i later = []) ↔
        s.now < asked + closePatience ∨ Silenced s i) := by
  obtain ⟨limit, seen, step⟩ := ret.step
  have orderly := orderly_of_run run
  have further : (State.start settings handler capacity).steps?
      (actions ++ [.run who (.proceed limit)]) = some (t, events ++ seen) :=
    State.steps?_concat.2 ⟨s, events, seen, run, step, rfl⟩
  obtain ⟨asked, made⟩ := ((closers_of_steps? run).job (standing_of_steps? run) ret.closing).2.1
  have late : call.limits.expired s.moment = decide (asked + closePatience ≤ s.now) := by
    rcases made with rfl | rfl <;> rfl
  refine ⟨asked, made, ?_⟩
  rcases ret.outcome run with ⟨expired, down⟩ | ⟨own, abandoned, down⟩ |
    ⟨expired, stopping, link, ended, k, known, rfl⟩
  · have now : s.now < asked + closePatience := by
      rw [late] at expired
      exact Nat.lt_of_not_le (of_decide_eq_false expired)
    exact ⟨⟨fun _ => .inl now, fun _ => down.sealed further⟩,
      ⟨fun _ => .inl now, fun _ _ _ _ h => down.silenced.steps further h⟩⟩
  · exact ⟨⟨fun _ => .inr (.inr ⟨own, abandoned⟩), fun _ => down.sealed further⟩,
      ⟨fun _ => .inr (.inr (.inr abandoned)), fun _ _ _ _ h => down.silenced.steps further h⟩⟩
  · have elapsed : ¬ s.now < asked + closePatience := by
      rw [late] at expired
      exact Nat.not_lt_of_le (of_decide_eq_true expired)
    refine ⟨⟨fun sealed_ => .inr (.inl ?_), fun h => ?_⟩, ⟨fun silent => .inr ?_, fun h => ?_⟩⟩
    · obtain ⟨⟨l, hl, writing, reading⟩, -⟩ := sealed_ [] t [] rfl
      exact ⟨l, link ▸ hl, writing, reading.imp_right ended⟩
    · rcases h with now | down | ⟨-, abandoned⟩
      · exact (elapsed now).elim
      · exact (down.step orderly step).sealed further
      · obtain ⟨_, _, hx, datapath, -⟩ := abandoned
        obtain ⟨_, _, hy, datapath', -⟩ := State.knows_iff.1 known
        rw [hx] at hy
        cases hy
        rw [datapath] at datapath'
        cases datapath'
    · by_contra heard
      have open_ := (State.Open.of_known run valid known heard).step (standing_of_steps? run) orderly
        step (stopping.trans (eq_false_of_ne_true fun h => heard (.inl h))) link
      obtain ⟨more, u, later, steps, wire⟩ := open_.followed further
      exact wire (silent more u later steps)
    · exact fun more u later steps => ((h.resolve_left elapsed).step run step).1.steps further steps

end Returns

/-- A controller whose harness bursts three messages, of which the pipe of a line holds two. -/
def narrow : State := .start {} (.harness { request := { count := 3 } }) 40

/-- A switch connects again while nobody writes on its first line: the new connection registers and is
about to close the first. -/
def replacesAtOnce : List Action := arrival 0 5 ++ (arrival 1 5).take 11

/-- A switch connects again while the burst over its first line waits for room: the new connection asks
for the lock of the first line, and a second goes by. -/
def replacesTooLate : List Action :=
  arrival 0 5 ++ List.replicate 13 (Action.go (.handler 0)) ++ (arrival 1 5).take 11 ++
    [Action.go (.driver 1), .elapse 1000]

theorem sealed_by_replacement : ∃ s events t, narrow.steps? replacesAtOnce = some (s, events) ∧
    Returns s (.driver 1) 0 (closeCall 0) t ∧ t.Sealed 0 := by
  obtain ⟨⟨s, events⟩, run⟩ := Option.isSome_iff_exists.1
    (show (narrow.steps? replacesAtOnce).isSome = true by decide +kernel)
  have h : (narrow.steps? replacesAtOnce).all (fun r =>
      (r.1.step? (.go (.driver 1))).any fun q => decide (
        r.1.closing? (.driver 1) = some (0, closeCall 0) ∧ r.1.now = 0 ∧
        (q.1.job? (.driver 1)).isNone = true)) = true := by decide +kernel
  rw [run] at h
  obtain ⟨⟨t, seen⟩, step, h⟩ := (Option.any_eq_true ..).1 h
  obtain ⟨closing, now, returned⟩ := of_decide_eq_true h
  have ret : Returns s (.driver 1) 0 (closeCall 0) t :=
    ⟨closing, ⟨readChunk, seen, step⟩, Option.isNone_iff_eq_none.1 returned⟩
  obtain ⟨asked, -, seals, -⟩ := close_seals_iff run (by decide) ret
  refine ⟨s, events, t, run, ret, seals.2 (.inl ?_)⟩
  rw [now]
  exact Nat.lt_of_lt_of_le (by decide) (Nat.le_add_left closePatience asked)

/-- **A closed connection may be written on**: a new connection of the same switch returns from closing
the first after a second, behind a burst that waits for room, and once the switch makes room a further
whole frame is put on the first line. -/
theorem closed_and_written_on : ∃ s events t u later,
    narrow.steps? replacesTooLate = some (s, events) ∧
      Returns s (.driver 1) 0 (closeCall 0).begun t ∧ ¬ t.Down 0 ∧
      t.steps? [.collect 0 40, .go (.handler 0)] = some (u, later) ∧
      Event.framesWritten 0 later = [(.handler 0, { xid := 5, message := .setConfig {} })] ∧
      Event.wire 0 later = Frame.bytes { xid := 5, message := .setConfig {} } := by
  obtain ⟨⟨s, events⟩, run⟩ := Option.isSome_iff_exists.1
    (show (narrow.steps? replacesTooLate).isSome = true by decide +kernel)
  have h : (narrow.steps? replacesTooLate).all (fun r =>
      (r.1.step? (.go (.driver 1))).any fun q =>
        (q.1.steps? [.collect 0 40, .go (.handler 0)]).any fun v => decide (
          r.1.closing? (.driver 1) = some (0, (closeCall 0).begun) ∧
          (q.1.job? (.driver 1)).isNone = true ∧
          (q.1.link? 0).map (fun l => l.server.writingEnded) = some false ∧
          Event.framesWritten 0 v.2 = [(.handler 0, { xid := 5, message := .setConfig {} })] ∧
          Event.wire 0 v.2 = Frame.bytes { xid := 5, message := .setConfig {} })) = true := by
    decide +kernel
  rw [run] at h
  obtain ⟨⟨t, seen⟩, step, h⟩ := (Option.any_eq_true ..).1 h
  obtain ⟨⟨u, later⟩, steps, h⟩ := (Option.any_eq_true ..).1 h
  obtain ⟨closing, returned, writes, written, wire⟩ := of_decide_eq_true h
  refine ⟨s, events, t, u, later, run, ⟨closing, ⟨readChunk, seen, step⟩,
    Option.isNone_iff_eq_none.1 returned⟩, ?_, steps, written, wire⟩
  rintro ⟨l, hl, ended, -⟩
  rw [hl, Option.map_some, ended] at writes
  cases writes

end FlowBurst.Controller
