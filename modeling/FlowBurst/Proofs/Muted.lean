import FlowBurst.Proofs.Addressing
import FlowBurst.Proofs.WriteLock

/-!
# Lines on which nothing more is put

A line takes no more bytes from the controller once that is asked to stop, once its link is shut, or
once its handshake was given up. None of these is undone by a step. Main statements: `Silenced.steps`,
`settled_of_failure`.
-/

namespace FlowBurst.Controller

open FlowBurst.OpenFlow (Frame)
open FlowBurst.Switch (Failure Handle Reference Session)
open FlowBurst.Transport (Call Link Polled Request)

/-! ### What every step keeps -/

/-- What every step of a run keeps of the world around the tasks. -/
structure Kept (s t : State) : Prop where
  settings : t.settings = s.settings
  capacity : t.capacity = s.capacity
  stopping : s.stopping = true → t.stopping = true
  links : s.Lasting t

section Kept

variable {s t : State}

lemma Surrounded.kept (h : Surrounded s t) : Kept s t :=
  ⟨h.settings, h.capacity, h.stopping, h.links⟩

lemma Aside.kept (h : Aside s t) : Kept s t := ⟨h.settings, h.capacity, h.stopping, h.links⟩

lemma link?_acceptFirst (s : State) (i : Nat) : s.acceptFirst.1.link? i = s.link? i := by
  unfold State.acceptFirst
  split
  · rfl
  next j rest backlog =>
    show ((s.modifyLine j _).lines[i]?).map Line.link = _
    rw [State.getElem?_modifyLine]
    unfold State.link?
    split
    · cases s.lines[i]? <;> rfl
    · rfl

lemma kept_acceptFirst (s : State) : Kept s s.acceptFirst.1 := by
  refine ⟨?_, ?_, ?_, .of_eq (link?_acceptFirst s)⟩ <;> unfold State.acceptFirst <;> split <;>
    first | rfl | exact id

lemma kept_connect (s : State) (peer : Transport.Address) : Kept s { s with
    lines := s.lines ++ [{ link := { capacity := s.capacity }, peer }]
    backlog := s.backlog ++ [s.lines.length] } := by
  refine ⟨rfl, rfl, id, fun i l hl => ⟨l, ?_, .rfl⟩⟩
  obtain ⟨line, hline, rfl⟩ := Option.map_eq_some_iff.1 hl
  have hlt := (List.getElem?_eq_some_iff.1 hline).1
  show ((s.lines ++ _)[i]?).map Line.link = _
  rw [List.getElem?_append_left hlt, hline]
  rfl

/-- **Every step keeps the settings, a request to stop and what has become of the links.** -/
theorem step?_kept {a : Action} {events : List Event} (h : s.step? a = some (t, events)) :
    Kept s t := by
  cases State.step?_moved h with
  | drove hc step => exact step.surrounded.kept
  | told hc step => exact step.surrounded.kept
  | answered call step => exact step.surrounded.kept
  | accepted acceptor backlog => exact kept_acceptFirst s
  | called call =>
    obtain ⟨caller, rfl, -⟩ := State.call?_eq_some call
    exact ⟨rfl, rfl, id, .of_eq fun _ => rfl⟩
  | connected going => exact kept_connect s _
  | aside world task silent quiet => exact world.kept

/-- A run goes by the settings that it began with. -/
lemma settings_of_steps? {settings : Settings} {handler : Handler} {capacity : Nat}
    {actions : List Action} {events : List Event}
    (run : (State.start settings handler capacity).steps? actions = some (s, events)) :
    s.settings = settings :=
  State.run_induction (P := fun _ s _ => s.settings = settings) rfl
    (fun _ _ _ _ _ _ _ ih step => (step?_kept step).settings.trans ih) run

end Kept

/-! ### Messages with a handle -/

/-- Every message that has a handle has one that is known. -/
def Directed (s : State) : Prop := ∀ who x, s.sending? who = some x → x.Knows s

section Directed

variable {s t : State} {events more : List Event}

lemma Sending.Knows.mono {x : Sending} (h : x.Knows s)
    (known : ∀ h, s.knows h = true → t.knows h = true) : x.Knows t := by
  cases x with
  | looking target m => trivial
  | holding k m | writing k frame call => exact known k h

lemma Sent.knows {u : State} {who : Actor} {x y : Sending} (st : Standing s events)
    (step : Sent s who x u more (.inl y)) (h : x.Knows s) : y.Knows s := by
  cases step with
  | @found target m k find =>
    refine State.knows_of_mem st ?_
    cases target with
    | connection r => exact (Switch.Registry.mem_of_find st.ordered find).1
    | datapath d =>
      unfold Switch.Registry.find at find
      dsimp only at find
      split at find
      next held =>
        cases find
        exact ((Switch.Registry.get?_eq_some_iff st.ordered).1 held).1
      next => cases find
  | begun connection encoded => exact h
  | waited polling pending => exact h

/-- Nobody has begun to write a message that a step brings on its way. -/
lemma unbegun_of_new (orderly : s.Orderly) {a : Action} (h : s.step? a = some (t, more)) {who : Actor}
    {y : Sending} (unsent : s.sending? who = none) (hy : t.sending? who = some y) : y.Unbegun s := by
  by_cases task : a.task? = some who
  · cases State.step?_moved h with
    | drove | accepted =>
      cases task
      cases hy
    | @told i d c _ _ hc step =>
      cases task
      obtain ⟨news, core, tells⟩ := step.switch? hc
      rw [State.sending?_handler (by rw [core, if_pos rfl])] at hy
      rw [State.sending?_handler (State.core?_of_connection? hc)] at unsent
      obtain ⟨r, hr⟩ : ∃ r, news.switch? = some r := by
        cases news <;> cases hy
        exact ⟨_, rfl⟩
      rcases (tells r hr).2 y hy with ⟨message, rfl⟩ | ⟨x, u, seen, hx, -⟩
      · trivial
      · exact absurd hx (by rw [show c.news.sending? = none from unsent]; simp)
    | @answered k d caller _ _ call step =>
      cases task
      obtain ⟨caller', -, -, callers, -⟩ := step.effect
      rw [State.sending?_caller call] at unsent
      cases step with
      | sent | delivered | failed => cases unsent
      | waited | closed =>
        obtain ⟨hlt, -⟩ := List.getElem?_eq_some_iff.1 call
        rw [State.sending?_caller (List.getElem?_set_self hlt)] at hy
        cases hy
    | called | connected => cases task
    | aside world own =>
      rcases own with own | own
      · rw [task] at own
        cases own
      · rw [task] at own
        cases own
        cases hy
  · rcases State.step?_apart orderly h task with same | ⟨-, unbegun⟩
    · rw [same, unsent] at hy
      cases hy
    · exact unbegun y hy

/-- **In a run every message with a handle has one that is known.** -/
theorem directed_of_steps? {settings : Settings} {handler : Handler} {capacity : Nat}
    {actions : List Action}
    (run : (State.start settings handler capacity).steps? actions = some (s, events)) :
    Directed s := by
  refine State.run_induction (P := fun _ s _ => Directed s) ?_ ?_ run
  · intro who x h
    cases who <;> cases h
  · intro actions s before a t after before_run ih step who y hy
    have orderly := orderly_of_run before_run
    have st := standing_of_steps? before_run
    have known (k : Handle) (hk : s.knows k = true) : t.knows k = true :=
      State.knows_step st (step?_stir orderly step) hk
    refine Sending.Knows.mono ?_ known
    cases hx : s.sending? who with
    | none => exact (unbegun_of_new orderly step hx hy).knows
    | some x =>
      have carried := step?_carries orderly step hx
      generalize s.returned? who a = returned at carried
      cases carried with
      | rests same silent =>
        rw [same] at hy
        cases hy
        exact ih who _ hx
      | @moves u seen result step' next written =>
        rw [next] at hy
        cases result with
        | inl z =>
          cases hy
          exact step'.knows st (ih who x hx)
        | inr answer => cases hy

end Directed

/-! ### The calls of the writers -/

/-- The calls under way are kept to their limits, and nobody waits for the lock of the writers with a
read. -/
structure Paced (s : State) : Prop where
  bounded : ∀ w job, s.job? w = some job → job.call.Bounded
  kind : ∀ i w job, w ∈ s.writers i → s.job? w = some job → ∀ size, job.call.request ≠ .read size

section Paced

variable {s t : State} {who : Actor} {events more : List Event}

lemma Fresh.bounded {after : Option Job} (fresh : Fresh who after events) :
    ∀ job, after = some job → job.call.Bounded := by
  intro job e
  cases fresh with
  | idle => cases e
  | frame line cancellable encoded =>
    cases e
    exact cancellable
  | call line unstarted other bounded =>
    cases e
    exact bounded

/-- Where a call goes on, only its task may have joined the queue of its line, and not with a read. -/
lemma asked_of_waits {job : Job} {call : Call} {b : Connection} {p : Polled Actor}
    (polling : Polling s job.line who job.call b p)
    (locks : ∀ j, t.locks j = if job.line = j then p.locks else s.locks j)
    (pending : p.progress = .pending call) {i : Nat} {w : Actor} (hw : w ∈ t.writers i) :
    w ∈ s.writers i ∨ w = who ∧ ∀ size, job.call.request ≠ .read size := by
  obtain ⟨link, -, polls⟩ := polling.polls
  obtain ⟨-, acquired⟩ := polls.locks_of_pending pending
  unfold State.writers at hw ⊢
  rw [locks] at hw
  by_cases line : job.line = i
  · rw [if_pos line, acquired, line] at hw
    cases hr : job.call.request with
    | read size => exact .inl (by rwa [hr] at hw)
    | write rest total | shutdown direction =>
      rw [hr] at hw
      exact (Transport.Locks.mem_ask.1 hw).imp_right fun e => ⟨e, fun _ => by simp⟩
  · rw [if_neg line] at hw
    exact .inl hw

/-- Where a call ends, its task is in no queue any longer. -/
lemma left_of_ends (desks : ∀ i, ∃ part, Desk s i part) {job : Job} {b : Connection}
    {p : Polled Actor} {answer : Except Transport.Failure Transport.Reply}
    (under : s.job? who = some job)
    (polling : Polling s job.line who job.call b p)
    (locks : ∀ j, t.locks j = if job.line = j then p.locks else s.locks j)
    (ready : p.progress = .ready answer) {i : Nat} {w : Actor} (hw : w ∈ t.writers i) :
    w ∈ s.writers i ∧ w ≠ who := by
  obtain ⟨link, -, polls⟩ := polling.polls
  obtain ⟨part, desk⟩ := desks i
  by_cases line : job.line = i
  · subst line
    rw [desk.left under rfl polls (by rw [locks, if_pos rfl]) ready] at hw
    exact Transport.Locks.mem_leave.1 hw
  · have e : t.writers i = s.writers i :=
      congrArg Transport.Locks.writers (by rw [locks, if_neg line])
    rw [e] at hw
    refine ⟨hw, ?_⟩
    rintro rfl
    obtain ⟨job', under', line'⟩ := desk.queued w hw
    rw [under] at under'
    cases under'
    exact line line'

/-- **Every step keeps the pace.** -/
theorem Paced.step (paced : Paced s) (desks : ∀ i, ∃ part, Desk s i part) (orderly : s.Orderly)
    {a : Action} (h : s.step? a = some (t, more)) : Paced t := by
  obtain ⟨who, -, same, works⟩ := State.step?_works orderly h
  -- For the others nothing has changed but their place in a queue.
  have others (writers : ∀ i w, w ≠ who → w ∈ t.writers i → w ∈ s.writers i)
      (bounded : ∀ job, t.job? who = some job → job.call.Bounded)
      (kind : ∀ i job, who ∈ t.writers i → t.job? who = some job →
        ∀ size, job.call.request ≠ .read size) : Paced t := by
    refine ⟨fun w job hj => ?_, fun i w job hw hj => ?_⟩
    · by_cases e : w = who
      · exact bounded job (e ▸ hj)
      · exact paced.bounded w job (same w e ▸ hj)
    · by_cases e : w = who
      · subst e
        exact kind i job hw hj
      · exact paced.kind i w job (writers i w e hw) (same w e ▸ hj)
  generalize hbefore : s.job? who = before, hafter : t.job? who = after at works
  cases works with
  | begins locks fresh =>
    have writers (i : Nat) : t.writers i = s.writers i := congrArg Transport.Locks.writers (locks i)
    refine others (fun i w _ hw => writers i ▸ hw) (fun job hj => fresh.bounded job (hafter ▸ hj))
      fun i job hw => ?_
    obtain ⟨part, desk⟩ := desks i
    obtain ⟨job', hj', -⟩ := desk.queued who (writers i ▸ hw)
    rw [hbefore] at hj'
    cases hj'
  | @waits job call b p _ polling locks pending seen =>
    obtain ⟨link, -, polls⟩ := polling.polls
    obtain ⟨limits, request⟩ := polls.request_of_pending pending
    refine others (fun i w ne hw => (asked_of_waits polling locks pending hw).resolve_right
      fun h => ne h.1) (fun job' hj => ?_) fun i job' hw hj size => ?_
    · rw [hafter] at hj
      cases hj
      have bounded := paced.bounded who job hbefore
      unfold Call.Bounded at bounded ⊢
      dsimp only
      rw [limits]
      rcases request with ⟨e, -⟩ | ⟨rest, total, n, e, e', -⟩
      · rwa [e]
      · rw [e] at bounded
        rwa [e']
    · rw [hafter] at hj
      cases hj
      have was : ∀ size, job.call.request ≠ .read size := by
        rcases asked_of_waits polling locks pending hw with hw | ⟨-, other⟩
        · exact paced.kind i who job hw hbefore
        · exact other
      rcases request with ⟨e, -⟩ | ⟨rest, total, n, -, e, -⟩
      · show call.request ≠ _
        rw [e]
        exact was size
      · show call.request ≠ _
        rw [e]
        simp
  | ends job polling locks ready fresh seen =>
    exact others (fun i w _ hw => (left_of_ends desks hbefore polling locks ready hw).1)
      (fun job' hj => fresh.bounded job' (hafter ▸ hj))
      fun i job' hw => ((left_of_ends desks hbefore polling locks ready hw).2 rfl).elim

/-- **Every run keeps the pace.** -/
theorem paced_of_steps? {settings : Settings} {handler : Handler} {capacity : Nat}
    {actions : List Action}
    (run : (State.start settings handler capacity).steps? actions = some (s, events)) :
    Paced s := by
  have idle (w : Actor) : (State.start settings handler capacity).job? w = none := by
    cases w <;> rfl
  refine State.run_induction (P := fun _ s _ => Paced s) ⟨fun w job hj => ?_, fun i w job _ hj => ?_⟩
    ?_ run
  · rw [idle] at hj
    cases hj
  · rw [idle] at hj
    cases hj
  · intro actions s before a t after before_run ih step
    refine ih.step (fun i => ?_) (orderly_of_run before_run) step
    obtain ⟨pieces, part, ledger⟩ := ledger_of_steps? i before_run
    exact ⟨part, ledger.desk⟩

end Paced

/-- A call that a message waits for is the job of its task. -/
lemma job?_of_sending {s : State} {who : Actor} {h : Handle} {frame : Frame} {call : Call}
    (hx : s.sending? who = some (.writing h frame call)) :
    s.job? who = some ⟨h.channel, call, some frame⟩ := by
  cases who with
  | acceptor | driver => cases hx
  | handler i =>
    obtain ⟨news, hn, hs⟩ := Option.bind_eq_some_iff.1 hx
    simp [State.job?, hn, hs, Sending.job?]
  | caller k =>
    obtain ⟨caller, hk, hs⟩ := Option.bind_eq_some_iff.1 hx
    cases caller <;> cases hs
    simp [State.job?, hk, Caller.job?, Sending.job?]

/-! ### Muted lines -/

/-- Whether nothing more is put on a line: the controller is stopping, the link is shut, or the
handshake is not over, so that nobody but its driving task has to do with the line. -/
def State.Muted (s : State) (i : Nat) : Prop :=
  s.stopping = true ∨ (∃ l, s.link? i = some l ∧ l.shut = true) ∨
    ∃ session stage, s.standing? i = some (session, stage) ∧ session.datapath = none

/-- The driving task of a line has given its handshake up. -/
def Abandoned (s : State) (i : Nat) : Prop :=
  ∃ session stage, s.standing? i = some (session, stage) ∧ session.datapath = none ∧
    (stage = .ended ∨ ∃ call, stage = .closing none call)

section Muted

variable {s t : State} {i : Nat} {events more : List Event}

/-- What it takes to put bytes on a line: a write that is not stopped, and a link that is not shut. -/
lemma put_of_wire (orderly : s.Orderly) {a : Action} (h : s.step? a = some (t, more))
    (wire : Event.wire i more ≠ []) : ∃ who job rest total link, a.task? = some who ∧
      s.job? who = some job ∧ job.line = i ∧ job.call.request = .write rest total ∧
      job.call.stopped? s.moment = none ∧ s.link? i = some link ∧ link.capacity ≠ 0 ∧
      link.shut = false := by
  obtain ⟨who, actor, -, works⟩ := State.step?_works orderly h
  rw [← Event.wire_outgoing] at wire
  have put {job : Job} {b : Connection} {p : Polled Actor} (under : s.job? who = some job)
      (polling : Polling s job.line who job.call b p) (line : job.line = i) (hp : p.put ≠ []) :
      ∃ who job rest total link, a.task? = some who ∧ s.job? who = some job ∧ job.line = i ∧
        job.call.request = .write rest total ∧ job.call.stopped? s.moment = none ∧
        s.link? i = some link ∧ link.capacity ≠ 0 ∧ link.shut = false := by
    have task : a.task? = some who := actor.resolve_right fun ⟨_, idle⟩ => by
      rw [under] at idle
      cases idle
    obtain ⟨link, hl, polls⟩ := polling.polls
    subst line
    cases polls with
    | advances going request holds wrote _ | completes going request holds wrote _ =>
      obtain ⟨-, -, capacity, shut⟩ := Link.write?_eq_ok wrote
      exact ⟨who, job, _, _, link, task, under, rfl, request, going, hl, capacity, shut⟩
    | empty | stopped | waits | ends => exact (hp rfl).elim
  generalize hbefore : s.job? who = before, hafter : t.job? who = after at works
  cases works with
  | begins locks fresh => exact (wire (fresh.silent i).1).elim
  | @waits job call b p _ polling locks pending seen =>
    rw [seen, Event.wire_putEvents] at wire
    split at wire
    next line => exact put hbefore polling line wire
    next => exact (wire rfl).elim
  | @ends job b p answer _ _ polling locks ready fresh seen =>
    rw [seen, Event.wire_append, Event.wire_endEvents, List.append_nil, Event.wire_putEvents] at wire
    split at wire
    next line => exact put hbefore polling line wire
    next => exact (wire rfl).elim

/-- A write that can be cancelled is stopped once the controller is. -/
lemma stopped?_of_stopping {call : Call} {rest : List UInt8} {total : Nat} (bounded : call.Bounded)
    (request : call.request = .write rest total) (stopping : s.stopping = true) :
    call.stopped? s.moment ≠ none := by
  unfold Call.Bounded at bounded
  rw [request] at bounded
  intro going
  have uncancelled := (Call.stopped?_eq_none_iff.1 going).2
  simp [Transport.Limits.cancelled, bounded, State.moment, stopping] at uncancelled

/-- Who writes a frame on a line is its driving task, or sends a message over a handle of the line. -/
lemma writer_of_frame {who : Actor} {job : Job} {frame : Frame} (under : s.job? who = some job)
    (framed : job.frame = some frame) :
    (who = .driver job.line ∧ ∃ purpose call, s.stage? job.line = some (.writing purpose frame call)) ∨
      ∃ h call, s.sending? who = some (.writing h frame call) ∧ h.channel = job.line := by
  have sends {x : Sending} (hx : s.sending? who = some x) (hj : x.job? = some job) :
      ∃ h call, s.sending? who = some (.writing h frame call) ∧ h.channel = job.line := by
    cases x <;> cases hj
    cases framed
    exact ⟨_, _, hx, rfl⟩
  cases who with
  | acceptor => cases under
  | driver j =>
    obtain ⟨stage, hs, hj⟩ := Option.bind_eq_some_iff.1 under
    cases stage <;> cases hj <;> cases framed
    exact .inl ⟨rfl, _, _, hs⟩
  | handler j =>
    obtain ⟨news, hn, hj⟩ := Option.bind_eq_some_iff.1 under
    obtain ⟨x, hx, hj⟩ := Option.bind_eq_some_iff.1 hj
    exact .inr (sends (by simp [State.sending?, hn, hx]) hj)
  | caller k =>
    obtain ⟨caller, hk, hj⟩ := Option.bind_eq_some_iff.1 under
    cases caller with
    | sending x => exact .inr (sends (State.sending?_caller hk) hj)
    | closing h call =>
      cases hj
      cases framed
    | sent | failed | closed => cases hj

/-- The standing of a line is changed by its own driving task alone. -/
lemma standing?_of_other (orderly : s.Orderly) {a : Action} (h : s.step? a = some (t, more))
    (other : a.task? ≠ some (.driver i)) {x : Session × Stage} (hx : s.standing? i = some x) :
    t.standing? i = some x := by
  cases State.step?_moved h with
  | @drove j d c _ _ hc step =>
    obtain ⟨session, stage, news, core, -⟩ := step.effect hc
    have ne : j ≠ i := by
      rintro rfl
      exact other rfl
    rw [standing?_of_change core, if_neg ne, hx]
  | @told j d c _ _ hc step =>
    obtain ⟨news, core, -⟩ := step.effect hc
    have was := standing?_of_core? (State.core?_of_connection? hc)
    rw [standing?_of_change core]
    split
    next hj => rw [← hx, ← hj, was]; rfl
    next => exact hx
  | answered call step =>
    obtain ⟨caller', core, -⟩ := step.effect
    rw [standing?_congr core, hx]
  | @accepted d j rest started acceptor backlog =>
    obtain ⟨session, -, -, -, hn, connection, -⟩ := State.core?_acceptFirst orderly backlog
    have ne : j ≠ i := by
      rintro rfl
      simp [State.standing?, State.core?, hn] at hx
    unfold State.standing? State.core? at hx ⊢
    rw [connection, if_neg ne, hx]
  | called call =>
    obtain ⟨caller, rfl, -⟩ := State.call?_eq_some call
    exact hx
  | @connected peer going =>
    rw [standing?_congr (State.core?_congr (State.connection?_connect s peer)), hx]
  | aside world task silent quiet =>
    rw [standing?_congr (State.core?_congr world.connection), hx]

/-- A step of a driving task is one that `Drove` lists. -/
lemma drove_of_task {a : Action} (h : s.step? a = some (t, more)) (own : a.task? = some (.driver i)) :
    ∃ c, s.connection? i = some c ∧ Drove s i c t more := by
  cases a with
  | run who d =>
    cases own
    exact State.drive?_eq_some h
  | _ => cases own

/-- **A handshake that was given up stays so.** -/
theorem Abandoned.step (abandoned : Abandoned s i) (orderly : s.Orderly) {a : Action}
    (h : s.step? a = some (t, more)) : Abandoned t i := by
  obtain ⟨session, stage, hx, datapath, given_up⟩ := abandoned
  by_cases own : a.task? = some (.driver i)
  · obtain ⟨c, hc, step⟩ := drove_of_task h own
    have was := standing?_of_core? (State.core?_of_connection? hc)
    rw [hx] at was
    obtain ⟨rfl, rfl⟩ : session = c.session ∧ stage = c.stage := Prod.ext_iff.1 (Option.some.inj was)
    rcases given_up with ended | ⟨call, closing⟩
    · exact (step.stage_ne ended).elim
    · obtain ⟨session', stage', news', core, -⟩ := step.effect hc
      have here {f : Session × Stage × News → Session × Stage × News}
          (e : ∀ j, t.core? j = if i = j then (s.core? j).map f else s.core? j) :
          t.standing? i = some ((f c.core).1, (f c.core).2.1) :=
        standing?_of_core? (by rw [State.core?_of_change hc e, if_pos rfl])
      cases step with
      | turned idle same turn => rw [closing] at idle; cases idle
      | @waited job call' b p under polling pending =>
        refine ⟨_, _, here (f := fun core => (core.1, c.stage.withCall call', core.2.2))
          fun j => ?_, datapath, .inr ?_⟩
        · rw [State.core?_enter, State.core?_polled _ polling.connection]
        · rw [closing]
          exact ⟨call', rfl⟩
      | @closed served call' b p answer stage polling ready =>
        rw [closing] at stage
        cases stage
        refine ⟨_, _, here (f := fun core => (State.closedSession core.1,
          State.stageAfterClose none, core.2.2)) fun j => ?_, ?_, .inl rfl⟩
        · rw [State.core?_afterClose, State.core?_polled _ polling.connection]
        · exact (State.closedSession_datapath _).trans datapath
      | wrote stage | got stage | displaced stage | registered stage | launched stage
      | deregistered stage | joined stage | notified stage =>
        rw [closing] at stage
        cases stage
  · exact ⟨session, stage, standing?_of_other orderly h own hx, datapath, given_up⟩

/-- Whose frame ends in a step was writing it. -/
lemma job_of_frameEnded (orderly : s.Orderly) {a : Action} (h : s.step? a = some (t, more))
    {who : Actor} {frame : Frame} {failure : Option Transport.Failure}
    (ended : .frameEnded i who frame failure ∈ more) :
    a.task? = some who ∧ ∃ job, s.job? who = some job ∧ job.line = i ∧ job.frame = some frame := by
  have own : a.task? = some who := step?_writer orderly h ended rfl
  have works := State.works_of_task orderly h own
  refine ⟨own, ?_⟩
  have member : Event.frameEnded i who frame failure ∈ outgoing more := List.mem_filter.2 ⟨ended, rfl⟩
  generalize hbefore : s.job? who = before, hafter : t.job? who = after at works
  cases works with
  | begins locks fresh =>
    generalize outgoing more = seen at fresh member
    cases fresh <;> simp at member
  | waits job polling locks pending seen => exact (frameEnded_not_mem_putEvents (seen ▸ member)).elim
  | ends job polling locks ready fresh seen =>
    rw [seen] at member
    have ends := (List.mem_append.1 member).resolve_left frameEnded_not_mem_putEvents
    obtain ⟨frame', framed, e⟩ := Job.mem_endEvents ends
    cases e
    exact ⟨job, rfl, rfl, framed⟩

/-- What mutes a line for good. -/
def Silenced (s : State) (i : Nat) : Prop :=
  s.stopping = true ∨ (∃ l, s.link? i = some l ∧ l.shut = true) ∨ Abandoned s i

variable {settings : Settings} {handler : Handler} {capacity : Nat} {actions : List Action}
  (run : (State.start settings handler capacity).steps? actions = some (s, events))
include run

/-- **A line that is silenced takes no byte, and stays silenced.** -/
theorem Silenced.step (silenced : Silenced s i) {a : Action} (h : s.step? a = some (t, more)) :
    Silenced t i ∧ Event.wire i more = [] := by
  have orderly := orderly_of_run run
  have kept := step?_kept h
  constructor
  · rcases silenced with stopping | ⟨l, hl, shut⟩ | abandoned
    · exact .inl (kept.stopping stopping)
    · obtain ⟨l', hl', becomes⟩ := kept.links i l hl
      exact .inr (.inl ⟨l', hl', becomes.shut shut⟩)
    · exact .inr (.inr (abandoned.step orderly h))
  · by_contra wire
    obtain ⟨who, job, rest, total, link, -, under, line, request, going, hl, -, shut⟩ :=
      put_of_wire orderly h wire
    rcases silenced with stopping | ⟨l, hl', shut'⟩ | ⟨session, stage, hx, datapath, given_up⟩
    · exact stopped?_of_stopping ((paced_of_steps? run).bounded who job under) request stopping going
    · rw [hl] at hl'
      cases hl'
      rw [shut] at shut'
      cases shut'
    · obtain ⟨pieces, part, ledger⟩ := ledger_of_steps? i run
      obtain ⟨frame, framed⟩ : ∃ frame, job.frame = some frame := by
        refine Option.ne_none_iff_exists'.1 fun hf => ?_
        exact ledger.desk.others who job under line hf rest total request
      subst line
      rcases writer_of_frame under framed with ⟨-, purpose, call, hs⟩ | ⟨h, call, hx', channel⟩
      · obtain ⟨core, hcore, writing⟩ := Option.map_eq_some_iff.1 hs
        rw [standing?_of_core? hcore, writing] at hx
        cases hx
        rcases given_up with e | ⟨call, e⟩ <;> cases e
      · have known : s.knows h = true := directed_of_steps? run who _ hx'
        obtain ⟨session', stage', hy, datapath', -⟩ := State.knows_iff.1 known
        rw [channel, hx] at hy
        cases hy
        rw [datapath] at datapath'
        cases datapath'

/-- **After a line was silenced no run puts a byte on it.** -/
theorem Silenced.steps (silenced : Silenced s i) {rest : List Action} {u : State}
    {later : List Event} (h : s.steps? rest = some (u, later)) : Event.wire i later = [] := by
  induction rest generalizing s actions events later with
  | nil =>
    cases h
    rfl
  | cons a rest ih =>
    obtain ⟨⟨t, first⟩, step, h⟩ := Option.bind_eq_some_iff.1 h
    obtain ⟨⟨v, after⟩, steps, e⟩ := Option.bind_eq_some_iff.1 h
    cases e
    obtain ⟨silenced', wire⟩ := silenced.step run step
    have further : (State.start settings handler capacity).steps? (actions ++ [a]) =
        some (t, events ++ first) := State.steps?_concat.2 ⟨s, events, first, run, step, rfl⟩
    rw [Event.wire_append, wire, ih further silenced' steps]
    rfl

/-- When a write on a line fails, the switch of the line is known, or the driving task gives the
handshake up. -/
theorem settled_of_failure {a : Action} {who : Actor} {frame : Frame} {f : Transport.Failure}
    (h : s.step? a = some (t, more)) (ended : .frameEnded i who frame (some f) ∈ more) :
    (∃ k, t.knows k = true ∧ k.channel = i) ∨ Abandoned t i := by
  have orderly := orderly_of_run run
  have st := standing_of_steps? run
  have still (k : Handle) (known : s.knows k = true) : t.knows k = true :=
    State.knows_step st (step?_stir orderly h) known
  obtain ⟨own, job, under, rfl, framed⟩ := job_of_frameEnded orderly h ended
  rcases writer_of_frame under framed with ⟨rfl, purpose, call, hs⟩ | ⟨k, call, hx, channel⟩
  · obtain ⟨c, hc, step⟩ := drove_of_task h own
    have hcore := State.core?_of_connection? hc
    have writing : c.stage = .writing purpose frame call := by
      obtain ⟨core, hcore', writing⟩ := Option.map_eq_some_iff.1 hs
      rw [hcore] at hcore'
      cases hcore'
      exact writing
    have phase : c.stage.phase = .of purpose.awaiting.served := by rw [writing]; rfl
    cases served : purpose.awaiting.served with
    | some switch =>
      have held : c.stage.phase.held? = some switch := by rw [phase, served]; rfl
      obtain ⟨datapath, number, -⟩ := st.agrees (standing?_of_core? hcore) held
      exact .inl ⟨⟨switch, job.line⟩, still _ (State.knows_iff.2
        ⟨_, _, standing?_of_core? hcore, datapath, number⟩), rfl⟩
    | none =>
      have datapath : c.session.datapath = none :=
        st.datapath_of_arriving (standing?_of_core? hcore) (phase.trans (by rw [served]; rfl))
      cases step with
      | turned idle same turn => rw [writing] at idle; cases idle
      | waited under polling pending => exact (frameEnded_not_mem_putEvents ended).elim
      | @wrote purpose' frame' call' b p answer r stage polling ready turn silent closes =>
        rw [writing] at stage
        cases stage
        have failed : failureOf answer ≠ none := by
          rcases List.mem_append.1 ended with e | e
          · exact (frameEnded_not_mem_putEvents e).elim
          · rcases List.mem_cons.1 e with e | e
            · rw [← (Event.frameEnded.inj e).2.2.2]
              exact Option.some_ne_none f
            · have : Event.frameEnded job.line (.driver job.line) frame (some f) ∈ outgoing r.2 :=
                List.mem_filter.2 ⟨e, rfl⟩
              rw [silent] at this
              cases this
        have here : r.1.core? job.line = some (c.session,
            .closing none (closeCall (s.polled job.line b p).now), c.news) := by
          rw [closes failed, State.core?_enter, if_pos rfl, State.core?_polled _ polling.connection,
            hcore, served]
          rfl
        exact .inr ⟨_, _, standing?_of_core? here, datapath, .inr ⟨_, rfl⟩⟩
      | got stage | displaced stage | closed stage | registered stage | launched stage
      | deregistered stage | joined stage | notified stage =>
        rw [writing] at stage
        cases stage
  · exact .inl ⟨k, still k (directed_of_steps? run who _ hx), channel⟩

/-- **After a write on a line has failed** the switch of the line is known, or the driving task has given
the handshake up. -/
theorem settled_of_steps? {who : Actor} {frame : Frame} {f : Transport.Failure}
    (failed : .frameEnded i who frame (some f) ∈ events) :
    (∃ k, s.knows k = true ∧ k.channel = i) ∨ Abandoned s i := by
  refine State.run_induction (P := fun _ s events => .frameEnded i who frame (some f) ∈ events →
    (∃ k, s.knows k = true ∧ k.channel = i) ∨ Abandoned s i) (fun h => by cases h) ?_ run failed
  intro actions s before a t after before_run ih step failed
  rcases List.mem_append.1 failed with old | new
  · refine (ih old).imp ?_ fun abandoned => abandoned.step (orderly_of_run before_run) step
    rintro ⟨k, known, channel⟩
    exact ⟨k, State.knows_step (standing_of_steps? before_run)
      (step?_stir (orderly_of_run before_run) step) known, channel⟩
  · exact settled_of_failure before_run step new

/-- A pipe that bytes were put in holds some. -/
lemma capacity_of_wire (wire : Event.wire i events ≠ []) :
    ∃ l, s.link? i = some l ∧ l.capacity ≠ 0 := by
  refine State.run_induction (P := fun _ s events => Event.wire i events ≠ [] →
    ∃ l, s.link? i = some l ∧ l.capacity ≠ 0) (fun h => (h rfl).elim) ?_ run wire
  intro actions s before a t after before_run ih step wire
  have held : ∃ l, s.link? i = some l ∧ l.capacity ≠ 0 := by
    by_cases old : Event.wire i before = []
    · rw [Event.wire_append, old, List.nil_append] at wire
      obtain ⟨who, job, rest, total, link, -, -, -, -, -, hl, capacity, -⟩ :=
        put_of_wire (orderly_of_run before_run) step wire
      exact ⟨link, hl, capacity⟩
    · exact ih old
  obtain ⟨l, hl, capacity⟩ := held
  obtain ⟨l', hl', becomes⟩ := (step?_kept step).links i l hl
  exact ⟨l', hl', becomes.capacity ▸ capacity⟩

/-- A message that is being written is stopped once the controller is. -/
lemma stopped_of_sending (stopping : s.stopping = true) {who : Actor} {h : Handle} {frame : Frame}
    {call : Call} (hx : s.sending? who = some (.writing h frame call)) :
    ∃ rest total cause, call.request = .write rest total ∧ rest ≠ [] ∧
      call.stopped? s.moment = some cause := by
  have under := job?_of_sending hx
  obtain ⟨pieces, part, ledger⟩ := ledger_of_steps? h.channel run
  obtain ⟨rest, total, request, more, -⟩ := ledger.desk.owed _ _ _ under rfl rfl
  have stop := stopped?_of_stopping ((paced_of_steps? run).bounded _ _ under) request stopping
  obtain ⟨cause, stop⟩ := Option.ne_none_iff_exists'.1 stop
  exact ⟨rest, total, cause, request, more, stop⟩

/-- No message is delivered once the controller is stopping. -/
lemma Sent.undelivered (stopping : s.stopping = true) {who : Actor} {x : Sending} {xid : UInt32}
    (under : s.sending? who = some x) (step : Sent s who x t more (.inr (.ok xid))) : False := by
  generalize hr : (Sum.inr (.ok xid) : Sending ⊕ Except Failure UInt32) = result at step
  cases step with
  | @wrote h frame call b p answer polling ready =>
    obtain ⟨rest, total, cause, request, more_left, stop⟩ := stopped_of_sending run stopping under
    cases answer with
    | error f => cases hr
    | ok reply =>
      obtain ⟨link, -, polls⟩ := polling.polls
      have going := (polls.holds_of_written ready request more_left).1
      rw [stop] at going
      cases going
  | _ => cases hr

end Muted

end FlowBurst.Controller
