import FlowBurst.Proofs.Polls
import FlowBurst.Proofs.Steps

/-!
# Calls under way

At any time a task of a controller is in at most one call on a channel, its job. A step lets one
task begin, carry on or end its job and leaves the jobs of the others alone; only a poll of a job
changes locks or puts bytes on a wire. Main statement: `step?_works`, from which every argument
about locks and bytes starts.
-/

namespace FlowBurst.Controller

open FlowBurst.OpenFlow (Frame)
open FlowBurst.Switch (Reference Session)
open FlowBurst.Transport (Call Disposition Polled Reply Request)

/-! ### The jobs of a state -/

/-- The call that a message on its way waits for. -/
def Sending.job? : Sending → Option Job
  | writing h frame call => some ⟨h.channel, call, some frame⟩
  | looking _ _ | holding _ _ => none

/-- The message that the news of a connection is about to bring on its way. -/
def News.sending? : News → Option Sending
  | sending _ message => some message
  | _ => none

/-- The message of a call from outside, while it is on its way. -/
def Caller.sending? : Caller → Option Sending
  | sending message => some message
  | _ => none

/-- The call on a channel that a call from outside waits for. -/
def Caller.job? : Caller → Option Job
  | sending message => message.job?
  | closing h call => some ⟨h.channel, call, none⟩
  | sent _ | failed _ | closed => none

/-- What has come of a connection, apart from its locks and counters. -/
def Connection.core (c : Connection) : Session × Stage × News := (c.session, c.stage, c.news)

namespace State

/-- What has come of the connection of a line, apart from its locks and counters. -/
def core? (s : State) (i : Nat) : Option (Session × Stage × News) :=
  (s.connection? i).map Connection.core

/-- How far the driving task of a line has come. -/
def stage? (s : State) (i : Nat) : Option Stage := (s.core? i).map (·.2.1)

/-- How far the handler has come with the news of a line. -/
def news? (s : State) (i : Nat) : Option News := (s.core? i).map (·.2.2)

/-- The message that a task has on its way. -/
def sending? (s : State) : Actor → Option Sending
  | .acceptor | .driver _ => none
  | .handler i => (s.news? i).bind News.sending?
  | .caller k => s.callers[k]?.bind Caller.sending?

/-- The job of a task. -/
def job? (s : State) : Actor → Option Job
  | .acceptor => none
  | .driver i => (s.stage? i).bind (Stage.job? i)
  | .handler i => (s.news? i).bind fun news => news.sending?.bind Sending.job?
  | .caller k => s.callers[k]?.bind Caller.job?

section Core

variable (s : State) (i j : Nat)

lemma core?_modifyConnection {f : Connection → Connection}
    {g : Session × Stage × News → Session × Stage × News} (h : ∀ c, (f c).core = g c.core) :
    (s.modifyConnection i f).core? j = if i = j then (s.core? j).map g else s.core? j := by
  unfold core?
  rw [connection?_modifyConnection]
  split
  · cases s.connection? j with
    | none => rfl
    | some c => exact congrArg some (h c)
  · rfl

/-- A change that keeps what has come of a connection. -/
lemma core?_modifyConnection_of_core {f : Connection → Connection}
    (hf : ∀ c, (f c).core = c.core) : (s.modifyConnection i f).core? j = s.core? j := by
  rw [core?_modifyConnection s i j (g := id) hf, Option.map_id]
  split <;> rfl

@[simp] lemma core?_modifyLink (f : Line → Transport.Link) :
    (s.modifyLine i fun l => { l with link := f l }).core? j = s.core? j := by
  unfold core?
  rw [connection?_modifyLink]

variable {s i} in
lemma core?_polled {c : Connection} (hc : s.connection? i = some c) (p : Polled Actor) :
    (s.polled i c p).core? j = s.core? j := by
  unfold core?
  rw [connection?_polled hc]
  split
  · subst i
    rw [hc]
    rfl
  · rfl

/-- The jobs of a state depend only on its cores and callers. -/
lemma job?_congr {s t : State} (hcore : ∀ j, t.core? j = s.core? j) (hcallers : t.callers = s.callers)
    (who : Actor) : t.job? who = s.job? who := by
  cases who <;> simp only [job?, stage?, news?, hcore, hcallers]

end Core

end State

/-! ### Steps -/

/-- What a task may be at after a step that did not poll, or after the end of its job: nothing, a
frame that it has just begun to write, or a call of another kind that is yet to be made. -/
inductive Fresh (who : Actor) : Option Job → List Event → Prop
  | idle : Fresh who none []
  | frame (line : Nat) {limits : Transport.Limits} {frame : Frame} {bytes : List UInt8}
      (cancellable : limits.cancellable = true) (encoded : frame.encode = .ok bytes) :
      Fresh who (some ⟨line, .write limits bytes, some frame⟩) [.frameBegun line who frame]
  | call (line : Nat) {call : Call} (unstarted : call.started = false)
      (other : ∀ rest total, call.request ≠ .write rest total) (bounded : call.Bounded)
      (reads : ∀ size, call.request = .read size → who = .driver line) :
      Fresh who (some ⟨line, call, none⟩) []

/-- What the world sees of the end of a job. -/
def Job.endEvents (job : Job) (who : Actor) (answer : Except Transport.Failure Reply) : List Event :=
  match job.frame with
  | some frame => [.frameEnded job.line who frame (failureOf answer)]
  | none => []

section EndEvents

variable {job : Job} {who : Actor} {frame : Frame} {answer : Except Transport.Failure Reply}

lemma Job.endEvents_of_frame (h : job.frame = some frame) :
    job.endEvents who answer = [.frameEnded job.line who frame (failureOf answer)] := by
  unfold endEvents
  rw [h]

lemma Job.endEvents_of_call (h : job.frame = none) : job.endEvents who answer = [] := by
  unfold endEvents
  rw [h]

lemma Job.mem_endEvents {e : Event} (h : e ∈ job.endEvents who answer) :
    ∃ frame, job.frame = some frame ∧ e = .frameEnded job.line who frame (failureOf answer) := by
  cases hf : job.frame with
  | none =>
    rw [endEvents_of_call hf] at h
    cases h
  | some frame =>
    rw [endEvents_of_frame hf] at h
    exact ⟨frame, rfl, List.mem_singleton.1 h⟩

end EndEvents

/-- A step in which a task went from one job to another, with what it did to the locks and what the
world saw of writing. -/
inductive Works (s : State) (who : Actor) (t : State) :
    Option Job → Option Job → List Event → Prop
  | begins {after : Option Job} {events : List Event} (locks : ∀ j, t.locks j = s.locks j)
      (fresh : Fresh who after (outgoing events)) : Works s who t none after events
  | waits (job : Job) {call : Call} {b : Connection} {p : Polled Actor} {events : List Event}
      (polling : Polling s job.line who job.call b p)
      (locks : ∀ j, t.locks j = if job.line = j then p.locks else s.locks j)
      (pending : p.progress = .pending call)
      (seen : outgoing events = putEvents job.line who p.put) :
      Works s who t (some job) (some { job with call }) events
  | ends (job : Job) {b : Connection} {p : Polled Actor} {answer : Except Transport.Failure Reply}
      {after : Option Job} {events : List Event}
      (polling : Polling s job.line who job.call b p)
      (locks : ∀ j, t.locks j = if job.line = j then p.locks else s.locks j)
      (ready : p.progress = .ready answer) (fresh : Fresh who after [])
      (seen : outgoing events = putEvents job.line who p.put ++ job.endEvents who answer) :
      Works s who t (some job) after events

@[simp] lemma outgoing_putEvents (i : Nat) (who : Actor) (bytes : List UInt8) :
    outgoing (putEvents i who bytes) = putEvents i who bytes := by
  unfold putEvents
  split <;> rfl

lemma frameEnded_not_mem_putEvents {i j : Nat} {who w : Actor} {bytes : List UInt8} {frame : Frame}
    {failure : Option Transport.Failure} :
    Event.frameEnded i who frame failure ∉ putEvents j w bytes := by
  intro h
  unfold putEvents at h
  split at h <;> simp at h

@[simp] lemma registrations_putEvents (i : Nat) (who : Actor) (bytes : List UInt8) :
    registrations (putEvents i who bytes) = [] := by
  unfold putEvents
  split <;> rfl

/-! ### Steps of the driving task -/

/-- Closing a connection is a call that is yet to be made. -/
lemma fresh_closeCall (who : Actor) (line now : Nat) :
    Fresh who (some ⟨line, closeCall now, none⟩) [] :=
  .call line rfl (fun _ _ => by simp [closeCall, Call.shutdown])
    (by simp [Call.Bounded, closeCall, Call.shutdown]) (by simp [closeCall, Call.shutdown])

lemma Next.fresh {i : Nat} {served : Option Reference} {stage : Stage} {events : List Event}
    (h : Next i served stage events) : Fresh (.driver i) (stage.job? i) events := by
  cases h with
  | write purpose cancellable encoded => exact .frame i cancellable encoded
  | close served now => exact fresh_closeCall (.driver i) i now
  | decide w => exact .idle
  | read w limits => exact .call i rfl (fun _ _ => by simp [Call.read]) trivial fun _ _ => rfl
  | register features => exact .idle

lemma Stage.job?_withCall {i : Nat} {stage : Stage} {job : Job} (call : Call)
    (h : stage.job? i = some job) :
    (stage.withCall call).job? i = some { job with call } := by
  cases stage <;> cases h <;> rfl

/-- What a turn leaves of the connections: only the stage of its own is another. -/
lemma Turned.core? {s : State} {i : Nat} {served : Option Reference} {r : State × List Event}
    (h : Turned s i served r) : ∃ stage, Next i served stage (outgoing r.2) ∧
      ∀ j, r.1.core? j =
        if i = j then (s.core? j).map fun core => (core.1, stage, core.2.2) else s.core? j := by
  obtain ⟨-, g, stage, e, hg, hn⟩ := h
  refine ⟨stage, hn, fun j => ?_⟩
  rw [e]
  refine s.core?_modifyConnection i j fun c => ?_
  obtain ⟨⟨-, h2, h3⟩, h4⟩ := hg c
  simp [Connection.core, h2, h3, h4]

namespace Works

variable {s t : State} {who : Actor} {before after : Option Job} {events : List Event}

/-- What the locks and the events of writing do not show makes no difference. -/
lemma congr {t' : State} {events' : List Event} (h : Works s who t before after events)
    (locks : ∀ j, t'.locks j = t.locks j) (seen : outgoing events' = outgoing events) :
    Works s who t' before after events' := by
  cases h with
  | begins locks' fresh =>
    exact .begins (fun j => (locks j).trans (locks' j)) (seen ▸ fresh)
  | waits job polling locks' pending seen' =>
    exact .waits job polling (fun j => (locks j).trans (locks' j)) pending (seen.trans seen')
  | ends job polling locks' ready fresh seen' =>
    exact .ends job polling (fun j => (locks j).trans (locks' j)) ready fresh (seen.trans seen')

/-- A step that is not about writing. -/
lemma idle (locks : ∀ j, t.locks j = s.locks j) (seen : outgoing events = []) :
    Works s who t none none events := .begins locks (seen ▸ .idle)

end Works

lemma State.locks_enter (s : State) (i j : Nat) (stage : Stage) :
    (s.enter i stage).locks j = s.locks j := s.locks_modifyConnection i j fun _ => rfl

lemma State.locks_tell (s : State) (i j : Nat) (news : News) :
    (s.tell i news).locks j = s.locks j := s.locks_modifyConnection i j fun _ => rfl

lemma Turned.locks {s : State} {i : Nat} {served : Option Reference} {r : State × List Event}
    (h : Turned s i served r) (j : Nat) : r.1.locks j = s.locks j := by
  obtain ⟨-, g, stage, e, hg, -⟩ := h
  rw [e, State.locks_modifyConnection _ _ _ fun c => (hg c).1.locks]

lemma State.locks_afterClose (s : State) (i j : Nat) (served : Option Reference) :
    (s.afterClose i served).locks j = s.locks j := by
  unfold afterClose
  cases served <;> simp only [locks_modifyLink, locks_enter] <;>
    exact s.locks_modifyConnection i j fun _ => rfl

lemma State.locks_register (s : State) (i j : Nat) (c : Connection) (d : Switch.DatapathId) :
    (s.register i c d).1.locks j = s.locks j := by
  unfold register
  split
  · exact s.locks_enter i j _
  next session _ =>
    have h := s.locks_modifyConnection i j (f := fun c => { c with session }) fun _ => rfl
    dsimp only
    split
    · exact (locks_enter _ i j _).trans h
    · exact (locks_enter _ i j _).trans h

namespace State

section Cores

variable (s : State) (i j : Nat)

lemma core?_enter (stage : Stage) :
    (s.enter i stage).core? j =
      if i = j then (s.core? j).map fun core => (core.1, stage, core.2.2) else s.core? j :=
  s.core?_modifyConnection i j fun _ => rfl

lemma core?_tell (news : News) :
    (s.tell i news).core? j =
      if i = j then (s.core? j).map fun core => (core.1, core.2.1, news) else s.core? j :=
  s.core?_modifyConnection i j fun _ => rfl

/-- A session that has been closed, if that was still possible. -/
def closedSession (session : Session) : Session := (session.enter .closed).toOption.getD session

/-- The stage after a connection was closed. -/
def stageAfterClose : Option Reference → Stage
  | some switch => .deregistering switch
  | none => .ended

lemma core?_afterClose (served : Option Reference) :
    (s.afterClose i served).core? j =
      if i = j then
        (s.core? j).map fun core => (closedSession core.1, stageAfterClose served, core.2.2)
      else s.core? j := by
  unfold afterClose
  cases served with
  | some switch =>
    dsimp only [enter]
    rw [modifyConnection_modifyConnection]
    exact s.core?_modifyConnection i j fun _ => rfl
  | none =>
    dsimp only [enter]
    rw [core?_modifyLink, modifyConnection_modifyConnection]
    exact s.core?_modifyConnection i j fun _ => rfl

/-- The stage after a switch was registered that took the place of another one, or of none. -/
def stageAfterRegister (s : State) (switch : Reference) : Option Switch.Handle → Stage
  | none => .launching switch
  | some previous => .displacing switch previous (closeCall s.now)

/-- A switch that is registered: what the world sees of it, the registry and the connections. -/
lemma register_of_ready {c : Connection} {d : Switch.DatapathId} {session : Session}
    (h : c.session.becomeReady d = .ok session) :
    (∃ tail, (s.register i c d).2 =
        .registered ⟨⟨d, session.connection⟩, i⟩ (s.registry.get? d) :: tail ∧
      outgoing tail = [] ∧ registrations tail = []) ∧
    (s.register i c d).1.registry = (s.registry.register ⟨⟨d, session.connection⟩, i⟩).2 ∧
    ∀ j, (s.register i c d).1.core? j =
      if i = j then
        (s.core? j).map fun core =>
          (session, s.stageAfterRegister ⟨d, session.connection⟩ (s.registry.get? d), core.2.2)
      else s.core? j := by
  have hr : (s.registry.register ⟨⟨d, session.connection⟩, i⟩).1 = s.registry.get? d := rfl
  have core (stage : Stage) (j : Nat) (registry : Switch.Registry) :
      (State.enter { s.modifyConnection i (fun c => { c with session }) with registry } i
          stage).core? j =
        if i = j then (s.core? j).map fun core => (session, stage, core.2.2) else s.core? j := by
    show ((s.modifyConnection i _).modifyConnection i _).core? j = _
    rw [modifyConnection_modifyConnection]
    exact s.core?_modifyConnection i j fun _ => rfl
  unfold register
  rw [h]
  dsimp only
  split
  next hn =>
    rw [hr] at hn
    rw [hn]
    exact ⟨⟨[], rfl, rfl, rfl⟩, rfl, fun j => core _ j _⟩
  next previous hn =>
    rw [hr] at hn
    rw [hn]
    exact ⟨⟨[_], rfl, rfl, rfl⟩, rfl, fun j => core _ j _⟩

/-- A switch that cannot be registered any more: its connection is closed. -/
lemma register_of_refused {c : Connection} {d : Switch.DatapathId} {move : Switch.RefusedMove}
    (h : c.session.becomeReady d = .error move) : Turned s i none (s.register i c d) := by
  unfold register
  rw [h]
  exact s.turned_close i none false _

end Cores

end State

end FlowBurst.Controller
