import FlowBurst.Proofs.Ownership

/-!
# A message keeps to its connection

A message to a switch over one connection is looked up in the registry once, and written in later
steps, between which the connection may be replaced or closed. What it writes goes to the connection
that it names and to no other; after that one has left the registry, it is refused. Main statement:
`message_keeps_to_connection`.
-/

namespace FlowBurst.Switch

/-- Whether a message was refused because its switch, or the connection that it names, is not in the
registry. -/
def Failure.isAbsence : Failure → Bool
  | notConnected _ | connectionReplaced _ => true
  | _ => false

namespace Registry

variable {g : Registry} {r : Reference} {h : Handle} {f : Failure}

/-- A switch over one connection is found as itself. -/
lemma mem_of_find (ordered : g.Ordered) (find : g.find (.connection r) = .ok h) :
    h ∈ g.handles ∧ h.switch = r := by
  unfold Registry.find at find
  dsimp only at find
  split at find
  next k held =>
    split at find
    next own =>
      cases find
      exact ⟨((get?_eq_some_iff ordered).1 held).1, own⟩
    next => cases find
  next => cases find

/-- Why a switch over one connection is not found. -/
lemma failure_of_find (find : g.find (.connection r) = .error f) :
    f = .notConnected r.datapath ∨ f = .connectionReplaced r := by
  unfold Registry.find at find
  dsimp only at find
  split at find
  · split at find <;> cases find
    exact .inr rfl
  · cases find
    exact .inl rfl

end Registry

end FlowBurst.Switch

namespace FlowBurst.Controller

open FlowBurst.OpenFlow (Message)
open FlowBurst.Switch (Failure Handle Reference Session)
open FlowBurst.Transport (Disposition)

/-! ### The messages of the tasks -/

/-- The task that an event about writing is of. -/
def Event.writer? : Event → Option Actor
  | put _ who _ | frameBegun _ who _ | frameEnded _ who _ _ => some who
  | _ => none

/-- A message that has a handle has one that is known. -/
def Sending.Knows (s : State) : Sending → Prop
  | looking _ _ => True
  | holding h _ | writing h _ _ => s.knows h = true

/-- A message that nobody has begun to write, with a handle that is known, if it has one. -/
def Sending.Unbegun (s : State) : Sending → Prop
  | looking _ _ => True
  | holding h _ => s.knows h = true
  | writing _ _ _ => False

lemma Sending.Unbegun.knows {s : State} {x : Sending} (h : x.Unbegun s) : x.Knows s := by
  cases x with
  | looking | holding => exact h
  | writing => exact h.elim

namespace State

variable {s t : State} {who : Actor}

lemma sending?_handler {i : Nat} {core : Session × Stage × News} (h : s.core? i = some core) :
    s.sending? (.handler i) = core.2.2.sending? := by
  simp [sending?, news?, h]

lemma sending?_caller {k : Nat} {caller : Caller} (h : s.callers[k]? = some caller) :
    s.sending? (.caller k) = caller.sending? := by
  simp [sending?, h]

lemma sending?_congr (core : ∀ j, t.core? j = s.core? j) (callers : t.callers = s.callers)
    (who : Actor) : t.sending? who = s.sending? who := by
  cases who <;> simp only [sending?, news?, core, callers]

/-- The messages after a change of one connection. -/
lemma sending?_of_change {i : Nat} {core core' : Session × Stage × News} (hi : s.core? i = some core)
    (h : ∀ j, t.core? j = if i = j then some core' else s.core? j) (callers : t.callers = s.callers)
    (same : who = .handler i → core'.2.2.sending? = core.2.2.sending?) :
    t.sending? who = s.sending? who := by
  cases who with
  | acceptor | driver => rfl
  | handler j =>
    by_cases hj : i = j
    · subst hj
      rw [sending?_handler hi, sending?_handler (by rw [h, if_pos rfl]), same rfl]
    · simp only [sending?, news?, h, if_neg hj]
  | caller k => simp only [sending?, callers]

/-- A driving task moves no message. -/
lemma sending?_of_drove (orderly : s.Orderly) {i : Nat} {c : Connection} {events : List Event}
    (hc : s.connection? i = some c) (step : Drove s i c t events) (who : Actor) :
    t.sending? who = s.sending? who := by
  obtain ⟨session, stage, news, core, -, course⟩ := step.effect hc
  have hi := core?_of_connection? hc
  refine sending?_of_change hi core step.callers fun _ => ?_
  generalize t.registry = registry, registrations events = seen at course
  cases course with
  | launches entering phase =>
    have absent : c.news = .absent := orderly.untold i c.core hi (.inr ⟨_, entering⟩)
    rw [show c.core.2.2 = .absent from absent]
    rfl
  | goes | registers | deregisters | ends => rfl

/-- A step that is not of its task leaves the message of a task as it was, or brings one on its way
that nobody has begun to write. -/
lemma step?_apart (orderly : s.Orderly) {a : Action} {events : List Event}
    (h : s.step? a = some (t, events)) (other : a.task? ≠ some who) :
    t.sending? who = s.sending? who ∨
      s.sending? who = none ∧ ∀ y, t.sending? who = some y → y.Unbegun s := by
  cases step?_moved h with
  | drove hc step => exact .inl (sending?_of_drove orderly hc step who)
  | @told i d c _ _ hc step =>
    obtain ⟨news, core, -, callers, -, -, -⟩ := step.effect hc
    exact .inl (sending?_of_change (core?_of_connection? hc) core callers
      fun e => (other (by rw [e]; rfl)).elim)
  | @answered k d caller _ _ call step =>
    obtain ⟨caller', core, -, callers, -, -⟩ := step.effect
    cases who with
    | acceptor | driver => exact .inl rfl
    | handler j => exact .inl (by simp only [sending?, news?, core])
    | caller l =>
      have ne : k ≠ l := fun e => other (by rw [← e]; rfl)
      exact .inl (by simp only [sending?, callers, List.getElem?_set_ne ne])
  | @accepted d i rest started acceptor backlog =>
    obtain ⟨session, -, -, -, fresh, connection, -⟩ := core?_acceptFirst orderly backlog
    have callers : s.acceptFirst.1.callers = s.callers := by
      simp [acceptFirst, backlog, modifyLine]
    cases who with
    | acceptor | driver => exact .inl rfl
    | caller k => exact .inl (by simp only [sending?, callers])
    | handler j =>
      by_cases hj : i = j
      · -- The connection is new, and nobody has been told of it.
        subst hj
        refine .inr ⟨by simp [sending?, news?, core?, fresh], fun y hy => ?_⟩
        simp only [sending?, news?, core?, connection, if_pos] at hy
        cases hy
      · exact .inl (by simp only [sending?, news?, core?, connection, if_neg hj])
  | called call =>
    obtain ⟨caller, rfl, kind⟩ := call?_eq_some call
    cases who with
    | acceptor | driver | handler => exact .inl rfl
    | caller k =>
      rcases Nat.lt_trichotomy k s.callers.length with hk | rfl | hk
      · exact .inl (by simp only [sending?, List.getElem?_append_left hk])
      · have here : (s.callers ++ [caller])[s.callers.length]? = some caller := by simp
        refine .inr ⟨by simp [sending?], fun y hy => ?_⟩
        rw [sending?_caller here] at hy
        rcases kind with ⟨target, m, rfl⟩ | ⟨k, known, ⟨m, rfl⟩ | rfl⟩
        · cases hy
          trivial
        · cases hy
          exact known
        · cases hy
      · have nobody : (s.callers ++ [caller])[k]? = none :=
          List.getElem?_eq_none (by simp; omega)
        have before : s.callers[k]? = none := List.getElem?_eq_none (by omega)
        exact .inl (by simp only [sending?, nobody, before])
  | @connected peer going =>
    exact .inl (sending?_congr (core?_congr (connection?_connect s peer)) rfl who)
  | aside world task silent quiet =>
    exact .inl (sending?_congr (core?_congr world.connection) world.callers who)

/-- **A message on its way is moved by its own task alone.** -/
theorem step?_sending? (orderly : s.Orderly) {a : Action} {events : List Event}
    (h : s.step? a = some (t, events)) (other : a.task? ≠ some who) {x : Sending}
    (hx : s.sending? who = some x) : t.sending? who = some x := by
  rcases step?_apart orderly h other with same | ⟨unsent, -⟩
  · rw [same, hx]
  · rw [unsent] at hx
    cases hx

end State

lemma writer_of_mem_putEvents {i : Nat} {who w : Actor} {bytes : List UInt8} {e : Event}
    (he : e ∈ putEvents i who bytes) (hw : e.writer? = some w) : w = who := by
  unfold putEvents at he
  split at he
  · cases he
  · rw [List.mem_singleton.1 he] at hw
    exact (Option.some.inj hw).symm

lemma Works.writer {s t : State} {who : Actor} {before after : Option Job} {events : List Event}
    (h : Works s who t before after events) {e : Event} (he : e ∈ outgoing events) {w : Actor}
    (hw : e.writer? = some w) : w = who := by
  cases h with
  | begins locks fresh =>
    generalize outgoing events = seen at fresh he
    cases fresh with
    | idle | call => cases he
    | frame line cancellable encoded =>
      rw [List.mem_singleton.1 he] at hw
      exact (Option.some.inj hw).symm
  | waits job polling locks pending seen => exact writer_of_mem_putEvents (seen ▸ he) hw
  | ends job polling locks ready fresh seen =>
    rw [seen] at he
    rcases List.mem_append.1 he with he | he
    · exact writer_of_mem_putEvents he hw
    · obtain ⟨frame, -, rfl⟩ := Job.mem_endEvents he
      exact (Option.some.inj hw).symm

/-- **What the world sees of writing is of the task that takes the step.** -/
theorem step?_writer {s t : State} (orderly : s.Orderly) {a : Action} {events : List Event}
    (h : s.step? a = some (t, events)) {e : Event} (he : e ∈ events) {w : Actor}
    (hw : e.writer? = some w) : a.task? = some w := by
  have member : e ∈ outgoing events :=
    List.mem_filter.2 ⟨he, by cases e <;> first | rfl | cases hw⟩
  cases task : a.task? with
  | none =>
    cases State.step?_moved h with
    | drove | told | answered | accepted => cases task
    | called | connected => cases he
    | aside world still silent quiet => rw [silent] at member; cases member
  | some who =>
    rw [(State.works_of_task orderly h task).writer member hw]

/-! ### The end of a message -/

namespace State

/-- What a message that a task has on its way comes to in a step, if it ends there. -/
def returned? (s : State) (who : Actor) : Action → Option (Except Failure UInt32)
  | .run w d =>
    if w = who then
      ((s.sending? who).bind (s.send? who d)).bind fun step => step.2.2.getRight?
    else none
  | _ => none

/-- The steps of a run for as long as a message that a task has on its way has not ended, with what
the message comes to, if it ends. -/
def watch? (who : Actor) : State → List Action →
    Option (State × List Event × Option (Except Failure UInt32))
  | s, [] => some (s, [], none)
  | s, a :: rest =>
    (s.step? a).bind fun (t, events) =>
      match s.returned? who a with
      | some result => some (t, events, some result)
      | none => (watch? who t rest).map fun (u, more, result) => (u, events ++ more, result)

/-- What a burst goes on with after a step of the message that it has on its way. -/
def resumeBurst (i : Nat) (run : Burst.Run Reference) (u : State) (seen : List Event) :
    Sending ⊕ Except Failure UInt32 → State × List Event
  | .inl y => (u.tell i (.sending run y), seen)
  | .inr (.ok _) => (u.tell i (.bursting run.succeed), seen)
  | .inr (.error f) =>
    (u.tell i (.settling run.switch (.counting (run.abort (.ofSwitch f)))),
      seen ++ [.burstEnded i (run.abort (.ofSwitch f))])

/-- What a call from outside goes on with after a step of its message. -/
def resumeCall (k : Nat) (u : State) (seen : List Event) :
    Sending ⊕ Except Failure UInt32 → State × List Event
  | .inl y => ({ u with callers := u.callers.set k (.sending y) }, seen)
  | .inr (.ok xid) => ({ u with callers := u.callers.set k (.sent xid) }, seen)
  | .inr (.error f) => ({ u with callers := u.callers.set k (.failed f) }, seen)

/-- What a task goes on with after a step of its message. -/
structure Resumed (s : State) (who : Actor) (u : State) (seen : List Event)
    (result : Sending ⊕ Except Failure UInt32) (step : State × List Event) : Prop where
  next : (∀ j, u.core? j = s.core? j) → u.callers = s.callers →
    step.1.sending? who = result.getLeft?
  written : ∀ e ∈ step.2, e.writer? = some who → e ∈ seen
  links : ∀ i, step.1.link? i = u.link? i
  stopping : step.1.stopping = u.stopping
  tail : ∃ tail, step.2 = seen ++ tail

/-- **A step of a task with a message on its way** is a step of the message, whatever becomes of it.
-/
lemma step?_run {s : State} {who : Actor} {x : Sending} (hx : s.sending? who = some x)
    (d : Disposition) :
    ∃ resume : State × List Event × (Sending ⊕ Except Failure UInt32) → State × List Event,
      s.step? (.run who d) = (s.send? who d x).map resume ∧
      ∀ u seen result, Resumed s who u seen result (resume (u, seen, result)) := by
  cases who with
  | acceptor | driver => cases hx
  | handler i =>
    obtain ⟨news, hn, hs⟩ := Option.bind_eq_some_iff.1 hx
    obtain ⟨core, hcore, rfl⟩ := Option.map_eq_some_iff.1 hn
    obtain ⟨c, hc, rfl⟩ := Option.map_eq_some_iff.1 hcore
    obtain ⟨run, was⟩ : ∃ run, c.news = .sending run x := by
      change c.news.sending? = some x at hs
      cases hw : c.news with
      | sending run y =>
        rw [hw] at hs
        cases hs
        exact ⟨run, rfl⟩
      | _ => rw [hw] at hs; cases hs
    refine ⟨fun step => resumeBurst i run step.1 step.2.1 step.2.2, ?_, fun u seen result => ?_⟩
    · show s.handle? i d = _
      unfold handle?
      rw [hc]
      dsimp only [bind, Option.bind_some]
      rw [was]
      dsimp only
      cases s.send? (.handler i) d x with
      | none => rfl
      | some step =>
        rcases step with ⟨u, seen, y | f | xid⟩ <;> rfl
    · have told (core : ∀ j, u.core? j = s.core? j) (news : News) :
          (u.tell i news).sending? (.handler i) = news.sending? := by
        have after : (u.tell i news).core? i = some (c.session, c.stage, news) := by
          rw [core?_tell, if_pos rfl, core, core?_of_connection? hc]
          rfl
        exact sending?_handler after
      have links (news : News) (j : Nat) : (u.tell i news).link? j = u.link? j :=
        link?_modifyConnection u i j _
      rcases result with y | f | xid
      · exact ⟨fun core _ => told core _, fun _ he _ => he, links _, rfl, [],
          (List.append_nil _).symm⟩
      · refine ⟨fun core _ => told core _, fun e he hw => ?_, links _, rfl, _, rfl⟩
        rcases List.mem_append.1 he with he | he
        · exact he
        · rw [List.mem_singleton.1 he] at hw
          cases hw
      · exact ⟨fun core _ => told core _, fun _ he _ => he, links _, rfl, [],
          (List.append_nil _).symm⟩
  | caller k =>
    obtain ⟨caller, hk, hs⟩ := Option.bind_eq_some_iff.1 hx
    obtain rfl : caller = .sending x := by
      cases caller <;> cases hs
      rfl
    have hlt := (List.getElem?_eq_some_iff.1 hk).1
    refine ⟨fun step => resumeCall k step.1 step.2.1 step.2.2, ?_, fun u seen result => ?_⟩
    · show s.answer? k d = _
      unfold answer?
      rw [hk]
      dsimp only [bind, Option.bind_some]
      cases s.send? (.caller k) d x with
      | none => rfl
      | some step =>
        rcases step with ⟨u, seen, y | f | xid⟩ <;> rfl
    · have put (callers : u.callers = s.callers) (caller : Caller) :
          State.sending? { u with callers := u.callers.set k caller } (.caller k) =
            caller.sending? :=
        sending?_caller (by rw [callers]; exact List.getElem?_set_self hlt)
      rcases result with y | f | xid
      all_goals exact ⟨fun _ callers => put callers _, fun _ he _ => he, fun _ => rfl, rfl, [],
        (List.append_nil _).symm⟩

end State

/-- What a step of a run does for a message that a task has on its way: nothing, if it is a step of
something else, or a step of the message. -/
inductive Carried (s : State) (who : Actor) (x : Sending) (t : State) (events : List Event) :
    Option (Except Failure UInt32) → Prop
  | rests (same : t.sending? who = some x) (silent : ∀ e ∈ events, e.writer? ≠ some who) :
      Carried s who x t events none
  | moves {u : State} {seen : List Event} {result : Sending ⊕ Except Failure UInt32}
      (step : Sent s who x u seen result) (next : t.sending? who = result.getLeft?)
      (written : ∀ e ∈ events, e.writer? = some who → e ∈ seen) :
      Carried s who x t events result.getRight?

/-- **Every step of a run carries a message, or lets it rest.** -/
theorem step?_carries {s t : State} (orderly : s.Orderly) {a : Action} {events : List Event}
    (h : s.step? a = some (t, events)) {who : Actor} {x : Sending} (hx : s.sending? who = some x) :
    Carried s who x t events (s.returned? who a) := by
  by_cases own : a.task? = some who
  · obtain ⟨d, rfl⟩ := Action.eq_run_of_task? own
    obtain ⟨resume, e, resumed⟩ := State.step?_run hx d
    rw [h] at e
    obtain ⟨⟨u, seen, result⟩, hs, hr⟩ := Option.map_eq_some_iff.1 e.symm
    have step := State.send?_eq_some hs
    obtain ⟨core, -, callers, -, -⟩ := step.effect
    have after := resumed u seen result
    rw [hr] at after
    have returned : s.returned? who (.run who d) = result.getRight? := by
      simp [State.returned?, hx, hs]
    rw [returned]
    exact .moves step (after.next core callers) after.written
  · have returned : s.returned? who a = none := by
      cases a with
      | run w d => exact if_neg fun e => own (by rw [← e]; rfl)
      | _ => rfl
    rw [returned]
    exact .rests (State.step?_sending? orderly h own hx) fun e he hw =>
      own (step?_writer orderly h he hw)

/-! ### The lines that a message may go to -/

namespace State

variable {s t : State} {events more : List Event}

/-- What it takes to know a handle. -/
lemma knows_iff {h : Handle} : s.knows h = true ↔ ∃ session stage,
    s.standing? h.channel = some (session, stage) ∧ session.datapath = some h.datapath ∧
      session.connection = h.switch.connection := by
  unfold knows standing? core?
  cases hc : s.connection? h.channel with
  | none => simp
  | some c => simp [Connection.core]

/-- A handle of the registry is known. -/
lemma knows_of_mem (st : Standing s events) {h : Handle} (hh : h ∈ s.registry.handles) :
    s.knows h = true := by
  obtain ⟨session, stage, hx, held⟩ := st.owned h hh
  obtain ⟨datapath, number, -⟩ := st.agrees hx held
  exact knows_iff.2 ⟨session, stage, hx, datapath, number⟩

/-- **A handle that is known stays known.** -/
theorem knows_step (st : Standing s events) (stir : Stir s t more) {h : Handle}
    (known : s.knows h = true) : t.knows h = true := by
  obtain ⟨session, stage, hx, datapath, number⟩ := knows_iff.1 known
  refine knows_iff.2 ?_
  cases stir with
  | calm lines registry accepted told => exact ⟨session, stage, by rw [lines, hx], datapath, number⟩
  | accepts fresh none_yet first lines registry accepted seen =>
    refine ⟨session, stage, ?_, datapath, number⟩
    rw [lines, if_neg (by rintro rfl; rw [fresh] at hx; cases hx), hx]
  | @drives i c session' stage' news was lines course accepted =>
    by_cases hi : i = h.channel
    · subst hi
      obtain ⟨rfl, rfl⟩ : c.session = session ∧ c.stage = stage := by simpa [was] using hx
      refine ⟨session', stage', by rw [lines, if_pos rfl], ?_, course.number.trans number⟩
      generalize t.registry = registry, registrations more = seen at course
      cases course with
      | goes same | ends _ same => exact same.trans datapath
      | registers arriving =>
        have record := st.record h.channel
        rw [was, Record, arriving] at record
        rw [record.2.1] at datapath
        cases datapath
      | launches | deregisters => exact datapath
    · exact ⟨session, stage, by rw [lines, if_neg hi, hx], datapath, number⟩

end State

/-- How a message to a switch over one connection stands: before it is looked up, or with the handle
of a line that is known to be of the connection. -/
def Sending.Aims (s : State) (r : Reference) (message : Message) : Sending → Prop
  | looking target m => target = .connection r ∧ m = message
  | holding h m => h.switch = r ∧ m = message ∧ s.knows h = true
  | writing h frame _ => h.switch = r ∧ frame.message = message ∧ s.knows h = true

/-- What an event about writing says of a message to a switch over one connection: it is on a line of
that connection, and a frame is one with the message. -/
def Event.GoesTo (s : State) (r : Reference) (message : Message) : Event → Prop
  | put j _ _ => s.knows ⟨r, j⟩ = true
  | frameBegun j _ frame | frameEnded j _ frame _ =>
    s.knows ⟨r, j⟩ = true ∧ frame.message = message
  | _ => True

/-- Whether a message is yet to be looked up. -/
def Sending.isLooking : Sending → Bool
  | looking _ _ => true
  | holding _ _ | writing _ _ _ => false

section Aims

variable {s t : State} {r : Reference} {message : Message} {events more : List Event}

lemma Sending.Aims.mono {x : Sending} (aims : x.Aims s r message)
    (known : ∀ h, s.knows h = true → t.knows h = true) : x.Aims t r message := by
  cases x with
  | looking target m => exact aims
  | holding h m => exact ⟨aims.1, aims.2.1, known h aims.2.2⟩
  | writing h frame call => exact ⟨aims.1, aims.2.1, known h aims.2.2⟩

lemma Event.GoesTo.mono {e : Event} (goes : e.GoesTo s r message)
    (known : ∀ h, s.knows h = true → t.knows h = true) : e.GoesTo t r message := by
  cases e with
  | put j who bytes => exact known _ goes
  | frameBegun j who frame | frameEnded j who frame failure => exact ⟨known _ goes.1, goes.2⟩
  | _ => trivial

/-- What a step of a message leaves of its aim. Before the message was looked up it writes nothing,
and only then is it told that the connection is not there. -/
structure KeepsAim (s : State) (r : Reference) (message : Message) (x : Sending) (seen : List Event)
    (result : Sending ⊕ Except Failure UInt32) : Prop where
  next : ∀ y, result = .inl y → y.Aims s r message ∧ y.isLooking = false
  goes : ∀ e ∈ seen, e.GoesTo s r message
  silent : x.isLooking = true → seen = []
  absent : ∀ f, result = .inr (.error f) → f.isAbsence = true → x.isLooking = true

lemma goesTo_of_mem_putEvents {h : Handle} {who : Actor} {bytes : List UInt8} (own : h.switch = r)
    (known : s.knows h = true) : ∀ e ∈ putEvents h.channel who bytes, e.GoesTo s r message := by
  intro e he
  unfold putEvents at he
  split at he
  · cases he
  · rw [List.mem_singleton.1 he]
    subst own
    exact known

/-- **A step of a message keeps its aim.** -/
theorem Sent.keepsAim {u : State} {who : Actor} {x : Sending}
    {result : Sending ⊕ Except Failure UInt32} (st : Standing s events)
    (step : Sent s who x u more result) (aims : x.Aims s r message) :
    KeepsAim s r message x more result := by
  cases step with
  | @found target m h find =>
    obtain ⟨rfl, rfl⟩ := aims
    obtain ⟨hh, own⟩ := Switch.Registry.mem_of_find st.ordered find
    refine ⟨fun y e => ?_, fun e he => (by cases he), fun _ => rfl, fun _ _ _ => rfl⟩
    cases e
    exact ⟨⟨own, rfl, State.knows_of_mem st hh⟩, rfl⟩
  | unknown find =>
    exact ⟨fun y e => (by cases e), fun e he => (by cases he), fun _ => rfl, fun _ _ _ => rfl⟩
  | @begun h m c bytes connection encoded =>
    obtain ⟨rfl, rfl, known⟩ := aims
    refine ⟨fun y e => ?_, fun e he => ?_, fun looking => (by cases looking), fun f e => (by cases e)⟩
    · cases e
      exact ⟨⟨rfl, rfl, known⟩, rfl⟩
    · rw [List.mem_singleton.1 he]
      exact ⟨known, rfl⟩
  | refused connection encoded =>
    refine ⟨fun y e => (by cases e), fun e he => (by cases he), fun _ => rfl, fun f e absent => ?_⟩
    cases e
    cases absent
  | @waited h frame call call' b p polling pending =>
    obtain ⟨own, text, known⟩ := aims
    refine ⟨fun y e => ?_, goesTo_of_mem_putEvents own known, fun looking => (by cases looking),
      fun f e => (by cases e)⟩
    cases e
    exact ⟨⟨own, text, known⟩, rfl⟩
  | @wrote h frame call b p answer polling ready =>
    obtain ⟨own, text, known⟩ := aims
    refine ⟨fun y e => (by cases e), fun e he => ?_, fun looking => (by cases looking),
      fun f e absent => ?_⟩
    · rcases List.mem_append.1 he with he | he
      · exact goesTo_of_mem_putEvents own known e he
      · rw [List.mem_singleton.1 he]
        subst own
        exact ⟨known, text⟩
    · cases answer <;> cases e
      cases absent

end Aims

/-! ### After a connection has left -/

/-- The connection of a reference has been replaced or has deregistered. -/
def Departed (r : Reference) (events : List Event) : Prop :=
  (∃ k h, Event.registered k (some h) ∈ events ∧ h.switch = r) ∨
    ∃ i removed, Event.deregistered i r removed ∈ events

section Departed

variable {settings : Settings} {handler : Handler} {capacity : Nat} {actions : List Action}
  {s : State} {events : List Event} {r : Reference} {h : Handle}

/-- **A connection that has departed is not found again**, as long as the numbers of the connections
do not start over. -/
theorem switch_ne_of_departed
    (run : (State.start settings handler capacity).steps? actions = some (s, events))
    (few : s.accepted ≤ 2 ^ 64) (departed : Departed r events) (hh : h ∈ s.registry.handles) :
    h.switch ≠ r := by
  rintro rfl
  have st := standing_of_steps? run
  obtain ⟨session, stage, hx, held⟩ := st.owned h hh
  obtain ⟨-, number, registered, gone⟩ := st.agrees hx held
  -- The line that departed has the number of the entry, so that it is the line of the entry.
  have same {k : Handle} {i : Nat} (hk : k ∈ Event.registeredBy i events)
      (own : k.switch = h.switch) : i = h.channel := by
    obtain ⟨-, session', stage', hy, number'⟩ := st.session_of_registered hk
    exact st.numbered.distinct few hy hx (number'.trans (own ▸ number.symm))
  rcases departed with ⟨k, p, replaced, own⟩ | ⟨i, removed, left⟩
  · obtain ⟨first, rest, e⟩ := List.append_of_mem replaced
    obtain ⟨-, previous, before⟩ := later_of_steps? run first k p rest e
    have member : p ∈ Event.registeredBy p.channel events :=
      mem_registeredBy.2 ⟨rfl, previous, by simp [e, before]⟩
    obtain rfl : p = h := by
      rw [show p = ⟨p.switch, p.channel⟩ from rfl, own, same member own]
    have balance := balanced_of_steps? run few p
    have once := st.timesRegistered_le p
    have handed : 0 < Event.timesReplaced p events := List.countP_pos_iff.2 ⟨_, replaced, by simp⟩
    rw [present, if_pos hh] at balance
    omega
  · have once := (st.deregisters_once left).1
    have here : i = h.channel := same (k := ⟨h.switch, i⟩) (by rw [once]; simp) rfl
    have member := mem_deregisteredBy.2 left
    rw [here, gone] at member
    cases member

/-- A message to a connection that has departed is refused when it is looked up. -/
lemma Sent.refused_of_departed {u : State} {who : Actor} {x : Sending} {message : Message}
    {more : List Event} {result : Sending ⊕ Except Failure UInt32}
    (step : Sent s who x u more result) (aims : x.Aims s r message) (looking : x.isLooking = true)
    (run : (State.start settings handler capacity).steps? actions = some (s, events))
    (few : s.accepted ≤ 2 ^ 64) (departed : Departed r events) :
    ∃ f, result = .inr (.error f) ∧ (f = .notConnected r.datapath ∨ f = .connectionReplaced r) := by
  cases step with
  | found find =>
    obtain ⟨rfl, -⟩ := aims
    obtain ⟨hh, own⟩ := Switch.Registry.mem_of_find (standing_of_steps? run).ordered find
    exact (switch_ne_of_departed run few departed hh own).elim
  | @unknown target m f find =>
    obtain ⟨rfl, -⟩ := aims
    exact ⟨f, rfl, Switch.Registry.failure_of_find find⟩
  | _ => cases looking

end Departed

/-! ### Bursts -/

/-- The switch that a handler is to send to, or has been told of. -/
def News.switch? : News → Option Reference
  | spawned switch | observing switch => some switch
  | bursting run | sending run _ => some run.switch
  | absent | settling _ _ | returned | lost => none

/-- What a handler sends goes to the switch that it was told of, which is that of its line. -/
def Briefed (s : State) : Prop :=
  ∀ i session stage news, s.core? i = some (session, stage, news) → ∀ r, news.switch? = some r →
    s.knows ⟨r, i⟩ = true ∧ ∀ x, news.sending? = some x → ∃ message, x.Aims s r message

section Briefed

variable {s t : State} {events more : List Event}

/-- What becomes of the news of a line: no switch is new, and a message is looked up first. -/
lemma Handled.switch? {i : Nat} {c : Connection} (hc : s.connection? i = some c)
    (h : Handled s i c t more) : ∃ news,
      (∀ j, t.core? j = if i = j then some (c.session, c.stage, news) else s.core? j) ∧
      ∀ r, news.switch? = some r → c.news.switch? = some r ∧ ∀ x, news.sending? = some x →
        (∃ message, x = .looking (.connection r) message) ∨
          ∃ y u seen, c.news.sending? = some y ∧ Sent s (.handler i) y u seen (.inl x) := by
  have told {u : State} := State.core?_told (t := u) hc
  have same : ∀ j, s.core? j = s.core? j := fun _ => rfl
  cases h with
  | @called switch news was now =>
    refine ⟨news, told same news, fun r hr => ?_⟩
    rw [was]
    rcases now with rfl | rfl | ⟨request, rfl⟩
    · cases hr
    · exact ⟨hr, fun x hx => by cases hx⟩
    · exact ⟨hr, fun x hx => by cases hx⟩
  | observed was => exact ⟨_, told same _, fun r hr => by cases hr⟩
  | @attempted run was =>
    refine ⟨_, told same _, fun r hr => ?_⟩
    rw [was]
    cases hr
    refine ⟨rfl, fun x hx => .inl ?_⟩
    cases hx
    exact ⟨_, rfl⟩
  | completed was => exact ⟨_, told same _, fun r hr => by cases hr⟩
  | @sent run y x u seen was step =>
    refine ⟨_, told step.effect.1 _, fun r hr => ?_⟩
    rw [was]
    refine ⟨hr, fun x hx => .inr ⟨y, u, more, rfl, ?_⟩⟩
    cases hx
    exact step
  | @delivered run y xid u seen was step =>
    refine ⟨_, told step.effect.1 _, fun r hr => ?_⟩
    rw [was]
    exact ⟨hr, fun x hx => by cases hx⟩
  | aborted was step => exact ⟨_, told step.effect.1 _, fun r hr => by cases hr⟩
  | @settled switch todo harness effect was handler settle =>
    have quiet {handler : Handler} {stopping : Bool} {news : News} (hn : news.switch? = none) :
        ∃ news', (∀ j, (State.tell { s with handler, stopping } i news).core? j =
            if i = j then some (c.session, c.stage, news') else s.core? j) ∧
          ∀ r, news'.switch? = some r → c.news.switch? = some r ∧ ∀ x, news'.sending? = some x →
            (∃ message, x = .looking (.connection r) message) ∨
              ∃ y u seen, c.news.sending? = some y ∧ Sent s (.handler i) y u seen (.inl x) :=
      ⟨news, told (u := { s with handler, stopping }) same news, fun r hr => by simp [hn] at hr⟩
    unfold State.settle
    dsimp only
    split
    · exact quiet rfl
    · exact quiet rfl

/-- **Every step keeps the handlers briefed.** -/
theorem Briefed.step (briefed : Briefed s) (st : Standing s events) (orderly : s.Orderly)
    {a : Action} (h : s.step? a = some (t, more)) : Briefed t := by
  have known (k : Handle) (hk : s.knows k = true) : t.knows k = true :=
    State.knows_step st (step?_stir orderly h) hk
  have still {i : Nat} {core : Session × Stage × News} (hi : s.core? i = some core) (r : Reference)
      (hr : core.2.2.switch? = some r) : t.knows ⟨r, i⟩ = true ∧
        ∀ x, core.2.2.sending? = some x → ∃ message, x.Aims t r message := by
    obtain ⟨own, aims⟩ := briefed i _ _ _ hi r hr
    refine ⟨known _ own, fun x hx => ?_⟩
    obtain ⟨message, aim⟩ := aims x hx
    exact ⟨message, aim.mono known⟩
  have same (core : ∀ j, t.core? j = s.core? j) : Briefed t :=
    fun j session stage news hj r hr => still (core j ▸ hj) r hr
  cases State.step?_moved h with
  | @drove i d c _ _ hc step =>
    obtain ⟨session, stage, news, core, -, course⟩ := step.effect hc
    have hi := State.core?_of_connection? hc
    intro j session' stage' news' hj r hr
    rw [core] at hj
    split at hj
    next hij =>
      subst hij
      cases hj
      generalize t.registry = registry, registrations more = seen at course
      cases course with
      | launches entering phase =>
        cases hr
        have held : c.stage.phase.held? = some r := by rw [entering]; rfl
        obtain ⟨datapath, number, -⟩ := st.agrees (standing?_of_core? hi) held
        refine ⟨known _ (State.knows_iff.2 ?_), fun x hx => by cases hx⟩
        exact ⟨_, _, standing?_of_core? hi, datapath, number⟩
      | goes | registers | deregisters | ends => exact still hi r hr
    next => exact still hj r hr
  | @told i d c _ _ hc step =>
    obtain ⟨news, core, tells⟩ := step.switch? hc
    have hi := State.core?_of_connection? hc
    intro j session' stage' news' hj r hr
    rw [core] at hj
    split at hj
    next hij =>
      subst hij
      cases hj
      obtain ⟨before, sends⟩ := tells r hr
      obtain ⟨own, aims⟩ := briefed i _ _ _ hi r before
      refine ⟨known _ own, fun x hx => ?_⟩
      rcases sends x hx with ⟨message, rfl⟩ | ⟨y, u, seen, hy, sent⟩
      · exact ⟨message, rfl, rfl⟩
      · obtain ⟨message, aim⟩ := aims y hy
        exact ⟨message, ((sent.keepsAim st aim).next x rfl).1.mono known⟩
    next => exact still hj r hr
  | answered call step =>
    obtain ⟨caller', core, -⟩ := step.effect
    exact same core
  | @accepted d i rest started acceptor backlog =>
    obtain ⟨session, -, -, -, -, connection, -⟩ := State.core?_acceptFirst orderly backlog
    intro j session' stage' news' hj r hr
    unfold State.core? at hj
    rw [connection] at hj
    split at hj
    · cases hj
      cases hr
    · exact still hj r hr
  | called call =>
    obtain ⟨caller, rfl, -⟩ := State.call?_eq_some call
    exact same fun _ => rfl
  | @connected peer going => exact same (State.core?_congr (State.connection?_connect s peer))
  | aside world task silent quiet => exact same (State.core?_congr world.connection)

/-- **In a run every handler is briefed.** -/
theorem briefed_of_steps? {settings : Settings} {handler : Handler} {capacity : Nat}
    {actions : List Action}
    (run : (State.start settings handler capacity).steps? actions = some (s, events)) :
    Briefed s := by
  refine State.run_induction (P := fun _ s _ => Briefed s) ?_ ?_ run
  · intro i session stage news h
    simp [State.core?, State.connection?, State.start] at h
  · intro actions s before a t after before_run ih step
    exact ih.step (standing_of_steps? before_run) (orderly_of_run before_run) step

end Briefed

/-! ### A message from its beginning to its end -/

/-- What holds of a message to a switch over one connection from a state of a run on, for as long as
it is watched. -/
structure Watched (who : Actor) (r : Reference) (message : Message) (s : State) (past : List Event)
    (x : Sending) (t : State) (events : List Event) (result : Option (Except Failure UInt32)) :
    Prop where
  known : ∀ h, s.knows h = true → t.knows h = true
  accepted : s.accepted ≤ t.accepted
  goes : ∀ e ∈ events, e.writer? = some who → e.GoesTo t r message
  absent : ∀ f, result = some (.error f) → f.isAbsence = true →
    x.isLooking = true ∧ ∀ e ∈ events, e.writer? ≠ some who
  departed : t.accepted ≤ 2 ^ 64 → Departed r past → x.isLooking = true →
    result = none ∧ t.sending? who = some x ∨
      ∃ f, result = some (.error f) ∧ (f = .notConnected r.datapath ∨ f = .connectionReplaced r)

lemma Departed.append {r : Reference} {events : List Event} (h : Departed r events)
    (more : List Event) : Departed r (events ++ more) :=
  h.imp (fun ⟨k, h, he, own⟩ => ⟨k, h, List.mem_append_left _ he, own⟩)
    fun ⟨i, removed, he⟩ => ⟨i, removed, List.mem_append_left _ he⟩

namespace Watched

variable {who : Actor} {r : Reference} {message : Message} {s u t : State}
  {past new events : List Event} {x y : Sending} {result : Option (Except Failure UInt32)}

/-- A step that lets the message rest, and what comes after. -/
lemma rests (h : Watched who r message u (past ++ new) x t events result)
    (known : ∀ h, s.knows h = true → u.knows h = true) (accepted : s.accepted ≤ u.accepted)
    (silent : ∀ e ∈ new, e.writer? ≠ some who) :
    Watched who r message s past x t (new ++ events) result where
  known k hk := h.known k (known k hk)
  accepted := Nat.le_trans accepted h.accepted
  goes e he hw := by
    rcases List.mem_append.1 he with he | he
    · exact (silent e he hw).elim
    · exact h.goes e he hw
  absent f hf absent := by
    obtain ⟨looking, none_after⟩ := h.absent f hf absent
    refine ⟨looking, fun e he => ?_⟩
    rcases List.mem_append.1 he with he | he
    · exact silent e he
    · exact none_after e he
  departed few departed := h.departed few (departed.append new)

/-- A step of the message after which it is still on its way, and what comes after. -/
lemma goes_on (h : Watched who r message u (past ++ new) y t events result)
    (known : ∀ h, s.knows h = true → u.knows h = true) (accepted : s.accepted ≤ u.accepted)
    (written : ∀ e ∈ new, e.writer? = some who → e.GoesTo s r message)
    (found : y.isLooking = false)
    (here : s.accepted ≤ 2 ^ 64 → Departed r past → x.isLooking = true → False) :
    Watched who r message s past x t (new ++ events) result where
  known k hk := h.known k (known k hk)
  accepted := Nat.le_trans accepted h.accepted
  goes e he hw := by
    rcases List.mem_append.1 he with he | he
    · exact (written e he hw).mono fun k hk => h.known k (known k hk)
    · exact h.goes e he hw
  absent f hf absent := by
    have looking := (h.absent f hf absent).1
    rw [found] at looking
    cases looking
  departed few departed looking :=
    (here (Nat.le_trans (Nat.le_trans accepted h.accepted) few) departed looking).elim

end Watched

/-- **A message to one connection, watched from any state of a run on.** -/
theorem watched_of_steps? {settings : Settings} {handler : Handler} {capacity : Nat} {who : Actor}
    {r : Reference} {message : Message} {rest : List Action} {t : State} {events : List Event}
    {result : Option (Except Failure UInt32)} :
    ∀ {actions : List Action} {s : State} {past : List Event} {x : Sending},
      (State.start settings handler capacity).steps? actions = some (s, past) →
      s.sending? who = some x → x.Aims s r message →
      s.watch? who rest = some (t, events, result) →
      Watched who r message s past x t events result := by
  induction rest generalizing events with
  | nil =>
    intro actions s past x run hx aims watch
    cases watch
    exact ⟨fun _ => id, Nat.le_refl _, fun e he => (by cases he), fun f e => (by cases e),
      fun _ _ _ => .inl ⟨rfl, hx⟩⟩
  | cons a rest ih =>
    intro actions s past x run hx aims watch
    obtain ⟨⟨u, new⟩, step, watch⟩ := Option.bind_eq_some_iff.1 watch
    have orderly := orderly_of_run run
    have st := standing_of_steps? run
    have stir := step?_stir orderly step
    have known (h : Handle) (hk : s.knows h = true) : u.knows h = true := State.knows_step st stir hk
    have further : (State.start settings handler capacity).steps? (actions ++ [a]) =
        some (u, past ++ new) := State.steps?_concat.2 ⟨s, past, new, run, step, rfl⟩
    have carried := step?_carries orderly step hx
    dsimp only at watch
    generalize s.returned? who a = returned at carried watch
    cases carried with
    | rests same silent =>
      obtain ⟨⟨v, more, result'⟩, watched, e⟩ := Option.map_eq_some_iff.1 watch
      cases e
      exact (ih further same (aims.mono known) watched).rests known stir.accepted_le silent
    | @moves u' seen result' step' next written =>
      have keeps := step'.keepsAim st aims
      have written' : ∀ e ∈ new, e.writer? = some who → e.GoesTo s r message :=
        fun e he hw => keeps.goes e (written e he hw)
      cases result' with
      | inl y =>
        obtain ⟨⟨v, more, result'⟩, watched, e⟩ := Option.map_eq_some_iff.1 watch
        cases e
        obtain ⟨aims', found⟩ := keeps.next y rfl
        refine (ih further next (aims'.mono known) watched).goes_on known stir.accepted_le written'
          found fun few departed looking => ?_
        obtain ⟨f, e, -⟩ := step'.refused_of_departed aims looking run few departed
        cases e
      | inr answer =>
        cases watch
        refine ⟨known, stir.accepted_le, fun e he hw => (written' e he hw).mono known,
          fun f e absent => ?_, fun few departed looking => .inr ?_⟩
        · cases e
          have looking := keeps.absent f rfl absent
          refine ⟨looking, fun e he hw => ?_⟩
          have := written e he hw
          rw [keeps.silent looking] at this
          cases this
        · obtain ⟨f, e, why⟩ :=
            step'.refused_of_departed aims looking run (Nat.le_trans stir.accepted_le few)
              departed
          cases e
          exact ⟨f, rfl, why⟩

/-- A run that is watched goes on. -/
lemma steps?_of_watch? {s₀ : State} {who : Actor} {rest : List Action} {t : State}
    {events : List Event} {result : Option (Except Failure UInt32)} :
    ∀ {actions : List Action} {s : State} {past : List Event},
      s₀.steps? actions = some (s, past) → s.watch? who rest = some (t, events, result) →
      ∃ more, s₀.steps? more = some (t, past ++ events) := by
  induction rest generalizing events with
  | nil =>
    intro actions s past run watch
    cases watch
    exact ⟨actions, by rw [run, List.append_nil]⟩
  | cons a rest ih =>
    intro actions s past run watch
    obtain ⟨⟨u, new⟩, step, watch⟩ := Option.bind_eq_some_iff.1 watch
    have further : s₀.steps? (actions ++ [a]) = some (u, past ++ new) :=
      State.steps?_concat.2 ⟨s, past, new, run, step, rfl⟩
    dsimp only at watch
    split at watch
    · cases watch
      exact ⟨_, further⟩
    · obtain ⟨⟨v, later, result'⟩, watched, e⟩ := Option.map_eq_some_iff.1 watch
      cases e
      obtain ⟨more, h⟩ := ih further watched
      exact ⟨more, by rw [h, List.append_assoc]⟩

/-- What holds of a message to a switch over one connection, from before it is looked up until it
ends. What rests on the numbers of the connections holds until they start over, after as many
connections as there are numbers. -/
structure Addressed (who : Actor) (r : Reference) (message : Message) (past : List Event)
    (s : State) (events : List Event) (result : Option (Except Failure UInt32)) : Prop where
  /-- The bytes of the message go to a line of the connection that it names, -/
  own : ∀ j bytes, .put j who bytes ∈ events → s.knows ⟨r, j⟩ = true
  /-- which is the only line of that number, -/
  only : s.accepted ≤ 2 ^ 64 → ∀ j bytes, .put j who bytes ∈ events →
    ∀ i session stage, s.standing? i = some (session, stage) → session.connection = r.connection →
      i = j
  /-- in a frame with the message. -/
  frame : ∀ j frame, .frameBegun j who frame ∈ events →
    s.knows ⟨r, j⟩ = true ∧ frame.message = message
  /-- A burst names the connection of the switch that it is for. -/
  burst : ∀ i, who = .handler i → s.knows ⟨r, i⟩ = true
  /-- A message that is told that a connection is not there, or no longer, puts no byte anywhere. -/
  absent : ∀ f, result = some (.error f) → f.isAbsence = true →
    ∀ j bytes, .put j who bytes ∉ events
  /-- Once the connection was replaced or deregistered, the message is told so: it has been, or is
  in the next step of its task, which is possible. -/
  departed : s.accepted ≤ 2 ^ 64 → Departed r past →
    ∃ f, (f = .notConnected r.datapath ∨ f = .connectionReplaced r) ∧
      (result = some (.error f) ∨ result = none ∧ (s.step? (.go who)).isSome = true ∧
        s.returned? who (.go who) = some (.error f))

/-- **A message keeps to its connection.** In any run of the controller, whatever the order in which
connections come, are replaced, close and leave and in which the messages to them take their steps, a
message to a switch over one connection puts bytes on that connection alone, and none at all if it is
told that the connection is not there; and after the connection has left the registry, every message
that is yet to be looked up is told so. -/
theorem message_keeps_to_connection {settings : Settings} {handler : Handler} {capacity : Nat}
    {actions rest : List Action} {s t : State} {past events : List Event} {who : Actor}
    {r : Reference} {message : Message} {result : Option (Except Failure UInt32)}
    (run : (State.start settings handler capacity).steps? actions = some (s, past))
    (looking : s.sending? who = some (.looking (.connection r) message))
    (watch : s.watch? who rest = some (t, events, result)) :
    Addressed who r message past t events result := by
  have aims : (Sending.looking (.connection r) message).Aims s r message := ⟨rfl, rfl⟩
  have watched := watched_of_steps? run looking aims watch
  obtain ⟨more, further⟩ := steps?_of_watch? run watch
  refine ⟨fun j bytes he => watched.goes _ he rfl, fun few j bytes he i session stage hx number => ?_,
    fun j frame he => watched.goes _ he rfl, fun i hi => ?_, fun f hf absent j bytes he => ?_,
    fun few departed => ?_⟩
  · obtain ⟨session', stage', hy, -, number'⟩ := State.knows_iff.1 (watched.goes _ he rfl)
    exact (standing_of_steps? further).numbered.distinct few hx hy (number.trans number'.symm)
  · subst hi
    obtain ⟨news, hn, hs⟩ := Option.bind_eq_some_iff.1 looking
    obtain ⟨⟨session, stage, news⟩, hcore, rfl⟩ := Option.map_eq_some_iff.1 hn
    obtain ⟨r', hr⟩ : ∃ r', news.switch? = some r' := by
      cases news <;> cases hs
      exact ⟨_, rfl⟩
    obtain ⟨own, aims'⟩ := briefed_of_steps? run i session stage news hcore r' hr
    obtain ⟨m, e, -⟩ := aims' _ hs
    cases e
    exact watched.known _ own
  · exact (watched.absent f hf absent).2 _ he rfl
  · rcases watched.departed few departed rfl with ⟨rfl, still⟩ | ⟨f, hf, why⟩
    · obtain ⟨f, find, why⟩ : ∃ f, t.registry.find (.connection r) = .error f ∧
          (f = .notConnected r.datapath ∨ f = .connectionReplaced r) := by
        cases find : t.registry.find (.connection r) with
        | ok h =>
          obtain ⟨hh, own⟩ := Switch.Registry.mem_of_find (standing_of_steps? further).ordered find
          exact (switch_ne_of_departed further few (departed.append events) hh own).elim
        | error f => exact ⟨f, rfl, Switch.Registry.failure_of_find find⟩
      have send : t.send? who (.proceed readChunk) (.looking (.connection r) message) =
          some (t, [], .inr (.error f)) := by
        simp [State.send?, Disposition.unlessFailing, find]
      obtain ⟨resume, step, -⟩ := State.step?_run still (.proceed readChunk)
      refine ⟨f, why, .inr ⟨rfl, ?_, ?_⟩⟩
      · rw [Action.go, step, send]
        rfl
      · simp [Action.go, State.returned?, still, send]
    · exact ⟨f, why, .inl hf⟩

/-- Someone sends to the switch of the first connection while another one takes its place. -/
def sendsBeforeReplacement : List Action :=
  arrival 0 5 ++ [Action.call (.send (.connection ⟨⟨5⟩, 1⟩) .barrierRequest)]

/-- Someone sends to the switch of the first connection after another one took its place. -/
def sendsAfterReplacement : List Action :=
  arrival 0 5 ++ arrival 1 5 ++ [Action.call (.send (.connection ⟨⟨5⟩, 1⟩) .barrierRequest)]

/-- The message is looked up, the second connection is registered, and the message is written. -/
def writesAfterReplacement : List Action :=
  [Action.go (.caller 0)] ++ (arrival 1 5).take 11 ++ [Action.go (.caller 0), .go (.caller 0)]

theorem addressed_replacement :
    (∃ s past t events, (State.start {} (.observer []) 40).steps? sendsBeforeReplacement =
        some (s, past) ∧ s.watch? (.caller 0) writesAfterReplacement = some (t, events, some (.ok 3)) ∧
      Addressed (.caller 0) ⟨⟨5⟩, 1⟩ .barrierRequest past t events (some (.ok 3))) ∧
    ∃ s past t events, (State.start {} (.observer []) 40).steps? sendsAfterReplacement =
        some (s, past) ∧ s.watch? (.caller 0) [.go (.caller 0)] =
          some (t, events, some (.error (.connectionReplaced ⟨⟨5⟩, 1⟩))) ∧
      Addressed (.caller 0) ⟨⟨5⟩, 1⟩ .barrierRequest past t events
        (some (.error (.connectionReplaced ⟨⟨5⟩, 1⟩))) := by
  have watched {actions rest : List Action} {result : Except Failure UInt32}
      (h : (((State.start {} (.observer []) 40).steps? actions).bind fun (s, _) =>
        if s.sending? (.caller 0) = some (.looking (.connection ⟨⟨5⟩, 1⟩) .barrierRequest) then
          (s.watch? (.caller 0) rest).bind fun step => step.2.2
        else none) = some result) :
      ∃ s past t events, (State.start {} (.observer []) 40).steps? actions = some (s, past) ∧
        s.watch? (.caller 0) rest = some (t, events, some result) ∧
        Addressed (.caller 0) ⟨⟨5⟩, 1⟩ .barrierRequest past t events (some result) := by
    obtain ⟨⟨s, past⟩, run, h⟩ := Option.bind_eq_some_iff.1 h
    dsimp only at h
    split at h
    next looking =>
      obtain ⟨⟨t, events, result'⟩, watch, e⟩ := Option.bind_eq_some_iff.1 h
      cases e
      exact ⟨s, past, t, events, run, watch, message_keeps_to_connection run looking watch⟩
    next => cases h
  exact ⟨watched (by decide +kernel), watched (by decide +kernel)⟩

end FlowBurst.Controller
