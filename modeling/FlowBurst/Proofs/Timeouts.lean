import FlowBurst.Proofs.Beginnings
import FlowBurst.Proofs.Expiry
import FlowBurst.Proofs.Handlers

/-!
# What a timeout means

A failure counts as a timeout if the deadline of its operation has passed, or if the operating
system fails the operation with the error of a peer that no longer answers. Only where the system does
that, a burst whose sends have no limit of time aborts for a timeout, and a handshake is said to have
taken too long before its time is up; `timeouts_undue` shows both. Main statement:
`timeouts_explained`.
-/

namespace FlowBurst.Switch.Registry

/-- A switch that is not found is no timeout. -/
lemma isTimeout_of_find {g : Registry} {target : Target} {f : Failure}
    (absent : g.find target = .error f) : f.isTimeout = false := by
  unfold find at absent
  split at absent
  · split at absent <;> cases absent
    rfl
  · split at absent
    · split_ifs at absent
      cases absent
      rfl
    · cases absent
      rfl

end FlowBurst.Switch.Registry

namespace FlowBurst.Controller

open FlowBurst.OpenFlow (Frame)
open FlowBurst.Switch (Failure)
open FlowBurst.Transport (Call Disposition Limits OsError)

/-! ### Bursts -/

section Bursts

variable {s t u : State} {i : Nat} {who : Actor} {d : Disposition} {x : Sending}
  {seen more : List Event} {result : Burst.Result Switch.Reference} {f : Burst.Failure}

/-- A message that ends with a timeout was being written. -/
lemma writing_of_timeout {g : Failure} (h : s.send? who d x = some (u, seen, .inr (.error g)))
    (timeout : g.isTimeout = true) :
    ∃ k frame call f v put, x = .writing k frame call ∧ g = .transport f ∧
      s.poll? k.channel who d call = some (v, put, .ready (.error f)) := by
  cases x with
  | looking target message =>
    have e := eq_of_unlessFailing h
    split at e
    next => cases e
    next f find =>
      cases e
      rw [Switch.Registry.isTimeout_of_find find] at timeout
      cases timeout
  | holding k message =>
    obtain ⟨c, hc, h⟩ := Option.bind_eq_some_iff.1 h
    have e := eq_of_unlessFailing h
    split at e
    next => cases e; cases timeout
    next => cases e
  | writing k frame call =>
    obtain ⟨⟨v, put, progress⟩, poll, h⟩ := Option.bind_eq_some_iff.1 h
    dsimp only at h
    split at h
    next => cases h
    next => cases h
    next f =>
      cases h
      exact ⟨k, frame, call, f, _, put, rfl, rfl, poll⟩

/-- A burst ends in a step of the task that tells the handler of its line. -/
lemma handler_of_burstEnded {a : Action} (h : s.step? a = some (t, more))
    (ended : .burstEnded i result ∈ more) : ∃ d, a = .run (.handler i) d := by
  have strange (plain : ∀ e ∈ more, e.isPlain = true) : False := by
    have := plain _ ended
    cases this
  cases State.step?_moved h with
  | drove hc step =>
    obtain ⟨-, -, -, -, -, seen⟩ := State.drive?_takes h
    obtain plain | ⟨bytes, e⟩ | ⟨frame, e⟩ := seen _ ended
    · cases plain
    · cases e
    · cases e
  | @told j d c _ _ hc step =>
    obtain ⟨news, -, tells⟩ := step.tells hc
    have member : .burstEnded i result ∈ tidings more := mem_tidings.2 ⟨ended, rfl⟩
    by_cases line : j = i
    · exact ⟨d, line ▸ rfl⟩
    · exact (tells.untold_of_ne line _ member rfl).elim
  | answered call step => exact (strange step.plain).elim
  | accepted acceptor backlog => exact (strange (State.accept?_plain h).2).elim
  | called | connected => cases ended
  | aside world task silent quiet =>
    rcases task with task | task
    · obtain ⟨-, -, rfl⟩ := State.step?_silent h task
      cases ended
    · cases a with
      | run who d =>
        cases task
        exact (strange (State.accept?_plain h).2).elim
      | _ => cases task

/-- A burst that aborts does so as its message on its way has failed. -/
lemma failure_of_burstEnded (h : s.handle? i d = some (t, more))
    (ended : .burstEnded i result ∈ more) (cause : result.cause = some f) :
    ∃ x u seen g, s.sending? (.handler i) = some x ∧
      s.send? (.handler i) d x = some (u, seen, .inr (.error g)) ∧ f = .ofSwitch g := by
  obtain ⟨c, hc, h⟩ := Option.bind_eq_some_iff.1 h
  have sending : s.sending? (.handler i) = c.news.sending? :=
    State.sending?_handler (State.core?_of_connection? hc)
  split at h
  next switch faulty was handler =>
    cases eq_of_unlessFailing h
    cases List.mem_singleton.1 ended
  next switch policy was handler =>
    cases eq_of_unlessFailing h
    cases List.mem_singleton.1 ended
  next switch was =>
    cases eq_of_unlessFailing h
    cases List.mem_singleton.1 ended
  next run was =>
    have e := eq_of_unlessFailing h
    split at e
    · cases e
      cases ended
    · cases e
      cases List.mem_singleton.1 ended
      cases cause
  next run x was =>
    obtain ⟨⟨u, seen, result'⟩, hs, h⟩ := Option.bind_eq_some_iff.1 h
    have untold : .burstEnded i result ∉ seen := fun he => by
      have member : .burstEnded i result ∈ tidings seen := mem_tidings.2 ⟨he, rfl⟩
      rw [(State.send?_eq_some hs).untold] at member
      cases member
    dsimp only at h
    split at h
    · cases h
      exact (untold ended).elim
    · cases h
      exact (untold ended).elim
    next g =>
      cases h
      have last := (List.mem_append.1 ended).resolve_left untold
      cases List.mem_singleton.1 last
      cases cause
      exact ⟨x, u, seen, g, by rw [sending, was]; rfl, hs, rfl⟩
  next switch todo policy was handler =>
    obtain ⟨effect, settle, h⟩ := Option.bind_eq_some_iff.1 h
    have e := eq_of_unlessFailing h
    unfold State.settle at e
    dsimp only at e
    split at e <;> cases e <;> simp at ended
  next => cases h

lemma isTimeout_of_kind {g : Failure} (kind : (Burst.Failure.ofSwitch g).kind = .timeout) :
    g.isTimeout = true := by
  change Burst.Failure.kindOf g = .timeout at kind
  unfold Burst.Failure.kindOf at kind
  split at kind
  · cases kind
  split at kind
  next timeout => exact timeout
  · split at kind <;> cases kind

/-- What is said of a send that the system failed. -/
lemma kindOf_system (operation : Transport.Operation) (e : OsError) :
    Burst.Failure.kindOf (.transport (.system operation e)) =
      if e.kind.category = .closed then .disconnected
      else if e = .timedOut then .timeout else .write := by
  cases e <;> rfl

variable {settings : Settings} {handler : Handler} {capacity : Nat} {actions : List Action}
  {events : List Event}

/-- **A burst that aborts for a timeout** has a limit of time for its sends, which has passed since
its task began to write; or the system says so of the write. -/
theorem timeout_of_burst
    (run : (State.start settings handler capacity).steps? actions = some (s, events))
    (h : s.handle? i d = some (t, more)) (ended : .burstEnded i result ∈ more)
    (cause : result.cause = some f) (timeout : f.kind = .timeout) :
    (∃ c, d = .fail c .timedOut) ∨ ∃ limit, settings.sendTimeout = some limit ∧
      Once (State.start settings handler capacity) actions fun u a rest =>
        Began (.handler i) s u a rest ∧ u.now + limit ≤ s.now := by
  obtain ⟨x, u, seen, g, hx, send, rfl⟩ := failure_of_burstEnded h ended cause
  obtain ⟨k, frame, call, f, v, put, rfl, rfl, poll⟩ :=
    writing_of_timeout send (isTimeout_of_kind timeout)
  refine (cause_of_poll? poll (isTimeout_of_kind timeout)).symm.imp_right fun expired => ?_
  obtain ⟨first, a, rest, w, past, e, earlier, began, limits⟩ := began_of_writing run hx
  have same : w.settings = settings := settings_of_steps? earlier
  rw [limits, State.sendLimits, same] at expired
  cases limit : settings.sendTimeout with
  | none =>
    rw [limit] at expired
    cases expired
  | some n =>
    rw [limit] at expired
    exact ⟨n, rfl, first, a, rest, w, past, e, earlier, began, of_decide_eq_true expired⟩

end Bursts

/-! ### Handshakes -/

section Handshakes

variable {s t : State} {i : Nat} {c : Connection} {d : Disposition} {w : Awaiting} {f : Failure}
  {more : List Event} {settings : Settings} {handler : Handler} {capacity : Nat}
  {actions : List Action} {events : List Event}

/-- An event says that a handshake took too long. -/
def Event.isLate : Event → Bool
  | .notice (.handshakeFailed _ (.handshakeTimeout _ _)) => true
  | _ => false

/-- Events none of which says that a handshake took too long. -/
def Timely (events : List Event) : Prop := ∀ e ∈ events, e.isLate = false

@[simp] lemma timely_nil : Timely [] := fun _ he => by cases he

@[simp] lemma timely_append {first rest : List Event} :
    Timely (first ++ rest) ↔ Timely first ∧ Timely rest := by
  unfold Timely
  simp only [List.forall_mem_append]

@[simp] lemma timely_cons {e : Event} {rest : List Event} :
    Timely (e :: rest) ↔ e.isLate = false ∧ Timely rest := List.forall_mem_cons

@[simp] lemma timely_putEvents (i : Nat) (who : Actor) (bytes : List UInt8) :
    Timely (putEvents i who bytes) := by
  unfold putEvents
  split <;> simp [Event.isLate]

/-- A handshake that fails otherwise than by a limit of time is not said to have taken too long. -/
lemma timely_failHandshake (s : State) (i : Nat) (other : f.isTimeout = false) :
    Timely (s.failHandshake i f).2 := by
  unfold State.failHandshake
  cases f with
  | handshakeTimeout peer limit => cases other
  | transport t =>
    have untimed : t.isTimeout = false := other
    simp only [untimed, Bool.false_eq_true, if_false]
    split <;> simp [Event.isLate]
  | _ =>
    dsimp only
    split <;> simp [Event.isLate]

lemma timely_endService (s : State) (i : Nat) (switch : Switch.Reference) (f : Failure) :
    Timely (s.endService i switch f).2 := by
  unfold State.endService
  dsimp only
  split <;> simp [Event.isLate]

lemma timely_fail (s : State) (i : Nat) (w : Awaiting) (other : f.isTimeout = false) :
    Timely (s.fail i w f).2 := by
  cases w with
  | hello | features => exact timely_failHandshake s i other
  | service switch => exact timely_endService s i switch f

lemma timely_begin (s : State) (i : Nat) (purpose : Purpose) (limits : Limits) (frame : Frame) :
    Timely (s.begin i purpose limits frame).2 := by
  unfold State.begin
  split
  · simp [Event.isLate]
  · exact timely_fail s i _ rfl

lemma timely_receiveAside (s : State) (i : Nat) (c : Connection) (w : Awaiting) (frame : Frame) :
    Timely (s.receiveAside i c w frame).2 := by
  unfold State.receiveAside
  split
  · exact timely_begin s i _ _ _
  · exact timely_cons.2 ⟨rfl, timely_failHandshake s i rfl⟩
  · exact timely_nil

lemma timely_receive (s : State) (i : Nat) (c : Connection) (w : Awaiting) (frame : Frame) :
    Timely (s.receive i c w frame).2 := by
  unfold State.receive
  split
  · split <;> exact timely_begin _ i _ _ _
  · exact timely_nil
  · exact timely_begin s i _ _ _
  · simp [Event.isLate]
  · exact timely_nil
  · exact timely_receiveAside s i c _ frame

lemma timely_decide (s : State) (i : Nat) (c : Connection) (w : Awaiting) :
    Timely (s.decide i c w).2 := by
  unfold State.decide
  rcases Frame.decode s.settings.maxFrameLength c.inbound with ⟨e | _ | frame, rest⟩
  · exact timely_fail _ i w rfl
  · exact timely_nil
  · exact timely_cons.2 ⟨rfl, timely_receive _ i c w frame⟩

lemma timely_register (s : State) (i : Nat) (c : Connection) (datapath : Switch.DatapathId) :
    Timely (s.register i c datapath).2 := by
  unfold State.register
  split
  · simp [Event.isLate]
  · dsimp only
    split <;> simp [Event.isLate]

lemma timely_afterRead (s : State) (i : Nat) (w : Awaiting) (reply : Transport.Reply) :
    Timely (s.afterRead i w (.ok reply)).2 := by
  unfold State.afterRead
  split
  next => exact timely_fail s i w rfl
  next => simp [Event.isLate]
  next => exact timely_nil
  next failed => cases failed

/-- A task that gives up over a failed call says that a handshake took too long where the call came
to a timeout within a handshake. -/
lemma late_of_fail {t : Transport.Failure} {e : Event} (he : e ∈ (s.fail i w (.transport t)).2)
    (late : e.isLate = true) : (Part.awaiting w).isExchanging = true ∧ t.isTimeout = true ∧
      e = .notice (.handshakeFailed (s.peer i)
        (.handshakeTimeout (s.peer i).text s.settings.handshakeTimeout)) := by
  have failed (he : e ∈ (s.failHandshake i (.transport t)).2) : t.isTimeout = true ∧
      e = .notice (.handshakeFailed (s.peer i)
        (.handshakeTimeout (s.peer i).text s.settings.handshakeTimeout)) := by
    by_cases timeout : t.isTimeout = true
    · refine ⟨timeout, ?_⟩
      unfold State.failHandshake at he
      dsimp only at he
      rw [if_pos timeout] at he
      exact List.mem_singleton.1 he
    · have untimed : t.isTimeout = false := by simpa using timeout
      rw [timely_failHandshake s i (f := .transport t) untimed e he] at late
      cases late
  cases w with
  | hello | features => exact ⟨rfl, failed he⟩
  | service switch =>
    rw [timely_endService s i switch _ e he] at late
    cases late

/-- A task says that a handshake took too long as a write of the handshake comes to a timeout. -/
lemma late_of_afterWrite {purpose : Purpose} {answer : Except Transport.Failure Unit} {e : Event}
    (he : e ∈ (s.afterWrite i purpose answer).2) (late : e.isLate = true) :
    ∃ t, answer = .error t ∧ purpose.part.isExchanging = true ∧ t.isTimeout = true ∧
      e = .notice (.handshakeFailed (s.peer i)
        (.handshakeTimeout (s.peer i).text s.settings.handshakeTimeout)) := by
  unfold State.afterWrite at he
  split at he
  next =>
    rw [timely_failHandshake s i rfl e he] at late
    cases late
  next => cases he
  next t accepted =>
    have part : purpose.part = .awaiting purpose.awaiting := by
      cases purpose with
      | rejection version => exact (accepted version rfl).elim
      | greeting | echo | featuresRequest => rfl
    obtain ⟨exchanging, timeout, said⟩ := late_of_fail he late
    exact ⟨t, rfl, part ▸ exchanging, timeout, said⟩

/-- A task says that a handshake took too long as a read of the handshake comes to a timeout. -/
lemma late_of_afterRead {answer : Except Transport.Failure Transport.Reply} {e : Event}
    (he : e ∈ (s.afterRead i w answer).2) (late : e.isLate = true) :
    ∃ t, answer = .error t ∧ (Part.awaiting w).isExchanging = true ∧ t.isTimeout = true ∧
      e = .notice (.handshakeFailed (s.peer i)
        (.handshakeTimeout (s.peer i).text s.settings.handshakeTimeout)) := by
  cases answer with
  | ok reply =>
    rw [timely_afterRead s i w reply e he] at late
    cases late
  | error t => exact ⟨t, rfl, late_of_fail he late⟩

/-- A call of a handshake that comes to a timeout, in a step of the task of its line. -/
structure Expires (s : State) (i : Nat) (d : Disposition) (c : Connection) (e : Event) : Prop where
  connection : s.connection? i = some c
  exchanging : c.stage.part.isExchanging = true
  call : ∃ job u put t, c.stage.job? i = some job ∧
    s.poll? i (.driver i) d job.call = some (u, put, .ready (.error t)) ∧ t.isTimeout = true
  said : e = .notice (.handshakeFailed (s.peer i)
    (.handshakeTimeout (s.peer i).text s.settings.handshakeTimeout))

/-- A driving task says that a handshake took too long as a call of the handshake comes to a
timeout. -/
theorem late_of_drive? (h : s.drive? i d = some (t, more)) {e : Event} (he : e ∈ more)
    (late : e.isLate = true) : ∃ c, Expires s i d c e := by
  obtain ⟨c, hc, step⟩ := State.drive?_stepped h
  have absurdly {events : List Event} (timely : Timely events) (he : e ∈ events) :
      ∃ c, Expires s i d c e := by
    rw [timely e he] at late
    cases late
  have polled {j : Nat} {call : Call} {u : State} {put : List Event} {progress : Transport.Progress}
      (poll : s.poll? j (.driver i) d call = some (u, put, progress)) :
      Timely put ∧ u.peer i = s.peer i ∧ u.settings = s.settings := by
    obtain ⟨link, b, p, -, -, -, rfl, rfl, -⟩ := State.poll?_eq_some poll
    exact ⟨timely_putEvents j _ _, peer_modifyLine s j i fun _ => rfl, rfl⟩
  cases step with
  | opened stage next => exact absurdly (timely_begin _ i _ _ _) (next ▸ he)
  | waited under poll | displaced stage poll | closed stage poll => exact absurdly (polled poll).1 he
  | @wrote purpose frame call u put answer r stage poll next =>
    subst next
    obtain ⟨quiet, peer, same⟩ := polled poll
    rcases List.mem_append.1 he with he | he
    · exact absurdly quiet he
    rcases List.mem_cons.1 he with rfl | he
    · cases late
    obtain ⟨t, failed, exchanging, timeout, said⟩ := late_of_afterWrite he late
    cases answer with
    | ok reply => cases failed
    | error f =>
      cases failed
      rw [peer, same] at said
      exact ⟨c, hc, stage ▸ exchanging,
        ⟨⟨i, call, some frame⟩, u, put, t, by rw [stage]; rfl, poll, timeout⟩, said⟩
  | @got w call u put answer r stage poll next =>
    subst next
    obtain ⟨quiet, peer, same⟩ := polled poll
    rcases List.mem_append.1 he with he | he
    · exact absurdly quiet he
    obtain ⟨t, rfl, exchanging, timeout, said⟩ := late_of_afterRead he late
    rw [peer, same] at said
    exact ⟨c, hc, stage ▸ exchanging,
      ⟨⟨i, call, none⟩, u, put, t, by rw [stage]; rfl, poll, timeout⟩, said⟩
  | decided stage next => exact absurdly (timely_decide s i c _) (next ▸ he)
  | registered stage next => exact absurdly (timely_register s i c _) (next ▸ he)
  | launched stage => cases he
  | deregistered stage | notified stage => exact absurdly (by simp [Event.isLate]) he
  | joined stage told =>
    refine absurdly ?_ he
    rcases told with ⟨-, rfl⟩ | ⟨-, rfl⟩ <;> simp [Event.isLate]

lemma Sent.timely {who : Actor} {x : Sending} {result : Sending ⊕ Except Failure UInt32}
    (h : Sent s who x t more result) : Timely more := by
  cases h <;> simp [Event.isLate]

lemma timely_settle (s : State) (i : Nat) (switch : Switch.Reference) (effect : Harness.Effect) :
    Timely (s.settle i switch effect).2 := by
  have said : Timely ((effect.notices.map fun n => Event.notice (.harness n)) ++
      if effect.stop then [.stopRequested] else []) := by
    refine timely_append.2 ⟨fun e he => ?_, by split <;> simp [Event.isLate]⟩
    obtain ⟨n, -, rfl⟩ := List.mem_map.1 he
    rfl
  unfold State.settle
  dsimp only
  split
  · exact timely_append.2 ⟨said, by simp [Event.isLate]⟩
  · exact said

lemma Handled.timely (h : Handled s i c t more) : Timely more := by
  cases h with
  | called | observed | attempted | completed => simp [Event.isLate]
  | sent was step | delivered was step => exact step.timely
  | aborted was step => exact timely_append.2 ⟨step.timely, by simp [Event.isLate]⟩
  | settled was handler settle => exact timely_settle s i _ _

lemma Answered.timely {k : Nat} {caller : Caller} (h : Answered s k caller t more) :
    Timely more := by
  cases h with
  | sent step | delivered step | failed step => exact step.timely
  | waited | closed => exact timely_putEvents _ _ _

lemma timely_accept? (h : s.accept? d = some (t, more)) : Timely more := by
  cases accept?_admitted h with
  | waits | resumes | leaves | ends => exact timely_nil
  | takes acceptor calm backlog =>
    unfold State.acceptFirst
    rw [backlog]
    simp [Event.isLate]
  | fails => simp [Event.isLate]

/-- Nobody but a driving task says that a handshake took too long. -/
lemma driver_of_late {a : Action} (h : s.step? a = some (t, more)) {e : Event} (he : e ∈ more)
    (late : e.isLate = true) : ∃ i d, a = .run (.driver i) d := by
  have absurdly (timely : Timely more) : ∃ i d, a = .run (.driver i) d := by
    rw [timely e he] at late
    cases late
  cases State.step?_moved h with
  | drove hc step => exact ⟨_, _, rfl⟩
  | told hc step => exact absurdly step.timely
  | answered call step => exact absurdly step.timely
  | accepted acceptor backlog => exact absurdly (timely_accept? h)
  | called | connected => exact absurdly timely_nil
  | aside world task silent quiet =>
    rcases task with task | task
    · obtain ⟨-, -, rfl⟩ := State.step?_silent h task
      exact absurdly timely_nil
    · cases a with
      | run who d =>
        cases task
        exact absurdly (timely_accept? h)
      | _ => cases task

/-- **A call of a handshake comes to a timeout** only once the time of the handshake has passed since
its task opened it, unless the system says so of the call. -/
theorem time_of_expires
    (run : (State.start settings handler capacity).steps? actions = some (s, events)) {e : Event}
    (expires : Expires s i d c e) :
    (∃ call, d = .fail call .timedOut) ∨
      Once (State.start settings handler capacity) actions fun u a _ =>
        Opens i u a ∧ u.now + settings.handshakeTimeout ≤ s.now := by
  obtain ⟨job, u, put, t, under, poll, timeout⟩ := expires.call
  refine (cause_of_poll? poll timeout).symm.imp_right fun expired => ?_
  have opened : c.stage ≠ .opening := fun stage => by
    rw [stage] at under
    cases under
  rw [limits_of_exchanging run expires.connection expires.exchanging under] at expired
  have passed : c.handshakeDeadline ≤ s.now := of_decide_eq_true expired
  exact (opened_of_exchanging run expires.connection expires.exchanging opened).mono
    fun u a _ ⟨opens, deadline⟩ => ⟨opens, deadline ▸ passed⟩

end Handshakes

/-! ### What a running controller reports as a timeout -/

section Reports

/-- **What it means that a controller reports a timeout** in a run. -/
structure TimeoutsExplained (settings : Settings) (s₀ : State) (actions : List Action)
    (events : List Event) : Prop where
  operations : Transport.Punctual Actor
  /-- A burst aborts for a timeout where the system says that a write timed out, or where the time of
  a send has passed since the task began to write. -/
  bursts : ∀ i result f, .burstEnded i result ∈ events → result.cause = some f →
    f.kind = .timeout → Shown s₀ actions (.burstEnded i result) fun first s a =>
      (∃ c, a = .run (.handler i) (.fail c .timedOut)) ∨
        ∃ limit, settings.sendTimeout = some limit ∧ Once s₀ first fun u b rest =>
          Began (.handler i) s u b rest ∧ u.now + limit ≤ s.now
  /-- A burst whose write the system failed aborts for a lost connection, a timeout or a failed write,
  as the error says. -/
  failed : ∀ i result f operation e, .burstEnded i result ∈ events → result.cause = some f →
    f.cause = .switch (.transport (.system operation e)) →
      f.kind = if e.kind.category = .closed then .disconnected
        else if e = .timedOut then .timeout else .write
  /-- A handshake is said to have taken too long where the system says that a call of it timed out,
  or where its time has passed since its task opened it. -/
  handshakes : ∀ peer told limit,
    .notice (.handshakeFailed peer (.handshakeTimeout told limit)) ∈ events →
      told = peer.text ∧ limit = settings.handshakeTimeout ∧
        Shown s₀ actions (.notice (.handshakeFailed peer (.handshakeTimeout told limit)))
          fun first s a => ∃ i, s.peer i = peer ∧
            ((∃ c, a = .run (.driver i) (.fail c .timedOut)) ∨ Once s₀ first fun u b _ =>
              Opens i u b ∧ u.now + settings.handshakeTimeout ≤ s.now)

variable {settings : Settings} {handler : Handler} {capacity : Nat} {actions : List Action}
  {s t : State} {events more : List Event} {a : Action}

/-- A step in which a burst ends, and why it aborts. -/
lemma burst_of_step
    (run : (State.start settings handler capacity).steps? actions = some (s, events))
    (step : s.step? a = some (t, more)) {i : Nat} {result : Burst.Result Switch.Reference}
    {f : Burst.Failure} (ended : .burstEnded i result ∈ more) (cause : result.cause = some f) :
    (f.kind = .timeout → (∃ c, a = .run (.handler i) (.fail c .timedOut)) ∨
        ∃ limit, settings.sendTimeout = some limit ∧
          Once (State.start settings handler capacity) actions fun u b rest =>
            Began (.handler i) s u b rest ∧ u.now + limit ≤ s.now) ∧
      ∃ g, f = .ofSwitch g := by
  obtain ⟨d, rfl⟩ := handler_of_burstEnded step ended
  refine ⟨fun timeout => ?_, ?_⟩
  · refine (timeout_of_burst run step ended cause timeout).imp_left ?_
    rintro ⟨c, rfl⟩
    exact ⟨c, rfl⟩
  · obtain ⟨x, u, seen, g, -, -, e⟩ := failure_of_burstEnded step ended cause
    exact ⟨g, e⟩

/-- A step in which a handshake is said to have taken too long, and why. -/
lemma handshake_of_step
    (run : (State.start settings handler capacity).steps? actions = some (s, events))
    (step : s.step? a = some (t, more)) {peer : Transport.Address} {told : String} {limit : Nat}
    (said : .notice (.handshakeFailed peer (.handshakeTimeout told limit)) ∈ more) :
    (told = peer.text ∧ limit = settings.handshakeTimeout) ∧
      ∃ i, s.peer i = peer ∧ ((∃ c, a = .run (.driver i) (.fail c .timedOut)) ∨
        Once (State.start settings handler capacity) actions fun u b _ =>
          Opens i u b ∧ u.now + settings.handshakeTimeout ≤ s.now) := by
  obtain ⟨i, d, rfl⟩ := driver_of_late step said rfl
  obtain ⟨c, expires⟩ := late_of_drive? step said rfl
  obtain ⟨rfl, rfl, rfl⟩ : peer = s.peer i ∧ told = (s.peer i).text ∧
      limit = s.settings.handshakeTimeout := by simpa using expires.said
  refine ⟨⟨rfl, congrArg _ (settings_of_steps? run)⟩, i, rfl, ?_⟩
  refine (time_of_expires run expires).imp_left ?_
  rintro ⟨call, rfl⟩
  exact ⟨call, rfl⟩

/-- **Every timeout that is reported is explained** by a limit of time that has passed, or by an
error of the system. -/
theorem timeouts_explained
    (run : (State.start settings handler capacity).steps? actions = some (s, events)) :
    TimeoutsExplained settings (State.start settings handler capacity) actions events where
  operations := Transport.punctual Actor
  bursts i result f ended cause timeout := shown_of_mem run ended fun before step ended =>
    (burst_of_step before step ended cause).1 timeout
  failed i result f operation e ended cause given := by
    have at_step : Shown (State.start settings handler capacity) actions (.burstEnded i result)
        fun _ _ _ => ∃ g, f = .ofSwitch g :=
      shown_of_mem run ended fun before step ended => (burst_of_step before step ended cause).2
    obtain ⟨first, a, rest, u, before, v, new, -, earlier, step, shown, g, rfl⟩ := at_step
    cases given
    exact kindOf_system operation e
  handshakes peer told limit said := by
    have at_step := shown_of_mem run said fun before step said => handshake_of_step before step said
    obtain ⟨first, a, rest, u, before, v, new, e, earlier, step, shown, named, late⟩ := at_step
    exact ⟨named.1, named.2, first, a, rest, u, before, v, new, e, earlier, step, shown, late⟩

/-- A switch connects and is not heard of for as long as a handshake may take. -/
def slowArrival : List Action :=
  [.connect (.loopback 6653), .go .acceptor, .go (.driver 0), .elapse 5000, .go (.driver 0)]

theorem timeouts_explained_slowArrival : ∃ s events,
    (State.start {} (.observer []) 64).steps? slowArrival = some (s, events) ∧
      events.any Event.isLate = true ∧
      TimeoutsExplained {} (State.start {} (.observer []) 64) slowArrival events := by
  obtain ⟨⟨s, events⟩, run⟩ := Option.isSome_iff_exists.1
    (show ((State.start {} (.observer []) 64).steps? slowArrival).isSome = true by decide +kernel)
  have late : ((State.start {} (.observer []) 64).steps? slowArrival).any
      (fun r => r.2.any Event.isLate) = true := by decide +kernel
  rw [run, Option.any_some] at late
  exact ⟨s, events, run, late, timeouts_explained run⟩

/-- A switch arrives, and the system fails the first write of its burst with a timeout. -/
def silentSwitch : List Action :=
  arrival 0 7 ++ List.replicate 4 (Action.go (.handler 0)) ++
    [Action.run (.handler 0) (.fail .write .timedOut)]

/-- A switch connects, and the system fails the first write of its handshake with a timeout. -/
def silentArrival : List Action :=
  [.connect (.loopback 6653), .go .acceptor, .go (.driver 0),
    .run (.driver 0) (.fail .write .timedOut)]

/-- **Timeouts with no time gone by**: a burst whose sends have no limit of time aborts for a timeout,
and a handshake of five seconds is said to have taken too long, each at the moment that it began. -/
theorem timeouts_undue :
    (∃ s events result f, (State.start {} (.harness { request := { count := 3 } }) 64).steps?
        silentSwitch = some (s, events) ∧ s.settings.sendTimeout = none ∧ s.now = 0 ∧
      .burstEnded 0 result ∈ events ∧ result.cause = some f ∧ f.kind = .timeout) ∧
    ∃ s events, (State.start {} (.observer []) 64).steps? silentArrival = some (s, events) ∧
      s.settings.handshakeTimeout = 5000 ∧ s.now = 0 ∧ events.any Event.isLate = true := by
  constructor
  · obtain ⟨⟨s, events⟩, run⟩ := Option.isSome_iff_exists.1
      (show ((State.start {} (.harness { request := { count := 3 } }) 64).steps?
        silentSwitch).isSome = true by decide +kernel)
    have aborts : ((State.start {} (.harness { request := { count := 3 } }) 64).steps?
        silentSwitch).any (fun r => decide (r.1.settings.sendTimeout = none ∧ r.1.now = 0) &&
          (Event.burstsEnded r.2).any fun e =>
            decide (e.1 = 0) && e.2.cause.any fun f => decide (f.kind = .timeout)) = true := by
      decide +kernel
    rw [run, Option.any_some, Bool.and_eq_true] at aborts
    obtain ⟨unlimited, aborts⟩ := aborts
    obtain ⟨unlimited, start⟩ := of_decide_eq_true unlimited
    obtain ⟨⟨i, result⟩, member, aborted⟩ := List.any_eq_true.1 aborts
    rw [Bool.and_eq_true] at aborted
    obtain rfl : i = 0 := of_decide_eq_true aborted.1
    obtain ⟨f, cause, kind⟩ := (Option.any_eq_true _ _).1 aborted.2
    exact ⟨s, events, result, f, run, unlimited, start, Event.mem_burstsEnded.1 member, cause,
      of_decide_eq_true kind⟩
  · obtain ⟨⟨s, events⟩, run⟩ := Option.isSome_iff_exists.1
      (show ((State.start {} (.observer []) 64).steps? silentArrival).isSome = true by
        decide +kernel)
    have late : ((State.start {} (.observer []) 64).steps? silentArrival).any (fun r =>
        decide (r.1.settings.handshakeTimeout = 5000 ∧ r.1.now = 0) && r.2.any Event.isLate) =
          true := by decide +kernel
    rw [run, Option.any_some, Bool.and_eq_true] at late
    obtain ⟨limit, start⟩ := of_decide_eq_true late.1
    exact ⟨s, events, run, limit, start, late.2⟩

end Reports

end FlowBurst.Controller
