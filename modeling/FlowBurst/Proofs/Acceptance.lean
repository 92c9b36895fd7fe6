import FlowBurst.Proofs.Handlers
import FlowBurst.Proofs.Independence
import FlowBurst.Proofs.Intake
import FlowBurst.Proofs.Succession

/-!
# Accepting goes on

The accepting task takes one connection after another until the controller is asked to stop. When
accepting fails, because there was nobody to accept after all, or the address of a connection could
not be looked up, or an option of its socket not be set, the task pauses and tries again: no such
failure is taken for a request to stop, and none is felt by the connections there are. Connections
are numbered from one on as they are accepted, and a controller that was asked to stop waits for all
of them.

Main statements: `serves_attempts`, by which the accepting task gets through whatever attempts come,
and `accepting_unfailing`.
-/

namespace FlowBurst.Controller

open Event (acceptedLines AcceptedBefore)
open FlowBurst.Transport (Address Disposition Failure IoError Moment Operation OsError
  SystemCall pollAccept?)

/-! ### Failures -/

lemma pauseAfter_pos (f : Failure) : 0 < pauseAfter f ∧ pauseAfter f ≤ acceptPause := by
  obtain ⟨operation, cause⟩ := f
  cases cause with
  | cancelled | deadline => exact ⟨(by decide : 0 < acceptPause), Nat.le_refl _⟩
  | io e =>
    unfold pauseAfter Failure.category
    dsimp only
    cases e.kind <;> decide

/-- Only the accepting task changes how far it has come, and a request to stop is not taken back. -/
lemma acceptor_of_step? {s t : State} {a : Action} {events : List Event}
    (h : s.step? a = some (t, events)) :
    (s.stopping = true → t.stopping = true) ∧
      (t.acceptor = s.acceptor ∨ ∃ d, a = .run .acceptor d ∧ Admitted s d t events) := by
  cases State.step?_moved h with
  | drove hc step => exact ⟨step.surrounded.stopping, .inl step.surrounded.acceptor⟩
  | told hc step => exact ⟨step.surrounded.stopping, .inl step.surrounded.acceptor⟩
  | answered call step => exact ⟨step.surrounded.stopping, .inl step.surrounded.acceptor⟩
  | @accepted d i rest started acceptor backlog =>
    refine ⟨fun stopping => ?_, .inr ⟨d, rfl, accept?_admitted h⟩⟩
    unfold State.acceptFirst
    rw [backlog]
    exact stopping
  | called call =>
    obtain ⟨caller, rfl, -⟩ := State.call?_eq_some call
    exact ⟨id, .inl rfl⟩
  | connected going => exact ⟨id, .inl rfl⟩
  | aside world task silent quiet =>
    refine ⟨world.stopping, ?_⟩
    rcases task with none_ | own
    · exact .inl (State.step?_silent h none_).2.1
    · obtain ⟨d, rfl⟩ := Action.eq_run_of_task? own
      exact .inr ⟨d, rfl, accept?_admitted h⟩

/-! ### What a failure leaves alone -/

/-- What stays as it is when accepting fails. -/
structure Spared (s t : State) : Prop where
  /-- Only the accepting task itself, the backlog and the lines may be touched, -/
  rest : { t with acceptor := s.acceptor, backlog := s.backlog, lines := s.lines } = s
  /-- no connection comes or changes, -/
  connection : ∀ j, t.connection? j = s.connection? j
  /-- and a line that has a connection stays what it is, with its link and all that is under way. -/
  line : ∀ j c, s.connection? j = some c → t.lines[j]? = s.lines[j]?

lemma State.Orderly.spared {s : State} (orderly : s.Orderly) (lost : Bool) (acceptor : Acceptor) :
    Spared s { (if lost then s.loseFirst else s) with acceptor } := by
  cases lost with
  | false => exact ⟨rfl, fun _ => rfl, fun _ _ _ => rfl⟩
  | true =>
    rw [if_pos rfl]
    cases backlog : s.backlog with
    | nil =>
      rw [loseFirst_of_nil backlog]
      exact ⟨rfl, fun _ => rfl, fun _ _ _ => rfl⟩
    | cons i rest =>
      rw [loseFirst_of_waiting backlog]
      refine ⟨rfl, fun j => s.connection?_modifyLink i j _, fun j c hc => ?_⟩
      -- whoever waits in the backlog has no connection yet
      obtain ⟨-, unaccepted⟩ := orderly.waiting i (by simp [backlog])
      refine List.getElem?_modify_ne _ _ ?_
      rintro rfl
      rw [unaccepted] at hc
      cases hc

/-! ### Attempts -/

/-- What may come of an attempt to accept. -/
inductive Attempt
  /-- A switch connects and is accepted. -/
  | connects (peer : Address)
  /-- Accepting fails while nobody waits. -/
  | fails (e : OsError)
  /-- A switch connects, and its address cannot be looked up or an option of its socket not set. -/
  | loses (peer : Address) (call : SystemCall) (e : OsError)
      (losing : call ∈ [SystemCall.localAddress, .setNoDelay, .setLinger])

/-- Whether a connection comes of an attempt. -/
def Attempt.succeeds : Attempt → Bool
  | connects _ => true
  | fails _ | loses _ _ _ _ => false

/-- The actions of an attempt, to the point at which the next one can be made. -/
def Attempt.actions : Attempt → List Action
  | connects peer => [.connect peer, .go .acceptor]
  | fails e => [.run .acceptor (.fail .accept e), .elapse acceptPause, .go .acceptor]
  | loses peer call e _ =>
    [.connect peer, .run .acceptor (.fail call e), .elapse acceptPause, .go .acceptor]

/-- The accepting task is about to accept, and nobody waits. -/
structure Ready (s : State) : Prop where
  acceptor : ∃ started, s.acceptor = .accepting started
  calm : s.stopping = false
  backlog : s.backlog = []

section Attempt

variable {s : State} {n : Nat}

lemma steps?_cons {t u : State} {a : Action} {actions : List Action} {first rest : List Event}
    (step : s.step? a = some (u, first)) (run : u.steps? actions = some (t, rest)) :
    s.steps? (a :: actions) = some (t, first ++ rest) := by
  simp [State.steps?, step, run]

lemma accept?_of_waiting {started : Bool} {i : Nat} {rest : List Nat}
    (acceptor : s.acceptor = .accepting started) (calm : s.stopping = false)
    (backlog : s.backlog = i :: rest) : s.accept? (.proceed n) = some s.acceptFirst := by
  unfold State.accept?
  rw [acceptor, backlog]
  dsimp only
  unfold pollAccept?
  rw [Transport.Limits.going_of_calm (m := s.moment) _ calm]
  rfl

lemma accept?_of_rested {till : Nat} (acceptor : s.acceptor = .resting till)
    (calm : s.stopping = false) (past : till ≤ s.now) :
    s.accept? (.proceed n) = some ({ s with acceptor := .accepting false }, []) := by
  unfold State.accept?
  rw [acceptor]
  simp [calm, past, Disposition.unlessFailing]

lemma accept?_of_stopping (going : s.acceptor.isOpen = true) (stopping : s.stopping = true) :
    s.accept? (.proceed n) = some ({ s with acceptor := .joining }, []) := by
  unfold State.accept?
  cases acceptor : s.acceptor with
  | accepting started =>
    dsimp only
    rw [pollAccept?_stopping (m := s.moment) stopping]
    rfl
  | resting till => simp [stopping, Disposition.unlessFailing]
  | joining | stopped =>
    rw [acceptor] at going
    cases going

/-- The effect of a failure that is no request to stop. -/
lemma accept?_of_failed {started lost : Bool} {d : Disposition} {f : Failure}
    (acceptor : s.acceptor = .accepting started) (uncancelled : f.isCancelled = false)
    (polled : pollAccept? s.moment {} started (!s.backlog.isEmpty) d = some (.failed f lost)) :
    s.accept? d = some ({ (if lost then s.loseFirst else s) with
      acceptor := .resting ((if lost then s.loseFirst else s).now + pauseAfter f) },
      [.notice (.acceptFailed f)]) := by
  unfold State.accept?
  rw [acceptor]
  dsimp only
  rw [polled]
  dsimp only [bind, Option.bind_some]
  rw [uncancelled]
  rfl

/-- When a pause is over there can be another attempt. -/
lemma Ready.of_rested {till : Nat} (acceptor : s.acceptor = .resting till)
    (calm : s.stopping = false) (backlog : s.backlog = []) (soon : till ≤ s.now + acceptPause) :
    ∃ t, s.steps? [.elapse acceptPause, .go .acceptor] = some (t, []) ∧ Ready t ∧
      t.accepted = s.accepted := by
  have resumes := accept?_of_rested (s := { s with now := s.now + acceptPause }) (n := readChunk)
    acceptor calm soon
  refine ⟨{ s with now := s.now + acceptPause, acceptor := .accepting false }, ?_,
    ⟨⟨false, rfl⟩, calm, backlog⟩, rfl⟩
  simp [State.steps?, State.step?, Action.go, State.run?, resumes]

/-- A switch can connect as long as the accepting task goes on, and then it waits alone. -/
lemma Ready.connect (ready : Ready s) (peer : Address) :
    ∃ u, s.step? (.connect peer) = some (u, []) ∧ u.acceptor = s.acceptor ∧ u.stopping = false ∧
      u.accepted = s.accepted ∧ u.backlog = [s.lines.length] := by
  obtain ⟨started, acceptor⟩ := ready.acceptor
  have going : s.acceptor ≠ .stopped := by simp [acceptor]
  refine ⟨_, if_neg going, rfl, ready.calm, rfl, ?_⟩
  simp [ready.backlog]

/-- **After an attempt to accept the next one can be made**, whether a connection came of it or not.
-/
theorem Ready.attempt (ready : Ready s) (a : Attempt) :
    ∃ t more, s.steps? a.actions = some (t, more) ∧ Ready t ∧
      t.accepted = s.accepted + if a.succeeds then 1 else 0 := by
  obtain ⟨started, acceptor⟩ := ready.acceptor
  cases a with
  | connects peer =>
    obtain ⟨u, connect, same, calm, accepted, backlog⟩ := ready.connect peer
    have takes : u.step? (.go .acceptor) = some u.acceptFirst :=
      accept?_of_waiting (same.trans acceptor) calm backlog
    refine ⟨u.acceptFirst.1, _, steps?_cons connect (steps?_cons takes rfl), ⟨⟨false, ?_⟩, ?_, ?_⟩, ?_⟩
    all_goals
      unfold State.acceptFirst
      rw [backlog]
    · exact calm
    · rw [← accepted]
      rfl
  | fails e =>
    have polled : pollAccept? s.moment {} started (!s.backlog.isEmpty) (.fail .accept e) =
        some (.failed (.system .accept e) false) := by
      unfold pollAccept?
      rw [Transport.Limits.going_of_calm (m := s.moment) _ ready.calm]
    have fails := accept?_of_failed acceptor (isCancelled_of_io _ _) polled
    obtain ⟨t, rested, after, accepted⟩ := Ready.of_rested
      (s := { s with acceptor := .resting (s.now + pauseAfter (.system .accept e)) }) rfl
      ready.calm ready.backlog (Nat.add_le_add_left (pauseAfter_pos _).2 _)
    exact ⟨t, _, steps?_cons fails rested, after, accepted⟩
  | loses peer call e losing =>
    obtain ⟨u, connect, same, calm, accepted, backlog⟩ := ready.connect peer
    obtain ⟨operation, polled⟩ : ∃ operation,
        pollAccept? u.moment {} started (!u.backlog.isEmpty) (.fail call e) =
          some (.failed (.system operation e) true) := by
      unfold pollAccept?
      rw [Transport.Limits.going_of_calm (m := u.moment) _ calm, backlog]
      simp only [List.mem_cons, List.not_mem_nil, or_false] at losing
      rcases losing with rfl | rfl | rfl <;> exact ⟨_, rfl⟩
    have fails := accept?_of_failed (same.trans acceptor) (isCancelled_of_io _ _) polled
    rw [if_pos rfl, loseFirst_of_waiting backlog] at fails
    obtain ⟨t, rested, after, counted⟩ := Ready.of_rested
      (s := { u.modifyLine s.lines.length fun l => { l with link := l.link.close .server } with
        backlog := [], acceptor := .resting (u.now + pauseAfter (.system operation e)) })
      rfl calm rfl (Nat.add_le_add_left (pauseAfter_pos _).2 _)
    exact ⟨t, _, steps?_cons connect (steps?_cons fails rested), after, counted.trans accepted⟩

/-- **The accepting task gets through whatever attempts come**, and counts those of which a
connection came. -/
theorem serves_attempts (attempts : List Attempt) : ∀ {s : State}, Ready s →
    ∃ t more, s.steps? (attempts.flatMap Attempt.actions) = some (t, more) ∧ Ready t ∧
      t.accepted = s.accepted + attempts.countP Attempt.succeeds := by
  induction attempts with
  | nil =>
    intro s ready
    exact ⟨s, [], rfl, ready, rfl⟩
  | cons a attempts ih =>
    intro s ready
    obtain ⟨u, first, attempt, between, counted⟩ := ready.attempt a
    obtain ⟨t, rest, run, after, total⟩ := ih between
    refine ⟨t, first ++ rest, ?_, after, ?_⟩
    · rw [List.flatMap_cons]
      exact State.steps?_trans attempt run
    · rw [total, counted, List.countP_cons]
      omega

end Attempt

/-! ### Numbers -/

/-- A step that lets the world see that a connection is accepted is that of accepting it. -/
lemma Stir.accepted {s t : State} {more : List Event} (stir : Stir s t more) {i : Nat} {n : UInt64}
    (he : .accepted i n ∈ more) :
    registrations more = [.accepted i n] ∧ n = (s.accepted + 1).toUInt64 := by
  obtain ⟨j, switch, e | e⟩ | ⟨single, displayed⟩ := stir.displayed he rfl
  · cases e
  · cases e
  · cases displayed with
    | accepted => exact ⟨single, rfl⟩

/-- How the connections of a run are numbered. -/
structure InTurn (s : State) (events : List Event) : Prop where
  /-- The connection that is accepted as the `p + 1`st bears that number, -/
  number : ∀ p i, (acceptedLines events)[p]? = some i →
    ∃ c, s.connection? i = some c ∧ c.session.connection = (p + 1).toUInt64
  /-- which is the number that the world sees. -/
  shown : ∀ i n, .accepted i n ∈ events →
    ∃ c, s.connection? i = some c ∧ c.session.connection = n
  /-- There are no other connections, and no number is left out. -/
  place : ∀ i c, s.connection? i = some c → i ∈ acceptedLines events
  count : (acceptedLines events).length = s.accepted
  /-- As long as the numbers do not start over, different connections have different ones, -/
  unique : s.accepted < 2 ^ 64 → ∀ i j c c', s.connection? i = some c → s.connection? j = some c' →
    c.session.connection = c'.session.connection → i = j
  /-- and they say which connection was accepted earlier. -/
  order : s.accepted < 2 ^ 64 → ∀ i j c c', s.connection? i = some c → s.connection? j = some c' →
    (c.session.connection < c'.session.connection ↔ AcceptedBefore i j events)

section Run

variable {s : State} {events : List Event} {settings : Settings} {handler : Handler} {capacity : Nat}
  {actions : List Action}
  (run : (State.start settings handler capacity).steps? actions = some (s, events))
include run

lemma number_of_place {p i : Nat} (hp : (acceptedLines events)[p]? = some i) :
    ∃ c, s.connection? i = some c ∧ c.session.connection = (p + 1).toUInt64 := by
  obtain ⟨session, stage, standing, number⟩ := (ranked_of_steps? run).number p i hp
  obtain ⟨c, hc, rfl, -⟩ := connection?_of_standing? standing
  exact ⟨c, hc, number⟩

lemma number_of_accepted {i : Nat} {n : UInt64} (shown : .accepted i n ∈ events) :
    ∃ c, s.connection? i = some c ∧ c.session.connection = n := by
  obtain ⟨first, rest, rfl⟩ := List.append_of_mem shown
  obtain ⟨_, u, before, _, _, new, after, later, before_run, step, rfl, rfl⟩ :=
    State.step_of_event run
  obtain ⟨single, rfl⟩ := (step?_stir (orderly_of_run before_run) step).accepted
    (List.mem_append_right new (List.mem_cons_self ..))
  -- all that were accepted before stand before it in the order
  have silent : acceptedLines new = [] := by
    rw [← Event.acceptedLines_registrations,
      show registrations new = [] from State.filter_before rfl single]
    rfl
  refine number_of_place run ?_
  rw [Event.acceptedLines_append, Event.acceptedLines_append, silent, List.append_nil,
    ← (ranked_of_steps? before_run).count, List.getElem?_append_right (Nat.le_refl _), Nat.sub_self]
  rfl

theorem inTurn_of_steps? : InTurn s events := by
  have ranked := ranked_of_steps? run
  have standing {i : Nat} {c : Connection} (hc : s.connection? i = some c) :
      s.standing? i = some (c.session, c.stage) :=
    standing?_of_core? (State.core?_of_connection? hc)
  refine ⟨fun p i => number_of_place run, fun i n => number_of_accepted run, fun i c hc => ?_,
    ranked.count, fun few i j c c' hi hj same => ?_, fun few i j c c' hi hj => ?_⟩
  · obtain ⟨p, hp⟩ := ranked.place i _ (standing hc)
    exact List.mem_of_getElem? hp
  · exact (standing_of_steps? run).numbered.distinct (Nat.le_of_lt few) (standing hi) (standing hj)
      same
  · exact ranked.lt_iff few (standing hi) (standing hj)

end Run

/-! ### The accepting task over a run -/

/-- What holds of the accepting task at any time of a run. -/
structure Unfailing (s : State) (events : List Event) : Prop where
  /-- It has left its loop only if there was a request to stop, -/
  going : s.stopping = false → s.acceptor.isOpen = true
  /-- it leaves in a step in which nothing fails, -/
  leaves : ∀ d t more, s.step? (.run .acceptor d) = some (t, more) → s.acceptor.isOpen = true →
    t.acceptor.isOpen = false → s.stopping = true ∧ ∃ n, d = .proceed n
  /-- and a request to stop ends it at its next step, in a pause as well. -/
  stops : s.stopping = true → s.acceptor.isOpen = true →
    s.step? (.go .acceptor) = some ({ s with acceptor := .joining }, [])
  /-- A failure costs a pause, perhaps a connection that nobody had accepted, and nothing else. -/
  fails : ∀ call e t more, s.step? (.run .acceptor (.fail call e)) = some (t, more) →
    Spared s t ∧ ∃ operation till, more = [.notice (.acceptFailed (.system operation e))] ∧
      t.acceptor = .resting till ∧ s.now < till ∧ till ≤ s.now + acceptPause
  /-- No error whatever is taken for a request to stop. -/
  errors : ∀ operation e, (Failure.mk operation (.io e)).isCancelled = false
  /-- Whatever comes of the next attempts, they can be made, and those that succeed are counted. -/
  serves : Ready s → ∀ attempts : List Attempt,
    ∃ t more, s.steps? (attempts.flatMap Attempt.actions) = some (t, more) ∧ Ready t ∧
      t.accepted = s.accepted + attempts.countP Attempt.succeeds
  numbers : InTurn s events
  /-- When the controller is done all connections have ended, and so has what the handler was told
  of them. -/
  ended : s.acceptor = .stopped → ∀ i c, s.connection? i = some c →
    c.stage = .ended ∧ c.news.isOver = true

section Unfailing

variable {s t : State} {d : Disposition} {events : List Event}

/-- The accepting task leaves its loop only on a request to stop. -/
lemma Admitted.open_of_calm (step : Admitted s d t events) (calm : s.stopping = false)
    (going : s.acceptor.isOpen = true) : t.acceptor.isOpen = true := by
  cases step with
  | waits | fails | resumes => rfl
  | takes acceptor calm backlog =>
    unfold State.acceptFirst
    rw [backlog]
    rfl
  | leaves going stopping =>
    rw [calm] at stopping
    cases stopping
  | ends acceptor done =>
    rw [acceptor] at going
    cases going

/-- A step at which something fails leaves the connections alone, and a pause follows. -/
lemma Admitted.spared {call : SystemCall} {e : OsError} (orderly : s.Orderly)
    (step : Admitted s (.fail call e) t events) :
    Spared s t ∧ ∃ operation till, events = [.notice (.acceptFailed (.system operation e))] ∧
      t.acceptor = .resting till ∧ s.now < till ∧ till ≤ s.now + acceptPause := by
  cases step with
  | @fails _ _ operation started lost acceptor calm =>
    obtain ⟨some_, short⟩ := pauseAfter_pos (.system operation e)
    exact ⟨orderly.spared lost _, operation, _, rfl, rfl, by omega, by omega⟩

variable {settings : Settings} {handler : Handler} {capacity : Nat} {actions : List Action}
  (run : (State.start settings handler capacity).steps? actions = some (s, events))
include run

lemma open_of_steps? : s.stopping = false → s.acceptor.isOpen = true := by
  refine State.run_induction (P := fun _ s _ => s.stopping = false → s.acceptor.isOpen = true)
    (fun _ => rfl) ?_ run
  intro actions s before a t after before_run going step calm
  obtain ⟨kept, same | ⟨d, rfl, admitted⟩⟩ := acceptor_of_step? step
  all_goals
    have before_calm : s.stopping = false := by
      by_contra stopping
      rw [kept (by simpa using stopping)] at calm
      cases calm
  · rw [same]
    exact going before_calm
  · exact admitted.open_of_calm before_calm (going before_calm)

/-- **Accepting goes on until the controller is asked to stop**, whatever fails and at whatever
moment that request comes; connections are numbered in the order in which they are accepted; and in
the end the controller waits for every one of them. -/
theorem accepting_unfailing : Unfailing s events := by
  have orderly := orderly_of_run run
  constructor
  case going => exact open_of_steps? run
  case leaves =>
    intro d t more step going left
    have admitted := accept?_admitted step
    have stopping : s.stopping = true := by
      by_contra calm
      rw [admitted.open_of_calm (by simpa using calm) going] at left
      cases left
    cases admitted with
    | leaves | ends => exact ⟨stopping, _, rfl⟩
    | waits | takes | resumes => exact ⟨stopping, _, rfl⟩
    | fails => cases left
  case stops => exact fun stopping going => accept?_of_stopping going stopping
  case fails => exact fun call e t more step => (accept?_admitted step).spared orderly
  case errors => exact isCancelled_of_io
  case serves => exact fun ready attempts => serves_attempts attempts ready
  case numbers => exact inTurn_of_steps? run
  case ended =>
    intro stopped i c hc
    have core := State.core?_of_connection? hc
    refine ⟨over_of_steps? run stopped i _ _ (standing?_of_core? core), ?_⟩
    have returned := over_of_stopped run stopped i
    rwa [State.newsOf_of_core? core] at returned

end Unfailing

/-- Of three switches the second is lost as it is accepted; then there are too many open files, and
the controller is asked to stop while it pauses over that. -/
def troubled : List Action :=
  ([.connects (.loopback 6653), .loses (.loopback 6654) .setNoDelay .invalidArgument (by decide),
    .connects (.loopback 6655)] : List Attempt).flatMap Attempt.actions ++
    ([.run .acceptor (.fail .accept .tooManyFiles), .stop, .go .acceptor] : List Action) ++
    (List.replicate 3 (.go (.driver 0)) : List Action) ++
    (List.replicate 3 (.go (.driver 2)) : List Action) ++ ([.go .acceptor] : List Action)

/-- In a run with two failures the other two switches get the numbers one and two, and the
controller is done when both connections have ended. -/
theorem accepting_unfailing_troubled :
    ∃ s events, (State.start {} (.observer []) 40).steps? troubled = some (s, events) ∧
      s.acceptor = .stopped ∧ Event.acceptedLines events = [0, 2] ∧ Unfailing s events := by
  obtain ⟨⟨s, events⟩, run⟩ := Option.isSome_iff_exists.1
    (show ((State.start {} (.observer []) 40).steps? troubled).isSome = true by decide +kernel)
  have h : ((State.start {} (.observer []) 40).steps? troubled).all
      (fun r => decide (r.1.acceptor = .stopped ∧ Event.acceptedLines r.2 = [0, 2])) = true := by
    decide +kernel
  rw [run] at h
  obtain ⟨stopped, lines⟩ := of_decide_eq_true h
  exact ⟨s, events, run, stopped, lines, accepting_unfailing run⟩

end FlowBurst.Controller
