import FlowBurst.Proofs.Steps

/-!
# What happens around the connections

The steps of the accepting task and of the world around the tasks, each with everything that it can
do. A step of the world is the work of a clock, of a switch, of a caller or of whoever asks for a
stop, or it is the end of a connection that nobody holds any more; the tasks take no part in it, and
nothing of it is shown. Main statements: `accept?_admitted`, `step?_around`.
-/

namespace FlowBurst.Controller

open FlowBurst.Transport (Disposition Failure IoError Link Moment Operation OsError SystemCall
  pollAccept?)

/-! ### Failures to accept -/

/-- No error of input or output, of whatever kind and from whatever operation, is taken for a
request to stop. -/
lemma isCancelled_of_io (operation : Operation) (e : IoError) :
    (Failure.mk operation (.io e)).isCancelled = false := by
  have other : e.kind.category ≠ .cancelled := by
    cases e.kind <;> intro h <;> cases h
  simpa [Failure.isCancelled, Failure.category] using other

/-- How long accepting pauses after a failure, in milliseconds. -/
def pauseAfter (f : Failure) : Nat :=
  match f.category with
  | .retryable n => n
  | _ => acceptPause

section Poll

variable {m : Moment} {started waiting : Bool} {d : Disposition}

/-- Once there is a request to stop, accepting finds it and nothing else. -/
lemma pollAccept?_stopping (stopping : m.cancelled = true) :
    pollAccept? m {} started waiting d =
      d.unlessFailing (.failed ⟨.accept, .cancelled⟩ false) := by
  unfold pollAccept?
  cases started <;>
    simp [Transport.Limits.interruption?, Transport.Limits.refusal?, Transport.Limits.cancelled,
      Transport.Limits.expired, stopping]

/-- Accepting then waits, has a connection, or fails by an error of the system. -/
lemma pollAccept?_calm (calm : m.cancelled = false) {p : Transport.Accepting}
    (h : pollAccept? m {} started waiting d = some p) :
    (p = .pending ∧ waiting = false ∧ ∃ n, d = .proceed n) ∨
    (p = .accepted ∧ waiting = true ∧ ∃ n, d = .proceed n) ∨
    ∃ call e operation lost, d = .fail call e ∧ p = .failed (.system operation e) lost := by
  unfold pollAccept? at h
  rw [Transport.Limits.going_of_calm started calm] at h
  cases d with
  | proceed n =>
    cases waiting with
    | true =>
      cases h
      exact .inr (.inl ⟨rfl, rfl, n, rfl⟩)
    | false =>
      dsimp only at h
      split at h <;> cases h
      exact .inl ⟨rfl, rfl, n, rfl⟩
  | fail call e =>
    refine .inr (.inr ⟨call, e, ?_⟩)
    cases call <;> cases waiting <;> first
      | cases h
        exact ⟨_, _, rfl, rfl⟩
      | cases h

end Poll

/-! ### What the accepting task can do -/

/-- The accepting task may still accept a connection. -/
def Acceptor.isOpen : Acceptor → Bool
  | accepting _ | resting _ => true
  | joining | stopped => false

/-- A step of the accepting task. -/
inductive Admitted (s : State) : Disposition → State → List Event → Prop
  /-- It begins to wait for a connection. -/
  | waits {n : Nat} {started : Bool} (acceptor : s.acceptor = .accepting started)
      (calm : s.stopping = false) (backlog : s.backlog = []) :
      Admitted s (.proceed n) { s with acceptor := .accepting true } []
  /-- It accepts the connection that has waited longest. -/
  | takes {n i : Nat} {rest : List Nat} {started : Bool} (acceptor : s.acceptor = .accepting started)
      (calm : s.stopping = false) (backlog : s.backlog = i :: rest) :
      Admitted s (.proceed n) s.acceptFirst.1 s.acceptFirst.2
  /-- Accepting fails, and perhaps the connection that has waited longest is lost. -/
  | fails {call : SystemCall} {e : OsError} {operation : Operation} {started lost : Bool}
      (acceptor : s.acceptor = .accepting started) (calm : s.stopping = false) :
      Admitted s (.fail call e)
        { (if lost then s.loseFirst else s) with
          acceptor := .resting (s.now + pauseAfter (.system operation e)) }
        [.notice (.acceptFailed (.system operation e))]
  /-- A pause is over. -/
  | resumes {n till : Nat} (acceptor : s.acceptor = .resting till) (calm : s.stopping = false)
      (past : till ≤ s.now) : Admitted s (.proceed n) { s with acceptor := .accepting false } []
  /-- It leaves its loop. -/
  | leaves {n : Nat} (going : s.acceptor.isOpen = true) (stopping : s.stopping = true) :
      Admitted s (.proceed n) { s with acceptor := .joining } []
  /-- Every connection has ended. -/
  | ends {n : Nat} (acceptor : s.acceptor = .joining) (done : ∀ l ∈ s.lines, State.isDone l = true) :
      Admitted s (.proceed n) s.stopListening []

section Admitted

variable {s t : State} {d : Disposition} {events : List Event}

/-- The connection that waits longest is lost, and nothing else changes. -/
lemma loseFirst_of_waiting {i : Nat} {rest : List Nat} (backlog : s.backlog = i :: rest) :
    s.loseFirst =
      { s.modifyLine i fun l => { l with link := l.link.close .server } with backlog := rest } := by
  unfold State.loseFirst
  rw [backlog]

lemma loseFirst_of_nil (backlog : s.backlog = []) : s.loseFirst = s := by
  unfold State.loseFirst
  rw [backlog]

lemma loseFirst_now : s.loseFirst.now = s.now := by
  unfold State.loseFirst
  split <;> rfl

/-- A step of the accepting task that is about to accept. -/
lemma admitted_of_accepting {started : Bool} (acceptor : s.acceptor = .accepting started)
    (h : s.accept? d = some (t, events)) : Admitted s d t events := by
  unfold State.accept? at h
  rw [acceptor] at h
  obtain ⟨progress, polled, came⟩ := Option.bind_eq_some_iff.1 h
  clear h
  by_cases stopping : s.stopping = true
  · rw [pollAccept?_stopping (m := s.moment) stopping] at polled
    obtain ⟨n, rfl⟩ := proceed_of_unlessFailing polled
    cases polled
    cases came
    exact .leaves (by rw [acceptor]; rfl) stopping
  · have calm : s.stopping = false := by simpa using stopping
    rcases pollAccept?_calm (m := s.moment) calm polled with
      ⟨rfl, waiting, n, rfl⟩ | ⟨rfl, waiting, n, rfl⟩ | ⟨call, e, operation, lost, rfl, rfl⟩
    · cases came
      exact .waits acceptor calm (by simpa using waiting)
    · obtain ⟨i, rest, backlog⟩ := List.exists_cons_of_ne_nil
        (show s.backlog ≠ [] by simpa using waiting)
      obtain rfl : s.acceptFirst.1 = t := congrArg Prod.fst (Option.some.inj came)
      obtain rfl : s.acceptFirst.2 = events := congrArg Prod.snd (Option.some.inj came)
      exact .takes acceptor calm backlog
    · have uncancelled : (Failure.system operation e).isCancelled = false := isCancelled_of_io _ _
      dsimp only at came
      rw [uncancelled] at came
      have fails (lost : Bool) : Admitted s (.fail call e)
          { (if lost then s.loseFirst else s) with
            acceptor := .resting (s.now + pauseAfter (.system operation e)) }
          [.notice (.acceptFailed (.system operation e))] := .fails acceptor calm
      cases lost <;> cases came
      · exact fails false
      · have lost := fails true
        rwa [← loseFirst_now] at lost

/-- **The accepting task takes no step that `Admitted` does not list.** -/
theorem accept?_admitted (h : s.accept? d = some (t, events)) : Admitted s d t events := by
  cases acceptor : s.acceptor with
  | accepting started => exact admitted_of_accepting acceptor h
  | resting till =>
    unfold State.accept? at h
    rw [acceptor] at h
    dsimp only at h
    split at h
    next stopping =>
      obtain ⟨n, rfl⟩ := proceed_of_unlessFailing h
      cases h
      exact .leaves (by rw [acceptor]; rfl) stopping
    next calm =>
      split at h
      next past =>
        obtain ⟨n, rfl⟩ := proceed_of_unlessFailing h
        cases h
        exact .resumes acceptor (by simpa using calm) past
      next => cases h
  | joining =>
    unfold State.accept? at h
    rw [acceptor] at h
    dsimp only at h
    split at h
    next done =>
      obtain ⟨n, rfl⟩ := proceed_of_unlessFailing h
      cases h
      exact .ends acceptor (by simpa using done)
    next => cases h
  | stopped =>
    unfold State.accept? at h
    rw [acceptor] at h
    cases h

end Admitted

/-! ### What the world can do -/

/-- The task that takes the step, if it is a task. -/
def Action.task? : Action → Option Actor
  | run who _ => some who
  | _ => none

lemma Action.eq_run_of_task? {a : Action} {who : Actor} (own : a.task? = some who) :
    ∃ d, a = .run who d := by
  cases a <;> cases own
  exact ⟨_, rfl⟩

/-- A step of the world around the tasks. -/
inductive Around (s : State) : Action → State → Prop
  | elapsed {n : Nat} : Around s (.elapse n) { s with now := s.now + n }
  | connected {peer : Transport.Address} (going : s.acceptor ≠ .stopped) :
      Around s (.connect peer)
        { s with lines := s.lines ++ [{ link := { capacity := s.capacity }, peer }]
                 backlog := s.backlog ++ [s.lines.length] }
  | delivered {i : Nat} {bytes : List UInt8} {l : Line} {link : Link} (line : s.lines[i]? = some l)
      (wrote : l.link.write? .client bytes bytes.length = some (.ok bytes.length, link)) :
      Around s (.deliver i bytes) (s.modifyLine i fun l => { l with link })
  | collected {i size : Nat} {bytes : List UInt8} {l : Line} {link : Link}
      (line : s.lines[i]? = some l) (read : l.link.read? .client size = some (.ok bytes, link)) :
      Around s (.collect i size) (s.modifyLine i fun l => { l with link })
  | endedSending {i : Nat} :
      Around s (.endSending i) (s.modifyLine i fun l => { l with link := l.link.endWriting .client })
  | left {i : Nat} :
      Around s (.leave i) (s.modifyLine i fun l => { l with link := l.link.close .client })
  | reset {i : Nat} : Around s (.reset i) (s.modifyLine i fun l => { l with link := l.link.reset })
  | letGo {i : Nat} (unheld : s.isUnheld i = true) :
      Around s (.letGo i) (s.modifyLine i fun l => { l with link := l.link.close .server })
  | called {request : Outside} {t : State} (call : s.call? request = some t) :
      Around s (.call request) t
  | stopped : Around s .stop { s with stopping := true }

/-- **The world takes no step that `Around` does not list**, and nothing is seen of one. -/
theorem step?_around {s t : State} {a : Action} {events : List Event}
    (h : s.step? a = some (t, events)) (task : a.task? = none) : Around s a t ∧ events = [] := by
  cases a with
  | run who d => cases task
  | elapse n =>
    cases h
    exact ⟨.elapsed, rfl⟩
  | connect peer =>
    unfold State.step? at h
    dsimp only at h
    split at h
    next => cases h
    next going =>
      cases h
      exact ⟨.connected going, rfl⟩
  | deliver i bytes =>
    obtain ⟨l, line, h⟩ := Option.bind_eq_some_iff.1 h
    obtain ⟨⟨answer, link⟩, wrote, h⟩ := Option.bind_eq_some_iff.1 h
    cases answer with
    | error e => cases h
    | ok n =>
      dsimp only at h
      split at h
      next whole =>
        subst whole
        cases h
        exact ⟨.delivered line wrote, rfl⟩
      next => cases h
  | collect i size =>
    obtain ⟨l, line, h⟩ := Option.bind_eq_some_iff.1 h
    obtain ⟨⟨answer, link⟩, read, h⟩ := Option.bind_eq_some_iff.1 h
    cases answer with
    | error e => cases h
    | ok bytes =>
      cases h
      exact ⟨.collected line read, rfl⟩
  | endSending i =>
    cases h
    exact ⟨.endedSending, rfl⟩
  | leave i =>
    cases h
    exact ⟨.left, rfl⟩
  | reset i =>
    cases h
    exact ⟨.reset, rfl⟩
  | letGo i =>
    unfold State.step? at h
    dsimp only at h
    split at h
    next unheld =>
      cases h
      exact ⟨.letGo unheld, rfl⟩
    next => cases h
  | call request =>
    obtain ⟨u, call, h⟩ := Option.map_eq_some_iff.1 h
    cases h
    exact ⟨.called call, rfl⟩
  | stop =>
    cases h
    exact ⟨.stopped, rfl⟩

end FlowBurst.Controller
