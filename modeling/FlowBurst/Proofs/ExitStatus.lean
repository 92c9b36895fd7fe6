import FlowBurst.Proofs.Handlers
import FlowBurst.Proofs.Muted
import FlowBurst.Proofs.Served
import FlowBurst.Program

/-!
# The exit status

The program exits with status one if a failed burst stopped it. Every burst that aborts while the
controller runs sets the status if failures are to end the program, whether it aborts of itself or
because the controller is stopping already; and a burst in flight when the controller stops does
abort. So a stop that comes from an interrupt gives the status of a failure whenever it finds a burst
in flight. All this is said of any run at whose end the controller has stopped, and serving sockets is
one case of that. Main statements: `exit_status`, `aborts_when_stopped`.
-/

namespace FlowBurst.Controller

open FlowBurst.Burst (Result)
open FlowBurst.OpenFlow (Frame)
open FlowBurst.Switch (Failure Reference Session)

/-! ### What is undecided -/

/-- The result of a burst about which the decision whether to stop is still to come. -/
def News.undecided? : News → Option (Result Reference)
  | settling _ (.counting r) | settling _ (.deciding r _) => some r
  | _ => none

/-- The policy of a handler on failures: whether they are to end the program, whether it can stop the
controller, and whether it did because of a failure. -/
def Handler.policy : Handler → Option (Bool × Bool × Bool)
  | harness h => some (h.exitOnFailure, h.canStop, h.stoppedOnFailure)
  | observer _ => none

namespace State

/-- The result of a burst over a line about which the decision whether to stop is still to come. -/
def undecided? (s : State) (i : Nat) : Option (Result Reference) := (s.news? i).bind News.undecided?

/-- Whether a failed burst stopped the controller. -/
def stoppedOnFailure (s : State) : Bool :=
  match s.handler with
  | .harness h => h.stoppedOnFailure
  | .observer _ => false

end State

/-- What a step does about the bursts that have ended: nothing, or a burst ends, or it is decided
whether that stops the controller. -/
inductive Settles (s t : State) (events : List Event) : Prop
  | still (policy : t.handler.policy = s.handler.policy)
      (pending : ∀ i, t.undecided? i = s.undecided? i) (seen : Event.burstsEnded events = [])
  | ends {i : Nat} {r : Result Reference} (policy : t.handler.policy = s.handler.policy)
      (was : s.undecided? i = none)
      (pending : ∀ j, t.undecided? j = if i = j then some r else s.undecided? j)
      (seen : Event.burstsEnded events = [(i, r)])
  | decides {i : Nat} {r : Result Reference} {exits stops stopped : Bool}
      (before : s.handler.policy = some (exits, stops, stopped))
      (after : t.handler.policy = some (exits, stops, stopped || (stops && exits && r.isAborted)))
      (was : s.undecided? i = some r)
      (pending : ∀ j, t.undecided? j = if i = j then none else s.undecided? j)
      (seen : Event.burstsEnded events = [])

section Settles

variable {s t : State} {i : Nat} {events : List Event}

lemma undecided?_newsOf (s : State) (i : Nat) : s.undecided? i = (s.newsOf i).undecided? := by
  unfold State.undecided? State.newsOf
  cases s.news? i <;> rfl

lemma undecided?_of_core? {session : Session} {stage : Stage} {news : News}
    (h : s.core? i = some (session, stage, news)) : s.undecided? i = news.undecided? := by
  simp [State.undecided?, State.news?, h]

lemma undecided?_congr (h : ∀ j, t.core? j = s.core? j) (j : Nat) :
    t.undecided? j = s.undecided? j := by
  simp [State.undecided?, State.news?, h]

lemma undecided?_of_change {core : Session × Stage × News}
    (h : ∀ j, t.core? j = if i = j then some core else s.core? j) (j : Nat) :
    t.undecided? j = if i = j then core.2.2.undecided? else s.undecided? j := by
  unfold State.undecided? State.news?
  rw [h]
  split <;> rfl

/-- A change of one line that leaves what is undecided there. -/
lemma undecided?_of_same {session : Session} {stage : Stage} {core : Session × Stage × News}
    {news : News} (was : s.core? i = some (session, stage, news))
    (lines : ∀ j, t.core? j = if i = j then some core else s.core? j)
    (same : core.2.2.undecided? = news.undecided?) (j : Nat) :
    t.undecided? j = s.undecided? j := by
  rw [undecided?_of_change lines]
  split
  next h => rw [← h, undecided?_of_core? was, same]
  next => rfl

/-- What counting and deciding about a burst do to the policy. -/
lemma policy_of_settle? {h : Harness} {todo : Harness.Settling} {effect : Harness.Effect}
    (settle : h.settle? todo = some effect) (switch : Reference) :
    (Handler.harness effect.harness).policy = (Handler.harness h).policy ∧
        (News.settling switch effect.next).undecided? = (News.settling switch todo).undecided? ∨
      ∃ r, (News.settling switch todo).undecided? = some r ∧
        (News.settling switch effect.next).undecided? = none ∧
        (Handler.harness effect.harness).policy = some (h.exitOnFailure, h.canStop,
          h.stoppedOnFailure || (h.canStop && h.exitOnFailure && r.isAborted)) := by
  cases todo with
  | counting r =>
    cases settle
    exact .inl ⟨rfl, rfl⟩
  | deciding r reached =>
    cases settle
    refine .inr ⟨r, rfl, ?_⟩
    unfold Harness.decide
    dsimp only
    cases stops : h.canStop <;> cases exits : h.exitOnFailure <;> cases aborted : r.isAborted <;>
      cases reached <;> simp [Handler.policy, News.undecided?, stops, exits]
  | reporting r =>
    cases settle
    exact .inl ⟨rfl, rfl⟩
  | settled => cases settle

/-- **Every step settles bursts in one of these ways.** -/
theorem Tale.settles (orderly : s.Orderly) (tale : Tale s t events) : Settles s t events := by
  have seen {more : List Event} (h : tidings events = more) :
      Event.burstsEnded events = Event.burstsEnded more := by
    rw [← Event.burstsEnded_tidings, h]
  cases tale with
  | calm lines handler untold =>
    exact .still (by rw [handler]) (undecided?_congr lines) (seen untold)
  | @accepts i session fresh lines handler untold =>
    refine .still (by rw [handler]) (fun j => ?_) (seen untold)
    rw [undecided?_of_change lines]
    split
    next h =>
      subst h
      simp [State.undecided?, State.news?, fresh, News.undecided?]
    next => rfl
  | @drives i c session stage news was lines course same handler =>
    obtain ⟨next, quiet⟩ := course.leg.news fun switch entering =>
      orderly.untold i c.core was (.inr ⟨switch, entering⟩)
    refine .still (by rw [handler]) (undecided?_of_same was lines ?_) ?_
    · rcases next with kept | ⟨absent, switch, spawned⟩
      · exact congrArg News.undecided? kept
      · rw [absent, spawned]
        rfl
    · rw [seen same]
      exact List.filterMap_eq_nil_iff.2 fun e he => by
        cases e <;> first | rfl | exact (quiet _ _ he rfl).elim
  | @tells i session stage news news' was lines tells =>
    have pending := undecided?_of_change lines
    generalize hseen : tidings events = told at tells
    cases tells with
    | calls same =>
      refine .still (by rw [same]) (undecided?_of_same was lines ?_) (seen hseen)
      unfold Handler.firstNews
      dsimp only
      split
      · split <;> rfl
      · rfl
    | returns same | attempts same | sends same | delivers same =>
      exact .still (by rw [same]) (undecided?_of_same was lines rfl) (seen hseen)
    | completes same | aborts same =>
      exact .ends (by rw [same]) (undecided?_of_core? was) pending (seen hseen)
    | @settles switch todo harness effect before settle after next =>
      rcases policy_of_settle? settle switch with ⟨policy, still⟩ | ⟨r, r_was, done, policy⟩
      · refine .still ?_ (undecided?_of_same was lines still) (seen hseen)
        rw [before, after, policy]
      · refine .decides (by rw [before]; rfl) (by rw [after]; exact policy)
          ((undecided?_of_core? was).trans r_was) (fun j => ?_) (seen hseen)
        rw [pending, done]
    | @settled switch todo harness effect before settle after next =>
      rcases policy_of_settle? settle switch with ⟨policy, still⟩ | ⟨r, r_was, done, policy⟩
      · refine .still ?_ (undecided?_of_same was lines ?_) (seen hseen)
        · rw [before, after, policy]
        · rw [← still, next]
          rfl
      · refine .decides (by rw [before]; rfl) (by rw [after]; exact policy)
          ((undecided?_of_core? was).trans r_was) (fun j => ?_) (seen hseen)
        rw [pending]
        rfl

end Settles

/-! ### The decision -/

/-- What the harness has come to about the bursts that have ended: it stopped because of a failure only
if a burst aborted and failures are to end the program, and then every burst that aborted either
stopped it or is undecided. -/
structure Decided (exits : Bool) (s : State) (events : List Event) : Prop where
  policy : ∃ stopped, s.handler.policy = some (exits, true, stopped) ∧
    (stopped = true → exits = true ∧ ∃ i r, (i, r) ∈ Event.burstsEnded events ∧ r.isAborted = true) ∧
    (exits = true → ∀ i r, (i, r) ∈ Event.burstsEnded events → r.isAborted = true →
      stopped = true ∨ s.undecided? i = some r)
  ended : ∀ i r, s.undecided? i = some r → (i, r) ∈ Event.burstsEnded events

namespace Decided

variable {s t : State} {exits : Bool} {events more : List Event} {i : Nat} {r : Result Reference}

/-- A step in which no burst ends and nothing is decided. -/
lemma still (decided : Decided exits s events) (policy : t.handler.policy = s.handler.policy)
    (pending : ∀ i, t.undecided? i = s.undecided? i) (seen : Event.burstsEnded more = []) :
    Decided exits t (events ++ more) := by
  have none_new : Event.burstsEnded (events ++ more) = Event.burstsEnded events := by
    rw [Event.burstsEnded_append, seen, List.append_nil]
  refine ⟨?_, ?_⟩
  · rw [policy, none_new]
    simpa only [pending] using decided.policy
  · rw [none_new]
    simpa only [pending] using decided.ended

/-- A burst that ends is undecided at first. -/
lemma ends (decided : Decided exits s events) (policy : t.handler.policy = s.handler.policy)
    (was : s.undecided? i = none)
    (pending : ∀ j, t.undecided? j = if i = j then some r else s.undecided? j)
    (seen : Event.burstsEnded more = [(i, r)]) : Decided exits t (events ++ more) := by
  obtain ⟨⟨stopped, before, sound, complete⟩, ended⟩ := decided
  have ended_iff (e : Nat × Result Reference) : e ∈ Event.burstsEnded (events ++ more) ↔
      e ∈ Event.burstsEnded events ∨ e = (i, r) := by
    rw [Event.burstsEnded_append, seen, List.mem_append, List.mem_singleton]
  refine ⟨⟨stopped, policy.trans before, fun h => ?_, fun exit j q hq aborted => ?_⟩,
    fun j q h => ?_⟩
  · obtain ⟨exit, j, q, hq, aborted⟩ := sound h
    exact ⟨exit, j, q, (ended_iff _).2 (.inl hq), aborted⟩
  · rw [pending]
    rcases (ended_iff _).1 hq with old | new
    · refine (complete exit j q old aborted).imp_right fun h => ?_
      have other : i ≠ j := by
        rintro rfl
        rw [was] at h
        cases h
      rw [if_neg other, h]
    · cases new
      exact .inr (if_pos rfl)
  · rw [pending] at h
    rw [ended_iff]
    split at h
    next same =>
      cases h
      exact .inr (by rw [same])
    next => exact .inl (ended j q h)

/-- What is decided about a burst that has ended. -/
lemma decides {exits' stops stopped' : Bool} (decided : Decided exits s events)
    (before : s.handler.policy = some (exits', stops, stopped'))
    (after : t.handler.policy = some (exits', stops, stopped' || (stops && exits' && r.isAborted)))
    (was : s.undecided? i = some r)
    (pending : ∀ j, t.undecided? j = if i = j then none else s.undecided? j)
    (seen : Event.burstsEnded more = []) : Decided exits t (events ++ more) := by
  obtain ⟨⟨stopped, policy, sound, complete⟩, ended⟩ := decided
  have none_new : Event.burstsEnded (events ++ more) = Event.burstsEnded events := by
    rw [Event.burstsEnded_append, seen, List.append_nil]
  rw [policy] at before
  cases before
  refine ⟨⟨_, after, fun h => ?_, fun exit j q hq aborted => ?_⟩, fun j q h => ?_⟩
  all_goals rw [none_new] at *
  · rcases Bool.or_eq_true_iff.1 h with h | h
    · exact sound h
    · obtain ⟨exit, aborted⟩ : exits = true ∧ r.isAborted = true := by simpa using h
      exact ⟨exit, i, r, ended i r was, aborted⟩
  · rw [pending]
    rcases complete exit j q hq aborted with h | h
    · exact .inl (by simp [h])
    · by_cases same : i = j
      · subst same
        rw [was] at h
        cases h
        exact .inl (by simp [exit, aborted])
      · exact .inr (by rw [if_neg same, h])
  · rw [pending] at h
    split at h
    · cases h
    · exact ended j q h

/-- **Every step keeps the decisions.** -/
theorem step (decided : Decided exits s events) (settles : Settles s t more) :
    Decided exits t (events ++ more) := by
  cases settles with
  | still policy pending seen => exact decided.still policy pending seen
  | ends policy was pending seen => exact decided.ends policy was pending seen
  | decides before after was pending seen => exact decided.decides before after was pending seen

end Decided

section Runs

variable {p : Plan} {capacity : Nat} {actions : List Action} {s : State} {events : List Event}
  (run : (State.start p.controller (.harness p.harness) capacity).steps? actions = some (s, events))
include run

theorem decided_of_steps? : Decided p.exitOnFailure s events := by
  refine State.run_induction (P := fun _ s events => Decided p.exitOnFailure s events)
    ⟨⟨false, rfl, (fun h => by cases h), fun _ i r h => by cases h⟩, fun i r h => ?_⟩ ?_ run
  · simp [State.undecided?, State.news?, State.core?, State.connection?, State.start] at h
  · intro actions s before a t after before_run decided step
    have orderly := orderly_of_run before_run
    exact decided.step ((step?_tale orderly step).settles orderly)

/-- Once its controller has stopped, a program exits with status one if and only if failures are to end
it and some burst aborted. -/
theorem exitCode_of_stopped (stopped : s.acceptor = .stopped) :
    (Outcome.ran s.stoppedOnFailure).exitCode = 1 ↔
      p.exitOnFailure = true ∧ ∃ i r, .burstEnded i r ∈ events ∧ r.isAborted = true := by
  obtain ⟨⟨failed, policy, sound, complete⟩, -⟩ := decided_of_steps? run
  have flag : s.stoppedOnFailure = failed := by
    unfold State.stoppedOnFailure
    cases hs : s.handler with
    | harness h =>
      rw [hs] at policy
      simp only [Handler.policy, Option.some.injEq, Prod.mk.injEq] at policy
      exact policy.2.2
    | observer faulty =>
      rw [hs] at policy
      cases policy
  have settled (i : Nat) : s.undecided? i = none := by
    have ceased := over_of_stopped run stopped i
    rw [undecided?_newsOf]
    cases hn : s.newsOf i <;> first | rfl | simp [hn, News.isOver] at ceased
  rw [flag]
  cases failed with
  | true =>
    obtain ⟨exits, i, r, hr, aborted⟩ := sound rfl
    exact ⟨fun _ => ⟨exits, i, r, Event.mem_burstsEnded.1 hr, aborted⟩, fun _ => rfl⟩
  | false =>
    refine ⟨(fun h => by cases h), ?_⟩
    rintro ⟨exits, i, r, hr, aborted⟩
    rcases complete exits i r (Event.mem_burstsEnded.2 hr) aborted with h | h
    · cases h
    · rw [settled] at h
      cases h

end Runs

/-! ### Bursts in flight -/

/-- Whether a burst has messages that are not sent yet. -/
def News.isInFlight : News → Bool
  | bursting run => run.isSending
  | sending _ _ => true
  | _ => false

section InFlight

variable {settings : Settings} {handler : Handler} {capacity : Nat} {first rest : List Action}
  {s u : State} {before after : List Event} {i : Nat}

/-- A burst in flight goes on or is aborted, as long as its handler delivers nothing. -/
lemma Hears.flies {t : State} {more : List Event} (hears : Hears s t i more)
    (undelivered : ∀ x u seen xid, s.sending? (.handler i) = some x →
      ¬ Sent s (.handler i) x u seen (.inr (.ok xid)))
    (flight : (s.newsOf i).isInFlight = true) :
    (t.newsOf i).isInFlight = true ∨ ∃ r, .burstEnded i r ∈ more ∧ r.isAborted = true := by
  cases hears with
  | rests next =>
    rcases next with same | ⟨absent, -⟩
    · exact .inl (same ▸ flight)
    · rw [absent] at flight
      cases flight
  | tells tells =>
    generalize hn : s.newsOf i = news, t.newsOf i = news', hseen : tidings more = seen
      at tells flight ⊢
    cases tells with
    | attempts | sends => exact .inl rfl
    | completes same done => exact absurd flight (by simp [News.isInFlight, done])
    | @delivers run x xid u same step =>
      obtain ⟨session, stage, core⟩ := State.core?_of_newsOf (s := s) (i := i) (by simp [hn])
      rw [hn] at core
      refine (undelivered x u _ xid ?_ step).elim
      simp [State.sending?, State.news?, core, News.sending?]
    | @aborts run x f u seen same step =>
      have member : Event.burstEnded i (run.abort (.ofSwitch f)) ∈ tidings more := by simp [hseen]
      exact .inr ⟨_, (mem_tidings.1 member).1, isAborted_abort run _⟩
    | calls | returns | settles | settled => cases flight

/-- **A burst in flight as the controller stops is aborted** before that has stopped. -/
theorem aborts_when_stopped
    (run : (State.start settings handler capacity).steps? first = some (s, before))
    (stopping : s.stopping = true) {news : News} (hn : s.news? i = some news)
    (flight : news.isInFlight = true) (run' : s.steps? rest = some (u, after))
    (stopped : u.acceptor = .stopped) :
    ∃ r, .burstEnded i r ∈ after ∧ r.isAborted = true := by
  have whole {mid : List Action} {t : State} {seen : List Event}
      (h : s.steps? mid = some (t, seen)) :
      (State.start settings handler capacity).steps? (first ++ mid) = some (t, before ++ seen) :=
    State.steps?_trans run h
  have flying : u.stopping = true ∧ ((u.newsOf i).isInFlight = true ∨
      ∃ r, .burstEnded i r ∈ after ∧ r.isAborted = true) := by
    refine State.run_induction (P := fun _ u after => u.stopping = true ∧
      ((u.newsOf i).isInFlight = true ∨ ∃ r, .burstEnded i r ∈ after ∧ r.isAborted = true))
      ⟨stopping, .inl ?_⟩ ?_ run'
    · simpa [State.newsOf, hn] using flight
    · rintro mid t seen a v more mid_run ⟨stop, flies | ⟨r, hr, aborted⟩⟩ step
      · refine ⟨(step?_kept step).stopping stop, ?_⟩
        have orderly := orderly_of_run (whole mid_run)
        refine (((step?_tale orderly step).hears orderly i).flies
          (fun x u seen xid under sent => sent.undelivered (whole mid_run) stop under) flies).imp_right ?_
        rintro ⟨r, hr, aborted⟩
        exact ⟨r, List.mem_append_right _ hr, aborted⟩
      · exact ⟨(step?_kept step).stopping stop, .inr ⟨r, List.mem_append_left _ hr, aborted⟩⟩
  refine flying.2.resolve_left fun flies => ?_
  have ceased := over_of_stopped (whole run') stopped i
  generalize u.newsOf i = last at flies ceased
  cases last <;> simp [News.isOver, News.isInFlight] at ceased flies

end InFlight

/-! ### The exit status -/

/-- The exit status of a program of whose controller some run has come to `s` and showed `events`. -/
structure Exits (p : Plan) (capacity : Nat) (s : State) (events : List Event) (status : Nat) : Prop where
  success : status = 0 ∨ status = 1
  /-- A burst that aborts gives the status of a failure if failures are to end the program, before the
  controller was asked to stop or after that; nothing else does. -/
  failure : status = 1 ↔
    p.exitOnFailure = true ∧ ∃ i r, .burstEnded i r ∈ events ∧ r.isAborted = true
  /-- Whoever asks the controller to stop, a burst that is then in flight gives that status. -/
  inFlight : ∀ first rest t before after i news,
    (State.start p.controller (.harness p.harness) capacity).steps? first = some (t, before) →
    t.stopping = true → t.news? i = some news → news.isInFlight = true →
    t.steps? rest = some (s, after) → p.exitOnFailure = true → status = 1

/-- Once its controller has stopped, a program exits like that, by whatever run that has come to it. -/
lemma exits_of_stopped {p : Plan} {capacity : Nat} {actions : List Action} {s : State}
    {events : List Event}
    (run : (State.start p.controller (.harness p.harness) capacity).steps? actions = some (s, events))
    (stopped : s.acceptor = .stopped) :
    Exits p capacity s events (Outcome.ran s.stoppedOnFailure).exitCode := by
  refine ⟨?_, exitCode_of_stopped run stopped, ?_⟩
  · cases s.stoppedOnFailure
    · exact .inl rfl
    · exact .inr rfl
  · intro first rest t before after i news run stopping hn flight run' exits
    obtain ⟨r, hr, aborted⟩ := aborts_when_stopped run stopping hn flight run' stopped
    exact (exitCode_of_stopped (State.steps?_trans run run') stopped).2
      ⟨exits, i, r, List.mem_append_right _ hr, aborted⟩

/-- What is to be said of the exit status of a plan. -/
structure ExitStatus (p : Plan) : Prop where
  /-- In every run at whose end the controller has stopped, whatever the switches, the clock and the
  callers do, and whatever the pipes hold. -/
  run : ∀ capacity actions s events,
    (State.start p.controller (.harness p.harness) capacity).steps? actions = some (s, events) →
    s.acceptor = .stopped → Exits p capacity s events (Outcome.ran s.stoppedOnFailure).exitCode
  /-- A program that has served the plan to the end has taken such a run. -/
  served : ∀ v, Serving.Served p v → v.isOver = true →
    (∃ actions events, (Serving.start p).state.steps? actions = some (v.state, events)) ∧
      ∀ actions events, (Serving.start p).state.steps? actions = some (v.state, events) →
        Exits p Serving.pipeSize v.state events (Outcome.ran v.stoppedOnFailure).exitCode

/-- **The exit status** of a program whose controller has stopped: it is one if failures are to end the
program and some burst aborted, whether that was why the controller stopped or came of its stopping,
and zero otherwise. So it is for a program that has served a plan to the end. -/
theorem exit_status (p : Plan) : ExitStatus p where
  run _ _ _ _ run stopped := exits_of_stopped run stopped
  served _ served ceased :=
    ⟨served.run, fun _ _ run => exits_of_stopped run (served.stopped ceased)⟩

/-- A plan in which failures are to end the program. -/
def strict : Plan :=
  { controller := {}, request := { count := 3, kind := .setConfig }, exitOnFailure := true
    maxBursts := none }

/-- What a switch sends whose handshake leaves no room in its pipe: an ECHO_REQUEST stands between its
HELLO and its FEATURES_REPLY. -/
def crowding : List UInt8 :=
  Frame.bytes { xid := 1, message := .hello [] } ++
    Frame.bytes { xid := 9, message := .echoRequest (List.replicate 1000 0) } ++ (greetings 7).drop 8

/-- Such a switch has come and reads nothing. -/
def crowded : Serving :=
  let invited := ((Serving.start strict).respond 0).1
  let connected := ((invited.arrive (.connected (.loopback 6653))).respond 0).1
  ((connected.arrive (.read 0 crowding)).respond 0).1

/-- An interrupt has come then, and the last bytes took too long to leave. -/
def stoppedCrowded : Serving := (((crowded.arrive .interrupt).respond 0).1.respond Serving.farewell).1

theorem exits_interrupted :
    crowded.state.stopping = false ∧ (crowded.state.news? 0).any News.isInFlight = true ∧
      stoppedCrowded.isOver = true ∧ (Outcome.ran stoppedCrowded.stoppedOnFailure).exitCode = 1 := by
  have asks (v : Serving) : (v.arrive .interrupt).state.stopping = true ∧
      (v.arrive .interrupt).state.news? 0 = v.state.news? 0 := ⟨rfl, rfl⟩
  obtain ⟨calm, flight⟩ : crowded.state.stopping = false ∧
      (crowded.state.news? 0).any News.isInFlight = true := by decide +kernel
  have ceased : stoppedCrowded.isOver = true := by decide +kernel
  have asked : Serving.Served strict (crowded.arrive .interrupt) :=
    .arrives (.responds (.arrives (.responds (.arrives (.responds .start 0) _) 0) _) 0) .interrupt
  obtain ⟨first, before, run⟩ := asked.run
  obtain ⟨actions, seen, stops⟩ := (crowded.arrive .interrupt).steps_of_respond 0
  obtain ⟨rest, more, leaves⟩ :=
    ((crowded.arrive .interrupt).respond 0).1.steps_of_respond Serving.farewell
  have run' := State.steps?_trans stops leaves
  obtain ⟨news, hn, flying⟩ := (Option.any_eq_true _ _).1 flight
  obtain ⟨-, exits⟩ := (exit_status strict).served stoppedCrowded ((asked.responds 0).responds _) ceased
  have one := (exits _ _ (State.steps?_trans run run')).inFlight first _ _ before _ 0 news run
    (asks crowded).1 ((asks crowded).2.trans hn) flying run' rfl
  exact ⟨calm, flight, ceased, one⟩

/-- A switch arrives and its burst begins. -/
def burstBegun : List Action := arrival 0 7 ++ List.replicate 2 (.go (.handler 0))

/-- The controller is asked to stop, the burst is cut short, the switch is let go and the accepting task
ends. -/
def burstStopped : List Action :=
  [Action.stop] ++ List.replicate 6 (Action.go (.handler 0)) ++
    List.replicate 6 (Action.go (.driver 0)) ++ List.replicate 2 (Action.go .acceptor)

/-- **A clean stop with the status of a failure**: an interrupt is the first to ask the controller to
stop, no burst has ended before that, and the program exits with status one for the burst that the
stop cuts short. -/
theorem failure_after_stop : ∃ s before t after,
    (Serving.start strict).state.steps? burstBegun = some (s, before) ∧ s.stopping = false ∧
      Event.burstsEnded before = [] ∧ s.steps? burstStopped = some (t, after) ∧
      t.acceptor = .stopped ∧ (Outcome.ran t.stoppedOnFailure).exitCode = 1 := by
  obtain ⟨⟨s, before⟩, begun⟩ := Option.isSome_iff_exists.1
    (show ((Serving.start strict).state.steps? burstBegun).isSome = true by decide +kernel)
  have h : ((Serving.start strict).state.steps? burstBegun).all (fun r =>
      (r.1.steps? burstStopped).isSome && decide (r.1.stopping = false ∧
        Event.burstsEnded r.2 = [])) = true := by decide +kernel
  have k : ((Serving.start strict).state.steps? burstBegun).all (fun r =>
      (r.1.steps? burstStopped).all fun r' => decide (r'.1.acceptor = .stopped ∧
        (Outcome.ran r'.1.stoppedOnFailure).exitCode = 1)) = true := by decide +kernel
  rw [begun] at h k
  obtain ⟨goes_on, clean⟩ := Bool.and_eq_true_iff.1 h
  obtain ⟨⟨t, after⟩, stops⟩ := Option.isSome_iff_exists.1 goes_on
  replace k : (s.steps? burstStopped).all _ = true := k
  rw [stops] at k
  obtain ⟨going, unended⟩ := of_decide_eq_true clean
  obtain ⟨stopped, failed⟩ := of_decide_eq_true k
  exact ⟨s, before, t, after, begun, going, unended, stops, stopped, failed⟩

end FlowBurst.Controller
