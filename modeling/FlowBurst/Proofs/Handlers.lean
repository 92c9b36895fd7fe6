import FlowBurst.Proofs.Addressing
import FlowBurst.Proofs.Intake

/-!
# What the handler is told

The handler of a controller is told that a switch is ready by a task of its own for each connection,
and that the switch is gone by the driving task, once the first is done. This module says for every
step what becomes of the stages and news of the lines and of the handler itself, with the events that
tell of it, so that an invariant over the news is checked against a handful of cases. Main statements:
`step?_tale`, `Tale.hears`, `over_of_stopped`.
-/

namespace FlowBurst.Controller

open FlowBurst.Burst (Result)
open FlowBurst.Switch (Failure Reference Session)

/-! ### Tidings -/

/-- Whether an event is about what the handler is told of a switch, or about what comes of it. -/
def Event.isTiding : Event → Bool
  | readyCalled _ _ | readyReturned _ _ | disconnectedCalled _ _ | burstEnded _ _ => true
  | _ => false

/-- The events about what the handler is told. -/
def tidings (events : List Event) : List Event := events.filter Event.isTiding

@[simp] lemma tidings_append (first rest : List Event) :
    tidings (first ++ rest) = tidings first ++ tidings rest := by simp [tidings]

lemma mem_tidings {e : Event} {events : List Event} :
    e ∈ tidings events ↔ e ∈ events ∧ e.isTiding = true := List.mem_filter

/-- Events that are plain, or about what is taken in, have no tidings apart from those about the coming
and going of switches. -/
lemma tidings_of_untold {events : List Event}
    (plain : ∀ e ∈ events, e.isPlain = true ∨ e.taker? ≠ none) :
    tidings events = tidings (registrations events) := by
  unfold tidings registrations
  rw [List.filter_filter]
  refine List.filter_congr fun e he => ?_
  rcases plain e he with h | h <;> cases e <;> first | rfl | cases h | exact (h rfl).elim

/-! ### Bursts that have ended -/

namespace Event

/-- The bursts that ended, each with the line that it was sent over, in order. -/
def burstsEnded (events : List Event) : List (Nat × Result Reference) :=
  events.filterMap fun e =>
    match e with
    | .burstEnded i r => some (i, r)
    | _ => none

@[simp] lemma burstsEnded_append (first rest : List Event) :
    burstsEnded (first ++ rest) = burstsEnded first ++ burstsEnded rest := by
  simp [burstsEnded]

lemma mem_burstsEnded {i : Nat} {r : Result Reference} {events : List Event} :
    (i, r) ∈ burstsEnded events ↔ .burstEnded i r ∈ events := by
  unfold burstsEnded
  rw [List.mem_filterMap]
  constructor
  · rintro ⟨e, he, h⟩
    cases e with
    | burstEnded j q =>
      cases h
      exact he
    | _ => cases h
  · exact fun he => ⟨_, he, rfl⟩

lemma burstsEnded_tidings (events : List Event) :
    burstsEnded (tidings events) = burstsEnded events :=
  filterMap_filter_of_none (fun e he => by cases e <;> first | rfl | cases he) events

end Event

lemma isAborted_abort (run : Burst.Run Reference) (cause : Burst.Failure) :
    (run.abort cause).isAborted = true := by
  simp [Burst.Run.abort, Burst.Run.abortedPath, Burst.Result.isAborted]

/-! ### Steps -/

/-- Whether the handler has nothing more to do about the news of a line. -/
def News.isOver : News → Bool
  | absent | returned | lost => true
  | _ => false

/-- What a step of the driving task of a line does to its stage and its news, with the tidings. -/
inductive Leg (i : Nat) (c : Connection) : Stage → News → List Event → Prop
  | goes {stage : Stage} (going : c.stage.phase ≠ .gone) (next : stage.isLast = false) :
      Leg i c stage c.news []
  | launches {stage : Stage} {switch : Reference} (was : c.stage.phase = .entering switch)
      (next : stage.phase = .serving switch) : Leg i c stage (.spawned switch) []
  | refused (was : c.stage.phase = .arriving) : Leg i c .ended c.news []
  | joins {switch : Reference} {removed : Bool} (was : c.stage = .joining switch removed)
      (told : c.news = .returned ∨ c.news = .lost) :
      Leg i c (if removed then .notifying switch else .ended) c.news []
  | notifies {switch : Reference} (was : c.stage = .notifying switch) :
      Leg i c .ended c.news [.disconnectedCalled i switch]

/-- What a step of the task that tells the handler of the switch of a line, with all that it lets the
world see, does to its news and to the handler, with the tidings. -/
inductive Tells (s t : State) (i : Nat) (events : List Event) : News → News → List Event → Prop
  | calls {switch : Reference} (same : t.handler = s.handler) (silent : outgoing events = []) :
      Tells s t i events (.spawned switch) (s.handler.firstNews switch) [.readyCalled i switch]
  | returns {switch : Reference} (same : t.handler = s.handler) (silent : outgoing events = []) :
      Tells s t i events (.observing switch) .returned [.readyReturned i switch]
  | attempts {run : Burst.Run Reference} (same : t.handler = s.handler)
      (more : run.isSending = true) (silent : outgoing events = []) :
      Tells s t i events (.bursting run)
        (.sending run (.looking (.connection run.switch) run.request.kind.message)) []
  | completes {run : Burst.Run Reference} (same : t.handler = s.handler)
      (done : run.isSending = false) (silent : outgoing events = []) :
      Tells s t i events (.bursting run) (.settling run.switch (.counting run.complete))
        [.burstEnded i run.complete]
  | sends {run : Burst.Run Reference} {x y : Sending} {u : State}
      (same : t.handler = s.handler) (step : Sent s (.handler i) x u events (.inl y)) :
      Tells s t i events (.sending run x) (.sending run y) []
  | delivers {run : Burst.Run Reference} {x : Sending} {xid : UInt32} {u : State}
      (same : t.handler = s.handler) (step : Sent s (.handler i) x u events (.inr (.ok xid))) :
      Tells s t i events (.sending run x) (.bursting run.succeed) []
  | aborts {run : Burst.Run Reference} {x : Sending} {f : Failure} {u : State} {seen : List Event}
      (same : t.handler = s.handler) (step : Sent s (.handler i) x u seen (.inr (.error f)))
      (ends : outgoing events = outgoing seen) :
      Tells s t i events (.sending run x)
        (.settling run.switch (.counting (run.abort (.ofSwitch f))))
        [.burstEnded i (run.abort (.ofSwitch f))]
  | settles {switch : Reference} {todo : Harness.Settling} {harness : Harness}
      {effect : Harness.Effect} (was : s.handler = .harness harness)
      (settle : harness.settle? todo = some effect) (now : t.handler = .harness effect.harness)
      (next : effect.next ≠ .settled) (silent : outgoing events = []) :
      Tells s t i events (.settling switch todo) (.settling switch effect.next) []
  | settled {switch : Reference} {todo : Harness.Settling} {harness : Harness}
      {effect : Harness.Effect} (was : s.handler = .harness harness)
      (settle : harness.settle? todo = some effect) (now : t.handler = .harness effect.harness)
      (next : effect.next = .settled) (silent : outgoing events = []) :
      Tells s t i events (.settling switch todo) .returned [.readyReturned i switch]

namespace Stage

variable {stage : Stage}

lemma isLast_of_phase (here : stage.phase ≠ .gone) (kept : ∀ r, stage.phase ≠ .left r true) :
    stage.isLast = false := by
  cases stage <;> first | rfl | exact (here rfl).elim | exact (kept _ rfl).elim

lemma phase_ne_gone (h : stage.isLast = false) : stage.phase ≠ .gone := by
  have served (r : Option Reference) : Phase.of r ≠ .gone := by cases r <;> simp [Phase.of]
  cases stage with
  | ended => cases h
  | _ => first | exact served _ | simp [phase]

lemma ended_of_phase (h : stage.phase = .gone) : stage = .ended := by
  have served (r : Option Reference) : Phase.of r ≠ .gone := by cases r <;> simp [Phase.of]
  cases stage <;> first | rfl | exact (served _ h).elim | cases h

end Stage

section Steps

variable {s t : State} {i : Nat} {c : Connection} {events : List Event}

/-- **The course of a connection is made of legs.** -/
theorem Course.leg {g g' : Switch.Registry} {session : Session} {stage : Stage} {news : News}
    {seen : List Event} (h : Course g i c session stage news g' seen) :
    Leg i c stage news (tidings seen) := by
  cases h with
  | goes datapath number phase next =>
    rcases next with next | ⟨switch, was, rfl, told⟩
    · exact .goes (phase ▸ Stage.phase_ne_gone next) next
    · have leg : Leg i c (if true then .notifying switch else .ended) c.news [] := .joins was told
      exact leg
  | registers was datapath number phase =>
    exact .goes (by simp [was]) (Stage.isLast_of_phase (by simp [phase]) (by simp [phase]))
  | launches was phase => exact .launches was phase
  | deregisters was phase next => exact .goes (by simp [was]) next
  | ends was datapath number phase seen leaves =>
    obtain rfl := Stage.ended_of_phase phase
    rcases leaves with ⟨was, rfl⟩ | ⟨switch, was, told, rfl⟩ | ⟨switch, was, rfl⟩
    · exact .refused was
    · have leg : Leg i c (if false then .notifying switch else .ended) c.news [] := .joins was told
      exact leg
    · exact .notifies was

lemma Turned.handler {served : Option Reference} {r : State × List Event}
    (h : Turned s i served r) : r.1.handler = s.handler := by
  obtain ⟨-, g, -, e, -, -⟩ := h
  rw [e]
  rfl

lemma Drove.handler (h : Drove s i c t events) : t.handler = s.handler := by
  cases h with
  | turned idle same turn => exact turn.handler
  | wrote stage polling ready turn => exact turn.handler
  | got stage polling ready turn => exact turn.handler
  | waited | displaced | launched | deregistered | notified => rfl
  | @closed served => cases served <;> rfl
  | registered stage =>
    unfold State.register
    split
    · rfl
    · dsimp only
      split <;> rfl
  | @joined switch removed => cases removed <;> rfl

lemma Sent.handler {who : Actor} {x : Sending} {result : Sending ⊕ Except Failure UInt32}
    (h : Sent s who x t events result) : t.handler = s.handler := by
  cases h <;> rfl

/-- Events that are plain and not about the coming and going of switches are no tidings. -/
lemma untold_of_plain (plain : ∀ e ∈ events, e.isPlain = true) (quiet : registrations events = []) :
    tidings events = [] := by
  rw [tidings_of_untold fun e he => .inl (plain e he), quiet]
  rfl

lemma Sent.untold {who : Actor} {x : Sending} {result : Sending ⊕ Except Failure UInt32}
    (h : Sent s who x t events result) : tidings events = [] :=
  untold_of_plain h.plain h.effect.2.2.2.1

lemma tidings_settling (notices : List Harness.Notice) (stop : Bool) :
    tidings ((notices.map fun n => Event.notice (.harness n)) ++
      if stop then [.stopRequested] else []) = [] :=
  filter_settling _ _ _ (fun _ => rfl) rfl

/-- **What a step of a handler does to the news of its line.** -/
theorem Handled.tells (hc : s.connection? i = some c) (h : Handled s i c t events) :
    ∃ news, (∀ j, t.core? j = if i = j then some (c.session, c.stage, news) else s.core? j) ∧
      Tells s t i events c.news news (tidings events) := by
  have same : ∀ j, s.core? j = s.core? j := fun _ => rfl
  cases h with
  | called was now first =>
    rw [was, first]
    exact ⟨_, State.core?_told hc same _, .calls rfl rfl⟩
  | observed was =>
    rw [was]
    exact ⟨_, State.core?_told hc same _, .returns rfl rfl⟩
  | attempted was more =>
    rw [was]
    exact ⟨_, State.core?_told hc same _, .attempts rfl more rfl⟩
  | completed was done =>
    rw [was]
    exact ⟨_, State.core?_told hc same _, .completes rfl done rfl⟩
  | sent was step =>
    rw [was, step.untold]
    exact ⟨_, State.core?_told hc step.effect.1 _, .sends step.handler step⟩
  | delivered was step =>
    rw [was, step.untold]
    exact ⟨_, State.core?_told hc step.effect.1 _, .delivers step.handler step⟩
  | aborted was step =>
    rw [was, tidings_append, step.untold]
    exact ⟨_, State.core?_told hc step.effect.1 _, .aborts step.handler step
      ((outgoing_append _ _).trans (List.append_nil _))⟩
  | @settled switch todo harness effect was handler settle =>
    rw [was]
    have silent : outgoing ((effect.notices.map fun n => Event.notice (.harness n)) ++
        if effect.stop then [.stopRequested] else []) = [] := filter_settling _ _ _ (fun _ => rfl) rfl
    unfold State.settle
    dsimp only
    split
    next next =>
      rw [tidings_append, tidings_settling]
      exact ⟨_, State.core?_told hc same _, .settled handler settle rfl next
        (by rw [outgoing_append, silent]; rfl)⟩
    next todo' next =>
      rw [tidings_settling]
      exact ⟨_, State.core?_told hc same _, .settles handler settle rfl next silent⟩

/-- What a step does to the stages and the news of the lines and to the handler: nothing, or a line is
accepted, or the driving task of a line takes a leg, or a handler tells. Only a task that tells a handler
writes what a burst sends. -/
inductive Tale (s t : State) (events : List Event) : Prop
  | calm (lines : ∀ i, t.core? i = s.core? i) (handler : t.handler = s.handler)
      (untold : tidings events = [])
      (unsent : ∀ e ∈ events, ∀ i, e.writer? ≠ some (.handler i))
  | accepts {i : Nat} {session : Session} (fresh : s.core? i = none)
      (lines : ∀ j, t.core? j = if i = j then some (session, .opening, .absent) else s.core? j)
      (handler : t.handler = s.handler) (untold : tidings events = [])
      (unsent : ∀ e ∈ events, ∀ i, e.writer? ≠ some (.handler i))
  | drives {i : Nat} {c : Connection} {session : Session} {stage : Stage} {news : News}
      (was : s.core? i = some c.core)
      (lines : ∀ j, t.core? j = if i = j then some (session, stage, news) else s.core? j)
      (course : Course s.registry i c session stage news t.registry (registrations events))
      (told : tidings events = tidings (registrations events)) (handler : t.handler = s.handler)
      (unsent : ∀ e ∈ events, ∀ i, e.writer? ≠ some (.handler i))
  | tells {i : Nat} {session : Session} {stage : Stage} {news news' : News}
      (was : s.core? i = some (session, stage, news))
      (lines : ∀ j, t.core? j = if i = j then some (session, stage, news') else s.core? j)
      (tells : Tells s t i events news news' (tidings events))
      (own : ∀ e ∈ events, ∀ w, e.writer? = some w → w = .handler i)

/-- **Every step tells one of these tales.** -/
theorem step?_tale (orderly : s.Orderly) {a : Action} (h : s.step? a = some (t, events)) :
    Tale s t events := by
  have writers (e : Event) (he : e ∈ events) (w : Actor) (hw : e.writer? = some w) :
      a.task? = some w := step?_writer orderly h he hw
  have unsent (other : ∀ i, a.task? ≠ some (.handler i)) :
      ∀ e ∈ events, ∀ i, e.writer? ≠ some (.handler i) :=
    fun e he i hw => other i (writers e he _ hw)
  cases State.step?_moved h with
  | @drove i d c _ _ hc step =>
    obtain ⟨session, stage, news, core, -, course⟩ := step.effect hc
    obtain ⟨-, -, -, -, -, seen⟩ := State.drive?_takes h
    refine .drives (State.core?_of_connection? hc) core course (tidings_of_untold fun e he => ?_)
      step.handler (unsent (by simp [Action.task?]))
    rcases seen e he with plain | ⟨bytes, rfl⟩ | ⟨frame, rfl⟩
    · exact .inl plain
    · exact .inr (by simp [Event.taker?])
    · exact .inr (by simp [Event.taker?])
  | @told i d c _ _ hc step =>
    obtain ⟨news, core, tells⟩ := step.tells hc
    refine .tells (State.core?_of_connection? hc) core tells fun e he w hw => ?_
    exact (Option.some.inj (writers e he w hw)).symm
  | answered call step =>
    obtain ⟨caller', core, -, -, quiet, -⟩ := step.effect
    refine .calm core ?_ (untold_of_plain step.plain quiet) (unsent (by simp [Action.task?]))
    cases step with
    | sent step | delivered step | failed step => exact step.handler
    | waited | closed => rfl
  | @accepted d i rest started acceptor backlog =>
    obtain ⟨session, -, -, -, hn, connection, seen⟩ := State.core?_acceptFirst orderly backlog
    have lines (j : Nat) : s.acceptFirst.1.core? j =
        if i = j then some (session, .opening, .absent) else s.core? j := by
      unfold State.core?
      rw [connection]
      split <;> rfl
    refine .accepts (State.core?_eq_none_iff.2 hn) lines ?_ ?_ (unsent (by simp [Action.task?]))
    · simp [State.acceptFirst, backlog, State.modifyLine]
    · rw [seen]
      rfl
  | called call =>
    obtain ⟨caller, rfl, -⟩ := State.call?_eq_some call
    exact .calm (fun _ => rfl) rfl rfl (by simp)
  | @connected peer going =>
    exact .calm (State.core?_congr (State.connection?_connect s peer)) rfl rfl (by simp)
  | aside world task silent quiet =>
    have core := State.core?_congr world.connection
    have elsewhere : ∀ i, a.task? ≠ some (.handler i) := by
      intro i
      rcases task with task | task <;> simp [task]
    rcases task with task | task
    · obtain ⟨handler, -, rfl⟩ := State.step?_silent h task
      exact .calm core handler rfl (by simp)
    · cases a with
      | run who d =>
        cases task
        obtain ⟨handler, plain⟩ := State.accept?_plain h
        exact .calm core handler (untold_of_plain plain quiet) (unsent elsewhere)
      | _ => cases task

end Steps

/-! ### The news of one line -/

/-- The line about whose news an event tells. -/
def Event.hearer? : Event → Option Nat
  | readyCalled i _ | readyReturned i _ | burstEnded i _ => some i
  | _ => none

/-- The news of a line, which are absent before there is a connection. -/
def State.newsOf (s : State) (i : Nat) : News := (s.news? i).getD .absent

section News

variable {s t : State} {i : Nat} {events : List Event}

lemma State.newsOf_of_core? {session : Session} {stage : Stage} {news : News}
    (h : s.core? i = some (session, stage, news)) : s.newsOf i = news := by
  simp [newsOf, news?, h]

lemma State.newsOf_congr (h : t.core? i = s.core? i) : t.newsOf i = s.newsOf i := by
  simp [newsOf, news?, h]

/-- News that are there are those of a connection. -/
lemma State.core?_of_newsOf (present : s.newsOf i ≠ .absent) :
    ∃ session stage, s.core? i = some (session, stage, s.newsOf i) := by
  unfold newsOf news? at *
  cases core : s.core? i with
  | none => simp [core] at present
  | some c => exact ⟨c.1, c.2.1, rfl⟩

/-- What a step makes of the news of one line: nothing is told of it, and they stay as they are or are
about to be told; or the task that tells of it does something about them. -/
inductive Hears (s t : State) (i : Nat) (events : List Event) : Prop
  | rests (next : t.newsOf i = s.newsOf i ∨
        s.newsOf i = .absent ∧ ∃ switch, t.newsOf i = .spawned switch)
      (untold : ∀ e ∈ events, e.hearer? ≠ some i)
      (unsent : ∀ e ∈ events, e.writer? ≠ some (.handler i))
  | tells (tells : Tells s t i events (s.newsOf i) (t.newsOf i) (tidings events))

/-- Who tells of a line is among the tidings. -/
lemma untold_of_tidings {seen : List Event} (told : tidings events = seen)
    (quiet : ∀ e ∈ seen, e.hearer? ≠ some i) : ∀ e ∈ events, e.hearer? ≠ some i := by
  intro e he hears
  refine quiet e (told ▸ mem_tidings.2 ⟨he, ?_⟩) hears
  cases e <;> first | rfl | cases hears

/-- A driving task tells of nobody's news, and those of its line stay as they are or are about to be
told. -/
lemma Leg.news {c : Connection} {stage : Stage} {news : News} {seen : List Event}
    (leg : Leg i c stage news seen)
    (fresh : ∀ switch, c.stage.phase = .entering switch → c.news = .absent) :
    (news = c.news ∨ c.news = .absent ∧ ∃ switch, news = .spawned switch) ∧
      ∀ j, ∀ e ∈ seen, e.hearer? ≠ some j := by
  cases leg with
  | launches entering next => exact ⟨.inr ⟨fresh _ entering, _, rfl⟩, by simp⟩
  | goes | refused | joins => exact ⟨.inl rfl, by simp⟩
  | notifies => exact ⟨.inl rfl, by simp [Event.hearer?]⟩

/-- What is told of one line is not told of another. -/
lemma Tells.untold_of_ne {j : Nat} {news news' : News} {seen : List Event}
    (tells : Tells s t i events news news' seen) (ne : i ≠ j) :
    ∀ e ∈ seen, e.hearer? ≠ some j := by
  cases tells <;> simp [Event.hearer?, ne]

/-- **What a step makes of the news of one line.** -/
theorem Tale.hears (tale : Tale s t events) (orderly : s.Orderly) (i : Nat) : Hears s t i events := by
  cases tale with
  | calm lines handler untold unsent =>
    exact .rests (.inl (State.newsOf_congr (lines i))) (untold_of_tidings untold (by simp))
      fun e he => unsent e he i
  | @accepts k session fresh lines handler untold unsent =>
    refine .rests (.inl ?_) (untold_of_tidings untold (by simp)) fun e he => unsent e he i
    by_cases hk : k = i
    · subst hk
      rw [State.newsOf_of_core? (by rw [lines, if_pos rfl])]
      simp [State.newsOf, State.news?, fresh]
    · exact State.newsOf_congr (by rw [lines, if_neg hk])
  | @drives k c session stage news was lines course told handler unsent =>
    obtain ⟨next, quiet⟩ := course.leg.news fun switch entering =>
      orderly.untold k c.core was (.inr ⟨switch, entering⟩)
    refine .rests ?_ (untold_of_tidings told (quiet i)) fun e he => unsent e he i
    by_cases hk : k = i
    · subst hk
      rwa [State.newsOf_of_core? was, State.newsOf_of_core? (by rw [lines, if_pos rfl])]
    · exact .inl (State.newsOf_congr (by rw [lines, if_neg hk]))
  | @tells k session stage news news' was lines tells own =>
    by_cases hk : k = i
    · subst hk
      refine .tells ?_
      rwa [State.newsOf_of_core? was, State.newsOf_of_core? (by rw [lines, if_pos rfl])]
    · refine .rests (.inl (State.newsOf_congr (by rw [lines, if_neg hk])))
        (untold_of_tidings rfl (tells.untold_of_ne hk)) fun e he writes => hk ?_
      exact (Actor.handler.inj (own e he _ writes)).symm

/-- A handler is told that a switch is ready as it turns to the news of that. -/
lemma Hears.calls {switch : Reference} (hears : Hears s t i events)
    (he : .readyCalled i switch ∈ events) : s.newsOf i = .spawned switch := by
  cases hears with
  | rests next untold => exact (untold _ he rfl).elim
  | tells tells =>
    have member : .readyCalled i switch ∈ tidings events := mem_tidings.2 ⟨he, rfl⟩
    generalize s.newsOf i = news, t.newsOf i = news', tidings events = seen at tells member ⊢
    cases tells with
    | calls =>
      obtain ⟨-, rfl⟩ := Event.readyCalled.inj (List.mem_singleton.1 member)
      rfl
    | _ => simp at member

end News

/-! ### The end of the news -/

/-- A driving task that has nothing left to do but to tell that the switch is gone finds the news of its
line over. -/
def Heard (s : State) : Prop :=
  ∀ i session stage news, s.core? i = some (session, stage, news) → stage.isLast = true →
    news.isOver = true

/-- **Every step leaves the news heard.** -/
theorem Heard.step {s t : State} {events : List Event} (heard : Heard s) (orderly : s.Orderly)
    (tale : Tale s t events) : Heard t := by
  intro j session stage news hj last
  cases tale with
  | calm lines handler untold => exact heard j session stage news (lines j ▸ hj) last
  | accepts fresh lines handler untold =>
    rw [lines] at hj
    split at hj
    · cases hj
      cases last
    · exact heard j session stage news hj last
  | @drives i c _ _ _ was lines course told handler =>
    rw [lines] at hj
    split at hj
    · cases hj
      have leg := course.leg
      generalize tidings (registrations events) = seen at leg
      cases leg with
      | goes going next => simp [next] at last
      | launches entering next =>
        rw [Stage.isLast_of_phase (by simp [next]) (by simp [next])] at last
        cases last
      | refused arriving =>
        have absent : c.news = .absent := orderly.untold i c.core was (.inl arriving)
        rw [absent]
        rfl
      | joins at_join told => rcases told with told | told <;> rw [told] <;> rfl
      | notifies at_notice => exact heard i _ _ _ was (by rw [at_notice]; rfl)
    · exact heard j session stage news hj last
  | @tells i _ _ news₀ _ was lines tells =>
    rw [lines] at hj
    split at hj
    · cases hj
      have ceased := heard i _ _ _ was last
      generalize tidings events = seen at tells
      cases tells <;> cases ceased
    · exact heard j session stage news hj last

theorem heard_of_steps? {settings : Settings} {handler : Handler} {capacity : Nat}
    {actions : List Action} {s : State} {events : List Event}
    (run : (State.start settings handler capacity).steps? actions = some (s, events)) : Heard s := by
  refine State.run_induction (P := fun _ s _ => Heard s) (fun i session stage news hi => ?_) ?_ run
  · simp [State.core?, State.connection?, State.start] at hi
  · intro actions s before a t after before_run heard step
    have orderly := orderly_of_run before_run
    exact heard.step orderly (step?_tale orderly step)

/-- Once a controller has stopped, the news of all its lines are over. -/
theorem over_of_stopped {settings : Settings} {handler : Handler} {capacity : Nat}
    {actions : List Action} {s : State} {events : List Event}
    (run : (State.start settings handler capacity).steps? actions = some (s, events))
    (stopped : s.acceptor = .stopped) (i : Nat) : (s.newsOf i).isOver = true := by
  by_cases absent : s.newsOf i = .absent
  · rw [absent]
    rfl
  · obtain ⟨session, stage, core⟩ := State.core?_of_newsOf absent
    have ended : stage = .ended :=
      over_of_steps? run stopped i session stage (standing?_of_core? core)
    exact heard_of_steps? run i session stage _ core (by rw [ended]; rfl)

end FlowBurst.Controller
