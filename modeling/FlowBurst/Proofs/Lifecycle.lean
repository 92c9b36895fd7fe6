import FlowBurst.Proofs.Handlers
import FlowBurst.Proofs.Handshake

/-!
# The life of a switch as its handler is told it

The handler of a controller is told that a switch is ready once that has registered, and that it is
gone once the handler is done with the first and the connection of the switch has taken its own entry
out of the registry. A handler that breaks down over a switch is done with it all the same. Main
statement: `lifecycle_in_order`.
-/

namespace FlowBurst.Controller

open FlowBurst.Switch (Handle Reference Registry Session)

/-! ### Callbacks -/

namespace Event

/-- Whether an event is a callback about the switch of a line, or the end of one. -/
def isCallback (i : Nat) : Event → Bool
  | readyCalled j _ | readyReturned j _ | disconnectedCalled j _ => j = i
  | _ => false

/-- The callbacks about the switch of a line, in order. -/
def callbacks (i : Nat) (events : List Event) : List Event := events.filter (isCallback i)

@[simp] lemma callbacks_append (i : Nat) (first rest : List Event) :
    callbacks i (first ++ rest) = callbacks i first ++ callbacks i rest := by simp [callbacks]

/-- Callbacks are tidings. -/
lemma callbacks_tidings (i : Nat) (events : List Event) :
    callbacks i (tidings events) = callbacks i events := by
  unfold callbacks tidings
  rw [List.filter_filter]
  refine List.filter_congr fun e _ => ?_
  cases e <;> simp [isCallback, isTiding]

end Event

/-- Whether a handler breaks down over a switch. -/
def Handler.breaksOver (h : Handler) (switch : Reference) : Bool :=
  match h with
  | .observer faulty => switch.datapath ∈ faulty
  | .harness _ => false

/-- All that happens as a handler is told that the switch of a line is ready: it is done with that
unless it breaks down. -/
def Handler.readiness (h : Handler) (i : Nat) (switch : Reference) : List Event :=
  .readyCalled i switch :: if h.breaksOver switch then [] else [.readyReturned i switch]

namespace News

/-- Whether the news of a line are about a switch, over which the handler breaks down or not. -/
def IsOf (switch : Reference) (broken : Bool) : News → Prop
  | absent => False
  | spawned r => r = switch
  | observing r | settling r _ => r = switch ∧ broken = false
  | bursting run | sending run _ => run.switch = switch ∧ broken = false
  | returned => broken = false
  | lost => broken = true

/-- The callbacks that have led to the news of a line. -/
def callbacks (i : Nat) (switch : Reference) : News → List Event
  | absent | spawned _ => []
  | observing _ | bursting _ | sending _ _ | settling _ _ | lost => [.readyCalled i switch]
  | returned => [.readyCalled i switch, .readyReturned i switch]

variable {h : Handler} {i : Nat} {switch : Reference} {news : News}

/-- News that are over have led the handler through all of its readiness. -/
lemma callbacks_of_over (own : news.IsOf switch (h.breaksOver switch)) (ceased : news.isOver = true) :
    news.callbacks i switch = h.readiness i switch := by
  unfold Handler.readiness
  cases news with
  | returned | lost =>
    rw [show h.breaksOver switch = _ from own]
    rfl
  | absent => exact own.elim
  | _ => cases ceased

/-- News have led the handler through some of its readiness. -/
lemma callbacks_isPrefix (own : news.IsOf switch (h.breaksOver switch)) :
    news.callbacks i switch <+: h.readiness i switch := by
  cases news with
  | absent => exact own.elim
  | spawned => exact List.nil_prefix
  | returned | lost =>
    have all := callbacks_of_over (i := i) own rfl
    exact all ▸ List.prefix_rfl
  | _ => exact List.cons_prefix_cons.2 ⟨rfl, List.nil_prefix⟩

lemma isOf_firstNews (h : Handler) (switch : Reference) :
    (h.firstNews switch).IsOf switch (h.breaksOver switch) ∧
      (h.firstNews switch).callbacks i switch = [.readyCalled i switch] := by
  cases h with
  | observer faulty =>
    unfold Handler.firstNews Handler.breaksOver
    dsimp only
    split
    next member => exact ⟨by simp [IsOf, member], rfl⟩
    next member => exact ⟨by simp [IsOf, member], rfl⟩
  | harness policy => exact ⟨⟨rfl, rfl⟩, rfl⟩

end News

/-! ### One step -/

section Steps

variable {s t : State} {i j : Nat} {news news' : News} {seen events : List Event}
  {switch : Reference}

/-- A handler has more to do about news that it acts on. -/
lemma Tells.isOver (h : Tells s t i events news news' seen) : news.isOver = false := by
  cases h <;> rfl

/-- What a handler breaks down over stays as it is. -/
lemma Tells.breaksOver (h : Tells s t i events news news' seen) :
    t.handler.breaksOver = s.handler.breaksOver := by
  cases h with
  | settles was settle now | settled was settle now =>
    rw [was, now]
    rfl
  | calls same | returns same | attempts same | completes same | sends same | delivers same
  | aborts same => rw [same]

/-- **What a handler does about the news of a line** keeps them of their switch, with the callbacks that
have led to them. -/
theorem Tells.callbacks (h : Tells s t i events news news' seen)
    (own : news.IsOf switch (s.handler.breaksOver switch)) :
    news'.IsOf switch (s.handler.breaksOver switch) ∧
      news'.callbacks i switch = news.callbacks i switch ++ Event.callbacks i seen := by
  have none_ended (r : Burst.Result Reference) : Event.callbacks i [.burstEnded i r] = [] := rfl
  cases h with
  | calls same =>
    obtain rfl := own
    refine ⟨(News.isOf_firstNews (i := i) _ _).1, ?_⟩
    rw [(News.isOf_firstNews _ _).2]
    simp [News.callbacks, Event.callbacks, Event.isCallback]
  | returns same | settled was settle now =>
    obtain ⟨rfl, sound⟩ := own
    exact ⟨sound, by simp [News.callbacks, Event.callbacks, Event.isCallback]⟩
  | attempts same | sends same | delivers same | settles was settle now => exact ⟨own, rfl⟩
  | completes same | aborts same => exact ⟨own, rfl⟩

/-- What a handler does about the news of a line is about that line. -/
lemma Tells.callbacks_of_ne (h : Tells s t i events news news' seen) (ne : i ≠ j) :
    Event.callbacks j seen = [] := by
  cases h <;> simp [Event.callbacks, Event.isCallback, ne]

/-- What a driving task lets the handler be told is about its own line. -/
lemma Course.callbacks_of_ne {g g' : Registry} {c : Connection} {session : Session} {stage : Stage}
    (h : Course g i c session stage news g' seen) (ne : i ≠ j) : Event.callbacks j seen = [] := by
  cases h with
  | goes | launches | registers | deregisters => rfl
  | ends _ _ _ _ seen =>
    rcases seen with rfl | ⟨switch, rfl⟩
    · rfl
    · simp [Event.callbacks, Event.isCallback, ne]

end Steps

/-- A connection that has left has deregistered its switch. -/
lemma Standing.deregistered_of_left {s : State} {events : List Event} (st : Standing s events) {i : Nat}
    {session : Session} {stage : Stage} {switch : Reference} {removed : Bool}
    (hx : s.standing? i = some (session, stage)) (left : stage.phase = .left switch removed) :
    .deregistered i switch removed ∈ events := by
  have record := st.record i
  rw [hx] at record
  obtain ⟨-, agrees⟩ := record
  rw [left] at agrees
  obtain ⟨-, -, gone⟩ := agrees
  exact mem_deregisteredBy.1 (by rw [gone]; exact List.mem_singleton_self _)

/-- The switch that the handler has been told of, or is about to be, by the phase of its connection. -/
def Phase.told? : Phase → Option Reference
  | serving switch | left switch _ => some switch
  | arriving | entering _ | gone => none

/-- A connection whose switch the handler is told of has registered that. -/
lemma Standing.registered_of_told {s : State} {events : List Event} (st : Standing s events) {i : Nat}
    {session : Session} {stage : Stage} {switch : Reference}
    (hx : s.standing? i = some (session, stage)) (here : stage.phase.told? = some switch) :
    Event.registeredBy i events = [⟨switch, i⟩] := by
  cases phase : stage.phase with
  | serving r =>
    rw [phase] at here
    cases here
    exact (st.agrees hx (by rw [phase]; rfl)).2.2.1
  | left r removed =>
    rw [phase] at here
    cases here
    exact (st.deregisters_once (st.deregistered_of_left hx phase)).1
  | _ =>
    rw [phase] at here
    cases here

/-! ### The life of a line -/

/-- **How the life of a line goes**: its handler has not been told of a switch; or it is being told of
it, with the callbacks that its news say; or the connection has left, and the handler was told so in
the end if there was an entry to remove. -/
inductive Life (h : Handler) (i : Nat) (events : List Event) (session : Session) (stage : Stage)
    (news : News) (told : List Event) : Prop
  | untold (early : stage.phase.told? = none) (unready : stage = .ended → session.datapath = none)
      (nothing : news = .absent) (silent : told = [])
  | told {switch : Reference} (here : stage.phase.told? = some switch)
      (own : news.IsOf switch (h.breaksOver switch)) (heard : told = news.callbacks i switch)
  | parted {switch : Reference} {removed : Bool} (ended : stage = .ended)
      (left : .deregistered i switch removed ∈ events)
      (own : news.IsOf switch (h.breaksOver switch)) (ceased : news.isOver = true)
      (heard : told = news.callbacks i switch ++
        if removed then [.disconnectedCalled i switch] else [])

section Life

variable {h : Handler} {i : Nat} {session : Session} {stage : Stage} {news : News}
  {events more told : List Event}

lemma Life.later (life : Life h i events session stage news told) (more : List Event) :
    Life h i (events ++ more) session stage news told := by
  cases life with
  | untold early unready nothing silent => exact .untold early unready nothing silent
  | told here own heard => exact .told here own heard
  | parted ended left own ceased heard =>
    exact .parted ended (List.mem_append_left _ left) own ceased heard

/-- A connection that has yet to be served has had nobody told. -/
lemma Life.untold_of_phase (life : Life h i events session stage news told)
    (early : stage.phase.told? = none) (here : stage.phase ≠ .gone) : news = .absent ∧ told = [] := by
  cases life with
  | untold early unready nothing silent => exact ⟨nothing, silent⟩
  | told here own heard =>
    rw [early] at here
    cases here
  | parted ended left own ceased heard =>
    rw [ended] at here
    exact (here rfl).elim

/-- The handler of a connection that is served, or has left, was told of its switch. -/
lemma Life.told_of_phase (life : Life h i events session stage news told) {switch : Reference}
    (here : stage.phase.told? = some switch) :
    news.IsOf switch (h.breaksOver switch) ∧ told = news.callbacks i switch := by
  cases life with
  | untold early unready nothing silent =>
    rw [early] at here
    cases here
  | told now own heard =>
    obtain rfl := Option.some.inj (now.symm.trans here)
    exact ⟨own, heard⟩
  | parted ended left own ceased heard =>
    rw [ended] at here
    cases here

/-- **The life of a line goes on as its connection takes its course.** -/
theorem Life.course {c : Connection} {g g' : Registry} {seen : List Event}
    (life : Life h i events c.session c.stage c.news told)
    (heard : c.stage.isLast = true → c.news.isOver = true)
    (unready : c.stage.phase = .arriving → c.session.datapath = none)
    (left : ∀ r removed, c.stage.phase = .left r removed → .deregistered i r removed ∈ events)
    (course : Course g i c session stage news g' seen) :
    Life h i events session stage news (told ++ Event.callbacks i seen) := by
  cases course with
  | goes datapath number phase next =>
    rw [show Event.callbacks i [] = [] from rfl, List.append_nil]
    cases life with
    | untold early unready' nothing silent =>
      refine .untold (phase ▸ early) (fun ended => ?_) nothing silent
      rw [ended] at phase
      exact datapath.trans (unready' (Stage.ended_of_phase phase.symm))
    | told here own heard => exact .told (phase ▸ here) own heard
    | parted ended left own ceased heard =>
      rw [ended] at phase
      exact .parted (Stage.ended_of_phase phase) left own ceased heard
  | registers was datapath number phase =>
    obtain ⟨nothing, silent⟩ := life.untold_of_phase (by rw [was]; rfl) (by rw [was]; simp)
    refine .untold (by rw [phase]; rfl) (fun ended => ?_) nothing (by rw [silent]; rfl)
    rw [ended] at phase
    cases phase
  | launches was phase =>
    obtain ⟨-, silent⟩ := life.untold_of_phase (by rw [was]; rfl) (by rw [was]; simp)
    exact .told (by rw [phase]; rfl) rfl (by rw [silent]; rfl)
  | @deregisters _ switch was phase =>
    obtain ⟨own, told⟩ := life.told_of_phase (show _ = some switch by rw [was]; rfl)
    exact .told (by rw [phase]; rfl) own (by rw [told]; exact List.append_nil _)
  | ends was datapath number phase _ leaves =>
    obtain rfl := Stage.ended_of_phase phase
    rcases leaves with ⟨arriving, rfl⟩ | ⟨switch, joining, ceased, rfl⟩ | ⟨switch, notifying, rfl⟩
    · obtain ⟨nothing, silent⟩ :=
        life.untold_of_phase (by rw [arriving]; rfl) (by rw [arriving]; simp)
      exact .untold rfl (fun _ => datapath.trans (unready arriving)) nothing (by rw [silent]; rfl)
    · obtain ⟨own, told⟩ := life.told_of_phase (show _ = some switch by rw [joining]; rfl)
      have gone := left switch false (by rw [joining]; rfl)
      have done : c.news.isOver = true := by rcases ceased with e | e <;> rw [e] <;> rfl
      exact .parted rfl gone own done (by rw [told]; rfl)
    · obtain ⟨own, told⟩ := life.told_of_phase (show _ = some switch by rw [notifying]; rfl)
      have gone := left switch true (by rw [notifying]; rfl)
      have done := heard (by rw [notifying]; rfl)
      exact .parted rfl gone own done (by rw [told]; simp [Event.callbacks, Event.isCallback])

/-- **The life of a line goes on as its handler acts on the news.** -/
theorem Life.tells {s t : State} {news' : News} {seen : List Event}
    (life : Life h i events session stage news told)
    (same : s.handler.breaksOver = h.breaksOver) (tells : Tells s t i more news news' seen) :
    Life h i events session stage news' (told ++ Event.callbacks i seen) := by
  cases life with
  | untold early unready nothing silent =>
    have going := tells.isOver
    rw [nothing] at going
    cases going
  | told here own heard =>
    obtain ⟨own', callbacks⟩ := tells.callbacks (same ▸ own)
    exact .told here (same ▸ own') (by rw [heard, callbacks])
  | parted ended left own ceased heard =>
    rw [tells.isOver] at ceased
    cases ceased

end Life

/-! ### The lives of all lines -/

/-- The lives of the lines of a controller that began with a handler. -/
structure Lived (h : Handler) (s : State) (events : List Event) : Prop where
  same : s.handler.breaksOver = h.breaksOver
  unborn : ∀ i, s.core? i = none → Event.callbacks i events = []
  life : ∀ i session stage news, s.core? i = some (session, stage, news) →
    Life h i events session stage news (Event.callbacks i events)

namespace Lived

variable {h : Handler} {s t : State} {events more : List Event}

/-- A line that stays as it is while nothing is said of it. -/
lemma still (lived : Lived h s events) {i : Nat} (core : t.core? i = s.core? i)
    (silent : Event.callbacks i more = []) :
    (t.core? i = none → Event.callbacks i (events ++ more) = []) ∧
      ∀ session stage news, t.core? i = some (session, stage, news) →
        Life h i (events ++ more) session stage news (Event.callbacks i (events ++ more)) := by
  rw [core, Event.callbacks_append, silent, List.append_nil]
  exact ⟨lived.unborn i, fun session stage news hi => (lived.life i session stage news hi).later more⟩

/-- A line of which what it has come to is its life, and another that stays as it is. -/
lemma of_change (lived : Lived h s events) (same : t.handler.breaksOver = h.breaksOver) {i : Nat}
    {core : Session × Stage × News}
    (lines : ∀ j, t.core? j = if i = j then some core else s.core? j)
    (others : ∀ j, i ≠ j → Event.callbacks j more = [])
    (life : Life h i (events ++ more) core.1 core.2.1 core.2.2 (Event.callbacks i (events ++ more))) :
    Lived h t (events ++ more) := by
  refine ⟨same, fun j hj => ?_, fun j session stage news hj => ?_⟩
  all_goals by_cases hij : i = j
  · rw [lines, if_pos hij] at hj
    cases hj
  · exact (lived.still (by rw [lines, if_neg hij]) (others j hij)).1 hj
  · subst hij
    rw [lines, if_pos rfl] at hj
    cases hj
    exact life
  · exact (lived.still (by rw [lines, if_neg hij]) (others j hij)).2 session stage news hj

/-- **Every step keeps the lives.** -/
theorem step (lived : Lived h s events) (st : Standing s events) (heard : Heard s)
    (tale : Tale s t more) : Lived h t (events ++ more) := by
  have silent (untold : tidings more = []) (j : Nat) : Event.callbacks j more = [] := by
    rw [← Event.callbacks_tidings, untold]
    rfl
  cases tale with
  | calm lines handler untold =>
    refine ⟨by rw [handler, lived.same], fun j => ?_, fun j => ?_⟩
    · exact (lived.still (lines j) (silent untold j)).1
    · exact (lived.still (lines j) (silent untold j)).2
  | @accepts i session fresh lines handler untold =>
    refine lived.of_change (by rw [handler, lived.same]) lines (fun j _ => silent untold j) ?_
    refine .untold rfl (fun ended => by cases ended) rfl ?_
    rw [Event.callbacks_append, silent untold, List.append_nil, lived.unborn i fresh]
  | @drives i c session stage news was lines course told handler =>
    have seen (j : Nat) : Event.callbacks j more = Event.callbacks j (registrations more) := by
      rw [← Event.callbacks_tidings, told, Event.callbacks_tidings]
    refine lived.of_change (by rw [handler, lived.same]) lines (fun j ne => ?_) ?_
    · rw [seen, course.callbacks_of_ne ne]
    · have standing : s.standing? i = some (c.session, c.stage) := standing?_of_core? was
      rw [Event.callbacks_append, seen]
      refine ((lived.life i _ _ _ was).later more).course (heard i _ _ _ was)
        (st.datapath_of_arriving standing) (fun r removed left => ?_) course
      exact List.mem_append_left _ (st.deregistered_of_left standing left)
  | @tells i session stage news news' was lines tells =>
    refine lived.of_change (tells.breaksOver.trans lived.same) lines (fun j ne => ?_) ?_
    · rw [← Event.callbacks_tidings, tells.callbacks_of_ne ne]
    · rw [Event.callbacks_append, ← Event.callbacks_tidings i more]
      exact ((lived.life i _ _ _ was).later more).tells lived.same tells

end Lived

section Runs

variable {settings : Settings} {handler : Handler} {capacity : Nat} {actions : List Action}
  {s t : State} {events more : List Event} {i : Nat} {switch : Reference}

lemma lived_of_steps?
    (run : (State.start settings handler capacity).steps? actions = some (s, events)) :
    Lived handler s events := by
  refine State.run_induction (P := fun _ s events => Lived handler s events)
    ⟨rfl, fun _ _ => rfl, fun i session stage news hi => ?_⟩ ?_ run
  · simp [State.core?, State.connection?, State.start] at hi
  · intro actions s before a t after before_run lived step
    exact lived.step (standing_of_steps? before_run) (heard_of_steps? before_run)
      (step?_tale (orderly_of_run before_run) step)

/-- A handler is told that a switch is gone as the driving task comes to that. -/
lemma Tale.parts (tale : Tale s t more) (he : .disconnectedCalled i switch ∈ more) :
    tidings more = [.disconnectedCalled i switch] ∧
      ∃ session news, s.core? i = some (session, .notifying switch, news) := by
  have member : .disconnectedCalled i switch ∈ tidings more := mem_tidings.2 ⟨he, rfl⟩
  cases tale with
  | calm lines handler untold =>
    rw [untold] at member
    cases member
  | accepts fresh lines handler untold =>
    rw [untold] at member
    cases member
  | @drives k c _ _ _ was lines course told handler =>
    have leg := course.leg
    rw [told] at member ⊢
    generalize tidings (registrations more) = seen at leg member
    cases leg with
    | notifies notifying =>
      obtain ⟨rfl, rfl⟩ := Event.disconnectedCalled.inj (List.mem_singleton.1 member)
      exact ⟨rfl, c.session, c.news, notifying ▸ was⟩
    | _ => simp at member
  | tells was lines tells =>
    generalize tidings more = seen at tells member
    cases tells <;> simp at member

/-- A handle that was handed back is not removed by its own connection. -/
lemma not_removed_of_replaced
    (run : (State.start settings handler capacity).steps? actions = some (s, events))
    (few : s.accepted ≤ 2 ^ 64) {h k : Handle} (replaced : .registered k (some h) ∈ events) :
    .deregistered h.channel switch true ∉ events := by
  intro removed
  have st := standing_of_steps? run
  obtain ⟨first, rest, e⟩ := List.append_of_mem replaced
  obtain ⟨-, previous, before⟩ := later_of_steps? run first k h rest e
  have member : h ∈ Event.registeredBy h.channel events :=
    mem_registeredBy.2 ⟨rfl, previous, by simp [e, before]⟩
  rw [(st.deregisters_once removed).1, List.mem_singleton] at member
  have handed : 0 < Event.timesReplaced h events := List.countP_pos_iff.2 ⟨_, replaced, by simp⟩
  have taken : 0 < Event.timesRemoved h events :=
    List.countP_pos_iff.2 ⟨_, removed, by rw [member]; simp⟩
  have balance := balanced_of_steps? run few h
  have once := st.timesRegistered_le h
  omega

/-- What comes of a line once its controller has stopped: if it registered, its handler is done with the
news that it is ready, and was told that it is gone if its own deregistering removed its entry. -/
lemma Lived.ended (lived : Lived handler s events) (st : Standing s events) (ceased : Over s)
    (stopped : s.acceptor = .stopped) {h : Handle} {previous : Option Handle}
    (registered : .registered h previous ∈ events) :
    ∃ removed, .deregistered h.channel h.switch removed ∈ events ∧
      Event.callbacks h.channel events = handler.readiness h.channel h.switch ++
        if removed then [.disconnectedCalled h.channel h.switch] else [] := by
  have member : h ∈ Event.registeredBy h.channel events :=
    mem_registeredBy.2 ⟨rfl, previous, registered⟩
  obtain ⟨-, session, stage, standing, -⟩ := st.session_of_registered member
  obtain ⟨⟨session', stage', news⟩, core, e⟩ := Option.map_eq_some_iff.1 standing
  obtain ⟨rfl, rfl⟩ : session' = session ∧ stage' = stage := by simpa using e
  have ended : stage' = .ended := ceased stopped _ _ _ standing
  cases lived.life _ _ _ _ core with
  | untold early unready nothing silent =>
    have record := st.record h.channel
    rw [standing, Record, handle?, unready ended] at record
    rw [record.1] at member
    cases member
  | told here own heard =>
    rw [ended] at here
    cases here
  | @parted switch removed ended left own ceased heard =>
    rw [(st.deregisters_once left).1, List.mem_singleton] at member
    obtain rfl : h.switch = switch := congrArg Handle.switch member
    exact ⟨removed, left, by rw [heard, News.callbacks_of_over own ceased]⟩

/-- What is said of a line is part of a life of the switch that it registered. -/
lemma Lived.order (lived : Lived handler s events) (st : Standing s events) (i : Nat) :
    Event.callbacks i events = [] ∨ ∃ r, Event.registeredBy i events = [⟨r, i⟩] ∧
      Event.callbacks i events <+: handler.readiness i r ++ [.disconnectedCalled i r] := by
  cases core : s.core? i with
  | none => exact .inl (lived.unborn i core)
  | some core' =>
    obtain ⟨session, stage, news⟩ := core'
    cases lived.life i session stage news core with
    | untold early unready nothing silent => exact .inl silent
    | @told r here own heard =>
      refine .inr ⟨r, st.registered_of_told (standing?_of_core? core) here, ?_⟩
      rw [heard]
      exact (News.callbacks_isPrefix own).trans (List.prefix_append _ _)
    | @parted r removed ended left own ceased heard =>
      refine .inr ⟨r, (st.deregisters_once left).1, ?_⟩
      rw [heard, News.callbacks_of_over own ceased]
      cases removed with
      | false => exact List.prefix_append_right_inj _ |>.2 List.nil_prefix
      | true => exact List.prefix_rfl

/-- A switch that the handler is to be told of has registered. -/
lemma Lived.registered_of_spawned (lived : Lived handler s events) (st : Standing s events)
    (spawned : s.newsOf i = .spawned switch) :
    ∃ previous, .registered ⟨switch, i⟩ previous ∈ events := by
  obtain ⟨session, stage, core⟩ := State.core?_of_newsOf (s := s) (i := i) (by simp [spawned])
  rw [spawned] at core
  have registered : Event.registeredBy i events = [⟨switch, i⟩] := by
    cases lived.life _ _ _ _ core with
    | untold early unready nothing silent => cases nothing
    | told here own heard =>
      obtain rfl := own
      exact st.registered_of_told (standing?_of_core? core) here
    | parted ended left own ceased heard => cases ceased
  exact (mem_registeredBy.1 (registered ▸ List.mem_singleton_self (⟨switch, i⟩ : Handle))).2

section Order

variable (run : (State.start settings handler capacity).steps? actions = some (s, events))
include run

lemma called_of_steps? : ∀ first i r rest, events = first ++ .readyCalled i r :: rest →
    ∃ previous, .registered ⟨r, i⟩ previous ∈ first := by
  rintro first i r rest rfl
  obtain ⟨_, _, _, _, _, new, _, _, before_run, step, rfl, -⟩ := State.step_of_event run
  have orderly := orderly_of_run before_run
  have spawned := ((step?_tale orderly step).hears orderly i).calls
    (show Event.readyCalled i r ∈ _ by simp)
  obtain ⟨previous, member⟩ := (lived_of_steps? before_run).registered_of_spawned
    (standing_of_steps? before_run) spawned
  exact ⟨previous, List.mem_append_left _ member⟩

lemma parted_of_steps? : ∀ first i r rest, events = first ++ .disconnectedCalled i r :: rest →
    Event.callbacks i first = handler.readiness i r ∧ .deregistered i r true ∈ first := by
  rintro first i r rest rfl
  obtain ⟨_, _, _, _, _, new, _, _, before_run, step, rfl, -⟩ := State.step_of_event run
  have st := standing_of_steps? before_run
  have tale := step?_tale (orderly_of_run before_run) step
  obtain ⟨single, session, news, core⟩ := tale.parts (show Event.disconnectedCalled i r ∈ _ by simp)
  have ceased := heard_of_steps? before_run _ _ _ _ core rfl
  obtain ⟨own, told⟩ :=
    ((lived_of_steps? before_run).life _ _ _ _ core).told_of_phase (show _ = some r from rfl)
  -- The call is all that the step says of the handler, so that nothing goes before it there.
  have silent : Event.callbacks i new = [] := by
    have untold : tidings new = [] := State.filter_before rfl single
    rw [← Event.callbacks_tidings, untold]
    rfl
  refine ⟨?_, List.mem_append_left _ (st.deregistered_of_left (standing?_of_core? core) rfl)⟩
  rw [Event.callbacks_append, silent, List.append_nil, told, News.callbacks_of_over own ceased]

end Order

/-- **The lives that a handler is told of**, for every line of a run: what the callbacks about its switch
are, and what went before each. -/
structure Lifecycle (handler : Handler) (s : State) (events : List Event) : Prop where
  /-- Nothing is said of a line that has not registered. Of the switch of another the handler is told
  that it is ready and then that it is gone, each once and the second only when it is done with the
  first, because it has returned or broken down. -/
  order : ∀ i, Event.callbacks i events = [] ∨ ∃ r, Event.registeredBy i events = [⟨r, i⟩] ∧
    Event.callbacks i events <+: handler.readiness i r ++ [.disconnectedCalled i r]
  /-- Who registers has completed its handshake. -/
  shaken : ∀ first h previous rest, events = first ++ .registered h previous :: rest →
    ShookHands (Event.framesReceived h.channel first) h.datapath
  /-- That a switch is ready is said of one that has registered. -/
  called : ∀ first i r rest, events = first ++ .readyCalled i r :: rest →
    ∃ previous, .registered ⟨r, i⟩ previous ∈ first
  /-- That it is gone is said once the handler is done with that, and the deregistering of the connection
  itself has removed its entry, -/
  parted : ∀ first i r rest, events = first ++ .disconnectedCalled i r :: rest →
    Event.callbacks i first = handler.readiness i r ∧ .deregistered i r true ∈ first
  /-- which is never so if another connection has replaced it. -/
  replaced : s.accepted ≤ 2 ^ 64 → ∀ k h r, .registered k (some h) ∈ events →
    .disconnectedCalled h.channel r ∉ events
  /-- When the controller has stopped, its handler is done with the readiness of every switch that
  registered, and was told that it is gone just if it was never replaced. -/
  stopped : s.acceptor = .stopped → ∀ h previous, .registered h previous ∈ events →
    ∃ gone, Event.callbacks h.channel events = handler.readiness h.channel h.switch ++ gone ∧
      (s.accepted ≤ 2 ^ 64 → gone = if Event.timesReplaced h events = 0
        then [.disconnectedCalled h.channel h.switch] else [])

/-- **The callbacks of a handler are in order.** Whatever the order in which connections shake hands,
register, replace each other, close and deregister, and the handler takes its time, and whenever the
controller is asked to stop, what the handler is told of each connection is a life of it. -/
theorem lifecycle_in_order
    (run : (State.start settings handler capacity).steps? actions = some (s, events)) :
    Lifecycle handler s events := by
  have st := standing_of_steps? run
  have lived := lived_of_steps? run
  have parted := parted_of_steps? run
  refine ⟨lived.order st, shookHands_of_registered run, called_of_steps? run, parted,
    fun few k h r handed gone => ?_, fun stopped h previous registered => ?_⟩
  · obtain ⟨first, rest, e⟩ := List.append_of_mem gone
    have removed : .deregistered h.channel r true ∈ events :=
      e ▸ List.mem_append_left _ (parted first _ _ rest e).2
    exact not_removed_of_replaced run few handed removed
  · obtain ⟨removed, left, callbacks⟩ := lived.ended st (over_of_steps? run) stopped registered
    refine ⟨_, callbacks, fun few => ?_⟩
    have once : Event.timesRegistered h events = 1 := by
      refine Nat.le_antisymm (st.timesRegistered_le h) (List.countP_pos_iff.2 ⟨_, registered, ?_⟩)
      simp
    have balance := balanced_of_steps? run few h
    rw [once, present, st.registry_of_stopped (over_of_steps? run) stopped,
      if_neg List.not_mem_nil] at balance
    -- The handle was removed just if it was not handed back, as one of the two is so.
    cases removed with
    | true =>
      have taken : 0 < Event.timesRemoved h events := List.countP_pos_iff.2 ⟨_, left, by simp⟩
      rw [if_pos (show Event.timesReplaced h events = 0 by omega)]
      rfl
    | false =>
      have kept : Event.timesRemoved h events = 0 := by
        refine List.countP_eq_zero.2 fun e he taken => ?_
        cases e with
        | deregistered j switch b =>
          cases b with
          | false => cases taken
          | true =>
            obtain ⟨rfl, rfl⟩ : j = h.channel ∧ switch = h.switch := of_decide_eq_true taken
            have both := (st.deregisters_once he).2.symm.trans (st.deregisters_once left).2
            simp at both
        | _ => cases taken
      rw [if_neg (show ¬ Event.timesReplaced h events = 0 by omega)]
      rfl

end Runs

/-- A switch reconnects while its first connection is still served; then the controller stops. -/
def replacementToTheEnd : List Action :=
  arrival 0 5 ++ arrival 1 5 ++ [Action.stop] ++ List.replicate 2 (Action.go (.handler 0)) ++
    List.replicate 5 (Action.go (.driver 0)) ++ List.replicate 5 (Action.go (.driver 1)) ++
    List.replicate 2 (Action.go (.handler 1)) ++ List.replicate 2 (Action.go (.driver 1)) ++
    List.replicate 2 (Action.go .acceptor)

theorem lifecycle_replacement :
    ∃ s events, (State.start {} (.observer []) 40).steps? replacementToTheEnd = some (s, events) ∧
      s.acceptor = .stopped ∧
      Event.callbacks 0 events = [.readyCalled 0 ⟨⟨5⟩, 1⟩, .readyReturned 0 ⟨⟨5⟩, 1⟩] ∧
      Event.callbacks 1 events = [.readyCalled 1 ⟨⟨5⟩, 2⟩, .readyReturned 1 ⟨⟨5⟩, 2⟩,
        .disconnectedCalled 1 ⟨⟨5⟩, 2⟩] ∧ Lifecycle (.observer []) s events := by
  obtain ⟨⟨s, events⟩, run⟩ := Option.isSome_iff_exists.1
    (show ((State.start {} (.observer []) 40).steps? replacementToTheEnd).isSome = true by
      decide +kernel)
  have h : ((State.start {} (.observer []) 40).steps? replacementToTheEnd).all (fun r =>
      decide (r.1.acceptor = .stopped ∧
        Event.callbacks 0 r.2 = [.readyCalled 0 ⟨⟨5⟩, 1⟩, .readyReturned 0 ⟨⟨5⟩, 1⟩] ∧
        Event.callbacks 1 r.2 = [.readyCalled 1 ⟨⟨5⟩, 2⟩, .readyReturned 1 ⟨⟨5⟩, 2⟩,
          .disconnectedCalled 1 ⟨⟨5⟩, 2⟩])) = true := by decide +kernel
  rw [run] at h
  obtain ⟨stopped, first, second⟩ := of_decide_eq_true h
  exact ⟨s, events, run, stopped, first, second, lifecycle_in_order run⟩

/-- A switch over which the handler breaks down arrives and is let go as the controller stops. -/
def breakdown : List Action :=
  arrival 0 57005 ++ [Action.stop, .go (.handler 0)] ++ List.replicate 6 (Action.go (.driver 0)) ++
    List.replicate 2 (Action.go .acceptor)

/-- **A readiness that never returns**: the handler breaks down over a switch, and is told that the
switch is gone all the same. -/
theorem gone_unreturned :
    ∃ s events, (State.start {} (.observer [⟨57005⟩]) 40).steps? breakdown = some (s, events) ∧
      s.acceptor = .stopped ∧ Event.registeredBy 0 events = [⟨⟨⟨57005⟩, 1⟩, 0⟩] ∧
      Event.callbacks 0 events =
        [.readyCalled 0 ⟨⟨57005⟩, 1⟩, .disconnectedCalled 0 ⟨⟨57005⟩, 1⟩] ∧
      ∀ r, ¬ Event.callbacks 0 events <+:
        [.readyCalled 0 r, .readyReturned 0 r, .disconnectedCalled 0 r] := by
  obtain ⟨⟨s, events⟩, run⟩ := Option.isSome_iff_exists.1
    (show ((State.start {} (.observer [⟨57005⟩]) 40).steps? breakdown).isSome = true by
      decide +kernel)
  have h : ((State.start {} (.observer [⟨57005⟩]) 40).steps? breakdown).all (fun r =>
      decide (r.1.acceptor = .stopped ∧ Event.registeredBy 0 r.2 = [⟨⟨⟨57005⟩, 1⟩, 0⟩] ∧
        Event.callbacks 0 r.2 =
          [.readyCalled 0 ⟨⟨57005⟩, 1⟩, .disconnectedCalled 0 ⟨⟨57005⟩, 1⟩])) = true := by
    decide +kernel
  rw [run] at h
  obtain ⟨stopped, registered, callbacks⟩ := of_decide_eq_true h
  exact ⟨s, events, run, stopped, registered, callbacks, fun r => by simp [callbacks]⟩

end FlowBurst.Controller
