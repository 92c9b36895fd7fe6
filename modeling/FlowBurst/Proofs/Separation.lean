import FlowBurst.Proofs.Handlers
import FlowBurst.Proofs.Locality
import FlowBurst.Proofs.Replacing

/-!
# Lines apart by the datapaths of their switches

The datapath that a switch has reported stays the same. A scope that has a line whenever it has the
datapath of its switch splits a controller: whatever a line does about its own switch, or about an
earlier connection of it, stays on its side. Main statements: `reported?_step`, `inside_of_steps?`.
-/

namespace FlowBurst.Controller

open FlowBurst.Switch (DatapathId Handle Reference Session)

/-! ### What a switch has reported -/

/-- The datapath that the switch of a connection with a session has reported by a stage, if it has: in
the features that were just received, or before. -/
def Stage.reported? (session : Session) : Stage → Option DatapathId
  | registering features => some ⟨features.datapathId⟩
  | _ => session.datapath

/-- The datapath that the switch of a line has reported, if it has. -/
def State.reported? (s : State) (i : Nat) : Option DatapathId :=
  (s.connection? i).bind fun c => c.stage.reported? c.session

/-- The session of a connection stays discovered until its switch is registered. -/
def Undisturbed (s : State) : Prop :=
  ∀ i session stage, s.standing? i = some (session, stage) → stage.phase = .arriving →
    session.state = .discovered

section Reported

variable {s t : State} {i : Nat} {c : Connection} {d : DatapathId} {events more : List Event}

lemma Undisturbed.step (undisturbed : Undisturbed s) (stir : Stir s t more) : Undisturbed t := by
  intro j session stage hx arriving
  cases stir with
  | calm lines => exact undisturbed j _ _ (lines j ▸ hx) arriving
  | accepts fresh datapath number lines registry accepted seen state =>
    rw [lines] at hx
    split at hx
    · cases hx
      exact state
    · exact undisturbed j _ _ hx arriving
  | @drives i c session' stage' news was lines course =>
    rw [lines] at hx
    split at hx
    · cases hx
      generalize t.registry = registry, registrations more = seen at course
      cases course with
      | goes datapath number phase next kept =>
        rw [kept arriving]
        exact undisturbed i _ _ was (phase ▸ arriving)
      | launches _ phase | deregisters _ phase | registers _ _ _ phase | ends _ _ _ phase =>
        rw [phase] at arriving
        cases arriving
    · exact undisturbed j _ _ hx arriving

lemma undisturbed_of_steps? {settings : Settings} {handler : Handler} {capacity : Nat}
    {actions : List Action}
    (run : (State.start settings handler capacity).steps? actions = some (s, events)) :
    Undisturbed s :=
  State.run_induction (P := fun _ s _ => Undisturbed s) (fun _ _ _ hx => by cases hx)
    (fun _ _ _ _ _ _ before_run ih step => ih.step (step?_stir (orderly_of_run before_run) step)) run

lemma reported?_eq_standing? (s : State) (i : Nat) :
    s.reported? i = (s.standing? i).bind fun x => x.2.reported? x.1 := by
  unfold State.reported? State.standing? State.core?
  cases s.connection? i <;> rfl

lemma reported?_of_connection? (hc : s.connection? i = some c) :
    s.reported? i = c.stage.reported? c.session := by
  unfold State.reported?
  rw [hc, Option.bind_some]

/-- Only the features that were just received may say more than the session. -/
lemma Stage.reported?_of_phase {session : Session} {stage : Stage} (h : stage.phase ≠ .arriving) :
    stage.reported? session = session.datapath := by
  cases stage <;> first | rfl | exact (h rfl).elim

/-- A discovered session becomes ready. -/
lemma becomeReady_of_discovered {session : Session} (h : session.state = .discovered)
    (d : DatapathId) : ∃ ready, session.becomeReady d = .ok ready := by
  unfold Session.becomeReady Session.enter
  rw [h]
  exact ⟨_, rfl⟩

/-- The step in which a driving task registers its switch. -/
lemma reported?_of_registering {features : OpenFlow.Features} (hc : s.connection? i = some c)
    (stage : c.stage = .registering features) (discovered : c.session.state = .discovered)
    {disposition : Transport.Disposition} (h : s.drive? i disposition = some (t, more)) :
    t.reported? i = some ⟨features.datapathId⟩ := by
  obtain ⟨c', hc', h⟩ := Option.bind_eq_some_iff.1 h
  obtain rfl : c = c' := Option.some.inj (hc.symm.trans hc')
  rw [stage] at h
  obtain ⟨session, ready⟩ := becomeReady_of_discovered discovered ⟨features.datapathId⟩
  obtain ⟨-, -, core⟩ := s.register_of_ready i ready
  have core := core i
  rw [show s.register i c ⟨features.datapathId⟩ = (t, more) from eq_of_unlessFailing h, if_pos rfl,
    State.core?_of_connection? hc] at core
  rw [reported?_eq_standing?, standing?_of_core? core, Option.bind_some,
    Stage.reported?_of_phase, (becomeReady_eq_ok ready).1]
  cases s.registry.get? ⟨features.datapathId⟩ <;> simp [State.stageAfterRegister, Stage.phase]

/-- Whoever has a handle has the datapath that its switch has reported. -/
lemma reported?_of_knows (st : Standing s events) {h : Handle} (known : s.knows h = true) :
    s.reported? h.channel = some h.datapath := by
  obtain ⟨session, stage, hx, datapath, -⟩ := State.knows_iff.1 known
  have settled : stage.phase ≠ .arriving := by
    intro arriving
    rw [st.datapath_of_arriving hx arriving] at datapath
    cases datapath
  rw [reported?_eq_standing?, hx, Option.bind_some, Stage.reported?_of_phase settled, datapath]

/-- **The datapath that a switch has reported stays the same.** -/
theorem reported?_step (st : Standing s events) (undisturbed : Undisturbed s) (orderly : s.Orderly)
    {a : Action} (h : s.step? a = some (t, more)) (reported : s.reported? i = some d) :
    t.reported? i = some d := by
  obtain ⟨c, hc, -⟩ := Option.bind_eq_some_iff.1 reported
  have hx : s.standing? i = some (c.session, c.stage) :=
    standing?_of_core? (State.core?_of_connection? hc)
  rw [reported?_of_connection? hc] at reported
  by_cases arriving : c.stage.phase = .arriving
  · by_cases own : a.task? = some (.driver i)
    · obtain ⟨disposition, rfl⟩ : ∃ disposition, a = .run (.driver i) disposition := by
        cases a with
        | run who disposition => exact ⟨disposition, by rw [Option.some.inj own]⟩
        | _ => cases own
      have unnoted := st.datapath_of_arriving hx arriving
      cases stage : c.stage with
      | registering features =>
        rw [stage] at reported
        rw [← reported]
        exact reported?_of_registering hc stage (undisturbed i _ _ hx arriving) h
      | _ =>
        rw [stage] at reported
        exact (Option.some_ne_none d (reported.symm.trans unnoted)).elim
    · rw [reported?_eq_standing?, standing?_of_other orderly h own hx]
      exact reported
  · rw [Stage.reported?_of_phase arriving] at reported
    have stir := step?_stir orderly h
    have known : s.knows ⟨⟨d, c.session.connection⟩, i⟩ = true :=
      State.knows_iff.2 ⟨_, _, hx, reported, rfl⟩
    exact reported?_of_knows (st.step stir) (State.knows_step st stir known)

end Reported

/-! ### Harnesses that go on -/

/-- News about which no handler asks the controller to stop. -/
def News.Unlimited : News → Prop
  | settling _ todo => todo.Unlimited
  | _ => True

/-- The harness is plain, and what it has left to do for a burst was counted with no limit. -/
structure Carefree (s : State) : Prop where
  plain : s.Plain
  news : ∀ i session stage news, s.core? i = some (session, stage, news) → news.Unlimited

section Carefree

variable {s t : State} {i : Nat} {news news' : News} {seen more : List Event}

/-- A state with the handler of another one. -/
lemma State.Plain.congr (plain : s.Plain) (same : t.handler = s.handler) : t.Plain := by
  obtain ⟨h, hp, hs⟩ := plain
  exact ⟨h, hp, same.trans hs⟩

/-- What a plain harness does about the news of a line. -/
lemma Tells.carefree (plain : s.Plain) (unlimited : news.Unlimited)
    (h : Tells s t i more news news' seen) : t.Plain ∧ news'.Unlimited := by
  have settled {harness : Harness} {todo : Harness.Settling} {e : Harness.Effect}
      (was : s.handler = .harness harness) (unlimited : todo.Unlimited)
      (settle : harness.settle? todo = some e) (now : t.handler = .harness e.harness) :
      t.Plain ∧ e.next.Unlimited := by
    obtain ⟨policy, hp, hs⟩ := plain
    obtain rfl : harness = policy := Handler.harness.inj (was.symm.trans hs)
    obtain ⟨calm, -⟩ := hp.settles unlimited settle
    exact ⟨⟨_, calm.plain, now⟩, calm.next⟩
  cases h with
  | calls same =>
    refine ⟨plain.congr same, ?_⟩
    obtain ⟨_, -, hs⟩ := plain
    rw [hs]
    trivial
  | returns same | attempts same | completes same | sends same | delivers same | aborts same =>
    exact ⟨plain.congr same, trivial⟩
  | settles was settle now next => exact settled was unlimited settle now
  | settled was settle now next => exact ⟨(settled was unlimited settle now).1, trivial⟩

lemma Carefree.step (carefree : Carefree s) (tale : Tale s t more) : Carefree t := by
  obtain ⟨plain, unlimited⟩ := carefree
  cases tale with
  | calm lines handler =>
    exact ⟨plain.congr handler, fun j session stage news hj => unlimited j _ _ _ (lines j ▸ hj)⟩
  | accepts fresh lines handler =>
    refine ⟨plain.congr handler, fun j session stage news hj => ?_⟩
    rw [lines] at hj
    split at hj
    · cases hj
      trivial
    · exact unlimited j _ _ _ hj
  | drives was lines course told handler =>
    refine ⟨plain.congr handler, fun j session stage news hj => ?_⟩
    rw [lines] at hj
    split at hj
    · cases hj
      generalize t.registry = registry, registrations more = seen at course
      cases course with
      | launches => trivial
      | goes | registers | deregisters | ends => exact unlimited _ _ _ _ was
    · exact unlimited j _ _ _ hj
  | tells was lines tells own =>
    obtain ⟨plain', unlimited'⟩ := tells.carefree plain (unlimited _ _ _ _ was)
    refine ⟨plain', fun j session stage news hj => ?_⟩
    rw [lines] at hj
    split at hj
    · cases hj
      exact unlimited'
    · exact unlimited j _ _ _ hj

lemma carefree_of_steps? {settings : Settings} {harness : Harness} {capacity : Nat}
    {actions : List Action} {events : List Event} (plain : harness.Plain)
    (run : (State.start settings (.harness harness) capacity).steps? actions = some (s, events)) :
    Carefree s :=
  State.run_induction (P := fun _ s _ => Carefree s)
    ⟨⟨harness, plain, rfl⟩, fun _ _ _ _ hx => by cases hx⟩
    (fun _ _ _ _ _ _ before_run ih step => ih.step (step?_tale (orderly_of_run before_run) step)) run

end Carefree

/-! ### Scopes that split a controller -/

/-- A scope has a line whose switch has reported its datapath just if it has the datapath. -/
def Scope.Splits (p : Scope) (s : State) : Prop :=
  ∀ i d, s.reported? i = some d → (i ∈ p.lines ↔ d ∈ p.datapaths)

lemma Scope.Splits.rest {p : Scope} {s : State} (splits : p.Splits s) : p.rest.Splits s :=
  fun i d reported => not_congr (splits i d reported)

section Inside

variable {settings : Settings} {harness : Harness} {capacity : Nat} {actions : List Action} {s : State}
  {events : List Event} {p : Scope} {i : Nat}

/-- **What a line does stays on its side**, if a scope splits the controller. -/
theorem inside_of_steps? (plain : harness.Plain)
    (run : (State.start settings (.harness harness) capacity).steps? actions = some (s, events))
    (splits : p.Splits s) (hi : i ∈ p.lines) : Inside p s i := by
  have st := standing_of_steps? run
  have closers := closers_of_steps? run
  have briefed := briefed_of_steps? run
  have carefree := carefree_of_steps? plain run
  -- a handle of a datapath of the scope is one of its lines
  have own {h : Handle} (known : s.knows h = true) (hd : h.datapath ∈ p.datapaths) :
      h.channel ∈ p.lines := (splits _ _ (reported?_of_knows st known)).2 hd
  have noted {c : Connection} (hc : s.connection? i = some c) {d : DatapathId}
      (reported : c.stage.reported? c.session = some d) : d ∈ p.datapaths :=
    (splits i d ((reported?_of_connection? hc).trans reported)).1 hi
  have served {c : Connection} (hc : s.connection? i = some c) {switch : Reference}
      (held : c.stage.phase.held? = some switch) : switch.datapath ∈ p.datapaths := by
    obtain ⟨datapath, -⟩ := st.agrees (standing?_of_core? (State.core?_of_connection? hc)) held
    refine noted hc ((Stage.reported?_of_phase fun arriving => ?_).trans datapath)
    rw [arriving] at held
    cases held
  refine ⟨hi, fun d hd h hh => ?_, fun c hc => ?_, fun c hc => ?_⟩
  · obtain ⟨held, rfl⟩ := (Switch.Registry.get?_eq_some_iff st.ordered).1 hh
    exact own (State.knows_of_mem st held) hd
  · have closes : c.stage.Closes s :=
      closers.stages i c.session c.stage (standing?_of_core? (State.core?_of_connection? hc))
    cases stage : c.stage with
    | registering features => exact noted hc (by rw [stage]; rfl)
    | displacing switch previous call =>
      rw [stage] at closes
      obtain ⟨known, same, -⟩ := closes
      exact own known (same ▸ served hc (by rw [stage]; rfl))
    | deregistering switch => exact served hc (by rw [stage]; rfl)
    | _ => trivial
  · have hcore : s.core? i = some (c.session, c.stage, c.news) := State.core?_of_connection? hc
    cases news : c.news with
    | sending run x =>
      rw [news] at hcore
      obtain ⟨known, aims⟩ := briefed i _ _ _ hcore run.switch rfl
      obtain ⟨message, aim⟩ := aims x rfl
      have here : run.switch.datapath ∈ p.datapaths := (splits i _ (reported?_of_knows st known)).1 hi
      cases x with
      | looking target m =>
        obtain ⟨rfl, -⟩ := aim
        exact here
      | holding h m | writing h frame call =>
        obtain ⟨same, -, known⟩ := aim
        exact own known (by rw [Handle.datapath, same]; exact here)
    | settling switch todo =>
      have := carefree.news i _ _ _ hcore
      rw [news] at this
      exact this
    | _ => trivial

end Inside

end FlowBurst.Controller
