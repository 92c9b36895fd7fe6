import FlowBurst.Proofs.Entries
import FlowBurst.Proofs.Running
import Mathlib.Algebra.Group.Nat.Defs

/-!
# Who owns the entries of the registry

A connection registers its switch once, and its handle leaves the registry once: it is handed back
to a later connection of the same datapath, or removed by the connection's own deregistering. The
invariant ties the registry and the events so far to how far each connection has come. Main
statements: `standing_of_steps?`, `registry_owned`.
-/

namespace FlowBurst.Controller

open FlowBurst.Switch (DatapathId Handle Reference Registry Session)

/-! ### What is read off the events -/

namespace Event

/-- The handles that a connection registered, in order. -/
def registeredBy (i : Nat) (events : List Event) : List Handle :=
  events.filterMap fun e =>
    match e with
    | .registered h _ => if h.channel = i then some h else none
    | _ => none

/-- The switches that a connection deregistered, each with whether that removed an entry. -/
def deregisteredBy (i : Nat) (events : List Event) : List (Reference × Bool) :=
  events.filterMap fun e =>
    match e with
    | .deregistered j switch removed => if j = i then some (switch, removed) else none
    | _ => none

/-- How often a handle was registered. -/
def timesRegistered (h : Handle) (events : List Event) : Nat :=
  events.countP fun e =>
    match e with
    | .registered k _ => k = h
    | _ => false

/-- How often a handle was handed back to a connection that registered its datapath again. -/
def timesReplaced (h : Handle) (events : List Event) : Nat :=
  events.countP fun e =>
    match e with
    | .registered _ (some k) => k = h
    | _ => false

/-- How often a handle was removed by its own connection. -/
def timesRemoved (h : Handle) (events : List Event) : Nat :=
  events.countP fun e =>
    match e with
    | .deregistered i switch true => i = h.channel ∧ switch = h.switch
    | _ => false

variable (i : Nat) (h : Handle)

@[simp] lemma registeredBy_append (first rest : List Event) :
    registeredBy i (first ++ rest) = registeredBy i first ++ registeredBy i rest := by
  simp [registeredBy]

@[simp] lemma deregisteredBy_append (first rest : List Event) :
    deregisteredBy i (first ++ rest) = deregisteredBy i first ++ deregisteredBy i rest := by
  simp [deregisteredBy]

lemma registeredBy_registrations (events : List Event) :
    registeredBy i (registrations events) = registeredBy i events :=
  filterMap_filter_of_none (fun e he => by cases e <;> first | rfl | cases he) events

lemma deregisteredBy_registrations (events : List Event) :
    deregisteredBy i (registrations events) = deregisteredBy i events :=
  filterMap_filter_of_none (fun e he => by cases e <;> first | rfl | cases he) events

lemma countP_registrations {f : Event → Bool} (hf : ∀ e, e.isRegistration = false → f e = false)
    (events : List Event) : (registrations events).countP f = events.countP f := by
  unfold registrations
  rw [List.countP_filter]
  refine List.countP_congr fun e _ => ?_
  cases he : e.isRegistration
  · simp [hf e he]
  · simp

end Event

/-! ### How far the connections have come -/

/-- The session and the stage of the connection of a line. -/
def State.standing? (s : State) (i : Nat) : Option (Session × Stage) :=
  (s.core? i).map fun core => (core.1, core.2.1)

/-- What a step does to who is registered: nothing, or a connection is accepted, or the driving task
of a connection takes a step of its course. -/
inductive Stir (s t : State) (events : List Event) : Prop
  | calm (lines : ∀ i, t.standing? i = s.standing? i) (registry : t.registry = s.registry)
      (accepted : t.accepted = s.accepted) (told : ∀ e ∈ registrations events, ∃ i, e.IsTold i)
  | accepts {i : Nat} {session : Session} (fresh : s.standing? i = none)
      (datapath : session.datapath = none)
      (number : session.connection = (s.accepted + 1).toUInt64)
      (lines : ∀ j, t.standing? j = if i = j then some (session, .opening) else s.standing? j)
      (registry : t.registry = s.registry) (accepted : t.accepted = s.accepted + 1)
      (seen : registrations events = [.accepted i (s.accepted + 1).toUInt64])
      (state : session.state = .discovered)
  | drives {i : Nat} {c : Connection} {session : Session} {stage : Stage} {news : News}
      (was : s.standing? i = some (c.session, c.stage))
      (lines : ∀ j, t.standing? j = if i = j then some (session, stage) else s.standing? j)
      (course : Course s.registry i c session stage news t.registry (registrations events))
      (accepted : t.accepted = s.accepted)

section Stir

variable {s t : State} {i : Nat}

lemma standing?_of_core? {core : Session × Stage × News} (h : s.core? i = some core) :
    s.standing? i = some (core.1, core.2.1) := by
  simp [State.standing?, h]

lemma connection?_of_standing? {session : Session} {stage : Stage}
    (h : s.standing? i = some (session, stage)) :
    ∃ c, s.connection? i = some c ∧ c.session = session ∧ c.stage = stage := by
  obtain ⟨core, hcore, e⟩ := Option.map_eq_some_iff.1 h
  obtain ⟨c, hc, rfl⟩ := Option.map_eq_some_iff.1 hcore
  exact ⟨c, hc, congrArg Prod.fst e, congrArg Prod.snd e⟩

lemma standing?_congr (h : ∀ j, t.core? j = s.core? j) (j : Nat) :
    t.standing? j = s.standing? j := by
  simp [State.standing?, h]

lemma standing?_of_change {core : Session × Stage × News}
    (h : ∀ j, t.core? j = if i = j then some core else s.core? j) (j : Nat) :
    t.standing? j = if i = j then some (core.1, core.2.1) else s.standing? j := by
  unfold State.standing?
  rw [h]
  split <;> rfl

/-- **Every step stirs the registry in one of these ways.** -/
theorem step?_stir (orderly : s.Orderly) {a : Action} {events : List Event}
    (h : s.step? a = some (t, events)) : Stir s t events := by
  have quiet : ∀ e ∈ ([] : List Event), ∃ i, e.IsTold i := fun e he => by cases he
  cases State.step?_moved h with
  | @drove i d c _ _ hc step =>
    obtain ⟨session, stage, news, core, -, course⟩ := step.effect hc
    exact .drives (standing?_of_core? (State.core?_of_connection? hc)) (standing?_of_change core)
      course step.surrounded.accepted
  | @told i d c _ _ hc step =>
    obtain ⟨news, core, registry, -, told, -⟩ := step.effect hc
    have was := standing?_of_core? (State.core?_of_connection? hc)
    refine .calm (fun j => ?_) registry step.surrounded.accepted fun e he => ⟨i, told e he⟩
    rw [standing?_of_change core]
    split
    next hj => rw [← hj, was]; rfl
    next => rfl
  | answered call step =>
    obtain ⟨caller', core, registry, -, silent, -⟩ := step.effect
    exact .calm (standing?_congr core) registry step.surrounded.accepted (silent ▸ quiet)
  | @accepted d i rest started acceptor backlog =>
    obtain ⟨session, datapath, number, state, hn, connection, seen⟩ :=
      State.core?_acceptFirst orderly backlog
    have after : s.acceptFirst.1.registry = s.registry ∧
        s.acceptFirst.1.accepted = s.accepted + 1 := by
      simp [State.acceptFirst, backlog, State.modifyLine]
    have core (j : Nat) : s.acceptFirst.1.core? j =
        if i = j then some (session, .opening, .absent) else s.core? j := by
      unfold State.core?
      rw [connection]
      split <;> rfl
    exact .accepts (i := i) (by simp [State.standing?, State.core?_eq_none_iff.2 hn]) datapath number
      (standing?_of_change core) after.1 after.2 (by rw [seen]; rfl) state
  | called call =>
    obtain ⟨caller, rfl, -⟩ := State.call?_eq_some call
    exact .calm (fun _ => rfl) rfl rfl quiet
  | @connected peer going =>
    exact .calm (standing?_congr (State.core?_congr (State.connection?_connect s peer))) rfl rfl quiet
  | aside world task silent quietly =>
    exact .calm (standing?_congr (State.core?_congr world.connection)) world.registry world.accepted
      (quietly ▸ quiet)

/-- What the world can see of a step besides the handler being told: a connection is accepted, or
its driving task registers or deregisters its switch or reports that it is gone. -/
inductive Displayed (s t : State) : Event → Prop
  | accepted (i : Nat) : Displayed s t (.accepted i (s.accepted + 1).toUInt64)
  | registered {i : Nat} {session : Session} {features : OpenFlow.Features}
      (was : s.standing? i = some (session, .registering features)) :
      Displayed s t (.registered ⟨⟨⟨features.datapathId⟩, session.connection⟩, i⟩
        (s.registry.get? ⟨features.datapathId⟩))
  | deregistered {i : Nat} {session : Session} {stage : Stage} {switch : Reference}
      (was : s.standing? i = some (session, stage)) (serving : stage.phase = .serving switch)
      (registry : t.registry = (s.registry.deregister switch).2) :
      Displayed s t (.deregistered i switch (s.registry.deregister switch).1)
  | disconnected (i : Nat) (switch : Reference) : Displayed s t (.disconnectedCalled i switch)

/-- **An event of the coming and going of switches is all that a step shows of it**, unless the
handler is told. -/
theorem Stir.displayed {more : List Event} (stir : Stir s t more) {e : Event} (he : e ∈ more)
    (about : e.isRegistration = true) :
    (∃ i, e.IsTold i) ∨ registrations more = [e] ∧ Displayed s t e := by
  have member : e ∈ registrations more := List.mem_filter.2 ⟨he, about⟩
  cases stir with
  | calm lines registry accepted told => exact .inl (told e member)
  | accepts fresh datapath number lines registry accepted seen =>
    rw [seen] at member ⊢
    obtain rfl := List.mem_singleton.1 member
    exact .inr ⟨rfl, .accepted _⟩
  | @drives i c session stage news was lines course accepted =>
    refine .inr ?_
    generalize hg : t.registry = g, registrations more = seen at course member
    cases course with
    | goes | launches => cases member
    | registers arriving datapath number phase reported =>
      obtain rfl := List.mem_singleton.1 member
      obtain ⟨features, here, rfl⟩ := reported
      exact ⟨rfl, .registered (here ▸ was)⟩
    | deregisters serving phase =>
      obtain rfl := List.mem_singleton.1 member
      exact ⟨rfl, .deregistered was serving hg⟩
    | ends left datapath number phase seen =>
      rcases seen with rfl | ⟨switch, rfl⟩
      · cases member
      · obtain rfl := List.mem_singleton.1 member
        exact ⟨rfl, .disconnected i switch⟩

end Stir

/-! ### The record of a connection -/

/-- What a connection in a phase has come to: the datapath that it noted, its number and what it
deregistered. -/
def Phase.Agrees (session : Session) (gone : List (Reference × Bool)) : Phase → Prop
  | arriving => session.datapath = none ∧ gone = []
  | entering r | serving r =>
    session.datapath = some r.datapath ∧ session.connection = r.connection ∧ gone = []
  | left r removed =>
    session.datapath = some r.datapath ∧ session.connection = r.connection ∧ gone = [(r, removed)]
  | .gone => session.datapath = none ∧ gone = [] ∨ ∃ r removed, session.datapath = some r.datapath ∧
      session.connection = r.connection ∧ gone = [(r, removed)]

/-- The handle of the connection of a line, once its switch has reported its datapath. -/
def handle? (i : Nat) (session : Session) : Option Handle :=
  session.datapath.map fun d => ⟨⟨d, session.connection⟩, i⟩

/-- **The record of a line**: what its connection registered and deregistered is what its session and
its stage say. -/
def Record (i : Nat) (standing : Option (Session × Stage)) (events : List Event) : Prop :=
  match standing with
  | none => Event.registeredBy i events = [] ∧ Event.deregisteredBy i events = []
  | some (session, stage) => Event.registeredBy i events = (handle? i session).toList ∧
      stage.phase.Agrees session (Event.deregisteredBy i events)

/-- The switch that a connection in a phase has in the registry, unless it was replaced. -/
def Phase.held? : Phase → Option Reference
  | entering r | serving r => some r
  | arriving | left _ _ | gone => none

section Record

variable {s t : State} {i : Nat} {events more : List Event}

/-- A line of which the world saw nothing new. -/
lemma Record.still {standing : Option (Session × Stage)} (h : Record i standing events)
    (registered : Event.registeredBy i more = []) (deregistered : Event.deregisteredBy i more = []) :
    Record i standing (events ++ more) := by
  unfold Record at h ⊢
  rw [Event.registeredBy_append, Event.deregisteredBy_append, registered, deregistered,
    List.append_nil, List.append_nil]
  exact h

lemma silent_of_told (told : ∀ e ∈ registrations more, ∃ j, e.IsTold j) :
    Event.registeredBy i more = [] ∧ Event.deregisteredBy i more = [] := by
  rw [← Event.registeredBy_registrations, ← Event.deregisteredBy_registrations]
  unfold Event.registeredBy Event.deregisteredBy
  constructor
  · refine List.filterMap_eq_nil_iff.2 fun e he => ?_
    rcases told e he with ⟨j, switch, rfl | rfl⟩ <;> rfl
  · refine List.filterMap_eq_nil_iff.2 fun e he => ?_
    rcases told e he with ⟨j, switch, rfl | rfl⟩ <;> rfl

/-- What the course of a connection lets the world see is about its own line. -/
lemma Course.silent {g g' : Registry} {c : Connection} {session : Session} {stage : Stage}
    {news : News} {seen : List Event} (h : Course g i c session stage news g' seen) {j : Nat}
    (hj : i ≠ j) : Event.registeredBy j seen = [] ∧ Event.deregisteredBy j seen = [] := by
  cases h with
  | goes | launches => exact ⟨rfl, rfl⟩
  | registers | deregisters => simp [Event.registeredBy, Event.deregisteredBy, hj]
  | ends _ _ _ _ seen =>
    rcases seen with rfl | ⟨switch, rfl⟩ <;> exact ⟨rfl, rfl⟩

/-- **A step of its course keeps the record of a connection.** -/
theorem Course.record {g g' : Registry} {c : Connection} {session : Session} {stage : Stage}
    {news : News} (h : Course g i c session stage news g' (registrations more))
    (before : Record i (some (c.session, c.stage)) events) :
    Record i (some (session, stage)) (events ++ more) := by
  obtain ⟨registered, agrees⟩ := before
  show _ ∧ _
  rw [Event.registeredBy_append, Event.deregisteredBy_append, registered,
    ← Event.registeredBy_registrations i more, ← Event.deregisteredBy_registrations i more]
  generalize registrations more = seen at h
  have same (datapath : session.datapath = c.session.datapath)
      (number : session.connection = c.session.connection) :
      handle? i c.session = handle? i session := by
    unfold handle?
    rw [datapath, number]
  cases h with
  | goes datapath number phase =>
    refine ⟨by rw [same datapath number]; exact List.append_nil _, ?_⟩
    show Phase.Agrees session (_ ++ []) _
    rw [phase, List.append_nil]
    revert agrees
    cases c.stage.phase <;> simp only [Phase.Agrees, datapath, number, imp_self]
  | registers was datapath number phase =>
    rw [was] at agrees
    obtain ⟨nothing, gone⟩ := agrees
    rw [phase, gone]
    refine ⟨?_, datapath, number, rfl⟩
    simp [handle?, nothing, datapath, number, Event.registeredBy]
  | launches was phase =>
    rw [was] at agrees
    rw [phase]
    exact ⟨List.append_nil _, by rw [show Event.deregisteredBy i [] = [] from rfl, List.append_nil]
                                 exact agrees⟩
  | deregisters was phase =>
    rw [was] at agrees
    obtain ⟨datapath, number, gone⟩ := agrees
    rw [phase, gone]
    exact ⟨List.append_nil _, datapath, number, by simp [Event.deregisteredBy]⟩
  | @ends _ _ seen was datapath number phase shown =>
    have silent : Event.registeredBy i seen = [] ∧ Event.deregisteredBy i seen = [] := by
      rcases shown with rfl | ⟨switch, rfl⟩ <;> exact ⟨rfl, rfl⟩
    rw [silent.1, silent.2, phase, List.append_nil, List.append_nil, same datapath number]
    refine ⟨rfl, ?_⟩
    rcases was with was | ⟨switch, removed, was⟩
    · rw [was] at agrees
      exact .inl ⟨datapath.trans agrees.1, agrees.2⟩
    · rw [was] at agrees
      exact .inr ⟨switch, removed, datapath.trans agrees.1, number.trans agrees.2.1, agrees.2.2⟩

/-- **Every step keeps the records.** -/
theorem Record.step (records : ∀ i, Record i (s.standing? i) events) (stir : Stir s t more) (i : Nat) :
    Record i (t.standing? i) (events ++ more) := by
  cases stir with
  | calm lines registry accepted told =>
    rw [lines]
    obtain ⟨registered, deregistered⟩ := silent_of_told (i := i) told
    exact (records i).still registered deregistered
  | @accepts j session fresh datapath number lines registry accepted seen =>
    have silent : Event.registeredBy i more = [] ∧ Event.deregisteredBy i more = [] := by
      rw [← Event.registeredBy_registrations, ← Event.deregisteredBy_registrations, seen]
      exact ⟨rfl, rfl⟩
    rw [lines]
    split
    next hj =>
      subst hj
      have before := (records j).still silent.1 silent.2
      rw [fresh] at before
      exact ⟨before.1.trans (by simp [handle?, datapath]), datapath, before.2⟩
    next => exact (records i).still silent.1 silent.2
  | @drives j c session stage news was lines course accepted =>
    rw [lines]
    split
    next hj =>
      subst hj
      exact course.record (was ▸ records j)
    next hj =>
      obtain ⟨registered, deregistered⟩ := course.silent hj
      rw [Event.registeredBy_registrations] at registered
      rw [Event.deregisteredBy_registrations] at deregistered
      exact (records i).still registered deregistered

end Record

/-! ### The numbers of the connections -/

/-- The connections are numbered as they are accepted, from one on. -/
def Numbered (s : State) : Prop :=
  ∃ rank : Nat → Nat,
    (∀ i x, s.standing? i = some x →
      0 < rank i ∧ rank i ≤ s.accepted ∧ x.1.connection = (rank i).toUInt64) ∧
    ∀ i j x y, s.standing? i = some x → s.standing? j = some y → rank i = rank j → i = j

/-- As long as the numbers do not start over, they tell the connections apart. -/
theorem Numbered.distinct {s : State} (h : Numbered s) (few : s.accepted ≤ 2 ^ 64) {i j : Nat}
    {x y : Session × Stage} (hx : s.standing? i = some x) (hy : s.standing? j = some y)
    (e : x.1.connection = y.1.connection) : i = j := by
  obtain ⟨rank, numbers, apart⟩ := h
  obtain ⟨hi₀, hi, ei⟩ := numbers i x hx
  obtain ⟨hj₀, hj, ej⟩ := numbers j y hy
  refine apart i j x y hx hy ?_
  rw [ei, ej] at e
  have e' : rank i % 2 ^ 64 = rank j % 2 ^ 64 := by
    have := congrArg UInt64.toNat e
    simpa using this
  omega

lemma Course.number {g g' : Registry} {i : Nat} {c : Connection} {session : Session} {stage : Stage}
    {news : News} {seen : List Event} (h : Course g i c session stage news g' seen) :
    session.connection = c.session.connection := by
  cases h with
  | goes _ number _ | registers _ _ number _ | ends _ _ number _ _ => exact number
  | launches | deregisters => rfl

lemma Numbered.step {s t : State} {more : List Event} (h : Numbered s) (stir : Stir s t more) :
    Numbered t := by
  obtain ⟨rank, numbers, apart⟩ := h
  cases stir with
  | calm lines registry accepted told =>
    refine ⟨rank, fun i x hx => ?_, fun i j x y hx hy => ?_⟩
    · rw [accepted]
      exact numbers i x (lines i ▸ hx)
    · exact apart i j x y (lines i ▸ hx) (lines j ▸ hy)
  | @accepts k session fresh datapath number lines registry accepted seen =>
    have old {i : Nat} {x : Session × Stage} (hi : k ≠ i) (hx : t.standing? i = some x) :
        s.standing? i = some x := by
      rwa [lines, if_neg hi] at hx
    refine ⟨fun i => if k = i then s.accepted + 1 else rank i, fun i x hx => ?_,
      fun i j x y hx hy e => ?_⟩
    · by_cases hi : k = i
      · rw [lines, if_pos hi] at hx
        cases hx
        simp only [if_pos hi, accepted]
        exact ⟨by omega, by omega, number⟩
      · obtain ⟨pos, le, e⟩ := numbers i x (old hi hx)
        simp only [if_neg hi, accepted]
        exact ⟨pos, by omega, e⟩
    · by_cases hi : k = i <;> by_cases hj : k = j
      · exact hi.symm.trans hj
      · have := numbers j y (old hj hy)
        simp only [if_pos hi, if_neg hj] at e
        omega
      · have := numbers i x (old hi hx)
        simp only [if_neg hi, if_pos hj] at e
        omega
      · simp only [if_neg hi, if_neg hj] at e
        exact apart i j x y (old hi hx) (old hj hy) e
  | @drives k c session stage news was lines course accepted =>
    have old {i : Nat} {x : Session × Stage} (hx : t.standing? i = some x) :
        ∃ x', s.standing? i = some x' ∧ x'.1.connection = x.1.connection := by
      rw [lines] at hx
      split at hx
      next hi =>
        subst hi
        cases hx
        exact ⟨_, was, course.number.symm⟩
      next => exact ⟨x, hx, rfl⟩
    refine ⟨rank, fun i x hx => ?_, fun i j x y hx hy e => ?_⟩
    · obtain ⟨x', hx', same⟩ := old hx
      rw [accepted, ← same]
      exact numbers i x' hx'
    · obtain ⟨x', hx', -⟩ := old hx
      obtain ⟨y', hy', -⟩ := old hy
      exact apart i j x' y' hx' hy' e

/-! ### The standing of a run -/

/-- **The standing of the connections**: the registry is in order, the connections have their records
and numbers, and every entry belongs to the connection that registered it and has not left. -/
structure Standing (s : State) (events : List Event) : Prop where
  ordered : s.registry.Ordered
  numbered : Numbered s
  record : ∀ i, Record i (s.standing? i) events
  owned : ∀ h ∈ s.registry.handles, ∃ session stage,
    s.standing? h.channel = some (session, stage) ∧ stage.phase.held? = some h.switch

namespace Standing

variable {s t : State} {events more : List Event}

/-- A connection that holds an entry has noted what the entry says. -/
lemma agrees (st : Standing s events) {i : Nat} {session : Session} {stage : Stage} {r : Reference}
    (hx : s.standing? i = some (session, stage)) (held : stage.phase.held? = some r) :
    session.datapath = some r.datapath ∧ session.connection = r.connection ∧
      Event.registeredBy i events = [⟨r, i⟩] ∧ Event.deregisteredBy i events = [] := by
  have record := st.record i
  rw [hx] at record
  obtain ⟨registered, agrees⟩ := record
  have known : session.datapath = some r.datapath ∧ session.connection = r.connection ∧
      Event.deregisteredBy i events = [] := by
    revert held agrees
    cases stage.phase <;> simp only [Phase.held?, Phase.Agrees, Option.some.injEq, reduceCtorEq,
      false_implies] <;> rintro rfl h <;> exact h
  obtain ⟨datapath, number, gone⟩ := known
  refine ⟨datapath, number, ?_, gone⟩
  rw [registered, handle?, datapath, number]
  rfl

/-- A connection that has yet to register has noted no datapath. -/
lemma datapath_of_arriving (st : Standing s events) {i : Nat} {session : Session} {stage : Stage}
    (hx : s.standing? i = some (session, stage)) (arriving : stage.phase = .arriving) :
    session.datapath = none := by
  have record := st.record i
  rw [hx] at record
  obtain ⟨-, agrees⟩ := record
  rw [arriving] at agrees
  exact agrees.1

/-- As long as the numbers do not start over, an entry of a connection is its own. -/
lemma eq_of_switch (st : Standing s events) (few : s.accepted ≤ 2 ^ 64) {i : Nat} {session : Session}
    {stage : Stage} {h : Handle} (hx : s.standing? i = some (session, stage))
    (held : stage.phase.held? = some h.switch) (hh : h ∈ s.registry.handles) : h = ⟨h.switch, i⟩ := by
  obtain ⟨session', stage', hx', held'⟩ := st.owned h hh
  have : h.channel = i := st.numbered.distinct few hx' hx
    ((st.agrees hx' held').2.1.trans (st.agrees hx held).2.1.symm)
  rw [← this]

/-- The entries of other connections stay with them. -/
lemma owned_other (st : Standing s events) {i : Nat} {x : Session × Stage}
    (lines : ∀ j, t.standing? j = if i = j then some x else s.standing? j) {h : Handle}
    (hh : h ∈ s.registry.handles) (hi : h.channel ≠ i) : ∃ session stage,
      t.standing? h.channel = some (session, stage) ∧ stage.phase.held? = some h.switch := by
  rw [lines, if_neg (Ne.symm hi)]
  exact st.owned h hh

/-- A connection that holds no entry has none in the registry. -/
lemma channel_ne (st : Standing s events) {i : Nat} {session : Session} {stage : Stage}
    (hx : s.standing? i = some (session, stage)) (held : stage.phase.held? = none) {h : Handle}
    (hh : h ∈ s.registry.handles) : h.channel ≠ i := by
  rintro rfl
  obtain ⟨session', stage', hx', held'⟩ := st.owned h hh
  rw [hx] at hx'
  cases hx'
  rw [held] at held'
  cases held'

/-- **Every step keeps the standing.** -/
theorem step (st : Standing s events) (stir : Stir s t more) : Standing t (events ++ more) := by
  have record := Record.step st.record stir
  have numbered := st.numbered.step stir
  cases stir with
  | calm lines registry accepted told =>
    refine ⟨registry ▸ st.ordered, numbered, record, fun h hh => ?_⟩
    rw [lines]
    exact st.owned h (registry ▸ hh)
  | @accepts i session fresh datapath number lines registry accepted seen =>
    refine ⟨registry ▸ st.ordered, numbered, record, fun h hh => ?_⟩
    rw [registry] at hh
    refine st.owned_other lines hh ?_
    rintro rfl
    obtain ⟨session', stage', hx, -⟩ := st.owned h hh
    rw [fresh] at hx
    cases hx
  | @drives i c session stage news was lines course accepted =>
    have here : t.standing? i = some (session, stage) := by rw [lines, if_pos rfl]
    have kept (same : stage.phase.held? = c.stage.phase.held?) {h : Handle}
        (hh : h ∈ s.registry.handles) : ∃ session stage,
          t.standing? h.channel = some (session, stage) ∧ stage.phase.held? = some h.switch := by
      by_cases hi : h.channel = i
      · obtain ⟨session', stage', hx, held⟩ := st.owned h hh
        rw [hi, was] at hx
        cases hx
        exact ⟨session, stage, hi ▸ here, same.trans held⟩
      · exact st.owned_other lines hh hi
    generalize hg : t.registry = g, registrations more = seen at course
    cases course with
    | goes datapath number phase =>
      exact ⟨hg ▸ st.ordered, numbered, record, fun h hh => kept (by rw [phase]) (hg ▸ hh)⟩
    | @registers _ _ d arriving datapath number phase =>
      refine ⟨hg ▸ Registry.ordered_register st.ordered, numbered, record, fun h hh => ?_⟩
      rw [hg, Registry.mem_register st.ordered] at hh
      rcases hh with rfl | ⟨hh, -⟩
      · exact ⟨session, stage, here, by rw [phase]; rfl⟩
      · exact st.owned_other lines hh (st.channel_ne was (by rw [arriving]; rfl) hh)
    | launches entering phase =>
      exact ⟨hg ▸ st.ordered, numbered, record,
        fun h hh => kept (by rw [phase, entering]; rfl) (hg ▸ hh)⟩
    | @deregisters _ r serving phase =>
      refine ⟨hg ▸ Registry.ordered_deregister st.ordered, numbered, record, fun h hh => ?_⟩
      rw [hg, Registry.mem_deregister st.ordered] at hh
      obtain ⟨hh, other⟩ := hh
      refine st.owned_other lines hh ?_
      rintro rfl
      obtain ⟨session', stage', hx, held⟩ := st.owned h hh
      rw [was] at hx
      cases hx
      rw [serving] at held
      cases held
      exact other rfl
    | ends left datapath number phase shown =>
      have none_held : c.stage.phase.held? = none := by
        rcases left with e | ⟨switch, removed, e⟩ <;> rw [e] <;> rfl
      refine ⟨hg ▸ st.ordered, numbered, record, fun h hh => ?_⟩
      rw [hg] at hh
      exact st.owned_other lines hh (st.channel_ne was none_held hh)

theorem start (settings : Settings) (handler : Handler) (capacity : Nat) :
    Standing (.start settings handler capacity) [] := by
  have nobody : ∀ i, (State.start settings handler capacity).standing? i = none := by
    intro i
    simp [State.standing?, State.core?, State.connection?, State.start]
  refine ⟨Registry.ordered_empty, ⟨fun _ => 0, fun i x hx => ?_, fun i j x y hx => ?_⟩, fun i => ?_,
    fun h hh => absurd hh List.not_mem_nil⟩
  · rw [nobody] at hx
    cases hx
  · rw [nobody] at hx
    cases hx
  · rw [nobody]
    exact ⟨rfl, rfl⟩

end Standing

/-- **Every run has a standing.** -/
theorem standing_of_steps? {settings : Settings} {handler : Handler} {capacity : Nat}
    {actions : List Action} {s : State} {events : List Event}
    (run : (State.start settings handler capacity).steps? actions = some (s, events)) :
    Standing s events := by
  refine State.run_induction (P := fun _ s events => Standing s events)
    (Standing.start settings handler capacity) ?_ run
  intro actions s before a t after before_run st step
  exact st.step (step?_stir
    (State.orderly_of_steps? (State.orderly_start settings handler capacity) before_run) step)

end FlowBurst.Controller
