import FlowBurst.Proofs.Registration

/-!
# Every handle leaves the registry once

The handles that were registered are those that were handed back, those that their own connections
removed and those that are still there. Main statement: `registry_owned`.
-/

namespace FlowBurst.Controller

open FlowBurst.Switch (DatapathId Handle Reference Registry Session)

/-- Whether a handle is in a registry, as a number. -/
def present (g : Registry) (h : Handle) : Nat := if h ∈ g.handles then 1 else 0

/-- **The balance of the registry**: every handle registered was handed back, was removed by its own
connection, or is still there. -/
def Balanced (s : State) (events : List Event) : Prop :=
  ∀ h, Event.timesRegistered h events =
    Event.timesReplaced h events + Event.timesRemoved h events + present s.registry h

namespace Event

variable (h : Handle) (events : List Event)

lemma times_registrations :
    timesRegistered h (registrations events) = timesRegistered h events ∧
      timesReplaced h (registrations events) = timesReplaced h events ∧
      timesRemoved h (registrations events) = timesRemoved h events :=
  ⟨countP_registrations (fun e he => by cases e <;> first | rfl | cases he) events,
    countP_registrations (fun e he => by cases e <;> first | rfl | cases he) events,
    countP_registrations (fun e he => by cases e <;> first | rfl | cases he) events⟩

lemma times_append (first rest : List Event) :
    timesRegistered h (first ++ rest) = timesRegistered h first + timesRegistered h rest ∧
      timesReplaced h (first ++ rest) = timesReplaced h first + timesReplaced h rest ∧
      timesRemoved h (first ++ rest) = timesRemoved h first + timesRemoved h rest :=
  ⟨List.countP_append, List.countP_append, List.countP_append⟩

end Event

section Balance

variable {s t : State} {events more : List Event}

/-- A step that neither registers nor deregisters. -/
lemma Balanced.still (b : Balanced s events) (registry : t.registry = s.registry)
    (silent : ∀ h, Event.timesRegistered h (registrations more) = 0 ∧
      Event.timesReplaced h (registrations more) = 0 ∧
      Event.timesRemoved h (registrations more) = 0) : Balanced t (events ++ more) := by
  intro h
  obtain ⟨e₁, e₂, e₃⟩ := Event.times_append h events more
  obtain ⟨r₁, r₂, r₃⟩ := Event.times_registrations h more
  obtain ⟨z₁, z₂, z₃⟩ := silent h
  rw [e₁, e₂, e₃, b h, registry]
  omega

/-- A connection registers: its handle is new, and the one handed back is no longer there. -/
lemma Balanced.registers (b : Balanced s events) (ordered : s.registry.Ordered) {k : Handle}
    (fresh : k ∉ s.registry.handles) (registry : t.registry = (s.registry.register k).2)
    (seen : registrations more = [.registered k (s.registry.get? k.datapath)]) :
    Balanced t (events ++ more) := by
  intro h
  obtain ⟨e₁, e₂, e₃⟩ := Event.times_append h events more
  obtain ⟨r₁, r₂, r₃⟩ := Event.times_registrations h more
  rw [e₁, e₂, e₃, b h, ← r₁, ← r₂, ← r₃, seen]
  have members : h ∈ t.registry.handles ↔
      h = k ∨ h ∈ s.registry.handles ∧ h.datapath ≠ k.datapath := by
    rw [registry]
    exact Registry.mem_register ordered
  have handed := Registry.get?_eq_some_iff ordered (d := k.datapath) (h := h)
  have registered : Event.timesRegistered h [.registered k (s.registry.get? k.datapath)] =
      if k = h then 1 else 0 := by
    simp [Event.timesRegistered, List.countP_cons]
  have replaced : Event.timesReplaced h [.registered k (s.registry.get? k.datapath)] =
      if h ∈ s.registry.handles ∧ h.datapath = k.datapath then 1 else 0 := by
    cases hp : s.registry.get? k.datapath with
    | none =>
      rw [hp] at handed
      have : ¬ (h ∈ s.registry.handles ∧ h.datapath = k.datapath) := fun c => by cases handed.2 c
      simp [Event.timesReplaced, this]
    | some p =>
      rw [hp] at handed
      simp [Event.timesReplaced, List.countP_cons, ← handed]
  have removed : Event.timesRemoved h [.registered k (s.registry.get? k.datapath)] = 0 := rfl
  rw [registered, replaced, removed]
  unfold present
  by_cases hk : h = k
  · subst hk
    simp [fresh, members]
  · have hk' : ¬ k = h := fun e => hk e.symm
    by_cases hs : h ∈ s.registry.handles
    · by_cases hd : h.datapath = k.datapath
      · simp [hk, hk', hs, hd, members]
        omega
      · simp [hk, hk', hs, hd, members]
    · simp [hk, hk', hs, members]

/-- A connection deregisters: what it removes is its own handle. -/
lemma Balanced.deregisters (b : Balanced s events) (ordered : s.registry.Ordered) {i : Nat}
    {r : Reference} (own : ∀ h ∈ s.registry.handles, h.switch = r → h.channel = i)
    (registry : t.registry = (s.registry.deregister r).2)
    (seen : registrations more = [.deregistered i r (s.registry.deregister r).1]) :
    Balanced t (events ++ more) := by
  intro h
  obtain ⟨e₁, e₂, e₃⟩ := Event.times_append h events more
  obtain ⟨r₁, r₂, r₃⟩ := Event.times_registrations h more
  rw [e₁, e₂, e₃, b h, ← r₁, ← r₂, ← r₃, seen]
  have members : h ∈ t.registry.handles ↔ h ∈ s.registry.handles ∧ h.switch ≠ r := by
    rw [registry]
    exact Registry.mem_deregister ordered
  have removes := Registry.deregister_eq_true_iff ordered (r := r)
  have quiet : Event.timesRegistered h [.deregistered i r (s.registry.deregister r).1] = 0 ∧
      Event.timesReplaced h [.deregistered i r (s.registry.deregister r).1] = 0 := ⟨rfl, rfl⟩
  have removed : Event.timesRemoved h [.deregistered i r (s.registry.deregister r).1] =
      if h ∈ s.registry.handles ∧ h.switch = r then 1 else 0 := by
    cases hr : (s.registry.deregister r).1 with
    | false =>
      have : ¬ (h ∈ s.registry.handles ∧ h.switch = r) := fun c => by
        rw [removes.2 ⟨h, c⟩] at hr
        cases hr
      simp [Event.timesRemoved, this]
    | true =>
      obtain ⟨k, hk, e⟩ := removes.1 hr
      -- The handle removed is the only one of its datapath, and it is of this connection.
      have only : (i = h.channel ∧ r = h.switch) ↔ h ∈ s.registry.handles ∧ h.switch = r := by
        constructor
        · rintro ⟨hi, hs⟩
          have : h = k := by
            rw [show h = ⟨h.switch, h.channel⟩ from rfl, ← hs, ← hi, ← e, ← own k hk e]
          exact ⟨this ▸ hk, hs.symm⟩
        · rintro ⟨hh, hs⟩
          exact ⟨(own h hh hs).symm, hs.symm⟩
      simp [Event.timesRemoved, List.countP_cons, only]
  rw [quiet.1, quiet.2, removed]
  unfold present
  by_cases hs : h ∈ s.registry.handles
  · by_cases hr : h.switch = r
    · simp [hs, hr, members]
      omega
    · simp [hs, hr, members]
  · simp [hs, members]

/-- **Every step keeps the balance**, as long as the numbers of the connections do not start over. -/
theorem Balanced.step (b : Balanced s events) (st : Standing s events) (few : s.accepted ≤ 2 ^ 64)
    (stir : Stir s t more) : Balanced t (events ++ more) := by
  cases stir with
  | calm lines registry accepted told =>
    refine b.still registry fun h => ⟨?_, ?_, ?_⟩
    all_goals
      refine List.countP_eq_zero.2 fun e he => ?_
      rcases told e he with ⟨j, switch, rfl | rfl⟩ <;> simp
  | accepts fresh datapath number lines registry accepted seen =>
    refine b.still registry fun h => ?_
    rw [seen]
    exact ⟨rfl, rfl, rfl⟩
  | @drives i c session stage news was lines course accepted =>
    generalize hg : t.registry = g, hseen : registrations more = seen at course
    cases course with
    | goes | launches => exact b.still hg fun h => by rw [hseen]; exact ⟨rfl, rfl, rfl⟩
    | registers arriving datapath number phase =>
      have held : c.stage.phase.held? = none := by rw [arriving]; rfl
      exact b.registers st.ordered (fun hh => st.channel_ne was held hh rfl) hg hseen
    | @deregisters _ r serving phase =>
      have held : c.stage.phase.held? = some r := by rw [serving]; rfl
      refine b.deregisters st.ordered (fun h hh e => ?_) hg hseen
      have := st.eq_of_switch few was (e ▸ held) hh
      rw [this]
    | ends left datapath number phase shown =>
      refine b.still hg fun h => ?_
      rw [hseen]
      rcases shown with rfl | ⟨switch, rfl⟩ <;> exact ⟨rfl, rfl, rfl⟩

end Balance

/-! ### What the events say -/

section Events

variable {s t : State} {events more : List Event} {i : Nat} {r : Reference} {h k : Handle}

lemma mem_registeredBy : h ∈ Event.registeredBy i events ↔
    h.channel = i ∧ ∃ previous, Event.registered h previous ∈ events := by
  unfold Event.registeredBy
  rw [List.mem_filterMap]
  constructor
  · rintro ⟨e, he, hf⟩
    cases e with
    | registered k previous =>
      dsimp only at hf
      split at hf
      next hi =>
        cases hf
        exact ⟨hi, previous, he⟩
      next => cases hf
    | _ => cases hf
  · rintro ⟨hi, previous, he⟩
    exact ⟨_, he, by simp [hi]⟩

lemma mem_deregisteredBy {removed : Bool} : (r, removed) ∈ Event.deregisteredBy i events ↔
    Event.deregistered i r removed ∈ events := by
  unfold Event.deregisteredBy
  rw [List.mem_filterMap]
  constructor
  · rintro ⟨e, he, hf⟩
    cases e with
    | deregistered j switch b =>
      dsimp only at hf
      split at hf
      next hi =>
        cases hf
        exact hi ▸ he
      next => cases hf
    | _ => cases hf
  · exact fun he => ⟨_, he, by simp⟩

lemma timesRegistered_eq (h : Handle) (events : List Event) :
    Event.timesRegistered h events = (Event.registeredBy h.channel events).count h := by
  unfold Event.timesRegistered Event.registeredBy
  rw [List.count_filterMap]
  refine List.countP_congr fun e _ => ?_
  cases e with
  | registered k previous =>
    by_cases hk : k = h
    · simp [hk]
    · by_cases hi : k.channel = h.channel <;> simp [hk, hi]
  | _ => simp

namespace Standing

variable (st : Standing s events)
include st

/-- A connection registers at most once. -/
lemma registers_once (i : Nat) : (Event.registeredBy i events).length ≤ 1 := by
  have record := st.record i
  cases hx : s.standing? i with
  | none =>
    rw [hx] at record
    simp [record.1]
  | some x =>
    rw [hx] at record
    rw [record.1]
    cases handle? i x.1 <;> simp

lemma timesRegistered_le (h : Handle) : Event.timesRegistered h events ≤ 1 := by
  rw [timesRegistered_eq]
  exact Nat.le_trans List.count_le_length (st.registers_once h.channel)

/-- A connection deregisters what it registered, and once. -/
lemma deregisters_once {removed : Bool} (he : Event.deregistered i r removed ∈ events) :
    Event.registeredBy i events = [⟨r, i⟩] ∧ Event.deregisteredBy i events = [(r, removed)] := by
  have member := mem_deregisteredBy.2 he
  have record := st.record i
  cases hx : s.standing? i with
  | none =>
    rw [hx] at record
    rw [record.2] at member
    cases member
  | some x =>
    obtain ⟨session, stage⟩ := x
    rw [hx] at record
    obtain ⟨registered, agrees⟩ := record
    have known : ∃ r' removed', session.datapath = some r'.datapath ∧
        session.connection = r'.connection ∧ Event.deregisteredBy i events = [(r', removed')] := by
      revert agrees
      cases stage.phase with
      | arriving => exact fun h => by rw [h.2] at member; cases member
      | entering r' | serving r' => exact fun h => by rw [h.2.2] at member; cases member
      | left r' removed' => exact fun h => ⟨r', removed', h⟩
      | gone =>
        rintro (h | h)
        · rw [h.2] at member
          cases member
        · exact h
    obtain ⟨r', removed', datapath, number, gone⟩ := known
    rw [gone] at member
    obtain ⟨rfl, rfl⟩ : r = r' ∧ removed = removed' := by simpa using member
    refine ⟨?_, gone⟩
    rw [registered, handle?, datapath, number]
    rfl

/-- What was registered bears the number of its connection. -/
lemma session_of_registered (hr : h ∈ Event.registeredBy i events) : h.channel = i ∧
    ∃ session stage, s.standing? i = some (session, stage) ∧
      session.connection = h.switch.connection := by
  have record := st.record i
  cases hx : s.standing? i with
  | none =>
    rw [hx, Record] at record
    rw [record.1] at hr
    cases hr
  | some x =>
    obtain ⟨session, stage⟩ := x
    rw [hx, Record] at record
    rw [record.1, Option.mem_toList] at hr
    obtain ⟨d, datapath, rfl⟩ := Option.map_eq_some_iff.1 hr
    exact ⟨rfl, session, stage, rfl, rfl⟩

/-- The handle of an entry was registered by its connection, which has not left. -/
lemma entry_registered (hh : h ∈ s.registry.handles) :
    (∃ previous, Event.registered h previous ∈ events) ∧
      ∀ r removed, Event.deregistered h.channel r removed ∉ events := by
  obtain ⟨session, stage, hx, held⟩ := st.owned h hh
  obtain ⟨-, -, registered, gone⟩ := st.agrees hx held
  have member : h ∈ Event.registeredBy h.channel events := by
    rw [registered]
    exact List.mem_singleton.2 rfl
  refine ⟨(mem_registeredBy.1 member).2, fun r removed he => ?_⟩
  have := mem_deregisteredBy.2 he
  rw [gone] at this
  cases this

end Standing

/-- A step that lets the world see a registration is one of the course of its connection. -/
lemma Stir.registers (stir : Stir s t more) {previous : Option Handle}
    (he : Event.registered k previous ∈ more) :
    registrations more = [.registered k previous] ∧ previous = s.registry.get? k.datapath := by
  obtain ⟨j, switch, e | e⟩ | ⟨single, displayed⟩ := stir.displayed he rfl
  · cases e
  · cases e
  · cases displayed with
    | registered was => exact ⟨single, rfl⟩

/-- A step that lets the world see that a switch is deregistered is one of its connection. -/
lemma Stir.deregisters (stir : Stir s t more) {removed : Bool}
    (he : Event.deregistered i r removed ∈ more) :
    registrations more = [.deregistered i r removed] ∧ removed = (s.registry.deregister r).1 ∧
      t.registry = (s.registry.deregister r).2 ∧ ∃ session stage,
        s.standing? i = some (session, stage) ∧ stage.phase.held? = some r := by
  obtain ⟨j, switch, e | e⟩ | ⟨single, displayed⟩ := stir.displayed he rfl
  · cases e
  · cases e
  · cases displayed with
    | deregistered was serving registry =>
      exact ⟨single, rfl, registry, _, _, was, by rw [serving]; rfl⟩

/-- When all that a step lets the world see of registrations is one event, nothing of the kind came
before it. -/
lemma mem_of_single {first new rest before : List Event} {e e' : Event} (he : e.isRegistration = true)
    (single : registrations more = [e]) (first_eq : first = before ++ new)
    (more_eq : more = new ++ e :: rest) (he' : e'.isRegistration = true) (member : e' ∈ first) :
    e' ∈ before := by
  rw [first_eq, List.mem_append] at member
  refine member.resolve_right fun hn => ?_
  have hn' : e' ∈ registrations new := List.mem_filter.2 ⟨hn, he'⟩
  rw [show registrations new = [] from State.filter_before he (more_eq ▸ single)] at hn'
  cases hn'

/-- A connection whose handle was handed back removes nothing. -/
lemma Standing.replaced_removes_nothing (st : Standing s events) (b : Balanced s events)
    (few : s.accepted ≤ 2 ^ 64) (stir : Stir s t more) {removed : Bool}
    (he : Event.deregistered h.channel r removed ∈ more)
    (handed : Event.registered k (some h) ∈ events) : removed = false := by
  obtain ⟨-, removes, -, session, stage, hx, held⟩ := stir.deregisters he
  cases removed with
  | false => rfl
  | true =>
    obtain ⟨k', hk', own⟩ := (Registry.deregister_eq_true_iff st.ordered).1 removes.symm
    have replaced : 0 < Event.timesReplaced h events :=
      List.countP_pos_iff.2 ⟨_, handed, by simp⟩
    have balance := b h
    have once := st.timesRegistered_le h
    have absent : h ∉ s.registry.handles := by
      intro hh
      rw [present, if_pos hh] at balance
      omega
    have member : h ∈ Event.registeredBy h.channel events := by
      rw [← List.count_pos_iff, ← timesRegistered_eq]
      omega
    rw [(st.agrees hx held).2.2.1, List.mem_singleton] at member
    have entry := st.eq_of_switch few hx (own ▸ held) hk'
    rw [own, ← member] at entry
    exact (absent (entry ▸ hk')).elim

end Events

/-! ### The end of a run -/

/-- Once a controller has stopped, every connection has ended. -/
def Over (s : State) : Prop :=
  s.acceptor = .stopped → ∀ i session stage, s.standing? i = some (session, stage) → stage = .ended

section Over

variable {s t : State} {events more : List Event}

/-- A driving task that has ended takes no step. -/
lemma Drove.stage_ne {i : Nat} {c : Connection} (h : Drove s i c t events) : c.stage ≠ .ended := by
  intro e
  cases h with
  | turned idle same turn =>
    rw [e] at same
    revert same
    cases ‹Option Reference› <;> simp [Stage.phase, Phase.of]
  | waited under polling pending => simp [e, Stage.job?] at under
  | _ => simp_all

lemma isDone_of_standing {i : Nat} {session : Session} {stage : Stage}
    (hx : s.standing? i = some (session, stage)) (done : ∀ l ∈ s.lines, State.isDone l = true) :
    stage = .ended := by
  obtain ⟨c, hc, -, rfl⟩ := connection?_of_standing? hx
  obtain ⟨l, hl, hlc⟩ := State.lines_of_connection? hc
  have := done l (List.mem_of_getElem? hl)
  simpa [State.isDone, hlc] using this

lemma Over.step (ended : Over s) {a : Action} (h : s.step? a = some (t, more)) :
    Over t := by
  intro stopped
  have still (lines : ∀ i, t.standing? i = s.standing? i) (was : s.acceptor = .stopped) :
      ∀ i session stage, t.standing? i = some (session, stage) → stage = .ended := by
    intro i session stage hx
    exact ended was i session stage (lines i ▸ hx)
  cases State.step?_moved h with
  | drove hc step =>
    have was := step.surrounded.acceptor.symm.trans stopped
    exact (step.stage_ne
      (ended was _ _ _ (standing?_of_core? (State.core?_of_connection? hc)))).elim
  | @told i d c _ _ hc step =>
    obtain ⟨news, core, -⟩ := step.effect hc
    have was := standing?_of_core? (State.core?_of_connection? hc)
    refine still (fun j => ?_) (step.surrounded.acceptor.symm.trans stopped)
    rw [standing?_of_change core]
    split
    next hj => rw [← hj, was]; rfl
    next => rfl
  | answered call step =>
    obtain ⟨caller', core, -⟩ := step.effect
    exact still (standing?_congr core) (step.surrounded.acceptor.symm.trans stopped)
  | accepted acceptor backlog => simp [State.acceptFirst, backlog] at stopped
  | called call =>
    obtain ⟨caller, rfl, -⟩ := State.call?_eq_some call
    exact still (fun _ => rfl) stopped
  | @connected peer going => exact (going stopped).elim
  | aside world task silent quiet =>
    have lines := standing?_congr (State.core?_congr world.connection)
    rcases world.stopped stopped with was | done
    · exact still lines was
    · intro i session stage hx
      exact isDone_of_standing (lines i ▸ hx) done

/-- A stopped controller has an empty registry. -/
lemma Standing.registry_of_stopped (st : Standing s events) (ended : Over s)
    (stopped : s.acceptor = .stopped) : s.registry.handles = [] := by
  refine List.eq_nil_iff_forall_not_mem.2 fun h hh => ?_
  obtain ⟨session, stage, hx, held⟩ := st.owned h hh
  rw [ended stopped _ _ _ hx] at held
  cases held

end Over

/-! ### Ownership -/

/-- What holds of the registry at any time of a run. What rests on the numbers of the connections
holds until they start over, after as many connections as there are numbers. -/
structure Owned (s : State) (events : List Event) : Prop where
  /-- An entry is of its datapath, and its connection has registered it and not left. -/
  entry : ∀ d h, s.registry.get? d = some h → h.datapath = d ∧
    (∃ previous, Event.registered h previous ∈ events) ∧
      ∀ r removed, Event.deregistered h.channel r removed ∉ events
  /-- Every connection registers at most once, -/
  once : ∀ i, (Event.registeredBy i events).length ≤ 1
  /-- and what it deregisters is what it registered, again at most once. -/
  own : ∀ i r removed, Event.deregistered i r removed ∈ events →
    Event.registeredBy i events = [⟨r, i⟩] ∧ Event.deregisteredBy i events = [(r, removed)]
  /-- A handle that was registered is handed back once, or is removed once by its own connection, or
  is still there. -/
  leaves : s.accepted ≤ 2 ^ 64 → ∀ h, Event.timesRegistered h events =
    Event.timesReplaced h events + Event.timesRemoved h events +
      if h ∈ s.registry.handles then 1 else 0
  /-- A handle is handed back to a later connection of the same datapath. -/
  later : ∀ first k h rest, events = first ++ .registered k (some h) :: rest →
    h.datapath = k.datapath ∧ ∃ previous, Event.registered h previous ∈ first
  /-- The deregistering of a connection that was replaced says that it removed nothing, -/
  replaced : s.accepted ≤ 2 ^ 64 → ∀ first h k r removed rest,
    events = first ++ .deregistered h.channel r removed :: rest →
      Event.registered k (some h) ∈ first → removed = false
  /-- and one that says so changes nothing. -/
  unchanged : ∀ a t more i r, s.step? a = some (t, more) →
    Event.deregistered i r false ∈ more → t.registry = s.registry
  /-- When the controller has stopped, the registry is empty. -/
  stopped : s.acceptor = .stopped → s.registry.handles = []

lemma Stir.accepted_le {s t : State} {more : List Event} (stir : Stir s t more) :
    s.accepted ≤ t.accepted := by
  cases stir with
  | calm lines registry accepted told => exact Nat.le_of_eq accepted.symm
  | accepts fresh datapath number lines registry accepted seen => omega
  | drives was lines course accepted => exact Nat.le_of_eq accepted.symm

section Owned

variable {s : State} {events : List Event} {settings : Settings} {handler : Handler} {capacity : Nat}
  {actions : List Action}
  (run : (State.start settings handler capacity).steps? actions = some (s, events))
include run

lemma orderly_of_run : s.Orderly :=
  State.orderly_of_steps? (State.orderly_start settings handler capacity) run

lemma over_of_steps? : Over s := by
  refine State.run_induction (P := fun _ s _ => Over s) (fun h => by cases h) ?_ run
  intro actions s before a t after before_run ended step
  exact ended.step step

lemma balanced_of_steps? (few : s.accepted ≤ 2 ^ 64) : Balanced s events := by
  refine State.run_induction (P := fun _ s events => s.accepted ≤ 2 ^ 64 → Balanced s events)
    (fun _ h => by simp [Event.timesRegistered, Event.timesReplaced, Event.timesRemoved, present,
      State.start]) ?_ run few
  intro actions s before a t after before_run ih step few
  have stir := step?_stir (orderly_of_run before_run) step
  have few' := Nat.le_trans stir.accepted_le few
  exact (ih few').step (standing_of_steps? before_run) few' stir

/-- A handle that is handed back was registered before. -/
lemma later_of_steps? : ∀ first k h rest, events = first ++ .registered k (some h) :: rest →
    h.datapath = k.datapath ∧ ∃ previous, Event.registered h previous ∈ first := by
  rintro first k h rest rfl
  obtain ⟨_, _, _, _, _, new, _, _, before_run, step, rfl, -⟩ := State.step_of_event run
  have st := standing_of_steps? before_run
  have stir := step?_stir (orderly_of_run before_run) step
  obtain ⟨-, held⟩ := stir.registers (List.mem_append_right new (List.mem_cons_self ..))
  obtain ⟨hh, datapath⟩ := (Registry.get?_eq_some_iff st.ordered).1 held.symm
  obtain ⟨previous, registered⟩ := (st.entry_registered hh).1
  exact ⟨datapath, previous, List.mem_append_left _ registered⟩

/-- A connection whose handle was handed back removes nothing, in a whole run. -/
lemma replaced_of_steps? (few : s.accepted ≤ 2 ^ 64) : ∀ first h k r removed rest,
    events = first ++ .deregistered h.channel r removed :: rest →
      Event.registered k (some h) ∈ first → removed = false := by
  refine State.run_induction (P := fun _ s events => s.accepted ≤ 2 ^ 64 →
    ∀ first h k r removed rest, events = first ++ .deregistered h.channel r removed :: rest →
      Event.registered k (some h) ∈ first → removed = false) ?_ ?_ run few
  · intro _ first h k r removed rest e
    simp at e
  · intro actions s before a t after before_run ih step few first h k r removed rest e handed
    have stir := step?_stir (orderly_of_run before_run) step
    have few' := Nat.le_trans stir.accepted_le few
    rcases State.split_append e with ⟨new, first_eq, after_eq⟩ | ⟨old, before_eq, -⟩
    · have he : Event.deregistered h.channel r removed ∈ after := by simp [after_eq]
      have earlier : Event.registered k (some h) ∈ before :=
        mem_of_single rfl (stir.deregisters he).1 first_eq after_eq rfl handed
      exact (standing_of_steps? before_run).replaced_removes_nothing
        (balanced_of_steps? before_run few') few' stir he earlier
    · exact ih few' first h k r removed old before_eq handed

/-- **The registry is owned.** At any time of any run of the controller, whatever the order in which
connections shake hands, register, close and deregister, every entry belongs to a connection that
registered it and has not left, and every handle that was registered leaves the registry in one way
and once. -/
theorem registry_owned : Owned s events := by
  have st := standing_of_steps? run
  refine ⟨fun d h hd => ?_, st.registers_once, fun i r removed => st.deregisters_once,
    fun few => balanced_of_steps? run few, later_of_steps? run, fun few => replaced_of_steps? run few,
    fun a t more i r step he => ?_, st.registry_of_stopped (over_of_steps? run)⟩
  · obtain ⟨hh, datapath⟩ := (Registry.get?_eq_some_iff st.ordered).1 hd
    exact ⟨datapath, st.entry_registered hh⟩
  · obtain ⟨-, removes, registry, -⟩ := (step?_stir (orderly_of_run run) step).deregisters he
    rw [registry]
    exact Registry.deregister_of_false removes.symm

end Owned

/-- A switch reconnects while its first connection is still served: the second connection replaces
the first, which then finds no entry of its own to remove. -/
def replacement : List Action :=
  arrival 0 5 ++ arrival 1 5 ++ List.replicate 4 (Action.go (.driver 0))

theorem owned_replacement :
    ∃ s events, (State.start {} (.observer []) 40).steps? replacement = some (s, events) ∧
      Owned s events := by
  obtain ⟨⟨s, events⟩, run⟩ := Option.isSome_iff_exists.1
    (show ((State.start {} (.observer []) 40).steps? replacement).isSome = true by decide +kernel)
  exact ⟨s, events, run, registry_owned run⟩

end FlowBurst.Controller
