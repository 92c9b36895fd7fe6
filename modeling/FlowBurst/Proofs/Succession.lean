import FlowBurst.Proofs.Separation

/-!
# Who succeeds whom in the registry

Connections are numbered as they are accepted, and they register as they complete their handshakes,
which may be in another order. Registering looks at the datapath alone: whoever registers takes the
place of whoever is there, so that the entry of a datapath belongs to the connection that registered
last, unless that one has left. A connection can therefore be replaced by one that was accepted before
it, and it is just if the earlier one takes longer over its handshake.

Main statements: `last_registered_stands`, and `newer_replaced` for a run in which an older connection
takes the place of a newer one.
-/

namespace FlowBurst.Controller

open FlowBurst.Switch (DatapathId Handle Reference Registry Session)

/-! ### What the events say of the order -/

namespace Event

/-- The handles that were registered for a datapath, in order. -/
def registeredFor (d : DatapathId) (events : List Event) : List Handle :=
  events.filterMap fun e =>
    match e with
    | .registered h _ => if h.datapath = d then some h else none
    | _ => none

/-- The handle that was registered last for a datapath. -/
def latest (d : DatapathId) (events : List Event) : Option Handle :=
  (registeredFor d events).getLast?

/-- The lines whose connections were accepted, in order. -/
def acceptedLines (events : List Event) : List Nat :=
  events.filterMap fun e =>
    match e with
    | .accepted i _ => some i
    | _ => none

/-- Of two lines both were accepted, the first of them earlier. -/
def AcceptedBefore (i j : Nat) (events : List Event) : Prop :=
  ∃ p q : Nat, p < q ∧ (acceptedLines events)[p]? = some i ∧ (acceptedLines events)[q]? = some j

variable {d : DatapathId} {h : Handle} {first rest events : List Event}

lemma latest_append : latest d (first ++ rest) = (latest d rest).or (latest d first) := by
  unfold latest registeredFor
  rw [List.filterMap_append, List.getLast?_append]

lemma acceptedLines_append :
    acceptedLines (first ++ rest) = acceptedLines first ++ acceptedLines rest :=
  List.filterMap_append ..

lemma latest_registrations : latest d (registrations events) = latest d events := by
  unfold latest registeredFor registrations
  rw [filterMap_filter_of_none (fun e he => by cases e <;> first | rfl | cases he) events]

lemma acceptedLines_registrations :
    acceptedLines (registrations events) = acceptedLines events :=
  filterMap_filter_of_none (fun e he => by cases e <;> first | rfl | cases he) events

lemma timesRemoved_registrations :
    timesRemoved h (registrations events) = timesRemoved h events :=
  countP_registrations (fun e he => by cases e <;> first | rfl | cases he) events

lemma timesRemoved_append :
    timesRemoved h (first ++ rest) = timesRemoved h first + timesRemoved h rest :=
  List.countP_append

/-- What was registered for a datapath is of that datapath. -/
lemma datapath_of_latest (held : latest d events = some h) : h.datapath = d := by
  obtain ⟨e, -, he⟩ := List.mem_filterMap.1 (List.mem_of_getLast? held)
  cases e with
  | registered k previous =>
    dsimp only at he
    split at he
    next own =>
      cases he
      exact own
    next => cases he
  | _ => cases he

/-- A connection that has deregistered nothing has removed nothing. -/
lemma timesRemoved_of_silent (silent : deregisteredBy h.channel events = []) :
    timesRemoved h events = 0 := by
  apply List.countP_eq_zero.2
  intro e he removes
  cases e with
  | deregistered i r removed =>
    cases removed with
    | false => cases removes
    | true =>
      obtain ⟨rfl, rfl⟩ : i = h.channel ∧ r = h.switch := by simpa using removes
      have member := mem_deregisteredBy.2 he
      rw [silent] at member
      cases member
  | _ => cases removes

end Event

open Event (latest acceptedLines timesRemoved AcceptedBefore)

/-! ### Whoever registered last -/

/-- The entry of a datapath is what was registered last for it, unless its connection removed it. -/
def Succeeding (s : State) (events : List Event) : Prop :=
  ∀ d h, s.registry.get? d = some h ↔ latest d events = some h ∧ timesRemoved h events = 0

section Succeeding

variable {s t : State} {events more : List Event} {i : Nat} {k : Handle} {r : Reference}

/-- A step that changes no entry. -/
lemma Succeeding.still (succeeding : Succeeding s events) (registry : t.registry = s.registry)
    (silent : ∀ d h, latest d (registrations more) = none ∧ timesRemoved h (registrations more) = 0) :
    Succeeding t (events ++ more) := by
  intro d h
  obtain ⟨none, zero⟩ := silent d h
  rw [Event.latest_registrations] at none
  rw [Event.timesRemoved_registrations] at zero
  rw [registry, Event.latest_append, Event.timesRemoved_append, none, zero, Option.none_or]
  exact succeeding d h

/-- Whoever registers stands for its datapath from then on. -/
lemma Succeeding.registers (succeeding : Succeeding s events) {previous : Option Handle}
    (fresh : timesRemoved k events = 0) (registry : t.registry = (s.registry.register k).2)
    (seen : registrations more = [.registered k previous]) : Succeeding t (events ++ more) := by
  intro d h
  have last : latest d more = if k.datapath = d then some k else none := by
    rw [← Event.latest_registrations, seen]
    unfold latest Event.registeredFor
    split <;> simp [*]
  have zero : timesRemoved h more = 0 := by
    rw [← Event.timesRemoved_registrations, seen]
    rfl
  rw [registry, Registry.get?_register, Event.latest_append, Event.timesRemoved_append, last, zero]
  split
  case isTrue =>
    rw [Option.some_or, Nat.add_zero]
    constructor
    · intro e
      cases e
      exact ⟨rfl, fresh⟩
    · exact And.left
  case isFalse =>
    rw [Option.none_or, Nat.add_zero]
    exact succeeding d h

/-- Whoever deregisters takes its own handle away, if that is the one that stands. -/
lemma Succeeding.deregisters (succeeding : Succeeding s events) (ordered : s.registry.Ordered)
    (own : ∀ h ∈ s.registry.handles, h.switch = r → h.channel = i)
    (registry : t.registry = (s.registry.deregister r).2)
    (seen : registrations more = [.deregistered i r (s.registry.deregister r).1]) :
    Succeeding t (events ++ more) := by
  intro d h
  have last : latest d more = none := by
    rw [← Event.latest_registrations, seen]
    rfl
  have removed : timesRemoved h more =
      if (s.registry.get? r.datapath).map Handle.switch = some r ∧ i = h.channel ∧ r = h.switch
      then 1 else 0 := by
    rw [← Event.timesRemoved_registrations, seen, Registry.deregister_fst]
    unfold timesRemoved
    by_cases stands : (s.registry.get? r.datapath).map Handle.switch = some r
    · simp [stands, List.countP_cons]
    · have : ((s.registry.get? r.datapath).map Handle.switch == some r) = false := by
        simpa using stands
      rw [this]
      simp [stands]
  rw [registry, Registry.get?_deregister, Event.latest_append, Event.timesRemoved_append, last,
    Option.none_or]
  split
  case isTrue stands =>
    obtain ⟨rfl, standing⟩ := stands
    obtain ⟨held, hheld, switch⟩ := Option.map_eq_some_iff.1 standing
    have channel := own held ((Registry.get?_eq_some_iff ordered).1 hheld).1 switch
    constructor
    · intro e
      cases e
    · -- what stands is the handle that was registered last, and it was just removed
      rintro ⟨registered, zero⟩
      obtain ⟨last, -⟩ := (succeeding _ held).1 hheld
      obtain rfl : held = h := Option.some.inj (last.symm.trans registered)
      rw [removed, if_pos ⟨standing, channel.symm, switch.symm⟩] at zero
      omega
  case isFalse other =>
    have none_removed : latest d events = some h → timesRemoved h more = 0 := by
      intro registered
      rw [removed, if_neg]
      rintro ⟨stands, -, switch⟩
      have datapath : r.datapath = d := by
        rw [switch]
        exact Event.datapath_of_latest registered
      exact other ⟨datapath, datapath ▸ stands⟩
    rw [succeeding d h]
    constructor
    · rintro ⟨registered, zero⟩
      exact ⟨registered, by rw [zero, none_removed registered]⟩
    · rintro ⟨registered, zero⟩
      exact ⟨registered, by omega⟩

/-- **Every step keeps the succession.** -/
theorem Succeeding.step (succeeding : Succeeding s events) (st : Standing s events)
    (few : s.accepted ≤ 2 ^ 64) (stir : Stir s t more) : Succeeding t (events ++ more) := by
  cases stir with
  | calm lines registry accepted told =>
    refine succeeding.still registry fun d h => ⟨?_, ?_⟩
    · unfold latest Event.registeredFor
      rw [List.filterMap_eq_nil_iff.2, List.getLast?_nil]
      intro e he
      rcases told e he with ⟨j, switch, rfl | rfl⟩ <;> rfl
    · apply List.countP_eq_zero.2
      intro e he
      rcases told e he with ⟨j, switch, rfl | rfl⟩ <;> simp
  | accepts fresh datapath number lines registry accepted seen =>
    refine succeeding.still registry fun d h => ?_
    rw [seen]
    exact ⟨rfl, rfl⟩
  | @drives i c session stage news was lines course accepted =>
    generalize hg : t.registry = g, hseen : registrations more = seen at course
    cases course with
    | goes | launches =>
      refine succeeding.still hg fun d h => ?_
      rw [hseen]
      exact ⟨rfl, rfl⟩
    | registers arriving datapath number phase =>
      have record := st.record i
      rw [was] at record
      obtain ⟨-, agrees⟩ := record
      rw [arriving] at agrees
      exact succeeding.registers (Event.timesRemoved_of_silent agrees.2) hg hseen
    | @deregisters _ r serving phase =>
      have held : c.stage.phase.held? = some r := by rw [serving]; rfl
      refine succeeding.deregisters st.ordered (fun h hh e => ?_) hg hseen
      rw [st.eq_of_switch few was (e ▸ held) hh]
    | ends left datapath number phase shown =>
      refine succeeding.still hg fun d h => ?_
      rw [hseen]
      rcases shown with rfl | ⟨switch, rfl⟩ <;> exact ⟨rfl, rfl⟩

end Succeeding

/-! ### Numbers and the order of acceptance -/

/-- The connections bear the numbers of their places in the order of acceptance, from one on. -/
structure Ranked (s : State) (events : List Event) : Prop where
  count : (acceptedLines events).length = s.accepted
  number : ∀ p i, (acceptedLines events)[p]? = some i → ∃ session stage,
    s.standing? i = some (session, stage) ∧ session.connection = (p + 1).toUInt64
  place : ∀ i x, s.standing? i = some x → ∃ p : Nat, (acceptedLines events)[p]? = some i

section Ranked

variable {s t : State} {events more : List Event} {i j : Nat}

/-- A step that accepts no connection and leaves the numbers as they are. -/
lemma Ranked.still (ranked : Ranked s events) (silent : acceptedLines more = [])
    (accepted : t.accepted = s.accepted)
    (kept : ∀ i session stage, s.standing? i = some (session, stage) → ∃ session' stage',
      t.standing? i = some (session', stage') ∧ session'.connection = session.connection)
    (old : ∀ i x, t.standing? i = some x → ∃ x', s.standing? i = some x') :
    Ranked t (events ++ more) := by
  have same : acceptedLines (events ++ more) = acceptedLines events := by
    rw [Event.acceptedLines_append, silent, List.append_nil]
  refine ⟨?_, ?_, ?_⟩ <;> rw [same]
  · rw [accepted]
    exact ranked.count
  · intro p i hp
    obtain ⟨session, stage, hx, number⟩ := ranked.number p i hp
    obtain ⟨session', stage', hx', same⟩ := kept i session stage hx
    exact ⟨session', stage', hx', same.trans number⟩
  · intro i x hx
    obtain ⟨x', hx'⟩ := old i x hx
    exact ranked.place i x' hx'

/-- **Every step keeps the ranks.** -/
theorem Ranked.step (ranked : Ranked s events) (stir : Stir s t more) : Ranked t (events ++ more) := by
  cases stir with
  | calm lines registry accepted told =>
    refine ranked.still ?_ accepted ?_ ?_
    · rw [← Event.acceptedLines_registrations]
      apply List.filterMap_eq_nil_iff.2
      intro e he
      rcases told e he with ⟨j, switch, rfl | rfl⟩ <;> rfl
    · intro i session stage hx
      exact ⟨session, stage, (lines i).trans hx, rfl⟩
    · intro i x hx
      exact ⟨x, lines i ▸ hx⟩
  | @accepts k session fresh datapath number lines registry accepted seen =>
    have new : acceptedLines more = [k] := by
      rw [← Event.acceptedLines_registrations, seen]
      rfl
    refine ⟨?_, ?_, ?_⟩ <;> rw [Event.acceptedLines_append, new]
    · rw [List.length_append, ranked.count, accepted]
      rfl
    · intro p i hp
      rw [List.getElem?_append] at hp
      split at hp
      case isTrue =>
        obtain ⟨session', stage', hx, number'⟩ := ranked.number p i hp
        have other : k ≠ i := by
          rintro rfl
          rw [fresh] at hx
          cases hx
        exact ⟨session', stage', by rw [lines, if_neg other, hx], number'⟩
      case isFalse beyond =>
        obtain ⟨last, rfl⟩ : p - (acceptedLines events).length = 0 ∧ k = i := by
          cases gap : p - (acceptedLines events).length with
          | zero =>
            rw [gap] at hp
            exact ⟨rfl, Option.some.inj hp⟩
          | succ n =>
            rw [gap] at hp
            cases hp
        have here : p = s.accepted := by
          rw [← ranked.count]
          omega
        exact ⟨session, .opening, by rw [lines, if_pos rfl], by rw [here, number]⟩
    · intro i x hx
      by_cases own : k = i
      · subst own
        exact ⟨(acceptedLines events).length, by simp⟩
      · rw [lines, if_neg own] at hx
        obtain ⟨p, hp⟩ := ranked.place i x hx
        have inside := (List.getElem?_eq_some_iff.1 hp).1
        exact ⟨p, by rw [List.getElem?_append_left inside, hp]⟩
  | @drives k c session stage news was lines course accepted =>
    refine ranked.still ?_ accepted ?_ ?_
    · rw [← Event.acceptedLines_registrations]
      generalize t.registry = g, registrations more = seen at course
      cases course with
      | goes | launches | registers | deregisters => rfl
      | ends left datapath number phase shown =>
        rcases shown with rfl | ⟨switch, rfl⟩ <;> rfl
    · intro i session' stage' hx
      by_cases own : k = i
      · subst own
        obtain ⟨rfl, rfl⟩ := Prod.mk.inj (Option.some.inj (was.symm.trans hx))
        exact ⟨session, stage, by rw [lines, if_pos rfl], course.number⟩
      · exact ⟨session', stage', by rw [lines, if_neg own, hx], rfl⟩
    · intro i x hx
      by_cases own : k = i
      · subst own
        exact ⟨_, was⟩
      · rw [lines, if_neg own] at hx
        exact ⟨x, hx⟩

/-- The number at a place in the order of acceptance, as long as the numbers do not start over. -/
lemma Ranked.toNat_number (ranked : Ranked s events) (few : s.accepted < 2 ^ 64) {p : Nat}
    (hp : (acceptedLines events)[p]? = some i) : (p + 1).toUInt64.toNat = p + 1 := by
  have inside := (List.getElem?_eq_some_iff.1 hp).1
  rw [ranked.count] at inside
  simp only [Nat.toUInt64, UInt64.toNat_ofNat']
  omega

/-- The lower number is that of the connection that was accepted earlier. -/
lemma Ranked.lt_iff (ranked : Ranked s events) (few : s.accepted < 2 ^ 64) {x y : Session × Stage}
    (hx : s.standing? i = some x) (hy : s.standing? j = some y) :
    x.1.connection < y.1.connection ↔ AcceptedBefore i j events := by
  have numbered {i : Nat} {x : Session × Stage} (hx : s.standing? i = some x) {p : Nat}
      (hp : (acceptedLines events)[p]? = some i) : x.1.connection.toNat = p + 1 := by
    obtain ⟨session, stage, hx', number⟩ := ranked.number p i hp
    obtain rfl := Option.some.inj (hx'.symm.trans hx)
    rw [number]
    exact ranked.toNat_number few hp
  rw [UInt64.lt_iff_toNat_lt]
  constructor
  · intro lower
    obtain ⟨p, hp⟩ := ranked.place i x hx
    obtain ⟨q, hq⟩ := ranked.place j y hy
    rw [numbered hx hp, numbered hy hq] at lower
    exact ⟨p, q, by omega, hp, hq⟩
  · rintro ⟨p, q, earlier, hp, hq⟩
    rw [numbered hx hp, numbered hy hq]
    omega

end Ranked

/-! ### Succession -/

/-- The connection of a line whose switch has just reported its features registers, whoever stands
for that datapath and whatever numbers the two bear. -/
def State.RegistersAny (s : State) : Prop :=
  ∀ i c features, s.connection? i = some c → c.stage = .registering features →
    ∃ t more, s.step? (.go (.driver i)) = some (t, more) ∧
      registrations more = [.registered ⟨⟨⟨features.datapathId⟩, c.session.connection⟩, i⟩
        (s.registry.get? ⟨features.datapathId⟩)] ∧
      t.registry.get? ⟨features.datapathId⟩ =
        some ⟨⟨⟨features.datapathId⟩, c.session.connection⟩, i⟩

/-- How connections of one datapath follow each other in a run. -/
structure Succession (s : State) (events : List Event) : Prop where
  /-- The entry of a datapath is the handle registered last for it, unless its connection has
  deregistered it. -/
  entry : ∀ d h, s.registry.get? d = some h ↔ latest d events = some h ∧ timesRemoved h events = 0
  /-- Whoever registers replaces the handle registered last before, unless that one was removed, -/
  replaces : ∀ first k previous rest, events = first ++ .registered k previous :: rest →
    ∀ h, previous = some h ↔ latest k.datapath first = some h ∧ timesRemoved h first = 0
  /-- and registers in any case. -/
  registers : s.RegistersAny
  /-- The numbers say who was accepted earlier. -/
  seniority : ∀ k h previous previous', .registered k previous ∈ events →
    .registered h previous' ∈ events →
      (k.switch.connection < h.switch.connection ↔ AcceptedBefore k.channel h.channel events)

section Run

variable {s : State} {events : List Event} {settings : Settings} {handler : Handler} {capacity : Nat}
  {actions : List Action}
  (run : (State.start settings handler capacity).steps? actions = some (s, events))
include run

lemma succeeding_of_steps? (few : s.accepted ≤ 2 ^ 64) : Succeeding s events := by
  refine State.run_induction (P := fun _ s events => s.accepted ≤ 2 ^ 64 → Succeeding s events)
    ?_ ?_ run few
  · intro _ d h
    constructor
    · intro e
      cases e
    · rintro ⟨e, -⟩
      cases e
  · intro actions s before a t after before_run ih step few
    have stir := step?_stir (orderly_of_run before_run) step
    have few' := Nat.le_trans stir.accepted_le few
    exact (ih few').step (standing_of_steps? before_run) few' stir

lemma ranked_of_steps? : Ranked s events := by
  refine State.run_induction (P := fun _ s events => Ranked s events) ⟨rfl, ?_, ?_⟩ ?_ run
  · intro p i hp
    cases hp
  · intro i x hx
    cases hx
  · intro actions s before a t after before_run ih step
    exact ih.step (step?_stir (orderly_of_run before_run) step)

lemma registersAny_of_steps? : s.RegistersAny := by
  intro i c features hc stage
  have hx : s.standing? i = some (c.session, c.stage) :=
    standing?_of_core? (State.core?_of_connection? hc)
  have discovered := undisturbed_of_steps? run i _ _ hx (by rw [stage]; rfl)
  obtain ⟨session, ready⟩ := becomeReady_of_discovered discovered ⟨features.datapathId⟩
  obtain ⟨⟨tail, seen, -, silent⟩, registry, -⟩ := s.register_of_ready i ready
  obtain ⟨-, number⟩ := becomeReady_eq_ok ready
  have step : s.step? (.go (.driver i)) = some (s.register i c ⟨features.datapathId⟩) := by
    simp only [Action.go, State.step?, State.run?, State.drive?, hc, bind, Option.bind_some, stage]
    rfl
  refine ⟨(s.register i c ⟨features.datapathId⟩).1, (s.register i c ⟨features.datapathId⟩).2, step,
    ?_, ?_⟩
  · rw [seen, number]
    exact congrArg (_ :: ·) silent
  · rw [registry, number, Registry.get?_register, if_pos rfl]

/-- **Whoever registered last stands for its datapath.** A connection that registers takes the place of
the one that registered last before it, unless that one has left, and no matter which of the two was
accepted earlier: so an older connection replaces a newer one just if it completes its handshake while
the newer one is registered. -/
theorem last_registered_stands (few : s.accepted < 2 ^ 64) : Succession s events := by
  refine ⟨succeeding_of_steps? run (Nat.le_of_lt few), ?_, registersAny_of_steps? run, ?_⟩
  · rintro first k previous rest rfl h
    obtain ⟨_, u, before, _, t, new, after, later, before_run, step, rfl, rfl⟩ :=
      State.step_of_event run
    have stir := step?_stir (orderly_of_run before_run) step
    obtain ⟨single, rfl⟩ := stir.registers (List.mem_append_right new (List.mem_cons_self ..))
    have silent : registrations new = [] := State.filter_before rfl single
    have few' : u.accepted ≤ 2 ^ 64 := by
      have earlier := (ranked_of_steps? before_run).count
      have whole := (ranked_of_steps? run).count
      simp only [Event.acceptedLines_append, List.length_append] at whole
      omega
    have none : latest k.datapath new = none := by
      rw [← Event.latest_registrations, silent]
      rfl
    have zero : timesRemoved h new = 0 := by
      rw [← Event.timesRemoved_registrations, silent]
      rfl
    rw [Event.latest_append, Event.timesRemoved_append, none, zero, Option.none_or]
    exact succeeding_of_steps? before_run few' k.datapath h
  · intro k h previous previous' hk hh
    have st := standing_of_steps? run
    obtain ⟨-, session, stage, hx, number⟩ :=
      st.session_of_registered (mem_registeredBy.2 ⟨rfl, previous, hk⟩)
    obtain ⟨-, session', stage', hx', number'⟩ :=
      st.session_of_registered (mem_registeredBy.2 ⟨rfl, previous', hh⟩)
    rw [← number, ← number']
    exact (ranked_of_steps? run).lt_iff few hx hx'

end Run

/-- Of two connections of a switch the second one is faster: it registers first, and then the first
one does and takes its place. -/
def overtaken : List Action :=
  ([.connect (.loopback 6653), .connect (.loopback 6654), .go .acceptor, .go .acceptor,
    .deliver 1 (greetings 5)] : List Action) ++ (List.replicate 9 (.go (.driver 1)) : List Action) ++
    ([.deliver 0 (greetings 5)] : List Action) ++ (List.replicate 10 (.go (.driver 0)) : List Action)

/-- In a run in which an older connection is slower, it is the one that stands in the end. -/
theorem succession_overtaken :
    ∃ s events, (State.start {} (.observer []) 40).steps? overtaken = some (s, events) ∧
      s.accepted < 2 ^ 64 ∧ Succession s events := by
  obtain ⟨⟨s, events⟩, run⟩ := Option.isSome_iff_exists.1
    (show ((State.start {} (.observer []) 40).steps? overtaken).isSome = true by decide +kernel)
  have h : ((State.start {} (.observer []) 40).steps? overtaken).all
      (fun r => decide (r.1.accepted < 2 ^ 64)) = true := by decide +kernel
  rw [run] at h
  have few := of_decide_eq_true h
  exact ⟨s, events, run, few, last_registered_stands run few⟩

/-- What would hold if no connection ever replaced a newer one: whoever is replaced has the lower
number, and whoever stands for a datapath has the highest of all that registered for it and have not
left. -/
structure Senior (s : State) (events : List Event) : Prop where
  replaced : ∀ k h, .registered k (some h) ∈ events → h.switch.connection < k.switch.connection
  stands : ∀ d h, s.registry.get? d = some h → ∀ k previous, .registered k previous ∈ events →
    k.datapath = d → (∀ r removed, .deregistered k.channel r removed ∉ events) →
      k.switch.connection ≤ h.switch.connection

/-- **A newer connection is replaced by an older one**, and the older one stands although the newer has
not left. -/
theorem newer_replaced :
    ∃ s events, (State.start {} (.observer []) 40).steps? overtaken = some (s, events) ∧
      .registered ⟨⟨⟨5⟩, 1⟩, 0⟩ (some ⟨⟨⟨5⟩, 2⟩, 1⟩) ∈ events ∧
      s.registry.get? ⟨5⟩ = some ⟨⟨⟨5⟩, 1⟩, 0⟩ ∧
      (∀ r removed, .deregistered 1 r removed ∉ events) ∧ ¬ Senior s events := by
  obtain ⟨⟨s, events⟩, run⟩ := Option.isSome_iff_exists.1
    (show ((State.start {} (.observer []) 40).steps? overtaken).isSome = true by decide +kernel)
  have h : ((State.start {} (.observer []) 40).steps? overtaken).all (fun r =>
      decide (.registered ⟨⟨⟨5⟩, 1⟩, 0⟩ (some ⟨⟨⟨5⟩, 2⟩, 1⟩) ∈ r.2 ∧
        r.1.registry.get? ⟨5⟩ = some ⟨⟨⟨5⟩, 1⟩, 0⟩ ∧ Event.deregisteredBy 1 r.2 = [])) = true := by
    decide +kernel
  rw [run] at h
  obtain ⟨replaced, stands, stays⟩ := of_decide_eq_true h
  refine ⟨s, events, run, replaced, stands, ?_, ?_⟩
  · intro r removed left
    have member := mem_deregisteredBy.2 left
    rw [stays] at member
    cases member
  · intro senior
    exact absurd (senior.replaced _ _ replaced) (by decide)

end FlowBurst.Controller
