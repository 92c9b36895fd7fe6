import FlowBurst.Proofs.Separation

/-!
# Switches do not interfere

Many switches share a controller: its registry, its clock, and the harness that sends them bursts. As
long as the harness stops nobody, steps of lines whose switches have different datapaths commute, and
what comes of some lines is what would come of them if no other line took a step: what a switch sends,
how long it takes and how it fails matter to no switch of another datapath. Main statements:
`steps_commute`, `run_within`, `switches_independent`.
-/

namespace FlowBurst.Controller

open FlowBurst.OpenFlow (Frame)
open FlowBurst.Transport (Disposition)

/-! ### Steps in either order -/

lemma some_of_rel {α β : Type} {R : α → β → Prop} {a : α} {y : Option β}
    (h : Option.Rel R (some a) y) : ∃ b, y = some b ∧ R a b := by
  cases h with
  | some h => exact ⟨_, rfl, h⟩

/-- A step that is possible within a scope is possible in every state that is alike there. -/
lemma Alike.step?_eq_some {p : Scope} {n : UInt64} {s t u : State} {i : Nat} {act : Action}
    {events : List Event} (a : Alike p n s t) (inside : Inside p s i) (line : act.line? = some i)
    (h : s.step? act = some (u, events)) :
    ∃ v, t.step? act = some (v, events) ∧ Alike p n u v ∧ KeepsTo p events := by
  have matched := a.step? inside line
  rw [h] at matched
  obtain ⟨⟨v, events'⟩, hv, alike, same, seen⟩ := some_of_rel matched
  cases same
  exact ⟨v, hv, alike, seen⟩

namespace State

/-- The switches of two lines, as far as they have reported, have different datapaths. -/
def Apart (s : State) (i j : Nat) : Prop := ∀ d, s.reported? i = some d → s.reported? j ≠ some d

/-- A line with all others that are of the same datapath, as far as that was reported. -/
def around (s : State) (i : Nat) : Scope where
  lines := {k | k = i ∨ ∃ d, s.reported? i = some d ∧ s.reported? k = some d}
  datapaths := {d | s.reported? i = some d}

lemma around_splits (s : State) (i : Nat) : (s.around i).Splits s := by
  intro k d reported
  constructor
  · rintro (rfl | ⟨e, own, same⟩)
    · exact reported
    · obtain rfl : d = e := Option.some.inj (reported.symm.trans same)
      exact own
  · exact fun own => .inr ⟨d, own, reported⟩

end State

section Commute

variable {settings : Settings} {harness : Harness} {capacity : Nat} {actions : List Action}
  {s u w : State} {events seen seen' : List Event} {a b : Action} {i j : Nat}

/-- **Steps of lines apart commute**: each is possible after the other, shows the same, and both orders
lead to the same state. -/
theorem steps_commute (plain : harness.Plain)
    (run : (State.start settings (.harness harness) capacity).steps? actions = some (s, events))
    (ne : i ≠ j) (apart : s.Apart i j) (hi : a.line? = some i) (hj : b.line? = some j)
    (ha : s.step? a = some (u, seen)) (hb : s.step? b = some (w, seen')) :
    ∃ v, u.step? b = some (v, seen') ∧ w.step? a = some (v, seen) := by
  have splits := s.around_splits i
  generalize hp : s.around i = p at splits
  have here : Inside p s i := inside_of_steps? plain run splits (by rw [← hp]; exact .inl rfl)
  have there : Inside p.rest s j := by
    refine inside_of_steps? plain run splits.rest ?_
    rw [← hp]
    rintro (e | ⟨d, own, same⟩)
    · exact ne e.symm
    · exact apart d own same
  have here' {x : State} (inside : Inside p x i) : Inside p.rest.rest x i := by
    rwa [Scope.rest_rest]
  have harmless := (carefree_of_steps? plain run).plain
  -- what each step leaves alone is all that the other one looks at
  obtain ⟨m, sw⟩ := State.step?_spares harmless there hj hb
  obtain ⟨n, su⟩ := State.step?_spares harmless (here' here) hi ha
  obtain ⟨v, hv, uv, -⟩ := sw.step?_eq_some here hi ha
  obtain ⟨v', hv', wv', -⟩ := su.step?_eq_some there hj hb
  obtain ⟨_, uv'⟩ := State.step?_spares su.plain (there.congr su) hj hv'
  obtain ⟨_, wv⟩ := State.step?_spares sw.plain (here' (here.congr sw)) hi hv
  have ordered {x y : State} {act act' : Action} {first rest : List Event}
      (hx : s.step? act = some (x, first)) (hy : x.step? act' = some (y, rest)) :
      y.registry.Ordered := by
    have further := State.steps?_concat.2 ⟨s, _, _, run, hx, rfl⟩
    exact (standing_of_steps? (State.steps?_concat.2 ⟨x, _, _, further, hy, rfl⟩)).ordered
  have counts : v'.handler = v.handler := by
    obtain ⟨h, -, hs⟩ := harmless
    rw [uv.counted (su.counted hs), wv'.counted (sw.counted hs), Harness.later_later,
      Harness.later_later, UInt64.add_comm]
  obtain rfl : v' = v :=
    (uv.symm.trans uv').eq (wv.symm.trans wv') (ordered hb hv) (ordered ha hv') counts
  exact ⟨v', hv', hv⟩

end Commute

/-! ### Runs without the steps of other lines -/

/-- Nobody has asked the controller to stop, or calls it from outside. -/
structure Quiet (s : State) : Prop where
  stopping : s.stopping = false
  callers : s.callers = []
  accepting : s.acceptor.isOpen = true

lemma Quiet.congr {s t : State} (quiet : Quiet s) (bare : t.bare = s.bare) : Quiet t :=
  ⟨(congrArg State.stopping bare :).trans quiet.stopping,
    (congrArg State.callers bare :).trans quiet.callers,
    (congrArg (fun u => u.acceptor.isOpen) bare :).trans quiet.accepting⟩

/-- Accepting fails for a request to stop only if there was one. -/
lemma isCancelled_of_pollAccept? {m : Transport.Moment} {started waiting : Bool} {d : Disposition}
    {f : Transport.Failure} {lost : Bool} (calm : m.cancelled = false)
    (h : Transport.pollAccept? m {} started waiting d = some (.failed f lost)) :
    f.isCancelled = false := by
  rcases pollAccept?_calm calm h with
    ⟨e, -⟩ | ⟨e, -⟩ | ⟨call, e, operation, lost, -, failed⟩
  · cases e
  · cases e
  · cases failed
    exact isCancelled_of_io _ _

section Shared

variable {p : Scope} {n : UInt64} {s t : State}

/-- Two outcomes of a step that is of no line. -/
structure Shared (p : Scope) (n : UInt64) (r r' : State × List Event) : Prop where
  alike : Alike p n r.1 r'.1
  same : r'.2 = r.2
  quiet : Quiet r.1

/-- The connection that waits longest is accepted in both states. -/
lemma Alike.acceptFirst (a : Alike p n s t) (quiet : Quiet s) :
    Shared p n s.acceptFirst t.acceptFirst := by
  have backlog : t.backlog = s.backlog := (congrArg State.backlog a.bare :)
  have accepted : t.accepted = s.accepted := (congrArg State.accepted a.bare :)
  unfold State.acceptFirst
  rw [backlog, accepted]
  cases s.backlog with
  | nil => exact ⟨a, rfl, quiet⟩
  | cons i rest =>
    have b := a.modifyLine i fun l => { l with
      connection := some { session := { connection := (s.accepted + 1).toUInt64, peer := l.peer } } }
    have counted : t.accepted + 1 = s.accepted + 1 := congrArg (· + 1) accepted
    exact ⟨((b.queue rfl).number counted).await rfl, rfl, quiet.stopping, quiet.callers, rfl⟩

/-- The connection that waits longest is lost in both states. -/
lemma Alike.loseFirst (a : Alike p n s t) : Alike p n s.loseFirst t.loseFirst := by
  have backlog : t.backlog = s.backlog := (congrArg State.backlog a.bare :)
  unfold State.loseFirst
  rw [backlog]
  cases s.backlog with
  | nil => exact a
  | cons i rest => exact (a.modifyLine i _).queue rfl

lemma Quiet.loseFirst (quiet : Quiet s) : Quiet s.loseFirst := by
  unfold State.loseFirst
  split
  · exact quiet
  · exact ⟨quiet.stopping, quiet.callers, quiet.accepting⟩

/-- **The accepting task** takes the same step in states that are alike. -/
lemma Alike.accept? (a : Alike p n s t) (quiet : Quiet s) (d : Disposition) :
    Option.Rel (Shared p n) (s.accept? d) (t.accept? d) := by
  have acceptor : t.acceptor = s.acceptor := (congrArg State.acceptor a.bare :)
  have backlog : t.backlog = s.backlog := (congrArg State.backlog a.bare :)
  have quiet' := quiet.congr a.bare
  have awaits {u v : State} {x y : Acceptor} (b : Alike p n u v) (calm : Quiet u) (same : y = x)
      (opened : x.isOpen = true) (events : List Event) :
      Shared p n ({ u with acceptor := x }, events) ({ v with acceptor := y }, events) :=
    ⟨b.await same, rfl, calm.stopping, calm.callers, opened⟩
  have going := quiet.accepting
  unfold State.accept?
  rw [acceptor]
  cases here : s.acceptor with
  | accepting started =>
    refine rel_bind_of_eq (by rw [a.moment, backlog]) fun progress polled => ?_
    cases progress with
    | pending => exact .some (awaits a quiet rfl rfl _)
    | accepted => exact .some (a.acceptFirst quiet)
    | failed f lost =>
      have unstopped := isCancelled_of_pollAccept? quiet.stopping polled
      refine rel_ite Iff.rfl (fun cancelled => ?_) fun _ => ?_
      · rw [unstopped] at cancelled
        cases cancelled
      · have b : Alike p n (if lost then s.loseFirst else s) (if lost then t.loseFirst else t) := by
          cases lost with
          | true => exact a.loseFirst
          | false => exact a
        refine .some (awaits b ?_ (by rw [b.now]) rfl _)
        cases lost with
        | true => exact quiet.loseFirst
        | false => exact quiet
  | resting till =>
    refine rel_ite (by rw [quiet.stopping, quiet'.stopping]) (fun stopping => ?_) fun _ => ?_
    · rw [quiet.stopping] at stopping
      cases stopping
    · refine rel_ite (by rw [a.now]) (fun _ => ?_) fun _ => .none
      exact rel_unlessFailing d (awaits a quiet rfl rfl _)
  | joining | stopped =>
    rw [here] at going
    cases going

/-- **An action of no line** has the same effect in states that are alike, if it is neither a call from
outside nor a request to stop. -/
theorem Alike.shared (a : Alike p n s t) (quiet : Quiet s) {act : Action} (line : act.line? = none)
    (going : act ≠ .stop) (uncalled : ∀ request, act ≠ .call request) :
    Option.Rel (Shared p n) (s.step? act) (t.step? act) := by
  have quiet' := quiet.congr a.bare
  cases act with
  | run who d =>
    cases who with
    | acceptor => exact a.accept? quiet d
    | driver | handler => cases line
    | caller k =>
      have none_ {u : State} (hu : Quiet u) : u.answer? k d = none := by
        unfold State.answer?
        rw [hu.callers]
        rfl
      show Option.Rel (Shared p n) (s.answer? k d) (t.answer? k d)
      rw [none_ quiet, none_ quiet']
      exact .none
  | elapse milliseconds =>
    exact .some ⟨a.elapse milliseconds, rfl, quiet.stopping, quiet.callers, quiet.accepting⟩
  | connect peer =>
    have capacity : t.capacity = s.capacity := (congrArg State.capacity a.bare :)
    have acceptor : t.acceptor = s.acceptor := (congrArg State.acceptor a.bare :)
    have backlog : t.backlog = s.backlog := (congrArg State.backlog a.bare :)
    refine rel_ite (by rw [acceptor]) (fun _ => .none) fun _ => .some ⟨?_, rfl, ?_⟩
    · refine (a.connect ?_).queue ?_
      · rw [capacity]
      · rw [backlog, a.length]
    · exact ⟨quiet.stopping, quiet.callers, quiet.accepting⟩
  | call request => exact (uncalled request rfl).elim
  | stop => exact (going rfl).elim
  | deliver | collect | endSending | leave | reset | letGo => cases line

end Shared

/-- The events about a line, in order. -/
def Event.on (i : Nat) (events : List Event) : List Event := events.filter fun e => e.line? = some i

@[simp] lemma Event.on_append (i : Nat) (first rest : List Event) :
    on i (first ++ rest) = on i first ++ on i rest := List.filter_append ..

lemma Event.on_of_keepsTo {p : Scope} {events : List Event} (h : KeepsTo p events) {i : Nat}
    (hi : i ∉ p.lines) : on i events = [] :=
  List.filter_eq_nil_iff.2 fun e he here => hi (h e he i (by simpa using here))

/-- Whether an action is of none but some lines: it is of one of them, or of no line. -/
def Action.concerns (near : Nat → Bool) (a : Action) : Bool :=
  match a.line? with
  | some i => near i
  | none => true

/-- Nobody calls the controller from outside or asks it to stop. -/
def Undemanding (actions : List Action) : Prop :=
  .stop ∉ actions ∧ ∀ request, .call request ∉ actions

lemma undemanding_concat {actions : List Action} {a : Action} (h : Undemanding (actions ++ [a])) :
    Undemanding actions ∧ a ≠ .stop ∧ ∀ request, a ≠ .call request := by
  obtain ⟨going, uncalled⟩ := h
  refine ⟨⟨fun h => going (List.mem_append_left _ h), fun request h =>
    uncalled request (List.mem_append_left _ h)⟩, ?_, fun request => ?_⟩
  · rintro rfl
    exact going List.mem_concat_self
  · rintro rfl
    exact uncalled request List.mem_concat_self

section Runs

variable {settings : Settings} {harness : Harness} {capacity : Nat} {actions : List Action} {s : State}
  {events : List Event}

/-- A run in which nobody demands anything leaves the controller quiet. -/
lemma quiet_of_steps? (plain : harness.Plain)
    (run : (State.start settings (.harness harness) capacity).steps? actions = some (s, events))
    (undemanding : Undemanding actions) : Quiet s := by
  refine State.run_induction (P := fun actions s _ => Undemanding actions → Quiet s)
    (fun _ => ⟨rfl, rfl, rfl⟩) ?_ run undemanding
  intro actions s before a t after before_run ih step undemanding
  obtain ⟨before_undemanding, going, uncalled⟩ := undemanding_concat undemanding
  have quiet := ih before_undemanding
  have harmless := (carefree_of_steps? plain before_run).plain
  cases line : a.line? with
  | some i =>
    have splits : (Scope.mk ∅ ∅).rest.Splits s := fun j d _ => by simp [Scope.rest]
    have inside := inside_of_steps? plain before_run splits (i := i) (by simp [Scope.rest])
    obtain ⟨m, alike⟩ := State.step?_spares harmless inside line step
    exact quiet.congr alike.bare
  | none =>
    have shared := (Alike.refl ⟨∅, ∅⟩ harmless).shared quiet line going uncalled
    rw [step] at shared
    obtain ⟨_, -, -, -, quiet'⟩ := some_of_rel shared
    exact quiet'

/-- What a run without the steps of some lines comes to: it is alike in a scope, and shows the same of the
lines of the scope. -/
def RunsWithin (start : State) (near : Nat → Bool) (p : Scope) (actions : List Action) (s : State)
    (events : List Event) : Prop :=
  ∃ t seen m, start.steps? (actions.filter (Action.concerns near)) = some (t, seen) ∧
    Alike p m s t ∧ ∀ i ∈ p.lines, Event.on i seen = Event.on i events

/-- A step that the run without some lines takes as well. -/
lemma RunsWithin.take {start s' t v : State} {near : Nat → Bool} {p : Scope} {n : UInt64} {a : Action}
    {seen after : List Event}
    (run : start.steps? (actions.filter (Action.concerns near)) = some (t, seen))
    (same : ∀ i ∈ p.lines, Event.on i seen = Event.on i events) (concerned : a.concerns near = true)
    (step : t.step? a = some (v, after)) (alike : Alike p n s' v) :
    RunsWithin start near p (actions ++ [a]) s' (events ++ after) := by
  refine ⟨v, seen ++ after, n, ?_, alike, fun i hi => ?_⟩
  · rw [List.filter_append, List.filter_cons_of_pos concerned]
    exact State.steps?_concat.2 ⟨t, seen, after, run, step, rfl⟩
  · rw [Event.on_append, Event.on_append, same i hi]

/-- **The steps of the lines of a scope and of no line make a run of their own**, if the scope splits the
controller. -/
theorem run_within (plain : harness.Plain) (near : Nat → Bool)
    (run : (State.start settings (.harness harness) capacity).steps? actions = some (s, events))
    (undemanding : Undemanding actions) {p : Scope} (lines : ∀ i, i ∈ p.lines ↔ near i = true)
    (splits : p.Splits s) :
    RunsWithin (State.start settings (.harness harness) capacity) near p actions s events := by
  refine State.run_induction
    (P := fun actions s events => Undemanding actions → p.Splits s →
      RunsWithin (State.start settings (.harness harness) capacity) near p actions s events)
    ?_ ?_ run undemanding splits
  · exact fun _ _ => ⟨_, [], 0, rfl, .refl p ⟨harness, plain, rfl⟩, fun _ _ => rfl⟩
  intro actions s before a s' after before_run ih step undemanding splits
  obtain ⟨before_undemanding, going, uncalled⟩ := undemanding_concat undemanding
  have before_splits : p.Splits s := fun i d reported => splits i d
    (reported?_step (standing_of_steps? before_run) (undisturbed_of_steps? before_run)
      (orderly_of_run before_run) step reported)
  obtain ⟨t, seen, m, hrun, alike, same⟩ := ih before_undemanding before_splits
  cases line : a.line? with
  | some i =>
    by_cases hi : i ∈ p.lines
    · have inside := inside_of_steps? plain before_run before_splits hi
      obtain ⟨v, hv, alike', -⟩ := alike.step?_eq_some inside line step
      exact .take hrun same (by simp [Action.concerns, line, (lines i).1 hi]) hv alike'
    · -- the step of another line is left out
      have harmless := (carefree_of_steps? plain before_run).plain
      have inside : Inside p.rest s i := inside_of_steps? plain before_run before_splits.rest hi
      obtain ⟨n, left⟩ := State.step?_spares harmless inside line step
      obtain ⟨-, -, -, spoken⟩ := (Alike.refl p.rest harmless).step?_eq_some inside line step
      have unconcerned : ¬ a.concerns near = true := by
        simpa [Action.concerns, line] using fun h => hi ((lines i).2 h)
      refine ⟨t, seen, -n + m, ?_, left.symm.trans alike, fun j hj => ?_⟩
      · rw [List.filter_append, List.filter_cons_of_neg unconcerned, List.filter_nil, List.append_nil]
        exact hrun
      · rw [Event.on_append, Event.on_of_keepsTo spoken (fun h => h hj), List.append_nil, same j hj]
  | none =>
    have quiet := quiet_of_steps? plain before_run before_undemanding
    have shared := alike.shared quiet line going uncalled
    rw [step] at shared
    obtain ⟨⟨v, after'⟩, hv, alike', rfl, -⟩ := some_of_rel shared
    exact .take hrun same (by simp [Action.concerns, line]) hv alike'

end Runs

/-! ### Switches do not interfere -/

/-- Some lines are apart from all others. -/
def State.Parts (s : State) (near : Nat → Bool) : Prop :=
  ∀ i j, near i = true → near j = false → s.Apart i j

/-- **Switches do not interfere** in the runs of a controller. -/
structure Independent (start : State) : Prop where
  /-- Two steps of different lines, the datapaths of whose switches differ as far as they are reported,
  are each possible after the other, show the same then, and lead to the same state in either order. -/
  commute : ∀ actions s events, start.steps? actions = some (s, events) →
    ∀ i j, i ≠ j → s.Apart i j → ∀ a b, a.line? = some i → b.line? = some j →
      ∀ u w seen seen', s.step? a = some (u, seen) → s.step? b = some (w, seen') →
        ∃ t, u.step? b = some (t, seen') ∧ w.step? a = some (t, seen)
  /-- In a run in which nobody demands anything, lines apart from the others might have come to their
  state, with all that was seen of them, without any step of the others. -/
  alone : ∀ near actions s events, start.steps? actions = some (s, events) → Undemanding actions →
    s.Parts near →
      ∃ t seen, start.steps? (actions.filter (Action.concerns near)) = some (t, seen) ∧
        ∀ i, near i = true → t.lines[i]? = s.lines[i]? ∧ Event.on i seen = Event.on i events
  /-- Whatever the others send, however long they take and however they fail, the lines come to the same
  state, and the same is seen of them. -/
  unaffected : ∀ near actions actions' s s' events events', start.steps? actions = some (s, events) →
    start.steps? actions' = some (s', events') → Undemanding actions → Undemanding actions' →
    s.Parts near → s'.Parts near →
    actions'.filter (Action.concerns near) = actions.filter (Action.concerns near) →
      ∀ i, near i = true → s'.lines[i]? = s.lines[i]? ∧ Event.on i events' = Event.on i events

section Independent

variable {settings : Settings} {harness : Harness} {capacity : Nat}

lemma alone_of_parts (plain : harness.Plain) (near : Nat → Bool) {actions : List Action} {s : State}
    {events : List Event}
    (run : (State.start settings (.harness harness) capacity).steps? actions = some (s, events))
    (undemanding : Undemanding actions) (parts : s.Parts near) :
    ∃ t seen, (State.start settings (.harness harness) capacity).steps?
        (actions.filter (Action.concerns near)) = some (t, seen) ∧
      ∀ i, near i = true → t.lines[i]? = s.lines[i]? ∧ Event.on i seen = Event.on i events := by
  let p : Scope := ⟨{i | near i = true}, {d | ∃ i, near i = true ∧ s.reported? i = some d}⟩
  have splits : p.Splits s := by
    intro j d reported
    refine ⟨fun hj => ⟨j, hj, reported⟩, fun ⟨i, hi, same⟩ => ?_⟩
    by_contra far
    exact parts i j hi (Bool.not_eq_true _ ▸ far) d same reported
  obtain ⟨t, seen, m, hrun, alike, same⟩ :=
    run_within plain near run undemanding (p := p) (fun _ => Iff.rfl) splits
  exact ⟨t, seen, hrun, fun i hi => ⟨alike.lines i hi, same i hi⟩⟩

theorem switches_independent (plain : harness.Plain) :
    Independent (State.start settings (.harness harness) capacity) := by
  refine ⟨?_, ?_, ?_⟩
  · intro actions s events run i j ne apart a b hi hj u w seen seen' ha hb
    exact steps_commute plain run ne apart hi hj ha hb
  · intro near actions s events run undemanding parts
    exact alone_of_parts plain near run undemanding parts
  · intro near actions actions' s s' events events' run run' undemanding undemanding' parts parts' same
      i hi
    obtain ⟨t, seen, ht, alone⟩ := alone_of_parts plain near run undemanding parts
    obtain ⟨t', seen', ht', alone'⟩ := alone_of_parts plain near run' undemanding' parts'
    rw [same, ht] at ht'
    cases ht'
    obtain ⟨line, seen_eq⟩ := alone i hi
    obtain ⟨line', seen_eq'⟩ := alone' i hi
    exact ⟨line'.symm.trans line, seen_eq'.symm.trans seen_eq⟩

end Independent

/-- Two switches arrive, and each is about to be sent a message. -/
def sideBySide : List Action :=
  arrival 0 5 ++ arrival 1 6 ++ List.replicate 4 (Action.go (.handler 0)) ++
    List.replicate 4 (Action.go (.handler 1))

/-- The connection of the second switch is reset then, and both bursts come to their ends. -/
def besideAFailure : List Action :=
  sideBySide ++ Action.reset 1 :: List.replicate 4 (Action.go (.handler 1)) ++
    List.replicate 5 (Action.go (.handler 0))

/-- A controller that sends one message to each switch. -/
def single : State := .start {} (.harness { request := { count := 1 } }) 40

/-- A line is apart from the other one of two. -/
lemma parts_of_two {s : State} {d e : Switch.DatapathId} (two : s.lines.length = 2)
    (first : s.reported? 0 = some d) (second : s.reported? 1 = some e) (ne : d ≠ e) :
    s.Parts (· == 0) := by
  intro i j hi hj x hx hy
  obtain rfl : i = 0 := by simpa using hi
  match j with
  | 0 => cases hj
  | 1 => exact ne (Option.some.inj (first.symm.trans (hx.trans (hy.symm.trans second))))
  | j + 2 =>
    have absent : s.lines[j + 2]? = none := List.getElem?_eq_none (by omega)
    simp [State.reported?, State.connection?, absent] at hy

theorem independent_beside_failure :
    (∃ s events u w t seen seen', single.steps? sideBySide = some (s, events) ∧
      s.step? (.go (.handler 0)) = some (u, seen) ∧ s.step? (.go (.handler 1)) = some (w, seen') ∧
      Event.wire 0 seen = Frame.bytes { xid := 3, message := .setConfig {} } ∧
      Event.wire 1 seen' = Frame.bytes { xid := 3, message := .setConfig {} } ∧
      u.step? (.go (.handler 1)) = some (t, seen') ∧ w.step? (.go (.handler 0)) = some (t, seen)) ∧
    ∃ s events t seen, single.steps? besideAFailure = some (s, events) ∧
      (Event.burstsEnded events).map (fun e => (e.1, e.2.phase)) = [(1, .aborted), (0, .completed)] ∧
      single.steps? (besideAFailure.filter (Action.concerns (· == 0))) = some (t, seen) ∧
      Event.on 0 seen = Event.on 0 events := by
  have independent : Independent single := switches_independent ⟨rfl, rfl, rfl⟩
  constructor
  · obtain ⟨⟨s, events⟩, run⟩ := Option.isSome_iff_exists.1
      (show (single.steps? sideBySide).isSome = true by decide +kernel)
    have h : (single.steps? sideBySide).all (fun r =>
        (r.1.step? (.go (.handler 0))).any fun q => (r.1.step? (.go (.handler 1))).any fun q' =>
          decide (r.1.lines.length = 2 ∧ r.1.reported? 0 = some ⟨5⟩ ∧ r.1.reported? 1 = some ⟨6⟩ ∧
            Event.wire 0 q.2 = Frame.bytes { xid := 3, message := .setConfig {} } ∧
            Event.wire 1 q'.2 = Frame.bytes { xid := 3, message := .setConfig {} })) = true := by
      decide +kernel
    rw [run] at h
    obtain ⟨⟨u, seen⟩, hu, h⟩ := (Option.any_eq_true ..).1 h
    obtain ⟨⟨w, seen'⟩, hw, h⟩ := (Option.any_eq_true ..).1 h
    obtain ⟨two, first, second, wire, wire'⟩ := of_decide_eq_true h
    have apart : s.Apart 0 1 := parts_of_two two first second (by decide) 0 1 rfl rfl
    obtain ⟨t, ht, ht'⟩ :=
      independent.commute _ _ _ run 0 1 (by decide) apart _ _ rfl rfl _ _ _ _ hu hw
    exact ⟨s, events, u, w, t, seen, seen', run, hu, hw, wire, wire', ht, ht'⟩
  · obtain ⟨⟨s, events⟩, run⟩ := Option.isSome_iff_exists.1
      (show (single.steps? besideAFailure).isSome = true by decide +kernel)
    have h : (single.steps? besideAFailure).all (fun r =>
        decide (r.1.lines.length = 2 ∧ r.1.reported? 0 = some ⟨5⟩ ∧ r.1.reported? 1 = some ⟨6⟩ ∧
          (Event.burstsEnded r.2).map (fun e => (e.1, e.2.phase)) =
            [(1, .aborted), (0, .completed)])) = true := by decide +kernel
    rw [run] at h
    obtain ⟨two, first, second, ended⟩ := of_decide_eq_true h
    have undemanding : Undemanding besideAFailure :=
      ⟨by decide, by simp [besideAFailure, sideBySide, arrival, Action.go]⟩
    obtain ⟨t, seen, ht, alone⟩ := independent.alone (· == 0) _ _ _ run undemanding
      (parts_of_two two first second (by decide))
    exact ⟨s, events, t, seen, run, ended, ht, (alone 0 rfl).2⟩

end FlowBurst.Controller
