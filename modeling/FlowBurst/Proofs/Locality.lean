import FlowBurst.Proofs.Scopes
import FlowBurst.Proofs.Surroundings

/-!
# A line keeps to its scope

What a driving task, a message or a handler does depends on nothing but a scope that has its line, the
lines that it may close or write on, and the datapaths that it looks up, registers and deregisters; and
it changes nothing else, but for the count of the harness. So a step is the same in states that are
alike in the scope, function by function, and leaves the rest as it was. Main statements:
`Alike.drive?`, `Alike.send?`, `Alike.handle?`, `Alike.step?`, `State.step?_spares`.
-/

namespace FlowBurst.Controller

open FlowBurst.OpenFlow (Frame)
open FlowBurst.Switch (DatapathId Failure Handle Reference Registry Target)
open FlowBurst.Transport (Call Disposition Limits)

/-! ### Possible steps side by side -/

section Relations

variable {α β γ δ : Type} {R : α → β → Prop} {S : γ → δ → Prop}

lemma rel_bind {x : Option α} {y : Option β} {f : α → Option γ} {g : β → Option δ}
    (h : Option.Rel R x y) (k : ∀ a b, R a b → Option.Rel S (f a) (g b)) :
    Option.Rel S (x.bind f) (y.bind g) := by
  cases h with
  | some h => exact k _ _ h
  | none => exact .none

lemma rel_bind_same {x : Option α} {f : α → Option γ} {g : α → Option δ}
    (k : ∀ a, x = some a → Option.Rel S (f a) (g a)) : Option.Rel S (x.bind f) (x.bind g) := by
  cases x with
  | some a => exact k a rfl
  | none => exact .none

lemma rel_bind_of_eq {x y : Option α} {f : α → Option γ} {g : α → Option δ} (e : y = x)
    (k : ∀ a, x = some a → Option.Rel S (f a) (g a)) : Option.Rel S (x.bind f) (y.bind g) := by
  rw [e]
  exact rel_bind_same k

lemma rel_ite {P Q : Prop} [Decidable P] [Decidable Q] {x y : Option α} {x' y' : Option β}
    (same : Q ↔ P) (yes : P → Option.Rel R x x') (no : ¬ P → Option.Rel R y y') :
    Option.Rel R (if P then x else y) (if Q then x' else y') := by
  by_cases h : P
  · rw [if_pos h, if_pos (same.2 h)]
    exact yes h
  · rw [if_neg h, if_neg fun q => h (same.1 q)]
    exact no h

lemma rel_unlessFailing (d : Disposition) {a : α} {b : β} (h : R a b) :
    Option.Rel R (d.unlessFailing a) (d.unlessFailing b) := by
  cases d with
  | proceed => exact .some h
  | fail => exact .none

/-- What is done with the outcome of a poll or of a message is done in the same way in states that are
alike. -/
lemma rel_bind_yields {p : Scope} {n : UInt64} {x y : Option (State × List Event × α)}
    {f : State × List Event × α → Option γ} {g : State × List Event × α → Option δ}
    (h : Option.Rel (Yields p n) x y)
    (k : ∀ u v events b, Alike p n u v → KeepsTo p events →
      Option.Rel S (f (u, events, b)) (g (v, events, b))) :
    Option.Rel S (x.bind f) (y.bind g) := by
  refine rel_bind h fun r r' yields => ?_
  obtain ⟨u, events, b⟩ := r
  obtain ⟨v, events', b'⟩ := r'
  obtain ⟨⟨alike, same, seen⟩, rfl⟩ := yields
  obtain rfl : events' = events := same
  exact k u v events' b' alike seen

end Relations

/-! ### The functions of a driving task -/

namespace Alike

variable {p : Scope} {n : UInt64} {s t : State} {i : Nat} (a : Alike p n s t) (hi : i ∈ p.lines)
include a hi

lemma poll? (who : Actor) (d : Disposition) (call : Call) :
    Option.Rel (Yields p n) (s.poll? i who d call) (t.poll? i who d call) := by
  unfold State.poll?
  rw [a.lines i hi, a.moment]
  refine rel_bind_same fun line _ => rel_bind_same fun c _ => rel_bind_same fun q _ => ?_
  exact .some ⟨⟨a.modifyLine i _, rfl, keepsTo_putEvents hi who q.put⟩, rfl⟩

lemma failHandshake (f : Failure) :
    Matched p n (s.failHandshake i f) (t.failHandshake i f) := by
  unfold State.failHandshake
  rw [a.peer hi, a.settings, a.now]
  exact ⟨a.enter i _, rfl, keepsTo_notice _ _⟩

lemma endService (switch : Reference) (f : Failure) :
    Matched p n (s.endService i switch f) (t.endService i switch f) := by
  unfold State.endService
  rw [a.peer hi, a.now]
  exact ⟨a.enter i _, rfl, keepsTo_notice _ _⟩

lemma fail (w : Awaiting) (f : Failure) : Matched p n (s.fail i w f) (t.fail i w f) := by
  cases w with
  | hello => exact a.failHandshake hi f
  | features => exact a.failHandshake hi f
  | service switch => exact a.endService hi switch f

lemma begin (purpose : Purpose) (limits : Limits) (frame : Frame) :
    Matched p n (s.begin i purpose limits frame) (t.begin i purpose limits frame) := by
  unfold State.begin
  cases frame.encode with
  | ok bytes => exact ⟨a.enter i _, rfl, (keepsTo_cons_of_line rfl).2 ⟨hi, keepsTo_nil⟩⟩
  | error e => exact a.fail hi _ _

lemma afterWrite (purpose : Purpose) (answer : Except Transport.Failure Unit) :
    Matched p n (s.afterWrite i purpose answer) (t.afterWrite i purpose answer) := by
  unfold State.afterWrite
  split
  · rw [a.peer hi]
    exact a.failHandshake hi _
  · exact ⟨a.enter i _, rfl, keepsTo_nil⟩
  · exact a.fail hi _ _

lemma answerEcho (c : Connection) (w : Awaiting) (xid : UInt32) (payload : List UInt8) :
    Matched p n (s.answerEcho i c w xid payload) (t.answerEcho i c w xid payload) := by
  unfold State.answerEcho
  rw [a.sendLimits]
  exact a.begin hi _ _ _

lemma receiveAside (c : Connection) (w : Awaiting) (frame : Frame) :
    Matched p n (s.receiveAside i c w frame) (t.receiveAside i c w frame) := by
  unfold State.receiveAside
  split
  · exact a.answerEcho hi c w _ _
  · rw [a.peer hi]
    exact (a.failHandshake hi (.unexpectedMessage (s.peer i).text w.name "error")).after
      [_] ((keepsTo_cons_of_none rfl).2 keepsTo_nil)
  · exact ⟨a.enter i _, rfl, keepsTo_nil⟩

lemma receive (c : Connection) (w : Awaiting) (frame : Frame) :
    Matched p n (s.receive i c w frame) (t.receive i c w frame) := by
  unfold State.receive
  split
  · split
    · exact a.begin hi _ _ _
    · exact (a.modifyConnection i _).begin hi _ _ _
  · exact ⟨a.enter i _, rfl, keepsTo_nil⟩
  · exact a.answerEcho hi c _ _ _
  · exact ⟨a.enter i _, rfl, (keepsTo_cons_of_none rfl).2 keepsTo_nil⟩
  · exact ⟨a.enter i _, rfl, keepsTo_nil⟩
  · exact a.receiveAside hi c _ frame

lemma decide (c : Connection) (w : Awaiting) : Matched p n (s.decide i c w) (t.decide i c w) := by
  unfold State.decide
  rw [a.settings]
  obtain ⟨answer, rest⟩ := Frame.decode s.settings.maxFrameLength c.inbound
  have b := a.modifyConnection i fun c => { c with inbound := rest }
  rcases answer with e | _ | frame
  · exact b.fail hi w _
  · exact ⟨b.enter i _, rfl, keepsTo_nil⟩
  · exact (b.receive hi c w frame).after [.received i frame]
      ((keepsTo_cons_of_line rfl).2 ⟨hi, keepsTo_nil⟩)

lemma afterRead (w : Awaiting) (answer : Except Transport.Failure Transport.Reply) :
    Matched p n (s.afterRead i w answer) (t.afterRead i w answer) := by
  unfold State.afterRead
  split
  · exact a.fail hi w _
  · exact ⟨(a.modifyConnection i _).enter i _, rfl,
      (keepsTo_cons_of_line rfl).2 ⟨hi, keepsTo_nil⟩⟩
  · exact ⟨a.enter i _, rfl, keepsTo_nil⟩
  · exact a.fail hi w _

/-- Registering stays within a scope that has the datapath and every line that is registered with
one of its datapaths. -/
lemma register (c : Connection) (d : DatapathId) (hd : d ∈ p.datapaths)
    (owned : ∀ h, s.registry.get? d = some h → h.channel ∈ p.lines) :
    Matched p n (s.register i c d) (t.register i c d) := by
  unfold State.register
  cases c.session.becomeReady d with
  | error move =>
    rw [a.peer hi, a.now]
    exact ⟨a.enter i _, rfl, (keepsTo_cons_of_none rfl).2 keepsTo_nil⟩
  | ok session =>
    have displace {s t : State} (b : Alike p n s t) {h : Handle} (hh : h.channel ∈ p.lines)
        (switch : Reference) :
        Matched p n
          (s.enter i (.displacing switch h (closeCall s.now)), [.registered ⟨switch, i⟩ (some h),
            .notice (.reconnected d (s.peer i) (s.peer h.channel))])
          (t.enter i (.displacing switch h (closeCall t.now)), [.registered ⟨switch, i⟩ (some h),
            .notice (.reconnected d (t.peer i) (t.peer h.channel))]) := by
      rw [b.peer hi, b.peer hh, b.now]
      exact ⟨b.enter i _, rfl,
        (keepsTo_cons_of_line rfl).2 ⟨hi, (keepsTo_cons_of_none rfl).2 keepsTo_nil⟩⟩
    have previous : (t.registry.register ⟨⟨d, session.connection⟩, i⟩).1 =
        (s.registry.register ⟨⟨d, session.connection⟩, i⟩).1 := a.registry d hd
    have b := (a.modifyConnection i fun c => { c with session }).enrol ⟨⟨d, session.connection⟩, i⟩
    dsimp only
    rw [previous]
    cases held : (s.registry.register ⟨⟨d, session.connection⟩, i⟩).1 with
    | none => exact ⟨b.enter i _, rfl, (keepsTo_cons_of_line rfl).2 ⟨hi, keepsTo_nil⟩⟩
    | some h => exact displace b (owned h held) _

omit hi in
lemma afterClose (served : Option Reference) :
    Alike p n (s.afterClose i served) (t.afterClose i served) := by
  unfold State.afterClose
  cases served with
  | none => exact ((a.modifyConnection i _).enter i _).modifyLine i _
  | some switch => exact (a.modifyConnection i _).enter i _

end Alike

/-! ### What lies within a scope -/

/-- The datapath that a message is for. -/
def targetDatapath : Target → DatapathId
  | .datapath d => d
  | .connection r => r.datapath

/-- A message that is looked up under a datapath of a scope, or has the handle of a line of it. -/
def Sending.Within (p : Scope) : Sending → Prop
  | looking target _ => targetDatapath target ∈ p.datapaths
  | holding h _ | writing h _ _ => h.channel ∈ p.lines

/-- A stage at which a driving task registers and deregisters under datapaths of a scope, and closes
lines of it. -/
def Stage.Within (p : Scope) : Stage → Prop
  | registering features => (⟨features.datapathId⟩ : DatapathId) ∈ p.datapaths
  | displacing _ previous _ => previous.channel ∈ p.lines
  | deregistering switch => switch.datapath ∈ p.datapaths
  | _ => True

/-- News about which a handler sends within a scope, and stops nobody. -/
def News.Within (p : Scope) : News → Prop
  | sending _ x => x.Within p
  | settling _ todo => todo.Unlimited
  | _ => True

/-- The tasks of a line keep to a scope: the scope has the line, whatever the tasks are about to look up
or to register, and every line that is registered with a datapath of it. -/
structure Inside (p : Scope) (s : State) (i : Nat) : Prop where
  line : i ∈ p.lines
  registry : ∀ d ∈ p.datapaths, ∀ h, s.registry.get? d = some h → h.channel ∈ p.lines
  stage : ∀ c, s.connection? i = some c → c.stage.Within p
  news : ∀ c, s.connection? i = some c → c.news.Within p

/-- Keeping to a scope is a matter of the scope. -/
lemma Inside.congr {p : Scope} {n : UInt64} {s t : State} {i : Nat} (inside : Inside p s i)
    (a : Alike p n s t) : Inside p t i := by
  obtain ⟨line, registry, stage, news⟩ := inside
  refine ⟨line, fun d hd h hh => registry d hd h (a.registry d hd ▸ hh), ?_, ?_⟩
  · rw [a.connection? line]
    exact stage
  · rw [a.connection? line]
    exact news

namespace Alike

variable {p : Scope} {n : UInt64} {s t : State} {i : Nat} (a : Alike p n s t)
include a

lemma find {target : Target} (ht : targetDatapath target ∈ p.datapaths) :
    t.registry.find target = s.registry.find target := by
  cases target with
  | datapath d =>
    have same := a.registry d ht
    simp only [Registry.find, same]
  | connection r =>
    have same := a.registry r.datapath ht
    simp only [Registry.find, same]

/-- **A message within a scope** takes the same step in states that are alike there. -/
theorem send? (who : Actor) (d : Disposition) {x : Sending} (within : x.Within p) :
    Option.Rel (Yields p n) (s.send? who d x) (t.send? who d x) := by
  cases x with
  | looking target message =>
    unfold State.send?
    refine rel_unlessFailing d ?_
    rw [a.find within]
    cases s.registry.find target with
    | ok h => exact ⟨⟨a, rfl, keepsTo_nil⟩, rfl⟩
    | error f => exact ⟨⟨a, rfl, keepsTo_nil⟩, rfl⟩
  | holding h message =>
    unfold State.send?
    dsimp only
    rw [a.connection? within]
    refine rel_bind_same fun c _ => rel_unlessFailing d ?_
    cases Frame.encode { xid := c.nextXid, message } with
    | ok bytes =>
      have b := a.modifyConnection h.channel fun c => { c with nextXid := c.nextXid + 1 }
      dsimp only
      rw [b.sendLimits]
      exact ⟨⟨b, rfl, (keepsTo_cons_of_line rfl).2 ⟨within, keepsTo_nil⟩⟩, rfl⟩
    | error e => exact ⟨⟨a.modifyConnection _ _, rfl, keepsTo_nil⟩, rfl⟩
  | writing h frame call =>
    unfold State.send?
    refine rel_bind_yields (a.poll? within who d call) fun u v events progress b seen => ?_
    have ended (failure : Option Transport.Failure) :
        KeepsTo p (events ++ [.frameEnded h.channel who frame failure]) :=
      keepsTo_append.2 ⟨seen, (keepsTo_cons_of_line rfl).2 ⟨within, keepsTo_nil⟩⟩
    rcases progress with call | _ | _
    · exact .some ⟨⟨b, rfl, seen⟩, rfl⟩
    · exact .some ⟨⟨b, rfl, ended _⟩, rfl⟩
    · exact .some ⟨⟨b, rfl, ended _⟩, rfl⟩

/-- **A driving task within a scope** takes the same step in states that are alike there. -/
theorem drive? (d : Disposition) (inside : Inside p s i) :
    Option.Rel (Matched p n) (s.drive? i d) (t.drive? i d) := by
  have hi := inside.line
  unfold State.drive?
  rw [a.connection? hi]
  refine rel_bind_same fun c hc => ?_
  have within := inside.stage c hc
  have own {e : Event} (he : e.line? = some i) : KeepsTo p [e] :=
    (keepsTo_cons_of_line he).2 ⟨hi, keepsTo_nil⟩
  cases stage : c.stage with
  | opening =>
    refine rel_unlessFailing d ?_
    rw [a.now, a.settings]
    exact (a.modifyConnection i _).begin hi _ _ _
  | writing purpose frame call =>
    refine rel_bind_yields (a.poll? hi _ d call) fun u v events progress b seen => ?_
    cases progress with
    | pending call => exact .some ⟨b.enter i _, rfl, seen⟩
    | ready answer =>
      have ended := (b.afterWrite hi purpose (answer.map fun _ => ())).after
        [.frameEnded i (.driver i) frame (failureOf answer)] (own rfl)
      exact .some (ended.after _ seen)
  | deciding w => exact rel_unlessFailing d (a.decide hi c w)
  | reading w call =>
    refine rel_bind_yields (a.poll? hi _ d call) fun u v events progress b seen => ?_
    cases progress with
    | pending call => exact .some ⟨b.enter i _, rfl, seen⟩
    | ready answer => exact .some ((b.afterRead hi w answer).after _ seen)
  | registering features =>
    rw [stage] at within
    exact rel_unlessFailing d (a.register hi c _ within (inside.registry _ within))
  | displacing switch previous call =>
    rw [stage] at within
    refine rel_bind_yields (a.poll? within _ d call) fun u v events progress b seen => ?_
    cases progress with
    | pending call => exact .some ⟨b.enter i _, rfl, seen⟩
    | ready answer => exact .some ⟨b.enter i _, rfl, seen⟩
  | launching switch => exact rel_unlessFailing d ⟨(a.tell i _).enter i _, rfl, keepsTo_nil⟩
  | closing served call =>
    refine rel_bind_yields (a.poll? hi _ d call) fun u v events progress b seen => ?_
    cases progress with
    | pending call => exact .some ⟨b.enter i _, rfl, seen⟩
    | ready answer => exact .some ⟨b.afterClose served, rfl, seen⟩
  | deregistering switch =>
    rw [stage] at within
    have removed : (t.registry.deregister switch).1 = (s.registry.deregister switch).1 := by
      rw [Registry.deregister_fst, Registry.deregister_fst, a.registry _ within]
    have matched : Matched p n
        ({ s.enter i (.joining switch (s.registry.deregister switch).1) with
          registry := (s.registry.deregister switch).2 },
          [Event.deregistered i switch (s.registry.deregister switch).1])
        ({ t.enter i (.joining switch (t.registry.deregister switch).1) with
          registry := (t.registry.deregister switch).2 },
          [Event.deregistered i switch (t.registry.deregister switch).1]) := by
      rw [removed]
      exact ⟨(a.enter i _).resign switch, rfl, own rfl⟩
    exact rel_unlessFailing d matched
  | joining switch removed =>
    dsimp only
    split
    · exact rel_unlessFailing d ⟨a.enter i _, rfl, keepsTo_nil⟩
    · exact rel_unlessFailing d ⟨a.enter i _, rfl, (keepsTo_cons_of_none rfl).2 keepsTo_nil⟩
    · exact .none
  | notifying switch => exact rel_unlessFailing d ⟨a.enter i _, rfl, own rfl⟩
  | ended => exact .none

omit a in
/-- A step of settling a burst that leaves the harness plain and stops nobody. -/
lemma settle (a : Alike p n s t) (hi : i ∈ p.lines) {e : Harness.Effect} (plain : e.harness.Plain)
    (goes : e.stop = false) (switch : Reference) :
    Matched p n (s.settle i switch e)
      (t.settle i switch { e with harness := e.harness.later n }) := by
  have b : Alike p n { s with handler := .harness e.harness, stopping := s.stopping || e.stop }
      { t with
        handler := .harness (e.harness.later n), stopping := t.stopping || e.stop } := by
    rw [goes, Bool.or_false, Bool.or_false]
    exact ⟨a.bare, a.length, a.lines, a.registry, e.harness, plain, rfl, rfl⟩
  have quiet : KeepsTo p ((e.notices.map fun n => Event.notice (.harness n)) ++
      if e.stop then [.stopRequested] else []) := by
    rw [goes]
    refine keepsTo_append.2 ⟨fun x hx => ?_, keepsTo_nil⟩
    obtain ⟨notice, -, rfl⟩ := List.mem_map.1 hx
    intro i hi
    cases hi
  unfold State.settle
  dsimp only
  split
  · exact ⟨b.tell i _, rfl,
      keepsTo_append.2 ⟨quiet, (keepsTo_cons_of_line rfl).2 ⟨hi, keepsTo_nil⟩⟩⟩
  · exact ⟨b.tell i _, rfl, quiet⟩

/-- **A handler within a scope** takes the same step in states that are alike there. -/
theorem handle? (d : Disposition) (inside : Inside p s i) :
    Option.Rel (Matched p n) (s.handle? i d) (t.handle? i d) := by
  have hi := inside.line
  obtain ⟨h, plain, hs, ht⟩ := a.handler
  unfold State.handle?
  rw [a.connection? hi, hs, ht]
  refine rel_bind_same fun c hc => ?_
  have within := inside.news c hc
  have own {e : Event} (he : e.line? = some i) : KeepsTo p [e] :=
    (keepsTo_cons_of_line he).2 ⟨hi, keepsTo_nil⟩
  cases news : c.news with
  | spawned switch => exact rel_unlessFailing d ⟨a.tell i _, rfl, own rfl⟩
  | observing switch => exact rel_unlessFailing d ⟨a.tell i _, rfl, own rfl⟩
  | bursting run =>
    refine rel_unlessFailing d ?_
    split
    · exact ⟨a.tell i _, rfl, keepsTo_nil⟩
    · exact ⟨a.tell i _, rfl, own rfl⟩
  | sending run x =>
    rw [news] at within
    refine rel_bind_yields (a.send? (.handler i) d within) fun u v events result b seen => ?_
    rcases result with y | _ | xid
    · exact .some ⟨b.tell i _, rfl, seen⟩
    · exact .some ⟨b.tell i _, rfl, keepsTo_append.2 ⟨seen, own rfl⟩⟩
    · exact .some ⟨b.tell i _, rfl, seen⟩
  | settling switch todo =>
    rw [news] at within
    dsimp only
    cases settle : h.settle? todo with
    | none =>
      cases todo with
      | settled => exact .none
      | counting | deciding | reporting => cases settle
    | some e =>
      obtain ⟨calm, later⟩ := plain.settles within settle
      rw [later n]
      exact rel_unlessFailing d (a.settle hi calm.plain calm.goes switch)
  | absent | returned | lost => exact .none

end Alike

/-! ### The steps of a line -/

/-- The line that an action is of: that of the task which takes a step, or of the switch which does
something. -/
def Action.line? : Action → Option Nat
  | run (.driver i) _ | run (.handler i) _ | deliver i _ | collect i _ | endSending i | leave i
  | reset i | letGo i => some i
  | run .acceptor _ | run (.caller _) _ | elapse _ | connect _ | call _ | stop => none

/-- A connection within a scope is held in states that are alike there by the same. -/
lemma Alike.isUnheld {p : Scope} {n : UInt64} {s t : State} {i : Nat} (a : Alike p n s t)
    (hi : i ∈ p.lines) : t.isUnheld i = s.isUnheld i := by
  have callers : t.callers = s.callers := (congrArg State.callers a.bare :)
  unfold State.isUnheld
  rw [a.connection? hi, callers]

/-- **A line within a scope** takes the same step in states that are alike there, and the world sees
nothing of other lines. -/
theorem Alike.step? {p : Scope} {n : UInt64} {s t : State} {i : Nat} (a : Alike p n s t)
    (inside : Inside p s i) {act : Action} (line : act.line? = some i) :
    Option.Rel (Matched p n) (s.step? act) (t.step? act) := by
  have changed (f : Line → Line) :
      Option.Rel (Matched p n) (some (s.modifyLine i f, [])) (some (t.modifyLine i f, [])) :=
    .some ⟨a.modifyLine i f, rfl, keepsTo_nil⟩
  cases act with
  | run who d =>
    cases who with
    | driver j =>
      cases line
      exact a.drive? d inside
    | handler j =>
      cases line
      exact a.handle? d inside
    | acceptor | caller => cases line
  | deliver j bytes =>
    cases line
    unfold State.step?
    dsimp only
    rw [a.lines i inside.line]
    refine rel_bind_same fun l _ => rel_bind_same fun ⟨answer, link⟩ _ => ?_
    cases answer with
    | ok m =>
      dsimp only
      split
      · exact changed _
      · exact .none
    | error e => exact .none
  | collect j size =>
    cases line
    unfold State.step?
    dsimp only
    rw [a.lines i inside.line]
    refine rel_bind_same fun l _ => rel_bind_same fun ⟨answer, link⟩ _ => ?_
    cases answer with
    | ok m => exact changed _
    | error e => exact .none
  | endSending j | leave j | reset j =>
    cases line
    exact changed _
  | letGo j =>
    cases line
    exact rel_ite (by rw [a.isUnheld inside.line]) (fun _ => changed _) fun _ => .none
  | elapse | connect | call | stop => cases line

/-! ### What the steps of a line leave alone -/

section Spares

variable {p : Scope} {s t : State} {i : Nat} {c : Connection} {events : List Event}

/-- A stage within a scope has its call on a line of it. -/
lemma Stage.Within.job {q : Scope} {stage : Stage} (within : stage.Within q) (hi : i ∈ q.lines)
    {job : Job} (under : stage.job? i = some job) : job.line ∈ q.lines := by
  cases stage <;> cases under
  all_goals first | exact hi | exact within

/-- **A driving task outside of a scope** leaves it as it was. -/
lemma Drove.spares (plain : s.Plain) (inside : Inside p.rest s i) (hc : s.connection? i = some c)
    (step : Drove s i c t events) : Alike p 0 s t := by
  have same : Alike p 0 s s := .refl p plain
  have hi : i ∉ p.lines := inside.line
  have within := inside.stage c hc
  have turned {u : State} {served : Option Reference} {r : State × List Event} (b : Alike p 0 s u)
      (turn : Turned u i served r) : Alike p 0 s r.1 := by
    obtain ⟨-, g, -, e, -, -⟩ := turn
    rw [e]
    exact b.alter hi _
  cases step with
  | turned idle _ turn => exact turned same turn
  | waited under polling pending =>
    exact (same.alter (within.job inside.line under) _).alter hi _
  | wrote stage polling ready turn => exact turned (same.alter hi _) turn
  | got stage polling ready turn => exact turned (same.alter hi _) turn
  | displaced stage polling ready =>
    rw [stage] at within
    exact (same.alter within _).alter hi _
  | @closed served call b q answer stage polling ready =>
    cases served with
    | none => exact (((same.alter hi _).alter hi _).alter hi _).alter hi _
    | some switch => exact ((same.alter hi _).alter hi _).alter hi _
  | @registered features stage =>
    rw [stage] at within
    unfold State.register
    cases c.session.becomeReady ⟨features.datapathId⟩ with
    | error move => exact same.alter hi _
    | ok session =>
      have b := (same.alter hi fun l => { l with
        connection := l.connection.map fun c => { c with session } }).alterEnrol
          (h := ⟨⟨⟨features.datapathId⟩, session.connection⟩, i⟩) within
      dsimp only
      split
      · exact b.alter hi _
      · exact b.alter hi _
  | launched stage => exact (same.alter hi _).alter hi _
  | deregistered stage =>
    rw [stage] at within
    exact (same.alter hi _).alterResign within
  | joined stage told silent => exact same.alter hi _
  | notified stage => exact same.alter hi _

/-- **A message outside of a scope** leaves it as it was. -/
lemma Sent.spares (plain : s.Plain) {who : Actor} {x : Sending}
    {result : Sending ⊕ Except Failure UInt32} (within : x.Within p.rest)
    (step : Sent s who x t events result) : Alike p 0 s t := by
  have same : Alike p 0 s s := .refl p plain
  cases step with
  | found | unknown => exact same
  | begun | refused | waited | wrote => exact same.alter within _

/-- **A handler outside of a scope** leaves it as it was, but for the count of the harness. -/
lemma Handled.spares (plain : s.Plain) (inside : Inside p.rest s i) (hc : s.connection? i = some c)
    (step : Handled s i c t events) : ∃ m, Alike p m s t := by
  have same : Alike p 0 s s := .refl p plain
  have hi : i ∉ p.lines := inside.line
  have within := inside.news c hc
  cases step with
  | called | observed | attempted | completed => exact ⟨0, same.alter hi _⟩
  | sent was step | delivered was step | aborted was step =>
    rw [was] at within
    exact ⟨0, (step.spares plain within).alter hi _⟩
  | @settled switch todo harness e was handler settle =>
    rw [was] at within
    obtain ⟨h, hp, hs⟩ := plain
    obtain rfl : harness = h := Handler.harness.inj (handler.symm.trans hs)
    obtain ⟨⟨-, ⟨m, counted⟩, goes, -⟩, -⟩ := hp.settles within settle
    have b : Alike p m s { s with
        handler := .harness e.harness, stopping := s.stopping || e.stop } := by
      rw [goes, Bool.or_false, counted]
      exact ⟨rfl, rfl, fun _ _ => rfl, fun _ _ => rfl, harness, hp, hs, rfl⟩
    refine ⟨m, ?_⟩
    unfold State.settle
    dsimp only
    split
    · exact b.alter hi _
    · exact b.alter hi _

/-- **A line outside of a scope** leaves it as it was in every step, but for the count of the
harness. -/
theorem State.step?_spares (plain : s.Plain) (inside : Inside p.rest s i) {act : Action}
    (line : act.line? = some i) (h : s.step? act = some (t, events)) : ∃ m, Alike p m s t := by
  have hi : i ∉ p.lines := inside.line
  have altered (f : Line → Line) : Alike p 0 s (s.modifyLine i f) := (Alike.refl p plain).alter hi f
  cases task : act.task? with
  | none =>
    obtain ⟨around, rfl⟩ := step?_around h task
    cases around with
    | delivered | collected | endedSending | left | reset | letGo =>
      cases line
      exact ⟨0, altered _⟩
    | elapsed | connected | called | stopped => cases line
  | some who =>
    obtain ⟨d, rfl⟩ := Action.eq_run_of_task? task
    cases who with
    | driver j =>
      cases line
      obtain ⟨c, hc, step⟩ := State.drive?_eq_some h
      exact ⟨0, step.spares plain inside hc⟩
    | handler j =>
      cases line
      obtain ⟨c, hc, step⟩ := State.handle?_eq_some h
      exact step.spares plain inside hc
    | acceptor | caller => cases line

end Spares

end FlowBurst.Controller
