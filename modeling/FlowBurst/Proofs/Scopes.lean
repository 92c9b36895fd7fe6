import FlowBurst.Controller.Step
import FlowBurst.Proofs.Entries
import FlowBurst.Proofs.Lines
import Mathlib.Order.BooleanAlgebra.Set

/-!
# Parts of a controller

A scope is a part of a controller: some of its lines and some of the datapaths of its registry. Two
states are alike in a scope if they differ only outside of it, or in how many bursts their harnesses
have counted. States that are alike stay so when both of them change in the same way, or one of them
outside of the scope; and states that are alike in a scope and in the rest are the same. Main statements:
`Harness.Plain.settles`, `Alike.eq`, `Alike.modifyLine`, `Alike.alter`.
-/

namespace FlowBurst

/-! ### Harnesses that never stop a controller -/

namespace Harness

/-- A harness that does not stop at a failure, counts up to no limit and reports to nobody. -/
structure Plain (h : Harness) : Prop where
  persists : h.exitOnFailure = false
  unlimited : h.maxBursts = none
  unreported : h.reports = .absent

/-- A harness that has counted some more bursts. -/
def later (h : Harness) (n : UInt64) : Harness := { h with finished := h.finished + n }

/-- What is left to do for a burst that was counted while there was no limit. -/
def Settling.Unlimited : Settling → Prop
  | deciding _ reached => reached = none
  | _ => True

lemma later_zero (h : Harness) : h.later 0 = h := by simp [later]

lemma later_later (h : Harness) (m n : UInt64) : (h.later m).later n = h.later (m + n) := by
  simp [later, UInt64.add_assoc]

lemma plain_later {h : Harness} (plain : h.Plain) (n : UInt64) : (h.later n).Plain :=
  ⟨plain.persists, plain.unlimited, plain.unreported⟩

/-- What a plain harness does for a burst that has ended: it counts it, or goes on. -/
structure Calm (h : Harness) (e : Effect) : Prop where
  plain : e.harness.Plain
  counts : ∃ n, e.harness = h.later n
  goes : e.stop = false
  next : e.next.Unlimited

/-- **A plain harness goes on**, whatever it has counted before. -/
lemma Plain.settles {h : Harness} (plain : h.Plain) {todo : Settling} (unlimited : todo.Unlimited)
    {e : Effect} (settle : h.settle? todo = some e) :
    h.Calm e ∧ ∀ n, (h.later n).settle? todo = some { e with harness := e.harness.later n } := by
  cases todo with
  | counting r =>
    cases settle
    have unreached (k : Harness) (hk : k.maxBursts = none) (finished : UInt64) :
        k.reached? finished = none := by simp [reached?, hk]
    refine ⟨⟨plain_later plain 1, ⟨1, rfl⟩, rfl, unreached h plain.unlimited _⟩, fun n => ?_⟩
    have counted : h.finished + n + 1 = h.finished + 1 + n := by ac_rfl
    simp [settle?, count, later, counted, unreached, plain.unlimited]
  | deciding r reached =>
    cases unlimited
    have decide_eq (k : Harness) (hk : k.exitOnFailure = false) :
        k.decide r none = { harness := k, next := .reporting r } := by simp [decide, hk]
    obtain rfl : h.decide r none = e := Option.some.inj settle
    rw [decide_eq h plain.persists]
    refine ⟨⟨plain, ⟨0, h.later_zero.symm⟩, rfl, trivial⟩, fun n => ?_⟩
    exact congrArg some (decide_eq (h.later n) plain.persists)
  | reporting r =>
    have report_eq (k : Harness) (hk : k.reports = .absent) :
        k.report r = { harness := k, next := .settled } := by
      cases k
      cases hk
      rfl
    obtain rfl : h.report r = e := Option.some.inj settle
    rw [report_eq h plain.unreported]
    refine ⟨⟨plain, ⟨0, h.later_zero.symm⟩, rfl, trivial⟩, fun n => ?_⟩
    exact congrArg some (report_eq (h.later n) plain.unreported)
  | settled => cases settle

end Harness

namespace Controller

open FlowBurst.OpenFlow (Frame)
open FlowBurst.Switch (DatapathId Failure Handle Reference Registry Target)
open FlowBurst.Transport (Address Call Disposition Limits)

/-! ### Scopes -/

/-- A part of a controller: some of its lines and some of the datapaths of its registry. -/
structure Scope where
  lines : Set Nat
  datapaths : Set DatapathId

/-- The rest of a controller. -/
def Scope.rest (p : Scope) : Scope := ⟨p.linesᶜ, p.datapathsᶜ⟩

@[simp] lemma Scope.rest_rest (p : Scope) : p.rest.rest = p := by simp [rest]

namespace State

/-- The handler of the controller is a plain harness. -/
def Plain (s : State) : Prop := ∃ h : Harness, h.Plain ∧ s.handler = .harness h

/-- A state without its lines, its registry and its handler. -/
def bare (s : State) : State := { s with lines := [], registry := {}, handler := .observer [] }

end State

/-- Two states that differ only outside of a scope, or in how many bursts their harnesses have
counted: the second one has counted `n` more. -/
structure Alike (p : Scope) (n : UInt64) (s t : State) : Prop where
  bare : t.bare = s.bare
  length : t.lines.length = s.lines.length
  lines : ∀ i ∈ p.lines, t.lines[i]? = s.lines[i]?
  registry : ∀ d ∈ p.datapaths, t.registry.get? d = s.registry.get? d
  handler : ∃ h : Harness, h.Plain ∧ s.handler = .harness h ∧ t.handler = .harness (h.later n)

/-- The line that an event is about. -/
def Event.line? : Event → Option Nat
  | put i _ _ | frameBegun i _ _ | frameEnded i _ _ _ | accepted i _ | read i _ | received i _
  | deregistered i _ _ | readyCalled i _ | readyReturned i _ | disconnectedCalled i _
  | burstEnded i _ => some i
  | registered h _ => some h.channel
  | stopRequested | notice _ => none

/-- Events that are about no line outside of a scope. -/
def KeepsTo (p : Scope) (events : List Event) : Prop :=
  ∀ e ∈ events, ∀ i, e.line? = some i → i ∈ p.lines

section KeepsTo

variable {p : Scope} {e : Event} {events more : List Event} {i : Nat}

@[simp] lemma keepsTo_nil : KeepsTo p [] := fun _ he => by cases he

@[simp] lemma keepsTo_append : KeepsTo p (events ++ more) ↔ KeepsTo p events ∧ KeepsTo p more := by
  unfold KeepsTo
  simp only [List.forall_mem_append]

lemma keepsTo_cons : KeepsTo p (e :: events) ↔
    (∀ i, e.line? = some i → i ∈ p.lines) ∧ KeepsTo p events := List.forall_mem_cons

/-- An event about a line of the scope. -/
@[simp] lemma keepsTo_cons_of_line (he : e.line? = some i) :
    KeepsTo p (e :: events) ↔ i ∈ p.lines ∧ KeepsTo p events := by
  rw [keepsTo_cons, he]
  simp

/-- An event about no line. -/
@[simp] lemma keepsTo_cons_of_none (he : e.line? = none) :
    KeepsTo p (e :: events) ↔ KeepsTo p events := by
  rw [keepsTo_cons, he]
  simp

lemma keepsTo_putEvents (hi : i ∈ p.lines) (who : Actor) (bytes : List UInt8) :
    KeepsTo p (putEvents i who bytes) := by
  unfold putEvents
  split
  · exact keepsTo_nil
  · exact (keepsTo_cons_of_line rfl).2 ⟨hi, keepsTo_nil⟩

lemma keepsTo_notice (quiet : Bool) (n : Notice) :
    KeepsTo p (if quiet then [] else [.notice n]) := by
  cases quiet
  · exact (keepsTo_cons_of_none rfl).2 keepsTo_nil
  · exact keepsTo_nil

end KeepsTo

/-- Two outcomes of a step that are alike in a scope and let the world see the same, which is about no
line outside of it. -/
structure Matched (p : Scope) (n : UInt64) (r r' : State × List Event) : Prop where
  alike : Alike p n r.1 r'.1
  same : r'.2 = r.2
  seen : KeepsTo p r.2

/-- The world saw something before. -/
lemma Matched.after {p : Scope} {n : UInt64} {r r' : State × List Event} (h : Matched p n r r')
    (first : List Event) (spoken : KeepsTo p first) :
    Matched p n (r.1, first ++ r.2) (r'.1, first ++ r'.2) :=
  ⟨h.alike, congrArg (first ++ ·) h.same, keepsTo_append.2 ⟨spoken, h.seen⟩⟩

/-- Two outcomes of a poll or of a message that match and yield the same. -/
def Yields {α : Type} (p : Scope) (n : UInt64) (r r' : State × List Event × α) : Prop :=
  Matched p n (r.1, r.2.1) (r'.1, r'.2.1) ∧ r'.2.2 = r.2.2

namespace Alike

variable {p : Scope} {m n : UInt64} {s t u : State} {i : Nat}

lemma refl (p : Scope) (plain : s.Plain) : Alike p 0 s s := by
  obtain ⟨h, hp, hs⟩ := plain
  exact ⟨rfl, rfl, fun _ _ => rfl, fun _ _ => rfl, h, hp, hs, by rw [h.later_zero, hs]⟩

lemma symm (a : Alike p n s t) : Alike p (-n) t s := by
  obtain ⟨h, hp, hs, ht⟩ := a.handler
  refine ⟨a.bare.symm, a.length.symm, fun i hi => (a.lines i hi).symm,
    fun d hd => (a.registry d hd).symm, h.later n, Harness.plain_later hp n, ht, ?_⟩
  rw [Harness.later_later, UInt64.add_right_neg, Harness.later_zero, hs]

lemma trans (a : Alike p m s t) (b : Alike p n t u) : Alike p (m + n) s u := by
  obtain ⟨h, hp, hs, ht⟩ := a.handler
  obtain ⟨k, -, kt, ku⟩ := b.handler
  refine ⟨b.bare.trans a.bare, b.length.trans a.length,
    fun i hi => (b.lines i hi).trans (a.lines i hi),
    fun d hd => (b.registry d hd).trans (a.registry d hd), h, hp, hs, ?_⟩
  obtain rfl : h.later m = k := Handler.harness.inj (ht.symm.trans kt)
  rw [ku, Harness.later_later]

lemma plain (a : Alike p n s t) : t.Plain := by
  obtain ⟨h, hp, -, ht⟩ := a.handler
  exact ⟨_, Harness.plain_later hp n, ht⟩

/-- What the harness of the second state has counted. -/
lemma counted (a : Alike p n s t) {h : Harness} (hs : s.handler = .harness h) :
    t.handler = .harness (h.later n) := by
  obtain ⟨k, -, hk, ht⟩ := a.handler
  obtain rfl : h = k := Handler.harness.inj (hs.symm.trans hk)
  exact ht

/-- States that are alike in a scope and in the rest are the same but for the count. -/
theorem eq {k : UInt64} (a : Alike p n s t) (b : Alike p.rest k s t) (ordered : s.registry.Ordered)
    (ordered' : t.registry.Ordered) (handler : t.handler = s.handler) : t = s := by
  have lines : t.lines = s.lines := by
    refine List.ext_getElem? fun i => ?_
    by_cases hi : i ∈ p.lines
    · exact a.lines i hi
    · exact b.lines i hi
  have registry : t.registry = s.registry := by
    refine ordered.eq_of_get? ordered' fun d => ?_
    by_cases hd : d ∈ p.datapaths
    · exact a.registry d hd
    · exact b.registry d hd
  have restored (u : State) :
      u = { u.bare with lines := u.lines, registry := u.registry, handler := u.handler } := rfl
  rw [restored t, restored s, a.bare, lines, registry, handler]

/-! ### What a task sees of a state -/

section Views

variable (a : Alike p n s t)
include a

lemma now : t.now = s.now := (congrArg State.now a.bare :)

lemma settings : t.settings = s.settings := (congrArg State.settings a.bare :)

lemma moment : t.moment = s.moment := (congrArg State.moment a.bare :)

lemma sendLimits : t.sendLimits = s.sendLimits := (congrArg State.sendLimits a.bare :)

lemma connection? (hi : i ∈ p.lines) : t.connection? i = s.connection? i := by
  unfold State.connection?
  rw [a.lines i hi]

lemma peer (hi : i ∈ p.lines) : t.peer i = s.peer i := by
  unfold State.peer
  rw [a.lines i hi]

/-! ### Changes -/

/-- Both states change a line. -/
lemma modifyLine (i : Nat) (f : Line → Line) :
    Alike p n (s.modifyLine i f) (t.modifyLine i f) := by
  refine ⟨a.bare, ?_, fun j hj => ?_, a.registry, a.handler⟩
  · simpa [State.modifyLine] using a.length
  · rw [State.getElem?_modifyLine, State.getElem?_modifyLine, a.lines j hj]

lemma modifyConnection (i : Nat) (f : Connection → Connection) :
    Alike p n (s.modifyConnection i f) (t.modifyConnection i f) := a.modifyLine i _

lemma enter (i : Nat) (stage : Stage) : Alike p n (s.enter i stage) (t.enter i stage) :=
  a.modifyConnection i _

lemma tell (i : Nat) (news : News) : Alike p n (s.tell i news) (t.tell i news) :=
  a.modifyConnection i _

/-- A line outside of the scope changes in one of the states. -/
lemma alter (hi : i ∉ p.lines) (f : Line → Line) : Alike p n s (t.modifyLine i f) := by
  refine ⟨a.bare, ?_, fun j hj => ?_, a.registry, a.handler⟩
  · simpa [State.modifyLine] using a.length
  · have ne : i ≠ j := fun e => hi (e ▸ hj)
    rw [State.getElem?_modifyLine, if_neg ne, a.lines j hj]

/-- Both states change in the same way, but for their lines, their registries and their handlers. -/
lemma beside (f : State → State) (bare : ∀ u, (f u).bare = f u.bare)
    (kept : ∀ u, (f u).lines = u.lines ∧ (f u).registry = u.registry ∧ (f u).handler = u.handler) :
    Alike p n (f s) (f t) := by
  obtain ⟨lines, registry, handler⟩ := kept s
  obtain ⟨lines', registry', handler'⟩ := kept t
  refine ⟨?_, ?_, fun i hi => ?_, fun d hd => ?_, ?_⟩
  · rw [bare, bare, a.bare]
  · rw [lines, lines', a.length]
  · rw [lines, lines', a.lines i hi]
  · rw [registry, registry', a.registry d hd]
  · rw [handler, handler']
    exact a.handler

/-- Time goes by in both states. -/
lemma elapse (milliseconds : Nat) :
    Alike p n { s with now := s.now + milliseconds } { t with now := t.now + milliseconds } :=
  a.beside (fun u => { u with now := u.now + milliseconds }) (fun _ => rfl) fun _ => ⟨rfl, rfl, rfl⟩

/-- The accepting tasks of both states come to the same place. -/
lemma await {x y : Acceptor} (same : y = x) :
    Alike p n { s with acceptor := x } { t with acceptor := y } := by
  subst same
  exact a.beside (fun u => { u with acceptor := y }) (fun _ => rfl) fun _ => ⟨rfl, rfl, rfl⟩

/-- The same lines wait to be accepted in both states. -/
lemma queue {x y : List Nat} (same : y = x) :
    Alike p n { s with backlog := x } { t with backlog := y } := by
  subst same
  exact a.beside (fun u => { u with backlog := y }) (fun _ => rfl) fun _ => ⟨rfl, rfl, rfl⟩

/-- Both states have accepted the same number of lines. -/
lemma number {x y : Nat} (same : y = x) :
    Alike p n { s with accepted := x } { t with accepted := y } := by
  subst same
  exact a.beside (fun u => { u with accepted := y }) (fun _ => rfl) fun _ => ⟨rfl, rfl, rfl⟩

/-- A switch connects in both states. -/
lemma connect {x y : Line} (same : y = x) :
    Alike p n { s with lines := s.lines ++ [x] } { t with lines := t.lines ++ [y] } := by
  subst same
  refine ⟨a.bare, ?_, fun i hi => ?_, a.registry, a.handler⟩
  · simpa using a.length
  · show (t.lines ++ [y])[i]? = (s.lines ++ [y])[i]?
    rw [List.getElem?_append, List.getElem?_append, a.length, a.lines i hi]

/-- Both states register a handle. -/
lemma enrol (h : Handle) :
    Alike p n { s with registry := (s.registry.register h).2 }
      { t with registry := (t.registry.register h).2 } := by
  refine ⟨a.bare, a.length, a.lines, fun d hd => ?_, a.handler⟩
  rw [Registry.get?_register, Registry.get?_register, a.registry d hd]

/-- Both states deregister a switch. -/
lemma resign (r : Reference) :
    Alike p n { s with registry := (s.registry.deregister r).2 }
      { t with registry := (t.registry.deregister r).2 } := by
  refine ⟨a.bare, a.length, a.lines, fun d hd => ?_, a.handler⟩
  rw [Registry.get?_deregister, Registry.get?_deregister, a.registry d hd]

/-- A handle of a datapath outside of the scope is registered. -/
lemma alterEnrol {h : Handle} (hh : h.datapath ∉ p.datapaths) :
    Alike p n s { t with registry := (t.registry.register h).2 } := by
  refine ⟨a.bare, a.length, a.lines, fun d hd => ?_, a.handler⟩
  have ne : h.datapath ≠ d := fun e => hh (e ▸ hd)
  rw [Registry.get?_register, if_neg ne, a.registry d hd]

/-- A switch with a datapath outside of the scope is deregistered. -/
lemma alterResign {r : Reference} (hr : r.datapath ∉ p.datapaths) :
    Alike p n s { t with registry := (t.registry.deregister r).2 } := by
  refine ⟨a.bare, a.length, a.lines, fun d hd => ?_, a.handler⟩
  have ne : r.datapath ≠ d := fun e => hr (e ▸ hd)
  rw [Registry.get?_deregister, if_neg fun e => ne e.1, a.registry d hd]

end Views

end Alike

end Controller

end FlowBurst
