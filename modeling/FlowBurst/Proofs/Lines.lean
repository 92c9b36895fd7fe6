import FlowBurst.Controller.Trace
import FlowBurst.Proofs.Polls
import Mathlib.Data.List.Induction
import Mathlib.Tactic.Lemma

/-!
# Runs and the connections on their lines

What is found on the lines of a state after one of them was changed, what a poll of a call changes,
and the induction over runs that carries every invariant of a controller. Main statements:
`connection?_modifyConnection`, `poll?_eq_some_iff`, `run_induction`.
-/

namespace FlowBurst.Controller

open FlowBurst.Transport (Call Disposition Link Locks Polled Progress)

/-- The bytes that a poll put on the wire, as the world sees them. -/
def putEvents (i : Nat) (who : Actor) (bytes : List UInt8) : List Event :=
  if bytes = [] then [] else [.put i who bytes]

namespace State

/-! ### Changed lines -/

/-- The link of a line. -/
def link? (s : State) (i : Nat) : Option Link := s.lines[i]?.map Line.link

/-- The locks of the connection of a line; nobody has asked for those of a line that has none. -/
def locks (s : State) (i : Nat) : Locks Actor :=
  ((s.connection? i).map Connection.locks).getD {}

section Changes

variable (s : State) (i j : Nat)

lemma getElem?_modifyLine (f : Line → Line) :
    (s.modifyLine i f).lines[j]? = if i = j then s.lines[j]?.map f else s.lines[j]? := by
  show (s.lines.modify i f)[j]? = _
  rw [List.getElem?_modify]
  split <;> simp

lemma connection?_modifyLine (f : Line → Line) :
    (s.modifyLine i f).connection? j =
      if i = j then s.lines[j]?.bind fun l => (f l).connection else s.connection? j := by
  unfold connection?
  rw [getElem?_modifyLine]
  split
  · cases s.lines[j]? <;> rfl
  · rfl

@[simp] theorem connection?_modifyConnection (f : Connection → Connection) :
    (s.modifyConnection i f).connection? j =
      if i = j then (s.connection? j).map f else s.connection? j := by
  unfold modifyConnection
  rw [connection?_modifyLine]
  unfold connection?
  split
  · cases s.lines[j]? <;> rfl
  · rfl

@[simp] theorem connection?_modifyLink (f : Line → Link) :
    (s.modifyLine i fun l => { l with link := f l }).connection? j = s.connection? j := by
  rw [connection?_modifyLine]
  unfold connection?
  split
  · cases s.lines[j]? <;> rfl
  · rfl

@[simp] theorem link?_modifyConnection (f : Connection → Connection) :
    (s.modifyConnection i f).link? j = s.link? j := by
  unfold link? modifyConnection
  rw [getElem?_modifyLine]
  split
  · cases s.lines[j]? <;> rfl
  · rfl

@[simp] theorem link?_modifyLink (f : Link → Link) :
    (s.modifyLine i fun l => { l with link := f l.link }).link? j =
      if i = j then (s.link? j).map f else s.link? j := by
  unfold link?
  rw [getElem?_modifyLine]
  split
  · cases s.lines[j]? <;> rfl
  · rfl

end Changes

lemma lines_of_connection? {s : State} {i : Nat} {c : Connection} (h : s.connection? i = some c) :
    ∃ l, s.lines[i]? = some l ∧ l.connection = some c := by
  unfold connection? at h
  exact Option.bind_eq_some_iff.1 h

lemma connection?_of_lines {s : State} {i : Nat} {c : Connection} {l : Line}
    (hl : s.lines[i]? = some l) (hc : l.connection = some c) : s.connection? i = some c := by
  unfold connection?
  rw [hl]
  exact hc

lemma locks_of_connection? {s : State} {i : Nat} {c : Connection} (h : s.connection? i = some c) :
    s.locks i = c.locks := by
  unfold locks
  rw [h]
  rfl

/-- A change of a connection that keeps its locks changes no locks. -/
lemma locks_modifyConnection (s : State) (i j : Nat) {f : Connection → Connection}
    (hf : ∀ c, (f c).locks = c.locks) : (s.modifyConnection i f).locks j = s.locks j := by
  unfold locks
  rw [connection?_modifyConnection]
  split
  · cases s.connection? j <;> simp [hf]
  · rfl

@[simp] lemma locks_modifyLink (s : State) (i j : Nat) (f : Line → Link) :
    (s.modifyLine i fun l => { l with link := f l }).locks j = s.locks j := by
  unfold locks
  rw [connection?_modifyLink]

/-! ### A poll -/

/-- The state after a poll on a line with the given connection. -/
def polled (s : State) (i : Nat) (c : Connection) (p : Polled Actor) : State :=
  s.modifyLine i fun l =>
    { l with link := p.link, connection := some { c with locks := p.locks } }

/-- A poll on a line is a poll of the call on its link, with the locks of its connection. -/
theorem poll?_eq_some {s t : State} {i : Nat} {who : Actor} {d : Disposition} {call : Call}
    {events : List Event} {progress : Progress}
    (h : s.poll? i who d call = some (t, events, progress)) :
    ∃ link c p, s.link? i = some link ∧ s.connection? i = some c ∧
      call.poll? s.moment .server who d link c.locks = some p ∧
      t = s.polled i c p ∧ events = putEvents i who p.put ∧ progress = p.progress := by
  obtain ⟨l, hl, h⟩ := Option.bind_eq_some_iff.1 h
  obtain ⟨c, hc, h⟩ := Option.bind_eq_some_iff.1 h
  obtain ⟨p, hp, h⟩ := Option.bind_eq_some_iff.1 h
  obtain ⟨rfl, rfl, rfl⟩ : _ ∧ _ ∧ _ := by simpa using h
  exact ⟨l.link, c, p, by simp [link?, hl], connection?_of_lines hl hc, hp, rfl, rfl, rfl⟩

/-- A poll of a call on the link of a line, with the locks of its connection, is a poll on the line. -/
lemma poll?_of_connection? {s : State} {i : Nat} {who : Actor} {d : Disposition} {call : Call}
    {link : Link} {c : Connection} {p : Polled Actor} (hl : s.link? i = some link)
    (hc : s.connection? i = some c) (hp : call.poll? s.moment .server who d link c.locks = some p) :
    s.poll? i who d call = some (s.polled i c p, putEvents i who p.put, p.progress) := by
  obtain ⟨l, hline, rfl⟩ := Option.map_eq_some_iff.1 hl
  have own : l.connection = some c := by
    unfold connection? at hc
    rwa [hline] at hc
  unfold poll?
  simp only [hline, own, hp, bind, Option.bind_some]
  rfl

section Polled

variable {s : State} {i : Nat} {c : Connection} (hc : s.connection? i = some c) (p : Polled Actor)
include hc

lemma connection?_polled (j : Nat) :
    (s.polled i c p).connection? j =
      if i = j then some { c with locks := p.locks } else s.connection? j := by
  obtain ⟨l, hl, -⟩ := lines_of_connection? hc
  unfold polled
  rw [connection?_modifyLine]
  split
  · subst i
    rw [hl]
    rfl
  · rfl

lemma link?_polled (j : Nat) :
    (s.polled i c p).link? j = if i = j then some p.link else s.link? j := by
  obtain ⟨l, hl, -⟩ := lines_of_connection? hc
  unfold polled link?
  rw [getElem?_modifyLine]
  split
  · subst i
    rw [hl]
    rfl
  · rfl

lemma locks_polled (j : Nat) :
    (s.polled i c p).locks j = if i = j then p.locks else s.locks j := by
  unfold locks
  rw [connection?_polled hc]
  split <;> rfl

end Polled

/-! ### What becomes of the links -/

/-- The lines of a state are still there in another one, with what their links have become. -/
def Lasting (s t : State) : Prop :=
  ∀ i l, s.link? i = some l → ∃ l', t.link? i = some l' ∧ l.Becomes l'

namespace Lasting

variable {s t u : State} {i : Nat}

lemma of_eq (h : ∀ i, t.link? i = s.link? i) : Lasting s t :=
  fun i l hl => ⟨l, (h i).trans hl, .rfl⟩

lemma trans (h : Lasting s t) (k : Lasting t u) : Lasting s u := by
  intro i l hl
  obtain ⟨l', hl', b⟩ := h i l hl
  obtain ⟨l'', hl'', b'⟩ := k i l' hl'
  exact ⟨l'', hl'', b.trans b'⟩

lemma modifyConnection (s : State) (i : Nat) (f : Connection → Connection) :
    Lasting s (s.modifyConnection i f) := of_eq (s.link?_modifyConnection i · f)

/-- One link changes. -/
lemma change {l l' : Link} (hl : s.link? i = some l) (b : l.Becomes l')
    (h : ∀ j, t.link? j = if i = j then some l' else s.link? j) : Lasting s t := by
  intro j k hk
  by_cases hj : i = j
  · subst hj
    rw [hl] at hk
    cases hk
    exact ⟨l', by rw [h, if_pos rfl], b⟩
  · exact ⟨k, by rw [h, if_neg hj, hk], .rfl⟩

lemma modifyLink (s : State) (i : Nat) {f : Link → Link} (hf : ∀ l : Link, l.Becomes (f l)) :
    Lasting s (s.modifyLine i fun l => { l with link := f l.link }) := by
  intro j k hk
  rw [link?_modifyLink]
  split
  · exact ⟨f k, by rw [hk]; rfl, hf k⟩
  · exact ⟨k, hk, .rfl⟩

lemma polled {c : Connection} (hc : s.connection? i = some c) {l : Link} (hl : s.link? i = some l)
    {p : Polled Actor} (b : l.Becomes p.link) : Lasting s (s.polled i c p) :=
  change hl b (link?_polled hc p)

end Lasting

/-! ### Runs -/

/-- An event of two stretches is one of the second or one of the first. -/
lemma split_append {α : Type} {before after first rest : List α} {e : α}
    (h : before ++ after = first ++ e :: rest) :
    (∃ new, first = before ++ new ∧ after = new ++ e :: rest) ∨
      ∃ old, before = first ++ e :: old ∧ rest = old ++ after := by
  rcases List.append_eq_append_iff.1 h with ⟨new, e₁, e₂⟩ | ⟨old, e₁, e₂⟩
  · exact .inl ⟨new, e₁, e₂⟩
  · cases old with
    | nil => exact .inl ⟨[], by simpa using e₁.symm, e₂.symm⟩
    | cons x old =>
      obtain ⟨rfl, rest_eq⟩ := List.cons.inj e₂
      exact .inr ⟨old, e₁, rest_eq⟩

/-- Nothing of a kind comes before the only thing of that kind. -/
lemma filter_before {α : Type} {p : α → Bool} {first rest : List α} {e : α} (he : p e = true)
    (single : (first ++ e :: rest).filter p = [e]) : first.filter p = [] := by
  have length := congrArg List.length single
  rw [List.filter_append, List.filter_cons_of_pos he, List.length_append, List.length_cons,
    List.length_singleton] at length
  exact List.length_eq_zero_iff.1 (by omega)

lemma steps?_concat {s t : State} {actions : List Action} {a : Action} {events : List Event} :
    s.steps? (actions ++ [a]) = some (t, events) ↔
      ∃ u before after, s.steps? actions = some (u, before) ∧ u.step? a = some (t, after) ∧
        events = before ++ after := by
  rw [steps?_append]
  constructor
  · intro h
    obtain ⟨⟨u, before⟩, hu, h⟩ := Option.bind_eq_some_iff.1 h
    obtain ⟨⟨t', after⟩, ht, h⟩ := Option.map_eq_some_iff.1 h
    obtain ⟨⟨t'', after'⟩, ha, h'⟩ := Option.bind_eq_some_iff.1 ht
    simp only [steps?, bind, Option.bind_some, pure, List.append_nil, Option.some.injEq,
      Prod.mk.injEq] at h h'
    obtain ⟨rfl, rfl⟩ := h
    obtain ⟨rfl, rfl⟩ := h'
    exact ⟨u, before, after', hu, ha, rfl⟩
  · rintro ⟨u, before, after, hu, ha, rfl⟩
    simp [hu, ha, steps?]

/-- **Induction over runs.** What holds at the start of a run and is kept by every step, also
looking back at the run so far, holds at its end. -/
theorem run_induction {s₀ : State} {P : List Action → State → List Event → Prop}
    (start : P [] s₀ [])
    (step : ∀ actions s before a t after, s₀.steps? actions = some (s, before) →
      P actions s before → s.step? a = some (t, after) → P (actions ++ [a]) t (before ++ after)) :
    ∀ {actions s events}, s₀.steps? actions = some (s, events) → P actions s events := by
  intro actions
  induction actions using List.reverseRecOn with
  | nil =>
    intro s events h
    obtain ⟨rfl, rfl⟩ : s₀ = s ∧ [] = events := by simpa [steps?] using h
    exact start
  | append_singleton actions a ih =>
    intro t events h
    obtain ⟨s, before, after, hs, ha, rfl⟩ := steps?_concat.1 h
    exact step actions s before a t after hs (ih hs) ha

/-- **The step that shows an event** of a run: before the event comes what the run has shown before the
step, and then what the step itself has. -/
theorem step_of_event {s₀ s : State} {actions : List Action} {first rest : List Event} {e : Event}
    (run : s₀.steps? actions = some (s, first ++ e :: rest)) :
    ∃ earlier u before a t new after later, s₀.steps? earlier = some (u, before) ∧
      u.step? a = some (t, new ++ e :: after) ∧ first = before ++ new ∧ rest = after ++ later := by
  generalize all : first ++ e :: rest = events at run
  refine run_induction (P := fun _ _ events => ∀ rest, first ++ e :: rest = events →
    ∃ earlier u before a t new after later, s₀.steps? earlier = some (u, before) ∧
      u.step? a = some (t, new ++ e :: after) ∧ first = before ++ new ∧ rest = after ++ later)
    ?_ ?_ run rest all
  · intro rest all
    simp at all
  · intro actions u before a t after before_run ih step rest all
    rcases split_append all.symm with ⟨new, rfl, rfl⟩ | ⟨old, before_eq, rfl⟩
    · exact ⟨actions, u, before, a, t, new, rest, [], before_run, step, rfl,
        (List.append_nil _).symm⟩
    · obtain ⟨earlier, v, seen, b, w, new, rest', later, run, step, first_eq, rfl⟩ :=
        ih old before_eq.symm
      exact ⟨earlier, v, seen, b, w, new, rest', later ++ after, run, step, first_eq,
        List.append_assoc _ _ _⟩

end State

end FlowBurst.Controller
