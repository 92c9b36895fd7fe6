import FlowBurst.Proofs.Moves
import FlowBurst.Proofs.Surroundings

/-!
# Every step of a run

A step of a run is one of a task, or something that a switch, the clock or a caller does. Besides
what the tasks do to their own connections and calls there is the accepting task, and the order that
it keeps: a line in the backlog has no connection yet, and nobody is told of a switch that is not
launched. Main statements: `step?_moved`, `step?_works`, `orderly_of_steps?`.
-/

namespace FlowBurst.Controller

open FlowBurst.OpenFlow (Frame)
open FlowBurst.Switch (Handle Reference Session)
open FlowBurst.Transport (Call Disposition Link Polled)

/-! ### What the tasks leave alone -/

/-- What no task but the accepting one changes; a request to stop is not taken back. -/
structure Surrounded (s t : State) : Prop where
  settings : t.settings = s.settings
  capacity : t.capacity = s.capacity
  now : t.now = s.now
  stopping : s.stopping = true → t.stopping = true
  acceptor : t.acceptor = s.acceptor
  accepted : t.accepted = s.accepted
  backlog : t.backlog = s.backlog
  length : t.lines.length = s.lines.length
  links : s.Lasting t

namespace Surrounded

variable {s t u : State}

lemma rfl : Surrounded s s :=
  ⟨by rfl, by rfl, by rfl, id, by rfl, by rfl, by rfl, by rfl, .of_eq fun _ => by rfl⟩

lemma trans (h : Surrounded s t) (k : Surrounded t u) : Surrounded s u where
  settings := k.settings.trans h.settings
  capacity := k.capacity.trans h.capacity
  now := k.now.trans h.now
  stopping := k.stopping ∘ h.stopping
  acceptor := k.acceptor.trans h.acceptor
  accepted := k.accepted.trans h.accepted
  backlog := k.backlog.trans h.backlog
  length := k.length.trans h.length
  links := h.links.trans k.links

lemma modifyConnection (s : State) (i : Nat) (f : Connection → Connection) :
    Surrounded s (s.modifyConnection i f) :=
  ⟨by rfl, by rfl, by rfl, id, by rfl, by rfl, by rfl, List.length_modify ..,
    .modifyConnection s i f⟩

lemma modifyLink (s : State) (i : Nat) {f : Link → Link} (hf : ∀ l : Link, l.Becomes (f l)) :
    Surrounded s (s.modifyLine i fun l => { l with link := f l.link }) :=
  ⟨by rfl, by rfl, by rfl, id, by rfl, by rfl, by rfl, List.length_modify .., .modifyLink s i hf⟩

lemma polled {j : Nat} {who : Actor} {call : Call} {b : Connection} {p : Polled Actor}
    (polling : Polling s j who call b p) : Surrounded s (s.polled j b p) :=
  ⟨by rfl, by rfl, by rfl, id, by rfl, by rfl, by rfl, List.length_modify .., polling.lasting⟩

/-- The calls from outside do not matter here. -/
lemma withCallers (h : Surrounded s t) (callers : List Caller) :
    Surrounded s { t with callers } :=
  ⟨h.settings, h.capacity, h.now, h.stopping, h.acceptor, h.accepted, h.backlog, h.length, h.links⟩

/-- The registry does not matter here. -/
lemma withRegistry (h : Surrounded s t) (registry : Switch.Registry) :
    Surrounded s { t with registry } :=
  ⟨h.settings, h.capacity, h.now, h.stopping, h.acceptor, h.accepted, h.backlog, h.length, h.links⟩

lemma afterClose (s : State) (i : Nat) (served : Option Reference) :
    Surrounded s (s.afterClose i served) := by
  unfold State.afterClose
  cases served with
  | some switch => exact (modifyConnection s i _).trans (modifyConnection _ i _)
  | none =>
    exact ((modifyConnection s i _).trans (modifyConnection _ i _)).trans
      (modifyLink _ i fun l => .close l .server)

lemma register (s : State) (i : Nat) (c : Connection) (d : Switch.DatapathId) :
    Surrounded s (s.register i c d).1 := by
  unfold State.register
  split
  · exact modifyConnection s i _
  · dsimp only
    split
    all_goals exact ((modifyConnection s i _).withRegistry _).trans (modifyConnection _ i _)

lemma settle (s : State) (i : Nat) (switch : Reference) (e : Harness.Effect) :
    Surrounded s (s.settle i switch e).1 := by
  have h : Surrounded s
      { s with handler := .harness e.harness, stopping := s.stopping || e.stop } :=
    ⟨by rfl, by rfl, by rfl, fun h => by simp [h], by rfl, by rfl, by rfl, by rfl,
      .of_eq fun _ => by rfl⟩
  unfold State.settle
  dsimp only
  split
  · exact h.trans (modifyConnection _ i _)
  · exact h.trans (modifyConnection _ i _)

end Surrounded

lemma Turned.surrounded {s : State} {i : Nat} {served : Option Reference} {r : State × List Event}
    (h : Turned s i served r) : Surrounded s r.1 := by
  obtain ⟨-, g, -, e, -, -⟩ := h
  rw [e]
  exact .modifyConnection s i _

lemma Drove.surrounded {s t : State} {i : Nat} {c : Connection} {events : List Event}
    (h : Drove s i c t events) : Surrounded s t := by
  cases h with
  | turned idle same turn => exact turn.surrounded
  | waited under polling pending =>
    exact (Surrounded.polled polling).trans (.modifyConnection _ i _)
  | wrote stage polling ready turn silent closes => exact (Surrounded.polled polling).trans turn.surrounded
  | got stage polling ready turn silent => exact (Surrounded.polled polling).trans turn.surrounded
  | displaced stage polling ready =>
    exact (Surrounded.polled polling).trans (.modifyConnection _ i _)
  | closed stage polling ready => exact (Surrounded.polled polling).trans (.afterClose _ i _)
  | registered stage => exact .register s i c _
  | launched stage => exact (Surrounded.modifyConnection s i _).trans (.modifyConnection _ i _)
  | deregistered stage => exact (Surrounded.modifyConnection s i _).withRegistry _
  | joined stage told silent => exact .modifyConnection s i _
  | notified stage => exact .modifyConnection s i _

lemma Turned.callers {s : State} {i : Nat} {served : Option Reference} {r : State × List Event}
    (h : Turned s i served r) : r.1.callers = s.callers := by
  obtain ⟨-, g, -, e, -, -⟩ := h
  rw [e]
  rfl

lemma Drove.callers {s t : State} {i : Nat} {c : Connection} {events : List Event}
    (h : Drove s i c t events) : t.callers = s.callers := by
  cases h with
  | turned idle same turn => exact turn.callers
  | wrote stage polling ready turn silent closes => exact turn.callers
  | got stage polling ready turn silent => exact turn.callers
  | waited under polling pending => rfl
  | displaced stage polling ready => rfl
  | @closed served _ _ _ _ stage polling ready => cases served <;> rfl
  | registered stage =>
    unfold State.register
    split
    · rfl
    · dsimp only
      split <;> rfl
  | launched stage | deregistered stage | notified stage => rfl
  | @joined switch removed events stage told silent => cases removed <;> rfl

lemma Sent.surrounded {s t : State} {who : Actor} {sending : Sending} {events : List Event}
    {result : Sending ⊕ Except Switch.Failure UInt32} (h : Sent s who sending t events result) :
    Surrounded s t := by
  cases h with
  | found find | unknown find => exact .rfl
  | begun connection encoded | refused connection encoded => exact .modifyConnection s _ _
  | waited polling pending | wrote polling ready => exact .polled polling

lemma Handled.surrounded {s t : State} {i : Nat} {c : Connection} {events : List Event}
    (h : Handled s i c t events) : Surrounded s t := by
  cases h with
  | called was now | observed was | attempted was | completed was => exact .modifyConnection s i _
  | sent was step | delivered was step | aborted was step =>
    exact step.surrounded.trans (.modifyConnection _ i _)
  | settled was handler settle => exact .settle s i _ _

lemma Answered.surrounded {s t : State} {k : Nat} {caller : Caller} {events : List Event}
    (h : Answered s k caller t events) : Surrounded s t := by
  cases h with
  | sent step | delivered step | failed step => exact step.surrounded.withCallers _
  | waited polling pending | closed polling ready => exact (Surrounded.polled polling).withCallers _

/-! ### The moves -/

/-- A step that leaves the tasks as they are, the accepting task and the links apart. -/
structure Aside (s t : State) : Prop where
  connection : ∀ j, t.connection? j = s.connection? j
  links : s.Lasting t
  registry : t.registry = s.registry
  callers : t.callers = s.callers
  settings : t.settings = s.settings
  capacity : t.capacity = s.capacity
  stopping : s.stopping = true → t.stopping = true
  accepted : t.accepted = s.accepted
  length : t.lines.length = s.lines.length
  backlog : t.backlog.Sublist s.backlog
  stopped : t.acceptor = .stopped → s.acceptor = .stopped ∨ ∀ l ∈ s.lines, State.isDone l

/-- What a step of a run can do. -/
inductive Moved (s : State) : Action → State → List Event → Prop
  | drove {i : Nat} {d : Disposition} {c : Connection} {t : State} {events : List Event}
      (connection : s.connection? i = some c) (step : Drove s i c t events) :
      Moved s (.run (.driver i) d) t events
  | told {i : Nat} {d : Disposition} {c : Connection} {t : State} {events : List Event}
      (connection : s.connection? i = some c) (step : Handled s i c t events) :
      Moved s (.run (.handler i) d) t events
  | answered {k : Nat} {d : Disposition} {caller : Caller} {t : State} {events : List Event}
      (call : s.callers[k]? = some caller) (step : Answered s k caller t events) :
      Moved s (.run (.caller k) d) t events
  | accepted {d : Disposition} {i : Nat} {rest : List Nat} {started : Bool}
      (acceptor : s.acceptor = .accepting started) (backlog : s.backlog = i :: rest) :
      Moved s (.run .acceptor d) s.acceptFirst.1 s.acceptFirst.2
  | called {request : Outside} {t : State} (call : s.call? request = some t) :
      Moved s (.call request) t []
  | connected {peer : Transport.Address} (going : s.acceptor ≠ .stopped) :
      Moved s (.connect peer)
        { s with lines := s.lines ++ [{ link := { capacity := s.capacity }, peer }]
                 backlog := s.backlog ++ [s.lines.length] } []
  | aside {a : Action} {t : State} {events : List Event} (world : Aside s t)
      (task : a.task? = none ∨ a.task? = some .acceptor) (silent : outgoing events = [])
      (quiet : registrations events = []) : Moved s a t events

namespace Aside

variable (s : State)

lemma modifyLink (i : Nat) {f : Link → Link} (hf : ∀ l : Link, l.Becomes (f l)) :
    Aside s (s.modifyLine i fun l => { l with link := f l.link }) where
  connection j := s.connection?_modifyLink i j _
  links := .modifyLink s i hf
  registry := rfl
  callers := rfl
  settings := rfl
  capacity := rfl
  stopping := id
  accepted := rfl
  length := List.length_modify ..
  backlog := List.Sublist.refl _
  stopped := .inl

/-- The link of a line becomes another one. -/
lemma setLink {i : Nat} {l : Line} (hl : s.lines[i]? = some l) {link : Link}
    (b : l.link.Becomes link) : Aside s (s.modifyLine i fun l => { l with link }) where
  connection j := s.connection?_modifyLink i j _
  links := by
    have here : s.link? i = some l.link := by simp [State.link?, hl]
    refine .change here b fun j => ?_
    rw [s.link?_modifyLink i j fun _ => link]
    split
    next hj => rw [← hj, here]; rfl
    next => rfl
  registry := rfl
  callers := rfl
  settings := rfl
  capacity := rfl
  stopping := id
  accepted := rfl
  length := List.length_modify ..
  backlog := List.Sublist.refl _
  stopped := .inl

/-- The time and a request to stop. -/
lemma same (now : Nat) {stopping : Bool} (h : s.stopping = true → stopping = true) :
    Aside s { s with now, stopping } where
  connection _ := rfl
  links := .of_eq fun _ => rfl
  registry := rfl
  callers := rfl
  settings := rfl
  capacity := rfl
  stopping := h
  accepted := rfl
  length := rfl
  backlog := List.Sublist.refl _
  stopped := .inl

lemma withAcceptor {acceptor : Acceptor} (h : acceptor ≠ .stopped) : Aside s { s with acceptor } where
  connection _ := rfl
  links := .of_eq fun _ => rfl
  registry := rfl
  callers := rfl
  settings := rfl
  capacity := rfl
  stopping := id
  accepted := rfl
  length := rfl
  backlog := List.Sublist.refl _
  stopped e := (h e).elim

lemma loseFirst (till : Nat) : Aside s { s.loseFirst with acceptor := .resting till } := by
  cases h : s.backlog with
  | nil =>
    rw [loseFirst_of_nil h]
    exact withAcceptor s (by simp)
  | cons i rest =>
    rw [loseFirst_of_waiting h]
    refine ⟨fun j => s.connection?_modifyLink i j _, .modifyLink s i fun l => .close l .server, rfl,
      rfl, rfl, rfl, id, rfl, List.length_modify .., ?_, ?_⟩
    · rw [h]
      exact List.sublist_cons_self i rest
    · intro e
      cases e

/-- Closing the links of some lines changes nothing but the links. -/
lemma closing_links (backlog : List Nat) (s : State) :
    ∃ lines, (backlog.foldl
        (fun s i => s.modifyLine i fun l => { l with link := l.link.close .server }) s) =
        { s with lines } ∧ lines.length = s.lines.length ∧
      (∀ j, State.connection? { s with lines } j = s.connection? j) ∧
      s.Lasting { s with lines } := by
  induction backlog generalizing s with
  | nil => exact ⟨s.lines, rfl, rfl, fun _ => rfl, .of_eq fun _ => rfl⟩
  | cons i rest ih =>
    obtain ⟨lines, e, length, connection, links⟩ :=
      ih (s.modifyLine i fun l => { l with link := l.link.close .server })
    refine ⟨lines, e, length.trans (List.length_modify ..), fun j => ?_, ?_⟩
    · exact (connection j).trans (s.connection?_modifyLink i j _)
    · exact (State.Lasting.modifyLink s i fun l => .close l .server).trans links

lemma stopListening (done : ∀ l ∈ s.lines, State.isDone l) : Aside s s.stopListening := by
  obtain ⟨lines, e, length, connection, links⟩ := closing_links s.backlog s
  unfold State.stopListening
  rw [e]
  exact ⟨connection, links, rfl, rfl, rfl, rfl, id, rfl, length, List.nil_sublist _,
    fun _ => .inr done⟩

end Aside

namespace State

lemma accept?_moved {s t : State} {d : Disposition} {events : List Event}
    (h : s.accept? d = some (t, events)) : Moved s (.run .acceptor d) t events := by
  cases accept?_admitted h with
  | waits | resumes | leaves => exact .aside (.withAcceptor s (by simp)) (.inr rfl) rfl rfl
  | takes acceptor calm backlog => exact .accepted acceptor backlog
  | @fails call e operation started lost acceptor calm =>
    cases lost with
    | true => exact .aside (.loseFirst s _) (.inr rfl) rfl rfl
    | false => exact .aside (.withAcceptor s (by simp)) (.inr rfl) rfl rfl
  | ends acceptor done => exact .aside (.stopListening s done) (.inr rfl) rfl rfl

/-- What the world can do is nothing that `Moved` does not list. -/
lemma Around.moved {s t : State} {a : Action} (h : Around s a t) : Moved s a t [] := by
  cases h with
  | elapsed => exact .aside (.same s _ id) (.inl rfl) rfl rfl
  | connected going => exact .connected going
  | delivered line wrote => exact .aside (.setLink s line (.of_write? wrote)) (.inl rfl) rfl rfl
  | collected line read => exact .aside (.setLink s line (.of_read? read)) (.inl rfl) rfl rfl
  | endedSending =>
    exact .aside (.modifyLink s _ fun l => .endWriting l .client) (.inl rfl) rfl rfl
  | left => exact .aside (.modifyLink s _ fun l => .close l .client) (.inl rfl) rfl rfl
  | reset => exact .aside (.modifyLink s _ .reset) (.inl rfl) rfl rfl
  | letGo unheld => exact .aside (.modifyLink s _ fun l => .close l .server) (.inl rfl) rfl rfl
  | called call => exact .called call
  | stopped => exact .aside (.same s _ fun _ => rfl) (.inl rfl) rfl rfl

/-- **A run takes no step that `Moved` does not list.** -/
theorem step?_moved {s t : State} {a : Action} {events : List Event}
    (h : s.step? a = some (t, events)) : Moved s a t events := by
  cases task : a.task? with
  | none =>
    obtain ⟨around, rfl⟩ := step?_around h task
    exact Around.moved around
  | some who =>
    obtain ⟨d, rfl⟩ := Action.eq_run_of_task? task
    cases who with
    | acceptor => exact accept?_moved h
    | driver i =>
      obtain ⟨c, hc, step⟩ := drive?_eq_some h
      exact .drove hc step
    | handler i =>
      obtain ⟨c, hc, step⟩ := handle?_eq_some h
      exact .told hc step
    | caller k =>
      obtain ⟨caller, hk, step⟩ := answer?_eq_some h
      exact .answered hk step

end State

/-! ### Order -/

/-- What holds of the lines and tasks of a controller at any time. -/
structure State.Orderly (s : State) : Prop where
  /-- The lines in the backlog are there, each once, and have no connection yet. -/
  waiting : ∀ i ∈ s.backlog, i < s.lines.length ∧ s.connection? i = none
  nodup : s.backlog.Nodup
  /-- The handler is not told of a switch before the driving task launches that. -/
  untold : ∀ i core, s.core? i = some core →
    (core.2.1.phase = .arriving ∨ ∃ switch, core.2.1.phase = .entering switch) → core.2.2 = .absent

namespace State

variable {s t : State}

lemma core?_eq_none_iff {i : Nat} : s.core? i = none ↔ s.connection? i = none := by
  simp [core?]

lemma core?_of_connection? {i : Nat} {c : Connection} (h : s.connection? i = some c) :
    s.core? i = some c.core := by
  simp [core?, h]

lemma stage?_of_connection? {i : Nat} {c : Connection} (h : s.connection? i = some c) :
    s.stage? i = some c.stage := by
  simp [stage?, core?_of_connection? h, Connection.core]

lemma connection?_of_stage? {i : Nat} {stage : Stage} (h : s.stage? i = some stage) :
    ∃ c, s.connection? i = some c ∧ c.stage = stage := by
  obtain ⟨core, hcore, rfl⟩ := Option.map_eq_some_iff.1 h
  obtain ⟨c, hc, rfl⟩ := Option.map_eq_some_iff.1 hcore
  exact ⟨c, hc, rfl⟩

lemma core?_congr (h : ∀ j, t.connection? j = s.connection? j) (j : Nat) :
    t.core? j = s.core? j := by
  simp [core?, h]

/-- The order depends on the backlog and on the stages and news alone. -/
lemma Orderly.congr (hs : s.Orderly) (core : ∀ j, t.core? j = s.core? j)
    (length : t.lines.length = s.lines.length) (backlog : t.backlog.Sublist s.backlog) :
    t.Orderly where
  waiting i hi := by
    obtain ⟨hlt, hc⟩ := hs.waiting i (backlog.subset hi)
    exact ⟨by omega, core?_eq_none_iff.1 ((core i).trans (core?_eq_none_iff.2 hc))⟩
  nodup := hs.nodup.sublist backlog
  untold i c hc := hs.untold i c (core i ▸ hc)

/-- One connection may change, if what it becomes is in order. -/
lemma Orderly.change (hs : s.Orderly) {i : Nat} {c : Connection} (hc : s.connection? i = some c)
    {core' : Session × Stage × News}
    (core : ∀ j, t.core? j = if i = j then some core' else s.core? j) (around : Surrounded s t)
    (untold : (core'.2.1.phase = .arriving ∨ ∃ switch, core'.2.1.phase = .entering switch) →
      core'.2.2 = .absent) : t.Orderly where
  waiting j hj := by
    rw [around.backlog] at hj
    obtain ⟨hlt, hn⟩ := hs.waiting j hj
    refine ⟨by rw [around.length]; exact hlt, core?_eq_none_iff.1 ?_⟩
    have : i ≠ j := by
      rintro rfl
      rw [hc] at hn
      cases hn
    rw [core, if_neg this, core?_eq_none_iff.2 hn]
  nodup := by
    rw [around.backlog]
    exact hs.nodup
  untold j c' hc' := by
    rw [core] at hc'
    split at hc'
    · cases hc'
      exact untold
    · exact hs.untold j c' hc'

lemma Orderly.drove (hs : s.Orderly) {i : Nat} {c : Connection} {events : List Event}
    (hc : s.connection? i = some c) (step : Drove s i c t events) : t.Orderly := by
  obtain ⟨session, stage, news, core, -, course⟩ := step.effect hc
  have was := hs.untold i c.core (core?_of_connection? hc)
  refine hs.change hc core step.surrounded ?_
  generalize t.registry = registry, registrations events = seen at course
  cases course with
  | goes _ _ phase => exact fun h => was (by rwa [phase] at h)
  | registers arriving _ _ _ => exact fun _ => was (.inl arriving)
  | launches _ phase => exact fun h => by simp [phase] at h
  | deregisters _ phase => exact fun h => by simp [phase] at h
  | ends _ _ _ phase _ => exact fun h => by simp [phase] at h

lemma Orderly.told (hs : s.Orderly) {i : Nat} {c : Connection} {events : List Event}
    (hc : s.connection? i = some c) (step : Handled s i c t events) : t.Orderly := by
  obtain ⟨news, core, -, -, -, present, -⟩ := step.effect hc
  refine hs.change hc core step.surrounded fun h => ?_
  exact (present (hs.untold i c.core (core?_of_connection? hc) h)).elim

/-- The connection of a line that has just been accepted. -/
lemma core?_acceptFirst (hs : s.Orderly) {i : Nat} {rest : List Nat} (hb : s.backlog = i :: rest) :
    ∃ session : Session, session.datapath = none ∧ session.connection = (s.accepted + 1).toUInt64 ∧
      session.state = .discovered ∧ s.connection? i = none ∧
      (∀ j, s.acceptFirst.1.connection? j =
        if i = j then some { session } else s.connection? j) ∧
      s.acceptFirst.2 = [.accepted i (s.accepted + 1).toUInt64] := by
  obtain ⟨hlt, hn⟩ := hs.waiting i (by simp [hb])
  obtain ⟨l, hl⟩ : ∃ l, s.lines[i]? = some l := ⟨_, List.getElem?_eq_getElem hlt⟩
  refine ⟨{ connection := (s.accepted + 1).toUInt64, peer := l.peer }, rfl, rfl, rfl, hn,
    fun j => ?_, ?_⟩
  · have e : s.acceptFirst.1.connection? j = (s.modifyLine i fun l => { l with
        connection := some
          { session := { connection := (s.accepted + 1).toUInt64, peer := l.peer } } }).connection?
        j := by
      unfold acceptFirst
      rw [hb]
      rfl
    rw [e, connection?_modifyLine]
    split
    · subst i
      rw [hl]
      rfl
    · rfl
  · unfold acceptFirst
    rw [hb]

lemma Orderly.accepted (hs : s.Orderly) {i : Nat} {rest : List Nat} (hb : s.backlog = i :: rest) :
    s.acceptFirst.1.Orderly := by
  obtain ⟨session, -, -, -, hn, connection, -⟩ := core?_acceptFirst hs hb
  have backlog : s.acceptFirst.1.backlog = rest := by
    unfold acceptFirst
    rw [hb]
  have length : s.acceptFirst.1.lines.length = s.lines.length := by
    unfold acceptFirst
    rw [hb]
    exact List.length_modify ..
  have nodup := hs.nodup
  rw [hb, List.nodup_cons] at nodup
  refine ⟨fun j hj => ?_, backlog ▸ nodup.2, fun j core hcore => ?_⟩
  · rw [backlog] at hj
    obtain ⟨hlt, hc⟩ := hs.waiting j (by simp [hb, hj])
    refine ⟨by rw [length]; exact hlt, ?_⟩
    rw [connection, if_neg (by rintro rfl; exact nodup.1 hj), hc]
  · unfold core? at hcore
    rw [connection] at hcore
    split at hcore
    · cases hcore
      exact fun _ => rfl
    · exact hs.untold j core hcore

lemma connection?_connect (s : State) (peer : Transport.Address) (j : Nat) :
    State.connection? { s with
      lines := s.lines ++ [{ link := { capacity := s.capacity }, peer }]
      backlog := s.backlog ++ [s.lines.length] } j = s.connection? j := by
  unfold connection?
  rw [List.getElem?_append]
  split
  · rfl
  next h =>
    rw [List.getElem?_eq_none (by omega : s.lines.length ≤ j)]
    cases h : j - s.lines.length <;> rfl

lemma call?_eq_some {request : Outside} (h : s.call? request = some t) :
    ∃ caller, t = { s with callers := s.callers ++ [caller] } ∧
      ((∃ target message, caller = .sending (.looking target message)) ∨
        ∃ handle, s.knows handle = true ∧ ((∃ message, caller = .sending (.holding handle message)) ∨
          caller = .closing handle (closeCall s.now))) := by
  cases request with
  | send target message =>
    cases h
    exact ⟨_, rfl, .inl ⟨target, message, rfl⟩⟩
  | sendOver handle message =>
    unfold call? at h
    dsimp only at h
    split at h
    next knows =>
      cases h
      exact ⟨_, rfl, .inr ⟨handle, knows, .inl ⟨message, rfl⟩⟩⟩
    · cases h
  | close handle =>
    unfold call? at h
    dsimp only at h
    split at h
    next knows =>
      cases h
      exact ⟨_, rfl, .inr ⟨handle, knows, .inr rfl⟩⟩
    · cases h

/-- **Order is kept by every step.** -/
theorem Orderly.step (hs : s.Orderly) {a : Action} {events : List Event}
    (h : s.step? a = some (t, events)) : t.Orderly := by
  cases step?_moved h with
  | drove hc step => exact hs.drove hc step
  | told hc step => exact hs.told hc step
  | answered call step =>
    obtain ⟨caller', core, -⟩ := step.effect
    exact hs.congr core step.surrounded.length (step.surrounded.backlog ▸ List.Sublist.refl _)
  | accepted acceptor backlog => exact hs.accepted backlog
  | called call =>
    obtain ⟨caller, rfl, -⟩ := call?_eq_some call
    exact hs.congr (fun _ => rfl) rfl (List.Sublist.refl _)
  | connected going =>
    refine ⟨fun i hi => ?_, ?_, fun i core hcore => ?_⟩
    · rw [connection?_connect]
      rcases by simpa using hi with hi | rfl : i ∈ s.backlog ∨ i = s.lines.length
      · obtain ⟨hlt, hn⟩ := hs.waiting i hi
        exact ⟨by simp; omega, hn⟩
      · refine ⟨by simp, ?_⟩
        unfold connection?
        rw [List.getElem?_eq_none (Nat.le_refl _)]
        rfl
    · have fresh : s.lines.length ∉ s.backlog := fun h => by
        have := (hs.waiting _ h).1
        omega
      simpa [List.nodup_append, hs.nodup] using fun i hi e => fresh (by rwa [e] at hi)
    · refine hs.untold i core ?_
      unfold core? at hcore ⊢
      rwa [connection?_connect] at hcore
  | aside world task silent quiet =>
    exact hs.congr (core?_congr world.connection) world.length world.backlog

theorem orderly_start (settings : Settings) (handler : Handler) (capacity : Nat) :
    (start settings handler capacity).Orderly :=
  ⟨fun _ hi => absurd hi List.not_mem_nil, List.nodup_nil,
    fun i core h => by simp [core?, connection?, start] at h⟩

/-- **A run from an orderly state is orderly.** -/
theorem orderly_of_steps? {s₀ : State} (h₀ : s₀.Orderly) {actions : List Action}
    {events : List Event} (h : s₀.steps? actions = some (s, events)) : s.Orderly :=
  run_induction (P := fun _ s _ => s.Orderly) h₀
    (fun _ _ _ _ _ _ _ hs step => hs.step step) h

/-! ### One task at a time -/

lemma job?_driver {i : Nat} {core : Session × Stage × News} (h : s.core? i = some core) :
    s.job? (.driver i) = core.2.1.job? i := by
  simp [job?, stage?, h]

lemma job?_handler {i : Nat} {core : Session × Stage × News} (h : s.core? i = some core) :
    s.job? (.handler i) = jobOf core.2.2.sending? := by
  simp [job?, news?, h, jobOf]

lemma job?_caller {k : Nat} {caller : Caller} (h : s.callers[k]? = some caller) :
    s.job? (.caller k) = caller.job? := by
  simp [job?, h]

/-- The jobs after a change of one connection. -/
lemma job?_of_change {i : Nat} {core core' : Session × Stage × News} (hi : s.core? i = some core)
    (h : ∀ j, t.core? j = if i = j then some core' else s.core? j) (callers : t.callers = s.callers)
    {who : Actor} (driver : who = .driver i → core'.2.1.job? i = core.2.1.job? i)
    (handler : who = .handler i → jobOf core'.2.2.sending? = jobOf core.2.2.sending?) :
    t.job? who = s.job? who := by
  have hi' : t.core? i = some core' := by rw [h, if_pos rfl]
  have other {j : Nat} (hj : i ≠ j) : t.core? j = s.core? j := by rw [h, if_neg hj]
  cases who with
  | acceptor => rfl
  | driver j =>
    by_cases hj : i = j
    · subst hj
      rw [job?_driver hi, job?_driver hi', driver rfl]
    · simp only [job?, stage?, other hj]
  | handler j =>
    by_cases hj : i = j
    · subst hj
      rw [job?_handler hi, job?_handler hi', handler rfl]
    · simp only [job?, news?, other hj]
  | caller k => simp only [job?, callers]

lemma locks_congr (h : ∀ j, t.connection? j = s.connection? j) (j : Nat) : t.locks j = s.locks j := by
  simp [locks, h]

end State

section Tasks

variable {s t : State}

open State

lemma Drove.works (hs : s.Orderly) {i : Nat} {c : Connection} {events : List Event}
    (hc : s.connection? i = some c) (step : Drove s i c t events) :
    (∀ w, w ≠ .driver i → t.job? w = s.job? w) ∧
      Works s (.driver i) t (s.job? (.driver i)) (t.job? (.driver i)) events := by
  obtain ⟨session, stage, news, core, works, course⟩ := step.effect hc
  have hi := core?_of_connection? hc
  have hi' : t.core? i = some (session, stage, news) := by rw [core, if_pos rfl]
  have told : jobOf news.sending? = jobOf c.news.sending? := by
    have was := hs.untold i c.core hi
    generalize t.registry = registry, registrations events = seen at course
    cases course with
    | launches entering phase => rw [show c.news = .absent from was (.inr ⟨_, entering⟩)]; rfl
    | goes | registers | deregisters | ends => rfl
  refine ⟨fun w hw => job?_of_change hi core step.callers (fun e => (hw e).elim) fun _ => told, ?_⟩
  rw [job?_driver hi, job?_driver hi']
  exact works

lemma Handled.works {i : Nat} {c : Connection} {events : List Event}
    (hc : s.connection? i = some c) (step : Handled s i c t events) :
    (∀ w, w ≠ .handler i → t.job? w = s.job? w) ∧
      Works s (.handler i) t (s.job? (.handler i)) (t.job? (.handler i)) events := by
  obtain ⟨news, core, -, callers, -, -, works⟩ := step.effect hc
  have hi := core?_of_connection? hc
  have hi' : t.core? i = some (c.session, c.stage, news) := by rw [core, if_pos rfl]
  refine ⟨fun w hw => job?_of_change hi core callers (fun _ => rfl) fun e => (hw e).elim, ?_⟩
  rw [job?_handler hi, job?_handler hi']
  exact works

lemma Answered.works {k : Nat} {caller : Caller} {events : List Event}
    (hk : s.callers[k]? = some caller) (step : Answered s k caller t events) :
    (∀ w, w ≠ .caller k → t.job? w = s.job? w) ∧
      Works s (.caller k) t (s.job? (.caller k)) (t.job? (.caller k)) events := by
  obtain ⟨caller', core, -, callers, -, works⟩ := step.effect
  obtain ⟨hlt, -⟩ := List.getElem?_eq_some_iff.1 hk
  have hk' : t.callers[k]? = some caller' := by rw [callers, List.getElem?_set_self hlt]
  refine ⟨fun w hw => ?_, ?_⟩
  · cases w with
    | acceptor => rfl
    | driver j => simp only [job?, stage?, core]
    | handler j => simp only [job?, news?, core]
    | caller l =>
      have : k ≠ l := fun e => hw (by rw [e])
      simp only [job?, callers, List.getElem?_set_ne this]
  · rw [job?_caller hk, job?_caller hk']
    exact works

end Tasks

namespace State

variable {s t : State}

/-- A call from outside begins with no job, or with closing a connection. -/
lemma job?_of_call {request : Outside} (h : s.call? request = some t) :
    (∀ w, w ≠ .caller s.callers.length → t.job? w = s.job? w) ∧
      Works s (.caller s.callers.length) t (s.job? (.caller s.callers.length))
        (t.job? (.caller s.callers.length)) [] := by
  obtain ⟨caller, rfl, kind⟩ := call?_eq_some h
  refine ⟨fun w hw => ?_, ?_⟩
  · cases w with
    | acceptor | driver | handler => rfl
    | caller l =>
      have : s.callers.length ≠ l := fun e => hw (by rw [e])
      show (s.callers ++ [caller])[l]?.bind _ = s.callers[l]?.bind _
      rw [List.getElem?_append]
      split
      · rfl
      · rw [List.getElem?_eq_none (by simp; omega), List.getElem?_eq_none (by omega)]
  · have before : s.job? (.caller s.callers.length) = none := by simp [job?]
    have after : (({ s with callers := s.callers ++ [caller] } : State)).job?
        (.caller s.callers.length) = caller.job? := job?_caller (by simp)
    rw [before, after]
    refine .begins (fun _ => rfl) ?_
    rcases kind with ⟨target, message, rfl⟩ | ⟨handle, -, ⟨message, rfl⟩ | rfl⟩
    · exact .idle
    · exact .idle
    · exact fresh_closeCall _ _ _

/-- **One task at a time.** A step of a run is a step of the job of one task and leaves the jobs of
all others alone. -/
theorem step?_works (hs : s.Orderly) {a : Action} {events : List Event}
    (h : s.step? a = some (t, events)) :
    ∃ who, (a.task? = some who ∨ a.task? = none ∧ s.job? who = none) ∧
      (∀ w, w ≠ who → t.job? w = s.job? w) ∧
      Works s who t (s.job? who) (t.job? who) events := by
  cases step?_moved h with
  | drove hc step => exact ⟨_, .inl rfl, Drove.works hs hc step⟩
  | told hc step => exact ⟨_, .inl rfl, Handled.works hc step⟩
  | answered call step => exact ⟨_, .inl rfl, Answered.works call step⟩
  | @accepted d i rest started acceptor backlog =>
    obtain ⟨session, -, -, -, hn, connection, seen⟩ := core?_acceptFirst hs backlog
    have callers : s.acceptFirst.1.callers = s.callers := by
      simp [acceptFirst, backlog, modifyLine]
    refine ⟨.acceptor, .inl rfl, fun w _ => ?_, .idle (fun j => ?_) (by rw [seen]; rfl)⟩
    · cases w with
      | acceptor => rfl
      | driver j | handler j =>
        simp only [job?, stage?, news?, core?, connection]
        split
        · subst j
          simp [hn, Connection.core, Stage.job?, News.sending?]
        · rfl
      | caller k => simp only [job?, callers]
    · unfold locks
      rw [connection]
      split
      · subst j
        rw [hn]
        rfl
      · rfl
  | called call => exact ⟨_, .inr ⟨rfl, by simp [job?]⟩, job?_of_call call⟩
  | @connected peer going =>
    have core := core?_congr (connection?_connect s peer)
    exact ⟨.acceptor, .inr ⟨rfl, rfl⟩, fun w _ => job?_congr core rfl w,
      .idle (locks_congr (connection?_connect s peer)) rfl⟩
  | aside world task silent quiet =>
    exact ⟨.acceptor, task.symm.imp_right fun h => ⟨h, rfl⟩,
      fun w _ => job?_congr (core?_congr world.connection) world.callers w,
      .idle (locks_congr world.connection) silent⟩

/-- A step of a task is a step of its own job. -/
lemma works_of_task (hs : s.Orderly) {a : Action} {events : List Event}
    (h : s.step? a = some (t, events)) {who : Actor} (task : a.task? = some who) :
    Works s who t (s.job? who) (t.job? who) events := by
  obtain ⟨w, actor, -, works⟩ := step?_works hs h
  rcases actor with own | ⟨none_, -⟩
  · rw [own] at task
    cases task
    exact works
  · rw [none_] at task
    cases task

end State

/-! ### An arrival -/

/-- A step of a task that the operating system does not hinder. -/
def Action.go (who : Actor) : Action := .run who (.proceed readChunk)

/-- What a switch with the given datapath sends in its handshake: HELLO and FEATURES_REPLY. -/
def greetings (datapath : UInt64) : List UInt8 :=
  let features : OpenFlow.Features :=
    { datapathId := datapath, buffers := 0, tables := 0, auxiliaryId := 0, capabilities := 0 }
  Frame.bytes { xid := 1, message := .hello [] } ++
    Frame.bytes { xid := 2, message := .featuresReply features }

/-- The arrival of a switch as the given line: it connects, is accepted, greeted and registered, and
its driving task comes to serve it. -/
def arrival (line : Nat) (datapath : UInt64) : List Action :=
  [Action.connect (.loopback 6653), .go .acceptor, .deliver line (greetings datapath)] ++
    List.replicate 9 (Action.go (.driver line))

end FlowBurst.Controller
