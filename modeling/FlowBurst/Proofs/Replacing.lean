import FlowBurst.Proofs.Muted

/-!
# Connections that are being closed

A connection is closed by its own driving task, by one that takes its place in the registry, or by a
caller. Whoever closes the connection of another has a handle of it that is known, and one that takes
the place of another is of the same datapath. Main statement: `closers_of_steps?`.
-/

namespace FlowBurst.Controller

open FlowBurst.Switch (Handle Reference Session)
open FlowBurst.Transport (Call Polled)

/-! ### Who closes what -/

/-- A call that closes a connection, made at some time. -/
def Closes (call : Call) : Prop := ∃ now, call = closeCall now ∨ call = (closeCall now).begun

/-- The line that a driving task closes at a stage, with the call that does it. -/
def Stage.closing? (i : Nat) : Stage → Option (Nat × Call)
  | displacing _ previous call => some (previous.channel, call)
  | closing _ call => some (i, call)
  | _ => none

/-- The line that a call from outside closes, with the call that does it. -/
def Caller.closing? : Caller → Option (Nat × Call)
  | closing h call => some (h.channel, call)
  | _ => none

/-- The line that a task closes, with the call that does it. -/
def State.closing? (s : State) : Actor → Option (Nat × Call)
  | .driver i => (s.stage? i).bind (Stage.closing? i)
  | .caller k => s.callers[k]?.bind Caller.closing?
  | .acceptor | .handler _ => none

/-- What a stage closes is known, and what it takes the place of is of its datapath. -/
def Stage.Closes (s : State) : Stage → Prop
  | displacing switch previous call =>
    s.knows previous = true ∧ previous.datapath = switch.datapath ∧ Controller.Closes call
  | closing _ call => Controller.Closes call
  | _ => True

/-- Whoever closes a connection goes about it in order. -/
structure Closers (s : State) : Prop where
  stages : ∀ i session stage, s.standing? i = some (session, stage) → stage.Closes s
  callers : ∀ (k : Nat) (h : Handle) (call : Call),
    s.callers[k]? = some (Caller.closing h call) → s.knows h = true ∧ Closes call

section Closes

variable {s t : State} {i : Nat} {events more : List Event}

lemma closes_closeCall (now : Nat) : Closes (closeCall now) := ⟨now, .inl rfl⟩

/-- What closes a connection is a shutdown of both directions that nobody can cancel. -/
lemma Closes.request {call : Call} (h : Closes call) :
    call.request = .shutdown .both ∧ call.limits.cancellable = false := by
  obtain ⟨now, rfl | rfl⟩ := h <;> exact ⟨rfl, rfl⟩

/-- A call that closes a connection and goes on still closes it. -/
lemma Closes.of_polling {call call' : Call} {j : Nat} {who : Actor} {b : Connection} {p : Polled Actor}
    (h : Closes call) (polling : Polling s j who call b p) (pending : p.progress = .pending call') :
    Closes call' := by
  obtain ⟨link, -, polls⟩ := polling.polls
  cases polls with
  | waits going =>
    cases pending
    obtain ⟨now, rfl | rfl⟩ := h <;> exact ⟨now, .inr rfl⟩
  | advances going request =>
    rw [h.request.1] at request
    cases request
  | empty | stopped | completes | ends => cases pending

lemma Stage.Closes.mono {stage : Stage} (h : stage.Closes s)
    (known : ∀ k, s.knows k = true → t.knows k = true) : stage.Closes t := by
  cases stage with
  | displacing switch previous call => exact ⟨known _ h.1, h.2⟩
  | closing => exact h
  | _ => trivial

lemma Next.closes {served : Option Reference} {stage : Stage} {seen : List Event}
    (next : Next i served stage seen) : stage.Closes s := by
  cases next with
  | close served now => exact closes_closeCall now
  | write | decide | read | register => trivial

/-- The stage that a driving task turned to. -/
lemma Turned.closes {served : Option Reference} {r : State × List Event} {c : Connection}
    (hc : ∀ j, t.core? j = s.core? j) (connection : s.connection? i = some c)
    (turn : Turned t i served r) :
    ∀ session stage, r.1.standing? i = some (session, stage) → stage.Closes s := by
  intro session stage hx
  obtain ⟨stage', next, core⟩ := turn.core?
  have here := core i
  rw [if_pos rfl, hc, State.core?_of_connection? connection] at here
  rw [standing?_of_core? here] at hx
  cases hx
  exact next.closes

/-- **A step of a driving task** leaves it at a stage that closes in order. -/
theorem Drove.closes (st : Standing s events) {c : Connection} (hc : s.connection? i = some c)
    (was : c.stage.Closes s) (step : Drove s i c t more) :
    ∀ session stage, t.standing? i = some (session, stage) → stage.Closes s := by
  have hcore := State.core?_of_connection? hc
  have idle {g : Session × Stage × News → Session × Stage × News} {u : State}
      (core : ∀ j, u.core? j = if i = j then (s.core? j).map g else s.core? j)
      (closes : (g c.core).2.1.Closes s) :
      ∀ session stage, u.standing? i = some (session, stage) → stage.Closes s := by
    intro session stage hx
    have here := core i
    rw [if_pos rfl, hcore] at here
    rw [standing?_of_core? here] at hx
    cases hx
    exact closes
  have polled {u v : State} {g : Session × Stage × News → Session × Stage × News}
      (same : ∀ j, u.core? j = s.core? j)
      (core : ∀ j, v.core? j = if i = j then (u.core? j).map g else u.core? j) (j : Nat) :
      v.core? j = if i = j then (s.core? j).map g else s.core? j := by rw [core, same]
  cases step with
  | turned _ _ turn => exact turn.closes (fun _ => rfl) hc
  | @waited job call b p under polling pending =>
    refine idle (polled (State.core?_polled · polling.connection p)
      (State.core?_enter _ i · (c.stage.withCall call))) ?_
    show (c.stage.withCall call).Closes s
    cases stage : c.stage with
    | displacing switch previous call₀ =>
      rw [stage] at was under
      cases under
      exact ⟨was.1, was.2.1, was.2.2.of_polling polling pending⟩
    | closing served call₀ =>
      rw [stage] at was under
      cases under
      exact was.of_polling polling pending
    | _ => trivial
  | wrote stage polling ready turn | got stage polling ready turn =>
    exact turn.closes (State.core?_polled · polling.connection _) hc
  | displaced stage polling ready =>
    exact idle (polled (State.core?_polled · polling.connection _) (State.core?_enter _ i · _)) trivial
  | @closed served call b p answer stage polling ready =>
    refine idle (polled (State.core?_polled · polling.connection _)
      (State.core?_afterClose _ i · served)) ?_
    show (State.stageAfterClose served).Closes s
    cases served <;> trivial
  | @registered features stage =>
    cases ready : c.session.becomeReady ⟨features.datapathId⟩ with
    | error move =>
      exact (s.register_of_refused i ready).closes (fun _ => rfl) hc
    | ok session =>
      obtain ⟨-, -, core⟩ := s.register_of_ready i ready
      refine idle core ?_
      show (s.stageAfterRegister _ _).Closes s
      cases held : s.registry.get? ⟨features.datapathId⟩ with
      | none => trivial
      | some previous =>
        obtain ⟨member, datapath⟩ := (Switch.Registry.get?_eq_some_iff st.ordered).1 held
        exact ⟨State.knows_of_mem st member, datapath, closes_closeCall s.now⟩
  | @launched switch stage =>
    refine idle (g := fun core => (core.1, .deciding (.service switch), .spawned switch))
      (fun j => ?_) trivial
    rw [State.core?_enter, State.core?_tell]
    split <;> simp [Function.comp_def]
  | deregistered stage => exact idle (s.core?_enter i · _) trivial
  | @joined switch removed seen stage told silent =>
    cases removed <;> exact idle (s.core?_enter i · _) trivial
  | notified stage => exact idle (s.core?_enter i · _) trivial

/-- A call from outside that closes a connection was made over a handle that is known. -/
lemma Answered.closes {k : Nat} {caller : Caller} (step : Answered s k caller t more)
    (was : ∀ h call, caller = .closing h call → s.knows h = true ∧ Closes call) {h : Handle} {call : Call}
    (now : t.callers[k]? = some (.closing h call)) : s.knows h = true ∧ Closes call := by
  have placed {u : State} {caller' : Caller} (at_k : (u.callers.set k caller')[k]? =
      some (.closing h call)) : caller' = .closing h call := by
    rw [List.getElem?_set, if_pos rfl] at at_k
    split at at_k
    · exact Option.some.inj at_k
    · cases at_k
  cases step with
  | sent | delivered | failed | closed => cases placed now
  | @waited h' call₀ call' b p polling pending =>
    cases placed now
    obtain ⟨known, closes⟩ := was _ _ rfl
    exact ⟨known, closes.of_polling polling pending⟩

/-- In every step a driving task comes to a stage that closes in order, or keeps it. -/
lemma Closers.stages_step (closers : Closers s) (st : Standing s events) (orderly : s.Orderly)
    {a : Action} (h : s.step? a = some (t, more)) {j : Nat} {session : Session} {stage : Stage}
    (hx : t.standing? j = some (session, stage)) : stage.Closes t := by
  have known (k : Handle) (hk : s.knows k = true) : t.knows k = true :=
    State.knows_step st (step?_stir orderly h) hk
  by_cases own : a.task? = some (.driver j)
  · obtain ⟨c, hc, step⟩ := drove_of_task h own
    have was := closers.stages j _ _ (standing?_of_core? (State.core?_of_connection? hc))
    exact (step.closes st hc was session stage hx).mono known
  · cases before : s.standing? j with
    | some x =>
      rw [standing?_of_other orderly h own before] at hx
      cases hx
      exact (closers.stages j _ _ before).mono known
    | none =>
      cases step?_stir orderly h with
      | calm lines => rw [lines, before] at hx; cases hx
      | accepts fresh datapath number lines =>
        rw [lines] at hx
        split at hx
        · cases hx
          trivial
        · rw [before] at hx
          cases hx
      | drives was lines =>
        rw [lines] at hx
        split at hx
        next e => rw [e, before] at was; cases was
        next => rw [before] at hx; cases hx

/-- In every step a call from outside that closes a connection is made over a handle that is known. -/
lemma Closers.callers_step (closers : Closers s) {a : Action} (h : s.step? a = some (t, more)) {k : Nat}
    {hd : Handle} {call : Call} (hk : t.callers[k]? = some (.closing hd call)) :
    s.knows hd = true ∧ Closes call := by
  cases State.step?_moved h with
  | drove hc step => exact closers.callers k hd call (step.callers ▸ hk)
  | told hc step =>
    obtain ⟨-, -, -, callers, -⟩ := step.effect hc
    exact closers.callers k hd call (callers ▸ hk)
  | @answered l d caller _ _ here step =>
    by_cases e : l = k
    · subst e
      exact step.closes (fun h call e => closers.callers l h call (e ▸ here)) hk
    · obtain ⟨caller', -, -, callers, -⟩ := step.effect
      rw [callers, List.getElem?_set_ne e] at hk
      exact closers.callers k hd call hk
  | accepted acceptor backlog =>
    have same : s.acceptFirst.1.callers = s.callers := by
      unfold State.acceptFirst
      split <;> rfl
    exact closers.callers k hd call (same ▸ hk)
  | called request =>
    obtain ⟨caller, rfl, kind⟩ := State.call?_eq_some request
    rw [List.getElem?_append] at hk
    split at hk
    next => exact closers.callers k hd call hk
    next =>
      obtain rfl : caller = .closing hd call := List.mem_singleton.1 (List.mem_of_getElem? hk) |>.symm
      rcases kind with ⟨target, message, e⟩ | ⟨hd', held, ⟨message, e⟩ | e⟩ <;> cases e
      exact ⟨held, closes_closeCall s.now⟩
  | connected going => exact closers.callers k hd call hk
  | aside world => exact closers.callers k hd call (world.callers ▸ hk)

/-- **Every step keeps the closing in order.** -/
theorem Closers.step (closers : Closers s) (st : Standing s events) (orderly : s.Orderly) {a : Action}
    (h : s.step? a = some (t, more)) : Closers t := by
  refine ⟨fun j session stage hx => closers.stages_step st orderly h hx, fun k hd call hk => ?_⟩
  obtain ⟨known, closes⟩ := closers.callers_step h hk
  exact ⟨State.knows_step st (step?_stir orderly h) known, closes⟩

/-- **In every run connections are closed in order.** -/
theorem closers_of_steps? {settings : Settings} {handler : Handler} {capacity : Nat}
    {actions : List Action}
    (run : (State.start settings handler capacity).steps? actions = some (s, events)) : Closers s :=
  State.run_induction (P := fun _ s _ => Closers s)
    ⟨fun _ _ _ hx => (by cases hx), fun _ _ _ hk => (by cases hk)⟩
    (fun _ _ _ _ _ _ before_run ih step =>
      ih.step (standing_of_steps? before_run) (orderly_of_run before_run) step) run

end Closes

end FlowBurst.Controller
