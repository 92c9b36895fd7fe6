import FlowBurst.Switch.Session
import Mathlib.Tactic.Lemma

/-!
# Sessions go forward

A session is kept in one place and changed there, so a call that is refused halfway could leave behind
what it had done by then. It leaves nothing: a call is taken exactly if the state that it asks for is not
behind the one that the session is in, and then all of it is done; otherwise the session stays as it was.
Main statement: `session_goes_forward`.
-/

namespace FlowBurst.Switch

/-- The place of a state on the way that sessions go. -/
def SessionState.place (state : SessionState) : Nat := all.idxOf state

/-- **A state may follow another** exactly if it is not behind it. -/
lemma SessionState.mayBecome_iff {source target : SessionState} :
    source.mayBecome target = true ↔ source.place ≤ target.place := by
  cases source <;> cases target <;> decide

namespace Session

/-! ### Calls in place -/

/-- What is done to a session that is kept in one place: what has been changed by the time of a refusal
stays changed. -/
abbrev InPlace := ExceptT RefusedMove (StateM Session)

/-- Moves the session to a state. -/
def entering (target : SessionState) : InPlace Unit := do
  let s ← get
  if s.state = target then
    return
  if !s.state.mayBecome target then
    throw ⟨s.state, target⟩
  set { s with state := target }

/-- Moves the session to ready, and then notes the datapath. -/
def becomingReady (d : DatapathId) : InPlace Unit := do
  entering .ready
  modify fun s => { s with datapath := some d }

/-- The calls that change a session. -/
inductive Move
  | becomeReady (datapath : DatapathId)
  | enter (target : SessionState)
  deriving DecidableEq, Repr

namespace Move

/-- What a call does in place. -/
def inPlace : Move → InPlace Unit
  | becomeReady d => becomingReady d
  | enter target => entering target

/-- What a call makes of a session, unless it is refused. -/
def apply (s : Session) : Move → Except RefusedMove Session
  | becomeReady d => s.becomeReady d
  | enter target => s.enter target

/-- The state that a call asks for. -/
def target : Move → SessionState
  | becomeReady _ => .ready
  | enter target => target

/-- The session after a call that was taken. -/
def taken (s : Session) : Move → Session
  | becomeReady d => { s with state := .ready, datapath := some d }
  | enter target => { s with state := target }

/-- The datapath that a call noted, if it was taken. -/
def noted? : Move × Except RefusedMove Unit → Option DatapathId
  | (becomeReady d, .ok ()) => some d
  | _ => none

end Move

/-- The answer of a call, and the session after it. -/
def perform (s : Session) (m : Move) : Except RefusedMove Unit × Session := m.inPlace.run s

/-- The session after some calls. -/
def after (s : Session) (moves : List Move) : Session := moves.foldl (fun s m => (s.perform m).2) s

/-- Calls one after another, each with its answer. -/
def transcript (s : Session) : List Move → List (Move × Except RefusedMove Unit)
  | [] => []
  | m :: rest => (m, (s.perform m).1) :: (s.perform m).2.transcript rest

/-- What is told of a call that takes a session and gives another one back, and the session that is
kept: that one, or the first one if the call is refused. -/
def keep (s : Session) : Except RefusedMove Session → Except RefusedMove Unit × Session
  | .ok t => (.ok (), t)
  | .error move => (.error move, s)

section Calls

lemma run_bind {α β : Type} (x : InPlace α) (f : α → InPlace β) (s : Session) :
    (x >>= f).run s =
      match x.run s with
      | (.ok a, t) => (f a).run t
      | (.error move, t) => (.error move, t) := by
  have opened : (x >>= f).run s = (match x.run s with | (a, t) => ExceptT.bindCont f a t) := rfl
  rw [opened]
  obtain ⟨_ | a, t⟩ := x.run s <;> rfl

lemma run_entering (s : Session) (target : SessionState) :
    (entering target).run s = s.keep (s.enter target) := by
  have opened : (entering target).run s =
      (if s.state = target then pure ()
        else if !s.state.mayBecome target then throw ⟨s.state, target⟩
        else set { s with state := target } : InPlace Unit).run s := rfl
  rw [opened]
  unfold enter
  by_cases same : s.state = target
  · rw [if_pos same, if_pos same]
    rfl
  rw [if_neg same, if_neg same]
  cases s.state.mayBecome target <;> rfl

/-- Nothing is noted when the move is refused. -/
lemma run_becomingReady (s : Session) (d : DatapathId) :
    (becomingReady d).run s = s.keep (s.becomeReady d) := by
  unfold becomingReady becomeReady
  rw [run_bind, run_entering]
  cases s.enter .ready <;> rfl

/-- **A call in place** keeps what the call gives back, or the session as it was. -/
theorem perform_eq_keep (s : Session) (m : Move) : s.perform m = s.keep (m.apply s) := by
  cases m with
  | becomeReady d => exact run_becomingReady s d
  | enter target => exact run_entering s target

/-- A move is allowed exactly if it does not go back. -/
lemma enter_eq (s : Session) (target : SessionState) :
    s.enter target =
      if s.state.place ≤ target.place then .ok { s with state := target }
      else .error ⟨s.state, target⟩ := by
  unfold enter
  split
  next same =>
    subst same
    rw [if_pos (Nat.le_refl _)]
  next => simp only [SessionState.mayBecome_iff]

/-- **A call is taken as a whole or refused**: what it comes to, by the state that it asks for. -/
theorem perform_eq (s : Session) (m : Move) :
    s.perform m =
      if s.state.place ≤ m.target.place then (.ok (), m.taken s)
      else (.error ⟨s.state, m.target⟩, s) := by
  have applied : m.apply s =
      if s.state.place ≤ m.target.place then .ok (m.taken s) else .error ⟨s.state, m.target⟩ := by
    cases m with
    | enter target => exact enter_eq s target
    | becomeReady d =>
      show (s.enter .ready).map _ = _
      rw [enter_eq, apply_ite (Except.map _)]
      rfl
  rw [perform_eq_keep, applied, apply_ite s.keep]
  rfl

/-- How a call on a session is answered, and what it leaves. -/
structure Answered (s : Session) (m : Move) : Prop where
  accepted : (s.perform m).1 = .ok () ↔ s.state.place ≤ m.target.place
  taken : (s.perform m).1 = .ok () → (s.perform m).2 = m.taken s
  /-- A refused call says which move it was refused, and changes nothing. -/
  refused : ∀ move, (s.perform m).1 = .error move →
    move = ⟨s.state, m.target⟩ ∧ (s.perform m).2 = s
  /-- A closed session cannot become ready, -/
  unready : s.state = .closed → ∀ d, m = .becomeReady d →
    (s.perform m).1 = .error ⟨.closed, .ready⟩
  /-- and cannot enter any state but the one that it is in. -/
  shut : s.state = .closed → ∀ target, m = .enter target →
    ((s.perform m).1 = .ok () ↔ target = .closed)
  /-- The call comes to the same as on a session that is replaced. -/
  replaced : s.perform m = s.keep (m.apply s)

lemma answered (s : Session) (m : Move) : Answered s m := by
  have accepted : (s.perform m).1 = .ok () ↔ s.state.place ≤ m.target.place := by
    rw [perform_eq]
    split
    next ahead => exact iff_of_true rfl ahead
    next behind => exact iff_of_false (fun e => by cases e) behind
  refine ⟨accepted, fun ok => ?_, fun move refused => ?_, fun closed d e => ?_,
    fun closed target e => ?_, perform_eq_keep s m⟩
  · rw [perform_eq, if_pos (accepted.1 ok)]
  · have behind : ¬ s.state.place ≤ m.target.place := fun ahead => by
      rw [accepted.2 ahead] at refused
      cases refused
    rw [perform_eq, if_neg behind] at refused ⊢
    cases refused
    exact ⟨rfl, rfl⟩
  · subst e
    rw [perform_eq, closed]
    rfl
  · subst e
    rw [accepted, closed]
    cases target <;> decide

/-- What a call makes of the state of a session is not behind it. -/
lemma place_le_perform (s : Session) (m : Move) : s.state.place ≤ (s.perform m).2.state.place := by
  rw [perform_eq]
  split
  next ahead => cases m <;> exact ahead
  next => exact Nat.le_refl _

/-- A closed session is what it was after any call. -/
lemma perform_of_closed {s : Session} (closed : s.state = .closed) (m : Move) :
    (s.perform m).2 = s := by
  have last : ∀ state : SessionState, s.state.place ≤ state.place → state = .closed := by
    rw [closed]
    rintro ⟨⟩ <;> decide
  rw [perform_eq]
  split
  next ahead =>
    have asked := last _ ahead
    cases m with
    | becomeReady d => cases asked
    | enter target =>
      obtain rfl : target = s.state := asked.trans closed.symm
      rfl
  next => rfl

end Calls

/-! ### Calls one after another -/

section Histories

variable {s : Session}

lemma after_cons (s : Session) (m : Move) (rest : List Move) :
    s.after (m :: rest) = (s.perform m).2.after rest := rfl

lemma after_append (s : Session) (first rest : List Move) :
    s.after (first ++ rest) = (s.after first).after rest := List.foldl_append

/-- Whatever every call keeps is kept by any calls. -/
lemma after_induction {P : Session → Prop} (step : ∀ s m, P s → P (s.perform m).2) :
    ∀ (moves : List Move) {s : Session}, P s → P (s.after moves)
  | [], _, h => h
  | m :: rest, _, h => after_induction step rest (step _ m h)

lemma place_le_after (s : Session) (moves : List Move) : s.state.place ≤ (s.after moves).state.place :=
  after_induction (P := fun t => s.state.place ≤ t.state.place)
    (fun t m h => Nat.le_trans h (place_le_perform t m)) moves (Nat.le_refl _)

lemma after_of_closed (closed : s.state = .closed) (moves : List Move) : s.after moves = s :=
  after_induction (P := (· = s)) (fun _ m h => h ▸ perform_of_closed closed m) moves rfl

/-- No call changes which connection a session is of. -/
lemma identity_after (s : Session) (moves : List Move) :
    (s.after moves).connection = s.connection ∧ (s.after moves).peer = s.peer := by
  refine after_induction (P := fun t => t.connection = s.connection ∧ t.peer = s.peer)
    (fun t m h => ?_) moves ⟨rfl, rfl⟩
  rw [perform_eq]
  split
  · cases m <;> exact h
  · exact h

/-- A session that knows its datapath has left the first state. -/
lemma not_discovered_after (moves : List Move)
    (h : s.datapath ≠ none → s.state ≠ .discovered) :
    (s.after moves).datapath ≠ none → (s.after moves).state ≠ .discovered := by
  refine after_induction (P := fun t => t.datapath ≠ none → t.state ≠ .discovered)
    (fun t m h known first => ?_) moves h
  have before : t.state = .discovered := by
    have back := place_le_perform t m
    rw [first] at back
    revert back
    cases t.state <;> decide
  rw [perform_eq] at known first
  split at known
  next ahead =>
    rw [if_pos ahead] at first
    cases m with
    | becomeReady d => cases first
    | enter target => exact h known before
  next => exact h known before

/-- **The datapath of a session** is the one that was noted last. -/
lemma datapath_after (s : Session) (moves : List Move) :
    (s.after moves).datapath =
      (((s.transcript moves).filterMap Move.noted?).getLast?).or s.datapath := by
  induction moves generalizing s with
  | nil => rfl
  | cons m rest ih =>
    have noted : (s.perform m).2.datapath = (Move.noted? (m, (s.perform m).1)).or s.datapath := by
      rw [perform_eq]
      split
      · cases m <;> rfl
      · cases m <;> rfl
    rw [after_cons, ih, noted, transcript, List.filterMap_cons]
    cases Move.noted? (m, (s.perform m).1) with
    | none => rfl
    | some d => rw [List.getLast?_cons]; cases List.getLast? _ <;> rfl

/-- What holds of a session after some calls, and of any calls that follow. -/
structure GoesForward (start : Session) (moves : List Move) : Prop where
  connection : (start.after moves).connection = start.connection
  peer : (start.after moves).peer = start.peer
  datapath : (start.after moves).datapath =
    ((start.transcript moves).filterMap Move.noted?).getLast?
  known : (start.after moves).datapath ≠ none → (start.after moves).state ≠ .discovered
  next : ∀ m, Answered (start.after moves) m
  forward : ∀ more, (start.after moves).state.place ≤ (start.after (moves ++ more)).state.place
  /-- A closed session stays what it is. -/
  stays : (start.after moves).state = .closed → ∀ more,
    start.after (moves ++ more) = start.after moves

/-- **Sessions go forward**, through the states in their order, whatever is called on them: what is
refused changes nothing, and the datapath is the one that was noted last. -/
theorem session_goes_forward (connection : UInt64) (peer : Transport.Address) (moves : List Move) :
    GoesForward { connection, peer } moves where
  connection := (identity_after _ moves).1
  peer := (identity_after _ moves).2
  datapath := (datapath_after _ moves).trans (Option.or_none ..)
  known := not_discovered_after moves fun unknown => (unknown rfl).elim
  next := answered _
  forward more := by
    rw [after_append]
    exact place_le_after _ more
  stays closed more := by
    rw [after_append]
    exact after_of_closed closed more

example (peer : Transport.Address) :
    (Session.after { connection := 1, peer } [.enter .ready, .becomeReady ⟨7⟩, .becomeReady ⟨8⟩,
      .enter .discovered, .enter .closed, .becomeReady ⟨9⟩]) =
      { connection := 1, peer, datapath := some ⟨8⟩, state := .closed } := rfl

end Histories

end Session

end FlowBurst.Switch
