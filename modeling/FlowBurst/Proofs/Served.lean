import FlowBurst.Proofs.Intake
import FlowBurst.Serving

/-!
# Serving takes the steps of a controller

Whatever the world reports and whenever the controller is let run, what serving sockets does to the
controller is a run of it. Main statements: `Served.run`, `Served.stopped`.
-/

namespace FlowBurst

open FlowBurst.Controller

namespace Controller.State

variable {s t : State} {a : Action} {events : List Event}

/-- A controller that has stopped stays so. -/
lemma stopped_step (h : s.step? a = some (t, events)) (stopped : s.acceptor = .stopped) :
    t.acceptor = .stopped := by
  cases step?_moved h with
  | drove hc step => exact step.surrounded.acceptor.trans stopped
  | told hc step => exact step.surrounded.acceptor.trans stopped
  | answered call step => exact step.surrounded.acceptor.trans stopped
  | accepted acceptor backlog => cases stopped.symm.trans acceptor
  | called call =>
    obtain ⟨caller, rfl, -⟩ := call?_eq_some call
    exact stopped
  | connected going => exact stopped
  | aside world task silent quiet =>
    rcases task with task | task
    · exact (step?_silent h task).2.1.trans stopped
    · -- The accepting task has nothing more to do.
      cases a with
      | run who d =>
        cases task
        cases accept?_admitted h with
        | waits acceptor | takes acceptor | fails acceptor | resumes acceptor | ends acceptor =>
          cases stopped.symm.trans acceptor
        | leaves going =>
          rw [stopped] at going
          cases going
      | _ => cases task

lemma stopped_steps {actions : List Action} (run : s.steps? actions = some (t, events))
    (stopped : s.acceptor = .stopped) : t.acceptor = .stopped :=
  run_induction (P := fun _ t _ => t.acceptor = .stopped) stopped
    (fun _ _ _ _ _ _ _ ih step => stopped_step step ih) run

end Controller.State

namespace Serving

/-- What serving comes to from some point on: the controller has gone on by some run, and the time at
which it stopped is the same. -/
structure Follows (v w : Serving) : Prop where
  run : ∃ actions events, v.state.steps? actions = some (w.state, events)
  stoppedAt : w.stoppedAt = v.stoppedAt

namespace Follows

variable {u v w : Serving}

lemma of_state (state : w.state = v.state) (stoppedAt : w.stoppedAt = v.stoppedAt) : Follows v w :=
  ⟨⟨[], [], by simp [State.steps?, state]⟩, stoppedAt⟩

lemma rfl : Follows v v := of_state (by rfl) (by rfl)

lemma trans (h : Follows u v) (k : Follows v w) : Follows u w := by
  obtain ⟨⟨first, before, run⟩, same⟩ := h
  obtain ⟨⟨rest, after, run'⟩, same'⟩ := k
  exact ⟨⟨first ++ rest, before ++ after, State.steps?_trans run run'⟩, same'.trans same⟩

/-- A step of the controller, of whose events note is taken. -/
lemma noted {a : Action} {state : State} {events : List Event}
    (step : v.state.step? a = some (state, events)) :
    Follows v (events.foldl note { v with state }) := by
  have kept (events : List Event) (v : Serving) :
      (events.foldl note v).state = v.state ∧ (events.foldl note v).stoppedAt = v.stoppedAt := by
    induction events generalizing v with
    | nil => exact ⟨by rfl, by rfl⟩
    | cons e rest ih =>
      obtain ⟨state, stoppedAt⟩ := ih (v.note e)
      cases e <;> exact ⟨state, stoppedAt⟩
  obtain ⟨same, stoppedAt⟩ := kept events { v with state }
  exact ⟨⟨[a], events, by simp [State.steps?, step, same]⟩, stoppedAt⟩

lemma act (v : Serving) (a : Action) : Follows v (v.act a) := by
  unfold Serving.act
  split
  next step => exact noted step
  next => exact rfl

lemma modifySocket (v : Serving) (i : Nat) (f : Socket → Socket) : Follows v (v.modifySocket i f) :=
  of_state (by rfl) (by rfl)

lemma arrive (v : Serving) (arrival : Arrival) : Follows v (v.arrive arrival) := by
  cases arrival with
  | tick => exact of_state (by rfl) (by rfl)
  | connected peer => exact (act v _).trans (of_state (by rfl) (by rfl))
  | acceptFailed e => exact (act v _).trans (of_state (by rfl) (by rfl))
  | read i bytes => cases bytes <;> exact modifySocket v i _
  | sent i => exact (act v _).trans (modifySocket _ i _)
  | broken i => exact (act v _).trans (modifySocket _ i _)
  | interrupt => exact (act v _).trans (of_state (by rfl) (by rfl))
  | deaf reason => exact of_state (by rfl) (by rfl)

lemma fill (v : Serving) (i : Nat) : Follows v (v.fill i) := by
  unfold Serving.fill
  split
  · dsimp only
    split
    · split
      · exact act v _
      · exact ((act v _).trans (modifySocket _ i _)).trans (act _ _)
    · split
      · exact rfl
      · exact (act v _).trans (modifySocket _ i _)
  · exact rfl

/-- What holds of each of a number of changes holds of all in turn. -/
lemma foldl {α : Type} {f : Serving → α → Serving} (h : ∀ v a, Follows v (f v a)) (xs : List α)
    (v : Serving) : Follows v (xs.foldl f v) := by
  induction xs generalizing v with
  | nil => exact rfl
  | cons a rest ih => exact (h v a).trans (ih (f v a))

lemma turn (fuel : Nat) (v : Serving) (who : Actor) :
    Follows v (Schedule.turn step? fuel v who).1 := by
  induction fuel generalizing v with
  | zero => exact rfl
  | succ fuel ih =>
    unfold Schedule.turn
    split
    next => exact rfl
    next w step =>
      obtain ⟨⟨state, events⟩, run, rfl⟩ := Option.map_eq_some_iff.1 step
      cases who with
      | driver i => exact ((noted run).trans (act _ (.letGo i))).trans (ih _)
      | acceptor | handler | caller => exact (noted run).trans (ih _)

lemma round (v : Serving) : Follows v (Schedule.round step? state v).1 := by
  unfold Schedule.round
  generalize Schedule.actors v.state = tasks
  have all (moved : Bool) : Follows v (tasks.foldl (fun (x, moved) who =>
      let (x, here) := Schedule.turn step? Schedule.patience x who
      (x, moved || here)) (v, moved)).1 := by
    induction tasks generalizing v moved with
    | nil => exact rfl
    | cons who rest ih =>
      have turned := turn Schedule.patience v who
      rw [List.foldl_cons]
      rcases e : Schedule.turn step? Schedule.patience v who with ⟨w, here⟩
      rw [e] at turned
      simp only [e]
      exact turned.trans (ih w (moved || here))
  exact all false

lemma rounds (fuel : Nat) (v : Serving) : Follows v (Serving.run fuel v) := by
  induction fuel generalizing v with
  | zero => exact rfl
  | succ fuel ih =>
    have filled := foldl fill (List.range v.sockets.length) v
    have rounded := round ((List.range v.sockets.length).foldl Serving.fill v)
    unfold Serving.run
    dsimp only
    split
    next w e =>
      rw [e] at rounded
      exact (filled.trans rounded).trans (ih w)
    next w e =>
      rw [e] at rounded
      exact filled.trans rounded

end Follows

/-! ### What serving comes to -/

/-- What serving a plan comes to, after what the world has reported and whenever the controller was let
run. -/
inductive Served (p : Plan) : Serving → Prop
  | start : Served p (.start p)
  | arrives {v : Serving} (served : Served p v) (arrival : Arrival) : Served p (v.arrive arrival)
  | responds {v : Serving} (served : Served p v) (now : Nat) : Served p (v.respond now).1

/-- Handing out errands for sockets changes nothing else. -/
lemma state_tend (v : Serving) (i : Nat) :
    (v.tend i).state = v.state ∧ (v.tend i).stoppedAt = v.stoppedAt := by
  unfold tend
  split
  · dsimp only
    split <;> split <;> (try split) <;> (try split) <;> exact ⟨rfl, rfl⟩
  · exact ⟨rfl, rfl⟩

lemma state_foldl_tend (lines : List Nat) (v : Serving) :
    (lines.foldl tend v).state = v.state ∧ (lines.foldl tend v).stoppedAt = v.stoppedAt := by
  induction lines generalizing v with
  | nil => exact ⟨rfl, rfl⟩
  | cons i rest ih =>
    obtain ⟨state, stoppedAt⟩ := ih (v.tend i)
    exact ⟨state.trans (v.state_tend i).1, stoppedAt.trans (v.state_tend i).2⟩

lemma state_invite (v : Serving) : v.invite.state = v.state ∧ v.invite.stoppedAt = v.stoppedAt := by
  unfold invite
  split
  · split <;> exact ⟨rfl, rfl⟩
  · exact ⟨rfl, rfl⟩

lemma state_setAlarm (v : Serving) :
    v.setAlarm.state = v.state ∧ v.setAlarm.stoppedAt = v.stoppedAt := by
  unfold setAlarm
  dsimp only
  split
  · exact ⟨rfl, rfl⟩
  · split <;> exact ⟨rfl, rfl⟩

/-- Handing out all errands leaves the controller, and when it stopped, as they are. -/
lemma state_handOut (lines : List Nat) (v : Serving) :
    (lines.foldl tend v).invite.setAlarm.state = v.state ∧
      (lines.foldl tend v).invite.setAlarm.stoppedAt = v.stoppedAt := by
  obtain ⟨tend_state, tend_at⟩ := state_foldl_tend lines v
  obtain ⟨invite_state, invite_at⟩ := (lines.foldl tend v).state_invite
  obtain ⟨alarm_state, alarm_at⟩ := (lines.foldl tend v).invite.state_setAlarm
  exact ⟨alarm_state.trans (invite_state.trans tend_state),
    alarm_at.trans (invite_at.trans tend_at)⟩

/-- **What a response does**: the controller goes on, and it is noted when it has stopped. -/
lemma respond_follows (v : Serving) (now : Nat) : ∃ w, Follows v w ∧
    (v.respond now).1.state = w.state ∧ (v.respond now).1.stoppedAt =
      w.stoppedAt.or (if w.state.acceptor = .stopped then some w.state.now else none) := by
  refine ⟨run endless (v.act (.elapse (now - v.state.now))),
    (Follows.act v _).trans (Follows.rounds endless _), ?_⟩
  generalize hw : run endless (v.act (.elapse (now - v.state.now))) = w
  unfold respond
  dsimp only
  rw [hw]
  exact state_handOut (List.range w.sockets.length) { w with
    stoppedAt := w.stoppedAt.or (if w.state.acceptor = .stopped then some w.state.now else none) }

/-- A response is a run of the controller. -/
lemma steps_of_respond (v : Serving) (now : Nat) :
    ∃ actions events, v.state.steps? actions = some ((v.respond now).1.state, events) := by
  obtain ⟨w, follows, state, -⟩ := v.respond_follows now
  rw [state]
  exact follows.run

namespace Served

variable {p : Plan} {v : Serving}

/-- **Serving is a run of the controller.** -/
theorem run (served : Served p v) :
    ∃ actions events, (Serving.start p).state.steps? actions = some (v.state, events) := by
  have goes_on {s t : State} (h : ∃ actions events, (Serving.start p).state.steps? actions =
      some (s, events)) (k : ∃ actions events, s.steps? actions = some (t, events)) :
      ∃ actions events, (Serving.start p).state.steps? actions = some (t, events) := by
    obtain ⟨first, before, run⟩ := h
    obtain ⟨rest, after, run'⟩ := k
    exact ⟨first ++ rest, before ++ after, State.steps?_trans run run'⟩
  induction served with
  | start => exact ⟨[], [], rfl⟩
  | @arrives v served arrival ih => exact goes_on ih (Follows.arrive v arrival).run
  | @responds v served now ih => exact goes_on ih (v.steps_of_respond now)

/-- **Serving is over only once the controller has stopped.** -/
theorem stopped (served : Served p v) (ceased : v.isOver = true) : v.state.acceptor = .stopped := by
  have noted : v.stoppedAt ≠ none → v.state.acceptor = .stopped := by
    clear ceased
    have follows {u w : Serving} (h : u.stoppedAt ≠ none → u.state.acceptor = .stopped)
        (k : Follows u w) : w.stoppedAt ≠ none → w.state.acceptor = .stopped := by
      obtain ⟨⟨actions, events, run⟩, same⟩ := k
      rw [same]
      exact fun at_stop => State.stopped_steps run (h at_stop)
    induction served with
    | start => exact fun h => (h rfl).elim
    | @arrives v served arrival ih => exact follows ih (.arrive v arrival)
    | @responds v served now ih =>
      obtain ⟨w, k, state, stoppedAt⟩ := v.respond_follows now
      rw [state, stoppedAt]
      intro at_stop
      by_contra going
      rw [if_neg going, Option.or_none] at at_stop
      exact going (follows ih k at_stop)
  refine noted fun at_stop => ?_
  unfold isOver at ceased
  rw [at_stop] at ceased
  cases ceased

end Served

end Serving

end FlowBurst
