import FlowBurst.Proofs.Closing
import FlowBurst.Proofs.Shutdown

/-!
# Connections that are closed more than once

A connection that is replaced is closed by the driving task of the one that takes its place and by its
own, and a caller may close it as well. Whoever closes it first shuts both directions down; whoever
closes it later, whatever happens meanwhile, changes nothing of it. Main statement: `closed_once`.
-/

namespace FlowBurst.Controller

open FlowBurst.Switch (Handle)
open FlowBurst.Transport (Call ChannelPair Disposition Link Locks Polled Side)

/-- Both directions of a line are shut down for the controller. -/
def State.ShutDown (s : State) (i : Nat) : Prop :=
  ∃ l, s.link? i = some l ∧ l.Over .server .both

/-- A line whose switch is known. -/
def State.Met (s : State) (i : Nat) : Prop := ∃ k : Handle, s.knows k = true ∧ k.channel = i

section Lasting

variable {s t : State} {i : Nat} {events more : List Event}

/-- Once the controller writes no more, its reading is over exactly if there is an end to it. -/
lemma over_both_iff {l : Link} :
    l.Over .server .both ↔ l.server.writingEnded = true ∧ l.ends = true := by
  simp only [Link.Over, Link.Gone, Link.Hushed, Link.ends, Link.endpoint, Bool.or_eq_true]
  tauto

lemma State.ShutDown.step {a : Action} (down : s.ShutDown i) (h : s.step? a = some (t, more)) :
    t.ShutDown i := by
  obtain ⟨l, hl, past⟩ := down
  obtain ⟨writing, ends⟩ := over_both_iff.1 past
  obtain ⟨l', hl', becomes⟩ := (step?_kept h).links i l hl
  exact ⟨l', hl', over_both_iff.2 ⟨becomes.writing writing, becomes.ends ends⟩⟩

/-- The session of a line whose switch is known has noted the datapath. -/
lemma State.Met.standing (met : s.Met i) :
    ∃ session stage, s.standing? i = some (session, stage) ∧ session.datapath ≠ none := by
  obtain ⟨k, known, rfl⟩ := met
  obtain ⟨session, stage, hx, datapath, -⟩ := State.knows_iff.1 known
  exact ⟨session, stage, hx, by simp [datapath]⟩

/-- The switch of a line that was given up is never met. -/
lemma State.Met.not_abandoned (met : s.Met i) : ¬ Abandoned s i := by
  rintro ⟨session, stage, hx, unknown, -⟩
  obtain ⟨session', stage', hy, known⟩ := met.standing
  rw [hx] at hy
  cases hy
  exact known unknown

/-- A driving task that gave its line up and is at nothing any more has ended. -/
lemma Abandoned.ended (abandoned : Abandoned s i) (idle : s.job? (.driver i) = none) :
    s.stage? i = some .ended := by
  obtain ⟨session, stage, hx, -, rfl | ⟨call, rfl⟩⟩ := abandoned
  · rw [stage?_eq_standing?, hx]
    rfl
  · have closing : s.stage? i = some (.closing none call) := by
      rw [stage?_eq_standing?, hx]
      rfl
    have under : s.job? (.driver i) = some ⟨i, call, none⟩ := by simp [State.job?, closing, Stage.job?]
    cases under.symm.trans idle

variable {settings : Settings} {handler : Handler} {capacity : Nat} {actions rest : List Action}
  (run : (State.start settings handler capacity).steps? actions = some (s, events))
include run

/-- Whatever every step of a run keeps is kept while the run goes on. -/
lemma kept_on (P : State → Prop)
    (keeps : ∀ {actions s events a t seen},
      (State.start settings handler capacity).steps? actions = some (s, events) →
        s.step? a = some (t, seen) → P s → P t)
    (h : P s) (steps : s.steps? rest = some (t, more)) : P t := by
  induction rest generalizing s actions events more with
  | nil =>
    cases steps
    exact h
  | cons a rest ih =>
    obtain ⟨⟨u, first⟩, step, further⟩ := Option.bind_eq_some_iff.1 steps
    obtain ⟨⟨v, later⟩, others, e⟩ := Option.bind_eq_some_iff.1 further
    cases e
    exact ih (State.steps?_concat.2 ⟨s, events, first, run, step, rfl⟩) (keeps run step h) others

lemma State.ShutDown.on (down : s.ShutDown i) (steps : s.steps? rest = some (t, more)) :
    t.ShutDown i :=
  kept_on run (·.ShutDown i) (fun _ step down => down.step step) down steps

lemma State.Met.on (met : s.Met i) (steps : s.steps? rest = some (t, more)) : t.Met i := by
  obtain ⟨k, known, channel⟩ := met
  refine ⟨k, kept_on run (·.knows k = true) (fun run step known => ?_) known steps, channel⟩
  exact State.knows_step (standing_of_steps? run) (step?_stir (orderly_of_run run) step) known

lemma Abandoned.on (abandoned : Abandoned s i) (steps : s.steps? rest = some (t, more)) :
    Abandoned t i :=
  kept_on run (Abandoned · i) (fun run step abandoned => abandoned.step (orderly_of_run run) step)
    abandoned steps

lemma ended_on (ended : s.stage? i = some .ended) (steps : s.steps? rest = some (t, more)) :
    t.stage? i = some .ended :=
  kept_on run (·.stage? i = some .ended)
    (fun run step ended => ended_step (orderly_of_run run) step ended) ended steps

end Lasting

/-! ### A step of a task that closes a line -/

section Closing

variable {s t : State} {i : Nat} {events seen : List Event} {who : Actor} {call : Call}
  {d : Disposition}

/-- A step of a task that closes a line is a poll of the call that does it. -/
lemma poll_of_closing (closing : s.closing? who = some (i, call))
    (step : s.step? (.run who d) = some (t, seen)) : ∃ r, s.poll? i who d call = some r := by
  cases who with
  | acceptor | handler => cases closing
  | driver j =>
    obtain ⟨stage, hs, hj⟩ := Option.bind_eq_some_iff.1 closing
    obtain ⟨c, hc, rfl⟩ := State.connection?_of_stage? hs
    have drives : s.drive? j d = some (t, seen) := step
    unfold State.drive? at drives
    simp only [hc, bind, Option.bind_some] at drives
    generalize stage_eq : c.stage = stage at hj drives
    cases stage with
    | displacing switch previous call' | closing served call' =>
      cases hj
      obtain ⟨r, poll, -⟩ := Option.bind_eq_some_iff.1 drives
      exact ⟨r, poll⟩
    | _ => cases hj
  | caller k =>
    obtain ⟨caller, hk, hj⟩ := Option.bind_eq_some_iff.1 closing
    have answers : s.answer? k d = some (t, seen) := step
    unfold State.answer? at answers
    simp only [hk, bind, Option.bind_some] at answers
    cases caller with
    | closing h call' =>
      cases hj
      obtain ⟨r, poll, -⟩ := Option.bind_eq_some_iff.1 answers
      exact ⟨r, poll⟩
    | _ => cases hj

variable {settings : Settings} {handler : Handler} {capacity : Nat} {actions : List Action}
  (run : (State.start settings handler capacity).steps? actions = some (s, events))
include run

/-- **What a step of a task that closes a line makes of the line** is what the poll of its call makes of
it, where the switch of the line is known. -/
theorem link?_of_closing (met : s.Met i) (closing : s.closing? who = some (i, call))
    (step : s.step? (.run who d) = some (t, seen)) :
    ∃ link c p, s.link? i = some link ∧ s.connection? i = some c ∧
      call.poll? s.moment .server who d link c.locks = some p ∧ t.link? i = some p.link := by
  obtain ⟨under, -⟩ := (closers_of_steps? run).job (standing_of_steps? run) closing
  obtain ⟨⟨u, first, progress⟩, poll⟩ := poll_of_closing closing step
  obtain ⟨v, tail, step', after⟩ := step?_of_poll under poll
  rw [step] at step'
  cases step'
  obtain ⟨link, c, p, hl, hc, hp, rfl, -, -⟩ := State.poll?_eq_some poll
  refine ⟨link, c, p, hl, hc, hp, ?_⟩
  obtain ⟨session, stage, hx, known⟩ := met.standing
  have links := after.links i fun _ y hy arriving => by
    rw [hx] at hy
    cases hy
    exact known ((standing_of_steps? run).datapath_of_arriving hx arriving)
  rw [links, State.link?_polled hc, if_pos rfl]

/-- **Whoever returns in time from closing a line has shut it down.** -/
theorem Returns.shutBy (met : s.Met i) (ret : Returns s who i call t)
    (inTime : call.limits.expired s.moment = false) :
    t.link? i = (s.link? i).map (·.shutBy .server .both) := by
  obtain ⟨limit, seen, step⟩ := ret.step
  obtain ⟨under, closes, -⟩ := (closers_of_steps? run).job (standing_of_steps? run) ret.closing
  have going := (closes.stopped?_eq_none s.moment).2 inTime
  have works := State.works_of_task (orderly_of_run run) step rfl
  rw [under, ret.returned] at works
  obtain ⟨link, c, p, hl, hc, poll, after⟩ := link?_of_closing run met ret.closing step
  -- A call that is over had the lock, so that the poll was an attempt.
  have head : (Locks.ask c.locks.writers who).head? = some who := by
    cases works with
    | ends _ polling locks ready =>
      obtain ⟨hb, link', d', hl', poll'⟩ := polling
      have same := hc.symm.trans hb
      cases same
      exact Call.head_of_shutdown closes.request.1 going poll' ready
  rw [Call.poll?_shutdown closes.request.1 going head] at poll
  cases poll
  rw [after, hl]
  rfl

/-- A line that is shut down is closed again for nothing. -/
theorem State.ShutDown.link?_of_closing (down : s.ShutDown i) (met : s.Met i)
    (closing : s.closing? who = some (i, call)) (step : s.step? (.run who d) = some (t, seen)) :
    t.link? i = s.link? i := by
  obtain ⟨-, closes, -⟩ := (closers_of_steps? run).job (standing_of_steps? run) closing
  obtain ⟨link, c, p, hl, hc, poll, after⟩ := Controller.link?_of_closing run met closing step
  obtain ⟨l, hl', past⟩ := down
  rw [hl] at hl'
  cases hl'
  rw [after, hl, Call.link_of_poll_of_over closes.request.1 past poll]

end Closing

/-- How the lines of a controller are closed, by whomever and however often. -/
structure State.ClosesOnce (s : State) : Prop where
  /-- Whoever returns in time from closing a line whose switch is known has shut both directions down. -/
  first : ∀ who i call t, s.Met i → Returns s who i call t → call.limits.expired s.moment = false →
    t.link? i = (s.link? i).map (·.shutBy .server .both)
  /-- Whoever closes the line again, after whatever was done meanwhile, changes nothing of it. -/
  again : ∀ who i call t, Returns s who i call t → call.limits.expired s.moment = false →
    ∀ meanwhile u later, t.steps? meanwhile = some (u, later) →
      ∀ who' call' d v seen, u.closing? who' = some (i, call') →
        u.step? (.run who' d) = some (v, seen) → v.link? i = u.link? i

section ClosesOnce

variable {s : State} {events : List Event} {settings : Settings} {handler : Handler} {capacity : Nat}
  {actions : List Action}
  (run : (State.start settings handler capacity).steps? actions = some (s, events))
include run

/-- A line that was closed in time is closed again for nothing. -/
lemma Returns.link?_again {t u v : State} {i : Nat} {who who' : Actor} {call call' : Call}
    (ret : Returns s who i call t) (inTime : call.limits.expired s.moment = false)
    {meanwhile : List Action} {later : List Event} (steps : t.steps? meanwhile = some (u, later))
    (closing : u.closing? who' = some (i, call')) {d : Disposition} {seen : List Event}
    (step : u.step? (.run who' d) = some (v, seen)) : v.link? i = u.link? i := by
  obtain ⟨limit, new, first⟩ := ret.step
  have run_t := State.steps?_concat.2 ⟨s, events, new, run, first, rfl⟩
  have run_u := State.steps?_trans run_t steps
  obtain ⟨-, -, ⟨rfl, stage⟩ | ⟨met, -⟩⟩ :=
    (closers_of_steps? run).job (standing_of_steps? run) ret.closing
  · -- Nobody is left to close a line whose handshake was given up.
    have given_up := (ret.of_handshake run stage).1.step (orderly_of_run run) first
    have ended := ended_on run_t (given_up.ended ret.returned) steps
    obtain ⟨-, -, ⟨rfl, stage'⟩ | ⟨met, -⟩⟩ :=
      (closers_of_steps? run_u).job (standing_of_steps? run_u) closing
    · cases stage'.symm.trans ended
    · exact (State.Met.not_abandoned met (given_up.on run_t steps)).elim
  · obtain ⟨link, -, -, hl, -⟩ := link?_of_closing run met ret.closing first
    have down : t.ShutDown i := by
      refine ⟨link.shutBy .server .both, ?_, Link.over_shutBy link .server .both⟩
      rw [ret.shutBy run met inTime, hl]
      rfl
    have single : s.steps? [.run who (.proceed limit)] = some (t, new) := by
      simp [State.steps?, first]
    have met_u := State.Met.on run_t (State.Met.on run met single) steps
    exact (down.on run_t steps).link?_of_closing run_u met_u closing step

/-- **A connection that is closed more than once is closed once**, by its replacement and by its own
driving task in either order, and by callers; and so is any channel, in whatever state it is and
whichever way it is shut down. -/
theorem closed_once {τ : Type} [DecidableEq τ] :
    s.ClosesOnce ∧ ∀ (c : ChannelPair τ) (side : Side), c.ShutsDownOnce side :=
  ⟨⟨fun _ _ _ _ met ret inTime => ret.shutBy run met inTime,
    fun _ _ _ _ ret inTime _ _ _ steps _ _ _ _ _ closing step =>
      ret.link?_again run inTime steps closing step⟩,
    ChannelPair.shutsDownOnce⟩

end ClosesOnce

/-- The connection that takes the place of another closes it, and then its own driving task does. -/
theorem closed_once_replaced : ∃ s events t u later v seen,
    narrow.steps? replacesAtOnce = some (s, events) ∧ Returns s (.driver 1) 0 (closeCall 0) t ∧
      t.link? 0 = (s.link? 0).map (·.shutBy .server .both) ∧
      t.steps? [.go (.driver 0), .go (.driver 0)] = some (u, later) ∧
      u.closing? (.driver 0) = some (0, closeCall 0) ∧
      u.step? (.go (.driver 0)) = some (v, seen) ∧ v.link? 0 = u.link? 0 := by
  obtain ⟨⟨s, events⟩, run⟩ := Option.isSome_iff_exists.1
    (show (narrow.steps? replacesAtOnce).isSome = true by decide +kernel)
  have h : (narrow.steps? replacesAtOnce).all (fun r =>
      (r.1.step? (.go (.driver 1))).any fun q =>
        (q.1.steps? [.go (.driver 0), .go (.driver 0)]).any fun w =>
          (w.1.step? (.go (.driver 0))).any fun _ => decide (
            r.1.closing? (.driver 1) = some (0, closeCall 0) ∧
            (closeCall 0).limits.expired r.1.moment = false ∧
            r.1.knows ⟨⟨⟨5⟩, 1⟩, 0⟩ = true ∧ (q.1.job? (.driver 1)).isNone = true ∧
            w.1.closing? (.driver 0) = some (0, closeCall 0))) = true := by decide +kernel
  rw [run] at h
  obtain ⟨⟨t, new⟩, step, h⟩ := (Option.any_eq_true ..).1 h
  obtain ⟨⟨u, later⟩, steps, h⟩ := (Option.any_eq_true ..).1 h
  obtain ⟨⟨v, seen⟩, again, h⟩ := (Option.any_eq_true ..).1 h
  obtain ⟨closing, inTime, known, returned, closing'⟩ := of_decide_eq_true h
  have ret : Returns s (.driver 1) 0 (closeCall 0) t :=
    ⟨closing, ⟨readChunk, new, step⟩, Option.isNone_iff_eq_none.1 returned⟩
  obtain ⟨once, -⟩ : s.ClosesOnce ∧ ∀ (c : ChannelPair Actor) side, c.ShutsDownOnce side :=
    closed_once run
  exact ⟨s, events, t, u, later, v, seen, run, ret, once.first _ _ _ _ ⟨_, known, rfl⟩ ret inTime,
    steps, closing', again, once.again _ _ _ _ ret inTime _ _ _ steps _ _ _ _ _ closing' again⟩

end FlowBurst.Controller
