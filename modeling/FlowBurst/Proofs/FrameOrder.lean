import FlowBurst.Proofs.WriteLock

/-!
# The order of the frames

As long as no write on a connection fails, its frames are on the wire in the order in which their
writers obtained the lock, which is the order in which their calls return. Main statement:
`frames_never_mix`.
-/

namespace FlowBurst.Controller

open FlowBurst.OpenFlow (Frame)
open FlowBurst.Transport (Call Locks Polled Reply)

/-! ### Obtaining the lock -/

/-- Who holds the lock after a change of its queue, unless they held it before. -/
def newHolder (before after : List Actor) : Option Actor :=
  if after.head? = before.head? then none else after.head?

namespace State

/-- The writers of a line, once the task that takes a step has asked for the lock of its call. -/
def asking (s : State) (i : Nat) (a : Action) : List Actor :=
  match a.task? with
  | some who =>
    match s.job? who with
    | some job =>
      if job.line = i ∧ job.call.stopped? s.moment = none then
        ((s.locks i).acquire who job.call.request).writers
      else s.writers i
    | none => s.writers i
  | none => s.writers i

/-- The frame that a task writes, if it writes one. -/
def framesOf (s : State) (who : Option Actor) : List (Actor × Frame) :=
  who.toList.filterMap fun w => ((s.job? w).bind Job.frame).map (w, ·)

/-- The frames whose writers obtained the lock of a line in a step, by asking for it or because its
holder left. -/
def granted (s t : State) (i : Nat) (a : Action) : List (Actor × Frame) :=
  s.framesOf (newHolder (s.writers i) (s.asking i a)) ++
    s.framesOf (newHolder (s.asking i a) (t.writers i))

/-- The frames whose writers obtained the lock of a line in a run, in order. -/
def lockOrder (i : Nat) : State → List Action → List (Actor × Frame)
  | _, [] => []
  | s, a :: rest =>
    match s.step? a with
    | some (t, _) => s.granted t i a ++ lockOrder i t rest
    | none => []

lemma lockOrder_concat (i : Nat) {s₀ s t : State} {actions : List Action} {a : Action}
    {before after : List Event} (run : s₀.steps? actions = some (s, before))
    (step : s.step? a = some (t, after)) :
    lockOrder i s₀ (actions ++ [a]) = lockOrder i s₀ actions ++ s.granted t i a := by
  induction actions generalizing s₀ before with
  | nil =>
    obtain ⟨rfl, rfl⟩ : s₀ = s ∧ [] = before := by simpa [steps?] using run
    simp [lockOrder, step]
  | cons b rest ih =>
    obtain ⟨⟨u, first⟩, hb, h⟩ := Option.bind_eq_some_iff.1 run
    obtain ⟨⟨v, more⟩, hr, e⟩ := Option.bind_eq_some_iff.1 h
    cases e
    simp only [List.cons_append, lockOrder, hb, ih hr, List.append_assoc]

section Granted

variable (s : State)

/-- Asking for the lock gives it to whoever asks, if nobody holds it. -/
lemma framesOf_ask {queue asked : List Actor} {who : Actor}
    (h : asked = queue ∨ asked = Locks.ask queue who) :
    s.framesOf queue.head? ++ s.framesOf (newHolder queue asked) = s.framesOf asked.head? := by
  unfold newHolder
  split
  next e => rw [e]; exact List.append_nil _
  next ne =>
    have empty : queue = [] := by
      rcases h with rfl | rfl
      · exact (ne rfl).elim
      · by_contra hq
        rw [Locks.head?_ask, if_neg hq] at ne
        exact ne rfl
    rw [empty]
    rfl

/-- Leaving the queue gives the lock to the next one, if it was held. -/
lemma framesOf_leave (queue : List Actor) (who : Actor) :
    s.framesOf queue.head? ++ s.framesOf (newHolder queue (Locks.leave queue who)) =
      (if queue.head? = some who then s.framesOf (some who) else []) ++
        s.framesOf (Locks.leave queue who).head? := by
  unfold newHolder
  by_cases head : queue.head? = some who
  · have other : (Locks.leave queue who).head? ≠ queue.head? := by
      intro e
      rw [head] at e
      exact (Locks.mem_leave.1 (List.mem_of_head? e)).2 rfl
    rw [if_neg other, if_pos head, head]
  · rw [Locks.head?_leave head, if_pos rfl, if_neg head]
    exact List.append_nil _

variable {s} {t : State}

lemma framesOf_congr {who : Option Actor}
    (h : ∀ w, who = some w → (t.job? w).bind Job.frame = (s.job? w).bind Job.frame) :
    t.framesOf who = s.framesOf who := by
  cases who with
  | none => rfl
  | some w =>
    show List.filterMap _ [w] = List.filterMap _ [w]
    rw [List.filterMap_cons, List.filterMap_cons, h w rfl]
    rfl

lemma framesOf_job {who : Actor} {job : Job} (h : s.job? who = some job) :
    s.framesOf (some who) = (job.frame.map (who, ·)).toList := by
  show List.filterMap _ [who] = _
  rw [List.filterMap_cons, h, Option.bind_some]
  cases job.frame <;> rfl

end Granted

end State

/-! ### Runs without a failed write -/

/-- No write on a line has failed. -/
def Unfailed (i : Nat) (events : List Event) : Prop :=
  ∀ who frame f, Event.frameEnded i who frame (some f) ∉ events

/-- Whether an event is the failure of a write on a line. -/
def Event.isFailure (i : Nat) : Event → Bool
  | frameEnded j _ _ (some _) => j == i
  | _ => false

instance (i : Nat) (events : List Event) : Decidable (Unfailed i events) :=
  decidable_of_iff (∀ e ∈ events, e.isFailure i = false) <| by
    constructor
    · intro h who frame f hm
      simpa [Event.isFailure] using h _ hm
    · intro h e he
      cases e with
      | frameEnded j who frame failure =>
        cases failure with
        | none => rfl
        | some f =>
          refine beq_eq_false_iff_ne.2 fun hj => h who frame f ?_
          rwa [hj] at he
      | _ => rfl

section Unfailed

variable {s t : State} {i : Nat} {part : List UInt8}

lemma Unfailed.left {first rest : List Event} (h : Unfailed i (first ++ rest)) : Unfailed i first :=
  fun who frame f hm => h who frame f (List.mem_append_left _ hm)

lemma Unfailed.right {first rest : List Event} (h : Unfailed i (first ++ rest)) : Unfailed i rest :=
  fun who frame f hm => h who frame f (List.mem_append_right _ hm)

lemma Unfailed.append {first rest : List Event} (h : Unfailed i first) (k : Unfailed i rest) :
    Unfailed i (first ++ rest) := fun who frame f hm =>
  (List.mem_append.1 hm).elim (h who frame f) (k who frame f)

/-- Without a failure all frames that have ended are written. -/
lemma Unfailed.framesEnded {events : List Event} (h : Unfailed i events) :
    Event.framesEnded i events = (Event.framesWritten i events).map fun w => (w.1, w.2, none) := by
  induction events with
  | nil => rfl
  | cons e events ih =>
    have tail := ih fun who frame f hm => h who frame f (List.mem_cons_of_mem _ hm)
    have hf : Event.framesEnded i (e :: events) =
        Event.framesEnded i [e] ++ Event.framesEnded i events := Event.framesEnded_append i [e] _
    have hw : Event.framesWritten i (e :: events) =
        Event.framesWritten i [e] ++ Event.framesWritten i events :=
      Event.framesWritten_append i [e] _
    rw [hf, hw, List.map_append, tail]
    congr 1
    cases e with
    | frameEnded j who frame failure =>
      by_cases hj : j = i
      · cases failure with
        | none => simp [Event.framesEnded, Event.framesWritten, hj]
        | some f => exact (h who frame f (hj ▸ List.mem_cons_self)).elim
      · cases failure <;> simp [Event.framesEnded, Event.framesWritten, hj]
    | _ => rfl

/-- Without a failure the wire holds all frames written, and then a part of one more. -/
lemma Ledger.unfailed {events : List Event} {pieces : List (List UInt8)}
    (h : Ledger s i events pieces part) (unfailed : Unfailed i events) :
    pieces = (Event.framesWritten i events).map (·.2.bytes) ∧
      ∀ w ∈ Event.framesWritten i events, w.2.encode = .ok w.2.bytes := by
  have leaves := h.pieces
  rw [unfailed.framesEnded, List.forall₂_map_left_iff] at leaves
  clear h
  generalize Event.framesWritten i events = frames at leaves
  induction leaves with
  | nil => exact ⟨rfl, fun w hw => absurd hw List.not_mem_nil⟩
  | cons leaf _ ih =>
    obtain ⟨encoded, rfl⟩ := leaf
    refine ⟨by rw [ih.1]; rfl, fun w hw => ?_⟩
    rcases List.mem_cons.1 hw with rfl | hw
    · exact encoded
    · exact ih.2 w hw

lemma Event.framesWritten_putEvents (who : Actor) (i j : Nat) (bytes : List UInt8) :
    framesWritten i (putEvents j who bytes) = [] := by
  unfold putEvents
  split <;> rfl

/-- The frame of a call that ends without a failure is written. -/
lemma framesWritten_of_ends {more : List Event} {who : Actor} {job : Job} {put : List UInt8}
    {answer : Except Transport.Failure Reply} (line : job.line = i)
    (seen : outgoing more = putEvents job.line who put ++ job.endEvents who answer)
    (unfailed : Unfailed i more) :
    Event.framesWritten i more = (job.frame.map (who, ·)).toList ∧
      (job.frame ≠ none → failureOf answer = none) := by
  rw [← Event.framesWritten_outgoing, seen, Event.framesWritten_append,
    Event.framesWritten_putEvents, List.nil_append]
  cases hf : job.frame with
  | none =>
    rw [Job.endEvents_of_call hf]
    exact ⟨rfl, fun h => (h rfl).elim⟩
  | some frame =>
    rw [Job.endEvents_of_frame hf] at seen ⊢
    have ended : failureOf answer = none := by
      cases he : failureOf answer with
      | none => rfl
      | some f =>
        have member : Event.frameEnded job.line who frame (some f) ∈ outgoing more := by
          rw [seen, ← he]
          exact List.mem_append_right _ List.mem_cons_self
        exact (unfailed who frame f (line ▸ List.mem_of_mem_filter member)).elim
    refine ⟨?_, fun _ => ended⟩
    simp [Event.framesWritten, ended, line]

/-- A task that is at work elsewhere asks for nothing here. -/
lemma State.asking_of_away {a : Action} {who : Actor}
    (actor : a.task? = some who ∨ a.task? = none ∧ s.job? who = none)
    (out : ∀ job, s.job? who = some job → job.line ≠ i) : s.asking i a = s.writers i := by
  unfold asking
  rcases actor with e | ⟨e, -⟩
  · rw [e]
    dsimp only
    split
    next job hj => rw [if_neg fun h => out job hj h.1]
    next => rfl
  · rw [e]

/-- A task at work on the line asks for the lock, unless its call is stopped. -/
lemma State.asking_of_job {a : Action} {who : Actor} {job : Job}
    (actor : a.task? = some who ∨ a.task? = none ∧ s.job? who = none)
    (under : s.job? who = some job) (line : job.line = i) :
    s.asking i a = if job.call.stopped? s.moment = none then
      ((s.locks i).acquire who job.call.request).writers else s.writers i := by
  have task : a.task? = some who := actor.resolve_right fun h => by simp [under] at h
  unfold asking
  rw [task]
  dsimp only
  rw [under]
  simp [line]

namespace Desk

variable (h : Desk s i part) {a : Action} {more : List Event} {who : Actor}
include h

/-- A step of a task that is not at work on the line. -/
lemma granted_away (asking : s.asking i a = s.writers i) (writers : t.writers i = s.writers i)
    (written : Event.framesWritten i more = []) (same : ∀ w, w ≠ who → t.job? w = s.job? w)
    (out : ∀ job, s.job? who = some job → job.line ≠ i) :
    s.framesOf (s.writers i).head? ++ s.granted t i a =
      Event.framesWritten i more ++ t.framesOf (t.writers i).head? := by
  have nobody : newHolder (s.writers i) (s.writers i) = none := if_pos rfl
  rw [State.granted, asking, writers, nobody, written, List.nil_append, State.framesOf_congr (t := t)]
  · exact (congrArg _ (List.append_nil _)).trans (List.append_nil _)
  · intro w hw
    obtain ⟨job, hj, hl⟩ := h.queued w (List.mem_of_head? hw)
    have : w ≠ who := by
      rintro rfl
      exact out job hj hl
    rw [same w this]

variable {job : Job} {link : Transport.Link} {p : Polled Actor}
  (actor : a.task? = some who ∨ a.task? = none ∧ s.job? who = none)
  (under : s.job? who = some job) (line : job.line = i)
  (polls : job.call.Polls s.moment .server who link (s.locks i) p)
  (locks : t.locks i = p.locks) (same : ∀ w, w ≠ who → t.job? w = s.job? w)
include actor under line polls locks same

omit h in
/-- A call on the line goes on. -/
lemma granted_waits {call : Call} (pending : p.progress = .pending call)
    (after : t.job? who = some { job with call }) :
    s.framesOf (s.writers i).head? ++ s.granted t i a = t.framesOf (t.writers i).head? := by
  obtain ⟨going, acquired⟩ := polls.locks_of_pending pending
  have asking : s.asking i a = ((s.locks i).acquire who job.call.request).writers := by
    rw [State.asking_of_job actor under line, if_pos going]
  have writers : t.writers i = s.asking i a := by
    rw [asking, ← acquired]
    exact congrArg Locks.writers locks
  have nobody : newHolder (s.asking i a) (t.writers i) = none := if_pos (by rw [writers])
  have asked : s.asking i a = s.writers i ∨ s.asking i a = Locks.ask (s.writers i) who := by
    rw [asking]
    exact writers_acquire _ _ _
  have frames : t.framesOf (t.writers i).head? = s.framesOf (t.writers i).head? := by
    refine State.framesOf_congr fun w _ => ?_
    by_cases e : w = who
    · rw [e, after, under]
      rfl
    · rw [same w e]
  rw [State.granted, ← List.append_assoc, s.framesOf_ask asked, nobody, frames, writers]
  exact List.append_nil _

/-- A call on the line ends. -/
lemma granted_ends {answer : Except Transport.Failure Reply} (ready : p.progress = .ready answer)
    (seen : outgoing more = putEvents job.line who p.put ++ job.endEvents who answer)
    (unfailed : Unfailed i more) :
    s.framesOf (s.writers i).head? ++ s.granted t i a =
      Event.framesWritten i more ++ t.framesOf (t.writers i).head? := by
  obtain ⟨written, succeeds⟩ := framesWritten_of_ends line seen unfailed
  have request : ∀ frame, job.frame = some frame → ∃ rest total,
      job.call.request = .write rest total ∧ rest ≠ [] := by
    intro frame hf
    obtain ⟨rest, total, request, more, -⟩ := h.owed who job frame under line hf
    exact ⟨rest, total, request, more⟩
  have left : t.writers i = Locks.leave (s.asking i a) who := by
    rw [State.asking_of_job actor under line]
    exact (congrArg Locks.writers locks).trans (polls.writers_of_ready ready
      (h.request_ne under line))
  have asked : s.asking i a = s.writers i ∨ s.asking i a = Locks.ask (s.writers i) who := by
    rw [State.asking_of_job actor under line]
    split
    · exact writers_acquire _ _ _
    · exact .inl rfl
  have frames : t.framesOf (t.writers i).head? = s.framesOf (t.writers i).head? := by
    refine State.framesOf_congr fun w hw => ?_
    have member := List.mem_of_head? hw
    rw [left] at member
    rw [same w (Locks.mem_leave.1 member).2]
  -- Whoever has written a frame held the lock; who leaves the queue without one had none.
  have holder : (if (s.asking i a).head? = some who then s.framesOf (some who) else []) =
      Event.framesWritten i more := by
    rw [written, State.framesOf_job under]
    cases hf : job.frame with
    | none => split <;> rfl
    | some frame =>
      obtain ⟨rest, total, request, more⟩ := request frame hf
      cases answer with
      | error f => cases succeeds (by simp [hf])
      | ok reply =>
        obtain ⟨going, head⟩ := polls.holds_of_written ready request more
        rw [if_pos]
        rw [State.asking_of_job actor under line, if_pos going]
        exact head
  rw [State.granted, ← List.append_assoc, s.framesOf_ask asked, frames, left, s.framesOf_leave, holder]

end Desk

/-- **The lock is obtained in the order of the frames**: in each step, whoever held the lock and
those who then obtained it are those who finished their frames and then the holder. -/
theorem Desk.granted (h : Desk s i part) (orderly : s.Orderly) {a : Action} {more : List Event}
    (step : s.step? a = some (t, more)) (unfailed : Unfailed i more) :
    s.framesOf (s.writers i).head? ++ s.granted t i a =
      Event.framesWritten i more ++ t.framesOf (t.writers i).head? := by
  obtain ⟨who, actor, same, works⟩ := State.step?_works orderly step
  have away (out : ∀ job, s.job? who = some job → job.line ≠ i) (locks : t.locks i = s.locks i)
      (written : Event.framesWritten i more = []) :=
    h.granted_away (State.asking_of_away actor out) (congrArg Locks.writers locks) written same out
  generalize hbefore : s.job? who = before, hafter : t.job? who = after at works
  have out {job : Job} (e : before = some job) (line : job.line ≠ i) :
      ∀ job, s.job? who = some job → job.line ≠ i := by
    intro job' hj
    rw [hbefore, e] at hj
    cases hj
    exact line
  cases works with
  | begins locks fresh =>
    refine away (by simp [hbefore]) (locks i) ?_
    rw [← Event.framesWritten_outgoing]
    generalize outgoing more = seen at fresh
    cases fresh <;> rfl
  | @waits job call b p _ polling locks pending seen =>
    have written : Event.framesWritten i more = [] := by
      rw [← Event.framesWritten_outgoing, seen, Event.framesWritten_putEvents]
    by_cases line : job.line = i
    · obtain ⟨link, -, polls⟩ := polling.polls
      rw [line] at polls
      rw [written]
      exact Desk.granted_waits actor hbefore line polls
        ((locks i).trans (if_pos line)) same pending hafter
    · exact away (out rfl line) ((locks i).trans (if_neg line)) written
  | @ends job b p answer _ _ polling locks ready fresh seen =>
    by_cases line : job.line = i
    · obtain ⟨link, -, polls⟩ := polling.polls
      rw [line] at polls
      exact h.granted_ends actor hbefore line polls
        ((locks i).trans (if_pos line)) same ready seen unfailed
    · refine away (out rfl line) ((locks i).trans (if_neg line)) ?_
      rw [← Event.framesWritten_outgoing, seen, Event.framesWritten_append,
        Event.framesWritten_putEvents]
      cases hf : job.frame with
      | none =>
        rw [Job.endEvents_of_call hf]
        rfl
      | some frame =>
        rw [Job.endEvents_of_frame hf]
        cases failureOf answer <;> simp [Event.framesWritten, line]

end Unfailed

/-! ### Calls -/

/-- The frames whose writes by a task ended on a line, in order. -/
def Event.endedBy (i : Nat) (who : Actor) (events : List Event) : List Frame :=
  (framesEnded i events).filterMap fun w => if w.1 = who then some w.2.1 else none

/-- The frame that a task is writing on a line. -/
def State.writing (s : State) (i : Nat) (who : Actor) : List Frame :=
  match s.job? who with
  | some job => if job.line = i then job.frame.toList else []
  | none => []

@[simp] lemma Event.endedBy_append (i : Nat) (who : Actor) (first rest : List Event) :
    endedBy i who (first ++ rest) = endedBy i who first ++ endedBy i who rest := by
  simp [endedBy]

section Calls

variable {s t : State} {i : Nat} {who : Actor} {more : List Event}

lemma State.writing_of_job {job : Job} (h : s.job? who = some job) :
    s.writing i who = if job.line = i then job.frame.toList else [] := by
  unfold writing
  rw [h]

lemma State.writing_of_idle (h : s.job? who = none) : s.writing i who = [] := by
  unfold writing
  rw [h]

/-- What a step lets the world see of one task's calls. -/
lemma calls_outgoing (i : Nat) (who : Actor) (events : List Event) :
    Event.framesBegun i who events = Event.framesBegun i who (outgoing events) ∧
      Event.endedBy i who events = Event.endedBy i who (outgoing events) := by
  unfold Event.endedBy
  rw [Event.framesBegun_outgoing, Event.framesEnded_outgoing]
  exact ⟨rfl, rfl⟩

lemma endedBy_endEvents (job : Job) (v : Actor) (put : List UInt8)
    (answer : Except Transport.Failure Reply) :
    Event.endedBy i who (putEvents job.line v put ++ job.endEvents v answer) =
      if v = who then (if job.line = i then job.frame.toList else []) else [] := by
  unfold Event.endedBy
  rw [Event.framesEnded_append, Event.framesEnded_putEvents, List.nil_append,
    Event.framesEnded_endEvents]
  by_cases line : job.line = i
  · rw [if_pos line, if_pos line]
    cases job.frame <;> by_cases hv : v = who <;> simp [hv]
  · rw [if_neg line, if_neg line, List.filterMap_nil, ite_self]

/-- **A call begins once and ends at most once**: in each step, a task carries on with the frame that
it is writing, begins one or ends it. -/
theorem calls_of_step (orderly : s.Orderly) {a : Action} (step : s.step? a = some (t, more)) :
    s.writing i who ++ Event.framesBegun i who more =
      Event.endedBy i who more ++ t.writing i who := by
  obtain ⟨v, -, same, works⟩ := State.step?_works orderly step
  obtain ⟨begun, ended⟩ := calls_outgoing i who more
  rw [begun, ended]
  generalize hbefore : s.job? v = before, hafter : t.job? v = after at works
  by_cases hv : v = who
  · subst hv
    cases works with
    | begins locks fresh =>
      rw [State.writing_of_idle hbefore, List.nil_append]
      generalize outgoing more = seen at fresh
      cases fresh with
      | idle => rw [State.writing_of_idle hafter]; rfl
      | frame line cancellable encoded =>
        rw [State.writing_of_job hafter]
        by_cases hl : line = i <;> simp [Event.framesBegun, Event.endedBy, Event.framesEnded, hl]
      | call line unstarted other bounded =>
        rw [State.writing_of_job hafter]
        simp [Event.framesBegun, Event.endedBy, Event.framesEnded]
    | waits job polling locks pending seen =>
      rw [State.writing_of_job hbefore, State.writing_of_job hafter, seen, Event.framesBegun_putEvents,
        Event.endedBy, Event.framesEnded_putEvents]
      exact List.append_nil _
    | @ends job b p answer _ _ polling locks ready fresh seen =>
      have idle : t.writing i v = [] := by
        cases hj : t.job? v with
        | none => exact State.writing_of_idle hj
        | some job' =>
          rw [State.writing_of_job hj, fresh.unframed job' (hafter ▸ hj)]
          split <;> rfl
      rw [State.writing_of_job hbefore, idle, seen, Event.framesBegun_append,
        Event.framesBegun_putEvents, Event.framesBegun_endEvents, endedBy_endEvents, if_pos rfl]
      rfl
  · have still : t.writing i who = s.writing i who := by
      unfold State.writing
      rw [same who (Ne.symm hv)]
    rw [still]
    cases works with
    | begins locks fresh =>
      generalize outgoing more = seen at fresh
      cases fresh <;>
        simp [Event.framesBegun, Event.endedBy, Event.framesEnded, hv]
    | waits job polling locks pending seen =>
      rw [seen, Event.framesBegun_putEvents, Event.endedBy, Event.framesEnded_putEvents]
      exact List.append_nil _
    | @ends job b p answer _ _ polling locks ready fresh seen =>
      rw [seen, endedBy_endEvents, if_neg hv, Event.framesBegun_append, Event.framesBegun_putEvents,
        Event.framesBegun_endEvents]
      exact List.append_nil _

/-- When a call returns, the whole of its frame has just come to be on the wire. -/
lemma Ledger.returned {events : List Event} {pieces : List (List UInt8)} {part : List UInt8}
    (h : Ledger s i events pieces part) (orderly : s.Orderly) {a : Action}
    (step : s.step? a = some (t, more)) {first rest : List Event} {frame : Frame}
    (e : more = first ++ .frameEnded i who frame none :: rest) :
    Event.framesEnded i first = [] ∧ part ++ Event.wire i first = frame.bytes := by
  obtain ⟨v, -, same, works⟩ := State.step?_works orderly step
  have seen_eq : outgoing more = outgoing first ++ .frameEnded i who frame none :: outgoing rest := by
    rw [e, outgoing_append]
    rfl
  have member : Event.frameEnded i who frame none ∈ outgoing more := by
    rw [seen_eq]
    exact List.mem_append_right _ List.mem_cons_self
  generalize hbefore : s.job? v = before, hafter : t.job? v = after at works
  cases works with
  | begins locks fresh =>
    generalize outgoing more = seen at fresh member
    cases fresh <;> simp at member
  | waits job polling locks pending seen =>
    rw [seen] at member
    exact (frameEnded_not_mem_putEvents member).elim
  | @ends job b p answer _ _ polling locks ready fresh seen =>
    rw [seen] at member
    obtain ⟨frame', hf, -⟩ := Job.mem_endEvents
      ((List.mem_append.1 member).resolve_left frameEnded_not_mem_putEvents)
    rw [Job.endEvents_of_frame hf] at seen
    -- The end of the call comes last, so that what came before it is what the poll put in.
    have split_eq : outgoing first = putEvents job.line v p.put ∧
        Event.frameEnded i who frame none = .frameEnded job.line v frame' (failureOf answer) := by
      rcases List.append_eq_append_iff.1 (seen_eq.symm.trans seen) with ⟨more₁, e₁, e₂⟩ | ⟨more₁, e₁, e₂⟩
      · cases more₁ with
        | nil => exact ⟨by simpa using e₁.symm, (List.cons.inj e₂).1⟩
        | cons x xs =>
          obtain ⟨rfl, -⟩ := List.cons.inj e₂
          exact (frameEnded_not_mem_putEvents
            (e₁ ▸ List.mem_append_right _ List.mem_cons_self)).elim
      · cases more₁ with
        | nil => exact ⟨by simpa using e₁, (List.cons.inj e₂).1.symm⟩
        | cons x xs => simp at e₂
    obtain ⟨first_eq, ended⟩ := split_eq
    injection ended with line hv hframe fine
    subst hframe
    have line := line.symm
    obtain ⟨link, -, polls⟩ := polling.polls
    rw [line] at polls
    obtain ⟨-, whole⟩ := h.desk.ends hbefore line polls
      ((locks i).trans (if_pos line)) same ready (hafter ▸ fresh)
    rw [hf, ← fine] at whole
    obtain ⟨-, bytes, sent⟩ := whole
    refine ⟨?_, ?_⟩
    · rw [← Event.framesEnded_outgoing, first_eq, Event.framesEnded_putEvents]
    · rw [← Event.wire_outgoing, first_eq, Event.wire_putEvents, if_pos line, bytes, sent]

end Calls

/-! ### Whole frames -/

/-- What holds of a line at any time of a run in which none of its writes failed. `order` is the
order in which the lock of the writers was obtained. -/
structure Intact (s : State) (i : Nat) (order : List (Actor × Frame)) (events : List Event) :
    Prop where
  /-- The frames written, whole and in order, and then a part of that of the holder of the lock. -/
  wire : ∃ part, Event.wire i events =
      (Event.framesWritten i events).flatMap (·.2.bytes) ++ part ∧
    (part = [] ∨ ∃ who frame, s.framesOf (s.writers i).head? = [(who, frame)] ∧
      part <+: frame.bytes ∧ part ≠ frame.bytes)
  encoded : ∀ w ∈ Event.framesWritten i events, w.2.encode = .ok w.2.bytes
  /-- The frames are in the order of the lock, the holder of which is not done with its own. -/
  order : order = Event.framesWritten i events ++ s.framesOf (s.writers i).head?
  /-- Every call writes its frame once, and only the last call of a task may not have returned. -/
  calls : ∀ who, Event.framesBegun i who events =
    ((Event.framesWritten i events).filter (·.1 = who)).map (·.2) ++ s.writing i who
  /-- When a call returns, its frame is the last on the wire, after all those written before. -/
  returned : ∀ first who frame rest, events = first ++ .frameEnded i who frame none :: rest →
    Event.wire i first = (Event.framesWritten i first).flatMap (·.2.bytes) ++ frame.bytes
  /-- A call that returned before another one did, and so before another one began, has its frame
  earlier in the stream. -/
  earlier : ∀ first who frame between who' frame' rest,
    events = first ++ .frameEnded i who frame none ::
      (between ++ .frameEnded i who' frame' none :: rest) →
    ∃ before middle, Event.wire i first = before ++ frame.bytes ∧
      Event.wire i events =
        before ++ frame.bytes ++ (middle ++ frame'.bytes) ++ Event.wire i rest

/-- Where calls find their frames last on the wire, the frames of two calls are in their order. -/
lemma earlier_of_returned {i : Nat} {events : List Event}
    (returned : ∀ first who frame rest, events = first ++ .frameEnded i who frame none :: rest →
      Event.wire i first = (Event.framesWritten i first).flatMap (·.2.bytes) ++ frame.bytes)
    {first between rest : List Event} {who who' : Actor} {frame frame' : Frame}
    (e : events = first ++ .frameEnded i who frame none ::
      (between ++ .frameEnded i who' frame' none :: rest)) :
    ∃ before middle, Event.wire i first = before ++ frame.bytes ∧
      Event.wire i events =
        before ++ frame.bytes ++ (middle ++ frame'.bytes) ++ Event.wire i rest := by
  refine ⟨_, (Event.framesWritten i between).flatMap (·.2.bytes), returned first who frame _ e, ?_⟩
  have e' : events = (first ++ .frameEnded i who frame none :: between) ++
      .frameEnded i who' frame' none :: rest := by
    rw [e, List.append_assoc]
    rfl
  have wire : Event.wire i events =
      Event.wire i (first ++ .frameEnded i who frame none :: between) ++ Event.wire i rest := by
    rw [e', Event.wire_append]
    rfl
  have written : Event.framesWritten i (first ++ .frameEnded i who frame none :: between) =
      Event.framesWritten i first ++ (who, frame) :: Event.framesWritten i between := by
    rw [Event.framesWritten_append]
    simp [Event.framesWritten]
  rw [wire, returned _ who' frame' rest e', written]
  simp

lemma Unfailed.endedBy {i : Nat} {events : List Event} (h : Unfailed i events) (who : Actor) :
    Event.endedBy i who events =
      ((Event.framesWritten i events).filter (·.1 = who)).map (·.2) := by
  unfold Event.endedBy
  rw [h.framesEnded, List.filterMap_map, ← List.filterMap_eq_map, List.filterMap_filter]
  exact List.filterMap_congr fun w _ => by simp

/-- The calls of each task in a run, also when writes fail. -/
lemma calls_of_steps? {settings : Settings} {handler : Handler} {capacity : Nat}
    {actions : List Action} {s : State} {events : List Event} (i : Nat) (who : Actor)
    (run : (State.start settings handler capacity).steps? actions = some (s, events)) :
    Event.framesBegun i who events = Event.endedBy i who events ++ s.writing i who := by
  have orderly := State.orderly_start settings handler capacity
  refine State.run_induction (P := fun _ s events =>
    Event.framesBegun i who events = Event.endedBy i who events ++ s.writing i who) ?_ ?_ run
  · cases who <;> rfl
  · intro actions s before a t after before_run h step
    rw [Event.framesBegun_append, h, Event.endedBy_append, List.append_assoc, List.append_assoc,
      calls_of_step (State.orderly_of_steps? orderly before_run) step]

/-- A run without a failed write: the order of the lock is the order of the frames. -/
lemma lockOrder_of_steps? {settings : Settings} {handler : Handler} {capacity : Nat}
    {actions : List Action} {s : State} {events : List Event} (i : Nat)
    (run : (State.start settings handler capacity).steps? actions = some (s, events))
    (unfailed : Unfailed i events) :
    State.lockOrder i (.start settings handler capacity) actions =
      Event.framesWritten i events ++ s.framesOf (s.writers i).head? := by
  have orderly := State.orderly_start settings handler capacity
  refine State.run_induction (P := fun actions s events => Unfailed i events →
    State.lockOrder i (.start settings handler capacity) actions =
      Event.framesWritten i events ++ s.framesOf (s.writers i).head?) ?_ ?_ run unfailed
  · exact fun _ => rfl
  · intro actions s before a t after before_run ih step unfailed
    obtain ⟨pieces, part, ledger⟩ := ledger_of_steps? i before_run
    rw [State.lockOrder_concat i before_run step, ih unfailed.left, List.append_assoc,
      ledger.desk.granted (State.orderly_of_steps? orderly before_run) step unfailed.right,
      Event.framesWritten_append, List.append_assoc]

/-- A run without a failed write: when a call returns, its frame is the last on the wire. -/
lemma returned_of_steps? {settings : Settings} {handler : Handler} {capacity : Nat}
    {actions : List Action} {s : State} {events : List Event} (i : Nat)
    (run : (State.start settings handler capacity).steps? actions = some (s, events))
    (unfailed : Unfailed i events) :
    ∀ first who frame rest, events = first ++ .frameEnded i who frame none :: rest →
      Event.wire i first = (Event.framesWritten i first).flatMap (·.2.bytes) ++ frame.bytes := by
  have orderly := State.orderly_start settings handler capacity
  rintro first who frame rest rfl
  obtain ⟨_, _, before, _, _, new, _, _, before_run, step, rfl, -⟩ := State.step_of_event run
  obtain ⟨pieces, part, ledger⟩ := ledger_of_steps? i before_run
  obtain ⟨silent, whole⟩ := ledger.returned (State.orderly_of_steps? orderly before_run) step rfl
  have written : Event.framesWritten i new = [] := by
    rw [unfailed.left.right.framesEnded] at silent
    exact List.map_eq_nil_iff.1 silent
  rw [Event.wire_append, ledger.wire, (ledger.unfailed unfailed.left.left).1, List.append_assoc, whole,
    Event.framesWritten_append, written, List.append_nil, List.flatMap_def]

/-- **Frames never mix.** However many tasks write on a connection and however their steps and those
of the peer follow each other, as long as no write on it fails the bytes on its wire are the whole
frames of the calls that have returned, in the order in which they obtained the write lock, and then
a part of the frame of its holder. -/
theorem frames_never_mix {settings : Settings} {handler : Handler} {capacity : Nat}
    {actions : List Action} {s : State} {events : List Event} (i : Nat)
    (run : (State.start settings handler capacity).steps? actions = some (s, events))
    (unfailed : Unfailed i events) :
    Intact s i (State.lockOrder i (.start settings handler capacity) actions) events := by
  obtain ⟨pieces, part, ledger⟩ := ledger_of_steps? i run
  obtain ⟨rfl, encoded⟩ := ledger.unfailed unfailed
  refine ⟨⟨part, ?_, ?_⟩, encoded, lockOrder_of_steps? i run unfailed, fun who => ?_,
    returned_of_steps? i run unfailed,
    fun _ _ _ _ _ _ _ => earlier_of_returned (returned_of_steps? i run unfailed)⟩
  · rw [ledger.wire, List.flatMap_def]
  · by_cases hp : part = []
    · exact .inl hp
    · obtain ⟨w, job, frame, head, under, -, framed, owes⟩ := ledger.desk.owes_of_part hp
      refine .inr ⟨w, frame, ?_, owes.strict⟩
      rw [head, State.framesOf_job under, framed]
      rfl
  · rw [calls_of_steps? i who run, unfailed.endedBy]

/-- Two callers send over one connection: the second has to wait for the lock, as the first puts its
frame in byte by byte, and is then under way itself. -/
def twoCallers : List Action :=
  arrival 0 5 ++
    [Action.call (.send (.datapath ⟨5⟩) .barrierRequest),
      .call (.send (.datapath ⟨5⟩) .barrierReply)] ++
    [Action.go (.caller 0), .go (.caller 0), .go (.caller 1), .go (.caller 1)] ++
    [Action.run (.caller 0) (.proceed 3), .go (.caller 1), .go (.caller 0),
      .run (.caller 1) (.proceed 2)]

theorem intact_twoCallers :
    ∃ s events, (State.start {} (.observer []) 40).steps? twoCallers = some (s, events) ∧
      Unfailed 0 events ∧
      Intact s 0 (State.lockOrder 0 (.start {} (.observer []) 40) twoCallers) events := by
  obtain ⟨⟨s, events⟩, run⟩ := Option.isSome_iff_exists.1
    (show ((State.start {} (.observer []) 40).steps? twoCallers).isSome = true by decide +kernel)
  have unfailed : Unfailed 0 events := by
    have h : ((State.start {} (.observer []) 40).steps? twoCallers).all
        (fun r => decide (Unfailed 0 r.2)) = true := by decide +kernel
    simpa [run] using h
  exact ⟨s, events, run, unfailed, frames_never_mix 0 run unfailed⟩

end FlowBurst.Controller
