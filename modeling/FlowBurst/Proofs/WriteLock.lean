import FlowBurst.Proofs.Polls
import FlowBurst.Proofs.Running
import Mathlib.Data.List.Forall2

/-!
# Whole frames on a shared connection

Any number of tasks write frames on one connection. Whatever the order of their steps, and however
few bytes a write puts in at once, the bytes on the wire are the frames whose calls have ended, whole
or cut short by a failure, followed by what the holder of the write lock has put in of its own.
Main statements: `Desk.step`, `ledger_of_steps?`.
-/

namespace FlowBurst.Controller

open FlowBurst.OpenFlow (Frame)
open FlowBurst.Transport (Call Locks Polled Reply Request)

/-! ### Frames -/

lemma encode_eq_ok {frame : Frame} {bytes : List UInt8} (h : frame.encode = .ok bytes) :
    bytes = frame.bytes ∧ frame.encode = .ok frame.bytes ∧ bytes ≠ [] := by
  unfold Frame.encode at h ⊢
  split at h
  next fits =>
    cases h
    refine ⟨rfl, by rw [if_pos fits], ?_⟩
    simp [Frame.bytes, OpenFlow.Header.bytes]
  · cases h

/-! ### What is read off the events of writing -/

namespace Event

/-- The frames whose writes ended on a line, with the task that wrote each and the failure that
ended it if there was one, in order. -/
def framesEnded (i : Nat) (events : List Event) :
    List (Actor × Frame × Option Transport.Failure) :=
  events.filterMap fun e =>
    match e with
    | .frameEnded j who frame failure => if j = i then some (who, frame, failure) else none
    | _ => none

/-- The frames that a task began to write on a line, in order. -/
def framesBegun (i : Nat) (who : Actor) (events : List Event) : List Frame :=
  events.filterMap fun e =>
    match e with
    | .frameBegun j w frame => if j = i ∧ w = who then some frame else none
    | _ => none

variable (i : Nat) (who : Actor)

@[simp] lemma framesEnded_append (first rest : List Event) :
    framesEnded i (first ++ rest) = framesEnded i first ++ framesEnded i rest := by
  simp [framesEnded]

@[simp] lemma framesBegun_append (first rest : List Event) :
    framesBegun i who (first ++ rest) = framesBegun i who first ++ framesBegun i who rest := by
  simp [framesBegun]

lemma framesEnded_outgoing (events : List Event) :
    framesEnded i (outgoing events) = framesEnded i events :=
  filterMap_filter_of_none (fun e he => by cases e <;> first | rfl | cases he) events

lemma framesWritten_outgoing (events : List Event) :
    framesWritten i (outgoing events) = framesWritten i events :=
  filterMap_filter_of_none (fun e he => by cases e <;> first | rfl | cases he) events

lemma framesBegun_outgoing (events : List Event) :
    framesBegun i who (outgoing events) = framesBegun i who events :=
  filterMap_filter_of_none (fun e he => by cases e <;> first | rfl | cases he) events

lemma wire_outgoing (events : List Event) : wire i (outgoing events) = wire i events := by
  induction events with
  | nil => rfl
  | cons e events ih =>
    have hc : ∀ tail, wire i (e :: tail) = wire i [e] ++ wire i tail := fun tail =>
      wire_append i [e] tail
    have ho : outgoing (e :: events) = outgoing [e] ++ outgoing events := outgoing_append [e] events
    rw [ho, wire_append, ih, hc]
    cases e <;> rfl

@[simp] lemma wire_putEvents (j : Nat) (bytes : List UInt8) :
    wire i (putEvents j who bytes) = if j = i then bytes else [] := by
  unfold putEvents
  split
  next h => simp [h, wire]
  next => simp [wire]

@[simp] lemma framesEnded_putEvents (j : Nat) (bytes : List UInt8) :
    framesEnded i (putEvents j who bytes) = [] := by
  unfold putEvents
  split <;> rfl

@[simp] lemma framesBegun_putEvents (w : Actor) (j : Nat) (bytes : List UInt8) :
    framesBegun i w (putEvents j who bytes) = [] := by
  unfold putEvents
  split <;> rfl

@[simp] lemma wire_endEvents (job : Job) (answer : Except Transport.Failure Reply) :
    wire i (job.endEvents who answer) = [] := by
  unfold Job.endEvents
  split <;> rfl

@[simp] lemma framesBegun_endEvents (w : Actor) (job : Job)
    (answer : Except Transport.Failure Reply) :
    framesBegun i w (job.endEvents who answer) = [] := by
  unfold Job.endEvents
  split <;> rfl

lemma framesEnded_endEvents (job : Job) (answer : Except Transport.Failure Reply) :
    framesEnded i (job.endEvents who answer) =
      if job.line = i then (job.frame.map (who, ·, failureOf answer)).toList else [] := by
  cases hf : job.frame with
  | none => simp [Job.endEvents_of_call hf, framesEnded]
  | some frame => by_cases line : job.line = i <;> simp [Job.endEvents_of_frame hf, framesEnded, line]

end Event

/-! ### The writers of a line -/

/-- What a job owes of the frame that it writes, when some of its bytes are on the wire. -/
def Job.Owes (job : Job) (frame : Frame) (sent : List UInt8) : Prop :=
  ∃ rest total, job.call.request = .write rest total ∧ rest ≠ [] ∧
    frame.encode = .ok frame.bytes ∧ frame.bytes = sent ++ rest

/-- What is on the wire of a frame that is not done is a part of it. -/
lemma Job.Owes.strict {job : Job} {frame : Frame} {sent : List UInt8} (h : job.Owes frame sent) :
    sent <+: frame.bytes ∧ sent ≠ frame.bytes := by
  obtain ⟨rest, total, -, more, -, bytes⟩ := h
  exact ⟨⟨rest, bytes.symm⟩, fun e => more (by simpa [← e] using bytes)⟩

section Fresh

variable {who : Actor} {after : Option Job} {events : List Event} (fresh : Fresh who after events)
include fresh

lemma Fresh.silent (i : Nat) : Event.wire i events = [] ∧ Event.framesEnded i events = [] := by
  cases fresh <;> exact ⟨rfl, rfl⟩

lemma Fresh.owes : ∀ job frame, after = some job → job.frame = some frame → job.Owes frame [] := by
  intro job frame e hf
  cases fresh with
  | idle => cases e
  | frame line cancellable encoded =>
    cases e
    cases hf
    obtain ⟨rfl, encoded, more⟩ := encode_eq_ok encoded
    exact ⟨_, _, rfl, more, encoded, rfl⟩
  | call line unstarted other bounded =>
    cases e
    cases hf

lemma Fresh.others : ∀ job, after = some job → job.frame = none →
    ∀ rest total, job.call.request ≠ .write rest total := by
  intro job e hf
  cases fresh with
  | idle => cases e
  | frame line cancellable encoded =>
    cases e
    cases hf
  | call line unstarted other bounded =>
    cases e
    exact other

end Fresh

/-- A job that was not begun with a write has no frame. -/
lemma Fresh.unframed {who : Actor} {after : Option Job} (fresh : Fresh who after []) :
    ∀ job, after = some job → job.frame = none := by
  intro job e
  cases fresh with
  | idle => cases e
  | call line unstarted other bounded =>
    cases e
    rfl

lemma Job.Owes.encoded {job : Job} {frame : Frame} {sent : List UInt8} (h : job.Owes frame sent) :
    frame.encode = .ok frame.bytes := by
  obtain ⟨rest, total, -, -, encoded, -⟩ := h
  exact encoded

/-- The tasks that have asked to write on a line, the holder of the lock first. -/
def State.writers (s : State) (i : Nat) : List Actor := (s.locks i).writers

/-- What a task has on the wire of its frame, when the holder of the lock has `part` of its own. -/
def State.sent (s : State) (i : Nat) (part : List UInt8) (who : Actor) : List UInt8 :=
  if (s.writers i).head? = some who then part else []

/-- **The writers of a line**: those who have asked are at work on the line, each owes what is left
of its frame, and only the holder of the lock has bytes on the wire. -/
structure Desk (s : State) (i : Nat) (part : List UInt8) : Prop where
  nodup : (s.writers i).Nodup
  queued : ∀ w ∈ s.writers i, ∃ job, s.job? w = some job ∧ job.line = i
  owed : ∀ w job frame, s.job? w = some job → job.line = i → job.frame = some frame →
    job.Owes frame (s.sent i part w)
  others : ∀ w job, s.job? w = some job → job.line = i → job.frame = none →
    ∀ rest total, job.call.request ≠ .write rest total
  holder : part ≠ [] → ∃ w job, (s.writers i).head? = some w ∧ s.job? w = some job ∧
    job.frame ≠ none

namespace Desk

variable {s t : State} {i : Nat} {part : List UInt8} {who : Actor}

lemma start (settings : Settings) (handler : Handler) (capacity i : Nat) :
    Desk (.start settings handler capacity) i [] := by
  have idle : ∀ w, (State.start settings handler capacity).job? w = none := by
    intro w
    cases w <;> rfl
  refine ⟨List.nodup_nil, fun w hw => absurd hw List.not_mem_nil, ?_, ?_, fun h => (h rfl).elim⟩
  · intro w job frame h
    rw [idle] at h
    cases h
  · intro w job h
    rw [idle] at h
    cases h

/-- Of a part of a frame on the wire, the holder of the lock owes the rest. -/
lemma owes_of_part (h : Desk s i part) (hp : part ≠ []) : ∃ w job frame,
    (s.writers i).head? = some w ∧ s.job? w = some job ∧ job.line = i ∧ job.frame = some frame ∧
      job.Owes frame part := by
  obtain ⟨w, job, head, under, framed⟩ := h.holder hp
  obtain ⟨frame, hf⟩ := Option.ne_none_iff_exists'.1 framed
  obtain ⟨job', under', line⟩ := h.queued w (List.mem_of_head? head)
  obtain rfl : job = job' := by simpa [under] using under'
  have owes := h.owed w job frame under line hf
  rw [State.sent, if_pos head] at owes
  exact ⟨w, job, frame, head, under, line, hf, owes⟩

/-- A step of a task that is not at work on the line, and is not in its queue. -/
lemma away (h : Desk s i part) (same : ∀ w, w ≠ who → t.job? w = s.job? w)
    (locks : t.locks i = s.locks i) (out : ∀ job, s.job? who = some job → job.line ≠ i)
    (owed : ∀ job frame, t.job? who = some job → job.line = i → job.frame = some frame →
      job.Owes frame [])
    (others : ∀ job, t.job? who = some job → job.line = i → job.frame = none →
      ∀ rest total, job.call.request ≠ .write rest total) : Desk t i part := by
  have writers : t.writers i = s.writers i := congrArg Locks.writers locks
  have absent : who ∉ s.writers i := by
    intro hw
    obtain ⟨job, hj, hl⟩ := h.queued who hw
    exact out job hj hl
  have ne {w : Actor} (hw : w ∈ s.writers i) : w ≠ who := by
    rintro rfl
    exact absent hw
  refine ⟨writers ▸ h.nodup, fun w hw => ?_, fun w job frame hj hl hf => ?_, fun w job hj => ?_,
    fun hp => ?_⟩
  · rw [writers] at hw
    rw [same w (ne hw)]
    exact h.queued w hw
  · unfold State.sent
    rw [writers]
    by_cases hw : w = who
    · subst hw
      rw [if_neg fun e => absent (List.mem_of_head? e)]
      exact owed job frame hj hl hf
    · rw [same w hw] at hj
      exact h.owed w job frame hj hl hf
  · by_cases hw : w = who
    · subst hw
      exact others job hj
    · rw [same w hw] at hj
      exact h.others w job hj
  · obtain ⟨w, job, head, hj, hf⟩ := h.holder hp
    refine ⟨w, job, writers ▸ head, ?_, hf⟩
    rw [same w (ne (List.mem_of_head? head))]
    exact hj

/-- The queue after a task asked for the lock that its request needs. -/
lemma writers_acquire (locks : Locks Actor) (who : Actor) (request : Request) :
    (locks.acquire who request).writers = locks.writers ∨
      (locks.acquire who request).writers = Locks.ask locks.writers who := by
  cases request <;> simp [Locks.acquire]

/-- A call at work on the line has something to do. -/
lemma request_ne (h : Desk s i part) {job : Job} (under : s.job? who = some job)
    (line : job.line = i) : job.call.request ≠ .write [] 0 := by
  intro e
  cases hf : job.frame with
  | none => exact h.others who job under line hf [] 0 e
  | some frame =>
    obtain ⟨rest, total, request, more, -⟩ := h.owed who job frame under line hf
    rw [e] at request
    cases request
    exact more rfl

/-- Asking for the lock brings nobody's bytes on the wire. -/
lemma sent_of_ask (h : Desk s i part) {queue : List Actor}
    (asked : queue = s.writers i ∨ queue = Locks.ask (s.writers i) who) (w : Actor) :
    (if queue.head? = some w then part else []) = s.sent i part w := by
  unfold State.sent
  rcases asked with rfl | rfl
  · rfl
  · rw [Locks.head?_ask]
    by_cases empty : s.writers i = []
    · have : part = [] := by
        by_contra hp
        obtain ⟨_, _, head, -⟩ := h.holder hp
        rw [empty] at head
        cases head
      simp [empty, this]
    · rw [if_neg empty]

/-- Whoever asked and holds the lock has put in what the holder has put in. -/
lemma sent_of_holds (h : Desk s i part)
    (holds : (Locks.ask (s.writers i) who).head? = some who) : s.sent i part who = part := by
  have := h.sent_of_ask (.inr rfl : _ ∨ _ = Locks.ask (s.writers i) who) who
  rw [← this, if_pos holds]

/-- What everyone has on the wire, after a task asked for the lock and, if it holds that, put some
bytes in. -/
lemma sent_of_put (h : Desk s i part) {put : List UInt8}
    (asked : t.writers i = s.writers i ∨ t.writers i = Locks.ask (s.writers i) who)
    (holds : put ≠ [] → (t.writers i).head? = some who) (w : Actor) :
    t.sent i (part ++ put) w =
      if w = who then s.sent i part who ++ put else s.sent i part w := by
  have asking := h.sent_of_ask asked
  by_cases hp : put = []
  · subst hp
    rw [List.append_nil, List.append_nil]
    split
    next hw => exact hw ▸ asking w
    next => exact asking w
  · have head := holds hp
    by_cases hw : w = who
    · rw [if_pos hw, ← asking who, if_pos head]
      unfold State.sent
      rw [if_pos (hw ▸ head)]
    · have other : (t.writers i).head? ≠ some w := by
        rw [head]
        exact fun e => hw (Option.some.inj e).symm
      rw [if_neg hw, ← asking w, if_neg other]
      unfold State.sent
      rw [if_neg other]

/-- A task asked for the lock and, if it holds that, put some bytes of its frame in. -/
lemma carried (h : Desk s i part) {job job' : Job} {put : List UInt8}
    (under : s.job? who = some job) (after : t.job? who = some job') (line : job'.line = i)
    (frame : job'.frame = job.frame) (same : ∀ w, w ≠ who → t.job? w = s.job? w)
    (asked : t.writers i = s.writers i ∨ t.writers i = Locks.ask (s.writers i) who)
    (holds : put ≠ [] → (t.writers i).head? = some who ∧ job.frame ≠ none)
    (owed : ∀ frame, job.frame = some frame → job'.Owes frame (s.sent i part who ++ put))
    (others : job.frame = none → ∀ rest total, job'.call.request ≠ .write rest total) :
    Desk t i (part ++ put) := by
  refine ⟨?_, fun w hw => ?_, fun w job₁ frame₁ hj hl hf => ?_, fun w job₁ hj hl hf => ?_,
    fun hp => ?_⟩
  · rcases asked with e | e
    · rw [e]
      exact h.nodup
    · rw [e]
      exact Locks.nodup_ask _ h.nodup
  · by_cases e : w = who
    · exact ⟨job', by rw [e, after], line⟩
    · have member : w ∈ s.writers i := by
        rcases asked with q | q
        · exact q ▸ hw
        · rw [q] at hw
          exact (Locks.mem_ask.1 hw).resolve_right e
      rw [same w e]
      exact h.queued w member
  · rw [h.sent_of_put asked (fun e => (holds e).1)]
    split
    next e =>
      rw [e, after] at hj
      cases hj
      exact owed frame₁ (frame ▸ hf)
    next e =>
      rw [same w e] at hj
      exact h.owed w job₁ frame₁ hj hl hf
  · by_cases e : w = who
    · rw [e, after] at hj
      cases hj
      exact others (frame ▸ hf)
    · rw [same w e] at hj
      exact h.others w job₁ hj hl hf
  · by_cases hput : put = []
    · rw [hput, List.append_nil] at hp
      obtain ⟨w, job₁, head, hj, hf⟩ := h.holder hp
      have still : (t.writers i).head? = some w := by
        by_contra hn
        have := h.sent_of_ask asked w
        rw [if_neg hn, State.sent, if_pos head] at this
        exact hp this.symm
      by_cases e : w = who
      · subst e
        rw [under] at hj
        cases hj
        exact ⟨w, job', still, after, frame ▸ hf⟩
      · exact ⟨w, job₁, still, by rw [same w e]; exact hj, hf⟩
    · obtain ⟨head, hf⟩ := holds hput
      exact ⟨who, job', head, after, frame ▸ hf⟩

/-- A task left the queue, and what it had on the wire is no longer part of a frame under way. -/
lemma dropped (h : Desk s i part) {job : Job} (under : s.job? who = some job)
    (same : ∀ w, w ≠ who → t.job? w = s.job? w)
    (left : t.writers i = Locks.leave (s.writers i) who) (fresh : Fresh who (t.job? who) []) :
    Desk t i (if (s.writers i).head? = some who then [] else part) := by
  have other {w : Actor} (hw : w ∈ t.writers i) : w ≠ who ∧ w ∈ s.writers i := by
    rw [left] at hw
    exact (Locks.mem_leave.1 hw).symm
  have sent {w : Actor} (hw : w ≠ who) :
      t.sent i (if (s.writers i).head? = some who then [] else part) w = s.sent i part w := by
    unfold State.sent
    by_cases head : (s.writers i).head? = some who
    · have : (s.writers i).head? ≠ some w := by
        rw [head]
        exact fun e => hw (Option.some.inj e).symm
      rw [if_pos head, if_neg this]
      split <;> rfl
    · rw [if_neg head, left, Locks.head?_leave head]
  refine ⟨left ▸ Locks.nodup_leave _ h.nodup, fun w hw => ?_, fun w job₁ frame hj hl hf => ?_,
    fun w job₁ hj hl hf => ?_, fun hp => ?_⟩
  · rw [same w (other hw).1]
    exact h.queued w (other hw).2
  · by_cases e : w = who
    · rw [e] at hj
      rw [fresh.unframed job₁ hj] at hf
      cases hf
    · rw [sent e]
      rw [same w e] at hj
      exact h.owed w job₁ frame hj hl hf
  · by_cases e : w = who
    · rw [e] at hj
      exact fresh.others job₁ hj (fresh.unframed job₁ hj)
    · rw [same w e] at hj
      exact h.others w job₁ hj hl hf
  · split at hp
    · exact (hp rfl).elim
    next head =>
      obtain ⟨w, job₁, head', hj, hf⟩ := h.holder hp
      have e : w ≠ who := by
        rintro rfl
        exact head head'
      exact ⟨w, job₁, by rw [left, Locks.head?_leave head]; exact head', by rw [same w e]; exact hj, hf⟩

section Polled

variable {job : Job} {m : Transport.Moment} {link : Transport.Link} {p : Polled Actor}
  (h : Desk s i part) (under : s.job? who = some job) (line : job.line = i)
  (polls : job.call.Polls m .server who link (s.locks i) p)
  (locks : t.locks i = p.locks) (same : ∀ w, w ≠ who → t.job? w = s.job? w)
include h under line polls locks same

/-- A poll after which the call goes on, with what it put in. -/
theorem waits {call : Call} (pending : p.progress = .pending call)
    (after : t.job? who = some { job with call }) : Desk t i (part ++ p.put) := by
  have writers : t.writers i = p.locks.writers := congrArg Locks.writers locks
  cases polls with
  | waits going =>
    cases pending
    exact h.carried under after line rfl same (writers ▸ writers_acquire _ _ _)
      (fun e => (e rfl).elim) (fun frame hf => by
        rw [List.append_nil]
        exact h.owed who job frame under line hf)
      fun hf => h.others who job under line hf
  | @advances rest total limit n link' going request holds wrote more =>
    cases pending
    have framed : job.frame ≠ none := fun hf => h.others who job under line hf rest total request
    have asked : t.writers i = Locks.ask (s.writers i) who := by
      rw [writers, request]
      rfl
    refine h.carried under after line rfl same (.inr asked)
      (fun _ => ⟨by rw [asked]; exact holds, framed⟩) (fun frame hf => ?_)
      fun hf => (framed hf).elim
    obtain ⟨rest', total', request', -, encoded, bytes⟩ := h.owed who job frame under line hf
    rw [request] at request'
    cases request'
    exact ⟨rest.drop n, total, rfl, more, encoded, by
      rw [List.append_assoc, List.take_append_drop]
      exact bytes⟩
  | empty | stopped | completes | ends => cases pending

omit same in
/-- A call that has ended is out of the queue. -/
lemma left {answer : Except Transport.Failure Reply} (ready : p.progress = .ready answer) :
    t.writers i = Locks.leave (s.writers i) who := by
  have e := polls.writers_of_ready ready (h.request_ne under line)
  refine (congrArg Locks.writers locks).trans (e.trans ?_)
  split
  · rcases writers_acquire (s.locks i) who job.call.request with e | e
    · rw [e]
      rfl
    · rw [e]
      exact Locks.leave_ask _ _
  · rfl

/-- A poll that ends a call: the frame is on the wire, or a failure cut it short. -/
theorem ends {answer : Except Transport.Failure Reply} (ready : p.progress = .ready answer)
    (fresh : Fresh who (t.job? who) []) :
    Desk t i (if (s.writers i).head? = some who then [] else part) ∧
      match job.frame, failureOf answer with
      | none, _ => p.put = []
      | some frame, none => frame.encode = .ok frame.bytes ∧ frame.bytes = s.sent i part who ++ p.put ∧
          s.sent i part who = part
      | some frame, some _ => p.put = [] ∧ s.sent i part who <+: frame.bytes ∧
          s.sent i part who ≠ frame.bytes := by
  have left := h.left under line polls locks ready
  have failed (put : p.put = []) (fails : job.frame ≠ none → ∃ f, answer = .error f) :
      match job.frame, failureOf answer with
      | none, _ => p.put = []
      | some frame, none => frame.encode = .ok frame.bytes ∧ frame.bytes = s.sent i part who ++ p.put ∧
          s.sent i part who = part
      | some frame, some _ => p.put = [] ∧ s.sent i part who <+: frame.bytes ∧
          s.sent i part who ≠ frame.bytes := by
    cases hf : job.frame with
    | none => exact put
    | some frame =>
      obtain ⟨f, rfl⟩ := fails (by simp [hf])
      exact ⟨put, (h.owed who job frame under line hf).strict⟩
  cases polls with
  | empty request => exact (h.request_ne under line request).elim
  | stopped stop =>
    cases ready
    exact ⟨h.dropped under same left fresh, failed rfl fun _ => ⟨_, rfl⟩⟩
  | @completes rest total limit n link' going request holds wrote all =>
    cases ready
    refine ⟨h.dropped under same left fresh, ?_⟩
    cases hf : job.frame with
    | none => exact (h.others who job under line hf rest total request).elim
    | some frame =>
      obtain ⟨rest', total', request', -, encoded, bytes⟩ := h.owed who job frame under line hf
      rw [request] at request'
      cases request'
      exact ⟨encoded, bytes, h.sent_of_holds holds⟩
  | ends going fails =>
    cases ready
    refine ⟨h.dropped under same left fresh, failed rfl fun framed => ?_⟩
    obtain ⟨frame, hf⟩ := Option.ne_none_iff_exists'.1 framed
    obtain ⟨rest, total, request, -⟩ := h.owed who job frame under line hf
    exact fails rest total request
  | waits | advances => cases ready

end Polled

end Desk

/-! ### A step on a line -/

namespace Desk

variable {s t : State} {i : Nat} {part : List UInt8} {who : Actor} {more : List Event}

/-- What a step does on a line: the holder of the lock had `part` of its frame on the wire before the
step, and the holder has another part of its own after it. -/
inductive Moves (s : State) (i : Nat) (part : List UInt8) (more : List Event) : List UInt8 → Prop
  | along (ended : Event.framesEnded i more = []) : Moves s i part more (part ++ Event.wire i more)
  | written {who : Actor} {frame : Frame} (ended : Event.framesEnded i more = [(who, frame, none)])
      (encoded : frame.encode = .ok frame.bytes) (bytes : frame.bytes = part ++ Event.wire i more)
      (last : Event.wire i more ≠ []) : Moves s i part more []
  | cut {who : Actor} {job : Job} {frame : Frame} {f : Transport.Failure} {rest : List UInt8}
      (seen : outgoing more = [.frameEnded i who frame (some f)]) (under : s.job? who = some job)
      (line : job.line = i) (framed : job.frame = some frame)
      (left : part = s.sent i part who ++ rest) : Moves s i part more rest

/-- What the holder of the lock leaves behind when it goes, or nobody. -/
lemma eq_sent_append (part : List UInt8) (who : Actor) :
    part = s.sent i part who ++ (if (s.writers i).head? = some who then [] else part) := by
  unfold State.sent
  split
  · rw [List.append_nil]
  · rfl

/-- A call on the line goes on. -/
lemma moves_waits (who : Actor) {put : List UInt8} (seen : outgoing more = putEvents i who put) :
    Moves s i part more (part ++ put) := by
  have wire : Event.wire i more = put := by
    rw [← Event.wire_outgoing, seen, Event.wire_putEvents, if_pos rfl]
  have ended : Event.framesEnded i more = [] := by
    rw [← Event.framesEnded_outgoing, seen, Event.framesEnded_putEvents]
  exact wire ▸ .along ended

/-- A call on the line ends. -/
lemma moves_ends (h : Desk s i part) {job : Job} {b : Connection} {p : Polled Actor}
    {answer : Except Transport.Failure Reply} (under : s.job? who = some job) (line : job.line = i)
    (polling : Polling s job.line who job.call b p) (locks : t.locks i = p.locks)
    (same : ∀ w, w ≠ who → t.job? w = s.job? w) (ready : p.progress = .ready answer)
    (fresh : Fresh who (t.job? who) [])
    (seen : outgoing more = putEvents job.line who p.put ++ job.endEvents who answer) :
    ∃ part', Desk t i part' ∧ Moves s i part more part' := by
  obtain ⟨link, -, polls⟩ := polling.polls
  rw [line] at polls
  obtain ⟨desk, ended⟩ := h.ends under line polls locks same ready fresh
  have left := eq_sent_append (s := s) (i := i) part who
  cases hf : job.frame with
  | none =>
    rw [hf] at ended
    rw [Job.endEvents_of_call hf, List.append_nil, line] at seen
    have kept : (if (s.writers i).head? = some who then [] else part) = part := by
      split
      next head =>
        by_contra hp
        obtain ⟨w, job', head', hj, framed⟩ := h.holder (Ne.symm hp)
        rw [head] at head'
        cases head'
        rw [under] at hj
        cases hj
        exact framed hf
      · rfl
    rw [kept] at desk
    exact ⟨part ++ p.put, by rwa [ended, List.append_nil], moves_waits who seen⟩
  | some frame =>
    rw [hf] at ended
    rw [Job.endEvents_of_frame hf] at seen
    cases hfail : failureOf answer with
    | none =>
      rw [hfail] at ended seen
      obtain ⟨encoded, bytes, whole⟩ := ended
      obtain ⟨rest, total, -, more_left, -, owed⟩ := h.owed who job frame under line hf
      have put : p.put = rest := List.append_cancel_left (bytes.symm.trans owed)
      have wire : Event.wire i more = p.put := by
        rw [← Event.wire_outgoing, seen, Event.wire_append, Event.wire_putEvents, if_pos line]
        exact List.append_nil _
      have none_left : (if (s.writers i).head? = some who then [] else part) = [] := by
        rw [whole] at left
        exact List.self_eq_append_right.1 left
      rw [none_left] at desk
      have one : Event.framesEnded i more = [(who, frame, none)] := by
        rw [← Event.framesEnded_outgoing, seen, Event.framesEnded_append,
          Event.framesEnded_putEvents]
        simp [Event.framesEnded, line]
      refine ⟨[], desk, .written one encoded ?_ ?_⟩
      · rw [wire, bytes, whole]
      · rw [wire, put]
        exact more_left
    | some f =>
      rw [hfail] at ended seen
      obtain ⟨put, -, -⟩ := ended
      refine ⟨_, desk, .cut (f := f) ?_ under line hf left⟩
      rw [seen, put, line]
      rfl

/-- **Every step keeps the writers of a line**, and moves their frames on. -/
theorem step (h : Desk s i part) (orderly : s.Orderly) {a : Action}
    (step : s.step? a = some (t, more)) : ∃ part', Desk t i part' ∧ Moves s i part more part' := by
  obtain ⟨who, -, same, works⟩ := State.step?_works orderly step
  have aside (desk : Desk t i part) (wire : Event.wire i (outgoing more) = [])
      (ended : Event.framesEnded i (outgoing more) = []) :
      ∃ part', Desk t i part' ∧ Moves s i part more part' := by
    rw [Event.wire_outgoing] at wire
    rw [Event.framesEnded_outgoing] at ended
    refine ⟨part ++ Event.wire i more, ?_, .along ended⟩
    rwa [wire, List.append_nil]
  generalize hbefore : s.job? who = before, hafter : t.job? who = after at works
  cases works with
  | begins locks fresh =>
    have desk := h.away same (locks i) (by simp [hbefore])
      (fun job frame hj _ hf => fresh.owes job frame (hafter ▸ hj) hf)
      (fun job hj _ hf => fresh.others job (hafter ▸ hj) hf)
    exact aside desk (fresh.silent i).1 (fresh.silent i).2
  | @waits job call b p _ polling locks pending seen =>
    by_cases line : job.line = i
    · obtain ⟨link, -, polls⟩ := polling.polls
      rw [line] at polls
      exact ⟨_, h.waits hbefore line polls (by rw [locks, if_pos line]) same pending hafter,
        moves_waits who (line ▸ seen)⟩
    · have other : ∀ job', t.job? who = some job' → job'.line ≠ i := by
        intro job' hj
        rw [hafter] at hj
        cases hj
        exact line
      refine aside (h.away same (by rw [locks, if_neg line]) ?_
        (fun job' _ hj hl => (other job' hj hl).elim) fun job' hj hl => (other job' hj hl).elim) ?_ ?_
      · intro job' hj
        rw [hbefore] at hj
        cases hj
        exact line
      · rw [seen, Event.wire_putEvents, if_neg line]
      · rw [seen, Event.framesEnded_putEvents]
  | @ends job b p answer _ _ polling locks ready fresh seen =>
    by_cases line : job.line = i
    · exact h.moves_ends hbefore line polling (by rw [locks, if_pos line]) same ready
        (hafter ▸ fresh) seen
    · refine aside (h.away same (by rw [locks, if_neg line]) ?_
        (fun job' frame hj _ hf => fresh.owes job' frame (hafter ▸ hj) hf)
        fun job' hj _ hf => fresh.others job' (hafter ▸ hj) hf) ?_ ?_
      · intro job' hj
        rw [hbefore] at hj
        cases hj
        exact line
      · rw [seen, Event.wire_append, Event.wire_putEvents, if_neg line, Event.wire_endEvents]
        rfl
      · rw [seen, Event.framesEnded_append, Event.framesEnded_putEvents,
          Event.framesEnded_endEvents, if_neg line]
        rfl

end Desk

/-! ### The ledger of a line -/

/-- What a call that has ended left on the wire: its frame, or a part of that after a failure. -/
def Leaves : Actor × Frame × Option Transport.Failure → List UInt8 → Prop
  | (_, frame, none), piece => frame.encode = .ok frame.bytes ∧ piece = frame.bytes
  | (_, frame, some _), piece => piece <+: frame.bytes ∧ piece ≠ frame.bytes

/-- **The ledger of a line**: the bytes on its wire are what the calls that have ended left there,
one after another, and then what the holder of the lock has put in. -/
structure Ledger (s : State) (i : Nat) (events : List Event) (pieces : List (List UInt8))
    (part : List UInt8) : Prop where
  desk : Desk s i part
  wire : Event.wire i events = pieces.flatten ++ part
  pieces : List.Forall₂ Leaves (Event.framesEnded i events) pieces

/-- **Every step keeps the ledger.** -/
theorem Ledger.step {s t : State} {i : Nat} {events more : List Event} {pieces : List (List UInt8)}
    {part : List UInt8} (h : Ledger s i events pieces part) (orderly : s.Orderly) {a : Action}
    (step : s.step? a = some (t, more)) :
    ∃ left part', Ledger t i (events ++ more) (pieces ++ left) part' := by
  obtain ⟨part', desk, moves⟩ := h.desk.step orderly step
  have wire := Event.wire_append i events more
  rw [h.wire] at wire
  have ended := Event.framesEnded_append i events more
  cases moves with
  | along none_ended =>
    refine ⟨[], _, desk, by rw [wire, List.append_nil, List.append_assoc], ?_⟩
    rw [ended, none_ended, List.append_nil, List.append_nil]
    exact h.pieces
  | @written who frame one encoded bytes last =>
    refine ⟨[frame.bytes], _, desk, by rw [wire, bytes]; simp, ?_⟩
    rw [ended, one]
    exact List.rel_append h.pieces (.cons ⟨encoded, rfl⟩ .nil)
  | @cut who job frame f rest seen under line framed left =>
    have silent : Event.wire i more = [] := by
      rw [← Event.wire_outgoing, seen]
      rfl
    have one : Event.framesEnded i more = [(who, frame, some f)] := by
      rw [← Event.framesEnded_outgoing, seen]
      simp [Event.framesEnded]
    refine ⟨[s.sent i part who], _, desk, ?_, ?_⟩
    · rw [wire, silent, List.append_nil, List.flatten_append, List.flatten_singleton,
        List.append_assoc, ← left]
    · rw [ended, one]
      exact List.rel_append h.pieces (.cons (h.desk.owed who job frame under line framed).strict .nil)

/-- **Every run has a ledger** of each of its lines, also when writes fail. -/
theorem ledger_of_steps? {settings : Settings} {handler : Handler} {capacity : Nat}
    {actions : List Action} {s : State} {events : List Event} (i : Nat)
    (run : (State.start settings handler capacity).steps? actions = some (s, events)) :
    ∃ pieces part, Ledger s i events pieces part := by
  refine State.run_induction (P := fun _ s events => ∃ pieces part, Ledger s i events pieces part)
    ⟨[], [], .start settings handler capacity i, rfl, .nil⟩ ?_ run
  rintro actions s before a t after before_run ⟨pieces, part, h⟩ step
  obtain ⟨left, part', h'⟩ :=
    h.step (State.orderly_of_steps? (State.orderly_start settings handler capacity) before_run) step
  exact ⟨_, _, h'⟩

end FlowBurst.Controller
