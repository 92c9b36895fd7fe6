import FlowBurst.Proofs.FrameOrder
import FlowBurst.Proofs.Following
import FlowBurst.Proofs.Framing

/-!
# Bytes behind a half frame

A write that fails may leave a part of its frame on the wire, and then a peer takes the bytes that
follow for the rest of the frame. What was put in of the frames is read off the events; nothing
follows a half frame exactly if its line is muted, and where nothing follows one the peer reads the
frames that were written. Main statement: `half_frame_last_iff`.
-/

namespace FlowBurst.Controller

open FlowBurst.OpenFlow (Frame)
open FlowBurst.Transport (Call Polled)

/-! ### What is on the wire of a frame -/

/-- The bytes that a task has put on a line of the frame that it began last, after an event. -/
def Event.tally (i : Nat) (who : Actor) (sofar : List UInt8) : Event → List UInt8
  | put j w bytes => if j = i ∧ w = who then sofar ++ bytes else sofar
  | frameBegun j w _ => if j = i ∧ w = who then [] else sofar
  | _ => sofar

/-- The bytes that a task has put on a line of the frame that it began last. -/
def Event.soFar (i : Nat) (who : Actor) (events : List Event) : List UInt8 :=
  events.foldl (tally i who) []

namespace Event

variable (i : Nat) (who : Actor)

lemma soFar_append (first rest : List Event) :
    soFar i who (first ++ rest) = rest.foldl (tally i who) (soFar i who first) :=
  List.foldl_append

/-- Only the events of writing count. -/
lemma foldl_tally_outgoing (events : List Event) (sofar : List UInt8) :
    (outgoing events).foldl (tally i who) sofar = events.foldl (tally i who) sofar := by
  induction events generalizing sofar with
  | nil => rfl
  | cons e events ih => cases e <;> exact ih _

lemma soFar_append_outgoing (first rest : List Event) :
    soFar i who (first ++ rest) = (outgoing rest).foldl (tally i who) (soFar i who first) := by
  rw [soFar_append, foldl_tally_outgoing]

@[simp] lemma foldl_tally_putEvents (j : Nat) (w : Actor) (bytes sofar : List UInt8) :
    (putEvents j w bytes).foldl (tally i who) sofar =
      if j = i ∧ w = who then sofar ++ bytes else sofar := by
  unfold putEvents
  split
  next empty => simp [empty]
  next => rfl

/-- What others do does not count. -/
lemma foldl_tally_of_others {events : List Event} (others : ∀ e ∈ events, e.writer? ≠ some who)
    (sofar : List UInt8) : events.foldl (tally i who) sofar = sofar := by
  induction events generalizing sofar with
  | nil => rfl
  | cons e events ih =>
    have own := others e List.mem_cons_self
    have same : tally i who sofar e = sofar := by
      cases e with
      | put j w bytes => exact if_neg fun h => own (by rw [← h.2]; rfl)
      | frameBegun j w frame => exact if_neg fun h => own (by rw [← h.2]; rfl)
      | _ => rfl
    rw [List.foldl_cons, same]
    exact ih (fun e he => others e (List.mem_cons_of_mem _ he)) sofar

lemma tally_nil_of_silent {e : Event} (silent : wire i [e] = []) : tally i who [] e = [] := by
  cases e with
  | put j w bytes =>
    show (if j = i ∧ w = who then [] ++ bytes else []) = []
    by_cases own : j = i
    · have : bytes = [] := by simpa [wire, own] using silent
      simp [this]
    · simp [own]
  | frameBegun j w frame => exact ite_self _
  | _ => rfl

/-- What is on the wire of a frame is on the wire. -/
lemma wire_ne_nil_of_soFar {events : List Event} (h : soFar i who events ≠ []) :
    wire i events ≠ [] := by
  intro silent
  refine h ?_
  clear h
  unfold soFar
  induction events with
  | nil => rfl
  | cons e events ih =>
    have split : wire i (e :: events) = wire i [e] ++ wire i events := wire_append i [e] events
    rw [split, List.append_eq_nil_iff] at silent
    rw [List.foldl_cons, tally_nil_of_silent i who silent.1]
    exact ih silent.2

end Event

/-- The frames that are being written on a line are what is on the wire of them and what is left. -/
def Tallied (s : State) (i : Nat) (events : List Event) : Prop :=
  ∀ w job frame rest total, s.job? w = some job → job.line = i → job.frame = some frame →
    job.call.request = .write rest total → frame.bytes = Event.soFar i w events ++ rest

section Tallied

variable {s t : State} {i : Nat} {events more : List Event}

/-- **Every step keeps the tally.** -/
theorem Tallied.step (h : Tallied s i events) (orderly : s.Orderly) {a : Action}
    (step : s.step? a = some (t, more)) : Tallied t i (events ++ more) := by
  obtain ⟨who, -, same, works⟩ := State.step?_works orderly step
  intro w job frame rest total under line framed request
  rw [Event.soFar_append_outgoing]
  by_cases hw : w = who
  · subst hw
    generalize hbefore : s.job? w = before, hafter : t.job? w = after at works
    rw [under] at hafter
    subst hafter
    cases works with
    | begins locks fresh =>
      generalize outgoing more = seen at fresh
      cases fresh with
      | frame line' cancellable encoded =>
        cases framed
        cases request
        obtain ⟨rfl, -⟩ := encode_eq_ok encoded
        subst line
        simp [Event.tally]
      | call => cases framed
    | @waits job call b p _ polling locks pending seen =>
      obtain ⟨link, -, polls⟩ := polling.polls
      rw [seen, Event.foldl_tally_putEvents, if_pos ⟨line, rfl⟩]
      rcases (polls.request_of_pending pending).2 with ⟨e, put⟩ | ⟨rest', total', n, e, e', put⟩
      · rw [put, List.append_nil]
        exact h w _ frame rest total hbefore line framed (e ▸ request)
      · rw [e'] at request
        cases request
        rw [put, List.append_assoc, List.take_append_drop]
        exact h w _ frame rest' total hbefore line framed e
    | ends job' polling locks ready fresh seen =>
      rw [fresh.unframed job rfl] at framed
      cases framed
  · rw [Event.foldl_tally_of_others i w fun e he e' => hw (works.writer he e')]
    exact h w job frame rest total (same w hw ▸ under) line framed request

/-- **Every run keeps the tally.** -/
theorem tallied_of_steps? {settings : Settings} {handler : Handler} {capacity : Nat}
    {actions : List Action} (i : Nat)
    (run : (State.start settings handler capacity).steps? actions = some (s, events)) :
    Tallied s i events := by
  refine State.run_induction (P := fun _ s events => Tallied s i events) ?_ ?_ run
  · intro w job frame rest total under
    cases w <;> cases under
  · intro actions s before a t after before_run ih step
    exact ih.step (orderly_of_run before_run) step

/-- The holder of the lock has on the wire what is tallied of its frame. -/
lemma Desk.sent_eq_soFar {part : List UInt8} (desk : Desk s i part) (tallied : Tallied s i events)
    {who : Actor} {job : Job} {frame : Frame} (under : s.job? who = some job) (line : job.line = i)
    (framed : job.frame = some frame) : s.sent i part who = Event.soFar i who events := by
  obtain ⟨rest, total, request, -, -, bytes⟩ := desk.owed who job frame under line framed
  have := tallied who job frame rest total under line framed request
  exact List.append_cancel_right (bytes.symm.trans this)

end Tallied

/-! ### Half frames -/

/-- A write of a frame on a line failed after some of its bytes were put in, and not all: what the
world saw before the failure, and after it. -/
structure HalfFrame (i : Nat) (who : Actor) (frame : Frame) (f : Transport.Failure)
    (before after events : List Event) : Prop where
  ended : events = before ++ .frameEnded i who frame (some f) :: after
  begun : Event.soFar i who before ≠ []
  part : Event.soFar i who before <+: frame.bytes
  strict : Event.soFar i who before ≠ frame.bytes

/-- Nothing was put on a line behind a half frame. -/
def NothingBehind (i : Nat) (events : List Event) : Prop :=
  ∀ who frame f before after, HalfFrame i who frame f before after events →
    Event.wire i after = []

section HalfFrames

variable {s t : State} {i : Nat} {events more : List Event} {settings : Settings} {handler : Handler}
  {capacity : Nat} {actions : List Action}

lemma HalfFrame.extend {who : Actor} {frame : Frame} {f : Transport.Failure}
    {before after : List Event} (h : HalfFrame i who frame f before after events)
    (more : List Event) : HalfFrame i who frame f before (after ++ more) (events ++ more) :=
  ⟨by rw [h.ended, List.append_assoc]; rfl, h.begun, h.part, h.strict⟩

lemma NothingBehind.left (h : NothingBehind i (events ++ more)) : NothingBehind i events := by
  intro who frame f before after half
  have := h who frame f before _ (half.extend more)
  rw [Event.wire_append] at this
  exact (List.append_eq_nil_iff.1 this).1

/-- The frames written are those that have ended without a failure. -/
lemma framesWritten_eq (i : Nat) (events : List Event) :
    Event.framesWritten i events = (Event.framesEnded i events).filterMap fun w =>
      match w.2.2 with
      | none => some (w.1, w.2.1)
      | some _ => none := by
  unfold Event.framesWritten Event.framesEnded
  rw [List.filterMap_filterMap]
  refine List.filterMap_congr fun e _ => ?_
  cases e with
  | frameEnded j who frame failure =>
    by_cases hj : j = i
    · cases failure <;> simp [hj]
    · cases failure <;> simp [hj]
  | _ => rfl

/-- What is on the wire of a line behind the frames that were written: what the holder of the lock has
put in, or what was left by a write that failed. -/
inductive Trail (s : State) (i : Nat) (events : List Event) : List UInt8 → Prop
  | going {part : List UInt8} (desk : Desk s i part) : Trail s i events part
  | cut {who : Actor} {frame : Frame} {f : Transport.Failure} {before after : List Event}
      (half : HalfFrame i who frame f before after events)
      (encoded : frame.encode = .ok frame.bytes) : Trail s i events (Event.soFar i who before)

/-- What has been written on a line: whole frames and then a trail. -/
def Strung (s : State) (i : Nat) (events : List Event) : Prop :=
  (∀ w ∈ Event.framesWritten i events, w.2.encode = .ok w.2.bytes) ∧
    ∃ torn, Event.wire i events = (Event.framesWritten i events).flatMap (·.2.bytes) ++ torn ∧
      Trail s i events torn

/-- A step that puts nothing on the wire writes no frame. -/
lemma framesWritten_of_silent {part part' : List UInt8} (moves : Desk.Moves s i part more part')
    (silent : Event.wire i more = []) : Event.framesWritten i more = [] := by
  rw [framesWritten_eq]
  cases moves with
  | along ended => rw [ended]; rfl
  | written ended encoded bytes last => exact (last silent).elim
  | cut seen under line framed left =>
    rw [← Event.framesEnded_outgoing, seen]
    simp [Event.framesEnded]

/-- A write that fails leaves a half frame, if some of it had been put in. -/
lemma halfFrame_of_cut {who : Actor} {frame : Frame} {f : Transport.Failure}
    (seen : outgoing more = [.frameEnded i who frame (some f)])
    (begun : Event.soFar i who events ≠ [])
    (strict : Event.soFar i who events <+: frame.bytes ∧ Event.soFar i who events ≠ frame.bytes) :
    ∃ before after, HalfFrame i who frame f before after (events ++ more) ∧
      Event.soFar i who before = Event.soFar i who events := by
  have member : Event.frameEnded i who frame (some f) ∈ outgoing more := by
    rw [seen]
    exact List.mem_singleton.2 rfl
  obtain ⟨new, after, rfl⟩ := List.append_of_mem (List.mem_of_mem_filter member)
  have quiet : outgoing new = [] := by
    have split : outgoing (new ++ .frameEnded i who frame (some f) :: after) =
        outgoing new ++ .frameEnded i who frame (some f) :: outgoing after := outgoing_append new _
    rw [split] at seen
    have length := congrArg List.length seen
    simp only [List.length_append, List.length_cons, List.length_nil] at length
    exact List.eq_nil_of_length_eq_zero (by omega)
  have same : Event.soFar i who (events ++ new) = Event.soFar i who events := by
    rw [Event.soFar_append_outgoing, quiet]
    rfl
  exact ⟨events ++ new, after,
    ⟨by simp, by rwa [same], by rw [same]; exact strict.1, by rw [same]; exact strict.2⟩, same⟩

/-- **Every step strings whole frames together**, as long as nothing is put behind a half frame. -/
theorem Strung.step (h : Strung s i events)
    (run : (State.start settings handler capacity).steps? actions = some (s, events)) {a : Action}
    (step : s.step? a = some (t, more)) (behind : NothingBehind i (events ++ more)) :
    Strung t i (events ++ more) := by
  have orderly := orderly_of_run run
  obtain ⟨encoded, torn, wire, trail⟩ := h
  have along {torn' : List UInt8} (written : Event.framesWritten i more = [])
      (e : torn' = torn ++ Event.wire i more) (trail : Trail t i (events ++ more) torn') :
      Strung t i (events ++ more) := by
    refine ⟨?_, torn', ?_, trail⟩
    · rw [Event.framesWritten_append, written, List.append_nil]
      exact encoded
    · rw [Event.wire_append, wire, Event.framesWritten_append, written, List.append_nil,
        List.append_assoc, e]
  cases trail with
  | cut half encoded' =>
    obtain ⟨pieces, part', ledger⟩ := ledger_of_steps? i run
    obtain ⟨_, -, moves⟩ := ledger.desk.step orderly step
    have silent : Event.wire i more = [] := by
      have := behind _ _ _ _ _ (half.extend more)
      rw [Event.wire_append] at this
      exact (List.append_eq_nil_iff.1 this).2
    exact along (framesWritten_of_silent moves silent) (by rw [silent, List.append_nil])
      (.cut (half.extend more) encoded')
  | going desk =>
    obtain ⟨torn', desk', moves⟩ := desk.step orderly step
    have quiet := framesWritten_of_silent moves
    cases moves with
    | along ended => exact along (by rw [framesWritten_eq, ended]; rfl) rfl (.going desk')
    | @written who frame ended encoded' bytes last =>
      have written : Event.framesWritten i more = [(who, frame)] := by
        rw [framesWritten_eq, ended]
        rfl
      refine ⟨fun w hw => ?_, [], ?_, .going desk'⟩
      · rw [Event.framesWritten_append, written] at hw
        rcases List.mem_append.1 hw with hw | hw
        · exact encoded w hw
        · rw [List.mem_singleton.1 hw]
          exact encoded'
      · rw [Event.wire_append, wire, Event.framesWritten_append, written, List.append_assoc,
          ← bytes]
        simp
    | @cut who job frame f rest seen under line framed left =>
      have silent : Event.wire i more = [] := by
        rw [← Event.wire_outgoing, seen]
        rfl
      have written := quiet silent
      have sent := desk.sent_eq_soFar (tallied_of_steps? i run) under line framed
      by_cases begun : Event.soFar i who events = []
      · rw [sent, begun, List.nil_append] at left
        exact along written (by rw [silent, List.append_nil, left]) (.going desk')
      · have owes := desk.owed who job frame under line framed
        rw [sent] at owes
        obtain ⟨before, after, half, same⟩ := halfFrame_of_cut seen begun owes.strict
        have whole : torn = Event.soFar i who before := by
          rw [same, ← sent]
          rw [← sent] at begun
          unfold State.sent at begun ⊢
          split
          · rfl
          next other => exact (begun (if_neg other)).elim
        exact along written (by rw [silent, List.append_nil, whole]) (Trail.cut half owes.encoded)

/-- **A run strings whole frames together**, if nothing was put behind a half frame. -/
theorem strung_of_steps? (i : Nat)
    (run : (State.start settings handler capacity).steps? actions = some (s, events))
    (behind : NothingBehind i events) : Strung s i events := by
  refine State.run_induction (P := fun _ s events => NothingBehind i events → Strung s i events)
    ?_ ?_ run behind
  · intro _
    exact ⟨fun w hw => absurd hw List.not_mem_nil, [], rfl,
      .going (.start settings handler capacity i)⟩
  · intro actions s before a t after before_run ih step behind
    exact (ih behind.left).step before_run step behind

/-! ### What the peer reads -/

/-- A part of a frame that a task began to write on a line, or nothing. -/
def Torn (i : Nat) (events : List Event) (part : List UInt8) : Prop :=
  part = [] ∨ ∃ who frame, Event.frameBegun i who frame ∈ events ∧
    frame.encode = .ok frame.bytes ∧ part <+: frame.bytes ∧ part ≠ frame.bytes

lemma mem_of_framesBegun {who : Actor} {frame : Frame}
    (h : frame ∈ Event.framesBegun i who events) : Event.frameBegun i who frame ∈ events := by
  unfold Event.framesBegun at h
  obtain ⟨e, he, hf⟩ := List.mem_filterMap.1 h
  cases e with
  | frameBegun j w g =>
    dsimp only at hf
    split at hf
    next own =>
      cases hf
      obtain ⟨rfl, rfl⟩ := own
      exact he
    next => cases hf
  | _ => cases hf

/-- The trail is a part of a frame that was begun. -/
lemma Trail.torn {part : List UInt8} (trail : Trail s i events part)
    (run : (State.start settings handler capacity).steps? actions = some (s, events)) :
    Torn i events part := by
  cases trail with
  | going desk =>
    by_cases hp : part = []
    · exact .inl hp
    · obtain ⟨w, job, frame, -, under, line, framed, owes⟩ := desk.owes_of_part hp
      refine .inr ⟨w, frame, mem_of_framesBegun ?_, owes.encoded, owes.strict⟩
      rw [calls_of_steps? i w run, State.writing_of_job under, if_pos line, framed]
      exact List.mem_append_right _ (List.mem_singleton.2 rfl)
  | @cut who frame f before after half encoded =>
    refine .inr ⟨who, frame, mem_of_framesBegun ?_, encoded, half.part, half.strict⟩
    rw [calls_of_steps? i who run]
    refine List.mem_append_left _ (List.mem_filterMap.2 ⟨(who, frame, some f), ?_, if_pos rfl⟩)
    refine List.mem_filterMap.2 ⟨.frameEnded i who frame (some f), ?_, if_pos rfl⟩
    rw [half.ended]
    exact List.mem_append_right _ List.mem_cons_self

/-- **The peer reads the frames that were written**, in order, and then at most a part of one more. -/
theorem Strung.decodeAll (strung : Strung s i events)
    (run : (State.start settings handler capacity).steps? actions = some (s, events))
    (legible : ∀ w ∈ Event.framesWritten i events, w.2.message.Legible) :
    ∃ part, Torn i events part ∧
      Frame.decodeAll OpenFlow.maxFrameLength (Event.wire i events) =
        Frame.answers ((Event.framesWritten i events).map (·.2)) part := by
  obtain ⟨encoded, part, wire, trail⟩ := strung
  have torn := trail.torn run
  have left : Frame.decode OpenFlow.maxFrameLength part = (.ok none, part) := by
    rcases torn with rfl | ⟨who, frame, -, fits, pre, strict⟩
    · rfl
    · exact Frame.decode_of_prefix (Frame.encodedLength_le fits) (Frame.encodedLength_le fits) pre strict
  refine ⟨part, torn, ?_⟩
  rw [wire, ← List.flatMap_map]
  refine Frame.decodeAll_frames (fun f hf => ?_) (fun f hf => ?_) left
  · obtain ⟨w, hw, rfl⟩ := List.mem_map.1 hf
    exact legible w hw
  · obtain ⟨w, hw, rfl⟩ := List.mem_map.1 hf
    exact Frame.encodedLength_le (encoded w hw)

/-! ### What follows a half frame -/

/-- What is not muted behind a half frame can still be written on. -/
lemma State.Open.of_halfFrame
    (run : (State.start settings handler capacity).steps? actions = some (s, events))
    (valid : settings.fault? = none) {who : Actor} {frame : Frame} {f : Transport.Failure}
    {before after : List Event} (half : HalfFrame i who frame f before after events)
    (heard : ¬ s.Muted i) : s.Open i := by
  have wire : Event.wire i events ≠ [] := by
    rw [half.ended, Event.wire_append]
    exact fun e => Event.wire_ne_nil_of_soFar i who half.begun (List.append_eq_nil_iff.1 e).1
  obtain ⟨l, hl, holds⟩ := capacity_of_wire run wire
  have failed : Event.frameEnded i who frame (some f) ∈ events := by
    rw [half.ended]
    exact List.mem_append_right _ List.mem_cons_self
  refine ⟨eq_false_of_ne_true fun stopping => heard (.inl stopping),
    State.Open.patient_of_steps? run valid, ⟨l, hl, ?_, holds⟩, ?_⟩
  · exact eq_false_of_ne_true fun shut => heard (.inr (.inl ⟨l, hl, shut⟩))
  · refine (settled_of_steps? run failed).resolve_right fun ⟨session, stage, hx, datapath, _⟩ => ?_
    exact heard (.inr (.inr ⟨session, stage, hx, datapath⟩))

/-- What is muted behind a half frame is silenced. -/
lemma Silenced.of_halfFrame
    (run : (State.start settings handler capacity).steps? actions = some (s, events))
    {who : Actor} {frame : Frame} {f : Transport.Failure}
    {before after : List Event} (half : HalfFrame i who frame f before after events)
    (muted : s.Muted i) : Silenced s i := by
  have failed : Event.frameEnded i who frame (some f) ∈ events := by
    rw [half.ended]
    exact List.mem_append_right _ List.mem_cons_self
  refine muted.imp_right (Or.imp_right fun ⟨session, stage, hx, datapath⟩ => ?_)
  refine (settled_of_steps? run failed).resolve_left fun ⟨k, known, channel⟩ => ?_
  obtain ⟨session', stage', hx', datapath', -⟩ := State.knows_iff.1 known
  rw [channel, hx] at hx'
  cases hx'
  rw [datapath] at datapath'
  cases datapath'

/-- **Bytes behind a half frame.** After a write on a line failed behind a part of its frame, no byte
follows on the line, whatever is done, exactly if the line is muted: the controller is stopping, the
link is shut, or the switch of the line was never known. As long as nothing follows a half frame, the
peer reads the frames that were written in their order, and behind them at most a part of one more. -/
theorem half_frame_last_iff (i : Nat)
    (run : (State.start settings handler capacity).steps? actions = some (s, events))
    (valid : settings.fault? = none) :
    (∀ who frame f before after, HalfFrame i who frame f before after events →
      ((∀ more t later, s.steps? more = some (t, later) → Event.wire i later = []) ↔ s.Muted i)) ∧
    (NothingBehind i events → (∀ w ∈ Event.framesWritten i events, w.2.message.Legible) →
      ∃ part, Torn i events part ∧
        Frame.decodeAll OpenFlow.maxFrameLength (Event.wire i events) =
          Frame.answers ((Event.framesWritten i events).map (·.2)) part) := by
  refine ⟨fun who frame f before after half => ⟨fun silent => ?_, fun muted => ?_⟩,
    fun behind legible => (strung_of_steps? i run behind).decodeAll run legible⟩
  · by_contra heard
    obtain ⟨more, t, later, steps, wire⟩ := (State.Open.of_halfFrame run valid half heard).followed run
    exact wire (silent more t later steps)
  · exact fun more t later steps => (Silenced.of_halfFrame run half muted).steps run steps

end HalfFrames

/-- A controller with a limit of time for its sends, whose harness bursts three messages. -/
def hasty : State := .start { sendTimeout := some 40 } (.harness { request := { count := 3 } }) 44

/-- A burst is cut short: the pipe is full behind four bytes of the third message, and its send runs
out of time. -/
def cutShort : List Action :=
  arrival 0 5 ++ List.replicate 13 (Action.go (.handler 0)) ++ [Action.elapse 40, .go (.handler 0)]

/-- After the burst was cut short the switch makes room and sends an echo request, which the driving
task answers. -/
def answeredBehind : List Action :=
  cutShort ++
    [Action.collect 0 40, .deliver 0 (Frame.bytes { xid := 9, message := .echoRequest [] })] ++
    List.replicate 4 (Action.go (.driver 0))

/-- The third message of the burst. -/
def third : Frame := { xid := 5, message := .setConfig {} }

/-- What the peer makes of four bytes of the third message and an answer to an echo request. -/
def phantom : Frame := { xid := 0x04030008, message := .setConfig { missSendLength := 9 } }

/-- Four bytes of the third message are a half frame. -/
lemma halfFrame_third {f : Transport.Failure} {events before after : List Event}
    (ended : events = before ++ .frameEnded 0 (.handler 0) third (some f) :: after)
    (sofar : Event.soFar 0 (.handler 0) before = third.bytes.take 4) :
    HalfFrame 0 (.handler 0) third f before after events := by
  refine ⟨ended, ?_, ?_, ?_⟩
  · rw [sofar]
    decide
  · rw [sofar]
    exact List.take_prefix 4 _
  · rw [sofar]
    decide

/-- The frame that a send begins to write. -/
def Event.begun? : Event → Option Frame
  | frameBegun _ _ frame => some frame
  | _ => none

/-- **A half frame may be followed**: after a send ran out of time behind four bytes of its frame the
answer to an echo request is put on the line, and the peer reads a frame that nobody began to write. -/
theorem half_frame_followed : ∃ s events before after,
    hasty.steps? answeredBehind = some (s, events) ∧
      HalfFrame 0 (.handler 0) third ⟨.write, .deadline⟩ before after events ∧
      Event.wire 0 after ≠ [] ∧
      (.ok (some phantom), []) ∈ Frame.decodeAll OpenFlow.maxFrameLength (Event.wire 0 events) ∧
      ∀ j who, Event.frameBegun j who phantom ∉ events := by
  obtain ⟨⟨s, events⟩, run⟩ := Option.isSome_iff_exists.1
    (show (hasty.steps? answeredBehind).isSome = true by decide +kernel)
  have h : (hasty.steps? answeredBehind).all (fun r => decide (
      r.2 = r.2.take 20 ++ .frameEnded 0 (.handler 0) third (some ⟨.write, .deadline⟩) :: r.2.drop 21 ∧
      Event.soFar 0 (.handler 0) (r.2.take 20) = third.bytes.take 4 ∧
      Event.wire 0 (r.2.drop 21) ≠ [] ∧
      (.ok (some phantom), []) ∈ Frame.decodeAll OpenFlow.maxFrameLength (Event.wire 0 r.2) ∧
      phantom ∉ r.2.filterMap Event.begun?)) = true := by decide +kernel
  rw [run] at h
  obtain ⟨ended, sofar, follows, reads, unsent⟩ := of_decide_eq_true h
  exact ⟨s, events, _, _, run, halfFrame_third ended sofar, follows, reads,
    fun j who begun => unsent (List.mem_filterMap.2 ⟨_, begun, rfl⟩)⟩

theorem half_frame_last_cutShort : ∃ s events before after,
    hasty.steps? cutShort = some (s, events) ∧
      HalfFrame 0 (.handler 0) third ⟨.write, .deadline⟩ before after events ∧
      ((∀ more t later, s.steps? more = some (t, later) → Event.wire 0 later = []) ↔ s.Muted 0) ∧
      ∃ part, Torn 0 events part ∧
        Frame.decodeAll OpenFlow.maxFrameLength (Event.wire 0 events) =
          Frame.answers ((Event.framesWritten 0 events).map (·.2)) part := by
  obtain ⟨⟨s, events⟩, run⟩ := Option.isSome_iff_exists.1
    (show (hasty.steps? cutShort).isSome = true by decide +kernel)
  have h : (hasty.steps? cutShort).all (fun r => decide (
      r.2 = r.2.take 20 ++ .frameEnded 0 (.handler 0) third (some ⟨.write, .deadline⟩) :: r.2.drop 21 ∧
      Event.soFar 0 (.handler 0) (r.2.take 20) = third.bytes.take 4 ∧
      (∀ k < r.2.length, (r.2[k]?).any (Event.isFailure 0) = true →
        Event.wire 0 (r.2.drop (k + 1)) = []) ∧
      ∀ w ∈ Event.framesWritten 0 r.2, w.2.message.Legible)) = true := by decide +kernel
  rw [run] at h
  obtain ⟨ended, sofar, silent, legible⟩ := of_decide_eq_true h
  have behind : NothingBehind 0 events := by
    intro who frame f before after half
    have length : before.length < events.length := by
      rw [half.ended]
      simp
    have := silent before.length length (by rw [half.ended]; simp [Event.isFailure])
    rwa [half.ended, List.drop_append, List.drop_of_length_le (by omega), List.nil_append,
      show before.length + 1 - before.length = 1 by omega] at this
  obtain ⟨last, reads⟩ := half_frame_last_iff 0 run (by decide)
  have half := halfFrame_third ended sofar
  exact ⟨s, events, _, _, run, half, last _ _ _ _ _ half, reads behind legible⟩

end FlowBurst.Controller
