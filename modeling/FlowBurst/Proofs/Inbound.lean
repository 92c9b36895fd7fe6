import FlowBurst.Proofs.Deadlines

/-!
# How much a connection holds back

Bytes that make up no whole frame yet stay at hand until more are read. A frame that declares more
than the limit is refused by its header, so a buffer in which decoding finds nothing is shorter than
the limit; as a driving task takes off every whole frame before it reads again, at most one chunk
comes on top of that. Main statement: `inbound_bounded`.
-/

namespace FlowBurst.OpenFlow.Frame

variable {limit : Nat} {buffer rest : List UInt8}

/-- A buffer whose frame is incomplete is shorter than the limit. -/
lemma lt_of_decode_none (header : headerLength ≤ limit)
    (h : decode limit buffer = (.ok none, rest)) : buffer.length < limit := by
  rw [decode_eq] at h
  split_ifs at h with short small large incomplete
  · exact Nat.lt_of_lt_of_le short header
  · cases h
  · cases h
  · exact Nat.lt_of_lt_of_le incomplete (Nat.le_of_not_lt large)
  · exact absurd (Prod.ext_iff.1 h).1 ofBody_ne_none

/-- Decoding adds nothing to a buffer. -/
lemma length_decode_le (limit : Nat) (buffer : List UInt8) :
    (decode limit buffer).2.length ≤ buffer.length := by
  by_cases whole : Whole limit buffer
  · rw [decode_of_whole whole]
    exact List.length_drop .. ▸ Nat.sub_le _ _
  · exact Nat.le_of_eq (congrArg _ (decode_of_not_whole whole))

end FlowBurst.OpenFlow.Frame

namespace FlowBurst.Controller

open FlowBurst.OpenFlow (Frame)
open FlowBurst.Transport (Call Disposition Link Moment Progress Side)

/-- A read takes no more bytes than it asks for. -/
lemma length_taken_le {m : Moment} {side : Side} {call : Call} {size : Nat} {link link' : Link}
    {answer : Except Transport.Failure Transport.Reply}
    (fetches : Call.Fetches m side call size link link' answer) :
    (Progress.ready answer).taken.length ≤ size := by
  cases fetches with
  | stopped stop | failed e => exact Nat.zero_le size
  | took read =>
    cases Link.read?_reads read with
    | took left => exact List.length_take_le _ _
    | reset dry reset | ended dry ended => exact Nat.zero_le size

section Step

variable {s t : State} {i : Nat} {events : List Event}

/-- A driving task that looks at the bytes at hand leaves what decoding leaves. -/
lemma inbound_decide {c : Connection} (hc : s.connection? i = some c) (w : Awaiting) :
    ∃ c', (s.decide i c w).1.connection? i = some c' ∧
      c'.inbound = (Frame.decode s.settings.maxFrameLength c.inbound).2 := by
  rcases decoded : Frame.decode s.settings.maxFrameLength c.inbound with ⟨answer, rest⟩
  have left : (s.modifyConnection i fun c => { c with inbound := rest }).connection? i =
      some { c with inbound := rest } := by simp [hc]
  unfold State.decide
  rw [decoded]
  rcases answer with e | _ | frame
  · dsimp only
    rw [(State.fail_closes _ i w (.frame e)).1]
    exact ⟨_, State.connection?_enter left _, rfl⟩
  · exact ⟨_, State.connection?_enter left _, rfl⟩
  · obtain ⟨c', hc', inbound, -⟩ := State.heeds_receive _ i c w frame left
    exact ⟨c', hc', inbound⟩

/-- A driving task that is done with a read adds what that gave. -/
lemma inbound_afterRead {c : Connection} (hc : s.connection? i = some c) (w : Awaiting)
    (answer : Except Transport.Failure Transport.Reply) :
    ∃ c', (s.afterRead i w answer).1.connection? i = some c' ∧
      c'.inbound = c.inbound ++ (Progress.ready answer).taken := by
  have closes (f : Switch.Failure) : ∃ c', (s.fail i w f).1.connection? i = some c' ∧
      c'.inbound = c.inbound ++ [] := by
    rw [(s.fail_closes i w f).1, List.append_nil]
    exact ⟨_, State.connection?_enter hc _, rfl⟩
  unfold State.afterRead
  split
  · exact closes .peerClosed
  next bytes some_read =>
    have longer : (s.modifyConnection i
        fun c => { c with inbound := c.inbound ++ bytes }).connection? i =
          some { c with inbound := c.inbound ++ bytes } := by simp [hc]
    exact ⟨_, State.connection?_enter longer _, rfl⟩
  next reply ne_end ne_data =>
    refine ⟨_, State.connection?_enter hc _, ?_⟩
    cases reply with
    | data bytes => exact (ne_data bytes rfl).elim
    | written n | done => exact (List.append_nil _).symm
  next f => exact closes (.transport f)

/-- **What a step of a driving task adds to the bytes at hand** is at most a chunk, and that only if
the task waits for bytes. -/
theorem length_inbound_of_drive? {d : Disposition} {c : Connection}
    (h : s.drive? i d = some (t, events)) (hc : s.connection? i = some c) (reads : c.Reads) :
    ∃ c', t.connection? i = some c' ∧
      c'.inbound.length ≤ c.inbound.length + if c.stage.isReading then readChunk else 0 := by
  obtain ⟨c₁, hc₁, step⟩ := State.drive?_stepped h
  obtain rfl : c = c₁ := Option.some.inj (hc.symm.trans hc₁)
  have kept (rest : State.AtRest i c t events) : ∃ c', t.connection? i = some c' ∧
      c'.inbound.length ≤ c.inbound.length + if c.stage.isReading then readChunk else 0 := by
    obtain ⟨⟨c', hc', rests⟩, -⟩ := rest
    exact ⟨c', hc', by rw [rests.inbound]; exact Nat.le_add_right _ _⟩
  by_cases elsewhere : ∀ w call, c.stage ≠ .deciding w ∧ c.stage ≠ .reading w call
  · exact kept (State.rests_of_stepped step hc elsewhere)
  cases step with
  | @decided w r stage next =>
    subst next
    obtain ⟨c', hc', inbound⟩ := inbound_decide hc w
    refine ⟨c', hc', ?_⟩
    rw [inbound, stage]
    exact Frame.length_decode_le _ _
  | waited under poll => exact kept (.waited hc under poll)
  | @got w call u put answer r stage poll next =>
    subst next
    obtain ⟨locks, bytes, polled, rfl⟩ := State.connection?_of_poll? poll hc
    obtain ⟨c', hc', inbound⟩ := inbound_afterRead polled w answer
    obtain ⟨b, p, ⟨-, link, _, -, polls⟩, -, -, ready⟩ := State.polling_of_poll? poll
    have fetches := Call.fetches_of_ready (reads w call stage).2 polls ready
    refine ⟨c', hc', ?_⟩
    rw [inbound, List.length_append, stage]
    exact Nat.add_le_add_left (length_taken_le fetches) _
  | opened stage | wrote stage | registered stage | displaced stage | launched stage | closed stage
  | deregistered stage | joined stage | notified stage =>
    exact (elsewhere fun w call => by simp [stage]).elim

end Step

/-! ### The bound -/

/-- The bytes at hand of a connection are few enough for a limit on the length of frames. -/
structure Connection.Contained (limit : Nat) (c : Connection) : Prop where
  /-- A driving task that is about to read has fewer bytes at hand than the limit. -/
  waiting : c.stage.isReading = true → c.inbound.length < limit
  atMost : c.inbound.length ≤ limit - 1 + readChunk

section Run

variable {s t : State} {i : Nat} {events : List Event}

/-- **A step of the driving task keeps its bytes at hand within the bound.** -/
lemma contained_of_drive? {d : Disposition} {c c' : Connection}
    (header : OpenFlow.headerLength ≤ s.settings.maxFrameLength)
    (h : s.drive? i d = some (t, events)) (hc : s.connection? i = some c)
    (hc' : t.connection? i = some c') (reads : c.Reads)
    (contained : c.Contained s.settings.maxFrameLength) :
    c'.Contained s.settings.maxFrameLength := by
  obtain ⟨b', hb', grown⟩ := length_inbound_of_drive? h hc reads
  obtain rfl : b' = c' := Option.some.inj (hb'.symm.trans hc')
  refine ⟨fun reading => ?_, ?_⟩
  · obtain ⟨b, c', hb, hc', takes, -⟩ := State.drive?_takes h
    obtain rfl : b = c := Option.some.inj (hb.symm.trans hc)
    obtain rfl : c' = b' := Option.some.inj (hc'.symm.trans hb')
    -- A task comes to wait for bytes only by finding no whole frame in those at hand.
    have still {stage : Stage} (e : c'.stage = stage) (other : stage.isReading = false) :
        False := by
      rw [e, other] at reading
      cases reading
    generalize Event.bytesRead i events = read, Event.framesReceived i events = frames,
      s.draws? i d = drawn at takes
    cases takes with
    | rests rests =>
      rw [rests.inbound]
      exact contained.waiting (rests.reading reading)
    | wants stage decoded next =>
      rw [Frame.eq_of_decode_none decoded]
      exact Frame.lt_of_decode_none header decoded
    | took stage decoded other heeds => exact (still rfl other).elim
    | read stage some_read inbound next => exact (still next rfl).elim
    | refused stage decoded ceased | ended stage ceased | failed stage ceased =>
      exact (still rfl (Stage.isReading_of_isOver ceased)).elim
  · split at grown
    next reading =>
      have few := contained.waiting reading
      omega
    next => exact Nat.le_trans grown contained.atMost

/-- Settings that are in order leave room for a header. -/
lemma header_of_valid {settings : Settings} (valid : settings.fault? = none) :
    OpenFlow.headerLength ≤ settings.maxFrameLength := by
  unfold Settings.fault? at valid
  split_ifs at valid with _ _ range
  omega

/-- **Receiving takes bounded memory.** Under settings that are in order, whatever a switch sends
and however its bytes come in, a driving task that is about to read has fewer bytes at hand than the
longest frame may have, and no connection ever has more than a chunk on top of that. -/
theorem inbound_bounded {settings : Settings} {handler : Handler} {capacity : Nat}
    {actions : List Action} {c : Connection} (valid : settings.fault? = none)
    (run : (State.start settings handler capacity).steps? actions = some (s, events))
    (hc : s.connection? i = some c) : c.Contained settings.maxFrameLength := by
  have header := header_of_valid valid
  refine State.run_induction (P := fun _ s _ =>
    ∀ c, s.connection? i = some c → c.Contained settings.maxFrameLength) ?_ ?_ run c hc
  · intro c hc
    simp [State.connection?, State.start] at hc
  intro actions s before a t after before_run ih step c' hc'
  have orderly := orderly_of_run before_run
  have same_settings := settings_of_steps? before_run
  by_cases own : a.task? = some (.driver i)
  · obtain ⟨d, rfl⟩ := Action.eq_run_of_task? own
    obtain ⟨c, hc, -⟩ := drove_of_task step own
    have reads := (attended_of_steps? before_run).2 i c hc
    rw [← same_settings] at header ih ⊢
    exact contained_of_drive? header step hc hc' reads (ih c hc)
  · have now := State.intake?_of_connection? hc'
    rcases intake?_of_other orderly step own with same | opening
    · rw [same] at now
      obtain ⟨c, hc, e⟩ := Option.map_eq_some_iff.1 now
      obtain ⟨inbound, -, stage⟩ : _ ∧ _ ∧ _ := by simpa using e
      obtain ⟨waiting, atMost⟩ := ih c hc
      exact ⟨fun reading => inbound ▸ waiting (stage ▸ reading), inbound ▸ atMost⟩
    · rw [opening] at now
      obtain ⟨inbound, -, stage⟩ : _ ∧ _ ∧ _ := by simpa using now
      refine ⟨fun reading => ?_, ?_⟩
      · rw [← stage] at reading
        cases reading
      · rw [inbound]
        exact Nat.zero_le _

/-- The shortest limit on frames that is in order. -/
def shortFrames : Settings := { maxFrameLength := OpenFlow.headerLength }

/-- A peer sends one byte less than a header, and when those are at hand more than is read at once. -/
def flooded : List Action :=
  [Action.connect (.loopback 6653), .go .acceptor, .deliver 0 (List.replicate 7 4)] ++
    List.replicate 6 (Action.go (.driver 0)) ++
    [Action.deliver 0 (List.replicate 5000 0), .go (.driver 0)]

theorem inbound_bounded_flooded :
    ∃ s events c, (State.start shortFrames (.observer []) 8192).steps? flooded = some (s, events) ∧
      s.connection? 0 = some c ∧ c.inbound.length = 8 - 1 + readChunk ∧
      c.Contained shortFrames.maxFrameLength := by
  obtain ⟨⟨s, events⟩, run⟩ := Option.isSome_iff_exists.1
    (show ((State.start shortFrames (.observer []) 8192).steps? flooded).isSome = true by
      decide +kernel)
  have full : ((State.start shortFrames (.observer []) 8192).steps? flooded).any
      (fun r => (r.1.connection? 0).any fun c => decide (c.inbound.length = 8 - 1 + readChunk)) =
        true := by decide +kernel
  rw [run, Option.any_some] at full
  obtain ⟨c, hc, length⟩ := (Option.any_eq_true _ _).1 full
  exact ⟨s, events, c, run, hc, of_decide_eq_true length, inbound_bounded rfl run hc⟩

end Run

end FlowBurst.Controller
