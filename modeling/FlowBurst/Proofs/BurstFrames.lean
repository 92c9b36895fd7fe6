import FlowBurst.Proofs.Lifecycle
import FlowBurst.Proofs.WriteLock

/-!
# What a burst reports is what is on the wire

A burst sends the messages of its request one after another, and its result says how many it sent. On
the wire of its connection there are as many whole frames of it, each with the message of its kind; a
burst that was aborted has put in at most a part of one frame more. Main statement:
`result_on_wire`.
-/

namespace FlowBurst.Controller

open FlowBurst.Burst (Request Result)
open FlowBurst.OpenFlow (Frame Message)
open FlowBurst.Switch (Handle Reference Session)

/-! ### The writes of a burst -/

/-- A write that has ended: the line that its frame went to, and the failure that ended it if there was
one. -/
structure Write where
  line : Nat
  frame : Frame
  failure : Option Transport.Failure

namespace Event

/-- The writes of the burst over a line, in order. -/
def burstWrites (i : Nat) (events : List Event) : List Write :=
  events.filterMap fun e =>
    match e with
    | .frameEnded j who frame failure => if who = .handler i then some ⟨j, frame, failure⟩ else none
    | _ => none

@[simp] lemma burstWrites_append (i : Nat) (first rest : List Event) :
    burstWrites i (first ++ rest) = burstWrites i first ++ burstWrites i rest := by
  simp [burstWrites]

lemma burstWrites_later {i : Nat} {more : List Event} (unwritten : burstWrites i more = [])
    (events : List Event) : burstWrites i (events ++ more) = burstWrites i events := by
  rw [burstWrites_append, unwritten, List.append_nil]

lemma burstWrites_outgoing (i : Nat) (events : List Event) :
    burstWrites i (outgoing events) = burstWrites i events :=
  filterMap_filter_of_none (fun e he => by cases e <;> first | rfl | cases he) events

lemma burstWrites_of_silent {i : Nat} {events : List Event} (silent : outgoing events = []) :
    burstWrites i events = [] := by
  rw [← burstWrites_outgoing, silent]
  rfl

/-- What others write is not of the burst. -/
lemma burstWrites_of_unsent {i : Nat} {events : List Event}
    (unsent : ∀ e ∈ events, e.writer? ≠ some (.handler i)) : burstWrites i events = [] := by
  refine List.filterMap_eq_nil_iff.2 fun e he => ?_
  have other := unsent e he
  cases e with
  | frameEnded j who frame failure => exact if_neg fun own => other (congrArg some own)
  | _ => rfl

/-- The writes of a burst on a line are among those that ended there. -/
lemma framesEnded_of_burst (i j : Nat) (events : List Event) :
    (framesEnded j events).filter (·.1 = .handler i) =
      ((burstWrites i events).filter (·.line = j)).map fun w => (.handler i, w.frame, w.failure) := by
  unfold framesEnded burstWrites
  rw [List.filter_filterMap, List.filter_filterMap, List.map_filterMap]
  congr 1
  funext e
  cases e with
  | frameEnded k who frame failure =>
    by_cases line : k = j <;> by_cases own : who = .handler i <;> simp [Option.filter, line, own]
  | _ => rfl

end Event

/-- Whether a write is of a frame with a message, over a connection of a switch. -/
def Write.Carries (w : Write) (r : Reference) (message : Message) (events : List Event) : Prop :=
  w.frame = { version := OpenFlow.protocolVersion, xid := w.frame.xid, message } ∧
    ∃ previous, .registered ⟨r, w.line⟩ previous ∈ events

/-- How a message to a switch over one connection stands: before it is looked up, or with the handle
that a connection of the switch registered. -/
def Sending.Bears (r : Reference) (message : Message) (events : List Event) : Sending → Prop
  | looking target m => target = .connection r ∧ m = message
  | holding h m => h.switch = r ∧ m = message ∧ ∃ previous, .registered h previous ∈ events
  | writing h frame _ => h.switch = r ∧
      frame = { version := OpenFlow.protocolVersion, xid := frame.xid, message } ∧
        ∃ previous, .registered h previous ∈ events

/-- What comes of a step of a message of a burst: it goes on and no write ends, or it is delivered as
its write ends, or it fails, with its write or before that. -/
inductive Comes (r : Reference) (message : Message) (events : List Event) :
    List Write → Sending ⊕ Except Switch.Failure UInt32 → Prop
  | goes {y : Sending} (bears : y.Bears r message events) : Comes r message events [] (.inl y)
  | delivers {w : Write} {xid : UInt32} (carries : w.Carries r message events)
      (whole : w.failure = none) : Comes r message events [w] (.inr (.ok xid))
  | refuses {f : Switch.Failure} (absent : f = .notConnected r.datapath ∨ f = .connectionReplaced r) :
      Comes r message events [] (.inr (.error f))
  | fails {w : Write} {f : Transport.Failure} (carries : w.Carries r message events)
      (torn : w.failure = some f) : Comes r message events [w] (.inr (.error (.transport f)))

section Sent

variable {s u : State} {i : Nat} {x : Sending} {events more : List Event} {r : Reference}
  {kind : Burst.Kind} {result : Sending ⊕ Except Switch.Failure UInt32}

/-- A message of a burst fits in a frame. -/
lemma encode_kind (kind : Burst.Kind) (xid : UInt32) :
    ∃ bytes, Frame.encode { xid, message := kind.message } = .ok bytes := by
  refine ⟨_, if_pos (show OpenFlow.headerLength + kind.message.bodyLength ≤ _ from ?_)⟩
  cases kind <;> decide

/-- **What comes of a step of a message of a burst.** -/
theorem Sent.comes (st : Standing s events) (step : Sent s (.handler i) x u more result)
    (bears : x.Bears r kind.message events) :
    Comes r kind.message events (Event.burstWrites i more) result := by
  cases step with
  | @found target m h find =>
    obtain ⟨rfl, rfl⟩ := bears
    obtain ⟨hh, own⟩ := Switch.Registry.mem_of_find st.ordered find
    exact .goes ⟨own, rfl, (st.entry_registered hh).1⟩
  | @unknown target m f find =>
    obtain ⟨rfl, rfl⟩ := bears
    exact .refuses (Switch.Registry.failure_of_find find)
  | @begun h m c bytes connection encoded =>
    obtain ⟨own, rfl, registered⟩ := bears
    exact .goes ⟨own, rfl, registered⟩
  | @refused h m c e connection encoded =>
    obtain ⟨own, rfl, registered⟩ := bears
    obtain ⟨bytes, fits⟩ := encode_kind kind c.nextXid
    rw [fits] at encoded
    cases encoded
  | @waited h frame call call' b p polling pending =>
    have silent : Event.burstWrites i (putEvents h.channel (.handler i) p.put) = [] := by
      unfold putEvents
      split <;> rfl
    rw [silent]
    exact .goes bears
  | @wrote h frame call b p answer polling ready =>
    obtain ⟨rfl, carries, registered⟩ := bears
    have one : Event.burstWrites i (putEvents h.channel (.handler i) p.put ++
        [.frameEnded h.channel (.handler i) frame (failureOf answer)]) =
          [⟨h.channel, frame, failureOf answer⟩] := by
      unfold putEvents
      split <;> simp [Event.burstWrites]
    rw [one]
    cases answer with
    | ok reply => exact .delivers ⟨carries, registered⟩ rfl
    | error f => exact .fails ⟨carries, registered⟩ rfl

end Sent

/-! ### The tally of a burst -/

/-- No burst over a line has ended. -/
def Unended (i : Nat) (events : List Event) : Prop := ∀ result, .burstEnded i result ∉ events

/-- **The tally of a burst under way**: it is over the switch that its connection registered, and every
write of it has ended well, as many as it has sent. -/
structure Tally (q : Request) (i : Nat) (events : List Event) (run : Burst.Run Reference) : Prop where
  request : run.request = q
  path : run.path = [.discovered, .ready, .bursting]
  own : ∃ previous, .registered ⟨run.switch, i⟩ previous ∈ events
  bounded : run.sent ≤ q.count
  sent : (Event.burstWrites i events).map Write.failure = List.replicate run.sent.toNat none
  carries : ∀ w ∈ Event.burstWrites i events, w.Carries run.switch q.kind.message events
  unended : Unended i events

/-- **What a burst that has ended reports** of its writes, which may end with one that failed. -/
structure Accounts (q : Request) (i : Nat) (events : List Event) (result : Result Reference) :
    Prop where
  requested : result.requested = q.count
  own : ∃ previous, .registered ⟨result.switch, i⟩ previous ∈ events
  carries : ∀ w ∈ Event.burstWrites i events, w.Carries result.switch q.kind.message events
  ended : ∃ torn : Option Transport.Failure,
    (Event.burstWrites i events).map Write.failure =
        List.replicate result.sent.toNat none ++ torn.toList.map some ∧
      (result.isCompleted = true ∧ torn = none ∧ result.sent = q.count ∧ result.failedAt = none ∧
          result.cause = none ∨
        result.isAborted = true ∧ result.sent < q.count ∧ result.failedAt = some (result.sent + 1) ∧
          ∃ cause, result.cause = some cause ∧ cause.kind ≠ .encode ∧ cause.kind ≠ .other)

/-- How the news of a line stand to the writes of its burst. -/
def News.Tallies (q : Request) (i : Nat) (events : List Event) : News → Prop
  | absent | spawned _ | observing _ | lost => Event.burstWrites i events = [] ∧ Unended i events
  | bursting run => Tally q i events run
  | sending run x => Tally q i events run ∧ run.isSending = true ∧
      x.Bears run.switch q.kind.message events
  | settling _ _ | returned => ∀ result, .burstEnded i result ∈ events → Accounts q i events result

section Tallies

variable {q : Request} {i : Nat} {events more : List Event} {run : Burst.Run Reference} {news : News}

/-- A handle that was registered is registered. -/
lemma registered_later {h : Handle} (registered : ∃ previous, .registered h previous ∈ events)
    (more : List Event) : ∃ previous, .registered h previous ∈ events ++ more :=
  registered.imp fun _ => List.mem_append_left _

lemma Write.Carries.later {w : Write} {r : Reference} {message : Message}
    (h : w.Carries r message events) (more : List Event) : w.Carries r message (events ++ more) :=
  ⟨h.1, registered_later h.2 more⟩

lemma Sending.Bears.later {x : Sending} {r : Reference} {message : Message}
    (h : x.Bears r message events) (more : List Event) : x.Bears r message (events ++ more) := by
  cases x with
  | looking target m => exact h
  | holding hd m =>
    obtain ⟨own, same, registered⟩ := h
    exact ⟨own, same, registered_later registered more⟩
  | writing hd frame call =>
    obtain ⟨own, same, registered⟩ := h
    exact ⟨own, same, registered_later registered more⟩

lemma Unended.later (h : Unended i events) (quiet : Unended i more) : Unended i (events ++ more) :=
  fun result he => (List.mem_append.1 he).elim (h result) (quiet result)

section Quiet

variable (unwritten : Event.burstWrites i more = []) (quiet : Unended i more)
include unwritten quiet

/-- A step that is not of the burst. -/
lemma Tally.later (h : Tally q i events run) : Tally q i (events ++ more) run := by
  have same := Event.burstWrites_later unwritten events
  exact ⟨h.request, h.path, registered_later h.own more, h.bounded, same ▸ h.sent,
    fun w hw => (h.carries w (same ▸ hw)).later more, h.unended.later quiet⟩

lemma News.Tallies.later (h : news.Tallies q i events) : news.Tallies q i (events ++ more) := by
  have same := Event.burstWrites_later unwritten events
  have reports (result : Result Reference) (he : .burstEnded i result ∈ events ++ more)
      (h : .burstEnded i result ∈ events → Accounts q i events result) :
      Accounts q i (events ++ more) result := by
    obtain ⟨requested, own, carries, ended⟩ :=
      h ((List.mem_append.1 he).resolve_right (quiet result))
    exact ⟨requested, registered_later own more, fun w hw => (carries w (same ▸ hw)).later more,
      same ▸ ended⟩
  cases news with
  | absent | spawned | observing | lost => exact ⟨same.trans h.1, h.2.later quiet⟩
  | bursting run => exact Tally.later unwritten quiet h
  | sending run x => exact ⟨Tally.later unwritten quiet h.1, h.2.1, h.2.2.later more⟩
  | settling | returned => exact fun result he => reports result he (h result)

end Quiet

/-- What a step that tells of no burst's end says of it. -/
lemma unended_of_tidings {seen : List Event} (told : tidings more = seen)
    (quiet : ∀ result, .burstEnded i result ∉ seen) : Unended i more :=
  fun result he => quiet result (told ▸ mem_tidings.2 ⟨he, rfl⟩)

/-- The reports of a line whose only burst has just ended. -/
lemma accounts_of_tidings {result : Result Reference} (unended : Unended i events)
    (told : tidings more = [.burstEnded i result]) (accounts : Accounts q i (events ++ more) result) :
    ∀ r, .burstEnded i r ∈ events ++ more → Accounts q i (events ++ more) r := by
  intro r he
  rcases List.mem_append.1 he with he | he
  · exact (unended r he).elim
  · have member : Event.burstEnded i r ∈ tidings more := mem_tidings.2 ⟨he, rfl⟩
    rw [told, List.mem_singleton] at member
    obtain ⟨-, rfl⟩ := Event.burstEnded.inj member
    exact accounts

/-! ### One step of a burst -/

/-- A burst with a message to send may send one more. -/
lemma Tally.toNat_succeed (h : Tally q i events run) (more_left : run.isSending = true) :
    run.succeed.sent.toNat = run.sent.toNat + 1 ∧ run.sent < q.count ∧
      run.succeed.sent ≤ q.count := by
  have less : run.sent < q.count := by
    rw [← h.request]
    exact of_decide_eq_true more_left
  have bound := UInt64.lt_iff_toNat_lt.1 less
  have top := q.count.toNat_lt
  have next : run.succeed.sent.toNat = run.sent.toNat + 1 := by
    show (run.sent + 1).toNat = _
    rw [UInt64.toNat_add]
    simp only [UInt64.reduceToNat]
    omega
  exact ⟨next, less, UInt64.le_iff_toNat_le.2 (by omega)⟩

/-- A burst that delivers a message has sent one more. -/
lemma Tally.delivers (h : Tally q i events run) (more_left : run.isSending = true) {w : Write}
    (carries : w.Carries run.switch q.kind.message events) (whole : w.failure = none)
    (written : Event.burstWrites i more = [w]) (quiet : Unended i more) :
    Tally q i (events ++ more) run.succeed := by
  obtain ⟨next, -, bounded⟩ := h.toNat_succeed more_left
  refine ⟨h.request, h.path, registered_later h.own more, bounded, ?_,
    fun v hv => ?_, h.unended.later quiet⟩
  · rw [Event.burstWrites_append, List.map_append, h.sent, written, next, List.replicate_succ']
    simp [whole]
  · rw [Event.burstWrites_append, written, List.mem_append, List.mem_singleton] at hv
    rcases hv with hv | rfl
    · exact (h.carries v hv).later more
    · exact carries.later more

/-- A burst that has nothing left to send has sent all. -/
lemma Tally.completes (h : Tally q i events run) (done : run.isSending = false)
    (unwritten : Event.burstWrites i more = []) : Accounts q i (events ++ more) run.complete := by
  have all : run.sent = q.count := by
    refine UInt64.le_antisymm h.bounded (UInt64.not_lt.1 ?_)
    rw [← h.request]
    exact of_decide_eq_false done
  have same := Event.burstWrites_later unwritten events
  refine ⟨congrArg Request.count h.request, registered_later h.own more,
    fun w hw => (h.carries w (same ▸ hw)).later more, none, ?_, .inl ⟨?_, rfl, ?_, rfl, rfl⟩⟩
  · rw [same, h.sent, all, ← h.request]
    exact (List.append_nil _).symm
  · simp [Burst.Run.complete, Burst.Run.completedPath, Burst.Result.isCompleted, h.path]
  · exact congrArg Request.count h.request

/-- The failure that a burst ends with is one of the connection. -/
lemma kind_of_comes {r : Reference} {message : Message} {writes : List Write} {f : Switch.Failure}
    (comes : Comes r message events writes (.inr (.error f))) :
    Burst.Failure.kindOf f ≠ .encode ∧ Burst.Failure.kindOf f ≠ .other := by
  have sound {g : Switch.Failure} (h : g.isDisconnect = true ∨ ∃ t, g = .transport t) :
      Burst.Failure.kindOf g ≠ .encode ∧ Burst.Failure.kindOf g ≠ .other := by
    unfold Burst.Failure.kindOf
    rcases h with h | ⟨t, rfl⟩
    · rw [if_pos h]
      simp
    · split
      · simp
      · split <;> simp
  cases comes with
  | refuses absent => exact sound (.inl (by rcases absent with rfl | rfl <;> rfl))
  | fails => exact sound (.inr ⟨_, rfl⟩)

/-- A burst whose message fails has put in at most a part of that. -/
lemma Tally.aborts (h : Tally q i events run) (more_left : run.isSending = true) {f : Switch.Failure}
    (comes : Comes run.switch q.kind.message events (Event.burstWrites i more) (.inr (.error f))) :
    Accounts q i (events ++ more) (run.abort (.ofSwitch f)) := by
  obtain ⟨-, less, -⟩ := h.toNat_succeed more_left
  have sent : (run.abort (.ofSwitch f)).sent = run.sent := UInt64.add_sub_cancel ..
  have kind := kind_of_comes comes
  have carries : ∀ w ∈ Event.burstWrites i more, w.Carries run.switch q.kind.message events := by
    generalize Event.burstWrites i more = writes at comes
    cases comes with
    | refuses absent => exact fun w hw => by cases hw
    | fails carries torn => exact fun w hw => List.mem_singleton.1 hw ▸ carries
  obtain ⟨torn, failures⟩ : ∃ torn : Option Transport.Failure,
      (Event.burstWrites i more).map Write.failure = torn.toList.map some := by
    generalize Event.burstWrites i more = writes at comes
    cases comes with
    | refuses absent => exact ⟨none, rfl⟩
    | @fails w f carries torn => exact ⟨some f, by simp [torn]⟩
  refine ⟨congrArg Request.count h.request, registered_later h.own more,
    fun w hw => ?_, torn, ?_, .inr ⟨isAborted_abort run _, ?_, ?_, _, rfl, kind⟩⟩
  · rw [Event.burstWrites_append, List.mem_append] at hw
    rcases hw with hw | hw
    · exact (h.carries w hw).later more
    · exact (carries w hw).later more
  · rw [Event.burstWrites_append, List.map_append, h.sent, failures, sent]
  · rw [sent]
    exact less
  · rw [sent]
    rfl

/-- **What a handler does about the news of a line** keeps the tally of its burst. -/
theorem Tells.tallies {s t : State} {news' : News} {seen : List Event} {policy : Harness}
    (tells : Tells s t i more news news' seen) (told : tidings more = seen) (st : Standing s events)
    (handler : s.handler = .harness policy) (request : policy.request = q)
    (spawned : ∀ switch, news = .spawned switch → ∃ previous, .registered ⟨switch, i⟩ previous ∈ events)
    (h : news.Tallies q i events) : news'.Tallies q i (events ++ more) := by
  cases tells with
  | @calls switch same silent =>
    have quiet : Unended i more := unended_of_tidings told (by simp)
    have unwritten := Event.burstWrites_of_silent (i := i) silent
    have none_yet : Event.burstWrites i (events ++ more) = [] := by
      rw [Event.burstWrites_later unwritten, h.1]
    rw [handler]
    refine ⟨request, rfl, registered_later (spawned switch rfl) more, UInt64.zero_le, ?_, ?_,
      h.2.later quiet⟩
    · rw [none_yet]
      rfl
    · rw [none_yet]
      exact fun w hw => by cases hw
  | returns same silent =>
    have quiet : Unended i more := unended_of_tidings told (by simp)
    exact fun result he => ((h.2.later quiet) result he).elim
  | attempts same more_left silent =>
    have quiet : Unended i more := unended_of_tidings told (by simp)
    refine ⟨Tally.later (Event.burstWrites_of_silent silent) quiet h, more_left, rfl, ?_⟩
    rw [h.request]
  | completes same done silent =>
    exact accounts_of_tidings h.unended told
      (Tally.completes h done (Event.burstWrites_of_silent silent))
  | sends same step =>
    obtain ⟨tally, more_left, bears⟩ := h
    have quiet : Unended i more := unended_of_tidings told (by simp)
    have comes := step.comes st bears
    generalize hw : Event.burstWrites i more = writes at comes
    cases comes with
    | goes bears => exact ⟨tally.later hw quiet, more_left, bears.later more⟩
  | delivers same step =>
    obtain ⟨tally, more_left, bears⟩ := h
    have quiet : Unended i more := unended_of_tidings told (by simp)
    have comes := step.comes st bears
    generalize hw : Event.burstWrites i more = writes at comes
    cases comes with
    | delivers carries whole => exact tally.delivers more_left carries whole hw quiet
  | @aborts run x f u seen same step ends =>
    obtain ⟨tally, more_left, bears⟩ := h
    refine accounts_of_tidings tally.unended told (tally.aborts more_left ?_)
    rw [← Event.burstWrites_outgoing, ends, Event.burstWrites_outgoing]
    exact step.comes st bears
  | settles was settle now next silent | settled was settle now next silent =>
    have quiet : Unended i more := unended_of_tidings told (by simp)
    exact News.Tallies.later (Event.burstWrites_of_silent silent) quiet h

end Tallies

/-! ### The tallies of a run -/

/-- **The bursts of all lines tally**, and those to come are of the same request. -/
structure Booked (q : Request) (s : State) (events : List Event) : Prop where
  policy : ∃ policy, s.handler = .harness policy ∧ policy.request = q
  news : ∀ i, (s.newsOf i).Tallies q i events

/-- What a handler tells leaves the request of the bursts as it is. -/
lemma Tells.request {s t : State} {i : Nat} {more seen : List Event} {news news' : News}
    {policy : Harness} (tells : Tells s t i more news news' seen) (was : s.handler = .harness policy) :
    ∃ policy', t.handler = .harness policy' ∧ policy'.request = policy.request := by
  have settled {todo : Harness.Settling} {effect : Harness.Effect}
      (settle : policy.settle? todo = some effect) : effect.harness.request = policy.request := by
    cases todo with
    | counting r | reporting r =>
      cases settle
      rfl
    | deciding r reached =>
      cases settle
      unfold Harness.decide
      dsimp only
      split
      · rfl
      · split
        · rfl
        · split <;> rfl
    | settled => cases settle
  cases tells with
  | settles before settle now | settled before settle now =>
    rw [was] at before
    cases before
    exact ⟨_, now, settled settle⟩
  | calls same | returns same | attempts same | completes same | sends same | delivers same
  | aborts same => exact ⟨policy, same.trans was, rfl⟩

section Runs

variable {q : Request} {s t : State} {events more : List Event}

/-- A step leaves the request of the bursts as it is. -/
lemma Tale.request {policy : Harness} (tale : Tale s t more) (was : s.handler = .harness policy) :
    ∃ policy', t.handler = .harness policy' ∧ policy'.request = policy.request := by
  cases tale with
  | calm lines same | accepts fresh lines same | drives was' lines course told same =>
    exact ⟨policy, same.trans was, rfl⟩
  | tells was' lines tells => exact tells.request was

/-- **Every step keeps the tallies.** -/
theorem Booked.step {h : Handler} (booked : Booked q s events) (st : Standing s events)
    (lived : Lived h s events) (orderly : s.Orderly) (tale : Tale s t more) :
    Booked q t (events ++ more) := by
  obtain ⟨⟨policy, handler, request⟩, news⟩ := booked
  obtain ⟨policy', after, request'⟩ := tale.request handler
  refine ⟨⟨policy', after, request'.trans request⟩, fun i => ?_⟩
  cases tale.hears orderly i with
  | rests next untold unsent =>
    have kept : (t.newsOf i).Tallies q i events := by
      rcases next with same | ⟨absent, switch, now⟩
      · exact same ▸ news i
      · have silent := news i
        rw [absent] at silent
        rw [now]
        exact silent
    exact kept.later (Event.burstWrites_of_unsent unsent) fun result he => untold _ he rfl
  | tells tells =>
    exact tells.tallies rfl st handler request
      (fun switch spawned => lived.registered_of_spawned st spawned) (news i)

end Runs

section Runs

variable {settings : Settings} {policy : Harness} {capacity : Nat} {actions : List Action} {s : State}
  {events : List Event} {i : Nat} {result : Result Reference}
  (run : (State.start settings (.harness policy) capacity).steps? actions = some (s, events))
include run

lemma booked_of_steps? : Booked policy.request s events := by
  refine State.run_induction (P := fun _ s events => Booked policy.request s events)
    ⟨⟨policy, rfl, rfl⟩, fun i => ?_⟩ ?_ run
  · rw [show (State.start settings (.harness policy) capacity).newsOf i = .absent from rfl]
    exact ⟨rfl, fun result he => by cases he⟩
  · intro actions s before a t after before_run booked step
    have orderly := orderly_of_run before_run
    exact booked.step (standing_of_steps? before_run) (lived_of_steps? before_run) orderly
      (step?_tale orderly step)

/-- What a burst that has ended reports, and that its task is at no write any more. -/
lemma accounts_of_ended (ended : .burstEnded i result ∈ events) :
    Accounts policy.request i events result ∧ s.job? (.handler i) = none := by
  have tallies := (booked_of_steps? run).news i
  have idle (h : (s.newsOf i).sending? = none) : s.job? (.handler i) = none := by
    unfold State.newsOf at h
    cases hn : s.news? i with
    | none => simp [State.job?, hn]
    | some news =>
      rw [hn] at h
      simp [State.job?, hn, show news.sending? = none from h]
  generalize s.newsOf i = news at tallies idle
  cases news with
  | settling | returned => exact ⟨tallies result ended, idle rfl⟩
  | absent | spawned | observing | lost => exact (tallies.2 result ended).elim
  | bursting run => exact (tallies.unended result ended).elim
  | sending run x => exact (tallies.1.unended result ended).elim

/-- As long as the numbers of the connections do not start over, a burst writes on its own line. -/
lemma line_of_carries (few : s.accepted ≤ 2 ^ 64) {r : Reference} {message : Message} {w : Write}
    (own : ∃ previous, .registered ⟨r, i⟩ previous ∈ events) (carries : w.Carries r message events) :
    w.line = i := by
  have st := standing_of_steps? run
  have numbered {j : Nat} (h : ∃ previous, .registered ⟨r, j⟩ previous ∈ events) :
      ∃ x, s.standing? j = some x ∧ x.1.connection = r.connection := by
    obtain ⟨-, session, stage, standing, number⟩ :=
      st.session_of_registered (h := ⟨r, j⟩) (mem_registeredBy.2 ⟨rfl, h⟩)
    exact ⟨_, standing, number⟩
  obtain ⟨x, hx, first⟩ := numbered carries.2
  obtain ⟨y, hy, second⟩ := numbered own
  exact st.numbered.distinct few hx hy (first.trans second.symm)

end Runs

/-- **What the result of a burst says, and what is on the wire**, from its end on. What rests on the
numbers of the connections holds until they start over. -/
structure OnWire (q : Request) (s : State) (i : Nat) (result : Result Reference)
    (events : List Event) : Prop where
  /-- The result says how many of the writes of the burst have ended well, which are all that were
  requested if it was completed, and fewer if it was aborted. One write that failed may come after them,
  and no other. Each is of the message of the kind requested. -/
  accounts : Accounts q i events result
  /-- The writes of the burst are on its own line, -/
  placed : s.accepted ≤ 2 ^ 64 → ∀ j, (Event.framesEnded j events).filter (·.1 = .handler i) =
    if j = i then (Event.burstWrites i events).map fun w => (.handler i, w.frame, w.failure) else []
  /-- where each that ended well has left its frame, one that failed at most a part of it, and nothing
  else is of the burst. -/
  wire : ∃ pieces part, Event.wire i events = pieces.flatten ++ part ∧
    List.Forall₂ Leaves (Event.framesEnded i events) pieces ∧
    (part = [] ∨ ∃ who job frame, who ≠ .handler i ∧ s.job? who = some job ∧ job.line = i ∧
      job.frame = some frame ∧ job.Owes frame part)

/-- **What a burst reports is what is on the wire**, for every kind and count and however its writes are
mixed with echo replies, the messages of others, replacement, failures and the stop of the controller. -/
theorem result_on_wire {settings : Settings} {policy : Harness} {capacity : Nat}
    {actions : List Action} {s : State} {events : List Event} {i : Nat} {result : Result Reference}
    (run : (State.start settings (.harness policy) capacity).steps? actions = some (s, events))
    (ended : .burstEnded i result ∈ events) : OnWire policy.request s i result events := by
  obtain ⟨accounts, idle⟩ := accounts_of_ended run ended
  obtain ⟨pieces, part, ledger⟩ := ledger_of_steps? i run
  refine ⟨accounts, fun few j => ?_, pieces, part, ledger.wire, ledger.pieces, ?_⟩
  · have own (w : Write) (hw : w ∈ Event.burstWrites i events) : w.line = i :=
      line_of_carries run few accounts.own (accounts.carries w hw)
    rw [Event.framesEnded_of_burst]
    split
    next h =>
      rw [List.filter_eq_self.2 fun w hw => by simp [own w hw, h]]
    next h =>
      rw [List.filter_eq_nil_iff.2 fun w hw => by simp [own w hw, Ne.symm h], List.map_nil]
  · by_cases hp : part = []
    · exact .inl hp
    · obtain ⟨who, job, frame, -, under, line, framed, owes⟩ := ledger.desk.owes_of_part hp
      refine .inr ⟨who, job, frame, ?_, under, line, framed, owes⟩
      rintro rfl
      rw [idle] at under
      cases under

/-- A burst sends a frame, a call from outside sends one, and the second frame of the burst is cut short
after three bytes as the controller is asked to stop. -/
def tornBurst : List Action :=
  arrival 0 7 ++ List.replicate 5 (Action.go (.handler 0)) ++
    [Action.call (.send (.datapath ⟨7⟩) .barrierRequest)] ++ List.replicate 3 (Action.go (.caller 0)) ++
    List.replicate 3 (Action.go (.handler 0)) ++
    [Action.run (.handler 0) (.proceed 3), .stop, .go (.handler 0)]

theorem onWire_tornBurst :
    ∃ s events result, (State.start {} (.harness { request := { count := 3 } }) 60).steps? tornBurst =
        some (s, events) ∧ .burstEnded 0 result ∈ events ∧ result.isAborted = true ∧ result.sent = 1 ∧
      OnWire { count := 3 } s 0 result events := by
  obtain ⟨⟨s, events⟩, run⟩ := Option.isSome_iff_exists.1
    (show ((State.start {} (.harness { request := { count := 3 } }) 60).steps? tornBurst).isSome =
      true by decide +kernel)
  have h : ((State.start {} (.harness { request := { count := 3 } }) 60).steps? tornBurst).all
      (fun r => (Event.burstsEnded r.2).any fun e =>
        decide (e.1 = 0 ∧ e.2.isAborted = true ∧ e.2.sent = 1)) = true := by decide +kernel
  rw [run] at h
  obtain ⟨⟨i, result⟩, member, found⟩ := List.any_eq_true.1 h
  obtain ⟨rfl, aborted, one⟩ := of_decide_eq_true found
  have ended := Event.mem_burstsEnded.1 member
  exact ⟨s, events, result, run, ended, aborted, one, result_on_wire run ended⟩

end FlowBurst.Controller
