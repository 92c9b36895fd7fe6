import FlowBurst.Proofs.Following
import FlowBurst.Transport.Listener

/-!
# What the limits of an operation do

An operation that is to begin looks at its deadline before its flag, and one under way at its flag
before its deadline; whatever ends it that way comes before its result. A read that fails has taken
nothing, and a write that fails has put a front of its bytes in and never all of them. So no message
gets another byte out, or through, once the controller is stopping. Main statement: `limits_kept`.
-/

namespace FlowBurst.Transport

/-! ### One poll -/

/-- The failure of a call that has failed. -/
def Progress.failure? : Progress → Option Failure
  | .ready (.error f) => some f
  | _ => none

/-- The failure of accepting. -/
def Accepting.failure? : Accepting → Option Failure
  | .failed f _ => some f
  | _ => none

/-- The failure of connecting. -/
def Connecting.failure? : Connecting → Option Failure
  | .failed f _ => some f
  | _ => none

/-- Whether a failure is one by the limits of its operation. -/
def Failure.isLimit (f : Failure) : Bool := f.cause = .deadline ∨ f.cause = .cancelled

lemma isLimit_system (operation : Operation) (e : OsError) :
    (Failure.system operation e).isLimit = false := by
  simp [Failure.isLimit, Failure.system]

/-- **What limits make of a poll** of an operation: `polled` is what comes of the poll, and `ended`
what the operation comes to if they end it. -/
structure Obeys {α : Type} (failure? : α → Option Failure) (limits : Limits) (started : Bool)
    (m : Moment) (d : Disposition) (polled : Option α) (ended : Cause → α) : Prop where
  /-- An operation that is to begin fails by its deadline, if that has passed, -/
  late : started = false → limits.expired m = true → polled = d.unlessFailing (ended .deadline)
  /-- and else by its flag, if that is raised. -/
  unwanted : started = false → limits.expired m = false → limits.cancelled m = true →
    polled = d.unlessFailing (ended .cancelled)
  /-- An operation under way fails by its flag, if that is raised, -/
  cancelled : started = true → limits.cancelled m = true →
    polled = d.unlessFailing (ended .cancelled)
  /-- and else by its deadline, if that has passed. -/
  expired : started = true → limits.cancelled m = false → limits.expired m = true →
    polled = d.unlessFailing (ended .deadline)
  /-- Nothing fails by a limit that has not been reached. -/
  going : limits.expired m = false → limits.cancelled m = false →
    ∀ p f, polled = some p → failure? p = some f → f.isLimit = false

section Polls

variable {α : Type} {failure? : α → Option Failure} {limits : Limits} {started : Bool} {m : Moment}
  {d : Disposition} {polled : Option α} {ended : Cause → α}

/-- What it takes to obey limits: they are looked at first, and fail nothing later. -/
lemma obeys_of_stop
    (stop : ∀ cause, (if started then limits.interruption? m else limits.refusal? m) = some cause →
      polled = d.unlessFailing (ended cause))
    (going : ∀ p f, polled = some p → failure? p = some f →
      (if started then limits.interruption? m else limits.refusal? m) = none → f.isLimit = false) :
    Obeys failure? limits started m d polled ended where
  late unstarted expired := stop _ (by simp [unstarted, Limits.refusal?, expired])
  unwanted unstarted early cancelled :=
    stop _ (by simp [unstarted, Limits.refusal?, early, cancelled])
  cancelled begun cancelled := stop _ (by simp [begun, Limits.interruption?, cancelled])
  expired begun wanted expired := stop _ (by simp [begun, Limits.interruption?, wanted, expired])
  going early wanted p f hp hf :=
    going p f hp hf (by simp [Limits.interruption?, Limits.refusal?, early, wanted])

end Polls

/-! ### The operations -/

namespace Link

variable {l l' : Link} {side : Side} {e : OsError}

/-- A read fails on a connection that was reset, and takes nothing then. -/
lemma error_of_read? {size : Nat} (h : l.read? side size = some (.error e, l')) :
    e = .connectionReset ∧ l' = l := by
  cases read?_reads h with
  | reset dry reset => exact ⟨rfl, rfl⟩

/-- A write fails on a connection that is gone, and puts nothing in then. -/
lemma error_of_write? {bytes : List UInt8} {limit : Nat}
    (h : l.write? side bytes limit = some (.error e, l')) :
    e.kind.category = .closed ∧ l' = l := by
  cases write?_writes h with
  | broken gone | reset reset => exact ⟨rfl, rfl⟩

/-- A write puts a front of its bytes in at the end of the outgoing pipe. -/
lemma arrived_of_write? {bytes : List UInt8} {limit n : Nat}
    (h : l.write? side bytes limit = some (.ok n, l')) :
    (l'.endpoint side.other).arrived = (l.endpoint side.other).arrived ++ bytes.take n := by
  cases write?_writes h with
  | put => cases side <;> rfl

end Link

namespace Locks

variable {τ : Type} [DecidableEq τ] {locks : Locks τ} {who w : τ}

/-- A task stands in a queue of the locks. -/
def Queued (locks : Locks τ) (w : τ) : Prop := w ∈ locks.readers ∨ w ∈ locks.writers

lemma queued_acquire {request : Request} (h : (locks.acquire who request).Queued w) :
    locks.Queued w ∨ w = who := by
  unfold Queued at h ⊢
  cases request <;> simp only [acquire, mem_ask] at h <;> tauto

lemma queued_release : (locks.release who).Queued w ↔ locks.Queued w ∧ w ≠ who := by
  simp only [Queued, release, mem_leave]
  tauto

lemma release_of_not_queued (h : ¬ locks.Queued who) : locks.release who = locks := by
  have stays {queue : List τ} (out : who ∉ queue) : leave queue who = queue :=
    List.filter_eq_self.2 fun w hw => decide_eq_true fun e => out (e ▸ hw)
  obtain ⟨reader, writer⟩ := not_or.1 h
  rw [release, stays reader, stays writer]

end Locks

namespace Call

variable {τ : Type} [DecidableEq τ] {m : Moment} {side : Side} {who : τ} {d : Disposition}
  {call : Call} {link : Link} {locks : Locks τ} {p : Polled τ}

/-- What comes of a poll of a call that its limits end: its task leaves the locks, if it had asked for
one, and nothing else changes. -/
def endedBy (call : Call) (who : τ) (link : Link) (locks : Locks τ) (cause : Cause) : Polled τ :=
  { link, locks := locks.release who
    progress := .ready (.error ⟨call.request.operation, cause⟩) }

/-- **Whatever an attempt fails by is an error of the system**: one that this has made up its mind to
give, or that of a connection which is gone. -/
theorem failure_of_attempt (h : Attempts side who d call link locks p) {f : Failure}
    (failed : p.progress.failure? = some f) :
    ∃ e, f = .system call.request.operation e ∧
      ((∃ c, d = .fail c e) ∨ e.kind.category = .closed) := by
  cases h with
  | interrupted | completes | advances => cases failed
  | @refused c e unshut given =>
    cases failed
    exact ⟨e, rfl, .inl ⟨c, given⟩⟩
  | @reads size answer link' request read =>
    cases answer with
    | ok bytes => cases failed
    | error e =>
      cases failed
      obtain ⟨rfl, -⟩ := Link.error_of_read? read
      exact ⟨_, by rw [request]; rfl, .inr rfl⟩
  | @broken rest total limit e link' request wrote =>
    cases failed
    exact ⟨e, by rw [request]; rfl, .inr (Link.error_of_write? wrote).1⟩
  | @shuts direction answer link' request shut =>
    cases answer with
    | ok done => cases failed
    | error e =>
      cases failed
      exact ⟨e, by rw [request]; rfl, .inl (error_of_shutDown shut)⟩

/-- **A call on a channel obeys its limits**, unless it is a write of nothing. -/
theorem obeys_poll (more : call.request ≠ .write [] 0) :
    Obeys (fun p : Polled τ => p.progress.failure?) call.limits call.started m d
      (call.poll? m side who d link locks) (call.endedBy who link locks) := by
  refine obeys_of_stop (fun cause stop => ?_) fun p f hp failed stop => ?_
  · unfold poll?
    dsimp only
    rw [if_neg more, show call.stopped? m = some cause from stop]
    rfl
  · cases poll?_comes hp with
    | empty request => exact (more request).elim
    | stopped _ stopped => cases stopped.symm.trans stop
    | waits => cases failed
    | attempted _ _ holds attempts =>
      obtain ⟨e, rfl, -⟩ := failure_of_attempt attempts failed
      exact isLimit_system _ e

namespace Polls

variable (polls : Polls m side who call link locks p)
include polls

lemma started_of_pending {next : Call} (pending : p.progress = .pending next) :
    next.started = true := by
  cases polls with
  | waits | advances =>
    cases pending
    rfl
  | empty | stopped | completes | ends => cases pending

/-- A poll that ends a call takes its task out of the queues. -/
lemma queued_of_ready (more : call.request ≠ .write [] 0) {answer : Except Failure Reply}
    (ready : p.progress = .ready answer) {w : τ} (h : p.locks.Queued w) :
    locks.Queued w ∧ w ≠ who := by
  cases polls with
  | empty request => exact (more request).elim
  | stopped stop => exact Locks.queued_release.1 h
  | waits | advances => cases ready
  | completes | ends =>
    obtain ⟨queued, other⟩ := Locks.queued_release.1 h
    exact ⟨(Locks.queued_acquire queued).resolve_right other, other⟩

end Polls

/-! ### A call from beginning to end -/

/-- What a poll of a call meets. -/
structure Encounter (τ : Type) where
  moment : Moment
  disposition : Disposition
  link : Link
  locks : Locks τ

/-- The polls of a call by a task that change anything, up to the one that answers it, each with what
it meets. Between them others may have done whatever they do. -/
def course (side : Side) (who : τ) : Call → List (Encounter τ) → List (Encounter τ × Polled τ)
  | _, [] => []
  | call, e :: rest =>
    match call.poll? e.moment side who e.disposition e.link e.locks with
    | none => course side who call rest
    | some p =>
      (e, p) ::
        match p.progress with
        | .pending next => course side who next rest
        | .ready _ => []

/-- What a call answers in its polls, if they come to an answer. -/
def answer? (polls : List (Encounter τ × Polled τ)) : Option (Except Failure Reply) :=
  polls.findSome? fun x =>
    match x.2.progress with
    | .ready answer => some answer
    | .pending _ => none

/-- The bytes that a call has put in. -/
def puts (polls : List (Encounter τ × Polled τ)) : List UInt8 := polls.flatMap fun x => x.2.put

/-- What a poll of a write makes of the bytes that are still to be put in. -/
inductive Puts (rest : List UInt8) (total : Nat) (p : Polled τ) : Prop
  | goes_on {n : Nat} {next : Call} (progress : p.progress = .pending next)
      (request : next.request = .write (rest.drop n) total) (more : rest.drop n ≠ [])
      (put : p.put = rest.take n)
  | completes (progress : p.progress = .ready (.ok (.written total))) (put : p.put = rest)
  | fails {f : Failure} (progress : p.progress = .ready (.error f)) (put : p.put = [])

/-- **What a poll of a write puts in** is a front of the bytes that are left, and enters the pipe. -/
theorem puts_of_poll {rest : List UInt8} {total : Nat} (request : call.request = .write rest total)
    (more : rest ≠ []) (h : call.poll? m side who d link locks = some p) :
    Puts rest total p ∧
      (p.link.endpoint side.other).arrived = (link.endpoint side.other).arrived ++ p.put := by
  have waiting {q : Polled τ} (same : q.link = link) (put : q.put = []) {next : Call}
      (progress : q.progress = .pending next) (request : next.request = .write rest total) :
      Puts rest total q ∧
        (q.link.endpoint side.other).arrived = (link.endpoint side.other).arrived ++ q.put :=
    ⟨.goes_on (n := 0) progress request more put, by rw [same, put, List.append_nil]⟩
  have failing {q : Polled τ} (same : q.link = link) (put : q.put = []) {f : Failure}
      (progress : q.progress = .ready (.error f)) :
      Puts rest total q ∧
        (q.link.endpoint side.other).arrived = (link.endpoint side.other).arrived ++ q.put :=
    ⟨.fails progress put, by rw [same, put, List.append_nil]⟩
  cases poll?_comes h with
  | empty empty =>
    cases request.symm.trans empty
    exact (more rfl).elim
  | stopped => exact failing rfl rfl rfl
  | waits => exact waiting rfl rfl rfl request
  | attempted _ going holds attempts =>
    cases attempts with
    | interrupted => exact waiting rfl rfl rfl request
    | refused => exact failing rfl rfl rfl
    | broken _ wrote => exact failing (Link.error_of_write? wrote).2 rfl rfl
    | @completes rest' total' limit n link' wrote_of wrote all =>
      cases request.symm.trans wrote_of
      have whole : rest.take n = rest := List.take_of_length_le (List.drop_eq_nil_iff.1 all)
      have arrived := Link.arrived_of_write? wrote
      rw [whole] at arrived
      exact ⟨.completes rfl rfl, arrived⟩
    | advances wrote_of wrote left =>
      cases request.symm.trans wrote_of
      exact ⟨.goes_on rfl rfl left rfl, Link.arrived_of_write? wrote⟩
    | reads other | shuts other => cases request.symm.trans other

/-- **A write from beginning to end** puts a front of its bytes in, and all of them exactly if it
succeeds. -/
theorem course_of_write {total : Nat} (es : List (Encounter τ)) :
    ∀ {call : Call} {rest : List UInt8}, call.request = .write rest total → rest ≠ [] →
      ∃ left, puts (course side who call es) ++ left = rest ∧
        (answer? (course side who call es) = some (.ok (.written total)) ∧ left = [] ∨
          (∀ reply, answer? (course side who call es) ≠ some (.ok reply)) ∧ left ≠ []) := by
  induction es with
  | nil =>
    intro call rest request more
    exact ⟨rest, rfl, .inr ⟨fun reply e => (by cases e), more⟩⟩
  | cons e es ih =>
    intro call rest request more
    unfold course
    split
    next => exact ih request more
    next p hp =>
      obtain ⟨turn, -⟩ := puts_of_poll request more hp
      cases turn with
      | @goes_on n next progress request' more' put =>
        obtain ⟨left, front, answers⟩ := ih request' more'
        refine ⟨left, ?_, ?_⟩
        · rw [progress]
          show p.put ++ puts _ ++ left = rest
          rw [List.append_assoc, front, put, List.take_append_drop]
        · rw [progress]
          simpa [answer?, progress] using answers
      | completes progress put =>
        refine ⟨[], ?_, .inl ⟨?_, rfl⟩⟩
        · simp [progress, puts, put]
        · simp [progress, answer?]
      | @fails f progress put =>
        refine ⟨rest, ?_, .inr ⟨fun reply => ?_, more⟩⟩
        · simp [progress, puts, put]
        · simp [progress, answer?]

/-- Every poll of a write adds what it puts in to the outgoing pipe, and nothing else. -/
theorem arrived_of_write {total : Nat} (es : List (Encounter τ)) :
    ∀ {call : Call} {rest : List UInt8}, call.request = .write rest total → rest ≠ [] →
      ∀ x ∈ course side who call es, (x.2.link.endpoint side.other).arrived =
        (x.1.link.endpoint side.other).arrived ++ x.2.put := by
  induction es with
  | nil => exact fun _ _ x hx => absurd hx List.not_mem_nil
  | cons e es ih =>
    intro call rest request more x hx
    unfold course at hx
    split at hx
    next => exact ih request more x hx
    next p hp =>
      obtain ⟨turn, arrived⟩ := puts_of_poll request more hp
      rcases List.mem_cons.1 hx with rfl | hx
      · exact arrived
      · cases turn with
        | goes_on progress request' more' put =>
          rw [progress] at hx
          exact ih request' more' x hx
        | completes progress put | fails progress put =>
          rw [progress] at hx
          cases hx

/-- **What a write of some bytes has put in**, in some of its polls. -/
structure FrontPut (side : Side) (bytes : List UInt8) (polls : List (Encounter τ × Polled τ)) :
    Prop where
  front : puts polls <+: bytes
  whole : puts polls = bytes ↔ ∃ reply, answer? polls = some (.ok reply)
  count : ∀ reply, answer? polls = some (.ok reply) → reply = .written bytes.length
  enters : ∀ x ∈ polls, (x.2.link.endpoint side.other).arrived =
    (x.1.link.endpoint side.other).arrived ++ x.2.put

theorem frontPut {limits : Limits} {bytes : List UInt8} (more : bytes ≠ [])
    (es : List (Encounter τ)) :
    FrontPut side bytes (course side who (.write limits bytes) es) := by
  have request : (Call.write limits bytes).request = .write bytes bytes.length := rfl
  have parts : ∃ left, puts (course side who (.write limits bytes) es) ++ left = bytes ∧ _ :=
    course_of_write es request more
  have enters : ∀ x ∈ course side who (.write limits bytes) es, _ = _ :=
    arrived_of_write es request more
  obtain ⟨left, front, ⟨written, rfl⟩ | ⟨unwritten, unput⟩⟩ := parts
  · refine ⟨⟨_, front⟩, ⟨fun _ => ⟨_, written⟩, fun _ => ?_⟩, fun reply e => ?_, enters⟩
    · rwa [List.append_nil] at front
    · rw [written] at e
      cases e
      rfl
  · refine ⟨⟨_, front⟩, ⟨fun e => ?_, fun ⟨reply, e⟩ => (unwritten reply e).elim⟩,
      fun reply e => (unwritten reply e).elim, enters⟩
    rw [e] at front
    exact (unput (List.append_right_eq_self.1 front)).elim

/-- A poll of a read takes nothing, unless it answers with what it takes. -/
lemma link_of_read {size : Nat} (request : call.request = .read size)
    (h : call.poll? m side who d link locks = some p)
    (undone : ∀ reply, p.progress ≠ .ready (.ok reply)) : p.link = link := by
  cases progress : p.progress with
  | ready answer =>
    have fetches := fetches_of_ready request h progress
    cases answer with
    | ok reply => exact (undone reply progress).elim
    | error f =>
      generalize p.link = link', failed : Except.error f = answer at fetches
      cases fetches with
      | stopped stop | failed e => rfl
      | @took got _ read =>
        cases got with
        | ok bytes => cases failed
        | error e => exact (Link.error_of_read? read).2
  | pending next =>
    cases poll?_polls h with
    | waits going => rfl
    | advances going request' => cases request.symm.trans request'
    | empty | stopped | completes | ends => cases progress

/-- **A read that fails has taken nothing**, from its first poll to its last. -/
theorem course_of_read {size : Nat} {f : Failure} (es : List (Encounter τ)) :
    ∀ {call : Call}, call.request = .read size →
      answer? (course side who call es) = some (.error f) →
      ∀ x ∈ course side who call es, x.2.link = x.1.link := by
  induction es with
  | nil => exact fun _ _ x hx => absurd hx List.not_mem_nil
  | cons e es ih =>
    intro call request failed x hx
    unfold course at failed hx
    cases hp : call.poll? e.moment side who e.disposition e.link e.locks with
    | none =>
      rw [hp] at failed hx
      exact ih request failed x hx
    | some p =>
      rw [hp] at failed hx
      have taken (undone : ∀ reply, p.progress ≠ .ready (.ok reply)) : p.link = e.link :=
        link_of_read request hp undone
      cases progress : p.progress with
      | pending next =>
        simp only [answer?, progress, List.findSome?_cons] at failed
        simp only [progress] at hx
        rcases List.mem_cons.1 hx with rfl | hx
        · exact taken (by simp [progress])
        · obtain ⟨-, ⟨same, -⟩ | ⟨rest, total, n, other, -⟩⟩ :=
            (poll?_polls hp).request_of_pending progress
          · exact ih (same.trans request) failed x hx
          · cases request.symm.trans other
      | ready answer =>
        simp only [answer?, progress, List.findSome?_cons] at failed
        simp only [progress] at hx
        obtain rfl := List.mem_singleton.1 hx
        exact taken (by simp [progress, Option.some.inj failed])

end Call

section Sockets

variable {m : Moment} {limits : Limits} {started waiting : Bool} {listening : Option Bool}
  {d : Disposition} {f : Failure}

/-- Accepting that its limits let go on fails only by an error of the system. -/
lemma failure_of_accept {p : Accepting}
    (stop : (if started then limits.interruption? m else limits.refusal? m) = none)
    (h : pollAccept? m limits started waiting d = some p) (failed : p.failure? = some f) :
    ∃ operation c e, f = .system operation e ∧ d = .fail c e := by
  unfold pollAccept? at h
  rw [stop] at h
  cases d with
  | proceed limit =>
    cases waiting <;> dsimp only at h
    · split at h <;> cases h
      cases failed
    · cases h
      cases failed
  | fail c e =>
    cases c <;> cases waiting <;> first
      | cases h
        cases failed
        exact ⟨_, _, _, rfl, rfl⟩
      | cases h

/-- **Accepting obeys its limits.** -/
theorem obeys_accept : Obeys Accepting.failure? limits started m d
    (pollAccept? m limits started waiting d) fun cause => .failed ⟨.accept, cause⟩ false := by
  refine obeys_of_stop (fun cause stop => ?_) fun p f hp failed stop => ?_
  · unfold pollAccept?
    rw [stop]
  · obtain ⟨operation, c, e, rfl, -⟩ := failure_of_accept stop hp failed
    exact isLimit_system operation e

/-- Connecting that its limits let go on fails only by an error of the system, or because nobody
listens. -/
lemma failure_of_connect {p : Connecting}
    (stop : (if started then limits.interruption? m else limits.refusal? m) = none)
    (h : pollConnect? m limits started listening d = some p) (failed : p.failure? = some f) :
    ∃ operation e, f = .system operation e ∧
      ((∃ c, d = .fail c e) ∨ e = .connectionRefused) := by
  unfold pollConnect? at h
  rw [stop] at h
  rcases listening with _ | heard
  · cases d with
    | proceed limit =>
      dsimp only at h
      split at h <;> cases h
      cases failed
    | fail c e =>
      cases c <;> first
        | cases h
          cases failed
          exact ⟨_, _, rfl, .inl ⟨_, rfl⟩⟩
        | cases h
  · cases d with
    | proceed limit =>
      cases heard <;> cases h <;> cases failed
      exact ⟨_, _, rfl, .inr rfl⟩
    | fail c e =>
      cases c <;> cases heard <;> first
        | cases h
          cases failed
          exact ⟨_, _, rfl, .inl ⟨_, rfl⟩⟩
        | cases h

/-- **Connecting obeys its limits.** -/
theorem obeys_connect : Obeys Connecting.failure? limits started m d
    (pollConnect? m limits started listening d)
      fun cause => .failed ⟨.connect, cause⟩ (started && listening == some true) := by
  refine obeys_of_stop (fun cause stop => ?_) fun p f hp failed stop => ?_
  · unfold pollConnect?
    rw [stop]
  · obtain ⟨operation, e, rfl, -⟩ := failure_of_connect stop hp failed
    exact isLimit_system operation e

end Sockets

/-- **What limits do to operations**, where tasks are of some kind. -/
structure Disciplined (τ : Type) [DecidableEq τ] : Prop where
  accepting : ∀ m limits started waiting d, Obeys Accepting.failure? limits started m d
    (pollAccept? m limits started waiting d) fun cause => .failed ⟨.accept, cause⟩ false
  connecting : ∀ m limits started listening d, Obeys Connecting.failure? limits started m d
    (pollConnect? m limits started listening d)
      fun cause => .failed ⟨.connect, cause⟩ (started && listening == some true)
  calls : ∀ m side (who : τ) d (call : Call) link locks, call.request ≠ .write [] 0 →
    Obeys (fun p : Polled τ => p.progress.failure?) call.limits call.started m d
      (call.poll? m side who d link locks) (call.endedBy who link locks)
  /-- A limit that ends a call changes nothing but that its task leaves the locks. -/
  untouched : ∀ (call : Call) (who : τ) link locks cause,
    (call.endedBy who link locks cause).link = link ∧
      (¬ locks.Queued who → (call.endedBy who link locks cause).locks = locks)
  /-- A read that fails has taken nothing in any of its polls. -/
  reads : ∀ side (who : τ) (call : Call) size es f, call.request = .read size →
    Call.answer? (call.course side who es) = some (.error f) →
    ∀ x ∈ call.course side who es, x.2.link = x.1.link
  writes : ∀ side (who : τ) limits bytes es, bytes ≠ [] →
    Call.FrontPut side bytes ((Call.write limits bytes).course side who es)

theorem disciplined (τ : Type) [DecidableEq τ] : Disciplined τ where
  accepting _ _ _ _ _ := obeys_accept
  connecting _ _ _ _ _ := obeys_connect
  calls _ _ _ _ _ _ _ := Call.obeys_poll
  untouched _ _ _ _ _ := ⟨rfl, Locks.release_of_not_queued⟩
  reads _ _ _ _ es _ := Call.course_of_read es
  writes _ _ _ _ es more := Call.frontPut more es

end FlowBurst.Transport

namespace FlowBurst.Controller

open FlowBurst.OpenFlow (Frame)
open FlowBurst.Switch (Failure Handle)
open FlowBurst.Transport (Call Disposition Locks)

/-! ### Messages of a controller that is stopping -/

section Stopping

variable {s t u : State} {who : Actor} {x : Sending} {seen : List Event}

/-- A step of a message is one of its task. -/
lemma step_of_send (hx : s.sending? who = some x) {d : Disposition}
    {result : Sending ⊕ Except Failure UInt32} (h : s.send? who d x = some (u, seen, result)) :
    ∃ t events, s.step? (.run who d) = some (t, events) ∧
      s.returned? who (.run who d) = result.getRight? ∧ t.sending? who = result.getLeft? := by
  obtain ⟨resume, e, resumed⟩ := State.step?_run hx d
  rw [h] at e
  obtain ⟨core, -, callers, -, -⟩ := (State.send?_eq_some h).effect
  refine ⟨_, _, e, ?_, (resumed u seen result).next core callers⟩
  simp [State.returned?, hx, h]

/-- A message that a step of its task ends is seen to end. -/
lemma watch?_of_ended {result : Except Failure UInt32} (hx : s.sending? who = some x)
    (h : s.send? who (.proceed readChunk) x = some (u, seen, .inr result)) :
    ∃ t events, s.watch? who [.go who] = some (t, events, some result) := by
  obtain ⟨t, events, step, returned, -⟩ := step_of_send hx h
  refine ⟨t, events, ?_⟩
  rw [State.watch?, show s.step? (.go who) = _ from step, Option.bind_some,
    show s.returned? who (.go who) = some result from returned]

/-- What is seen of a message after a step of its task that does not end it. -/
lemma watch?_of_goes_on {y : Sending} (hx : s.sending? who = some x)
    (h : s.send? who (.proceed readChunk) x = some (u, seen, .inl y)) :
    ∃ t events, s.step? (.go who) = some (t, events) ∧ t.sending? who = some y ∧
      ∀ rest, s.watch? who (.go who :: rest) =
        (t.watch? who rest).map fun (v, more, result) => (v, events ++ more, result) := by
  obtain ⟨t, events, step, returned, next⟩ := step_of_send hx h
  refine ⟨t, events, step, next, fun rest => ?_⟩
  rw [State.watch?, show s.step? (.go who) = _ from step, Option.bind_some,
    show s.returned? who (.go who) = none from returned]

variable {settings : Settings} {handler : Handler} {capacity : Nat} {actions : List Action}
  {events : List Event}

/-- What fails in some steps of its task. -/
def Fails (s : State) (who : Actor) : Prop :=
  ∃ n t events f, s.watch? who (List.replicate n (.go who)) = some (t, events, some (.error f))

lemma fails_of_ended {f : Failure} (hx : s.sending? who = some x)
    (h : ∃ u seen, s.send? who (.proceed readChunk) x = some (u, seen, .inr (.error f))) :
    Fails s who := by
  obtain ⟨u, seen, h⟩ := h
  obtain ⟨t, events, watch⟩ := watch?_of_ended hx h
  exact ⟨1, t, events, f, watch⟩

lemma fails_of_goes_on {y : Sending} (hx : s.sending? who = some x)
    (h : ∃ u seen, s.send? who (.proceed readChunk) x = some (u, seen, .inl y))
    (run : (State.start settings handler capacity).steps? actions = some (s, events))
    (stopping : s.stopping = true)
    (fails : ∀ (t : State) actions events,
      (State.start settings handler capacity).steps? actions = some (t, events) →
      t.stopping = true → t.sending? who = some y → Fails t who) : Fails s who := by
  obtain ⟨u, seen, h⟩ := h
  obtain ⟨t, more, step, next, watch⟩ := watch?_of_goes_on hx h
  obtain ⟨n, v, later, f, watched⟩ :=
    fails t _ _ (State.steps?_concat.2 ⟨s, events, more, run, step, rfl⟩)
      ((step?_kept step).stopping stopping) next
  refine ⟨n + 1, v, more ++ later, f, ?_⟩
  rw [List.replicate_succ, watch, watched]
  rfl

/-- **A message of a stopping controller fails**, whatever it is at. -/
lemma fails_of_sending
    (run : (State.start settings handler capacity).steps? actions = some (s, events))
    (stopping : s.stopping = true) (hx : s.sending? who = some x) : Fails s who := by
  have writing {s : State} {actions : List Action} {events : List Event} {h : Handle}
      {frame : Frame} {call : Call}
      (run : (State.start settings handler capacity).steps? actions = some (s, events))
      (stopping : s.stopping = true) (hx : s.sending? who = some (.writing h frame call)) :
      Fails s who := by
    obtain ⟨rest, total, cause, request, more, stop⟩ := stopped_of_sending run stopping hx
    obtain ⟨c, hc⟩ := connection?_of_knows (directed_of_steps? run who _ hx)
    obtain ⟨line, hline, -⟩ := State.lines_of_connection? hc
    have hl : s.link? h.channel = some line.link := by simp [State.link?, hline]
    have stopped : call.poll? s.moment .server who (.proceed readChunk) line.link c.locks = _ :=
      Call.poll?_of_stopped readChunk (by simp [request, more]) stop
    have poll := State.poll?_of_connection? hl hc stopped
    refine fails_of_ended hx (f := .transport ⟨call.request.operation, cause⟩) ?_
    unfold State.send?
    simp only [poll, bind, Option.bind_some]
    exact ⟨_, _, rfl⟩
  have holding {s : State} {actions : List Action} {events : List Event} {h : Handle}
      {message : OpenFlow.Message}
      (run : (State.start settings handler capacity).steps? actions = some (s, events))
      (stopping : s.stopping = true) (hx : s.sending? who = some (.holding h message)) :
      Fails s who := by
    obtain ⟨c, hc⟩ := connection?_of_knows (directed_of_steps? run who _ hx)
    cases encoded : Frame.encode { xid := c.nextXid, message } with
    | error e =>
      refine fails_of_ended hx (f := .frame e) ?_
      unfold State.send?
      simp only [hc, encoded, bind, Option.bind_some]
      exact ⟨_, _, rfl⟩
    | ok bytes =>
      obtain ⟨u, seen, frame, call, sent⟩ : ∃ u seen frame call,
          s.send? who (.proceed readChunk) (.holding h message) =
            some (u, seen, .inl (.writing h frame call)) := by
        unfold State.send?
        simp only [hc, encoded, bind, Option.bind_some]
        exact ⟨_, _, _, _, rfl⟩
      exact fails_of_goes_on hx ⟨u, seen, sent⟩ run stopping fun _ _ _ => writing
  cases x with
  | writing h frame call => exact writing run stopping hx
  | holding h message => exact holding run stopping hx
  | looking target message =>
    cases find : s.registry.find target with
    | error f =>
      refine fails_of_ended hx (f := f) ?_
      unfold State.send?
      simp only [find]
      exact ⟨_, _, rfl⟩
    | ok h =>
      refine fails_of_goes_on hx (y := .holding h message) ?_ run stopping fun _ _ _ => holding
      unfold State.send?
      simp only [find]
      exact ⟨_, _, rfl⟩

/-- **What becomes of a message** that a task has on its way while the controller is stopping. -/
structure Fruitless (who : Actor) (t : State) (events : List Event)
    (result : Option (Except Failure UInt32)) : Prop where
  silent : ∀ i, Event.wire i events = []
  undelivered : ∀ xid, result ≠ some (.ok xid)
  /-- It has failed, or some steps of its task make it fail. -/
  fails : (∃ f, result = some (.error f)) ∨ Fails t who

/-- A message stays on its way in a stopping controller until it fails. -/
lemma undelivered_of_watch {rest : List Action} {result : Option (Except Failure UInt32)} :
    ∀ {actions : List Action} {s : State} {past events : List Event} {x : Sending},
      (State.start settings handler capacity).steps? actions = some (s, past) →
      s.stopping = true → s.sending? who = some x →
      s.watch? who rest = some (t, events, result) →
      (∃ f, result = some (.error f)) ∨ result = none ∧ Fails t who := by
  induction rest with
  | nil =>
    intro actions s past events x run stopping hx watch
    cases watch
    exact .inr ⟨rfl, fails_of_sending run stopping hx⟩
  | cons a rest ih =>
    intro actions s past events x run stopping hx watch
    obtain ⟨⟨u, new⟩, step, watch⟩ := Option.bind_eq_some_iff.1 watch
    have further : (State.start settings handler capacity).steps? (actions ++ [a]) =
        some (u, past ++ new) := State.steps?_concat.2 ⟨s, past, new, run, step, rfl⟩
    have stopping' := (step?_kept step).stopping stopping
    have carried := step?_carries (orderly_of_run run) step hx
    dsimp only at watch
    generalize s.returned? who a = returned at carried watch
    cases carried with
    | rests same silent =>
      obtain ⟨⟨v, more, result'⟩, watched, e⟩ := Option.map_eq_some_iff.1 watch
      cases e
      exact ih further stopping' same watched
    | @moves u' seen result' step' next written =>
      cases result' with
      | inl y =>
        obtain ⟨⟨v, more, result'⟩, watched, e⟩ := Option.map_eq_some_iff.1 watch
        cases e
        exact ih further stopping' next watched
      | inr answer =>
        cases watch
        cases answer with
        | error f => exact .inl ⟨f, rfl⟩
        | ok xid => exact (step'.undelivered run stopping hx).elim

/-- **No message gets through once the controller is stopping**, whether it was on its way before or
not, and none puts a byte in. -/
theorem fruitless_of_watch
    (run : (State.start settings handler capacity).steps? actions = some (s, events))
    (stopping : s.stopping = true) (hx : s.sending? who = some x) {rest : List Action}
    {later : List Event} {result : Option (Except Failure UInt32)}
    (watch : s.watch? who rest = some (t, later, result)) : Fruitless who t later result := by
  have ends := undelivered_of_watch run stopping hx watch
  refine ⟨fun i => ?_, fun xid e => ?_, ends.imp_right And.right⟩
  · have stay : s.steps? [] = some (s, []) := rfl
    obtain ⟨more, steps⟩ := steps?_of_watch? stay watch
    exact Silenced.steps run (.inl stopping) steps
  · rcases ends with ⟨f, failed⟩ | ⟨pending, -⟩
    · rw [e] at failed
      cases failed
    · rw [e] at pending
      cases pending

end Stopping

/-! ### Tasks in the queues -/

section Queues

/-- Who stands in a queue of a line has begun a call on it. -/
def State.Begun (s : State) : Prop :=
  ∀ i w, (s.locks i).Queued w → ∃ job, s.job? w = some job ∧ job.line = i ∧ job.call.started = true

variable {s t : State} {who : Actor} {before after : Option Job} {events : List Event}

/-- **Whatever a task does, those in the queues have begun.** -/
lemma State.Begun.step (h : s.Begun)
    (more : ∀ job, before = some job → job.call.request ≠ .write [] 0)
    (hbefore : s.job? who = before) (hafter : t.job? who = after)
    (same : ∀ w, w ≠ who → t.job? w = s.job? w) (works : Works s who t before after events) :
    t.Begun := by
  have others {i : Nat} {w : Actor} (queued : (s.locks i).Queued w) (other : w ≠ who) :
      ∃ job, t.job? w = some job ∧ job.line = i ∧ job.call.started = true := by
    rw [same w other]
    exact h i w queued
  have elsewhere {i : Nat} {w : Actor} {job : Job} (under : before = some job)
      (away : job.line ≠ i) (queued : (s.locks i).Queued w) : w ≠ who := by
    rintro rfl
    obtain ⟨job', under', line, -⟩ := h i w queued
    rw [hbefore, under] at under'
    cases under'
    exact away line
  intro i w queued
  cases works with
  | begins locks fresh =>
    rw [locks i] at queued
    refine others queued ?_
    rintro rfl
    obtain ⟨job, under, -⟩ := h i w queued
    rw [hbefore] at under
    cases under
  | @waits job call b p _ polling locks pending seen =>
    obtain ⟨link, -, polls⟩ := polling.polls
    rw [locks i] at queued
    by_cases line : job.line = i
    · rw [if_pos line, (polls.locks_of_pending pending).2] at queued
      by_cases own : w = who
      · subst own
        exact ⟨_, hafter, line, polls.started_of_pending pending⟩
      · exact others (line ▸ (Locks.queued_acquire queued).resolve_right own) own
    · rw [if_neg line] at queued
      exact others queued (elsewhere rfl line queued)
  | @ends job b p answer _ _ polling locks ready fresh seen =>
    obtain ⟨link, -, polls⟩ := polling.polls
    rw [locks i] at queued
    by_cases line : job.line = i
    · rw [if_pos line] at queued
      obtain ⟨queued, other⟩ := polls.queued_of_ready (more job rfl) ready queued
      exact others (line ▸ queued) other
    · rw [if_neg line] at queued
      exact others queued (elsewhere rfl line queued)

variable {settings : Settings} {handler : Handler} {capacity : Nat} {actions : List Action}

/-- **Who stands in a queue has begun a call**, in every run. -/
theorem begun_of_steps?
    (run : (State.start settings handler capacity).steps? actions = some (s, events)) :
    s.Begun := by
  refine State.run_induction (P := fun _ s _ => s.Begun) ?_ ?_ run
  · intro i w queued
    simp [State.locks, State.connection?, State.start, Locks.Queued] at queued
  · intro actions s before a t after run ih step
    obtain ⟨who, -, same, works⟩ := State.step?_works (orderly_of_run run) step
    refine ih.step (fun job under => ?_) rfl rfl same works
    obtain ⟨pieces, part, ledger⟩ := ledger_of_steps? job.line run
    exact ledger.desk.request_ne under rfl

end Queues

/-! ### The limits of a running controller -/

section Limits

variable {settings : Settings} {handler : Handler} {capacity : Nat} {actions : List Action}
  {s : State} {events : List Event}

/-- **What limits do in a controller**, whose operations are those of its connections and its
listener. -/
structure LimitsKept (s : State) : Prop where
  operations : Transport.Disciplined Actor
  /-- A call that has not begun leaves the locks alone if a limit ends it. -/
  outside : ∀ who job, s.job? who = some job → job.call.started = false →
    ∀ link cause, (job.call.endedBy who link (s.locks job.line) cause).locks = s.locks job.line
  /-- Once the controller is stopping, no message on its way puts a byte in or gets through. -/
  sends : s.stopping = true → ∀ who x rest t later result, s.sending? who = some x →
    s.watch? who rest = some (t, later, result) → Fruitless who t later result

/-- **A controller keeps the limits of its operations**, in every state it comes to. -/
theorem limits_kept
    (run : (State.start settings handler capacity).steps? actions = some (s, events)) :
    LimitsKept s where
  operations := Transport.disciplined Actor
  outside who job under unstarted link cause := by
    refine ((Transport.disciplined Actor).untouched _ _ link _ cause).2 fun queued => ?_
    obtain ⟨job', under', -, started⟩ := begun_of_steps? run _ _ queued
    rw [under] at under'
    cases under'
    rw [unstarted] at started
    cases started
  sends stopping _ _ _ _ _ _ hx watch := fruitless_of_watch run stopping hx watch

/-- A caller has found its switch when the controller is told to stop. -/
def foundThenStopped : List Action :=
  arrival 0 5 ++ [Action.call (.send (.datapath ⟨5⟩) .barrierRequest), .go (.caller 0), .stop]

theorem limits_kept_foundThenStopped :
    ∃ s events x, (State.start {} (.observer []) 64).steps? foundThenStopped = some (s, events) ∧
      s.stopping = true ∧ s.sending? (.caller 0) = some x ∧ LimitsKept s := by
  obtain ⟨⟨s, events⟩, run⟩ := Option.isSome_iff_exists.1
    (show ((State.start {} (.observer []) 64).steps? foundThenStopped).isSome = true by
      decide +kernel)
  have late : ((State.start {} (.observer []) 64).steps? foundThenStopped).any
      (fun r => r.1.stopping && (r.1.sending? (.caller 0)).isSome) = true := by decide +kernel
  rw [run, Option.any_some, Bool.and_eq_true] at late
  obtain ⟨x, hx⟩ := Option.isSome_iff_exists.1 late.2
  exact ⟨s, events, x, run, late.1, hx, limits_kept run⟩

end Limits

end FlowBurst.Controller
