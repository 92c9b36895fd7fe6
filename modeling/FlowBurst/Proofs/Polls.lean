import FlowBurst.Proofs.Operations

/-!
# What a poll of a call does

The queues of the locks of a channel, and everything that a poll can do to them: it stops the call,
lets it wait in the queue, puts some or all of the bytes of a write in, or ends it some other way.
Main statement: `Call.poll?_polls`.
-/

namespace FlowBurst.Transport

/-! ### Queues -/

namespace Locks

variable {τ : Type} [DecidableEq τ] (queue : List τ) (who : τ)

variable {queue who} in
@[simp] lemma mem_ask {w : τ} : w ∈ ask queue who ↔ w ∈ queue ∨ w = who := by
  unfold ask
  split
  next h =>
    constructor
    · exact .inl
    · rintro (hw | rfl)
      · exact hw
      · exact h
  · simp

variable {queue who} in
@[simp] lemma mem_leave {w : τ} : w ∈ leave queue who ↔ w ∈ queue ∧ w ≠ who := by
  simp [leave]

variable {queue} in
lemma nodup_ask (h : queue.Nodup) : (ask queue who).Nodup := by
  unfold ask
  split
  · exact h
  next hn =>
    refine List.nodup_append.2 ⟨h, List.nodup_cons.2 ⟨List.not_mem_nil, List.nodup_nil⟩, ?_⟩
    rintro a ha b hb rfl
    exact hn (List.mem_singleton.1 hb ▸ ha)

variable {queue} in
lemma nodup_leave (h : queue.Nodup) : (leave queue who).Nodup := h.filter _

/-- Who leaves the queue need not have asked. -/
@[simp] lemma leave_ask : leave (ask queue who) who = leave queue who := by
  unfold ask
  split
  · rfl
  · simp [leave, List.filter_append]

/-- Nobody gets ahead of who is in the queue. -/
lemma head?_ask : (ask queue who).head? = if queue = [] then some who else queue.head? := by
  unfold ask
  cases queue with
  | nil => rfl
  | cons w rest =>
    split <;> rfl

variable {queue who} in
/-- The head of a queue stays until it leaves itself. -/
lemma head?_leave (h : queue.head? ≠ some who) : (leave queue who).head? = queue.head? := by
  cases queue with
  | nil => rfl
  | cons w rest =>
    have hw : w ≠ who := fun e => h (by rw [e]; rfl)
    simp [leave, hw]

end Locks

/-! ### Links -/

namespace Link

/-- Whether no byte enters the pipe of the accepting side any more. -/
def shut (l : Link) : Bool := l.server.writingEnded || l.wasReset || l.client.closed

lemma shut_eq_false {l : Link} : l.shut = false ↔
    l.server.writingEnded = false ∧ l.wasReset = false ∧ l.client.closed = false := by
  simp [shut, and_assoc]

/-- Whether there is an end to what the accepting side reads. -/
def ends (l : Link) : Bool := l.server.readingEnded || l.client.writingEnded || l.wasReset

/-- What has ended on a connection. -/
def flags (l : Link) : List Bool :=
  [l.server.readingEnded, l.server.writingEnded, l.client.writingEnded, l.client.closed, l.wasReset]

/-- What a connection may become: its pipes hold as much as before, and what has ended stays so. -/
structure Becomes (l l' : Link) : Prop where
  capacity : l'.capacity = l.capacity
  shut : l.shut = true → l'.shut = true
  writing : l.server.writingEnded = true → l'.server.writingEnded = true
  ends : l.ends = true → l'.ends = true

namespace Becomes

variable {l l' l'' : Link}

lemma rfl : Becomes l l := ⟨by rfl, id, id, id⟩

lemma trans (h : Becomes l l') (k : Becomes l' l'') : Becomes l l'' :=
  ⟨k.capacity.trans h.capacity, k.shut ∘ h.shut, k.writing ∘ h.writing, k.ends ∘ h.ends⟩

/-- A connection on which nothing more has ended. -/
lemma of_eq (capacity : l'.capacity = l.capacity) (same : flags l' = flags l) : Becomes l l' := by
  simp only [flags, List.cons.injEq, and_true] at same
  obtain ⟨reading, writing, far, closed, reset⟩ := same
  exact ⟨capacity, fun h => by rwa [Link.shut, writing, reset, closed], fun h => by rwa [writing],
    fun h => by rwa [Link.ends, reading, far, reset]⟩

lemma endWriting (l : Link) (s : Side) : Becomes l (l.endWriting s) := by
  cases s
  · exact ⟨by rfl, id, id, fun _ => by simp [Link.ends, Link.endWriting, withEndpoint]⟩
  · exact ⟨by rfl, fun _ => by simp [Link.shut, Link.endWriting, withEndpoint], fun _ => by rfl, id⟩

lemma close (l : Link) (s : Side) : Becomes l (l.close s) := by
  cases s
  · exact ⟨by rfl, fun _ => by simp [Link.shut, Link.close, withEndpoint], id,
      fun _ => by simp [Link.ends, Link.close, withEndpoint]⟩
  · exact ⟨by rfl, fun _ => by simp [Link.shut, Link.close, withEndpoint], fun _ => by rfl, id⟩

lemma reset (l : Link) : Becomes l l.reset :=
  ⟨by rfl, fun _ => by simp [Link.shut, Link.reset], id, fun _ => by simp [Link.ends, Link.reset]⟩

lemma deafened (l : Link) (s : Side) : Becomes l (l.deafened s) := by
  cases s
  · exact ⟨by rfl, id, id, id⟩
  · exact ⟨by rfl, id, id, fun _ => by simp [Link.ends, Link.deafened, withEndpoint]⟩

lemma stopReading (l : Link) (s : Side) : Becomes l (l.stopReading s) := by
  unfold Link.stopReading
  split
  · exact rfl
  · exact deafened l s

lemma of_read? {s : Side} {size : Nat} {answer : Except OsError (List UInt8)}
    (h : l.read? s size = some (answer, l')) : Becomes l l' := by
  cases read?_reads h with
  | took left => cases s <;> exact of_eq (by rfl) (by rfl)
  | reset dry reset | ended dry ended => exact rfl

lemma of_write? {s : Side} {bytes : List UInt8} {limit : Nat} {answer : Except OsError Nat}
    (h : l.write? s bytes limit = some (answer, l')) : Becomes l l' := by
  cases write?_writes h with
  | broken gone | reset reset => exact rfl
  | put => cases s <;> exact of_eq (by rfl) (by rfl)

end Becomes

/-- A write that puts bytes in puts in some, on a connection that is not shut. -/
lemma write?_eq_ok {l l' : Link} {bytes : List UInt8} {limit n : Nat}
    (h : l.write? .server bytes limit = some (.ok n, l')) :
    n ≠ 0 ∧ n ≤ bytes.length ∧ l.capacity ≠ 0 ∧ l.shut = false := by
  cases write?_writes h with
  | put writing kept there some_put count =>
    refine ⟨some_put, by omega, fun e => some_put ?_, shut_eq_false.2 ⟨writing, kept, there⟩⟩
    simp [count, room, e]

/-- A write on a connection that is not shut puts bytes in if there is room. -/
lemma write?_of_room {l : Link} (going : l.shut = false) (room : l.room .server ≠ 0)
    {bytes : List UInt8} (more : bytes ≠ []) (limit : Nat) :
    ∃ n l', l.write? .server bytes limit = some (.ok n, l') := by
  obtain ⟨h₁, h₂, h₃⟩ := shut_eq_false.1 going
  have length := List.length_pos_iff.2 more
  have fits : min (min (max limit 1) (l.room .server)) bytes.length ≠ 0 := by omega
  unfold write?
  dsimp only [endpoint, Side.other]
  simp only [h₁, h₂, h₃, Bool.false_eq_true, if_false, if_neg fits]
  exact ⟨_, _, rfl⟩

end Link

/-! ### Polls -/

namespace Call

variable {τ : Type} [DecidableEq τ]

/-- What the limits of a call keep it to: a write can be cancelled, and a shutdown does not wait for
ever. -/
def Bounded (call : Call) : Prop :=
  match call.request with
  | .write _ _ => call.limits.cancellable = true
  | .shutdown _ => call.limits.deadline ≠ none
  | .read _ => True

/-- What a poll of a call can do. -/
inductive Polls (m : Moment) (side : Side) (who : τ) (call : Call) (link : Link) (locks : Locks τ) :
    Polled τ → Prop
  | empty (request : call.request = .write [] 0) :
      Polls m side who call link locks { link, locks, progress := .ready (.ok (.written 0)) }
  | stopped {cause : Cause} (stop : call.stopped? m = some cause) :
      Polls m side who call link locks
        { link, locks := locks.release who
          progress := .ready (.error ⟨call.request.operation, cause⟩) }
  | waits (going : call.stopped? m = none) :
      Polls m side who call link locks
        { link, locks := locks.acquire who call.request, progress := .pending call.begun }
  | advances {rest : List UInt8} {total limit n : Nat} {link' : Link}
      (going : call.stopped? m = none) (request : call.request = .write rest total)
      (holds : (Locks.ask locks.writers who).head? = some who)
      (wrote : link.write? side rest limit = some (.ok n, link')) (more : rest.drop n ≠ []) :
      Polls m side who call link locks
        { link := link', locks := locks.acquire who call.request, put := rest.take n
          progress := .pending { call.begun with request := .write (rest.drop n) total } }
  | completes {rest : List UInt8} {total limit n : Nat} {link' : Link}
      (going : call.stopped? m = none) (request : call.request = .write rest total)
      (holds : (Locks.ask locks.writers who).head? = some who)
      (wrote : link.write? side rest limit = some (.ok n, link')) (all : rest.drop n = []) :
      Polls m side who call link locks
        { link := link', locks := (locks.acquire who call.request).release who, put := rest
          progress := .ready (.ok (.written total)) }
  | ends {answer : Except Failure Reply} {link' : Link}
      (going : call.stopped? m = none)
      (failed : ∀ rest total, call.request = .write rest total → ∃ f, answer = .error f)
      (becomes : link.Becomes link') :
      Polls m side who call link locks
        { link := link', locks := (locks.acquire who call.request).release who
          progress := .ready answer }

lemma becomes_of_shutDown {link link' : Link} {side : Side} {direction : Direction} {d : Disposition}
    {answer : Except OsError Unit} (h : shutDown link side direction d = some (answer, link')) :
    link.Becomes link' := by
  obtain rfl | ⟨rfl, -⟩ | rfl := link_of_shutDown h
  · exact .rfl
  · exact .endWriting link side
  · cases direction with
    | reading => exact .stopReading link side
    | writing => exact .endWriting link side
    | both => exact (Link.Becomes.endWriting link side).trans (.stopReading _ side)

/-- What a poll does that makes an attempt. -/
lemma Attempts.polls {m : Moment} {side : Side} {who : τ} {d : Disposition} {call : Call}
    {link : Link} {locks : Locks τ} {p : Polled τ} (going : call.stopped? m = none)
    (holds : (locks.acquire who call.request).holds who call.request = true)
    (h : Attempts side who d call.begun link (locks.acquire who call.request) p) :
    Polls m side who call link locks p := by
  have head {rest : List UInt8} {total : Nat} (request : call.request = .write rest total) :
      (Locks.ask locks.writers who).head? = some who := by
    rw [request] at holds
    simpa [Locks.holds, Locks.acquire] using holds
  cases h with
  | interrupted request => exact .waits going
  | refused unshut given => exact .ends going (fun _ _ _ => ⟨_, rfl⟩) .rfl
  | reads request read =>
    exact .ends going (fun _ _ e => by cases request.symm.trans e) (.of_read? read)
  | broken request wrote => exact .ends going (fun _ _ _ => ⟨_, rfl⟩) (.of_write? wrote)
  | completes request wrote all => exact .completes going request (head request) wrote all
  | advances request wrote more => exact .advances going request (head request) wrote more
  | shuts request shut =>
    exact .ends going (fun _ _ e => by cases request.symm.trans e) (becomes_of_shutDown shut)

/-- **A poll does nothing that `Polls` does not list.** -/
theorem poll?_polls {m : Moment} {side : Side} {who : τ} {d : Disposition} {call : Call}
    {link : Link} {locks : Locks τ} {p : Polled τ}
    (h : call.poll? m side who d link locks = some p) : Polls m side who call link locks p := by
  cases poll?_comes h with
  | empty request => exact .empty request
  | stopped more stop => exact .stopped stop
  | waits more going => exact .waits going
  | attempted more going holds attempts => exact attempts.polls going holds

namespace Polls

variable {m : Moment} {side : Side} {who : τ} {call : Call} {link : Link} {locks : Locks τ}
  {p : Polled τ}

/-- A call that goes on has asked for its lock. -/
lemma locks_of_pending (h : Polls m side who call link locks p) {call' : Call}
    (pending : p.progress = .pending call') :
    call.stopped? m = none ∧ p.locks = locks.acquire who call.request := by
  cases h with
  | waits going | advances going _ _ _ _ => exact ⟨going, rfl⟩
  | empty | stopped | completes | ends => cases pending

/-- A call that goes on is what it was, apart from what it has put in. -/
lemma request_of_pending (h : Polls m side who call link locks p) {call' : Call}
    (pending : p.progress = .pending call') :
    call'.limits = call.limits ∧ (call'.request = call.request ∧ p.put = [] ∨
      ∃ rest total n, call.request = .write rest total ∧
        call'.request = .write (rest.drop n) total ∧ p.put = rest.take n) := by
  cases h with
  | waits going =>
    cases pending
    exact ⟨rfl, .inl ⟨rfl, rfl⟩⟩
  | @advances rest total limit n link' going request holds wrote more =>
    cases pending
    exact ⟨rfl, .inr ⟨rest, total, n, request, rfl, rfl⟩⟩
  | empty | stopped | completes | ends => cases pending

/-- A poll leaves the queue of the readers alone, or its task joins it with a read, or leaves it. -/
lemma readers (h : Polls m side who call link locks p) :
    p.locks.readers = locks.readers ∨ p.locks.readers = Locks.leave locks.readers who ∨
      (∃ size, call.request = .read size) ∧ p.locks.readers = Locks.ask locks.readers who := by
  cases h with
  | empty => exact .inl rfl
  | stopped => exact .inr (.inl rfl)
  | waits =>
    cases hr : call.request with
    | read size => exact .inr (.inr ⟨⟨size, rfl⟩, rfl⟩)
    | write rest total | shutdown direction => exact .inl rfl
  | advances going request =>
    rw [request]
    exact .inl rfl
  | completes going request =>
    rw [request]
    exact .inr (.inl rfl)
  | ends =>
    refine .inr (.inl ?_)
    cases hr : call.request with
    | read size => exact Locks.leave_ask locks.readers who
    | write rest total | shutdown direction => rfl

/-- A call that ends leaves the queues, whether it had asked for its lock or not. -/
lemma writers_of_ready (h : Polls m side who call link locks p) {answer : Except Failure Reply}
    (ready : p.progress = .ready answer) (more : call.request ≠ .write [] 0) :
    p.locks.writers = Locks.leave (if call.stopped? m = none then
      (locks.acquire who call.request).writers else locks.writers) who := by
  cases h with
  | empty request => exact (more request).elim
  | stopped stop => rw [if_neg (by simp [stop])]; rfl
  | completes going _ _ _ _ | ends going _ => rw [if_pos going]; rfl
  | waits | advances => cases ready

/-- A poll makes of a connection what it may become. -/
lemma becomes (h : Polls m side who call link locks p) : link.Becomes p.link := by
  cases h with
  | empty | stopped | waits => exact .rfl
  | advances going request holds wrote more => exact .of_write? wrote
  | completes going request holds wrote all => exact .of_write? wrote
  | ends going failed becomes => exact becomes

/-- Only the holder of the lock writes its last byte. -/
lemma holds_of_written (h : Polls m side who call link locks p) {reply : Reply}
    (ready : p.progress = .ready (.ok reply)) {rest : List UInt8} {total : Nat}
    (request : call.request = .write rest total) (more : rest ≠ []) :
    call.stopped? m = none ∧ (locks.acquire who call.request).writers.head? = some who := by
  cases h with
  | empty e =>
    rw [e] at request
    cases request
    exact (more rfl).elim
  | completes going e holds wrote all => exact ⟨going, by rw [e]; exact holds⟩
  | ends going failed =>
    obtain ⟨f, rfl⟩ := failed rest total request
    cases ready
  | stopped | waits | advances => cases ready

end Polls

/-! ### Polls that are not in vain -/

section Attempts

variable {m : Moment} {who : τ} {call : Call} {link : Link} {locks : Locks τ} (limit : Nat)

/-- A poll of a call that is stopped ends the call. -/
lemma poll?_of_stopped {side : Side} {cause : Cause} (more : call.request ≠ .write [] 0)
    (stop : call.stopped? m = some cause) :
    call.poll? m side who (.proceed limit) link locks =
      some { link, locks := locks.release who
             progress := .ready (.error ⟨call.request.operation, cause⟩) } := by
  unfold poll?
  rw [if_neg more, stop]
  rfl

/-- A poll by the holder of the lock is an attempt. -/
lemma poll?_of_attempt {side : Side} {d : Disposition} {p : Polled τ}
    (more : call.request ≠ .write [] 0) (going : call.stopped? m = none)
    (holds : (locks.acquire who call.request).holds who call.request = true)
    (attempted : attempt side who d call.begun link (locks.acquire who call.request) = some p) :
    call.poll? m side who d link locks = some p := by
  unfold poll?
  dsimp only
  rw [if_neg more, going]
  dsimp only
  rw [if_pos holds, attempted]
  rfl

/-- The lock of a request of the writers is that of the head of their queue. -/
lemma holds_of_head (unread : ∀ size, call.request ≠ .read size)
    (head : (Locks.ask locks.writers who).head? = some who) :
    (locks.acquire who call.request).holds who call.request = true := by
  cases request : call.request with
  | read size => exact (unread size request).elim
  | write rest total | shutdown direction => simpa [Locks.holds, Locks.acquire] using head

/-- A write puts bytes in if its task has the lock and there is room. -/
lemma poll?_of_room {rest : List UInt8} {total : Nat} (request : call.request = .write rest total)
    (more : rest ≠ []) (going : call.stopped? m = none)
    (head : (Locks.ask locks.writers who).head? = some who) (shut : link.shut = false)
    (room : link.room .server ≠ 0) :
    ∃ p, call.poll? m .server who (.proceed limit) link locks = some p ∧ p.put ≠ [] := by
  obtain ⟨n, link', wrote⟩ := Link.write?_of_room shut room more limit
  have put : rest.take n ≠ [] := by
    simp [(Link.write?_eq_ok wrote).1, more]
  have attempted : ∃ p, attempt .server who (.proceed limit) call.begun link
      (locks.acquire who call.request) = some p ∧ p.put ≠ [] := by
    unfold attempt
    dsimp only
    rw [request]
    dsimp only
    rw [wrote]
    dsimp only
    split
    · exact ⟨_, rfl, put⟩
    · exact ⟨_, rfl, put⟩
  obtain ⟨p, hp, hput⟩ := attempted
  exact ⟨p, poll?_of_attempt (by rw [request]; simp [more]) going
    (holds_of_head (by rw [request]; simp) head) hp, hput⟩

/-- A write fails on a connection whose writing has ended, if its task has the lock. -/
lemma poll?_of_ended {rest : List UInt8} {total : Nat} (request : call.request = .write rest total)
    (more : rest ≠ []) (going : call.stopped? m = none)
    (head : (Locks.ask locks.writers who).head? = some who)
    (ended : link.server.writingEnded = true) :
    ∃ p f, call.poll? m .server who (.proceed limit) link locks = some p ∧
      p.progress = .ready (.error f) := by
  have refused : link.write? .server rest limit = some (.error .brokenPipe, link) := by
    unfold Link.write?
    exact if_pos ended
  refine ⟨_, _, poll?_of_attempt (by rw [request]; simp [more]) going
    (holds_of_head (by rw [request]; simp) head) (?_ : _ = some {
      link, locks := (locks.acquire who call.request).release who
      progress := .ready (.error (.system call.request.operation .brokenPipe)) }), rfl⟩
  unfold attempt
  dsimp only
  rw [request]
  dsimp only
  rw [refused]

/-- How a read comes to an answer: it is stopped, the system fails it, or it takes what there is. -/
inductive Fetches (m : Moment) (side : Side) (call : Call) (size : Nat) (link : Link) :
    Link → Except Failure Reply → Prop
  | stopped {cause : Cause} (stop : call.stopped? m = some cause) :
      Fetches m side call size link link (.error ⟨.read, cause⟩)
  | failed (e : OsError) : Fetches m side call size link link (.error (.system .read e))
  | took {answer : Except OsError (List UInt8)} {link' : Link}
      (read : link.read? side size = some (answer, link')) :
      Fetches m side call size link link' (readAnswer answer)

/-- **How a poll ends a read.** -/
theorem fetches_of_ready {side : Side} {size : Nat} {d : Disposition} {p : Polled τ}
    (request : call.request = .read size) (poll : call.poll? m side who d link locks = some p)
    {answer : Except Failure Reply} (ready : p.progress = .ready answer) :
    Fetches m side call size link p.link answer := by
  cases poll?_comes poll with
  | empty empty => cases request.symm.trans empty
  | stopped more stop =>
    cases ready
    rw [request]
    exact .stopped stop
  | waits more going => cases ready
  | attempted more going holds attempts =>
    cases attempts with
    | refused unshut given =>
      cases ready
      rw [show call.begun.request = .read size from request]
      exact .failed _
    | reads reads read =>
      cases request.symm.trans reads
      cases ready
      exact .took read
    | interrupted other | broken other | completes other | advances other | shuts other =>
      cases request.symm.trans other

/-- A read that no other task is ahead of ends when there is an answer. -/
lemma poll?_of_answer {side : Side} {size : Nat} (request : call.request = .read size)
    (going : call.stopped? m = none) (readers : locks.readers = [] ∨ locks.readers = [who])
    {answer : Except OsError (List UInt8)} {link' : Link}
    (read : link.read? side size = some (answer, link')) :
    ∃ locks', call.poll? m side who (.proceed limit) link locks =
      some { link := link', locks := locks', progress := .ready (readAnswer answer) } := by
  have holds : (locks.acquire who call.request).holds who call.request = true := by
    rw [request]
    rcases readers with e | e <;> simp [Locks.holds, Locks.acquire, Locks.ask, e]
  refine ⟨(locks.acquire who call.request).release who,
    poll?_of_attempt (by rw [request]; simp) going holds ?_⟩
  unfold attempt
  dsimp only
  rw [request]
  dsimp only
  rw [read]
  cases answer <;> rfl

/-- A read that no other task is ahead of takes what there is to read. -/
lemma poll?_of_read {side : Side} {size : Nat} (request : call.request = .read size)
    (going : call.stopped? m = none) (readers : locks.readers = [] ∨ locks.readers = [who])
    {bytes : List UInt8} {link' : Link} (read : link.read? side size = some (.ok bytes, link')) :
    ∃ locks', call.poll? m side who (.proceed limit) link locks =
      some { link := link', locks := locks', progress := .ready (.ok (.data bytes)) } :=
  poll?_of_answer limit request going readers read

/-- A shutdown ends both directions, if its task has the lock. -/
lemma poll?_of_shutdown (request : call.request = .shutdown .both) (going : call.stopped? m = none)
    (head : (Locks.ask locks.writers who).head? = some who) :
    ∃ p answer, call.poll? m .server who (.proceed limit) link locks = some p ∧
      p.progress = .ready answer ∧ p.link.server.writingEnded = true ∧ p.link.ends = true := by
  have holds : (locks.acquire who call.request).holds who call.request = true :=
    holds_of_head (by rw [request]; simp) head
  have attempted : ∃ link', shutDown link .server .both (.proceed limit) = some (.ok (), link') ∧
      link'.server.writingEnded = true ∧ link'.ends = true := by
    unfold shutDown
    dsimp only
    unfold Link.endReading
    split
    next link' e =>
      split at e
      · cases e
      · cases e
        exact ⟨_, rfl, rfl, by simp [Link.ends, Link.withEndpoint]⟩
    next e =>
      split at e
      next both =>
        refine ⟨_, rfl, rfl, ?_⟩
        have both : (link.wasReset || link.client.writingEnded) = true := by
          simpa [Link.endWriting, Link.withEndpoint] using both
        simp only [Link.ends, Link.endWriting, Link.withEndpoint, Bool.or_assoc]
        rw [Bool.or_comm link.client.writingEnded, both, Bool.or_true]
      · cases e
    next other e =>
      split at e
      · cases e
        exact (other rfl).elim
      · cases e
  obtain ⟨link', shuts, writing, ends⟩ := attempted
  refine ⟨{ link := link', locks := (locks.acquire who call.request).release who
            progress := .ready (.ok .done) }, _,
    poll?_of_attempt (by rw [request]; simp) going holds ?_, rfl, writing, ends⟩
  unfold attempt
  dsimp only
  rw [request]
  dsimp only
  rw [shuts]
  rfl

/-- A shutdown that ends without being stopped had the lock. -/
lemma head_of_shutdown {side : Side} {d : Disposition} {direction : Direction}
    (request : call.request = .shutdown direction) (going : call.stopped? m = none) {p : Polled τ}
    (poll : call.poll? m side who d link locks = some p) {answer : Except Failure Reply}
    (ready : p.progress = .ready answer) : (Locks.ask locks.writers who).head? = some who := by
  cases poll?_comes poll with
  | empty empty => cases request.symm.trans empty
  | stopped more stop => cases going.symm.trans stop
  | waits more going => cases ready
  | attempted more going holds attempts =>
    rw [request] at holds
    simpa [Locks.holds, Locks.acquire] using holds

end Attempts

end Call

end FlowBurst.Transport
