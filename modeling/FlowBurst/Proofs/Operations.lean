import FlowBurst.Transport.Channel
import Mathlib.Tactic.Lemma

/-!
# What the operations on a connection do

What the limits of a call let pass, and everything that a read, a write, a shutdown, an attempt at a
call and a poll of it can come to. Later arguments look at these cases and at none of the definitions.
Main statements: `Limits.going_iff`, `Link.read?_reads`, `Link.write?_writes`,
`Call.link_of_shutDown`, `Call.attempt_attempts`, `Call.poll?_comes`.
-/

namespace FlowBurst.Transport

/-! ### Limits -/

namespace Limits

variable {l : Limits} {m : Moment}

/-- The limits of a call let it go on just if its deadline has not passed and it is not cancelled,
whether it has been made or is about to be. -/
theorem going_iff (started : Bool) : (if started then l.interruption? m else l.refusal? m) = none ↔
    l.expired m = false ∧ l.cancelled m = false := by
  unfold interruption? refusal?
  cases started <;> cases l.expired m <;> cases l.cancelled m <;> simp

lemma refusal?_eq_none_iff :
    l.refusal? m = none ↔ l.expired m = false ∧ l.cancelled m = false := going_iff false

/-- Why the limits of a call end it. -/
lemma cause_of_stop {started : Bool} {cause : Cause}
    (stop : (if started then l.interruption? m else l.refusal? m) = some cause) :
    cause = .deadline ∧ l.expired m = true ∨ cause = .cancelled ∧ l.cancelled m = true := by
  unfold interruption? refusal? at stop
  repeat' split at stop
  all_goals cases stop
  · exact .inr ⟨rfl, ‹_›⟩
  · exact .inl ⟨rfl, ‹_›⟩
  · exact .inl ⟨rfl, ‹_›⟩
  · exact .inr ⟨rfl, ‹_›⟩

/-- What has no deadline goes on until there is a request to stop. -/
lemma going_of_calm (started : Bool) (calm : m.cancelled = false) :
    (if started then interruption? {} m else refusal? {} m) = none :=
  (going_iff started).2 ⟨rfl, by simp [cancelled, calm]⟩

end Limits

namespace Link

/-! ### Reads and writes -/

/-- What a read of a side comes to: it takes a front of what has arrived, or nothing is left and there
is an end to it. -/
inductive Reads (l : Link) (s : Side) (size : Nat) : Except OsError (List UInt8) → Link → Prop
  | took (left : (l.endpoint s).arrived ≠ []) :
      Reads l s size (.ok ((l.endpoint s).arrived.take size))
        (l.withEndpoint s { l.endpoint s with arrived := (l.endpoint s).arrived.drop size })
  | reset (dry : (l.endpoint s).arrived = []) (reset : l.wasReset = true) :
      Reads l s size (.error .connectionReset) l
  | ended (dry : (l.endpoint s).arrived = [])
      (ended : (l.endpoint s).readingEnded = true ∨ (l.endpoint s.other).writingEnded = true) :
      Reads l s size (.ok []) l

/-- What a write of a side comes to: it puts a front of its bytes behind what has arrived on the other
side, or the connection is gone. -/
inductive Writes (l : Link) (s : Side) (bytes : List UInt8) (limit : Nat) :
    Except OsError Nat → Link → Prop
  | broken (gone : (l.endpoint s).writingEnded = true ∨ (l.endpoint s.other).closed = true) :
      Writes l s bytes limit (.error .brokenPipe) l
  | reset (reset : l.wasReset = true) : Writes l s bytes limit (.error .connectionReset) l
  | put {n : Nat} (writing : (l.endpoint s).writingEnded = false) (kept : l.wasReset = false)
      (there : (l.endpoint s.other).closed = false) (some_put : n ≠ 0)
      (count : n = min (min (max limit 1) (l.room s)) bytes.length) :
      Writes l s bytes limit (.ok n) (l.withEndpoint s.other
        { l.endpoint s.other with arrived := (l.endpoint s.other).arrived ++ bytes.take n })

section Operations

variable {l l' : Link} {s : Side}

theorem read?_reads {size : Nat} {answer : Except OsError (List UInt8)}
    (h : l.read? s size = some (answer, l')) : l.Reads s size answer l' := by
  unfold read? at h
  dsimp only at h
  split at h
  next left =>
    cases h
    exact .took left
  next dry =>
    have dry : (l.endpoint s).arrived = [] := by simpa using dry
    split at h
    next reset =>
      cases h
      exact .reset dry reset
    next =>
      split at h
      next ended =>
        cases h
        exact .ended dry (by simpa using ended)
      next => cases h

theorem write?_writes {bytes : List UInt8} {limit : Nat} {answer : Except OsError Nat}
    (h : l.write? s bytes limit = some (answer, l')) : l.Writes s bytes limit answer l' := by
  unfold write? at h
  dsimp only at h
  split at h
  next ended =>
    cases h
    exact .broken (.inl ended)
  next writing =>
    split at h
    next reset =>
      cases h
      exact .reset reset
    next kept =>
      split at h
      next closed =>
        cases h
        exact .broken (.inr closed)
      next there =>
        split at h
        next => cases h
        next some_put =>
          cases h
          exact .put (eq_false_of_ne_true writing) (eq_false_of_ne_true kept)
            (eq_false_of_ne_true there) some_put rfl

end Operations

/-! ### Shutdowns -/

/-- Whether both sides have ended their writing. -/
def Hushed (l : Link) : Prop := l.client.writingEnded = true ∧ l.server.writingEnded = true

/-- Whether there is no connection left to stop reading from. -/
def Gone (l : Link) : Prop := l.wasReset = true ∨ l.Hushed

instance (l : Link) : Decidable l.Hushed := inferInstanceAs (Decidable (_ ∧ _))

instance (l : Link) : Decidable l.Gone := inferInstanceAs (Decidable (_ ∨ _))

/-- What becomes of a connection when a side reads no more. -/
def deafened (l : Link) (s : Side) : Link :=
  l.withEndpoint s { l.endpoint s with readingEnded := true }

/-- What becomes of a connection when a side stops its reading. -/
def stopReading (l : Link) (s : Side) : Link := if l.Gone then l else l.deafened s

/-- What becomes of a connection when a side shuts a direction down. -/
def shutBy (l : Link) (s : Side) : Direction → Link
  | .reading => l.stopReading s
  | .writing => l.endWriting s
  | .both => (l.endWriting s).stopReading s

/-- Reading can always be stopped, unless there is no connection left to read from. -/
lemma endReading_eq (l : Link) (s : Side) :
    l.endReading s = if l.Gone then .error .notConnected else .ok (l.deafened s) := by
  have gone : (l.wasReset || (l.client.writingEnded && l.server.writingEnded)) = true ↔ l.Gone := by
    simp [Gone, Hushed]
  unfold endReading
  by_cases h : l.Gone
  · rw [if_pos (gone.2 h), if_pos h]
  · rw [if_neg (mt gone.1 h), if_neg h]
    rfl

end Link

/-! ### Calls -/

namespace Call

/-- A call that has been made. -/
abbrev begun (call : Call) : Call := { call with started := true }

lemma stopped?_eq_none_iff {call : Call} {m : Moment} : call.stopped? m = none ↔
    call.limits.expired m = false ∧ call.limits.cancelled m = false := Limits.going_iff call.started

/-- What a read answers, by what came of it. -/
def readAnswer : Except OsError (List UInt8) → Except Failure Reply
  | .ok bytes => .ok (.data bytes)
  | .error e => .error (.system .read e)

/-- What a shutdown answers, by what came of it. -/
def shutdownAnswer : Except OsError Unit → Except Failure Reply
  | .ok _ => .ok .done
  | .error e => .error (.system .shutdown e)

section Shutdowns

variable {link link' : Link} {side : Side} {direction : Direction} {d : Disposition}

/-- A shutdown at which the system fails no call succeeds. -/
lemma shutDown_proceed (link : Link) (side : Side) (direction : Direction) (limit : Nat) :
    shutDown link side direction (.proceed limit) = some (.ok (), link.shutBy side direction) := by
  have reading (link : Link) : shutDown link side .reading (.proceed limit) =
      some (.ok (), link.stopReading side) := by
    unfold shutDown Link.stopReading
    dsimp only
    rw [Link.endReading_eq]
    by_cases gone : link.Gone
    · rw [if_pos gone, if_pos gone]
    · rw [if_neg gone, if_neg gone]
  cases direction with
  | reading => exact reading link
  | writing => rfl
  | both => exact reading (link.endWriting side)

/-- What a shutdown can make of a connection, whatever the system does. -/
lemma link_of_shutDown {answer : Except OsError Unit}
    (h : shutDown link side direction d = some (answer, link')) :
    link' = link ∨ link' = link.endWriting side ∧ direction = .both ∨
      link' = link.shutBy side direction := by
  cases d with
  | proceed limit =>
    rw [shutDown_proceed] at h
    cases h
    exact .inr (.inr rfl)
  | fail c e =>
    cases direction with
    | writing =>
      cases c <;> cases h
      exact .inl rfl
    | reading =>
      cases c with
      | endReading => cases e <;> cases h <;> exact .inl rfl
      | _ => cases h
    | both =>
      cases c with
      | endWriting =>
        cases h
        exact .inl rfl
      | endReading => cases e <;> cases h <;> exact .inr (.inl ⟨rfl, rfl⟩)
      | _ => cases h

/-- A shutdown fails only by what the system has made up its mind to give. -/
lemma error_of_shutDown {e : OsError}
    (h : shutDown link side direction d = some (.error e, link')) : ∃ c, d = .fail c e := by
  cases d with
  | proceed limit =>
    rw [shutDown_proceed] at h
    cases h
  | fail c given =>
    refine ⟨c, ?_⟩
    cases direction with
    | writing =>
      cases c <;> cases h
      rfl
    | reading =>
      cases c with
      | endReading => cases given <;> cases h <;> rfl
      | _ => cases h
    | both =>
      cases c with
      | endWriting =>
        cases h
        rfl
      | endReading => cases given <;> cases h <;> rfl
      | _ => cases h

end Shutdowns

variable {τ : Type} [DecidableEq τ]

/-- What an attempt at a call comes to, by a task that holds the lock. -/
inductive Attempts (side : Side) (who : τ) (d : Disposition) (call : Call) (link : Link)
    (locks : Locks τ) : Polled τ → Prop
  | interrupted {rest : List UInt8} {total : Nat} (request : call.request = .write rest total) :
      Attempts side who d call link locks { link, locks, progress := .pending call }
  | refused {c : SystemCall} {e : OsError}
      (unshut : ∀ direction, call.request ≠ .shutdown direction) (given : d = .fail c e) :
      Attempts side who d call link locks
        { link, locks := locks.release who
          progress := .ready (.error (.system call.request.operation e)) }
  | reads {size : Nat} {answer : Except OsError (List UInt8)} {link' : Link}
      (request : call.request = .read size) (read : link.read? side size = some (answer, link')) :
      Attempts side who d call link locks
        { link := link', locks := locks.release who, progress := .ready (readAnswer answer) }
  | broken {rest : List UInt8} {total limit : Nat} {e : OsError} {link' : Link}
      (request : call.request = .write rest total)
      (wrote : link.write? side rest limit = some (.error e, link')) :
      Attempts side who d call link locks
        { link := link', locks := locks.release who, progress := .ready (.error (.system .write e)) }
  | completes {rest : List UInt8} {total limit n : Nat} {link' : Link}
      (request : call.request = .write rest total)
      (wrote : link.write? side rest limit = some (.ok n, link')) (all : rest.drop n = []) :
      Attempts side who d call link locks
        { link := link', locks := locks.release who, put := rest
          progress := .ready (.ok (.written total)) }
  | advances {rest : List UInt8} {total limit n : Nat} {link' : Link}
      (request : call.request = .write rest total)
      (wrote : link.write? side rest limit = some (.ok n, link')) (more : rest.drop n ≠ []) :
      Attempts side who d call link locks
        { link := link', locks, put := rest.take n
          progress := .pending { call with request := .write (rest.drop n) total } }
  | shuts {direction : Direction} {answer : Except OsError Unit} {link' : Link}
      (request : call.request = .shutdown direction)
      (shut : shutDown link side direction d = some (answer, link')) :
      Attempts side who d call link locks
        { link := link', locks := locks.release who, progress := .ready (shutdownAnswer answer) }

/-- What a poll of a call comes to: it is answered at once or stopped, it is attempted, or it waits for
its turn. -/
inductive Comes (m : Moment) (side : Side) (who : τ) (d : Disposition) (call : Call) (link : Link)
    (locks : Locks τ) : Polled τ → Prop
  | empty (request : call.request = .write [] 0) :
      Comes m side who d call link locks { link, locks, progress := .ready (.ok (.written 0)) }
  | stopped {cause : Cause} (more : call.request ≠ .write [] 0) (stop : call.stopped? m = some cause) :
      Comes m side who d call link locks
        { link, locks := locks.release who
          progress := .ready (.error ⟨call.request.operation, cause⟩) }
  | waits (more : call.request ≠ .write [] 0) (going : call.stopped? m = none) :
      Comes m side who d call link locks
        { link, locks := locks.acquire who call.request, progress := .pending call.begun }
  | attempted {p : Polled τ} (more : call.request ≠ .write [] 0) (going : call.stopped? m = none)
      (holds : (locks.acquire who call.request).holds who call.request = true)
      (attempts : Attempts side who d call.begun link (locks.acquire who call.request) p) :
      Comes m side who d call link locks p

section Cases

variable {m : Moment} {side : Side} {who : τ} {d : Disposition} {call : Call} {link : Link}
  {locks : Locks τ} {p : Polled τ}

/-- **An attempt does nothing that `Attempts` does not list.** -/
theorem attempt_attempts (h : attempt side who d call link locks = some p) :
    Attempts side who d call link locks p := by
  unfold attempt at h
  dsimp only at h
  split at h
  next size request =>
    have unshut : ∀ direction, call.request ≠ .shutdown direction := by simp [request]
    split at h
    · cases h
      exact .refused unshut rfl
    · cases h
    · obtain ⟨⟨answer, link'⟩, read, rfl⟩ := Option.map_eq_some_iff.1 h
      rw [request]
      cases answer <;> exact .reads request read
  next rest total request =>
    have unshut : ∀ direction, call.request ≠ .shutdown direction := by simp [request]
    split at h
    · cases h
      exact .interrupted request
    · cases h
      exact .refused unshut rfl
    · cases h
    next limit =>
      split at h
      · cases h
      next e link' wrote =>
        cases h
        rw [request]
        exact .broken request wrote
      next n link' wrote =>
        split at h
        next all =>
          cases h
          have whole : rest.take n = rest := List.take_of_length_le (List.drop_eq_nil_iff.1 all)
          rw [whole]
          exact .completes request wrote all
        next more =>
          cases h
          exact .advances request wrote more
  next direction request =>
    obtain ⟨⟨answer, link'⟩, shut, rfl⟩ := Option.map_eq_some_iff.1 h
    rw [request]
    cases answer <;> exact .shuts request shut

/-- **A poll does nothing that `Comes` does not list.** -/
theorem poll?_comes (h : call.poll? m side who d link locks = some p) :
    Comes m side who d call link locks p := by
  unfold poll? at h
  dsimp only at h
  split at h
  next request =>
    cases d <;> cases h
    exact .empty request
  next more =>
    split at h
    next cause stop =>
      cases d <;> cases h
      exact .stopped more stop
    next going =>
      rcases Option.or_eq_some_iff.1 h with h | ⟨-, h⟩
      · split at h
        next holds => exact .attempted more going holds (attempt_attempts h)
        next => cases h
      · split at h
        · cases h
        · cases d <;> cases h
          exact .waits more going

end Cases

end Call

end FlowBurst.Transport
