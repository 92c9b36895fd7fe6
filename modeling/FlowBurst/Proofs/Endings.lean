import FlowBurst.Proofs.Polls

/-!
# Directions that are over

Either side of a connection may end its writing and stop its reading, and a reset or the far side may
have done so before. What has ended stays so, whatever is read, written or shut down; shutting it down
again changes nothing; and once neither side writes, no call tells whether one of them still reads.
Main statements: `Link.shutBy_of_over`, `Call.link_of_poll_of_over`, `Call.unseen_deafened`.
-/

namespace FlowBurst.Transport

namespace Link

/-! ### Directions that are over -/

lemma Hushed.writing {l : Link} (hushed : l.Hushed) (s : Side) :
    (l.endpoint s).writingEnded = true := by
  cases s
  · exact hushed.1
  · exact hushed.2

/-- Whether a side has nothing left to shut down in a direction. -/
def Over (l : Link) (s : Side) : Direction → Prop
  | .reading => (l.endpoint s).readingEnded = true ∨ l.Gone
  | .writing => (l.endpoint s).writingEnded = true
  | .both => (l.endpoint s).writingEnded = true ∧ ((l.endpoint s).readingEnded = true ∨ l.Gone)

section Over

variable {l : Link} {s : Side} {direction : Direction}

lemma over_endWriting (l : Link) (s : Side) : (l.endWriting s).Over s .writing := by
  cases s <;> rfl

lemma over_stopReading (l : Link) (s : Side) : (l.stopReading s).Over s .reading := by
  unfold stopReading
  split
  next gone => exact .inr gone
  next => cases s <;> exact .inl rfl

/-- To stop reading is to end no writing. -/
lemma writingEnded_stopReading (l : Link) (s t : Side) :
    ((l.stopReading s).endpoint t).writingEnded = (l.endpoint t).writingEnded := by
  unfold stopReading
  split
  · rfl
  · cases s <;> cases t <;> rfl

/-- What has been shut down is over. -/
lemma over_shutBy (l : Link) (s : Side) (direction : Direction) :
    (l.shutBy s direction).Over s direction := by
  cases direction with
  | reading => exact over_stopReading l s
  | writing => exact over_endWriting l s
  | both => exact ⟨(writingEnded_stopReading _ s s).trans (over_endWriting l s), over_stopReading _ s⟩

lemma endWriting_of_over (past : l.Over s .writing) : l.endWriting s = l := by
  obtain ⟨capacity, ⟨_, _, _, _⟩, ⟨_, _, _, _⟩, _⟩ := l
  cases s <;> cases past <;> rfl

lemma stopReading_of_over (past : l.Over s .reading) : l.stopReading s = l := by
  unfold stopReading
  split
  next => rfl
  next here =>
    have ended := past.resolve_right here
    obtain ⟨capacity, ⟨_, _, _, _⟩, ⟨_, _, _, _⟩, _⟩ := l
    cases s <;> cases ended <;> rfl

/-- **Shutting down what is over changes nothing.** -/
theorem shutBy_of_over (past : l.Over s direction) : l.shutBy s direction = l := by
  cases direction with
  | reading => exact stopReading_of_over past
  | writing => exact endWriting_of_over past
  | both =>
    show (l.endWriting s).stopReading s = l
    rw [endWriting_of_over past.1]
    exact stopReading_of_over past.2

end Over

/-! ### What has ended stays so -/

lemma endpoint_withEndpoint (l : Link) (s t : Side) (e : Endpoint) :
    (l.withEndpoint s e).endpoint t = if t = s then e else l.endpoint t := by
  cases s <;> cases t <;> rfl

/-- What has ended on a connection, on either side, has ended on what becomes of it. -/
structure Fades (l l' : Link) : Prop where
  writing : ∀ s, (l.endpoint s).writingEnded = true → (l'.endpoint s).writingEnded = true
  reading : ∀ s, (l.endpoint s).readingEnded = true → (l'.endpoint s).readingEnded = true
  reset : l.wasReset = true → l'.wasReset = true

namespace Fades

variable {l l' l'' : Link}

lemma rfl : Fades l l := ⟨fun _ => id, fun _ => id, id⟩

lemma trans (h : Fades l l') (k : Fades l' l'') : Fades l l'' :=
  ⟨fun s => k.writing s ∘ h.writing s, fun s => k.reading s ∘ h.reading s, k.reset ∘ h.reset⟩

/-- A side changes so that what it has ended it does not take up again. -/
lemma withEndpoint (l : Link) (s : Side) (e : Endpoint)
    (writing : (l.endpoint s).writingEnded = true → e.writingEnded = true)
    (reading : (l.endpoint s).readingEnded = true → e.readingEnded = true) :
    Fades l (l.withEndpoint s e) := by
  refine ⟨fun t h => ?_, fun t h => ?_, fun h => ?_⟩
  · rw [endpoint_withEndpoint]
    split
    next own => exact writing (own ▸ h)
    next => exact h
  · rw [endpoint_withEndpoint]
    split
    next own => exact reading (own ▸ h)
    next => exact h
  · cases s <;> exact h

lemma endWriting (l : Link) (s : Side) : Fades l (l.endWriting s) :=
  withEndpoint l s _ (fun _ => by rfl) id

lemma close (l : Link) (s : Side) : Fades l (l.close s) := withEndpoint l s _ (fun _ => by rfl) id

lemma deafened (l : Link) (s : Side) : Fades l (l.deafened s) :=
  withEndpoint l s _ id fun _ => by rfl

lemma stopReading (l : Link) (s : Side) : Fades l (l.stopReading s) := by
  unfold Link.stopReading
  split
  · exact rfl
  · exact deafened l s

lemma of_reset (l : Link) : Fades l l.reset :=
  ⟨fun s => by cases s <;> exact id, fun s => by cases s <;> exact id, fun _ => by rfl⟩

lemma of_read? {s : Side} {size : Nat} {answer : Except OsError (List UInt8)}
    (h : l.read? s size = some (answer, l')) : Fades l l' := by
  cases read?_reads h with
  | took left => exact withEndpoint l s _ id id
  | reset dry reset | ended dry ended => exact rfl

lemma of_write? {s : Side} {bytes : List UInt8} {limit : Nat} {answer : Except OsError Nat}
    (h : l.write? s bytes limit = some (answer, l')) : Fades l l' := by
  cases write?_writes h with
  | broken gone | reset reset => exact rfl
  | put => exact withEndpoint l s.other _ id id

lemma hushed (h : Fades l l') (hushed : l.Hushed) : l'.Hushed :=
  ⟨h.writing .client hushed.1, h.writing .server hushed.2⟩

lemma gone (h : Fades l l') (gone : l.Gone) : l'.Gone := gone.imp h.reset h.hushed

lemma over_reading (h : Fades l l') {s : Side} (past : l.Over s .reading) : l'.Over s .reading :=
  past.imp (h.reading s) h.gone

/-- A direction that is over stays so. -/
lemma stays_over (h : Fades l l') {s : Side} {direction : Direction} (past : l.Over s direction) :
    l'.Over s direction := by
  cases direction with
  | reading => exact h.over_reading past
  | writing => exact h.writing s past
  | both => exact ⟨h.writing s past.1, h.over_reading past.2⟩

end Fades

/-! ### Two ways to shut both directions down -/

section Ways

variable {l : Link}

lemma endWriting_deafened (l : Link) (s t : Side) :
    (l.deafened s).endWriting t = (l.endWriting t).deafened s := by
  cases s <;> cases t <;> rfl

lemma shutBy_deafened (hushed : l.Hushed) (s t : Side) (direction : Direction) :
    (l.deafened s).shutBy t direction = (l.shutBy t direction).deafened s := by
  have stops {l : Link} (hushed : l.Hushed) :
      (l.deafened s).stopReading t = (l.stopReading t).deafened s := by
    have hushed' := (Fades.deafened l s).hushed hushed
    unfold stopReading
    rw [if_pos (.inr hushed'), if_pos (.inr hushed)]
  cases direction with
  | reading => exact stops hushed
  | writing => exact endWriting_deafened l s t
  | both =>
    show ((l.deafened s).endWriting t).stopReading t = _
    rw [endWriting_deafened]
    exact stops ((Fades.endWriting l t).hushed hushed)

lemma read?_of_hushed (hushed : l.Hushed) (s : Side) (size : Nat) :
    l.read? s size =
      if (l.endpoint s).arrived = [] then
        some (if l.wasReset then .error .connectionReset else .ok [], l)
      else some (.ok ((l.endpoint s).arrived.take size), l.withEndpoint s
        { l.endpoint s with arrived := (l.endpoint s).arrived.drop size }) := by
  unfold read?
  dsimp only
  rw [hushed.writing s.other, Bool.or_true, if_pos rfl, ite_not]
  by_cases left : (l.endpoint s).arrived = []
  · rw [if_pos left, if_pos left]
    split <;> rfl
  · rw [if_neg left, if_neg left]

/-- **Reading shut down first**: it comes to the same as if both directions were shut down at once, or
writing is over on both sides, and all that differs is what is noted of reading. -/
theorem shutBy_reading_writing (l : Link) (s : Side) :
    (l.shutBy s .reading).shutBy s .writing = l.shutBy s .both ∨
      (l.shutBy s .both).Hushed ∧
        (l.shutBy s .reading).shutBy s .writing = (l.shutBy s .both).deafened s := by
  show (l.stopReading s).endWriting s = (l.endWriting s).stopReading s ∨
    ((l.endWriting s).stopReading s).Hushed ∧
      (l.stopReading s).endWriting s = ((l.endWriting s).stopReading s).deafened s
  unfold stopReading
  by_cases before : l.Gone
  · rw [if_pos before, if_pos ((Fades.endWriting l s).gone before)]
    exact .inl rfl
  rw [if_neg before, endWriting_deafened]
  by_cases after : (l.endWriting s).Gone
  · rw [if_pos after]
    have reset : l.wasReset = (l.endWriting s).wasReset := by cases s <;> rfl
    exact .inr ⟨after.resolve_left fun h => before (.inl (reset.trans h)), rfl⟩
  · rw [if_neg after]
    exact .inl rfl

example :
    let l : Link := { capacity := 1, client := { writingEnded := true } }
    (l.shutBy .server .reading).shutBy .server .writing ≠ l.shutBy .server .both := by decide

end Ways

end Link

/-! ### Polls of a shutdown -/

namespace Call

variable {τ : Type} [DecidableEq τ] {m : Moment} {side : Side} {who : τ} {call : Call} {link : Link}
  {locks : Locks τ} {direction : Direction}

lemma fades_of_shutDown {d : Disposition} {answer : Except OsError Unit} {link' : Link}
    (h : shutDown link side direction d = some (answer, link')) : link.Fades link' := by
  have shutBy : link.Fades (link.shutBy side direction) := by
    cases direction with
    | reading => exact .stopReading link side
    | writing => exact .endWriting link side
    | both => exact (Link.Fades.endWriting link side).trans (.stopReading _ side)
  obtain rfl | ⟨rfl, -⟩ | rfl := link_of_shutDown h
  · exact .rfl
  · exact .endWriting link side
  · exact shutBy

/-- A shutdown of what is over leaves the connection as it is, whatever the system does. -/
lemma link_of_shutDown_of_over (past : link.Over side direction) {d : Disposition}
    {answer : Except OsError Unit} {link' : Link}
    (h : shutDown link side direction d = some (answer, link')) : link' = link := by
  obtain same | ⟨writing, rfl⟩ | shut := link_of_shutDown h
  · exact same
  · exact writing.trans (Link.endWriting_of_over past.1)
  · exact shut.trans (Link.shutBy_of_over past)

/-- What a poll can make of a connection: something is read, written or shut down, if anything is done.
-/
inductive Touches (side : Side) (request : Request) (link : Link) : Link → Prop
  | nothing : Touches side request link link
  | reads {size : Nat} {answer : Except OsError (List UInt8)} {link' : Link}
      (asked : request = .read size)
      (read : link.read? side size = some (answer, link')) : Touches side request link link'
  | writes {bytes : List UInt8} {total limit : Nat} {answer : Except OsError Nat} {link' : Link}
      (asked : request = .write bytes total)
      (write : link.write? side bytes limit = some (answer, link')) : Touches side request link link'
  | shuts {direction : Direction} {d : Disposition} {answer : Except OsError Unit} {link' : Link}
      (asked : request = .shutdown direction)
      (shuts : shutDown link side direction d = some (answer, link')) :
      Touches side request link link'

/-- **What a poll makes of a connection.** -/
theorem touches_of_poll {d : Disposition} {p : Polled τ}
    (h : call.poll? m side who d link locks = some p) : Touches side call.request link p.link := by
  cases poll?_comes h with
  | empty | stopped | waits => exact .nothing
  | attempted more going holds attempts =>
    cases attempts with
    | interrupted | refused => exact .nothing
    | reads request read => exact .reads request read
    | broken request wrote | completes request wrote all | advances request wrote more =>
      exact .writes request wrote
    | shuts request shut => exact .shuts request shut

lemma fades_of_poll {d : Disposition} {p : Polled τ}
    (h : call.poll? m side who d link locks = some p) : link.Fades p.link := by
  cases touches_of_poll h with
  | nothing => exact .rfl
  | reads _ read => exact .of_read? read
  | writes _ write => exact .of_write? write
  | shuts _ shuts => exact fades_of_shutDown shuts

/-- **Shutting down what is over leaves the connection as it is**, whatever the system does. -/
theorem link_of_poll_of_over (request : call.request = .shutdown direction)
    (past : link.Over side direction) {d : Disposition} {p : Polled τ}
    (h : call.poll? m side who d link locks = some p) : p.link = link := by
  cases touches_of_poll h with
  | nothing => rfl
  | reads asked => cases request.symm.trans asked
  | writes asked => cases request.symm.trans asked
  | shuts asked shuts =>
    cases request.symm.trans asked
    exact link_of_shutDown_of_over past shuts

/-- A shutdown of a direction, by a task that nobody is ahead of. -/
lemma poll?_shutdown (request : call.request = .shutdown direction) (going : call.stopped? m = none)
    (head : (Locks.ask locks.writers who).head? = some who) (limit : Nat) :
    call.poll? m side who (.proceed limit) link locks =
      some { link := link.shutBy side direction, locks := locks.release who
             progress := .ready (.ok .done) } := by
  have holds : (locks.acquire who call.request).holds who call.request = true :=
    holds_of_head (by rw [request]; simp) head
  have left : (locks.acquire who call.request).release who = locks.release who := by
    rw [request]
    simp [Locks.acquire, Locks.release]
  refine poll?_of_attempt (by rw [request]; simp) going holds ?_
  unfold attempt
  dsimp only
  rw [request]
  dsimp only
  rw [shutDown_proceed, ← request, left]
  rfl

/-! ### Changes that cannot be seen -/

/-- A change of a connection that no call can tell, and that every call keeps. -/
structure Unseen (f : Link → Link) (link : Link) : Prop where
  read : ∀ side size, (f link).read? side size = (link.read? side size).map (Prod.map id f)
  write : ∀ side bytes limit,
    (f link).write? side bytes limit = (link.write? side bytes limit).map (Prod.map id f)
  shutDown : ∀ side direction d,
    shutDown (f link) side direction d = (shutDown link side direction d).map (Prod.map id f)

section Unseen

variable {f : Link → Link}

lemma Unseen.attempt (unseen : Unseen f link) (side : Side) (who : τ) (d : Disposition) (call : Call)
    (locks : Locks τ) :
    attempt side who d call (f link) locks =
      (attempt side who d call link locks).map fun p => { p with link := f p.link } := by
  unfold Call.attempt
  dsimp only
  cases call.request with
  | read size =>
    cases d with
    | fail c e => cases c <;> rfl
    | proceed limit =>
      dsimp only
      rw [unseen.read]
      cases link.read? side size <;> rfl
  | write rest total =>
    cases d with
    | fail c e => cases c <;> cases e <;> rfl
    | proceed limit =>
      dsimp only
      rw [unseen.write]
      cases link.write? side rest limit with
      | none => rfl
      | some r =>
        obtain ⟨_ | n, link'⟩ := r
        · rfl
        · dsimp only [Option.map_some, Prod.map]
          by_cases left : rest.drop n = []
          · simp [left]
          · simp [left]
  | shutdown direction =>
    dsimp only
    rw [unseen.shutDown]
    cases Call.shutDown link side direction d <;> rfl

/-- **A poll does not tell** an unseen change. -/
theorem Unseen.poll? (unseen : Unseen f link) (m : Moment) (side : Side) (who : τ) (d : Disposition)
    (call : Call) (locks : Locks τ) :
    call.poll? m side who d (f link) locks =
      (call.poll? m side who d link locks).map fun p => { p with link := f p.link } := by
  unfold Call.poll?
  dsimp only
  by_cases empty : call.request = .write [] 0
  · rw [if_pos empty, if_pos empty]
    cases d <;> rfl
  rw [if_neg empty, if_neg empty]
  cases call.stopped? m with
  | some cause => cases d <;> rfl
  | none =>
    dsimp only
    rw [Option.map_or, unseen.attempt]
    congr 1
    · split <;> rfl
    · split
      · rfl
      · cases d <;> rfl

end Unseen

/-- Where both sides have ended their writing, it cannot be told whether one of them still reads. -/
lemma unseen_deafened (hushed : link.Hushed) (s : Side) : Unseen (·.deafened s) link := by
  have hushed' : (link.deafened s).Hushed := (Link.Fades.deafened link s).hushed hushed
  refine ⟨fun t size => ?_, fun t bytes limit => ?_, fun t direction d => ?_⟩
  · have arrived : ((link.deafened s).endpoint t).arrived = (link.endpoint t).arrived := by
      cases s <;> cases t <;> rfl
    have reset : (link.deafened s).wasReset = link.wasReset := by cases s <;> rfl
    rw [Link.read?_of_hushed hushed', Link.read?_of_hushed hushed, arrived, reset]
    split
    · rfl
    · cases s <;> cases t <;> rfl
  · unfold Link.write?
    dsimp only
    rw [if_pos (hushed'.writing t), if_pos (hushed.writing t)]
    rfl
  · have ends := Link.endWriting_deafened link s t
    cases d with
    | proceed limit =>
      rw [shutDown_proceed, shutDown_proceed, Link.shutBy_deafened hushed]
      rfl
    | fail c e =>
      cases direction with
      | writing => cases c <;> rfl
      | reading =>
        cases c with
        | endReading => cases e <;> rfl
        | _ => rfl
      | both =>
        cases c with
        | endReading => cases e <;> exact congrArg (fun l => some (_, l)) ends
        | _ => rfl

end Call

end FlowBurst.Transport
