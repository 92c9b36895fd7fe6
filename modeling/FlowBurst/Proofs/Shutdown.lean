import FlowBurst.Proofs.Endings

/-!
# Shutting down more than once

The tasks that share a channel may shut it down again and again, one direction after the other or both
at once, while the far side writes, ends its writing, goes away or resets the connection. A shutdown
that has the lock of the writers succeeds in every state of the connection. A direction that has been
shut down stays so, and shutting it down again changes nothing; and of the order in which both were
shut down nothing can be seen by any call that follows. Main statement: `ChannelPair.shutsDownOnce`.
-/

namespace FlowBurst.Transport

/-! ### Channels on both sides -/

/-- A connection and the channels on its two sides, each with its locks. -/
structure ChannelPair (τ : Type) where
  link : Link
  client : Locks τ := {}
  server : Locks τ := {}

namespace ChannelPair

variable {τ : Type}

/-- The locks of the channel of a side. -/
def locks (c : ChannelPair τ) : Side → Locks τ
  | .client => c.client
  | .server => c.server

/-- The channels with the locks of a side replaced. -/
def withLocks (c : ChannelPair τ) : Side → Locks τ → ChannelPair τ
  | .client, locks => { c with client := locks }
  | .server, locks => { c with server := locks }

/-- The channels with another connection between them. -/
def withLink (c : ChannelPair τ) (link : Link) : ChannelPair τ := { c with link }

@[simp] lemma link_withLink (c : ChannelPair τ) (link : Link) : (c.withLink link).link = link := rfl

@[simp] lemma locks_withLink (c : ChannelPair τ) (link : Link) (side : Side) :
    (c.withLink link).locks side = c.locks side := by
  cases side <;> rfl

variable [DecidableEq τ]

/-- The channels after a task has left the queues of a side. -/
def released (c : ChannelPair τ) (side : Side) (who : τ) : ChannelPair τ :=
  c.withLocks side ((c.locks side).release who)

/-- Whether nobody but a task holds the lock of the writers of a side. -/
def Free (c : ChannelPair τ) (side : Side) (who : τ) : Prop :=
  ∀ t, (c.locks side).writers.head? = some t → t = who

/-- What can be done on a connection. -/
inductive Deed (τ : Type)
  /-- A task polls a call on the channel of a side. -/
  | poll (m : Moment) (side : Side) (who : τ) (d : Disposition) (call : Call)
  | close (side : Side)
  | reset

/-- What is told of a deed: the bytes that a poll put in and how the call stands, if it did anything. -/
abbrev Told := Option (List UInt8 × Progress)

/-- What is told of a deed, and the channels after it. -/
def act (c : ChannelPair τ) : Deed τ → Told × ChannelPair τ
  | .poll m side who d call =>
    match call.poll? m side who d c.link (c.locks side) with
    | some p => (some (p.put, p.progress), (c.withLocks side p.locks).withLink p.link)
    | none => (none, c)
  | .close side => (none, c.withLink (c.link.close side))
  | .reset => (none, c.withLink c.link.reset)

/-- The channels after some deeds. -/
def after (c : ChannelPair τ) (deeds : List (Deed τ)) : ChannelPair τ :=
  deeds.foldl (fun c deed => (c.act deed).2) c

/-- What is told of some deeds, one after another. -/
def told (c : ChannelPair τ) : List (Deed τ) → List Told
  | [] => []
  | deed :: rest => (c.act deed).1 :: (c.act deed).2.told rest

/-- A task shuts a direction down, under limits that let it go on and with no failure of the system. -/
def Deed.ShutsDown (side : Side) (who : τ) (direction : Direction) (deed : Deed τ) : Prop :=
  ∃ m limit call, deed = .poll m side who (.proceed limit) call ∧
    call.request = .shutdown direction ∧ call.stopped? m = none

/-- A task shuts one direction down after another, each time while nobody else holds the lock. -/
inductive ShutsInTurn (side : Side) (who : τ) :
    List Direction → ChannelPair τ → ChannelPair τ → Prop
  | done {c : ChannelPair τ} : ShutsInTurn side who [] c c
  | call {c c' : ChannelPair τ} {direction : Direction} {rest : List Direction} {deed : Deed τ}
      (shuts : deed.ShutsDown side who direction) (free : c.Free side who)
      (further : ShutsInTurn side who rest (c.act deed).2 c') :
      ShutsInTurn side who (direction :: rest) c c'

/-- The ways to shut both directions down. -/
def ways : List (List Direction) := [[.writing, .reading], [.reading, .writing], [.both]]

section Deeds

variable {c c' : ChannelPair τ} {side : Side} {who : τ} {direction : Direction} {deed : Deed τ}

/-- What has ended stays so, whatever is done. -/
lemma fades_act (c : ChannelPair τ) (deed : Deed τ) : c.link.Fades (c.act deed).2.link := by
  cases deed with
  | poll m side who d call =>
    unfold act
    dsimp only
    split
    next h => exact Call.fades_of_poll h
    next => exact .rfl
  | close side => exact .close c.link side
  | reset => exact .of_reset c.link

lemma fades_after (c : ChannelPair τ) (deeds : List (Deed τ)) : c.link.Fades (c.after deeds).link := by
  induction deeds generalizing c with
  | nil => exact .rfl
  | cons deed rest ih => exact (fades_act c deed).trans (ih _)

/-- **A shutdown that has the lock succeeds**, in whatever state the connection is. -/
theorem act_of_shutsDown (shuts : deed.ShutsDown side who direction) (free : c.Free side who) :
    c.act deed = (some ([], .ready (.ok .done)),
      (c.released side who).withLink (c.link.shutBy side direction)) := by
  obtain ⟨m, limit, call, rfl, request, going⟩ := shuts
  have head : (Locks.ask (c.locks side).writers who).head? = some who := by
    rw [Locks.head?_ask]
    split
    next => rfl
    next nonempty =>
      obtain ⟨t, rest, e⟩ := List.exists_cons_of_ne_nil nonempty
      rw [e]
      exact congrArg some (free t (by rw [e]; rfl))
  unfold act
  dsimp only
  rw [Call.poll?_shutdown request going head]
  rfl

/-- A shutdown that its limits do not let go on does nothing. -/
lemma act_of_stopped {m : Moment} {call : Call} {cause : Cause} (limit : Nat)
    (request : call.request = .shutdown direction) (stop : call.stopped? m = some cause) :
    c.act (.poll m side who (.proceed limit) call) =
      (some ([], .ready (.error ⟨.shutdown, cause⟩)), c.released side who) := by
  unfold act
  dsimp only
  rw [Call.poll?_of_stopped limit (by rw [request]; simp) stop, request]
  cases side <;> rfl

/-- A direction that was shut down is shut down again for nothing, whatever was done meanwhile. -/
lemma act_again (past : c.link.Over side direction) (deeds : List (Deed τ))
    (shuts : deed.ShutsDown side who direction) (free : (c.after deeds).Free side who) :
    (c.after deeds).act deed =
      (some ([], .ready (.ok .done)), (c.after deeds).released side who) := by
  rw [act_of_shutsDown shuts free, Link.shutBy_of_over ((fades_after c deeds).stays_over past)]
  cases side <;> rfl

/-- A task with which nobody shares the lock can shut any directions down in turn. -/
lemma exists_shutsInTurn (alone : ∀ t ∈ (c.locks side).writers, t = who) (way : List Direction) :
    ∃ c', ShutsInTurn side who way c c' := by
  induction way generalizing c with
  | nil => exact ⟨c, .done⟩
  | cons direction rest ih =>
    let deed : Deed τ := .poll ⟨0, false⟩ side who (.proceed 0) (.shutdown {} direction)
    have shuts : deed.ShutsDown side who direction := ⟨_, _, _, rfl, rfl, rfl⟩
    have free : c.Free side who := fun t head => alone t (List.mem_of_mem_head? head)
    have alone' : ∀ t ∈ (((c.act deed).2).locks side).writers, t = who := by
      intro t ht
      rw [act_of_shutsDown shuts free] at ht
      refine alone t ?_
      cases side <;> exact (Locks.mem_leave.1 ht).1
    obtain ⟨c', further⟩ := ih alone'
    exact ⟨c', .call shuts free further⟩

/-! ### The order of shutdowns -/

lemma released_withLink (c : ChannelPair τ) (side : Side) (who : τ) (link : Link) :
    (c.withLink link).released side who = (c.released side who).withLink link := by
  cases side <;> rfl

lemma released_released (c : ChannelPair τ) (side : Side) (who : τ) :
    (c.released side who).released side who = c.released side who := by
  cases side <;> simp [released, withLocks, locks, Locks.release, Locks.leave, List.filter_filter]

/-- What comes of shutting down one direction after another. -/
lemma ShutsInTurn.eq {first : Direction} {rest : List Direction}
    (shuts : ShutsInTurn side who (first :: rest) c c') :
    c' = (c.released side who).withLink
      ((first :: rest).foldl (fun l direction => l.shutBy side direction) c.link) := by
  induction rest generalizing first c with
  | nil =>
    cases shuts with
    | call shuts free further =>
      rw [act_of_shutsDown shuts free] at further
      cases further
      rfl
  | cons second rest ih =>
    cases shuts with
    | call shuts free further =>
      rw [act_of_shutsDown shuts free] at further
      rw [ih further, released_withLink, released_released]
      rfl

/-- A deed does not tell whether a side reads, after both sides have ended their writing. -/
lemma act_deafened (hushed : c.link.Hushed) (side : Side) (deed : Deed τ) :
    (c.withLink (c.link.deafened side)).act deed =
      ((c.act deed).1, (c.act deed).2.withLink ((c.act deed).2.link.deafened side)) := by
  cases deed with
  | poll m s who d call =>
    unfold act
    dsimp only
    rw [locks_withLink, link_withLink, (Call.unseen_deafened hushed side).poll?]
    cases call.poll? m s who d c.link (c.locks s) with
    | none => rfl
    | some p => cases s <;> rfl
  | close s => cases side <;> cases s <;> rfl
  | reset => cases side <;> rfl

lemma told_deafened (hushed : c.link.Hushed) (side : Side) (deeds : List (Deed τ)) :
    (c.withLink (c.link.deafened side)).told deeds = c.told deeds := by
  induction deeds generalizing c with
  | nil => rfl
  | cons deed rest ih =>
    unfold told
    rw [act_deafened hushed]
    exact congrArg (_ :: ·) (ih ((fades_act c deed).hushed hushed))

/-- **Whichever way both directions are shut down**, the same is told of whatever is done then. -/
theorem told_of_way {way : List Direction} (among : way ∈ ways)
    (shuts : ShutsInTurn side who way c c') (deeds : List (Deed τ)) :
    c'.told deeds = ((c.released side who).withLink (c.link.shutBy side .both)).told deeds := by
  simp only [ways, List.mem_cons, List.not_mem_nil, or_false] at among
  obtain rfl | rfl | rfl := among
  · rw [shuts.eq]
    rfl
  · rw [shuts.eq]
    dsimp only [List.foldl]
    obtain same | ⟨hushed, differs⟩ := Link.shutBy_reading_writing c.link side
    · rw [same]
    · rw [differs]
      have ended : ((c.released side who).withLink (c.link.shutBy side .both)).link.Hushed := hushed
      exact told_deafened ended side deeds
  · rw [shuts.eq]
    rfl

/-- How shutting a side down goes, in a state of the connection. -/
structure ShutsDownOnce (c : ChannelPair τ) (side : Side) : Prop where
  /-- A shutdown of any direction succeeds while nobody else has the lock of the writers, and the
  direction is over then, -/
  succeeds : ∀ who direction deed, deed.ShutsDown side who direction → c.Free side who →
    c.act deed = (some ([], .ready (.ok .done)),
      (c.released side who).withLink (c.link.shutBy side direction)) ∧
    (c.link.shutBy side direction).Over side direction
  /-- unless its own limits do not let it go on, and then nothing is shut down. -/
  stopped : ∀ m who limit call direction cause, call.request = .shutdown direction →
    call.stopped? m = some cause → c.act (.poll m side who (.proceed limit) call) =
      (some ([], .ready (.error ⟨.shutdown, cause⟩)), c.released side who)
  /-- Whoever shuts the direction down again, after whatever was done meanwhile, succeeds and changes
  nothing but that it is in no queue any more. -/
  repeated : ∀ who direction deed, deed.ShutsDown side who direction → c.Free side who →
    ∀ meanwhile who' again, again.ShutsDown side who' direction →
      (c.after (deed :: meanwhile)).Free side who' →
        (c.after (deed :: meanwhile)).act again =
          (some ([], .ready (.ok .done)), (c.after (deed :: meanwhile)).released side who')
  /-- A task with which nobody shares the lock can shut any directions down in turn. -/
  inTurn : ∀ who, (∀ t ∈ (c.locks side).writers, t = who) →
    ∀ way, ∃ c', ShutsInTurn side who way c c'
  /-- Whichever way both directions are shut down, every later call comes to the same, on either side.
  -/
  alike : ∀ who, ∀ way ∈ ways, ∀ way' ∈ ways, ∀ c₁ c₂, ShutsInTurn side who way c c₁ →
    ShutsInTurn side who way' c c₂ → ∀ deeds, c₁.told deeds = c₂.told deeds

/-- **A side is shut down once**, in whatever state the connection is, and in whatever order. -/
theorem shutsDownOnce (c : ChannelPair τ) (side : Side) : c.ShutsDownOnce side where
  succeeds who direction deed shuts free :=
    ⟨act_of_shutsDown shuts free, Link.over_shutBy c.link side direction⟩
  stopped m who limit call direction cause request stop := act_of_stopped limit request stop
  repeated who direction deed shuts free meanwhile who' again shuts' free' := by
    have past : (c.act deed).2.link.Over side direction := by
      rw [act_of_shutsDown shuts free]
      exact Link.over_shutBy c.link side direction
    exact act_again past meanwhile shuts' free'
  inTurn _ alone way := exists_shutsInTurn alone way
  alike who way among way' among' c₁ c₂ shuts shuts' deeds :=
    (told_of_way among shuts deeds).trans (told_of_way among' shuts' deeds).symm

end Deeds

end ChannelPair

end FlowBurst.Transport
