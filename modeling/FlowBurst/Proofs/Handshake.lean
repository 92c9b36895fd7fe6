import FlowBurst.Proofs.Intake

/-!
# Who registers has shaken hands

A driving task registers the switch that reported its features, and it asks for those only after a
HELLO of a version that it speaks. Whatever a switch sends in between, the frames received on a line
that registers are first such a HELLO and then the features. Main statement: `shookHands_of_registered`.
-/

namespace FlowBurst.Controller

open FlowBurst.OpenFlow (Features Frame)
open FlowBurst.Switch (DatapathId Handle Session)

/-- Whether a frame is a HELLO of a version that the controller speaks. -/
def IsGreeting (frame : Frame) : Prop :=
  ∃ elements, frame.message = .hello elements ∧ OpenFlow.protocolVersion ≤ frame.version

/-- What a switch sent to complete its handshake: a HELLO, and after it the features, which name its
datapath. -/
def ShookHands (frames : List Frame) (datapath : DatapathId) : Prop :=
  ∃ hello reply features, [hello, reply].Sublist frames ∧ IsGreeting hello ∧
    reply.message = .featuresReply features ∧ datapath = ⟨features.datapathId⟩

/-- How far the frames received on a line have brought its handshake, by the stage of its driving task. -/
structure Shaking (frames : List Frame) (stage : Stage) : Prop where
  greeted : stage.awaiting? = some .features → ∃ hello ∈ frames, IsGreeting hello
  reported : ∀ features, stage = .registering features → ShookHands frames ⟨features.datapathId⟩

section Shaking

variable {s t : State} {i : Nat} {events more : List Event} {frames received : List Frame}

lemma Stage.awaiting?_of_isOver {stage : Stage} (ceased : stage.isOver = true) :
    stage.awaiting? = none := by
  cases stage <;> first | rfl | cases ceased

/-- A driving task that is to receive some frame or is past that has not just been told the features. -/
lemma Stage.ne_registering {stage : Stage} {w : Awaiting}
    (next : stage.awaiting? = some w ∨ stage.isOver = true) (features : Features) :
    stage ≠ .registering features := by
  rintro rfl
  rcases next with h | h <;> cases h

/-- A driving task that goes on to await what it awaited, or nothing more. -/
lemma Shaking.stays {stage stage' : Stage} {w : Awaiting} (shaking : Shaking frames stage)
    (was : stage.awaiting? = some w) (next : stage'.awaiting? = some w ∨ stage'.isOver = true) :
    Shaking (frames ++ received) stage' := by
  refine ⟨fun h => ?_, fun features e => (Stage.ne_registering next features e).elim⟩
  have same : stage'.awaiting? = stage.awaiting? := by
    rcases next with e | ceased
    · rw [e, was]
    · rw [Stage.awaiting?_of_isOver ceased] at h
      cases h
  obtain ⟨hello, member, greeting⟩ := shaking.greeted (same ▸ h)
  exact ⟨hello, List.mem_append_left _ member, greeting⟩

/-- **What a driving task takes in keeps its handshake.** -/
theorem Takes.shaking {limit : Nat} {c c' : Connection} {read : List UInt8}
    {drawn : Option (Except Switch.Failure Frame)} (takes : Takes limit c c' read received drawn)
    (shaking : Shaking frames c.stage) : Shaking (frames ++ received) c'.stage := by
  cases takes with
  | rests rests =>
    rw [List.append_nil]
    exact ⟨fun h => shaking.greeted (rests.greeted h),
      fun features e => shaking.reported features (rests.told features e)⟩
  | @took w frame stage decoded still heeds =>
    have was : c.stage.awaiting? = some w := by rw [stage]; rfl
    generalize c'.stage = stage' at heeds
    cases heeds with
    | stays next => exact shaking.stays was next
    | greeted awaited hello current next =>
      refine ⟨fun _ => ⟨frame, by simp, _, hello, current⟩, fun features e => ?_⟩
      exact (Stage.ne_registering next features e).elim
    | @told features awaited reply =>
      obtain ⟨hello, member, greeting⟩ := shaking.greeted (awaited ▸ was)
      refine ⟨(fun h => by cases h), fun features' e => ?_⟩
      cases e
      exact ⟨hello, frame, features,
        (List.singleton_sublist.2 member).append (List.Sublist.refl [frame]), greeting, reply, rfl⟩
  | wants stage decoded next =>
    exact shaking.stays (by rw [stage]; rfl) (.inl (by rw [next]; rfl))
  | read stage some_read inbound next =>
    exact shaking.stays (by rw [stage]; rfl) (.inl (by rw [next]; rfl))
  | refused stage decoded ceased | ended stage ceased | failed stage ceased =>
    exact shaking.stays (by rw [stage]; rfl) (.inr ceased)

/-- The handshakes of all lines are as far as the frames received have brought them. -/
def Shaken (s : State) (events : List Event) : Prop :=
  ∀ i inbound deadline stage, s.intake? i = some (inbound, deadline, stage) →
    Shaking (Event.framesReceived i events) stage

/-- **Every step keeps the handshakes.** -/
theorem Shaken.step (shaken : Shaken s events) (orderly : s.Orderly) {a : Action}
    (h : s.step? a = some (t, more)) : Shaken t (events ++ more) := by
  intro i inbound deadline stage hi
  rw [Event.framesReceived_append]
  have fed := step?_takes orderly h i
  generalize s.drawn? i a = drawn at fed
  cases fed with
  | rests same untaken =>
    rw [untaken.2, List.append_nil]
    exact shaken i inbound deadline stage (same ▸ hi)
  | begins fresh opening untaken =>
    rw [opening] at hi
    cases hi
    exact ⟨(fun h => by cases h), fun features e => by cases e⟩
  | @takes c c' _ was now takes =>
    obtain rfl : c'.stage = stage := by simpa [State.intake?, now] using congrArg (·.map (·.2.2)) hi
    exact takes.shaking (shaken i _ _ _ (by rw [State.intake?, was]; rfl))

lemma State.intake?_of_standing? {session : Session} {stage : Stage}
    (h : s.standing? i = some (session, stage)) :
    ∃ inbound deadline, s.intake? i = some (inbound, deadline, stage) := by
  obtain ⟨c, hc, -, rfl⟩ := connection?_of_standing? h
  exact ⟨c.inbound, c.handshakeDeadline, intake?_of_connection? hc⟩

/-- A step that registers a switch is one of a driving task that has just been told its features. -/
lemma Stir.reported (stir : Stir s t more) {h : Handle} {previous : Option Handle}
    (he : Event.registered h previous ∈ more) : ∃ session features,
      s.standing? h.channel = some (session, .registering features) ∧
        h.datapath = ⟨features.datapathId⟩ := by
  obtain ⟨j, switch, e | e⟩ | ⟨-, displayed⟩ := stir.displayed he rfl
  · cases e
  · cases e
  · cases displayed with
    | registered was => exact ⟨_, _, was, rfl⟩

variable {settings : Settings} {handler : Handler} {capacity : Nat} {actions : List Action}
  (run : (State.start settings handler capacity).steps? actions = some (s, events))
include run

lemma shaken_of_steps? : Shaken s events := by
  refine State.run_induction (P := fun _ s events => Shaken s events) ?_ ?_ run
  · intro i inbound deadline stage hi
    simp [State.intake?, State.connection?, State.start] at hi
  · intro actions s before a t after before_run shaken step
    exact shaken.step (orderly_of_run before_run) step

/-- **A connection that registers has completed its handshake**, with a HELLO and then the features of
the datapath that it registers. -/
theorem shookHands_of_registered : ∀ first h previous rest,
    events = first ++ .registered h previous :: rest →
      ShookHands (Event.framesReceived h.channel first) h.datapath := by
  rintro first h previous rest rfl
  obtain ⟨_, _, _, _, _, new, _, _, before_run, step, rfl, -⟩ := State.step_of_event run
  have stir := step?_stir (orderly_of_run before_run) step
  obtain ⟨session, features, standing, datapath⟩ :=
    stir.reported (show Event.registered h previous ∈ _ by simp)
  obtain ⟨inbound, deadline, intake⟩ := State.intake?_of_standing? standing
  obtain ⟨hello, reply, features', kept, shaken⟩ :=
    (shaken_of_steps? before_run _ _ _ _ intake).reported features rfl
  rw [Event.framesReceived_append, datapath]
  exact ⟨hello, reply, features', kept.trans (List.sublist_append_left _ _), shaken⟩

end Shaking

end FlowBurst.Controller
