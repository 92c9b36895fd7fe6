import FlowBurst.Proofs.Handshake
import FlowBurst.Proofs.Muted

/-!
# What a driving task says

A driving task greets the switch with the first transaction id of its connection, answers echo
requests, and either refuses the HELLO of the switch or asks for its features with the next id. Nothing
else that it does begins a frame or takes an id, and it leaves the ids of other connections alone. A
message takes the next id of the connection that it is sent over. Main statements: `drive?_speaks`,
`step?_counts`.
-/

namespace FlowBurst.Controller

open FlowBurst.OpenFlow (Frame Message)
open FlowBurst.Switch (Failure Handle Reference)
open FlowBurst.Transport (Call Disposition Limits Polled)

/-! ### Verses -/

/-- How far a driving task has come in what it says. -/
inductive Verse
  | silent
  | greeted
  | refused
  /-- It has asked for the features of the switch. -/
  | asked
  deriving DecidableEq, Repr

/-- What has been said before a task is to receive a frame. -/
def Awaiting.verse : Awaiting → Verse
  | hello => .greeted
  | features | service _ => .asked

/-- What has been said once a task begins to write. -/
def Purpose.verse : Purpose → Verse
  | greeting => .greeted
  | echo w => w.verse
  | rejection _ => .refused
  | featuresRequest => .asked

/-- What a driving task at a stage has said, unless it is to say nothing more. -/
def Stage.verse? : Stage → Option Verse
  | opening => some .silent
  | writing purpose _ _ => some purpose.verse
  | deciding w | reading w _ => some w.verse
  | registering _ | displacing _ _ _ | launching _ => some .asked
  | closing _ _ | deregistering _ | joining _ _ | notifying _ | ended => none

lemma Stage.verse?_withCall (call : Call) (stage : Stage) :
    (stage.withCall call).verse? = stage.verse? := by
  cases stage <;> rfl

lemma Stage.verse?_of_isPast {stage : Stage} (past : stage.isPast = true) :
    stage.verse? = none ∨ stage.verse? = some .asked := by
  cases stage with
  | deciding w => cases w <;> first | exact .inr rfl | cases past
  | displacing | launching => exact .inr rfl
  | closing | deregistering | joining | notifying | ended => exact .inl rfl
  | opening | writing | reading | registering => cases past

/-- The HELLO of the controller. -/
def greeting : Frame := { xid := 1, message := .hello [] }

/-- The FEATURES_REQUEST of the controller. -/
def featuresRequest : Frame := { xid := 2, message := .featuresRequest }

/-- Whether a frame is an ECHO_REPLY. -/
def IsEcho (frame : Frame) : Prop :=
  ∃ xid payload, frame = { xid, message := .echoReply payload }

/-- Whether a frame is the ERROR with which the controller refuses a version. -/
def IsRefusal (frame : Frame) : Prop :=
  ∃ xid, frame = { xid, message := .error (.helloIncompatible "openflow 1.3 required") }

/-- What a step of a driving task says, with what becomes of its connection. -/
inductive Speaks (c c' : Connection) : List Frame → Prop
  | greets (was : c.stage = .opening) (takes : c'.nextXid = c.nextXid + 1)
      (next : c'.stage.verse? = some .greeted) :
      Speaks c c' [{ xid := c.nextXid, message := .hello [] }]
  | asks (was : c.stage.verse? = some .greeted) (takes : c'.nextXid = c.nextXid + 1)
      (next : c'.stage.verse? = some .asked) :
      Speaks c c' [{ xid := c.nextXid, message := .featuresRequest }]
  | echoes {w : Awaiting} {frame : Frame} (echo : IsEcho frame) (was : c.stage.verse? = some w.verse)
      (same : c'.nextXid = c.nextXid) (next : c'.stage.verse? = some w.verse) : Speaks c c' [frame]
  | refuses {frame : Frame} (refusal : IsRefusal frame) (was : c.stage.verse? = some .greeted)
      (same : c'.nextXid = c.nextXid) (next : c'.stage.verse? = some .refused) : Speaks c c' [frame]
  | goes (same : c'.nextXid = c.nextXid)
      (next : c'.stage.verse? = none ∨ c'.stage.verse? = c.stage.verse?) : Speaks c c' []

/-- What is said depends on the stage and the next id alone. -/
lemma Speaks.congr {b c c' : Connection} {frames : List Frame} (h : Speaks b c' frames)
    (stage : b.stage = c.stage) (xid : b.nextXid = c.nextXid) : Speaks c c' frames := by
  cases h with
  | greets was takes next => exact xid ▸ .greets (stage ▸ was) (xid ▸ takes) next
  | asks was takes next => exact xid ▸ .asks (stage ▸ was) (xid ▸ takes) next
  | echoes echo was same next => exact .echoes echo (stage ▸ was) (xid ▸ same) next
  | refuses refusal was same next => exact .refuses refusal (stage ▸ was) (xid ▸ same) next
  | goes same next => exact .goes (xid ▸ same) (stage ▸ next)

/-! ### The driving task -/

/-- What comes of a step of the driving task of a line with the given connection. -/
def Utters (i : Nat) (c : Connection) (r : State × List Event) : Prop :=
  ∃ c', r.1.connection? i = some c' ∧ Speaks c c' (Event.framesBegun i (.driver i) r.2)

lemma framesBegun_of_silent {i : Nat} {who : Actor} {events : List Event}
    (silent : outgoing events = []) : Event.framesBegun i who events = [] := by
  rw [← Event.framesBegun_outgoing, silent]
  rfl

namespace Utters

variable {s : State} {i : Nat} {b c : Connection} {r : State × List Event}

/-- A task that goes on without a word. -/
lemma quietly {t : State} {events : List Event} {c' : Connection} (hc' : t.connection? i = some c')
    (same : c'.nextXid = c.nextXid)
    (next : c'.stage.verse? = none ∨ c'.stage.verse? = c.stage.verse?)
    (silent : Event.framesBegun i (.driver i) events = []) : Utters i c (t, events) :=
  ⟨c', hc', silent ▸ .goes same next⟩

lemma enter (hb : s.connection? i = some b) {stage : Stage}
    (next : stage.verse? = none ∨ stage.verse? = b.stage.verse?) {events : List Event}
    (silent : outgoing events = []) : Utters i b (s.enter i stage, events) :=
  .quietly (State.connection?_enter hb stage) rfl next (framesBegun_of_silent silent)

/-- A task that turns to the bytes at hand again. -/
lemma decide (hb : s.connection? i = some b) {w : Awaiting} (was : b.stage.verse? = some w.verse)
    {events : List Event} (silent : outgoing events = []) :
    Utters i b (s.enter i (.deciding w), events) :=
  have next : (Stage.deciding w).verse? = b.stage.verse? := was.symm
  enter hb (.inr next) silent

lemma congr (h : Utters i b r) (stage : b.stage = c.stage) (xid : b.nextXid = c.nextXid) :
    Utters i c r := by
  obtain ⟨c', hc', speaks⟩ := h
  exact ⟨c', hc', speaks.congr stage xid⟩

/-- What the world sees before does not matter, if no frame is begun there. -/
lemma note (h : Utters i b r) {seen : List Event}
    (silent : Event.framesBegun i (.driver i) seen = []) : Utters i b (r.1, seen ++ r.2) := by
  obtain ⟨c', hc', speaks⟩ := h
  refine ⟨c', hc', ?_⟩
  rw [Event.framesBegun_append, silent, List.nil_append]
  exact speaks

end Utters

namespace State

section Words

variable {s : State} {i : Nat} {b c : Connection} (hb : s.connection? i = some b)
include hb

theorem utters_fail (w : Awaiting) (f : Failure) : Utters i b (s.fail i w f) := by
  rw [show s.fail i w f = (s.enter i (.closing w.served (closeCall s.now)), (s.fail i w f).2) from
    Prod.ext (s.fail_closes i w f).1 rfl]
  exact .enter hb (.inl rfl) (s.outgoing_fail i w f)

/-- A task that begins to write a frame that fits says that. -/
theorem utters_begun {purpose : Purpose} {limits : Limits} {frame : Frame} {bytes : List UInt8}
    (encoded : frame.encode = .ok bytes)
    (said : ∀ call, Speaks c { b with stage := .writing purpose frame call } [frame]) :
    Utters i c (s.begin i purpose limits frame) := by
  unfold begin
  rw [encoded]
  exact ⟨_, connection?_enter hb _, by simpa [Event.framesBegun] using said (.write limits bytes)⟩

theorem utters_begin {purpose : Purpose} {limits : Limits} {frame : Frame}
    (said : ∀ call, Speaks b { b with stage := .writing purpose frame call } [frame]) :
    Utters i b (s.begin i purpose limits frame) := by
  cases encoded : frame.encode with
  | ok bytes => exact utters_begun hb encoded said
  | error e =>
    unfold begin
    rw [encoded]
    exact utters_fail hb _ _

theorem utters_answerEcho {w : Awaiting} (was : b.stage.verse? = some w.verse) (xid : UInt32)
    (payload : List UInt8) : Utters i b (s.answerEcho i c w xid payload) :=
  utters_begin hb fun _ => .echoes ⟨xid, payload, rfl⟩ was rfl rfl

theorem utters_receiveAside {w : Awaiting} (was : b.stage.verse? = some w.verse) (frame : Frame) :
    Utters i b (s.receiveAside i c w frame) := by
  unfold receiveAside
  split
  next => exact utters_answerEcho hb was _ _
  next report _ =>
    have given_up : Utters i b (s.failHandshake i
        (.unexpectedMessage (s.peer i).text w.name "error")) :=
      utters_fail hb .hello (.unexpectedMessage (s.peer i).text w.name "error")
    have silent : Event.framesBegun i (.driver i)
        [.notice (.errorInHandshake (s.peer i) report)] = [] := rfl
    exact given_up.note silent
  next => exact .decide hb was rfl

/-- **What a driving task says to a frame.** -/
theorem utters_receive (xid : c.nextXid = b.nextXid) {w : Awaiting}
    (was : b.stage.verse? = some w.verse) (frame : Frame) : Utters i b (s.receive i c w frame) := by
  unfold receive
  split
  next elements hello =>
    split
    next old => exact utters_begin hb fun _ => .refuses ⟨frame.xid, rfl⟩ was rfl rfl
    next current =>
      have taken : (s.modifyConnection i fun c => { c with nextXid := c.nextXid + 1 }).connection? i =
          some { b with nextXid := b.nextXid + 1 } := by simp [hb]
      rw [xid]
      exact utters_begun taken rfl fun _ => .asks was rfl rfl
  next features reply =>
    have next : (Stage.registering features).verse? = b.stage.verse? := was.symm
    exact .enter hb (.inr next) rfl
  next => exact utters_answerEcho hb was _ _
  next => exact .decide hb was rfl
  next => exact .decide hb was rfl
  next => exact utters_receiveAside hb was frame

/-- What a driving task says as it looks at the bytes at hand. -/
theorem utters_decide {w : Awaiting} (stage : b.stage = .deciding w) :
    Utters i b (s.decide i b w) := by
  have was : b.stage.verse? = some w.verse := by rw [stage]; rfl
  unfold decide
  generalize Frame.decode s.settings.maxFrameLength b.inbound = decoded
  obtain ⟨answer, rest⟩ := decoded
  have kept : (s.modifyConnection i fun c => { c with inbound := rest }).connection? i =
      some { b with inbound := rest } := by simp [hb]
  dsimp only
  split
  next frame =>
    have silent : Event.framesBegun i (.driver i) [.received i frame] = [] := rfl
    exact ((utters_receive kept rfl was frame).note silent).congr rfl rfl
  next =>
    have next : (Stage.reading w (.read (w.limits b) readChunk)).verse? = b.stage.verse? := was.symm
    exact (Utters.enter kept (.inr next) rfl).congr rfl rfl
  next e => exact (utters_fail kept w (.frame e)).congr rfl rfl

/-- What a driving task says as a read ends. -/
theorem utters_afterRead {w : Awaiting} (was : b.stage.verse? = some w.verse)
    (answer : Except Transport.Failure Transport.Reply) : Utters i b (s.afterRead i w answer) := by
  unfold afterRead
  split
  next => exact utters_fail hb w .peerClosed
  next bytes _ =>
    have more : (s.modifyConnection i fun c => { c with inbound := c.inbound ++ bytes }).connection? i =
        some { b with inbound := b.inbound ++ bytes } := by simp [hb]
    exact (Utters.decide more was rfl).congr rfl rfl
  next => exact .decide hb was rfl
  next f => exact utters_fail hb w (.transport f)

/-- What a driving task says as a write ends. -/
theorem utters_afterWrite {purpose : Purpose} (was : b.stage.verse? = some purpose.verse)
    (answer : Except Transport.Failure Unit) : Utters i b (s.afterWrite i purpose answer) := by
  unfold afterWrite
  split
  next version => exact utters_fail hb .hello (.incompatibleVersion (s.peer i).text version)
  next accepted =>
    have same : purpose.awaiting.verse = purpose.verse := by
      cases purpose <;> first | rfl | exact (accepted _ rfl).elim
    exact .decide hb (was.trans (congrArg some same.symm)) rfl
  next f _ => exact utters_fail hb purpose.awaiting (.transport f)

end Words

variable {s t : State} {i : Nat} {c : Connection} {events : List Event}

lemma outgoing_register (s : State) (i : Nat) (c : Connection) (d : Switch.DatapathId) :
    outgoing (s.register i c d).2 = [] := by
  unfold register
  split
  · rfl
  · dsimp only
    split <;> rfl

/-- **What a step of the driving task of a line says.** -/
theorem drive?_speaks {d : Disposition} (h : s.drive? i d = some (t, events)) :
    ∃ c c', s.connection? i = some c ∧ t.connection? i = some c' ∧
      Speaks c c' (Event.framesBegun i (.driver i) events) := by
  obtain ⟨c, hc, step⟩ := drive?_stepped h
  suffices utters : Utters i c (t, events) by
    obtain ⟨c', hc', speaks⟩ := utters
    exact ⟨c, c', hc, hc', speaks⟩
  cases step with
  | opened stage next =>
    subst next
    have taken := connection?_opened hc
    exact utters_begun taken rfl fun _ => .greets stage rfl rfl
  | waited under poll =>
    obtain ⟨locks, bytes, polled, rfl⟩ := connection?_of_poll? poll hc
    exact .quietly (connection?_enter polled _) rfl (.inr (Stage.verse?_withCall _ c.stage))
      (Event.framesBegun_putEvents ..)
  | @wrote purpose frame call u put answer r stage poll next =>
    subst next
    obtain ⟨locks, bytes, polled, rfl⟩ := connection?_of_poll? poll hc
    have after := (utters_afterWrite polled (by rw [stage]; rfl) (answer.map fun _ => ())).congr
      (c := c) rfl rfl
    have ended : Event.framesBegun i (.driver i)
        [.frameEnded i (.driver i) frame (failureOf answer)] = [] := rfl
    exact (after.note ended).note (Event.framesBegun_putEvents ..)
  | decided stage next => exact next ▸ utters_decide hc stage
  | @got w call u put answer r stage poll next =>
    subst next
    obtain ⟨locks, bytes, polled, rfl⟩ := connection?_of_poll? poll hc
    have after := (utters_afterRead polled (by rw [stage]; rfl) answer).congr (c := c) rfl rfl
    exact after.note (Event.framesBegun_putEvents ..)
  | registered stage next =>
    subst next
    obtain ⟨session, next, hc', past, -⟩ := connection?_register hc _
    have asked : c.stage.verse? = some .asked := by rw [stage]; rfl
    exact .quietly hc' rfl (asked ▸ Stage.verse?_of_isPast past)
      (framesBegun_of_silent (s.outgoing_register i c _))
  | displaced stage poll =>
    obtain ⟨locks, bytes, polled, rfl⟩ := connection?_of_poll? poll hc
    exact .quietly (connection?_enter polled _) rfl (.inr (by rw [stage]; rfl))
      (Event.framesBegun_putEvents ..)
  | @launched switch stage =>
    have told : (s.tell i (.spawned switch)).connection? i =
        some { c with news := .spawned switch } := by simp [tell, hc]
    exact .quietly (connection?_enter told _) rfl (.inr (by rw [stage]; rfl)) rfl
  | @closed served call u put answer stage poll =>
    obtain ⟨locks, bytes, polled, rfl⟩ := connection?_of_poll? poll hc
    obtain ⟨session, hc'⟩ := connection?_afterClose polled served
    exact .quietly hc' rfl (.inl (by cases served <;> rfl)) (Event.framesBegun_putEvents ..)
  | deregistered stage => exact .quietly (connection?_enter hc (.joining _ _)) rfl (.inl rfl) rfl
  | @joined switch removed events stage told =>
    have passed : (if removed then Stage.notifying switch else .ended).verse? = none := by
      cases removed <;> rfl
    have silent : Event.framesBegun i (.driver i) events = [] := by
      rcases told with ⟨-, rfl⟩ | ⟨-, rfl⟩ <;> rfl
    exact .quietly (connection?_enter hc _) rfl (.inl passed) silent
  | notified stage => exact .quietly (connection?_enter hc .ended) rfl (.inl rfl) rfl

end State

/-! ### The ids of a connection -/

/-- The transaction id that the connection of a line takes next. -/
def State.nextXid? (s : State) (i : Nat) : Option UInt32 := (s.connection? i).map Connection.nextXid

/-- The frames that others than its driving task began to write on a line, with the task that writes each,
in order. -/
def Event.messagesBegun (i : Nat) (events : List Event) : List (Actor × Frame) :=
  events.filterMap fun e =>
    match e with
    | .frameBegun j who frame => if j = i ∧ who ≠ .driver i then some (who, frame) else none
    | _ => none

namespace Event

variable (i : Nat)

@[simp] lemma messagesBegun_append (first rest : List Event) :
    messagesBegun i (first ++ rest) = messagesBegun i first ++ messagesBegun i rest := by
  simp [messagesBegun]

lemma messagesBegun_outgoing (events : List Event) :
    messagesBegun i (outgoing events) = messagesBegun i events :=
  filterMap_filter_of_none (fun e => by cases e <;> simp [isOutgoing]) events

lemma messagesBegun_of_silent {events : List Event} (silent : outgoing events = []) :
    messagesBegun i events = [] := by
  rw [← messagesBegun_outgoing, silent]
  rfl

@[simp] lemma messagesBegun_putEvents (j : Nat) (who : Actor) (bytes : List UInt8) :
    messagesBegun i (putEvents j who bytes) = [] := by
  unfold putEvents
  split <;> rfl

end Event

section Elsewhere

variable {s t : State} {i j : Nat} {events : List Event}

open State

/-- **The driving task of another line** changes nothing of a connection but its locks. -/
theorem Drove.connection?_of_ne {b c : Connection} (h : Drove s j b t events) (ne : j ≠ i)
    (hc : s.connection? i = some c) : ∃ locks, t.connection? i = some { c with locks } := by
  have entered {u : State} {stage : Stage} : (u.enter j stage).connection? i = u.connection? i := by
    simp [enter, ne]
  have turned {u : State} {served : Option Reference} {r : State × List Event}
      (turn : Turned u j served r) : r.1.connection? i = u.connection? i := by
    obtain ⟨-, g, stage, e, -⟩ := turn
    simp [e, ne]
  cases h with
  | turned idle same turn => exact ⟨c.locks, (turned turn).trans hc⟩
  | waited under polling pending => rw [entered]; exact connection?_of_polling polling hc
  | wrote stage polling ready turn | got stage polling ready turn =>
    rw [turned turn]
    exact connection?_of_polling polling hc
  | displaced stage polling ready => rw [entered]; exact connection?_of_polling polling hc
  | @closed served call b p answer stage polling ready =>
    have closed : ((s.polled j b p).afterClose j served).connection? i =
        (s.polled j b p).connection? i := by
      cases served <;> simp [afterClose, enter, ne]
    rw [closed]
    exact connection?_of_polling polling hc
  | @registered features stage =>
    refine ⟨c.locks, Eq.trans ?_ hc⟩
    unfold register
    split
    · exact entered
    · dsimp only
      split <;> exact entered.trans (by simp [connection?, modifyConnection, modifyLine, ne]) 
  | launched stage => rw [entered]; exact ⟨c.locks, by simp [State.tell, ne, hc]⟩
  | deregistered stage => exact ⟨c.locks, entered.trans hc⟩
  | joined stage told silent => exact ⟨c.locks, entered.trans hc⟩
  | notified stage => exact ⟨c.locks, entered.trans hc⟩

/-- A driving task begins no frame but its own. -/
lemma Drove.messagesBegun {c : Connection} (h : Drove s j c t events) (i : Nat) :
    Event.messagesBegun i events = [] := by
  have turned {u : State} {served : Option Reference} {r : State × List Event}
      (turn : Turned u j served r) : Event.messagesBegun i r.2 = [] := by
    obtain ⟨-, g, stage, e, hg, next⟩ := turn
    rw [← Event.messagesBegun_outgoing]
    generalize outgoing r.2 = seen at next
    cases next with
    | write => simp [Event.messagesBegun]
    | close | decide | read | register => rfl
  cases h with
  | turned idle same turn => exact turned turn
  | waited | displaced | closed => simp
  | wrote stage polling ready turn silent =>
    rw [Event.messagesBegun_append, Event.messagesBegun_putEvents, List.nil_append]
    exact turned turn
  | got stage polling ready turn silent =>
    rw [Event.messagesBegun_append, Event.messagesBegun_putEvents, List.nil_append]
    exact turned turn
  | registered stage => exact Event.messagesBegun_of_silent i (s.outgoing_register j c _)
  | launched | deregistered | notified => rfl
  | joined stage told silent => exact Event.messagesBegun_of_silent i silent.1

/-- A step that is not of a driving task begins no frame of that. -/
lemma framesBegun_of_other (orderly : s.Orderly) {a : Action} (h : s.step? a = some (t, events))
    {who : Actor} (other : a.task? ≠ some who) (i : Nat) : Event.framesBegun i who events = [] := by
  refine List.filterMap_eq_nil_iff.2 fun e he => ?_
  cases e with
  | frameBegun j w frame =>
    have own : a.task? = some w := step?_writer orderly h he rfl
    have ne : w ≠ who := fun e => other (e ▸ own)
    simp [ne]
  | _ => rfl

lemma nextXid?_modifyConnection (s : State) (i j : Nat) {f : Connection → Connection}
    (hf : ∀ c, (f c).nextXid = c.nextXid) : (s.modifyConnection j f).nextXid? i = s.nextXid? i := by
  unfold State.nextXid?
  rw [connection?_modifyConnection]
  split
  next => cases s.connection? i <;> simp [hf]
  next => rfl

lemma nextXid?_polled {c : Connection} (hc : s.connection? j = some c) (p : Polled Actor) (i : Nat) :
    (s.polled j c p).nextXid? i = s.nextXid? i := by
  unfold State.nextXid?
  rw [connection?_polled hc]
  split
  next e => rw [← e, hc]; rfl
  next => rfl

/-- What a step that is not of its driving task does to the ids of a line: nothing, or a message takes
the next one, whether it begins to write its frame or that does not fit. -/
inductive Counts (s t : State) (i : Nat) : List (Actor × Frame) → Prop
  | keeps (same : t.nextXid? i = s.nextXid? i) : Counts s t i []
  | takes {who : Actor} {h : Handle} {message : Message} {c : Connection}
      {begun : List (Actor × Frame)} (apart : who ≠ .driver i)
      (holding : s.sending? who = some (.holding h message)) (line : h.channel = i)
      (was : s.connection? i = some c) (taken : t.nextXid? i = some (c.nextXid + 1))
      (begins : begun = [] ∨ begun = [(who, { xid := c.nextXid, message })]) : Counts s t i begun

/-- Whether a connection is accepted on a line, and has said nothing yet. -/
def Accepts (s t : State) (i : Nat) : Prop :=
  s.connection? i = none ∧ ∃ session, session.datapath = none ∧ t.connection? i = some { session }

/-- A message takes the next id of the connection that it is sent over, and of no other. -/
lemma nextXid?_taken (s : State) (i j : Nat) :
    (s.modifyConnection j fun c => { c with nextXid := c.nextXid + 1 }).nextXid? i =
      if j = i then (s.connection? i).map (·.nextXid + 1) else s.nextXid? i := by
  unfold State.nextXid?
  rw [connection?_modifyConnection]
  split
  · cases s.connection? i <;> rfl
  · rfl

/-- What a step of a message does to the ids of a line. -/
lemma Sent.counts {who : Actor} {x : Sending} {result : Sending ⊕ Except Failure UInt32}
    (step : Sent s who x t events result) (hx : s.sending? who = some x)
    (apart : who ≠ .driver i) : Counts s t i (Event.messagesBegun i events) := by
  cases step with
  | found find | unknown find => exact .keeps rfl
  | @begun h message c bytes connection encoded =>
    by_cases line : h.channel = i
    · subst line
      refine .takes apart hx rfl connection ?_ (.inr (by simp [Event.messagesBegun, apart]))
      rw [nextXid?_taken, if_pos rfl, connection]
      rfl
    · have unsaid : Event.messagesBegun i
          [.frameBegun h.channel who { xid := c.nextXid, message }] = [] := by
        simp [Event.messagesBegun, line]
      rw [unsaid]
      exact .keeps (by rw [nextXid?_taken, if_neg line])
  | @refused h message c e connection encoded =>
    by_cases line : h.channel = i
    · subst line
      refine .takes apart hx rfl connection ?_ (.inl rfl)
      rw [nextXid?_taken, if_pos rfl, connection]
      rfl
    · exact .keeps (by rw [nextXid?_taken, if_neg line])
  | waited polling pending =>
    rw [Event.messagesBegun_putEvents]
    exact .keeps (nextXid?_polled polling.connection _ i)
  | wrote polling ready =>
    rw [Event.messagesBegun_append, Event.messagesBegun_putEvents]
    exact .keeps (nextXid?_polled polling.connection _ i)

/-- What comes of a message is not about its ids. -/
lemma Counts.congr {u : State} {begun : List (Actor × Frame)} (h : Counts s u i begun)
    (same : t.nextXid? i = u.nextXid? i) : Counts s t i begun := by
  cases h with
  | keeps kept => exact .keeps (same.trans kept)
  | takes apart holding line was taken begins =>
    exact .takes apart holding line was (same.trans taken) begins

/-- A step of a handler takes the ids that its message takes. -/
lemma Handled.counts {k : Nat} {c : Connection} (hc : s.connection? k = some c)
    (step : Handled s k c t events) : Counts s t i (Event.messagesBegun i events) := by
  have told (u : State) (news : News) : (u.tell k news).nextXid? i = u.nextXid? i :=
    nextXid?_modifyConnection u i k fun _ => rfl
  have sending {run : Burst.Run Reference} {x : Sending} (was : c.news = .sending run x) :
      s.sending? (.handler k) = some x := by
    rw [sending?_handler (core?_of_connection? hc)]
    show c.news.sending? = some x
    rw [was]
    rfl
  cases step with
  | called | observed | attempted | completed => exact .keeps (told s _)
  | sent was step | delivered was step =>
    exact (step.counts (sending was) (by simp)).congr (told _ _)
  | aborted was step =>
    rw [Event.messagesBegun_append, show Event.messagesBegun i [.burstEnded k _] = [] from rfl,
      List.append_nil]
    exact (step.counts (sending was) (by simp)).congr (told _ _)
  | settled was handler settle =>
    obtain ⟨handler, stopping, news, e, -, silent, -⟩ := s.settle_effect k _ _
    rw [Event.messagesBegun_of_silent i silent, e]
    exact .keeps (told { s with handler, stopping } news)

/-- A step of a call from outside takes the ids that its message takes. -/
lemma Answered.counts {k : Nat} {caller : Caller} (hk : s.callers[k]? = some caller)
    (step : Answered s k caller t events) : Counts s t i (Event.messagesBegun i events) := by
  have sending {x : Sending} (was : caller = .sending x) : s.sending? (.caller k) = some x := by
    rw [sending?_caller hk, was]
    rfl
  cases step with
  | sent step | delivered step | failed step =>
    exact (step.counts (sending rfl) (by simp)).congr rfl
  | waited polling pending | closed polling ready =>
    rw [Event.messagesBegun_putEvents]
    exact .keeps (nextXid?_polled polling.connection _ i)

/-- **What a step does to the ids of a line**, unless it is one of its driving task. -/
theorem step?_counts (orderly : s.Orderly) {a : Action} (h : s.step? a = some (t, events))
    (other : a.task? ≠ some (.driver i)) :
    Counts s t i (Event.messagesBegun i events) ∨
      Accepts s t i ∧ Event.messagesBegun i events = [] := by
  cases State.step?_moved h with
  | @drove j d c t events hc step =>
    have ne : j ≠ i := by
      rintro rfl
      exact other rfl
    rw [step.messagesBegun i]
    refine .inl (.keeps ?_)
    unfold nextXid?
    cases hi : s.connection? i with
    | none =>
      obtain ⟨session, stage, news, core, -⟩ := step.effect hc
      have none : t.connection? i = none := by
        rw [← core?_eq_none_iff, core, if_neg ne, core?_eq_none_iff, hi]
      rw [none]
    | some b =>
      obtain ⟨locks, after⟩ := step.connection?_of_ne ne hi
      rw [after]
      rfl
  | told hc step => exact .inl (step.counts hc)
  | answered hk step => exact .inl (step.counts hk)
  | @accepted d k rest started acceptor backlog =>
    obtain ⟨session, datapath, -, -, fresh, connection, seen⟩ := core?_acceptFirst orderly backlog
    rw [seen]
    by_cases line : k = i
    · exact .inr ⟨⟨line ▸ fresh, session, datapath, by rw [connection, if_pos line]⟩, rfl⟩
    · exact .inl (.keeps (by rw [nextXid?, connection, if_neg line, nextXid?]))
  | called call =>
    obtain ⟨caller, rfl, -⟩ := call?_eq_some call
    exact .inl (.keeps rfl)
  | connected going => exact .inl (.keeps (by rw [nextXid?, connection?_connect, nextXid?]))
  | aside world task silent quiet =>
    rw [Event.messagesBegun_of_silent i silent]
    exact .inl (.keeps (by rw [nextXid?, world.connection, nextXid?]))

/-- A driving task notes a datapath only once it has asked for the features of its switch. -/
lemma Drove.datapath {c c' : Connection} (hc : s.connection? i = some c)
    (h : Drove s i c t events) (hc' : t.connection? i = some c') :
    c'.session.datapath = c.session.datapath ∨
      c'.session.datapath ≠ none ∧ c.stage.verse? = some .asked := by
  obtain ⟨session, stage, news, core, -, course⟩ := h.effect hc
  have now : c'.session = session := by
    have same := core i
    rw [if_pos rfl, core?_of_connection? hc'] at same
    exact congrArg (fun core => core.1) (Option.some.inj same)
  rw [now]
  generalize registrations events = seen, t.registry = g at course
  cases course with
  | goes datapath | ends _ datapath => exact .inl datapath
  | registers was datapath number phase reported =>
    obtain ⟨features, stage, -⟩ := reported
    exact .inr ⟨by simp [datapath], by rw [stage]; rfl⟩
  | launches | deregisters => exact .inl rfl

end Elsewhere

end FlowBurst.Controller
