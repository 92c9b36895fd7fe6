import FlowBurst.Proofs.Lines
import Mathlib.Data.List.Basic

/-!
# What a driving task turns to

Between two calls the driving task of a connection decides, from what it has received and how its
last call ended, what to do next: write a frame, close the connection, look at the bytes at hand,
read more, or register the switch. Whatever it decides, it changes nothing but its own connection,
keeps the locks, the session and the news of that, and keeps serving the switch that it serves.
-/

namespace FlowBurst.Controller

open FlowBurst.OpenFlow (ErrorReport Frame Message)
open FlowBurst.Switch (Failure Reference)
open FlowBurst.Transport (Call Limits)

/-- The switch that is served, if the handshake is over. -/
def Awaiting.served : Awaiting → Option Reference
  | service switch => some switch
  | hello | features => none

lemma Awaiting.served_eq_none {w : Awaiting} (h : ∀ switch, w = .service switch → False) :
    w.served = none := by
  cases w with
  | service switch => exact (h switch rfl).elim
  | hello | features => rfl

/-- Whether an event is about the frames and bytes that are written. -/
def Event.isOutgoing : Event → Bool
  | put _ _ _ | frameBegun _ _ _ | frameEnded _ _ _ _ => true
  | _ => false

/-- Whether an event is about the coming and going of switches. -/
def Event.isRegistration : Event → Bool
  | accepted _ _ | registered _ _ | deregistered _ _ _ | readyCalled _ _ | readyReturned _ _
  | disconnectedCalled _ _ => true
  | _ => false

/-- The events about the frames and bytes that are written. -/
def outgoing (events : List Event) : List Event := events.filter Event.isOutgoing

/-- The events about the coming and going of switches. -/
def registrations (events : List Event) : List Event := events.filter Event.isRegistration

@[simp] lemma outgoing_append (first rest : List Event) :
    outgoing (first ++ rest) = outgoing first ++ outgoing rest := by simp [outgoing]

@[simp] lemma registrations_append (first rest : List Event) :
    registrations (first ++ rest) = registrations first ++ registrations rest := by
  simp [registrations]

/-- What is read off some events is read off those alone that have a say in it. -/
lemma filterMap_filter_of_none {α : Type} {p : Event → Bool} {f : Event → Option α}
    (h : ∀ e, p e = false → f e = none) (events : List Event) :
    (events.filter p).filterMap f = events.filterMap f := by
  rw [List.filterMap_filter]
  refine List.filterMap_congr fun e _ => ?_
  cases he : p e
  · simp [h e he]
  · rfl

/-- What a driving task that serves a switch, or none yet, may turn to, and what it lets the world
see of writing. -/
inductive Next (i : Nat) : Option Reference → Stage → List Event → Prop
  | write (purpose : Purpose) {limits : Limits} {frame : Frame} {bytes : List UInt8}
      (cancellable : limits.cancellable = true) (encoded : frame.encode = .ok bytes) :
      Next i purpose.awaiting.served (.writing purpose frame (.write limits bytes))
        [.frameBegun i (.driver i) frame]
  | close (served : Option Reference) (now : Nat) :
      Next i served (.closing served (closeCall now)) []
  | decide (w : Awaiting) : Next i w.served (.deciding w) []
  | read (w : Awaiting) (limits : Limits) : Next i w.served (.reading w (.read limits readChunk)) []
  | register (features : OpenFlow.Features) : Next i none (.registering features) []

/-- A connection on which only the progress of its driving task has changed. -/
structure Connection.SameBut (c c' : Connection) : Prop where
  locks : c'.locks = c.locks
  news : c'.news = c.news
  session : c'.session = c.session

/-- The driving task of a line that serves a switch, or none yet, turned to something else. -/
def Turned (s : State) (i : Nat) (served : Option Reference) (r : State × List Event) : Prop :=
  registrations r.2 = [] ∧ ∃ g stage, r.1 = s.modifyConnection i g ∧
    (∀ c, Connection.SameBut c (g c) ∧ (g c).stage = stage) ∧ Next i served stage (outgoing r.2)

namespace State

variable (s : State) (i : Nat)

lemma modifyConnection_modifyConnection (f g : Connection → Connection) :
    (s.modifyConnection i f).modifyConnection i g = s.modifyConnection i (g ∘ f) := by
  unfold modifyConnection modifyLine
  simp only [List.modify_modify_eq]
  congr 2
  funext l
  simp

end State

namespace Turned

variable {s : State} {i : Nat} {served : Option Reference}

/-- A turn to a stage that writes nothing yet. -/
lemma enter {stage : Stage} (h : Next i served stage []) : Turned s i served (s.enter i stage, []) :=
  ⟨rfl, _, stage, rfl, fun _ => ⟨⟨rfl, rfl, rfl⟩, rfl⟩, h⟩

/-- A turn after a change that concerns only the progress of the driving task. -/
lemma after {f : Connection → Connection} (hf : ∀ c : Connection, c.SameBut (f c)) {r : State × List Event}
    (h : Turned (s.modifyConnection i f) i served r) : Turned s i served r := by
  obtain ⟨hr, g, stage, e, hg, hn⟩ := h
  refine ⟨hr, g ∘ f, stage, by rw [e, State.modifyConnection_modifyConnection], fun c => ?_, hn⟩
  obtain ⟨⟨h1, h2, h3⟩, h4⟩ := hg (f c)
  obtain ⟨k1, k2, k3⟩ := hf c
  exact ⟨⟨h1.trans k1, h2.trans k2, h3.trans k3⟩, h4⟩

/-- A turn that lets the world see more, but nothing of writing or registering. -/
lemma note {r : State × List Event} (h : Turned s i served r) (events : List Event)
    (ho : outgoing events = []) (hr : registrations events = []) :
    Turned s i served (r.1, events ++ r.2) := by
  obtain ⟨hr', g, stage, e, hg, hn⟩ := h
  exact ⟨by simp [hr, hr'], g, stage, e, hg, by simpa [ho] using hn⟩

end Turned

namespace State

variable (s : State) (i : Nat)

/-- A turn to closing the connection, with or without a notice of it. -/
lemma turned_close (served : Option Reference) (quiet : Bool) (n : Notice) :
    Turned s i served
      (s.enter i (.closing served (closeCall s.now)), if quiet then [] else [.notice n]) := by
  cases quiet
  · exact (Turned.enter (.close served s.now)).note [.notice n] rfl rfl
  · exact .enter (.close served s.now)

theorem turned_failHandshake (f : Failure) : Turned s i none (s.failHandshake i f) :=
  s.turned_close i none _ _

theorem turned_endService (switch : Reference) (f : Failure) :
    Turned s i (some switch) (s.endService i switch f) :=
  s.turned_close i (some switch) _ _

theorem turned_fail (w : Awaiting) (f : Failure) : Turned s i w.served (s.fail i w f) := by
  cases w with
  | hello => exact s.turned_failHandshake i f
  | features => exact s.turned_failHandshake i f
  | service switch => exact s.turned_endService i switch f

lemma outgoing_fail (w : Awaiting) (f : Failure) : outgoing (s.fail i w f).2 = [] := by
  have quietly : ∀ (quiet : Bool) (n : Notice), outgoing (if quiet then [] else [.notice n]) = [] :=
    fun quiet n => by cases quiet <;> rfl
  cases w <;> exact quietly _ _

theorem turned_begin (purpose : Purpose) {limits : Limits} (cancellable : limits.cancellable = true)
    (frame : Frame) :
    Turned s i purpose.awaiting.served (s.begin i purpose limits frame) := by
  unfold begin
  split
  next bytes h => exact ⟨rfl, _, _, rfl, fun _ => ⟨⟨rfl, rfl, rfl⟩, rfl⟩, .write purpose cancellable h⟩
  next e h => exact s.turned_fail i purpose.awaiting (.frame e)

theorem turned_afterWrite (purpose : Purpose) (answer : Except Transport.Failure Unit) :
    Turned s i purpose.awaiting.served (s.afterWrite i purpose answer) := by
  unfold afterWrite
  split
  · exact s.turned_failHandshake i _
  · exact .enter (.decide purpose.awaiting)
  · exact s.turned_fail i purpose.awaiting _

/-- A driving task whose write failed turns to closing its connection. -/
lemma afterWrite_error (purpose : Purpose) (f : Transport.Failure) :
    (s.afterWrite i purpose (.error f)).1 =
      s.enter i (.closing purpose.awaiting.served (closeCall s.now)) := by
  cases purpose with
  | greeting | featuresRequest | rejection => rfl
  | echo w => cases w <;> rfl

lemma outgoing_afterWrite (purpose : Purpose) (answer : Except Transport.Failure Unit) :
    outgoing (s.afterWrite i purpose answer).2 = [] := by
  unfold afterWrite
  split
  · exact s.outgoing_fail i .hello _
  · rfl
  · exact s.outgoing_fail i purpose.awaiting _

theorem turned_answerEcho (c : Connection) (w : Awaiting) (xid : UInt32) (payload : List UInt8) :
    Turned s i w.served (s.answerEcho i c w xid payload) :=
  s.turned_begin i (.echo w) (by cases w <;> rfl) _

theorem turned_receiveAside (c : Connection) {w : Awaiting} (hw : w.served = none) (frame : Frame) :
    Turned s i w.served (s.receiveAside i c w frame) := by
  unfold receiveAside
  split
  · exact s.turned_answerEcho i c w _ _
  next report h =>
    rw [hw]
    exact (s.turned_failHandshake i _).note [_] rfl rfl
  · exact .enter (.decide w)

theorem turned_receive (c : Connection) (w : Awaiting) (frame : Frame) :
    Turned s i w.served (s.receive i c w frame) := by
  unfold receive
  split
  · split
    · exact s.turned_begin i (.rejection frame.version) rfl _
    · exact .after (f := fun c => { c with nextXid := c.nextXid + 1 })
        (fun _ => ⟨rfl, rfl, rfl⟩) (turned_begin _ i .featuresRequest rfl _)
  · exact .enter (.register _)
  · exact s.turned_answerEcho i c _ _ _
  next switch report h =>
    exact (Turned.enter (.decide (.service switch))).note
      [.notice (.errorReported switch.datapath frame.xid report)] rfl rfl
  next switch h1 h2 => exact .enter (.decide (.service switch))
  · rename_i notServing _ _ _ _
    exact s.turned_receiveAside i c (Awaiting.served_eq_none notServing) frame

theorem turned_decide (c : Connection) (w : Awaiting) :
    Turned s i w.served (s.decide i c w) := by
  unfold decide
  obtain ⟨answer, rest⟩ := Frame.decode s.settings.maxFrameLength c.inbound
  refine .after (f := fun c => { c with inbound := rest }) (fun _ => ⟨rfl, rfl, rfl⟩) ?_
  rcases answer with e | _ | frame
  · exact turned_fail _ i w (.frame e)
  · exact .enter (.read w _)
  · exact (turned_receive _ i c w frame).note [.received i frame] rfl rfl

theorem turned_afterRead (w : Awaiting) (answer : Except Transport.Failure Transport.Reply) :
    Turned s i w.served (s.afterRead i w answer) := by
  unfold afterRead
  split
  · exact s.turned_fail i w _
  next bytes h =>
    exact .after (f := fun c => { c with inbound := c.inbound ++ bytes }) (fun _ => ⟨rfl, rfl, rfl⟩)
      ((Turned.enter (.decide w)).note [.read i bytes] rfl rfl)
  · exact .enter (.decide w)
  · exact s.turned_fail i w _

lemma outgoing_afterRead (w : Awaiting) (answer : Except Transport.Failure Transport.Reply) :
    outgoing (s.afterRead i w answer).2 = [] := by
  unfold afterRead
  split
  · exact s.outgoing_fail i w _
  · rfl
  · rfl
  · exact s.outgoing_fail i w _

end State

end FlowBurst.Controller
