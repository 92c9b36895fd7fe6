import FlowBurst.Proofs.FrameOrder
import FlowBurst.Proofs.Utterances
import Mathlib.Data.List.Nodup
import Mathlib.Data.List.Perm.Subperm

/-!
# What is said on a line

Driving task, burst and callers share the lock and the transaction ids of a connection, and yet what is
written on it follows one grammar: a HELLO, echo replies, and then a refusal of the version or a request
for the features; messages come only after the handshake. It holds since nobody has a handle of a line
before its switch is registered. Main statement: `speech_in_order`.
-/

namespace FlowBurst.Controller

open FlowBurst.OpenFlow (Frame)
open FlowBurst.Switch (DatapathId Handle Session)

/-! ### What a driving task has said -/

/-- The frames that a driving task has begun by a verse. -/
inductive Says : Verse → List Frame → Prop
  | silent : Says .silent []
  | greeted {echoes : List Frame} (he : ∀ f ∈ echoes, IsEcho f) :
      Says .greeted (greeting :: echoes)
  | refused {echoes : List Frame} {refusal : Frame} (he : ∀ f ∈ echoes, IsEcho f)
      (hr : IsRefusal refusal) : Says .refused (greeting :: (echoes ++ [refusal]))
  | asked {before after : List Frame} (hb : ∀ f ∈ before, IsEcho f) (ha : ∀ f ∈ after, IsEcho f) :
      Says .asked (greeting :: (before ++ featuresRequest :: after))

lemma IsEcho.ne_featuresRequest {f : Frame} (h : IsEcho f) : f ≠ featuresRequest := by
  obtain ⟨xid, payload, rfl⟩ := h
  simp [featuresRequest]

lemma featuresRequest_notMem {echoes : List Frame} (he : ∀ f ∈ echoes, IsEcho f) :
    featuresRequest ∉ greeting :: echoes := by
  rintro (_ | ⟨_, member⟩)
  exact (he _ member).ne_featuresRequest rfl

/-- Whoever has said something has said the beginning of it. -/
lemma Says.of_prefix {v : Verse} {frames part : List Frame} (h : Says v frames)
    (begin : part <+: frames) : ∃ v, Says v part := by
  have echoes {xs ys : List Frame} (hx : ∀ f ∈ xs, IsEcho f) (p : ys <+: xs) :
      ∀ f ∈ ys, IsEcho f := fun f hf => hx f (p.subset hf)
  cases h with
  | silent =>
    rw [List.prefix_nil.1 begin]
    exact ⟨_, .silent⟩
  | greeted he =>
    rcases List.prefix_cons_iff.1 begin with rfl | ⟨rest, rfl, p⟩
    · exact ⟨_, .silent⟩
    · exact ⟨_, .greeted (echoes he p)⟩
  | refused he hr =>
    rcases List.prefix_cons_iff.1 begin with rfl | ⟨rest, rfl, p⟩
    · exact ⟨_, .silent⟩
    · rcases List.prefix_concat_iff.1 p with rfl | p
      · exact ⟨_, .refused he hr⟩
      · exact ⟨_, .greeted (echoes he p)⟩
  | @asked before after hb ha =>
    rcases List.prefix_cons_iff.1 begin with rfl | ⟨rest, rfl, p⟩
    · exact ⟨_, .silent⟩
    · rcases List.prefix_or_prefix_of_prefix p (List.prefix_append before _) with q | ⟨tail, rfl⟩
      · exact ⟨_, .greeted (echoes hb q)⟩
      · rcases List.prefix_cons_iff.1 ((List.prefix_append_right_inj before).1 p) with
          rfl | ⟨tail, rfl, q⟩
        · exact ⟨_, .greeted (by simpa using hb)⟩
        · exact ⟨_, .asked hb (echoes ha q)⟩

/-- Echo replies may be said whenever a frame is awaited. -/
lemma Says.echo {w : Awaiting} {frames : List Frame} (h : Says w.verse frames) {frame : Frame}
    (echo : IsEcho frame) : Says w.verse (frames ++ [frame]) := by
  have more {echoes : List Frame} (he : ∀ f ∈ echoes, IsEcho f) : ∀ f ∈ echoes ++ [frame], IsEcho f :=
    List.forall_mem_append.2 ⟨he, by simpa using echo⟩
  generalize hv : w.verse = v at h
  cases h with
  | silent | refused => cases w <;> cases hv
  | greeted he => exact .greeted (more he)
  | asked hb ha =>
    rw [List.cons_append, List.append_assoc, List.cons_append]
    exact .asked hb (more ha)

/-! ### The ids of a connection -/

/-- How many transaction ids of a connection its driving task has taken by a verse, of those that were
taken. -/
def Verse.Took (taken : Nat) : Verse → Prop
  | silent => taken = 0
  | greeted | refused => taken = 1
  | asked => 2 ≤ taken

/-- Whether a frame is written by a burst or by a call from outside. -/
def IsMessage (w : Actor × Frame) : Prop := ∃ k, w.1 = .handler k ∨ w.1 = .caller k

/-- **What has been said over a connection** by its driving task and by others, with the transaction ids
taken: the ids are taken in turn, the driving task takes the first two, and others say nothing before
the switch is known. -/
structure Voice (c : Connection) (taken : Nat) (said : List Frame) (begun : List (Actor × Frame)) :
    Prop where
  counter : c.nextXid = UInt32.ofNat (taken + 1)
  verse : ∃ v, Says v said ∧ v.Took taken ∧ (∀ w, c.stage.verse? = some w → w = v) ∧
    (c.session.datapath ≠ none → v = .asked)
  unmet : c.session.datapath = none → begun = []
  others : ∀ w ∈ begun, IsMessage w
  turns : ∃ turns : List Nat, begun.map (·.2.xid) = turns.map UInt32.ofNat ∧
    turns.Pairwise (· < ·) ∧ ∀ k ∈ turns, 3 ≤ k ∧ k ≤ taken

namespace Voice

variable {c c' : Connection} {taken : Nat} {said : List Frame} {begun : List (Actor × Frame)}

lemma start {session : Session} (datapath : session.datapath = none) :
    Voice { session } 0 [] [] where
  counter := rfl
  verse := ⟨.silent, .silent, rfl, fun w hw => (Option.some.inj hw).symm,
    fun met => (met datapath).elim⟩
  unmet _ := rfl
  others := by simp
  turns := ⟨[], rfl, .nil, by simp⟩

/-- The turns stay what they are as more ids are taken. -/
lemma turns_mono (voice : Voice c taken said begun) {more : Nat} (le : taken ≤ more) :
    ∃ turns : List Nat, begun.map (·.2.xid) = turns.map UInt32.ofNat ∧
      turns.Pairwise (· < ·) ∧ ∀ k ∈ turns, 3 ≤ k ∧ k ≤ more := by
  obtain ⟨turns, xids, ascending, bounds⟩ := voice.turns
  exact ⟨turns, xids, ascending, fun k hk => ⟨(bounds k hk).1, Nat.le_trans (bounds k hk).2 le⟩⟩

/-- What else becomes of a connection does not matter. -/
lemma congr (voice : Voice c taken said begun) (xid : c'.nextXid = c.nextXid)
    (stage : c'.stage = c.stage) (session : c'.session = c.session) : Voice c' taken said begun where
  counter := xid.trans voice.counter
  verse := stage ▸ session ▸ voice.verse
  unmet := session ▸ voice.unmet
  others := voice.others
  turns := voice.turns

/-- **A step of the driving task** goes on with what it says. -/
theorem speaks (voice : Voice c taken said begun) {frames : List Frame}
    (speaks : Speaks c c' frames) (datapath : c'.session.datapath = c.session.datapath ∨
      c'.session.datapath ≠ none ∧ c.stage.verse? = some .asked) :
    Voice c' (taken + if c'.nextXid = c.nextXid then 0 else 1) (said ++ frames) begun := by
  obtain ⟨v, spoken, took, here, met⟩ := voice.verse
  have unmet : c'.session.datapath = none → begun = [] := fun none =>
    voice.unmet (datapath.elim (fun same => same ▸ none) fun h => (h.1 none).elim)
  -- whoever has not asked knows of no datapath, before the step and after it
  have unknown {w : Verse} (was : c.stage.verse? = some w) (unasked : w ≠ .asked) :
      c'.session.datapath = none := by
    rcases datapath with same | ⟨-, asked⟩
    · refine same.trans (by_contra fun known => unasked ?_)
      exact (here w was).trans (met known)
    · exact (unasked (Option.some.inj (was.symm.trans asked))).elim
  have step (taken' : Nat) (le : taken ≤ taken') (counter : c'.nextXid = UInt32.ofNat (taken' + 1))
      {w : Verse} (spoken' : Says w (said ++ frames)) (took' : w.Took taken')
      (next : c'.stage.verse? = some w) (met' : c'.session.datapath ≠ none → w = .asked) :
      Voice c' taken' (said ++ frames) begun :=
    ⟨counter, ⟨w, spoken', took', fun u hu => Option.some.inj (hu.symm.trans next), met'⟩, unmet,
      voice.others, voice.turns_mono le⟩
  have takes (one : c'.nextXid = c.nextXid + 1) :
      (taken + if c'.nextXid = c.nextXid then 0 else 1) = taken + 1 ∧
        c'.nextXid = UInt32.ofNat (taken + 1 + 1) := by
    refine ⟨by rw [if_neg (by simp [one])], ?_⟩
    rw [one, voice.counter, UInt32.ofNat_add (taken + 1) 1]
    rfl
  cases speaks with
  | goes same next =>
    rw [if_pos same, List.append_nil]
    refine ⟨same.trans voice.counter, ⟨v, spoken, took, fun w hw => ?_, fun known => ?_⟩, unmet,
      voice.others, voice.turns⟩
    · rcases next with passed | stays
      · rw [passed] at hw
        cases hw
      · exact here w (stays ▸ hw)
    · rcases datapath with same | ⟨-, asked⟩
      · exact met (same ▸ known)
      · exact (here _ asked).symm
  | greets was one next =>
    obtain rfl := here .silent (by rw [was]; rfl)
    obtain rfl : taken = 0 := took
    obtain ⟨count, counter⟩ := takes one
    rw [count]
    cases spoken
    refine step 1 (Nat.zero_le 1) counter (w := .greeted) ?_ rfl next ?_
    · rw [voice.counter]
      exact .greeted (by simp)
    · exact fun known => (known (unknown (w := .silent) (by rw [was]; rfl) (by simp))).elim
  | asks was one next =>
    obtain rfl := here .greeted was
    obtain rfl : taken = 1 := took
    obtain ⟨count, counter⟩ := takes one
    rw [count]
    cases spoken with
    | greeted he =>
      refine step 2 (Nat.le_succ 1) counter (w := .asked) ?_ (Nat.le_refl 2) next fun _ => rfl
      rw [voice.counter]
      exact .asked he (by simp)
  | @echoes w frame echo was same next =>
    obtain rfl := here w.verse was
    rw [if_pos same]
    refine step taken (Nat.le_refl _) (same.trans voice.counter) (spoken.echo echo) took next
      fun known => ?_
    exact by_contra fun unasked => known (unknown was unasked)
  | refuses refusal was same next =>
    obtain rfl := here .greeted was
    rw [if_pos same]
    cases spoken with
    | greeted he =>
      exact step taken (Nat.le_refl _) (same.trans voice.counter) (.refused he refusal) took next
        fun known => (known (unknown was (by simp))).elim

/-- **A message takes the next id**, once the switch is known. -/
theorem takes (voice : Voice c taken said begun) (xid : c'.nextXid = c.nextXid + 1)
    (stage : c'.stage = c.stage) (session : c'.session = c.session)
    (known : c.session.datapath ≠ none) {who : Actor} {frame : Frame} {new : List (Actor × Frame)}
    (begins : new = [] ∨ new = [(who, frame)]) (message : IsMessage (who, frame))
    (own : frame.xid = c.nextXid) :
    Voice c' (taken + 1) said (begun ++ new) := by
  obtain ⟨v, spoken, took, here, met⟩ := voice.verse
  obtain rfl := met known
  have enough : 2 ≤ taken := took
  refine ⟨?_, ⟨.asked, spoken, Nat.le_succ_of_le enough, stage ▸ here, fun _ => rfl⟩,
    fun none => (known (session ▸ none)).elim, ?_, ?_⟩
  · rw [xid, voice.counter, UInt32.ofNat_add (taken + 1) 1]
    rfl
  · refine List.forall_mem_append.2 ⟨voice.others, fun w hw => ?_⟩
    rcases begins with rfl | rfl
    · cases hw
    · rw [List.mem_singleton.1 hw]
      exact message
  obtain ⟨turns, xids, ascending, bounds⟩ := voice.turns
  rcases begins with rfl | rfl
  · rw [List.append_nil]
    exact voice.turns_mono (Nat.le_succ taken)
  · refine ⟨turns ++ [taken + 1], ?_, ?_, fun k hk => ?_⟩
    · simp [xids, own, voice.counter]
    · refine List.pairwise_append.2 ⟨ascending, List.pairwise_singleton _ _, fun k hk l hl => ?_⟩
      rw [List.mem_singleton.1 hl]
      exact Nat.lt_succ_of_le (bounds k hk).2
    · rcases List.mem_append.1 hk with hk | hk
      · exact ⟨(bounds k hk).1, Nat.le_succ_of_le (bounds k hk).2⟩
      · rw [List.mem_singleton.1 hk]
        omega

end Voice

namespace State

/-- How many transaction ids of the connection of a line a step takes: one, if its next id is another. -/
def idTaken (i : Nat) (s t : State) : Nat :=
  match s.nextXid? i, t.nextXid? i with
  | some before, some after => if after = before then 0 else 1
  | _, _ => 0

/-- How many transaction ids of the connection of a line are taken in a run. -/
def idsTaken (i : Nat) : State → List Action → Nat
  | _, [] => 0
  | s, a :: rest =>
    match s.step? a with
    | some (t, _) => s.idTaken i t + idsTaken i t rest
    | none => 0

lemma idsTaken_concat (i : Nat) {s₀ s t : State} {actions : List Action} {a : Action}
    {before after : List Event} (run : s₀.steps? actions = some (s, before))
    (step : s.step? a = some (t, after)) :
    idsTaken i s₀ (actions ++ [a]) = idsTaken i s₀ actions + s.idTaken i t := by
  induction actions generalizing s₀ before with
  | nil =>
    obtain ⟨rfl, rfl⟩ : s₀ = s ∧ [] = before := by simpa [steps?] using run
    simp [idsTaken, step]
  | cons b rest ih =>
    obtain ⟨⟨u, first⟩, hb, h⟩ := Option.bind_eq_some_iff.1 run
    obtain ⟨⟨v, more⟩, hr, e⟩ := Option.bind_eq_some_iff.1 h
    cases e
    simp only [List.cons_append, idsTaken, hb, ih hr, Nat.add_assoc]

/-- The datapath that the connection of a line has noted. -/
def datapath? (s : State) (i : Nat) : Option DatapathId :=
  (s.connection? i).bind fun c => c.session.datapath

end State

/-- What has been said on a line, with the ids taken. Before the line is accepted nothing has. -/
def Voiced (s : State) (i : Nat) (taken : Nat) (events : List Event) : Prop :=
  match s.connection? i with
  | none => taken = 0 ∧ Event.framesBegun i (.driver i) events = [] ∧
      Event.messagesBegun i events = []
  | some c =>
    Voice c taken (Event.framesBegun i (.driver i) events) (Event.messagesBegun i events)

section Voiced

variable {s t : State} {i taken : Nat} {events more : List Event}

open State

lemma voiced_of_connection {c : Connection} (hc : s.connection? i = some c) :
    Voiced s i taken events ↔
      Voice c taken (Event.framesBegun i (.driver i) events) (Event.messagesBegun i events) := by
  unfold Voiced
  rw [hc]

lemma idTaken_of_connection {c c' : Connection} (hc : s.connection? i = some c)
    (hc' : t.connection? i = some c') :
    s.idTaken i t = if c'.nextXid = c.nextXid then 0 else 1 := by
  unfold idTaken nextXid?
  rw [hc, hc']
  rfl

/-- A step of another task leaves the session and the stage of a connection as they are. -/
lemma connection?_of_other (orderly : s.Orderly) {a : Action} (h : s.step? a = some (t, more))
    (other : a.task? ≠ some (.driver i)) {c : Connection} (hc : s.connection? i = some c) :
    ∃ c', t.connection? i = some c' ∧ c'.session = c.session ∧ c'.stage = c.stage := by
  exact connection?_of_standing? (standing?_of_other orderly h other
    (standing?_of_core? (core?_of_connection? hc)))

/-- Whoever has a handle of a line has it since the switch of the line is known. -/
lemma datapath_of_knows {h : Handle} (known : s.knows h = true) (line : h.channel = i)
    {c : Connection} (hc : s.connection? i = some c) : c.session.datapath ≠ none := by
  obtain ⟨session, stage, hx, datapath, -⟩ := knows_iff.1 known
  rw [line, standing?_of_core? (core?_of_connection? hc)] at hx
  cases hx
  exact Option.ne_none_iff_exists'.2 ⟨_, datapath⟩

/-- Messages are brought on their way by handlers and by calls from outside. -/
lemma isMessage_of_sending {who : Actor} {x : Sending} (hx : s.sending? who = some x) {frame : Frame} :
    IsMessage (who, frame) := by
  cases who with
  | acceptor | driver => cases hx
  | handler k => exact ⟨k, .inl rfl⟩
  | caller k => exact ⟨k, .inr rfl⟩

/-- Nothing is said on a line that is not accepted. -/
lemma Voiced.unaccepted (voiced : Voiced s i taken events) (hc : s.connection? i = none)
    (unsaid : Event.framesBegun i (.driver i) more = [])
    (counts : Counts s t i (Event.messagesBegun i more)) :
    Voiced t i (taken + s.idTaken i t) (events ++ more) := by
  unfold Voiced at voiced
  rw [hc] at voiced
  obtain ⟨rfl, said, begun⟩ := voiced
  generalize silent : Event.messagesBegun i more = new at counts
  cases counts with
  | takes apart holding line was =>
    rw [hc] at was
    cases was
  | keeps same =>
    have none : t.connection? i = none := by
      rw [nextXid?, nextXid?, hc] at same
      exact Option.map_eq_none_iff.1 same
    unfold Voiced idTaken nextXid?
    rw [none, hc, Event.framesBegun_append, Event.messagesBegun_append, said, begun, unsaid, silent]
    exact ⟨rfl, rfl, rfl⟩

/-- **Every step keeps what is said on a line in order.** -/
theorem Voiced.step (voiced : Voiced s i taken events) (orderly : s.Orderly) (directed : Directed s)
    {a : Action} (h : s.step? a = some (t, more)) :
    Voiced t i (taken + s.idTaken i t) (events ++ more) := by
  by_cases own : a.task? = some (.driver i)
  · obtain ⟨c, hc, step⟩ := drove_of_task h own
    obtain ⟨d, rfl⟩ := Action.eq_run_of_task? own
    obtain ⟨c₁, c', hc₁, hc', speaks⟩ := drive?_speaks h
    obtain rfl : c = c₁ := Option.some.inj (hc.symm.trans hc₁)
    rw [voiced_of_connection hc', idTaken_of_connection hc hc', Event.framesBegun_append,
      Event.messagesBegun_append, step.messagesBegun i, List.append_nil]
    exact ((voiced_of_connection hc).1 voiced).speaks speaks (step.datapath hc hc')
  · have unsaid : Event.framesBegun i (.driver i) more = [] := framesBegun_of_other orderly h own i
    rcases step?_counts orderly h own with counts | ⟨⟨fresh, session, datapath, now⟩, silent⟩
    · cases hc : s.connection? i with
      | none => exact voiced.unaccepted hc unsaid counts
      | some c =>
        obtain ⟨c', hc', session, stage⟩ := connection?_of_other orderly h own hc
        have voice := (voiced_of_connection hc).1 voiced
        have next : t.nextXid? i = some c'.nextXid := by rw [nextXid?, hc']; rfl
        rw [voiced_of_connection hc', idTaken_of_connection hc hc', Event.framesBegun_append,
          Event.messagesBegun_append, unsaid, List.append_nil]
        generalize Event.messagesBegun i more = begun at counts
        cases counts with
        | keeps same =>
          have xid : c'.nextXid = c.nextXid := by
            rw [next, nextXid?, hc] at same
            exact Option.some.inj same
          rw [if_pos xid, List.append_nil]
          exact voice.congr xid stage session
        | @takes who k message b _ apart holding line was taken begins =>
          obtain rfl : c = b := Option.some.inj (hc.symm.trans was)
          have xid : c'.nextXid = c.nextXid + 1 := Option.some.inj (next.symm.trans taken)
          rw [if_neg (by simp [xid])]
          exact voice.takes xid stage session (datapath_of_knows (directed who _ holding) line hc)
            begins (isMessage_of_sending holding) rfl
    · have voice := voiced
      unfold Voiced at voice
      rw [fresh] at voice
      obtain ⟨rfl, said, begun⟩ := voice
      have untaken : s.idTaken i t = 0 := by
        unfold idTaken nextXid?
        rw [fresh]
        rfl
      rw [voiced_of_connection now, untaken, Event.framesBegun_append, Event.messagesBegun_append, said,
        begun, unsaid, silent]
      exact .start datapath

/-- **In every run what is said on a line is in order.** -/
theorem voiced_of_steps? {settings : Settings} {handler : Handler} {capacity : Nat}
    {actions : List Action} (i : Nat)
    (run : (State.start settings handler capacity).steps? actions = some (s, events)) :
    Voiced s i (idsTaken i (State.start settings handler capacity) actions) events := by
  refine State.run_induction (P := fun actions s events =>
    Voiced s i (idsTaken i (State.start settings handler capacity) actions) events) ?_ ?_ run
  · exact ⟨rfl, rfl, rfl⟩
  · intro actions s before a t after before_run voiced step
    rw [idsTaken_concat i before_run step]
    exact voiced.step (orderly_of_run before_run) (directed_of_steps? before_run) step

/-- Nobody else has begun a frame on a line whose switch is not known. -/
lemma Voiced.unmet (voiced : Voiced s i taken events) (unknown : s.datapath? i = none) :
    Event.messagesBegun i events = [] := by
  unfold Voiced at voiced
  unfold datapath? at unknown
  cases hc : s.connection? i with
  | none =>
    rw [hc] at voiced
    exact voiced.2.2
  | some c =>
    rw [hc] at voiced unknown
    exact Voice.unmet voiced unknown

/-- A driving task has said something by the grammar, and everything else on its line is a message. -/
lemma Voiced.grammar (voiced : Voiced s i taken events) :
    (∃ v, Says v (Event.framesBegun i (.driver i) events)) ∧
      ∀ w ∈ Event.messagesBegun i events, IsMessage w := by
  unfold Voiced at voiced
  cases hc : s.connection? i with
  | none =>
    rw [hc] at voiced
    obtain ⟨-, said, begun⟩ := voiced
    rw [said, begun]
    exact ⟨⟨_, .silent⟩, by simp⟩
  | some c =>
    rw [hc] at voiced
    obtain ⟨v, spoken, -⟩ := Voice.verse voiced
    exact ⟨⟨v, spoken⟩, Voice.others voiced⟩

lemma unmet_step (orderly : s.Orderly) (directed : Directed s) {a : Action}
    (h : s.step? a = some (t, more)) (unknown : s.datapath? i = none) :
    Event.messagesBegun i more = [] := by
  by_cases own : a.task? = some (.driver i)
  · obtain ⟨c, hc, step⟩ := drove_of_task h own
    exact step.messagesBegun i
  · rcases step?_counts orderly h own with counts | ⟨-, silent⟩
    · generalize Event.messagesBegun i more = begun at counts
      cases counts with
      | keeps same => rfl
      | takes apart holding line was =>
        rw [datapath?, was] at unknown
        exact (datapath_of_knows (directed _ _ holding) line was unknown).elim
    · exact silent

end Voiced

/-! ### The order of what is said -/

/-- The frames that were written on a line, and that of the holder of its lock. -/
def State.spoken (s : State) (i : Nat) (events : List Event) : List (Actor × Frame) :=
  Event.framesWritten i events ++ s.framesOf (s.writers i).head?

/-- What others than the driving task of a line began to write there, by each of them. -/
lemma framesBegun_eq {i : Nat} {who : Actor} (apart : who ≠ .driver i) (events : List Event) :
    Event.framesBegun i who events =
      ((Event.messagesBegun i events).filter (·.1 = who)).map (·.2) := by
  unfold Event.framesBegun Event.messagesBegun
  rw [List.filter_filterMap, List.map_filterMap]
  refine List.filterMap_congr fun e _ => ?_
  cases e with
  | frameBegun j w frame =>
    by_cases own : w = who
    · by_cases line : j = i <;> simp [own, line, apart, Option.filter]
    · by_cases line : j = i ∧ w ≠ .driver i <;> simp [own, line, Option.filter]
  | _ => rfl

section Spoken

variable {s t : State} {i : Nat} {part : List UInt8} {events more : List Event}

/-- The holder of the lock writes its own frame. -/
lemma Desk.framesOf_filter (desk : Desk s i part) (who : Actor) :
    ((s.framesOf (s.writers i).head?).filter (·.1 = who)).map (·.2) <+: s.writing i who := by
  cases head : (s.writers i).head? with
  | none => exact List.nil_prefix
  | some w =>
    obtain ⟨job, under, line⟩ := desk.queued w (List.mem_of_head? head)
    rw [State.framesOf_job under]
    by_cases own : w = who
    · subst own
      rw [State.writing_of_job under, if_pos line]
      cases job.frame <;> simp
    · cases job.frame <;> simp [own]

variable {settings : Settings} {handler : Handler} {capacity : Nat} {actions : List Action}
  (run : (State.start settings handler capacity).steps? actions = some (s, events))
  (unfailed : Unfailed i events)
include run unfailed

/-- What a task has said is what it began, but for a frame that waits for the lock. -/
lemma spoken_by (who : Actor) : ∃ waiting, waiting <:+ s.writing i who ∧
    Event.framesBegun i who events =
      ((s.spoken i events).filter (·.1 = who)).map (·.2) ++ waiting := by
  obtain ⟨pieces, part, ledger⟩ := ledger_of_steps? i run
  obtain ⟨waiting, e⟩ := ledger.desk.framesOf_filter who
  refine ⟨waiting, ⟨_, e⟩, ?_⟩
  rw [calls_of_steps? i who run, unfailed.endedBy, ← e, State.spoken, List.filter_append,
    List.map_append, List.append_assoc]

/-- Whoever has said something on a line began it. -/
lemma mem_of_spoken {who : Actor} {frame : Frame} (he : (who, frame) ∈ s.spoken i events) :
    frame ∈ Event.framesBegun i who events := by
  obtain ⟨waiting, -, e⟩ := spoken_by run unfailed who
  rw [e]
  exact List.mem_append_left _ (List.mem_map.2 ⟨_, List.mem_filter.2 ⟨he, by simp⟩, rfl⟩)

end Spoken

/-! ### The handshake and what comes after it -/

/-- Once the switch of a line is known its features were asked for, and nobody but its driving task says
anything before that. -/
structure Prefaced (s : State) (i : Nat) (events : List Event) : Prop where
  asked : s.datapath? i ≠ none → (.driver i, featuresRequest) ∈ s.spoken i events
  later : ∀ before w after, s.spoken i events = before ++ w :: after → w.1 ≠ .driver i →
    (.driver i, featuresRequest) ∈ before

section Prefaced

variable {s t : State} {i : Nat} {events more : List Event}

open State

lemma datapath?_of_standing? (s : State) (i : Nat) :
    s.datapath? i = (s.standing? i).bind fun x => x.1.datapath := by
  unfold datapath? standing? core?
  cases s.connection? i <;> rfl

/-- Between registering its switch and serving it a driving task writes nothing. -/
lemma Stage.unframed_of_entering {stage : Stage} {switch : Switch.Reference}
    (phase : stage.phase = .entering switch) (job : Job) (under : stage.job? i = some job) :
    job.frame = none := by
  cases stage with
  | writing purpose frame call =>
    change Phase.of purpose.awaiting.served = .entering switch at phase
    cases hs : purpose.awaiting.served <;> rw [hs] at phase <;> cases phase
  | displacing | reading | closing =>
    cases under
    rfl
  | _ => cases under

/-- A driving task whose switch has just come to be known writes nothing. -/
lemma writing_of_met (stir : Stir s t more) (unknown : s.datapath? i = none)
    (known : t.datapath? i ≠ none) : t.writing i (.driver i) = [] := by
  rw [datapath?_of_standing?] at unknown known
  cases stir with
  | calm lines => exact (known ((lines i).symm ▸ unknown)).elim
  | @accepts j session fresh datapath number lines =>
    rw [lines] at known
    split at known
    · exact (known datapath).elim
    · exact (known unknown).elim
  | @drives j c session stage news was lines course accepted =>
    have now := lines i
    rw [now] at known
    split at known
    next line =>
      subst line
      rw [was] at unknown
      rw [if_pos rfl] at now
      generalize registrations more = seen, t.registry = g at course
      cases course with
      | goes datapath | ends _ datapath => exact (known (datapath.trans unknown)).elim
      | launches | deregisters => exact (known unknown).elim
      | registers _ _ _ phase =>
        obtain ⟨core, hcore, e⟩ := Option.map_eq_some_iff.1 now
        have job : t.job? (.driver j) = stage.job? j := by
          rw [job?_driver hcore]
          exact congrArg (fun x : Session × Stage => x.2.job? j) e
        unfold State.writing
        rw [job]
        split
        next j' under => rw [Stage.unframed_of_entering phase j' under]; exact ite_self _
        next => rfl
    next => exact (known unknown).elim

end Prefaced

section Prefaced

variable {s t : State} {i : Nat} {events more : List Event} {settings : Settings} {handler : Handler}
  {capacity : Nat} {actions : List Action}

open State

/-- What has been said stays at the beginning of what is said. -/
lemma spoken_step (run : (State.start settings handler capacity).steps? actions = some (s, events))
    {a : Action} (step : s.step? a = some (t, more)) (unfailed : Unfailed i (events ++ more)) :
    ∃ new, t.spoken i (events ++ more) = s.spoken i events ++ new := by
  refine ⟨s.granted t i a, ?_⟩
  have after := steps?_concat.2 ⟨s, events, more, run, step, rfl⟩
  rw [State.spoken, State.spoken, ← lockOrder_of_steps? i run unfailed.left,
    ← lockOrder_of_steps? i after unfailed, lockOrder_concat i run step]

/-- Once the switch of a line is known, its driving task has begun to ask for its features. -/
lemma asked_of_voiced {taken : Nat} (voiced : Voiced s i taken events)
    (known : s.datapath? i ≠ none) : featuresRequest ∈ Event.framesBegun i (.driver i) events := by
  unfold Voiced at voiced
  unfold datapath? at known
  cases hc : s.connection? i with
  | none =>
    rw [hc] at known
    exact (known rfl).elim
  | some c =>
    rw [hc] at voiced known
    obtain ⟨v, spoken, -, -, met⟩ := Voice.verse voiced
    obtain rfl := met known
    generalize Event.framesBegun i (.driver i) events = said at spoken
    cases spoken with
    | asked => simp

/-- **Every step keeps messages behind the handshake.** -/
theorem Prefaced.step (prefaced : Prefaced s i events)
    (run : (State.start settings handler capacity).steps? actions = some (s, events)) {a : Action}
    (step : s.step? a = some (t, more)) (unfailed : Unfailed i (events ++ more)) :
    Prefaced t i (events ++ more) := by
  have after := steps?_concat.2 ⟨s, events, more, run, step, rfl⟩
  have orderly := orderly_of_run run
  obtain ⟨new, spoken⟩ := spoken_step run step unfailed
  by_cases known : s.datapath? i = none
  · -- nobody else has begun a frame yet, and what is asked for now was asked for by the driving task
    have begun : Event.messagesBegun i (events ++ more) = [] := by
      rw [Event.messagesBegun_append, (voiced_of_steps? i run).unmet known,
        unmet_step orderly (directed_of_steps? run) step known]
      rfl
    refine ⟨fun met => ?_, fun before w behind e apart => ?_⟩
    · obtain ⟨waiting, ⟨_, whole⟩, said⟩ := spoken_by after unfailed (.driver i)
      rw [writing_of_met (step?_stir orderly step) known met] at whole
      obtain rfl : waiting = [] := (List.append_eq_nil_iff.1 whole).2
      have asked := asked_of_voiced (voiced_of_steps? i after) met
      rw [said, List.append_nil] at asked
      obtain ⟨⟨who, frame⟩, he, rfl⟩ := List.mem_map.1 asked
      obtain ⟨member, own⟩ := List.mem_filter.1 he
      obtain rfl : who = .driver i := by simpa using own
      exact member
    · have member := mem_of_spoken after unfailed (e ▸ List.mem_append_right before List.mem_cons_self)
      rw [framesBegun_eq apart, begun] at member
      cases member
  · have asked := prefaced.asked known
    refine ⟨fun _ => spoken ▸ List.mem_append_left new asked, fun before w behind e apart => ?_⟩
    rw [spoken] at e
    rcases split_append e with ⟨between, rfl, -⟩ | ⟨old, e, -⟩
    · exact List.mem_append_left between asked
    · exact prefaced.later before w old e apart

/-- **In every run messages come behind the handshake.** -/
theorem prefaced_of_steps? (i : Nat)
    (run : (State.start settings handler capacity).steps? actions = some (s, events))
    (unfailed : Unfailed i events) : Prefaced s i events := by
  refine State.run_induction (P := fun _ s events => Unfailed i events → Prefaced s i events) ?_ ?_ run
    unfailed
  · refine fun _ => ⟨fun known => (known rfl).elim, fun before w behind e _ => ?_⟩
    have none : State.spoken (State.start settings handler capacity) i [] = [] := rfl
    rw [none] at e
    cases before <;> cases e
  · intro actions s before a t after before_run prefaced step unfailed
    exact (prefaced unfailed.left).step before_run step unfailed

end Prefaced

/-! ### The grammar -/

/-- Whether a frame is an echo reply of the driving task of a line. -/
def IsReply (i : Nat) (w : Actor × Frame) : Prop := w.1 = .driver i ∧ IsEcho w.2

/-- **The grammar of a line**: what is written there, in order. Messages come only after the features were
asked for, and only if the handshake is over. -/
inductive Output (i : Nat) (past : Prop) : List (Actor × Frame) → Prop
  | nothing : Output i past []
  | greeted {echoes : List (Actor × Frame)} (he : ∀ w ∈ echoes, IsReply i w) :
      Output i past ((.driver i, greeting) :: echoes)
  | refused {echoes : List (Actor × Frame)} {refusal : Frame} (he : ∀ w ∈ echoes, IsReply i w)
      (hr : IsRefusal refusal) :
      Output i past ((.driver i, greeting) :: (echoes ++ [(.driver i, refusal)]))
  | asked {before service : List (Actor × Frame)} (hb : ∀ w ∈ before, IsReply i w)
      (hs : ∀ w ∈ service, IsReply i w ∨ past ∧ IsMessage w) :
      Output i past
        ((.driver i, greeting) :: (before ++ (.driver i, featuresRequest) :: service))

section Output

variable {i : Nat} {past : Prop} {v : Verse} {spoken : List (Actor × Frame)}

/-- Frames that are all of one task are told apart by what they are. -/
lemma eq_map_of_own {who : Actor} (own : ∀ w ∈ spoken, w.1 = who) :
    spoken = (spoken.map (·.2)).map (who, ·) := by
  rw [List.map_map]
  refine (List.map_id _).symm.trans (List.map_congr_left fun w hw => ?_)
  rw [← own w hw]
  rfl

lemma isReply_of_echoes {echoes : List Frame} (he : ∀ f ∈ echoes, IsEcho f) :
    ∀ w ∈ echoes.map (Actor.driver i, ·), IsReply i w := by
  intro w hw
  obtain ⟨f, hf, rfl⟩ := List.mem_map.1 hw
  exact ⟨rfl, he f hf⟩

/-- **What is said on a line is by the grammar**, if the driving task keeps to what it says, and everybody
else waits for that. -/
theorem output_of_says (own : Says v ((spoken.filter (·.1 = .driver i)).map (·.2)))
    (later : ∀ before w after, spoken = before ++ w :: after → w.1 ≠ .driver i →
      (.driver i, featuresRequest) ∈ before)
    (others : ∀ w ∈ spoken, w.1 ≠ .driver i → past ∧ IsMessage w) : Output i past spoken := by
  -- before the request for the features everything is of the driving task
  have alone {first rest : List (Actor × Frame)} (e : spoken = first ++ rest)
      (unasked : (.driver i, featuresRequest) ∉ first) : ∀ w ∈ first, w.1 = .driver i := by
    intro w hw
    obtain ⟨before, after, rfl⟩ := List.append_of_mem hw
    refine by_contra fun apart => unasked (List.mem_append_left _ ?_)
    exact later before w (after ++ rest) (by rw [e]; simp) apart
  have whole (unasked : featuresRequest ∉ (spoken.filter (·.1 = .driver i)).map (·.2)) :
      spoken = ((spoken.filter (·.1 = .driver i)).map (·.2)).map (Actor.driver i, ·) := by
    have all := alone (List.append_nil spoken).symm fun member => unasked
      (List.mem_map.2 ⟨_, List.mem_filter.2 ⟨member, by simp⟩, rfl⟩)
    rw [List.filter_eq_self.2 fun w hw => by simpa using all w hw]
    exact eq_map_of_own all
  generalize hsaid : (spoken.filter (·.1 = .driver i)).map (·.2) = said at own whole
  cases own with
  | silent =>
    rw [whole (by simp)]
    exact .nothing
  | greeted he =>
    rw [whole (featuresRequest_notMem he)]
    exact .greeted (isReply_of_echoes he)
  | @refused echoes refusal he hr =>
    have unasked : featuresRequest ∉ greeting :: (echoes ++ [refusal]) := by
      rw [← List.cons_append]
      refine List.not_mem_append (featuresRequest_notMem he) fun member => ?_
      obtain ⟨xid, rfl⟩ := hr
      cases List.mem_singleton.1 member
    rw [whole unasked, List.map_cons, List.map_append]
    exact .refused (isReply_of_echoes he) hr
  | @asked before after hb ha =>
    have member : (Actor.driver i, featuresRequest) ∈ spoken := by
      have said : featuresRequest ∈ (spoken.filter (·.1 = .driver i)).map (·.2) := by simp [hsaid]
      obtain ⟨⟨who, frame⟩, hw, rfl⟩ := List.mem_map.1 said
      obtain ⟨member, own⟩ := List.mem_filter.1 hw
      obtain rfl : who = .driver i := by simpa using own
      exact member
    obtain ⟨first, rest, rfl, unasked⟩ := List.eq_append_cons_of_mem member
    have own_first := alone rfl unasked
    have apart : featuresRequest ∉ after := fun h => (ha _ h).ne_featuresRequest rfl
    rw [List.filter_append, List.filter_eq_self.2 fun w hw => by simpa using own_first w hw,
      List.filter_cons_of_pos (by simp), List.map_append, List.map_cons, ← List.cons_append] at hsaid
    obtain ⟨hfirst, -, hrest⟩ :=
      (List.append_cons_inj_of_notMem (featuresRequest_notMem hb) apart).1 hsaid.symm
    rw [eq_map_of_own own_first, ← hfirst, List.map_cons, List.cons_append]
    refine .asked (isReply_of_echoes hb) fun w hw => ?_
    by_cases own : w.1 = .driver i
    · refine .inl ⟨own, ha _ ?_⟩
      rw [hrest]
      exact List.mem_map.2 ⟨w, List.mem_filter.2 ⟨hw, by simpa using own⟩, rfl⟩
    · exact .inr (others w (List.mem_append_right _ (List.mem_cons_of_mem _ hw)) own)

end Output

/-! ### What is on the wire -/

lemma ShookHands.append {frames : List Frame} {d : DatapathId} (h : ShookHands frames d)
    (more : List Frame) : ShookHands (frames ++ more) d := by
  obtain ⟨hello, reply, features, sub, rest⟩ := h
  exact ⟨hello, reply, features, sub.trans (List.sublist_append_left _ _), rest⟩

/-- **What holds of a line** of which so many transaction ids were taken, as long as no write on it has
failed. -/
structure InOrder (s : State) (i : Nat) (taken : Nat) (events : List Event) : Prop where
  /-- What is written is by the grammar. -/
  grammar : Output i (∃ d, ShookHands (Event.framesReceived i events) d) (s.spoken i events)
  /-- It is what is on the wire, the last frame perhaps in part. -/
  wire : (Event.framesWritten i events).flatMap (·.2.bytes) <+: Event.wire i events ∧
    Event.wire i events <+: (s.spoken i events).flatMap (·.2.bytes)
  /-- When bytes of a message are put on the wire, the switch has sent a HELLO that is acceptable and,
  after it, its features. -/
  afterwards : ∀ first who bytes rest, events = first ++ .put i who bytes :: rest →
    who ≠ .driver i → ∃ d, ShookHands (Event.framesReceived i first) d
  /-- The ids of the messages are taken one after another, after those of the handshake. -/
  turns : ∃ turns : List Nat,
    (((s.spoken i events).filter (·.1 ≠ .driver i)).map (·.2.xid)).Perm (turns.map UInt32.ofNat) ∧
      turns.Nodup ∧ ∀ k ∈ turns, 3 ≤ k ∧ k ≤ taken
  /-- No two messages have the same id before the ids start over. -/
  distinct : taken < 2 ^ 32 →
    (((s.spoken i events).filter (·.1 ≠ .driver i)).map (·.2.xid)).Nodup

/-- How often a task has a frame in a list of frames with their tasks. -/
lemma count_of_own {who : Actor} {frame : Frame} (frames : List (Actor × Frame)) :
    frames.count (who, frame) = ((frames.filter (·.1 = who)).map (·.2)).count frame := by
  induction frames with
  | nil => rfl
  | cons w frames ih =>
    obtain ⟨v, f⟩ := w
    by_cases own : v = who
    · by_cases same : f = frame <;> simp [own, same, ih]
    · simp [own, ih]

/-- The world sees no bytes being put where there are none. -/
lemma put_ne_nil {s t : State} (orderly : s.Orderly) {a : Action} {i : Nat} {who : Actor}
    {bytes : List UInt8} {more : List Event} (h : s.step? a = some (t, more))
    (he : .put i who bytes ∈ more) : bytes ≠ [] := by
  obtain ⟨w, -, -, works⟩ := State.step?_works orderly h
  have seen : .put i who bytes ∈ outgoing more := List.mem_filter.2 ⟨he, rfl⟩
  have put {j : Nat} {out : List UInt8} (member : .put i who bytes ∈ putEvents j w out) :
      bytes ≠ [] := by
    unfold putEvents at member
    split at member
    · cases member
    next some_put =>
      cases List.mem_singleton.1 member
      exact some_put
  generalize s.job? w = before, t.job? w = after at works
  cases works with
  | begins locks fresh =>
    generalize outgoing more = out at fresh seen
    cases fresh with
    | idle | call => cases seen
    | frame => cases List.mem_singleton.1 seen
  | waits job polling locks pending out => exact put (out ▸ seen)
  | ends job polling locks ready fresh out =>
    rcases List.mem_append.1 (out ▸ seen) with member | member
    · exact put member
    · obtain ⟨frame, -, e⟩ := Job.mem_endEvents member
      cases e

section InOrder

variable {s t : State} {i : Nat} {events : List Event} {settings : Settings} {handler : Handler}
  {capacity : Nat} {actions : List Action}
  (run : (State.start settings handler capacity).steps? actions = some (s, events))
include run

/-- Where the switch of a line is known it has been registered. -/
lemma registered_of_datapath {d : DatapathId} (known : s.datapath? i = some d) :
    ∃ h previous, h.channel = i ∧ h.datapath = d ∧ Event.registered h previous ∈ events := by
  rw [datapath?_of_standing?] at known
  obtain ⟨⟨session, stage⟩, hx, datapath⟩ := Option.bind_eq_some_iff.1 known
  have record := (standing_of_steps? run).record i
  rw [hx] at record
  have member : (⟨⟨d, session.connection⟩, i⟩ : Handle) ∈ Event.registeredBy i events := by
    rw [record.1, handle?, show session.datapath = some d from datapath]
    exact List.mem_singleton_self _
  obtain ⟨-, previous, he⟩ := mem_registeredBy.1 member
  exact ⟨_, previous, rfl, rfl, he⟩

/-- The switch of a line is known once it has been registered. -/
lemma datapath_of_registered {h : Handle} {previous : Option Handle}
    (he : Event.registered h previous ∈ events) : s.datapath? h.channel ≠ none := by
  have record := (standing_of_steps? run).record h.channel
  have member := mem_registeredBy.2 ⟨rfl, previous, he⟩
  rw [datapath?_of_standing?]
  cases hx : s.standing? h.channel with
  | none =>
    rw [hx, Record] at record
    rw [record.1] at member
    cases member
  | some x =>
    rw [hx, Record] at record
    rw [record.1, handle?] at member
    intro unknown
    rw [show x.1.datapath = none from unknown] at member
    cases member

/-- Where the switch of a line is known it has shaken hands. -/
lemma shookHands_of_datapath {d : DatapathId} (known : s.datapath? i = some d) :
    ShookHands (Event.framesReceived i events) d := by
  obtain ⟨h, previous, rfl, rfl, he⟩ := registered_of_datapath run known
  obtain ⟨first, rest, rfl⟩ := List.append_of_mem he
  rw [Event.framesReceived_append]
  exact (shookHands_of_registered run first _ previous rest rfl).append _

/-- Bytes of a message are put on the wire only once the switch is known. -/
lemma shookHands_of_put : ∀ first who bytes rest, events = first ++ .put i who bytes :: rest →
    who ≠ .driver i → ∃ d, ShookHands (Event.framesReceived i first) d := by
  rintro first who bytes rest rfl apart
  obtain ⟨earlier, u, before, a, v, new, after, later, before_run, step, rfl, -⟩ :=
    State.step_of_event run
  have orderly := orderly_of_run before_run
  have he : .put i who bytes ∈ new ++ .put i who bytes :: after :=
    List.mem_append_right _ List.mem_cons_self
  have task : a.task? = some who := step?_writer orderly step he rfl
  have wire : Event.wire i (new ++ .put i who bytes :: after) ≠ [] := by
    have some_put := put_ne_nil orderly step he
    rw [Event.wire_append]
    simp [Event.wire, some_put]
  obtain ⟨w, job, left, total, link, task', under, line, request, -⟩ := put_of_wire orderly step wire
  obtain rfl : w = who := Option.some.inj (task'.symm.trans task)
  obtain ⟨pieces, part, ledger⟩ := ledger_of_steps? i before_run
  obtain ⟨frame, framed⟩ := Option.ne_none_iff_exists'.1 fun unframed =>
    ledger.desk.others w job under line unframed left total request
  rcases writer_of_frame under framed with ⟨own, -⟩ | ⟨h, call, hx, channel⟩
  · exact (apart (line ▸ own)).elim
  · have known : u.knows h = true := directed_of_steps? before_run w _ hx
    obtain ⟨session, stage, hs, datapath, -⟩ := State.knows_iff.1 known
    refine ⟨h.datapath, ?_⟩
    rw [Event.framesReceived_append]
    refine (shookHands_of_datapath before_run ?_).append _
    rw [datapath?_of_standing?, ← line, ← channel, hs]
    exact datapath

/-- The messages on a line are among those that were begun. -/
lemma messages_subperm (unfailed : Unfailed i events) :
    ((s.spoken i events).filter (·.1 ≠ .driver i)).Subperm (Event.messagesBegun i events) := by
  refine List.subperm_ext_iff.2 fun ⟨who, frame⟩ hw => ?_
  have apart : who ≠ .driver i := by simpa using (List.mem_filter.1 hw).2
  obtain ⟨waiting, -, begun⟩ := spoken_by run unfailed who
  rw [framesBegun_eq apart] at begun
  rw [List.count_filter (by simpa using apart), count_of_own, count_of_own, begun, List.count_append]
  exact Nat.le_add_right _ _

/-- The turns of the messages on a line. -/
lemma turns_of_steps? (unfailed : Unfailed i events) : ∃ turns : List Nat,
    (((s.spoken i events).filter (·.1 ≠ .driver i)).map (·.2.xid)).Perm (turns.map UInt32.ofNat) ∧
      turns.Nodup ∧ ∀ k ∈ turns,
        3 ≤ k ∧ k ≤ State.idsTaken i (State.start settings handler capacity) actions := by
  have begun := voiced_of_steps? i run
  obtain ⟨turns, xids, ascending, bounds⟩ : ∃ turns : List Nat,
      (Event.messagesBegun i events).map (·.2.xid) = turns.map UInt32.ofNat ∧
        turns.Pairwise (· < ·) ∧ ∀ k ∈ turns,
          3 ≤ k ∧ k ≤ State.idsTaken i (State.start settings handler capacity) actions := by
    unfold Voiced at begun
    cases hc : s.connection? i with
    | none =>
      rw [hc] at begun
      exact ⟨[], by rw [begun.2.2]; rfl, .nil, by simp⟩
    | some c =>
      rw [hc] at begun
      exact Voice.turns begun
  obtain ⟨l, perm, sub⟩ := messages_subperm run unfailed
  have among := sub.map fun w : Actor × Frame => w.2.xid
  rw [xids] at among
  obtain ⟨own, sub', e⟩ := List.sublist_map_iff.1 among
  refine ⟨own, e ▸ (perm.map _).symm, ?_, fun k hk => bounds k (sub'.subset hk)⟩
  exact (ascending.sublist sub').imp Nat.ne_of_lt

/-- What is said on a line is by the grammar. -/
lemma grammar_of_steps? (i : Nat) (unfailed : Unfailed i events) :
    Output i (∃ d, ShookHands (Event.framesReceived i events) d) (s.spoken i events) := by
  have voiced := voiced_of_steps? i run
  obtain ⟨⟨v, own⟩, messages⟩ := voiced.grammar
  obtain ⟨waiting, -, begun⟩ := spoken_by run unfailed (.driver i)
  obtain ⟨v, own⟩ := own.of_prefix ⟨waiting, begun.symm⟩
  refine output_of_says own (prefaced_of_steps? i run unfailed).later fun ⟨who, frame⟩ hw apart => ?_
  have member : (who, frame) ∈ Event.messagesBegun i events := by
    have begun := mem_of_spoken run unfailed hw
    rw [framesBegun_eq apart] at begun
    obtain ⟨⟨v, f⟩, he, rfl⟩ := List.mem_map.1 begun
    obtain ⟨member, own⟩ := List.mem_filter.1 he
    obtain rfl : v = who := by simpa using own
    exact member
  refine ⟨?_, messages _ member⟩
  obtain ⟨d, known⟩ := Option.ne_none_iff_exists'.1 fun unknown => by
    rw [voiced.unmet unknown] at member
    cases member
  exact ⟨d, shookHands_of_datapath run known⟩

/-- What is said on a line is what is on its wire, the last frame perhaps in part. -/
lemma wire_of_steps? (i : Nat) (unfailed : Unfailed i events) :
    (Event.framesWritten i events).flatMap (·.2.bytes) <+: Event.wire i events ∧
      Event.wire i events <+: (s.spoken i events).flatMap (·.2.bytes) := by
  obtain ⟨pieces, part, ledger⟩ := ledger_of_steps? i run
  obtain ⟨rfl, -⟩ := ledger.unfailed unfailed
  rw [ledger.wire, ← List.flatMap_def, State.spoken, List.flatMap_append]
  refine ⟨List.prefix_append _ _, (List.prefix_append_right_inj _).2 ?_⟩
  by_cases whole : part = []
  · rw [whole]
    exact List.nil_prefix
  · obtain ⟨w, job, frame, head, under, -, framed, owes⟩ := ledger.desk.owes_of_part whole
    rw [head, State.framesOf_job under, framed]
    simpa using owes.strict.1

/-- **What is written on a line is in order.** Whatever the switch sends, whoever sends to it over whatever
handle, and however connections come and go, as long as no write on a line fails the frames on it are a
HELLO, echo replies, and then a refusal or a request for the features, with messages only after the
handshake. The ids of the messages are taken in turn after those of the handshake. -/
theorem speech_in_order (i : Nat) (unfailed : Unfailed i events) :
    InOrder s i (State.idsTaken i (State.start settings handler capacity) actions) events := by
  have turns := turns_of_steps? run unfailed
  refine ⟨grammar_of_steps? run i unfailed, wire_of_steps? run i unfailed, shookHands_of_put run,
    turns, fun few => ?_⟩
  obtain ⟨turns, perm, nodup, bounds⟩ := turns
  refine perm.nodup_iff.2 (nodup.map_on fun k hk l hl same => ?_)
  have small {n : Nat} (hn : n ∈ turns) : n < 2 ^ 32 := Nat.lt_of_le_of_lt (bounds n hn).2 few
  have equal := congrArg UInt32.toNat same
  rwa [UInt32.toNat_ofNat', UInt32.toNat_ofNat', Nat.mod_eq_of_lt (small hk),
    Nat.mod_eq_of_lt (small hl)] at equal

end InOrder

/-- A switch sends an echo request within its handshake. Then two messages take their ids, and the second
one is written first. -/
def conversation : List Action :=
  let stream := (greetings 5).take 8 ++ Frame.bytes { xid := 9, message := .echoRequest [7] } ++
    (greetings 5).drop 8
  [Action.connect (.loopback 6653), .go .acceptor, .deliver 0 stream] ++
    List.replicate 11 (Action.go (.driver 0)) ++
    [Action.call (.send (.datapath ⟨5⟩) .barrierRequest),
      .call (.send (.datapath ⟨5⟩) .barrierReply)] ++
    [Action.go (.caller 0), .go (.caller 0), .go (.caller 1), .go (.caller 1), .go (.caller 1),
      .go (.caller 0)]

theorem inOrder_conversation :
    ∃ s events, (State.start {} (.observer []) 60).steps? conversation = some (s, events) ∧
      Unfailed 0 events ∧
      (s.spoken 0 events).map (·.2.xid) = [1, 2, 9, 4, 3] ∧
      InOrder s 0 (State.idsTaken 0 (.start {} (.observer []) 60) conversation) events := by
  obtain ⟨⟨s, events⟩, run⟩ := Option.isSome_iff_exists.1
    (show ((State.start {} (.observer []) 60).steps? conversation).isSome = true by decide +kernel)
  have seen : ((State.start {} (.observer []) 60).steps? conversation).all (fun r =>
      decide (Unfailed 0 r.2) && decide ((r.1.spoken 0 r.2).map (·.2.xid) = [1, 2, 9, 4, 3])) =
        true := by decide +kernel
  rw [run] at seen
  obtain ⟨unfailed, xids⟩ : Unfailed 0 events ∧ (s.spoken 0 events).map (·.2.xid) = [1, 2, 9, 4, 3] := by
    simpa using seen
  exact ⟨s, events, run, unfailed, xids, speech_in_order run 0 unfailed⟩

end FlowBurst.Controller
