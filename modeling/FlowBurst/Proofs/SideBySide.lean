import FlowBurst.Burst.Pool
import FlowBurst.Proofs.Attempts
import Mathlib.Data.List.Count
import Mathlib.Data.List.Nodup

/-!
# Bursts that share a sender

Several bursts to different switches go on at once over one sender. A burst enters a call of the
sender in one step and gets its outcome in a later one, and the steps of the bursts come in any
order. The sender sees everything that goes on, so what it answers to one burst could hang on the
others; here it may hang only on how many calls there have been for the switch of the call.

What a burst comes to if it has the sender for itself is `Run.play`. `Member.outlook` is what a
burst under way still comes to on its own, and no step of the burst changes it
(`Member.outlook_of_step?`); a step of another burst leaves the burst and what concerns its switch
alone (`Apart.aside`). So a burst that has ended among others has ended as it does alone.

Main statement: `bursts_keep_apart`.
-/

namespace FlowBurst.Burst.Pool

variable {ι : Type}

/-! ### How far a burst has come -/

/-- The switch that an event is about. -/
def Event.switch : Event ι → ι
  | .entered s _ _ | .returned s _ => s

/-- So many calls for a switch, each of which has returned before the next is entered. -/
def exchanges (s : ι) (kind : Kind) (n : Nat) : List (Event ι) :=
  (List.range n).flatMap fun k =>
    [.entered s (k + 1).toUInt64 kind, .returned s (k + 1).toUInt64]

lemma exchanges_succ (s : ι) (kind : Kind) (n : Nat) :
    exchanges s kind (n + 1) = exchanges s kind n ++
      [.entered s (n + 1).toUInt64 kind, .returned s (n + 1).toUInt64] := by
  simp [exchanges, List.range_succ]

namespace Member

/-- A burst to a switch is at a place from which its next step follows, after the given calls and
so many steps of its own. -/
inductive At (s : ι) (request : Request) : Member ι → List (Event ι) → Nat → Prop
  | between (r : Run ι) : r.switch = s → r.request = request → r.sent ≤ request.count →
      At s request ⟨.inl r, false⟩ (exchanges s request.kind r.sent.toNat) (2 * r.sent.toNat)
  | inside (r : Run ι) : r.switch = s → r.request = request → r.sent < request.count →
      At s request ⟨.inl r, true⟩
        (exchanges s request.kind r.sent.toNat ++ [.entered s r.attempt request.kind])
        (2 * r.sent.toNat + 1)
  | finished (result : Result ι) (k n : Nat) : k ≤ request.count.toNat → n ≤ 2 * k + 1 →
      At s request ⟨.inr result, false⟩ (exchanges s request.kind k) n

/-- The number of an attempt, as long as there is a further message to send. -/
lemma attempt_eq {r : Run ι} {count : UInt64} (more : r.sent < count) :
    r.attempt = (r.sent.toNat + 1).toUInt64 ∧ r.attempt.toNat = r.sent.toNat + 1 := by
  have bound := count.toNat_lt
  have below := UInt64.lt_iff_toNat_lt.1 more
  have next := Run.toNat_attempt more
  refine ⟨?_, next⟩
  apply UInt64.toNat_inj.1
  rw [next]
  simp only [Nat.toUInt64, UInt64.toNat_ofNat']
  omega

variable {s : ι} {request : Request} {m m' : Member ι} {own here : List (Event ι)} {n : Nat}
  {outcome : ι → UInt64 → Except Failure Unit}

lemma at_start (s : ι) (request : Request) : (start s request).At s request [] 0 :=
  .between (.start s request) rfl rfl (UInt64.le_iff_toNat_le.2 (Nat.zero_le _))

/-- A step of a burst takes it to the next place. -/
lemma At.step (place : m.At s request own n) (step : m.step? outcome = some (m', here)) :
    m'.At s request (own ++ here) (n + 1) := by
  cases place with
  | between r switch asked upTo =>
    simp only [step?, Bool.false_eq_true, if_false] at step
    split at step
    case isTrue sending =>
      obtain ⟨rfl, rfl⟩ := Prod.mk.inj (Option.some.inj step)
      have more : r.sent < request.count := by simpa [Run.isSending, asked] using sending
      rw [switch, asked]
      exact .inside r switch asked more
    case isFalse done =>
      obtain ⟨rfl, rfl⟩ := Prod.mk.inj (Option.some.inj step)
      rw [List.append_nil]
      exact .finished r.complete _ _ (UInt64.le_iff_toNat_le.1 upTo) (Nat.le_refl _)
  | inside r switch asked more =>
    simp only [step?, if_true] at step
    obtain ⟨rfl, rfl⟩ := Prod.mk.inj (Option.some.inj step)
    obtain ⟨number, next⟩ := attempt_eq more
    have below := UInt64.lt_iff_toNat_lt.1 more
    have calls : exchanges s request.kind r.sent.toNat ++ [.entered s r.attempt request.kind] ++
        [.returned r.switch r.attempt] = exchanges s request.kind (r.sent.toNat + 1) := by
      rw [exchanges_succ, ← number, switch, List.append_assoc, List.singleton_append]
    rw [calls]
    cases outcome r.switch r.attempt with
    | ok _ =>
      have upTo : r.succeed.sent ≤ request.count := by
        apply UInt64.le_iff_toNat_le.2
        change r.attempt.toNat ≤ _
        omega
      have sent : r.succeed.sent.toNat = r.sent.toNat + 1 := next
      have place := At.between r.succeed switch asked upTo
      rw [sent] at place
      exact place
    | error cause => exact .finished (r.abort cause) _ _ (by omega) (by omega)
  | finished => cases step

/-- Of the answers of a sender a burst sees those for its own switch. -/
lemma At.step?_congr (place : m.At s request own n) {other : ι → UInt64 → Except Failure Unit}
    (agree : ∀ attempt, outcome s attempt = other s attempt) : m.step? outcome = m.step? other := by
  cases place with
  | between => rfl
  | inside r switch => simp only [step?, switch, agree]
  | finished => rfl

/-- The events of a step are about the switch of the burst. -/
lemma At.about (place : m.At s request own n) (step : m.step? outcome = some (m', here)) :
    ∀ e ∈ here, e.switch = s := by
  cases place with
  | between r switch asked upTo =>
    simp only [step?, Bool.false_eq_true, if_false] at step
    split at step <;> obtain ⟨rfl, rfl⟩ := Prod.mk.inj (Option.some.inj step) <;>
      simp [Event.switch, switch]
  | inside r switch asked more =>
    simp only [step?, if_true] at step
    obtain ⟨rfl, rfl⟩ := Prod.mk.inj (Option.some.inj step)
    simp [Event.switch, switch]
  | finished => cases step

/-- How many steps a burst can have taken. -/
lemma At.bounded (place : m.At s request own n) : n ≤ 2 * request.count.toNat + 1 := by
  cases place with
  | between r switch asked upTo =>
    have := UInt64.le_iff_toNat_le.1 upTo
    omega
  | inside r switch asked more =>
    have := UInt64.lt_iff_toNat_lt.1 more
    omega
  | finished result k n upTo few => omega

/-- A burst makes its calls one by one: the last one alone may be under way. -/
lemma At.inOrder (place : m.At s request own n) :
    ∃ k ≤ request.count.toNat, own = exchanges s request.kind k ∨
      k < request.count.toNat ∧
        own = exchanges s request.kind k ++ [.entered s (k + 1).toUInt64 request.kind] := by
  cases place with
  | between r switch asked upTo => exact ⟨_, UInt64.le_iff_toNat_le.1 upTo, .inl rfl⟩
  | inside r switch asked more =>
    have below := UInt64.lt_iff_toNat_lt.1 more
    refine ⟨r.sent.toNat, Nat.le_of_lt below, .inr ⟨below, ?_⟩⟩
    rw [(attempt_eq more).1]
  | finished result k n upTo few => exact ⟨k, upTo, .inl rfl⟩

/-- A burst that has not ended has a next step, whatever the sender answers. -/
lemma step?_isSome (goesOn : m.result? = none) (outcome : ι → UInt64 → Except Failure Unit) :
    (m.step? outcome).isSome := by
  unfold result? at goesOn
  unfold step?
  cases held : m.state with
  | inr r =>
    rw [held] at goesOn
    cases goesOn
  | inl r =>
    dsimp only
    split
    · rfl
    · split <;> rfl

end Member

/-- One burst of a pool takes a step, and the others stay as they are. -/
lemma step?_eq_some {outcome : ι → UInt64 → Except Failure Unit} {ms ms' : List (Member ι)}
    {i : Nat} {here : List (Event ι)} (step : step? outcome ms i = some (ms', here)) :
    ∃ m m', ms[i]? = some m ∧ m.step? outcome = some (m', here) ∧ ms' = ms.set i m' := by
  simp only [step?, Option.bind_eq_bind, Option.bind_eq_some_iff, Option.pure_def,
    Option.some.injEq, Prod.mk.injEq] at step
  obtain ⟨m, at_i, ⟨m', events⟩, own, rfl, rfl⟩ := step
  exact ⟨m, m', at_i, own, rfl⟩

/-! ### A sender that bursts share -/

variable [DecidableEq ι]

/-- The events about one switch. -/
def Event.about (s : ι) (events : List (Event ι)) : List (Event ι) := events.filter (·.switch = s)

/-- Whether a call for a switch was entered. -/
def Event.enters (s : ι) : Event ι → Bool
  | .entered t _ _ => t = s
  | .returned _ _ => false

/-- How many calls there have been for a switch. -/
def Event.calls (s : ι) (events : List (Event ι)) : Nat := events.countP (enters s)

open Event

lemma about_append (s : ι) (first rest : List (Event ι)) :
    about s (first ++ rest) = about s first ++ about s rest :=
  List.filter_append ..

lemma about_of_switch {s : ι} {events : List (Event ι)} (own : ∀ e ∈ events, e.switch = s) :
    about s events = events := by
  apply List.filter_eq_self.2
  intro e he
  exact decide_eq_true (own e he)

lemma about_of_other {s : ι} {events : List (Event ι)} (other : ∀ e ∈ events, e.switch ≠ s) :
    about s events = [] := by
  apply List.filter_eq_nil_iff.2
  intro e he
  simpa using other e he

/-- The calls for a switch are among the events about it. -/
lemma calls_about (s : ι) (events : List (Event ι)) :
    calls s (about s events) = calls s events := by
  unfold calls about
  rw [List.countP_filter]
  apply List.countP_congr
  intro e _
  cases e with
  | entered t _ _ => simp +contextual [enters, switch]
  | returned => simp [enters]

lemma calls_exchanges (s : ι) (kind : Kind) (n : Nat) : calls s (exchanges s kind n) = n := by
  induction n with
  | zero => rfl
  | succ n ih =>
    unfold calls at ih ⊢
    rw [exchanges_succ, List.countP_append, ih]
    simp [enters]

/-- A sender: what a call for a switch comes to, by everything that has gone on between the sender
and all bursts till then, the entry of the call included. -/
abbrev Sender (ι : Type) := List (Event ι) → ι → Except Failure Unit

/-- The outcome of a call depends only on which attempt for its own switch it is. -/
def Sender.HeedsAttempt (sender : Sender ι) : Prop :=
  ∀ (s : ι) (h h' : List (Event ι)), calls s h = calls s h' → sender h s = sender h' s

/-- A call of a burst that has the sender for itself, entered and returned from. -/
def Sender.call (sender : Sender ι) (h : List (Event ι)) (s : ι) (kind : Kind) :
    Except Failure Unit × List (Event ι) :=
  let attempt := (calls s h + 1).toUInt64
  let entered := h ++ [.entered s attempt kind]
  (sender entered s, entered ++ [.returned s attempt])

/-- What a burst comes to that has the sender for itself: its result, and all that goes on till
then. -/
def Sender.alone (sender : Sender ι) (s : ι) (request : Request) : Result ι × List (Event ι) :=
  Run.play sender.call s request []

/-- The steps of bursts in some order, each named by the place of its burst, with a sender that has
seen everything so far, if each step is possible. -/
def steps? (sender : Sender ι) (h : List (Event ι)) (ms : List (Member ι)) :
    List Nat → Option (List (Member ι) × List (Event ι))
  | [] => some (ms, h)
  | i :: order => do
    let (ms, here) ← step? (fun s _ => sender h s) ms i
    steps? sender (h ++ here) ms order

/-- Bursts to several switches that are about to begin. -/
def starting (request : Request) (switches : List ι) : List (Member ι) :=
  switches.map fun s => Member.start s request

/-! ### What a burst comes to -/

variable {sender : Sender ι} {s : ι} {request : Request} {m m' : Member ι}
  {own here : List (Event ι)} {n : Nat}

/-- What a burst under way still comes to if it has the sender for itself from now on. -/
def Member.outlook (sender : Sender ι) (m : Member ι) (h : List (Event ι)) :
    Result ι × List (Event ι) :=
  match m.state with
  | .inr result => (result, h)
  | .inl r =>
    let left := r.request.count.toNat - r.sent.toNat
    if m.calling then
      let returned := h ++ [.returned r.switch r.attempt]
      match r.afterSend (sender h r.switch) with
      | .inl r => Run.playUpTo sender.call (left - 1) r returned
      | .inr result => (result, returned)
    else Run.playUpTo sender.call left r h

lemma playUpTo_of_sending {r : Run ι} {left : Nat} {h : List (Event ι)} (sending : r.isSending) :
    Run.playUpTo sender.call (left + 1) r h =
      match r.afterSend (sender.call h r.switch r.request.kind).1 with
      | .inl r' => Run.playUpTo sender.call left r' (sender.call h r.switch r.request.kind).2
      | .inr result => (result, (sender.call h r.switch r.request.kind).2) :=
  if_pos sending

namespace Member

/-- **A step of a burst does not change what the burst comes to.** -/
theorem outlook_of_step? (place : m.At s request own n)
    (step : m.step? (fun s _ => sender own s) = some (m', here)) :
    m'.outlook sender (own ++ here) = m.outlook sender own := by
  cases place with
  | between r switch asked upTo =>
    simp only [step?, Bool.false_eq_true, if_false] at step
    split at step
    case isTrue sending =>
      obtain ⟨rfl, rfl⟩ := Prod.mk.inj (Option.some.inj step)
      have more : r.sent < request.count := by simpa [Run.isSending, asked] using sending
      have below := UInt64.lt_iff_toNat_lt.1 more
      obtain ⟨left, hleft⟩ : ∃ left, request.count.toNat - r.sent.toNat = left + 1 :=
        ⟨request.count.toNat - r.sent.toNat - 1, by omega⟩
      -- the calls that the sender has seen are those that the burst has counted
      have number : (calls r.switch (exchanges s request.kind r.sent.toNat) + 1).toUInt64 =
          r.attempt := by
        rw [switch, calls_exchanges, (attempt_eq more).1]
      simp only [outlook, asked, hleft, if_true, Bool.false_eq_true, if_false,
        Nat.add_sub_cancel]
      rw [playUpTo_of_sending sending]
      simp only [Sender.call, number, asked]
    case isFalse done =>
      obtain ⟨rfl, rfl⟩ := Prod.mk.inj (Option.some.inj step)
      simp only [outlook, Bool.false_eq_true, if_false, List.append_nil]
      rw [Run.playUpTo_of_done done]
  | inside r switch asked more =>
    simp only [step?, if_true] at step
    obtain ⟨rfl, rfl⟩ := Prod.mk.inj (Option.some.inj step)
    simp only [outlook, if_true, Bool.false_eq_true, if_false]
    cases sender _ r.switch with
    | ok _ =>
      have next := (attempt_eq more).2
      have fewer : r.succeed.request.count.toNat - r.succeed.sent.toNat =
          r.request.count.toNat - r.sent.toNat - 1 := by
        change r.request.count.toNat - r.attempt.toNat = _
        omega
      simp only [Run.afterSend, fewer]
    | error cause => rfl
  | finished => cases step

/-- What has gone on is the beginning of what goes on in the whole burst. -/
lemma prefix_playUpTo (left : Nat) (r : Run ι) (h : List (Event ι)) :
    h <+: (Run.playUpTo sender.call left r h).2 := by
  induction left generalizing r h with
  | zero => exact List.prefix_rfl
  | succ left ih =>
    by_cases sending : r.isSending
    · rw [playUpTo_of_sending sending]
      have called : h <+: (sender.call h r.switch r.request.kind).2 := by
        simp only [Sender.call, List.append_assoc]
        exact List.prefix_append ..
      split
      · exact called.trans (ih _ _)
      · exact called
    · have ended : (Run.playUpTo sender.call (left + 1) r h).2 = h :=
        congrArg Prod.snd (Run.playUpTo_of_done sending)
      exact ended.symm ▸ List.prefix_rfl

lemma prefix_outlook (m : Member ι) (h : List (Event ι)) : h <+: (m.outlook sender h).2 := by
  unfold outlook
  cases m.state with
  | inr result => exact List.prefix_rfl
  | inl r =>
    dsimp only
    split
    · have returned := List.prefix_append h [Event.returned r.switch r.attempt]
      split
      · exact returned.trans (prefix_playUpTo _ _ _)
      · exact returned
    · exact prefix_playUpTo _ _ _

lemma outlook_of_result? {r : Result ι} (ended : m.result? = some r) (h : List (Event ι)) :
    m.outlook sender h = (r, h) := by
  unfold result? at ended
  unfold outlook
  cases held : m.state with
  | inl r =>
    rw [held] at ended
    cases ended
  | inr result =>
    rw [held] at ended
    obtain rfl := Option.some.inj ended
    rfl

end Member

/-! ### Bursts side by side -/

/-- One burst of several after the steps of an order: where its own steps have brought it, and with
the outlook that it has alone. -/
structure Apart (sender : Sender ι) (request : Request) (s : ι) (steps : Nat) (m : Member ι)
    (events : List (Event ι)) : Prop where
  place : m.At s request (about s events) steps
  outlook : m.outlook sender (about s events) = sender.alone s request

namespace Apart

variable {events : List (Event ι)}

lemma start (sender : Sender ι) (request : Request) (s : ι) :
    Apart sender request s 0 (Member.start s request) [] :=
  ⟨Member.at_start s request, rfl⟩

/-- A step of the burst itself: the sender, which has seen the other bursts too, answers as it would
without them. -/
lemma step (heeds : sender.HeedsAttempt) (apart : Apart sender request s n m events)
    (step : m.step? (fun s _ => sender events s) = some (m', here)) :
    Apart sender request s (n + 1) m' (events ++ here) := by
  have own : about s here = here := about_of_switch (apart.place.about step)
  have answer : sender (about s events) s = sender events s := heeds s _ _ (calls_about s events)
  have alone : m.step? (fun s' _ => sender (about s events) s') = some (m', here) := by
    rw [← step]
    exact apart.place.step?_congr fun _ => answer
  refine ⟨?_, ?_⟩
  · rw [about_append, own]
    exact apart.place.step step
  · rw [about_append, own, Member.outlook_of_step? apart.place alone]
    exact apart.outlook

/-- A step of another burst. -/
lemma aside (apart : Apart sender request s n m events) (other : ∀ e ∈ here, e.switch ≠ s) :
    Apart sender request s n m (events ++ here) := by
  have same : about s (events ++ here) = about s events := by
    rw [about_append, about_of_other other, List.append_nil]
  refine ⟨?_, ?_⟩
  · rw [same]
    exact apart.place
  · rw [same]
    exact apart.outlook

end Apart

variable {switches : List ι} {ms ms' : List (Member ι)} {events events' : List (Event ι)}

/-- Every burst of a pool, after so many steps of each. -/
structure Asunder (sender : Sender ι) (request : Request) (switches : List ι) (steps : Nat → Nat)
    (ms : List (Member ι)) (events : List (Event ι)) : Prop where
  size : ms.length = switches.length
  each : ∀ i s m, switches[i]? = some s → ms[i]? = some m →
    Apart sender request s (steps i) m events

lemma Asunder.start (sender : Sender ι) (request : Request) (switches : List ι) :
    Asunder sender request switches (fun _ => 0) (starting request switches) [] := by
  refine ⟨List.length_map .., ?_⟩
  intro i s m at_s at_m
  rw [starting, List.getElem?_map, at_s] at at_m
  obtain rfl := Option.some.inj at_m
  exact Apart.start sender request s

/-- **A step of a pool keeps its bursts apart.** -/
lemma Asunder.step (distinct : switches.Nodup) (heeds : sender.HeedsAttempt) {steps : Nat → Nat}
    (asunder : Asunder sender request switches steps ms events) {i : Nat}
    (step : step? (fun s _ => sender events s) ms i = some (ms', here)) :
    Asunder sender request switches (fun j => steps j + if j = i then 1 else 0) ms'
      (events ++ here) := by
  obtain ⟨m, m', at_i, own, rfl⟩ := step?_eq_some step
  have inside : i < switches.length := by
    rw [← asunder.size]
    exact (List.getElem?_eq_some_iff.1 at_i).1
  have acting : switches[i]? = some switches[i] := List.getElem?_eq_getElem inside
  refine ⟨?_, ?_⟩
  · rw [List.length_set]
    exact asunder.size
  · intro j s x at_s at_x
    by_cases same : j = i
    · subst same
      obtain rfl := Option.some.inj (acting.symm.trans at_s)
      rw [List.getElem?_set_self (asunder.size ▸ inside)] at at_x
      obtain rfl := Option.some.inj at_x
      rw [if_pos rfl]
      exact (asunder.each j _ m at_s at_i).step heeds own
    · rw [List.getElem?_set_ne (Ne.symm same)] at at_x
      rw [if_neg same, Nat.add_zero]
      apply (asunder.each j s x at_s at_x).aside
      intro e he
      rw [(asunder.each i _ m acting at_i).place.about own e he]
      intro clash
      have place : i = j := (List.getElem?_inj inside distinct).1 (by rw [acting, at_s, clash])
      exact same place.symm

/-- Runs of a pool keep its bursts apart. -/
lemma asunder_of_steps? (distinct : switches.Nodup) (heeds : sender.HeedsAttempt)
    {steps : Nat → Nat} (asunder : Asunder sender request switches steps ms events)
    {order : List Nat} (run : steps? sender events ms order = some (ms', events')) :
    Asunder sender request switches (fun j => steps j + order.count j) ms' events' := by
  induction order generalizing steps ms events with
  | nil =>
    obtain ⟨rfl, rfl⟩ := Prod.mk.inj (Option.some.inj run)
    exact asunder
  | cons i order ih =>
    simp only [steps?, Option.bind_eq_bind, Option.bind_eq_some_iff] at run
    obtain ⟨⟨next, here⟩, first, rest⟩ := run
    have later := ih (asunder.step distinct heeds first) rest
    have counted : (fun j => steps j + (if j = i then 1 else 0) + order.count j) =
        fun j => steps j + (i :: order).count j := by
      funext j
      rw [List.count_cons]
      simp only [beq_iff_eq, eq_comm (a := i)]
      omega
    rw [counted] at later
    exact later

/-- What holds of a burst to a switch that goes on among others, after so many steps of its own. -/
structure AsAlone (sender : Sender ι) (request : Request) (s : ι) (steps : Nat) (m : Member ι)
    (events : List (Event ι)) : Prop where
  /-- Its calls are those that it makes alone, in their order, as far as it has come. -/
  calls : about s events <+: (sender.alone s request).2
  /-- Once it has ended, it has made all its calls and has the result that it has alone. -/
  result : ∀ r, m.result? = some r → (r, about s events) = sender.alone s request
  /-- No attempt begins before the one before it has returned. -/
  inOrder : ∃ k ≤ request.count.toNat, about s events = exchanges s request.kind k ∨
    k < request.count.toNat ∧
      about s events = exchanges s request.kind k ++ [.entered s (k + 1).toUInt64 request.kind]
  /-- As long as it has not ended it can go on. -/
  goesOn : m.result? = none → ∀ outcome, (m.step? outcome).isSome
  /-- It cannot go on for ever. -/
  bounded : steps ≤ 2 * request.count.toNat + 1

/-- **Bursts that share a sender keep apart.** However the steps of bursts to different switches
follow each other, each burst makes the calls that it makes alone, one after another and in their
order, and comes to the result that it has alone, as long as the outcome of a call depends only on
which attempt for its own switch it is. -/
theorem bursts_keep_apart (distinct : switches.Nodup) (heeds : sender.HeedsAttempt)
    {order : List Nat} (run : steps? sender [] (starting request switches) order = some (ms, events)) :
    ms.length = switches.length ∧
      ∀ i s m, switches[i]? = some s → ms[i]? = some m →
        AsAlone sender request s (order.count i) m events := by
  have asunder := asunder_of_steps? distinct heeds (.start sender request switches) run
  refine ⟨asunder.size, ?_⟩
  intro i s m at_s at_m
  have apart := asunder.each i s m at_s at_m
  rw [Nat.zero_add] at apart
  exact {
    calls := by
      rw [← apart.outlook]
      exact Member.prefix_outlook m _
    result := by
      intro r ended
      rw [← apart.outlook]
      exact (Member.outlook_of_result? ended _).symm
    inOrder := apart.place.inOrder
    goesOn := Member.step?_isSome
    bounded := apart.place.bounded }

/-- A sender whose second call for the second of two switches fails, and no other. -/
def failsOnce : Sender Nat := fun h s =>
  if s = 2 ∧ calls s h = 2 then .error ⟨.disconnected, .described "switch went away"⟩ else .ok ()

lemma failsOnce_heeds : failsOnce.HeedsAttempt := by
  intro s h h' same
  simp only [failsOnce, same]

/-- The steps of two bursts of two messages each, the calls of one inside those of the other. -/
def overlapping : List Nat := [0, 1, 1, 0, 1, 0, 1, 0, 0]

/-- Of two bursts the first is completed, although the second has failed before it. -/
theorem bursts_keep_apart_overlapping : ∃ ms events,
    steps? failsOnce [] (starting { count := 2 } [1, 2]) overlapping = some (ms, events) ∧
      ms.map (fun m => m.result?.map fun r => (r.sent, r.failedAt)) =
        [some (2, none), some (1, some 2)] ∧
      ∀ i s m, [1, 2][i]? = some s → ms[i]? = some m →
        AsAlone failsOnce { count := 2 } s (overlapping.count i) m events := by
  have ended : (steps? failsOnce [] (starting { count := 2 } [1, 2]) overlapping).any (fun p =>
      p.1.map (fun m => m.result?.map fun r => (r.sent, r.failedAt)) =
        [some (2, none), some (1, some 2)]) := by
    decide +kernel
  obtain ⟨⟨ms, events⟩, run, results⟩ := (Option.any_eq_true ..).1 ended
  have apart := bursts_keep_apart (by decide) failsOnce_heeds run
  exact ⟨ms, events, run, of_decide_eq_true results, apart.2⟩

end FlowBurst.Burst.Pool
