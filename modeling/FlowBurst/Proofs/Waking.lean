import FlowBurst.Transport.Cancellation
import Mathlib.Data.List.Induction
import Mathlib.Tactic.Lemma

/-!
# No cancellation is lost

Between looking at a flag and going to sleep somebody may raise the flag and have everyone woken. A
task that took its place in the queue before it looked at the flag is among those who are woken
then; had it looked first, it would sleep for ever. And a task that is woken finds the flag up,
since it was raised before anyone was woken. So once somebody has raised a flag and returned, nobody
sleeps on who has not been woken, and every task that waits is back after at most three steps of its
own.

Of the queue no more is taken for granted than that everyone in it can be woken, `WakesAll`; a queue
that counts how often this was done keeps that promise. Main statements: `step_of_step?`, which
lists what a step can be, and `cancellation_never_lost`.
-/

namespace FlowBurst.Transport

open WakeQueue (Called Request)

/-! ### Queues -/

namespace WakeQueue

variable {requests more : List Request} {place : Nat}

/-- What is asked of a queue later does not undo a call. -/
lemma Called.append (called : Called requests place) : Called (requests ++ more) place := by
  obtain ⟨before, after, rfl, taken⟩ := called
  exact ⟨before, after ++ more, by simp, taken⟩

lemma called_wakeAll (taken : place < requests.count .take) :
    Called (requests ++ [.wakeAll]) place :=
  ⟨requests, [], rfl, taken⟩

/-- A request calls those who have a place, if it is one to wake everyone. -/
lemma called_concat {request : Request} :
    Called (requests ++ [request]) place ↔
      Called requests place ∨ request = .wakeAll ∧ place < requests.count .take := by
  constructor
  · rintro ⟨before, after, split, taken⟩
    rcases List.eq_nil_or_concat after with rfl | ⟨after, last, rfl⟩
    · obtain ⟨rfl, last⟩ := List.append_inj' split rfl
      exact .inr ⟨List.singleton_inj.1 last, taken⟩
    · rw [List.concat_eq_append, ← List.cons_append, ← List.append_assoc] at split
      obtain ⟨rfl, -⟩ := List.append_inj' split rfl
      exact .inl ⟨before, after, rfl, taken⟩
  · rintro (called | ⟨rfl, taken⟩)
    · exact called.append
    · exact called_wakeAll taken

/-- A queue that counts how often everyone was woken, and notes for each place how often that had
been when the place was taken. -/
structure Rounds where
  count : Nat := 0
  places : List Nat := []

/-- What such a queue makes of a request. -/
def Rounds.serve (r : Rounds) : Request → Rounds
  | .take => { r with places := r.places ++ [r.count] }
  | .wakeAll => { r with count := r.count + 1 }
  | .look _ | .leave _ => r

/-- Whether there has been a further round since a place was taken. -/
def Rounds.tells (r : Rounds) (place : Nat) : Bool :=
  match r.places[place]? with
  | some n => n < r.count
  | none => false

/-- What such a queue has noted after some requests. -/
def rounds (requests : List Request) : Rounds := requests.foldl Rounds.serve {}

/-- The queue that counts. -/
def counting : WakeQueue where
  woken requests place := (rounds requests).tells place

lemma rounds_concat (requests : List Request) (request : Request) :
    rounds (requests ++ [request]) = (rounds requests).serve request :=
  List.foldl_append

/-- There is a note for each place, and none of a round to come. -/
lemma rounds_places (requests : List Request) :
    (rounds requests).places.length = requests.count .take ∧
      ∀ n ∈ (rounds requests).places, n ≤ (rounds requests).count := by
  induction requests using List.reverseRecOn with
  | nil => simp [rounds]
  | append_singleton requests request ih =>
    obtain ⟨length, past⟩ := ih
    rw [rounds_concat, List.count_append]
    cases request with
    | take =>
      refine ⟨by simp [Rounds.serve, length], fun n hn => ?_⟩
      rcases List.mem_append.1 hn with hn | hn
      · exact past n hn
      · exact Nat.le_of_eq (List.mem_singleton.1 hn)
    | wakeAll => exact ⟨by simp [Rounds.serve, length], fun n hn => Nat.le_succ_of_le (past n hn)⟩
    | look place | leave place => exact ⟨by simp [Rounds.serve, length], past⟩

lemma Rounds.tells_iff {r : Rounds} :
    r.tells place = true ↔ ∃ n, r.places[place]? = some n ∧ n < r.count := by
  unfold tells
  cases r.places[place]? <;> simp

/-- A place that is taken now was taken in this round. -/
lemma Rounds.tells_serve {r : Rounds} (past : ∀ n ∈ r.places, n ≤ r.count) (request : Request) :
    (r.serve request).tells place = true ↔
      r.tells place = true ∨ request = .wakeAll ∧ place < r.places.length := by
  rw [tells_iff, tells_iff]
  cases request with
  | take =>
    by_cases taken : place < r.places.length
    · simp [serve, List.getElem?_append_left taken]
    · have outside : r.places[place]? = none := List.getElem?_eq_none (Nat.le_of_not_lt taken)
      rw [outside]
      simp [serve, List.getElem?_append, taken, List.getElem?_singleton]
  | wakeAll =>
    by_cases taken : place < r.places.length
    · have note := past _ (List.getElem_mem taken)
      simpa [serve, taken, Nat.lt_succ_iff] using note
    · simp [serve, taken]
  | look other | leave other => simp [serve]

/-- **The counting queue wakes everyone who has a place, and nobody else.** -/
theorem counting_woken_iff : counting.woken requests place = true ↔ Called requests place := by
  induction requests using List.reverseRecOn with
  | nil => simp [counting, rounds, Rounds.tells, Called]
  | append_singleton requests request ih =>
    obtain ⟨length, past⟩ := rounds_places requests
    rw [called_concat, ← ih, ← length]
    unfold counting
    dsimp only
    rw [rounds_concat]
    exact Rounds.tells_serve past request

lemma counting_wakesAll : counting.WakesAll := fun _ _ called _ => counting_woken_iff.2 called

end WakeQueue

/-! ### What a step can be -/

namespace Waiting

/-- The place that a waiting task has in the queue. -/
def place? : Waiting → Option Nat
  | queued place | asleep place => some place
  | _ => none

/-- How many steps a waiting task still has to take at most once everyone has been woken. -/
def toGo : Waiting → Nat
  | asleep _ => 3
  | started => 2
  | queued _ => 1
  | returned | abandoned => 0

/-- A waiting task goes on: what it comes to and what it asks of the queue. -/
inductive Goes (q : WakeQueue) (flag : Bool) (requests : List Request) :
    Waiting → Waiting → List Request → Prop
  | takes : Goes q flag requests started (queued (requests.count .take)) [.take]
  | returns {place} (up : flag = true) : Goes q flag requests (queued place) returned [.leave place]
  | rests {place} (down : flag = false) : Goes q flag requests (queued place) (asleep place) []
  | wakes {place} (woken : q.woken requests place = true) :
    Goes q flag requests (asleep place) started [.look place, .leave place]
  | sleepsOn {place} (unwoken : q.woken requests place = false) :
    Goes q flag requests (asleep place) (asleep place) [.look place]
  | quits {place} : Goes q flag requests (asleep place) abandoned [.leave place]

section Goes

variable {q : WakeQueue} {flag : Bool} {requests asked : List Request} {w w' : Waiting}
  {place : Nat}

/-- A task goes on in each step of its own, and does not give itself up. -/
lemma goes_of_step? (h : w.step? q flag requests = some (w', asked)) :
    w.Goes q flag requests w' asked ∧ w' ≠ abandoned := by
  unfold step? at h
  cases w with
  | started => cases h; exact ⟨.takes, nofun⟩
  | queued place =>
    cases up : flag with
    | true => rw [up] at h; cases h; exact ⟨.returns rfl, nofun⟩
    | false => rw [up] at h; cases h; exact ⟨.rests rfl, nofun⟩
  | asleep place =>
    dsimp only at h
    cases woken : q.woken requests place with
    | true => rw [woken] at h; cases h; exact ⟨.wakes woken, nofun⟩
    | false => rw [woken] at h; cases h; exact ⟨.sleepsOn woken, nofun⟩
  | returned => cases h
  | abandoned => cases h

/-- A waiting task can always go on until it is back or was given up. -/
lemma step?_isSome (on : 0 < w.toGo) : (w.step? q flag requests).isSome := by
  cases w with
  | started | queued place | asleep place => rfl
  | returned | abandoned => cases on

/-- A task has no place but the one that it had and is not leaving, or else the next one, which it
takes. -/
lemma Goes.keeps (goes : w.Goes q flag requests w' asked) (has : w'.place? = some place) :
    w.place? = some place ∧ .leave place ∉ asked ∨
      place = requests.count .take ∧ asked = [.take] := by
  cases goes with
  | takes => exact .inr ⟨(Option.some.inj has).symm, rfl⟩
  | rests => exact .inl ⟨has, List.not_mem_nil⟩
  | sleepsOn => exact .inl ⟨has, by simp⟩
  | returns | wakes | quits => cases has

/-- A task leaves no place but its own. -/
lemma Goes.leaves (goes : w.Goes q flag requests w' asked) (left : .leave place ∈ asked) :
    w.place? = some place := by
  cases goes with
  | returns | wakes | quits =>
    obtain rfl : place = _ := by simpa using left
    rfl
  | takes | rests | sleepsOn => simp at left

/-- Where the flag is up nobody lies down to sleep. -/
lemma Goes.slept (goes : w.Goes q flag requests (asleep place) asked) (up : flag = true) :
    w = asleep place := by
  cases goes with
  | rests down => rw [up] at down; cases down
  | sleepsOn => rfl

/-- Where the flag is up and everyone who sleeps has been woken, each step brings a task nearer to
its return. -/
lemma Goes.nearer (goes : w.Goes q flag requests w' asked) (up : flag = true)
    (woken : ∀ place, w = asleep place → q.woken requests place = true) : w'.toGo < w.toGo := by
  cases goes with
  | rests down => rw [up] at down; cases down
  | sleepsOn unwoken => rw [woken _ rfl] at unwoken; cases unwoken
  | takes | returns | wakes | quits => simp [toGo]

end Goes

end Waiting

namespace Cancellation

/-- What a step can be. -/
inductive Step (q : WakeQueue) (c : Cancellation) : Action → Cancellation → Prop
  | goes {i w w' asked a} (own : a = .wait i ∧ w' ≠ .abandoned ∨ a = .abandon i ∧ w' = .abandoned)
    (here : c.waiting[i]? = some w) (goes : w.Goes q c.flag c.requests w' asked) :
    Step q c a { c with requests := c.requests ++ asked, waiting := c.waiting.set i w' }
  | raises {i} (here : c.raising[i]? = some .started) :
    Step q c (.raise i) { c with flag := true, raising := c.raising.set i .raised }
  | wakes {i} (here : c.raising[i]? = some .raised) :
    Step q c (.raise i)
      { c with requests := c.requests ++ [.wakeAll], raising := c.raising.set i .returned }
  | joinsWaiting : Step q c .joinWaiting { c with waiting := c.waiting ++ [.started] }
  | joinsRaising : Step q c .joinRaising { c with raising := c.raising ++ [.started] }

section Steps

variable {q : WakeQueue} {c c' : Cancellation} {a : Action}

/-- **There is no step that `Step` does not list.** -/
theorem step_of_step? (h : c.step? q a = some c') : Step q c a c' := by
  cases a with
  | wait i =>
    obtain ⟨w, here, h⟩ := Option.bind_eq_some_iff.1 h
    obtain ⟨⟨w', asked⟩, next, h⟩ := Option.bind_eq_some_iff.1 h
    cases h
    obtain ⟨goes, on⟩ := Waiting.goes_of_step? next
    exact .goes (.inl ⟨rfl, on⟩) here goes
  | abandon i =>
    obtain ⟨w, here, h⟩ := Option.bind_eq_some_iff.1 h
    cases w with
    | asleep place => cases h; exact .goes (.inr ⟨rfl, rfl⟩) here .quits
    | started => cases h
    | queued place => cases h
    | returned => cases h
    | abandoned => cases h
  | raise i =>
    obtain ⟨r, here, h⟩ := Option.bind_eq_some_iff.1 h
    cases r with
    | started => cases h; exact .raises here
    | raised => cases h; exact .wakes here
    | returned => cases h
  | joinWaiting => cases h; exact .joinsWaiting
  | joinRaising => cases h; exact .joinsRaising

/-- A waiting task can always go on until it is back or was given up. -/
lemma step?_isSome {i : Nat} {w : Waiting} (here : c.waiting[i]? = some w) (on : 0 < w.toGo) :
    (c.step? q (.wait i)).isSome := by
  have goes : (w.step? q c.flag c.requests).isSome := Waiting.step?_isSome on
  obtain ⟨next, h⟩ := Option.isSome_iff_exists.1 goes
  simp [step?, here, h]

end Steps

/-! ### What every step keeps -/

/-- A waiting task has a place in the queue. -/
def Holds (c : Cancellation) (i place : Nat) : Prop :=
  ∃ w, c.waiting[i]? = some w ∧ w.place? = some place

/-- What holds of the tasks at work on a flag, whatever steps they have taken. -/
structure Sound (c : Cancellation) : Prop where
  /-- The flag is up exactly if some task has raised it. -/
  raised : c.flag = true ↔ ∃ r ∈ c.raising, r ≠ .started
  /-- Only places that were taken are left. -/
  left : ∀ place, .leave place ∈ c.requests → place < c.requests.count .take
  /-- A place that a task has was taken, and it was not left since, -/
  held : ∀ i place, c.Holds i place →
    place < c.requests.count .take ∧ .leave place ∉ c.requests
  /-- and no other task has it. -/
  apart : ∀ i j place, c.Holds i place → c.Holds j place → i = j
  /-- Once some task has raised the flag and returned, everyone who sleeps has been called. -/
  called : .returned ∈ c.raising → ∀ place, .asleep place ∈ c.waiting → Called c.requests place

section Sound

variable {q : WakeQueue} {c c' : Cancellation} {a : Action}

lemma sound_empty : Sound {} := by
  constructor <;> simp [Holds]

/-- A task that goes on changes places for itself only. -/
lemma holds_set {i j place : Nat} {w w' : Waiting} {requests : List Request}
    (here : c.waiting[i]? = some w) :
    Holds { c with requests := requests, waiting := c.waiting.set i w' } j place ↔
      if i = j then w'.place? = some place else c.Holds j place := by
  obtain ⟨inside, -⟩ := List.getElem?_eq_some_iff.1 here
  unfold Holds
  by_cases same : i = j
  · subst same
    simp [inside]
  · simp [same]

/-- Where the flag is up a task that goes on does not lie down to sleep. -/
lemma slept_of_goes {i place : Nat} {w w' : Waiting} {asked : List Request}
    (here : c.waiting[i]? = some w) (goes : w.Goes q c.flag c.requests w' asked)
    (up : c.flag = true) (sleeps : .asleep place ∈ c.waiting.set i w') :
    .asleep place ∈ c.waiting := by
  rcases List.mem_or_eq_of_mem_set sleeps with sleeps | rfl
  · exact sleeps
  · obtain rfl := goes.slept up
    exact List.mem_of_getElem? here

/-- A task that joins has no place yet. -/
lemma holds_of_join {j place : Nat}
    (has : Holds { c with waiting := c.waiting ++ [.started] } j place) : c.Holds j place := by
  obtain ⟨w, there, has⟩ := has
  rw [List.getElem?_append] at there
  split at there
  next => exact ⟨w, there, has⟩
  next =>
    obtain rfl := List.mem_singleton.1 (List.mem_of_getElem? there)
    cases has

lemma Sound.up (sound : c.Sound) (done : .returned ∈ c.raising) : c.flag = true :=
  sound.raised.2 ⟨.returned, done, nofun⟩

/-- A task that goes on gets no place that another one has. -/
lemma Sound.goes (sound : c.Sound) {i : Nat} {w w' : Waiting} {asked : List Request}
    (here : c.waiting[i]? = some w) (goes : w.Goes q c.flag c.requests w' asked) :
    Sound { c with requests := c.requests ++ asked, waiting := c.waiting.set i w' } where
  raised := sound.raised
  left place left := by
    rw [List.count_append]
    refine Nat.lt_add_right _ ?_
    rcases List.mem_append.1 left with left | left
    · exact sound.left place left
    · exact (sound.held i place ⟨w, here, goes.leaves left⟩).1
  held j place has := by
    rw [holds_set here] at has
    rw [List.count_append, List.mem_append, not_or]
    split at has
    next =>
      rcases goes.keeps has with ⟨had, stays⟩ | ⟨rfl, rfl⟩
      · obtain ⟨taken, free⟩ := sound.held i place ⟨w, here, had⟩
        exact ⟨Nat.lt_add_right _ taken, free, stays⟩
      · -- the place that it takes is the next one, which nobody can have left
        exact ⟨Nat.lt_succ_self _, fun left => Nat.lt_irrefl _ (sound.left _ left), by simp⟩
    next other =>
      obtain ⟨taken, free⟩ := sound.held j place has
      refine ⟨Nat.lt_add_right _ taken, free, fun left => other ?_⟩
      exact sound.apart i j place ⟨w, here, goes.leaves left⟩ has
  apart j k place := by
    have fresh {m : Nat} (has : w'.place? = some place) (has' : c.Holds m place) : i = m := by
      rcases goes.keeps has with ⟨had, -⟩ | ⟨rfl, -⟩
      · exact sound.apart i m place ⟨w, here, had⟩ has'
      · exact (Nat.lt_irrefl _ (sound.held m _ has').1).elim
    rw [holds_set here, holds_set here]
    intro has has'
    split at has <;> split at has'
    next own own' => exact own.symm.trans own'
    next own _ => exact own.symm.trans (fresh has has')
    next _ own => exact (fresh has' has).symm.trans own
    next => exact sound.apart j k place has has'
  called done place sleeps :=
    -- the flag is up, so whoever sleeps after the step slept before it
    (sound.called done place (slept_of_goes here goes (sound.up done) sleeps)).append

lemma Sound.raises (sound : c.Sound) {i : Nat} (here : c.raising[i]? = some .started) :
    Sound { c with flag := true, raising := c.raising.set i .raised } where
  raised := by
    obtain ⟨inside, -⟩ := List.getElem?_eq_some_iff.1 here
    exact iff_of_true rfl ⟨.raised, List.mem_set inside _, nofun⟩
  left := sound.left
  held := sound.held
  apart := sound.apart
  called done := sound.called ((List.mem_or_eq_of_mem_set done).resolve_right (by decide))

/-- When everyone is woken, everyone who sleeps has a place. -/
lemma Sound.wakes (sound : c.Sound) {i : Nat} (here : c.raising[i]? = some .raised) :
    Sound { c with requests := c.requests ++ [.wakeAll]
                   raising := c.raising.set i .returned } where
  raised := by
    obtain ⟨inside, -⟩ := List.getElem?_eq_some_iff.1 here
    have up := sound.raised.2 ⟨.raised, List.mem_of_getElem? here, nofun⟩
    exact iff_of_true up ⟨.returned, List.mem_set inside _, nofun⟩
  left place left := by
    have left : .leave place ∈ c.requests := by simpa using left
    simpa using sound.left place left
  held i place has := by simpa using sound.held i place has
  apart := sound.apart
  called _ place sleeps := by
    obtain ⟨j, there⟩ := List.mem_iff_getElem?.1 sleeps
    exact WakeQueue.called_wakeAll (sound.held j place ⟨_, there, rfl⟩).1

lemma Sound.joinsWaiting (sound : c.Sound) :
    Sound { c with waiting := c.waiting ++ [.started] } where
  raised := sound.raised
  left := sound.left
  held j place has := sound.held j place (holds_of_join has)
  apart j k place has has' := sound.apart j k place (holds_of_join has) (holds_of_join has')
  called done place sleeps := sound.called done place (by simpa using sleeps)

lemma Sound.joinsRaising (sound : c.Sound) :
    Sound { c with raising := c.raising ++ [.started] } where
  raised := by simpa using sound.raised
  left := sound.left
  held := sound.held
  apart := sound.apart
  called done := sound.called (by simpa using done)

/-- **Each step keeps what is sound.** -/
theorem Sound.step (sound : c.Sound) (step : Step q c a c') : c'.Sound := by
  cases step with
  | goes _ here goes => exact sound.goes here goes
  | raises here => exact sound.raises here
  | wakes here => exact sound.wakes here
  | joinsWaiting => exact sound.joinsWaiting
  | joinsRaising => exact sound.joinsRaising

end Sound

/-! ### Steps one after another -/

section Runs

variable {q : WakeQueue} {c c' : Cancellation} {a : Action} {actions : List Action}

/-- Whatever every step keeps is kept by any steps. -/
lemma run?_induction {P : Cancellation → Prop} (step : ∀ c a c', P c → Step q c a c' → P c') :
    ∀ {actions : List Action} {c c' : Cancellation}, c.run? q actions = some c' → P c → P c'
  | [], _, _, run, h => Option.some.inj run ▸ h
  | _ :: _, _, _, run, h => by
    obtain ⟨between, first, rest⟩ := Option.bind_eq_some_iff.1 run
    exact run?_induction step rest (step _ _ _ h (step_of_step? first))

/-- The tasks at work on a flag are sound in every run. -/
lemma sound_of_run? (run : run? q {} actions = some c) : c.Sound :=
  run?_induction (fun _ _ _ sound step => sound.step step) run sound_empty

lemma Step.flag (step : Step q c a c') (up : c.flag = true) : c'.flag = true := by
  cases step with
  | raises => rfl
  | goes | wakes | joinsWaiting | joinsRaising => exact up

/-- Where the flag is up nobody lies down to sleep. -/
lemma Step.slept (step : Step q c a c') (up : c.flag = true) {place : Nat}
    (sleeps : .asleep place ∈ c'.waiting) : .asleep place ∈ c.waiting := by
  cases step with
  | goes _ here goes => exact slept_of_goes here goes up sleeps
  | joinsWaiting => simpa using sleeps
  | raises | wakes | joinsRaising => exact sleeps

/-- A task that raised the flag and returned has done so for good. -/
lemma Step.done (step : Step q c a c') (done : .returned ∈ c.raising) : .returned ∈ c'.raising := by
  obtain ⟨k, there⟩ := List.mem_iff_getElem?.1 done
  -- whoever takes a step in raising the flag has not returned
  have kept {i : Nat} {r : Raising} (here : c.raising[i]? = some r) (on : r ≠ .returned)
      (r' : Raising) : .returned ∈ c.raising.set i r' := by
    have other : i ≠ k := by
      rintro rfl
      exact on (Option.some.inj (here.symm.trans there))
    exact List.mem_of_getElem? ((List.getElem?_set_ne other).trans there)
  cases step with
  | raises here => exact kept here (by decide) _
  | wakes here => exact kept here (by decide) _
  | joinsRaising => exact List.mem_append_left _ done
  | goes | joinsWaiting => exact done

/-- Whoever returns in a step has found the flag up. -/
lemma Step.returns (step : Step q c a c') {i : Nat} (back : c'.waiting[i]? = some .returned) :
    c.waiting[i]? = some .returned ∨ c.flag = true := by
  cases step with
  | @goes j w w' asked a own here goes =>
    rw [List.getElem?_set] at back
    split at back
    next =>
      split at back
      next =>
        obtain rfl := Option.some.inj back
        cases goes with
        | returns up => exact .inr up
      next => cases back
    next => exact .inl back
  | joinsWaiting =>
    rw [List.getElem?_append] at back
    split at back
    next => exact .inl back
    next => cases List.mem_singleton.1 (List.mem_of_getElem? back)
  | raises | wakes | joinsRaising => exact .inl back

/-- **Who sleeps has been woken** once some task has raised the flag and returned. -/
lemma Sound.woken (sound : c.Sound) (wakes : q.WakesAll) (done : .returned ∈ c.raising)
    {place : Nat} (sleeps : .asleep place ∈ c.waiting) : q.woken c.requests place = true := by
  obtain ⟨i, there⟩ := List.mem_iff_getElem?.1 sleeps
  exact wakes _ _ (sound.called done place sleeps) (sound.held i place ⟨_, there, rfl⟩).2

/-- How many steps the `i`-th waiting task still has to take at most once everyone has been woken,
three if it has not begun. -/
def toGo (c : Cancellation) (i : Nat) : Nat :=
  match c.waiting[i]? with
  | some w => w.toGo
  | none => 3

lemma toGo_le (c : Cancellation) (i : Nat) : c.toGo i ≤ 3 := by
  unfold toGo
  split
  next w _ => cases w <;> simp [Waiting.toGo]
  next => exact Nat.le_refl _

/-- **Each of its steps brings a task nearer to its return** once some task has raised the flag and
returned, and no step of others takes it back. -/
lemma Sound.nearer (sound : c.Sound) (wakes : q.WakesAll) (done : .returned ∈ c.raising)
    (step : Step q c a c') (i : Nat) : [a].count (.wait i) + c'.toGo i ≤ c.toGo i := by
  cases step with
  | @goes j w w' asked a own here goes =>
    by_cases same : j = i
    · subst same
      obtain ⟨inside, -⟩ := List.getElem?_eq_some_iff.1 here
      have nearer := goes.nearer (sound.up done) fun place asleep =>
        sound.woken wakes done (List.mem_of_getElem? (asleep ▸ here))
      have once : [a].count (.wait j) ≤ 1 := List.count_le_length
      simp only [toGo, List.getElem?_set_self inside, here]
      omega
    · have aside : [a].count (.wait i) = 0 := by
        rcases own with ⟨rfl, -⟩ | ⟨rfl, -⟩ <;> simp [same]
      rw [aside, Nat.zero_add]
      simp only [toGo, List.getElem?_set_ne same]
      exact Nat.le_refl _
  | raises | wakes | joinsRaising => simp [toGo]
  | joinsWaiting =>
    have aside : [Action.joinWaiting].count (.wait i) = 0 := rfl
    rw [aside, Nat.zero_add]
    by_cases inside : i < c.waiting.length
    · simp [toGo, List.getElem?_append_left inside]
    · have unbegun : c.toGo i = 3 := by
        simp [toGo, List.getElem?_eq_none (Nat.le_of_not_lt inside)]
      rw [unbegun]
      exact toGo_le _ i

lemma Sound.nearer_run (wakes : q.WakesAll) (i : Nat) :
    ∀ {more : List Action} {c c' : Cancellation}, c.Sound → .returned ∈ c.raising →
      c.run? q more = some c' → more.count (.wait i) + c'.toGo i ≤ c.toGo i
  | [], c, c', _, _, run => by
    obtain rfl := Option.some.inj run
    simp
  | a :: more, c, c', sound, done, run => by
    obtain ⟨between, first, rest⟩ := Option.bind_eq_some_iff.1 run
    have step := step_of_step? first
    have one := sound.nearer wakes done step i
    have others := Sound.nearer_run wakes i (sound.step step) (step.done done) rest
    rw [← List.singleton_append, List.count_append]
    omega

/-- What holds of a flag after some steps of the tasks at work on it, and of any that follow. -/
structure NeverLost (q : WakeQueue) (c : Cancellation) : Prop where
  /-- Once some task has raised the flag and returned, everyone who sleeps has been woken. -/
  woken : .returned ∈ c.raising → ∀ place, .asleep place ∈ c.waiting →
    q.woken c.requests place = true
  /-- The flag is up exactly if some task has raised it. -/
  raised : c.flag = true ↔ ∃ r ∈ c.raising, r ≠ .started
  /-- Whoever returns in the next step finds it up, -/
  returns : ∀ a c', c.step? q a = some c' → ∀ i : Nat, c'.waiting[i]? = some .returned →
    c.waiting[i]? = some .returned ∨ c.flag = true
  /-- and it stays up for ever. -/
  stays : c.flag = true → ∀ more c', c.run? q more = some c' → c'.flag = true
  /-- Nobody lies down to sleep any more once it is up. -/
  slept : c.flag = true → ∀ more c', c.run? q more = some c' → ∀ place,
    .asleep place ∈ c'.waiting → .asleep place ∈ c.waiting
  /-- Once some task has raised the flag and returned, every task that waits, then or later, is back
  or given up by its third step from there, whatever steps the others take, and has a next step
  until it is. -/
  back : .returned ∈ c.raising → ∀ more c', c.run? q more = some c' →
    ∀ (i : Nat) (w : Waiting), c'.waiting[i]? = some w → w = .returned ∨ w = .abandoned ∨
      more.count (.wait i) < 3 ∧ (c'.step? q (.wait i)).isSome

/-- **No cancellation is lost**, whatever steps any number of tasks take on one flag. -/
theorem cancellation_never_lost (wakes : q.WakesAll) (run : run? q {} actions = some c) :
    NeverLost q c where
  woken done _ := (sound_of_run? run).woken wakes done
  raised := (sound_of_run? run).raised
  returns _ _ step _ := (step_of_step? step).returns
  stays up _ _ further := run?_induction (fun _ _ _ up step => step.flag up) further up
  slept up _ _ further := by
    refine (run?_induction (P := fun d => d.flag = true ∧
      ∀ place, .asleep place ∈ d.waiting → .asleep place ∈ c.waiting) ?_ further
      ⟨up, fun _ => id⟩).2
    rintro d a d' ⟨up, slept⟩ step
    exact ⟨step.flag up, fun place sleeps => slept place (step.slept up sleeps)⟩
  back done more c' further i w here := by
    have spent := Sound.nearer_run wakes i (sound_of_run? run) done further
    have few := toGo_le c i
    have rest : c'.toGo i = w.toGo := by simp [toGo, here]
    by_cases on : 0 < w.toGo
    · exact .inr (.inr ⟨by omega, step?_isSome here on⟩)
    · cases w with
      | returned => exact .inl rfl
      | abandoned => exact .inr (.inl rfl)
      | started | queued | asleep => simp [Waiting.toGo] at on

/-- A task goes to sleep and has not asked yet whether it was woken, another one has, and a third is
about to look at the flag; then two tasks raise it, of which one has everyone woken. -/
def beforeSleep : List Action :=
  [.joinWaiting, .joinWaiting, .joinWaiting, .joinRaising, .joinRaising, .wait 0, .wait 0, .wait 1,
    .wait 1, .wait 1, .wait 2, .raise 0, .raise 1, .raise 0]

/-- Both who sleep have been woken, whether they had asked or not. -/
theorem never_lost_before_sleep :
    WakeQueue.counting.WakesAll ∧ ∃ c, run? WakeQueue.counting {} beforeSleep = some c ∧
      c.waiting = [.asleep 0, .asleep 1, .queued 2] ∧ c.raising = [.returned, .raised] ∧
      NeverLost WakeQueue.counting c ∧ WakeQueue.counting.woken c.requests 0 = true ∧
      WakeQueue.counting.woken c.requests 1 = true := by
  obtain ⟨c, run, waiting, raising⟩ : ∃ c, run? WakeQueue.counting {} beforeSleep = some c ∧
      c.waiting = [.asleep 0, .asleep 1, .queued 2] ∧ c.raising = [.returned, .raised] :=
    ⟨_, rfl, rfl, rfl⟩
  have never := cancellation_never_lost WakeQueue.counting_wakesAll run
  have done : .returned ∈ c.raising := by simp [raising]
  exact ⟨WakeQueue.counting_wakesAll, c, run, waiting, raising, never,
    never.woken done 0 (by simp [waiting]), never.woken done 1 (by simp [waiting])⟩

example : (run? WakeQueue.counting {} (beforeSleep ++ [.wait 2, .wait 0, .wait 1, .wait 1, .wait 0,
    .wait 0, .wait 1])).map (·.waiting) = some [.returned, .returned, .returned] := rfl

end Runs

end Cancellation

end FlowBurst.Transport
