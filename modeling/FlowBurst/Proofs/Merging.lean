import FlowBurst.Plan
import Mathlib.Tactic.Lemma
import Mathlib.Tactic.SplitIfs

/-!
# How a command line and a configuration file make a plan

Of each setting that both may give, the command line's value goes before the file's, a switch is on
if either turns it on, and all else is the file's. The one fault that can come of putting them
together is one that the command line brings along: a limit of zero for each send. A plan that is
written down as a configuration says what it does: the command line that led to it leads to it
again, and a command line that gives nothing but a count leads to it with that count.

`Plan.Merges` says what each setting comes to, and the laws follow from it. Main statement:
`plans_merged`.
-/

namespace FlowBurst

open FlowBurst.Controller (Settings)

attribute [ext] Controller.Settings Burst.Request Plan

namespace Controller.Settings

variable {s t : Settings}

/-- Settings pass their check as they are, and just if they have no fault. -/
lemma check_eq_ok : s.check = .ok t ↔ s = t ∧ s.fault? = none := by
  unfold check
  cases s.fault? <;> simp

/-- Settings without a fault may have any limit for sends instead of theirs but zero. -/
lemma fault?_of_same (fine : s.fault? = none) (handshake : t.handshakeTimeout = s.handshakeTimeout)
    (frame : t.maxFrameLength = s.maxFrameLength) :
    t.fault? = if t.sendTimeout = some 0 then some .zeroSendTimeout else none := by
  unfold fault? at fine ⊢
  rw [handshake, frame]
  split_ifs at fine ⊢ <;> rfl

lemma sendTimeout_ne_zero (fine : s.fault? = none) : s.sendTimeout ≠ some 0 := by
  intro zero
  unfold fault? at fine
  split_ifs at fine

end Controller.Settings

/-- What a plan takes from a command line and what from a configuration. -/
structure Plan.Merges (p : Plan) (c : CommandLine) (file : Configuration) : Prop where
  listen : p.controller.listen = c.listen.getD file.controller.listen
  sendTimeout : p.controller.sendTimeout = c.sendTimeout.or file.controller.sendTimeout
  handshakeTimeout : p.controller.handshakeTimeout = file.controller.handshakeTimeout
  maxFrameLength : p.controller.maxFrameLength = file.controller.maxFrameLength
  noDelay : p.controller.noDelay = file.controller.noDelay
  linger : p.controller.linger = file.controller.linger
  count : p.request.count = c.count.count
  kind : p.request.kind = (c.kind.or file.burst.kind).getD .setConfig
  exitOnFailure : p.exitOnFailure = (c.exitOnFailure || file.burst.exitOnFailure)
  maxBursts : p.maxBursts = c.maxBursts.or file.burst.maxBursts

/-- Whether a command line gives nothing but a count, of what a configuration may give too. -/
structure CommandLine.GivesOnlyCount (c : CommandLine) : Prop where
  kind : c.kind = none
  listen : c.listen = none
  sendTimeout : c.sendTimeout = none
  exitOnFailure : c.exitOnFailure = false
  maxBursts : c.maxBursts = none

section Merging

variable {p q : Plan} {c bare : CommandLine} {file : Configuration}

/-! ### What follows from what a plan takes -/

namespace Plan.Merges

/-- A plan is what it takes. -/
lemma unique (hp : p.Merges c file) (hq : q.Merges c file) : p = q := by
  apply Plan.ext
  · apply Settings.ext
    · exact hp.listen.trans hq.listen.symm
    · exact hp.handshakeTimeout.trans hq.handshakeTimeout.symm
    · exact hp.sendTimeout.trans hq.sendTimeout.symm
    · exact hp.maxFrameLength.trans hq.maxFrameLength.symm
    · exact hp.noDelay.trans hq.noDelay.symm
    · exact hp.linger.trans hq.linger.symm
  · apply Burst.Request.ext
    · exact hp.kind.trans hq.kind.symm
    · exact hp.count.trans hq.count.symm
  · exact hp.exitOnFailure.trans hq.exitOnFailure.symm
  · exact hp.maxBursts.trans hq.maxBursts.symm

/-- Taken once more, the command line's values meet nothing but themselves. -/
lemma again (merges : p.Merges c file) : p.Merges c p.configuration where
  listen := by
    rw [merges.listen]
    show _ = c.listen.getD p.controller.listen
    rw [merges.listen]
    cases c.listen <;> rfl
  sendTimeout := by
    show _ = c.sendTimeout.or p.controller.sendTimeout
    rw [merges.sendTimeout]
    cases c.sendTimeout <;> rfl
  handshakeTimeout := rfl
  maxFrameLength := rfl
  noDelay := rfl
  linger := rfl
  count := merges.count
  kind := by
    show _ = (c.kind.or (some p.request.kind)).getD _
    rw [merges.kind]
    cases c.kind <;> rfl
  exitOnFailure := by
    show _ = (c.exitOnFailure || p.exitOnFailure)
    rw [merges.exitOnFailure, ← Bool.or_assoc, Bool.or_self]
  maxBursts := by
    show _ = c.maxBursts.or p.maxBursts
    rw [merges.maxBursts]
    cases c.maxBursts <;> rfl

/-- A command line that gives only a count takes the rest from the configuration. -/
lemma recounted (only : bare.GivesOnlyCount) (p : Plan) :
    Merges { p with request := { p.request with count := bare.count.count } } bare
      p.configuration where
  listen := by rw [only.listen]; rfl
  sendTimeout := by rw [only.sendTimeout]; rfl
  handshakeTimeout := rfl
  maxFrameLength := rfl
  noDelay := rfl
  linger := rfl
  count := rfl
  kind := by rw [only.kind]; rfl
  exitOnFailure := by rw [only.exitOnFailure]; rfl
  maxBursts := by rw [only.maxBursts]; rfl

/-- What a plan takes has no fault but a limit of zero that the command line gives. -/
lemma fault? (merges : p.Merges c file) (fine : file.controller.fault? = none) :
    p.controller.fault? = if c.sendTimeout = some 0 then some .zeroSendTimeout else none := by
  have zero : p.controller.sendTimeout = some 0 ↔ c.sendTimeout = some 0 := by
    rw [merges.sendTimeout]
    cases c.sendTimeout with
    | none => simpa using Settings.sendTimeout_ne_zero fine
    | some n => rfl
  rw [Settings.fault?_of_same fine merges.handshakeTimeout merges.maxFrameLength]
  simp only [zero]

end Plan.Merges

/-! ### Command lines and configurations -/

namespace CommandLine

/-- Putting a command line and a configuration together gives what the two amount to, or its fault.
-/
lemma exists_merges (c : CommandLine) (file : Configuration) : ∃ p : Plan, p.Merges c file ∧
    c.planWith file = match p.controller.fault? with
      | some fault => .error (.invalid (.settings fault))
      | none => .ok p := by
  let controller : Settings := { file.controller with
    listen := c.listen.getD file.controller.listen
    sendTimeout := c.sendTimeout.or file.controller.sendTimeout }
  refine ⟨{ controller, request := { c.count with kind := (c.kind.or file.burst.kind).getD default }
            exitOnFailure := c.exitOnFailure || file.burst.exitOnFailure
            maxBursts := c.maxBursts.or file.burst.maxBursts }, ?_, ?_⟩
  · exact ⟨rfl, rfl, rfl, rfl, rfl, rfl, rfl, rfl, rfl, rfl⟩
  · unfold planWith Settings.check
    dsimp only
    cases Settings.fault? controller <;> rfl

variable (valid : file.controller.check = .ok file.controller)
include valid

theorem planWith_eq_error {e : ConfigurationError} : c.planWith file = .error e ↔
    c.sendTimeout = some 0 ∧ e = .invalid (.settings .zeroSendTimeout) := by
  obtain ⟨p, merges, result⟩ := c.exists_merges file
  rw [result, merges.fault? (Settings.check_eq_ok.1 valid).2]
  split_ifs with zero <;> simp [zero, eq_comm]

theorem planWith_eq_ok : c.planWith file = .ok p ↔ c.sendTimeout ≠ some 0 ∧ p.Merges c file := by
  obtain ⟨q, merges, result⟩ := c.exists_merges file
  rw [result, merges.fault? (Settings.check_eq_ok.1 valid).2]
  split_ifs with zero
  · simp [zero]
  · constructor
    · intro same
      cases same
      exact ⟨zero, merges⟩
    · rintro ⟨-, other⟩
      rw [merges.unique other]

/-- What comes of a command line and a configuration. -/
structure Planned (c : CommandLine) (file : Configuration) : Prop where
  refused : ∀ e, c.planWith file = .error e ↔
    c.sendTimeout = some 0 ∧ e = .invalid (.settings .zeroSendTimeout)
  /-- A plan takes from both what is theirs to give and passes its check; in the place of the
  configuration it leads the same command line to itself, and one that gives only a count to itself
  with that count. -/
  planned : c.sendTimeout ≠ some 0 → ∃ p, c.planWith file = .ok p ∧ p.Merges c file ∧
    p.controller.check = .ok p.controller ∧ c.planWith p.configuration = .ok p ∧
    ∀ bare : CommandLine, bare.GivesOnlyCount → bare.planWith p.configuration =
      .ok { p with request := { p.request with count := bare.count.count } }

/-- **A command line and a configuration make a plan** unless the command line leaves sends no time
at all. -/
theorem plans_merged : Planned c file := by
  refine ⟨fun e => planWith_eq_error valid, ?_⟩
  intro limited
  obtain ⟨p, merges, -⟩ := c.exists_merges file
  have checked : p.controller.check = .ok p.controller := by
    rw [Settings.check_eq_ok, merges.fault? (Settings.check_eq_ok.1 valid).2, if_neg limited]
    exact ⟨rfl, rfl⟩
  refine ⟨p, (planWith_eq_ok valid).2 ⟨limited, merges⟩, merges, checked, ?_, ?_⟩
  · exact (planWith_eq_ok checked).2 ⟨limited, merges.again⟩
  · intro bare only
    have unlimited : bare.sendTimeout ≠ some 0 := by simp [only.sendTimeout]
    exact (planWith_eq_ok checked).2 ⟨unlimited, .recounted only p⟩

end CommandLine

end Merging

/-! ### The configurations of a program -/

namespace CommandLine

variable {c : CommandLine} {file : Configuration} {files : String → FileContent}

/-- Whatever a program takes for its configuration, a file or none, has passed its check. -/
lemma check_of_configuration (found : c.configuration files = .ok file) :
    file.controller.check = .ok file.controller := by
  unfold configuration at found
  split at found
  case h_1 path _ =>
    unfold Configuration.ofFile at found
    split at found
    case h_1 text _ =>
      unfold Configuration.ofDocument at found
      repeat' split at found
      all_goals cases found
      case h_1 settings checked =>
        rw [checked, (Settings.check_eq_ok.1 checked).1]
    case h_2 => cases found
  case h_2 =>
    cases found
    rfl

/-- Arguments that give every setting but the switch. -/
def overriding : List String :=
  ["--kind", "echo-request", "--listen", "127.0.0.1:9000", "--send-timeout-ms", "75",
    "--max-bursts", "1", "-vv", "--config", "bursts.toml", "8"]

/-- A file that gives some of these settings and the switch. -/
def overridden : FileContent :=
  .bytes ("[controller]\nsend_timeout_ms = 500\n[burst]\nkind = \"barrier-request\"\n" ++
    "exit_on_failure = true\nmax_bursts = 10").toUTF8

theorem plans_merged_overriding : ∃ c file, parse overriding = .ok c ∧
    c.configuration (fun _ => overridden) = .ok file ∧ c.sendTimeout ≠ some 0 ∧
      file.controller.check = .ok file.controller ∧ Planned c file := by
  have found : (parse overriding).toOption.any (fun c =>
      c.sendTimeout == some 75 && (c.configuration fun _ => overridden).toOption.isSome) = true := by
    decide +kernel
  cases parsed : parse overriding with
  | error e => simp [parsed, Except.toOption] at found
  | ok c =>
    cases configured : c.configuration (fun _ => overridden) with
    | error e => simp [parsed, configured, Except.toOption] at found
    | ok file =>
      have limited : c.sendTimeout = some 75 := by
        simpa [parsed, configured, Except.toOption] using found
      have checked := check_of_configuration configured
      exact ⟨c, file, rfl, configured, by simp [limited], checked, plans_merged checked⟩

end CommandLine

end FlowBurst
