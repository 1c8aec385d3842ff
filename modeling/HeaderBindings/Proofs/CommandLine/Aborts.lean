import HeaderBindings.Proofs.CommandLine.Accounts

/-!
# Aborted runs

A run aborts on a failure that the program does not handle. This happens just when something is to be
done with a text that cannot be used: a group number in the template that no number can be read
from, an option without a value, or an output whose path contains a null. Every other run ends with
a refusal of the command line or with an exit status.
-/

namespace HeaderBindings

theorem Template.compile_fails_otherwise_iff (pattern : Pattern) (template : String) :
    (∃ failure, compile pattern template = .error failure ∧ failure.kind ≠ .generation) ↔
      ∃ reference, firstUndefined? pattern template = some reference ∧ Unreadable reference := by
  rcases compile_cases pattern template with
    ⟨compiles, none⟩ | ⟨reference, first, ⟨readable, fails⟩ | ⟨unreadable, failure, kind, fails⟩⟩
  · simp [compiles, none]
  · simp [fails, first, readable, Failure.kind]
  · simp [fails, first, unreadable, kind]

theorem Stage.exitStatus_mem (stage : Stage) : stage.exitStatus ∈ [1, 3, 4] := by
  cases stage <;> decide

namespace CommandLine

variable {host : Host} {words : List String}

/-! ## Values that cannot be read -/

/-- Whether a pattern is one that reading a value does not deal with: it has a number that is too
    large, or the host fails. -/
def UnhandledPattern (host : Host) (source : String) : Prop :=
  host.Fails (.pattern source) ∨
    ∃ error, Pattern.ofString source host.characters = .error error ∧
      error.cause.severity = .unhandled

/-- Nothing but a pattern makes a reading of values abort. -/
def AbortsAtPattern (host : Host) {α : Type} (reading : Except Stop α) : Prop :=
  ∀ failure, reading = .error (.aborted failure) → ∃ source, UnhandledPattern host source

namespace AbortsAtPattern

variable {α β : Type}

theorem ok {value : α} : AbortsAtPattern host (.ok value) :=
  nofun

theorem usage {error : UsageError} : AbortsAtPattern host (.error (.usage error) : Except Stop α) :=
  nofun

theorem bind {reading : Except Stop α} {next : α → Except Stop β}
    (first : AbortsAtPattern host reading) (second : ∀ value, AbortsAtPattern host (next value)) :
    AbortsAtPattern host (reading >>= next) := by
  cases reading with
  | ok value => exact second value
  | error stop =>
    intro failure aborts
    cases aborts
    exact first failure rfl

theorem foldlM {step : β → α → Except Stop β}
    (each : ∀ acc value, AbortsAtPattern host (step acc value)) (values : List α) (acc : β) :
    AbortsAtPattern host (values.foldlM step acc) := by
  induction values generalizing acc with
  | nil => exact ok
  | cons value rest ih => exact (each acc value).bind ih

end AbortsAtPattern

namespace Arguments

theorem patternGiven_aborts_iff {source : String} :
    (∃ failure, patternGiven host source = .error (.aborted failure)) ↔
      UnhandledPattern host source := by
  unfold patternGiven UnhandledPattern Host.Fails readPattern
  cases broken : host.breakdown? (.pattern source) with
  | some breakdown => simp
  | none =>
    cases read : Pattern.ofString source host.characters with
    | ok pattern => simp [Except.mapError]
    | error error =>
      by_cases unhandled : error.cause.severity = .unhandled <;>
        simp [Except.mapError, Stop.ofFault, ValueFault.unhandled?, unhandled]

theorem abortsAtPattern_patternGiven (source : String) :
    AbortsAtPattern host (patternGiven host source) :=
  fun failure aborts => ⟨source, patternGiven_aborts_iff.mp ⟨failure, aborts⟩⟩

theorem verbosityGiven_ne_aborted {value : String} {failure : Failure} :
    verbosityGiven value ≠ .error (.aborted failure) := by
  unfold verbosityGiven readVerbosity
  cases Log.Verbosity.ofName? value <;>
    simp [Except.mapError, Stop.ofFault, ValueFault.unhandled?]

theorem abortsAtPattern_setFlag (arguments : Arguments) (name : OptionName) :
    AbortsAtPattern host (arguments.setFlag name) := by
  cases name <;> exact nofun

theorem abortsAtPattern_setValue (arguments : Arguments) (name : OptionName) (value : String) :
    AbortsAtPattern host (arguments.setValue host name value) := by
  cases name with
  | log =>
    exact AbortsAtPattern.bind (fun _ aborts => absurd aborts verbosityGiven_ne_aborted)
      fun _ => .ok
  | names => exact (abortsAtPattern_patternGiven value).bind fun _ => .ok
  | _ => exact .ok

theorem abortsAtPattern_takeSeparate (arguments : Arguments) (name : OptionName)
    (following : List Word) :
    AbortsAtPattern host (arguments.takeSeparate host name following) := by
  unfold takeSeparate
  split
  · split
    · exact (abortsAtPattern_setValue arguments name _).bind fun _ => .ok
    · exact .usage
  · exact (abortsAtPattern_setFlag arguments name).bind fun _ => .ok

theorem abortsAtPattern_takeAttached (arguments : Arguments) (name : OptionName) (value : String)
    (following : List Word) :
    AbortsAtPattern host (arguments.takeAttached host name value following) := by
  unfold takeAttached
  split
  · exact .usage
  · split
    · exact .ok
    · exact (abortsAtPattern_setValue arguments name value).bind fun _ => .ok

theorem abortsAtPattern_takeLetters (arguments : Arguments) (following : List Word)
    (pending : List OptionName) (name : OptionName) (text : List Char) :
    AbortsAtPattern host (arguments.takeLetters host following pending name text) := by
  have flags (names : List OptionName) : AbortsAtPattern host (names.foldlM setFlag arguments) :=
    .foldlM abortsAtPattern_setFlag names arguments
  induction text generalizing pending name with
  | nil =>
    unfold takeLetters
    split
    · exact .usage
    · exact (flags pending).bind fun _ => abortsAtPattern_takeSeparate _ _ _
  | cons letter rest ih =>
    unfold takeLetters
    split
    · exact (flags pending).bind fun _ => abortsAtPattern_takeAttached _ _ _ _
    · split
      · split
        · exact (flags _).bind fun _ => abortsAtPattern_takeAttached _ _ _ _
        · exact .usage
      · exact ih _ _
      · exact .usage
      · split
        · exact .usage
        · exact (flags _).bind fun _ => .ok

theorem abortsAtPattern_takeWords (budget : Nat) (taken : Bool) (arguments : Arguments)
    (words : List Word) : AbortsAtPattern host (takeWords host budget taken arguments words) := by
  induction budget generalizing taken arguments words with
  | zero => exact .ok
  | succ budget ih =>
    unfold takeWords
    split
    · split
      · exact (abortsAtPattern_takeSeparate _ _ _).bind fun _ => ih _ _ _
      · exact (abortsAtPattern_takeAttached _ _ _ _).bind fun _ => ih _ _ _
      · exact (abortsAtPattern_takeLetters _ _ _ _ _).bind fun _ => ih _ _ _
      · exact ih _ _ _
      · split
        · exact ih _ _ _
        · exact ih _ _ _
      · exact .ok
    · exact .ok

theorem abortsAtPattern_ofWords (words : List String) :
    AbortsAtPattern host (ofWords host words) := by
  unfold ofWords
  split
  · exact .usage
  · exact abortsAtPattern_takeWords _ _ _ _

end Arguments

theorem verbosityOf_ne_aborted {arguments : Arguments} {failure : Failure} :
    verbosityOf host arguments ≠ .error (.aborted failure) := by
  unfold verbosityOf
  split
  · nofun
  · exact Arguments.verbosityGiven_ne_aborted

/-- Asking aborts just when no pattern is given and the one of the environment is not dealt with. -/
theorem requestOf_aborts_iff {arguments : Arguments} :
    (∃ failure, requestOf host arguments = .error (.aborted failure)) ↔
      (∃ verbosity, verbosityOf host arguments = .ok verbosity) ∧ arguments.pattern = none ∧
        UnhandledPattern host (textFor host arguments .names "MATCH" defaultPattern) := by
  unfold requestOf patternOf
  cases verbose : verbosityOf host arguments with
  | error stop =>
    have refused (failure : Failure) : stop ≠ .aborted failure := by
      rintro rfl
      exact verbosityOf_ne_aborted verbose
    simp [bind, Except.bind, refused]
  | ok verbosity =>
    have settled (pattern : Pattern) (failure : Failure) :
        (requestWith host arguments verbosity pattern).mapError Stop.usage ≠
          .error (.aborted failure) := by
      cases requestWith host arguments verbosity pattern <;> nofun
    cases given : arguments.pattern with
    | some pattern => simp [bind, Except.bind, settled]
    | none =>
      rw [← Arguments.patternGiven_aborts_iff]
      cases read :
        Arguments.patternGiven host (textFor host arguments .names "MATCH" defaultPattern) <;>
        simp [bind, Except.bind, settled]

/-! ## Runs that abort -/

/-- A run that comes upon something that the program does not deal with. -/
inductive Leaks (host : Host) (words : List String) : Prop where
  /-- In a word of the command line. -/
  | word {failure : Failure} {source : String}
      (stopped : Arguments.ofWords host words = .error (.aborted failure))
      (unhandled : UnhandledPattern host source)
  /-- In the pattern of the environment, if it is asked for. -/
  | environment {arguments : Arguments} {verbosity : Log.Verbosity}
      (accepted : Arguments.ofWords host words = .ok arguments)
      (verbose : verbosityOf host arguments = .ok verbosity) (ungiven : arguments.pattern = none)
      (unhandled : UnhandledPattern host (textFor host arguments .names "MATCH" defaultPattern))
  /-- In the name of a verbosity. -/
  | report {arguments : Arguments} (accepted : Arguments.ofWords host words = .ok arguments)
      (asked : requestOf host arguments = .ok .unreportable)
  /-- In a stage that no other stage fails before. -/
  | stage {arguments : Arguments} {plan : Plan} {stage : Stage} {failure : Failure}
      (accepted : Arguments.ofWords host words = .ok arguments)
      (asked : requestOf host arguments = .ok (.bindings plan))
      (first : plan.firstFault? host = some (stage, failure))
      (unhandled : plan.Unhandled host stage)

/-- A run stops at its command line, tells something, cannot report, or makes bindings. -/
theorem run_cases (host : Host) (words : List String) :
    (∃ stop, run host words = stop.outcome host ∧
      (Arguments.ofWords host words = .error stop ∨
        ∃ arguments, Arguments.ofWords host words = .ok arguments ∧
          requestOf host arguments = .error stop)) ∨
    (∃ text, run host words = tell host text) ∨
    (∃ arguments, Arguments.ofWords host words = .ok arguments ∧
      requestOf host arguments = .ok .unreportable) ∨
    ∃ arguments plan, Arguments.ofWords host words = .ok arguments ∧
      requestOf host arguments = .ok (.bindings plan) := by
  unfold run
  cases accepted : Arguments.ofWords host words with
  | error stop => exact .inl ⟨stop, rfl, .inl rfl⟩
  | ok arguments =>
    cases asked : requestOf host arguments with
    | error stop => exact .inl ⟨stop, by simp [asked], .inr ⟨arguments, rfl, asked⟩⟩
    | ok request =>
      cases request with
      | version =>
        refine .inr (.inl ⟨"Version: " ++ programVersion ++ "\n", ?_⟩)
        simp only [asked]
      | unreportable => exact .inr (.inr (.inl ⟨arguments, rfl, asked⟩))
      | bindings plan => exact .inr (.inr (.inr ⟨arguments, plan, rfl, asked⟩))

theorem exit_unreportable {arguments : Arguments}
    (accepted : Arguments.ofWords host words = .ok arguments)
    (asked : requestOf host arguments = .ok .unreportable) :
    (run host words).exit = .aborted (Plan.failureWithout .log) := by
  unfold run
  rw [accepted]
  simp only [asked]
  rfl

theorem run_of_stop {stop : Stop} (stopped : Arguments.ofWords host words = .error stop) :
    run host words = stop.outcome host := by
  unfold run
  rw [stopped]

theorem run_of_refusal {arguments : Arguments} {stop : Stop}
    (accepted : Arguments.ofWords host words = .ok arguments)
    (stopped : requestOf host arguments = .error stop) : run host words = stop.outcome host := by
  unfold run
  rw [accepted]
  simp only [stopped]

/-- The first stage that fails decides whether a run aborts, and else with which status it ends. -/
theorem exit_bindings {arguments : Arguments} {plan : Plan}
    (accepted : Arguments.ofWords host words = .ok arguments)
    (asked : requestOf host arguments = .ok (.bindings plan)) :
    (run host words).exit = .status 0 ∧ plan.firstFault? host = none ∨
    ∃ stage failure, plan.firstFault? host = some (stage, failure) ∧
      ((run host words).exit = .aborted failure ∧ plan.Unhandled host stage ∨
        (run host words).exit = .status stage.exitStatus ∧ ¬ plan.Unhandled host stage) := by
  rw [run_bindings accepted asked]
  have fails {stage : Stage} {failure : Failure} {s : Session.State}
      (first : plan.firstFault? host = some (stage, failure)) :
      (outcomeOf plan.verbosity (.error failure, s)).exit = .aborted failure ∧
          plan.Unhandled host stage ∨
        (outcomeOf plan.verbosity (.error failure, s)).exit = .status stage.exitStatus ∧
          ¬ plan.Unhandled host stage := by
    rcases Plan.explains_of_firstFault? first with ⟨kind, unhandled⟩ | ⟨kind, status, handled⟩
    · rw [outcomeOf_unhandled kind]
      exact .inl ⟨rfl, unhandled⟩
    · rw [outcomeOf_handled kind, status]
      exact .inr ⟨rfl, handled⟩
  have ends := Plan.ends_bindings (s := { files := host.files }) plan rfl
  generalize (plan.bindings host).outcome { files := host.files } = result at ends
  cases ends with
  | early first => exact .inr ⟨_, _, first, fails first⟩
  | late last =>
    cases gone : plan.delivery host with
    | ok value =>
      rw [gone] at last
      exact .inl ⟨rfl, last⟩
    | error failure =>
      rw [gone] at last
      exact .inr ⟨_, _, last, fails last⟩

theorem aborts_of_leaks (leaks : Leaks host words) :
    ∃ failure, (run host words).exit = .aborted failure := by
  cases leaks with
  | word stopped => exact ⟨_, by rw [run_of_stop stopped]; rfl⟩
  | environment accepted verbose ungiven unhandled =>
    obtain ⟨failure, stopped⟩ :=
      requestOf_aborts_iff.mpr ⟨⟨_, verbose⟩, ungiven, unhandled⟩
    exact ⟨failure, by rw [run_of_refusal accepted stopped]; rfl⟩
  | report accepted asked => exact ⟨_, exit_unreportable accepted asked⟩
  | stage accepted asked first unhandled =>
    rcases exit_bindings accepted asked with
      ⟨-, none⟩ | ⟨stage, failure, same, ⟨aborted, -⟩ | ⟨-, handled⟩⟩
    · rw [first] at none
      cases none
    · exact ⟨failure, aborted⟩
    · cases first.symm.trans same
      exact absurd unhandled handled

/-- A command line that stops a run is refused, or asks for help, unless the run leaks. -/
theorem handled_of_stop {stop : Stop} (tight : ¬ Leaks host words)
    (stopped : Arguments.ofWords host words = .error stop ∨
      ∃ arguments, Arguments.ofWords host words = .ok arguments ∧
        requestOf host arguments = .error stop) :
    (∃ error, stop.outcome host = refuse host error) ∨ (stop.outcome host).exit = .status 0 := by
  cases stop with
  | help => exact .inr rfl
  | usage error => exact .inl ⟨error, rfl⟩
  | aborted failure =>
    refine absurd ?_ tight
    rcases stopped with stopped | ⟨arguments, accepted, stopped⟩
    · obtain ⟨source, unhandled⟩ := Arguments.abortsAtPattern_ofWords words failure stopped
      exact .word stopped unhandled
    · obtain ⟨⟨verbosity, verbose⟩, ungiven, unhandled⟩ :=
        requestOf_aborts_iff.mp ⟨failure, stopped⟩
      exact .environment accepted verbose ungiven unhandled

theorem handled_of_not_leaks (tight : ¬ Leaks host words) :
    (∃ error, run host words = refuse host error) ∨
      ∃ status ∈ [0, 1, 3, 4], (run host words).exit = .status status := by
  rcases run_cases host words with
    ⟨stop, ends, stopped⟩ | ⟨text, told⟩ | ⟨arguments, accepted, asked⟩ |
      ⟨arguments, plan, accepted, asked⟩
  · rw [ends]
    exact (handled_of_stop tight stopped).imp_right fun exit => ⟨0, by decide, exit⟩
  · exact .inr ⟨0, by decide, by rw [told]; rfl⟩
  · exact absurd (.report accepted asked) tight
  · rcases exit_bindings accepted asked with
      ⟨exit, -⟩ | ⟨stage, failure, first, ⟨-, unhandled⟩ | ⟨exit, -⟩⟩
    · exact .inr ⟨0, by decide, exit⟩
    · exact absurd (.stage accepted asked first unhandled) tight
    · exact .inr ⟨stage.exitStatus, List.mem_cons_of_mem 0 stage.exitStatus_mem, exit⟩

/-- A template fails with something else than a missing group just when its first reference that is
    not defined cannot be read, and a run aborts just when it comes upon something that the program
    does not deal with. Every other run is refused or ends with one of four statuses. -/
theorem aborts_iff_leaks (pattern : Pattern) (template : String) (host : Host)
    (words : List String) :
    ((∃ failure, Template.compile pattern template = .error failure ∧
        failure.kind ≠ .generation) ↔
      ∃ reference, Template.firstUndefined? pattern template = some reference ∧
        Template.Unreadable reference) ∧
    ((∃ failure, (run host words).exit = .aborted failure) ↔ Leaks host words) ∧
    (¬ Leaks host words → (∃ error, run host words = refuse host error) ∨
      ∃ status ∈ [0, 1, 3, 4], (run host words).exit = .status status) := by
  refine ⟨Template.compile_fails_otherwise_iff pattern template, ⟨?_, aborts_of_leaks⟩,
    handled_of_not_leaks⟩
  rintro ⟨failure, aborted⟩
  by_contra tight
  rcases handled_of_not_leaks tight with ⟨error, refused⟩ | ⟨status, -, exit⟩
  · rw [refused] at aborted
    cases aborted
  · rw [exit] at aborted
    cases aborted

namespace SuperscriptReference

/-- A superscript is a digit, and no number is read from it. -/
theorem aborts :
    Template.compile ⟨".*", .repeated 0 none .greedy (.one .any), 0, [], {}⟩ "$²" =
        .error (.numeral "²") ∧
      (run Hosts.bare ["-r", "$²", "lib.h"]).exit = .aborted (.numeral "²") := by
  constructor
  · decide +kernel
  · decide +kernel

end SuperscriptReference

end CommandLine

end HeaderBindings
