import HeaderBindings.Proofs.CommandLine.Exits

/-!
# What a run delivers

A run that makes bindings writes the whole text to one destination, or nothing, and exits with the
status of the first stage that fails.
-/

namespace HeaderBindings

namespace CommandLine

variable {host : Host}

/-- A text went to the output of a command line, if that names a file, and to the standard output
    otherwise. Nothing else was written. -/
def Outcome.Delivers (outcome : Outcome) (host : Host) (output : Option String) (text : String) :
    Prop :=
  match output.filter namesFile with
  | none => outcome.stdout = text ∧ outcome.session.files = host.files
  | some path =>
      outcome.stdout = "" ∧ ∃ location, host.files.opening path = .opened location ∧
        outcome.session.files.directories = host.files.directories ∧
        ∀ other, outcome.session.files.textAt? other =
          if other = location then some text else host.files.textAt? other

/-- What the stages that are run leave on a host, the files and the standard output apart. -/
def Plan.left (plan : Plan) (host : Host) : Session.State :=
  plan.traces host (plan.stagesRun host) { files := host.files }

/-- What a run that makes bindings may come to. -/
structure Plan.Accounts (plan : Plan) (host : Host) (output : Option String) (outcome : Outcome) :
    Prop where
  /-- The stages after the first that fails leave no traces. -/
  session : { outcome.session with files := host.files, stdout := "" } = plan.left host
  delivers : plan.firstFault? host = none →
    outcome.exit = .status 0 ∧ outcome.stderr = logText plan.verbosity outcome.session.log ∧
      ∃ header text, host.parsedHeader plan.input = .ok header ∧
        (generate plan.settings header CursorGraph.rootPlace).1 = .ok text ∧
        outcome.Delivers host output text
  fails : ∀ {stage failure}, plan.firstFault? host = some (stage, failure) →
    outcome.stdout = "" ∧ outcome.session.files = host.files ∧
      (failure.kind ≠ .unusableText →
        outcome.exit = .status stage.exitStatus ∧
          outcome.stderr = logText plan.verbosity outcome.session.log ++
            "error: " ++ failure.message ++ "\n")

theorem output_of_requestWith {arguments : Arguments} {verbosity : Log.Verbosity}
    {pattern : Pattern} {plan : Plan}
    (asked : requestWith host arguments verbosity pattern = .ok (.bindings plan)) :
    plan.output = arguments.output.filter namesFile := by
  unfold requestWith at asked
  simp only [bind, Except.bind, pure, Except.pure] at asked
  repeat' split at asked
  all_goals cases asked
  all_goals rfl

theorem output_of_requestOf {arguments : Arguments} {plan : Plan}
    (asked : requestOf host arguments = .ok (.bindings plan)) :
    plan.output = arguments.output.filter namesFile := by
  unfold requestOf at asked
  cases verbose : verbosityOf host arguments with
  | error stop => simp [verbose, bind, Except.bind] at asked
  | ok verbosity =>
    cases named : patternOf host arguments with
    | error stop => simp [verbose, named, bind, Except.bind] at asked
    | ok pattern =>
      cases made : requestWith host arguments verbosity pattern with
      | error error => simp [verbose, named, made, bind, Except.bind, Except.mapError] at asked
      | ok request =>
        simp only [verbose, named, made, bind, Except.bind, Except.mapError] at asked
        cases asked
        exact output_of_requestWith made

section OutcomeOf

variable {verbosity : Log.Verbosity} {failure : Failure} {s : Session.State}

theorem outcomeOf_delivered :
    outcomeOf verbosity (.ok (), s) =
      { exit := .status 0, stdout := s.stdout, stderr := logText verbosity s.log,
        session := s } := by
  simp [outcomeOf]

theorem outcomeOf_unhandled (unhandled : failure.kind = .unusableText) :
    outcomeOf verbosity (.error failure, s) =
      { exit := .aborted failure
        stdout := s.stdout
        stderr := logText verbosity s.log
        session := s } := by
  simp [outcomeOf, unhandled]

theorem outcomeOf_handled (handled : failure.kind ≠ .unusableText) :
    outcomeOf verbosity (.error failure, s) =
      { exit := .status failure.kind.exitStatus
        stdout := s.stdout
        stderr := logText verbosity s.log ++ "error: " ++ failure.message ++ "\n"
        session := s } := by
  cases kind : failure.kind with
  | unusableText => exact absurd kind handled
  | _ => simp [outcomeOf, kind, String.append_assoc]

theorem outcomeOf_state {result : Except Failure Unit} :
    (outcomeOf verbosity (result, s)).stdout = s.stdout ∧
      (outcomeOf verbosity (result, s)).session = s := by
  cases result with
  | ok value => exact ⟨rfl, rfl⟩
  | error failure =>
    by_cases unhandled : failure.kind = .unusableText
    · rw [outcomeOf_unhandled unhandled]
      exact ⟨rfl, rfl⟩
    · rw [outcomeOf_handled unhandled]
      exact ⟨rfl, rfl⟩

end OutcomeOf

theorem run_bindings {words : List String} {arguments : Arguments} {plan : Plan}
    (accepted : Arguments.ofWords host words = .ok arguments)
    (asked : requestOf host arguments = .ok (.bindings plan)) :
    run host words =
      outcomeOf plan.verbosity ((plan.bindings host).outcome { files := host.files }) := by
  unfold run
  rw [accepted]
  simp only [asked]
  rfl

namespace Plan

variable {plan : Plan}

theorem files_left : (plan.left host).files = host.files :=
  files_traces _ _

theorem stdout_left : (plan.left host).stdout = "" :=
  stdout_traces _ _

theorem exit_of_firstFault? {stage : Stage} {failure : Failure} {s : Session.State}
    (first : plan.firstFault? host = some (stage, failure))
    (handled : failure.kind ≠ .unusableText) :
    (outcomeOf plan.verbosity (.error failure, s)).exit = .status stage.exitStatus ∧
      (outcomeOf plan.verbosity (.error failure, s)).stderr =
        logText plan.verbosity s.log ++ "error: " ++ failure.message ++ "\n" := by
  rw [outcomeOf_handled handled]
  rcases explains_of_firstFault? first with ⟨unhandled, -⟩ | ⟨-, status, -⟩
  · exact absurd unhandled handled
  · exact ⟨by rw [status], rfl⟩

theorem accounts_early {output : Option String} {stage : Stage} {failure : Failure}
    (first : plan.firstFault? host = some (stage, failure)) :
    plan.Accounts host output (outcomeOf plan.verbosity (.error failure, plan.left host)) where
  session := by rw [outcomeOf_state.2, ← files_left, ← stdout_left]
  delivers none := by
    rw [first] at none
    cases none
  fails found := by
    cases first.symm.trans found
    refine ⟨by rw [outcomeOf_state.1, stdout_left],
      by rw [outcomeOf_state.2, files_left], fun handled => ?_⟩
    rw [outcomeOf_state.2]
    exact exit_of_firstFault? first handled

/-- What is left when all stages before the last have passed. -/
def leftAtEnd (plan : Plan) (host : Host) (text : String) : Session.State :=
  { plan.left host with
    stdout := (plan.receipt host text).1
    files := (plan.receipt host text).2 }

theorem delivered_traces {text : String} (taken : plan.stagesRun host = Stage.all) :
    plan.delivered host text
        (plan.traces host [.template, .searchList, .reading, .parsing, .export]
          { files := host.files }) = plan.leftAtEnd host text := by
  have all : plan.left host = plan.traces host [.writing]
      (plan.traces host [.template, .searchList, .reading, .parsing, .export]
        { files := host.files }) := by
    rw [left, taken, ← traces_append]
    rfl
  rw [delivered, leftAtEnd, all, stdout_traces, String.empty_append]

theorem session_leftAtEnd {text : String} :
    { plan.leftAtEnd host text with files := host.files, stdout := "" } = plan.left host := by
  rw [leftAtEnd, ← files_left, ← stdout_left]

/-- A text that is delivered is taken as a whole. -/
theorem receipt_of_delivered (text : String) (gone : plan.delivery host = .ok ()) :
    plan.output = none ∧ plan.receipt host text = (text, host.files) ∨
      ∃ path location, plan.output = some path ∧
        host.files.opening path = .opened location ∧
        plan.receipt host text = ("", host.files.put location text) := by
  obtain ⟨survived, gone⟩ := Host.withstands_of_ok gone
  unfold receipt
  cases written : plan.output with
  | none => exact .inl ⟨rfl, by simp only [survived]⟩
  | some path =>
    simp only [written] at gone
    cases leads : host.files.destination path with
    | error failure => simp [leads, Except.map] at gone
    | ok location =>
      exact .inr ⟨path, location, rfl, FileSystem.opening_of_destination leads,
        by simp only [survived, leads]⟩

theorem receipt_of_fails (text : String) {failure : Failure}
    (fails : plan.delivery host = .error failure) : plan.receipt host text = ("", host.files) := by
  unfold receipt
  unfold delivery at fails
  cases survived : host.withstands (.stage .writing) with
  | error other => rfl
  | ok value =>
    rw [survived] at fails
    cases written : plan.output with
    | none => simp [written, Except.bind] at fails
    | some path =>
      cases leads : host.files.destination path with
      | error other => simp only [leads]
      | ok location => simp [written, leads, Except.bind, Except.map] at fails

theorem delivers_of_delivery {output : Option String} {text : String} {outcome : Outcome}
    (named : plan.output = output.filter namesFile) (gone : plan.delivery host = .ok ())
    (toStream : outcome.stdout = (plan.receipt host text).1)
    (toFiles : outcome.session.files = (plan.receipt host text).2) :
    outcome.Delivers host output text := by
  unfold Outcome.Delivers
  rw [← named]
  rcases receipt_of_delivered text gone with
    ⟨written, receipt⟩ | ⟨path, location, written, opening, receipt⟩
  all_goals rw [receipt] at toStream toFiles
  · rw [written]
    exact ⟨toStream, toFiles⟩
  · rw [written]
    refine ⟨toStream, location, opening, ?_⟩
    rw [toFiles]
    exact ⟨rfl, FileSystem.textAt?_put⟩

theorem generate_of_bindingsText {header : Header} {text : String}
    (made : plan.bindingsText host header = .ok text) :
    (generate plan.settings header CursorGraph.rootPlace).1 = .ok text := by
  unfold bindingsText at made
  cases named : plan.checkNames header with
  | error failure =>
    rw [named] at made
    cases made
  | ok value =>
    rw [named] at made
    exact (Host.withstands_of_ok made).2

theorem accounts_late {output : Option String} {header : Header} {text : String}
    (named : plan.output = output.filter namesFile)
    (last : plan.firstFault? host = (failureOf (plan.delivery host)).map (.writing, ·))
    (parsed : host.parsedHeader plan.input = .ok header)
    (made : plan.bindingsText host header = .ok text) :
    plan.Accounts host output
      (outcomeOf plan.verbosity (plan.delivery host, plan.leftAtEnd host text)) where
  session := by rw [outcomeOf_state.2, session_leftAtEnd]
  delivers none := by
    cases gone : plan.delivery host with
    | error failure =>
      rw [last, gone] at none
      cases none
    | ok value =>
      rw [outcomeOf_delivered]
      exact ⟨rfl, rfl, header, text, parsed, generate_of_bindingsText made,
        delivers_of_delivery named gone rfl rfl⟩
  fails {stage failure} found := by
    cases gone : plan.delivery host with
    | ok value =>
      rw [last, gone] at found
      cases found
    | error other =>
      have same := found
      rw [last, gone] at same
      cases same
      have nothing : plan.receipt host text = ("", host.files) := receipt_of_fails text gone
      rw [outcomeOf_state.1, outcomeOf_state.2, leftAtEnd, nothing]
      refine ⟨rfl, rfl, fun handled => ?_⟩
      exact exit_of_firstFault? found handled

end Plan

/-- Running a command line that asks for bindings writes the whole text to one place, or fails with
    the first stage that fails and writes nothing, whatever comes of opening the output. -/
theorem accounts_run {words : List String} {arguments : Arguments} {plan : Plan}
    (accepted : Arguments.ofWords host words = .ok arguments)
    (asked : requestOf host arguments = .ok (.bindings plan)) :
    plan.Accounts host arguments.output (run host words) := by
  rw [run_bindings accepted asked]
  have ends := Plan.ends_bindings (s := { files := host.files }) plan rfl
  generalize (plan.bindings host).outcome { files := host.files } = result at ends
  cases ends with
  | early first => exact Plan.accounts_early first
  | late last taken parsed made =>
    rw [Plan.delivered_traces taken]
    exact Plan.accounts_late (output_of_requestOf asked) last parsed made

namespace Hosts

/-- A host on which every stage after the first would fail. -/
def bare : Host :=
  { compiler := .notStarted "[Errno 2] No such file or directory: 'clang'"
    parsing := .failed "Error parsing translation unit." }

/-- A host with a header without declarations. -/
def equipped : Host :=
  { files := { files := [(["lib.h"], "")], directories := [["out"]] }
    compiler := .finished 0
      "#include <...> search starts here:\n /usr/include\nEnd of search list.\n"
    parsing := .parsed ⟨#[{ kindName := "TRANSLATION_UNIT", spelling := some "lib.h" }]⟩ 0 [] }

def words : List String :=
  ["-o", "out/lib.dart", "lib.h"]

def arguments : Arguments :=
  { input := some "lib.h", output := some "out/lib.dart" }

def plan : Plan :=
  { settings :=
      { className := "lib"
        pattern := ⟨".*", .repeated 0 none .greedy (.one .any), 0, [], {}⟩
        template := "$0" }
    verbosity := .off
    input := "lib.h"
    output := some "out/lib.dart" }

/-- The same host, on which the output must not be opened. -/
def locked : Host :=
  { equipped with
    files := { equipped.files with
      openings := [("out/lib.dart", .refused "[Errno 13] Permission denied: 'out/lib.dart'")] } }

theorem firstFault?_bare : plan.firstFault? bare =
    some (.searchList,
      .compilerMissing "clang" "[Errno 2] No such file or directory: 'clang'") := by
  decide +kernel

theorem firstFault?_equipped : plan.firstFault? equipped = none := by
  decide +kernel

theorem firstFault?_locked : plan.firstFault? locked =
    some (.writing,
      .unwritableFile "out/lib.dart" "[Errno 13] Permission denied: 'out/lib.dart'") := by
  decide +kernel

theorem opening_equipped :
    equipped.files.opening "out/lib.dart" = .opened ["out", "lib.dart"] := by
  rfl

theorem accounts :
    ((run bare words).exit = .status 4 ∧ (run bare words).stdout = "" ∧
      (run bare words).session.parses = []) ∧
    ((run equipped words).exit = .status 0 ∧ (run equipped words).stdout = "" ∧
      ∃ text, (run equipped words).session.files.textAt? ["out", "lib.dart"] = some text) ∧
    (run locked words).exit = .status 3 ∧ (run locked words).stdout = "" ∧
      (run locked words).session.files = locked.files := by
  have onBare : plan.Accounts bare arguments.output (run bare words) := accounts_run rfl rfl
  have onEquipped : plan.Accounts equipped arguments.output (run equipped words) :=
    accounts_run rfl rfl
  have onLocked : plan.Accounts locked arguments.output (run locked words) := accounts_run rfl rfl
  refine ⟨?_, ?_, ?_⟩
  · have unparsed : (run bare words).session.parses = [] := by
      have left := congrArg Session.State.parses onBare.session
      have none : (plan.left bare).parses = [] := by decide +kernel
      exact left.trans none
    obtain ⟨nothing, -, reported⟩ := onBare.fails firstFault?_bare
    exact ⟨(reported nofun).1, nothing, unparsed⟩
  · obtain ⟨exit, -, header, text, -, -, stdout, location, leads, -, texts⟩ :=
      onEquipped.delivers firstFault?_equipped
    have place : location = ["out", "lib.dart"] := by
      rw [opening_equipped] at leads
      cases leads
      rfl
    exact ⟨exit, stdout, text, by simp [texts, place]⟩
  · obtain ⟨nothing, kept, reported⟩ := onLocked.fails firstFault?_locked
    exact ⟨(reported nofun).1, nothing, kept⟩

end Hosts

end CommandLine

end HeaderBindings
