import HeaderBindings.Proofs.CommandLine.Sessions
import HeaderBindings.Proofs.Export.Nesting
import Mathlib.Data.List.TakeWhile

/-!
# The stages of a run

A run that makes bindings goes through stages. Each of them passes or fails as the host and the
command line determine, and the first that fails decides how the run ends. Nothing but the report
and the exit status tells of the stages before, those after are not run, and the text goes to one
destination when all before the last have passed.
-/

namespace HeaderBindings

namespace Stage

/-- The stages in their order. -/
def all : List Stage :=
  [.template, .searchList, .reading, .parsing, .export, .writing]

/-- The exit status of a run in which a stage is the first to fail. -/
def exitStatus : Stage → Nat
  | .template | .parsing | .export => 1
  | .searchList => 4
  | .reading | .writing => 3

end Stage

namespace CommandLine

/-- The failure of something that failed. -/
def failureOf {α : Type} : Except Failure α → Option Failure
  | .ok _ => none
  | .error failure => some failure

@[simp] theorem failureOf_eq_some {α : Type} {result : Except Failure α} {failure : Failure} :
    failureOf result = some failure ↔ result = .error failure := by
  cases result <;> simp [failureOf]

namespace Plan

variable (plan : Plan) (host : Host)

/-- Whether the template passes its check. -/
def template : Except Failure Unit :=
  (host.withstands (.stage .template)).bind fun _ => plan.checkTemplate

/-- The places of the system in which the parser looks. -/
def systemPlaces : Except Failure (List String) :=
  if plan.settings.detectSystem then
    plan.checkCompiler.bind fun _ => host.searchList plan.settings.compiler
  else .ok []

def parserArguments : List String :=
  "-xc" :: SearchList.arguments ((plan.systemPlaces host).toOption.getD [])
    plan.settings.includePaths

/-- The text of the bindings for a header, if the names in it can be asked for. -/
def bindingsText (header : Header) : Except Failure String :=
  (plan.checkNames header).bind fun _ => host.rendering plan.settings header

/-- Whether a text goes to its destination, which does not depend on the text. -/
def delivery : Except Failure Unit :=
  (host.withstands (.stage .writing)).bind fun _ =>
    match plan.output with
    | none => .ok ()
    | some path => (host.files.destination path).map fun _ => ()

/-- The standard output and the files after a text was to go to its destination. -/
def receipt (text : String) : String × FileSystem :=
  match host.withstands (.stage .writing), plan.output with
  | .error _, _ => ("", host.files)
  | .ok _, none => (text, host.files)
  | .ok _, some path =>
      match host.files.destination path with
      | .error _ => ("", host.files)
      | .ok location => ("", host.files.put location text)

/-- Why a stage that is run fails. -/
def fault? : Stage → Option Failure
  | .template => failureOf (plan.template host)
  | .searchList => failureOf (plan.systemPlaces host)
  | .reading => failureOf (host.found plan.input)
  | .parsing => failureOf (host.parsedHeader plan.input)
  | .export => (host.parsedHeader plan.input).toOption.bind fun header =>
      failureOf (plan.bindingsText host header)
  | .writing => failureOf (plan.delivery host)

/-- What a stage that is run reports, and which programs it asks for what. -/
def trace : Stage → Session.State
  | .template => { log := host.breakdownReport (.stage .template) }
  | .searchList =>
      if plan.settings.detectSystem && decide (.compiler ∉ plan.valueless) then
        host.searchTrace plan.settings.compiler
      else {}
  | .reading => { log := host.breakdownReport (.stage .reading) }
  | .parsing => host.parseTrace plan.input (plan.parserArguments host)
  | .export =>
      match host.parsedHeader plan.input with
      | .error _ => {}
      | .ok header =>
          match plan.checkNames header with
          | .error _ => {}
          | .ok _ => host.renderingTrace plan.settings header
  | .writing =>
      { log := host.breakdownReport (.stage .writing) ++
          match plan.delivery host, plan.output with
          | .ok _, some path => [⟨.info, .output, "Wrote " ++ path⟩]
          | _, _ => [] }

/-- The first stage that fails, and why. -/
def firstFault? : Option (Stage × Failure) :=
  Stage.all.findSome? fun stage => (plan.fault? host stage).map (stage, ·)

/-- The stages that are run: those that pass before the first that fails, and that one. -/
def stagesRun : List Stage :=
  Stage.all.takeWhile (fun stage => (plan.fault? host stage).isNone) ++
    (plan.firstFault? host).toList.map (·.1)

/-- What stages leave in a session, the files and the standard output apart. -/
def traces (stages : List Stage) (s : Session.State) : Session.State :=
  stages.foldl (fun s stage => s.followedBy (plan.trace host stage)) s

open Session

variable {plan host} {s : Session.State}

theorem outcome_template :
    (do
      enter host (.stage .template)
      plan.checkTemplate : Session Unit).outcome s =
        (plan.template host, plan.traces host [.template] s) := by
  unfold template
  cases survived : host.withstands (.stage .template) <;>
    simp [outcome_bind, outcome_enter, survived, traces, trace, Except.bind]

theorem outcome_loadHeader (named : plan.checkCompiler = .ok ()) :
    (loadHeader host plan.settings plan.input).outcome s =
      match plan.systemPlaces host with
      | .error failure => (.error failure, plan.traces host [.searchList] s)
      | .ok _ =>
          match host.found plan.input with
          | .error failure => (.error failure, plan.traces host [.searchList, .reading] s)
          | .ok _ =>
              (host.parsedHeader plan.input,
                plan.traces host [.searchList, .reading, .parsing] s) := by
  unfold loadHeader Session.parserArguments
  cases detects : plan.settings.detectSystem with
  | false =>
    cases found : host.found plan.input <;>
      simp [detects, found, outcome_parseHeader, systemPlaces, traces, trace, parserArguments,
        Except.toOption]
  | true =>
    have present : .compiler ∉ plan.valueless := by
      intro missing
      simp [checkCompiler, detects, missing] at named
    cases places : host.searchList plan.settings.compiler with
    | error failure =>
      simp [outcome_bind, detects, outcome_systemPlaces, systemPlaces, places, named, present,
        traces, trace, Except.bind]
    | ok list =>
      cases found : host.found plan.input <;>
        simp [outcome_bind, detects, found, outcome_systemPlaces, outcome_parseHeader, systemPlaces,
          places, named, present, traces, trace, Except.bind, parserArguments, Except.toOption]

theorem outcome_export {header : Header} (parsed : host.parsedHeader plan.input = .ok header)
    (next : String → Session Unit) :
    (do
      plan.checkNames header
      let text ← renderBindings host plan.settings header
      next text : Session Unit).outcome s =
        match plan.bindingsText host header with
        | .error failure => (.error failure, plan.traces host [.export] s)
        | .ok text => (next text).outcome (plan.traces host [.export] s) := by
  cases named : plan.checkNames header with
  | error failure => simp [outcome_bind, bindingsText, named, parsed, traces, trace, Except.bind]
  | ok value =>
    cases made : host.rendering plan.settings header <;>
      simp [outcome_bind, outcome_renderBindings, bindingsText, named, made, parsed, traces, trace,
        Except.bind]

/-- The end of a session that delivers a text. -/
def delivered (plan : Plan) (host : Host) (text : String) (s : Session.State) : Session.State :=
  { plan.traces host [.writing] s with
    stdout := s.stdout ++ (plan.receipt host text).1
    files := (plan.receipt host text).2 }

theorem outcome_deliver {text : String} (unchanged : s.files = host.files) :
    (plan.deliver host text).outcome s =
      (plan.delivery host, plan.delivered host text s) := by
  unfold deliver
  cases survived : host.withstands (.stage .writing) with
  | error failure =>
    simp [outcome_bind, outcome_enter, survived, delivery, delivered, receipt, traces, trace,
      State.followedBy, ← unchanged, Except.bind]
  | ok value =>
    cases written : plan.output with
    | none =>
      simp [outcome_bind, outcome_enter, survived, written, delivery, delivered, receipt, traces,
        trace, State.followedBy, ← unchanged, Except.bind]
    | some path =>
      cases leads : s.files.destination path with
      | error failure =>
        simp [outcome_bind, outcome_enter, outcome_writeFile, survived, written, leads, delivery,
          delivered, receipt, traces, trace, State.followedBy, ← unchanged, Except.bind, Except.map]
      | ok location =>
        simp [outcome_bind, outcome_enter, outcome_writeFile, survived, written, leads, delivery,
          delivered, receipt, traces, trace, State.followedBy, ← unchanged, Except.bind, Except.map]

/-- A stage that fails after others that pass is the first that does, and the last that is run. -/
theorem firstFault?_eq_some (before : List Stage) {after : List Stage} {stage : Stage}
    {failure : Failure} (order : Stage.all = before ++ stage :: after)
    (pass : ∀ earlier ∈ before, plan.fault? host earlier = none)
    (fails : plan.fault? host stage = some failure) :
    plan.firstFault? host = some (stage, failure) ∧
      plan.stagesRun host = before ++ [stage] := by
  have first : plan.firstFault? host = some (stage, failure) := by
    have none : before.findSome? (fun stage => (plan.fault? host stage).map (stage, ·)) = none :=
      List.findSome?_eq_none_iff.mpr fun earlier inside => by rw [pass earlier inside, Option.map_none]
    rw [firstFault?, order, List.findSome?_append, none, List.findSome?_cons, fails]
    rfl
  refine ⟨first, ?_⟩
  have passing : ∀ earlier ∈ before, (plan.fault? host earlier).isNone = true :=
    fun earlier inside => by rw [pass earlier inside, Option.isNone_none]
  rw [stagesRun, first, order, List.takeWhile_append_of_pos passing,
    List.takeWhile_cons_of_neg (by simp [fails]), List.append_nil]
  rfl

theorem fault?_of_firstFault? {stage : Stage} {failure : Failure}
    (first : plan.firstFault? host = some (stage, failure)) :
    plan.fault? host stage = some failure := by
  obtain ⟨other, -, found⟩ := List.exists_of_findSome?_eq_some first
  obtain ⟨_, found, same⟩ := Option.map_eq_some_iff.mp found
  cases same
  exact found

theorem firstFault?_eq_none (pass : ∀ stage ∈ Stage.all, plan.fault? host stage = none) :
    plan.firstFault? host = none ∧ plan.stagesRun host = Stage.all := by
  have none : plan.firstFault? host = none :=
    List.findSome?_eq_none_iff.mpr fun stage inside => by rw [pass stage inside, Option.map_none]
  have passing : ∀ stage ∈ Stage.all, (plan.fault? host stage).isNone = true :=
    fun stage inside => by rw [pass stage inside, Option.isNone_none]
  refine ⟨none, ?_⟩
  rw [stagesRun, none, List.takeWhile_eq_self_iff.mpr passing]
  rfl

theorem traces_append (before after : List Stage) (s : Session.State) :
    plan.traces host (before ++ after) s = plan.traces host after (plan.traces host before s) :=
  List.foldl_append

theorem files_traces (stages : List Stage) (s : Session.State) :
    (plan.traces host stages s).files = s.files := by
  induction stages generalizing s with
  | nil => rfl
  | cons stage rest ih => exact ih _

theorem stdout_traces (stages : List Stage) (s : Session.State) :
    (plan.traces host stages s).stdout = s.stdout := by
  induction stages generalizing s with
  | nil => rfl
  | cons stage rest ih => exact ih _

/-- How a run ends that began in a state: a stage before the last is the first that fails, or all
    these pass and the last decides whether the text is delivered. In both cases the run leaves the
    traces of the stages that were run. -/
inductive Ends (plan : Plan) (host : Host) (s : Session.State) :
    Except Failure Unit × Session.State → Prop where
  | early {stage : Stage} {failure : Failure}
      (first : plan.firstFault? host = some (stage, failure)) (early : stage ≠ .writing) :
      Ends plan host s (.error failure, plan.traces host (plan.stagesRun host) s)
  | late {header : Header} {text : String}
      (last : plan.firstFault? host = (failureOf (plan.delivery host)).map (.writing, ·))
      (taken : plan.stagesRun host = Stage.all)
      (parsed : host.parsedHeader plan.input = .ok header)
      (made : plan.bindingsText host header = .ok text) :
      Ends plan host s (plan.delivery host,
        plan.delivered host text
          (plan.traces host [.template, .searchList, .reading, .parsing, .export] s))

theorem Ends.of_fault (before : List Stage) {after : List Stage} {stage : Stage}
    {failure : Failure} (order : Stage.all = before ++ stage :: after)
    (pass : ∀ earlier ∈ before, plan.fault? host earlier = none)
    (fails : plan.fault? host stage = some failure) (early : stage ≠ .writing) :
    plan.Ends host s (.error failure, plan.traces host (before ++ [stage]) s) := by
  obtain ⟨first, taken⟩ := firstFault?_eq_some before order pass fails
  rw [← taken]
  exact .early first early

theorem ends_deliver {header : Header} {text : String} (unchanged : s.files = host.files)
    (pass : ∀ stage ∈ [.template, .searchList, .reading, .parsing, .export],
      plan.fault? host stage = none)
    (parsed : host.parsedHeader plan.input = .ok header)
    (made : plan.bindingsText host header = .ok text) :
    plan.Ends host s ((plan.deliver host text).outcome
      (plan.traces host [.template, .searchList, .reading, .parsing, .export] s)) := by
  rw [outcome_deliver (by rw [files_traces, unchanged])]
  cases gone : plan.delivery host with
  | error failure =>
    have fails : plan.fault? host .writing = some failure := by simp [fault?, gone]
    obtain ⟨first, taken⟩ := firstFault?_eq_some
      [.template, .searchList, .reading, .parsing, .export] rfl pass fails
    rw [← gone]
    exact .late (by rw [first, gone]; rfl) taken parsed made
  | ok value =>
    have allPass : ∀ stage ∈ Stage.all, plan.fault? host stage = none := by
      simpa [Stage.all, fault?, gone, failureOf] using pass
    obtain ⟨none, taken⟩ := firstFault?_eq_none allPass
    rw [← gone]
    exact .late (by rw [none, gone]; rfl) taken parsed made

theorem ends_export {header : Header} (unchanged : s.files = host.files)
    (pass : ∀ stage ∈ [.template, .searchList, .reading, .parsing], plan.fault? host stage = none)
    (parsed : host.parsedHeader plan.input = .ok header) :
    plan.Ends host s
      ((do
        plan.checkNames header
        let text ← renderBindings host plan.settings header
        plan.deliver host text : Session Unit).outcome
          (plan.traces host [.template, .searchList, .reading, .parsing] s)) := by
  rw [outcome_export parsed]
  cases made : plan.bindingsText host header with
  | error failure =>
    have fails : plan.fault? host .export = some failure := by
      simp [fault?, parsed, made, failureOf, Except.toOption]
    exact .of_fault [.template, .searchList, .reading, .parsing] rfl pass fails nofun
  | ok text =>
    have passes : plan.fault? host .export = none := by
      simp [fault?, parsed, made, failureOf, Except.toOption]
    refine ends_deliver unchanged ?_ parsed made
    simpa [passes] using pass

theorem ends_loadHeader (unchanged : s.files = host.files) (present : plan.checkCompiler = .ok ())
    (template : plan.fault? host .template = none) :
    plan.Ends host s
      ((do
        let header ← loadHeader host plan.settings plan.input
        plan.checkNames header
        let text ← renderBindings host plan.settings header
        plan.deliver host text : Session Unit).outcome (plan.traces host [.template] s)) := by
  rw [outcome_bind, outcome_loadHeader present]
  cases places : plan.systemPlaces host with
  | error failure =>
    have fails : plan.fault? host .searchList = some failure := by simp [fault?, failureOf, places]
    exact .of_fault [.template] rfl (by simp [template]) fails nofun
  | ok list =>
    have searchList : plan.fault? host .searchList = none := by simp [fault?, failureOf, places]
    cases found : host.found plan.input with
    | error failure =>
      have fails : plan.fault? host .reading = some failure := by simp [fault?, failureOf, found]
      exact .of_fault [.template, .searchList] rfl (by simp [template, searchList]) fails nofun
    | ok value =>
      have reading : plan.fault? host .reading = none := by simp [fault?, failureOf, found]
      cases parsed : host.parsedHeader plan.input with
      | error failure =>
        have fails : plan.fault? host .parsing = some failure := by simp [fault?, failureOf, parsed]
        exact .of_fault [.template, .searchList, .reading] rfl
          (by simp [template, searchList, reading]) fails nofun
      | ok header =>
        have parsing : plan.fault? host .parsing = none := by simp [fault?, failureOf, parsed]
        exact ends_export unchanged (by simp [template, searchList, reading, parsing]) parsed

/-- A compiler without a value counts with the stage that asks the compiler. -/
theorem fault?_searchList_of_checkCompiler (host : Host) {failure : Failure}
    (missing : plan.checkCompiler = .error failure) :
    plan.fault? host .searchList = some failure ∧ plan.trace host .searchList = {} := by
  have needed : plan.settings.detectSystem = true ∧ .compiler ∈ plan.valueless := by
    by_contra unneeded
    simp [checkCompiler, unneeded] at missing
  simp [fault?, failureOf, systemPlaces, trace, needed, missing, Except.bind]

theorem ends_bindings (plan : Plan) (unchanged : s.files = host.files) :
    plan.Ends host s ((plan.bindings host).outcome s) := by
  have checks : plan.bindings host = (do
      enter host (.stage .template)
      plan.checkTemplate : Session Unit) >>= fun _ => (do
        plan.checkCompiler
        let header ← loadHeader host plan.settings plan.input
        plan.checkNames header
        let text ← renderBindings host plan.settings header
        plan.deliver host text : Session Unit) := by
    rw [bind_assoc]
    rfl
  rw [checks, outcome_bind, outcome_template]
  cases checked : plan.template host with
  | error failure =>
    have fails : plan.fault? host .template = some failure := by simp [fault?, failureOf, checked]
    exact .of_fault [] rfl nofun fails nofun
  | ok value =>
    have template : plan.fault? host .template = none := by simp [fault?, failureOf, checked]
    dsimp only
    cases present : plan.checkCompiler with
    | error failure =>
      obtain ⟨fails, untraced⟩ := fault?_searchList_of_checkCompiler host present
      have ends := Ends.of_fault (s := s) [.template] rfl (by simp [template]) fails nofun
      rw [traces_append] at ends
      simpa [outcome_bind, present, traces, untraced] using ends
    | ok value =>
      rw [outcome_bind]
      exact ends_loadHeader unchanged present template

end Plan

end CommandLine

end HeaderBindings
