import HeaderBindings.Proofs.CommandLine.Stages
import HeaderBindings.Proofs.Template.Validation

/-!
# Exit statuses

The failure of a stage has the exit status of the stage, unless the stage came upon something that
the program does not deal with: a text that cannot be used, or a failure of the host.
-/

namespace HeaderBindings

theorem SearchList.kind_of_placesUntilEnd {lines : List (List Char)} {failure : Failure}
    (fails : placesUntilEnd lines = .error failure) : failure.kind = .includeDetection := by
  induction lines with
  | nil =>
    cases fails
    rfl
  | cons line rest ih =>
    unfold placesUntilEnd at fails
    split at fails
    · cases fails
    · cases places : placesUntilEnd rest with
      | error other =>
        rw [places] at fails
        cases fails
        exact ih places
      | ok found =>
        rw [places] at fails
        cases fails

theorem SearchList.kind_of_parse {report : String} {failure : Failure}
    (fails : parse report = .error failure) : failure.kind = .includeDetection := by
  unfold parse at fails
  split at fails
  · cases fails
    rfl
  · exact kind_of_placesUntilEnd fails

namespace Host

variable {host : Host}

/-- Whether the host fails in a step. -/
def Fails (host : Host) (step : Step) : Prop :=
  ∃ breakdown, host.breakdown? step = some breakdown

/-- What comes after a step fails because of the host, or by itself. -/
theorem fails_cases {α : Type} {step : Step} {next : Unit → Except Failure α} {failure : Failure}
    (fails : (host.withstands step).bind next = .error failure) :
    failure.kind = .unusableText ∧ host.Fails step ∨
      ¬ host.Fails step ∧ next () = .error failure := by
  unfold withstands at fails
  unfold Fails
  cases broken : host.breakdown? step with
  | none =>
    rw [broken] at fails
    exact .inr ⟨nofun, fails⟩
  | some breakdown =>
    rw [broken] at fails
    cases fails
    exact .inl ⟨rfl, breakdown, rfl⟩

theorem withstands_of_ok {α : Type} {step : Step} {next : Unit → Except Failure α} {value : α}
    (passes : (host.withstands step).bind next = .ok value) :
    host.withstands step = .ok () ∧ next () = .ok value := by
  cases survived : host.withstands step with
  | error failure =>
    rw [survived] at passes
    cases passes
  | ok value =>
    rw [survived] at passes
    exact ⟨rfl, passes⟩

theorem searchList_fails {compiler : String} {failure : Failure}
    (fails : host.searchList compiler = .error failure) :
    failure.kind = .unusableText ∧
        ('\x00' ∈ compiler.toList ∨ host.Fails (.stage .searchList)) ∨
      failure.kind = .includeDetection ∧
        ¬ ('\x00' ∈ compiler.toList ∨ host.Fails (.stage .searchList)) := by
  unfold searchList at fails
  split at fails
  · rename_i null
    cases fails
    exact .inl ⟨rfl, .inl null⟩
  · rename_i clean
    rcases fails_cases fails with ⟨kind, broken⟩ | ⟨whole, refused⟩
    · exact .inl ⟨kind, .inr broken⟩
    · refine .inr ⟨?_, not_or.mpr ⟨clean, whole⟩⟩
      split at refused
      · cases refused
        rfl
      · split at refused
        · cases refused
          rfl
        · exact SearchList.kind_of_parse refused

end Host

/-- With a template that can be compiled, generating fails only because of the template's expansion
    or of the header. -/
theorem kind_of_generate {settings : Settings} {header : Header} {root : DeclId}
    {converted : String} {failure : Failure}
    (compiles : Template.compile settings.pattern settings.template = .ok converted)
    (fails : (generate settings header root).1 = .error failure) :
    failure.kind = .generation ∨ failure.kind = .malformed := by
  have names : Renaming.ofTemplate settings.pattern settings.template =
      .ok ⟨settings.pattern, converted⟩ := by
    rw [Renaming.ofTemplate, compiles]
    rfl
  have failed : ((Job.exportHeader ⟨header, ⟨settings.pattern, converted⟩⟩ settings.className
      root).outcome {}).1 = .error failure := by
    unfold generate at fails
    rw [names] at fails
    simp only at fails
    split at fails
    · cases fails
    · rename_i other progress ends
      cases fails
      exact congrArg Prod.fst ends
  cases Job.cause_of_exportHeader failed with
  | template fails => exact .inl rfl
  | _ => exact .inr rfl

namespace CommandLine.Plan

variable {plan : Plan} {host : Host}

/-- Whether checking the template comes upon a text that cannot be used. -/
def UnusableTemplate (plan : Plan) : Prop :=
  .replacement ∈ plan.valueless ∨
  .names ∈ plan.valueless ∧
    Template.references (Template.convert plan.settings.template).toList ≠ [] ∨
  ∃ reference, Template.firstUndefined? plan.settings.pattern plan.settings.template =
    some reference ∧ Template.Unreadable reference

/-- Whether a stage comes upon something that the program does not deal with: a text that cannot be
    used, or a failure of the host. -/
def Unhandled (plan : Plan) (host : Host) : Stage → Prop
  | .template => host.Fails (.stage .template) ∨ plan.UnusableTemplate
  | .searchList =>
      plan.settings.detectSystem ∧
        (.compiler ∈ plan.valueless ∨ '\x00' ∈ plan.settings.compiler.toList ∨
          host.Fails (.stage .searchList))
  | .reading => host.Fails (.stage .reading)
  | .parsing => host.Fails (.stage .parsing)
  | .export =>
      (.names ∈ plan.valueless ∧ ∃ header, host.parsedHeader plan.input = .ok header ∧
        asksForNames header CursorGraph.rootPlace) ∨
      host.Fails (.stage .export)
  | .writing =>
      host.Fails (.stage .writing) ∨ ∃ path, plan.output = some path ∧ '\x00' ∈ path.toList

/-- How a failure comes about: by something that the program does not deal with, or else with a
    status. -/
def Explained (failure : Failure) (unhandled : Prop) (status : Nat) : Prop :=
  failure.kind = .unusableText ∧ unhandled ∨
    failure.kind ≠ .unusableText ∧ failure.kind.exitStatus = status ∧ ¬ unhandled

/-- How the failure of a stage comes about. -/
def Explains (plan : Plan) (host : Host) (stage : Stage) (failure : Failure) : Prop :=
  Explained failure (plan.Unhandled host stage) stage.exitStatus

theorem checkTemplate_of_replacement (missing : .replacement ∈ plan.valueless) :
    plan.checkTemplate = .error (failureWithout .replacement) := by
  unfold checkTemplate
  rw [if_pos missing]
  rfl

theorem checkTemplate_of_names (given : .replacement ∉ plan.valueless)
    (missing : .names ∈ plan.valueless) :
    plan.checkTemplate =
      match Template.references (Template.convert plan.settings.template).toList with
      | [] => .ok ()
      | reference :: _ =>
          (Template.defines plan.settings.pattern reference).bind fun _ =>
            .error (failureWithout .names) := by
  unfold checkTemplate
  rw [if_neg given]
  simp only [if_pos missing]
  cases Template.references (Template.convert plan.settings.template).toList with
  | nil => rfl
  | cons reference rest =>
    dsimp only
    cases Template.defines plan.settings.pattern reference <;> rfl

theorem checkTemplate_of_given (given : .replacement ∉ plan.valueless)
    (named : .names ∉ plan.valueless) :
    plan.checkTemplate =
      (Template.compile plan.settings.pattern plan.settings.template).map fun _ => () := by
  unfold checkTemplate
  rw [if_neg given]
  simp only [if_neg named]
  cases Template.compile plan.settings.pattern plan.settings.template <;> rfl

/-- The template passes its check, and then it can be compiled, or the failure of the check is
    explained. -/
def TemplateSettled (plan : Plan) : Prop :=
  plan.checkTemplate = .ok () ∧
      (∃ converted,
        Template.compile plan.settings.pattern plan.settings.template = .ok converted) ∨
    ∃ failure, plan.checkTemplate = .error failure ∧
      Explained failure plan.UnusableTemplate Stage.template.exitStatus

theorem templateSettled_of_names (given : .replacement ∉ plan.valueless)
    (missing : .names ∈ plan.valueless) : plan.TemplateSettled := by
  unfold TemplateSettled
  rw [checkTemplate_of_names given missing]
  cases references : Template.references (Template.convert plan.settings.template).toList with
  | nil =>
    have all : Template.firstUndefined? plan.settings.pattern plan.settings.template = none := by
      simp [Template.firstUndefined?, references]
    rcases Template.compile_cases plan.settings.pattern plan.settings.template with
      ⟨compiles, -⟩ | ⟨reference, first, -⟩
    · exact .inl ⟨rfl, _, compiles⟩
    · rw [all] at first
      cases first
  | cons reference rest =>
    have unusable : plan.UnusableTemplate := .inr (.inl ⟨missing, by simp [references]⟩)
    dsimp only
    rcases Template.defines_cases plan.settings.pattern reference with
      ⟨defined, found, -⟩ | ⟨failure, fails, kind, -⟩
    · rw [found]
      exact .inr ⟨_, rfl, .inl ⟨rfl, unusable⟩⟩
    · rw [fails]
      exact .inr ⟨_, rfl, .inl ⟨kind, unusable⟩⟩

theorem templateSettled_of_given (given : .replacement ∉ plan.valueless)
    (named : .names ∉ plan.valueless) : plan.TemplateSettled := by
  unfold TemplateSettled
  rw [checkTemplate_of_given given named]
  rcases Template.compile_cases plan.settings.pattern plan.settings.template with
    ⟨compiles, -⟩ | ⟨reference, first, ⟨readable, fails⟩ | ⟨unreadable, failure, kind, fails⟩⟩
  · rw [compiles]
    exact .inl ⟨rfl, _, rfl⟩
  · have usable : ¬ plan.UnusableTemplate := by
      rintro (missing | ⟨missing, -⟩ | ⟨other, same, unreadable⟩)
      · exact given missing
      · exact named missing
      · cases first.symm.trans same
        exact readable unreadable
    rw [fails]
    exact .inr ⟨_, rfl, .inr ⟨nofun, rfl, usable⟩⟩
  · rw [fails]
    exact .inr ⟨_, rfl, .inl ⟨kind, .inr (.inr ⟨_, first, unreadable⟩)⟩⟩

theorem templateSettled (plan : Plan) : plan.TemplateSettled := by
  by_cases missing : .replacement ∈ plan.valueless
  · exact .inr ⟨_, checkTemplate_of_replacement missing, .inl ⟨rfl, .inl missing⟩⟩
  · by_cases names : .names ∈ plan.valueless
    · exact templateSettled_of_names missing names
    · exact templateSettled_of_given missing names

theorem explains_template {failure : Failure} (fails : plan.template host = .error failure) :
    plan.Explains host .template failure := by
  rcases Host.fails_cases fails with ⟨kind, broken⟩ | ⟨whole, refused⟩
  · exact .inl ⟨kind, .inl broken⟩
  · rcases templateSettled plan with ⟨passes, -⟩ | ⟨other, same, explained⟩
    · rw [passes] at refused
      cases refused
    · cases same.symm.trans refused
      exact explained.imp (fun ⟨kind, unusable⟩ => ⟨kind, .inr unusable⟩)
        fun ⟨kind, status, usable⟩ => ⟨kind, status, not_or.mpr ⟨whole, usable⟩⟩

theorem compiles_of_template (passes : plan.template host = .ok ()) :
    ∃ converted, Template.compile plan.settings.pattern plan.settings.template = .ok converted := by
  have checked := (Host.withstands_of_ok passes).2
  rcases templateSettled plan with ⟨-, compiles⟩ | ⟨other, fails, -⟩
  · exact compiles
  · rw [fails] at checked
    cases checked

theorem explains_searchList {failure : Failure}
    (fails : plan.systemPlaces host = .error failure) :
    plan.Explains host .searchList failure := by
  unfold systemPlaces at fails
  split at fails
  · rename_i detects
    by_cases missing : .compiler ∈ plan.valueless
    · have stops : plan.checkCompiler = .error (failureWithout .compiler) := by
        simp [checkCompiler, detects, missing]
      rw [stops] at fails
      cases fails
      exact .inl ⟨rfl, detects, .inl missing⟩
    · have passes : plan.checkCompiler = .ok () := by simp [checkCompiler, missing]
      rw [passes] at fails
      rcases Host.searchList_fails fails with ⟨kind, unhandled⟩ | ⟨kind, handled⟩
      · exact .inl ⟨kind, detects, .inr unhandled⟩
      · refine .inr ⟨by simp [kind], by rw [kind]; rfl, ?_⟩
        rintro ⟨-, missing' | unhandled⟩
        · exact missing missing'
        · exact handled unhandled
  · cases fails

theorem explains_reading {failure : Failure} (fails : host.found plan.input = .error failure) :
    plan.Explains host .reading failure := by
  rcases Host.fails_cases fails with ⟨kind, broken⟩ | ⟨whole, refused⟩
  · exact .inl ⟨kind, broken⟩
  · split at refused
    · cases refused
    · cases refused
      exact .inr ⟨nofun, rfl, whole⟩

theorem explains_parsing {failure : Failure}
    (fails : host.parsedHeader plan.input = .error failure) :
    plan.Explains host .parsing failure := by
  rcases Host.fails_cases fails with ⟨kind, broken⟩ | ⟨whole, refused⟩
  · exact .inl ⟨kind, broken⟩
  · split at refused
    · cases refused
      exact .inr ⟨nofun, rfl, whole⟩
    · cases refused

theorem explains_export {header : Header} {converted : String} {failure : Failure}
    (compiles : Template.compile plan.settings.pattern plan.settings.template = .ok converted)
    (parsed : host.parsedHeader plan.input = .ok header)
    (fails : plan.bindingsText host header = .error failure) :
    plan.Explains host .export failure := by
  by_cases asks : .names ∈ plan.valueless ∧ asksForNames header CursorGraph.rootPlace
  · have stops : plan.checkNames header = .error (failureWithout .names) := by
      simp [checkNames, asks]
    rw [bindingsText, stops] at fails
    cases fails
    exact .inl ⟨rfl, .inl ⟨asks.1, header, parsed, asks.2⟩⟩
  · have passes : plan.checkNames header = .ok () := by simpa [checkNames] using asks
    rw [bindingsText, passes] at fails
    rcases Host.fails_cases fails with ⟨kind, broken⟩ | ⟨whole, refused⟩
    · exact .inl ⟨kind, .inr broken⟩
    · have handled : ¬ plan.Unhandled host .export := by
        rintro (⟨missing, other, same, wanted⟩ | broken)
        · cases parsed.symm.trans same
          exact asks ⟨missing, wanted⟩
        · exact whole broken
      rcases kind_of_generate compiles refused with kind | kind
      all_goals exact .inr ⟨by simp [kind], by rw [kind]; rfl, handled⟩

theorem destination_fails {path : String} {failure : Failure}
    (fails : host.files.destination path = .error failure) :
    failure.kind = .unusableText ∧ '\x00' ∈ path.toList ∨
      failure.kind = .inputOutput ∧ '\x00' ∉ path.toList := by
  unfold FileSystem.destination at fails
  split at fails
  · rename_i null
    cases fails
    exact .inl ⟨rfl, null⟩
  · rename_i clean
    split at fails
    · cases fails
      exact .inr ⟨rfl, clean⟩
    · cases fails

theorem explains_writing {failure : Failure} (fails : plan.delivery host = .error failure) :
    plan.Explains host .writing failure := by
  rcases Host.fails_cases fails with ⟨kind, broken⟩ | ⟨whole, refused⟩
  · exact .inl ⟨kind, .inl broken⟩
  · cases named : plan.output with
    | none => simp [named] at refused
    | some path =>
      simp only [named] at refused
      cases leads : host.files.destination path with
      | ok location => simp [leads, Except.map] at refused
      | error other =>
        rw [leads] at refused
        cases refused
        rcases destination_fails leads with ⟨kind, null⟩ | ⟨kind, clean⟩
        · exact .inl ⟨kind, .inr ⟨path, named, null⟩⟩
        · refine .inr ⟨by simp [kind], by rw [kind]; rfl, ?_⟩
          rintro (broken | ⟨other, same, null⟩)
          · exact whole broken
          · cases named.symm.trans same
            exact clean null

/-- The failure of a stage comes about as the stage explains, when the template has passed. -/
theorem explains_of_fault? {stage : Stage} {failure : Failure}
    (passes : plan.template host = .ok ()) (found : plan.fault? host stage = some failure) :
    plan.Explains host stage failure := by
  obtain ⟨converted, compiles⟩ := compiles_of_template passes
  cases stage with
  | template => exact explains_template (by simpa [fault?] using found)
  | searchList => exact explains_searchList (by simpa [fault?] using found)
  | reading => exact explains_reading (by simpa [fault?] using found)
  | parsing => exact explains_parsing (by simpa [fault?] using found)
  | «export» =>
    cases parsed : host.parsedHeader plan.input with
    | error other => simp [fault?, parsed, Except.toOption] at found
    | ok header =>
      have fails : plan.bindingsText host header = .error failure := by
        simpa [fault?, parsed, Except.toOption] using found
      exact explains_export compiles parsed fails
  | writing => exact explains_writing (by simpa [fault?] using found)

theorem explains_of_firstFault? {stage : Stage} {failure : Failure}
    (first : plan.firstFault? host = some (stage, failure)) :
    plan.Explains host stage failure := by
  cases checked : plan.template host with
  | ok value => exact explains_of_fault? checked (fault?_of_firstFault? first)
  | error other =>
    have template : plan.fault? host .template = some other := by simp [fault?, checked]
    obtain ⟨same, -⟩ := firstFault?_eq_some [] rfl (by simp) template
    cases same.symm.trans first
    exact explains_template checked

end CommandLine.Plan

end HeaderBindings
