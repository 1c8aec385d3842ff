import HeaderBindings.Proofs.Export.Effects

/-!
# Admitted declarations

An export admits a declaration that it comes to while the name of that is not marked, and passes
over any other. Here a derivation is told together with the declarations that it admits. Each of
them is admitted once, and its name is marked from then on.
-/

namespace HeaderBindings

namespace Job

variable (job : Job)

/-- A task succeeds on one progress and leaves another, and it admits the declarations of a list, in
    the order in which their exports end. The rules are those of `Exports`. -/
inductive Admits : Task → Progress → Progress → List DeclId → Prop where
  | done {s : Progress} : Admits (.mentions []) s s []
  | next {mention : Mention} {rest : List Mention} {s s₁ s₂ : Progress}
      {admitted later : List DeclId}
      (named : (job.header.decl mention.decl).properName? = some mention.name)
      (first : Admits (.decl mention.decl) (s.said .debug
        ("Parse type: `" ++ mention.spelling ++ "` declared by `" ++ mention.name ++ "`")) s₁
        admitted)
      (others : Admits (.mentions rest) s₁ s₂ later) :
      Admits (.mentions (mention :: rest)) s s₂ (admitted ++ later)
  /-- A declaration whose name was marked before is not admitted. -/
  | known {id : DeclId} {name : String} {s : Progress}
      (named : (job.header.decl id).properName? = some name)
      (known : name ∈ s.exported) :
      Admits (.decl id) s s []
  | other {id : DeclId} {name newName : String} {s : Progress}
      (named : (job.header.decl id).properName? = some name)
      (fresh : name ∉ s.exported)
      (renamed : job.names.apply name = .ok newName)
      (kind : (job.header.decl id).kind.declaresType = false) :
      Admits (.decl id) s ((s.marked name).said .warning
        ("Unparsed type declaration " ++ (job.header.decl id).kindName ++ ": `" ++ name ++ "`")) [id]
  | enumClass {id : DeclId} {s s₁ : Progress} {opening : Opening} {constants : List Constant}
      (opens : job.Opens id s opening s₁)
      (record : opening.record = false)
      (exported : (job.childrenOfKind .enumConstant opening.target).mapM (constant opening.owner) =
        .ok constants) :
      Admits (.decl id) s
        ((s₁.said .info (Exporter.asText "Translate enum" opening.owner opening.newName)).emitted
          (.enumClass opening.target opening.newName (opening.comment.filter (· ≠ "")) constants))
        [id]
  /-- What the fields of a structure mention is admitted before the structure is. -/
  | structClass {id : DeclId} {s s₁ s₂ : Progress} {opening : Opening} {fields : List Field}
      {admitted : List DeclId}
      (opens : job.Opens id s opening s₁)
      (record : opening.record = true)
      (inside : Admits (.mentions (job.fieldMentions opening.target))
        (s₁.said .info (Exporter.asText "Translate struct" opening.owner opening.newName)) s₂
        admitted)
      (exported : List.Forall₂ (job.BecomesField s₂.given)
        (job.childrenOfKind .field opening.target) fields) :
      Admits (.decl id) s
        ((s₂.reported
            ((job.childrenOfKind .field opening.target).flatMap (job.fieldReport s₂.given))).emitted
          (.structClass opening.target opening.newName (opening.comment.filter (· ≠ "")) fields))
        (admitted ++ [id])
  | otherName {id : DeclId} {name newName existing : String} {underlying : CType} {record : Bool}
      {target : DeclId} {s : Progress}
      (named : (job.header.decl id).properName? = some name)
      (fresh : name ∉ s.exported)
      (renamed : job.names.apply name = .ok newName)
      (kind : (job.header.decl id).kind = .typedef)
      (names : (job.header.decl id).underlying = some underlying)
      (tagged : tagTarget? underlying = some (record, target))
      (known : job.existing? s target = some existing) :
      Admits (.decl id) s
        ((((s.marked name).said .info
            (Exporter.asText "Translate typedef alias" name newName)).named name newName).emitted
          (.alias newName existing ((typedefComment (job.header.decl id)
            (job.header.decl target)).filter (· ≠ "")))) [id]
  | callback {id : DeclId} {name newName : String} {underlying prototype : CType}
      {s s₁ : Progress} {admitted : List DeclId}
      (named : (job.header.decl id).properName? = some name)
      (fresh : name ∉ s.exported)
      (renamed : job.names.apply name = .ok newName)
      (kind : (job.header.decl id).kind = .typedef)
      (names : (job.header.decl id).underlying = some underlying)
      (untagged : tagTarget? underlying = none)
      (calls : callbackPrototype? underlying = some prototype)
      (inside : Admits (.mentions (job.header.prototypeMentions prototype))
        ((s.marked name).said .info
          (Exporter.asText "Translate typedef callback" name newName)) s₁ admitted) :
      Admits (.decl id) s
        (((s₁.reported (job.header.bindPrototypeReport s₁.given prototype)).emitted
            (.callback newName (job.header.bindPrototype s₁.given prototype (some name)
              (job.header.decl id).comment))).calledBack newName
          (job.header.bindPrototype s₁.given prototype (some name) (job.header.decl id).comment))
        (admitted ++ [id])
  | plain {id : DeclId} {name newName : String} {underlying : CType} {record : Log.Record}
      {s s₁ : Progress} {admitted : List DeclId}
      (named : (job.header.decl id).properName? = some name)
      (fresh : name ∉ s.exported)
      (renamed : job.names.apply name = .ok newName)
      (kind : (job.header.decl id).kind = .typedef)
      (names : (job.header.decl id).underlying = some underlying)
      (untagged : tagTarget? underlying = none)
      (uncalled : callbackPrototype? underlying = none)
      (inside : Admits (.mentions (job.header.mentions underlying)) (s.marked name) s₁ admitted)
      (quiet : record.level ≠ .error) :
      Admits (.decl id) s (s₁.reported [record]) (admitted ++ [id])

variable {job} {s s₁ s₂ s' : Progress} {admitted later : List DeclId}

theorem Admits.exports {task : Task} (admits : job.Admits task s s' admitted) :
    job.Exports task s s' := by
  induction admits with
  | done => exact .done
  | next named first others ihFirst ihOthers => exact .next named ihFirst ihOthers
  | known named known => exact .known named known
  | other named fresh renamed kind => exact .other named fresh renamed kind
  | enumClass opens record exported => exact .enumClass opens record exported
  | structClass opens record inside exported ih => exact .structClass opens record ih exported
  | otherName named fresh renamed kind names tagged known =>
    exact .otherName named fresh renamed kind names tagged known
  | callback named fresh renamed kind names untagged calls inside ih =>
    exact .callback named fresh renamed kind names untagged calls ih
  | plain named fresh renamed kind names untagged uncalled inside quiet ih =>
    exact .plain named fresh renamed kind names untagged uncalled ih quiet

/-- Every export admits some declarations. -/
theorem Exports.admits {task : Task} (exports : job.Exports task s s') :
    ∃ admitted, job.Admits task s s' admitted := by
  induction exports with
  | done => exact ⟨[], .done⟩
  | next named first others ihFirst ihOthers =>
    obtain ⟨_, admits⟩ := ihFirst
    obtain ⟨_, admitsOthers⟩ := ihOthers
    exact ⟨_, .next named admits admitsOthers⟩
  | known named known => exact ⟨_, .known named known⟩
  | other named fresh renamed kind => exact ⟨_, .other named fresh renamed kind⟩
  | enumClass opens record exported => exact ⟨_, .enumClass opens record exported⟩
  | structClass opens record inside exported ih =>
    obtain ⟨_, admits⟩ := ih
    exact ⟨_, .structClass opens record admits exported⟩
  | otherName named fresh renamed kind names tagged known =>
    exact ⟨_, .otherName named fresh renamed kind names tagged known⟩
  | callback named fresh renamed kind names untagged calls inside ih =>
    obtain ⟨_, admits⟩ := ih
    exact ⟨_, .callback named fresh renamed kind names untagged calls admits⟩
  | plain named fresh renamed kind names untagged uncalled inside quiet ih =>
    obtain ⟨_, admits⟩ := ih
    exact ⟨_, .plain named fresh renamed kind names untagged uncalled admits quiet⟩

variable (job) in
/-- Declarations are admitted once each, under names that were not marked and now are. -/
structure AdmitsNew (s s' : Progress) (admitted : List DeclId) : Prop where
  isNew : ∀ id ∈ admitted, ∃ name, (job.header.decl id).properName? = some name ∧
    name ∉ s.exported ∧ name ∈ s'.exported
  distinct : admitted.Pairwise fun id other =>
    (job.header.decl id).properName? ≠ (job.header.decl other).properName?

namespace AdmitsNew

theorem nil : job.AdmitsNew s s' [] where
  isNew := nofun
  distinct := .nil

theorem append (first : job.AdmitsNew s s₁ admitted) (second : job.AdmitsNew s₁ s₂ later)
    (grows : ∀ name ∈ s.exported, name ∈ s₁.exported)
    (growsAgain : ∀ name ∈ s₁.exported, name ∈ s₂.exported) :
    job.AdmitsNew s s₂ (admitted ++ later) where
  isNew id inside := by
    rcases List.mem_append.mp inside with before | after
    · obtain ⟨name, named, fresh, marked⟩ := first.isNew id before
      exact ⟨name, named, fresh, growsAgain name marked⟩
    · obtain ⟨name, named, fresh, marked⟩ := second.isNew id after
      exact ⟨name, named, fun before => fresh (grows name before), marked⟩
  distinct := by
    refine List.pairwise_append.mpr ⟨first.distinct, second.distinct, fun id before other after => ?_⟩
    obtain ⟨name, named, -, marked⟩ := first.isNew id before
    obtain ⟨otherName, namedOther, fresh, -⟩ := second.isNew other after
    rw [named, namedOther]
    rintro ⟨⟩
    exact fresh marked

/-- A declaration is admitted after those that its export admits with its name marked already. -/
theorem around {id : DeclId} {name : String} (named : (job.header.decl id).properName? = some name)
    (fresh : name ∉ s.exported) (grows : ∀ name ∈ s.exported, name ∈ s₁.exported)
    (marks : name ∈ s₁.exported) (inside : job.AdmitsNew s₁ s₂ admitted)
    (growsAgain : ∀ name ∈ s₁.exported, name ∈ s₂.exported) :
    job.AdmitsNew s s₂ (admitted ++ [id]) where
  isNew other isAdmitted := by
    rcases List.mem_append.mp isAdmitted with before | last
    · obtain ⟨otherName, namedOther, fresh, marked⟩ := inside.isNew other before
      exact ⟨otherName, namedOther, fun before => fresh (grows _ before), marked⟩
    · rw [List.mem_singleton.mp last]
      exact ⟨name, named, fresh, growsAgain name marks⟩
  distinct := by
    refine List.pairwise_append.mpr ⟨inside.distinct, List.pairwise_singleton _ _, ?_⟩
    intro other before last isLast
    obtain ⟨otherName, namedOther, fresh, -⟩ := inside.isNew other before
    rw [List.mem_singleton.mp isLast, named, namedOther]
    rintro ⟨⟩
    exact fresh marks

theorem single {id : DeclId} {name : String}
    (named : (job.header.decl id).properName? = some name) (fresh : name ∉ s.exported)
    (marks : name ∈ s'.exported) : job.AdmitsNew s s' [id] where
  isNew other inside := by
    rw [List.mem_singleton.mp inside]
    exact ⟨name, named, fresh, marks⟩
  distinct := List.pairwise_singleton _ _

end AdmitsNew

theorem Admits.isNew {task : Task} (admits : job.Admits task s s' admitted) :
    job.AdmitsNew s s' admitted := by
  induction admits with
  | done | known => exact .nil
  | next named first others ihFirst ihOthers =>
    exact AdmitsNew.append ⟨ihFirst.isNew, ihFirst.distinct⟩ ihOthers first.exports.exported
      others.exports.exported
  | other named fresh | otherName named fresh => exact .single named fresh List.mem_cons_self
  | enumClass opens =>
    obtain ⟨name, named, fresh⟩ := opens.exists_fresh
    exact .single named fresh (opens.marks named)
  | structClass opens record inside exported ih =>
    obtain ⟨name, named, fresh⟩ := opens.exists_fresh
    have admits := AdmitsNew.around named fresh opens.exported (opens.marks named)
      ⟨ih.isNew, ih.distinct⟩ inside.exports.exported
    exact ⟨admits.isNew, admits.distinct⟩
  | callback named fresh renamed kind names untagged calls inside ih =>
    have admits := AdmitsNew.around named fresh (fun _ => List.mem_cons_of_mem _) List.mem_cons_self
      ⟨ih.isNew, ih.distinct⟩ inside.exports.exported
    exact ⟨admits.isNew, admits.distinct⟩
  | plain named fresh renamed kind names untagged uncalled inside quiet ih =>
    have admits := AdmitsNew.around named fresh (fun _ => List.mem_cons_of_mem _) List.mem_cons_self
      ⟨ih.isNew, ih.distinct⟩ inside.exports.exported
    exact ⟨admits.isNew, admits.distinct⟩

end Job

end HeaderBindings
