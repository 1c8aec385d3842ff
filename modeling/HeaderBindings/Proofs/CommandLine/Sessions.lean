import HeaderBindings.CommandLine.Run
import Mathlib.Data.List.Basic

/-!
# What the parts of a session come to

Each part of a session comes to a result that the host determines, and leaves what it reported,
which programs it asked and what it wrote, also when it fails.
-/

namespace HeaderBindings

namespace Host

variable (host : Host)

/-- Whether a step gets through on the host. -/
def withstands (step : Step) : Except Failure Unit :=
  match host.breakdown? step with
  | none => .ok ()
  | some breakdown => .error (.breakdown breakdown.reason)

/-- What a step reports because the host fails in it. -/
def breakdownReport (step : Step) : List Log.Record :=
  match host.breakdown? step with
  | none => []
  | some breakdown => breakdown.reported

/-- What the compiler tells of the places where it looks for headers. -/
def searchList (compiler : String) : Except Failure (List String) :=
  if '\x00' ∈ compiler.toList then .error .nullInPath
  else (host.withstands (.stage .searchList)).bind fun _ =>
    match host.compiler with
    | .notStarted reason => .error (.compilerMissing compiler reason)
    | .finished status report =>
        if status ≠ 0 then .error (.compilerFailed compiler report) else SearchList.parse report

/-- What asking the compiler leaves. -/
def searchTrace (compiler : String) : Session.State :=
  let command := [compiler, "-E", "-xc", "-v", "-"]
  let asked : Log.Record :=
    ⟨.debug, .includes, "Detect system include paths: " ++ " ".intercalate command⟩
  if '\x00' ∈ compiler.toList then { log := [asked] }
  else
    let told : List Log.Record := match host.searchList compiler with
      | .ok places => [⟨.info, .includes, "System include paths: " ++ Text.quotedList places⟩]
      | .error _ => []
    { log := asked :: host.breakdownReport (.stage .searchList) ++ told
      compilerRuns := [command] }

/-- Whether the file of the header is found. -/
def found (path : String) : Except Failure Unit :=
  (host.withstands (.stage .reading)).bind fun _ =>
    if host.files.isReadable path then .ok () else .error (.unreadableHeader path)

/-- The header that the parser makes of a file. -/
def parsedHeader (path : String) : Except Failure Header :=
  (host.withstands (.stage .parsing)).bind fun _ =>
    match host.parsing with
    | .failed reason => .error (.unparsedHeader path reason)
    | .parsed graph root _ => .ok (graph.header root)

/-- What parsing a file leaves. -/
def parseTrace (path : String) (arguments : List String) : Session.State :=
  let told : List Log.Record := match host.withstands (.stage .parsing), host.parsing with
    | .ok _, .parsed _ _ diagnostics => diagnostics.flatMap Session.diagnosticReport
    | _, _ => []
  { log := ⟨.debug, .headers, "Parse `" ++ path ++ "` with " ++ Text.quotedList arguments⟩ ::
      host.breakdownReport (.stage .parsing) ++ told
    parses := [(path, arguments)] }

/-- The text of the bindings for a header. -/
def rendering (settings : Settings) (header : Header) : Except Failure String :=
  (host.withstands (.stage .export)).bind fun _ =>
    (generate settings header CursorGraph.rootPlace).1

/-- What making the text leaves. -/
def renderingTrace (settings : Settings) (header : Header) : Session.State :=
  { log := host.breakdownReport (.stage .export) ++
      match host.withstands (.stage .export) with
      | .ok _ => (generate settings header CursorGraph.rootPlace).2
      | .error _ => [] }

end Host

namespace FileSystem

variable {fs : FileSystem} {path text : String} {location : Location}

/-- Where a path leads if it is opened. -/
def destination (fs : FileSystem) (path : String) : Except Failure Location :=
  if '\x00' ∈ path.toList then .error .nullInPath
  else
    match fs.opening path with
    | .refused reason => .error (.unwritableFile path reason)
    | .opened location => .ok location

theorem opening_of_destination (leads : fs.destination path = .ok location) :
    fs.opening path = .opened location := by
  unfold destination at leads
  split at leads
  · cases leads
  · split at leads
    · cases leads
    · rename_i opened
      cases leads
      exact opened

theorem lookup_filter_of_ne {other : Location} (files : List (Location × String))
    (different : other ≠ location) :
    (files.filter fun (file, _) => file ≠ location).lookup other = files.lookup other := by
  induction files with
  | nil => rfl
  | cons entry rest ih =>
    obtain ⟨file, content⟩ := entry
    by_cases same : file = location
    · have apart : (other == file) = false := by simpa [same] using different
      rw [List.filter_cons_of_neg (by simpa using same), ih, List.lookup_cons, apart]
    · rw [List.filter_cons_of_pos (by simpa using same), List.lookup_cons, List.lookup_cons, ih]

/-- A text is put in its place, and every other file stays as it was. -/
theorem textAt?_put (other : Location) :
    (fs.put location text).textAt? other =
      if other = location then some text else fs.textAt? other := by
  unfold put textAt?
  rw [List.lookup_cons]
  by_cases same : other = location
  · simp [same]
  · simp only [beq_eq_false_iff_ne.mpr same, if_neg same]
    exact lookup_filter_of_ne fs.files same

end FileSystem

namespace Session

variable {α β : Type} {s : State}

/-- What a part of a session comes to, and the state that it leaves. -/
def outcome (part : Session α) (s : State) : Except Failure α × State :=
  part.run.run s

theorem outcome_bind (part : Session α) (next : α → Session β) (s : State) :
    (part >>= next).outcome s =
      match part.outcome s with
      | (.ok value, middle) => (next value).outcome middle
      | (.error failure, middle) => (.error failure, middle) := by
  rcases first : part.outcome s with ⟨result, middle⟩
  have run : StateT.run (ExceptT.run part) s = (result, middle) := first
  change StateT.run (ExceptT.run (part >>= next)) s = _
  rw [ExceptT.run_bind, StateT.run_bind, run]
  cases result <;> rfl

@[simp] theorem outcome_pure (value : α) : (pure value : Session α).outcome s = (.ok value, s) :=
  rfl

@[simp] theorem outcome_map (f : α → β) (part : Session α) :
    (f <$> part).outcome s = ((part.outcome s).1.map f, (part.outcome s).2) := by
  rw [map_eq_pure_bind, outcome_bind]
  rcases part.outcome s with ⟨result, middle⟩
  cases result <;> rfl

@[simp] theorem outcome_throw (failure : Failure) :
    (throw failure : Session α).outcome s = (.error failure, s) :=
  rfl

@[simp] theorem outcome_liftM (result : Except Failure α) :
    (liftM result : Session α).outcome s = (result, s) :=
  rfl

@[simp] theorem outcome_modify (change : State → State) :
    (modify change : Session Unit).outcome s = (.ok (), change s) :=
  rfl

@[simp] theorem outcome_get : (get : Session State).outcome s = (.ok s, s) :=
  rfl

@[simp] theorem outcome_report (records : List Log.Record) :
    (report records).outcome s = (.ok (), { s with log := s.log ++ records }) :=
  rfl

@[simp] theorem outcome_print (text : String) :
    (print text).outcome s = (.ok (), { s with stdout := s.stdout ++ text }) :=
  rfl

/-- A state after more was done, which another state tells. Nothing was done to the files and the
    standard output. -/
def State.followedBy (s t : State) : State :=
  { s with
    log := s.log ++ t.log
    compilerRuns := s.compilerRuns ++ t.compilerRuns
    parses := s.parses ++ t.parses }

@[simp] theorem State.followedBy_nothing : s.followedBy {} = s := by
  simp [followedBy]

variable (host : Host)

theorem outcome_enter (step : Step) :
    (enter host step).outcome s =
      (host.withstands step, s.followedBy { log := host.breakdownReport step }) := by
  unfold enter Host.withstands Host.breakdownReport
  cases host.breakdown? step <;> simp [outcome_bind, State.followedBy]

theorem outcome_systemPlaces (compiler : String) :
    (systemPlaces host compiler).outcome s =
      (host.searchList compiler, s.followedBy (host.searchTrace compiler)) := by
  unfold systemPlaces Host.searchTrace Host.searchList
  by_cases null : '\x00' ∈ compiler.toList
  · simp [outcome_bind, null, State.followedBy]
  · cases survived : host.withstands (.stage .searchList) with
    | error failure =>
      simp [outcome_bind, outcome_enter, null, survived, State.followedBy, Except.bind]
    | ok value =>
      cases host.compiler with
      | notStarted reason =>
        simp [outcome_bind, outcome_enter, null, survived, State.followedBy, Except.bind]
      | finished status report =>
        by_cases failed : status = 0
        · cases parses : SearchList.parse report <;>
            simp [outcome_bind, outcome_enter, null, survived, failed, parses, State.followedBy,
              Except.bind, Except.map]
        · simp [outcome_bind, outcome_enter, null, survived, failed, State.followedBy, Except.bind]

theorem outcome_parseHeader (path : String) (arguments : List String) :
    (parseHeader host path arguments).outcome s =
      let looked := s.followedBy { log := host.breakdownReport (.stage .reading) }
      match host.found path with
      | .error failure => (.error failure, looked)
      | .ok _ =>
          (host.parsedHeader path,
            looked.followedBy (host.parseTrace path ("-xc" :: arguments))) := by
  unfold parseHeader Host.found Host.parsedHeader Host.parseTrace
  cases survived : host.withstands (.stage .reading) with
  | error failure => simp [outcome_bind, outcome_enter, survived, Except.bind]
  | ok value =>
    cases host.files.isReadable path with
    | false => simp [outcome_bind, outcome_enter, survived, Except.bind]
    | true =>
      cases parsing : host.withstands (.stage .parsing) with
      | error failure =>
        simp [outcome_bind, outcome_enter, survived, parsing, State.followedBy, Except.bind]
      | ok value =>
        cases host.parsing <;>
          simp [outcome_bind, outcome_enter, survived, parsing, State.followedBy, Except.bind,
            Except.map]

theorem outcome_renderBindings (settings : Settings) (header : Header) :
    (renderBindings host settings header).outcome s =
      (host.rendering settings header, s.followedBy (host.renderingTrace settings header)) := by
  unfold renderBindings Host.rendering Host.renderingTrace
  cases survived : host.withstands (.stage .export) <;>
    simp [outcome_bind, outcome_enter, survived, State.followedBy, Except.bind]

theorem outcome_writeFile (path text : String) :
    (writeFile path text).outcome s =
      match s.files.destination path with
      | .error failure => (.error failure, s)
      | .ok location =>
          (.ok (), { s with files := s.files.put location text }.followedBy
            { log := [⟨.info, .output, "Wrote " ++ path⟩] }) := by
  unfold writeFile FileSystem.destination
  by_cases null : '\x00' ∈ path.toList
  · simp [null]
  · cases opened : s.files.opening path with
    | refused reason => simp [outcome_bind, null, opened]
    | opened location => simp [outcome_bind, null, opened, State.followedBy]

end Session

end HeaderBindings
