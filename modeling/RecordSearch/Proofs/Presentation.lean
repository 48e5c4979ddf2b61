import RecordSearch.Proofs.Search
import RecordSearch.Proofs.Tasks

/-! What the tool answers, however it is shown.

    A command says things, and only then is it decided which of them are shown, where and in what
    form. So whether it succeeds does not depend on that. What is let through:

                       people      programs      nobody
        result         as text     a document    -
        beside it      yes         -             -
        asides         on the error stream       -

    A command that fails has said nothing but asides, and a command that succeeds has shown exactly
    one result. So a program gets one document or nothing, and the document is determined by what is
    asked for, the settings, and the files. -/

namespace RecordSearch

open Json

/-! ### Documents of results -/

theorem User.lossless_encode (u : User) : (UserResponse.encode u.response).lossless = true := by
  -- the returned form has the members of the stored one, the mail address before the name
  have perm : List.Perm _ (codec.members u) := .cons _ (.swap _ _ _)
  refine losslessMembers_iff.2 fun m member => ?_
  exact (stores_members u m (perm.mem_iff.1 member)).lossless

/-- Contacts hold values of the declared kinds. -/
theorem Contact.conforms (c : Contact) : shape.schema.Conforms c := by
  simp only [Schema.Conforms, shape, List.forall_mem_cons]
  exact ⟨rfl, rfl, rfl, rfl, rfl, fun f hf => absurd hf List.not_mem_nil⟩

theorem Contact.lossless_encode (c : Contact) :
    (ContactResponse.encode c.response).lossless = true :=
  losslessMembers_iff.2 fun m member => (stores_members c m member).lossless

/-- Page and page size are numbers of 64 bits. -/
theorem Pager.windowOrDefault_le (pager : Pager) (page pageSize : Option Int64) :
    let w := (pager.windowOrDefault (page.map Int64.toInt) (pageSize.map Int64.toInt)).value
    w.page ≤ wordLimit ∧ w.pageSize ≤ wordLimit := by
  have bounds := pager.bounds
  rw [value_windowOrDefault]
  simp only [wordLimit, clamp]
  rw [maxPageSize] at bounds
  refine ⟨?_, by omega⟩
  cases page with
  | none => simp
  | some n =>
    have high := n.toInt_lt
    simp only [Option.map_some, Option.getD_some]
    omega

namespace Console

namespace Listing

variable {ρ δ τ : Type} {l : Listing ρ δ τ}

/-- The document of a page is what its text says, if this is so of its items. -/
theorem lossless_find {pager : Pager} {records : List ρ} {r : Request δ} {page : ResultPage τ}
    (items : ∀ a, (l.document (l.returned a)).lossless = true)
    (counted : records.length ≤ countLimit) (found : l.find pager records r = some page) :
    (page.encode l.document).lossless = true := by
  have number (n : Nat) (small : n ≤ wordLimit) : (integer n).lossless = true :=
    lossless_integer.2 ⟨by omega, by omega⟩
  obtain ⟨low, high⟩ := pager.windowOrDefault_le r.page r.pageSize
  rw [find, value_search_ofList, planRequest_eq] at found
  obtain ⟨shown, -, rfl⟩ := Option.map_eq_some_iff.1 found
  refine losslessMembers_iff.2 ?_
  rw [ResultPage.members]
  simp only [List.forall_mem_cons, List.not_mem_nil, false_imp_iff, implies_true, and_true]
  refine ⟨?_, ?_, ?_, ?_⟩
  · refine losslessItems_iff.2 fun v member => ?_
    obtain ⟨t, found, rfl⟩ := List.mem_map.1 member
    obtain ⟨a, -, rfl⟩ := List.mem_map.1 found
    exact items a
  · exact number _ (Nat.le_trans List.countP_le_length counted)
  · exact number _ low
  · exact number _ high

end Listing

theorem lossless_shapeSheet (s : ShapeInfo) : (shapeSheet s).document.lossless = true := by
  have sort : (Json.ofOption text s.defaultSort).lossless = true :=
    (plain_ofOption plain_text s.defaultSort).lossless
  refine losslessMembers_iff.2 ?_
  simp only [List.forall_mem_cons, List.not_mem_nil, false_imp_iff, implies_true, and_true]
  refine ⟨rfl, sort, losslessItems_iff.2 fun v member => ?_⟩
  obtain ⟨f, -, rfl⟩ := List.mem_map.1 member
  rfl

theorem lossless_shapesSheet : (shapesSheet registry.shapes).document.lossless = true := by
  decide

/-! ### Messages around a result -/

namespace Message

/-- Whether a message only stands beside a result. -/
def isBeside : Message → Bool
  | success _ | result _ => false
  | _ => true

theorem isBeside_of_isAside {m : Message} (aside : m.isAside = true) : m.isBeside = true := by
  cases m with
  | warning | progress => rfl
  | _ => cases aside

/-- Messages with one result, of which this is the document. -/
def Present (ms : List Message) (doc : Json) : Prop :=
  ∃ before sheet behind, ms = before ++ result sheet :: behind ∧ sheet.document = doc ∧
    (∀ m ∈ before, m.isBeside = true) ∧ ∀ m ∈ behind, m.isBeside = true

variable {ms asides : List Message} {doc : Json} {p : Presentation}

theorem Present.append (h : Present ms doc) (aside : ∀ m ∈ asides, m.isAside = true) :
    Present (asides ++ ms) doc := by
  obtain ⟨before, sheet, behind, rfl, same, front, back⟩ := h
  refine ⟨asides ++ before, sheet, behind, by rw [List.append_assoc], same, ?_, back⟩
  exact List.forall_mem_append.2 ⟨fun m member => isBeside_of_isAside (aside m member), front⟩

/-- What stands beside a result is not for programs. -/
theorem output_of_isBeside (program : p.human = false) (beside : ∀ m ∈ ms, m.isBeside = true) :
    output p ms = [] := by
  rw [output, List.map_eq_nil_iff, List.filter_eq_nil_iff]
  intro m member
  have beside := beside m member
  cases m with
  | success | result => cases beside
  | warning | progress => simp [isAside]
  | heading | entry | remark => simp [shown, program]

/-- Asides do not go to the output. -/
theorem output_of_isAside (p : Presentation) (aside : ∀ m ∈ asides, m.isAside = true) :
    output p asides = [] := by
  rw [output, List.map_eq_nil_iff, List.filter_eq_nil_iff]
  intro m member
  simp [aside m member]

/-- Of messages with one result, a program gets to see the document. -/
theorem Present.output (h : Present ms doc) (json : p.format = .json) (loud : p.quiet = false) :
    output p ms = [doc.pretty] := by
  obtain ⟨before, sheet, behind, rfl, rfl, front, back⟩ := h
  have program : p.human = false := by simp [Presentation.human, json]
  have alone : Message.output p [result sheet] = [sheet.document.pretty] := by
    simp [Message.output, shown, isAside, loud, text, Presentation.sheet, json]
  rw [← List.singleton_append, output_append, output_append, output_of_isBeside program front,
    output_of_isBeside program back, alone, List.nil_append, List.append_nil]

end Message

namespace Listing

variable {ρ δ τ : Type}

theorem present_messages (l : Listing ρ δ τ) (among : Nat) (page : ResultPage τ) :
    Message.Present (l.messages among page) (page.encode l.document) :=
  ⟨[_], l.sheet page, [_], rfl, rfl, by simp [Message.isBeside], by simp [Message.isBeside]⟩

end Listing

theorem present_shapesMessages (shapes : List ShapeInfo) :
    Message.Present (shapesMessages shapes) (shapesSheet shapes).document :=
  ⟨[_], shapesSheet shapes, [], rfl, rfl, by simp [Message.isBeside], by simp⟩

theorem present_shapeMessages (s : ShapeInfo) :
    Message.Present (shapeMessages s) (shapeSheet s).document := by
  refine ⟨_, shapeSheet s, [], rfl, rfl, ?_, by simp⟩
  cases s.defaultSort with
  | none => simp [Message.isBeside]
  | some sort => simp [Message.isBeside]

/-! ### Tasks that answer -/

namespace Task

variable {α : Type} {task : Task Id Unit} {doc : Json}

/-- A task shows one result, of which this is the document. -/
def Answers (task : Task Id Unit) (doc : Json) : Prop :=
  ∀ said, ∃ ms, Message.Present ms doc ∧ task.outcome said = (.ok (), said ++ ms)

theorem answers_forM_say {ms : List Message} (present : Message.Present ms doc) :
    Answers (ms.forM say) doc := fun said => ⟨ms, present, outcome_forM_say ms said⟩

/-- What is prepared does not change what is answered. -/
theorem Ends.bind_answers {preparation : Task Id α} {next : α → Task Id Unit} {a : α}
    (first : preparation.Ends (.ok a)) (rest : (next a).Answers doc) :
    (preparation >>= next).Answers doc := by
  intro said
  obtain ⟨before, asides, ends⟩ := first said
  obtain ⟨ms, present, answers⟩ := rest (said ++ before)
  refine ⟨before ++ ms, present.append asides, ?_⟩
  rw [outcome_bind_ok ends, answers, List.append_assoc]

/-- A task either fails, having said nothing but asides, or shows one result, of which there is
    something to know. -/
inductive Settles (task : Task Id Unit) (known : Json → Prop) : Prop
  | fails {e : Failure} (ends : task.Ends (.error e))
  | answers {doc : Json} (holds : known doc) (answers : task.Answers doc)

variable {known known' : Json → Prop}

theorem Settles.imp (h : task.Settles known) (imp : ∀ doc, known doc → known' doc) :
    task.Settles known' := by
  cases h with
  | fails ends => exact .fails ends
  | answers holds answers => exact .answers (imp _ holds) answers

theorem Ends.bind_settles {preparation : Task Id α} {next : α → Task Id Unit} {a : α}
    (first : preparation.Ends (.ok a)) (rest : (next a).Settles known) :
    (preparation >>= next).Settles known := by
  cases rest with
  | fails ends => exact .fails (first.bind_ok ends)
  | answers holds answers => exact .answers holds (first.bind_answers answers)

end Task

/-- Users and contacts can be put in every order that can be asked for, so a page of them is always
    found. -/
theorem Listing.exists_find :
    (∀ pager records r, ∃ page, userListing.find pager records r = some page) ∧
      ∀ pager records r, ∃ page, contactListing.find pager records r = some page := by
  refine ⟨fun pager records r => exists_search_ofList_iff.2 ?_,
    fun pager records r => exists_search_ofList_iff.2 ?_⟩
  · exact (Shape.copes_of_conforms (by decide) fun u _ => User.conforms u).settles
  · exact (Shape.copes_of_conforms (by decide) fun c _ => Contact.conforms c).settles

/-- A search of a listing whose records load shows the page that is found among them. -/
theorem Listing.answers_run {ρ δ τ : Type} (l : Listing ρ δ τ) {w : World Id} {settings : Settings}
    {o : SearchOptions} {domain : δ} {records : List ρ} {page : ResultPage τ}
    (loaded : l.recordsIn w settings o.data = .ok records)
    (found : l.find settings.pager records (o.request domain) = some page) :
    (l.run w settings o domain).Answers (page.encode l.document) := by
  have load : (l.load w settings o.data).Ends (l.recordsIn w settings o.data) := ends_load o.data
  rw [loaded] at load
  refine load.bind_answers ?_
  rw [found]
  exact Task.answers_forM_say (l.present_messages records.length page)

/-- If a page can always be found, a search of a listing shows the one that is found among its
    records, or does not get to know them. -/
theorem Listing.settles_run {ρ δ τ : Type} (l : Listing ρ δ τ) (w : World Id) (settings : Settings)
    (o : SearchOptions) (domain : δ)
    (finds : ∀ pager records r, ∃ page, l.find pager records r = some page) :
    (l.run w settings o domain).Settles fun doc =>
      ∃ records page, l.recordsIn w settings o.data = .ok records ∧
        l.find settings.pager records (o.request domain) = some page ∧
        doc = page.encode l.document := by
  cases loaded : l.recordsIn w settings o.data with
  | error e =>
    have load : (l.load w settings o.data).Ends (l.recordsIn w settings o.data) := ends_load o.data
    rw [loaded] at load
    exact .fails load.bind_error
  | ok records =>
    obtain ⟨page, found⟩ := finds settings.pager records (o.request domain)
    exact .answers ⟨records, page, rfl, found, rfl⟩ (l.answers_run loaded found)

/-- The document that a command asks for. -/
inductive Command.Answer (w : World Id) (settings : Settings) : Command → Json → Prop
  | users {o : SearchOptions} {records : List User} {page : ResultPage UserResponse}
      (named : Text.sameName "users" o.shape = true)
      (loaded : userListing.recordsIn w settings o.data = .ok records)
      (found : (RecordSearch.search settings.pager User.shape UserFilters.predicates
        (Source.ofList records) (o.request o.userFilters) User.response : Attempt _).value =
          some page) :
      Answer w settings (.search o) (page.encode UserResponse.encode)
  | contacts {o : SearchOptions} {records : List Contact} {page : ResultPage ContactResponse}
      (named : Text.sameName "contacts" o.shape = true)
      (loaded : contactListing.recordsIn w settings o.data = .ok records)
      (found : (RecordSearch.search settings.pager Contact.shape ContactFilters.predicates
        (Source.ofList records) (o.request o.contactFilters) Contact.response : Attempt _).value =
          some page) :
      Answer w settings (.search o) (page.encode ContactResponse.encode)
  | shapes : Answer w settings (.schema none) (shapesSheet registry.shapes).document
  | shape {name : String} {s : ShapeInfo} (named : registry.get? name = some s) :
      Answer w settings (.schema (some name)) (shapeSheet s).document

theorem settles_runSearch (w : World Id) (settings : Settings) (o : SearchOptions) :
    (runSearch w settings o).Settles (Command.Answer w settings (.search o)) := by
  rw [runSearch, knownShape]
  cases named : registry.get? o.shape with
  | none => exact .fails (Task.ends_throw _).bind_error
  | some s =>
    have same : Text.sameName s.shape o.shape = true := by simpa using List.find?_some named
    refine (Task.ends_pure s).bind_settles ?_
    split
    next users =>
      rw [users] at same
      refine (userListing.settles_run w settings o o.userFilters Listing.exists_find.1).imp ?_
      rintro doc ⟨records, page, loaded, found, rfl⟩
      exact .users same loaded found
    next =>
      split
      next contacts =>
        rw [contacts] at same
        have settles : (contactListing.run w settings o o.contactFilters).Settles
            (Command.Answer w settings (.search o)) := by
          refine (contactListing.settles_run w settings o o.contactFilters
            Listing.exists_find.2).imp ?_
          rintro doc ⟨records, page, loaded, found, rfl⟩
          exact .contacts same loaded found
        split
        next => exact (Task.ends_say rfl).bind_settles settles
        next => exact settles
      next => exact .fails (Task.ends_throw _)

theorem settles_runSchema (w : World Id) (settings : Settings) (shape : Option String) :
    (runSchema shape).Settles (Command.Answer w settings (.schema shape)) := by
  cases shape with
  | none => exact .answers .shapes (Task.answers_forM_say (present_shapesMessages _))
  | some name =>
    rw [runSchema, knownShape]
    cases named : registry.get? name with
    | none => exact .fails (Task.ends_throw _).bind_error
    | some s =>
      exact .answers (.shape named)
        ((Task.ends_pure s).bind_answers (Task.answers_forM_say (present_shapeMessages s)))

theorem Command.settles_run (w : World Id) (settings : Settings) {c : Command} (kind : c ≠ .demo) :
    (c.run w settings).Settles (c.Answer w settings) := by
  cases c with
  | search o => exact settles_runSearch w settings o
  | schema shape => exact settles_runSchema w settings shape
  | demo => exact absurd rfl kind

/-! ### Runs -/

section

variable {w : World Id} {line line' : CommandLine} {settings : Settings}

/-- A command line that is accepted is carried out. -/
theorem run_of_read {args : List String}
    (read : CommandLine.read (w.lookup configVariable) args = .ok line) :
    run w args = line.run w := by
  rw [run]
  simp only [bind]
  rw [read]

/-- Only what is shown of a command line depends on the flags for that. -/
theorem run_eq (w : World Id) (line : CommandLine) :
    line.run w =
      match (w.settings line.config).run with
      | .error e => { exit := 1, errors := [complaintLine w.color e.message] }
      | .ok settings =>
        (Task.report (line.command.run w settings)).run.outcome (line.presentation w.color) := by
  rfl

/-- Two command lines ask for the same, with the same settings. -/
structure CommandLine.AsksSame (line line' : CommandLine) : Prop where
  config : line'.config = line.config
  command : line'.command = line.command

/-- However they are shown, command lines that ask for the same fail, and then nothing goes to the
    output, or they succeed, and then there is one answer for all programs. -/
theorem run_cases (w : World Id) (line : CommandLine) (kind : line.command ≠ .demo) :
    (∀ line', line.AsksSame line' → (line'.run w).exit = 1 ∧ (line'.run w).output = []) ∨
      ∃ settings doc, w.settings line.config = .ok settings ∧
        line.command.Answer w settings doc ∧
        ∀ line', line.AsksSame line' → (line'.run w).exit = 0 ∧
          (line'.output = .json → line'.quiet = false → (line'.run w).output = [doc.pretty]) := by
  cases read : (w.settings line.config).run with
  | error e =>
    refine .inl fun line' same => ?_
    rw [run_eq, same.config, read]
    exact ⟨rfl, rfl⟩
  | ok settings =>
    cases Command.settles_run w settings kind with
    | @fails e ends =>
      obtain ⟨asides, aside, ends⟩ := ends []
      refine .inl fun line' same => ?_
      rw [run_eq, same.config, read, same.command]
      simp only [Task.report_of_error ends]
      exact ⟨rfl, Message.output_of_isAside _ aside⟩
    | @answers doc holds answers =>
      obtain ⟨ms, present, answers⟩ := answers []
      refine .inr ⟨settings, doc, read, holds, fun line' same => ?_⟩
      rw [run_eq, same.config, read, same.command]
      simp only [Task.report_of_ok answers]
      exact ⟨rfl, fun json loud => present.output json loud⟩

/-- A quiet command line shows nothing. -/
theorem output_run_of_quiet (w : World Id) (line : CommandLine) (quiet : line.quiet = true) :
    (line.run w).output = [] := by
  cases read : (w.settings line.config).run with
  | error e => rw [run_eq, read]
  | ok settings =>
    rw [run_eq, read]
    exact Message.output_of_quiet quiet _

/-- What is asked for is what its text says, if no file has more characters than can be counted. -/
theorem Command.Answer.lossless {c : Command} {doc : Json} (h : c.Answer w settings doc)
    (countable : ∀ path s, w.contentOf path = .ok s → s.length ≤ countLimit) :
    doc.lossless = true := by
  cases h with
  | users _ loaded found =>
    exact Listing.lossless_find (l := userListing) User.lossless_encode
      (Listing.length_recordsIn_le countable (by decide) loaded) found
  | contacts _ loaded found =>
    exact Listing.lossless_find (l := contactListing) Contact.lossless_encode
      (Listing.length_recordsIn_le countable (by decide) loaded) found
  | shapes => exact lossless_shapesSheet
  | @shape name s _ => exact lossless_shapeSheet s

end

/-- What a run writes to the output: texts with line ends behind them. -/
def Outcome.printed (o : Outcome) : String := String.join (o.output.map (· ++ "\n"))

/-- What becomes of a command line does not depend on how it is shown. -/
structure World.Presents (w : World Id) (args : List String) (line : CommandLine) : Prop where
  exit : ∀ args' line', CommandLine.read (w.lookup configVariable) args' = .ok line' →
    line.AsksSame line' → (run w args').exit = (run w args).exit
  quiet : line.quiet = true → (run w args).output = []
  failure : (run w args).exit ≠ 0 → (run w args).output = []
  /-- Programs get the document that is asked for, and nothing else. -/
  json : line.output = .json → line.quiet = false → (run w args).exit = 0 →
    ∃ settings doc, w.settings line.config = .ok settings ∧ line.command.Answer w settings doc ∧
      (run w args).output = [doc.pretty] ∧ parse (run w args).printed = (doc, true)
  /-- They get the same document whatever else is said about how to show it. -/
  same : ∀ args' line', CommandLine.read (w.lookup configVariable) args' = .ok line' →
    line.AsksSame line' → line.output = .json → line'.output = .json → line.quiet = false →
    line'.quiet = false → (run w args').output = (run w args).output

/-- A text with a document stays one with a line end behind it. -/
theorem parse_printed {o : Outcome} {doc : Json} (lossless : doc.lossless = true)
    (h : o.output = [doc.pretty]) : parse o.printed = (doc, true) := by
  have takes : Takes doc doc.pretty.toList := parse_eq_iff.1 (parse_pretty lossless)
  have lineEnd : ['\n'].all isSpace = true := rfl
  rw [parse_eq_iff, Outcome.printed, h]
  simpa using takes.append_space lineEnd

/-- Searches and descriptions of shapes are presented, whatever the settings and the files are. -/
theorem run_presents (w : World Id) {args : List String} {line : CommandLine}
    (countable : ∀ path s, w.contentOf path = .ok s → s.length ≤ countLimit)
    (accepted : CommandLine.read (w.lookup configVariable) args = .ok line)
    (kind : line.command ≠ .demo) : w.Presents args line := by
  have own : line.AsksSame line := ⟨rfl, rfl⟩
  have carried := run_of_read accepted
  have quiet (h : line.quiet = true) : (run w args).output = [] := by
    rw [carried]
    exact output_run_of_quiet w line h
  rcases run_cases w line kind with fails | ⟨settings, doc, read, answer, shows⟩
  · obtain ⟨exit, output⟩ := carried ▸ fails line own
    refine ⟨fun args' line' accepted' same => ?_, quiet, fun _ => output, fun _ _ success => ?_,
      fun args' line' accepted' same _ _ _ _ => ?_⟩
    · rw [exit, run_of_read accepted', (fails line' same).1]
    · rw [exit] at success
      cases success
    · rw [output, run_of_read accepted', (fails line' same).2]
  · obtain ⟨exit, output⟩ := carried ▸ shows line own
    refine ⟨fun args' line' accepted' same => ?_, quiet, fun failure => absurd exit failure,
      fun json loud _ => ?_, fun args' line' accepted' same json json' loud loud' => ?_⟩
    · rw [exit, run_of_read accepted', (shows line' same).1]
    · exact ⟨settings, doc, read, answer, output json loud,
        parse_printed (answer.lossless countable) (output json loud)⟩
    · rw [output json loud, run_of_read accepted', (shows line' same).2 json' loud']

/-- A world without variables and with a single file. -/
def shelf (content : String) : World Id where
  lookup _ := none
  contentOf path := if path = "./contacts.json" then .ok content else .error .missing
  terminal := false

theorem countable_shelf {content : String} (few : content.length ≤ countLimit) :
    ∀ path s, (shelf content).contentOf path = .ok s → s.length ≤ countLimit := by
  intro path s h
  have there : (if path = "./contacts.json" then Except.ok content else .error FileError.missing) =
      .ok s := h
  split at there
  next =>
    cases there
    exact few
  next => cases there

/-- What is asked of it: its contacts, for a program. -/
def shelfArguments : List String :=
  ["search", "contacts", "-d", "contacts.json", "--output", "json"]

/-- A program gets the page of all contacts of the file. -/
theorem run_shelf {content : String} {records : List Contact}
    (read : contactListing.readRecords content = some records) :
    ∃ page, contactListing.find .standard records { domain := {} } = some page ∧
      (run (shelf content) shelfArguments).exit = 0 ∧
      (run (shelf content) shelfArguments).output =
        [(page.encode ContactResponse.encode).pretty] := by
  let o : SearchOptions := { shape := "contacts", data := some "contacts.json" }
  have loaded : contactListing.recordsIn (shelf content) {} o.data = .ok records := by
    have path : ({} : Settings).resolve (shelf content).lookup "contacts.json" =
        .ok "./contacts.json" := rfl
    have opened : (shelf content).contentOf "./contacts.json" = .ok content := rfl
    exact exceptBind_eq_ok_iff.2 ⟨_, exceptMapError_eq_ok_iff.2 path,
      exceptBind_eq_ok_iff.2 ⟨_, exceptMapError_eq_ok_iff.2 opened, by rw [read]⟩⟩
  obtain ⟨page, found⟩ := Listing.exists_find.2 .standard records (o.request o.contactFilters)
  have answers : (Command.run (shelf content) {} (.search o)).Answers
      (page.encode ContactResponse.encode) := by
    have known : registry.get? o.shape = some Contact.shape.info := by decide +kernel
    rw [Command.run, runSearch, knownShape, known]
    refine (Task.ends_pure Contact.shape.info).bind_answers ?_
    exact contactListing.answers_run loaded found
  obtain ⟨ms, present, ends⟩ := answers []
  have accepted : CommandLine.read ((shelf content).lookup configVariable) shelfArguments =
    .ok ⟨none, .json, false, false, false, .search o⟩ := rfl
  have settled : ((shelf content).settings none).run = .ok {} := rfl
  refine ⟨page, found, ?_⟩
  rw [run_of_read accepted, run_eq, settled]
  simp only [Task.report_of_ok ends]
  exact ⟨rfl, present.output rfl rfl⟩

/-- The text of a file with one contact. -/
def contactText : String := (array [Contact.codec.encode (sampleContact 1)]).compact

theorem readRecords_contactText : contactListing.readRecords contactText = some [sampleContact 1] :=
  ((Listing.survives_of_restores Contact.stores_members Contact.restores (fun _ => rfl)
    fun _ => ⟨_, rfl, .refl _⟩ : contactListing.Survives fun c => c).file [sampleContact 1]).1

/-- The page of one contact, for a program. -/
theorem run_presents_shelf :
    ∃ line page,
      CommandLine.read ((shelf contactText).lookup configVariable) shelfArguments = .ok line ∧
      line.command ≠ .demo ∧ line.output = .json ∧ line.quiet = false ∧
      (∀ path s, (shelf contactText).contentOf path = .ok s → s.length ≤ countLimit) ∧
      (shelf contactText).Presents shelfArguments line ∧
      contactListing.find .standard [sampleContact 1] { domain := {} } = some page ∧
      page.items = [(sampleContact 1).response] ∧ (run (shelf contactText) shelfArguments).exit = 0 ∧
      (run (shelf contactText) shelfArguments).output =
        [(page.encode ContactResponse.encode).pretty] := by
  obtain ⟨page, found, exit, output⟩ := run_shelf readRecords_contactText
  have few : contactText.length ≤ countLimit := by decide +kernel
  have countable := countable_shelf few
  have items : (contactListing.find .standard [sampleContact 1] { domain := {} }).map
      ResultPage.items = some [(sampleContact 1).response] := rfl
  rw [found] at items
  exact ⟨_, page, rfl, by simp, rfl, rfl, countable, run_presents _ countable rfl (by simp), found,
    Option.some.inj items, exit, output⟩

end Console

end RecordSearch
