import RecordSearch.Console.Task
import RecordSearch.Contacts.Document
import RecordSearch.Contacts.Sample
import RecordSearch.Json.Page
import RecordSearch.Search
import RecordSearch.Users.Document
import RecordSearch.Users.Sample

/-! Lists of records: the command `search`.

    Records come from a file, or from the samples of their shape. What is found is shown as a page:
    a table, one line a record, or a document. -/

namespace RecordSearch.Console

/-- A shape whose records can be listed: records `ρ`, typed filters `δ`, and returned forms `τ`. -/
structure Listing (ρ δ τ : Type) where
  shape : Shape ρ
  filters : DomainFilters ρ δ
  codec : Json.Codec ρ
  returned : ρ → τ
  document : τ → Json
  columns : List String
  cells : τ → List String
  samples : List ρ

/-- The word for a truth value. -/
def truthWord (b : Bool) : String := if b then "true" else "false"

/-- The list of users. -/
def userListing : Listing User UserFilters UserResponse where
  shape := User.shape
  filters := UserFilters.domain
  codec := User.codec
  returned := User.response
  document := UserResponse.encode
  columns := ["Id", "Full name", "Email", "Gender", "Role", "Phone", "Verified", "Created"]
  cells u :=
    [Text.integerText u.id.toInt, u.fullName, u.email, u.gender.tag, u.role.tag,
      u.phoneNumber.getD "", truthWord u.isEmailVerified, Calendar.minuteText u.createdAt]
  samples := sampleUsers

/-- The list of contacts. -/
def contactListing : Listing Contact ContactFilters ContactResponse where
  shape := Contact.shape
  filters := ContactFilters.domain
  codec := Contact.codec
  returned := Contact.response
  document := ContactResponse.encode
  columns := ["Id", "Name", "Gmail", "Phone", "Created"]
  cells c :=
    [Text.integerText c.id.toInt, c.name, c.gmail, c.phoneNumber, Calendar.minuteText c.createdAt]
  samples := sampleContacts 25

/-- The request that the options of `search` stand for. -/
def SearchOptions.request {δ : Type} (o : SearchOptions) (domain : δ) : Request δ :=
  ⟨o.search, o.page, o.pageSize, o.sortBy, o.sortOrder, o.filters, domain⟩

/-- The typed filters on users among the options of `search`. -/
def SearchOptions.userFilters (o : SearchOptions) : UserFilters :=
  ⟨o.gender, o.emailVerified, o.createdFrom, o.createdTo⟩

/-- The typed filters on contacts among the options of `search`. -/
def SearchOptions.contactFilters (o : SearchOptions) : ContactFilters :=
  ⟨o.createdFrom, o.createdTo⟩

namespace Listing

variable {ρ δ τ : Type}

/-- The number of the last page, or 1 if there are no pages. -/
def lastPage (page : ResultPage τ) : Nat := max 1 page.totalPages

/-- The line of a record: its cells with bars between them. -/
def recordLine (l : Listing ρ δ τ) (t : τ) : String := Text.joinWith " | " (l.cells t)

/-- The line on the page as a whole. -/
def summaryLine (page : ResultPage τ) : String :=
  "page " ++ Text.integerText page.page ++ "/" ++ Text.integerText (lastPage page) ++ " (" ++
    Text.integerText page.totalCount ++ " matching)"

/-- The page with a line for each record and one for the page. -/
def compact (l : Listing ρ δ τ) (page : ResultPage τ) : String :=
  Text.joinWith "\n" (page.items.map l.recordLine ++ [summaryLine page])

/-- The page as a table. -/
def table (l : Listing ρ δ τ) (page : ResultPage τ) : Table :=
  ⟨l.columns, if page.items.isEmpty then [["No records found"]] else page.items.map l.cells⟩

/-- The page in each of its forms. -/
def sheet (l : Listing ρ δ τ) (page : ResultPage τ) : Sheet :=
  ⟨page.encode l.document, l.table page, l.compact page⟩

/-- What there is to say about a page of records found among so many. -/
def messages (l : Listing ρ δ τ) (among : Nat) (page : ResultPage τ) : List Message :=
  [.heading (l.shape.name ++ " (" ++ Text.integerText page.items.length ++ " of " ++
      Text.integerText among ++ " records)"),
    .result (l.sheet page),
    .remark ("Page " ++ Text.integerText page.page ++ " of " ++ Text.integerText (lastPage page) ++
      ", " ++ Text.integerText page.pageSize ++ " per page, " ++ Text.integerText page.totalCount ++
      " matching")]

/-- The records of a text: an array, and nothing but space behind it. -/
def readRecords (l : Listing ρ δ τ) (s : String) : Option (List ρ) :=
  match Json.parse s with
  | (v, true) => (v.decodeArray l.codec.decode).toOption
  | (_, false) => none

/-- The page that a request finds among records, if they can be put in order. -/
def find (l : Listing ρ δ τ) (pager : Pager) (records : List ρ) (r : Request δ) :
    Option (ResultPage τ) :=
  (search pager l.shape l.filters.predicates (Source.ofList records) r l.returned :
    Attempt (ResultPage τ)).value

variable {m : Type → Type} [Monad m]

/-- The path of a file of records, for which a variable of the environment may have to be known. -/
def resolve (w : World m) (settings : Settings) (file : String) : Task m String := do
  let asked := placeholder? settings.dataDirectory
  let value ← match asked with
    | some name => Task.ask (w.lookup name)
    | none => pure none
  Task.orFail .settingsRefused
    (settings.resolve (fun name => if some name = asked then value else none) file)

/-- The records to search: those of a file, or the samples. -/
def load (l : Listing ρ δ τ) (w : World m) (settings : Settings) :
    Option String → Task m (List ρ)
  | none => do
    Task.say (.progress ("Using built-in sample " ++ l.shape.name))
    pure l.samples
  | some file => do
    let path ← resolve w settings file
    Task.say (.progress ("Loading " ++ l.shape.name ++ " from " ++ path))
    let content ← Task.orFail (.recordsUnreadable path) (← Task.ask (w.contentOf path))
    match l.readRecords content with
    | some records => pure records
    | none => throw (.recordsMalformed path)

/-- Searches and shows what is found. -/
def run (l : Listing ρ δ τ) (w : World m) (settings : Settings) (o : SearchOptions)
    (domain : δ) : Task m Unit := do
  let records ← l.load w settings o.data
  match l.find settings.pager records (o.request domain) with
  | some page => (l.messages records.length page).forM Task.say
  | none => throw .recordsUnordered

end Listing

end RecordSearch.Console
