import RecordSearch.Console.Listing

/-! Walkthroughs: searches over the sample records, each with what it is expected to find. The command
    `demo` goes through them and fails at the first surprise. -/

namespace RecordSearch.Console

/-- What a search is expected to show, and whether it does. -/
structure Expectation where
  what : String
  met : Bool
  deriving DecidableEq, Repr

/-- Searches on one subject. -/
structure Walkthrough where
  name : String
  title : String
  expectations : List Expectation
  deriving DecidableEq, Repr

namespace Walkthrough

/-- The first expectation that is not met. -/
def surprise (w : Walkthrough) : Option String :=
  (w.expectations.find? fun e => !e.met).map (·.what)

/-- A request for users that asks for nothing. -/
def anyUser : Request UserFilters := { domain := {} }

/-- A request for contacts that asks for nothing. -/
def anyContact : Request ContactFilters := { domain := {} }

/-- The page of sample users that a request finds. -/
def users (r : Request UserFilters) : Option (ResultPage UserResponse) :=
  userListing.find .standard sampleUsers r

/-- The page of sample contacts that a request finds. -/
def contacts (r : Request ContactFilters) : Option (ResultPage ContactResponse) :=
  contactListing.find .standard (sampleContacts 25) r

/-- The identifiers of the users on a page. -/
def userIds (page : ResultPage UserResponse) : List Int := page.items.map (·.id.toInt)

/-- The identifiers of the contacts on a page. -/
def contactIds (page : ResultPage ContactResponse) : List Int := page.items.map (·.id.toInt)

/-- Free text looks into all text fields and ignores case; without a sort field the newest users come
    first. Typed filters restrict what free text finds. A blank term restricts nothing. -/
def userSearch : Walkthrough :=
  let city := users (anyUser.withSearch "ho chi MINH")
  let women := users ((anyUser.withPage 1 2).withDomain
    { gender := some .female, isEmailVerified := some true })
  let everyone := users ((anyUser.withSearch "   ").withPage 1 100)
  { name := "user search"
    title := "Free-text search and user filters"
    expectations :=
      [⟨"three users live in Ho Chi Minh City", city.any (·.totalCount = 3)⟩,
       ⟨"newest first", city.map userIds = some [9, 5, 1]⟩,
       ⟨"four verified women", women.any (·.totalCount = 4)⟩,
       ⟨"first of two pages", women.any fun page => page.items.length = 2 && page.hasMore⟩,
       ⟨"the newest verified woman",
         women.any fun page => (page.items.head?.map (·.fullName)) = some "Ngo Phuong Mai"⟩,
       ⟨"two pages", women.any (·.totalPages = 2)⟩,
       ⟨"all ten users",
         everyone.any fun page => page.totalCount = 10 && page.items.length = 10⟩] }

/-- Pages follow each other, a page request is brought within bounds, and bounds on the time of
    creation are inclusive. -/
def contactSearch : Walkthrough :=
  let second := contacts ((anyContact.withSort "createdAt" .descending).withPage 2 10)
  let clamped := contacts (anyContact.withPage 0 500)
  let spell := contacts ((anyContact.withSort "createdat" .ascending).withDomain
    { createdFrom := some (sampleStart.later (3600 * 5))
      createdTo := some (sampleStart.later (3600 * 14)) })
  { name := "contact search"
    title := "Contact paging and date ranges"
    expectations :=
      [⟨"25 contacts", second.any (·.totalCount = 25)⟩,
       ⟨"page 2 of size 10", second.any fun page => page.page = 2 && page.pageSize = 10⟩,
       ⟨"contacts 15 through 6",
         second.map contactIds = some [15, 14, 13, 12, 11, 10, 9, 8, 7, 6]⟩,
       ⟨"page 1 of size 100", clamped.any fun page => page.page = 1 && page.pageSize = 100⟩,
       ⟨"everything on one page",
         clamped.any fun page => page.items.length = 25 && !page.hasMore⟩,
       ⟨"contacts 6 through 15", spell.any (·.totalCount = 10)⟩,
       ⟨"contact 6 first", spell.any fun page => (contactIds page).head? = some 6⟩,
       ⟨"contact 15 last", spell.any fun page => (contactIds page).getLast? = some 15⟩] }

/-- The users that criteria select, none of which may be misspelled: how many, and the
    identifiers on the first page. -/
def selection (criteria : List String) (sort : Option (String × SortOrder)) :
    Option (Nat × List Int) := do
  let filters ← criteria.mapM fun s => (Criterion.read s).toOption
  let r := (anyUser.withFilters filters).withPage 1 100
  let page ← users (match sort with
    | some (field, order) => r.withSort field order
    | none => r)
  pure (page.totalCount, userIds page)

/-- Names match ignoring case, criteria are put together, and a criterion that cannot be applied is
    ignored, as is an unknown sort field. -/
def filterCriteria : Walkthrough :=
  let count (criterion : String) : Option Nat := (selection [criterion] none).map (·.1)
  { name := "filter criteria"
    title := "Filter criteria and sort fallback"
    expectations :=
      [⟨"sorted by name",
         selection ["role:in:admin, CSKH, Manager"] (some ("fullName", .ascending)) =
           some (3, [8, 3, 1])⟩,
       ⟨"inapplicable criteria ignored",
         selection ["role:in:Admin,CSKH", "isEmailVerified:eq:TRUE", "nickname:eq:x",
             "fullName:gt:abc", "id:gte:four"] (some ("id", .ascending)) = some (2, [1, 8])⟩,
       ⟨"three users without a phone number", count "phoneNumber:isnull" = some 3⟩,
       ⟨"five users with a date of birth", count "dateOfBirth:IsNotNull" = some 5⟩,
       ⟨"users 4 through 7",
         selection ["id:gte:4", "id:lessthan:8"] (some ("id", .ascending)) =
           some (4, [4, 5, 6, 7])⟩,
       ⟨"five mail addresses of one service", count "email:endswith:@GMAIL.com" = some 5⟩,
       ⟨"equality of texts is exact", count "fullName:equals:vu thu ha" = some 0⟩,
       ⟨"one user of a name", count "fullName:equals:Vu Thu Ha" = some 1⟩,
       ⟨"source order",
         (selection ["gender:eq:male"] (some ("favouriteColour", .ascending))).map (·.2) =
           some [1, 3, 5, 9]⟩] }

/-- All walkthroughs in order. -/
def every : List Walkthrough := [userSearch, contactSearch, filterCriteria]

variable {m : Type → Type} [Monad m]

/-- Goes through a walkthrough. -/
def run (w : Walkthrough) : Task m Unit := do
  Task.say (.progress w.title)
  match w.surprise with
  | none => Task.say (.success w.name)
  | some complaint => throw (.walkthroughFailed w.name complaint)

/-- Goes through all walkthroughs. -/
def runEvery : Task m Unit := do
  Task.say (.heading "Search walkthroughs")
  every.forM run

end Walkthrough

end RecordSearch.Console
