import RecordSearch.DomainFilters

/-! Contacts of a mail account: the record, what of it can be searched, and the form in which it is
    returned. -/

namespace RecordSearch

/-- A contact as it is stored. -/
structure Contact where
  id : Int32
  name : String
  gmail : String
  phoneNumber : String
  createdAt : Instant
  deriving DecidableEq, Repr

/-- A contact as it is returned. -/
structure ContactResponse where
  id : Int32
  name : String
  gmail : String
  phoneNumber : String
  createdAt : Instant
  deriving DecidableEq, Repr

namespace Contact

/-- The returned form of a contact. -/
def response (c : Contact) : ContactResponse := ⟨c.id, c.name, c.gmail, c.phoneNumber, c.createdAt⟩

/-- The mail address. -/
def gmailField : Field Contact := .required "gmail" .text fun c => .text c.gmail

/-- When the contact was created. -/
def createdAtField : Field Contact :=
  .required "createdAt" .timestamp fun c => .timestamp c.createdAt

/-- Contacts as a searchable shape. -/
def shape : Shape Contact where
  schema :=
    { shape := "contacts"
      fields :=
        [.required "id" .int32 fun c => .number (.int c.id.toInt),
         .required "name" .text fun c => .text c.name,
         gmailField,
         .required "phoneNumber" .text fun c => .text c.phoneNumber,
         createdAtField] }
  textFields := ["name", "gmail", "phoneNumber"]
  defaultSort := some "createdAt"

end Contact

/-- Typed filters on contacts. -/
structure ContactFilters where
  createdFrom : Option Instant := none
  createdTo : Option Instant := none
  deriving DecidableEq, Repr

/-- The conditions of typed filters on contacts. -/
def ContactFilters.predicates (f : ContactFilters) : List (Predicate Contact) :=
  DomainFilters.between Contact.createdAtField f.createdFrom f.createdTo

end RecordSearch
