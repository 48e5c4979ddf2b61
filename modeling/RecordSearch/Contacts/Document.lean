import RecordSearch.Contacts.Contact

/-! Contacts in documents. -/

namespace RecordSearch

open Json

/-- A stored contact. -/
def Contact.codec : Codec Contact where
  fields :=
    [("id", check (decodeInt .bits32)),
     ("name", check decodeText),
     ("gmail", check decodeText),
     ("phoneNumber", check decodeText),
     ("createdAt", check decodeInstant)]
  required := 5
  build ms := do
    let id ← field ms "id" (decodeInt .bits32)
    let name ← field ms "name" decodeText
    let gmail ← field ms "gmail" decodeText
    let phoneNumber ← field ms "phoneNumber" decodeText
    let createdAt ← field ms "createdAt" decodeInstant
    pure ⟨.ofInt id, name, gmail, phoneNumber, createdAt⟩
  members c :=
    [("id", integer c.id.toInt),
     ("name", text c.name),
     ("gmail", text c.gmail),
     ("phoneNumber", text c.phoneNumber),
     ("createdAt", ofInstant c.createdAt)]

/-- The document of a returned contact. -/
def ContactResponse.encode (c : ContactResponse) : Json :=
  object
    [("id", integer c.id.toInt),
     ("name", text c.name),
     ("gmail", text c.gmail),
     ("phoneNumber", text c.phoneNumber),
     ("createdAt", ofInstant c.createdAt)]

/-- Typed filters on contacts; what is not given is not written. -/
def ContactFilters.codec (_nothing : Json → Bool) : Codec ContactFilters where
  fields := [("createdFrom", check decodeBound), ("createdTo", check decodeBound)]
  required := 0
  build ms := do
    let createdFrom ← fieldOr ms "createdFrom" decodeBound none
    let createdTo ← fieldOr ms "createdTo" decodeBound none
    pure ⟨createdFrom, createdTo⟩
  members f :=
    memberIfSome "createdFrom" ofInstant f.createdFrom ++
      memberIfSome "createdTo" ofInstant f.createdTo

/-- Typed filters on contacts, as part of requests. -/
def ContactFilters.domain : DomainFilters Contact ContactFilters := ⟨{}, predicates, codec⟩

end RecordSearch
