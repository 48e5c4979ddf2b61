import RecordSearch.Contacts.Contact
import RecordSearch.Users.Sample

/-! Contacts to try a search on. -/

namespace RecordSearch

/-- A sample contact, by its number. -/
def sampleContact (id : Nat) : Contact :=
  let number := String.ofList (Text.paddedDigits 2 id)
  ⟨.ofNat id, "Contact " ++ number, "contact" ++ number ++ "@gmail.com", "09120000" ++ number,
    sampleStart.later (3600 * (id - 1))⟩

/-- Sample contacts, numbered from 1 and created one hour apart. -/
def sampleContacts (count : Nat) : List Contact := (List.range' 1 count).map sampleContact

end RecordSearch
