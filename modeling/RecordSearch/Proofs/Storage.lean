import RecordSearch.Console.Listing
import RecordSearch.Proofs.RequestFormat
import RecordSearch.Proofs.Secrecy
import RecordSearch.Proofs.StoredTimes
import RecordSearch.Proofs.Writing

/-! Records that are stored and read back.

    A record is written as an object, and the object as a text on one line or on several; reading
    goes the same way back. Nothing is lost but the password of a user, which is never written. The
    returned form of a record is declared on its own, and still it is an object of the same members. -/

namespace RecordSearch

open Json

/-! ### Values -/

namespace Json

variable {α : Type}

theorem decodeInt_toInt32 (n : Int32) : decodeInt .bits32 (integer n.toInt) = .ok n.toInt := by
  have fits : IntWidth.bits32.fits n.toInt = true :=
    IntWidth.fits_iff.2 ⟨n.le_toInt, n.toInt_lt⟩
  rw [decodeInt, if_pos fits]

theorem decodeInstant_ofInstant (t : Instant) : decodeInstant (ofInstant t) = .ok t := by
  have read := Calendar.readStored_instantText t
  rw [decodeInstant, ofInstant, decodeText]
  simp only [bind, Except.bind, read]

theorem decodeDate_ofDate (d : Date) : decodeDate (ofDate d) = .ok d := by
  have read := Calendar.readStoredDate_dateText d
  rw [decodeDate, ofDate, decodeText]
  simp only [bind, Except.bind, read]

/-- A value other than null that is read is there. -/
theorem decodeOption_eq_ok {decode : Json → Decoded α} {v : Json} {a : α} (given : v ≠ null)
    (h : decode v = .ok a) : decodeOption decode v = .ok (some a) := by
  have there : decodeOption decode v = (decode v).map some := by
    rw [decodeOption]
    exact given
  rw [there, h]
  rfl

/-- A value that may be missing is read back, if it is never written as null. -/
theorem decodeOption_ofOption {decode : Json → Decoded α} {encode : α → Json}
    (given : ∀ a, encode a ≠ null) (restores : ∀ a, decode (encode a) = .ok a) (o : Option α) :
    decodeOption decode (ofOption encode o) = .ok o := by
  cases o with
  | none => rfl
  | some a => exact decodeOption_eq_ok (given a) (restores a)

theorem decodeOption_text (o : Option String) :
    decodeOption decodeText (ofOption text o) = .ok o :=
  decodeOption_ofOption (by simp) decodeText.eq_1 o

theorem decodeOption_ofDate (o : Option Date) :
    decodeOption decodeDate (ofOption ofDate o) = .ok o :=
  decodeOption_ofOption (by simp [ofDate]) decodeDate_ofDate o

theorem decodeOption_ofInstant (o : Option Instant) :
    decodeOption decodeInstant (ofOption ofInstant o) = .ok o :=
  decodeOption_ofOption (by simp [ofInstant]) decodeInstant_ofInstant o

theorem field_eq_ok {decode : Json → Decoded α} {ms : Members} {name : String} {v : Json} {a : α}
    (found : ms.lookup name = some v) (h : decode v = .ok a) : field ms name decode = .ok a := by
  rw [field, found, ← h]

/-- A document without parts or gaps: it may be kept for later, it is its own value, and it is read
    back from its text. -/
structure Plain (v : Json) : Prop where
  keeps : keepable Request.keptDepth v = true
  sorted : v.sorted = v
  lossless : v.lossless = true

theorem plain_text (s : String) : Plain (text s) := ⟨rfl, rfl, rfl⟩

theorem plain_bool (b : Bool) : Plain (bool b) := ⟨rfl, rfl, rfl⟩

theorem plain_integer (n : Int32) : Plain (integer n.toInt) := by
  have low := n.le_toInt
  have high := n.toInt_lt
  exact ⟨rfl, rfl, lossless_integer.2 ⟨by omega, by rw [wordLimit]; omega⟩⟩

theorem plain_ofDate (d : Date) : Plain (ofDate d) := plain_text _

theorem plain_ofInstant (t : Instant) : Plain (ofInstant t) := plain_text _

theorem plain_ofOption {encode : α → Json} (plain : ∀ a, Plain (encode a)) (o : Option α) :
    Plain (ofOption encode o) := by
  cases o with
  | none => exact ⟨rfl, rfl, rfl⟩
  | some a => exact plain a

theorem losslessMembers_iff {ms : Members} :
    losslessMembers ms = true ↔ ∀ m ∈ ms, m.2.lossless = true := by
  induction ms with
  | nil => simp [losslessMembers]
  | cons m ms ih => simp [losslessMembers, ih]

theorem losslessItems_iff {vs : List Json} :
    losslessItems vs = true ↔ ∀ v ∈ vs, v.lossless = true := by
  induction vs with
  | nil => simp [losslessItems]
  | cons v vs ih => simp [losslessItems, ih]

end Json

theorem Gender.decode_tag (g : Gender) : decode isNothing (text g.tag) = .ok g := by
  cases g <;> rfl

theorem Role.decode_tag (r : Role) : decode isNothing (text r.tag) = .ok r := by
  cases r <;> rfl

/-! ### Records -/

/-- A member that is stored of a structure: it stands in documents, and in their texts. -/
structure Json.Codec.Stores {α : Type} (c : Codec α) (m : String × Json) : Prop where
  stands : c.Stands m
  lossless : m.2.lossless = true

/-- A plain value is stored under the name of a field that reads it. -/
theorem Json.Codec.stores {α β : Type} {c : Codec α} {decode : Json → Decoded β} {name : String}
    {v : Json} {b : β} (plain : Plain v) (free : Request.directive name = none)
    (judged : c.judge name = some (check decode)) (reads : decode v = .ok b) :
    c.Stores (name, v) := by
  have fit : Fit c.judge skippable (name, v) := by
    rw [Fit, judged]
    exact check_eq_ok reads
  exact ⟨⟨free, plain.keeps, plain.sorted, fit⟩, plain.lossless⟩

/-- Fields that are found by name make up the user. -/
theorem User.build_eq_ok {ms : Members} {u : User}
    (id : field ms "id" (decodeInt .bits32) = .ok u.id.toInt)
    (fullName : field ms "fullName" decodeText = .ok u.fullName)
    (email : field ms "email" decodeText = .ok u.email)
    (password : fieldOr ms "password" decodeText "" = .ok u.password)
    (gender : field ms "gender" (Gender.decode isNothing) = .ok u.gender)
    (role : field ms "role" (Role.decode isNothing) = .ok u.role)
    (phoneNumber : fieldOption ms "phoneNumber" decodeText = .ok u.phoneNumber)
    (address : fieldOption ms "address" decodeText = .ok u.address)
    (dateOfBirth : fieldOption ms "dateOfBirth" decodeDate = .ok u.dateOfBirth)
    (aboutMe : fieldOption ms "aboutMe" decodeText = .ok u.aboutMe)
    (profilePicture : fieldOption ms "profilePicture" decodeText = .ok u.profilePicture)
    (isEmailVerified : field ms "isEmailVerified" decodeBool = .ok u.isEmailVerified)
    (createdAt : field ms "createdAt" decodeInstant = .ok u.createdAt)
    (updatedAt : fieldOption ms "updatedAt" decodeInstant = .ok u.updatedAt) :
    codec.build ms = .ok u := by
  simp only [codec, id, fullName, email, password, gender, role, phoneNumber, address, dateOfBirth,
    aboutMe, profilePicture, isEmailVerified, createdAt, updatedAt]
  show Except.ok { u with id := .ofInt u.id.toInt } = _
  rw [Int32.ofInt_toInt]

theorem Contact.build_eq_ok {ms : Members} {c : Contact}
    (id : field ms "id" (decodeInt .bits32) = .ok c.id.toInt)
    (name : field ms "name" decodeText = .ok c.name)
    (gmail : field ms "gmail" decodeText = .ok c.gmail)
    (phoneNumber : field ms "phoneNumber" decodeText = .ok c.phoneNumber)
    (createdAt : field ms "createdAt" decodeInstant = .ok c.createdAt) :
    codec.build ms = .ok c := by
  simp only [codec, id, name, gmail, phoneNumber, createdAt]
  show Except.ok { c with id := .ofInt c.id.toInt } = _
  rw [Int32.ofInt_toInt]

theorem User.names_members (u : User) :
    (codec.members u).map Prod.fst =
      ["id", "fullName", "email", "gender", "role", "phoneNumber", "address", "dateOfBirth",
        "aboutMe", "profilePicture", "isEmailVerified", "createdAt", "updatedAt"] := rfl

theorem Contact.names_members (c : Contact) :
    (codec.members c).map Prod.fst = ["id", "name", "gmail", "phoneNumber", "createdAt"] := rfl

theorem User.stores_members (u : User) : ∀ m ∈ codec.members u, codec.Stores m := by
  intro m hm
  simp only [codec, List.mem_cons, List.not_mem_nil, or_false] at hm
  rcases hm with rfl | rfl | rfl | rfl | rfl | rfl | rfl | rfl | rfl | rfl | rfl | rfl | rfl
  · exact Codec.stores (plain_integer u.id) rfl rfl (decodeInt_toInt32 u.id)
  · exact Codec.stores (plain_text u.fullName) rfl rfl (decodeText.eq_1 u.fullName)
  · exact Codec.stores (plain_text u.email) rfl rfl (decodeText.eq_1 u.email)
  · exact Codec.stores (plain_text u.gender.tag) rfl rfl (Gender.decode_tag u.gender)
  · exact Codec.stores (plain_text u.role.tag) rfl rfl (Role.decode_tag u.role)
  · exact Codec.stores (plain_ofOption plain_text _) rfl rfl (decodeOption_text u.phoneNumber)
  · exact Codec.stores (plain_ofOption plain_text _) rfl rfl (decodeOption_text u.address)
  · exact Codec.stores (plain_ofOption plain_ofDate _) rfl rfl (decodeOption_ofDate u.dateOfBirth)
  · exact Codec.stores (plain_ofOption plain_text _) rfl rfl (decodeOption_text u.aboutMe)
  · exact Codec.stores (plain_ofOption plain_text _) rfl rfl (decodeOption_text u.profilePicture)
  · exact Codec.stores (plain_bool u.isEmailVerified) rfl rfl (decodeBool.eq_1 u.isEmailVerified)
  · exact Codec.stores (plain_ofInstant u.createdAt) rfl rfl (decodeInstant_ofInstant u.createdAt)
  · exact Codec.stores (plain_ofOption plain_ofInstant _) rfl rfl
      (decodeOption_ofInstant u.updatedAt)

theorem Contact.stores_members (c : Contact) : ∀ m ∈ codec.members c, codec.Stores m := by
  intro m hm
  simp only [codec, List.mem_cons, List.not_mem_nil, or_false] at hm
  rcases hm with rfl | rfl | rfl | rfl | rfl
  · exact Codec.stores (plain_integer c.id) rfl rfl (decodeInt_toInt32 c.id)
  · exact Codec.stores (plain_text c.name) rfl rfl (decodeText.eq_1 c.name)
  · exact Codec.stores (plain_text c.gmail) rfl rfl (decodeText.eq_1 c.gmail)
  · exact Codec.stores (plain_text c.phoneNumber) rfl rfl (decodeText.eq_1 c.phoneNumber)
  · exact Codec.stores (plain_ofInstant c.createdAt) rfl rfl (decodeInstant_ofInstant c.createdAt)

/-- What is written of a user says nothing of the password, and is read as the user without it. -/
theorem User.restores_masked (u : User) : codec.Restores u.masked := by
  refine Codec.restores_of_build ?stands ?distinct fun ms found =>
    build_eq_ok ?_ ?_ ?_ ?_ ?_ ?_ ?_ ?_ ?_ ?_ ?_ ?_ ?_ ?_
  case stands => exact fun m hm => (stores_members u.masked m hm).stands
  case distinct =>
    rw [names_members]
    decide
  · exact field_eq_ok (found "id") (decodeInt_toInt32 u.id)
  · exact field_eq_ok (found "fullName") rfl
  · exact field_eq_ok (found "email") rfl
  · rw [fieldOr, found]
    rfl
  · exact field_eq_ok (found "gender") (Gender.decode_tag u.gender)
  · exact field_eq_ok (found "role") (Role.decode_tag u.role)
  · exact fieldOr_eq_ok (found "phoneNumber") (decodeOption_text u.phoneNumber)
  · exact fieldOr_eq_ok (found "address") (decodeOption_text u.address)
  · exact fieldOr_eq_ok (found "dateOfBirth") (decodeOption_ofDate u.dateOfBirth)
  · exact fieldOr_eq_ok (found "aboutMe") (decodeOption_text u.aboutMe)
  · exact fieldOr_eq_ok (found "profilePicture") (decodeOption_text u.profilePicture)
  · exact field_eq_ok (found "isEmailVerified") rfl
  · exact field_eq_ok (found "createdAt") (decodeInstant_ofInstant u.createdAt)
  · exact fieldOr_eq_ok (found "updatedAt") (decodeOption_ofInstant u.updatedAt)

theorem Contact.restores (c : Contact) : codec.Restores c := by
  refine Codec.restores_of_build ?stands ?distinct fun ms found => build_eq_ok ?_ ?_ ?_ ?_ ?_
  case stands => exact fun m hm => (stores_members c m hm).stands
  case distinct =>
    rw [names_members]
    decide
  · exact field_eq_ok (found "id") (decodeInt_toInt32 c.id)
  · exact field_eq_ok (found "name") rfl
  · exact field_eq_ok (found "gmail") rfl
  · exact field_eq_ok (found "phoneNumber") rfl
  · exact field_eq_ok (found "createdAt") (decodeInstant_ofInstant c.createdAt)

/-! ### Files -/

/-- A text says a structure. -/
def Json.Codec.Says {α : Type} (c : Codec α) (s : String) (a : α) : Prop :=
  ∃ v, parse s = (v, true) ∧ c.decode v = .ok a

namespace Console

/-- Records of a listing survive storage: what is written of a record, as a document or as a text,
    is read as what is kept of it, and the returned form has the same members. -/
structure Listing.Survives {ρ δ τ : Type} (l : Listing ρ δ τ) (kept : ρ → ρ) : Prop where
  /-- The order of the members does not matter. -/
  document : ∀ a ms, ms.Perm (l.codec.members a) → l.codec.decode (object ms) = .ok (kept a)
  /-- Neither does it when the document is kept as a value. -/
  value : ∀ a, l.codec.decode (l.codec.encode a).sorted = .ok (kept a)
  compact : ∀ a, l.codec.Says (l.codec.encode a).compact (kept a)
  pretty : ∀ a, l.codec.Says (l.codec.encode a).pretty (kept a)
  /-- A file of records is an array of their documents. -/
  file : ∀ as : List ρ,
    l.readRecords (array (as.map l.codec.encode)).compact = some (as.map kept) ∧
      l.readRecords (array (as.map l.codec.encode)).pretty = some (as.map kept)
  /-- The returned form is written with the same members, none of them twice. -/
  response : ∀ a, ∃ ns, l.document (l.returned a) = object ns ∧ ns.Perm (l.codec.members a) ∧
    (ns.map Prod.fst).Nodup

variable {ρ δ τ : Type} {l : Listing ρ δ τ} {kept : ρ → ρ}

theorem Listing.readRecords_of_parse {vs : List Json} {as : List ρ} {s : String}
    (text : parse s = (array vs, true)) (reads : decodeArray l.codec.decode (array vs) = .ok as) :
    l.readRecords s = some as := by
  rw [readRecords, text]
  simp only [reads]
  rfl

/-- It is enough that members are stored and restore what is kept. -/
theorem Listing.survives_of_restores (stores : ∀ a, ∀ m ∈ l.codec.members a, l.codec.Stores m)
    (restores : ∀ a, l.codec.Restores (kept a))
    (members_kept : ∀ a, l.codec.members (kept a) = l.codec.members a)
    (response : ∀ a, ∃ ns, l.document (l.returned a) = object ns ∧ ns.Perm (l.codec.members a)) :
    l.Survives kept := by
  have distinct (a : ρ) : ((l.codec.members a).map Prod.fst).Nodup :=
    members_kept a ▸ (restores a).distinct
  have document (a : ρ) (ms : Members) (perm : ms.Perm (l.codec.members a)) :
      l.codec.decode (object ms) = .ok (kept a) :=
    (restores a).decode ms (members_kept a ▸ perm)
  have whole (a : ρ) : l.codec.decode (l.codec.encode a) = .ok (kept a) := document a _ (.refl _)
  have lossless (a : ρ) : (l.codec.encode a).lossless = true := by
    rw [Codec.encode, Json.lossless, losslessMembers_iff]
    exact fun m hm => (stores a m hm).lossless
  have lossless_all (as : List ρ) : (array (as.map l.codec.encode)).lossless = true := by
    rw [Json.lossless, losslessItems_iff]
    intro v hv
    obtain ⟨a, -, rfl⟩ := List.mem_map.1 hv
    exact lossless a
  refine ⟨document, fun a => ?value, fun a => ⟨_, parse_compact (lossless a), whole a⟩,
    fun a => ⟨_, parse_pretty (lossless a), whole a⟩, fun as => ?file, fun a => ?response⟩
  case value =>
    have plain : ∀ m ∈ l.codec.members a, m.2.sorted = m.2 := fun m hm =>
      (stores a m hm).stands.plain
    obtain ⟨ms, sorted, perm⟩ := sorted_object plain (distinct a)
    rw [Codec.encode, sorted]
    exact document a ms perm
  case file =>
    have reads := decodeArray_map_of whole as
    exact ⟨readRecords_of_parse (parse_compact (lossless_all as)) reads,
      readRecords_of_parse (parse_pretty (lossless_all as)) reads⟩
  case response =>
    obtain ⟨ns, written, perm⟩ := response a
    exact ⟨ns, written, perm, (perm.map Prod.fst).nodup_iff.2 (distinct a)⟩

/-- Users survive storage but for their passwords, and contacts survive it whole. -/
theorem records_survive_storage :
    userListing.Survives User.masked ∧ contactListing.Survives fun c => c := by
  constructor
  · refine Listing.survives_of_restores User.stores_members User.restores_masked (fun _ => rfl)
      fun u => ⟨_, rfl, ?_⟩
    -- the returned form names the mail address before the full name
    exact .cons _ (.swap _ _ _)
  · exact Listing.survives_of_restores Contact.stores_members Contact.restores (fun _ => rfl)
      fun c => ⟨_, rfl, .refl _⟩

end Console

end RecordSearch
