import RecordSearch.Users.User

/-! Users in documents. -/

namespace RecordSearch

open Json

/-- A gender by its exact name. -/
def Gender.decode (nothing : Json → Bool) (v : Json) : Decoded Gender := do
  match ofIndex? (← decodeName set.tags nothing v) with
  | some g => .ok g
  | none => .error .mismatch

/-- A role by its exact name. -/
def Role.decode (nothing : Json → Bool) (v : Json) : Decoded Role := do
  match ofIndex? (← decodeName set.tags nothing v) with
  | some r => .ok r
  | none => .error .mismatch

/-- A stored user. The password may be left out and is never written. -/
def User.codec : Codec User where
  fields :=
    [("id", check (decodeInt .bits32)),
     ("fullName", check decodeText),
     ("email", check decodeText),
     ("password", check decodeText),
     ("gender", check (Gender.decode isNothing)),
     ("role", check (Role.decode isNothing)),
     ("phoneNumber", check (decodeOption decodeText)),
     ("address", check (decodeOption decodeText)),
     ("dateOfBirth", check (decodeOption decodeDate)),
     ("aboutMe", check (decodeOption decodeText)),
     ("profilePicture", check (decodeOption decodeText)),
     ("isEmailVerified", check decodeBool),
     ("createdAt", check decodeInstant),
     ("updatedAt", check (decodeOption decodeInstant))]
  required := 14
  build ms := do
    let id ← field ms "id" (decodeInt .bits32)
    let fullName ← field ms "fullName" decodeText
    let email ← field ms "email" decodeText
    let password ← fieldOr ms "password" decodeText ""
    let gender ← field ms "gender" (Gender.decode isNothing)
    let role ← field ms "role" (Role.decode isNothing)
    let phoneNumber ← fieldOption ms "phoneNumber" decodeText
    let address ← fieldOption ms "address" decodeText
    let dateOfBirth ← fieldOption ms "dateOfBirth" decodeDate
    let aboutMe ← fieldOption ms "aboutMe" decodeText
    let profilePicture ← fieldOption ms "profilePicture" decodeText
    let isEmailVerified ← field ms "isEmailVerified" decodeBool
    let createdAt ← field ms "createdAt" decodeInstant
    let updatedAt ← fieldOption ms "updatedAt" decodeInstant
    pure ⟨.ofInt id, fullName, email, password, gender, role, phoneNumber, address, dateOfBirth,
      aboutMe, profilePicture, isEmailVerified, createdAt, updatedAt⟩
  members u :=
    [("id", integer u.id.toInt),
     ("fullName", text u.fullName),
     ("email", text u.email),
     ("gender", text u.gender.tag),
     ("role", text u.role.tag),
     ("phoneNumber", ofOption text u.phoneNumber),
     ("address", ofOption text u.address),
     ("dateOfBirth", ofOption ofDate u.dateOfBirth),
     ("aboutMe", ofOption text u.aboutMe),
     ("profilePicture", ofOption text u.profilePicture),
     ("isEmailVerified", bool u.isEmailVerified),
     ("createdAt", ofInstant u.createdAt),
     ("updatedAt", ofOption ofInstant u.updatedAt)]

/-- The document of a returned user. -/
def UserResponse.encode (u : UserResponse) : Json :=
  object
    [("id", integer u.id.toInt),
     ("email", text u.email),
     ("fullName", text u.fullName),
     ("gender", text u.gender.tag),
     ("role", text u.role.tag),
     ("phoneNumber", ofOption text u.phoneNumber),
     ("address", ofOption text u.address),
     ("dateOfBirth", ofOption ofDate u.dateOfBirth),
     ("aboutMe", ofOption text u.aboutMe),
     ("profilePicture", ofOption text u.profilePicture),
     ("isEmailVerified", bool u.isEmailVerified),
     ("createdAt", ofInstant u.createdAt),
     ("updatedAt", ofOption ofInstant u.updatedAt)]

/-- Typed filters on users; what is not given is not written. -/
def UserFilters.codec (nothing : Json → Bool) : Codec UserFilters where
  fields :=
    [("gender", check (decodeOption (Gender.decode nothing))),
     ("isEmailVerified", check (decodeOption decodeBool)),
     ("createdFrom", check decodeBound),
     ("createdTo", check decodeBound)]
  required := 0
  build ms := do
    let gender ← fieldOption ms "gender" (Gender.decode nothing)
    let isEmailVerified ← fieldOption ms "isEmailVerified" decodeBool
    let createdFrom ← fieldOr ms "createdFrom" decodeBound none
    let createdTo ← fieldOr ms "createdTo" decodeBound none
    pure ⟨gender, isEmailVerified, createdFrom, createdTo⟩
  members f :=
    memberIfSome "gender" (fun g => text g.tag) f.gender ++
      memberIfSome "isEmailVerified" bool f.isEmailVerified ++
      memberIfSome "createdFrom" ofInstant f.createdFrom ++
      memberIfSome "createdTo" ofInstant f.createdTo

/-- Typed filters on users, as part of requests. -/
def UserFilters.domain : DomainFilters User UserFilters := ⟨{}, predicates, codec⟩

end RecordSearch
