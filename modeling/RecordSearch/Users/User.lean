import RecordSearch.DomainFilters
import RecordSearch.TagSet

/-! Users of a service: the record, what of it can be searched, and the form in which it is returned.

    The password is no field of the schema and no part of the returned form. -/

namespace RecordSearch

/-- The gender that a user gives. -/
inductive Gender where | male | female | other
  deriving DecidableEq, Repr

namespace Gender

/-- The names of the genders. -/
def set : TagSet := ⟨"Gender", ["Male", "Female", "Other"]⟩

/-- The place of a gender. -/
def index : Gender → Nat
  | male => 0
  | female => 1
  | other => 2

/-- The gender at a place. -/
def ofIndex? : Nat → Option Gender
  | 0 => some male
  | 1 => some female
  | 2 => some other
  | _ => none

/-- The name of a gender. -/
def tag (g : Gender) : String := (set.tag? g.index).getD ""

@[simp] theorem ofIndex?_index (g : Gender) : ofIndex? g.index = some g := by cases g <;> rfl

end Gender

/-- What a user may do. -/
inductive Role where | admin | buddy | support | partner | user
  deriving DecidableEq, Repr

namespace Role

/-- The names of the roles. -/
def set : TagSet := ⟨"Role", ["Admin", "Buddy", "CSKH", "Partner", "User"]⟩

/-- The place of a role. -/
def index : Role → Nat
  | admin => 0
  | buddy => 1
  | support => 2
  | partner => 3
  | user => 4

/-- The role at a place. -/
def ofIndex? : Nat → Option Role
  | 0 => some admin
  | 1 => some buddy
  | 2 => some support
  | 3 => some partner
  | 4 => some user
  | _ => none

/-- The name of a role. -/
def tag (r : Role) : String := (set.tag? r.index).getD ""

@[simp] theorem ofIndex?_index (r : Role) : ofIndex? r.index = some r := by cases r <;> rfl

end Role

/-- A user as it is stored. -/
structure User where
  id : Int32
  fullName : String
  email : String
  password : String
  gender : Gender
  role : Role
  phoneNumber : Option String
  address : Option String
  dateOfBirth : Option Date
  aboutMe : Option String
  profilePicture : Option String
  isEmailVerified : Bool
  createdAt : Instant
  updatedAt : Option Instant
  deriving DecidableEq, Repr

/-- A user as it is returned: everything but the password. -/
structure UserResponse where
  id : Int32
  email : String
  fullName : String
  gender : Gender
  role : Role
  phoneNumber : Option String
  address : Option String
  dateOfBirth : Option Date
  aboutMe : Option String
  profilePicture : Option String
  isEmailVerified : Bool
  createdAt : Instant
  updatedAt : Option Instant
  deriving DecidableEq, Repr

namespace User

/-- The returned form of a user. -/
def response (u : User) : UserResponse :=
  ⟨u.id, u.email, u.fullName, u.gender, u.role, u.phoneNumber, u.address, u.dateOfBirth, u.aboutMe,
    u.profilePicture, u.isEmailVerified, u.createdAt, u.updatedAt⟩

/-- The identifier. -/
def idField : Field User := .required "id" .int32 fun u => .number (.int u.id.toInt)

/-- The full name. -/
def fullNameField : Field User := .required "fullName" .text fun u => .text u.fullName

/-- The gender. -/
def genderField : Field User :=
  .required "gender" (.tag Gender.set.tags) fun u => .tag u.gender.index

/-- Whether the mail address was confirmed. -/
def isEmailVerifiedField : Field User :=
  .required "isEmailVerified" .bool fun u => .bool u.isEmailVerified

/-- When the user was created. -/
def createdAtField : Field User := .required "createdAt" .timestamp fun u => .timestamp u.createdAt

/-- Users as a searchable shape. -/
def shape : Shape User where
  schema :=
    { shape := "users"
      fields :=
        [idField, fullNameField,
         .required "email" .text fun u => .text u.email,
         genderField,
         .required "role" (.tag Role.set.tags) fun u => .tag u.role.index,
         .nullable "phoneNumber" .text .text (·.phoneNumber),
         .nullable "address" .text .text (·.address),
         .nullable "dateOfBirth" .timestamp (fun d : Date => .timestamp d.midnight) (·.dateOfBirth),
         .nullable "aboutMe" .text .text (·.aboutMe),
         .nullable "profilePicture" .text .text (·.profilePicture),
         isEmailVerifiedField, createdAtField,
         .nullable "updatedAt" .timestamp .timestamp (·.updatedAt)] }
  textFields := ["fullName", "email", "phoneNumber", "address"]
  defaultSort := some "createdAt"

end User

/-- Typed filters on users. -/
structure UserFilters where
  gender : Option Gender := none
  isEmailVerified : Option Bool := none
  createdFrom : Option Instant := none
  createdTo : Option Instant := none
  deriving DecidableEq, Repr

/-- The conditions of typed filters on users. -/
def UserFilters.predicates (f : UserFilters) : List (Predicate User) :=
  (f.gender.map fun g => .test User.genderField (.equals (.tag g.index))).toList ++
    (f.isEmailVerified.map fun b => .test User.isEmailVerifiedField (.equals (.bool b))).toList ++
    DomainFilters.between User.createdAtField f.createdFrom f.createdTo

end RecordSearch
