import RecordSearch.Users.User

/-! Ten users to try a search on. -/

namespace RecordSearch

/-- The first of January 2024; the points in time of all samples are later by whole hours. -/
def sampleStart : Instant := (Instant.of? 1704067200 0).getD .epoch

/-- What sets the sample users apart. -/
structure UserSketch where
  fullName : String
  email : String
  gender : Gender
  role : Role
  phoneNumber : Option String
  address : Option String
  isEmailVerified : Bool

/-- The sample user of a sketch. Those with odd numbers have a date of birth and a later change. -/
def UserSketch.user (s : UserSketch) (id : Nat) : User :=
  let odd := id % 2 = 1
  { id := .ofNat id
    fullName := s.fullName
    email := s.email
    password := "$argon2id$sample$" ++ Text.integerText id
    gender := s.gender
    role := s.role
    phoneNumber := s.phoneNumber
    address := s.address
    dateOfBirth := if odd then Date.of? (1985 + id) (1 + id % 12) 10 else none
    aboutMe := if odd then some ("Hi, I am " ++ s.fullName) else none
    profilePicture := none
    isEmailVerified := s.isEmailVerified
    createdAt := sampleStart.later (86400 * id)
    updatedAt := if odd then some (sampleStart.later (86400 * (id + 30))) else none }

/-- The sketches of the sample users. -/
def userSketches : List UserSketch :=
  [⟨"Nguyen Van An", "an.nguyen@bonddy.vn", .male, .admin, some "0901000001",
     some "12 Le Loi, District 1, Ho Chi Minh City", true⟩,
   ⟨"Tran Thi Binh", "binh.tran@bonddy.vn", .female, .buddy, some "0901000002",
     some "45 Hai Ba Trung, Hanoi", true⟩,
   ⟨"Le Hoang Cuong", "cuong.le@gmail.com", .male, .support, none,
     some "8 Tran Phu, Da Nang", false⟩,
   ⟨"Pham Minh Chau", "chau.pham@gmail.com", .female, .partner, some "0901000004", none, true⟩,
   ⟨"Hoang Gia Bao", "bao.hoang@bonddy.vn", .male, .user, some "0901000005",
     some "99 Nguyen Hue, Ho Chi Minh City", false⟩,
   ⟨"Vu Thu Ha", "ha.vu@gmail.com", .female, .user, none, none, false⟩,
   ⟨"Dang Quoc Viet", "viet.dang@bonddy.vn", .other, .buddy, some "0901000007",
     some "21 Ly Thuong Kiet, Hue", true⟩,
   ⟨"Bui Ngoc Lan", "lan.bui@gmail.com", .female, .support, some "0901000008",
     some "3 Bach Dang, Da Nang", true⟩,
   ⟨"Do Thanh Tung", "tung.do@bonddy.vn", .male, .partner, none,
     some "17 Ham Nghi, Ho Chi Minh City", false⟩,
   ⟨"Ngo Phuong Mai", "mai.ngo@gmail.com", .female, .user, some "0901000010",
     some "60 Kim Ma, Hanoi", true⟩]

/-- The sample users, numbered from 1 and created one day apart. -/
def sampleUsers : List User := userSketches.mapIdx fun i s => s.user (i + 1)

end RecordSearch
