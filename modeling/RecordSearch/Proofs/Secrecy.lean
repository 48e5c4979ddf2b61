import Mathlib.Data.List.Forall2
import RecordSearch.Proofs.Plan
import RecordSearch.Proofs.Sorting
import RecordSearch.Users.Document
import RecordSearch.Users.Sample

/-! What a search cannot show.

    A change of the records is unseen by a field that reads the same before and after it. Whatever
    looks at records through fields that do not see the change, whether it filters, sorts, counts or
    cuts a page out, commutes with it. No field of the users' schema sees a change of passwords, and
    neither do the typed filters, the returned form or the stored form of a user. -/

namespace RecordSearch

variable {ρ δ : Type}

/-! ### Unseen changes -/

/-- A change of records that a field does not see. -/
def Field.Blind (f : Field ρ) (change : ρ → ρ) : Prop := ∀ x, f.read (change x) = f.read x

/-- A change that no field of a predicate sees does not decide who passes. -/
theorem Predicate.accepts_change {p : Predicate ρ} {change : ρ → ρ}
    (blind : ∀ f ∈ p.fields, f.Blind change) (x : ρ) : p.accepts (change x) = p.accepts x :=
  p.accepts_congr fun f hf => blind f hf x

namespace SortKey

variable {key : SortKey ρ} {change : ρ → ρ}

theorem comap_eq_self (blind : key.field.Blind change) : key.comap change = key := by
  obtain ⟨⟨info, read⟩, order⟩ := key
  have same : (fun x => read (change x)) = read := funext blind
  rw [comap]
  simp only [same]

/-- A change that the sort field does not see moves no record. -/
theorem sort_map (blind : key.field.Blind change) (records : List ρ) :
    key.sort (records.map change) = (key.sort records).map (List.map change) := by
  rw [← map_sort_comap, comap_eq_self blind]

end SortKey

namespace Plan

/-- No field that the plan looks at sees the change. -/
structure Blind (plan : Plan ρ) (change : ρ → ρ) : Prop where
  predicate : ∀ f ∈ plan.predicate.fields, f.Blind change
  sort : ∀ key ∈ plan.sort, key.field.Blind change

variable {plan : Plan ρ} {change : ρ → ρ}

theorem Blind.filter_map (blind : plan.Blind change) (records : List ρ) :
    (records.map change).filter plan.predicate.accepts =
      (records.filter plan.predicate.accepts).map change := by
  have same : plan.predicate.accepts ∘ change = plan.predicate.accepts :=
    funext fun x => Predicate.accepts_change blind.predicate x
  rw [List.filter_map, same]

/-- An unseen change does not change how many records match. -/
theorem Blind.countP_map (blind : plan.Blind change) (records : List ρ) :
    (records.map change).countP plan.predicate.accepts = records.countP plan.predicate.accepts := by
  rw [List.countP_eq_length_filter, List.countP_eq_length_filter, blind.filter_map, List.length_map]

/-- The page of changed records holds the changed records of the page. -/
theorem Blind.execute_map (blind : plan.Blind change) (records : List ρ) :
    plan.execute (records.map change) = (plan.execute records).map (List.map change) := by
  rw [execute, execute, blind.filter_map]
  rcases hs : plan.sort with _ | key
  · simp only [Window.slice, List.map_take, List.map_drop, Option.map_some]
  · have unseen : key.field.Blind change := blind.sort key (by rw [hs]; rfl)
    simp only [key.sort_map unseen, Option.map_map]
    refine Option.map_congr fun sorted _ => ?_
    simp only [Function.comp_apply, List.length_map, List.map_take, List.map_drop]

end Plan

/-! ### Searches over changed records -/

section

variable {τ : Type} {pager : Pager} {shape : Shape ρ} {typed : δ → List (Predicate ρ)}
  {r : Request δ} {project : ρ → τ} {change : ρ → ρ}

/-- A plan sees no change that the fields of the schema and of the typed filters do not see. -/
theorem blind_planRequest (schema : ∀ f ∈ shape.schema.fields, f.Blind change)
    (domain : ∀ p ∈ typed r.domain, ∀ f ∈ p.fields, f.Blind change) :
    (planRequest pager shape typed r).value.Blind change := by
  constructor
  · intro f hf
    rcases mem_of_mem_fields_planRequest pager shape typed r hf with hs | ⟨p, hp, hfp⟩
    · exact schema f hs
    · exact domain p hp f hfp
  · intro key hkey
    exact schema key.field (mem_of_mem_sort_planRequest pager shape typed r hkey)

/-- A search gives the same page and the same notes for changed records, if neither the fields nor
    the returned form see the change. -/
theorem search_ofList_map (schema : ∀ f ∈ shape.schema.fields, f.Blind change)
    (domain : ∀ p ∈ typed r.domain, ∀ f ∈ p.fields, f.Blind change)
    (form : ∀ x, project (change x) = project x) (records : List ρ) :
    (search pager shape typed (Source.ofList (records.map change)) r project :
        Attempt (ResultPage τ)) =
      search pager shape typed (Source.ofList records) r project := by
  have blind : (planRequest pager shape typed r).value.Blind change :=
    blind_planRequest schema domain
  refine Attempt.eq_of ?_ ?_
  · have items : ∀ xs : List ρ, (xs.map change).map project = xs.map project := fun xs => by
      rw [List.map_map]
      exact List.map_congr_left fun x _ => form x
    rw [value_search_ofList, value_search_ofList]
    simp only [blind.execute_map, blind.countP_map, Option.map_map]
    exact Option.map_congr fun page _ => by rw [Function.comp_apply, items]
  · rw [log_search_ofList, log_search_ofList]
    simp only [blind.execute_map, blind.countP_map]
    rcases (planRequest pager shape typed r).value.execute records with _ | page
    · rfl
    · simp only [Option.map_some, Option.elim_some, List.length_map]

end

/-! ### Passwords -/

namespace User

/-- Two users that differ in nothing but the password. -/
def Alike (u v : User) : Prop := { u with password := v.password } = v

instance (u v : User) : Decidable (u.Alike v) :=
  inferInstanceAs (Decidable ({ u with password := v.password } = v))

/-- The user without the password. -/
def masked (u : User) : User := { u with password := "" }

theorem Alike.masked_eq {u v : User} (h : u.Alike v) : u.masked = v.masked := by
  rw [← h]
  rfl

theorem map_masked_eq {us vs : List User} (h : List.Forall₂ Alike us vs) :
    us.map masked = vs.map masked := by
  induction h with
  | nil => rfl
  | cons hu _ ih => rw [List.map_cons, List.map_cons, hu.masked_eq, ih]

/-- No field of the schema reads the password. -/
theorem blind_masked : ∀ f ∈ shape.schema.fields, f.Blind masked := by
  have reads : (shape.schema.fields.map fun f u => f.read u.masked) =
      shape.schema.fields.map fun f u => f.read u := rfl
  intro f hf u
  exact congrFun (List.map_inj_left.1 reads f hf) u

end User

/-- A test that is only made for a given value looks at its field. -/
theorem Predicate.eq_of_mem_fields_given {α : Type} {given : Option α} {test : α → Test}
    {field f : Field ρ} {p : Predicate ρ}
    (hp : p ∈ (given.map fun a => Predicate.test field (test a)).toList) (hf : f ∈ p.fields) :
    f = field := by
  obtain ⟨a, -, rfl⟩ := Option.map_eq_some_iff.1 (Option.mem_toList.1 hp)
  exact List.mem_singleton.1 hf

/-- Bounds on a field look at this field. -/
theorem DomainFilters.eq_of_mem_fields_between {field f : Field ρ} {lower upper : Option Instant}
    {p : Predicate ρ} (hp : p ∈ between field lower upper) (hf : f ∈ p.fields) : f = field := by
  rw [between, List.mem_append] at hp
  rcases hp with hp | hp
  · exact Predicate.eq_of_mem_fields_given hp hf
  · exact Predicate.eq_of_mem_fields_given hp hf

/-- The typed filters on users look at fields of the schema. -/
theorem UserFilters.mem_of_mem_fields {d : UserFilters} {p : Predicate User} {f : Field User}
    (hp : p ∈ d.predicates) (hf : f ∈ p.fields) : f ∈ User.shape.schema.fields := by
  rw [predicates, List.mem_append, List.mem_append] at hp
  rcases hp with (hp | hp) | hp
  · obtain rfl := Predicate.eq_of_mem_fields_given hp hf
    simp [User.shape]
  · obtain rfl := Predicate.eq_of_mem_fields_given hp hf
    simp [User.shape]
  · obtain rfl := DomainFilters.eq_of_mem_fields_between hp hf
    simp [User.shape]

/-- Searching users cannot tell passwords apart: for users that differ in nothing else the page and
    the notes are the same. Neither does the stored form depend on them. -/
theorem search_users_alike (pager : Pager) (r : Request UserFilters) {us vs : List User}
    (alike : List.Forall₂ User.Alike us vs) :
    (search pager User.shape UserFilters.predicates (Source.ofList us) r User.response :
        Attempt (ResultPage UserResponse)) =
      search pager User.shape UserFilters.predicates (Source.ofList vs) r User.response ∧
    (∀ u v : User, u.Alike v → User.codec.encode u = User.codec.encode v) ∧
    ∀ u : User, ∀ m ∈ User.codec.members u, m.1 ≠ "password" := by
  have hidden : ∀ us : List User,
      (search pager User.shape UserFilters.predicates (Source.ofList (us.map User.masked)) r
          User.response : Attempt (ResultPage UserResponse)) =
        search pager User.shape UserFilters.predicates (Source.ofList us) r User.response :=
    search_ofList_map User.blind_masked
      (fun p hp f hf => User.blind_masked f (UserFilters.mem_of_mem_fields hp hf)) fun _ => rfl
  refine ⟨?_, ?_, ?_⟩
  · rw [← hidden us, User.map_masked_eq alike, hidden vs]
  · intro u v h
    have stored : ∀ u : User, User.codec.encode u.masked = User.codec.encode u := fun _ => rfl
    rw [← stored u, h.masked_eq, stored v]
  · intro u m hm
    have names : (User.codec.members u).map Prod.fst =
        ["id", "fullName", "email", "gender", "role", "phoneNumber", "address", "dateOfBirth",
          "aboutMe", "profilePicture", "isEmailVerified", "createdAt", "updatedAt"] := rfl
    have named : m.1 ∈ (User.codec.members u).map Prod.fst := List.mem_map_of_mem hm
    rw [names] at named
    rintro same
    rw [same] at named
    exact absurd named (by decide)

/-- Asking for users by their password, in the order of the password. -/
theorem search_users_alike_sampleUsers :
    List.Forall₂ User.Alike sampleUsers (sampleUsers.map fun u => { u with password := "s3cret" }) ∧
      (search .standard User.shape UserFilters.predicates (Source.ofList sampleUsers)
        { search := some "s3cret", sortBy := some "password",
          filters := [⟨"password", .equals, some "s3cret"⟩], domain := {} }
        User.response : Attempt _) =
      search .standard User.shape UserFilters.predicates
        (Source.ofList (sampleUsers.map fun u => { u with password := "s3cret" }))
        { search := some "s3cret", sortBy := some "password",
          filters := [⟨"password", .equals, some "s3cret"⟩], domain := {} }
        User.response := by
  have alike : List.Forall₂ User.Alike sampleUsers
      (sampleUsers.map fun u => { u with password := "s3cret" }) :=
    List.forall₂_map_right_iff.2 (List.forall₂_same.2 fun _ _ => rfl)
  exact ⟨alike, (search_users_alike _ _ alike).1⟩

end RecordSearch
