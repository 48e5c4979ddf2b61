import Mathlib.Data.List.Nodup
import RecordSearch.Contacts.Document
import RecordSearch.Proofs.Compilation
import RecordSearch.Proofs.Members
import RecordSearch.Proofs.Reading
import RecordSearch.Users.Document

/-! Requests in any layout.

    The members of a request are judged one by one and then taken by name. So their order does not
    matter, and members of other names do not either, as long as they can be read at all. Only a
    known name that repeats is refused.

        {"search":"an","page":2}                       a request
        { "page":2, "note":[0], "search" : "an" }      the same request
        {"search":"an","page":2,"page":2}              none -/

namespace RecordSearch

namespace Json

/-! ### Documents that can be kept -/

mutual

/-- A document that is free of gaps of many kinds is free of gaps of fewer. -/
theorem freeOf_mono {fewer more : Gap → Bool} (h : ∀ g, fewer g = true → more g = true) :
    ∀ v : Json, v.freeOf more = true → v.freeOf fewer = true
  | .array items, free => by
    simp only [freeOf] at free ⊢
    exact freeOfItems_mono h items free
  | .object members, free => by
    simp only [freeOf] at free ⊢
    exact freeOfMembers_mono h members free
  | .gap g, free => by
    simp only [freeOf, Bool.not_eq_true'] at free ⊢
    cases bad : fewer g with
    | false => rfl
    | true =>
      rw [h g bad] at free
      cases free
  | .null, _ | .bool _, _ | .integer _, _ | .real _, _ | .text _, _ => rfl

theorem freeOfItems_mono {fewer more : Gap → Bool} (h : ∀ g, fewer g = true → more g = true) :
    ∀ vs : List Json, freeOfItems more vs = true → freeOfItems fewer vs = true
  | [], _ => rfl
  | v :: vs, free => by
    simp only [freeOfItems, Bool.and_eq_true] at free ⊢
    exact ⟨freeOf_mono h v free.1, freeOfItems_mono h vs free.2⟩

theorem freeOfMembers_mono {fewer more : Gap → Bool} (h : ∀ g, fewer g = true → more g = true) :
    ∀ ms : List (String × Json), freeOfMembers more ms = true → freeOfMembers fewer ms = true
  | [], _ => rfl
  | (_, v) :: ms, free => by
    simp only [freeOfMembers, Bool.and_eq_true] at free ⊢
    exact ⟨freeOf_mono h v free.1, freeOfMembers_mono h ms free.2⟩

end

theorem skippable_of_keepable {limit : Nat} {v : Json} (h : v.keepable limit = true) :
    v.skippable = true := by
  rw [keepable, Bool.and_eq_true] at h
  cases v with
  | gap g => cases h.1
  | _ => exact freeOf_mono (fun _ _ => rfl) _ h.1

/-! ### Members in another order, with others between them -/

section

variable {known : String → Option (Json → Decoded Unit)} {other : Json → Bool}
  {ms ns extra : Members} {name : String}

/-- `ns` are the members `ms` in some order, with others between them that have no judge and can be
    passed over. -/
def Relaid (known : String → Option (Json → Decoded Unit)) (other : Json → Bool)
    (ms ns : Members) : Prop :=
  ∃ extra, ns.Perm (ms ++ extra) ∧ ∀ m ∈ extra, known m.1 = none ∧ other m.2 = true

theorem judgedNames_eq (ms : Members) :
    judgedNames known ms = (ms.filter fun m => (known m.1).isSome).map Prod.fst := by
  rw [judgedNames, List.filter_map]
  rfl

theorem judgedNames_perm (perm : ms.Perm ns) :
    (judgedNames known ms).Perm (judgedNames known ns) :=
  (perm.map Prod.fst).filter _

theorem judgedNames_of_unknown (unknown : ∀ m ∈ ms, known m.1 = none) :
    judgedNames known ms = [] := by
  rw [judgedNames_eq, List.map_eq_nil_iff, List.filter_eq_nil_iff]
  intro m hm
  simp [unknown m hm]

/-- Names with a judge are found among the members with a judge. -/
theorem lookup_filter_known (judged : (known name).isSome = true) (ms : Members) :
    (ms.filter fun m => (known m.1).isSome).lookup name = ms.lookup name := by
  induction ms with
  | nil => rfl
  | cons m ms ih =>
    obtain ⟨n, v⟩ := m
    by_cases same : name = n
    · subst same
      rw [List.filter_cons, if_pos judged, List.lookup_cons_self, List.lookup_cons_self]
    · rw [List.lookup_cons, beq_eq_false_iff_ne.2 same, List.filter_cons]
      split
      next => rw [List.lookup_cons, beq_eq_false_iff_ne.2 same]; exact ih
      next => exact ih

namespace Relaid

variable (h : Relaid known other ms ns)

include h

/-- The names with a judge are the same, in some order. -/
theorem judgedNames_perm : (judgedNames known ns).Perm (judgedNames known ms) := by
  obtain ⟨extra, perm, unknown⟩ := h
  have names : (judgedNames known ns).Perm (judgedNames known (ms ++ extra)) :=
    Json.judgedNames_perm perm
  rwa [judgedNames_append, judgedNames_of_unknown fun m hm => (unknown m hm).1,
    List.append_nil] at names

/-- Both are gone through alike. -/
theorem walk_eq_ok_iff :
    walk known other [] ns = .ok () ↔ walk known other [] ms = .ok () := by
  have names := h.judgedNames_perm
  obtain ⟨extra, perm, unknown⟩ := h
  have fits : (∀ m ∈ ns, Fit known other m) ↔ ∀ m ∈ ms, Fit known other m := by
    constructor
    · intro fits m hm
      exact fits m (perm.mem_iff.2 (List.mem_append_left _ hm))
    · intro fits m hm
      rcases List.mem_append.1 (perm.mem_iff.1 hm) with old | new
      · exact fits m old
      · rw [Fit, (unknown m new).1]
        exact (unknown m new).2
  rw [Json.walk_eq_ok_iff, Json.walk_eq_ok_iff, fits, names.nodup_iff]
  simp

/-- If no name with a judge repeats, names with a judge are found alike. -/
theorem lookup_eq (distinct : (judgedNames known ms).Nodup) (judged : (known name).isSome = true) :
    ns.lookup name = ms.lookup name := by
  obtain ⟨extra, perm, unknown⟩ := h
  rw [← lookup_filter_known judged ns, ← lookup_filter_known judged ms]
  have none : extra.filter (fun m => (known m.1).isSome) = [] := by
    rw [List.filter_eq_nil_iff]
    intro m hm
    simp [(unknown m hm).1]
  have perm := perm.filter fun m => (known m.1).isSome
  rw [List.filter_append, none, List.append_nil] at perm
  rw [judgedNames_eq] at distinct
  exact (lookup_perm distinct perm.symm name).symm

end Relaid

/-! ### Structures and requests -/

/-- A structure that is built from its fields by name. -/
def Codec.ByName {α : Type} (c : Codec α) : Prop :=
  ∀ ms ns : Members, (∀ name, (c.judge name).isSome = true → ns.lookup name = ms.lookup name) →
    c.build ns = c.build ms

/-- A structure that is built by name is read alike. -/
theorem Codec.ByName.decode_relaid {α : Type} {c : Codec α} (byName : c.ByName)
    (h : Relaid c.judge skippable ms ns) {a : α} :
    c.decode (object ns) = .ok a ↔ c.decode (object ms) = .ok a := by
  rw [Codec.decode_object_eq_ok_iff, Codec.decode_object_eq_ok_iff, h.walk_eq_ok_iff]
  refine and_congr_right fun walked => ?_
  obtain ⟨-, distinct, -⟩ := Json.walk_eq_ok_iff.1 walked
  rw [byName ms ns fun name judged => h.lookup_eq distinct judged]

end

end Json

namespace Request

open Json

variable {δ : Type} {typed : Codec δ} {ms ns : Members}

/-- The name of a directive or of a typed filter. -/
def Known (typed : Codec δ) (name : String) : Prop :=
  (directive name).isSome = true ∨ (typed.judge name).isSome = true

/-- A member that means nothing to a request: its name is not known, and an object with it is a
    document that can be read, which may nest one level deeper than a member. -/
structure Foreign (typed : Codec δ) (m : String × Json) : Prop where
  unknown : ¬Known typed m.1
  readable : (object [m]).keepable (keptDepth + 1) = true

theorem Foreign.directive {m : String × Json} (h : Foreign typed m) : directive m.1 = none := by
  rw [← Option.not_isSome_iff_eq_none]
  exact fun known => h.unknown (.inl known)

theorem Foreign.judge {m : String × Json} (h : Foreign typed m) : typed.judge m.1 = none := by
  rw [← Option.not_isSome_iff_eq_none]
  exact fun known => h.unknown (.inr known)

theorem Foreign.keepable {m : String × Json} (h : Foreign typed m) :
    m.2.keepable keptDepth = true := by
  have readable := h.readable
  simp only [Json.keepable, freeOf, freeOfMembers, depth, depthMembers, Bool.and_true,
    Bool.and_eq_true, decide_eq_true_eq] at readable ⊢
  obtain ⟨free, nesting⟩ := readable
  have nesting : max m.2.depth 0 + 1 ≤ keptDepth + 1 := of_decide_eq_true nesting
  exact ⟨free, by omega⟩

/-- A request is read alike from its members in any order, with others between them that mean
    nothing. -/
theorem decode_relaid {extra : Members} (byName : typed.ByName) (perm : ns.Perm (ms ++ extra))
    (foreign : ∀ m ∈ extra, Foreign typed m) {r : Request δ} :
    decode typed (object ns) = .ok r ↔ decode typed (object ms) = .ok r := by
  have whole : Relaid directive (Json.keepable keptDepth) ms ns :=
    ⟨extra, perm, fun m hm => ⟨(foreign m hm).directive, (foreign m hm).keepable⟩⟩
  have rest : Relaid typed.judge skippable (kept ms) (kept ns) := by
    refine ⟨kept extra, ?_, fun m hm => ?_⟩
    · rw [← kept_append]
      exact perm.filter _
    · have foreign := foreign m (List.mem_of_mem_filter hm)
      exact ⟨foreign.judge, skippable_of_keepable foreign.keepable⟩
  rw [decode_object_eq_ok_iff, decode_object_eq_ok_iff, whole.walk_eq_ok_iff,
    byName.decode_relaid rest]
  refine and_congr_right fun walked => ?_
  obtain ⟨-, distinct, -⟩ := walk_eq_ok_iff.1 walked
  rw [header_congr fun name judged => whole.lookup_eq distinct judged]

/-- A request is refused if a directive or a typed filter repeats. -/
theorem decode_ne_ok_of_repeated {name : String}
    (known : Known typed name) (twice : 2 ≤ (ms.map Prod.fst).count name) (r : Request δ) :
    decode typed (object ms) ≠ .ok r := by
  intro accepted
  obtain ⟨walked, -, domain⟩ := decode_object_eq_ok_iff.1 accepted
  obtain ⟨-, distinct, -⟩ := walk_eq_ok_iff.1 walked
  by_cases isDirective : (directive name).isSome = true
  · have once := List.nodup_iff_count_le_one.1 distinct name
    rw [judgedNames, List.count_filter (p := fun n => (directive n).isSome) isDirective] at once
    omega
  · obtain ⟨walked, -⟩ := Codec.decode_object_eq_ok_iff.1 domain
    obtain ⟨-, distinct, -⟩ := walk_eq_ok_iff.1 walked
    have once := List.nodup_iff_count_le_one.1 distinct name
    have keeps : (directive name).isNone = true := by
      rwa [← Option.not_isSome, Bool.not_eq_true', ← Bool.not_eq_true]
    have all : (kept ms).map Prod.fst = (ms.map Prod.fst).filter fun n => (directive n).isNone := by
      rw [List.filter_map]
      rfl
    have isTyped := known.resolve_left isDirective
    rw [judgedNames, List.count_filter (p := fun n => (typed.judge n).isSome) isTyped, all,
      List.count_filter (p := fun n => (directive n).isNone) keeps] at once
    omega

end Request

open Json

theorem UserFilters.byName (nothing : Json → Bool) : (UserFilters.codec nothing).ByName := by
  intro ms ns same
  simp only [codec, fieldOption, fieldOr, same "gender" rfl, same "isEmailVerified" rfl,
    same "createdFrom" rfl, same "createdTo" rfl]

theorem ContactFilters.byName (nothing : Json → Bool) : (ContactFilters.codec nothing).ByName := by
  intro ms ns same
  simp only [codec, fieldOr, same "createdFrom" rfl, same "createdTo" rfl]

namespace DomainFilters

variable {ρ δ : Type} {d : DomainFilters ρ δ}

/-- Reading a text of an object is reading the object. -/
theorem readRequest_eq {s : String} {ms : Members} (laid : LaidOut ms s) :
    d.readRequest s = d.decodeRequest (object ms) := by
  rw [readRequest, Request.read, parse_eq_object_iff.2 laid, decodeRequest]
  dsimp only
  cases Request.decode (d.codec isNothingOrEmpty) (object ms) with
  | error e => rfl
  | ok r => rfl

/-- How a request depends on the layout of its text. -/
structure ReadsAnyLayout (d : DomainFilters ρ δ) : Prop where
  /-- Only texts of objects are accepted. -/
  laidOut : ∀ s r, d.readRequest s = .ok r → ∃ ms, LaidOut ms s
  /-- Two texts with the same members, in any order and with any others between them that mean
      nothing, are both refused, or both accepted as the same request. -/
  relaid : ∀ s t ms ns extra, LaidOut ms s → LaidOut ns t → ns.Perm (ms ++ extra) →
    (∀ m ∈ extra, Request.Foreign (d.codec isNothingOrEmpty) m) →
    (d.readRequest t).toOption = (d.readRequest s).toOption
  /-- A text that repeats a directive or a typed filter is refused. -/
  repeated : ∀ s ms name, LaidOut ms s → Request.Known (d.codec isNothingOrEmpty) name →
    2 ≤ (ms.map Prod.fst).count name → ∀ r, d.readRequest s ≠ .ok r

/-- Typed filters that are built by name make requests that are read in any layout. -/
theorem readsAnyLayout_of_byName (byName : (d.codec isNothingOrEmpty).ByName) :
    d.ReadsAnyLayout where
  laidOut s r accepted := by
    rw [readRequest, Request.read] at accepted
    cases said : parse s with
    | mk v complete =>
      rw [said] at accepted
      obtain ⟨r', decoded, ended⟩ := exceptBind_eq_ok_iff.1 accepted
      cases complete with
      | false => cases ended
      | true =>
        cases v with
        | object ms => exact ⟨ms, parse_eq_object_iff.1 said⟩
        | _ => cases decoded
  relaid s t ms ns extra laid laid' perm foreign := by
    rw [readRequest_eq laid, readRequest_eq laid']
    refine Option.ext fun r => ?_
    rw [exceptToOption_eq_some_iff, exceptToOption_eq_some_iff]
    exact Request.decode_relaid byName perm foreign
  repeated s ms name laid known twice r := by
    rw [readRequest_eq laid]
    exact Request.decode_ne_ok_of_repeated known twice r

end DomainFilters

/-- Requests for users and for contacts are read in any layout. -/
theorem requests_readAnyLayout :
    UserFilters.domain.ReadsAnyLayout ∧ ContactFilters.domain.ReadsAnyLayout :=
  ⟨DomainFilters.readsAnyLayout_of_byName (UserFilters.byName isNothingOrEmpty),
    DomainFilters.readsAnyLayout_of_byName (ContactFilters.byName isNothingOrEmpty)⟩

end RecordSearch
