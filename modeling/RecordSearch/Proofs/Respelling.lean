import RecordSearch.Proofs.Members
import RecordSearch.Proofs.Spelling
import RecordSearch.Users.Document
import RecordSearch.Users.Sample

/-! Documents of requests that differ in spelling.

    Two such documents have the same members in the same order. So they are gone through side by
    side: whatever is refused in one is refused in the other, and what is read from both is alike. -/

namespace RecordSearch

/-! ### Readings side by side -/

/-- Both documents are refused, or both are read, as values that are related. -/
inductive Decoded.Both {α β : Type} (R : α → β → Prop) : Decoded α → Decoded β → Prop
  | refused (d e : DecodeError) : Both R (.error d) (.error e)
  | read {a : α} {b : β} (h : R a b) : Both R (.ok a) (.ok b)

namespace Decoded.Both

variable {α β γ δ : Type} {R : α → β → Prop} {S : γ → δ → Prop}

theorem of_eq {R : α → α → Prop} (refl : ∀ a, R a a) (x : Decoded α) : Both R x x := by
  rcases x with e | a
  · exact .refused e e
  · exact .read (refl a)

theorem mono {S : α → β → Prop} {x : Decoded α} {y : Decoded β} (h : Both R x y)
    (weaken : ∀ a b, R a b → S a b) : Both S x y := by
  cases h with
  | refused d e => exact .refused d e
  | read h => exact .read (weaken _ _ h)

theorem bind {x : Decoded α} {y : Decoded β} {f : α → Decoded γ} {g : β → Decoded δ}
    (h : Both R x y) (next : ∀ a b, x = .ok a → y = .ok b → R a b → Both S (f a) (g b)) :
    Both S (x >>= f) (y >>= g) := by
  cases h with
  | refused d e => exact .refused d e
  | read h => exact next _ _ rfl rfl h

theorem map {x : Decoded α} {y : Decoded β} {f : α → γ} {g : β → δ} (h : Both R x y)
    (next : ∀ a b, R a b → S (f a) (g b)) : Both S (x.map f) (y.map g) := by
  cases h with
  | refused d e => exact .refused d e
  | read h => exact .read (next _ _ h)

end Decoded.Both

namespace Json

open Decoded (Both)

/-- The same members in the same order, with related values. -/
def Members.Related (R : String → Json → Json → Prop) (ms ns : Members) : Prop :=
  List.Forall₂ (fun m n => m.1 = n.1 ∧ R m.1 m.2 n.2) ms ns

section

variable {R : String → Json → Json → Prop} {ms ns : Members} {α β : Type} {S : α → β → Prop}
  {decode : Json → Decoded α} {decode' : Json → Decoded β}

theorem Members.Related.lookup (h : ms.Related R ns) (name : String) :
    Option.Rel (R name) (ms.lookup name) (ns.lookup name) := by
  induction h with
  | nil => exact .none
  | @cons m n ms ns first _ ih =>
    obtain ⟨k, v⟩ := m
    obtain ⟨k', w⟩ := n
    obtain ⟨rfl, related⟩ := first
    rw [List.lookup_cons, List.lookup_cons]
    cases same : name == k with
    | true =>
      obtain rfl := eq_of_beq same
      exact .some related
    | false => exact ih

theorem Members.Related.fieldOr (h : ms.Related R ns) (name : String) {a : α} {b : β}
    (found : ∀ v w, R name v w → Both S (decode v) (decode' w)) (otherwise : S a b) :
    Both S (Json.fieldOr ms name decode a) (Json.fieldOr ns name decode' b) := by
  have both := h.lookup name
  rw [Json.fieldOr, Json.fieldOr]
  generalize ms.lookup name = x at both ⊢
  generalize ns.lookup name = y at both ⊢
  cases both with
  | none => exact .read otherwise
  | some related => exact found _ _ related

theorem Members.Related.field (h : ms.Related R ns) (name : String)
    (found : ∀ v w, R name v w → Both S (decode v) (decode' w)) :
    Both S (Json.field ms name decode) (Json.field ns name decode') := by
  have both := h.lookup name
  rw [Json.field, Json.field]
  generalize ms.lookup name = x at both ⊢
  generalize ns.lookup name = y at both ⊢
  cases both with
  | none => exact .refused _ _
  | some related => exact found _ _ related

/-- Members that are judged alike pass together. -/
theorem Members.Related.walk {known : String → Option (Json → Decoded Unit)} {other : Json → Bool}
    (h : ms.Related R ns)
    (judged : ∀ name judge v w, known name = some judge → R name v w →
      Both (fun _ _ => True) (judge v) (judge w))
    (passed : ∀ name v w, known name = none → R name v w → other v = other w)
    (seen : List String) :
    Both (fun _ _ => True) (Json.walk known other seen ms) (Json.walk known other seen ns) := by
  induction h generalizing seen with
  | nil => exact .read trivial
  | @cons m n ms ns first _ ih =>
    obtain ⟨k, v⟩ := m
    obtain ⟨k', w⟩ := n
    obtain ⟨rfl, related⟩ := first
    rw [Json.walk, Json.walk]
    rcases hk : known k with _ | judge
    · simp only [passed k v w hk related]
      split
      · exact ih seen
      · exact .refused _ _
    · simp only
      split
      · exact .refused _ _
      · exact (judged k judge v w hk related).bind fun _ _ _ _ _ => ih (k :: seen)

theorem decodeItems_both {Q : Json → Json → Prop} {vs ws : List Json} (h : List.Forall₂ Q vs ws)
    (each : ∀ v w, Q v w → Both S (decode v) (decode' w)) :
    Both (List.Forall₂ S) (decodeItems decode vs) (decodeItems decode' ws) := by
  induction h with
  | nil => exact .read .nil
  | cons first _ ih =>
    exact (each _ _ first).bind fun _ _ _ _ ha => ih.bind fun _ _ _ _ has => .read (.cons ha has)

end

end Json

/-! ### Criteria in documents -/

namespace Criterion

open Json Decoded

variable {ρ : Type} {schema : Schema ρ}

/-- The same member, or the field in another case, or the operator in another spelling, or, beside a
    field of truth values or tags, the value in another case. -/
inductive MemberRespelled (schema : Schema ρ) (field : Option Json) : String → Json → Json → Prop
  | same (name : String) (v : Json) : MemberRespelled schema field name v v
  | field {a b : String} (h : Text.sameName a b = true) :
      MemberRespelled schema field "field" (.text a) (.text b)
  | operator {a b : String} (h : Operator.Respelled a b) :
      MemberRespelled schema field "operator" (.text a) (.text b)
  | value {name a b : String} {f : Field ρ} (named : field = some (.text name))
      (resolves : schema.resolve name = some f) (caseless : f.type.Caseless)
      (h : Text.sameName a b = true) :
      MemberRespelled schema field "value" (.text a) (.text b)

/-- Documents of criteria whose members, by name or by place, differ in spelling. -/
def Respelled (schema : Schema ρ) (v w : Json) : Prop :=
  v = w ∨ ∃ ms ns, codec.membersOf v = .ok ms ∧ codec.membersOf w = .ok ns ∧
    Members.Related (MemberRespelled schema (ms.lookup "field")) ms ns

theorem Alike.refl (c : Criterion) : c.Alike schema c := ⟨Text.sameName_refl _, rfl, .same _⟩

theorem decodeOperator_both {a b : String} (h : Operator.Respelled a b) :
    Both Eq (Operator.decode (.text a)) (Operator.decode (.text b)) := by
  have read (raw : String) : Operator.decode (.text raw) =
      (Operator.read? raw).elim (.error (.refused (.unknownOperator raw))) .ok := by
    rw [Operator.decode, decodeText]
    simp only [bind, Except.bind, Operator.read]
    rcases Operator.read? raw with _ | op
    · rfl
    · rfl
  rw [read, read, h.read?_eq]
  rcases Operator.read? b with _ | op
  · exact .refused _ _
  · exact .read rfl

section

variable {field : Option Json} {v w : Json}

theorem MemberRespelled.skippable_eq {name : String} (h : MemberRespelled schema field name v w) :
    skippable v = skippable w := by
  cases h <;> rfl

theorem MemberRespelled.judge_both {name : String} {judge : Json → Decoded Unit}
    (known : codec.judge name = some judge) (h : MemberRespelled schema field name v w) :
    Both (fun _ _ => True) (judge v) (judge w) := by
  cases h with
  | same => exact .of_eq (fun _ => trivial) _
  | field =>
    obtain rfl := Option.some.inj known
    exact .read trivial
  | operator h =>
    obtain rfl := Option.some.inj known
    exact (decodeOperator_both h).map fun _ _ _ => trivial
  | value =>
    obtain rfl := Option.some.inj known
    exact .read trivial

theorem MemberRespelled.field_both (h : MemberRespelled schema field "field" v w) :
    Both (Text.sameName · · = true) (decodeText v) (decodeText w) := by
  generalize name : "field" = n at h
  cases h with
  | same => exact .of_eq Text.sameName_refl _
  | field h => exact .read h
  | operator => exact absurd name (by decide)
  | value => exact absurd name (by decide)

theorem MemberRespelled.operator_both (h : MemberRespelled schema field "operator" v w) :
    Both Eq (Operator.decode v) (Operator.decode w) := by
  generalize name : "operator" = n at h
  cases h with
  | same => exact .of_eq (fun _ => rfl) _
  | operator h => exact decodeOperator_both h
  | field => exact absurd name (by decide)
  | value => exact absurd name (by decide)

theorem MemberRespelled.value_both {fieldName : String} (named : field = some (.text fieldName))
    (h : MemberRespelled schema field "value" v w) :
    Both (schema.SameValue fieldName) (decodeOption decodeText v) (decodeOption decodeText w) := by
  generalize name : "value" = n at h
  cases h with
  | same => exact .of_eq .same _
  | value named' resolves caseless h =>
    obtain rfl : fieldName = _ := Json.text.inj (Option.some.inj (named.symm.trans named'))
    exact .read (.caseless resolves caseless h)
  | field => exact absurd name (by decide)
  | operator => exact absurd name (by decide)

end

theorem lookup_of_field_eq_ok {ms : Members} {name text : String}
    (h : Json.field ms name decodeText = .ok text) : ms.lookup name = some (.text text) := by
  rw [Json.field] at h
  rcases hv : ms.lookup name with _ | v
  · rw [hv] at h
    cases h
  · rw [hv] at h
    cases v with
    | text s =>
      obtain rfl : s = text := Except.ok.inj h
      rfl
    | _ => cases h

/-- Members that differ in spelling are built into criteria that are alike. -/
theorem build_both {ms ns : Members}
    (h : Members.Related (MemberRespelled schema (ms.lookup "field")) ms ns) :
    Both (Alike schema) (codec.build ms) (codec.build ns) := by
  have field := h.field "field" fun _ _ => MemberRespelled.field_both
  have operator := h.fieldOr "operator" (fun _ _ => MemberRespelled.operator_both) (a := .equals) rfl
  refine field.bind fun name name' found _ names => operator.bind fun op op' _ _ ops => ?_
  have value := h.fieldOr "value"
    (fun _ _ => MemberRespelled.value_both (lookup_of_field_eq_ok found)) (.same none)
  exact value.bind fun v v' _ _ values => .read ⟨names, ops, values⟩

theorem Respelled.decode_both {v w : Json} (h : Respelled schema v w) :
    Both (Alike schema) (codec.decode v) (codec.decode w) := by
  rcases h with rfl | ⟨ms, ns, hv, hw, related⟩
  · exact .of_eq Alike.refl _
  · have walked := related.walk (fun _ _ _ _ => MemberRespelled.judge_both)
      (fun _ _ _ _ => MemberRespelled.skippable_eq) []
    rw [Codec.decode, Codec.decode, hv, hw]
    exact walked.bind fun _ _ _ _ _ => build_both related

end Criterion

/-! ### Requests in documents -/

namespace Request

open Json Decoded

variable {ρ δ : Type} {schema : Schema ρ}

/-- The same member, or the sort field or the direction in another case, or criteria that differ in
    spelling. -/
inductive MemberRespelled (schema : Schema ρ) : String → Json → Json → Prop
  | same (name : String) (v : Json) : MemberRespelled schema name v v
  | sorting {name a b : String} (sorting : name = "sortBy" ∨ name = "sortOrder")
      (h : Text.sameName a b = true) : MemberRespelled schema name (.text a) (.text b)
  | filters {vs ws : List Json} (h : List.Forall₂ (Criterion.Respelled schema) vs ws) :
      MemberRespelled schema "filters" (.array vs) (.array ws)

/-- Documents of requests whose members differ in spelling. -/
inductive Respelled (schema : Schema ρ) : Json → Json → Prop
  | same (v : Json) : Respelled schema v v
  | object {ms ns : Members} (h : ms.Related (MemberRespelled schema) ns) :
      Respelled schema (.object ms) (.object ns)

theorem rel_sameName_refl (o : Option String) : Option.Rel (Text.sameName · · = true) o o := by
  rcases o with _ | s
  · exact .none
  · exact .some (Text.sameName_refl s)

theorem Alike.refl (r : Request δ) : r.Alike schema r :=
  ⟨rfl, rfl, rfl, rel_sameName_refl _, rel_sameName_refl _,
    List.forall₂_same.2 fun c _ => Criterion.Alike.refl c, rfl⟩

section

variable {name : String} {v w : Json}

theorem MemberRespelled.eq_of_ne (h : MemberRespelled schema name v w)
    (other : name ∉ ["sortBy", "sortOrder", "filters"]) : v = w := by
  cases h with
  | same => rfl
  | sorting sorting =>
    rcases sorting with rfl | rfl
    · exact absurd (by decide) other
    · exact absurd (by decide) other
  | filters => exact absurd (by decide) other

theorem MemberRespelled.eq_of_unknown (unknown : directive name = none)
    (h : MemberRespelled schema name v w) : v = w := by
  refine h.eq_of_ne fun known => ?_
  rw [List.mem_cons, List.mem_cons, List.mem_singleton] at known
  rcases known with rfl | rfl | rfl <;> cases unknown

theorem MemberRespelled.judge_both {judge : Json → Decoded Unit}
    (known : directive name = some judge) (h : MemberRespelled schema name v w) :
    Both (fun _ _ => True) (judge v) (judge w) := by
  cases h with
  | same => exact .of_eq (fun _ => trivial) _
  | sorting sorting =>
    rcases sorting with rfl | rfl
    · obtain rfl := Option.some.inj known
      exact .read trivial
    · obtain rfl := Option.some.inj known
      exact .read trivial
  | filters h =>
    obtain rfl := Option.some.inj known
    exact (decodeItems_both h fun _ _ => Criterion.Respelled.decode_both).map fun _ _ _ => trivial

theorem MemberRespelled.sorting_both (sorting : name = "sortBy" ∨ name = "sortOrder")
    (h : MemberRespelled schema name v w) :
    Both (Option.Rel (Text.sameName · · = true)) (decodeOption decodeText v)
      (decodeOption decodeText w) := by
  cases h with
  | same => exact .of_eq rel_sameName_refl _
  | sorting _ h => exact .read (.some h)
  | filters => exact absurd sorting (by decide)

theorem MemberRespelled.filters_both (h : MemberRespelled schema "filters" v w) :
    Both (List.Forall₂ (Criterion.Alike schema)) (decodeArray Criterion.codec.decode v)
      (decodeArray Criterion.codec.decode w) := by
  generalize name : "filters" = n at h
  cases h with
  | same => exact .of_eq (fun cs => List.forall₂_same.2 fun c _ => Criterion.Alike.refl c) _
  | filters h => exact decodeItems_both h fun _ _ => Criterion.Respelled.decode_both
  | sorting sorting =>
    subst name
    exact absurd sorting (by decide)

end

section

variable {ms ns : Members}

theorem kept_eq (h : ms.Related (MemberRespelled schema) ns) : kept ms = kept ns := by
  induction h with
  | nil => rfl
  | @cons m n ms ns first _ ih =>
    obtain ⟨k, v⟩ := m
    obtain ⟨k', w⟩ := n
    obtain ⟨rfl, related⟩ := first
    rw [kept, kept, List.filter_cons, List.filter_cons]
    rcases hk : directive k with _ | judge
    · obtain rfl := related.eq_of_unknown hk
      exact congrArg ((k, v) :: ·) ih
    · exact ih

/-- Members that differ in spelling give directives that are alike. -/
theorem header_both (h : ms.Related (MemberRespelled schema) ns) :
    Both (Alike schema) (header ms) (header ns) := by
  have unchanged {α : Type} (name : String) (decode : Json → Decoded α)
      (other : name ∉ ["sortBy", "sortOrder", "filters"]) :
      Both Eq (fieldOption ms name decode) (fieldOption ns name decode) :=
    h.fieldOr name (fun v w related => related.eq_of_ne other ▸ .of_eq (fun _ => rfl) _) rfl
  have sortBy := h.fieldOr "sortBy" (fun _ _ => MemberRespelled.sorting_both (.inl rfl)) .none
  have sortOrder := h.fieldOr "sortOrder" (fun _ _ => MemberRespelled.sorting_both (.inr rfl)) .none
  have filters := h.fieldOr "filters" (fun _ _ => MemberRespelled.filters_both) .nil
  refine (unchanged "search" decodeText (by decide)).bind fun _ _ _ _ search => ?_
  refine (unchanged "page" (decodeInt .bits64) (by decide)).bind fun _ _ _ _ page => ?_
  refine (unchanged "pageSize" (decodeInt .bits64) (by decide)).bind fun _ _ _ _ pageSize => ?_
  refine sortBy.bind fun _ _ _ _ by' => sortOrder.bind fun _ _ _ _ order => ?_
  refine filters.bind fun _ _ _ _ criteria => .read ?_
  exact ⟨search, congrArg (Option.map _) page, congrArg (Option.map _) pageSize, by', order, criteria,
    rfl⟩

end

/-- Documents that differ in spelling are both refused, or read as requests that are alike. -/
theorem Respelled.decode_both {typed : Codec δ} {v w : Json} (h : Respelled schema v w) :
    Both (Alike schema) (decode typed v) (decode typed w) := by
  cases h with
  | same => exact .of_eq Alike.refl _
  | @object ms ns h =>
    have walked := h.walk (fun _ _ _ _ => MemberRespelled.judge_both)
      (fun _ _ _ unknown related => congrArg (keepable keptDepth) (related.eq_of_unknown unknown)) []
    rw [decode_object, decode_object, kept_eq h]
    refine walked.bind fun _ _ _ _ _ => (header_both h).bind fun r s _ _ alike => ?_
    have domain : Both Eq (typed.decode (.object (kept ns))) (typed.decode (.object (kept ns))) :=
      .of_eq (fun _ => rfl) _
    refine domain.bind fun _ _ _ _ domain => .read ?_
    exact { alike with domain }

end Request

/-- Requests that differ in the case of names, of the direction, and of the values for truth values
    and tags get the same answer. So do documents of requests that differ in such case and in the
    spelling of operators, unless both are refused. -/
theorem respelled_requests_agree {ρ δ τ : Type} (d : DomainFilters ρ δ) (shape : Shape ρ)
    (pager : Pager) (project : ρ → τ) :
    (∀ r s : Request δ, r.Alike shape.schema s →
      AnsweredAlike pager shape d.predicates project r s) ∧
    ∀ v w : Json, Request.Respelled shape.schema v w →
      Decoded.Both (AnsweredAlike pager shape d.predicates project)
        (d.decodeRequest v) (d.decodeRequest w) := by
  have requests (r s : Request δ) (alike : r.Alike shape.schema s) :
      AnsweredAlike pager shape d.predicates project r s :=
    alike.answeredAlike pager d.predicates project
  exact ⟨requests, fun v w respelled => respelled.decode_both.mono requests⟩

/-- Two documents for the same page of sample users, one of them in capitals; one criterion is given
    by place, and the other one has an operator with a mark in it, blanks around it, and a short
    form. -/
theorem respelled_requests_agree_sampleUsers :
    let v : Json := .object [("sortBy", .text "FULLNAME"), ("sortOrder", .text "ASC"),
      ("filters", .array [.array [.text "GENDER", .text "in", .text "FEMALE, other"],
        .object [("field", .text "isEmailVerified"), ("operator", .text "\tN_E "),
          ("value", .text "FALSE")]])]
    let w : Json := .object [("sortBy", .text "fullName"), ("sortOrder", .text "asc"),
      ("filters", .array [.array [.text "gender", .text "in", .text "Female, Other"],
        .object [("field", .text "ISEMAILVERIFIED"), ("operator", .text "neq"),
          ("value", .text "false")]])]
    let r : Request UserFilters :=
      { sortBy := some "FULLNAME", sortOrder := some "ASC", domain := {}
        filters := [⟨"GENDER", .isIn, some "FEMALE, other"⟩,
          ⟨"isEmailVerified", .notEquals, some "FALSE"⟩] }
    let s : Request UserFilters :=
      { sortBy := some "fullName", sortOrder := some "asc", domain := {}
        filters := [⟨"gender", .isIn, some "Female, Other"⟩,
          ⟨"ISEMAILVERIFIED", .notEquals, some "false"⟩] }
    let answered := AnsweredAlike .standard User.shape UserFilters.predicates User.response
    (Request.Respelled User.shape.schema v w ∧ Decoded.Both answered
        (UserFilters.domain.decodeRequest v) (UserFilters.domain.decodeRequest w)) ∧
      (UserFilters.domain.decodeRequest v = .ok r ∧ UserFilters.domain.decodeRequest w = .ok s) ∧
      r.Alike User.shape.schema s ∧ answered r s := by
  intro v w r s answered
  have notEquals : Operator.Respelled "\tN_E " "neq" := by
    refine .inr ⟨.notEquals, "ne", by decide, "neq", by decide, ?_, ?_⟩
    · exact ⟨['\t'], "N_E".toList, [' '], rfl, rfl, rfl,
        .letter rfl (.mark (by decide) (.letter rfl .nil))⟩
    · exact ⟨[], "neq".toList, [], rfl, rfl, rfl, .letter rfl (.letter rfl (.letter rfl .nil))⟩
  have gender : Criterion.Respelled User.shape.schema
      (.array [.text "GENDER", .text "in", .text "FEMALE, other"])
      (.array [.text "gender", .text "in", .text "Female, Other"]) := by
    refine .inr ⟨_, _, rfl, rfl, .cons ⟨rfl, .field (by decide)⟩ (.cons ⟨rfl, .same _ _⟩
      (.cons ⟨rfl, ?_⟩ .nil))⟩
    exact .value rfl (f := User.genderField) rfl (.inr ⟨_, rfl⟩) (by decide)
  have verified : Criterion.Respelled User.shape.schema
      (.object [("field", .text "isEmailVerified"), ("operator", .text "\tN_E "),
        ("value", .text "FALSE")])
      (.object [("field", .text "ISEMAILVERIFIED"), ("operator", .text "neq"),
        ("value", .text "false")]) := by
    refine .inr ⟨_, _, rfl, rfl, .cons ⟨rfl, .field (by decide)⟩ (.cons ⟨rfl, .operator notEquals⟩
      (.cons ⟨rfl, ?_⟩ .nil))⟩
    exact .value rfl (f := User.isEmailVerifiedField) rfl (.inl rfl) (by decide)
  have respelled : Request.Respelled User.shape.schema v w :=
    .object (.cons ⟨rfl, .sorting (.inl rfl) (by decide)⟩
      (.cons ⟨rfl, .sorting (.inr rfl) (by decide)⟩
        (.cons ⟨rfl, .filters (.cons gender (.cons verified .nil))⟩ .nil)))
  have alike : r.Alike User.shape.schema s :=
    ⟨rfl, rfl, rfl, .some (by decide), .some (by decide),
      .cons ⟨by decide, rfl, .caseless (f := User.genderField) rfl (.inr ⟨_, rfl⟩) (by decide)⟩
        (.cons ⟨by decide, rfl,
          .caseless (f := User.isEmailVerifiedField) rfl (.inl rfl) (by decide)⟩ .nil), rfl⟩
  obtain ⟨requests, documents⟩ :=
    respelled_requests_agree UserFilters.domain User.shape .standard User.response
  exact ⟨⟨respelled, documents v w respelled⟩, ⟨rfl, rfl⟩, alike, requests r s alike⟩

end RecordSearch
