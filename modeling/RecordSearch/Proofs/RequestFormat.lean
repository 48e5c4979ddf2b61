import RecordSearch.Contacts.Document
import RecordSearch.Proofs.Members
import RecordSearch.Proofs.Timestamps
import RecordSearch.Users.Document

/-! Requests that are written and read back.

    What is written of a request is read as that request, in whatever order its members stand; so a
    document may be kept as a value, where members are in the order of their names. -/

namespace RecordSearch

namespace Text

theorem compare_eq_eq_iff {a b : List Char} : compare a b = .eq ↔ a = b := by
  induction a generalizing b with
  | nil => cases b <;> simp [compare]
  | cons c a ih =>
    cases b with
    | nil => simp [compare]
    | cons d b => simp [compare, Ordering.then_eq_eq, ih, Char.toNat_inj]

end Text

namespace Json

/-! ### Members in the order of their names -/

theorem insertMember_perm {name : String} (v : Json) {done : Members}
    (absent : name ∉ done.map Prod.fst) : (insertMember name v done).Perm ((name, v) :: done) := by
  induction done with
  | nil => exact .refl _
  | cons m done ih =>
    obtain ⟨n, w⟩ := m
    rw [List.map_cons, List.mem_cons, not_or] at absent
    rw [insertMember]
    cases order : Text.compare name.toList n.toList with
    | lt => exact .refl _
    | eq => exact absurd (String.toList_inj.1 (Text.compare_eq_eq_iff.1 order)) absent.1
    | gt => exact ((ih absent.2).cons _).trans (.swap _ _ _)

/-- Members of distinct names are only put into another order. -/
theorem sortedMembers_perm {ms done : Members} (plain : ∀ m ∈ ms, m.2.sorted = m.2)
    (distinct : ((ms ++ done).map Prod.fst).Nodup) : (sortedMembers ms done).Perm (ms ++ done) := by
  induction ms generalizing done with
  | nil => exact .refl _
  | cons m ms ih =>
    obtain ⟨n, v⟩ := m
    rw [List.forall_mem_cons] at plain
    rw [List.cons_append, List.map_cons, List.nodup_cons, List.map_append, List.mem_append,
      not_or] at distinct
    have inserted := insertMember_perm v.sorted distinct.1.2
    have here : v.sorted = v := plain.1
    rw [here] at inserted
    rw [sortedMembers, here]
    have both : (ms ++ insertMember n v done).Perm ((n, v) :: (ms ++ done)) :=
      (inserted.append_left ms).trans List.perm_middle
    refine (ih plain.2 ((both.map Prod.fst).nodup_iff.2 ?_)).trans both
    rw [List.map_cons, List.nodup_cons, List.map_append, List.mem_append, not_or]
    exact distinct

theorem sorted_object {ms : Members} (plain : ∀ m ∈ ms, m.2.sorted = m.2)
    (distinct : (ms.map Prod.fst).Nodup) : ∃ ns, (object ms).sorted = object ns ∧ ns.Perm ms := by
  refine ⟨sortedMembers ms [], by rw [sorted], ?_⟩
  have perm : (sortedMembers ms []).Perm (ms ++ []) :=
    sortedMembers_perm plain (by rwa [List.append_nil])
  rwa [List.append_nil] at perm

/-! ### Values -/

theorem decodeInt_toInt (n : Int64) : decodeInt .bits64 (integer n.toInt) = .ok n.toInt := by
  have fits : IntWidth.bits64.fits n.toInt = true :=
    IntWidth.fits_iff.2 ⟨n.le_toInt, n.toInt_lt⟩
  rw [decodeInt, if_pos fits]

theorem decodeOption_integer (n : Int64) :
    decodeOption (decodeInt .bits64) (integer n.toInt) = .ok (some n.toInt) := by
  show (decodeInt .bits64 (integer n.toInt)).map some = _
  rw [decodeInt_toInt]
  rfl

/-- A list of values is read as what each of them is read as. -/
theorem decodeArray_map_of {α β : Type} {decode : Json → Decoded α} {encode : β → Json}
    {kept : β → α} (reads : ∀ b, decode (encode b) = .ok (kept b)) (bs : List β) :
    decodeArray decode (array (bs.map encode)) = .ok (bs.map kept) := by
  show decodeItems decode (bs.map encode) = .ok (bs.map kept)
  induction bs with
  | nil => rfl
  | cons b bs ih =>
    rw [List.map_cons, decodeItems, reads, ih]
    rfl

/-- A list of values is read back if every value is. -/
theorem decodeArray_map {α : Type} {decode : Json → Decoded α} {encode : α → Json}
    (restores : ∀ a, decode (encode a) = .ok a) (as : List α) :
    decodeArray decode (array (as.map encode)) = .ok as := by
  rw [decodeArray_map_of restores, List.map_id']

end Json

theorem Operator.decode_name (op : Operator) : decode (.text op.name) = .ok op := by
  have known : read op.name = .ok op := by rw [read, read?_name]
  rw [decode, Json.decodeText]
  simp only [bind, Except.bind, known]

namespace Criterion

theorem names_members (c : Criterion) :
    ((codec.members c).map Prod.fst).Sublist ["field", "operator", "value"] := by
  show (List.map Prod.fst (_ ++ _)).Sublist (["field", "operator"] ++ ["value"])
  rw [List.map_append]
  exact (List.Sublist.refl _).append (Json.names_memberIfSome ..)

theorem build_eq_ok {c : Criterion} {ms : Json.Members}
    (field : Json.field ms "field" Json.decodeText = .ok c.field)
    (operator : Json.fieldOr ms "operator" Operator.decode .equals = .ok c.operator)
    (value : Json.fieldOption ms "value" Json.decodeText = .ok c.value) :
    codec.build ms = .ok c := by
  simp only [codec, field, operator, value]
  rfl

theorem decode_encode (c : Criterion) : codec.decode (codec.encode c) = .ok c := by
  refine Json.Codec.decode_object_eq_ok_iff.2 ⟨Json.walk_of_fit ?fit ?distinct, ?build⟩
  case fit =>
    intro m hm
    simp only [codec, List.mem_append, List.mem_cons, List.not_mem_nil, or_false,
      Json.mem_memberIfSome] at hm
    rcases hm with (rfl | rfl) | ⟨v, -, rfl⟩
    · exact Json.check_eq_ok (Json.decodeText.eq_1 c.field)
    · exact Json.check_eq_ok (Operator.decode_name c.operator)
    · exact Json.check_eq_ok (a := some v) rfl
  case distinct => exact (names_members c).nodup (by decide)
  case build =>
    have found : (codec.members c).lookup "value" = c.value.map .text := by
      simp [codec, List.lookup_cons, Json.lookup_memberIfSome]
    exact build_eq_ok rfl (Operator.decode_name c.operator)
      (Json.fieldOption_eq_ok found fun _ _ => rfl)

theorem sorted_encode (c : Criterion) : (codec.encode c).sorted = codec.encode c := by
  obtain ⟨field, operator, value⟩ := c
  rcases value with _ | v
  · rfl
  · rfl

end Criterion

/-! ### Requests -/

/-- A member that is written of a structure: it can stand in a request beside the directives, it is
    its own value, and it is fit for its name. -/
structure Json.Codec.Stands {α : Type} (c : Codec α) (m : String × Json) : Prop where
  free : Request.directive m.1 = none
  keeps : keepable Request.keptDepth m.2 = true
  plain : m.2.sorted = m.2
  fit : Fit c.judge skippable m

/-- What is written of a structure can stand in a request, and is read as the structure in any
    order. -/
structure Json.Codec.Restores {α : Type} (c : Codec α) (a : α) : Prop where
  stands : ∀ m ∈ c.members a, c.Stands m
  distinct : ((c.members a).map Prod.fst).Nodup
  decode : ∀ ms, ms.Perm (c.members a) → c.decode (object ms) = .ok a

/-- It is enough to build the structure from members that are found by the same names. -/
theorem Json.Codec.restores_of_build {α : Type} {c : Codec α} {a : α}
    (stands : ∀ m ∈ c.members a, c.Stands m) (distinct : ((c.members a).map Prod.fst).Nodup)
    (build : ∀ ms : Members, (∀ name, ms.lookup name = (c.members a).lookup name) →
      c.build ms = .ok a) : c.Restores a := by
  refine ⟨stands, distinct, fun ms perm => decode_object_eq_ok_iff.2 ⟨walk_of_fit ?_ ?_, ?_⟩⟩
  · exact fun m hm => (stands m (perm.mem_iff.1 hm)).fit
  · exact (perm.map Prod.fst).nodup_iff.2 distinct
  · exact build ms fun name => (lookup_perm distinct perm.symm name).symm

namespace Request

open Json

variable {δ : Type} {typed : Codec δ}

/-- What is written of the directives. -/
def directiveMembers (r : Request δ) : Members :=
  memberIfSome "search" text r.search ++
    memberIfSome "page" (fun n => integer n.toInt) r.page ++
    memberIfSome "pageSize" (fun n => integer n.toInt) r.pageSize ++
    memberIfSome "sortBy" text r.sortBy ++
    memberIfSome "sortOrder" text r.sortOrder ++
    [("filters", array (r.filters.map Criterion.codec.encode))]

theorem encode_eq (typed : Codec δ) (r : Request δ) :
    encode typed r = object (directiveMembers r ++ typed.members r.domain) := by
  rw [encode, directiveMembers, List.append_assoc _ _ (typed.members r.domain)]
  rfl

theorem names_directiveMembers (r : Request δ) :
    ((directiveMembers r).map Prod.fst).Sublist (directives.map Prod.fst) := by
  simp only [directiveMembers, List.map_append]
  exact ((((((names_memberIfSome ..).append (names_memberIfSome ..)).append
    (names_memberIfSome ..)).append (names_memberIfSome ..)).append (names_memberIfSome ..)).append
    (.refl ["filters"]))

theorem isSome_directive {r : Request δ} {m : String × Json} (h : m ∈ directiveMembers r) :
    (directive m.1).isSome = true := by
  have name : m.1 ∈ directives.map Prod.fst :=
    (names_directiveMembers r).subset (List.mem_map_of_mem h)
  simp only [directives, List.map_cons, List.map_nil, List.mem_cons, List.not_mem_nil,
    or_false] at name
  rcases name with h | h | h | h | h | h <;> rw [h] <;> rfl

theorem fit_directiveMembers (r : Request δ) :
    ∀ m ∈ directiveMembers r, Fit directive (keepable keptDepth) m := by
  intro m hm
  simp only [directiveMembers, List.mem_append, List.mem_singleton, mem_memberIfSome] at hm
  rcases hm with ((((⟨s, -, rfl⟩ | ⟨n, -, rfl⟩) | ⟨n, -, rfl⟩) | ⟨s, -, rfl⟩) | ⟨s, -, rfl⟩) | rfl
  · exact check_eq_ok (a := some s) rfl
  · exact check_eq_ok (decodeOption_integer n)
  · exact check_eq_ok (decodeOption_integer n)
  · exact check_eq_ok (a := some s) rfl
  · exact check_eq_ok (a := some s) rfl
  · exact check_eq_ok (decodeArray_map Criterion.decode_encode r.filters)

theorem plain_directiveMembers (r : Request δ) : ∀ m ∈ directiveMembers r, m.2.sorted = m.2 := by
  have items : ∀ cs : List Criterion, sortedItems (cs.map Criterion.codec.encode) =
      cs.map Criterion.codec.encode := by
    intro cs
    induction cs with
    | nil => rfl
    | cons c cs ih => rw [List.map_cons, sortedItems, Criterion.sorted_encode, ih]
  intro m hm
  simp only [directiveMembers, List.mem_append, List.mem_singleton, mem_memberIfSome] at hm
  rcases hm with ((((⟨s, -, rfl⟩ | ⟨n, -, rfl⟩) | ⟨n, -, rfl⟩) | ⟨s, -, rfl⟩) | ⟨s, -, rfl⟩) | rfl
  · rfl
  · rfl
  · rfl
  · rfl
  · rfl
  · rw [sorted, items]

theorem header_eq_ok {r : Request δ} {ms : Members}
    (search : fieldOption ms "search" decodeText = .ok r.search)
    (page : fieldOption ms "page" (decodeInt .bits64) = .ok (r.page.map Int64.toInt))
    (pageSize : fieldOption ms "pageSize" (decodeInt .bits64) = .ok (r.pageSize.map Int64.toInt))
    (sortBy : fieldOption ms "sortBy" decodeText = .ok r.sortBy)
    (sortOrder : fieldOption ms "sortOrder" decodeText = .ok r.sortOrder)
    (filters : fieldOr ms "filters" (decodeArray Criterion.codec.decode) [] = .ok r.filters) :
    header ms = .ok (r.withDomain ()) := by
  have back : ∀ o : Option Int64, (o.map Int64.toInt).map Int64.ofInt = o := by
    intro o
    rw [Option.map_map, show Int64.ofInt ∘ Int64.toInt = id from funext Int64.ofInt_toInt,
      Option.map_id_fun, id]
  simp only [header, search, page, pageSize, sortBy, sortOrder, filters]
  show Except.ok (⟨r.search, (r.page.map Int64.toInt).map Int64.ofInt,
    (r.pageSize.map Int64.toInt).map Int64.ofInt, r.sortBy, r.sortOrder, r.filters, ()⟩ :
      Request Unit) = _
  rw [back, back]
  rfl

/-- The directives that are written are read back. -/
theorem header_directiveMembers (r : Request δ) :
    header (directiveMembers r) = .ok (r.withDomain ()) := by
  have texts : ∀ (o : Option String) a, o = some a → decodeOption decodeText (text a) = .ok (some a) :=
    fun _ _ _ => rfl
  have integers : ∀ (o : Option Int64) n, o.map Int64.toInt = some n →
      decodeOption (decodeInt .bits64) (integer n) = .ok (some n) := by
    intro o n h
    obtain ⟨n, -, rfl⟩ := Option.map_eq_some_iff.1 h
    exact decodeOption_integer n
  refine header_eq_ok (fieldOption_eq_ok ?_ (texts _)) (fieldOption_eq_ok ?_ (integers _))
    (fieldOption_eq_ok ?_ (integers _)) (fieldOption_eq_ok ?_ (texts _))
    (fieldOption_eq_ok ?_ (texts _)) (fieldOr_eq_ok ?_ (decodeArray_map Criterion.decode_encode _))
  all_goals
    simp [directiveMembers, List.lookup_append, List.lookup_cons, lookup_memberIfSome,
      Function.comp_def]

section

variable {r : Request δ} (free : ∀ m ∈ typed.members r.domain, directive m.1 = none)

include free

theorem kept_append_members :
    kept (directiveMembers r ++ typed.members r.domain) = typed.members r.domain := by
  have directives : kept (directiveMembers r) = [] := by
    rw [kept, List.filter_eq_nil_iff]
    intro m hm
    rw [Option.isNone_iff_eq_none, ← Option.not_isSome_iff_eq_none, Decidable.not_not]
    exact isSome_directive hm
  have others : kept (typed.members r.domain) = typed.members r.domain := by
    rw [kept, List.filter_eq_self]
    intro m hm
    rw [free m hm]
    rfl
  rw [kept_append, directives, others, List.nil_append]

theorem nodup_names (distinct : ((typed.members r.domain).map Prod.fst).Nodup) :
    ((directiveMembers r ++ typed.members r.domain).map Prod.fst).Nodup := by
  rw [List.map_append, List.nodup_append]
  refine ⟨(names_directiveMembers r).nodup (by decide), distinct, ?_⟩
  rintro a ha b hb rfl
  obtain ⟨m, hm, rfl⟩ := List.mem_map.1 ha
  obtain ⟨m', hm', same⟩ := List.mem_map.1 hb
  have known := isSome_directive hm
  rw [← same, free m' hm'] at known
  exact Bool.false_ne_true known

/-- In whatever order its members stand, a document that is written of a request is read as the
    request with what its typed filters are read as. -/
theorem decode_eq_of_perm (keeps : ∀ m ∈ typed.members r.domain, keepable keptDepth m.2 = true)
    (distinct : ((typed.members r.domain).map Prod.fst).Nodup) {ms : Members}
    (perm : ms.Perm (directiveMembers r ++ typed.members r.domain)) :
    decode typed (object ms) = (typed.decode (object (kept ms))).map r.withDomain := by
  have distinct : (ms.map Prod.fst).Nodup :=
    (perm.map Prod.fst).nodup_iff.2 (nodup_names free distinct)
  have walked : walk directive (keepable keptDepth) [] ms = .ok () := by
    refine walk_of_fit ?_ distinct
    intro m hm
    rcases List.mem_append.1 (perm.mem_iff.1 hm) with hm | hm
    · exact fit_directiveMembers r m hm
    · rw [Fit, free m hm]
      exact keeps m hm
  have directives : header ms = .ok (r.withDomain ()) := by
    rw [← header_directiveMembers r]
    refine header_congr fun name known => ?_
    rw [lookup_perm distinct perm, List.lookup_append]
    have absent : (typed.members r.domain).lookup name = none := by
      refine lookup_eq_none_of_not_mem fun here => ?_
      obtain ⟨m, hm, rfl⟩ := List.mem_map.1 here
      rw [free m hm] at known
      exact Bool.false_ne_true known
    rw [absent, Option.or_none]
  rw [decode_object, walked, directives]
  rcases typed.decode (object (kept ms)) with e | domain
  · rfl
  · rfl

end

/-- If the typed filters are read back, so is the request. -/
theorem decode_of_perm {r : Request δ} (h : typed.Restores r.domain) {ms : Members}
    (perm : ms.Perm (directiveMembers r ++ typed.members r.domain)) :
    decode typed (object ms) = .ok r := by
  have free : ∀ m ∈ typed.members r.domain, directive m.1 = none := fun m hm => (h.stands m hm).free
  have kept_perm : (kept ms).Perm (typed.members r.domain) := by
    rw [← kept_append_members free]
    exact perm.filter _
  rw [decode_eq_of_perm free (fun m hm => (h.stands m hm).keeps) h.distinct perm,
    h.decode _ kept_perm]
  rfl

/-- A request is read back from the document that is written of it, and from that document as a
    value. -/
theorem decode_encode {r : Request δ} (h : typed.Restores r.domain) :
    decode typed (encode typed r) = .ok r ∧ decode typed (encode typed r).sorted = .ok r := by
  rw [encode_eq]
  refine ⟨decode_of_perm h (.refl _), ?_⟩
  have plain : ∀ m ∈ directiveMembers r ++ typed.members r.domain, m.2.sorted = m.2 := by
    intro m hm
    rcases List.mem_append.1 hm with hm | hm
    · exact plain_directiveMembers r m hm
    · exact (h.stands m hm).plain
  obtain ⟨ms, sorted, perm⟩ := sorted_object plain
    (nodup_names (fun m hm => (h.stands m hm).free) h.distinct)
  rw [sorted]
  exact decode_of_perm h perm

end Request

/-! ### Typed filters -/

/-- A bound that is left out when there is none is read back. -/
theorem Json.fieldOr_bound {ms : Members} {name : String} {bound : Option Instant}
    (found : ms.lookup name = bound.map ofInstant)
    (plain : ∀ t, bound = some t → t.HasPlainYear) :
    fieldOr ms name decodeBound none = .ok bound := by
  rw [fieldOr, found]
  rcases bound with _ | t
  · rfl
  · exact Calendar.decodeBound_ofInstant (plain t rfl)

theorem Gender.decodeOption_tag (nothing : Json → Bool) (g : Gender) :
    Json.decodeOption (decode nothing) (.text g.tag) = .ok (some g) := by
  cases g <;> rfl

open Json

theorem UserFilters.build_eq_ok_iff {nothing : Json → Bool} {ms : Members} {f : UserFilters} :
    (codec nothing).build ms = .ok f ↔
      fieldOption ms "gender" (Gender.decode nothing) = .ok f.gender ∧
        fieldOption ms "isEmailVerified" decodeBool = .ok f.isEmailVerified ∧
        fieldOr ms "createdFrom" decodeBound none = .ok f.createdFrom ∧
        fieldOr ms "createdTo" decodeBound none = .ok f.createdTo := by
  simp only [codec]
  rcases fieldOption ms "gender" (Gender.decode nothing) with e | gender
  · simp [bind, Except.bind]
  rcases fieldOption ms "isEmailVerified" decodeBool with e | isEmailVerified
  · simp [bind, Except.bind]
  rcases fieldOr ms "createdFrom" decodeBound none with e | createdFrom
  · simp [bind, Except.bind]
  rcases fieldOr ms "createdTo" decodeBound none with e | createdTo
  · simp [bind, Except.bind]
  obtain ⟨_, _, _, _⟩ := f
  simp [bind, Except.bind, pure, Except.pure]

theorem ContactFilters.build_eq_ok_iff {nothing : Json → Bool} {ms : Members}
    {f : ContactFilters} :
    (codec nothing).build ms = .ok f ↔
      fieldOr ms "createdFrom" decodeBound none = .ok f.createdFrom ∧
        fieldOr ms "createdTo" decodeBound none = .ok f.createdTo := by
  simp only [codec]
  rcases fieldOr ms "createdFrom" decodeBound none with e | createdFrom
  · simp [bind, Except.bind]
  rcases fieldOr ms "createdTo" decodeBound none with e | createdTo
  · simp [bind, Except.bind]
  obtain ⟨_, _⟩ := f
  simp [bind, Except.bind, pure, Except.pure]

theorem UserFilters.names_members (nothing : Json → Bool) (f : UserFilters) :
    (((codec nothing).members f).map Prod.fst).Sublist
      ["gender", "isEmailVerified", "createdFrom", "createdTo"] := by
  simp only [codec, List.map_append]
  exact (((names_memberIfSome ..).append (names_memberIfSome ..)).append
    (names_memberIfSome ..)).append (names_memberIfSome ..)

theorem ContactFilters.names_members (nothing : Json → Bool) (f : ContactFilters) :
    (((codec nothing).members f).map Prod.fst).Sublist ["createdFrom", "createdTo"] := by
  simp only [codec, List.map_append]
  exact (names_memberIfSome ..).append (names_memberIfSome ..)

theorem UserFilters.restores {f : UserFilters} (nothing : Json → Bool)
    (plain : ∀ t, f.createdFrom = some t ∨ f.createdTo = some t → t.HasPlainYear) :
    (codec nothing).Restores f := by
  refine Codec.restores_of_build ?stands ?distinct fun ms found =>
    build_eq_ok_iff.2 ⟨?_, ?_, ?_, ?_⟩
  case stands =>
    intro m hm
    simp only [codec, List.mem_append, mem_memberIfSome] at hm
    rcases hm with ((⟨g, -, rfl⟩ | ⟨b, -, rfl⟩) | ⟨t, lower, rfl⟩) | ⟨t, upper, rfl⟩
    · exact ⟨rfl, rfl, rfl, check_eq_ok (Gender.decodeOption_tag nothing g)⟩
    · exact ⟨rfl, rfl, rfl, check_eq_ok (a := some b) rfl⟩
    · exact ⟨rfl, rfl, rfl, check_eq_ok (Calendar.decodeBound_ofInstant (plain t (.inl lower)))⟩
    · exact ⟨rfl, rfl, rfl, check_eq_ok (Calendar.decodeBound_ofInstant (plain t (.inr upper)))⟩
  case distinct => exact (names_members nothing f).nodup (by decide)
  · refine fieldOption_eq_ok ?_ fun g _ => Gender.decodeOption_tag nothing g
    rw [found]
    simp [codec, List.lookup_append, lookup_memberIfSome]
  · have verified : ms.lookup "isEmailVerified" = f.isEmailVerified.map bool := by
      rw [found]
      simp [codec, List.lookup_append, lookup_memberIfSome]
    exact fieldOption_eq_ok verified fun _ _ => rfl
  · refine fieldOr_bound ?_ fun t lower => plain t (.inl lower)
    rw [found]
    simp [codec, List.lookup_append, lookup_memberIfSome]
  · refine fieldOr_bound ?_ fun t upper => plain t (.inr upper)
    rw [found]
    simp [codec, List.lookup_append, lookup_memberIfSome]

theorem ContactFilters.restores {f : ContactFilters} (nothing : Json → Bool)
    (plain : ∀ t, f.createdFrom = some t ∨ f.createdTo = some t → t.HasPlainYear) :
    (codec nothing).Restores f := by
  refine Codec.restores_of_build ?stands ?distinct fun ms found => build_eq_ok_iff.2 ⟨?_, ?_⟩
  case stands =>
    intro m hm
    simp only [codec, List.mem_append, mem_memberIfSome] at hm
    rcases hm with ⟨t, lower, rfl⟩ | ⟨t, upper, rfl⟩
    · exact ⟨rfl, rfl, rfl, check_eq_ok (Calendar.decodeBound_ofInstant (plain t (.inl lower)))⟩
    · exact ⟨rfl, rfl, rfl, check_eq_ok (Calendar.decodeBound_ofInstant (plain t (.inr upper)))⟩
  case distinct => exact (names_members nothing f).nodup (by decide)
  · refine fieldOr_bound ?_ fun t lower => plain t (.inl lower)
    rw [found]
    simp [codec, List.lookup_append, lookup_memberIfSome]
  · refine fieldOr_bound ?_ fun t upper => plain t (.inr upper)
    rw [found]
    simp [codec, List.lookup_append, lookup_memberIfSome]

/-- A request for users or for contacts whose bounds have plain years, leap seconds included, is read
    back from the document that is written of it, and from that document as a value. -/
theorem decodeRequest_encodeRequest :
    (∀ r : Request UserFilters,
      (∀ t, r.domain.createdFrom = some t ∨ r.domain.createdTo = some t → t.HasPlainYear) →
        let document := UserFilters.domain.encodeRequest r
        UserFilters.domain.decodeRequest document = .ok r ∧
          UserFilters.domain.decodeRequest document.sorted = .ok r) ∧
    ∀ r : Request ContactFilters,
      (∀ t, r.domain.createdFrom = some t ∨ r.domain.createdTo = some t → t.HasPlainYear) →
        let document := ContactFilters.domain.encodeRequest r
        ContactFilters.domain.decodeRequest document = .ok r ∧
          ContactFilters.domain.decodeRequest document.sorted = .ok r := by
  refine ⟨fun r plain => ?_, fun r plain => ?_⟩
  · exact Request.decode_encode (UserFilters.restores isNothingOrEmpty plain)
  · exact Request.decode_encode (ContactFilters.restores isNothingOrEmpty plain)

/-- The middle of the leap second at the end of 2016. -/
def sampleLeapSecond : Instant :=
  ⟨1483228799, 1500000000, by decide, by decide, by decide⟩

/-- A request with bounds, one of them within a leap second, and with texts that have to be kept as
    they are. -/
theorem decodeRequest_encodeRequest_leapSecond :
    let r : Request UserFilters :=
      { search := some " \"ann\" ", page := some (-9223372036854775808), pageSize := some 25,
        filters := [⟨"createdAt", .notIn, none⟩, ⟨"", .isNull, some ","⟩]
        domain := ⟨some .other, some false, some sampleLeapSecond, some .epoch⟩ }
    sampleLeapSecond.HasPlainYear ∧ Instant.epoch.HasPlainYear ∧
      UserFilters.domain.decodeRequest (UserFilters.domain.encodeRequest r) = .ok r ∧
      UserFilters.domain.decodeRequest (UserFilters.domain.encodeRequest r).sorted = .ok r := by
  intro r
  have leap : sampleLeapSecond.HasPlainYear := by decide
  have epoch : Instant.epoch.HasPlainYear := by decide
  refine ⟨leap, epoch, decodeRequest_encodeRequest.1 r ?_⟩
  rintro t (h | h)
  · obtain rfl := Option.some.inj h
    exact leap
  · obtain rfl := Option.some.inj h
    exact epoch

end RecordSearch
