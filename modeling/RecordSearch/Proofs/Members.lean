import RecordSearch.DomainFilters

/-! Members of objects, by name and in order.

    Going through members accepts them when each is fit for its name and no name with a judge
    repeats; beyond that the order of members has no effect, and a member of a new name is judged on
    its own. A request reads its directives by name and hands on what it keeps. -/

namespace RecordSearch.Json

/-! ### Members by name -/

variable {ms ns : Members} {name : String} {v : Json}

/-- Where no name repeats, members are found by name. -/
theorem lookup_eq_some_iff_mem (distinct : (ms.map Prod.fst).Nodup) :
    ms.lookup name = some v ↔ (name, v) ∈ ms := by
  induction ms with
  | nil => simp
  | cons m ms ih =>
    obtain ⟨n, w⟩ := m
    rw [List.map_cons, List.nodup_cons] at distinct
    rw [List.lookup_cons, List.mem_cons]
    by_cases same : name = n
    · subst same
      have absent : (name, v) ∉ ms := fun h => distinct.1 (List.mem_map.2 ⟨_, h, rfl⟩)
      simp [absent, eq_comm]
    · simp [beq_eq_false_iff_ne.2 same, same, ih distinct.2]

/-- Where no name repeats, the order of members does not matter. -/
theorem lookup_perm (distinct : (ms.map Prod.fst).Nodup) (perm : ms.Perm ns) (name : String) :
    ms.lookup name = ns.lookup name := by
  have distinct' : (ns.map Prod.fst).Nodup := (perm.map Prod.fst).nodup_iff.1 distinct
  refine Option.ext fun v => ?_
  rw [lookup_eq_some_iff_mem distinct, lookup_eq_some_iff_mem distinct', perm.mem_iff]

theorem lookup_eq_none_of_not_mem (absent : name ∉ ms.map Prod.fst) : ms.lookup name = none := by
  rw [List.lookup_eq_none_iff]
  intro m hm
  rw [bne_iff_ne]
  rintro rfl
  exact absent (List.mem_map_of_mem hm)

/-- A member that is put in is found by its name. -/
theorem lookup_insert_self {before after : Members} (absent : name ∉ before.map Prod.fst) :
    (before ++ (name, v) :: after).lookup name = some v := by
  rw [List.lookup_append, lookup_eq_none_of_not_mem absent, List.lookup_cons_self]
  rfl

/-- A member that is put in hides no other. -/
theorem lookup_insert_of_ne {before after : Members} {k : String} (other : k ≠ name) :
    (before ++ (name, v) :: after).lookup k = (before ++ after).lookup k := by
  rw [List.lookup_append, List.lookup_append, List.lookup_cons, beq_eq_false_iff_ne.2 other]

theorem lookup_memberIfSome {α : Type} (n : String) (encode : α → Json) (o : Option α)
    (k : String) : (memberIfSome n encode o).lookup k = if k = n then o.map encode else none := by
  rcases o with _ | a
  · simp [memberIfSome]
  · rw [memberIfSome, List.lookup_cons]
    by_cases h : k = n
    · simp [h]
    · simp [beq_eq_false_iff_ne.2 h, h]

theorem mem_memberIfSome {α : Type} {n : String} {encode : α → Json} {o : Option α}
    {m : String × Json} : m ∈ memberIfSome n encode o ↔ ∃ a, o = some a ∧ m = (n, encode a) := by
  rcases o with _ | a
  · simp [memberIfSome]
  · simp [memberIfSome]

theorem names_memberIfSome {α : Type} (n : String) (encode : α → Json) (o : Option α) :
    ((memberIfSome n encode o).map Prod.fst).Sublist [n] := by
  rcases o with _ | a
  · exact List.nil_sublist _
  · exact .refl _

/-! ### Fields by name -/

section

variable {α : Type} {decode : Json → Decoded α}

theorem check_eq_ok {a : α} (h : decode v = .ok a) : check decode v = .ok () := by
  rw [check, h]
  rfl

theorem fieldOr_eq_ok {a otherwise : α} (found : ms.lookup name = some v) (h : decode v = .ok a) :
    fieldOr ms name decode otherwise = .ok a := by
  rw [fieldOr, found, ← h]

theorem fieldOr_of_not_mem (decode : Json → Decoded α) (otherwise : α)
    (absent : name ∉ ms.map Prod.fst) : fieldOr ms name decode otherwise = .ok otherwise := by
  rw [fieldOr, lookup_eq_none_of_not_mem absent]

theorem fieldOr_insert_self (decode : Json → Decoded α) (otherwise : α) {before after : Members}
    (absent : name ∉ before.map Prod.fst) :
    fieldOr (before ++ (name, v) :: after) name decode otherwise = decode v := by
  rw [fieldOr, lookup_insert_self absent]

theorem fieldOr_insert_of_ne (decode : Json → Decoded α) (otherwise : α) {before after : Members}
    {k : String} (other : k ≠ name) :
    fieldOr (before ++ (name, v) :: after) k decode otherwise =
      fieldOr (before ++ after) k decode otherwise := by
  rw [fieldOr, fieldOr, lookup_insert_of_ne other]

/-- A field that is left out when there is no value is read back. -/
theorem fieldOption_eq_ok {encode : α → Json} {o : Option α}
    (found : ms.lookup name = o.map encode)
    (restores : ∀ a, o = some a → decodeOption decode (encode a) = .ok (some a)) :
    fieldOption ms name decode = .ok o := by
  rw [fieldOption, fieldOr, found]
  rcases o with _ | a
  · rfl
  · exact restores a rfl

end

/-! ### Going through members -/

section

variable (known : String → Option (Json → Decoded Unit)) (other : Json → Bool)

/-- A member that is fit for its name. -/
def Fit (m : String × Json) : Prop :=
  match known m.1 with
  | some judge => judge m.2 = .ok ()
  | none => other m.2 = true

/-- The names with a judge, in order. -/
def judgedNames (ms : Members) : List String :=
  (ms.map Prod.fst).filter fun n => (known n).isSome

variable {known other} {seen : List String}

theorem judgedNames_append (ms ns : Members) :
    judgedNames known (ms ++ ns) = judgedNames known ms ++ judgedNames known ns := by
  simp [judgedNames]

/-- Members are accepted iff each is fit for its name and no name with a judge repeats. -/
theorem walk_eq_ok_iff :
    walk known other seen ms = .ok () ↔
      (∀ m ∈ ms, Fit known other m) ∧ (judgedNames known ms).Nodup ∧
        ∀ n ∈ judgedNames known ms, n ∉ seen := by
  induction ms generalizing seen with
  | nil => simp [walk, judgedNames]
  | cons m ms ih =>
    obtain ⟨n, v⟩ := m
    rcases hn : known n with _ | judge
    · have names : judgedNames known ((n, v) :: ms) = judgedNames known ms := by
        simp [judgedNames, hn]
      rw [names, List.forall_mem_cons]
      simp only [walk, hn, Fit]
      by_cases fit : other v = true
      · simp only [fit, if_true, true_and]
        exact ih
      · simp [fit]
    · have names : judgedNames known ((n, v) :: ms) = n :: judgedNames known ms := by
        simp [judgedNames, hn]
      rw [names, List.forall_mem_cons, List.nodup_cons, List.forall_mem_cons]
      simp only [walk, hn, Fit]
      by_cases again : n ∈ seen
      · simp [again]
      · rw [if_neg again]
        rcases judge v with e | ⟨⟩
        · simp [bind, Except.bind]
        · show walk known other (n :: seen) ms = .ok () ↔ _
          rw [ih]
          simp only [List.mem_cons, not_or]
          constructor
          · rintro ⟨fits, distinct, fresh⟩
            exact ⟨⟨trivial, fits⟩, ⟨fun h => (fresh n h).1 rfl, distinct⟩, again,
              fun k hk => (fresh k hk).2⟩
          · rintro ⟨⟨-, fits⟩, ⟨absent, distinct⟩, -, fresh⟩
            exact ⟨fits, distinct, fun k hk => ⟨fun same => absent (same ▸ hk), fresh k hk⟩⟩

/-- Members with distinct names, each fit for its own, are accepted in any order. -/
theorem walk_of_fit (fits : ∀ m ∈ ms, Fit known other m) (distinct : (ms.map Prod.fst).Nodup) :
    walk known other [] ms = .ok () :=
  walk_eq_ok_iff.2 ⟨fits, distinct.filter _, fun _ _ => List.not_mem_nil⟩

/-- A member without a judge that can be passed over has no effect. -/
theorem walk_insert_unknown {before after : Members} (unknown : known name = none)
    (passed : other v = true) :
    walk known other seen (before ++ (name, v) :: after) =
      walk known other seen (before ++ after) := by
  induction before generalizing seen with
  | nil => simp [walk, unknown, passed]
  | cons m before ih =>
    obtain ⟨n, w⟩ := m
    simp only [List.cons_append, walk, ih]

/-- After members that are accepted, the rest is gone through with their names in mind. -/
theorem walk_append {before after : Members} (accepted : walk known other seen before = .ok ()) :
    walk known other seen (before ++ after) =
      walk known other ((judgedNames known before).reverse ++ seen) after := by
  induction before generalizing seen with
  | nil => rfl
  | cons m before ih =>
    obtain ⟨n, w⟩ := m
    simp only [List.cons_append, walk] at accepted ⊢
    rcases hn : known n with _ | judge
    · have names : judgedNames known ((n, w) :: before) = judgedNames known before := by
        simp [judgedNames, hn]
      simp only [hn] at accepted ⊢
      rw [names]
      by_cases fit : other w = true
      · rw [if_pos fit] at accepted ⊢
        exact ih accepted
      · simp [fit] at accepted
    · have names : judgedNames known ((n, w) :: before) = n :: judgedNames known before := by
        simp [judgedNames, hn]
      simp only [hn] at accepted ⊢
      by_cases again : n ∈ seen
      · simp [again] at accepted
      · rw [if_neg again] at accepted ⊢
        rcases hw : judge w with e | ⟨⟩
        · rw [hw] at accepted
          cases accepted
        · rw [hw] at accepted
          rw [names, List.reverse_cons, List.append_assoc, List.singleton_append]
          exact ih accepted

/-- A member with a judge and of a new name counts by itself before the rest is gone through. -/
theorem walk_cons_known {judge : Json → Decoded Unit} (hjudge : known name = some judge)
    (fresh : name ∉ seen) :
    walk known other seen ((name, v) :: ms) = (do judge v; walk known other (name :: seen) ms) := by
  simp only [walk, hjudge, fresh, if_false]

/-- Among members that are accepted, a member of a new name is judged on its own. -/
theorem walk_insert_known {before after : Members} {judge : Json → Decoded Unit}
    (accepted : walk known other seen (before ++ after) = .ok ()) (hjudge : known name = some judge)
    (absent : name ∉ (before ++ after).map Prod.fst) (fresh : name ∉ seen) :
    walk known other seen (before ++ (name, v) :: after) = judge v := by
  have front : walk known other seen before = .ok () := by
    obtain ⟨fits, distinct, unseen⟩ := walk_eq_ok_iff.1 accepted
    rw [judgedNames_append] at distinct unseen
    exact walk_eq_ok_iff.2 ⟨fun m hm => fits m (List.mem_append_left _ hm),
      (List.nodup_append.1 distinct).1, fun n hn => unseen n (List.mem_append_left _ hn)⟩
  rw [List.map_append, List.mem_append, not_or] at absent
  rw [walk_append front] at accepted
  have new : name ∉ (judgedNames known before).reverse ++ seen := by
    rw [List.mem_append, List.mem_reverse, not_or]
    exact ⟨fun h => absent.1 (List.mem_filter.1 h).1, fresh⟩
  obtain ⟨fits, distinct, unseen⟩ := walk_eq_ok_iff.1 accepted
  have rest : walk known other (name :: ((judgedNames known before).reverse ++ seen)) after =
      .ok () := by
    refine walk_eq_ok_iff.2 ⟨fits, distinct, fun k hk => ?_⟩
    rw [List.mem_cons, not_or]
    refine ⟨?_, unseen k hk⟩
    rintro rfl
    exact absent.2 (List.mem_filter.1 hk).1
  rw [walk_append front, walk_cons_known hjudge new, rest]
  rcases judge v with e | ⟨⟩
  · rfl
  · rfl

end

/-! ### Structures and requests -/

namespace Codec

variable {α : Type} {c : Codec α}

theorem decode_object (ms : Members) :
    c.decode (object ms) = (do walk c.judge skippable [] ms; c.build ms) := rfl

/-- Members that a structure is read from pass, and the structure is built from them. -/
theorem decode_object_eq_ok_iff {ms : Members} {a : α} :
    c.decode (object ms) = .ok a ↔ walk c.judge skippable [] ms = .ok () ∧ c.build ms = .ok a := by
  rw [decode_object]
  rcases walk c.judge skippable [] ms with e | ⟨⟩
  · simp [bind, Except.bind]
  · simp [bind, Except.bind]

/-- A field that is put among members from which a structure is read is judged on its own. -/
theorem decode_insert {before after : Members} {name : String} {v : Json} {a : α}
    {judge : Json → Decoded Unit} (accepted : c.decode (object (before ++ after)) = .ok a)
    (hjudge : c.judge name = some judge) (absent : name ∉ (before ++ after).map Prod.fst) :
    c.decode (object (before ++ (name, v) :: after)) =
      (do judge v; c.build (before ++ (name, v) :: after)) := by
  obtain ⟨walked, -⟩ := decode_object_eq_ok_iff.1 accepted
  rw [decode_object, walk_insert_known walked hjudge absent List.not_mem_nil]

end Codec

end RecordSearch.Json

namespace RecordSearch.Request

open Json

/-- The directives of a request, without typed filters. -/
def header (ms : Members) : Decoded (Request Unit) := do
  let search ← fieldOption ms "search" decodeText
  let page ← fieldOption ms "page" (decodeInt .bits64)
  let pageSize ← fieldOption ms "pageSize" (decodeInt .bits64)
  let sortBy ← fieldOption ms "sortBy" decodeText
  let sortOrder ← fieldOption ms "sortOrder" decodeText
  let filters ← fieldOr ms "filters" (decodeArray Criterion.codec.decode) []
  pure ⟨search, page.map .ofInt, pageSize.map .ofInt, sortBy, sortOrder, filters, ()⟩

variable {δ : Type} {typed : Codec δ} {ms ns : Members}

theorem kept_append (ms ns : Members) : kept (ms ++ ns) = kept ms ++ kept ns :=
  List.filter_append ..

/-- A request is its directives, and the typed filters among the other members. -/
theorem decode_object (typed : Codec δ) (ms : Members) :
    decode typed (object ms) =
      (do
        walk directive (keepable keptDepth) [] ms
        let r ← header ms
        let domain ← typed.decode (object (kept ms))
        pure (r.withDomain domain)) := by
  simp only [decode, header, bind_assoc, pure_bind]
  rfl

theorem decode_object_eq_ok_iff {r : Request δ} :
    decode typed (object ms) = .ok r ↔
      walk directive (keepable keptDepth) [] ms = .ok () ∧ header ms = .ok (r.withDomain ()) ∧
        typed.decode (object (kept ms)) = .ok r.domain := by
  rw [decode_object]
  rcases walk directive (keepable keptDepth) [] ms with e | ⟨⟩
  · simp [bind, Except.bind]
  · rcases header ms with e | h
    · simp [bind, Except.bind]
    · rcases typed.decode (object (kept ms)) with e | domain
      · simp [bind, Except.bind]
      · show Except.ok (h.withDomain domain) = .ok r ↔ _
        simp only [Except.ok.injEq, true_and]
        constructor
        · rintro rfl
          exact ⟨rfl, rfl⟩
        · rintro ⟨rfl, rfl⟩
          rfl

/-- Directives are read by name only. -/
theorem header_congr (same : ∀ name, (directive name).isSome → ms.lookup name = ns.lookup name) :
    header ms = header ns := by
  simp only [header, fieldOption, fieldOr, same "search" rfl, same "page" rfl,
    same "pageSize" rfl, same "sortBy" rfl, same "sortOrder" rfl, same "filters" rfl]

/-- A member that is no directive, put into a request, only matters to the typed filters. -/
theorem decode_insert {before after : Members} {name : String} {v : Json} {r : Request δ}
    (accepted : decode typed (object (before ++ after)) = .ok r) (unknown : directive name = none)
    (keeps : keepable keptDepth v = true) :
    decode typed (object (before ++ (name, v) :: after)) =
      (typed.decode (object (kept before ++ (name, v) :: kept after))).map
        fun domain => { r with domain } := by
  obtain ⟨walked, directives, -⟩ := decode_object_eq_ok_iff.1 accepted
  have same : header (before ++ (name, v) :: after) = header (before ++ after) := by
    refine header_congr fun k hk => lookup_insert_of_ne ?_
    rintro rfl
    rw [unknown] at hk
    exact Bool.false_ne_true hk
  have keptToo : kept (before ++ (name, v) :: after) = kept before ++ (name, v) :: kept after := by
    rw [kept_append, kept, kept, List.filter_cons_of_pos (by rw [unknown]; rfl)]
    rfl
  rw [decode_object, walk_insert_unknown unknown keeps, walked, same, directives, keptToo]
  rcases typed.decode (object (kept before ++ (name, v) :: kept after)) with e | domain
  · rfl
  · rfl

end RecordSearch.Request
