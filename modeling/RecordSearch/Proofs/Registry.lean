import Mathlib.Data.List.Induction
import RecordSearch.Proofs.Bytes
import RecordSearch.Registry

/-! The registry after any number of registrations.

    A look-up gives the description of the last call with the name, up to the case of A to Z. The
    list has for each name that last description and nothing else, in strictly increasing order.

        calls    Users₁  contacts₂  USERS₃  orders₄
        listed   USERS₃  contacts₂  orders₄

    No two listed names are the same text, so there is only one way to put the descriptions in
    order: a table under folded names, gone through in whatever order, gives the same list. -/

namespace RecordSearch.Registry

/-- The registry after a run of calls. -/
def ofCalls (calls : List ShapeInfo) : Registry := calls.foldl register {}

/-- The last of the calls with a name, up to the case of A to Z. -/
def lastNamed (calls : List ShapeInfo) (name : String) : Option ShapeInfo :=
  (calls.filter fun s => Text.sameName s.shape name).getLast?

/-- The name of a description with A to Z in lower case. -/
def key (s : ShapeInfo) : String := String.ofList (Text.foldAscii s.shape)

/-- A table of descriptions under their folded names, after a run of calls. -/
def table (calls : List ShapeInfo) : Std.HashMap String ShapeInfo :=
  calls.foldl (fun t s => t.insert (key s) s) ∅

/-- One name comes before another by its bytes. -/
def Before (s t : ShapeInfo) : Prop := Text.bytes s.shape < Text.bytes t.shape

variable {r : Registry} {calls : List ShapeInfo} {s t : ShapeInfo}

theorem before_iff : Before s t ↔ Text.compare s.shape.toList t.shape.toList = .lt :=
  (Text.compare_toList_eq_lt_iff ..).symm

theorem ofCalls_concat (calls : List ShapeInfo) (s : ShapeInfo) :
    ofCalls (calls ++ [s]) = (ofCalls calls).register s := by
  rw [ofCalls, List.foldl_append]
  rfl

theorem table_concat (calls : List ShapeInfo) (s : ShapeInfo) :
    table (calls ++ [s]) = (table calls).insert (key s) s := by
  rw [table, List.foldl_append]
  rfl

theorem key_eq_key_iff : key s = key t ↔ Text.sameName s.shape t.shape = true := by
  rw [key, key, String.ofList_inj, Text.sameName_iff]

/-! ### The last of the calls -/

theorem lastNamed_congr {a b : String} (h : Text.sameName a b = true) :
    lastNamed calls a = lastNamed calls b := by
  have folded := Text.sameName_iff.1 h
  simp only [lastNamed, Text.sameName, folded]

theorem sameName_of_lastNamed {name : String} (h : lastNamed calls name = some s) :
    Text.sameName s.shape name = true :=
  (List.mem_filter.1 (List.mem_of_getLast? h)).2

theorem lastNamed_concat (calls : List ShapeInfo) (s : ShapeInfo) (name : String) :
    lastNamed (calls ++ [s]) name =
      if Text.sameName s.shape name then some s else lastNamed calls name := by
  rw [lastNamed, List.filter_append]
  cases h : Text.sameName s.shape name with
  | true => simp [h]
  | false => simp [h, lastNamed]

theorem lastNamed_eq_none_iff {name : String} :
    lastNamed calls name = none ↔ ∀ s ∈ calls, Text.sameName s.shape name = false := by
  simp [lastNamed]

/-! ### One registration -/

theorem place_perm (s : ShapeInfo) (ts : List ShapeInfo) : (place s ts).Perm (s :: ts) := by
  induction ts with
  | nil => exact .refl _
  | cons t ts ih =>
    rw [place]
    split
    · exact (ih.cons t).trans (.swap s t ts)
    · exact .refl _

theorem shapes_register_perm (r : Registry) (s : ShapeInfo) :
    (r.register s).shapes.Perm (s :: r.shapes.filter fun t => !Text.sameName t.shape s.shape) :=
  place_perm ..

theorem mem_register :
    t ∈ (r.register s).shapes ↔ t = s ∨ t ∈ r.shapes ∧ Text.sameName t.shape s.shape = false := by
  rw [(shapes_register_perm r s).mem_iff, List.mem_cons, List.mem_filter, Bool.not_eq_true']

theorem pairwise_place {ts : List ShapeInfo} (sorted : ts.Pairwise Before)
    (other : ∀ t ∈ ts, t.shape ≠ s.shape) : (place s ts).Pairwise Before := by
  induction ts with
  | nil => exact List.pairwise_singleton ..
  | cons t ts ih =>
    rw [List.pairwise_cons] at sorted
    rw [List.forall_mem_cons] at other
    rw [place]
    split
    next earlier =>
      refine List.pairwise_cons.2 ⟨fun u hu => ?_, ih sorted.2 other.2⟩
      rcases mem_place.1 hu with rfl | hu
      · exact before_iff.2 earlier
      · exact sorted.1 u hu
    next notEarlier =>
      have later : Before s t := by
        rcases List.le_iff_lt_or_eq.1 (List.not_lt.1 (mt before_iff.1 notEarlier)) with less | same
        · exact less
        · exact absurd (Text.bytes_inj.1 same).symm other.1
      refine List.pairwise_cons.2 ⟨fun u hu => ?_, List.pairwise_cons.2 sorted⟩
      rcases List.mem_cons.1 hu with rfl | hu
      · exact later
      · exact List.lt_trans later (sorted.1 u hu)

theorem pairwise_register (sorted : r.shapes.Pairwise Before) :
    (r.register s).shapes.Pairwise Before := by
  refine pairwise_place (sorted.filter _) fun t ht same => ?_
  rw [List.mem_filter, same, Text.sameName_refl] at ht
  exact Bool.false_ne_true ht.2

/-! ### A run of calls -/

theorem pairwise_ofCalls (calls : List ShapeInfo) : (ofCalls calls).shapes.Pairwise Before := by
  induction calls using List.reverseRecOn with
  | nil => exact .nil
  | append_singleton calls s ih =>
    rw [ofCalls_concat]
    exact pairwise_register ih

/-- A description is listed iff it is the last of its name. -/
theorem mem_ofCalls : t ∈ (ofCalls calls).shapes ↔ lastNamed calls t.shape = some t := by
  induction calls using List.reverseRecOn with
  | nil => exact iff_of_false List.not_mem_nil nofun
  | append_singleton calls s ih =>
    rw [ofCalls_concat, mem_register, ih, lastNamed_concat, Text.sameName_comm s.shape]
    cases same : Text.sameName t.shape s.shape with
    | true => simp [eq_comm]
    | false =>
      have other : t ≠ s := by
        rintro rfl
        rw [Text.sameName_refl] at same
        exact Bool.false_ne_true same.symm
      simp [other]

/-- Descriptions of one name are listed once. -/
theorem eq_of_mem_ofCalls (hs : s ∈ (ofCalls calls).shapes) (ht : t ∈ (ofCalls calls).shapes)
    (same : Text.sameName s.shape t.shape = true) : s = t := by
  rw [mem_ofCalls] at hs ht
  rw [lastNamed_congr same, ht] at hs
  exact (Option.some.inj hs).symm

theorem get?_ofCalls (calls : List ShapeInfo) (name : String) :
    (ofCalls calls).get? name = lastNamed calls name := by
  cases found : (ofCalls calls).get? name with
  | some s =>
    have same : Text.sameName s.shape name = true := by simpa using List.find?_some found
    rw [← lastNamed_congr same, mem_ofCalls.1 (List.mem_of_find?_eq_some found)]
  | none =>
    rw [get?, List.find?_eq_none] at found
    cases last : lastNamed calls name with
    | none => rfl
    | some s =>
      have same := sameName_of_lastNamed last
      have listed : s ∈ (ofCalls calls).shapes := by rw [mem_ofCalls, lastNamed_congr same, last]
      exact absurd same (found s listed)

/-- For every call there is one description of its name. -/
theorem filter_ofCalls (hs : s ∈ calls) :
    ∃ t, (ofCalls calls).shapes.filter (fun t => Text.sameName t.shape s.shape) = [t] := by
  have called : lastNamed calls s.shape ≠ none := by
    intro none
    have other := lastNamed_eq_none_iff.1 none s hs
    rw [Text.sameName_refl] at other
    exact Bool.false_ne_true other.symm
  obtain ⟨t, last⟩ := Option.ne_none_iff_exists'.1 called
  have same := sameName_of_lastNamed last
  have listed : t ∈ (ofCalls calls).shapes := by rw [mem_ofCalls, lastNamed_congr same, last]
  have nodup : (ofCalls calls).shapes.Nodup := by
    refine (pairwise_ofCalls calls).imp fun {u v} before same => ?_
    rw [same] at before
    exact List.lt_irrefl _ before
  refine ⟨t, List.perm_singleton.1 ?_⟩
  rw [List.perm_ext_iff_of_nodup (nodup.filter _) (List.pairwise_singleton _ t)]
  intro u
  rw [List.mem_filter, List.mem_singleton]
  constructor
  · rintro ⟨hu, other⟩
    rw [Text.sameName_comm] at same
    exact eq_of_mem_ofCalls hu listed (Text.sameName_trans other same)
  · rintro rfl
    exact ⟨listed, same⟩

/-- The table holds what the list does. -/
theorem toList_table_perm (calls : List ShapeInfo) :
    (table calls).toList.Perm ((ofCalls calls).shapes.map fun s => (key s, s)) := by
  induction calls using List.reverseRecOn with
  | nil => rw [table, List.foldl_nil, Std.HashMap.toList_empty]; exact .nil
  | append_singleton calls s ih =>
    rw [ofCalls_concat, table_concat]
    refine Std.HashMap.toList_insert_perm.trans ?_
    refine .trans (.cons _ (ih.filter _)) ?_
    refine .trans ?_ ((shapes_register_perm _ s).map _).symm
    rw [List.map_cons, List.filter_map]
    refine .of_eq (congrArg _ (congrArg _ (List.filter_congr fun t _ => ?_)))
    simp only [Function.comp_apply, beq_iff_eq, key_eq_key_iff, Text.sameName_comm s.shape,
      decide_not, Bool.decide_eq_true]

/-- What a registry has to hold after a run of calls. -/
structure Records (r : Registry) (calls : List ShapeInfo) : Prop where
  /-- A look-up gives the last of the calls with the name. -/
  get?_eq (name : String) : r.get? name = lastNamed calls name
  /-- A look-up gives nothing iff there was no call with the name. -/
  get?_eq_none_iff (name : String) :
    r.get? name = none ↔ ∀ s ∈ calls, Text.sameName s.shape name = false
  /-- What is listed is the last of its name. -/
  last_of_mem : ∀ s ∈ r.shapes, lastNamed calls s.shape = some s
  /-- Every name that was registered is listed once. -/
  once : ∀ s ∈ calls, ∃ t, r.shapes.filter (fun t => Text.sameName t.shape s.shape) = [t]
  /-- The list is strictly increasing by the bytes of the names. -/
  increasing : r.shapes.Pairwise fun s t => Text.bytes s.shape < Text.bytes t.shape
  /-- Whatever the order in which a table is gone through, what it holds is the list once it is put
      in order. -/
  sorted_values : ∀ values sorted : List ShapeInfo,
    values.Perm ((table calls).toList.map Prod.snd) → sorted.Perm values →
      sorted.Pairwise (fun s t => Text.bytes s.shape ≤ Text.bytes t.shape) → sorted = r.shapes

/-- After every run of calls the registry has the last description of each name. -/
theorem records_ofCalls (calls : List ShapeInfo) : (ofCalls calls).Records calls where
  get?_eq := get?_ofCalls calls
  get?_eq_none_iff name := by rw [get?_ofCalls, lastNamed_eq_none_iff]
  last_of_mem _ := mem_ofCalls.1
  once _ := filter_ofCalls
  increasing := pairwise_ofCalls calls
  sorted_values values sorted held perm ordered := by
    have shapes : sorted.Perm (ofCalls calls).shapes := by
      refine perm.trans (held.trans (((toList_table_perm calls).map Prod.snd).trans ?_))
      rw [List.map_map]
      exact .of_eq (List.map_id _)
    refine shapes.eq_of_pairwise (fun s t hs ht below above => ?_) ordered
      ((pairwise_ofCalls calls).imp List.le_of_lt)
    have same : s.shape = t.shape := Text.bytes_inj.1 (List.le_antisymm below above)
    refine eq_of_mem_ofCalls (shapes.mem_iff.1 hs) ht ?_
    rw [same, Text.sameName_refl]

end RecordSearch.Registry
