import RecordSearch.Proofs.Plan

/-! What a search asks of the outside, and what it makes of the answers.

    A source answers by any two functions over a state of its own, and each may fail. A projection
    may have effects too. Every call is recorded. A search makes the calls of one of three lines, and
    whatever the request, only a failing call ends a line early.

        count ──▶ fetch ──▶ project x₁ ──▶ … ──▶ project xₙ ──▶ page
          │         │
        error     error -/

namespace RecordSearch

variable {σ ε ρ τ δ α β : Type}

/-! ### Projections with effects -/

/-- A search whose projection has effects. They take place record by record, once the records of the
    page are there. -/
def searchEach {m : Type → Type} [Monad m] [MonadNotes m] (pager : Pager) (shape : Shape ρ)
    (typed : δ → List (Predicate ρ)) (source : Source m ρ) (r : Request δ) (project : ρ → m τ) :
    m (ResultPage τ) := do
  let page ← search pager shape typed source r project
  let items ← page.items.mapM id
  pure ⟨items, page.totalCount, page.page, page.pageSize⟩

/-- With a projection that only maps, this is the search. -/
theorem searchEach_pure {m : Type → Type} [Monad m] [LawfulMonad m] [MonadNotes m] (pager : Pager)
    (shape : Shape ρ) (typed : δ → List (Predicate ρ)) (source : Source m ρ) (r : Request δ)
    (project : ρ → τ) :
    searchEach pager shape typed source r (fun x => pure (project x)) =
      search pager shape typed source r project := by
  have items : ∀ xs : List ρ, (xs.map fun x => (pure (project x) : m τ)).mapM id =
      pure (xs.map project) := by
    intro xs
    induction xs with
    | nil => rw [List.map_nil, List.mapM_nil, List.map_nil]
    | cons x xs ih => rw [List.map_cons, List.mapM_cons, ih, id, pure_bind, pure_bind, List.map_cons]
  simp only [searchEach, search, bind_assoc, pure_bind, items]

/-! ### Recorded calls -/

/-- A call from a search to the outside. -/
inductive Call (ρ : Type) where
  | count (p : Predicate ρ)
  | fetch (plan : Plan ρ)
  | project (x : ρ)

/-- What a search calls: a source whose two functions may fail, and a projection, over a state that
    they share. -/
structure Outside (σ ε ρ τ : Type) where
  count : Predicate ρ → σ → Except ε Nat × σ
  fetch : Plan ρ → σ → Except ε (List ρ) × σ
  project : ρ → σ → τ × σ

/-- Effects of the outside, failures included, with the calls that caused them. -/
abbrev Recorded (σ ε ρ : Type) := ExceptT ε (StateT (σ × List (Call ρ)) Logged)

namespace Recorded

/-- A call with its effect. -/
def call (c : Call ρ) (effect : σ → Except ε α × σ) : Recorded σ ε ρ α :=
  ExceptT.mk fun (s, calls) => pure ((effect s).1, (effect s).2, calls ++ [c])

/-- What a run gives, the state it leaves, and the calls so far. Notes are left out. -/
def outcome (x : Recorded σ ε ρ α) (w : σ × List (Call ρ)) : Except ε α × σ × List (Call ρ) :=
  (x.run.run w).value

variable (w : σ × List (Call ρ))

@[simp] theorem outcome_pure (a : α) : (pure a : Recorded σ ε ρ α).outcome w = (.ok a, w) := rfl

@[simp] theorem outcome_note (e : Event) :
    (MonadNotes.note e : Recorded σ ε ρ Unit).outcome w = (.ok (), w) := rfl

@[simp] theorem outcome_call (c : Call ρ) (effect : σ → Except ε α × σ) :
    (call c effect).outcome w = ((effect w.1).1, (effect w.1).2, w.2 ++ [c]) := rfl

/-- What a run gives is handed over to the rest, with the state and the calls. -/
theorem outcome_bind_ok {x : Recorded σ ε ρ α} {f : α → Recorded σ ε ρ β} {a : α}
    {w w' : σ × List (Call ρ)} (h : x.outcome w = (.ok a, w')) :
    (x >>= f).outcome w = (f a).outcome w' := by
  rw [outcome] at h
  rw [outcome, ExceptT.run_bind, StateT.run_bind, Logged.value_bind, h]
  rfl

/-- A failure ends a run. -/
theorem outcome_bind_error {x : Recorded σ ε ρ α} {f : α → Recorded σ ε ρ β} {e : ε}
    {w w' : σ × List (Call ρ)} (h : x.outcome w = (.error e, w')) :
    (x >>= f).outcome w = (.error e, w') := by
  rw [outcome] at h
  rw [outcome, ExceptT.run_bind, StateT.run_bind, Logged.value_bind, h]
  rfl

/-- Handing over notes calls nothing. -/
theorem outcome_run (x : Logged α) : (x.run : Recorded σ ε ρ α).outcome w = (.ok x.value, w) := by
  have notes : ∀ es : List Event,
      (es.forM MonadNotes.note : Recorded σ ε ρ PUnit).outcome w = (.ok ⟨⟩, w) := by
    intro es
    induction es with
    | nil => rfl
    | cons e es ih =>
      show (MonadNotes.note e >>= fun _ => es.forM MonadNotes.note :
        Recorded σ ε ρ PUnit).outcome w = _
      rw [outcome_bind_ok (outcome_note w e), ih]
  rw [Logged.run, outcome_bind_ok (notes x.log), outcome_pure]

end Recorded

namespace Outside

variable (o : Outside σ ε ρ τ)

/-- The outside as a source, each call recorded. -/
def source : Source (Recorded σ ε ρ) ρ where
  count p := .call (.count p) (o.count p)
  fetch plan := .call (.fetch plan) (o.fetch plan)

theorem outcome_count {p : Predicate ρ} {s s' : σ} {answer : Except ε Nat} (calls : List (Call ρ))
    (h : o.count p s = (answer, s')) :
    (o.source.count p).outcome (s, calls) = (answer, s', calls ++ [.count p]) := by
  rw [source, Recorded.outcome_call, h]

theorem outcome_fetch {plan : Plan ρ} {s s' : σ} {answer : Except ε (List ρ)}
    (calls : List (Call ρ)) (h : o.fetch plan s = (answer, s')) :
    (o.source.fetch plan).outcome (s, calls) = (answer, s', calls ++ [.fetch plan]) := by
  rw [source, Recorded.outcome_call, h]

/-- The projection of a record, recorded. -/
def projection (x : ρ) : Recorded σ ε ρ τ :=
  .call (.project x) fun s => (.ok (o.project x s).1, (o.project x s).2)

/-- The projections of records, in their order. -/
def projectAll : List ρ → σ → List τ × σ
  | [], s => ([], s)
  | x :: xs, s =>
    let (a, s) := o.project x s
    let (as, s) := projectAll xs s
    (a :: as, s)

/-- Every record is projected once, in order. -/
theorem outcome_mapM_projection (xs : List ρ) (s : σ) (calls : List (Call ρ)) :
    Recorded.outcome ((xs.map o.projection).mapM id) (s, calls) =
      (.ok (o.projectAll xs s).1, (o.projectAll xs s).2, calls ++ xs.map .project) := by
  induction xs generalizing s calls with
  | nil => rw [List.map_nil, List.mapM_nil, Recorded.outcome_pure, List.map_nil, List.append_nil]; rfl
  | cons x xs ih =>
    rw [List.map_cons, List.mapM_cons, id, projection,
      Recorded.outcome_bind_ok (Recorded.outcome_call ..), Recorded.outcome_bind_ok (ih ..),
      Recorded.outcome_pure, List.map_cons, List.append_assoc, List.singleton_append]
    rfl

/-- The error with which the outside fails on a plan: in the count, or after it in the fetch. -/
def Fails (plan : Plan ρ) (s : σ) (e : ε) : Prop :=
  match o.count plan.predicate s with
  | (.error e', _) => e' = e
  | (.ok _, s') => (o.fetch plan s').1 = .error e

/-- A search of the outside from a state: its outcome, the state after it, and all its calls. -/
def run (pager : Pager) (shape : Shape ρ) (typed : δ → List (Predicate ρ)) (r : Request δ) (s : σ) :
    Except ε (ResultPage τ) × σ × List (Call ρ) :=
  (searchEach pager shape typed o.source r o.projection).outcome (s, [])

end Outside

/-! ### Searches of the outside -/

/-- What a search whose projection only maps makes of the answers, the state after it, and its
    calls. -/
def Outside.answer (o : Outside σ ε ρ τ) (plan : Plan ρ) (project : ρ → α) (s : σ) :
    Except ε (ResultPage α) × σ × List (Call ρ) :=
  match o.count plan.predicate s with
  | (.error e, s') => (.error e, s', [.count plan.predicate])
  | (.ok total, s') =>
    match o.fetch plan s' with
    | (.error e, s'') => (.error e, s'', [.count plan.predicate, .fetch plan])
    | (.ok records, s'') =>
      (.ok ⟨records.map project, total, plan.window.page, plan.window.pageSize⟩, s'',
        [.count plan.predicate, .fetch plan])

theorem outcome_search (o : Outside σ ε ρ τ) (pager : Pager) (shape : Shape ρ)
    (typed : δ → List (Predicate ρ)) (r : Request δ) (project : ρ → α) (s : σ) :
    (search pager shape typed o.source r project).outcome (s, []) =
      o.answer (planRequest pager shape typed r).value project s := by
  rw [search, Recorded.outcome_bind_ok (Recorded.outcome_run ..),
    Recorded.outcome_bind_ok (Recorded.outcome_note ..), Outside.answer]
  generalize (planRequest pager shape typed r).value = plan
  rcases count : o.count plan.predicate s with ⟨e | total, s'⟩
  · rw [Recorded.outcome_bind_error (o.outcome_count [] count)]
    rfl
  rw [Recorded.outcome_bind_ok (o.outcome_count [] count)]
  rcases fetch : o.fetch plan s' with ⟨e | records, s''⟩
  · rw [Recorded.outcome_bind_error (o.outcome_fetch _ fetch)]
    simp only [fetch]
    rfl
  · rw [Recorded.outcome_bind_ok (o.outcome_fetch _ fetch),
      Recorded.outcome_bind_ok (Recorded.outcome_note ..), Recorded.outcome_pure]
    simp only [fetch]
    rfl

/-- What may pass between a search and the outside for a plan, from a state: the outcome, the state
    after, and the calls. -/
inductive Exchange (o : Outside σ ε ρ τ) (plan : Plan ρ) (s : σ) :
    Except ε (ResultPage τ) × σ × List (Call ρ) → Prop
  /-- The count fails. Nothing else is called. -/
  | countFails {e : ε} {s' : σ} (count : o.count plan.predicate s = (.error e, s')) :
    Exchange o plan s (.error e, s', [.count plan.predicate])
  /-- The fetch fails. Nothing is projected. -/
  | fetchFails {total : Nat} {e : ε} {s' s'' : σ}
    (count : o.count plan.predicate s = (.ok total, s'))
    (fetch : o.fetch plan s' = (.error e, s'')) :
    Exchange o plan s (.error e, s'', [.count plan.predicate, .fetch plan])
  /-- Both answer. The records are projected in the order in which they came. -/
  | answers {total : Nat} {records : List ρ} {s' s'' : σ}
    (count : o.count plan.predicate s = (.ok total, s'))
    (fetch : o.fetch plan s' = (.ok records, s'')) :
    Exchange o plan s
      (.ok ⟨(o.projectAll records s'').1, total, plan.window.page, plan.window.pageSize⟩,
        (o.projectAll records s'').2, .count plan.predicate :: .fetch plan :: records.map .project)

/-- An exchange ends in an error exactly if the outside fails, and with its error. -/
theorem Exchange.eq_error_iff {o : Outside σ ε ρ τ} {plan : Plan ρ} {s : σ}
    {x : Except ε (ResultPage τ) × σ × List (Call ρ)} (h : Exchange o plan s x) {e : ε} :
    x.1 = .error e ↔ o.Fails plan s e := by
  cases h with
  | countFails count => simp [Outside.Fails, count]
  | fetchFails count fetch => simp [Outside.Fails, count, fetch]
  | answers count fetch => simp [Outside.Fails, count, fetch]

/-- Every search is one of these exchanges, with the predicate of its plan and then with the plan
    itself; so an error is always one of the outside, whatever the request. With a projection that
    only maps, it is what the two answers make of it. -/
theorem search_exchange (o : Outside σ ε ρ τ) (pager : Pager) (shape : Shape ρ)
    (typed : δ → List (Predicate ρ)) (r : Request δ) (s : σ) :
    let plan := (planRequest pager shape typed r).value
    Exchange o plan s (o.run pager shape typed r s) ∧
      (∀ e, (o.run pager shape typed r s).1 = .error e ↔ o.Fails plan s e) ∧
      ∀ project : ρ → τ,
        (search pager shape typed o.source r project).outcome (s, []) = o.answer plan project s := by
  intro plan
  have exchange : Exchange o plan s (o.run pager shape typed r s) := by
    have asked : (search pager shape typed o.source r o.projection).outcome (s, []) =
        o.answer plan o.projection s := outcome_search ..
    rw [Outside.answer] at asked
    rw [Outside.run, searchEach]
    rcases count : o.count plan.predicate s with ⟨e | total, s'⟩
    · simp only [count] at asked
      rw [Recorded.outcome_bind_error asked]
      exact .countFails count
    rcases fetch : o.fetch plan s' with ⟨e | records, s''⟩
    · simp only [count, fetch] at asked
      rw [Recorded.outcome_bind_error asked]
      exact .fetchFails count fetch
    · simp only [count, fetch] at asked
      rw [Recorded.outcome_bind_ok asked, Recorded.outcome_bind_ok (o.outcome_mapM_projection ..),
        Recorded.outcome_pure]
      exact .answers count fetch
  exact ⟨exchange, fun e => exchange.eq_error_iff, fun project => outcome_search ..⟩

end RecordSearch
