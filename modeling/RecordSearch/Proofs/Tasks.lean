import RecordSearch.Console.Session
import RecordSearch.Proofs.Plan
import RecordSearch.Proofs.Storage

/-! Tasks in a world of data.

    If variables and files are given as data, then a task has a result and there is all that was
    said. A task that only prepares a result says nothing but asides on the way:

        load      says that it loads, or that it takes the samples
        resolve   says nothing
        search    maybe warns of filters that are ignored

    What they give is what the rules for files and variables give, without anything being said. -/

namespace RecordSearch

open Json

theorem exceptMapError_eq_ok_iff {ε ε' α : Type} {failure : ε → ε'} {x : Except ε α} {a : α} :
    x.mapError failure = .ok a ↔ x = .ok a := by
  cases x with
  | error e => simp [Except.mapError]
  | ok b => simp [Except.mapError]

/-- Of all variables, only the one that stands for the data directory matters. -/
theorem Settings.resolve_congr {settings : Settings} {env env' : Environment} {file : String}
    (same : ∀ name ∈ placeholder? settings.dataDirectory, env name = env' name) :
    settings.resolve env file = settings.resolve env' file := by
  rw [resolve, resolve, expand, expand]
  cases asked : placeholder? settings.dataDirectory with
  | none => rfl
  | some name => simp only [same name asked]

namespace Console

namespace Task

variable {α β : Type}

/-- What a task gives, and all that is said then. -/
def outcome (task : Task Id α) (said : List Message) : Except Failure α × List Message :=
  (StateT.run (ExceptT.run task) said).run

variable {task : Task Id α} {next : α → Task Id β}

theorem outcome_bind_ok {a : α} {said said' : List Message}
    (h : task.outcome said = (.ok a, said')) :
    (task >>= next).outcome said = (next a).outcome said' := by
  rw [outcome] at h
  rw [outcome, ExceptT.run_bind, StateT.run_bind, Id.run_bind, h]
  rfl

theorem outcome_bind_error {e : Failure} {said said' : List Message}
    (h : task.outcome said = (.error e, said')) :
    (task >>= next).outcome said = (.error e, said') := by
  rw [outcome] at h
  rw [outcome, ExceptT.run_bind, StateT.run_bind, Id.run_bind, h]
  rfl

/-- Messages that are said one after the other are said. -/
theorem outcome_forM_say (ms said : List Message) :
    outcome (ms.forM say) said = (.ok (), said ++ ms) := by
  induction ms generalizing said with
  | nil =>
    rw [List.append_nil]
    rfl
  | cons m ms ih =>
    have first : (say m : Task Id Unit).outcome said = (.ok (), said ++ [m]) := rfl
    rw [List.forM, outcome_bind_ok first, ih, List.append_assoc, List.singleton_append]

theorem report_of_ok {task : Task Id Unit} {messages : List Message}
    (h : task.outcome [] = (.ok (), messages)) : Task.report task = ⟨messages, none⟩ := by
  have said : StateT.run (ExceptT.run task) [] = (Except.ok (), messages) := h
  rw [report, said]
  rfl

theorem report_of_error {task : Task Id Unit} {e : Failure} {messages : List Message}
    (h : task.outcome [] = (.error e, messages)) :
    Task.report task = ⟨messages, some e.message⟩ := by
  have said : StateT.run (ExceptT.run task) [] = (Except.error e, messages) := h
  rw [report, said]
  rfl

/-! ### Tasks that prepare -/

/-- A task has a result, and on the way says nothing but asides. -/
def Ends (task : Task Id α) (result : Except Failure α) : Prop :=
  ∀ said, ∃ asides : List Message, (∀ m ∈ asides, m.isAside = true) ∧
    task.outcome said = (result, said ++ asides)

theorem ends_pure (a : α) : Ends (pure a) (.ok a) := fun said =>
  ⟨[], by simp, by rw [List.append_nil]; rfl⟩

theorem ends_throw (e : Failure) : Ends (throw e : Task Id α) (.error e) := fun said =>
  ⟨[], by simp, by rw [List.append_nil]; rfl⟩

theorem ends_say {m : Message} (aside : m.isAside = true) : Ends (say m) (.ok ()) := fun said =>
  ⟨[m], by simp [aside], rfl⟩

theorem ends_ask (answer : Id α) : Ends (ask answer) (.ok answer.run) := fun said =>
  ⟨[], by simp, by rw [List.append_nil]; rfl⟩

theorem ends_orFail {ε : Type} (failure : ε → Failure) (r : Except ε α) :
    Ends (orFail failure r) (r.mapError failure) := by
  cases r with
  | ok a => exact ends_pure a
  | error e => exact ends_throw (failure e)

theorem Ends.bind_ok {a : α} {r : Except Failure β} (first : task.Ends (.ok a))
    (rest : (next a).Ends r) : (task >>= next).Ends r := by
  intro said
  obtain ⟨before, asides, ends⟩ := first said
  obtain ⟨behind, asides', ends'⟩ := rest (said ++ before)
  refine ⟨before ++ behind, List.forall_mem_append.2 ⟨asides, asides'⟩, ?_⟩
  rw [outcome_bind_ok ends, ends', List.append_assoc]

theorem Ends.bind_error {e : Failure} (first : task.Ends (.error e)) :
    (task >>= next).Ends (.error e) := by
  intro said
  obtain ⟨before, asides, ends⟩ := first said
  exact ⟨before, asides, outcome_bind_error ends⟩

/-- Two tasks in a row end as their results do. -/
theorem Ends.bind {r : Except Failure α} {r' : α → Except Failure β} (first : task.Ends r)
    (rest : ∀ a, (next a).Ends (r' a)) : (task >>= next).Ends (r >>= r') := by
  cases r with
  | ok a => exact first.bind_ok (rest a)
  | error e => exact first.bind_error

end Task

/-! ### Records that are searched -/

/-- As many items are read as there are. -/
theorem length_decodeItems {α : Type} {decode : Json → Decoded α} {vs : List Json} {as : List α}
    (h : decodeItems decode vs = .ok as) : as.length = vs.length := by
  induction vs generalizing as with
  | nil =>
    cases h
    rfl
  | cons v vs ih =>
    obtain ⟨a, -, h⟩ := exceptBind_eq_ok_iff.1 h
    obtain ⟨rest, read, h⟩ := exceptBind_eq_ok_iff.1 h
    cases h
    rw [List.length_cons, List.length_cons, ih read]

namespace Listing

variable {ρ δ τ : Type} {l : Listing ρ δ τ} {w : World Id} {settings : Settings}

/-- A file has no more records than characters. -/
theorem length_readRecords_le {s : String} {records : List ρ}
    (h : l.readRecords s = some records) : records.length ≤ s.length := by
  rw [readRecords] at h
  split at h
  next v text =>
    cases v with
    | array vs =>
      have read : decodeItems l.codec.decode vs = .ok records := exceptToOption_eq_some_iff.1 h
      rw [length_decodeItems read]
      exact length_le_of_parse text
    | _ => cases h
  next => cases h

/-- The records that are searched: the samples, or those of a file. -/
def recordsIn (l : Listing ρ δ τ) (w : World Id) (settings : Settings) :
    Option String → Except Failure (List ρ)
  | none => .ok l.samples
  | some file => do
    let path ← (settings.resolve w.lookup file).mapError .settingsRefused
    let content ← (w.contentOf path).run.mapError (.recordsUnreadable path)
    match l.readRecords content with
    | some records => .ok records
    | none => .error (.recordsMalformed path)

/-- If no file has more characters than can be counted, no list has more records than that. -/
theorem length_recordsIn_le {data : Option String} {records : List ρ}
    (countable : ∀ path s, w.contentOf path = .ok s → s.length ≤ countLimit)
    (samples : l.samples.length ≤ countLimit) (h : l.recordsIn w settings data = .ok records) :
    records.length ≤ countLimit := by
  cases data with
  | none =>
    cases h
    exact samples
  | some file =>
    obtain ⟨path, -, h⟩ := exceptBind_eq_ok_iff.1 h
    obtain ⟨content, there, h⟩ := exceptBind_eq_ok_iff.1 h
    split at h
    next read =>
      cases h
      exact Nat.le_trans (length_readRecords_le read)
        (countable path content (exceptMapError_eq_ok_iff.1 there))
    next => cases h

theorem ends_resolve (file : String) :
    (resolve w settings file).Ends
      ((settings.resolve w.lookup file).mapError .settingsRefused) := by
  have known : settings.resolve w.lookup file =
      settings.resolve (fun name => if some name = placeholder? settings.dataDirectory then
        (placeholder? settings.dataDirectory).bind w.lookup else none) file := by
    refine Settings.resolve_congr fun name asked => ?_
    rw [asked, if_pos rfl]
    rfl
  rw [known, resolve]
  cases placeholder? settings.dataDirectory with
  | none => exact (Task.ends_pure none).bind_ok (Task.ends_orFail _ _)
  | some name => exact (Task.ends_ask (w.lookup name)).bind_ok (Task.ends_orFail _ _)

/-- Loading gives the records of the file, or why there are none. -/
theorem ends_load (data : Option String) :
    (l.load w settings data).Ends (l.recordsIn w settings data) := by
  cases data with
  | none => exact (Task.ends_say rfl).bind_ok (Task.ends_pure _)
  | some file =>
    refine (ends_resolve file).bind fun path => ?_
    refine (Task.ends_say rfl).bind_ok ?_
    refine (Task.ends_ask _).bind_ok ?_
    refine (Task.ends_orFail _ _).bind fun content => ?_
    cases l.readRecords content with
    | some records => exact Task.ends_pure records
    | none => exact Task.ends_throw _

end Listing

end Console

end RecordSearch
