import RecordSearch.Degradation

/-! What a search notes while it runs.

    Notes are events, each with a level and a wording. Pure stages return their notes together with
    their result; stages that talk to a source hand theirs to the monad they run in. -/

namespace RecordSearch

/-- How detailed a note is. -/
inductive Level where | debug | trace
  deriving DecidableEq, Repr

/-- One note. The first component of most is the name of the shape. -/
inductive Event where
  /-- A free-text field that is no text field. -/
  | freeTextNotText (shape field : String) (type : FieldType)
  /-- A free-text field that the schema lacks. -/
  | freeTextUnknown (shape field : String)
  /-- A criterion that imposes nothing. -/
  | filterIgnored (shape : String) (criterion : Criterion) (reason : Degradation)
  /-- A sort field that the schema lacks. -/
  | sortUnknown (shape field : String)
  /-- A page request that was brought within bounds. -/
  | pageClamped (page pageSize : Int) (clampedPage clampedSize : Int)
  /-- A search that is about to start. -/
  | searching (shape sort : String) (skip take : Nat)
  /-- A search that ended. -/
  | found (shape : String) (total returned page : Nat)
  /-- Records read from a file. -/
  | loaded (count : Nat) (path : String)
  deriving DecidableEq, Repr

namespace Event

/-- The level of a note. -/
def level : Event → Level
  | searching .. | loaded .. => .trace
  | _ => .debug

/-- The digits of a count. -/
def count (n : Nat) : String := Text.integerText n

/-- The wording of a note. -/
def message : Event → String
  | freeTextNotText shape field type =>
    shape ++ ": free-text field '" ++ field ++ "' is " ++ type.name ++ ", not text; skipping"
  | freeTextUnknown shape field =>
    shape ++ ": unknown free-text field '" ++ field ++ "'; skipping"
  | filterIgnored shape criterion reason =>
    shape ++ ": ignoring filter '" ++ criterion.toText ++ "': " ++ reason.message
  | sortUnknown shape field =>
    shape ++ ": unknown sort field '" ++ field ++ "'; keeping source order"
  | pageClamped page pageSize clampedPage clampedSize =>
    (Degradation.pagingOutOfRange page pageSize).message ++ "; clamped to page=" ++
      Text.integerText clampedPage ++ " page_size=" ++ Text.integerText clampedSize
  | searching shape sort skip take =>
    shape ++ ": searching with " ++ sort ++ " sort and window skip=" ++ count skip ++
      " take=" ++ count take
  | found shape total returned page =>
    shape ++ ": " ++ count total ++ " matching records, returning " ++ count returned ++
      " on page " ++ count page
  | loaded records path => "loaded " ++ count records ++ " records from " ++ path

end Event

/-- A result with the notes that were made on the way, in order. -/
structure Logged (α : Type) where
  value : α
  log : List Event := []
  deriving Repr

namespace Logged

/-- A note without result. -/
def note (e : Event) : Logged Unit := ⟨(), [e]⟩

instance : Monad Logged where
  pure a := ⟨a, []⟩
  bind x f := ⟨(f x.value).value, x.log ++ (f x.value).log⟩

variable {α β : Type}

@[simp] theorem value_pure (a : α) : (pure a : Logged α).value = a := rfl
@[simp] theorem log_pure (a : α) : (pure a : Logged α).log = [] := rfl
@[simp] theorem value_bind (x : Logged α) (f : α → Logged β) :
    (x >>= f).value = (f x.value).value := rfl
@[simp] theorem log_bind (x : Logged α) (f : α → Logged β) :
    (x >>= f).log = x.log ++ (f x.value).log := rfl
@[simp] theorem value_map (f : α → β) (x : Logged α) : (f <$> x).value = f x.value := rfl
@[simp] theorem log_map (f : α → β) (x : Logged α) : (f <$> x).log = x.log := by
  show x.log ++ [] = x.log; simp

instance : LawfulMonad Logged := LawfulMonad.mk' Logged
  (fun x => by show Logged.mk x.value (x.log ++ []) = x; simp)
  (fun a f => by show Logged.mk (f a).value ([] ++ (f a).log) = f a; simp)
  (fun x f g => by
    show Logged.mk _ ((x.log ++ (f x.value).log) ++ _) = Logged.mk _ (x.log ++ (_ ++ _))
    rw [List.append_assoc]; rfl)

@[simp] theorem value_note (e : Event) : (note e).value = () := rfl
@[simp] theorem log_note (e : Event) : (note e).log = [e] := rfl

end Logged

/-- A monad that takes notes. -/
class MonadNotes (m : Type → Type) where
  note : Event → m Unit

instance : MonadNotes Logged := ⟨Logged.note⟩

instance {ε : Type} {m : Type → Type} [Monad m] [MonadNotes m] : MonadNotes (ExceptT ε m) :=
  ⟨fun e => ExceptT.lift (MonadNotes.note e)⟩

instance {m : Type → Type} [Monad m] [MonadNotes m] : MonadNotes (OptionT m) :=
  ⟨fun e => OptionT.lift (MonadNotes.note e)⟩

instance {σ : Type} {m : Type → Type} [Monad m] [MonadNotes m] : MonadNotes (StateT σ m) :=
  ⟨fun e => StateT.lift (MonadNotes.note e)⟩

/-- A stage that takes notes and may give up. The notes made before that stay. -/
abbrev Attempt (α : Type) := OptionT Logged α

/-- The result, unless the stage gave up. -/
def Attempt.value {α : Type} (x : Attempt α) : Option α := (OptionT.run x).value

/-- The notes that were made. -/
def Attempt.log {α : Type} (x : Attempt α) : List Event := (OptionT.run x).log

namespace Attempt

variable {α β : Type}

@[simp] theorem value_pure (a : α) : value (pure a) = some a := rfl
@[simp] theorem log_pure (a : α) : log (pure a) = [] := rfl
@[simp] theorem value_lift (x : Logged α) : value (OptionT.lift x) = some x.value := rfl
@[simp] theorem log_lift (x : Logged α) : log (OptionT.lift x) = x.log := List.append_nil x.log
@[simp] theorem value_lift_bind (x : Logged α) (f : α → Attempt β) :
    value (OptionT.lift x >>= f) = value (f x.value) := rfl
@[simp] theorem log_lift_bind (x : Logged α) (f : α → Attempt β) :
    log (OptionT.lift x >>= f) = x.log ++ log (f x.value) := by
  show (x.log ++ []) ++ log (f x.value) = _
  rw [List.append_nil]
@[simp] theorem value_note_bind (e : Event) (f : Unit → Attempt β) :
    value (MonadNotes.note e >>= f) = value (f ()) := rfl
@[simp] theorem log_note_bind (e : Event) (f : Unit → Attempt β) :
    log (MonadNotes.note e >>= f) = e :: log (f ()) := rfl
@[simp] theorem value_liftOption_bind (o : Option α) (f : α → Attempt β) :
    value (liftOption o >>= f) = o.bind fun a => value (f a) := by
  cases o <;> rfl
@[simp] theorem log_liftOption_bind (o : Option α) (f : α → Attempt β) :
    log (liftOption o >>= f) = o.elim [] fun a => log (f a) := by
  cases o <;> rfl

end Attempt

/-- Hands over the notes of a pure stage and goes on with its result. -/
def Logged.run {α : Type} {m : Type → Type} [Monad m] [MonadNotes m] (x : Logged α) : m α := do
  x.log.forM MonadNotes.note
  pure x.value

end RecordSearch
