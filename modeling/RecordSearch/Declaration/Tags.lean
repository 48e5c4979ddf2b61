import RecordSearch.Declaration.Item
import RecordSearch.TagSet
import RecordSearch.Text.Blank

/-! Closed sets from declarations of variants. A variant is known by its name, unless it is renamed,
    and carries nothing. -/

namespace RecordSearch

namespace Member

/-- Whether fields stand behind the name of a variant. -/
def hasFields (m : Member) : Bool :=
  match Text.trimLeft m.type.toList with
  | c :: _ => c = '(' || c = Char.ofNat 0x7B
  | [] => false

/-- The tag of a variant, given the options that rename it. -/
def tag (m : Member) : Declared String :=
  m.options.foldlM (fun _ o => if o.name = "rename" then o.text else .error .unknownTagOption) m.name

end Member

namespace TagSet

/-- Adds the tag of a variant. -/
def takeVariant (tags : List String) (m : Member) : Declared (List String) := do
  if m.hasFields then .error .variantWithFields
  let tag ← m.tag
  if tags.any (Text.sameName · tag) then .error (.tagCollision tag)
  pure (tags ++ [tag])

/-- The closed set of a declaration. -/
def ofItem (item : Item) : Declared TagSet := do
  if item.generic then .error .genericTags
  if item.kind ≠ .variants then .error .notVariants
  if item.members = [] then .error .noVariants
  let tags ← item.members.foldlM takeVariant []
  pure ⟨item.name, tags⟩

end TagSet

end RecordSearch
