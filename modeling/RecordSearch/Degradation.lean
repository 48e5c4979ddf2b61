import RecordSearch.Criterion
import RecordSearch.Field
import RecordSearch.Text.Digits
import RecordSearch.Text.Quoted

/-! Why a directive of a request was softened instead of applied.

    None of these reaches the caller of a search: the directive imposes nothing (or, for paging, is
    clamped) and the reason is noted. -/

namespace RecordSearch

/-- A reason not to apply a directive as it stands. -/
inductive Degradation where
  /-- No field has this name. -/
  | unknownField (field : String)
  /-- The operator makes no sense on fields of this type. -/
  | unsupportedOperator (field : String) (operator : Operator) (type : FieldType)
  /-- The text of the value is missing, blank, or not of this type. -/
  | notConvertible (field value : String) (type : FieldType)
  /-- The page or its size is out of bounds. -/
  | pagingOutOfRange (page pageSize : Int)
  deriving DecidableEq, Repr

/-- The wording of a reason. -/
def Degradation.message : Degradation → String
  | unknownField field => "unknown field '" ++ field ++ "'"
  | unsupportedOperator field operator type =>
    "operator " ++ operator.name ++ " does not apply to field '" ++ field ++ "' of type " ++ type.name
  | notConvertible field value type =>
    "value " ++ Text.quote value ++ " is not convertible to " ++ type.name ++
      " for field '" ++ field ++ "'"
  | pagingOutOfRange page pageSize =>
    "paging request page=" ++ Text.integerText page ++ " page_size=" ++ Text.integerText pageSize ++
      " is out of range"

end RecordSearch
