/-!
# Defects of structured text

The ways in which a record or a document can fail to have the shape that is asked of it.  Readers
go through a text in order and name the first defect that they meet; fields that are missing can
only be known at the end.
-/

namespace Throttle

/-- What is wrong with a structured text. -/
inductive Defect
  /-- A required field does not occur. -/
  | missingField (name : String)
  /-- A field occurs again. -/
  | duplicateField (name : String)
  /-- A name is none of those that are allowed. -/
  | unknownVariant (name : String)
  /-- A value has another type. -/
  | wrongType
  /-- A number lies outside its field's range. -/
  | wrongValue
  /-- A list is too short for the fields it stands for. -/
  | wrongLength
  /-- The text breaks its format in some other way. -/
  | malformed
  deriving DecidableEq, Repr

namespace Defect

/-- How a message names a defect.  A name that itself holds a backquote is cut there, and a text
    that only breaks its format is not described further. -/
def text : Defect → String
  | missingField name => "missing field `" ++ name ++ "`"
  | duplicateField name => "duplicate field `" ++ name ++ "`"
  | unknownVariant name =>
    "unknown variant `" ++ String.ofList (name.toList.takeWhile (· != '\x60')) ++ "`"
  | wrongType => "invalid type"
  | wrongValue => "invalid value"
  | wrongLength => "invalid length"
  | malformed => ""

end Defect

end Throttle
