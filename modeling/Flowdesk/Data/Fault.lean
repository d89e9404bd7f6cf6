/-!
# Why a value cannot be read

Text in one of the two data formats may break the format's own rules, or obey
them and still not describe what was asked for. Four causes are told apart; the
first one met in document order is the one that is reported.
-/

namespace Flowdesk.Data

/-- The cause of a failed reading. -/
inductive Fault where
  /-- The format's rules are broken, or a value is of the wrong kind. -/
  | malformed
  /-- A record ends without a field that it must have. -/
  | missingField (name : String)
  /-- A choice is not one of those offered. -/
  | unknownVariant (name : String)
  /-- A record gives one of its fields twice. -/
  | duplicateField (name : String)
  deriving DecidableEq, Repr, Inhabited

/-- A name between backticks. It is shown only up to the first backtick of its own, so
that the text always says where the name ends. -/
def ticked (name : String) : String :=
  "`" ++ String.ofList (name.toList.takeWhile (· ≠ '\x60')) ++ "`"

/-- The text shown for a fault. -/
def Fault.message : Fault → String
  | .malformed => "malformed"
  | .missingField name => "missing field " ++ ticked name
  | .unknownVariant name => "unknown variant " ++ ticked name
  | .duplicateField name => "duplicate field " ++ ticked name

end Flowdesk.Data
