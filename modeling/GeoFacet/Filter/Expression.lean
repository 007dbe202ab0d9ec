import GeoFacet.Fault
import GeoFacet.Text.Blank

/-!
# Filter expressions

A filter expression asks something of one field: `field:op:value`. The members of a group are
alternatives; several groups must all hold.
-/

namespace GeoFacet

/-- A filter on one field. -/
structure Expression where
  field : String
  op : Operator
  /-- the raw value, read as the operator asks -/
  value : String
  deriving DecidableEq, Repr, Inhabited

namespace Expression

/-- Reads `field:op:value`. The value keeps any further colon. -/
def parse (text : String) : Outcome Expression :=
  let parts := Text.split ':' text
  let field := parts.getD 0 ""
  let op := parts.getD 1 ""
  let value := ":".intercalate (parts.drop 2)
  if field = "" ∨ op = "" ∨ value = "" then refuse (.malformedExpression text)
  else do
    let op ← orRefuse (.unknownOperator op) (Vocabulary.ofName? op)
    .ok ⟨field, op, value⟩

/-- Requires a field and a value. -/
def check (e : Expression) : Outcome Unit :=
  if Text.isBlank e.field then refuse .missingFilterField
  else if Text.isBlank e.value then refuseField e.field (.missingFilterValue e.field)
  else .ok ()

def display (e : Expression) : String := s!"{e.field}:{e.op.name}:{e.value}"

end Expression

end GeoFacet
