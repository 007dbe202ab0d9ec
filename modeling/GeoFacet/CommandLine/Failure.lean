import GeoFacet.Collection.Config

/-!
# Failures of a run
-/

namespace GeoFacet.CommandLine

/-- Why a run gives no answer. -/
inductive Failure where
  | config (fault : ConfigFault)
  | emptyInput
  | malformedInput
  | refused (fault : Fault)

namespace Failure

def code : Failure → String
  | config _ => "CONFIG_ERROR"
  | emptyInput | malformedInput => "MALFORMED_INPUT"
  | refused fault => fault.code.name

def message : Failure → String
  | config fault => fault.message
  | emptyInput => "Empty input"
  | malformedInput => "Malformed input"
  | refused fault => fault.message

end Failure

end GeoFacet.CommandLine
