import NameScout.Decimal.Reading
import NameScout.Failure

namespace NameScout.CommandLine

inductive ValueFault where
  | integer (fault : Decimal.IntegerFault)
  | float (fault : Decimal.FloatFault)
  | bool
  deriving DecidableEq, Repr

def ValueFault.message : ValueFault → String
  | integer fault => fault.message
  | float fault => fault.message
  | bool => "provided string was not `true` or `false`"

inductive Fault where
  | unknownProfile (name : String)
  | badValue (variableName value : String) (fault : ValueFault)
  | noStorePath
  | unknownStore (kind : String)
  | noEquals (entry : String)
  | badLimit (entry : String) (fault : Decimal.IntegerFault)
  deriving DecidableEq, Repr

def Fault.message : Fault → String
  | unknownProfile name =>
      s!"NAMECHECK_PROFILE '{name}' is not a built-in profile. "
        ++ "Built-in profiles: default, dev, startup, minimal"
  | badValue name value fault => s!"{name} has an invalid value '{value}': {fault.message}"
  | noStorePath =>
      "NAMECHECK_STORE_PATH is required when NAMECHECK_STORE_TYPE=file: "
        ++ "environment variable not found"
  | unknownStore kind =>
      s!"NAMECHECK_STORE_TYPE '{kind}' is not supported. Supported types: file, memory"
  | noEquals entry => s!"NAMECHECK_RATE_LIMITS entry '{entry}' is not endpoint=limit"
  | badLimit entry fault =>
      s!"NAMECHECK_RATE_LIMITS entry '{entry}' has an invalid limit: {fault.message}"

inductive Defect where
  | settings (failure : Failure)
  | logLevel (level : String)
  deriving DecidableEq, Repr

def Defect.message : Defect → String
  | settings failure => failure.message
  | logLevel level =>
      s!"NAMECHECK_LOG_LEVEL '{level}' is not valid. "
        ++ "Valid levels: trace, debug, info, warn, error"

end NameScout.CommandLine
