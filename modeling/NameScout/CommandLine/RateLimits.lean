import NameScout.CommandLine.Fault
import NameScout.Store.Table
import NameScout.Text.Blank

namespace NameScout.CommandLine

/-- One entry `endpoint=limit`. -/
def parseEntry (entry : List Char) : Except Fault (String × UInt32) :=
  match Text.splitFirst? (· == '=') entry with
  | none => .error (.noEquals (String.ofList entry))
  | some (endpoint, limit) => match Decimal.readNat 4294967295 (Text.trimChars limit) with
      | .error fault => .error (.badLimit (String.ofList entry) fault)
      | .ok n => .ok (String.ofList (Text.trimChars endpoint), UInt32.ofNat n)

def entries (raw : List Char) : List (List Char) :=
  ((Text.splitOn (· == ',') raw).map Text.trimChars).filter (!·.isEmpty)

/-- Limits in the notation `endpoint=limit,endpoint=limit`; of two for one endpoint the
last one counts. -/
def parseRateLimits (raw : String) : Except Fault (Table String UInt32) := do
  return Table.ofList (← (entries raw.toList).mapM parseEntry)

end NameScout.CommandLine
