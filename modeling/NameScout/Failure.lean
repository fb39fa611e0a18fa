import NameScout.CheckType
import NameScout.Decimal.Shortest
import NameScout.Store.Disk
import NameScout.Text.Quoted
import NameScout.Time.Duration
import NameScout.Url.Fault

namespace NameScout

inductive ConfigCause where
  | blankName
  | nothingToCheck (profile : String)
  | emptyProfile (profile : String)
  | zeroWindow
  | zeroDefaultLimit
  | zeroOverride (endpoint : String)
  /-- A safety margin, held by its bits, that is not above 0 and at most 1. -/
  | margin (bits : UInt64)
  | zeroConcurrency
  | blankStorePath
  | directory (path : String) (cause : DiskError)
  | noPlaceholder (checkType : CheckType) (template : String)
  | noEndpoint (checkType : CheckType)
  | said (text : String)
  deriving DecidableEq, Repr

def ConfigCause.message : ConfigCause → String
  | blankName => "name must not be empty"
  | nothingToCheck profile => s!"profile '{profile}' has no TLDs, registries or handles"
  | emptyProfile profile => s!"Profile '{profile}' has no TLDs, registries or handles"
  | zeroWindow => "Rate limit window must be > 0"
  | zeroDefaultLimit => "Default requests per window must be > 0"
  | zeroOverride endpoint => s!"Rate limit override for '{endpoint}' must be > 0"
  | margin bits => s!"Safety margin must be in (0, 1], got {Decimal.plainText (Float.ofBits bits)}"
  | zeroConcurrency => "Batch concurrency must be > 0"
  | blankStorePath => "File store path cannot be empty"
  | directory path cause =>
      s!"Cannot create directory {path} for the state file: {cause.message}"
  | noPlaceholder t template =>
      s!"URL template for {t.label} has no \x7bname\x7d placeholder: {template}"
  | noEndpoint t => s!"No built-in HTTP endpoint for {t.label}"
  | said text => text

inductive FileAct where
  | create
  | write
  | sync
  | read
  | replace
  deriving DecidableEq, Repr

def FileAct.words : FileAct → String
  | create => "create"
  | write => "write"
  | sync => "sync"
  | read => "read"
  | replace => "replace state file with"

inductive StoreCause where
  | disk (act : FileAct) (path : String) (cause : DiskError)
  | said (text : String)
  deriving DecidableEq, Repr

def StoreCause.message : StoreCause → String
  | disk act path cause => s!"Failed to {act.words} {path}: {cause.message}"
  | said text => text

inductive InputCause where
  | badUrl (text : String) (fault : Url.Fault)
  | said (text : String)
  deriving DecidableEq, Repr

def InputCause.message : InputCause → String
  | badUrl text fault => s!"Bad lookup URL {text}: {fault.message}"
  | said text => text

inductive TransportFault where
  | sending (url : String)
  | redirecting (url : String)
  | unusableUrl (url : String)
  | unusableHeader
  deriving DecidableEq, Repr

def TransportFault.message : TransportFault → String
  | sending url => s!"error sending request for url ({url})"
  | redirecting url => s!"error following redirect for url ({url})"
  | unusableUrl url => s!"builder error for url ({url})"
  | unusableHeader => "builder error"

inductive HttpCause where
  | lookup (checkType : CheckType) (name : String) (fault : TransportFault)
  | said (text : String)
  deriving DecidableEq, Repr

def HttpCause.message : HttpCause → String
  | lookup t name fault => s!"{t.label} lookup for '{name}' failed: {fault.message}"
  | said text => text

inductive LimitCause where
  | wait (endpoint : String) (time : Duration)
  | said (text : String)
  deriving DecidableEq, Repr

def LimitCause.message : LimitCause → String
  | wait endpoint time => s!"{endpoint} (retry after {time.wholeSeconds}s)"
  | said text => text

inductive OtherCause where
  | workerAborted (text : String)
  | said (text : String)
  deriving DecidableEq, Repr

def OtherCause.message : OtherCause → String
  | workerAborted text =>
      s!"batch worker aborted: task N panicked with message {Text.quoted text}"
  | said text => text

/-- Why an operation stopped. Outcomes of checks are values, not failures. -/
inductive Failure where
  | config (cause : ConfigCause)
  | invalidInput (cause : InputCause)
  | checker (checker message : String)
  | store (cause : StoreCause)
  | http (cause : HttpCause)
  | rateLimited (cause : LimitCause)
  | cancelled
  | json (detail : String)
  | io (detail : String)
  | other (cause : OtherCause)
  deriving DecidableEq, Repr

namespace Failure

def message : Failure → String
  | config cause => "Configuration error: " ++ cause.message
  | invalidInput cause => "Invalid input: " ++ cause.message
  | checker name text => s!"Checker error ({name}): {text}"
  | store cause => "Store error: " ++ cause.message
  | http cause => "HTTP error: " ++ cause.message
  | rateLimited cause => "Rate limited: " ++ cause.message
  | cancelled => "Operation cancelled"
  | json detail => "JSON error: " ++ detail
  | io detail => "I/O error: " ++ detail
  | other cause => cause.message

def isConfig : Failure → Bool
  | config _ | invalidInput _ => true
  | _ => false

end Failure

end NameScout
