namespace NameScout

inductive Availability where
  | available
  | taken
  | unknown
  | unsupported
  | error
  | rateLimited
  deriving DecidableEq, Repr

namespace Availability

def all : List Availability :=
  [available, taken, unknown, unsupported, error, rateLimited]

def label : Availability → String
  | available => "available"
  | taken => "taken"
  | unknown => "unknown"
  | unsupported => "unsupported"
  | error => "error"
  | rateLimited => "rate_limited"

def title : Availability → String
  | available => "Available"
  | taken => "Taken"
  | unknown => "Unknown"
  | unsupported => "Unsupported"
  | error => "Error"
  | rateLimited => "RateLimited"

def ofLabel? (s : String) : Option Availability :=
  all.find? (·.label == s)

theorem ofLabel?_label (a : Availability) : ofLabel? a.label = some a := by
  cases a <;> decide

def decided : Availability → Bool
  | available | taken => true
  | _ => false

def inconclusive : Availability → Bool
  | unknown | unsupported => true
  | _ => false

end Availability

end NameScout
