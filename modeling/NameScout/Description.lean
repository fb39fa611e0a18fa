import NameScout.Checker.Panel
import NameScout.Lookup.Basic
import NameScout.Text.Quoted

/-!
What is shown of the parts of a survey in diagnoses. A token is never shown.
-/

namespace NameScout

def described (name : String) (parts : List (String × String)) : String :=
  name ++ " \x7b " ++ ", ".intercalate (parts.map fun (k, v) => k ++ ": " ++ v) ++ " \x7d"

namespace Duration

def description (d : Duration) : String :=
  described "TimeDelta"
    [("secs", toString (d.nanos.fdiv nanosPerSecond)),
      ("nanos", toString (d.nanos.fmod nanosPerSecond))]

end Duration

namespace Limiter

def description (l : Limiter) : String :=
  let limits := l.limits.toList.map fun (endpoint, limit) =>
    Text.quoted endpoint ++ ": " ++ toString limit.toNat
  described "RateLimiter"
    [("window", l.window.description),
      ("default_limit", toString l.defaultLimit.toNat),
      ("limits", "\x7b" ++ ", ".intercalate limits ++ "\x7d")]

end Limiter

def RowAdmin.description : String :=
  "RateLimitAdmin \x7b .. \x7d"

namespace Panel

def description {σ : Type} (p : Panel σ) : String :=
  described "CheckerRegistry"
    [("checkers", "[" ++ ", ".intercalate (p.types.map CheckType.title) ++ "]")]

end Panel

namespace Lookup

def description (l : Lookup) : String :=
  let token := if l.token.isSome then "Some(" ++ Text.quoted "<REDACTED>" ++ ")" else "None"
  described "HttpChecker"
    [("check_type", l.checkType.title),
      ("url_template", Text.quoted l.template),
      ("token", token),
      ("rate_limited", toString l.limiter.isSome),
      ("cached", toString l.cache.isSome)]

end Lookup

end NameScout
