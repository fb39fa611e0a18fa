namespace NameScout.CommandLine

inductive Command where
  | check (names : List String)
  | listLimits (start : String)
  | resetLimits (start : String)
  | purgeCache
  deriving DecidableEq, Repr

namespace Command

def usage : String :=
  "Usage: namecheck <name>... | rate-limits [prefix] | reset-rate-limits [prefix] | purge-cache"

def ofArgs? : List String → Option Command
  | [] => none
  | "rate-limits" :: rest => some (.listLimits (rest.headD ""))
  | "reset-rate-limits" :: rest => some (.resetLimits (rest.headD ""))
  | "purge-cache" :: _ => some .purgeCache
  | names => some (.check names)

end Command

end NameScout.CommandLine
