import NameScout.Cache.Json
import NameScout.Json.Printer
import NameScout.RateLimit.Json
import NameScout.Store.Tables

namespace NameScout.Snapshot

def version : String := "1.0"

def toJson (t : Tables) : Json :=
  .object
    [("version", .string version),
      ("rate_limits", .object (t.rows.toList.map fun (endpoint, row) => (endpoint, row.toJson))),
      ("check_cache", .array (t.sortedEntries.map Entry.toJson))]

def render (t : Tables) : String :=
  Json.pretty (toJson t)

def fields : List String :=
  ["version", "rate_limits", "check_cache"]

/-- Tables from a state file, whatever its version says. Of rows or answers with one key the
last one counts. -/
def decoder : Json.Decoder Tables := fun room tree => do
  let r ← Json.Record.open? fields room tree
  let _ ← r.required "version" .text
  let rows ← r.defaulted "rate_limits" [] (.pairs Row.decoder)
  let entries ← r.defaulted "check_cache" [] (.list Entry.decoder)
  return ⟨Table.ofList rows, Table.ofList (entries.map fun e => (e.key, e))⟩

def parse? (text : String) : Option Tables :=
  Json.decode? decoder text

end NameScout.Snapshot
