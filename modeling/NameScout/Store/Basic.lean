import NameScout.Effect
import NameScout.Store.Tables

namespace NameScout

/-- A place where rows and cached answers are kept. Every operation may fail. -/
class Store (σ : Type) where
  row? : String → Effect σ (Option Row)
  putRow : String → Row → Effect σ Unit
  /-- The rows whose endpoint begins with a text, in the order of their endpoints. -/
  listRows : String → Effect σ (List Row)
  eraseRow : String → Effect σ Bool
  /-- Remove the rows whose key begins with a text; how many there were. -/
  eraseRows : String → Effect σ Nat
  live? : CacheKey → Instant → Effect σ (Option Entry)
  putEntry : Entry → Effect σ Unit
  purge : Instant → Effect σ Nat
  flush : Effect σ Unit

namespace Tables

abbrev Change (α : Type) := Tables → α × Tables

namespace Change

def putRow (endpoint : String) (row : Row) : Change Unit := fun t =>
  ((), t.putRow endpoint row)

def eraseRow (endpoint : String) : Change Bool := fun t =>
  ((t.row? endpoint).isSome, t.eraseRow endpoint)

def eraseRows (start : String) : Change Nat := fun t =>
  (t.rows.size - (t.eraseRows start).rows.size, t.eraseRows start)

def putEntry (e : Entry) : Change Unit := fun t =>
  ((), t.putEntry e)

def purge (now : Instant) : Change Nat := fun t =>
  (t.entries.size - (t.purge now).entries.size, t.purge now)

end Change

def answer {α : Type} (f : Tables → α) : Effect Tables α :=
  return f (← get)

def change {α : Type} (c : Change α) : Effect Tables α :=
  modifyGet c

instance : Store Tables where
  row? endpoint := answer (·.row? endpoint)
  putRow endpoint row := change (Change.putRow endpoint row)
  listRows start := answer (·.listRows start)
  eraseRow endpoint := change (Change.eraseRow endpoint)
  eraseRows start := change (Change.eraseRows start)
  live? key now := answer (·.live? key now)
  putEntry e := change (Change.putEntry e)
  purge now := change (Change.purge now)
  flush := pure ()

end Tables

end NameScout
