import NameScout.Cache.Entry
import NameScout.RateLimit.Row
import NameScout.Store.Table
import NameScout.Text.Blank

namespace NameScout

structure Tables where
  rows : Table String Row
  entries : Table CacheKey Entry
  deriving DecidableEq

namespace Tables

def empty : Tables := ⟨∅, ∅⟩

def row? (t : Tables) (endpoint : String) : Option Row :=
  t.rows.get? endpoint

def putRow (t : Tables) (endpoint : String) (row : Row) : Tables :=
  { t with rows := t.rows.insert endpoint row }

theorem row?_putRow (t : Tables) (k e : String) (row : Row) :
    (t.putRow k row).row? e = if e = k then some row else t.row? e :=
  Table.get?_insert ..

def sortRows (rows : List Row) : List Row :=
  rows.mergeSort fun a b => !(b.endpoint < a.endpoint)

/-- The rows whose own endpoint begins with a text, in the order of their endpoints. -/
def listRows (t : Tables) (start : String) : List Row :=
  sortRows (t.rows.values.filter fun row => Text.startsWith row.endpoint start)

def eraseRow (t : Tables) (endpoint : String) : Tables :=
  { t with rows := t.rows.erase endpoint }

theorem row?_eraseRow (t : Tables) (k e : String) :
    (t.eraseRow k).row? e = if e = k then none else t.row? e :=
  Table.get?_erase ..

/-- The tables without the rows that are kept under a key that begins with a text. -/
def eraseRows (t : Tables) (start : String) : Tables :=
  { t with rows := t.rows.filter fun endpoint _ => !Text.startsWith endpoint start }

theorem row?_eraseRows (t : Tables) (start e : String) :
    (t.eraseRows start).row? e = if Text.startsWith e start then none else t.row? e := by
  have h := Table.get?_filter_key t.rows (fun x => !Text.startsWith x start) e
  rw [show (t.eraseRows start).row? e = _ from h]
  cases Text.startsWith e start <;> rfl

def live? (t : Tables) (key : CacheKey) (now : Instant) : Option Entry :=
  (t.entries.get? key).filter (·.isLive now)

def putEntry (t : Tables) (e : Entry) : Tables :=
  { t with entries := t.entries.insert e.key e }

def purge (t : Tables) (now : Instant) : Tables :=
  { t with entries := t.entries.filter fun _ e => e.isLive now }

def sortedEntries (t : Tables) : List Entry :=
  (t.entries.toList.mergeSort fun a b => a.1.le b.1).map Prod.snd

end Tables

end NameScout
