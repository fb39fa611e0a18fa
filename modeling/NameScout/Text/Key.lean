import NameScout.Text.Blank
import NameScout.Text.Lowercase

namespace NameScout.Text

def dropDot : List Char → List Char
  | '.' :: cs => cs
  | cs => cs

def keyChars (cs : List Char) : List Char :=
  lowerChars (trimChars (dropDot (trimChars cs)))

/-- The form in which profile keys and top-level domains are compared:
trimmed, one leading dot dropped, trimmed again and in lower case. -/
def normalizeKey (raw : String) : String :=
  String.ofList (keyChars raw.toList)

end NameScout.Text
