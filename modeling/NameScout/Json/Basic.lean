namespace NameScout

/-- A JSON value. Integers are kept exactly; any other number is a double, held by its bits. -/
inductive Json where
  | null
  | bool (b : Bool)
  | int (i : Int)
  | float (bits : UInt64)
  | string (s : String)
  | array (items : List Json)
  | object (members : List (String × Json))
  deriving Repr, Inhabited

namespace Json

def member? (name : String) : Json → Option Json
  | object members => members.lookup name
  | _ => none

/-- Members in increasing order of their names; a later value replaces an earlier one. -/
def insertMember (name : String) (value : Json) :
    List (String × Json) → List (String × Json)
  | [] => [(name, value)]
  | (k, v) :: rest =>
      if name < k then (name, value) :: (k, v) :: rest
      else if name = k then (name, value) :: rest
      else (k, v) :: insertMember name value rest

def ofMembers (members : List (String × Json)) : List (String × Json) :=
  members.foldl (fun sorted (k, v) => insertMember k v sorted) []

mutual

def decEq : (a b : Json) → Decidable (a = b)
  | null, null => isTrue rfl
  | bool a, bool b => if h : a = b then isTrue (by rw [h]) else isFalse (by simp [h])
  | int a, int b => if h : a = b then isTrue (by rw [h]) else isFalse (by simp [h])
  | float a, float b => if h : a = b then isTrue (by rw [h]) else isFalse (by simp [h])
  | string a, string b => if h : a = b then isTrue (by rw [h]) else isFalse (by simp [h])
  | array a, array b => match decEqItems a b with
      | isTrue h => isTrue (by rw [h])
      | isFalse h => isFalse (by simp [h])
  | object a, object b => match decEqMembers a b with
      | isTrue h => isTrue (by rw [h])
      | isFalse h => isFalse (by simp [h])
  | null, bool _ | null, int _ | null, float _ | null, string _ | null, array _ | null, object _
  | bool _, null | bool _, int _ | bool _, float _ | bool _, string _ | bool _, array _
  | bool _, object _ | int _, null | int _, bool _ | int _, float _ | int _, string _
  | int _, array _ | int _, object _ | float _, null | float _, bool _ | float _, int _
  | float _, string _ | float _, array _ | float _, object _ | string _, null | string _, bool _
  | string _, int _ | string _, float _ | string _, array _ | string _, object _ | array _, null
  | array _, bool _ | array _, int _ | array _, float _ | array _, string _ | array _, object _
  | object _, null | object _, bool _ | object _, int _ | object _, float _ | object _, string _
  | object _, array _ => isFalse (by simp)

def decEqItems : (a b : List Json) → Decidable (a = b)
  | [], [] => isTrue rfl
  | [], _ :: _ | _ :: _, [] => isFalse (by simp)
  | a :: as, b :: bs => match decEq a b, decEqItems as bs with
      | isTrue h, isTrue t => isTrue (by rw [h, t])
      | isFalse h, _ => isFalse (by simp [h])
      | _, isFalse t => isFalse (by simp [t])

def decEqMembers : (a b : List (String × Json)) → Decidable (a = b)
  | [], [] => isTrue rfl
  | [], _ :: _ | _ :: _, [] => isFalse (by simp)
  | (k, a) :: as, (l, b) :: bs =>
      if hk : k = l then match decEq a b, decEqMembers as bs with
        | isTrue h, isTrue t => isTrue (by rw [hk, h, t])
        | isFalse h, _ => isFalse (by simp [h])
        | _, isFalse t => isFalse (by simp [t])
      else isFalse (by simp [hk])

end

instance : DecidableEq Json := decEq

end Json

end NameScout
