import Mathlib.Data.List.Basic

/-! The values of a JSON text. -/

namespace IbkrPlatform.Library

/-- A value, with the text of a number; the keys of a dictionary are distinct. -/
inductive Json
  | null
  | bool (b : Bool)
  | number (shown : String)
  | text (s : String)
  | list (xs : List Json)
  | dict (entries : List (String × Json))

namespace Json

def text? : Option Json → Option String
  | some (text s) => some s
  | _ => none

def list? : Option Json → Option (List Json)
  | some (list xs) => some xs
  | _ => none

def dict? : Option Json → Option (List (String × Json))
  | some (dict entries) => some entries
  | _ => none

def isTrue : Option Json → Bool
  | some (bool b) => b
  | _ => false

@[simp] lemma text?_some (s : String) : text? (some (text s)) = some s := rfl

@[simp] lemma list?_some (xs : List Json) : list? (some (list xs)) = some xs := rfl

@[simp] lemma dict?_some (entries : List (String × Json)) : dict? (some (dict entries)) = some entries := rfl

@[simp] lemma isTrue_some (b : Bool) : isTrue (some (bool b)) = b := rfl

@[simp] lemma isTrue_none : isTrue none = false := rfl

@[simp] lemma list?_none : list? none = none := rfl

@[simp] lemma text?_none : text? none = none := rfl

@[simp] lemma dict?_none : dict? none = none := rfl

end Json

end IbkrPlatform.Library
