import IbkrPlatform.Library.Dictionary

/-! Nested documents of texts, lists and dictionaries, and what a JSON round trip makes of them. -/

namespace IbkrPlatform.Library

inductive Document
  | null
  | text (s : String)
  | list (xs : List Document)
  | tuple (xs : List Document)
  | dict (entries : List (String × Document))

namespace Document

mutual

def roundTrip : Document → Document
  | null => null
  | text s => text s
  | list xs => list (roundTripAll xs)
  | tuple xs => list (roundTripAll xs)
  | dict entries => dict (roundTripEntries entries)

def roundTripAll : List Document → List Document
  | [] => []
  | x :: xs => roundTrip x :: roundTripAll xs

def roundTripEntries : List (String × Document) → List (String × Document)
  | [] => []
  | (k, x) :: entries => (k, roundTrip x) :: roundTripEntries entries

end

lemma roundTripAll_eq {xs : List Document} (h : ∀ x ∈ xs, roundTrip x = x) : roundTripAll xs = xs := by
  induction xs with
  | nil => rfl
  | cons x xs ih =>
    rw [List.forall_mem_cons] at h
    rw [roundTripAll, h.1, ih h.2]

lemma roundTripEntries_eq {entries : List (String × Document)} (h : ∀ e ∈ entries, roundTrip e.2 = e.2) :
    roundTripEntries entries = entries := by
  induction entries with
  | nil => rfl
  | cons e entries ih =>
    rw [List.forall_mem_cons] at h
    obtain ⟨k, x⟩ := e
    rw [roundTripEntries, h.1, ih h.2]

lemma roundTrip_texts (entries : List (String × String)) :
    roundTrip (dict (entries.map fun e => (e.1, text e.2))) = dict (entries.map fun e => (e.1, text e.2)) := by
  rw [roundTrip, roundTripEntries_eq]
  intro e he
  obtain ⟨e', -, rfl⟩ := List.mem_map.mp he
  rfl

def textAt (entries : List (String × Document)) (k : String) : Option String :=
  match entries.lookup k with
  | some (text s) => some s
  | _ => none

def listAt (entries : List (String × Document)) (k : String) : Option (List Document) :=
  match entries.lookup k with
  | none => some []
  | some (list xs) => some xs
  | _ => none

/-- `set(value) == expected`. -/
def hasKeys (expected : List String) (entries : List (String × Document)) : Bool :=
  (entries.map Prod.fst).all (· ∈ expected) && expected.all (· ∈ entries.map Prod.fst)

end Document

end IbkrPlatform.Library
