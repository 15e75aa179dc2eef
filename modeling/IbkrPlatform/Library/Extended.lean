import Mathlib.Algebra.Group.Defs
import Mathlib.Data.Rat.Defs

/-! The rationals with two infinities and an undefined value, as sums of floating point numbers meet them. -/

namespace IbkrPlatform.Library

inductive Extended
  | finite (q : ℚ)
  | infinite (negative : Bool)
  | nan
deriving DecidableEq

namespace Extended

def add : Extended → Extended → Extended
  | finite p, finite q => finite (p + q)
  | finite _, infinite b => infinite b
  | infinite b, finite _ => infinite b
  | infinite b, infinite c => if b = c then infinite b else nan
  | nan, _ => nan
  | _, nan => nan

instance : Zero Extended := ⟨finite 0⟩

instance : Add Extended := ⟨add⟩

lemma zero_def : (0 : Extended) = finite 0 := rfl

lemma add_def (a b : Extended) : a + b = add a b := rfl

instance : AddCommMonoid Extended where
  add_assoc a b c := by
    simp only [add_def]
    rcases a with p | b₁ | _ <;> rcases b with q | b₂ | _ <;> rcases c with r | b₃ | _ <;>
      simp only [add, add_assoc] <;> grind [add]
  zero_add a := by
    rcases a with p | b | _ <;> simp [zero_def, add_def, add]
  add_zero a := by
    rcases a with p | b | _ <;> simp [zero_def, add_def, add]
  add_comm a b := by
    simp only [add_def]
    rcases a with p | b₁ | _ <;> rcases b with q | b₂ | _ <;> grind [add]
  nsmul := nsmulRec

@[simp] lemma finite_add_finite (p q : ℚ) : finite p + finite q = finite (p + q) := rfl

def finite? : Extended → Option ℚ
  | finite q => some q
  | _ => none

end Extended

end IbkrPlatform.Library
