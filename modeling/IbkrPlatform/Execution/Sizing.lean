import Mathlib.Algebra.Order.Field.Rat
import IbkrPlatform.Execution.Orders

/-! The sizes and prices of orders, from target values, prices and buying power. -/

namespace IbkrPlatform.Execution.Sizing

/-- The functions of the platform kit that a rebalance calls. -/
structure Kit where
  /-- `normalize_order_quantity` of `floor_to_quantity_step`. -/
  floorOrderQuantity : ℚ → ℚ → ℚ
  isProvenRiskReducingOrder : Option ℚ → Side → ℚ → Option ℚ → Bool
  shouldSellCashSweep : ℚ → ℚ → ℚ → List (ℚ × ℚ) → Bool
  applyCombinedScale : List (Symbol × ℚ) → Option ℚ → List (Symbol × ℚ)
  applySmallAccountCompatibility :
    List (Symbol × ℚ) → List (Symbol × ℚ) → List Symbol → List Symbol → ℚ → ℚ → List (Symbol × ℚ)

/-- `round(value, 2)`, to the even neighbour at a tie. -/
def roundCents (value : ℚ) : ℚ :=
  let n := (value * 100).floor
  let rest := value * 100 - n
  (if rest < 1 / 2 then n else if 1 / 2 < rest then n + 1 else if n % 2 = 0 then n else n + 1 : ℤ) / 100

/-- `int(value)`. -/
def truncate (value : ℚ) : ℤ := if 0 ≤ value then value.floor else -(-value).floor

def investableBuyingPower (buyingPower reserved : ℚ) : ℚ := max 0 (buyingPower - max 0 reserved)

structure Premium where
  default : ℚ
  bySymbol : List (Symbol × ℚ)

def Premium.of (p : Premium) (symbol : Symbol) : ℚ :=
  match p.bySymbol.lookup symbol with
  | some premium => if 0 < premium then premium else p.default
  | none => p.default

def limitBuyPrice (p : Premium) (symbol : Symbol) (price : ℚ) : ℚ := roundCents (price * p.of symbol)

section Quantities

variable (kit : Kit) (step : ℚ)

def sellOrderQuantity (currentValue targetValue price positionQuantity : ℚ) : ℚ :=
  let held := max 0 positionQuantity
  if held ≤ 0 then 0
  else if max 0 targetValue ≤ 0 then kit.floorOrderQuantity held step
  else
    let sellValue := max 0 (currentValue - max 0 targetValue)
    if sellValue ≤ 0 ∨ price ≤ 0 then 0
    else kit.floorOrderQuantity (min (sellValue / price) held) step

def plannedBuyOrderQuantity (buyValue limitPrice : ℚ) : ℚ :=
  if 0 < max 0 limitPrice then kit.floorOrderQuantity (buyValue / max 0 limitPrice) step else 0

end Quantities

def Kit.FloorsDown (kit : Kit) : Prop := ∀ quantity step, 0 ≤ quantity → kit.floorOrderQuantity quantity step ≤ quantity

lemma sellOrderQuantity_le {kit : Kit} (hf : kit.FloorsDown) {step current target price held : ℚ}
    (hq : 0 < sellOrderQuantity kit step current target price held) :
    sellOrderQuantity kit step current target price held ≤ held := by
  unfold sellOrderQuantity at hq ⊢
  extract_lets h sellValue at hq
  extract_lets
  split at hq
  · exact absurd hq (lt_irrefl 0)
  · rename_i hpos
    have hh : h = held := max_eq_right (le_of_lt ((lt_max_iff.mp (not_le.mp hpos)).resolve_left (lt_irrefl 0)))
    have hnn : 0 ≤ h := le_max_left 0 held
    simp only [if_neg hpos]
    split at hq
    · rename_i ht
      simp only [if_pos ht]
      exact hh ▸ hf h step hnn
    · rename_i ht
      simp only [if_neg ht]
      split at hq
      · exact absurd hq (lt_irrefl 0)
      · rename_i hv
        simp only [if_neg hv]
        push Not at hv
        have hle : min (sellValue / price) h ≤ h := min_le_right _ _
        have hmin : 0 ≤ min (sellValue / price) h := le_min (le_of_lt (div_pos hv.1 hv.2)) hnn
        exact (hf _ step hmin).trans (hh ▸ hle)

structure Book where
  strategySymbols : List Symbol
  allSymbols : List Symbol
  safeHaven : Option Symbol
  quantities : List (Symbol × ℚ)
  prices : List (Symbol × ℚ)
  targetMv : List (Symbol × ℚ)
  caps : List (Symbol × ℚ)
  threshold : ℚ
  reserved : ℚ
  step : ℚ
  minimumOrderNotional : ℚ
  premium : Premium

namespace Book

variable (b : Book) (symbol : Symbol)

def price? : Option ℚ := (b.prices.lookup symbol).filter (· ≠ 0)

def quantity : ℚ := (b.quantities.lookup symbol).getD 0

def currentMv : ℚ :=
  if symbol ∈ b.allSymbols then b.quantity symbol * (b.prices.lookup symbol).getD 0 else 0

def target : ℚ := (b.targetMv.lookup symbol).getD 0

def isSafeHaven : Bool := b.safeHaven = some symbol

def buyNeeded : List (Symbol × ℚ) := b.targetMv.filter fun t => b.currentMv t.1 < t.2 - b.threshold

def sellQuantity (kit : Kit) (price : ℚ) : ℚ :=
  sellOrderQuantity kit b.step (b.currentMv symbol) (b.target symbol) price (b.quantity symbol)

def estimatedBuyOrderCost (kit : Kit) (investable : ℚ) : ℚ :=
  (b.buyNeeded.map fun t =>
    let current := b.currentMv t.1
    let buyValue := min (b.target t.1 - current) investable
    match b.price? t.1 with
    | none => 0
    | some price =>
      if b.target t.1 - b.threshold ≤ current ∨ buyValue < b.minimumOrderNotional then 0
      else
        let limit := limitBuyPrice b.premium t.1 price
        let quantity := kit.floorOrderQuantity (buyValue / limit) b.step
        if quantity ≤ 0 then 0 else quantity * limit).sum

def rotationGuardShouldBlockBuys (kit : Kit) (pendingSellRelease : List Symbol) (investable : ℚ) : Bool :=
  pendingSellRelease ≠ [] ∧ b.buyNeeded ≠ [] ∧ investable < b.estimatedBuyOrderCost kit investable

end Book

end IbkrPlatform.Execution.Sizing
