import DryTrade.Cycles

/-!
# Weighted-average accounting of one position

A long-only position in one asset is bought and sold in deals.  A buy adds what it
cost, fee included, to the cost basis of the position; a sell releases the part of
the cost basis that its quantity is of the position, all of it when it closes the
position, and realizes what it earned less what it released.

## Main definitions

* `Deal`, `Accounts` — one deal, and the accounts it changes.
* `replay` — the accounts after a list of deals.
* `Covered` — no deal sells more than the position.

* `bought`, `sold` — the sum of an amount over the buys, and over the sales.

## Main results

* `replay_sound` — the cost basis is positive exactly while a position is held.
* `replay_cash`, `replay_position`, `replay_fees` — the accounts as sums over the deals.
* `replay_value` — cash and cost basis are the capital and what was realized.
-/

namespace DryTrade

variable {K : Type*} [Field K] [LinearOrder K]

/-- One deal. -/
structure Deal (K : Type*) where
  isBuy : Bool
  quantity : K
  /-- Its value at its price. -/
  notional : K
  fee : K
  slippage : K

/-- The accounts of one position and its cash. -/
@[ext] structure Accounts (K : Type*) where
  cash : K
  position : K
  costBasis : K
  realized : K
  fees : K
  slippage : K

/-- A capital held in cash. -/
def Accounts.start (capital : K) : Accounts K := ⟨capital, 0, 0, 0, 0, 0⟩

/-- The part of the cost basis that a sale of `quantity` releases. -/
def Accounts.releases (a : Accounts K) (quantity : K) : K :=
  if quantity = a.position then a.costBasis else a.costBasis * quantity / a.position

/-- The accounts after one deal. -/
def Accounts.after (a : Accounts K) (d : Deal K) : Accounts K :=
  if d.isBuy then
    { cash := a.cash - (d.notional + d.fee)
      position := a.position + d.quantity
      costBasis := a.costBasis + (d.notional + d.fee)
      realized := a.realized
      fees := a.fees + d.fee
      slippage := a.slippage + d.slippage }
  else
    { cash := a.cash + (d.notional - d.fee)
      position := a.position - d.quantity
      costBasis := if a.position - d.quantity = 0 then 0
        else a.costBasis - a.releases d.quantity
      realized := a.realized + (d.notional - d.fee - a.releases d.quantity)
      fees := a.fees + d.fee
      slippage := a.slippage + d.slippage }

/-- The accounts after a list of deals. -/
def replay (capital : K) (deals : List (Deal K)) : Accounts K :=
  deals.foldl Accounts.after (.start capital)

@[simp] theorem replay_nil (capital : K) : replay capital [] = .start capital := rfl

@[simp] theorem replay_concat (capital : K) (deals : List (Deal K)) (d : Deal K) :
    replay capital (deals ++ [d]) = (replay capital deals).after d := by
  simp [replay]

/-- No deal sells more than the position. -/
def Covered (capital : K) (deals : List (Deal K)) : Prop :=
  AlongPrefixes (fun before d => d.isBuy = false → d.quantity ≤ (replay capital before).position)
    deals

/-- A deal of a positive quantity at a positive price. -/
structure Deal.Proper (d : Deal K) : Prop where
  quantity_pos : 0 < d.quantity
  notional_pos : 0 < d.notional
  fee_nonneg : 0 ≤ d.fee

/-- The cost basis is positive exactly while a position is held. -/
structure Accounts.Sound (a : Accounts K) : Prop where
  position_nonneg : 0 ≤ a.position
  flat : a.position = 0 → a.costBasis = 0
  long : 0 < a.position → 0 < a.costBasis

theorem Accounts.start_sound (capital : K) : (Accounts.start capital).Sound :=
  ⟨le_rfl, fun _ => rfl, fun h => absurd h (lt_irrefl 0)⟩

theorem Accounts.Sound.costBasis_nonneg {a : Accounts K} (h : a.Sound) : 0 ≤ a.costBasis := by
  rcases h.position_nonneg.eq_or_lt with hflat | hlong
  · exact (h.flat hflat.symm).ge
  · exact (h.long hlong).le

section

variable [IsStrictOrderedRing K] {a : Accounts K} {d : Deal K}

/-- What a sale releases is nonnegative. -/
theorem Accounts.Sound.releases_nonneg (h : a.Sound) {quantity : K} (hq : 0 < quantity) :
    0 ≤ a.releases quantity := by
  unfold Accounts.releases
  split
  · exact h.costBasis_nonneg
  · exact div_nonneg (mul_nonneg h.costBasis_nonneg hq.le) h.position_nonneg

/-- A sale of less than the position leaves a positive cost basis. -/
theorem Accounts.Sound.releases_lt (h : a.Sound) {quantity : K} (hq : 0 < quantity)
    (hlt : quantity < a.position) : a.releases quantity < a.costBasis := by
  have hpos : 0 < a.position := hq.trans hlt
  have hcost : 0 < a.costBasis := h.long hpos
  rw [Accounts.releases, if_neg hlt.ne, div_lt_iff₀ hpos]
  exact mul_lt_mul_of_pos_left hlt hcost

/-- **A proper covered deal keeps the accounts sound.** -/
theorem Accounts.Sound.after (h : a.Sound) (hd : d.Proper)
    (hcovered : d.isBuy = false → d.quantity ≤ a.position) : (a.after d).Sound := by
  have hq := hd.quantity_pos
  unfold Accounts.after
  cases hside : d.isBuy with
  | true =>
    have hposition : 0 < a.position + d.quantity := add_pos_of_nonneg_of_pos h.position_nonneg hq
    have hcost : 0 < a.costBasis + (d.notional + d.fee) :=
      add_pos_of_nonneg_of_pos h.costBasis_nonneg
        (add_pos_of_pos_of_nonneg hd.notional_pos hd.fee_nonneg)
    rw [if_pos rfl]
    exact ⟨hposition.le, fun hzero => absurd hzero hposition.ne', fun _ => hcost⟩
  | false =>
    rw [if_neg Bool.false_ne_true]
    refine ⟨sub_nonneg.mpr (hcovered hside), fun hzero => if_pos hzero, fun hpos => ?_⟩
    have hlt : d.quantity < a.position := sub_pos.mp hpos
    change 0 < if a.position - d.quantity = 0 then 0 else a.costBasis - a.releases d.quantity
    rw [if_neg hpos.ne']
    exact sub_pos.mpr (h.releases_lt hq hlt)

/-- **The cost basis is positive exactly while a position is held**, after any covered deals. -/
theorem replay_sound (capital : K) {deals : List (Deal K)} (hproper : ∀ d ∈ deals, d.Proper)
    (hcovered : Covered capital deals) : (replay capital deals).Sound := by
  induction deals using List.reverseRecOn with
  | nil => exact Accounts.start_sound capital
  | append_singleton deals d ih =>
    rw [replay_concat]
    obtain ⟨hbefore, hd⟩ := alongPrefixes_concat.mp hcovered
    have hsound := ih (fun d' hd' => hproper d' (List.mem_append_left _ hd')) hbefore
    exact hsound.after (hproper d (by simp)) hd

end

/-! ### The accounts as sums -/

/-- The sum of an amount over the buys. -/
def bought (f : Deal K → K) (deals : List (Deal K)) : K :=
  ((deals.filter fun d => d.isBuy).map f).sum

/-- The sum of an amount over the sales. -/
def sold (f : Deal K → K) (deals : List (Deal K)) : K :=
  ((deals.filter fun d => !d.isBuy).map f).sum

omit [LinearOrder K] in
theorem bought_concat (f : Deal K → K) (deals : List (Deal K)) (d : Deal K) :
    bought f (deals ++ [d]) = bought f deals + if d.isBuy then f d else 0 := by
  cases h : d.isBuy <;> simp [bought, h]

omit [LinearOrder K] in
theorem sold_concat (f : Deal K → K) (deals : List (Deal K)) (d : Deal K) :
    sold f (deals ++ [d]) = sold f deals + if d.isBuy then 0 else f d := by
  cases h : d.isBuy <;> simp [sold, h]

/-- The cash is the capital, less what the buys cost, and what the sales brought. -/
theorem replay_cash (capital : K) (deals : List (Deal K)) :
    (replay capital deals).cash =
      capital - bought (fun d => d.notional + d.fee) deals +
        sold (fun d => d.notional - d.fee) deals := by
  induction deals using List.reverseRecOn with
  | nil => simp [Accounts.start, bought, sold]
  | append_singleton deals d ih =>
    rw [replay_concat, bought_concat, sold_concat, Accounts.after]
    cases d.isBuy with
    | true =>
      simp only [if_true, ih]
      ring
    | false =>
      simp only [Bool.false_eq_true, if_false, ih]
      ring

/-- The position is what was bought and not sold. -/
theorem replay_position (capital : K) (deals : List (Deal K)) :
    (replay capital deals).position = bought Deal.quantity deals - sold Deal.quantity deals := by
  induction deals using List.reverseRecOn with
  | nil => simp [Accounts.start, bought, sold]
  | append_singleton deals d ih =>
    rw [replay_concat, bought_concat, sold_concat, Accounts.after]
    cases d.isBuy with
    | true =>
      simp only [if_true, ih]
      ring
    | false =>
      simp only [Bool.false_eq_true, if_false, ih]
      ring

theorem replay_fees (capital : K) (deals : List (Deal K)) :
    (replay capital deals).fees = (deals.map Deal.fee).sum := by
  induction deals using List.reverseRecOn with
  | nil => rfl
  | append_singleton deals d ih =>
    rw [replay_concat, List.map_append, List.sum_append, Accounts.after, ← ih]
    cases d.isBuy <;> simp

/-- **Cash and cost basis are the capital and what was realized.** -/
theorem replay_value (capital : K) (deals : List (Deal K)) :
    (replay capital deals).cash + (replay capital deals).costBasis =
      capital + (replay capital deals).realized := by
  induction deals using List.reverseRecOn with
  | nil => simp [Accounts.start]
  | append_singleton deals d ih =>
    rw [replay_concat, Accounts.after]
    cases d.isBuy with
    | true =>
      simp only [if_true]
      linear_combination ih
    | false =>
      by_cases hflat : (replay capital deals).position - d.quantity = 0
      · have hall : d.quantity = (replay capital deals).position := (sub_eq_zero.mp hflat).symm
        simp only [Bool.false_eq_true, if_false, if_pos hflat, Accounts.releases, if_pos hall]
        linear_combination ih
      · simp only [Bool.false_eq_true, if_false, if_neg hflat]
        linear_combination ih

end DryTrade
