import DryTrade.PaperTrading.RoundedJournal
import DryTrade.PaperTrading.TimelineRounding

/-!
# When the realizations of a journal are refused

The realization of a sell splits the notional and the fees of the open position by a
rounded fraction; the journal multiplies the cost basis by the quantity and divides once.
In exact arithmetic the two are equal.  Rounded they can differ, and the sum over the
sells is then compared with a profit that it does not reach.

## Main definitions

* `positionAfter` — what is open after some executions.
* `SellRoundsAlike`, `SellsRoundAlike` — what makes the two profits of a sell equal.
* `Agrees` — the realizations of some executions sum to the profit of the journal.

## Main results

* `Follows.step` — the open position has the quantity of the walk of the journal.
* `agrees_iff` — when every beginning of a journal agrees.
* `journalRealizations_of_roundsAlike` — the same for an accepted journal, in the default
  context.
-/

namespace DryTrade

namespace DecimalContext

/-- A regular rounding that does not pass a rounded number. -/
structure Ordered (ctx : DecimalContext) : Prop extends ctx.Regular where
  round_one : ctx.round 1 = 1
  round_le : ∀ q a, ctx.round a = a → 0 ≤ q → q ≤ a → ctx.round q ≤ a

theorem ordered_default : default.Ordered where
  toRegular := regular_default
  round_one := HasDigits.round_eq (by norm_num) ⟨1, 0, by norm_num, by norm_num⟩
  round_le q a ha := by
    have hdigits : HasDigits 28 a := by
      rw [← ha]
      exact hasDigits_roundSignificant 28 a
    exact hdigits.roundSignificant_le (by norm_num)

end DecimalContext

namespace PaperTrading

open MarketData Indicators Backtesting

section

variable {ctx : DecimalContext} {encodings : Encodings} {sessionId : Sha256} {capital : ℚ}
  {journal : PaperTradeJournal} {p : OpenPosition} {r r' : Replay} {e : PaperTradeExecution}
  {realizations : List PaperRealization}

/-! ### The open position -/

/-- The amounts of an execution that passed the checks of its constructor. -/
structure PaperTradeExecution.Checked (e : PaperTradeExecution) : Prop where
  quantity_pos : 0 < e.quantity
  notional_pos : 0 < e.notional
  fee_nonneg : 0 ≤ e.fee
  slippageCost_nonneg : 0 ≤ e.slippageCost

/-- What is open after one more execution. -/
def OpenPosition.after (ctx : DecimalContext) (p : OpenPosition) (e : PaperTradeExecution) :
    OpenPosition :=
  match e.side with
  | .buy => p.bought ctx e
  | .sell => p.sold ctx e

/-- What is open after some executions. -/
def positionAfter (ctx : DecimalContext) (executions : List PaperTradeExecution) : OpenPosition :=
  executions.foldl (OpenPosition.after ctx) .flat

@[simp] theorem positionAfter_concat (executions : List PaperTradeExecution) :
    positionAfter ctx (executions ++ [e]) = (positionAfter ctx executions).after ctx e := by
  simp [positionAfter]

/-- An amount of an open position: rounded, and not negative. -/
structure Kept (ctx : DecimalContext) (amount : ℚ) : Prop where
  nonneg : 0 ≤ amount
  rounded : ctx.round amount = amount

theorem Kept.zero (hctx : ctx.Ordered) : Kept ctx 0 := ⟨le_rfl, hctx.round_zero⟩

theorem Kept.add (hctx : ctx.Ordered) {a b : ℚ} (ha : Kept ctx a) (hb : 0 ≤ b) :
    Kept ctx (ctx.add a b) :=
  ⟨(hctx.nonneg_iff _).mpr (add_nonneg ha.nonneg hb), hctx.round_round _⟩

/-- A released part is not negative, and not more than the whole. -/
theorem releasedPart_bounds (hctx : ctx.Ordered) {quantity amount : ℚ} (hq : 0 < quantity)
    (hle : quantity ≤ p.quantity) (ha : Kept ctx amount) :
    0 ≤ p.releasedPart ctx quantity amount ∧ p.releasedPart ctx quantity amount ≤ amount := by
  unfold OpenPosition.releasedPart
  split_ifs with hall
  · exact ⟨ha.nonneg, le_rfl⟩
  · have hfraction : 0 ≤ quantity / p.quantity := div_nonneg hq.le (hq.le.trans hle)
    have hone : ctx.div quantity p.quantity ≤ 1 :=
      hctx.round_le _ _ hctx.round_one hfraction (div_le_one_of_le₀ hle (hq.le.trans hle))
    have hnonneg : 0 ≤ ctx.div quantity p.quantity := (hctx.nonneg_iff _).mpr hfraction
    have hproduct := mul_nonneg ha.nonneg hnonneg
    refine ⟨(hctx.nonneg_iff _).mpr hproduct, hctx.round_le _ _ ha.rounded hproduct ?_⟩
    exact mul_le_of_le_one_right ha.nonneg hone

theorem Kept.sub_released (hctx : ctx.Ordered) {quantity amount : ℚ} (hq : 0 < quantity)
    (hle : quantity ≤ p.quantity) (ha : Kept ctx amount) :
    Kept ctx (ctx.sub amount (p.releasedPart ctx quantity amount)) :=
  ⟨(hctx.nonneg_iff _).mpr (sub_nonneg.mpr (releasedPart_bounds hctx hq hle ha).2),
    hctx.round_round _⟩

/-! ### The two walks -/

/-- The open position has the quantity of the walk of the journal. -/
structure Follows (ctx : DecimalContext) (p : OpenPosition) (r : Replay) : Prop where
  quantity : p.quantity = r.baseQuantity
  fees : Kept ctx p.fees
  slippage : Kept ctx p.slippage

theorem Follows.init (hctx : ctx.Ordered) (capital : ℚ) : Follows ctx .flat (.init capital) :=
  ⟨rfl, .zero hctx, .zero hctx⟩

/-- **What one turn of the walk does to the position and to the profit.** -/
theorem replayExecution_cases
    (h : Rounded.replayExecution ctx encodings sessionId r e = .ok r') :
    (e.side = .buy ∧ r'.baseQuantity = ctx.add r.baseQuantity e.quantity ∧
      r'.realizedPnl = r.realizedPnl) ∨
    (e.side = .sell ∧ 0 < r.baseQuantity ∧ e.quantity ≤ r.baseQuantity ∧
      r'.baseQuantity = ctx.sub r.baseQuantity e.quantity ∧
      r'.realizedPnl = ctx.add r.realizedPnl
        (Rounded.profit ctx e (Rounded.released ctx r.costBasis r.baseQuantity e.quantity))) := by
  unfold Rounded.replayExecution at h
  cases hside : e.side with
  | buy =>
    rw [hside] at h
    simp only [Rounded.replayBuy, bind_eq_ok, pure, Except.pure, Except.ok.injEq] at h
    obtain ⟨_, -, rfl⟩ := h
    exact .inl ⟨rfl, rfl, rfl⟩
  | sell =>
    rw [hside] at h
    simp only [Rounded.replaySell] at h
    cases hcurrent : r.current with
    | none =>
      rw [hcurrent] at h
      simp at h
    | some acc =>
      rw [hcurrent] at h
      simp only [bind_eq_ok, FailureKind.unless_eq_ok, exists_const, Bool.and_eq_true,
        decide_eq_true_eq] at h
      obtain ⟨⟨hlong, hcovered⟩, _, -, h⟩ := h
      refine .inr ⟨rfl, hlong, hcovered, ?_⟩
      split_ifs at h
      · rw [bind_eq_ok] at h
        obtain ⟨_, -, h⟩ := h
        cases h
        exact ⟨rfl, rfl⟩
      · cases h
        exact ⟨rfl, rfl⟩

/-- **One turn of the walk keeps the quantities equal.** -/
theorem Follows.step (hctx : ctx.Ordered) (hp : Follows ctx p r) (he : e.Checked)
    (h : Rounded.replayExecution ctx encodings sessionId r e = .ok r') :
    Follows ctx (p.after ctx e) r' := by
  rcases replayExecution_cases h with ⟨hside, hquantity, -⟩ | ⟨hside, -, hcovered, hquantity, -⟩
  · simp only [OpenPosition.after, hside]
    refine ⟨?_, hp.fees.add hctx he.fee_nonneg, hp.slippage.add hctx he.slippageCost_nonneg⟩
    rw [hquantity, ← hp.quantity]
    rfl
  · rw [← hp.quantity] at hcovered hquantity
    simp only [OpenPosition.after, hside, OpenPosition.sold]
    split_ifs with hflat
    · exact ⟨by rw [hquantity, hflat]; rfl, .zero hctx, .zero hctx⟩
    · exact ⟨hquantity.symm, hp.fees.sub_released hctx he.quantity_pos hcovered,
        hp.slippage.sub_released hctx he.quantity_pos hcovered⟩

theorem Follows.run (hctx : ctx.Ordered) {executions : List PaperTradeExecution}
    (hchecked : ∀ e ∈ executions, e.Checked)
    (h : executions.foldlM (Rounded.replayExecution ctx encodings sessionId) (.init capital) =
      .ok r) : Follows ctx (positionAfter ctx executions) r := by
  induction executions using List.reverseRecOn generalizing r with
  | nil =>
    cases h
    exact .init hctx capital
  | append_singleton executions e ih =>
    obtain ⟨mid, hmid, hlast⟩ := foldlM_concat_eq_ok.mp h
    rw [positionAfter_concat]
    exact (ih (fun e' he' => hchecked e' (by simp [he'])) hmid).step hctx (hchecked e (by simp))
      hlast

/-! ### The realization of a sell -/

/-- The cost that a sell releases by its parts: of the notional, and of the fees. -/
def OpenPosition.releasedCost (ctx : DecimalContext) (p : OpenPosition) (quantity : ℚ) : ℚ :=
  ctx.add (p.releasedPart ctx quantity p.notional) (p.releasedPart ctx quantity p.fees)

/-- **What makes the two profits of a sell equal**: the cost that it releases by parts is positive,
and with it the realized profit rounds to what it does with the part of the cost basis. -/
structure SellRoundsAlike (ctx : DecimalContext) (p : OpenPosition) (r : Replay)
    (e : PaperTradeExecution) : Prop where
  cost_pos : 0 < p.releasedCost ctx e.quantity
  profit_eq : ctx.add r.realizedPnl (Rounded.profit ctx e (p.releasedCost ctx e.quantity)) =
    ctx.add r.realizedPnl
      (Rounded.profit ctx e (Rounded.released ctx r.costBasis r.baseQuantity e.quantity))

theorem sellRoundsAlike_iff : SellRoundsAlike ctx p r e ↔
    0 < p.releasedCost ctx e.quantity ∧
      ctx.add r.realizedPnl (Rounded.profit ctx e (p.releasedCost ctx e.quantity)) =
        ctx.add r.realizedPnl
          (Rounded.profit ctx e (Rounded.released ctx r.costBasis r.baseQuantity e.quantity)) :=
  ⟨fun h => ⟨h.cost_pos, h.profit_eq⟩, fun h => ⟨h.1, h.2⟩⟩

instance : Decidable (SellRoundsAlike ctx p r e) := decidable_of_iff _ sellRoundsAlike_iff.symm

theorem realization_validate_iff (hctx : ctx.Ordered) (hp : Follows ctx p r) (he : e.Checked)
    (hcovered : e.quantity ≤ p.quantity) {realization : PaperRealization} :
    (p.realization ctx journal e).validate = .ok realization ↔
      0 < p.releasedCost ctx e.quantity ∧ realization = p.realization ctx journal e := by
  have hfees : 0 ≤ (p.realization ctx journal e).realizedFees :=
    (hctx.nonneg_iff _).mpr (add_nonneg
      (releasedPart_bounds hctx he.quantity_pos hcovered hp.fees).1 he.fee_nonneg)
  have hslippage : 0 ≤ (p.realization ctx journal e).realizedSlippageCost :=
    (hctx.nonneg_iff _).mpr (add_nonneg
      (releasedPart_bounds hctx he.quantity_pos hcovered hp.slippage).1 he.slippageCost_nonneg)
  simp only [PaperRealization.validate, positive, nonnegative, bind_eq_ok,
    FailureKind.unless_eq_ok, exists_const, decide_eq_true_eq, pure, Except.pure, Except.ok.injEq]
  constructor
  · rintro ⟨-, hcost, -, -, rfl⟩
    exact ⟨hcost, rfl⟩
  · rintro ⟨hcost, rfl⟩
    exact ⟨he.notional_pos, hcost, hfees, hslippage, rfl⟩

/-- A buy realizes nothing. -/
theorem realizeExecution_buy (hside : e.side = .buy) :
    realizeExecution ctx journal (p, realizations) e = .ok (p.after ctx e, realizations) := by
  simp only [realizeExecution, OpenPosition.after, hside]

variable (journal realizations) in
/-- **A sell of the walk is realized exactly when its released cost is positive.** -/
theorem realizeExecution_sell (hctx : ctx.Ordered) (hp : Follows ctx p r) (he : e.Checked)
    (hside : e.side = .sell) (hlong : 0 < r.baseQuantity) (hcovered : e.quantity ≤ r.baseQuantity)
    (walk : OpenPosition × List PaperRealization) :
    realizeExecution ctx journal (p, realizations) e = .ok walk ↔
      0 < p.releasedCost ctx e.quantity ∧
        walk = (p.after ctx e, realizations ++ [p.realization ctx journal e]) := by
  rw [← hp.quantity] at hlong hcovered
  simp only [realizeExecution, OpenPosition.after, hside, bind_eq_ok, FailureKind.unless_eq_ok,
    exists_const, Bool.and_eq_true, decide_eq_true_eq, pure, Except.pure, Except.ok.injEq,
    realization_validate_iff hctx hp he hcovered]
  constructor
  · rintro ⟨-, _, ⟨hcost, rfl⟩, rfl⟩
    exact ⟨hcost, rfl⟩
  · rintro ⟨hcost, rfl⟩
    exact ⟨⟨hlong, hcovered⟩, _, ⟨hcost, rfl⟩, rfl⟩

/-- The sum of one more realization. -/
theorem sumOf_realization :
    sumOf ctx ((realizations ++ [p.realization ctx journal e]).map PaperRealization.realizedPnl) =
      ctx.add (sumOf ctx (realizations.map PaperRealization.realizedPnl))
        (Rounded.profit ctx e (p.releasedCost ctx e.quantity)) := by
  simp [sumOf, OpenPosition.realization, OpenPosition.releasedCost, Rounded.profit]

/-! ### Journals -/

/-- **The realizations of some executions agree with the journal**: they are all accepted, and sum to
the profit that the walk of the journal has realized there. -/
def Agrees (ctx : DecimalContext) (encodings : Encodings) (sessionId : Sha256) (capital : ℚ)
    (journal : PaperTradeJournal) (executions : List PaperTradeExecution) : Prop :=
  ∀ r, executions.foldlM (Rounded.replayExecution ctx encodings sessionId) (.init capital) = .ok r →
    ∃ realizations,
      executions.foldlM (realizeExecution ctx journal) (.flat, []) =
        .ok (positionAfter ctx executions, realizations) ∧
      sumOf ctx (realizations.map PaperRealization.realizedPnl) = r.realizedPnl

/-- Every sell rounds alike, with the position and the walk that the executions before it leave. -/
def SellsRoundAlike (ctx : DecimalContext) (encodings : Encodings) (sessionId : Sha256)
    (capital : ℚ) (executions : List PaperTradeExecution) : Prop :=
  AlongPrefixes (fun before e => e.side = .sell → ∀ r,
    before.foldlM (Rounded.replayExecution ctx encodings sessionId) (.init capital) = .ok r →
      SellRoundsAlike ctx (positionAfter ctx before) r e) executions

/-- Whether one execution rounds alike, after those before it. -/
def roundsAlikeAfter (ctx : DecimalContext) (encodings : Encodings) (sessionId : Sha256)
    (capital : ℚ) (before : List PaperTradeExecution) (e : PaperTradeExecution) : Bool :=
  match before.foldlM (Rounded.replayExecution ctx encodings sessionId) (.init capital) with
  | .error _ => true
  | .ok r => decide (e.side = .sell → SellRoundsAlike ctx (positionAfter ctx before) r e)

theorem sellsRoundAlike_iff_take {executions : List PaperTradeExecution} :
    SellsRoundAlike ctx encodings sessionId capital executions ↔
      ∀ i : Fin executions.length,
        roundsAlikeAfter ctx encodings sessionId capital (executions.take i) executions[i] =
          true := by
  rw [SellsRoundAlike, alongPrefixes_iff_take]
  refine forall_congr' fun i => ?_
  unfold roundsAlikeAfter
  split
  · next error herror => exact iff_of_true (fun _ r hr => by cases herror.symm.trans hr) rfl
  · next r hr =>
    rw [decide_eq_true_iff]
    refine imp_congr_right fun _ => ⟨fun h => h r hr, fun h r' hr' => ?_⟩
    rwa [← Except.ok.inj (hr.symm.trans hr')]

instance {executions : List PaperTradeExecution} :
    Decidable (SellsRoundAlike ctx encodings sessionId capital executions) :=
  decidable_of_iff _ sellsRoundAlike_iff_take.symm

/-- **One more execution agrees exactly when it rounds alike**, where those before it agree. -/
theorem agrees_concat_iff (hctx : ctx.Ordered) {executions : List PaperTradeExecution}
    (hchecked : ∀ e' ∈ executions ++ [e], e'.Checked)
    (hr : executions.foldlM (Rounded.replayExecution ctx encodings sessionId) (.init capital) =
      .ok r)
    (hr' : Rounded.replayExecution ctx encodings sessionId r e = .ok r')
    (hbefore : Agrees ctx encodings sessionId capital journal executions) :
    Agrees ctx encodings sessionId capital journal (executions ++ [e]) ↔
      (e.side = .sell → SellRoundsAlike ctx (positionAfter ctx executions) r e) := by
  have hp := Follows.run hctx (fun e' he' => hchecked e' (by simp [he'])) hr
  have he := hchecked e (by simp)
  obtain ⟨realizations, hwalk, hsum⟩ := hbefore r hr
  have hwhole : (executions ++ [e]).foldlM (Rounded.replayExecution ctx encodings sessionId)
      (.init capital) = .ok r' := foldlM_concat_eq_ok.mpr ⟨r, hr, hr'⟩
  rw [Agrees, positionAfter_concat]
  rcases replayExecution_cases hr' with ⟨hside, -, hprofit⟩ | ⟨hside, hlong, hcovered, -, hprofit⟩
  · refine iff_of_true (fun r'' hr'' => ?_) fun hsell => absurd (hside.symm.trans hsell) (by decide)
    obtain rfl := Except.ok.inj (hwhole.symm.trans hr'')
    exact ⟨realizations, foldlM_concat_eq_ok.mpr ⟨_, hwalk, realizeExecution_buy hside⟩,
      hsum.trans hprofit.symm⟩
  · have hstep := realizeExecution_sell journal realizations hctx hp he hside hlong hcovered
    constructor
    · intro hagrees _
      obtain ⟨realizations', hwalk', hsum'⟩ := hagrees r' hwhole
      obtain ⟨_, hmid, hlast⟩ := foldlM_concat_eq_ok.mp hwalk'
      obtain rfl := Except.ok.inj (hwalk.symm.trans hmid)
      obtain ⟨hcost, heq⟩ := (hstep _).mp hlast
      obtain ⟨-, rfl⟩ := Prod.mk.inj heq
      refine ⟨hcost, ?_⟩
      rw [← hsum, ← sumOf_realization, hsum', hprofit, hsum]
    · intro hround r'' hr''
      obtain rfl := Except.ok.inj (hwhole.symm.trans hr'')
      obtain ⟨hcost, heq⟩ := hround hside
      refine ⟨_, foldlM_concat_eq_ok.mpr ⟨_, hwalk, (hstep _).mpr ⟨hcost, rfl⟩⟩, ?_⟩
      rw [sumOf_realization, hsum, heq, hprofit]

variable (journal) in
/-- **Every beginning of a walk agrees exactly when its sells round alike.** -/
theorem agrees_iff (hctx : ctx.Ordered) {executions : List PaperTradeExecution}
    (hchecked : ∀ e ∈ executions, e.Checked)
    (h : executions.foldlM (Rounded.replayExecution ctx encodings sessionId) (.init capital) =
      .ok r) :
    (∀ before, before <+: executions → Agrees ctx encodings sessionId capital journal before) ↔
      SellsRoundAlike ctx encodings sessionId capital executions := by
  induction executions using List.reverseRecOn generalizing r with
  | nil =>
    refine iff_of_true (fun before hbefore r' hr' => ?_) alongPrefixes_nil
    obtain rfl := List.prefix_nil.mp hbefore
    cases hr'
    exact ⟨[], rfl, rfl⟩
  | append_singleton executions e ih =>
    obtain ⟨mid, hmid, hlast⟩ := foldlM_concat_eq_ok.mp h
    have hbefore := ih (fun e' he' => hchecked e' (by simp [he'])) hmid
    rw [SellsRoundAlike, alongPrefixes_concat, ← SellsRoundAlike, ← hbefore]
    have hsell : (e.side = .sell → ∀ r, executions.foldlM
        (Rounded.replayExecution ctx encodings sessionId) (.init capital) = .ok r →
          SellRoundsAlike ctx (positionAfter ctx executions) r e) ↔
        (e.side = .sell → SellRoundsAlike ctx (positionAfter ctx executions) mid e) := by
      refine imp_congr_right fun _ => ⟨fun hall => hall mid hmid, fun hround r' hr' => ?_⟩
      rwa [← Except.ok.inj (hmid.symm.trans hr')]
    rw [hsell]
    constructor
    · intro hall
      have hprefixes := fun before (hb : before <+: executions) =>
        hall before (hb.trans (List.prefix_append _ _))
      exact ⟨hprefixes, (agrees_concat_iff hctx hchecked hmid hlast
        (hprefixes _ List.prefix_rfl)).mp (hall _ List.prefix_rfl)⟩
    · rintro ⟨hprefixes, hround⟩ before hb
      rcases List.prefix_concat_iff.mp hb with rfl | hb
      · exact (agrees_concat_iff hctx hchecked hmid hlast (hprefixes _ List.prefix_rfl)).mpr hround
      · exact hprefixes before hb

/-! ### Accepted journals -/

theorem executionOf_checked {orders : List SimulatedOrder} {fill : Fill}
    (h : Rounded.executionOf ctx orders fill = .ok e) : e.Checked := by
  unfold Rounded.executionOf at h
  split at h
  · cases h
  · simp only [Rounded.fromDomain, mapError_eq_ok, bind_eq_ok, FailureKind.unless_eq_ok,
      exists_const, Rounded.validateExecution, positive, nonnegative, check, decide_eq_true_eq,
      pure, Except.pure, Except.ok.injEq] at h
    obtain ⟨-, -, -, -, _, -, _, -, -, _, -, hquantity, -, -, hnotional, hfee, hslippage, -, rfl⟩ := h
    exact ⟨hquantity, hnotional, hfee, hslippage⟩

/-- **What an accepted journal says**: the walk over its executions realizes its profit. -/
theorem Rounded.buildPaperTradeJournal_walk {config : PaperSessionConfig}
    {state : PaperSessionState} {j : PaperTradeJournal}
    (h : Rounded.buildPaperTradeJournal ctx encodings config state = .ok j) :
    (∀ e ∈ j.executions, e.Checked) ∧ ∃ r,
      j.executions.foldlM (Rounded.replayExecution ctx encodings state.sessionId)
        (.init config.initialCapital) = .ok r ∧ r.realizedPnl = j.totalRealizedPnl := by
  simp only [Rounded.buildPaperTradeJournal, Rounded.validateJournal, Rounded.verifyAccounting,
    bind_eq_ok, FailureKind.unless_eq_ok, exists_const, Bool.and_eq_true, decide_eq_true_eq, pure,
    Except.pure, Except.ok.injEq] at h
  obtain ⟨_, -, unsorted, hunsorted, r, hwalk, _, ⟨⟨⟨⟨-, hrealized⟩, -⟩, -⟩, -⟩, last, -, _, -, _, -,
    rfl⟩ := h
  refine ⟨fun e he => ?_, r, hwalk, hrealized⟩
  have hmem : e ∈ unsorted := (sortExecutions_perm unsorted).mem_iff.mp he
  obtain ⟨fill, -, hfill⟩ := mem_of_mapM hunsorted hmem
  exact executionOf_checked hfill

theorem journalRealizations_of_agrees
    (h : journal.executions.foldlM (Rounded.replayExecution ctx encodings sessionId)
      (.init capital) = .ok r) (hprofit : r.realizedPnl = journal.totalRealizedPnl)
    (hagrees : Agrees ctx encodings sessionId capital journal journal.executions) :
    ∃ realizations, journalRealizations ctx journal = .ok realizations := by
  obtain ⟨realizations, hwalk, hsum⟩ := hagrees r h
  refine ⟨realizations, ?_⟩
  simp only [journalRealizations, bind_eq_ok, FailureKind.unless_eq_ok, exists_const,
    decide_eq_true_eq, pure, Except.pure, Except.ok.injEq]
  exact ⟨_, hwalk, hsum.trans hprofit, rfl⟩

end

/-! ### A third of a position -/

/-- Submits the next of some orders on each candle. -/
def inTurn (orders : List OrderIntent) : Strategy ℕ where
  descriptor := ⟨"ladder", "1", []⟩
  init := 0
  onStart := fun _ n => .ok ([], n)
  onCandle := fun _ _ n => .ok (orders[n]?.toList, n + 1)
  onFill := fun _ _ n => .ok ([], n)
  onEnd := fun _ n => .ok n
  onWarmupCandle := none

/-- Three days that open at 100, 100 and 110. -/
def threeDays : PaperCandleBatch where
  dataRange := ⟨0, 3 * Instant.microsecondsPerDay, threeDays_pos⟩
  datasetVersion := zeroDigest
  sourceChecksum := zeroDigest
  candles := [sampleCandle 0 100 100, sampleCandle 1 100 110, sampleCandle 2 110 110]
  candles_ne := by simp

/-- What a session publishes that buys at 100 and sells one unit at 110. -/
def boughtAndSold (bought : ℚ) (h : 0 < bought) : Except Failure PaperSessionState :=
  execute .default sampleEncodings (fun _ _ => "")
    (fun _ _ => .ok ⟨1, fun _ => .ok (inTurn [marketOrder .buy bought h,
      marketOrder .sell 1 oneUnit_pos])⟩)
    plainConfig threeDays 0 none

/-- What the session publishes, with its journal. -/
def boughtAndSoldJournal (bought : ℚ) (h : 0 < bought) :
    Except Failure (PaperSessionState × PaperTradeJournal) := do
  let state ← boughtAndSold bought h
  let journal ← Rounded.buildPaperTradeJournal .default sampleEncodings plainConfig state
  return (state, journal)

theorem boughtAndSoldJournal_eq_ok {bought : ℚ} {h : 0 < bought} {state : PaperSessionState}
    {j : PaperTradeJournal} (hj : boughtAndSoldJournal bought h = .ok (state, j)) :
    boughtAndSold bought h = .ok state ∧
      Rounded.buildPaperTradeJournal .default sampleEncodings plainConfig state = .ok j := by
  simp only [boughtAndSoldJournal, bind_eq_ok, pure, Except.pure, Except.ok.injEq,
    Prod.mk.injEq] at hj
  obtain ⟨_, hstate, _, hjournal, rfl, rfl⟩ := hj
  exact ⟨hstate, hjournal⟩

theorem threeUnits_pos : (0 : ℚ) < 3 := by norm_num

end PaperTrading
end DryTrade
