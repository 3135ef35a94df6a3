import DryTrade.Backtesting.Accounting
import DryTrade.Backtesting.Ledger
import DryTrade.Cycles
import DryTrade.SignificantDigits

/-!
# The ledger and the portfolio under rounding

The ledger books a fill as its notional and then its fee, and rounds after each; the
portfolio pays or receives both at once.  Rounded sums are not associative, so the
two balances can differ, and the ledger then refuses the fill as a divergence.

## Main definitions

* `DecimalContext.default` — the context the engine runs in.
* `LedgerStep`, `bookStep` — one fill or one mark, applied and recorded.
* `RoundsAlike` — what makes the two balances of a fill equal.

## Main results

* `recordFill_isOk_iff` — when one fill is recorded.
* `booksRun_iff` — when every fill of a run is.
-/

namespace DryTrade

/-! ### What is used of a rounding -/

namespace DecimalContext

/-- The default context: 28 significant digits, half to even. -/
def default : DecimalContext := ⟨roundSignificant 28⟩

/-- Rounding twice is rounding once, and rounding keeps zero and the sign. -/
structure Regular (ctx : DecimalContext) : Prop where
  round_round : ∀ q, ctx.round (ctx.round q) = ctx.round q
  round_zero : ctx.round 0 = 0
  nonneg_iff : ∀ q, 0 ≤ ctx.round q ↔ 0 ≤ q

theorem regular_default : default.Regular where
  round_round q := (hasDigits_roundSignificant 28 q).round_eq (by norm_num)
  round_zero := roundSignificant_zero 28
  nonneg_iff _ := roundSignificant_nonneg_iff (by norm_num)

variable {ctx : DecimalContext} {a : ℚ}

theorem add_nothing (ha : ctx.round a = a) : ctx.add a 0 = a := by
  rw [add, add_zero, ha]

theorem Regular.neg_nonpos (h : ctx.Regular) (ha : 0 ≤ a) : ctx.neg a ≤ 0 := by
  rcases ha.eq_or_lt with rfl | hpos
  · rw [neg, neg_zero, h.round_zero]
  · refine (not_le.mp fun hneg => ?_).le
    have := (h.nonneg_iff _).mp hneg
    linarith

end DecimalContext

namespace Backtesting

open MarketData Indicators

variable {ctx : DecimalContext} {hash : String → RawLedgerEntry → String}
  {entries entries' : List LedgerEntry} {s t : PortfolioState} {fill : Fill} {c b : ℚ}

/-! ### The balances of a ledger -/

/-- The last entry of a ledger shows these balances, which are rounded. -/
structure LastBalances (ctx : DecimalContext) (entries : List LedgerEntry) (c b : ℚ) : Prop where
  quote : entries.getLast?.map (·.quoteBalance) = some c
  base : entries.getLast?.map (·.baseBalance) = some b
  quote_round : ctx.round c = c
  base_round : ctx.round b = b

/-- A ledger agrees with the portfolio that has its balances. -/
theorem LastBalances.agrees_iff (h : LastBalances ctx entries c b) :
    ledgerAgrees entries s = true ↔ c = s.quoteCash ∧ b = s.baseQuantity := by
  obtain ⟨last, hlast, rfl⟩ := Option.map_eq_some_iff.mp h.quote
  have hbase := h.base
  rw [hlast, Option.map_some, Option.some.injEq] at hbase
  subst hbase
  simp [ledgerAgrees, hlast]

variable (hash) in
/-- The first entry starts them. -/
theorem LastBalances.first (hctx : ctx.Regular) (request : LedgerRequest) :
    LastBalances ctx ([] ++ [nextLedgerEntry ctx hash [] request]) (ctx.add 0 request.quoteDelta)
      (ctx.add 0 request.baseDelta) :=
  ⟨rfl, rfl, hctx.round_round _, hctx.round_round _⟩

variable (hash) in
/-- An entry moves the balances by its deltas. -/
theorem LastBalances.append (hctx : ctx.Regular) (h : LastBalances ctx entries c b)
    (request : LedgerRequest) :
    LastBalances ctx (entries ++ [nextLedgerEntry ctx hash entries request])
      (ctx.add c request.quoteDelta) (ctx.add b request.baseDelta) := by
  refine ⟨?_, ?_, hctx.round_round _, hctx.round_round _⟩
  · simp [nextLedgerEntry, h.quote]
  · simp [nextLedgerEntry, h.base]

/-- An entry is refused exactly when a balance would be negative. -/
theorem LastBalances.append_iff (h : LastBalances ctx entries c b) {request : LedgerRequest} :
    ledgerAppend ctx hash entries request = .ok entries' ↔
      (0 ≤ ctx.add c request.quoteDelta ∧ 0 ≤ ctx.add b request.baseDelta) ∧
        entries' = entries ++ [nextLedgerEntry ctx hash entries request] := by
  simp only [ledgerAppend, bind_eq_ok, FailureKind.unless_eq_ok, exists_const, pure, Except.pure,
    Except.ok.injEq, decide_eq_true_eq]
  rw [eq_comm (b := entries')]
  simp [nextLedgerEntry, h.quote, h.base]

/-- An entry that is booked only when it is not zero moves the balances by its deltas. -/
theorem LastBalances.appendIf (hctx : ctx.Regular) (h : LastBalances ctx entries c b) {condition : Bool}
    {request : LedgerRequest} (hbase : request.baseDelta = 0)
    (hskip : condition = false → ctx.add c request.quoteDelta = c)
    (happend : ledgerAppendIf ctx hash condition entries request = .ok entries') :
    LastBalances ctx entries' (ctx.add c request.quoteDelta) b := by
  cases condition with
  | false =>
    obtain rfl : entries = entries' := Except.ok.inj happend
    rwa [hskip rfl]
  | true =>
    obtain ⟨-, rfl⟩ := h.append_iff.mp happend
    have hmoved := h.append hash hctx request
    rwa [hbase, DecimalContext.add_nothing h.base_round] at hmoved

/-- It is booked when it leaves no balance negative. -/
theorem LastBalances.appendIf_isOk (h : LastBalances ctx entries c b) (hb : 0 ≤ b) (condition : Bool)
    {request : LedgerRequest} (hbase : request.baseDelta = 0)
    (hpos : 0 ≤ ctx.add c request.quoteDelta) :
    ∃ entries', ledgerAppendIf ctx hash condition entries request = .ok entries' := by
  cases condition with
  | false => exact ⟨entries, rfl⟩
  | true =>
    refine ⟨_, h.append_iff.mpr ⟨⟨hpos, ?_⟩, rfl⟩⟩
    rwa [hbase, DecimalContext.add_nothing h.base_round]

/-! ### Recording a fill -/

/-- The cash after the notional of a fill is booked. -/
def cashAfterNotional (ctx : DecimalContext) (s : PortfolioState) (fill : Fill) : ℚ :=
  ctx.add s.quoteCash (fillRequest ctx fill).quoteDelta

/-- The cash after its fee is booked as well. -/
def cashAfterFee (ctx : DecimalContext) (s : PortfolioState) (fill : Fill) : ℚ :=
  ctx.add (cashAfterNotional ctx s fill) (ctx.neg fill.fee)

/-- The position after a fill is booked. -/
def baseAfterFill (ctx : DecimalContext) (s : PortfolioState) (fill : Fill) : ℚ :=
  ctx.add s.baseQuantity (fillRequest ctx fill).baseDelta

/-- A fee that is not booked is zero and changes nothing. -/
theorem add_feeRequest (hctx : ctx.Regular) (hc : ctx.round c = c)
    (hskip : (fill.fee != 0) = false) : ctx.add c (feeRequest ctx fill).quoteDelta = c := by
  have hzero : fill.fee = 0 := by simpa using hskip
  rw [feeRequest, hzero, DecimalContext.neg, neg_zero, hctx.round_zero,
    DecimalContext.add_nothing hc]

/-- **A recorded fill**: the ledger ends with the balances of the portfolio. -/
theorem LastBalances.recordFill (hctx : ctx.Regular)
    (h : LastBalances ctx entries s.quoteCash s.baseQuantity) {mutation : PortfolioMutation}
    (hrecord : recordFill ctx hash entries fill mutation = .ok entries') :
    (cashAfterFee ctx s fill = mutation.after.quoteCash ∧
      baseAfterFill ctx s fill = mutation.after.baseQuantity) ∧
      LastBalances ctx entries' mutation.after.quoteCash mutation.after.baseQuantity := by
  simp only [Backtesting.recordFill, bind_eq_ok, FailureKind.unless_eq_ok, exists_const, pure,
    Except.pure, Except.ok.injEq] at hrecord
  obtain ⟨e₁, h₁, e₂, h₂, e₃, h₃, hagrees, rfl⟩ := hrecord
  obtain ⟨-, rfl⟩ := h.append_iff.mp h₁
  have hbooked := h.append hash hctx (fillRequest ctx fill)
  have hfee := hbooked.appendIf hctx rfl (add_feeRequest hctx hbooked.quote_round) h₂
  have hrealized := hfee.appendIf hctx rfl
    (fun _ => DecimalContext.add_nothing hfee.quote_round) h₃
  rw [show (realizedRequest fill mutation.realizedPnlDelta).quoteDelta = 0 from rfl,
    DecimalContext.add_nothing hfee.quote_round] at hrealized
  obtain ⟨hcash, hbase⟩ := hrealized.agrees_iff.mp hagrees
  refine ⟨⟨hcash, hbase⟩, ?_⟩
  rwa [hcash, hbase] at hrealized

/-- **A fill is recorded** when no balance becomes negative and the last ones are those of the
portfolio. -/
theorem LastBalances.recordFill_isOk (hctx : ctx.Regular)
    (h : LastBalances ctx entries s.quoteCash s.baseQuantity) {mutation : PortfolioMutation}
    (hnotional : 0 ≤ cashAfterNotional ctx s fill)
    (hcash : cashAfterFee ctx s fill = mutation.after.quoteCash)
    (hbase : baseAfterFill ctx s fill = mutation.after.baseQuantity)
    (hcashPos : 0 ≤ mutation.after.quoteCash) (hbasePos : 0 ≤ mutation.after.baseQuantity) :
    ∃ entries', Backtesting.recordFill ctx hash entries fill mutation = .ok entries' := by
  have hb : 0 ≤ baseAfterFill ctx s fill := by rwa [hbase]
  have hc : 0 ≤ cashAfterFee ctx s fill := by rwa [hcash]
  have hfirst : ledgerAppend ctx hash entries (fillRequest ctx fill) = .ok _ :=
    h.append_iff.mpr ⟨⟨hnotional, hb⟩, rfl⟩
  have hbooked : LastBalances ctx _ (cashAfterNotional ctx s fill) (baseAfterFill ctx s fill) :=
    h.append hash hctx (fillRequest ctx fill)
  obtain ⟨e₂, h₂⟩ := hbooked.appendIf_isOk hb (fill.fee != 0)
    (show (feeRequest ctx fill).baseDelta = 0 from rfl) hc
  have hfee := hbooked.appendIf hctx rfl (add_feeRequest hctx hbooked.quote_round) h₂
  have hsame : ctx.add (cashAfterFee ctx s fill)
      (realizedRequest fill mutation.realizedPnlDelta).quoteDelta = cashAfterFee ctx s fill :=
    DecimalContext.add_nothing hfee.quote_round
  obtain ⟨e₃, h₃⟩ := hfee.appendIf_isOk hb (mutation.realizedPnlDelta != 0)
    (show (realizedRequest fill mutation.realizedPnlDelta).baseDelta = 0 from rfl)
    (hc.trans_eq hsame.symm)
  have hrealized := hfee.appendIf hctx rfl (fun _ => hsame) h₃
  have hagrees : ledgerAgrees e₃ mutation.after = true :=
    hrealized.agrees_iff.mpr ⟨hsame.trans hcash, hbase⟩
  refine ⟨e₃, ?_⟩
  simp only [Backtesting.recordFill, bind_eq_ok, FailureKind.unless_eq_ok, exists_const, pure,
    Except.pure, Except.ok.injEq]
  exact ⟨_, hfirst, e₂, h₂, e₃, h₃, hagrees, rfl⟩

/-- **What makes the two balances of a fill equal**: paying, or receiving, the notional and then the
fee rounds to what paying, or receiving, both at once does. -/
def RoundsAlike (ctx : DecimalContext) (s : PortfolioState) (fill : Fill) : Prop :=
  match fill.side with
  | .buy =>
      ctx.add (ctx.add s.quoteCash (ctx.neg fill.notional)) (ctx.neg fill.fee) =
        ctx.sub s.quoteCash (ctx.add fill.notional fill.fee)
  | .sell =>
      ctx.add (ctx.add s.quoteCash fill.notional) (ctx.neg fill.fee) =
          ctx.add s.quoteCash (ctx.sub fill.notional fill.fee) ∧
        ctx.add s.baseQuantity (ctx.neg fill.quantity) = ctx.sub s.baseQuantity fill.quantity

theorem roundsAlike_iff : RoundsAlike ctx s fill ↔
    cashAfterFee ctx s fill = (filledState ctx s fill).quoteCash ∧
      baseAfterFill ctx s fill = (filledState ctx s fill).baseQuantity := by
  cases hside : fill.side <;>
    simp [RoundsAlike, cashAfterFee, cashAfterNotional, baseAfterFill, fillRequest, filledState,
      boughtState, soldState, hside]

/-- The ledger and the portfolio that it follows. -/
structure Follows (ctx : DecimalContext) (entries : List LedgerEntry) (s : PortfolioState) :
    Prop where
  balances : LastBalances ctx entries s.quoteCash s.baseQuantity
  valid : s.Valid ctx

theorem PortfolioState.Valid.quoteCash_nonneg (h : s.Valid ctx) : 0 ≤ s.quoteCash :=
  h.nonneg ("quote_cash", s.quoteCash) (by simp [PortfolioState.nonnegativeFields])

theorem PortfolioState.Valid.baseQuantity_nonneg (h : s.Valid ctx) : 0 ≤ s.baseQuantity :=
  h.nonneg ("base_quantity", s.baseQuantity) (by simp [PortfolioState.nonnegativeFields])

variable (hash) in
/-- **When one fill is recorded**: a fill that the portfolio applied is recorded exactly when the two
round alike. -/
theorem Follows.recordFill_isOk_iff (hctx : ctx.Regular) (h : Follows ctx entries s)
    (hfill : fill.Valid ctx) {mutation : PortfolioMutation}
    (hmutation : applyFill ctx s fill = .ok mutation) :
    (∃ entries', recordFill ctx hash entries fill mutation = .ok entries') ↔
      RoundsAlike ctx s fill := by
  obtain ⟨-, hvalid, hafter⟩ := applyFill_eq_ok hmutation
  have hcash : mutation.after.quoteCash = (filledState ctx s fill).quoteCash := by rw [hafter]; rfl
  have hbase : mutation.after.baseQuantity = (filledState ctx s fill).baseQuantity := by
    rw [hafter]; rfl
  rw [roundsAlike_iff, ← hcash, ← hbase]
  constructor
  · rintro ⟨entries', hrecord⟩
    exact (h.balances.recordFill hctx hrecord).1
  · rintro ⟨hsameCash, hsameBase⟩
    -- the cash after the notional still has to pay the fee
    have hpaid : 0 ≤ cashAfterNotional ctx s fill + ctx.neg fill.fee := by
      refine (hctx.nonneg_iff _).mp ?_
      exact hvalid.quoteCash_nonneg.trans_eq hsameCash.symm
    have hfee := hctx.neg_nonpos hfill.fee_nonneg
    exact h.balances.recordFill_isOk hctx (by linarith) hsameCash hsameBase
      hvalid.quoteCash_nonneg hvalid.baseQuantity_nonneg

variable (hash) in
/-- A mark of a portfolio that the ledger follows is recorded. -/
theorem Follows.recordMark (hctx : ctx.Regular) (h : Follows ctx entries s) (eventTime : Instant)
    (candleIndex : ℤ) (final : Bool) :
    ∃ entries', Backtesting.recordMark ctx hash entries s eventTime candleIndex final =
      .ok entries' ∧ Follows ctx entries' s := by
  have hsomething : (!entries.isEmpty) = true := by
    cases entries with
    | nil => simpa using h.balances.quote
    | cons e es => rfl
  have hmoved := h.balances.append hash hctx
    { eventTime := eventTime
      candleIndex := candleIndex
      entryType := if final then .finalState else .markToMarket
      quoteDelta := 0
      baseDelta := 0
      fee := 0
      realizedPnl := 0
      orderId := none
      fillId := none
      notional := 0
      referencePrice := s.lastMarkPrice }
  have hcash := DecimalContext.add_nothing h.balances.quote_round
  have hbase := DecimalContext.add_nothing h.balances.base_round
  rw [hcash, hbase] at hmoved
  refine ⟨_, ?_, hmoved, h.valid⟩
  simp only [Backtesting.recordMark, bind_eq_ok, FailureKind.unless_eq_ok, exists_const]
  refine ⟨hsomething, h.balances.agrees_iff.mpr ⟨rfl, rfl⟩, h.balances.append_iff.mpr ⟨?_, rfl⟩⟩
  rw [hcash, hbase]
  exact ⟨h.valid.quoteCash_nonneg, h.valid.baseQuantity_nonneg⟩

/-! ### A whole run -/

/-- One thing that the engine does to its portfolio and its ledger: it applies and records a fill,
marks the portfolio, or records a mark. -/
inductive LedgerStep (ctx : DecimalContext)
  | fill (fill : Fill) (valid : fill.Valid ctx)
  | mark (price : ℚ)
  | record (eventTime : Instant) (candleIndex : ℤ) (final : Bool)

/-- What the step does to the portfolio. -/
def LedgerStep.move (s : PortfolioState) : LedgerStep ctx → Except Failure PortfolioState
  | .fill fill _ => do
      let mutation ← applyFill ctx s fill
      return mutation.after
  | .mark price => markToMarket ctx s price
  | .record _ _ _ => .ok s

/-- What it does to both. -/
def bookStep (hash : String → RawLedgerEntry → String) :
    PortfolioState × List LedgerEntry → LedgerStep ctx →
      Except Failure (PortfolioState × List LedgerEntry)
  | (s, entries), .fill fill _ => do
      let mutation ← applyFill ctx s fill
      let entries ← recordFill ctx hash entries fill mutation
      return (mutation.after, entries)
  | (s, entries), .mark price => do
      let s ← markToMarket ctx s price
      return (s, entries)
  | (s, entries), .record eventTime candleIndex final => do
      let entries ← recordMark ctx hash entries s eventTime candleIndex final
      return (s, entries)

/-- A fill rounds alike; a mark moves nothing. -/
def LedgerStep.RoundsAlike (s : PortfolioState) : LedgerStep ctx → Prop
  | .fill fill _ => Backtesting.RoundsAlike ctx s fill
  | .mark _ => True
  | .record _ _ _ => True

/-- The portfolio and the ledger of a new run. -/
def openBooks (ctx : DecimalContext) (hash : String → RawLedgerEntry → String) (capital : ℚ)
    (start : Instant) : Except Failure (PortfolioState × List LedgerEntry) := do
  let s ← initializePortfolio ctx capital
  let entries ← recordInitialCapital ctx hash [] capital start
  return (s, entries)

section

variable {books books' : PortfolioState × List LedgerEntry} {step : LedgerStep ctx}
  {steps : List (LedgerStep ctx)}

/-- A fill or a mark that the portfolio accepts leaves it valid. -/
theorem LedgerStep.move_valid (hs : s.Valid ctx) (h : step.move s = .ok t) : t.Valid ctx := by
  cases step with
  | fill fill valid =>
    simp only [LedgerStep.move, bind_eq_ok, pure, Except.pure, Except.ok.injEq] at h
    obtain ⟨mutation, hmutation, rfl⟩ := h
    exact (applyFill_eq_ok hmutation).2.1
  | mark price =>
    obtain ⟨-, hvalid, rfl⟩ := markToMarket_eq_ok.mp h
    exact hvalid
  | record eventTime candleIndex final =>
    obtain rfl : s = t := Except.ok.inj h
    exact hs

/-- **One step**: the portfolio moves, and the ledger still follows it. -/
theorem bookStep_follows (hctx : ctx.Regular) (h : Follows ctx books.2 books.1)
    (hstep : bookStep hash books step = .ok books') :
    step.move books.1 = .ok books'.1 ∧ Follows ctx books'.2 books'.1 := by
  obtain ⟨s, entries⟩ := books
  cases step with
  | fill fill valid =>
    simp only [bookStep, bind_eq_ok, pure, Except.pure, Except.ok.injEq] at hstep
    obtain ⟨mutation, hmutation, entries', hrecord, rfl⟩ := hstep
    refine ⟨by simp [LedgerStep.move, hmutation, bind, Except.bind, pure, Except.pure], ?_⟩
    exact ⟨(h.balances.recordFill hctx hrecord).2, (applyFill_eq_ok hmutation).2.1⟩
  | mark price =>
    simp only [bookStep, bind_eq_ok, pure, Except.pure, Except.ok.injEq] at hstep
    obtain ⟨s', hmark, rfl⟩ := hstep
    obtain ⟨-, hvalid, rfl⟩ := markToMarket_eq_ok.mp hmark
    exact ⟨hmark, h.balances, hvalid⟩
  | record eventTime candleIndex final =>
    simp only [bookStep, bind_eq_ok, pure, Except.pure, Except.ok.injEq] at hstep
    obtain ⟨entries', hrecord, rfl⟩ := hstep
    obtain ⟨entries'', hrecord', hfollows⟩ := h.recordMark hash hctx eventTime candleIndex final
    obtain rfl := Except.ok.inj (hrecord.symm.trans hrecord')
    exact ⟨rfl, hfollows⟩

/-- A step that the portfolio takes is booked exactly when it rounds alike. -/
theorem bookStep_isOk_iff (hctx : ctx.Regular) (h : Follows ctx books.2 books.1)
    (hmove : step.move books.1 = .ok t) :
    (∃ books', bookStep hash books step = .ok books') ↔ step.RoundsAlike books.1 := by
  obtain ⟨s, entries⟩ := books
  cases step with
  | fill fill valid =>
    simp only [LedgerStep.move, bind_eq_ok, pure, Except.pure, Except.ok.injEq] at hmove
    obtain ⟨mutation, hmutation, rfl⟩ := hmove
    refine Iff.trans ?_ (h.recordFill_isOk_iff hash hctx valid hmutation)
    simp [bookStep, hmutation, bind_eq_ok, pure, Except.pure]
  | mark price =>
    refine iff_of_true ⟨(t, entries), ?_⟩ trivial
    simp only [LedgerStep.move] at hmove
    simp [bookStep, hmove, bind, Except.bind, pure, Except.pure]
  | record eventTime candleIndex final =>
    obtain ⟨entries', hrecord, -⟩ := h.recordMark hash hctx eventTime candleIndex final
    refine iff_of_true ⟨(s, entries'), ?_⟩ trivial
    simp [bookStep, hrecord, bind, Except.bind, pure, Except.pure]

/-- **A run**: the portfolio moves step by step, and the ledger follows it to the end. -/
theorem booksRun_follows (hctx : ctx.Regular) (h : Follows ctx books.2 books.1)
    (hrun : steps.foldlM (bookStep hash) books = .ok books') :
    steps.foldlM LedgerStep.move books.1 = .ok books'.1 ∧ Follows ctx books'.2 books'.1 := by
  induction steps using List.reverseRecOn generalizing books' with
  | nil =>
    obtain rfl : books = books' := Except.ok.inj hrun
    exact ⟨rfl, h⟩
  | append_singleton steps step ih =>
    obtain ⟨mid, hmid, hstep⟩ := foldlM_concat_eq_ok.mp hrun
    obtain ⟨hmoved, hfollows⟩ := ih hmid
    obtain ⟨hmove, hlast⟩ := bookStep_follows hctx hfollows hstep
    exact ⟨foldlM_concat_eq_ok.mpr ⟨_, hmoved, hmove⟩, hlast⟩

/-- Every fill of a run rounds alike with the portfolio that it finds. -/
def RunRoundsAlike (s : PortfolioState) (steps : List (LedgerStep ctx)) : Prop :=
  AlongPrefixes (fun before step =>
    ∀ t, before.foldlM LedgerStep.move s = .ok t → step.RoundsAlike t) steps

/-- **When a run is booked to its end**, from books that agree. -/
theorem Follows.run_isOk_iff (hctx : ctx.Regular) (h : Follows ctx books.2 books.1)
    (hrun : steps.foldlM LedgerStep.move books.1 = .ok t) :
    (∃ books', steps.foldlM (bookStep hash) books = .ok books') ↔
      RunRoundsAlike books.1 steps := by
  induction steps using List.reverseRecOn generalizing t with
  | nil => exact iff_of_true ⟨books, rfl⟩ alongPrefixes_nil
  | append_singleton steps step ih =>
    obtain ⟨mid, hmid, hmove⟩ := foldlM_concat_eq_ok.mp hrun
    rw [RunRoundsAlike, alongPrefixes_concat, ← RunRoundsAlike, ← ih hmid]
    constructor
    · rintro ⟨books', hbooks⟩
      obtain ⟨before, hbefore, hstep⟩ := foldlM_concat_eq_ok.mp hbooks
      obtain ⟨hmoved, hfollows⟩ := booksRun_follows hctx h hbefore
      refine ⟨⟨before, hbefore⟩, fun s hs => ?_⟩
      obtain rfl : before.1 = s := Except.ok.inj (hmoved.symm.trans hs)
      exact (bookStep_isOk_iff hctx hfollows (bookStep_follows hctx hfollows hstep).1).mp
        ⟨_, hstep⟩
    · rintro ⟨⟨before, hbefore⟩, hround⟩
      obtain ⟨hmoved, hfollows⟩ := booksRun_follows hctx h hbefore
      obtain rfl : before.1 = mid := Except.ok.inj (hmoved.symm.trans hmid)
      obtain ⟨books', hstep⟩ := (bookStep_isOk_iff hctx hfollows hmove).mpr (hround _ hmoved)
      exact ⟨books', foldlM_concat_eq_ok.mpr ⟨_, hbefore, hstep⟩⟩

end

/-- New books whose balances are equal agree. -/
theorem openBooks_follows {capital : ℚ} {start : Instant} {books : PortfolioState × List LedgerEntry}
    (hctx : ctx.Regular) (h : openBooks ctx hash capital start = .ok books)
    (hagrees : ledgerAgrees books.2 books.1 = true) : Follows ctx books.2 books.1 := by
  simp only [openBooks, bind_eq_ok, pure, Except.pure, Except.ok.injEq] at h
  obtain ⟨s, hs, entries, hentries, rfl⟩ := h
  simp only [initializePortfolio, bind_eq_ok, FailureKind.unless_eq_ok, exists_const,
    PortfolioState.validate_eq_ok] at hs
  obtain ⟨-, hvalid, rfl⟩ := hs
  simp only [recordInitialCapital, bind_eq_ok, FailureKind.unless_eq_ok, exists_const] at hentries
  obtain rfl := ledgerAppend_eq_ok hentries.2.2
  have hbalances := LastBalances.first hash hctx
    { eventTime := start
      candleIndex := -1
      entryType := .initialCapital
      quoteDelta := capital
      baseDelta := 0
      fee := 0
      realizedPnl := 0
      orderId := none
      fillId := none
      notional := 0
      referencePrice := none }
  obtain ⟨hcash, hbase⟩ := hbalances.agrees_iff.mp hagrees
  refine ⟨?_, hvalid⟩
  rwa [hcash, hbase] at hbalances

/-! ### LastBalances on one grid -/

variable {x y e : ℤ}

theorem default_round_grid {r : ℚ} (hr : r = x * 10 ^ e) (h : |x| ≤ 10 ^ 28) :
    DecimalContext.default.round r = x * 10 ^ e := by
  rw [hr]
  exact HasDigits.round_eq (by norm_num) ⟨x, e, h, rfl⟩

theorem default_add_grid (h : |x + y| ≤ 10 ^ 28) :
    DecimalContext.default.add (x * 10 ^ e) (y * 10 ^ e) = (x + y : ℤ) * 10 ^ e :=
  default_round_grid (by push_cast; ring) h

theorem default_sub_grid (h : |x - y| ≤ 10 ^ 28) :
    DecimalContext.default.sub (x * 10 ^ e) (y * 10 ^ e) = (x - y : ℤ) * 10 ^ e :=
  default_round_grid (by push_cast; ring) h

theorem default_neg_grid (h : |x| ≤ 10 ^ 28) :
    DecimalContext.default.neg (x * 10 ^ e) = (-x : ℤ) * 10 ^ e :=
  default_round_grid (by push_cast; ring) ((abs_neg x).trans_le h)

/-- **A fill rounds alike when nothing is rounded**: cash, notional and fee are multiples of one power
of ten, position and quantity of another, and their sums still have 28 digits. -/
theorem roundsAlike_of_grid {c n f e : ℤ} (hcash : s.quoteCash = c * 10 ^ e)
    (hnotional : fill.notional = n * 10 ^ e) (hfee : fill.fee = f * 10 ^ e)
    (hsize : |c| + |n| + |f| ≤ 10 ^ 28) {b q k : ℤ} (hbase : s.baseQuantity = b * 10 ^ k)
    (hquantity : fill.quantity = q * 10 ^ k) (hsize' : |b| + |q| ≤ 10 ^ 28) :
    RoundsAlike .default s fill := by
  unfold RoundsAlike
  rw [hcash, hnotional, hfee, hbase, hquantity]
  cases fill.side with
  | buy =>
    simp only []
    rw [default_neg_grid (by grind), default_neg_grid (by grind), default_add_grid (by grind),
      default_add_grid (by grind), default_add_grid (by grind), default_sub_grid (by grind)]
    congr 2
    ring
  | sell =>
    simp only []
    rw [default_neg_grid (by grind), default_add_grid (by grind), default_add_grid (by grind),
      default_sub_grid (by grind), default_add_grid (by grind), default_neg_grid (by grind),
      default_add_grid (by grind), default_sub_grid (by grind)]
    constructor
    · congr 2
      ring
    · congr 2

/-! ### A run that is aborted -/

/-- A market order for 2.50519865 units. -/
def buyFraction : OrderIntent where
  side := .buy
  orderType := .market
  quantity := 250519865 / 10 ^ 8
  timeInForce := .gtc
  limitPrice := none
  stopPrice := none
  clientTag := none
  quantity_pos := by norm_num
  prices_valid := marketPrices_valid
  clientTag_safe := untagged_safe

/-- Submits it on the first candle, and nothing after it. -/
def buyFractionOnce : Strategy Bool :=
  { buyAndHold with
    onCandle := fun _ _ bought => .ok (if bought then [] else [buyFraction], true) }

/-- Ten thousand of capital, a taker fee of 7.5 basis points and steps of eight decimals. -/
def fractionConfig : BacktestConfig :=
  let base := holdConfig (15 / 2) (by decide +kernel) false
  { base with
    initialCapital := 10000
    initialCapital_pos := by norm_num
    constraints := { base.constraints with
      minimumQuantity := 1 / 10 ^ 8
      quantityStep := 1 / 10 ^ 8
      minimumQuantity_pos := by norm_num
      quantityStep_pos := by norm_num } }

/-- The open of the second day. -/
def fractionPrice : ℚ := 3650958312869401 / 10 ^ 12

/-- The fill that the engine makes of the order. -/
def fractionFill : Fill where
  fillId := "F000000000001"
  orderId := "O000000000001"
  reason := .marketOpen
  liquidity := .taker
  side := .buy
  quantity := 250519865 / 10 ^ 8
  basePrice := fractionPrice
  executionPrice := fractionPrice
  notional := 914637583660670101150865 / 10 ^ 20
  fee := 68597818774550257586314875 / 10 ^ 25
  slippageCost := 0
  eventTime := Instant.microsecondsPerDay
  candleIndex := 1

/-- One unit bought at 100 for a fee of 0.1. -/
def unitFill : Fill := sampleFill "F1" .buy 1 100 (1 / 10) 0

theorem unitFill_valid : unitFill.Valid .default :=
  have hvalidate : Fill.validate .default unitFill = .ok unitFill := by decide +kernel
  (Fill.validate_eq_ok.mp hvalidate).1

end Backtesting
end DryTrade
