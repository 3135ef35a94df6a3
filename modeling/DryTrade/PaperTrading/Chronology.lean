import Mathlib.Data.String.Basic
import DryTrade.PaperTrading.Replay

/-!
# Executions in the order of their keys

The journal sorts its executions by time, candle, order sequence and fill id.  A list
whose times, candles and sequences already increase strictly is the only sorted
arrangement of its members.

## Main definitions

* `ExecutionBefore` — strictly earlier, or of an older order of the same candle.
* `Distinct` — such a list, in which no fill and no order comes twice.

## Main results

* `sortExecutions_of_perm` — sorting any arrangement of the list gives it back.
-/

namespace DryTrade
namespace PaperTrading

open MarketData Indicators Backtesting

variable {a b c : PaperTradeExecution} {es es' : List PaperTradeExecution}

/-! ### The key -/

/-- `_execution_key`. -/
def PaperTradeExecution.key (e : PaperTradeExecution) : ℤ ×ₗ ℕ ×ₗ ℕ ×ₗ String :=
  toLex (e.eventTime, toLex (e.candleIndex, toLex (e.orderSequence, e.fillId)))

theorem executionLe_iff : executionLe a b = true ↔ a.key ≤ b.key := by
  simp [executionLe, PaperTradeExecution.key, Prod.Lex.toLex_le_toLex]

instance : Std.Total fun a b => executionLe a b = true where
  total a b := by
    simp only [executionLe_iff]
    exact le_total a.key b.key

instance : IsTrans PaperTradeExecution fun a b => executionLe a b = true where
  trans a b c hab hbc := by
    rw [executionLe_iff] at hab hbc ⊢
    exact hab.trans hbc

theorem sortExecutions_perm (es : List PaperTradeExecution) : (sortExecutions es).Perm es :=
  List.perm_insertionSort _ es

theorem sortExecutions_sorted (es : List PaperTradeExecution) :
    (sortExecutions es).Pairwise fun a b => executionLe a b = true :=
  List.pairwise_insertionSort _ es

/-! ### Strictly increasing lists -/

/-- `a` is of an earlier candle than `b`, or of an older order of the same one. -/
def ExecutionBefore (a b : PaperTradeExecution) : Prop :=
  (a.eventTime < b.eventTime ∧ a.candleIndex < b.candleIndex) ∨
    (a.eventTime = b.eventTime ∧ a.candleIndex = b.candleIndex ∧ a.orderSequence < b.orderSequence)

theorem ExecutionBefore.eventTime_le (h : ExecutionBefore a b) : a.eventTime ≤ b.eventTime := by
  rcases h with ⟨h, -⟩ | ⟨h, -⟩
  · exact h.le
  · exact h.le

theorem ExecutionBefore.key_lt (h : ExecutionBefore a b) : a.key < b.key := by
  rcases h with ⟨h, -⟩ | ⟨htime, hindex, hsequence⟩
  · simp [PaperTradeExecution.key, Prod.Lex.toLex_lt_toLex, h]
  · simp [PaperTradeExecution.key, Prod.Lex.toLex_lt_toLex, htime, hindex, hsequence]

theorem sorted_of_before (h : es.Pairwise ExecutionBefore) :
    es.Pairwise fun a b => executionLe a b = true :=
  h.imp fun hab => executionLe_iff.mpr hab.key_lt.le

/-- **Sorting any arrangement of a strictly increasing list gives it back.** -/
theorem sortExecutions_of_perm (h : es.Pairwise ExecutionBefore) (hperm : es'.Perm es) :
    sortExecutions es' = es := by
  refine List.Perm.eq_of_pairwise ?_ (sortExecutions_sorted es') (sorted_of_before h)
    ((sortExecutions_perm es').trans hperm)
  intro a b ha hb hab hba
  have ha : a ∈ es := hperm.mem_iff.mp ((sortExecutions_perm es').mem_iff.mp ha)
  have hb : b ∈ es := hb
  rw [executionLe_iff] at hab hba
  have hkey : a.key = b.key := le_antisymm hab hba
  by_contra hne
  have hdistinct : es.Pairwise fun a b => a.key ≠ b.key := h.imp fun hab => hab.key_lt.ne
  have : Std.Symm fun a b : PaperTradeExecution => a.key ≠ b.key := ⟨fun _ _ h => h.symm⟩
  exact hdistinct.forall ha hb hne hkey

/-- A strictly increasing list in which no fill and no order comes twice. -/
structure Distinct (es : List PaperTradeExecution) : Prop where
  before : es.Pairwise ExecutionBefore
  fillIds : (es.map PaperTradeExecution.fillId).Nodup
  orderIds : (es.map PaperTradeExecution.orderId).Nodup

theorem Distinct.sublist (h : Distinct es) (hsub : es'.Sublist es) : Distinct es' where
  before := h.before.sublist hsub
  fillIds := h.fillIds.sublist (hsub.map _)
  orderIds := h.orderIds.sublist (hsub.map _)

theorem Distinct.sort (h : Distinct es) : sortExecutions es = es :=
  sortExecutions_of_perm h.before (.refl es)

/-- The order of such a list is accepted. -/
theorem Distinct.validate (h : Distinct es) : validateExecutionOrder es = .ok () := by
  simp only [validateExecutionOrder, bind_eq_ok, FailureKind.unless_eq_ok, exists_const,
    decide_eq_true_eq]
  exact ⟨h.sort, h.fillIds, h.orderIds⟩

end PaperTrading
end DryTrade
