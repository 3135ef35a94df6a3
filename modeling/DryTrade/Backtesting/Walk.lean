import DryTrade.Backtesting.Halt

/-!
# The walk over the eligible orders

The positions a candle visits are computed once, before the first of them is
visited, while fills, reconciliations and submissions keep changing the list they
point into.  None of that touches an order still to be visited: a visit changes
the visited order only, submissions append, and a reconciliation cancels open
stops, of which there is at most one, visited first.

## Main definitions

* `Waiting` — the positions are distinct, and the orders at them open.
* `EnginePoint.Walks` — the invariant of the walk.

## Main results

* `eligibleOrderPositions_waiting`, `eligibleOrderPositions_tail` — what the computed positions
  are at first.
* `Reached.walks` — every order is still open when it is visited.
-/

namespace DryTrade
namespace Backtesting

open MarketData Indicators

/-! ### The priority order -/

theorem priorityLe_iff {a b : SimulatedOrder} : priorityLe a b = true ↔
    a.eligibleCandleIndex < b.eligibleCandleIndex ∨
      (a.eligibleCandleIndex = b.eligibleCandleIndex ∧
        (a.createdSequence < b.createdSequence ∨
          (a.createdSequence = b.createdSequence ∧ a.orderId ≤ b.orderId))) := by
  simp [priorityLe]

theorem priorityLe_total (a b : SimulatedOrder) : priorityLe a b = true ∨ priorityLe b a = true := by
  simp only [priorityLe_iff]
  rcases lt_trichotomy a.eligibleCandleIndex b.eligibleCandleIndex with h | h | h
  · exact .inl (.inl h)
  · rcases lt_trichotomy a.createdSequence b.createdSequence with h' | h' | h'
    · exact .inl (.inr ⟨h, .inl h'⟩)
    · rcases String.le_total a.orderId b.orderId with h'' | h''
      · exact .inl (.inr ⟨h, .inr ⟨h', h''⟩⟩)
      · exact .inr (.inr ⟨h.symm, .inr ⟨h'.symm, h''⟩⟩)
    · exact .inr (.inr ⟨h.symm, .inl h'⟩)
  · exact .inr (.inl h)

theorem priorityLe_trans {a b c : SimulatedOrder} (hab : priorityLe a b = true)
    (hbc : priorityLe b c = true) : priorityLe a c = true := by
  rw [priorityLe_iff] at hab hbc ⊢
  rcases hab with h | ⟨h, hab⟩
  · rcases hbc with h' | ⟨h', -⟩
    · exact .inl (h.trans h')
    · exact .inl (h' ▸ h)
  · rcases hbc with h' | ⟨h', hbc⟩
    · exact .inl (h ▸ h')
    · refine .inr ⟨h.trans h', ?_⟩
      rcases hab with hs | ⟨hs, hid⟩
      · rcases hbc with hs' | ⟨hs', -⟩
        · exact .inl (hs.trans hs')
        · exact .inl (hs' ▸ hs)
      · rcases hbc with hs' | ⟨hs', hid'⟩
        · exact .inl (hs ▸ hs')
        · exact .inr ⟨hs.trans hs', String.le_trans hid hid'⟩

instance : Std.Total fun a b : ℕ × SimulatedOrder => eligibleLe a b = true where
  total a b := by
    unfold eligibleLe
    cases a.2.isEngineStop <;> cases b.2.isEngineStop
    · exact priorityLe_total a.2 b.2
    · exact .inr rfl
    · exact .inl rfl
    · exact priorityLe_total a.2 b.2

instance : IsTrans (ℕ × SimulatedOrder) fun a b => eligibleLe a b = true where
  trans a b c hab hbc := by
    unfold eligibleLe at hab hbc ⊢
    cases ha : a.2.isEngineStop <;> cases hb : b.2.isEngineStop <;>
      cases hc : c.2.isEngineStop <;> simp only [ha, hb, hc, Bool.false_eq_true] at hab hbc ⊢
    · exact priorityLe_trans hab hbc
    · exact priorityLe_trans hab hbc

/-! ### The eligible positions -/

/-- The open orders that a candle may fill, with their positions. -/
def eligibleCandidates (orders : List SimulatedOrder) (candleIndex : ℕ) : List (ℕ × SimulatedOrder) :=
  (orders.zipIdx.map fun p => (p.2, p.1)).filter fun p =>
    p.2.status == .open && decide (p.2.eligibleCandleIndex ≤ (candleIndex : ℤ))

theorem eligibleOrderPositions_eq (orders : List SimulatedOrder) (candleIndex : ℕ) :
    eligibleOrderPositions orders candleIndex =
      ((eligibleCandidates orders candleIndex).insertionSort fun a b => eligibleLe a b = true).map
        Prod.fst := rfl

theorem mem_eligibleCandidates {orders : List SimulatedOrder} {candleIndex : ℕ}
    {p : ℕ × SimulatedOrder} (h : p ∈ eligibleCandidates orders candleIndex) :
    orders[p.1]? = some p.2 ∧ p.2.status = .open := by
  obtain ⟨hmem, hopen⟩ := List.mem_filter.mp h
  simp only [List.mem_map, Prod.exists] at hmem
  obtain ⟨o, i, hi, rfl⟩ := hmem
  simp only [Bool.and_eq_true, beq_iff_eq] at hopen
  exact ⟨List.mem_zipIdx_iff_getElem?.mp hi, hopen.1⟩

theorem eligibleCandidates_nodup (orders : List SimulatedOrder) (candleIndex : ℕ) :
    ((eligibleCandidates orders candleIndex).map Prod.fst).Nodup := by
  have hall : ((orders.zipIdx.map fun p => (p.2, p.1)).map Prod.fst).Nodup := by
    rw [List.map_map]
    have hsnd : orders.zipIdx.map (Prod.fst ∘ fun p : SimulatedOrder × ℕ => (p.2, p.1)) =
        List.range' 0 orders.length := by
      rw [← List.zipIdx_map_snd 0 orders]
      rfl
    rw [hsnd]
    exact List.nodup_range'
  exact hall.sublist (List.filter_sublist.map Prod.fst)

/-- The positions are distinct, and the orders at them are open. -/
def Waiting (orders : List SimulatedOrder) (todo : List ℕ) : Prop :=
  todo.Nodup ∧ ∀ i ∈ todo, ∃ o, orders[i]? = some o ∧ o.status = .open

/-- The orders at the positions are not the engine's own stops. -/
def Unmanaged (orders : List SimulatedOrder) (todo : List ℕ) : Prop :=
  ∀ i ∈ todo, ∃ o, orders[i]? = some o ∧ o.isEngineStop = false

theorem eligibleOrderPositions_waiting (orders : List SimulatedOrder) (candleIndex : ℕ) :
    Waiting orders (eligibleOrderPositions orders candleIndex) := by
  rw [eligibleOrderPositions_eq]
  have hperm := (eligibleCandidates orders candleIndex).perm_insertionSort
    fun a b => eligibleLe a b = true
  refine ⟨(hperm.map Prod.fst).nodup_iff.mpr (eligibleCandidates_nodup orders candleIndex), ?_⟩
  intro i hi
  obtain ⟨p, hp, rfl⟩ := List.mem_map.mp hi
  exact ⟨p.2, mem_eligibleCandidates (hperm.mem_iff.mp hp)⟩

/-- **Only the first of the eligible positions can be a stop**, when at most one stop is open. -/
theorem eligibleOrderPositions_tail {orders : List SimulatedOrder} (candleIndex : ℕ)
    (hone : (openStops orders).length ≤ 1) :
    Unmanaged orders (eligibleOrderPositions orders candleIndex).tail := by
  have hnodup := (eligibleOrderPositions_waiting orders candleIndex).1
  rw [eligibleOrderPositions_eq] at hnodup ⊢
  have hperm := (eligibleCandidates orders candleIndex).perm_insertionSort
    fun a b => eligibleLe a b = true
  have hsorted := (eligibleCandidates orders candleIndex).pairwise_insertionSort
    fun a b => eligibleLe a b = true
  cases hlist : (eligibleCandidates orders candleIndex).insertionSort
      fun a b => eligibleLe a b = true with
  | nil => simp [Unmanaged]
  | cons first rest =>
    rw [hlist] at hperm hsorted hnodup
    rw [List.map_cons, List.tail_cons]
    intro i hi
    obtain ⟨p, hp, rfl⟩ := List.mem_map.mp hi
    obtain ⟨hfirst, hfirstOpen⟩ := mem_eligibleCandidates (hperm.mem_iff.mp List.mem_cons_self)
    obtain ⟨hat, hopen⟩ := mem_eligibleCandidates (hperm.mem_iff.mp (List.mem_cons_of_mem _ hp))
    refine ⟨p.2, hat, ?_⟩
    by_contra hstop
    rw [Bool.not_eq_false] at hstop
    -- a stop that is not first would come after a stop at another position
    have hle := (List.pairwise_cons.mp hsorted).1 p hp
    have hfirstStop : first.2.isEngineStop = true := by
      by_contra hne
      rw [Bool.not_eq_true] at hne
      simp [eligibleLe, hne, hstop] at hle
    have hsame : first.1 = p.1 := position_unique hone hfirst hat
      (by simp [SimulatedOrder.isOpenStop, hfirstOpen, hfirstStop])
      (by simp [SimulatedOrder.isOpenStop, hopen, hstop])
    exact (List.nodup_cons.mp hnodup).1 (hsame ▸ hi)

/-! ### What a visit leaves of the others -/

section

variable {orders orders' : List SimulatedOrder} {todo : List ℕ}

/-- The orders at the positions are the same in both lists. -/
def SameAt (orders orders' : List SimulatedOrder) (todo : List ℕ) : Prop :=
  ∀ i ∈ todo, orders'[i]? = orders[i]?

theorem Waiting.of_same (h : Waiting orders todo) (hsame : SameAt orders orders' todo) :
    Waiting orders' todo := by
  refine ⟨h.1, fun i hi => ?_⟩
  rw [hsame i hi]
  exact h.2 i hi

theorem Unmanaged.of_same (h : Unmanaged orders todo) (hsame : SameAt orders orders' todo) :
    Unmanaged orders' todo := by
  intro i hi
  rw [hsame i hi]
  exact h i hi

theorem Waiting.lt_length (h : Waiting orders todo) {i : ℕ} (hi : i ∈ todo) : i < orders.length := by
  obtain ⟨o, ho, -⟩ := h.2 i hi
  exact (List.getElem?_eq_some_iff.mp ho).1

theorem Waiting.of_cons {i : ℕ} (h : Waiting orders (i :: todo)) : Waiting orders todo :=
  ⟨(List.nodup_cons.mp h.1).2, fun j hj => h.2 j (List.mem_cons_of_mem _ hj)⟩

theorem sameAt_append (h : Waiting orders todo) (added : List SimulatedOrder) :
    SameAt orders (orders ++ added) todo :=
  fun _ hi => List.getElem?_append_left (h.lt_length hi)

theorem sameAt_set {i : ℕ} (h : Waiting orders (i :: todo)) (o : SimulatedOrder) :
    SameAt orders (orders.set i o) todo := by
  intro j hj
  have hne : i ≠ j := by
    rintro rfl
    exact (List.nodup_cons.mp h.1).1 hj
  exact List.getElem?_set_ne hne

/-- Cancelling the open stops leaves the unmanaged positions as they are. -/
theorem sameAt_cancelled (h : Unmanaged orders todo) (t : Instant) :
    SameAt orders (orders.map fun o => if o.status == .open && o.isEngineStop then
      o.moved .cancelled t none else o) todo := by
  intro i hi
  obtain ⟨o, ho, hstop⟩ := h i hi
  rw [List.getElem?_map, ho]
  simp [hstop]

end

/-! ### The invariant of the walk -/

section

variable {ctx : DecimalContext} {hash : String → RawLedgerEntry → String}
variable {σ : Type} {strategy : Strategy σ} {config : BacktestConfig} {snapshot : DatasetSnapshot}

/-- Booking a fill leaves the orders still to be visited as they are. -/
theorem bookFill_sameAt {s s' : EngineState σ} {candle : Candle} {idx i : ℕ} {todo : List ℕ}
    {o : SimulatedOrder} {fill : Fill} (hwait : Waiting s.orders (i :: todo))
    (htail : Unmanaged s.orders todo)
    (book : bookFill ctx hash config candle idx s i o fill = .ok s') :
    SameAt s.orders s'.orders todo := by
  obtain ⟨mutation, filled, -, -, -, hreconcile, -⟩ := bookFill_cases book
  obtain ⟨decision, added, -, horders, -⟩ := reconcileStopLoss_cases hreconcile
  have hset := sameAt_set hwait filled
  have hwait' := hwait.of_cons.of_same hset
  have hcancelled := sameAt_cancelled (Unmanaged.of_same htail hset) candle.openTime
  have happend := sameAt_append (hwait'.of_same hcancelled) added
  rw [← horders] at happend
  intro j hj
  rw [happend j hj, hcancelled j hj, hset j hj]

/-- **The invariant of the walk**: the orders to be visited are open, and only the next one can
be the engine's stop. -/
def EnginePoint.Walks : EnginePoint σ → Prop
  | .filling _ s todo => Waiting s.orders todo ∧ Unmanaged s.orders todo.tail
  | .telling _ s todo _ _ => Waiting s.orders todo ∧ Unmanaged s.orders todo
  | _ => True

theorem Unmanaged.tail {orders : List SimulatedOrder} {todo : List ℕ} (h : Unmanaged orders todo) :
    Unmanaged orders todo.tail :=
  fun i hi => h i (List.mem_of_mem_tail hi)

theorem EngineStep.walks {p q : EnginePoint σ} (hprotected : p.Protected ctx config) (hp : p.Walks)
    (h : EngineStep ctx hash strategy config snapshot p q) : q.Walks := by
  cases h with
  | started answer => trivial
  | warm admitted early ask => trivial
  | warmed answer => trivial
  | @enter s s₀ s₁ candle regime admitted evaluated submit =>
    have hone : (openStops s₁.orders).length ≤ 1 := by
      have hstep : EngineStep ctx hash strategy config snapshot (.between s) _ :=
        .enter admitted evaluated submit
      exact Protection.length_le (hstep.protected hprotected)
    exact ⟨eligibleOrderPositions_waiting _ _, eligibleOrderPositions_tail _ hone⟩
  | pass unfilled visit =>
    obtain ⟨hwait, htail⟩ := hp
    rcases visitOrder_pass unfilled visit with rfl | ⟨o, status, t, -, -, -, hmove⟩
    · exact ⟨hwait.of_cons, Unmanaged.tail htail⟩
    · simp only [transitionAt, bind_eq_ok, pure, Except.pure, Except.ok.injEq] at hmove
      obtain ⟨o', -, rfl⟩ := hmove
      have hsame := sameAt_set hwait o'
      exact ⟨hwait.of_cons.of_same hsame, (Unmanaged.of_same htail hsame).tail⟩
  | @fill c s s' i todo o fill context attempt book ask =>
    obtain ⟨hwait, htail⟩ := hp
    have hsame := bookFill_sameAt hwait htail book
    exact ⟨hwait.of_cons.of_same hsame, Unmanaged.of_same htail hsame⟩
  | told answer =>
    obtain ⟨hwait, hrest⟩ := hp
    obtain ⟨added, st, -, rfl⟩ := answerFill_cases answer
    have hsame := sameAt_append hwait added
    exact ⟨hwait.of_same hsame, (hrest.of_same hsame).tail⟩
  | close mark ask => trivial
  | closed answer => trivial

/-- **Every order is still open when it is visited.** -/
theorem Reached.walks {p : EnginePoint σ} (h : Reached ctx hash strategy config snapshot p) :
    p.Walks := by
  have hboth : p.Protected ctx config ∧ p.Walks := by
    refine Reached.induct (P := fun p => p.Protected ctx config ∧ p.Walks)
      (fun s context hopen => ?_) (fun p q hp hstep => ?_) h
    · have hstart : Reached ctx hash strategy config snapshot (.starting s context) :=
        ⟨s, context, hopen, .refl⟩
      exact ⟨hstart.protected, trivial⟩
    · exact ⟨hstep.protected hp.1, hstep.walks hp.1 hp.2⟩
  exact hboth.2

end

end Backtesting
end DryTrade
