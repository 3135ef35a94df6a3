import DryTrade.Backtesting.LedgerRounding
import DryTrade.CanonicalJson
import DryTrade.MarketData.IsoTime
import DryTrade.MarketData.Transaction
import DryTrade.NormalizedDecimal

/-!
# The hash chain of the ledger

The hash of an entry is taken over the hash before it and the canonical JSON of the entry, in
which every decimal is written after it is rounded to the 28 digits of the context.  A verified
ledger is therefore fixed by its last hash, up to that rounding.

## Main definitions

* `RawLedgerEntry.payload`, `hashedText` — what is hashed.
* `verifyLedger` — recomputing the chain and the balances.
* `RawLedgerEntry.rounded` — an entry with its decimals rounded.

## Main results

* `hashedText_injective` — what is hashed tells the entry, after rounding.
* `verifyLedger_finalHash_iff` — equal last hashes mean equal entries, after rounding.
* `tamperEvident_iff` — when equal last hashes mean equal entries.
-/

namespace DryTrade
namespace Backtesting

open MarketData

/-! ### What is hashed -/

def LedgerEntryType.value : LedgerEntryType → String
  | .initialCapital => "INITIAL_CAPITAL"
  | .orderReserved => "ORDER_RESERVED"
  | .orderReleased => "ORDER_RELEASED"
  | .buyFill => "BUY_FILL"
  | .sellFill => "SELL_FILL"
  | .fee => "FEE"
  | .realizedPnl => "REALIZED_PNL"
  | .markToMarket => "MARK_TO_MARKET"
  | .finalState => "FINAL_STATE"

theorem LedgerEntryType.value_injective : Function.Injective LedgerEntryType.value := by
  intro a b h
  cases a <;> cases b <;> first | rfl | exact absurd h (by decide)

/-- `_decimal`. -/
def normalizedText (value : ℚ) : String :=
  if value = 0 then "0" else String.ofList (Decimal.normalize 28 value).fixed

/-- The canonical JSON of an entry, its fields in the order of their names. -/
def RawLedgerEntry.payload (e : RawLedgerEntry) : Json :=
  .obj [("base_balance", .str (normalizedText e.baseBalance)),
    ("base_delta", .str (normalizedText e.baseDelta)),
    ("candle_index", .int e.candleIndex),
    ("entry_type", .str e.entryType.value),
    ("event_time", .str (String.ofList (isoformat e.eventTime))),
    ("fee", .str (normalizedText e.fee)),
    ("fill_id", .ofOption .str e.fillId),
    ("notional", .str (normalizedText e.notional)),
    ("order_id", .ofOption .str e.orderId),
    ("quote_balance", .str (normalizedText e.quoteBalance)),
    ("quote_delta", .str (normalizedText e.quoteDelta)),
    ("realized_pnl", .str (normalizedText e.realizedPnl)),
    ("reference_price", .ofOption (.str <| normalizedText ·) e.referencePrice),
    ("sequence", .int e.sequence)]

/-- The hash before an entry, and its JSON. -/
def hashedText (previous : String) (e : RawLedgerEntry) : String :=
  previous ++ String.ofList e.payload.encode

/-- `calculate_entry_hash`. -/
def calculateEntryHash (sha256 : String → String) (previous : String) (e : RawLedgerEntry) :
    Except Failure String := do
  FailureKind.value.unless (isSha256 previous) "previous_hash must be one lowercase SHA-256 digest"
  return sha256 (hashedText previous e)

/-! ### Verifying a ledger -/

/-- What the verification carries from entry to entry. -/
structure LedgerWalk where
  previousHash : String
  quoteBalance : ℚ
  baseBalance : ℚ
  seenHashes : List String

structure LedgerVerification where
  entryCount : ℕ
  finalQuoteBalance : ℚ
  finalBaseBalance : ℚ
  finalHash : String
  deriving DecidableEq, Repr

section

variable (sha256 : String → String)

/-- One entry against the ones before it. -/
def verifyEntry (expectedSequence : ℕ) (walk : LedgerWalk) (entry : LedgerEntry) :
    Except Failure LedgerWalk := do
  FailureKind.backtestResultCorrupt.unless
    (entry.sequence == expectedSequence && entry.previousHash == walk.previousHash)
    "A sequência do ledger é inválida."
  FailureKind.backtestResultCorrupt.unless (!walk.seenHashes.contains entry.entryHash)
    "O ledger contém entrada duplicada."
  let hash ← calculateEntryHash sha256 walk.previousHash entry.toRawLedgerEntry
  FailureKind.backtestResultCorrupt.unless (hash == entry.entryHash)
    "A cadeia de hash do ledger é inválida."
  let quoteBalance := DecimalContext.default.add walk.quoteBalance entry.quoteDelta
  let baseBalance := DecimalContext.default.add walk.baseBalance entry.baseDelta
  FailureKind.backtestResultCorrupt.unless
    (quoteBalance == entry.quoteBalance && baseBalance == entry.baseBalance)
    "Os saldos do ledger são inválidos."
  FailureKind.backtestResultCorrupt.unless (decide (0 ≤ quoteBalance ∧ 0 ≤ baseBalance))
    "O ledger contém saldo negativo."
  return ⟨entry.entryHash, quoteBalance, baseBalance, entry.entryHash :: walk.seenHashes⟩

/-- Every entry, in order. -/
def verifyEntries : ℕ → LedgerWalk → List LedgerEntry → Except Failure LedgerWalk
  | _, walk, [] => .ok walk
  | expectedSequence, walk, entry :: entries => do
    let walk ← verifyEntry sha256 expectedSequence walk entry
    verifyEntries (expectedSequence + 1) walk entries

/-- `verify_ledger`. -/
def verifyLedger (entries : List LedgerEntry) : Except Failure LedgerVerification := do
  let walk ← verifyEntries sha256 1 ⟨zeroHash, 0, 0, []⟩ entries
  return ⟨entries.length, walk.quoteBalance, walk.baseBalance, walk.previousHash⟩

end

/-! ### What a hash tells -/

/-- An entry with its decimals rounded. -/
def RawLedgerEntry.rounded (e : RawLedgerEntry) : RawLedgerEntry :=
  { e with
    quoteDelta := DecimalContext.default.round e.quoteDelta
    baseDelta := DecimalContext.default.round e.baseDelta
    fee := DecimalContext.default.round e.fee
    realizedPnl := DecimalContext.default.round e.realizedPnl
    quoteBalance := DecimalContext.default.round e.quoteBalance
    baseBalance := DecimalContext.default.round e.baseBalance
    notional := DecimalContext.default.round e.notional
    referencePrice := e.referencePrice.map DecimalContext.default.round }

section

variable {sha256 : String → String} {p p' : String} {e e' : RawLedgerEntry} {q q' : ℚ}

theorem normalizedText_eq (q : ℚ) :
    normalizedText q = String.ofList (Decimal.rounded 28 q).text := by
  unfold normalizedText
  split
  · next h =>
    subst h
    have hzero : (Decimal.rounded 28 0).coefficient = 0 := by
      rw [← Decimal.value_eq_zero_iff, Decimal.value_rounded, roundSignificant_zero]
    rw [Decimal.text, if_pos hzero]
  · next h => rw [Decimal.fixed_normalize (by norm_num) h]

/-- Two numbers are written alike exactly when they round alike. -/
theorem normalizedText_eq_iff : normalizedText q = normalizedText q' ↔
    DecimalContext.default.round q = DecimalContext.default.round q' := by
  rw [normalizedText_eq, normalizedText_eq, String.ofList_inj, Decimal.text_eq_iff,
    Decimal.value_rounded, Decimal.value_rounded]
  rfl

theorem map_normalizedText_eq_iff {a b : Option ℚ} : a.map normalizedText = b.map normalizedText ↔
    a.map DecimalContext.default.round = b.map DecimalContext.default.round := by
  cases a <;> cases b <;> simp [normalizedText_eq_iff]

/-- **The JSON of an entry** tells it, after rounding. -/
theorem RawLedgerEntry.payload_eq_iff : e.payload = e'.payload ↔ e.rounded = e'.rounded := by
  have hids : ∀ {a b : Option String}, Json.ofOption .str a = Json.ofOption .str b ↔ a = b :=
    fun {a b} => by simpa using Json.ofOption_str_eq_iff (f := id) (a := a) (b := b)
  simp only [payload, rounded, Json.obj.injEq, List.cons.injEq, Prod.mk.injEq, Json.str.injEq,
    Json.int.injEq, true_and, and_true, normalizedText_eq_iff, hids, Json.ofOption_str_eq_iff,
    map_normalizedText_eq_iff, LedgerEntryType.value_injective.eq_iff, String.ofList_inj,
    isoformat_injective.eq_iff, Nat.cast_inj, RawLedgerEntry.mk.injEq]
  tauto

theorem length_of_isSha256 (h : isSha256 p = true) : p.toList.length = 64 := by
  unfold isSha256 at h
  rw [Bool.and_eq_true, beq_iff_eq] at h
  exact h.1

/-- **What is hashed** tells the hash before the entry, and the entry after rounding. -/
theorem hashedText_injective (hp : isSha256 p = true) (hp' : isSha256 p' = true)
    (h : hashedText p e = hashedText p' e') : p = p' ∧ e.rounded = e'.rounded := by
  have hlist := congrArg String.toList h
  rw [hashedText, hashedText, String.toList_append, String.toList_append, String.toList_ofList,
    String.toList_ofList] at hlist
  obtain ⟨hprevious, hpayload⟩ := List.append_inj hlist
    ((length_of_isSha256 hp).trans (length_of_isSha256 hp').symm)
  exact ⟨String.toList_inj.mp hprevious,
    RawLedgerEntry.payload_eq_iff.mp (Json.encode_injective hpayload)⟩

theorem hashedText_congr (h : e.rounded = e'.rounded) : hashedText p e = hashedText p e' := by
  rw [hashedText, hashedText, RawLedgerEntry.payload_eq_iff.mpr h]

end

/-! ### What a verified ledger tells -/

section

variable {sha256 : String → String} {n n' : ℕ} {w w' x x' : LedgerWalk} {e e' : LedgerEntry}
  {l l' : List LedgerEntry}

/-- **One verified entry**: its number, and the hash it leaves. -/
theorem verifyEntry_eq_ok (h : verifyEntry sha256 n w e = .ok w') : e.sequence = n ∧
    isSha256 w.previousHash = true ∧
      w'.previousHash = sha256 (hashedText w.previousHash e.toRawLedgerEntry) := by
  simp only [verifyEntry, calculateEntryHash, bind_eq_ok, FailureKind.unless_eq_ok, exists_const,
    pure, Except.pure, Except.ok.injEq, Bool.and_eq_true, beq_iff_eq] at h
  obtain ⟨⟨hsequence, -⟩, -, hash, ⟨hsha, rfl⟩, hhash, -, -, rfl⟩ := h
  exact ⟨hsequence, hsha, hhash.symm⟩

/-- **Equal last hashes** after equally many entries: the entries agree after rounding. -/
theorem verifyEntries_injective (hsha : Function.Injective sha256)
    (h : verifyEntries sha256 n w l = .ok x) (h' : verifyEntries sha256 n' w' l' = .ok x')
    (hlen : l.length = l'.length) (hhash : x.previousHash = x'.previousHash) :
    w.previousHash = w'.previousHash ∧
      l.map (·.toRawLedgerEntry.rounded) = l'.map (·.toRawLedgerEntry.rounded) := by
  induction l generalizing n n' w w' l' with
  | nil =>
    obtain rfl := List.eq_nil_of_length_eq_zero hlen.symm
    cases h
    cases h'
    exact ⟨hhash, rfl⟩
  | cons e l ih =>
    cases l' with
    | nil => cases hlen
    | cons e' l' =>
      simp only [verifyEntries, bind_eq_ok] at h h'
      obtain ⟨y, hy, h⟩ := h
      obtain ⟨y', hy', h'⟩ := h'
      obtain ⟨hprevious, hrest⟩ := ih h h' (Nat.succ_injective hlen)
      obtain ⟨-, hp, hnext⟩ := verifyEntry_eq_ok hy
      obtain ⟨-, hp', hnext'⟩ := verifyEntry_eq_ok hy'
      rw [hnext, hnext'] at hprevious
      obtain ⟨hfirst, hentry⟩ := hashedText_injective hp hp' (hsha hprevious)
      exact ⟨hfirst, by rw [List.map_cons, List.map_cons, hentry, hrest]⟩

/-- Entries that agree after rounding leave equal hashes. -/
theorem verifyEntries_congr (h : verifyEntries sha256 n w l = .ok x)
    (h' : verifyEntries sha256 n' w' l' = .ok x') (hfirst : w.previousHash = w'.previousHash)
    (hmap : l.map (·.toRawLedgerEntry.rounded) = l'.map (·.toRawLedgerEntry.rounded)) :
    x.previousHash = x'.previousHash := by
  induction l generalizing n n' w w' l' with
  | nil =>
    obtain rfl := List.map_eq_nil_iff.mp hmap.symm
    cases h
    cases h'
    exact hfirst
  | cons e l ih =>
    cases l' with
    | nil => cases hmap
    | cons e' l' =>
      simp only [verifyEntries, bind_eq_ok] at h h'
      obtain ⟨y, hy, h⟩ := h
      obtain ⟨y', hy', h'⟩ := h'
      rw [List.map_cons, List.map_cons, List.cons.injEq] at hmap
      obtain ⟨-, -, hnext⟩ := verifyEntry_eq_ok hy
      obtain ⟨-, -, hnext'⟩ := verifyEntry_eq_ok hy'
      refine ih h h' ?_ hmap.2
      rw [hnext, hnext', hfirst, hashedText_congr hmap.1]

/-- The last hash is that of an entry numbered by the length of the ledger. -/
theorem verifyEntries_last (h : verifyEntries sha256 n w l = .ok x) (hne : l ≠ []) :
    ∃ p, ∃ e : LedgerEntry, isSha256 p = true ∧ e.sequence + 1 = n + l.length ∧
      x.previousHash = sha256 (hashedText p e.toRawLedgerEntry) := by
  induction l generalizing n w with
  | nil => exact absurd rfl hne
  | cons e l ih =>
    simp only [verifyEntries, bind_eq_ok] at h
    obtain ⟨y, hy, h⟩ := h
    obtain ⟨hsequence, hp, hnext⟩ := verifyEntry_eq_ok hy
    cases l with
    | nil =>
      cases h
      exact ⟨_, e, hp, by rw [hsequence]; rfl, hnext⟩
    | cons e' l =>
      obtain ⟨p, last, hlast, hcount, hfinal⟩ := ih h (List.cons_ne_nil _ _)
      refine ⟨p, last, hlast, ?_, hfinal⟩
      rw [hcount, List.length_cons, List.length_cons, List.length_cons]
      omega

variable {v v' : LedgerVerification}

theorem verifyLedger_eq_ok (h : verifyLedger sha256 l = .ok v) :
    ∃ x, verifyEntries sha256 1 ⟨zeroHash, 0, 0, []⟩ l = .ok x ∧ v.finalHash = x.previousHash := by
  simp only [verifyLedger, bind_eq_ok, pure, Except.pure, Except.ok.injEq] at h
  obtain ⟨x, hx, rfl⟩ := h
  exact ⟨x, hx, rfl⟩

/-- **Equal last hashes** of ledgers of one length mean equal entries, after rounding. -/
theorem verifyLedger_finalHash_iff (hsha : Function.Injective sha256)
    (h : verifyLedger sha256 l = .ok v) (h' : verifyLedger sha256 l' = .ok v')
    (hlen : l.length = l'.length) : v.finalHash = v'.finalHash ↔
      l.map (·.toRawLedgerEntry.rounded) = l'.map (·.toRawLedgerEntry.rounded) := by
  obtain ⟨x, hx, hv⟩ := verifyLedger_eq_ok h
  obtain ⟨x', hx', hv'⟩ := verifyLedger_eq_ok h'
  rw [hv, hv']
  exact ⟨fun heq => (verifyEntries_injective hsha hx hx' hlen heq).2,
    verifyEntries_congr hx hx' rfl⟩

/-- A last hash tells the length of a ledger that is not empty. -/
theorem length_eq_of_finalHash_eq (hsha : Function.Injective sha256)
    (h : verifyLedger sha256 l = .ok v) (h' : verifyLedger sha256 l' = .ok v') (hne : l ≠ [])
    (hne' : l' ≠ []) (heq : v.finalHash = v'.finalHash) : l.length = l'.length := by
  obtain ⟨x, hx, hv⟩ := verifyLedger_eq_ok h
  obtain ⟨x', hx', hv'⟩ := verifyLedger_eq_ok h'
  obtain ⟨p, e, hp, hcount, hlast⟩ := verifyEntries_last hx hne
  obtain ⟨p', e', hp', hcount', hlast'⟩ := verifyEntries_last hx' hne'
  rw [hv, hv', hlast, hlast'] at heq
  have hentry := (hashedText_injective hp hp' (hsha heq)).2
  have hsequence := congrArg RawLedgerEntry.sequence hentry
  change e.sequence = e'.sequence at hsequence
  omega

/-- **Verified ledgers are tamper evident up to rounding.**  Two of one length with equal last
hashes are equal entry by entry exactly when they do not differ in digits that rounding drops; and
equal last hashes are of ledgers of one length. -/
theorem tamperEvident_iff (hsha : Function.Injective sha256)
    (h : verifyLedger sha256 l = .ok v) (h' : verifyLedger sha256 l' = .ok v') :
    (l.length = l'.length →
      ((v.finalHash = v'.finalHash → l.map (·.toRawLedgerEntry) = l'.map (·.toRawLedgerEntry)) ↔
        (l.map (·.toRawLedgerEntry.rounded) = l'.map (·.toRawLedgerEntry.rounded) →
          l.map (·.toRawLedgerEntry) = l'.map (·.toRawLedgerEntry)))) ∧
      (l ≠ [] → l' ≠ [] → v.finalHash = v'.finalHash → l.length = l'.length) :=
  ⟨fun hlen => imp_congr_left (verifyLedger_finalHash_iff hsha h h' hlen),
    fun hne hne' => length_eq_of_finalHash_eq hsha h h' hne hne'⟩

end

/-! ### Capital with too many digits -/

/-- The digest of the entry that opens a ledger with a capital of one. -/
def capitalDigest : String := "e55dc2c732e96e0090a56515aa796415a71c5c14bc954e592b7d5e52255eaac8"

/-- The entry that opens a ledger. -/
def capitalEntry (amount : ℚ) : LedgerEntry :=
  nextLedgerEntry .default (fun _ _ => capitalDigest) []
    ⟨0, -1, .initialCapital, amount, 0, 0, 0, none, none, 0, none⟩

/-- A ledger that holds its capital. -/
def capitalLedger (amount : ℚ) : List LedgerEntry := [capitalEntry amount]

/-- An injective function with the digest of that entry. -/
def capitalSha256 : String → String :=
  Equiv.swap (hashedText zeroHash (capitalEntry 1).toRawLedgerEntry) capitalDigest

/-- A capital that rounds to one opens a ledger with that digest. -/
theorem verifyLedger_capital {amount : ℚ} (h : DecimalContext.default.round amount = 1) :
    verifyLedger capitalSha256 (capitalLedger amount) = .ok ⟨1, 1, 0, capitalDigest⟩ := by
  have hzero : DecimalContext.default.round 0 = 0 := roundSignificant_zero 28
  have hone : DecimalContext.default.round 1 = 1 := by decide +kernel
  have hentry : (capitalEntry amount).toRawLedgerEntry.rounded =
      (capitalEntry 1).toRawLedgerEntry.rounded := by
    simp [capitalEntry, nextLedgerEntry, RawLedgerEntry.rounded, DecimalContext.add, h, hone]
  have hhash : calculateEntryHash capitalSha256 zeroHash (capitalEntry amount).toRawLedgerEntry =
      .ok capitalDigest := by
    have hsha : isSha256 zeroHash = true := by decide
    rw [calculateEntryHash, hsha, hashedText_congr hentry, capitalSha256, Equiv.swap_apply_left]
    rfl
  have hquote : DecimalContext.default.add 0 (capitalEntry amount).quoteDelta = 1 := by
    simpa [capitalEntry, nextLedgerEntry, DecimalContext.add] using h
  have hbase : DecimalContext.default.add 0 (capitalEntry amount).baseDelta = 0 := by
    simpa [capitalEntry, nextLedgerEntry, DecimalContext.add] using hzero
  have hquote' : (capitalEntry amount).quoteBalance = 1 := hquote
  have hbase' : (capitalEntry amount).baseBalance = 0 := hbase
  have hsequence : (capitalEntry amount).sequence = 1 := rfl
  have hprevious : (capitalEntry amount).previousHash = zeroHash := rfl
  have hdigest : (capitalEntry amount).entryHash = capitalDigest := rfl
  simp [verifyLedger, capitalLedger, verifyEntries, verifyEntry, hhash, hquote, hquote', hbase,
    hbase', hsequence, hprevious, hdigest, FailureKind.unless, bind, Except.bind, pure, Except.pure]

/-- **A capital of one and one that rounds to it** open different ledgers with one last hash. -/
theorem not_tamperEvident : ∃ sha256 : String → String, Function.Injective sha256 ∧
    ∃ l l' v v', recordInitialCapital .default (fun _ _ => capitalDigest) [] 1 0 = .ok l ∧
      recordInitialCapital .default (fun _ _ => capitalDigest) [] (1 + 1 / 10 ^ 30) 0 = .ok l' ∧
      verifyLedger sha256 l = .ok v ∧ verifyLedger sha256 l' = .ok v' ∧
      l.length = l'.length ∧ v.finalHash = v'.finalHash ∧
      l.map (·.toRawLedgerEntry) ≠ l'.map (·.toRawLedgerEntry) := by
  have hround : DecimalContext.default.round (1 + 1 / 10 ^ 30) = 1 := by decide +kernel
  refine ⟨capitalSha256, Equiv.injective _, capitalLedger 1,
    capitalLedger (1 + 1 / 10 ^ 30), _, _, ?_, ?_, verifyLedger_capital (by decide +kernel),
    verifyLedger_capital hround, rfl, rfl, ?_⟩
  · decide +kernel
  · decide +kernel
  · intro heq
    have hdelta := congrArg RawLedgerEntry.quoteDelta (List.cons.inj heq).1
    change (1 : ℚ) = 1 + 1 / 10 ^ 30 at hdelta
    norm_num at hdelta

theorem tamperEvident_iff_capital :
    ((capitalLedger 1).length = (capitalLedger (1 + 1 / 10 ^ 30)).length →
      ((capitalDigest = capitalDigest → (capitalLedger 1).map (·.toRawLedgerEntry) =
          (capitalLedger (1 + 1 / 10 ^ 30)).map (·.toRawLedgerEntry)) ↔
        ((capitalLedger 1).map (·.toRawLedgerEntry.rounded) =
            (capitalLedger (1 + 1 / 10 ^ 30)).map (·.toRawLedgerEntry.rounded) →
          (capitalLedger 1).map (·.toRawLedgerEntry) =
            (capitalLedger (1 + 1 / 10 ^ 30)).map (·.toRawLedgerEntry)))) ∧
      (capitalLedger 1 ≠ [] → capitalLedger (1 + 1 / 10 ^ 30) ≠ [] →
        capitalDigest = capitalDigest →
          (capitalLedger 1).length = (capitalLedger (1 + 1 / 10 ^ 30)).length) :=
  tamperEvident_iff (Equiv.injective _) (verifyLedger_capital (by decide +kernel))
    (verifyLedger_capital (by decide +kernel))

end Backtesting
end DryTrade
