import Mathlib.Tactic

/-!
# Raised exceptions

A function that may raise returns `Except Failure`; a failure is the class of the
exception together with its text.  Classes whose constructor is called without
an argument carry a default text.
-/

namespace DryTrade

universe u

/-- The exception classes raised by the modelled code. -/
inductive FailureKind
  | value
  | invalidIndicatorInput
  | snapshotInvalid
  | snapshotChanged
  | strategyFailure
  | invalidOrderIntent
  | insufficientCash
  | insufficientPosition
  | maximumCandlesExceeded
  | maximumEventsExceeded
  | backtestResultCorrupt
  | unsupportedBacktestMarket
  | marketDataInconsistency
  | marketDataStorage
  | invalidDataRange
  | invalidPaperSession
  | paperSessionCorrupt
  | paperSessionVerification
  | os
  | assertion
  | lookup
  | invalidOperation
  deriving DecidableEq, Repr

/-- The `default_message` of a class; a plain `ValueError`, an `OSError`, a `LookupError`, a failed
`assert` or a decimal `InvalidOperation` has none. -/
def FailureKind.defaultMessage : FailureKind → String
  | .value => ""
  | .invalidIndicatorInput => ""
  | .snapshotInvalid => "O snapshot solicitado é inválido."
  | .snapshotChanged => "O snapshot mudou durante o backtest."
  | .strategyFailure => "A estratégia falhou durante o backtest."
  | .invalidOrderIntent => "A intenção de ordem é inválida."
  | .insufficientCash => "O caixa cotado é insuficiente para a ordem."
  | .insufficientPosition => "A posição base é insuficiente para a ordem."
  | .maximumCandlesExceeded => "O backtest excede o limite seguro de candles."
  | .maximumEventsExceeded => "O backtest excedeu o limite seguro de eventos."
  | .backtestResultCorrupt => "Os artefatos do backtest estão corrompidos."
  | .unsupportedBacktestMarket => "O mercado solicitado não é suportado pelo backtest."
  | .marketDataInconsistency => "Os dados de mercado apresentam inconsistências."
  | .marketDataStorage => "Não foi possível persistir o dataset de mercado."
  | .invalidDataRange => "O intervalo de dados de mercado é inválido."
  | .invalidPaperSession => "A configuração da sessão de paper trading é inválida."
  | .paperSessionCorrupt => "O estado persistido da sessão de paper trading está corrompido."
  | .paperSessionVerification => "A sessão de paper trading não pôde ser verificada."
  | .os => ""
  | .assertion => ""
  | .lookup => ""
  | .invalidOperation => ""

/-- One raised exception. -/
structure Failure where
  kind : FailureKind
  message : String
  deriving DecidableEq, Repr

/-- `raise Class(message)`. -/
def FailureKind.raiseWith {α : Type*} (kind : FailureKind) (message : String) : Except Failure α :=
  .error ⟨kind, message⟩

/-- `raise Class()`. -/
def FailureKind.raise {α : Type*} (kind : FailureKind) : Except Failure α :=
  kind.raiseWith kind.defaultMessage

/-- `if not condition: raise Class(message)`. -/
def FailureKind.unless (kind : FailureKind) (condition : Bool) (message : String) :
    Except Failure Unit :=
  if condition then .ok () else kind.raiseWith message

/-- `if not condition: raise Class()`. -/
def FailureKind.require (kind : FailureKind) (condition : Bool) : Except Failure Unit :=
  kind.unless condition kind.defaultMessage

@[simp] theorem FailureKind.unless_eq_ok {kind : FailureKind} {condition : Bool} {message : String}
    {u : Unit} : kind.unless condition message = .ok u ↔ condition = true := by
  unfold FailureKind.unless FailureKind.raiseWith
  cases condition <;> simp

@[simp] theorem FailureKind.require_eq_ok {kind : FailureKind} {condition : Bool} {u : Unit} :
    kind.require condition = .ok u ↔ condition = true := FailureKind.unless_eq_ok

@[simp] theorem FailureKind.raiseWith_ne_ok {α : Type*} {kind : FailureKind} {message : String}
    {a : α} : kind.raiseWith message = .ok a ↔ False := by
  simp [FailureKind.raiseWith]

@[simp] theorem FailureKind.raise_ne_ok {α : Type*} {kind : FailureKind} {a : α} :
    (kind.raise : Except Failure α) = .ok a ↔ False := by
  simp [FailureKind.raise]

/-- `if not condition: raise error`, for exceptions of any kind. -/
def require {ε : Type} (condition : Prop) [Decidable condition] (error : ε) : Except ε Unit :=
  if condition then .ok () else .error error

@[simp] theorem require_eq_ok {ε : Type} {condition : Prop} [Decidable condition] {error : ε}
    {u : Unit} : require condition error = .ok u ↔ condition := by
  unfold require
  split <;> simp [*]

/-- A sequenced computation returns exactly when both of its parts do. -/
theorem bind_eq_ok {ε : Type*} {α β : Type u} {x : Except ε α} {f : α → Except ε β} {b : β} :
    (x >>= f) = .ok b ↔ ∃ a, x = .ok a ∧ f a = .ok b := by
  cases x with
  | error e => simp [bind, Except.bind]
  | ok a => simp [bind, Except.bind]

/-- A computation returns when `isOk` says so. -/
theorem isOk_iff {ε α : Type*} {x : Except ε α} : x.isOk = true ↔ ∃ a, x = .ok a := by
  cases x <;> simp [Except.isOk, Except.toBool]

/-- A computation whose result passes a test returns one that does. -/
theorem exists_of_map_eq_true {ε α : Type*} {x : Except ε α} {p : α → Bool}
    (h : x.map p = .ok true) : ∃ a, x = .ok a ∧ p a = true := by
  cases x with
  | error e => cases h
  | ok a => exact ⟨a, rfl, Except.ok.inj h⟩

/-- `ok a >>= f` runs `f`. -/
theorem ok_bind {ε : Type*} {α β : Type u} {a : α} {f : α → Except ε β} :
    ((Except.ok a : Except ε α) >>= f) = f a := rfl

end DryTrade
