import DryTrade.CanonicalJson
import DryTrade.DecimalLayout
import DryTrade.Strategies.Domain

/-!
# Stored strategy parameters

The parameters of a strategy are stored as a document: for each one its name, its kind and a scalar
that JSON has.  A decimal is stored as its canonical text; the kind tells it from a string.

## Main definitions

* `StoredStrategyParameter` — one entry of a document.
* `encodeStrategyParameters`, `decodeStrategyParameters` — parameters and their document.
* `documentToJson`, `documentFromJson` — a document and its JSON mapping.
* `strategyParameterChecksum` — the digest of a document.
-/

namespace DryTrade
namespace Strategies

open Backtesting

/-! ### Documents -/

/-- `StoredParameterScalar`. -/
inductive StoredScalar
  | null
  | bool (b : Bool)
  | int (n : ℤ)
  | str (s : String)
  deriving DecidableEq

def StrategyParameterKind.value : StrategyParameterKind → String
  | .boolean => "boolean"
  | .integer => "integer"
  | .decimal => "decimal"
  | .string => "string"

/-- `StrategyParameterKind(text)`. -/
def StrategyParameterKind.ofValue (text : String) : Option StrategyParameterKind :=
  [.boolean, .integer, .decimal, .string].find? fun kind => kind.value == text

/-- `_validate_stored_scalar`. -/
def validStored : StrategyParameterKind → StoredScalar → Bool
  | .boolean, .bool _ => true
  | .integer, .int _ => true
  | .decimal, .str s => s != ""
  | .string, .str s => s != ""
  | _, _ => false

/-- One stored parameter. -/
structure StoredStrategyParameter where
  name : String
  kind : StrategyParameterKind
  value : StoredScalar
  name_safe : isFillToken name = true
  value_valid : validStored kind value = true

/-- `StoredStrategyParameter(...)`. -/
def StoredStrategyParameter.construct (rawName : String) (kind : StrategyParameterKind)
    (value : StoredScalar) : Except StrategyError StoredStrategyParameter :=
  if hname : isFillToken (strip rawName) = true then
    if hvalue : validStored kind value = true then
      .ok ⟨strip rawName, kind, value, hname, hvalue⟩
    else .error ⟨.invalidStrategyDefinition,
      "O valor persistido não corresponde ao tipo declarado."⟩
  else .error ⟨.invalidStrategyDefinition, "O nome do parâmetro persistido é inválido."⟩

abbrev StrategyParameterDocument := List StoredStrategyParameter

/-- `_normalize_document`: names are unique, and sorted. -/
def normalizeDocument (document : StrategyParameterDocument) :
    Except StrategyError StrategyParameterDocument := do
  require (document.map (·.name)).Nodup
    ⟨.invalidStrategyDefinition, "Os parâmetros persistidos devem ser únicos."⟩
  return sortBy (·.name.toList) document

/-! ### Parameters and their document -/

/-- `StrategyDefinitionCompatibilityError()`. -/
def incompatible : StrategyError :=
  ⟨.strategyDefinitionCompatibility,
    "A definição de estratégia não é compatível com esta versão do sistema."⟩

/-- The error of a decimal whose text is too long. -/
def decimalTooLong : StrategyError :=
  ⟨.invalidStrategyDefinition, "O parâmetro Decimal excede o limite de 128 caracteres."⟩

/-- `specs[name]`. -/
def StrategyPluginDescriptor.specOf (descriptor : StrategyPluginDescriptor) (name : String) :
    Except StrategyError StrategyParameterSpec :=
  match descriptor.parameters.find? fun spec => spec.name == name with
  | some spec => .ok spec
  | none => .error ⟨.key, name⟩

/-- What is stored of a value. -/
def storedValue (kind : StrategyParameterKind) (value : ParameterValue Decimal) :
    Except StrategyError StoredScalar :=
  match kind, value with
  | .decimal, .decimal d => do
    let text ← d.boundedText decimalTooLong
    return .str (String.ofList text)
  | .decimal, _ =>
    .error ⟨.invalidStrategyDefinition, "O parâmetro Decimal normalizado é inválido."⟩
  | _, .none => .ok .null
  | _, .bool b => .ok (.bool b)
  | _, .int n => .ok (.int n)
  | _, .str s => .ok (.str s)
  | _, .decimal _ => .error ⟨.invalidStrategyDefinition,
    "O parâmetro normalizado possui um tipo persistível inválido."⟩

/-- The entry of one parameter. -/
def StrategyPluginDescriptor.storedEntry (descriptor : StrategyPluginDescriptor)
    (q : String × ParameterValue Decimal) : Except StrategyError StoredStrategyParameter := do
  let spec ← descriptor.specOf q.1
  let stored ← storedValue spec.kind q.2
  StoredStrategyParameter.construct q.1 spec.kind stored

def encodeStrategyParameters (descriptor : StrategyPluginDescriptor)
    (parameters : StrategyParameters) : Except StrategyError StrategyParameterDocument := do
  require (parameters.map Prod.fst = sortedNames (descriptor.parameters.map (·.name)))
    ⟨.invalidStrategyDefinition, "Os parâmetros normalizados estão incompletos."⟩
  parameters.mapM descriptor.storedEntry

/-- The value of what is stored. -/
def decodedValue (kind : StrategyParameterKind) (stored : StoredScalar) :
    Except StrategyError (ParameterValue Decimal) :=
  match kind, stored with
  | .decimal, .str text =>
    match Decimal.ofText text.toList with
    | some d => .ok (.decimal d)
    | none => .error incompatible
  | .decimal, _ => .error incompatible
  | _, .null => .ok .none
  | _, .bool b => .ok (.bool b)
  | _, .int n => .ok (.int n)
  | _, .str s => .ok (.str s)

/-- The parameter of one entry. -/
def StrategyPluginDescriptor.decodedEntry (descriptor : StrategyPluginDescriptor)
    (item : StoredStrategyParameter) : Except StrategyError (String × RawValue) := do
  let spec ← descriptor.specOf item.name
  require (item.kind = spec.kind) incompatible
  let value ← decodedValue item.kind item.value
  return (item.name, .value value)

def decodeStrategyParameters (descriptor : StrategyPluginDescriptor)
    (document : StrategyParameterDocument) : Except StrategyError StrategyParameters := do
  let normalized ← normalizeDocument document
  require (normalized.map (·.name) = sortedNames (descriptor.parameters.map (·.name))) incompatible
  let raw ← normalized.mapM descriptor.decodedEntry
  (descriptor.normalizeParameters raw).mapError fun _ => incompatible

/-! ### JSON -/

def StoredScalar.json : StoredScalar → Json
  | .null => .null
  | .bool b => .bool b
  | .int n => .int n
  | .str s => .str s

/-- A JSON scalar. -/
def StoredScalar.ofJson : Json → Option StoredScalar
  | .null => some .null
  | .bool b => some (.bool b)
  | .int n => some (.int n)
  | .str s => some (.str s)
  | _ => none

/-- `canonical_payload`. -/
def StoredStrategyParameter.canonicalPayload (item : StoredStrategyParameter) : Json :=
  .obj [("kind", .str item.kind.value), ("value", item.value.json)]

/-- `strategy_parameter_document_to_json`. -/
def documentToJson (document : StrategyParameterDocument) :
    Except StrategyError (List (String × Json)) := do
  let normalized ← normalizeDocument document
  return normalized.map fun item => (item.name, item.canonicalPayload)

/-- `strategy_parameter_checksum`: the digest of the mapping, its keys sorted. -/
def strategyParameterChecksum (sha256 : List Char → String)
    (document : StrategyParameterDocument) : Except StrategyError String := do
  let payload ← documentToJson document
  return sha256 (Json.obj payload).encode

/-- The entry of a JSON mapping. -/
def entryFromJson (entry : String × Json) : Except StrategyError StoredStrategyParameter :=
  match entry.2 with
  | .obj fields =>
    match fields.lookup "kind", fields.lookup "value" with
    | some rawKind, some rawValue =>
      if fields.all fun f => f.1 == "kind" || f.1 == "value" then
        match rawKind with
        | .str text =>
          match StrategyParameterKind.ofValue text with
          | some kind =>
            match StoredScalar.ofJson rawValue with
            | some value => StoredStrategyParameter.construct entry.1 kind value
            | none => .error ⟨.invalidStrategyDefinition, "O valor JSON do parâmetro é inválido."⟩
          | none =>
            .error ⟨.invalidStrategyDefinition, "O tipo JSON do parâmetro é desconhecido."⟩
        | _ => .error ⟨.invalidStrategyDefinition, "O tipo JSON do parâmetro é inválido."⟩
      else .error ⟨.invalidStrategyDefinition, "A entrada JSON de parâmetro é inválida."⟩
    | _, _ => .error ⟨.invalidStrategyDefinition, "A entrada JSON de parâmetro é inválida."⟩
  | _ => .error ⟨.invalidStrategyDefinition, "O documento JSON de parâmetros é inválido."⟩

/-- `strategy_parameter_document_from_json`. -/
def documentFromJson (payload : List (String × Json)) :
    Except StrategyError StrategyParameterDocument := do
  let document ← payload.mapM entryFromJson
  normalizeDocument document

end Strategies
end DryTrade
