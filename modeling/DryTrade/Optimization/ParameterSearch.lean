import DryTrade.Cartesian
import DryTrade.Strategies.Registry

/-!
# Parameter search

A search space fixes some parameters of a plugin and gives others finite sets of values.  Creating
one normalizes the values, orders them by their canonical keys and builds every combination once;
expanding it builds the combinations again and checks them against the space.

## Main definitions

* `canonicalScalarKey` — the key of a value.
* `validateSearchSpaceStructure`, `validateParameterCombination` — the checks of the contracts.
* `calculateCardinality` — the number of combinations, bounded before they are built.
* `ParameterSearchService.create`, `ParameterSearchService.expand` — a space and its combinations.
-/

namespace DryTrade
namespace Optimization

open Backtesting Strategies

/-! ### Errors -/

/-- The exception classes of a parameter search. -/
inductive SearchErrorKind
  | unknownSearchParameter
  | incompatibleSearchParameterType
  | duplicateSearchParameterValue
  | searchParameterConflict
  | emptyParameterSearchSpace
  | emptySearchParameterValues
  | invalidCombinationLimit
  | searchCardinalityExceeded
  | invalidSearchCombination
  | incompatibleSearchSpaceDocument
  | searchSpaceChecksum
  deriving DecidableEq, Repr

/-- One raised exception, of the search or of a plugin. -/
inductive SearchError
  | search (kind : SearchErrorKind) (message : String)
  | strategy (error : StrategyError)
  deriving DecidableEq, Repr

/-- `IncompatibleSearchSpaceDocumentError(message)`. -/
def documentError (message : String) : SearchError :=
  .search .incompatibleSearchSpaceDocument message

/-- `IncompatibleSearchParameterTypeError(message)`. -/
def typeError (message : String) : SearchError :=
  .search .incompatibleSearchParameterType message

/-- `StrategyPluginError` and the classes below it. -/
def isPluginError (e : StrategyError) : Bool :=
  match e.kind with
  | .invalidStrategyPlugin => true
  | .strategyPluginNotFound => true
  | .strategyParameterValidation => true
  | .strategyIndicatorCompatibility => true
  | _ => false

/-- The exceptions of a plugin that a search does not handle. -/
def ofStrategy {α : Type} (x : Except StrategyError α) : Except SearchError α :=
  x.mapError .strategy

/-! ### Values -/

/-- `MAX_CANONICAL_INTEGER_DIGITS`. -/
def maximumIntegerDigits : ℕ := 128

/-- `integer_text`. -/
def integerText (n : ℤ) : Except SearchError (List Char) :=
  if n.natAbs < 10 ^ maximumIntegerDigits then .ok (intText n)
  else .error (documentError "integer exceeds 128 canonical digits")

/-- `decimal_text`. -/
def searchDecimalText (d : Decimal) : Except SearchError (List Char) :=
  d.boundedText (documentError "Decimal canonical text exceeds 128 characters")

/-- `canonical_scalar_key`: a number for the kind, and a text. -/
def canonicalScalarKey (kind : StrategyParameterKind) (value : ParameterValue Decimal) :
    Except SearchError (ℕ ×ₗ List Char) :=
  match kind, value with
  | .boolean, .bool b => .ok (toLex (0, if b then ['1'] else ['0']))
  | .boolean, _ => .error (typeError "boolean parameter value is invalid")
  | .integer, .int n => do
    let text ← integerText n
    return toLex (1, text)
  | .integer, _ => .error (typeError "integer parameter value is invalid")
  | .decimal, .decimal d => do
    let text ← searchDecimalText d
    return toLex (2, text)
  | .decimal, _ => .error (typeError "Decimal parameter value is invalid")
  | .string, .str s =>
    if s = "" ∨ s ≠ strip s then .error (typeError "string parameter value is invalid")
    else .ok (toLex (3, s.toList))
  | .string, _ => .error (typeError "string parameter value is invalid")

/-- `_validate_safe_token`. -/
def validateSafeToken (value label : String) : Except SearchError Unit := do
  require (value ≠ "" ∧ value = strip value) (documentError (label ++ " must be canonical text"))
  require (isFillToken value = true) (documentError (label ++ " must be a safe identifier"))

/-- `_validate_unique_canonical_names`. -/
def validateUniqueCanonicalNames (names : List String) (label : String) :
    Except SearchError Unit := do
  require names.Nodup (documentError (label ++ " parameter names must be unique"))
  require (names = sortedNames names)
    (documentError (label ++ " parameters must use canonical name order"))

/-! ### Spaces -/

/-- One fixed parameter. -/
structure FixedParameter where
  name : String
  kind : StrategyParameterKind
  value : ParameterValue Decimal
  deriving DecidableEq

/-- One parameter with the values that are searched. -/
structure SearchParameter where
  name : String
  kind : StrategyParameterKind
  values : List (ParameterValue Decimal)
  deriving DecidableEq

/-- A finite space; the versions of its document and its policy have one value each. -/
structure ParameterSearchSpace where
  pluginName : String
  pluginVersion : String
  pluginSchemaVersion : ℕ
  pluginLifecycleVersion : ℕ
  fixedParameters : List FixedParameter
  searchParameters : List SearchParameter
  cardinality : ℕ
  maxCombinations : ℕ
  checksum : String
  searchSpaceId : String
  deriving DecidableEq

/-- One normalized configuration. -/
structure ParameterCombination where
  index : ℕ
  parameters : StrategyParameters
  parameterDocument : StrategyParameterDocument
  parametersChecksum : String
  combinationId : String

def validateFixedParameter (parameter : FixedParameter) : Except SearchError Unit := do
  validateSafeToken parameter.name "parameter name"
  let _ ← canonicalScalarKey parameter.kind parameter.value

def validateSearchParameter (parameter : SearchParameter) : Except SearchError Unit := do
  validateSafeToken parameter.name "parameter name"
  require (parameter.values ≠ []) (.search .emptySearchParameterValues
    ("search parameter " ++ parameter.name ++ " has no values"))
  let keys ← parameter.values.mapM (canonicalScalarKey parameter.kind)
  require keys.Nodup (.search .duplicateSearchParameterValue
    ("search parameter " ++ parameter.name ++ " has duplicate canonical values"))
  require (keys = sortBy id keys) (typeError
    ("search parameter " ++ parameter.name ++ " values are not in canonical order"))

/-- `ABSOLUTE_MAX_COMBINATIONS`. -/
def absoluteMaxCombinations : ℕ := 100000

/-- `_validate_combination_limit`. -/
def validateCombinationLimit (maximum : ℕ) : Except SearchError Unit := do
  require (1 ≤ maximum)
    (.search .invalidCombinationLimit "maximum combinations must be positive")
  require (maximum ≤ absoluteMaxCombinations) (.search .invalidCombinationLimit
    "maximum combinations exceeds absolute limit 100000")

/-- `EmptyParameterSearchSpaceError()`. -/
def emptySpace : SearchError :=
  .search .emptyParameterSearchSpace
    "O espaço deve possuir pelo menos um parâmetro pesquisável."

/-- One turn of `calculate_cardinality`. -/
def cardinalityTurn (maximum cardinality : ℕ) (parameter : SearchParameter) :
    Except SearchError ℕ := do
  validateSearchParameter parameter
  let count := parameter.values.length
  require (cardinality ≤ maximum / count) (.search .searchCardinalityExceeded
    ("search cardinality exceeds requested limit " ++ String.ofList (Decimal.digits maximum)))
  return cardinality * count

def calculateCardinality (parameters : List SearchParameter) (maximum : ℕ) :
    Except SearchError ℕ := do
  validateCombinationLimit maximum
  require (parameters ≠ []) emptySpace
  parameters.foldlM (cardinalityTurn maximum) 1

/-- The error of names that are fixed and searched. -/
def overlapError (overlap : List String) : SearchError :=
  .search .searchParameterConflict
    ("parameters are both fixed and searchable: " ++ ", ".intercalate overlap)

/-- The names that are fixed and searched. -/
def overlapOf (fixed : List FixedParameter) (searchable : List SearchParameter) : List String :=
  sortedNames ((fixed.map (·.name)).filter fun name => name ∈ searchable.map (·.name))

def validateSearchSpaceStructure (space : ParameterSearchSpace) : Except SearchError ℕ := do
  validateSafeToken space.pluginName "plugin name"
  validateSafeToken space.pluginVersion "plugin version"
  require (1 ≤ space.pluginSchemaVersion)
    (documentError "plugin schema version must be a positive integer")
  require (1 ≤ space.pluginLifecycleVersion)
    (documentError "plugin lifecycle version must be a positive integer")
  require (space.searchParameters ≠ []) emptySpace
  space.fixedParameters.forM validateFixedParameter
  space.searchParameters.forM validateSearchParameter
  validateUniqueCanonicalNames (space.fixedParameters.map (·.name)) "fixed"
  validateUniqueCanonicalNames (space.searchParameters.map (·.name)) "search"
  let overlap := overlapOf space.fixedParameters space.searchParameters
  require (overlap = []) (overlapError overlap)
  validateCombinationLimit space.maxCombinations
  require (1 ≤ space.cardinality) (documentError "search cardinality must be positive")
  let calculated ← calculateCardinality space.searchParameters space.maxCombinations
  require (calculated = space.cardinality)
    (documentError "search cardinality diverges from the exact dimension product")
  return calculated

/-! ### Combinations -/

/-- The value of one entry of a document. -/
def documentScalar (item : StoredStrategyParameter) :
    Except SearchError (ParameterValue Decimal) :=
  match item.kind, item.value with
  | .decimal, .str text =>
    match Decimal.ofText text.toList with
    | none => .error (documentError "Decimal parameter text is invalid")
    | some d => do
      let canonical ← searchDecimalText d
      require (canonical = text.toList) (documentError "Decimal parameter text is not canonical")
      return .decimal d
  | .decimal, _ => .error (documentError "Decimal parameter text is invalid")
  | .boolean, .bool b => .ok (.bool b)
  | .boolean, _ => .error (documentError "boolean parameter is invalid")
  | .integer, .int n => do
    let _ ← integerText n
    return .int n
  | .integer, _ => .error (documentError "integer parameter is invalid")
  | .string, .str s => .ok (.str s)
  | .string, _ => .error (documentError "string parameter is invalid")

/-- One entry of a document, decoded. -/
def decodedScalar (item : StoredStrategyParameter) :
    Except SearchError (String × StrategyParameterKind × ParameterValue Decimal) := do
  validateSafeToken item.name "parameter name"
  let recreated ← (StoredStrategyParameter.construct item.name item.kind item.value).mapError
    fun _ => documentError "parameter document entry is incompatible"
  require (recreated.name = item.name ∧ recreated.kind = item.kind ∧ recreated.value = item.value)
    (documentError "parameter document entry is not canonical")
  let value ← documentScalar item
  return (item.name, item.kind, value)

def decodeParameterDocumentScalars (document : StrategyParameterDocument) :
    Except SearchError (List (String × StrategyParameterKind × ParameterValue Decimal)) := do
  let result ← document.mapM decodedScalar
  validateUniqueCanonicalNames (result.map Prod.fst) "parameter document"
  return result

/-- One normalized parameter of a combination. -/
def validateCombinationParameter (q : String × ParameterValue Decimal) :
    Except SearchError Unit := do
  validateSafeToken q.1 "parameter name"
  require (q.2 ≠ .none) (typeError "normalized parameter value has an unsupported type")

/-- A value and the one its document has: one type, and equal. -/
def validateSameScalar
    (pair : ParameterValue Decimal × String × StrategyParameterKind × ParameterValue Decimal) :
    Except SearchError Unit := do
  let _ ← canonicalScalarKey pair.2.2.1 pair.1
  require (pair.1.map Decimal.value = pair.2.2.2.map Decimal.value)
    (documentError "normalized parameters diverge from their typed document")

section

variable (sha256 : List Char → String)

/-- `deterministic_id`. -/
def deterministicId (namespaceText : String) (payload : Json) : String :=
  sha256 (namespaceText.toList ++ Char.ofNat 0 :: payload.encode)

def validateParameterCombinationStructure (combination : ParameterCombination) :
    Except SearchError Unit := do
  combination.parameters.forM validateCombinationParameter
  validateUniqueCanonicalNames (combination.parameters.map Prod.fst) "combination"
  let decoded ← decodeParameterDocumentScalars combination.parameterDocument
  require (combination.parameters.map Prod.fst = decoded.map Prod.fst)
    (documentError "normalized parameters diverge from parameter document names")
  ((combination.parameters.map Prod.snd).zip decoded).forM validateSameScalar
  let expected ← (strategyParameterChecksum sha256 combination.parameterDocument).mapError
    fun _ => documentError "parameter document is incompatible"
  require (combination.parametersChecksum = expected)
    (documentError "parameter checksum does not match")

/-- The payload that identifies a combination. -/
def combinationPayload (searchSpaceId : String) (index : ℕ) (checksum : String) : Json :=
  .obj [("index", .int index), ("parameters_checksum", .str checksum), ("schema_version", .int 1),
    ("search_space_id", .str searchSpaceId)]

def combinationIdOf (searchSpaceId : String) (index : ℕ) (checksum : String) : String :=
  deterministicId sha256 "adt-parameter-combination-v1"
    (combinationPayload searchSpaceId index checksum)

def validateParameterCombination (combination : ParameterCombination)
    (space : ParameterSearchSpace) : Except SearchError Unit := do
  let _ ← validateSearchSpaceStructure space
  validateParameterCombinationStructure sha256 combination
  require (combination.index < space.cardinality)
    (documentError "combination index exceeds search space")
  require (combination.combinationId =
      combinationIdOf sha256 space.searchSpaceId combination.index combination.parametersChecksum)
    (documentError "combination identifier does not match")

/-! ### The service -/

/-- The values that are supplied for one parameter. -/
inductive RawDimension
  | sequence (values : List RawValue)
  | other

/-- `_raise_unknown`. -/
def raiseUnknown (descriptor : StrategyPluginDescriptor) (names : List String) :
    Except SearchError Unit :=
  let unknown := sortedNames (names.filter fun name => name ∉ descriptor.parameters.map (·.name))
  require (unknown = [])
    (.search .unknownSearchParameter ("unknown parameters: " ++ ", ".intercalate unknown))

/-- A supplied value that is an immutable scalar. -/
def isScalar : RawValue → Bool
  | .mutable => false
  | .value .none => false
  | _ => true

/-- `_normalize_value`. -/
def normalizeSearchValue (spec : StrategyParameterSpec) (raw : RawValue) :
    Except SearchError (ParameterValue Decimal) := do
  require (isScalar raw = true)
    (typeError ("parameter " ++ spec.name ++ " must be an immutable supported scalar"))
  let value ← (spec.normalize raw).mapError fun e =>
    if isPluginError e then typeError e.message else .strategy e
  require (value ≠ .none)
    (typeError ("parameter " ++ spec.name ++ " must be bool, int, Decimal or string"))
  let _ ← (canonicalScalarKey spec.kind value).mapError fun e =>
    match e with
    | .search _ message => typeError message
    | .strategy error => .strategy error
  return value

/-- One fixed parameter, when it is supplied. -/
def fixedFrom (raw : RawStrategyParameters) (spec : StrategyParameterSpec) :
    Except SearchError (Option FixedParameter) :=
  match raw.lookup spec.name with
  | none => .ok none
  | some supplied => do
    let value ← normalizeSearchValue spec supplied
    let parameter : FixedParameter := ⟨spec.name, spec.kind, value⟩
    validateFixedParameter parameter
    return some parameter

/-- `_normalize_fixed`. -/
def normalizeFixed (descriptor : StrategyPluginDescriptor) (raw : RawStrategyParameters) :
    Except SearchError (List FixedParameter) := do
  raiseUnknown descriptor (raw.map Prod.fst)
  let fixed ← descriptor.parameters.mapM (fixedFrom raw)
  return fixed.reduceOption

/-- The values of one parameter, in the order of their keys. -/
def orderedValues (spec : StrategyParameterSpec) (supplied : List RawValue) :
    Except SearchError (List (ParameterValue Decimal)) := do
  let normalized ← supplied.mapM (normalizeSearchValue spec)
  let keys ← normalized.mapM (canonicalScalarKey spec.kind)
  require keys.Nodup (.search .duplicateSearchParameterValue
    ("search parameter " ++ spec.name ++ " has duplicate canonical values"))
  return (sortBy Prod.fst (keys.zip normalized)).map Prod.snd

/-- One searched parameter, when it is supplied. -/
def searchFrom (raw : List (String × RawDimension)) (spec : StrategyParameterSpec) :
    Except SearchError (Option SearchParameter) :=
  match raw.lookup spec.name with
  | none => .ok none
  | some .other =>
    .error (typeError ("search values for " ++ spec.name ++ " must be one finite sequence"))
  | some (.sequence supplied) => do
    require (supplied ≠ []) (.search .emptySearchParameterValues
      ("search parameter " ++ spec.name ++ " has no values"))
    let values ← orderedValues spec supplied
    let parameter : SearchParameter := ⟨spec.name, spec.kind, values⟩
    validateSearchParameter parameter
    return some parameter

/-- `_normalize_search`. -/
def normalizeSearch (descriptor : StrategyPluginDescriptor) (raw : List (String × RawDimension)) :
    Except SearchError (List SearchParameter) := do
  require (raw ≠ []) emptySpace
  raiseUnknown descriptor (raw.map Prod.fst)
  let searchable ← descriptor.parameters.mapM (searchFrom raw)
  return searchable.reduceOption

/-- `_stored_value`. -/
def storedScalarJson (kind : StrategyParameterKind) (value : ParameterValue Decimal) :
    Except SearchError Json :=
  match kind, value with
  | .decimal, .decimal d => do
    let text ← searchDecimalText d
    return .str (String.ofList text)
  | .decimal, _ => .error (documentError "Decimal kind has non-Decimal value")
  | .integer, .int n => do
    let _ ← integerText n
    return .int n
  | .integer, _ => .error (documentError "integer kind has non-integer value")
  | _, value => .ok value.json

/-- `_fixed_payload`. -/
def fixedPayload (parameter : FixedParameter) : Except SearchError Json := do
  let value ← storedScalarJson parameter.kind parameter.value
  return .obj [("kind", .str parameter.kind.value), ("name", .str parameter.name),
    ("value", value)]

/-- `_search_payload`. -/
def searchPayload (parameter : SearchParameter) : Except SearchError Json := do
  let values ← parameter.values.mapM (storedScalarJson parameter.kind)
  return .obj [("kind", .str parameter.kind.value), ("name", .str parameter.name),
    ("values", .arr values)]

def spacePayload (descriptor : StrategyPluginDescriptor) (fixed : List FixedParameter)
    (searchable : List SearchParameter) (cardinality maxCombinations : ℕ) :
    Except SearchError Json := do
  let fixedJson ← fixed.mapM fixedPayload
  let searchJson ← searchable.mapM searchPayload
  return .obj [("cardinality", .int cardinality), ("combination_policy", .str "REJECT_SPACE"),
    ("fixed_parameters", .arr fixedJson), ("max_combinations", .int maxCombinations),
    ("plugin", .obj [("lifecycle_version", .int descriptor.lifecycleVersion),
      ("name", .str descriptor.name), ("schema_version", .int descriptor.schemaVersion),
      ("version", .str descriptor.version)]),
    ("schema_version", .int 1), ("search_parameters", .arr searchJson)]

/-- The identifier of a space. -/
def spaceIdOf (payload : Json) : String :=
  deterministicId sha256 "adt-parameter-search-space-v1" payload

/-- `verify_space_identity`. -/
def verifySpaceIdentity (space : ParameterSearchSpace) (payload : Json) :
    Except SearchError Unit := do
  require (sha256 payload.encode = space.checksum) (.search .searchSpaceChecksum
    "O checksum do espaço de busca não confere.")
  require (spaceIdOf sha256 payload = space.searchSpaceId)
    (documentError "search-space identifier does not match")

/-- One raw combination: the chosen values update the fixed ones. -/
def rawCombination (space : ParameterSearchSpace) (choice : List (ParameterValue Decimal)) :
    RawStrategyParameters :=
  ((space.searchParameters.map (·.name)).zip choice).map (fun q => (q.1, .value q.2)) ++
    space.fixedParameters.map fun item => (item.name, .value item.value)

/-- `_raw_combinations`. -/
def rawCombinations (space : ParameterSearchSpace) : List RawStrategyParameters :=
  (product (space.searchParameters.map (·.values))).map (rawCombination space)

/-- A registry and the indicators that are there. -/
structure ParameterSearchService where
  registry : StrategyPluginRegistry
  availableIndicators : List IndicatorCapability

/-- `_build_combination`. -/
def ParameterSearchService.buildCombination (service : ParameterSearchService)
    (space : ParameterSearchSpace) (indexed : RawStrategyParameters × ℕ) :
    Except SearchError ParameterCombination := do
  let index := indexed.2
  let strategy ← (service.registry.build space.pluginName space.pluginVersion indexed.1
    service.availableIndicators).mapError fun e =>
      if isPluginError e then .search .invalidSearchCombination
        ("combination " ++ String.ofList (Decimal.digits index) ++
          " rejected by strategy factory: " ++ e.message)
      else .strategy e
  let plugin ← ofStrategy (service.registry.resolve space.pluginName space.pluginVersion)
  let parameters := strategy.descriptor.parameters
  require (∀ q ∈ parameters, q.2 ≠ .none)
    (documentError "strategy factory returned an unsupported normalized parameter")
  let document ← ofStrategy (encodeStrategyParameters plugin.descriptor parameters)
  let checksum ← ofStrategy (strategyParameterChecksum sha256 document)
  let combination : ParameterCombination := ⟨index, parameters, document, checksum,
    combinationIdOf sha256 space.searchSpaceId index checksum⟩
  validateParameterCombinationStructure sha256 combination
  return combination

/-- The combinations of a space, each with its index. -/
def ParameterSearchService.combinationsOf (service : ParameterSearchService)
    (space : ParameterSearchSpace) : Except SearchError (List ParameterCombination) :=
  (rawCombinations space).zipIdx.mapM (service.buildCombination sha256 space)

/-- `create`. -/
def ParameterSearchService.create (service : ParameterSearchService) (pluginName : String)
    (pluginVersion : String) (searchParameters : List (String × RawDimension))
    (fixedParameters : RawStrategyParameters) (maxCombinations : ℕ) :
    Except SearchError ParameterSearchSpace := do
  let plugin ← ofStrategy (service.registry.resolve pluginName pluginVersion)
  let descriptor := plugin.descriptor
  validateCombinationLimit maxCombinations
  let fixed ← normalizeFixed descriptor fixedParameters
  let searchable ← normalizeSearch descriptor searchParameters
  let overlap := overlapOf fixed searchable
  require (overlap = []) (overlapError overlap)
  let cardinality ← calculateCardinality searchable maxCombinations
  let payload ← spacePayload descriptor fixed searchable cardinality maxCombinations
  let space : ParameterSearchSpace := ⟨descriptor.name, descriptor.version,
    descriptor.schemaVersion, descriptor.lifecycleVersion, fixed, searchable, cardinality,
    maxCombinations, sha256 payload.encode, spaceIdOf sha256 payload⟩
  let _ ← validateSearchSpaceStructure space
  let _ ← service.combinationsOf sha256 space
  return space

/-- `_compatible_descriptor`. -/
def ParameterSearchService.compatibleDescriptor (service : ParameterSearchService)
    (space : ParameterSearchSpace) : Except SearchError StrategyPluginDescriptor := do
  let plugin ← ofStrategy (service.registry.resolve space.pluginName space.pluginVersion)
  require (plugin.descriptor.schemaVersion = space.pluginSchemaVersion ∧
    plugin.descriptor.lifecycleVersion = space.pluginLifecycleVersion)
    (documentError "plugin descriptor versions changed")
  return plugin.descriptor

/-- The checks of the constructor of an expansion. -/
def validateExpansion (space : ParameterSearchSpace) (combinations : List ParameterCombination) :
    Except SearchError Unit := do
  let _ ← validateSearchSpaceStructure space
  require (combinations.length = space.cardinality)
    (documentError "expanded combination count diverges from cardinality")
  combinations.forM fun item => validateParameterCombination sha256 item space
  require (combinations.map (·.index) = List.range space.cardinality)
    (documentError "combination indexes must be contiguous and deterministic")

/-- `expand`. -/
def ParameterSearchService.expand (service : ParameterSearchService)
    (space : ParameterSearchSpace) : Except SearchError (List ParameterCombination) := do
  let _ ← validateSearchSpaceStructure space
  let descriptor ← service.compatibleDescriptor space
  let payload ← spacePayload descriptor space.fixedParameters space.searchParameters
    space.cardinality space.maxCombinations
  verifySpaceIdentity sha256 space payload
  let combinations ← service.combinationsOf sha256 space
  validateExpansion sha256 space combinations
  return combinations

end

end Optimization
end DryTrade
