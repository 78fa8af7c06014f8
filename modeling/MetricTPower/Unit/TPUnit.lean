import MetricTPower.Metric.MetricList

/-!
# One rack or datacenter

`TPUnit` (`src/tp_unit.h`, `src/tp_unit.cc`) is one unit of the total power calculation: the
measurements of its power devices, the totals calculated from them, and when each total changed
and was advertised. The definitions below are the source's functions, in the source's order.

A function that reads `::time(NULL)` takes the reading as its argument `now`; one that reads it
several times takes one argument for each reading, and `dropOldMetricInfos`, which reads it once
for each device and once for the totals, takes the sequence of readings. An exception thrown in
the source is the error of an `Except`, with the text of the source.

## Main definitions

* `TPUnit`, `TPUnit.ofName`: a unit, and the one that `TPUnit()` and `name(...)` make.
* `TPUnit.set`, `TPUnit.get`, `TPUnit.getMetricInfo`: writing and reading a total.
* `TPUnit.simpleSummarize`, `TPUnit.realpowerDefault`, `TPUnit.realpowerOutput`: the three
  methods of calculation; `TPUnit.calculation` chooses one, `TPUnit.calculate` stores its result.
* `TPUnit.advertise`, `TPUnit.advertised`, `TPUnit.timeToAdvertisement`: when to send a total.
-/

open Std (TreeMap)

namespace MetricTPower

open Double

/-- `TPOWER_MEASUREMENT_REPEAT_AFTER`, in seconds. -/
def measurementRepeatAfter : UInt64 := 300

/-- `TPowerMethod` -/
inductive TPowerMethod
  | realpowerUndefined
  | realpowerDefault
  | realpowerOutputL1
  | realpowerOutputL2
  | realpowerOutputL3
  deriving DecidableEq

/-- `_calculations`, with `TPOWER_REALPOWER_UNDEFINED` for the quantities it does not list. -/
def calculations (quantity : String) : TPowerMethod :=
  if quantity = "realpower.default" then .realpowerDefault
  else if quantity = "realpower.output.L1" then .realpowerOutputL1
  else if quantity = "realpower.output.L2" then .realpowerOutputL2
  else if quantity = "realpower.output.L3" then .realpowerOutputL3
  else .realpowerUndefined

/-- One unit: a rack or a datacenter. -/
structure TPUnit (V : Type) where
  /-- `_lastValue`, the totals -/
  lastValue : MetricList V := {}
  /-- `_changed` -/
  changedStatus : TreeMap String Bool := ∅
  /-- `_changetimestamp` -/
  changetimestamp : TreeMap String UInt64 := ∅
  /-- `_advertisedtimestamp` -/
  advertisedtimestamp : TreeMap String UInt64 := ∅
  /-- `_powerdevices`, the measurements of each device -/
  powerdevices : TreeMap String (MetricList V) := ∅
  /-- `_name` -/
  name : String := ""

/-- A device of a unit with its measurements, as the loops over `_powerdevices` see it. -/
abbrev PowerDevice (V : Type) := String × MetricList V

variable {V : Type}

namespace TPUnit

/-- `TPUnit()` followed by `name(owner)`. -/
def ofName (owner : String) : TPUnit V where
  name := owner

/-- `TTL`, of the totals, in seconds. -/
def TTL : UInt64 := 6 * 60

/-- `generateTopic` -/
def generateTopic (u : TPUnit V) (quantity : String) : String :=
  topicOf quantity u.name

variable [Double V]

/-! ### Reading and writing a total -/

/-- `get`, which looks the total up under the bare quantity -/
def get (u : TPUnit V) (quantity : String) : Except String V :=
  let result := u.lastValue.find quantity
  if isnan result then .error ("Unknown quantity (" ++ u.generateTopic quantity ++ ")")
  else .ok result

/-- `getMetricInfo` -/
def getMetricInfo (u : TPUnit V) (quantity : String) : Except String (MetricInfo V) :=
  let result := u.lastValue.getMetricInfo (u.generateTopic quantity)
  if result.isUnknown then .error "Unknown quantity" else .ok result

/-- `set`: store a total that is new or outside the dead band of the stored one. -/
def set (u : TPUnit V) (quantity : String) (measurement : MetricInfo V) : TPUnit V :=
  let currentValue := u.lastValue.find (u.generateTopic quantity)
  if isnan currentValue || exceeds currentValue measurement.value then
    { u with
      lastValue := u.lastValue.addMetricInfo measurement
      changedStatus := u.changedStatus.insert quantity true
      changetimestamp := u.changetimestamp.insert quantity measurement.timestamp }
  else u

/-! ### Calculation -/

/-- `getMetricValue` -/
def getMetricValue (measurements : MetricList V) (quantity deviceName : String) : V :=
  measurements.find (topicOf quantity deviceName)

/-- The body shared by the loops of the calculations: `sum += value` for a quantity of a device,
or the exception that it is missing. -/
def addValue (quantity : String) (sum : V) (it : PowerDevice V) : Except String V :=
  let value := getMetricValue it.2 quantity it.1
  if isnan value then .error (topicOf quantity it.1 ++ " is missing") else .ok (add sum value)

/-- `MetricInfo result(_name, quantity, "W", sum, uint64_t(::time(NULL)), TTL)` -/
def result (u : TPUnit V) (quantity : String) (now : Int64) (sum : V) : MetricInfo V where
  elementName := u.name
  source := quantity
  units := "W"
  value := sum
  timestamp := now.toUInt64
  ttl := TTL

/-- `simpleSummarize` -/
def simpleSummarize (u : TPUnit V) (quantity : String) (now : Int64) :
    Except String (MetricInfo V) := do
  let sum ← u.powerdevices.toList.foldlM (addValue quantity) zero
  return u.result quantity now sum

/-- The quantity of an output phase: `"realpower.output.L" + std::to_string(phase)`. -/
def outputPhase (phase : ℕ) : String :=
  "realpower.output.L" ++ toString phase

/-- The body of the loop of `realpowerDefault`: the quantity, or else the sum of the phases. -/
def addDefault (quantity : String) (sum : V) (it : PowerDevice V) : Except String V :=
  let value := getMetricValue it.2 quantity it.1
  if isnan value then [1, 2, 3].foldlM (fun sum phase => addValue (outputPhase phase) sum it) sum
  else .ok (add sum value)

/-- `realpowerDefault` -/
def realpowerDefault (u : TPUnit V) (quantity : String) (now : Int64) :
    Except String (MetricInfo V) := do
  let sum ← u.powerdevices.toList.foldlM (addDefault quantity) zero
  return u.result quantity now sum

/-- The local variables of `realpowerOutput`. -/
structure OutputSum (V : Type) where
  sum : V
  devCnt : ℕ
  phases : ℕ

/-- Whether a quantity of a device is `NaN`. -/
def isMissing (quantity : String) (it : PowerDevice V) : Bool :=
  isnan (getMetricValue it.2 quantity it.1)

/-- The number of phases `realpowerOutput` chooses at the first device. -/
def choosePhases (it : PowerDevice V) : ℕ :=
  if isMissing "realpower.output.L3" it then
    if isMissing "realpower.output.L2" it then 1 else 2
  else 3

/-- `mixedPhaseOuput` for a later device, once `phases` is chosen. -/
def mixedPhaseOutput (phases : ℕ) (it : PowerDevice V) : Bool :=
  match phases with
  | 1 => !isMissing "realpower.output.L2" it
  | 2 => !isMissing "realpower.output.L3" it
  | _ => isMissing "realpower.output.L3" it

/-- The body of the loop of `realpowerOutput`. -/
def addOutput (quantity : String) (s : OutputSum V) (it : PowerDevice V) :
    Except String (OutputSum V) := do
  let sum ← addValue quantity s.sum it
  -- `phases == 0` marks the first device, whose number of phases the others have to share
  let phases ←
    if s.phases = 0 then pure (choosePhases it)
    else if mixedPhaseOutput s.phases it then
      throw ("avoid mixed phases output (phases: " ++ toString s.phases ++ ", device: " ++ it.1
        ++ ")")
    else pure s.phases
  return { sum := sum, devCnt := s.devCnt + 1, phases := phases }

/-- `realpowerOutput` -/
def realpowerOutput (u : TPUnit V) (quantity : String) (now : Int64) :
    Except String (MetricInfo V) := do
  let s ← u.powerdevices.toList.foldlM (addOutput quantity) ⟨zero, 0, 0⟩
  return u.result quantity now (if s.devCnt > 0 then s.sum else nan)

/-- The result that `calculate` computes, by the method of the quantity. -/
def calculation (u : TPUnit V) (quantity : String) (now : Int64) : Except String (MetricInfo V) :=
  match calculations quantity with
  | .realpowerDefault => u.realpowerDefault quantity now
  | .realpowerOutputL1 | .realpowerOutputL2 | .realpowerOutputL3 => u.realpowerOutput quantity now
  | .realpowerUndefined => u.simpleSummarize quantity now

/-- `calculate` of one quantity: an exception is caught and leaves the unit as it is. -/
def calculate (u : TPUnit V) (quantity : String) (now : Int64) : TPUnit V :=
  match u.calculation quantity now with
  | .ok result => u.set quantity result
  | .error _ => u

omit [Double V] in
/-- `dropOldMetricInfos`: purge the measurements of every device, then the totals. The clock is
read once for each list, in the order of the devices. -/
def dropOldMetricInfos (u : TPUnit V) (clock : ℕ → Int64) : TPUnit V :=
  { u with
    powerdevices := u.powerdevices.map fun device measurements =>
      measurements.removeOldMetrics (clock (u.powerdevices.keys.idxOf device))
    lastValue := u.lastValue.removeOldMetrics (clock u.powerdevices.size) }

/-! ### State of a total -/

/-- `quantityIsUnknown`, of a topic -/
def quantityIsUnknown (u : TPUnit V) (topic : String) : Bool :=
  isnan (u.lastValue.find topic)

/-- `quantityIsKnown`, of a topic -/
def quantityIsKnown (u : TPUnit V) (topic : String) : Bool :=
  !u.quantityIsUnknown topic

/-- `devicesInUnknownState` -/
def devicesInUnknownState (u : TPUnit V) (quantity : String) (now : Int64) : List String :=
  if u.quantityIsKnown (u.generateTopic quantity) then []
  else
    (u.powerdevices.toList.filter fun device =>
      let measurement := device.2.getMetricInfo (topicOf quantity device.1)
      isnan measurement.value ||
        decide (measurement.ttl * 2 < now.toUInt64 - measurement.timestamp)).map Prod.fst

omit [Double V] in
/-- `addPowerDevice`: the device with no measurement, also when it was there. -/
def addPowerDevice (u : TPUnit V) (device : String) : TPUnit V :=
  { u with powerdevices := u.powerdevices.insert device {} }

omit [Double V] in
/-- `setMeasurement`: a measurement of a device of the unit is added to its list. -/
def setMeasurement (u : TPUnit V) (M : MetricInfo V) : TPUnit V :=
  match u.powerdevices[M.elementName]? with
  | some measurements =>
    { u with powerdevices := u.powerdevices.insert M.elementName (measurements.addMetricInfo M) }
  | none => u

omit [Double V] in
/-- `changed(quantity)` -/
def changed (u : TPUnit V) (quantity : String) : Bool :=
  u.changedStatus[quantity]?.getD false

omit [Double V] in
/-- `changed(quantity, newStatus)` -/
def setChanged (u : TPUnit V) (quantity : String) (newStatus : Bool) (now : Int64) : TPUnit V :=
  if u.changed quantity ≠ newStatus then
    { u with
      changedStatus := u.changedStatus.insert quantity newStatus
      changetimestamp := u.changetimestamp.insert quantity now.toUInt64
      advertisedtimestamp := u.advertisedtimestamp.insertIfNew quantity 0 }
  else u

omit [Double V] in
/-- `timestamp`: when the total changed or was advertised, `0` when it never was. -/
def timestamp (u : TPUnit V) (quantity : String) : UInt64 :=
  u.changetimestamp[quantity]?.getD 0

/-- `timeToAdvertisement`, in seconds -/
def timeToAdvertisement (u : TPUnit V) (quantity : String) (now : Int64) : ℤ :=
  let quantityTimestamp := u.timestamp quantity
  if quantityTimestamp = 0 || u.quantityIsUnknown (u.generateTopic quantity) then
    measurementRepeatAfter.toNat
  else
    let dt := now.toUInt64 - quantityTimestamp
    if measurementRepeatAfter < dt then 0
    else (measurementRepeatAfter - dt).toNat

/-- `advertise`: whether the total has to be sent now. -/
def advertise (u : TPUnit V) (quantity : String) (now : Int64) : Bool :=
  if u.quantityIsUnknown (u.generateTopic quantity) then false
  else if u.advertisedtimestamp[quantity]? = some now.toUInt64 then false
  else
    u.changed quantity || decide (measurementRepeatAfter < now.toUInt64 - u.timestamp quantity)

omit [Double V] in
/-- `advertised`: clear the changed status, and note the moment of publishing. -/
def advertised (u : TPUnit V) (quantity : String) (now now' : Int64) : TPUnit V :=
  let u := u.setChanged quantity false now
  { u with
    changetimestamp := u.changetimestamp.insert quantity now'.toUInt64
    advertisedtimestamp := u.advertisedtimestamp.insert quantity now'.toUInt64 }

end TPUnit

end MetricTPower
