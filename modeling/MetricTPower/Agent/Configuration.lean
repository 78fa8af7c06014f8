import MetricTPower.Topology.CalcPower
import MetricTPower.Unit.TPUnit

/-!
# The configuration of the agent

The state of `TotalPowerConfiguration` (`src/tpowerconfiguration.h`) and the functions that
neither send nor receive a metric: `configure`, which loads the units from the database, and
`getPollInterval`. The sending side is in `MetricTPower.Agent.Run`.

The racks and the datacenters are treated alike up to their lists of quantities; `UnitGroup` is the
pair of maps of either kind, `_racks` and `_affectedRacks` or `_DCs` and `_affectedDCs`.

`configure` sees the database through `PowerTopology`: whether the connection is made, what the
two functions of `calc_power.cc` return or throw, and whether the connection is closed.
`Database.powerTopology` is what they come to on a database; it is `none` when the search of
some container has not ended after the given number of rounds, so that `configure` has not
returned either.

## Main definitions

* `Kind`, `UnitGroup`, `TotalPowerConfiguration`: the state.
* `UnitGroup.addDeviceToMap`, `UnitGroup.load`: building the two maps of a kind.
* `PowerTopology`, `Database.powerTopology`: what `configure` reads.
* `TotalPowerConfiguration.configure`, `TotalPowerConfiguration.getPollInterval`.
-/

open Std (TreeMap)

namespace MetricTPower

/-- The two kinds of units. -/
inductive Kind
  | rack
  | dc
  deriving DecidableEq

/-- `_rackQuantities` -/
def rackQuantities : List String :=
  ["realpower.default"]

/-- `_dcQuantities` -/
def dcQuantities : List String :=
  ["realpower.default",
    "realpower.input.L1", "realpower.input.L2", "realpower.input.L3",
    "realpower.output.L1", "realpower.output.L2", "realpower.output.L3"]

/-- The quantities calculated for the units of a kind; `isRackQuantity` and `isDCQuantity` are
membership in it. -/
def Kind.quantities : Kind → List String
  | .rack => rackQuantities
  | .dc => dcQuantities

/-- The units of a kind with the owners of the devices: `_racks` and `_affectedRacks`, or `_DCs` and
`_affectedDCs`. -/
structure UnitGroup (V : Type) where
  /-- owner to unit -/
  units : TreeMap String (TPUnit V) := ∅
  /-- device to owner -/
  affected : TreeMap String String := ∅

/-- The fields of `TotalPowerConfiguration` other than the sending function. -/
structure TotalPowerConfiguration (V : Type) where
  /-- `_timeout`, in milliseconds, at first `TPOWER_POLLING_INTERVAL` -/
  timeout : ℤ := 5000
  /-- `_racks`, `_affectedRacks` -/
  racks : UnitGroup V := {}
  /-- `_DCs`, `_affectedDCs` -/
  dcs : UnitGroup V := {}
  /-- `_reconfigPending`, when the topology is to be read again, `0` when it is not -/
  reconfigPending : ℤ := 0

variable {V : Type}

/-! ### Building the units -/

namespace UnitGroup

/-- `addDeviceToMap` -/
def addDeviceToMap (g : UnitGroup V) (owner device : String) : UnitGroup V where
  units :=
    match g.units[owner]? with
    | none => g.units.insert owner ((TPUnit.ofName owner).addPowerDevice device)
    | some box => g.units.insert owner (box.addPowerDevice device)
  affected := g.affected.insert device owner

/-- The loops of `configure` over the owners and their devices. -/
def load (g : UnitGroup V) (item : TreeMap String (List String)) : UnitGroup V :=
  item.toList.foldl
    (fun g rack => rack.2.foldl (fun g device => g.addDeviceToMap rack.1 device) g) g

end UnitGroup

/-- What `configure` reads: the connection, the lists of power sources of the racks and of the
datacenters, and the end of the connection. -/
structure PowerTopology where
  connection : Except String Unit
  racks : Except String (DbReply (TreeMap String (List String)))
  dcs : Except String (DbReply (TreeMap String (List String)))
  close : Except String Unit

/-- The topology a database gives when the searches have at most `rounds` rounds. A call after one
that throws is not made; its place is filled with the same exception. -/
def Database.powerTopology (persist : Persist) (rounds : ℕ) (db : Database) :
    Option PowerTopology :=
  match db.connectCached with
  | .error what => some ⟨.error what, .error what, .error what, .error what⟩
  | .ok _ => do
    match ← (selectDevicesTotalPowerRacks persist rounds db).settled with
    | .error what => return ⟨.ok (), .error what, .error what, .error what⟩
    | .ok racks =>
      let dcs ← (selectDevicesTotalPowerDcs persist rounds db).settled
      return ⟨.ok (), .ok racks, dcs, db.close⟩

namespace TotalPowerConfiguration

/-- The units of a kind. -/
def group (c : TotalPowerConfiguration V) : Kind → UnitGroup V
  | .rack => c.racks
  | .dc => c.dcs

/-- The configuration with other units of a kind. -/
def setGroup (c : TotalPowerConfiguration V) (kind : Kind) (g : UnitGroup V) :
    TotalPowerConfiguration V :=
  match kind with
  | .rack => { c with racks := g }
  | .dc => { c with dcs := g }

/-- The unit of an owner replaced by the result of a call of one of its methods. -/
def setUnit (c : TotalPowerConfiguration V) (kind : Kind) (owner : String) (u : TPUnit V) :
    TotalPowerConfiguration V :=
  c.setGroup kind { c.group kind with units := (c.group kind).units.insert owner u }

/-- The `try` block of `configure`, with the state it leaves when it throws. -/
def loadTopology (db : PowerTopology) :
    ExceptT String (StateM (TotalPowerConfiguration V)) Unit := do
  -- remove old topology
  modify fun c => { c with racks := {}, dcs := {} }
  let _ ← .mk (pure db.connection)
  -- reading racks
  let ret ← .mk (pure db.racks)
  if ret.status ≠ 0 then
    modify fun c => { c with racks := c.racks.load ret.item }
  -- reading DCs
  let ret ← .mk (pure db.dcs)
  if ret.status ≠ 0 then
    modify fun c => { c with dcs := c.dcs.load ret.item }
  let _ ← .mk (pure db.close)
  -- no reconfiguration should be scheduled
  modify fun c => { c with reconfigPending := 0 }

/-- `configure`: its result, and the configuration it leaves. `now` is read after a failure. -/
def configure (db : PowerTopology) (now : Int64) (c : TotalPowerConfiguration V) :
    Bool × TotalPowerConfiguration V :=
  match (loadTopology db).run c with
  | (.ok _, c) => (true, c)
  | (.error _, c) => (false, { c with reconfigPending := now.toInt + 60 })

/-! ### The poll interval -/

/-- The units with their quantities in the order of the loops of `getPollInterval`. -/
def totals (c : TotalPowerConfiguration V) : List (TPUnit V × String) :=
  (c.racks.units.toList.flatMap fun rack => rackQuantities.map fun q => (rack.2, q)) ++
    c.dcs.units.toList.flatMap fun dc => dcQuantities.map fun q => (dc.2, q)

variable [Double V]

/-- `getPollInterval`, in milliseconds. The clock is read for each total in turn, and last for the
pending reload. -/
def getPollInterval (c : TotalPowerConfiguration V) (clock : ℕ → Int64) : ℤ :=
  let T := c.totals.zipIdx.foldl (fun T it =>
    let Tx := it.1.1.timeToAdvertisement it.1.2 (clock it.2)
    if Tx > 0 ∧ Tx < T then Tx else T) (measurementRepeatAfter.toNat : ℤ)
  let T :=
    if c.reconfigPending ≠ 0 then
      let Tx := c.reconfigPending - (clock c.totals.length).toInt + 1
      let Tx := if Tx ≤ 0 then 1 else Tx
      if Tx < T then Tx else T
    else T
  T * 1000

end TotalPowerConfiguration

end MetricTPower
