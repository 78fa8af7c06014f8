import MetricTPower.Agent.Configuration

/-!
# The running agent

The functions of `src/tpowerconfiguration.cc` that process a metric or an asset message and that
poll, and the runs made of them. What they meet from outside is an environment (`Env`): the
readings of the clock, the answers of the sending function, and the topologies `configure` reads.
The runs are those whose searches for the power sources end: a call whose search does not end is no
part of a run, and nothing comes after it.

The places where a run may read the clock are numbered in the order of the run; `World.pos` is
the number of the next one and `Env.time` the reading made there. A branch that does not read
the clock leaves its numbers unused. A run keeps a history of its calls of `sendMeasurement` and
of `configure`, which no function reads: it is what the statements about runs speak of.

## Main definitions

* `Env`, `World`, `Call`, `Event`: the environment, and the history of a run.
* `sendMeasurement`: one unit; `Agent.sendMeasurements`: all units of a kind.
* `Agent.processMetric`, `Agent.processAsset`, `Agent.onPoll`, `Agent.configure`.
* `Step`, `Agent.step`, `run`: the runs.
-/

open Std (TreeMap)

namespace MetricTPower

variable {V : Type}

/-! ### Environment and history -/

/-- What a call of the sending function does. -/
inductive Reply
  | returned (isSent : Bool)
  | threw
  deriving DecidableEq

/-- The outside of the agent. -/
structure Env (V : Type) where
  /-- `::time(NULL)` at each place of the run that may read it -/
  time : ℕ → Int64
  /-- `_sendingFunction(M)` in the call of `sendMeasurement` that starts at a place -/
  reply : ℕ → MetricInfo V → Reply
  /-- what the call of `configure` that starts at a place reads, when its searches end -/
  topology : ℕ → PowerTopology

/-- One call of `sendMeasurement(element, quantity)`. -/
structure Call (V : Type) where
  kind : Kind
  owner : String
  quantity : String
  /-- the unit when the call starts -/
  before : TPUnit V
  /-- the place where the call starts -/
  pos : ℕ
  /-- `calculate(quantity)` completed without an exception -/
  calculated : Bool
  /-- the metric given to the sending function and its reply, when the function was invoked -/
  sent : Option (MetricInfo V × Reply)
  /-- the devices logged as preventing the calculation -/
  preventing : List String

/-- An event of the history of a run. -/
inductive Event (V : Type)
  | sendMeasurement (call : Call V)
  /-- a call of `configure` that starts at a place, and what it returns -/
  | configure (pos : ℕ) (loaded : Bool)

/-- The next place of the run, and the history, the newest event first. -/
structure World (V : Type) where
  pos : ℕ := 0
  history : List (Event V) := []

/-- The world after `places` more places. -/
def World.advance (w : World V) (places : ℕ) : World V :=
  { w with pos := w.pos + places }

/-- The world after a call of `sendMeasurement`, which has four places. -/
def World.record (w : World V) (call : Call V) : World V where
  pos := w.pos + 4
  history := .sendMeasurement call :: w.history

variable [Double V] (env : Env V)

/-! ### Sending the totals of a unit -/

/-- `sendMeasurement(element, quantity)` on the unit of `owner`. -/
def sendMeasurement (kind : Kind) (owner quantity : String) (uw : TPUnit V × World V) :
    TPUnit V × World V :=
  let (before, w) := uw
  let powerUnit := before.calculate quantity (env.time w.pos)
  let call (sent : Option (MetricInfo V × Reply)) (preventing : List String) : Call V :=
    { kind, owner, quantity, before, pos := w.pos, sent, preventing
      calculated := (before.calculation quantity (env.time w.pos)).isOk }
  if powerUnit.advertise quantity (env.time (w.pos + 1)) then
    match powerUnit.getMetricInfo quantity with
    | .error _ => (powerUnit, w.record (call none []))
    | .ok M =>
      match env.reply w.pos M with
      | .returned true =>
        (powerUnit.advertised quantity (env.time (w.pos + 2)) (env.time (w.pos + 3)),
          w.record (call (some (M, .returned true)) []))
      | reply => (powerUnit, w.record (call (some (M, reply)) []))
  else
    (powerUnit, w.record (call none
      (powerUnit.devicesInUnknownState quantity (env.time (w.pos + 2)))))

omit [Double V] in
/-- `dropOldMetricInfos()` with the readings of the run. -/
def dropOldMetricInfos (uw : TPUnit V × World V) : TPUnit V × World V :=
  (uw.1.dropOldMetricInfos fun i => env.time (uw.2.pos + i),
    uw.2.advance (uw.1.powerdevices.size + 1))

omit [Double V] in
/-- `setMeasurement(M)`, which reads nothing from outside. -/
def setMeasurement (M : MetricInfo V) (uw : TPUnit V × World V) : TPUnit V × World V :=
  (uw.1.setMeasurement M, uw.2)

/-! ### The steps of the agent -/

/-- The configuration and the world it runs in. -/
structure Agent (V : Type) where
  conf : TotalPowerConfiguration V := {}
  world : World V := {}

/-- An agent just constructed. -/
def Agent.init : Agent V := {}

namespace Agent

omit [Double V] in
/-- The unit of an owner. -/
def unit? (a : Agent V) (kind : Kind) (owner : String) : Option (TPUnit V) :=
  (a.conf.group kind).units[owner]?

omit [Double V] in
/-- Run a method of the unit of an owner, when there is one. -/
def onUnit (kind : Kind) (owner : String) (f : TPUnit V × World V → TPUnit V × World V)
    (a : Agent V) : Agent V :=
  match a.unit? kind owner with
  | none => a
  | some u =>
    { conf := a.conf.setUnit kind owner (f (u, a.world)).1, world := (f (u, a.world)).2 }

/-- The body of the loop of `sendMeasurement(elements, quantities)` over the elements. -/
def sendElement (kind : Kind) (owner : String) (a : Agent V) : Agent V :=
  kind.quantities.foldl
    (fun a quantity => a.onUnit kind owner (sendMeasurement env kind owner quantity))
    (a.onUnit kind owner (dropOldMetricInfos env))

/-- `sendMeasurement(elements, quantities)` on the units of a kind, in the order of the map. -/
def sendMeasurements (kind : Kind) (a : Agent V) : Agent V :=
  (a.conf.group kind).units.keys.foldl (fun a owner => a.sendElement env kind owner) a

/-- `_timeout = getPollInterval()`, the whole of `setPollInterval`. -/
def setPollInterval (a : Agent V) : Agent V where
  conf := { a.conf with
    timeout := a.conf.getPollInterval fun i => env.time (a.world.pos + i) }
  world := a.world.advance (a.conf.totals.length + 1)

/-- The part of `processMetric` for the units of one kind. -/
def processMetricFor (kind : Kind) (M : MetricInfo V) (quantity : String) (a : Agent V) : Agent V :=
  if quantity ∈ kind.quantities then
    match (a.conf.group kind).affected[M.elementName]? with
    | none => a
    | some owner =>
      (a.onUnit kind owner (setMeasurement M)).onUnit kind owner
        (sendMeasurement env kind owner quantity)
  else a

/-- `processMetric` -/
def processMetric (M : MetricInfo V) (topic : String) (a : Agent V) : Agent V :=
  let quantity := quantityOf topic
  processMetricFor env .dc M quantity (processMetricFor env .rack M quantity a)

omit [Double V] in
/-- `configure()`, whose result is also noted in the history. -/
def configure (a : Agent V) : Agent V :=
  let r := a.conf.configure (env.topology a.world.pos) (env.time a.world.pos)
  { conf := r.2
    world := { pos := a.world.pos + 1, history := .configure a.world.pos r.1 :: a.world.history } }

/-- The operations of an asset message that `processAsset` does not ignore. -/
def assetOperations : List String :=
  ["create", "update", "delete", "retire"]

omit [Double V] in
/-- `if (_reconfigPending == 0) _reconfigPending = ::time(NULL) + 60` -/
def scheduleReconfig (a : Agent V) : Agent V :=
  if a.conf.reconfigPending = 0 then
    { conf := { a.conf with reconfigPending := (env.time a.world.pos).toInt + 60 }
      world := a.world.advance 1 }
  else a

/-- `processAsset`, of a message with this operation. -/
def processAsset (operation : String) (a : Agent V) : Agent V :=
  if operation ∈ assetOperations then (a.scheduleReconfig env).setPollInterval env else a

omit [Double V] in
/-- `if ((_reconfigPending != 0) && (_reconfigPending <= ::time(NULL))) configure()` -/
def reconfigure (a : Agent V) : Agent V :=
  if a.conf.reconfigPending ≠ 0 ∧ a.conf.reconfigPending ≤ (env.time a.world.pos).toInt then
    configure env { a with world := a.world.advance 1 }
  else { a with world := a.world.advance 1 }

/-- `onPoll` -/
def onPoll (a : Agent V) : Agent V :=
  (((a.sendMeasurements env .rack).sendMeasurements env .dc).reconfigure env).setPollInterval env

end Agent

/-- The calls other parts of the agent make. -/
inductive Step (V : Type)
  | configure
  | processMetric (M : MetricInfo V) (topic : String)
  | processAsset (operation : String)
  | onPoll
  | setPollInterval

/-- One call. -/
def Agent.step (a : Agent V) : Step V → Agent V
  | .configure => a.configure env
  | .processMetric M topic => a.processMetric env M topic
  | .processAsset operation => a.processAsset env operation
  | .onPoll => a.onPoll env
  | .setPollInterval => a.setPollInterval env

/-- A sequence of calls. -/
def Agent.steps (a : Agent V) (steps : List (Step V)) : Agent V :=
  steps.foldl (fun a s => a.step env s) a

/-- A run of the agent from its construction. -/
def run (steps : List (Step V)) : Agent V :=
  Agent.init.steps env steps

end MetricTPower
