import MetricTPower.Agent.PollBounds
import MetricTPower.Library.CriticalSections

/-!
# The parts of a call

A call of the agent writes the configuration in several parts: one unit at a time is purged or
calculates and sends, the reload is scheduled or done, the timer is set. `Step.parts` is the list of
these parts. What they are is fixed when the call starts: the passes of `onPoll` go through the
units that are there, and no part but the last ones makes or removes a unit. The calls of the agent
are made in sections under a lock (`CriticalSections`), and the parts are what another actor can see
of a call that is under way.

## Main definitions

* `Step.parts`: the parts of a call.

## Main results

* `Step.runParts_parts`: the parts of a call make up the call.
* `Step.part_moves`, `Step.timeout_part`: what a part does.
* `Agent.history_suffix_of_moves`: the history only grows.
-/

open Std (TreeMap)
open Relation (ReflTransGen)
open CriticalSections

namespace MetricTPower

variable {V : Type} [Double V] (env : Env V)

/-! ### The parts -/

namespace Agent

omit [Double V] in
/-- A method of the unit that a device affects, when the quantity is one of its kind. -/
def onAffected (kind : Kind) (device quantity : String)
    (f : String → TPUnit V × World V → TPUnit V × World V) (a : Agent V) : Agent V :=
  if quantity ∈ kind.quantities then
    match (a.conf.group kind).affected[device]? with
    | none => a
    | some owner => a.onUnit kind owner (f owner)
  else a

/-- The parts of `processMetric` for the units of a kind: the measurement is stored, then the total
is calculated and sent. -/
def metricParts (kind : Kind) (M : MetricInfo V) (quantity : String) :
    List (Agent V → Agent V) :=
  [onAffected kind M.elementName quantity fun _ => setMeasurement M,
    onAffected kind M.elementName quantity fun owner => sendMeasurement env kind owner quantity]

/-- The parts of the turn of a unit in a pass. -/
def elementParts (kind : Kind) (owner : String) : List (Agent V → Agent V) :=
  onUnit kind owner (dropOldMetricInfos env) ::
    kind.quantities.map fun quantity => onUnit kind owner (sendMeasurement env kind owner quantity)

/-- The parts of the pass over the units of a kind. -/
def passParts (kind : Kind) (a : Agent V) : List (Agent V → Agent V) :=
  (a.conf.group kind).units.keys.flatMap (elementParts env kind)

end Agent

open Agent in
/-- The parts of a call that starts with an agent. -/
def Step.parts : Step V → Agent V → List (Agent V → Agent V)
  | .configure, _ => [Agent.configure env]
  | .processMetric M topic, _ =>
    metricParts env .rack M (quantityOf topic) ++ metricParts env .dc M (quantityOf topic)
  | .processAsset operation, _ =>
    if operation ∈ assetOperations then [scheduleReconfig env, Agent.setPollInterval env] else []
  | .onPoll, a =>
    passParts env .rack a ++ passParts env .dc a ++ [reconfigure env, Agent.setPollInterval env]
  | .setPollInterval, _ => [Agent.setPollInterval env]

/-! ### The parts make up the call -/

namespace Agent

variable {kind k : Kind}

omit [Double V] in
/-- A method of a unit leaves the units of the other kind alone. -/
theorem group_onUnit_of_ne (a : Agent V) (owner : String)
    (f : TPUnit V × World V → TPUnit V × World V) (h : k ≠ kind) :
    (a.onUnit kind owner f).conf.group k = a.conf.group k := by
  rw [onUnit]
  split
  · rfl
  · rw [TotalPowerConfiguration.setUnit, TotalPowerConfiguration.group_setGroup_of_ne _ h]

theorem group_sendMeasurements_of_ne (a : Agent V) (h : k ≠ kind) :
    (a.sendMeasurements env kind).conf.group k = a.conf.group k := by
  have hquantities : ∀ (owner : String) (l : List String) (b : Agent V),
      (l.foldl (fun b quantity => b.onUnit kind owner
        (MetricTPower.sendMeasurement env kind owner quantity)) b).conf.group k =
          b.conf.group k := by
    intro owner l
    induction l with
    | nil => exact fun _ => rfl
    | cons quantity l ih =>
      intro b
      rw [List.foldl_cons, ih, group_onUnit_of_ne _ _ _ h]
  rw [sendMeasurements]
  generalize (a.conf.group kind).units.keys = owners
  induction owners generalizing a with
  | nil => rfl
  | cons owner owners ih =>
    rw [List.foldl_cons, ih, sendElement, hquantities, group_onUnit_of_ne _ _ _ h]

theorem runParts_metricParts (M : MetricInfo V) (quantity : String) (a : Agent V) :
    runParts (metricParts env kind M quantity) a = processMetricFor env kind M quantity a := by
  rw [metricParts, runParts_cons, runParts_cons, runParts_nil, processMetricFor, onAffected,
    onAffected]
  split
  · cases haffected : (a.conf.group kind).affected[M.elementName]? with
    | none => simp only [haffected]
    | some owner => simp only [affected_onUnit, haffected]
  · rfl

theorem runParts_elementParts (owner : String) (a : Agent V) :
    runParts (elementParts env kind owner) a = a.sendElement env kind owner := by
  rw [elementParts, runParts_cons, runParts, List.foldl_map, sendElement]

theorem runParts_passParts (owners : List String) (a : Agent V) :
    runParts (owners.flatMap (elementParts env kind)) a =
      owners.foldl (fun a owner => a.sendElement env kind owner) a := by
  induction owners generalizing a with
  | nil => rfl
  | cons owner owners ih =>
    rw [List.flatMap_cons, runParts_append, runParts_elementParts, ih, List.foldl_cons]

end Agent

/-- **The parts of a call make up the call.** -/
theorem Step.runParts_parts (s : Step V) (a : Agent V) :
    runParts (s.parts env a) a = a.step env s := by
  cases s with
  | configure => rfl
  | processMetric M topic =>
    rw [parts, runParts_append, Agent.runParts_metricParts, Agent.runParts_metricParts]
    rfl
  | processAsset operation =>
    rw [parts, Agent.step, Agent.processAsset]
    split <;> rfl
  | onPoll =>
    -- the units of the datacenters are those from before the pass over the racks
    have hdcs : ((a.sendMeasurements env .rack).conf.group .dc).units.keys =
        (a.conf.group .dc).units.keys := by
      rw [Agent.group_sendMeasurements_of_ne env a (by decide)]
    rw [parts, runParts_append, runParts_append, Agent.passParts, Agent.passParts,
      Agent.runParts_passParts, Agent.runParts_passParts, ← hdcs]
    rfl
  | setPollInterval => rfl

/-! ### What a part does -/

namespace Agent

variable {env} {kind : Kind} {part : Agent V → Agent V}

/-- What a part of a pass or of the processing of a metric does. -/
theorem onAffected_unitMoves {device quantity : String}
    {f : String → TPUnit V × World V → TPUnit V × World V}
    (hf : ∀ owner, quantity ∈ kind.quantities → UnitCall env kind owner (f owner)) (a : Agent V) :
    ReflTransGen (UnitMove env) a (onAffected kind device quantity f a) := by
  rw [onAffected]
  split
  · rename_i hquantity
    split
    · exact .refl
    · rename_i owner _
      exact .single (.onUnit a kind owner _ (hf owner hquantity))
  · exact .refl

theorem metricPart_unitMoves {M : MetricInfo V} {quantity : String}
    (h : part ∈ metricParts env kind M quantity) (a : Agent V) :
    ReflTransGen (UnitMove env) a (part a) := by
  rw [metricParts, List.mem_pair] at h
  rcases h with rfl | rfl
  · exact onAffected_unitMoves (fun owner _ => .setMeasurement M) a
  · exact onAffected_unitMoves (fun owner hquantity => .sendMeasurement quantity hquantity) a

theorem passPart_unitMoves {b : Agent V} (h : part ∈ passParts env kind b) (a : Agent V) :
    ReflTransGen (UnitMove env) a (part a) := by
  obtain ⟨owner, -, hpart⟩ := List.mem_flatMap.mp h
  rcases List.mem_cons.mp hpart with rfl | hpart
  · exact .single (.onUnit a kind owner _ .dropOldMetricInfos)
  · obtain ⟨quantity, hquantity, rfl⟩ := List.mem_map.mp hpart
    exact .single (.onUnit a kind owner _ (.sendMeasurement quantity hquantity))

end Agent

variable {env}

/-- A part makes moves of units, or loads the topology, or schedules or does the reload, or sets the
timer. -/
theorem Step.part_cases {s : Step V} {b : Agent V} {part : Agent V → Agent V}
    (h : part ∈ s.parts env b) :
    (∀ a, ReflTransGen (UnitMove env) a (part a)) ∨ part = Agent.configure env ∨
      part = Agent.scheduleReconfig env ∨ part = Agent.reconfigure env ∨
        part = Agent.setPollInterval env := by
  cases s with
  | configure => exact Or.inr (Or.inl (List.mem_singleton.mp h))
  | processMetric M topic =>
    exact Or.inl ((List.mem_append.mp h).elim Agent.metricPart_unitMoves
      Agent.metricPart_unitMoves)
  | processAsset operation =>
    rw [parts] at h
    split at h
    · rcases List.mem_pair.mp h with rfl | rfl
      · exact Or.inr (Or.inr (Or.inl rfl))
      · exact Or.inr (Or.inr (Or.inr (Or.inr rfl)))
    · simp at h
  | onPoll =>
    rcases List.mem_append.mp h with hpass | hlast
    · exact Or.inl ((List.mem_append.mp hpass).elim Agent.passPart_unitMoves
        Agent.passPart_unitMoves)
    · rcases List.mem_pair.mp hlast with rfl | rfl
      · exact Or.inr (Or.inr (Or.inr (Or.inl rfl)))
      · exact Or.inr (Or.inr (Or.inr (Or.inr rfl)))
  | setPollInterval => exact Or.inr (Or.inr (Or.inr (Or.inr (List.mem_singleton.mp h))))

/-- Every part is a sequence of moves. -/
theorem Step.part_moves {s : Step V} {b : Agent V} {part : Agent V → Agent V}
    (h : part ∈ s.parts env b) (a : Agent V) : ReflTransGen (Move env) a (part a) := by
  rcases s.part_cases h with hunits | rfl | rfl | rfl | rfl
  · exact moves_of_unitMoves (hunits a)
  · exact .single (.configure a)
  · rw [Agent.scheduleReconfig]
    split
    · exact .single (.schedule a a.conf.timeout _ 1)
    · exact .refl
  · exact Agent.reconfigure_moves env a
  · exact .single (Agent.setPollInterval_move env a)

/-- A part leaves the timer, or sets it to a poll interval. -/
theorem Step.timeout_part {s : Step V} {b : Agent V} {part : Agent V → Agent V}
    (h : part ∈ s.parts env b) (a : Agent V) :
    (part a).conf.timeout = a.conf.timeout ∨
      ∃ (c : TotalPowerConfiguration V) (clock : ℕ → Int64),
        (part a).conf.timeout = c.getPollInterval clock := by
  rcases s.part_cases h with hunits | rfl | rfl | rfl | rfl
  · exact Or.inl (Agent.unitsOnly_of_unitMoves (hunits a)).timeout
  · exact Or.inl (Agent.timeout_configure a)
  · refine Or.inl ?_
    rw [Agent.scheduleReconfig]
    split <;> rfl
  · refine Or.inl ?_
    rw [Agent.reconfigure]
    split
    · exact Agent.timeout_configure _
    · rfl
  · exact Or.inr ⟨_, _, Agent.timeout_setPollInterval a⟩

/-! ### The history -/

namespace Agent

variable {a a' : Agent V}

theorem history_suffix_of_move (hm : Move env a a') : a.world.history <:+ a'.world.history := by
  cases hm with
  | onUnit kind owner f hf =>
    rcases UnitInvariant.history_onUnit_cases hf a with hsame | ⟨call, u, -, -, -, hnew⟩
    · rw [hsame]
    · rw [hnew]
      exact List.suffix_cons _ _
  | configure => exact List.suffix_cons _ _
  | schedule timeout reconfigPending places => exact List.suffix_rfl

/-- What has happened stays in the history. -/
theorem history_suffix_of_moves (h : ReflTransGen (Move env) a a') :
    a.world.history <:+ a'.world.history := by
  induction h with
  | refl => exact List.suffix_rfl
  | tail _ hm ih => exact ih.trans (history_suffix_of_move hm)

end Agent

end MetricTPower
