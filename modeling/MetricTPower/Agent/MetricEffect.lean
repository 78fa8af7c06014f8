import MetricTPower.Agent.Routing
import MetricTPower.Agent.WellFormed

/-!
# What a metric can change

A metric under its own topic reaches at most one rack and one datacenter, the affected owners of its
device, and there only the measurement of its device and quantity and the total of its quantity. So
the totals that the agent publishes, which it reads back under the name of a rack or a datacenter,
change nothing unless a device has that name.

## Main definitions

* `TPUnit.TouchedBy`: all that a metric can change in a unit.

## Main results

* `processMetric_touches`: all that `processMetric` can change in a reachable state.
-/

open Std (TreeMap)

namespace MetricTPower

variable {V : Type} [Double V] {env : Env V}

/-! ### One unit -/

namespace TPUnit

omit [Double V] in
/-- The second unit differs from the first at most in the measurement of the device and the quantity
of a metric, and in the total of that quantity and what is noted about it. -/
structure TouchedBy (M : MetricInfo V) (u v : TPUnit V) : Prop where
  name : v.name = u.name
  mem_powerdevices : ∀ device, device ∈ v.powerdevices ↔ device ∈ u.powerdevices
  measurements : ∀ device topic, device ≠ M.elementName ∨ topic ≠ M.generateTopic →
    (v.powerdevices[device]?.bind fun l => l.knownMetrics[topic]?) =
      u.powerdevices[device]?.bind fun l => l.knownMetrics[topic]?
  lastValue : ∀ topic, topic ≠ u.generateTopic M.source →
    v.lastValue.knownMetrics[topic]? = u.lastValue.knownMetrics[topic]?
  changedStatus : ∀ q, q ≠ M.source → v.changedStatus[q]? = u.changedStatus[q]?
  changetimestamp : ∀ q, q ≠ M.source → v.changetimestamp[q]? = u.changetimestamp[q]?
  advertisedtimestamp : ∀ q, q ≠ M.source → v.advertisedtimestamp[q]? = u.advertisedtimestamp[q]?

omit [Double V] in
theorem TouchedBy.refl (M : MetricInfo V) (u : TPUnit V) : TouchedBy M u u :=
  ⟨rfl, fun _ => Iff.rfl, fun _ _ _ => rfl, fun _ _ => rfl, fun _ _ => rfl, fun _ _ => rfl,
    fun _ _ => rfl⟩

omit [Double V] in
/-- `setMeasurement` writes at one topic of one device. -/
theorem touchedBy_setMeasurement (u : TPUnit V) (M : MetricInfo V) :
    TouchedBy M u (u.setMeasurement M) := by
  rw [setMeasurement]
  split
  · rename_i l hl
    refine ⟨rfl, fun device => ?_, fun device topic hne => ?_, fun _ _ => rfl, fun _ _ => rfl,
      fun _ _ => rfl, fun _ _ => rfl⟩
    · have hmem := u.mem_powerdevices_setMeasurement M device
      rwa [setMeasurement, hl] at hmem
    · rw [TreeMap.getElem?_insert]
      by_cases hdevice : M.elementName = device
      · obtain rfl := hdevice
        have htopic : M.generateTopic ≠ topic := (hne.resolve_left (fun h => h rfl)).symm
        simp [hl, htopic]
      · simp [hdevice]
  · exact .refl M u

omit [Double V] in
/-- The calculation that follows writes nothing but the total of the quantity. -/
theorem TouchedBy.onlyTotal {M : MetricInfo V} {u v w : TPUnit V} (h : TouchedBy M u v)
    (hvw : OnlyTotal M.source v w) : TouchedBy M u w where
  name := hvw.name.trans h.name
  mem_powerdevices device := by rw [hvw.powerdevices, h.mem_powerdevices]
  measurements device topic hne := by rw [hvw.powerdevices, h.measurements device topic hne]
  lastValue topic hne := by
    have htopic : v.generateTopic M.source = u.generateTopic M.source := by
      rw [generateTopic, generateTopic, h.name]
    rw [hvw.lastValue topic (htopic ▸ hne), h.lastValue topic hne]
  changedStatus q hq := (hvw.changedStatus q hq).trans (h.changedStatus q hq)
  changetimestamp q hq := (hvw.changetimestamp q hq).trans (h.changetimestamp q hq)
  advertisedtimestamp q hq := (hvw.advertisedtimestamp q hq).trans (h.advertisedtimestamp q hq)

end TPUnit

/-! ### One kind of units -/

variable (env) in
/-- The history grows by at most one call, of the unit of the affected owner. -/
theorem history_processMetricFor (a : Agent V) (kind : Kind) (M : MetricInfo V)
    (quantity : String) :
    (Agent.processMetricFor env kind M quantity a).world.history = a.world.history ∨
    ∃ call : Call V, (Agent.processMetricFor env kind M quantity a).world.history =
        .sendMeasurement call :: a.world.history ∧
      call.kind = kind ∧ call.quantity = quantity ∧
      (a.conf.group kind).affected[M.elementName]? = some call.owner := by
  rcases processMetricFor_cases env a kind M quantity with
    h | ⟨owner, hquantity, haffected, h⟩
  · rw [h]
    exact Or.inl rfl
  · rw [h]
    cases hu : a.unit? kind owner with
    | none =>
      rw [Agent.onUnit_of_none hu, Agent.onUnit_of_none hu]
      exact Or.inl rfl
    | some u =>
      have hworld : (a.onUnit kind owner (setMeasurement M)).world = a.world :=
        Agent.world_onUnit_of_some hu
      have hunit : (a.onUnit kind owner (setMeasurement M)).unit? kind owner =
          some (u.setMeasurement M) := by
        rw [Agent.unit?_onUnit, if_pos ⟨rfl, rfl⟩, hu]
        rfl
      obtain ⟨call, hw, hkind, howner, hq, -⟩ :=
        sendMeasurement_cases env kind owner quantity (u.setMeasurement M) a.world
      refine Or.inr ⟨call, ?_, hkind, hq, howner.symm ▸ haffected⟩
      rw [Agent.world_onUnit_of_some hunit, hworld, hw, history_record]

/-! ### A metric in a run -/

variable (env) in
/-- The history of the calls that a metric makes: at most one for each kind. -/
theorem history_processMetric (a : Agent V) (M : MetricInfo V) (topic : String) :
    ∃ new : List (Call V), (a.processMetric env M topic).world.history =
        new.map Event.sendMeasurement ++ a.world.history ∧
      (new.map Call.kind).Nodup ∧ ∀ call ∈ new, call.quantity = quantityOf topic ∧
        (a.conf.group call.kind).affected[M.elementName]? = some call.owner := by
  rw [Agent.processMetric]
  generalize quantityOf topic = quantity
  have hdc := history_processMetricFor env
    (Agent.processMetricFor env .rack M quantity a) .dc M quantity
  rw [affected_processMetricFor] at hdc
  rcases history_processMetricFor env a .rack M quantity with
    hrack | ⟨rack, hrack, hkind, hq, howner⟩ <;> rw [hrack] at hdc <;>
    rcases hdc with hdc | ⟨dc, hdc, hkind', hq', howner'⟩ <;> rw [hdc]
  · exact ⟨[], rfl, by simp, by simp⟩
  · exact ⟨[dc], rfl, by simp, by simpa [hkind'] using ⟨hq', howner'⟩⟩
  · exact ⟨[rack], rfl, by simp, by simpa [hkind] using ⟨hq, howner⟩⟩
  · exact ⟨[dc, rack], rfl, by simp [hkind, hkind'],
      by simpa [hkind, hkind'] using ⟨⟨hq', howner'⟩, hq, howner⟩⟩

/-- A metric under its own topic touches a unit as `TouchedBy` says, and no unit but those of the
affected owners of its device. -/
theorem unit?_processMetric_cases (a : Agent V) {M : MetricInfo V} (hsource : '@' ∉ M.source.toList)
    (kind : Kind) (owner : String) :
    ((a.conf.group kind).affected[M.elementName]? ≠ some owner →
      (a.processMetric env M M.generateTopic).unit? kind owner = a.unit? kind owner) ∧
    (a.unit? kind owner = none → (a.processMetric env M M.generateTopic).unit? kind owner = none) ∧
    ∀ u, a.unit? kind owner = some u →
      ∃ v, (a.processMetric env M M.generateTopic).unit? kind owner = some v ∧ u.TouchedBy M v := by
  obtain ⟨b, -, hunit⟩ := unit?_processMetric env a M M.generateTopic kind owner
  rw [hunit, MetricInfo.generateTopic, quantityOf_topicOf M.elementName hsource]
  refine ⟨fun hne => if_neg fun h => hne h.2, fun hnone => ?_, fun u hu => ?_⟩
  · rw [hnone]
    exact ite_self none
  · rw [hu]
    split
    · exact ⟨_, rfl, (u.touchedBy_setMeasurement M).onlyTotal
        (onlyTotal_sendMeasurement env kind owner M.source (u.setMeasurement M) b.world)⟩
    · exact ⟨u, rfl, .refl M u⟩

/-- A metric of a device without an affected owner changes nothing. -/
theorem processMetric_of_not_affected (a : Agent V) {M : MetricInfo V} (topic : String)
    (h : ∀ kind, (a.conf.group kind).affected[M.elementName]? = none) :
    a.processMetric env M topic = a := by
  have hfor : ∀ kind, Agent.processMetricFor env kind M (quantityOf topic) a = a := by
    intro kind
    rcases processMetricFor_cases env a kind M (quantityOf topic) with hsame | ⟨owner, -, hsome, -⟩
    · exact hsame
    · rw [h kind] at hsome
      cases hsome
  rw [Agent.processMetric, hfor .rack, hfor .dc]

/-- **A metric touches only its owners.** In every reachable state, a metric under its own topic
whose source has no `@` leaves the schedule, the timer and the maps of the affected owners as they
are, and every unit but those of the affected owners of its device. In these it changes at most what
`TouchedBy` allows, and each kind has at most one call of the sending function, with a metric that
has the name of the unit and the quantity of the source. A metric of an element that is the device
of no unit, such as a total read back under the name of its rack, changes nothing at all. -/
theorem processMetric_touches (env : Env V) (steps : List (Step V)) (M : MetricInfo V)
    (hsource : '@' ∉ M.source.toList) :
    let a := run env steps
    let a' := a.processMetric env M M.generateTopic
    (a'.conf.reconfigPending = a.conf.reconfigPending ∧ a'.conf.timeout = a.conf.timeout ∧
      ∀ kind, (a'.conf.group kind).affected = (a.conf.group kind).affected) ∧
    (∀ kind owner,
      ((a.conf.group kind).affected[M.elementName]? ≠ some owner →
        a'.unit? kind owner = a.unit? kind owner) ∧
      (a.unit? kind owner = none → a'.unit? kind owner = none) ∧
      ∀ u, a.unit? kind owner = some u →
        ∃ v, a'.unit? kind owner = some v ∧ u.TouchedBy M v) ∧
    (∃ new : List (Call V),
      a'.world.history = new.map Event.sendMeasurement ++ a.world.history ∧
      (new.map Call.kind).Nodup ∧ ∀ call ∈ new, call.quantity = M.source ∧
        (a.conf.group call.kind).affected[M.elementName]? = some call.owner ∧
        call.before.name = call.owner ∧
        ∀ N reply, call.sent = some (N, reply) →
          N.elementName = call.owner ∧ N.source = M.source) ∧
    ((∀ kind, (a.conf.group kind).affected[M.elementName]? = none) → a' = a) := by
  intro a a'
  have hunits := Agent.unitsOnly_of_unitMoves
    (Agent.processMetric_unitMoves env M M.generateTopic a)
  obtain ⟨new, hhistory, hkinds, hnew⟩ := history_processMetric env a M M.generateTopic
  refine ⟨⟨hunits.reconfigPending, hunits.timeout, hunits.affected⟩,
    unit?_processMetric_cases a hsource, ⟨new, hhistory, hkinds, fun call hcall => ?_⟩,
    processMetric_of_not_affected a M.generateTopic⟩
  obtain ⟨hq, howner⟩ := hnew call hcall
  rw [MetricInfo.generateTopic, quantityOf_topicOf M.elementName hsource] at hq
  -- the run goes on to the state after the metric, where every call is of its unit
  have hrun : run env (steps ++ [.processMetric M M.generateTopic]) = a' :=
    Agent.run_concat env steps _
  have hcall' : call ∈ calls (run env
      (steps ++ [.processMetric M M.generateTopic])).world.history := by
    rw [hrun, hhistory, calls, List.filterMap_append, List.mem_append, List.filterMap_map]
    exact Or.inl (List.mem_filterMap.mpr ⟨call, hcall, rfl⟩)
  obtain ⟨-, -, hbefore, -⟩ := (wellNamed_invariant.run _).calls call hcall'
  refine ⟨hq, howner, hbefore.name_eq, fun N reply hsent => ?_⟩
  obtain ⟨helement, hsource', -⟩ := form_of_sent _ hcall' hsent
  exact ⟨helement, hsource'.trans hq⟩

theorem processMetric_touches_oneRack :
    let a := run oneRackEnv [.configure]
    let a' := a.processMetric oneRackEnv epduMetric epduMetric.generateTopic
    (a'.conf.reconfigPending = a.conf.reconfigPending ∧ a'.conf.timeout = a.conf.timeout ∧
      ∀ kind, (a'.conf.group kind).affected = (a.conf.group kind).affected) ∧
    (∀ kind owner,
      ((a.conf.group kind).affected["epdu-1"]? ≠ some owner →
        a'.unit? kind owner = a.unit? kind owner) ∧
      (a.unit? kind owner = none → a'.unit? kind owner = none) ∧
      ∀ u, a.unit? kind owner = some u →
        ∃ v, a'.unit? kind owner = some v ∧ u.TouchedBy epduMetric v) ∧
    (∃ new : List (Call Exact),
      a'.world.history = new.map Event.sendMeasurement ++ a.world.history ∧
      (new.map Call.kind).Nodup ∧ ∀ call ∈ new, call.quantity = "realpower.default" ∧
        (a.conf.group call.kind).affected["epdu-1"]? = some call.owner ∧
        call.before.name = call.owner ∧
        ∀ N reply, call.sent = some (N, reply) →
          N.elementName = call.owner ∧ N.source = "realpower.default") ∧
    ((∀ kind, (a.conf.group kind).affected["epdu-1"]? = none) → a' = a) :=
  processMetric_touches oneRackEnv [.configure] epduMetric (by decide)

end MetricTPower
