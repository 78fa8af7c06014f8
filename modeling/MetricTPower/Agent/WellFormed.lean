import MetricTPower.Agent.Owners
import MetricTPower.Agent.Publishing

/-!
# The form of what is published

A metric that the agent publishes is a stored total, and a stored total is a metric of its unit for
a quantity of its kind (`WellNamed`); one that is due is known. As long as no container without a
name is loaded, such a total can also be read for sending, so that the branch of `sendMeasurement`
for a total that cannot be read is never taken.

## Main definitions

* `OwnersIn`: the owners of the units and of the calls so far have a property.

## Main results

* `ownersIn_run`: what holds of the containers in the database holds of all owners.
* `published_wellFormed`: the form of every metric given to the sending function.
-/

open Std (TreeMap)
open Relation (ReflTransGen)

namespace MetricTPower

open Double

variable {V : Type} [Double V] {env : Env V}

/-! ### The owners of a run -/

omit [Double V] in
/-- The owners of the units, and those of the calls so far, have a property. -/
structure OwnersIn (Q : Kind → String → Prop) (a : Agent V) : Prop where
  units : ∀ kind owner u, a.unit? kind owner = some u → Q kind owner
  calls : ∀ call ∈ calls a.world.history, Q call.kind call.owner

namespace OwnersIn

variable {Q : Kind → String → Prop} {a a' : Agent V}

omit [Double V] in
theorem init : OwnersIn Q (Agent.init : Agent V) where
  units kind owner u hu := by
    cases kind <;> simp [Agent.init, Agent.unit?, TotalPowerConfiguration.group] at hu
  calls call hcall := by simp [Agent.init, MetricTPower.calls] at hcall

theorem onUnit (h : OwnersIn Q a) {kind : Kind} {owner : String}
    {f : TPUnit V × World V → TPUnit V × World V} (hf : UnitCall env kind owner f) :
    OwnersIn Q (a.onUnit kind owner f) where
  units k o v hv := by
    rw [Agent.unit?_onUnit] at hv
    split at hv
    · obtain ⟨v', hv', -⟩ := Option.map_eq_some_iff.mp hv
      exact h.units k o v' hv'
    · exact h.units k o v hv
  calls call hcall := by
    rcases UnitInvariant.history_onUnit_cases hf a with
      hsame | ⟨call', u, hu, hkind, howner, hnew⟩
    · rw [hsame] at hcall
      exact h.calls call hcall
    · rw [hnew, calls_sendMeasurement] at hcall
      rcases List.mem_cons.mp hcall with rfl | hcall
      · rw [hkind, howner]
        exact h.units kind owner u hu
      · exact h.calls call hcall

omit [Double V] in
/-- The units that `configure` loads are those of containers in the database. -/
theorem configure (h : OwnersIn Q a)
    (hQ : ∀ place kind, ∀ owner ∈ (env.topology place).lists kind, Q kind owner) :
    OwnersIn Q (a.configure env) where
  units kind owner u hu := by
    rw [Agent.unit?, Agent.configure, TotalPowerConfiguration.group_configure] at hu
    have hmem : owner ∈ (({} : UnitGroup V).load
        ((env.topology a.world.pos).lists kind)).units :=
      TreeMap.mem_iff_isSome_getElem?.mpr (Option.isSome_of_eq_some hu)
    obtain ⟨device, devices, hlisted, -⟩ := ((UnitGroup.agrees_load _).mem_units owner).mp hmem
    exact hQ _ kind owner (TreeMap.mem_iff_isSome_getElem?.mpr (Option.isSome_of_eq_some hlisted))
  calls := h.calls

theorem move (hQ : ∀ place kind, ∀ owner ∈ (env.topology place).lists kind, Q kind owner)
    (hm : Move env a a') (h : OwnersIn Q a) : OwnersIn Q a' := by
  cases hm with
  | onUnit kind owner f hf => exact h.onUnit hf
  | configure => exact h.configure hQ
  | schedule timeout reconfigPending places => exact ⟨h.units, h.calls⟩

end OwnersIn

/-- What holds of the containers in the database holds of all owners in every run. -/
theorem ownersIn_run {Q : Kind → String → Prop}
    (hQ : ∀ place kind, ∀ owner ∈ (env.topology place).lists kind, Q kind owner)
    (steps : List (Step V)) : OwnersIn Q (run env steps) :=
  Reachability.invariant (fun _ _ hm h => h.move hQ hm) (Agent.steps_moves env _ steps) .init

/-! ### The form of a metric -/

section Form

variable {kind : Kind} {owner quantity : String} {u : TPUnit V} {M : MetricInfo V}

/-- The form of a metric read for sending from a unit. -/
theorem WellNamed.of_getMetricInfo (h : WellNamed kind owner u)
    (hread : u.getMetricInfo quantity = .ok M) :
    M.elementName = owner ∧ M.source = quantity ∧ M.source ∈ kind.quantities ∧ M.units = "W" ∧
      M.ttl = 360 := by
  obtain ⟨htopic, helement, hsource, hunits, httl⟩ :=
    h.total _ M (TPUnit.getMetricInfo_eq_ok_iff.mp hread).1
  refine ⟨helement, ?_, hsource, hunits, httl⟩
  rwa [MetricInfo.generateTopic, helement, TPUnit.generateTopic, h.name_eq, topicOf_left_inj]
    at htopic

end Form

/-- The form of a metric given to the sending function. -/
theorem form_of_sent (steps : List (Step V)) {call : Call V}
    (hcall : call ∈ calls (run env steps).world.history) {M : MetricInfo V} {reply : Reply}
    (hsent : call.sent = some (M, reply)) :
    M.elementName = call.owner ∧ M.source = call.quantity ∧ M.source ∈ call.kind.quantities ∧
      M.units = "W" ∧ M.ttl = 360 ∧ isnan M.value = false := by
  obtain ⟨w, hq, hbefore, hw⟩ := (wellNamed_invariant.run steps).calls call hcall
  obtain ⟨call', hw', -, -, -, -, -, -, ⟨hnone, -⟩ | ⟨M', hdue, hread, hsome, -⟩⟩ :=
    sendMeasurement_cases env call.kind call.owner call.quantity call.before w
  all_goals obtain rfl : call' = call := w.record_injective (hw'.symm.trans hw)
  · rw [hnone] at hsent
    cases hsent
  · rw [hsome] at hsent
    obtain ⟨rfl, -⟩ := Prod.mk.inj (Option.some.inj hsent)
    obtain ⟨helement, hsource, hkind, hunits, httl⟩ :=
      (hbefore.calculate hq (env.time w.pos)).of_getMetricInfo hread
    refine ⟨helement, hsource, hkind, hunits, httl, ?_⟩
    rw [TPUnit.value_of_getMetricInfo hread]
    exact TPUnit.isnan_storedTotal_of_advertise hdue

/-- **Everything published is well formed.** In every run with non-empty names of containers: each
metric given to the sending function has the name of the unit that the call was made for, the
quantity of the call, which is one of its kind, the unit W, the time to live 360 and a value that is
a number; and when `advertise` says that a total is to be sent, the metric can be read. -/
theorem published_wellFormed (env : Env V) (steps : List (Step V))
    (hnames : ∀ place kind, "" ∉ (env.topology place).lists kind) (call : Call V)
    (hcall : call ∈ calls (run env steps).world.history) :
    (∀ M reply, call.sent = some (M, reply) → M.elementName = call.owner ∧
      M.source = call.quantity ∧ M.source ∈ call.kind.quantities ∧ M.units = "W" ∧ M.ttl = 360 ∧
        isnan M.value = false) ∧
    ((call.before.calculate call.quantity (env.time call.pos)).advertise call.quantity
        (env.time (call.pos + 1)) = true →
      ∃ M, (call.before.calculate call.quantity (env.time call.pos)).getMetricInfo call.quantity =
        .ok M) := by
  refine ⟨fun M reply hsent => form_of_sent steps hcall hsent, fun hdue => ?_⟩
  obtain ⟨w, hq, hbefore, -⟩ := (wellNamed_invariant.run steps).calls call hcall
  have howner : call.owner ≠ "" := (ownersIn_run (Q := fun _ owner => owner ≠ "")
    (fun place kind owner hmem hempty => hnames place kind (hempty ▸ hmem)) steps).calls _ hcall
  exact ((hbefore.calculate hq _).exists_getMetricInfo_iff
    (TPUnit.isnan_storedTotal_of_advertise hdue)).mpr howner

theorem published_wellFormed_oneRack :
    ∃ call ∈ calls (run oneRackEnv oneRackSteps).world.history,
      (∀ M reply, call.sent = some (M, reply) → M.elementName = call.owner ∧
        M.source = call.quantity ∧ M.source ∈ call.kind.quantities ∧ M.units = "W" ∧
          M.ttl = 360 ∧ isnan M.value = false) ∧
      ((call.before.calculate call.quantity (oneRackEnv.time call.pos)).advertise call.quantity
          (oneRackEnv.time (call.pos + 1)) = true →
        ∃ M, (call.before.calculate call.quantity
          (oneRackEnv.time call.pos)).getMetricInfo call.quantity = .ok M) := by
  have hsome : (calls (run oneRackEnv oneRackSteps).world.history).head?.isSome = true := by
    decide +kernel
  have hcall := List.mem_of_mem_head? (Option.get_mem hsome)
  have hnames : ∀ kind, "" ∉ oneRack.lists kind := by
    intro kind
    cases kind <;> decide +kernel
  exact ⟨_, hcall,
    published_wellFormed oneRackEnv oneRackSteps (fun _ kind => hnames kind) _ hcall⟩

end MetricTPower
