import MetricTPower.Agent.Polling
import MetricTPower.Agent.Routing
import MetricTPower.Unit.Reads

/-!
# Calculating with and without a purge

The poll purges the expired measurements of a unit before it calculates; the processing of a metric
does not, on purpose: the purge belongs to the periodic overload of `sendMeasurement`. So a total
calculated for a metric counts all measurements that the unit holds, and one calculated by a poll
those that are not expired. The two are the same where no value that the calculation reads is
expired. Otherwise an expired measurement may still count, until the next poll: nothing else takes a
measurement away (`processMetric_countsUntilPoll`).

## Main results

* `measurementOf_step`: what a call other than a poll or a reload does to a measurement.
* `processMetric_countsUntilPoll`: what counts for a metric and what for a poll.
-/

open Std (TreeMap)

namespace MetricTPower

open Double

variable {V : Type} [Double V] {env : Env V}

/-! ### Measurements between two polls -/

section BetweenPolls

variable {kind : Kind} {owner device q : String} {m : MetricInfo V} {u : TPUnit V}

/-- A call that is no poll and no reload leaves a measurement of a unit, unless it is a metric of
its device and quantity. -/
theorem measurementOf_step (a : Agent V) {s : Step V} (hpoll : s ≠ .onPoll)
    (hreload : s ≠ .configure) (hu : a.unit? kind owner = some u)
    (hm : u.measurementOf device q = some m)
    (hmetric : ∀ N topic, s = .processMetric N topic → N.elementName = device → N.source ≠ q) :
    ∃ v, (a.step env s).unit? kind owner = some v ∧ v.measurementOf device q = some m := by
  cases s with
  | configure => exact absurd rfl hreload
  | onPoll => exact absurd rfl hpoll
  | setPollInterval => exact ⟨u, hu, hm⟩
  | processAsset operation =>
    have hsame : (a.processAsset env operation).unit? kind owner = a.unit? kind owner := by
      rw [Agent.processAsset, Agent.scheduleReconfig]
      split_ifs <;> cases kind <;> rfl
    exact ⟨u, hsame.trans hu, hm⟩
  | processMetric N topic =>
    obtain ⟨b, -, hunit⟩ := unit?_processMetric env a N topic kind owner
    rw [hu] at hunit
    split at hunit
    · refine ⟨_, hunit, ?_⟩
      rw [TPUnit.measurementOf_congr (powerdevices_sendMeasurement ..),
        TPUnit.measurementOf_setMeasurement, if_neg, hm]
      exact fun h => hmetric N topic rfl h.1 h.2.1
    · exact ⟨u, hunit, hm⟩

theorem measurementOf_steps (steps : List (Step V)) (a : Agent V)
    (hsteps : ∀ s ∈ steps, s ≠ .onPoll ∧ s ≠ .configure) (hu : a.unit? kind owner = some u)
    (hm : u.measurementOf device q = some m)
    (hmetric : ∀ N topic, .processMetric N topic ∈ steps → N.elementName = device →
      N.source ≠ q) :
    ∃ v, (a.steps env steps).unit? kind owner = some v ∧ v.measurementOf device q = some m := by
  induction steps generalizing a u with
  | nil => exact ⟨u, hu, hm⟩
  | cons s steps ih =>
    obtain ⟨hpoll, hreload⟩ := hsteps s List.mem_cons_self
    obtain ⟨v, hv, hvm⟩ := measurementOf_step a hpoll hreload hu hm fun N topic hs =>
      hmetric N topic (hs ▸ List.mem_cons_self)
    exact ih (a.step env s) (fun x hx => hsteps x (List.mem_cons_of_mem s hx)) hv hvm
      fun N topic hN => hmetric N topic (List.mem_cons_of_mem s hN)

end BetweenPolls

/-! ### The two paths -/

/-- **What counts for a metric and what for a poll.** In every reachable state, when a metric goes
to a unit for a quantity, with the clock at one reading from then on: the unit stores the metric and
calculates the quantity from all the measurements that it holds, expired or not; a poll without a
reload calculates it from exactly those that are not expired; and both come to the same outcome, be
it the sum or the exception, when no value that the former calculation reads is expired. Until the
next poll or reload a measurement goes on to count, unless a metric of its device and quantity
replaces it. -/
theorem processMetric_countsUntilPoll (env : Env V) (before : List (Step V)) (kind : Kind)
    (owner : String) (u : TPUnit V) (M : MetricInfo V) (topic : String) (now : Int64)
    (hu : (run env before).unit? kind owner = some u)
    (hquantity : quantityOf topic ∈ kind.quantities)
    (haffected : ((run env before).conf.group kind).affected[M.elementName]? = some owner)
    (hclock : ∀ i, (run env before).world.pos ≤ i → env.time i = now) :
    let quantity := quantityOf topic
    let a := (run env before).processMetric env M topic
    let stored := u.setMeasurement M
    let purged := stored.dropOldMetricInfos fun _ => now
    stored.measurementOf M.elementName M.source = some M ∧
    (∃ v, a.unit? kind owner = some v ∧ v.name = u.name ∧ v.powerdevices = stored.powerdevices ∧
      v.storedTotal quantity = (stored.calculate quantity now).storedTotal quantity ∧
      ((a.onPoll env).loads = a.loads → ∃ v', (a.onPoll env).unit? kind owner = some v' ∧
        v'.storedTotal quantity =
          ((v.dropOldMetricInfos fun _ => now).calculate quantity now).storedTotal quantity) ∧
      (v.dropOldMetricInfos fun _ => now).calculation quantity now =
        purged.calculation quantity now) ∧
    stored.CountsHeld quantity now ∧ purged.CountsHeld quantity now ∧
    (∀ device q, purged.measurementOf device q =
      (stored.measurementOf device q).filter fun m => !m.expired now) ∧
    ((∀ device q, stored.Reads quantity device q → ∀ m, stored.measurementOf device q = some m →
        isnan m.value = false → m.expired now = false) →
      purged.calculation quantity now = stored.calculation quantity now) ∧
    ∀ after : List (Step V), (∀ s ∈ after, s ≠ .onPoll ∧ s ≠ .configure) →
      ∀ device q m, stored.measurementOf device q = some m →
        (∀ N topic, .processMetric N topic ∈ after → N.elementName = device → N.source ≠ q) →
        ∃ v, (a.steps env after).unit? kind owner = some v ∧
          v.measurementOf device q = some m := by
  intro quantity a stored purged
  have hmem : M.elementName ∈ u.powerdevices := by
    obtain ⟨listed, hagrees⟩ := exists_agrees_run env before kind
    exact (hagrees.mem_powerdevices owner u hu M.elementName).mpr
      (hagrees.listed_of_affected M.elementName owner haffected)
  have hmem' : M.elementName ∈ stored.powerdevices :=
    (u.mem_powerdevices_setMeasurement M M.elementName).mpr hmem
  obtain ⟨b, hmoves, hunit⟩ := unit?_processMetric env (run env before) M topic kind owner
  rw [if_pos ⟨hquantity, haffected⟩, hu, Option.map_some] at hunit
  generalize hv : (sendMeasurement env kind owner quantity (stored, b.world)).1 = v at hunit
  have hdevices : v.powerdevices = stored.powerdevices := hv ▸ powerdevices_sendMeasurement ..
  have hname : v.name = stored.name := hv ▸ name_sendMeasurement ..
  have hunits := Agent.unitsOnly_of_unitMoves
    (Agent.processMetric_unitMoves env M topic (run env before))
  refine ⟨?_, ⟨v, hunit, ?_, hdevices, ?_, fun hloads => ?_, ?_⟩,
    stored.countsHeld quantity now ⟨_, hmem'⟩, purged.countsHeld quantity now
      ⟨_, (stored.mem_powerdevices_dropOldMetricInfos _ M.elementName).mpr hmem'⟩,
    stored.measurementOf_dropOldMetricInfos fun _ => now,
    stored.calculation_dropOldMetricInfos quantity now, ?_⟩
  · rw [TPUnit.measurementOf_setMeasurement, if_pos ⟨rfl, rfl, hmem⟩]
  · rw [hname, TPUnit.name_setMeasurement]
  · have hpos := Agent.pos_le_of_moves (moves_of_unitMoves hmoves)
    rw [← hv, storedTotal_sendMeasurement, if_pos rfl, hclock _ hpos]
  · have hpos := Agent.pos_le_of_moves (moves_of_unitMoves
      (Agent.processMetric_unitMoves env M topic (run env before)))
    obtain ⟨v', hv', -, htotal⟩ := Agent.storedTotal_onPoll a hunit hquantity
      (fun i hi => hclock i (hpos.trans hi)) hloads
    exact ⟨v', hv', htotal⟩
  · refine TPUnit.calculation_congr ?_ hname
    simp only [TPUnit.dropOldMetricInfos, hdevices, purged]
  · intro after hafter device q m hm hmetric
    exact measurementOf_steps after a hafter hunit
      ((TPUnit.measurementOf_congr hdevices device q).trans hm) hmetric

/-- A database with one datacenter with one epdu, and no racks. -/
def oneDc : PowerTopology where
  connection := .ok ()
  racks := .ok { status := 0, item := ∅ }
  dcs := .ok (.new ((∅ : TreeMap String (List String)).insert "dc-1" ["epdu-1"]))
  close := .ok ()

/-- The database with one datacenter, a sending function that succeeds, and a clock that stands at
1000 for the reload and one metric, and at 1100 from then on. -/
def oneDcEnv : Env Exact where
  time place := if place < 5 then 1000 else 1100
  reply _ _ := .returned true
  topology _ := oneDc

/-- The epdu of the datacenter sends its first output phase, which is expired at 1100. -/
def stalePhaseSteps : List (Step Exact) :=
  [.configure, .processMetric { epduMetric with source := "realpower.output.L1" }
    "realpower.output.L1@epdu-1"]

/-- And then `realpower.default`. -/
def laterMetric : MetricInfo Exact :=
  { epduMetric with timestamp := 1100 }

/-- The purge takes the phase away, which the calculation does not read: both paths come to the same
total. -/
theorem processMetric_countsUntilPoll_stalePhase :
    ∃ u, (run oneDcEnv stalePhaseSteps).unit? .dc "dc-1" = some u ∧
      let stored := u.setMeasurement laterMetric
      let purged := stored.dropOldMetricInfos fun _ => 1100
      (stored.measurementOf "epdu-1" "realpower.output.L1").isSome = true ∧
      (purged.measurementOf "epdu-1" "realpower.output.L1").isSome = false ∧
      (stored.calculation "realpower.default" 1100).isOk = true ∧
      purged.calculation "realpower.default" 1100 = stored.calculation "realpower.default" 1100 ∧
      ∀ after : List (Step Exact), (∀ s ∈ after, s ≠ .onPoll ∧ s ≠ .configure) →
        ∀ device q m, stored.measurementOf device q = some m →
          (∀ N topic, .processMetric N topic ∈ after → N.elementName = device → N.source ≠ q) →
          ∃ v, (((run oneDcEnv stalePhaseSteps).processMetric oneDcEnv laterMetric
              "realpower.default@epdu-1").steps oneDcEnv after).unit? .dc "dc-1" = some v ∧
            v.measurementOf device q = some m := by
  have hdc : ((run oneDcEnv stalePhaseSteps).unit? .dc "dc-1").isSome = true := by decide +kernel
  have hpos : (run oneDcEnv stalePhaseSteps).world.pos = 5 := by decide +kernel
  have hphase : ∀ h : ((run oneDcEnv stalePhaseSteps).unit? .dc "dc-1").isSome = true,
      ((((run oneDcEnv stalePhaseSteps).unit? .dc "dc-1").get h).setMeasurement
        laterMetric |>.measurementOf "epdu-1" "realpower.output.L1").isSome = true := by
    decide +kernel
  have hpurged : ∀ h : ((run oneDcEnv stalePhaseSteps).unit? .dc "dc-1").isSome = true,
      ((((run oneDcEnv stalePhaseSteps).unit? .dc "dc-1").get h).setMeasurement laterMetric
        |>.dropOldMetricInfos (fun _ => 1100)
        |>.measurementOf "epdu-1" "realpower.output.L1").isSome = false := by
    decide +kernel
  have htotal : ∀ h : ((run oneDcEnv stalePhaseSteps).unit? .dc "dc-1").isSome = true,
      ((((run oneDcEnv stalePhaseSteps).unit? .dc "dc-1").get h).setMeasurement
        laterMetric |>.calculation "realpower.default" 1100).isOk = true := by
    decide +kernel
  have hdevices : ∀ h : ((run oneDcEnv stalePhaseSteps).unit? .dc "dc-1").isSome = true,
      ∀ it ∈ ((((run oneDcEnv stalePhaseSteps).unit? .dc "dc-1").get h).setMeasurement
        laterMetric).powerdevices.toList,
        it.1 = "epdu-1" ∧ TPUnit.isMissing "realpower.default" it = false := by
    decide +kernel
  obtain ⟨hstored, -, -, -, -, hsame, hkept⟩ :=
    processMetric_countsUntilPoll oneDcEnv stalePhaseSteps .dc "dc-1" _ laterMetric
      "realpower.default@epdu-1" 1100 (Option.some_get hdc).symm (by decide) (by decide +kernel)
      fun i hi => if_neg (by omega)
  refine ⟨_, (Option.some_get hdc).symm, hphase hdc, hpurged hdc, htotal hdc, hsame ?_, hkept⟩
  -- the one measurement that is read is the metric itself
  rintro device q ⟨before, measurements, after, hsplit, -, hq⟩ m hm -
  have hit := hdevices hdc (device, measurements)
    (hsplit ▸ List.mem_append_right before List.mem_cons_self)
  obtain rfl : device = "epdu-1" := hit.1
  have hname : quantityOf "realpower.default@epdu-1" = "realpower.default" := by decide
  have hquantity : q = "realpower.default" := by
    rw [hname] at hq
    simpa [TPUnit.defaultReads, hit.2] using hq
  rw [hquantity] at hm
  obtain rfl : laterMetric = m := Option.some.inj (hstored.symm.trans hm)
  decide

/-- A database with one rack with two epdus, and no datacenters. -/
def twoEpdus : PowerTopology where
  connection := .ok ()
  racks := .ok (.new ((∅ : TreeMap String (List String)).insert "rack-1" ["epdu-1", "epdu-2"]))
  dcs := .ok { status := 0, item := ∅ }
  close := .ok ()

/-- The database with two epdus, a sending function that succeeds, and a clock that stands. -/
def twoEpdusEnv : Env Exact where
  time _ := 1000
  reply _ _ := .returned true
  topology _ := twoEpdus

/-- A measurement of the second epdu, a quarter of an hour after that of the first one. -/
def secondMetric : MetricInfo Exact :=
  { epduMetric with elementName := "epdu-2", timestamp := 2000 }

/-- When the second epdu sends a measurement, that of the first one still counts although it is
expired; a purge would have made the calculation fail. -/
theorem expired_measurement_counted :
    ¬ ∀ (env : Env Exact) (steps : List (Step Exact)) (kind : Kind) (owner : String)
        (u : TPUnit Exact) (M : MetricInfo Exact) (now : Int64),
      (run env steps).unit? kind owner = some u →
      ((run env steps).conf.group kind).affected[M.elementName]? = some owner →
      M.source ∈ kind.quantities →
      ((u.setMeasurement M).dropOldMetricInfos fun _ => now).calculation M.source now =
        (u.setMeasurement M).calculation M.source now := by
  intro h
  have hrack : ((run twoEpdusEnv (oneRackSteps.take 2)).unit? .rack "rack-1").isSome = true := by
    decide +kernel
  have hequal := h twoEpdusEnv (oneRackSteps.take 2) .rack "rack-1" _ secondMetric 2000
    (Option.some_get hrack).symm (by decide +kernel) (by decide)
  have hcompletes : ((((run twoEpdusEnv (oneRackSteps.take 2)).unit? .rack "rack-1").get
      hrack).setMeasurement secondMetric |>.calculation secondMetric.source 2000).isOk = true := by
    decide +kernel +revert
  have hfails : ((((run twoEpdusEnv (oneRackSteps.take 2)).unit? .rack "rack-1").get
      hrack).setMeasurement secondMetric |>.dropOldMetricInfos (fun _ => 2000)
      |>.calculation secondMetric.source 2000).isOk = false := by
    clear hequal
    decide +kernel +revert
  rw [hequal, hcompletes] at hfails
  cases hfails

end MetricTPower
