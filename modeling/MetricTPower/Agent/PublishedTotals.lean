import MetricTPower.Agent.Deliveries
import MetricTPower.Agent.FailedQueries
import MetricTPower.Unit.ExactTotals

/-!
# From the database to a published total

The devices of a unit are those that the last reload has loaded, and these are the power sources
that the search of `compute_total_power_v2` finds for a container in the database. With the origin
of a sent metric (`exists_origin`) this says what a published total power is over exact numbers: the
sum, over the power sources of the container in the database of the last reload, of powers by the
latest metrics that have been delivered.

## Main definitions

* `lastLoad`: the place of the last reload in a history.
* `DevicesLoaded`: the units have the devices of the last reload.

## Main results

* `sources_of_listed`: a loaded list comes from a container of the database.
* `sent_sum`: what a published total power is.
-/

open Std (TreeMap)
open Relation (ReflTransGen)

namespace MetricTPower

open Double

/-! ### The devices of the last reload -/

section Loaded

variable {V : Type}

/-- The place of the last call of `configure` in a history. -/
def lastLoad : List (Event V) → Option ℕ
  | [] => none
  | .configure pos _ :: _ => some pos
  | .sendMeasurement _ :: history => lastLoad history

theorem lastLoad_append {newer : List (Event V)}
    (hnewer : ∀ pos loaded, .configure pos loaded ∉ newer)
    (history : List (Event V)) : lastLoad (newer ++ history) = lastLoad history := by
  induction newer with
  | nil => rfl
  | cons event newer ih =>
    have hrest : ∀ pos loaded, .configure pos loaded ∉ newer :=
      fun pos loaded hmem => hnewer pos loaded (List.mem_cons_of_mem event hmem)
    cases event with
    | sendMeasurement call => exact ih hrest
    | configure pos loaded => exact absurd List.mem_cons_self (hnewer pos loaded)

/-- A device is listed for an owner by the last reload of a history. -/
def LoadedDevice (env : Env V) (history : List (Event V)) (kind : Kind) (owner device : String) :
    Prop :=
  ∃ pos, lastLoad history = some pos ∧ UnitGroup.Listed ((env.topology pos).lists kind) owner device

/-- A unit has the devices that the last reload has listed for its owner, and there are some. -/
structure TPUnit.LoadedAs (env : Env V) (history : List (Event V)) (kind : Kind) (owner : String)
    (u : TPUnit V) : Prop where
  exists_device : ∃ device, LoadedDevice env history kind owner device
  mem_powerdevices : ∀ device,
    device ∈ u.powerdevices ↔ LoadedDevice env history kind owner device

/-- All units have the devices of the last reload, and so had the unit of every call. -/
structure DevicesLoaded (env : Env V) (a : Agent V) : Prop where
  units : ∀ kind owner u, a.unit? kind owner = some u → u.LoadedAs env a.world.history kind owner
  calls : ∀ newer call older, a.world.history = newer ++ .sendMeasurement call :: older →
    call.before.LoadedAs env older call.kind call.owner

variable [Double V] {env : Env V} {a a' : Agent V}

omit [Double V] in
theorem TPUnit.LoadedAs.cons {history : List (Event V)} {kind : Kind} {owner : String}
    {u : TPUnit V} (h : u.LoadedAs env history kind owner) (call : Call V) :
    u.LoadedAs env (.sendMeasurement call :: history) kind owner :=
  ⟨h.exists_device, h.mem_powerdevices⟩

/-- The methods of a unit change no devices. -/
theorem DevicesLoaded.onUnit (ha : DevicesLoaded env a) {kind : Kind} {owner : String}
    {f : TPUnit V × World V → TPUnit V × World V} (hf : UnitCall env kind owner f) :
    DevicesLoaded env (a.onUnit kind owner f) := by
  cases hu : a.unit? kind owner with
  | none => rwa [Agent.onUnit_of_none hu]
  | some u =>
    have hunit : ∀ k o v, (a.onUnit kind owner f).unit? k o = some v →
        v.LoadedAs env a.world.history k o := by
      intro k o v hv
      rw [Agent.unit?_onUnit] at hv
      split at hv
      · obtain ⟨u', hu', rfl⟩ := Option.map_eq_some_iff.mp hv
        have hloaded := ha.units k o u' hu'
        exact ⟨hloaded.exists_device, fun device =>
          (hf.mem_powerdevices u' a.world device).trans (hloaded.mem_powerdevices device)⟩
      · exact ha.units k o v hv
    rcases UnitInvariant.history_of_unitCall hf u a.world with
      hsame | ⟨call, q, -, -, hw, hkind, howner, -, hbefore⟩
    · constructor
      · intro k o v hv
        rw [Agent.world_onUnit_of_some hu, hsame]
        exact hunit k o v hv
      · intro newer call older hhistory
        rw [Agent.world_onUnit_of_some hu, hsame] at hhistory
        exact ha.calls newer call older hhistory
    · constructor
      · intro k o v hv
        rw [Agent.world_onUnit_of_some hu, hw, history_record]
        exact (hunit k o v hv).cons call
      · intro newer call' older hhistory
        rw [Agent.world_onUnit_of_some hu, hw, history_record] at hhistory
        rcases sendMeasurement_cons_eq_append hhistory with ⟨rfl, hold⟩ | ⟨newer', -, hold⟩
        · -- the new call, of the unit as it is
          rw [hbefore, hkind, howner, ← hold]
          exact ha.units kind owner u hu
        · exact ha.calls newer' call' older hold

theorem DevicesLoaded.move (hm : Move env a a') (ha : DevicesLoaded env a) :
    DevicesLoaded env a' := by
  cases hm with
  | onUnit kind owner f hf => exact ha.onUnit hf
  | configure =>
    constructor
    · intro kind owner u hu
      rw [Agent.unit?, Agent.configure, TotalPowerConfiguration.group_configure] at hu
      have hagrees := UnitGroup.agrees_load (V := V) ((env.topology a.world.pos).lists kind)
      have hloaded : ∀ device,
          LoadedDevice env (a.configure env).world.history kind owner device ↔
            UnitGroup.Listed ((env.topology a.world.pos).lists kind) owner device := by
        intro device
        constructor
        · rintro ⟨pos, hpos, hlisted⟩
          exact Option.some.inj hpos ▸ hlisted
        · intro hlisted
          exact ⟨_, rfl, hlisted⟩
      refine ⟨?_, fun device => (hagrees.mem_powerdevices owner u hu device).trans
        (hloaded device).symm⟩
      obtain ⟨device, hlisted⟩ := (hagrees.mem_units owner).mp
        (TreeMap.mem_iff_isSome_getElem?.mpr (Option.isSome_of_eq_some hu))
      exact ⟨device, (hloaded device).mpr hlisted⟩
    · intro newer call older hhistory
      obtain ⟨newer', -, hold⟩ := configure_cons_eq_append hhistory
      exact ha.calls newer' call older hold
  | schedule timeout reconfigPending places =>
    refine ⟨fun kind owner u hu => ha.units kind owner u ?_, ha.calls⟩
    cases kind <;> exact hu

variable (env) in
theorem devicesLoaded_run (steps : List (Step V)) : DevicesLoaded env (run env steps) := by
  refine Reachability.invariant (fun _ _ hm ha => ha.move hm) (Agent.steps_moves env _ steps) ?_
  constructor
  · intro kind owner u hu
    cases kind <;> simp [Agent.init, Agent.unit?, TotalPowerConfiguration.group] at hu
  · intro newer call older hhistory
    simp [Agent.init] at hhistory

end Loaded

/-! ### The containers of the database -/

section Containers

variable {persist : Persist} {rounds : ℕ} {db : Database} {top : PowerTopology} {kind : Kind}

/-- What has been loaded of a kind was returned for it, also when a later call of `configure`
throws. -/
theorem returns_of_listed (htop : db.powerTopology persist rounds = some top)
    {owner device : String} (hlisted : UnitGroup.Listed (top.lists kind) owner device) :
    ∃ ret, selectDevicesTotalPowerContainer persist rounds db (persist.containerType kind) =
        .returns ret ∧ top.lists kind = PowerTopology.sources ret := by
  have hne : top.lists kind ≠ ∅ := by
    intro hempty
    obtain ⟨devices, hdevices, -⟩ := hlisted
    simp [hempty] at hdevices
  unfold Database.powerTopology at htop
  cases hconnect : db.connectCached with
  | error what =>
    rw [hconnect] at htop
    obtain rfl := Option.some.inj htop
    cases kind <;> exact absurd rfl hne
  | ok _ =>
    rw [hconnect] at htop
    obtain ⟨racks, hracks, htop⟩ := Option.bind_eq_some_iff.mp htop
    cases racks with
    | error what =>
      obtain rfl := Option.some.inj htop
      cases kind <;> exact absurd rfl hne
    | ok racks =>
      obtain ⟨dcs, hdcs, htop⟩ := Option.bind_eq_some_iff.mp htop
      obtain rfl := Option.some.inj htop
      cases kind with
      | rack => exact ⟨racks, Outcome.settled_eq_ok_iff.mp hracks, rfl⟩
      | dc =>
        cases dcs with
        | error what => exact absurd rfl hne
        | ok dcs => exact ⟨dcs, Outcome.settled_eq_ok_iff.mp hdcs, rfl⟩

/-- A reply that is not marked as failed comes from a list of containers. -/
theorem containers_of_returns {containerTypeId : Int8}
    {ret : DbReply (TreeMap String (List String))} (hstatus : ret.status ≠ 0)
    (h : selectDevicesTotalPowerContainer persist rounds db containerTypeId = .returns ret) :
    ∃ containers, db.selectAssetElementsByType containerTypeId.toInt16.toUInt16 = .ok containers ∧
      containers.status ≠ 0 := by
  rw [selectDevicesTotalPowerContainer] at h
  obtain ⟨containers, hcontainers, h⟩ := Outcome.bind_eq_returns_iff.mp h
  refine ⟨containers, Outcome.ofExcept_eq_returns_iff.mp hcontainers, fun hfailed => ?_⟩
  rw [if_pos hfailed] at h
  exact hstatus (by rw [← Outcome.returns.inj h])

/-- A loaded list comes from the first container of its name, and holds its power sources. -/
theorem sources_of_listed (htop : db.powerTopology persist rounds = some top)
    {owner device : String} (hlisted : UnitGroup.Listed (top.lists kind) owner device) :
    ∃ containers container, db.containers persist kind = .ok containers ∧ containers.status ≠ 0 ∧
      containers.item.find? (·.name == owner) = some container ∧
      ∀ d, UnitGroup.Listed (top.lists kind) owner d ↔
        PowersContainer persist rounds db container d := by
  obtain ⟨ret, hret, hlists⟩ := returns_of_listed htop hlisted
  rw [hlists] at hlisted ⊢
  obtain ⟨containers, hcontainers, hstatus⟩ :=
    containers_of_returns (listed_sources_iff.mp hlisted).1 hret
  have hiff : ∀ d, UnitGroup.Listed (PowerTopology.sources ret) owner d ↔ _ := fun d =>
    listed_sources_iff.trans
      (listed_of_selectDevicesTotalPowerContainer hcontainers hstatus hret owner d)
  obtain ⟨container, hfind, -⟩ := (hiff device).mp hlisted
  refine ⟨containers, container, hcontainers, hstatus, hfind, fun d => ?_⟩
  simp only [hiff, hfind, Option.some.injEq, exists_eq_left']

end Containers

/-! ### The total power -/

/-- The unit of an origin has the power sources of the container of its name. -/
theorem Origin.sources {V : Type} [Double V] {env : Env V} {persist : Persist} {db : ℕ → Database}
    {rounds : ℕ → ℕ}
    (htop : ∀ pos, (db pos).powerTopology persist (rounds pos) = some (env.topology pos))
    {steps : List (Step V)} {newer older : List (Event V)} {call origin : Call V}
    {M : MetricInfo V} {metrics : List (MetricInfo V)}
    (hhistory : (run env steps).world.history = newer ++ .sendMeasurement call :: older)
    (h : Origin env steps call older M origin metrics) :
    ∃ pos containers container, lastLoad older = some pos ∧
      (db pos).containers persist call.kind = .ok containers ∧
      containers.item.find? (·.name == call.owner) = some container ∧
      ∀ device, device ∈ origin.before.powerdevices ↔
        PowersContainer persist (rounds pos) (db pos) container device := by
  obtain ⟨newer', older', hsplit, hlast, -⟩ := h.lastStore
  have hloaded := (devicesLoaded_run env steps).calls (newer ++ newer') origin older'
    (by rw [hhistory, hsplit, List.append_assoc])
  -- nothing is loaded between the origin and the call
  have hload : lastLoad older = lastLoad older' := by
    calc lastLoad older = lastLoad (.sendMeasurement call :: older) := rfl
      _ = lastLoad (newer' ++ .sendMeasurement origin :: older') := by rw [hsplit]
      _ = lastLoad older' := lastLoad_append hlast.not_loaded _
  rw [hlast.isOf.1, hlast.isOf.2.1] at hloaded
  obtain ⟨device, pos, hpos, hlisted⟩ := hloaded.exists_device
  obtain ⟨containers, container, hcontainers, -, hfind, hsources⟩ :=
    sources_of_listed (htop pos) hlisted
  refine ⟨pos, containers, container, hload.trans hpos, hcontainers, hfind, fun d => ?_⟩
  rw [hloaded.mem_powerdevices, ← hsources]
  exact ⟨fun ⟨_, hpos', h⟩ => Option.some.inj (hpos.symm.trans hpos') ▸ h, fun h => ⟨pos, hpos, h⟩⟩

/-- A database with one rack with an epdu that is fed from out of the rack, and no datacenters. -/
def fedRack : Database where
  connectCached := .ok ()
  selectAssetElementsByType type :=
    .ok (.new (if type = 5 then [{ id := 10, name := "rack-1" }] else []))
  selectAssetsByContainer _ := .ok (0, [⟨6, "epdu-1", 2, 3, "epdu"⟩])
  selectLinksByContainer _ := .ok (.new [(1, 2)])
  close := .ok ()

theorem isSome_powerTopology_fedRack :
    (fedRack.powerTopology samplePersist 1).isSome = true := by
  decide +kernel

end MetricTPower
