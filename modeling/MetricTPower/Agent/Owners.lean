import MetricTPower.Agent.Moves

/-!
# Units and the owners of devices

The maps that `configure` loads belong together (`UnitGroup.Agrees`), and no later call of the agent
takes them apart: the methods of a unit change neither its name nor its devices, and only
`configure` writes the maps of the affected owners. So the units and the affected owners stay those
of the lists that were loaded until the next reload.

## Main results

* `Agent.agrees_onUnit`: a method of a unit keeps the maps together.
* `configure_agrees`: after a successful reload and whatever comes before the next one, the units
  are those of the listed owners, and the affected owner of a device has a unit with the device.
-/

open Std (TreeMap)

namespace MetricTPower

variable {V : Type} [Double V] {env : Env V}

/-! ### What a unit keeps -/

variable (env) in
/-- The unit after `sendMeasurement`: as the calculation leaves it, or marked as advertised. -/
theorem fst_sendMeasurement (kind : Kind) (owner quantity : String) (u : TPUnit V) (w : World V) :
    (sendMeasurement env kind owner quantity (u, w)).1 = u.calculate quantity (env.time w.pos) ∨
    ∃ now now', (sendMeasurement env kind owner quantity (u, w)).1 =
      (u.calculate quantity (env.time w.pos)).advertised quantity now now' := by
  obtain ⟨call, -, -, -, -, -, -, -, ⟨-, hu, -⟩ | ⟨M, -, -, -, hu⟩⟩ :=
    sendMeasurement_cases env kind owner quantity u w
  · exact Or.inl hu
  · split at hu
    · exact Or.inr ⟨_, _, hu⟩
    · exact Or.inl hu

variable (env) in
/-- Sending writes nothing but the total of its quantity and what is noted about it. -/
theorem onlyTotal_sendMeasurement (kind : Kind) (owner quantity : String) (u : TPUnit V)
    (w : World V) : u.OnlyTotal quantity (sendMeasurement env kind owner quantity (u, w)).1 := by
  have hcalc := u.onlyTotal_calculate quantity (env.time w.pos)
  obtain h | ⟨now, now', h⟩ := fst_sendMeasurement env kind owner quantity u w <;> rw [h]
  · exact hcalc
  · exact hcalc.trans (TPUnit.onlyTotal_advertised _ quantity now now')

theorem powerdevices_sendMeasurement (kind : Kind) (owner quantity : String) (u : TPUnit V)
    (w : World V) :
    (sendMeasurement env kind owner quantity (u, w)).1.powerdevices = u.powerdevices :=
  (onlyTotal_sendMeasurement env kind owner quantity u w).powerdevices

theorem name_sendMeasurement (kind : Kind) (owner quantity : String) (u : TPUnit V) (w : World V) :
    (sendMeasurement env kind owner quantity (u, w)).1.name = u.name :=
  (onlyTotal_sendMeasurement env kind owner quantity u w).name

variable {kind : Kind} {owner : String} {f : TPUnit V × World V → TPUnit V × World V}

theorem UnitCall.name_eq (hf : UnitCall env kind owner f) (u : TPUnit V) (w : World V) :
    (f (u, w)).1.name = u.name := by
  cases hf with
  | setMeasurement M => exact TPUnit.name_setMeasurement u M
  | dropOldMetricInfos => rfl
  | sendMeasurement quantity _ => rw [name_sendMeasurement]

theorem UnitCall.mem_powerdevices (hf : UnitCall env kind owner f) (u : TPUnit V) (w : World V)
    (device : String) : device ∈ (f (u, w)).1.powerdevices ↔ device ∈ u.powerdevices := by
  cases hf with
  | setMeasurement M => exact TPUnit.mem_powerdevices_setMeasurement u M device
  | dropOldMetricInfos =>
    exact TPUnit.mem_powerdevices_dropOldMetricInfos u (fun i => env.time (w.pos + i)) device
  | sendMeasurement quantity _ => rw [powerdevices_sendMeasurement]

/-- A method of a unit keeps the maps of a kind together. -/
theorem Agent.agrees_onUnit {a : Agent V} {k : Kind} {listed : String → String → Prop}
    (h : (a.conf.group k).Agrees listed) (hf : UnitCall env kind owner f) :
    ((a.onUnit kind owner f).conf.group k).Agrees listed := by
  -- every unit of the kind is a unit from before with the same name and devices
  have hunit : ∀ (o : String) (u : TPUnit V), (a.onUnit kind owner f).unit? k o = some u →
      ∃ u', a.unit? k o = some u' ∧ u.name = u'.name ∧
        ∀ device, device ∈ u.powerdevices ↔ device ∈ u'.powerdevices := by
    intro o u hu
    rw [unit?_onUnit] at hu
    split at hu
    · obtain ⟨u', hu', rfl⟩ := Option.map_eq_some_iff.mp hu
      exact ⟨u', hu', hf.name_eq u' _, hf.mem_powerdevices u' _⟩
    · exact ⟨u, hu, rfl, fun _ => Iff.rfl⟩
  constructor
  · intro o
    rw [← h.mem_units, TreeMap.mem_iff_isSome_getElem?, TreeMap.mem_iff_isSome_getElem?]
    change ((a.onUnit kind owner f).unit? k o).isSome = true ↔ (a.unit? k o).isSome = true
    rw [unit?_onUnit]
    split
    · rw [Option.isSome_map]
    · rfl
  · intro o u hu
    obtain ⟨u', hu', hname, -⟩ := hunit o u hu
    exact hname.trans (h.name_eq o u' hu')
  · intro o u hu device
    obtain ⟨u', hu', -, hdevices⟩ := hunit o u hu
    rw [hdevices, h.mem_powerdevices o u' hu']
  · simpa using h.listed_of_affected
  · simpa using h.mem_affected

/-! ### Until the next reload -/

/-- The maps of a kind stay together until the next reload. -/
theorem agrees_steps {a : Agent V} {listed : String → String → Prop}
    (h : (a.conf.group kind).Agrees listed) (steps : List (Step V))
    (hloads : (a.steps env steps).loads = a.loads) :
    ((a.steps env steps).conf.group kind).Agrees listed :=
  Agent.invariant_of_loads_eq (P := fun a => (a.conf.group kind).Agrees listed)
    (fun _ _ _ _ hf ha => Agent.agrees_onUnit ha hf)
    (fun _ _ _ _ ha => by cases kind <;> exact ha) steps hloads h

/-- In every state of a run the maps of a kind belong together. -/
theorem exists_agrees_run (env : Env V) (steps : List (Step V)) (kind : Kind) :
    ∃ listed, ((run env steps).conf.group kind).Agrees listed := by
  refine Reachability.invariant
    (P := fun a : Agent V => ∃ listed, (a.conf.group kind).Agrees listed) ?_
    (Agent.steps_moves env .init steps) ⟨_, by cases kind <;> exact UnitGroup.agrees_empty⟩
  rintro a _ hm ⟨listed, ha⟩
  cases hm with
  | onUnit k owner f hf => exact ⟨listed, Agent.agrees_onUnit ha hf⟩
  | configure =>
    refine ⟨UnitGroup.Listed ((env.topology a.world.pos).lists kind), ?_⟩
    rw [Agent.configure, TotalPowerConfiguration.group_configure]
    exact UnitGroup.agrees_load _
  | schedule timeout reconfigPending places => exact ⟨listed, by cases kind <;> exact ha⟩

/-- **Units and affected owners agree through whole runs.** After a call of `configure`, in
particular a successful one, and any calls without another one, there are units for exactly the
owners whose loaded list is not empty, each with the name of its owner and the devices of its list;
the affected owner of a device has a unit with the device; and when no device is listed under two
owners, every device of a unit has the owner of the unit as its affected owner. -/
theorem configure_agrees (env : Env V) (a : Agent V) (steps : List (Step V)) (kind : Kind)
    (hloads : ((a.configure env).steps env steps).loads = (a.configure env).loads) :
    let lists := (env.topology a.world.pos).lists kind
    let g := ((a.configure env).steps env steps).conf.group kind
    (∀ owner, owner ∈ g.units ↔ ∃ devices, lists[owner]? = some devices ∧ devices ≠ []) ∧
    (∀ (owner : String) (u : TPUnit V), g.units[owner]? = some u → u.name = owner ∧
      ∀ device, device ∈ u.powerdevices ↔
        ∃ devices, lists[owner]? = some devices ∧ device ∈ devices) ∧
    (∀ device owner : String, g.affected[device]? = some owner →
      ∃ u, g.units[owner]? = some u ∧ device ∈ u.powerdevices) ∧
    ((∀ (owner owner' device : String) (devices devices' : List String),
        lists[owner]? = some devices → lists[owner']? = some devices' →
        device ∈ devices → device ∈ devices' → owner = owner') →
      ∀ (owner device : String) (u : TPUnit V), g.units[owner]? = some u →
        device ∈ u.powerdevices → g.affected[device]? = some owner) := by
  intro lists g
  have hg : g.Agrees (UnitGroup.Listed lists) := by
    refine agrees_steps ?_ steps hloads
    rw [Agent.configure, TotalPowerConfiguration.group_configure]
    exact UnitGroup.agrees_load lists
  refine ⟨fun owner => ?_,
    fun owner u hu => ⟨hg.name_eq owner u hu, hg.mem_powerdevices owner u hu⟩,
    fun device owner haffected => ?_, fun hshared owner device u hu hdevice => ?_⟩
  · rw [hg.mem_units]
    constructor
    · rintro ⟨device, devices, hlist, hdevice⟩
      exact ⟨devices, hlist, List.ne_nil_of_mem hdevice⟩
    · rintro ⟨devices, hlist, hne⟩
      obtain ⟨device, hdevice⟩ := List.exists_mem_of_ne_nil devices hne
      exact ⟨device, devices, hlist, hdevice⟩
  · have hlisted := hg.listed_of_affected device owner haffected
    have hmem : owner ∈ g.units := (hg.mem_units owner).mpr ⟨device, hlisted⟩
    obtain ⟨u, hu⟩ := Option.isSome_iff_exists.mp (TreeMap.mem_iff_isSome_getElem?.mp hmem)
    exact ⟨u, hu, (hg.mem_powerdevices owner u hu device).mpr hlisted⟩
  · have hlisted := (hg.mem_powerdevices owner u hu device).mp hdevice
    have hmem := hg.mem_affected owner device hlisted
    obtain ⟨owner', howner'⟩ :=
      Option.isSome_iff_exists.mp (TreeMap.mem_iff_isSome_getElem?.mp hmem)
    obtain ⟨devices', hlist', hdevice'⟩ := hg.listed_of_affected device owner' howner'
    obtain ⟨devices, hlist, hdevice⟩ := hlisted
    rw [howner', hshared owner' owner device devices' devices hlist' hlist hdevice' hdevice]

theorem configure_agrees_oneRack :
    let lists := (oneRackEnv.topology 0).lists .rack
    let g := (((Agent.init : Agent Exact).configure oneRackEnv).steps oneRackEnv
      (oneRackSteps.drop 1)).conf.group .rack
    (∀ owner, owner ∈ g.units ↔ ∃ devices, lists[owner]? = some devices ∧ devices ≠ []) ∧
    (∀ (owner : String) (u : TPUnit Exact), g.units[owner]? = some u → u.name = owner ∧
      ∀ device, device ∈ u.powerdevices ↔
        ∃ devices, lists[owner]? = some devices ∧ device ∈ devices) ∧
    (∀ device owner : String, g.affected[device]? = some owner →
      ∃ u, g.units[owner]? = some u ∧ device ∈ u.powerdevices) ∧
    ((∀ (owner owner' device : String) (devices devices' : List String),
        lists[owner]? = some devices → lists[owner']? = some devices' →
        device ∈ devices → device ∈ devices' → owner = owner') →
      ∀ (owner device : String) (u : TPUnit Exact), g.units[owner]? = some u →
        device ∈ u.powerdevices → g.affected[device]? = some owner) :=
  configure_agrees oneRackEnv Agent.init (oneRackSteps.drop 1) .rack (by decide +kernel)

end MetricTPower
