import MetricTPower.Agent.Configuration
import MetricTPower.Unit.Totals

/-!
# Loading the topology

What `configure` leaves in the maps of the agent. The maps of a kind are built by one loop over
the owners and their devices; `UnitGroup.Agrees` says how its units and its map of the affected
owners belong to a list of owners with their devices, and every round of the loop keeps it
(`UnitGroup.Agrees.addDeviceToMap`). `configure` itself is described by `configure_eq`: which
lists it has loaded when it ends, and how it ends.

## Main definitions

* `TPUnit.Fresh`: a unit that has been loaded and not been used.
* `UnitGroup.Agrees`: the maps of a kind belong to the listed devices.
* `PowerTopology.lists`, `PowerTopology.succeeds`: what a call of `configure` loads, and whether
  it completes.

## Main results

* `UnitGroup.agrees_load`, `UnitGroup.fresh_load`: the maps that the loop builds.
* `TotalPowerConfiguration.configure_eq`: what `configure` does.
* `TotalPowerConfiguration.configure_failed`: what a failed reload leaves.
-/

open Std (TreeMap)

namespace MetricTPower

variable {V : Type}

/-! ### Fresh units -/

/-- The unit of an owner with devices but with no measurement, no total and nothing noted about
any total. -/
structure TPUnit.Fresh (owner : String) (u : TPUnit V) : Prop where
  name_eq : u.name = owner
  lastValue_eq : u.lastValue = {}
  changedStatus_eq : u.changedStatus = ∅
  changetimestamp_eq : u.changetimestamp = ∅
  advertisedtimestamp_eq : u.advertisedtimestamp = ∅
  measurements_eq : ∀ (device : String) (measurements : MetricList V),
    u.powerdevices[device]? = some measurements → measurements = {}

namespace TPUnit

variable {owner : String} {u : TPUnit V}

theorem fresh_ofName (owner : String) : (ofName owner : TPUnit V).Fresh owner where
  name_eq := rfl
  lastValue_eq := rfl
  changedStatus_eq := rfl
  changetimestamp_eq := rfl
  advertisedtimestamp_eq := rfl
  measurements_eq := by simp [ofName]

theorem Fresh.addPowerDevice (h : u.Fresh owner) (device : String) :
    (u.addPowerDevice device).Fresh owner where
  name_eq := h.name_eq
  lastValue_eq := h.lastValue_eq
  changedStatus_eq := h.changedStatus_eq
  changetimestamp_eq := h.changetimestamp_eq
  advertisedtimestamp_eq := h.advertisedtimestamp_eq
  measurements_eq d measurements hd := by
    rw [TPUnit.addPowerDevice, TreeMap.getElem?_insert] at hd
    split at hd
    · exact (Option.some.inj hd).symm
    · exact h.measurements_eq d measurements hd

theorem mem_addPowerDevice (u : TPUnit V) (device d : String) :
    d ∈ (u.addPowerDevice device).powerdevices ↔ d ∈ u.powerdevices ∨ d = device := by
  rw [TPUnit.addPowerDevice, TreeMap.mem_insert, Std.LawfulEqOrd.compare_eq_iff_eq, or_comm,
    eq_comm]

/-- A fresh unit holds no measurement. -/
theorem Fresh.measurementOf_eq_none (h : u.Fresh owner) (device quantity : String) :
    u.measurementOf device quantity = none := by
  rw [measurementOf]
  cases hm : u.powerdevices[device]? with
  | none => rfl
  | some measurements =>
    rw [h.measurements_eq device measurements hm, Option.bind_some]
    exact TreeMap.getElem?_emptyc

end TPUnit

/-! ### The maps of a kind -/

namespace UnitGroup

/-- The maps of a kind belong to the listed devices of owners: there are units for exactly the
owners with a listed device, under their names and with their devices, and the affected owner of a
device is one whose device it is. -/
structure Agrees (listed : String → String → Prop) (g : UnitGroup V) : Prop where
  mem_units : ∀ owner, owner ∈ g.units ↔ ∃ device, listed owner device
  name_eq : ∀ (owner : String) (u : TPUnit V), g.units[owner]? = some u → u.name = owner
  mem_powerdevices : ∀ (owner : String) (u : TPUnit V), g.units[owner]? = some u →
    ∀ device, device ∈ u.powerdevices ↔ listed owner device
  listed_of_affected : ∀ device owner : String,
    g.affected[device]? = some owner → listed owner device
  mem_affected : ∀ owner device, listed owner device → device ∈ g.affected

variable {listed : String → String → Prop} {g : UnitGroup V}

theorem agrees_empty : Agrees (fun _ _ => False) ({} : UnitGroup V) where
  mem_units owner := by simp
  name_eq owner u hu := by simp at hu
  mem_powerdevices owner u hu := by simp at hu
  listed_of_affected device owner h := by simp at h
  mem_affected owner device h := h.elim

/-- The unit that `addDeviceToMap` puts under an owner. -/
theorem getElem?_units_addDeviceToMap (g : UnitGroup V) (owner device o : String) :
    (g.addDeviceToMap owner device).units[o]? =
      if owner = o then some ((g.units[owner]?.getD (TPUnit.ofName owner)).addPowerDevice device)
      else g.units[o]? := by
  simp only [addDeviceToMap]
  cases hg : g.units[owner]? <;> simp [TreeMap.getElem?_insert]

/-- The unit that `addDeviceToMap` finds or makes for an owner has the devices listed so far. -/
theorem Agrees.getD_ofName (h : g.Agrees listed) (owner : String) :
    (g.units[owner]?.getD (TPUnit.ofName owner)).name = owner ∧
      ∀ device, device ∈ (g.units[owner]?.getD (TPUnit.ofName owner)).powerdevices ↔
        listed owner device := by
  cases hg : g.units[owner]? with
  | none =>
    refine ⟨rfl, fun device => ?_⟩
    have hnew : ¬ listed owner device := fun hd => by
      have hmem := (h.mem_units owner).mpr ⟨device, hd⟩
      rw [TreeMap.mem_iff_isSome_getElem?, hg] at hmem
      cases hmem
    simp [TPUnit.ofName, hnew]
  | some box => exact ⟨h.name_eq owner box hg, h.mem_powerdevices owner box hg⟩

/-- A device added to an owner is one more listed device. -/
theorem Agrees.addDeviceToMap (h : g.Agrees listed) (owner device : String) :
    (g.addDeviceToMap owner device).Agrees fun o d => listed o d ∨ (o = owner ∧ d = device) where
  mem_units o := by
    rw [TreeMap.mem_iff_isSome_getElem?, getElem?_units_addDeviceToMap]
    by_cases ho : owner = o
    · subst ho
      simp
    · rw [if_neg ho, ← TreeMap.mem_iff_isSome_getElem?, h.mem_units]
      simp [eq_comm, ho]
  name_eq o u hu := by
    rw [getElem?_units_addDeviceToMap] at hu
    split at hu
    · rename_i ho
      obtain rfl := Option.some.inj hu
      exact (h.getD_ofName owner).1.trans ho
    · exact h.name_eq o u hu
  mem_powerdevices o u hu d := by
    rw [getElem?_units_addDeviceToMap] at hu
    split at hu
    · rename_i ho
      obtain rfl := Option.some.inj hu
      subst ho
      rw [TPUnit.mem_addPowerDevice, (h.getD_ofName owner).2 d]
      simp
    · rename_i ho
      rw [h.mem_powerdevices o u hu]
      simp [eq_comm, ho]
  listed_of_affected d o hd := by
    simp only [UnitGroup.addDeviceToMap, TreeMap.getElem?_insert,
      Std.LawfulEqOrd.compare_eq_iff_eq] at hd
    split at hd
    · rename_i hdevice
      exact Or.inr ⟨(Option.some.inj hd).symm, hdevice.symm⟩
    · exact Or.inl (h.listed_of_affected d o hd)
  mem_affected o d hd := by
    simp only [UnitGroup.addDeviceToMap, TreeMap.mem_insert, Std.LawfulEqOrd.compare_eq_iff_eq]
    rcases hd with hd | ⟨-, rfl⟩
    · exact Or.inr (h.mem_affected o d hd)
    · exact Or.inl rfl

/-- All units of a kind are fresh. -/
def AllFresh (g : UnitGroup V) : Prop :=
  ∀ (owner : String) (u : TPUnit V), g.units[owner]? = some u → u.Fresh owner

theorem AllFresh.addDeviceToMap (h : g.AllFresh) (owner device : String) :
    (g.addDeviceToMap owner device).AllFresh := by
  intro o u hu
  rw [getElem?_units_addDeviceToMap] at hu
  split at hu
  · rename_i ho
    subst ho
    obtain rfl := Option.some.inj hu
    refine TPUnit.Fresh.addPowerDevice ?_ device
    cases hg : g.units[owner]? with
    | none => exact TPUnit.fresh_ofName owner
    | some box => exact h owner box hg
  · exact h o u hu

/-- A device is listed under an owner. -/
def Listed (item : TreeMap String (List String)) (owner device : String) : Prop :=
  ∃ devices, item[owner]? = some devices ∧ device ∈ devices

/-- The loops over the owners and over their devices as one loop. -/
theorem load_eq (g : UnitGroup V) (item : TreeMap String (List String)) :
    g.load item = (item.toList.flatMap fun rack => rack.2.map fun device => (rack.1, device)).foldl
      (fun g p => g.addDeviceToMap p.1 p.2) g := by
  simp only [load, List.foldl_flatMap, List.foldl_map]

theorem mem_pairs_iff {item : TreeMap String (List String)} {owner device : String} :
    (owner, device) ∈ item.toList.flatMap (fun rack => rack.2.map fun device => (rack.1, device)) ↔
      Listed item owner device := by
  simp only [List.mem_flatMap, List.mem_map, Prod.exists, Prod.mk.injEq,
    TreeMap.mem_toList_iff_getElem?_eq_some, Listed]
  constructor
  · rintro ⟨o, devices, ho, d, hd, rfl, rfl⟩
    exact ⟨devices, ho, hd⟩
  · rintro ⟨devices, ho, hd⟩
    exact ⟨owner, devices, ho, device, hd, rfl, rfl⟩

theorem Agrees.foldl (l : List (String × String)) (h : g.Agrees listed) :
    (l.foldl (fun g p => g.addDeviceToMap p.1 p.2) g).Agrees
      fun owner device => listed owner device ∨ (owner, device) ∈ l := by
  induction l generalizing g listed with
  | nil => simpa using h
  | cons p l ih =>
    have hstep := ih (h.addDeviceToMap p.1 p.2)
    simpa only [List.foldl_cons, List.mem_cons, or_assoc, Prod.ext_iff] using hstep

/-- The maps loaded from a list belong to the listed devices. -/
theorem agrees_load (item : TreeMap String (List String)) :
    (({} : UnitGroup V).load item).Agrees (Listed item) := by
  have h := agrees_empty (V := V).foldl
    (item.toList.flatMap fun rack => rack.2.map fun device => (rack.1, device))
  simpa only [← load_eq, mem_pairs_iff, false_or] using h

/-- Loading makes fresh units. -/
theorem fresh_load (item : TreeMap String (List String)) :
    (({} : UnitGroup V).load item).AllFresh := by
  rw [load_eq]
  generalize item.toList.flatMap _ = l
  have hempty : ({} : UnitGroup V).AllFresh := fun owner u hu => by simp at hu
  induction l using List.reverseRecOn with
  | nil => exact hempty
  | append_singleton l p ih =>
    rw [List.foldl_append]
    exact ih.addDeviceToMap p.1 p.2

end UnitGroup

/-! ### The outcome of a call of `configure` -/

namespace PowerTopology

/-- The power sources that a reply makes `configure` load: those of a reply that is not marked as
failed. -/
def sources (ret : DbReply (TreeMap String (List String))) : TreeMap String (List String) :=
  if ret.status ≠ 0 then ret.item else ∅

/-- What `configure` has loaded of a kind when it ends. The racks are loaded once the connection is
made and they are read, the datacenters once they are read after the racks. -/
def lists (db : PowerTopology) : Kind → TreeMap String (List String)
  | .rack =>
    match db.connection, db.racks with
    | .ok _, .ok ret => sources ret
    | _, _ => ∅
  | .dc =>
    match db.connection, db.racks, db.dcs with
    | .ok _, .ok _, .ok ret => sources ret
    | _, _, _ => ∅

/-- No call that `configure` makes throws. -/
def succeeds (db : PowerTopology) : Bool :=
  db.connection.isOk && db.racks.isOk && db.dcs.isOk && db.close.isOk

end PowerTopology

namespace TotalPowerConfiguration

section Block

variable {ε σ α β : Type}

/-- A call in the `try` block that returns. -/
theorem mk_ok_bind (a : α) (f : α → ExceptT ε (StateM σ) β) :
    ((ExceptT.mk (pure (Except.ok a)) : ExceptT ε (StateM σ) α) >>= f) = f a := rfl

/-- A call in the `try` block that throws. -/
theorem mk_error_bind (e : ε) (f : α → ExceptT ε (StateM σ) β) :
    ((ExceptT.mk (pure (Except.error e)) : ExceptT ε (StateM σ) α) >>= f) =
      ExceptT.mk (pure (Except.error e)) := rfl

/-- An assignment in the `try` block. -/
theorem modify_bind_run (g : σ → σ) (f : PUnit → ExceptT ε (StateM σ) β) (s : σ) :
    (((modify g : ExceptT ε (StateM σ) PUnit) >>= f).run s : Except ε β × σ) =
      (f ⟨⟩).run (g s) := rfl

end Block

/-- The `try` block, by the call that throws. -/
theorem run_loadTopology (db : PowerTopology) (c : TotalPowerConfiguration V) :
    (loadTopology db).run c =
      match db.connection, db.racks, db.dcs, db.close with
      | .error e, _, _, _ => (.error e, { c with racks := {}, dcs := {} })
      | .ok _, .error e, _, _ => (.error e, { c with racks := {}, dcs := {} })
      | .ok _, .ok racks, .error e, _ => (.error e,
        { c with racks := ({} : UnitGroup V).load (PowerTopology.sources racks), dcs := {} })
      | .ok _, .ok racks, .ok dcs, .error e => (.error e,
        { c with
          racks := ({} : UnitGroup V).load (PowerTopology.sources racks)
          dcs := ({} : UnitGroup V).load (PowerTopology.sources dcs) })
      | .ok _, .ok racks, .ok dcs, .ok _ => (.ok (),
        { c with
          racks := ({} : UnitGroup V).load (PowerTopology.sources racks)
          dcs := ({} : UnitGroup V).load (PowerTopology.sources dcs)
          reconfigPending := 0 }) := by
  obtain ⟨connection, racks, dcs, close⟩ := db
  simp only [loadTopology, modify_bind_run, PowerTopology.sources]
  rcases connection with e | _
  · rfl
  rcases racks with e | racks
  · rfl
  rcases dcs with e | dcs
  · by_cases hracks : racks.status = 0 <;>
      simp only [mk_ok_bind, mk_error_bind, modify_bind_run, hracks, ne_eq, not_true_eq_false,
        not_false_eq_true, if_true, if_false] <;> rfl
  rcases close with e | _ <;> by_cases hracks : racks.status = 0 <;>
    by_cases hdcs : dcs.status = 0 <;>
      simp only [mk_ok_bind, modify_bind_run, hracks, hdcs, ne_eq, not_true_eq_false,
        not_false_eq_true, if_true, if_false] <;> rfl

/-- What `configure` does: it forgets the units it had, loads what it reads until a call throws,
and schedules a retry exactly when one does. -/
theorem configure_eq (db : PowerTopology) (now : Int64) (c : TotalPowerConfiguration V) :
    c.configure db now = (db.succeeds,
      { timeout := c.timeout
        racks := ({} : UnitGroup V).load (db.lists .rack)
        dcs := ({} : UnitGroup V).load (db.lists .dc)
        reconfigPending := if db.succeeds then 0 else now.toInt + 60 }) := by
  obtain ⟨connection, racks, dcs, close⟩ := db
  rw [configure, run_loadTopology]
  rcases connection with e | _
  · rfl
  rcases racks with e | racks
  · rfl
  rcases dcs with e | dcs
  · rfl
  rcases close with e | _ <;> rfl

theorem configure_fst (db : PowerTopology) (now : Int64) (c : TotalPowerConfiguration V) :
    (c.configure db now).1 = db.succeeds := by
  rw [configure_eq]

theorem group_configure (db : PowerTopology) (now : Int64) (c : TotalPowerConfiguration V)
    (kind : Kind) :
    (c.configure db now).2.group kind = ({} : UnitGroup V).load (db.lists kind) := by
  rw [configure_eq]
  cases kind <;> rfl

/-- **What a failed reload leaves.** Whichever call throws, nothing of the old topology stays: the
units of a kind are fresh and are those of the lists that were loaded before the exception, which
are none when the connection or the reading of the racks fails, and those of the racks alone when
the reading of the datacenters fails. The next attempt is in a minute. -/
theorem configure_failed (db : PowerTopology) (now : Int64) (c : TotalPowerConfiguration V)
    (hfailed : (c.configure db now).1 = false) :
    (c.configure db now).2.timeout = c.timeout ∧
    (c.configure db now).2.reconfigPending = now.toInt + 60 ∧
    (∀ kind, ((c.configure db now).2.group kind).AllFresh ∧
      ((c.configure db now).2.group kind).Agrees (UnitGroup.Listed (db.lists kind))) ∧
    (db.connection.isOk = false ∨ db.racks.isOk = false → ∀ kind, db.lists kind = ∅) ∧
    (∀ ret, db.connection = .ok () → db.racks = .ok ret →
      db.lists .rack = PowerTopology.sources ret) ∧
    (db.dcs.isOk = false → db.lists .dc = ∅) := by
  refine ⟨by rw [configure_eq], ?_, fun kind => ?_, ?_, ?_, ?_⟩
  · rw [configure_fst] at hfailed
    rw [configure_eq, if_neg (by rw [hfailed]; exact Bool.false_ne_true)]
  · rw [group_configure]
    exact ⟨UnitGroup.fresh_load _, UnitGroup.agrees_load _⟩
  · obtain ⟨connection, racks, dcs, close⟩ := db
    rintro (h | h) kind
    · rcases connection with e | _
      · cases kind <;> rfl
      · cases h
    · rcases racks with e | _
      · cases kind <;> cases connection <;> rfl
      · cases h
  · intro ret hconnection hracks
    rw [PowerTopology.lists, hconnection, hracks]
  · obtain ⟨connection, racks, dcs, close⟩ := db
    intro h
    rcases dcs with e | _
    · cases connection <;> cases racks <;> rfl
    · cases h

end TotalPowerConfiguration

/-- A database with one rack with an epdu, and no datacenters. -/
def oneRack : PowerTopology where
  connection := .ok ()
  racks := .ok (.new ((∅ : TreeMap String (List String)).insert "rack-1" ["epdu-1"]))
  dcs := .ok { status := 0, item := ∅ }
  close := .ok ()

/-- A database out of reach. -/
def outOfReach : PowerTopology where
  connection := .error "connection refused"
  racks := .error "connection refused"
  dcs := .error "connection refused"
  close := .error "connection refused"

/-- The configuration with one rack. -/
def oneRackConf : TotalPowerConfiguration Exact :=
  (({} : TotalPowerConfiguration Exact).configure oneRack 1000).2

theorem configure_failed_outOfReach :
    (oneRackConf.configure outOfReach 2000).2.timeout = oneRackConf.timeout ∧
    (oneRackConf.configure outOfReach 2000).2.reconfigPending = (2000 : Int64).toInt + 60 ∧
    (∀ kind, ((oneRackConf.configure outOfReach 2000).2.group kind).AllFresh ∧
      ((oneRackConf.configure outOfReach 2000).2.group kind).Agrees
        (UnitGroup.Listed (outOfReach.lists kind))) ∧
    (outOfReach.connection.isOk = false ∨ outOfReach.racks.isOk = false →
      ∀ kind, outOfReach.lists kind = ∅) ∧
    (∀ ret, outOfReach.connection = .ok () → outOfReach.racks = .ok ret →
      outOfReach.lists .rack = PowerTopology.sources ret) ∧
    (outOfReach.dcs.isOk = false → outOfReach.lists .dc = ∅) :=
  TotalPowerConfiguration.configure_failed outOfReach 2000 oneRackConf rfl

/-- A reload that fails does not leave the running topology as it was: the rack is gone. -/
theorem configure_outOfReach_forgets :
    ¬ ∀ (db : PowerTopology) (now : Int64) (c : TotalPowerConfiguration Exact),
      (c.configure db now).1 = false →
        ∀ kind, (c.configure db now).2.group kind = c.group kind := by
  intro h
  have hrack : (oneRackConf.configure outOfReach 2000).2.racks = oneRackConf.racks :=
    h outOfReach 2000 oneRackConf rfl .rack
  have hlost : (oneRackConf.configure outOfReach 2000).2.racks.units.contains "rack-1" = false := by
    decide
  have hhad : oneRackConf.racks.units.contains "rack-1" = true := by decide
  rw [hrack, hhad] at hlost
  cases hlost

end MetricTPower
