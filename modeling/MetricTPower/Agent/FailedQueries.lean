import MetricTPower.Agent.Loading
import MetricTPower.Topology.PowerSources
import MetricTPower.Topology.Search

/-!
# Reloads with failed queries

A query of the database can fail without an exception. When the devices or the links of a container
cannot be queried, the container gets no power sources, on purpose, and `configure` goes on and
reports success; the container is not looked at again before the next reload. The retry in a minute
is for exceptions only. `configure_of_powerTopology` says what is loaded then.

## Main definitions

* `Database.QueryFailed`: some query that `configure` makes reports a failure.

## Main results

* `configure_of_powerTopology`: the units after a reload, in terms of the queries.
* `configure_ignores_failed_query`: a reload with a failed query that reports success.
-/

open Std (TreeMap)

namespace MetricTPower

variable {V : Type} {persist : Persist} {rounds : ℕ} {db : Database} {top : PowerTopology}

/-- The type of the containers of a kind. -/
def Persist.containerType (persist : Persist) : Kind → Int8
  | .rack => persist.rack
  | .dc => persist.datacenter

/-- The query for the containers of a kind. -/
def Database.containers (db : Database) (persist : Persist) (kind : Kind) :
    Except String (DbReply (List AssetElement)) :=
  db.selectAssetElementsByType (persist.containerType kind).toInt16.toUInt16

/-- Some query that is made reports a failure: the query for the containers of a kind, or that for
the devices of a container or, where there are devices, for its links. -/
def Database.QueryFailed (db : Database) (persist : Persist) : Prop :=
  ∃ (kind : Kind) (containers : DbReply (List AssetElement)),
    db.containers persist kind = .ok containers ∧
      (containers.status = 0 ∨ ∃ container ∈ containers.item,
        (∃ rv rows, db.selectAssetsByContainer container.id = .ok (rv, rows) ∧ rv ≠ 0) ∨
        ∃ rows links, db.selectAssetsByContainer container.id = .ok (0, rows) ∧
          (rows.foldl (addRow persist) .empty).devices.isEmpty = false ∧
          db.selectLinksByContainer container.id = .ok links ∧ links.status = 0)

/-- When the calls of `configure` complete, what it loads of a kind is what
`select_devices_total_power_container` returns for it. -/
theorem lists_of_succeeds (htop : db.powerTopology persist rounds = some top)
    (hsucceeds : top.succeeds = true) (kind : Kind) :
    ∃ ret, selectDevicesTotalPowerContainer persist rounds db (persist.containerType kind) =
        .returns ret ∧
      top.lists kind = PowerTopology.sources ret := by
  unfold Database.powerTopology at htop
  cases hconnect : db.connectCached with
  | error what =>
    rw [hconnect] at htop
    obtain rfl := Option.some.inj htop
    cases hsucceeds
  | ok _ =>
    rw [hconnect] at htop
    obtain ⟨racks, hracks, htop⟩ := Option.bind_eq_some_iff.mp htop
    cases racks with
    | error what =>
      obtain rfl := Option.some.inj htop
      cases hsucceeds
    | ok racks =>
      obtain ⟨dcs, hdcs, htop⟩ := Option.bind_eq_some_iff.mp htop
      obtain rfl := Option.some.inj htop
      cases dcs with
      | error what => cases hsucceeds
      | ok dcs =>
        cases kind with
        | rack => exact ⟨racks, Outcome.settled_eq_ok_iff.mp hracks, rfl⟩
        | dc => exact ⟨dcs, Outcome.settled_eq_ok_iff.mp hdcs, rfl⟩

/-- The devices of a loaded list. -/
theorem listed_sources_iff {ret : DbReply (TreeMap String (List String))} {owner device : String} :
    UnitGroup.Listed (PowerTopology.sources ret) owner device ↔
      ret.status ≠ 0 ∧ ∃ devices, ret.item[owner]? = some devices ∧ device ∈ devices := by
  rw [UnitGroup.Listed, PowerTopology.sources]
  split
  · rename_i h
    simp [h]
  · rename_i h
    simp [h]

/-- **What a reload loads.** When `configure` returns `true`, no reload is pending, and of a kind
whose list of containers was read, be it empty, there are fresh units for exactly the containers
with a power source, with these devices; a container whose devices or links could not be queried
has none. When `configure` returns `false`, the next attempt is in a minute. -/
theorem configure_of_powerTopology (persist : Persist) (rounds : ℕ) (db : Database)
    (top : PowerTopology) (now : Int64) (c : TotalPowerConfiguration V)
    (htop : db.powerTopology persist rounds = some top) :
    ((c.configure top now).1 = true → (c.configure top now).2.reconfigPending = 0 ∧
      ∀ (kind : Kind) (containers : DbReply (List AssetElement)),
        db.containers persist kind = .ok containers → containers.status ≠ 0 →
        ((c.configure top now).2.group kind).AllFresh ∧
        ((c.configure top now).2.group kind).Agrees fun owner device =>
          ∃ container, containers.item.find? (·.name == owner) = some container ∧
            PowersContainer persist rounds db container device) ∧
    ((c.configure top now).1 = false →
      (c.configure top now).2.reconfigPending = now.toInt + 60) := by
  rw [TotalPowerConfiguration.configure_fst]
  constructor
  · intro hsucceeds
    refine ⟨by rw [TotalPowerConfiguration.configure_eq, if_pos hsucceeds], ?_⟩
    intro kind containers hcontainers hstatus
    obtain ⟨ret, hret, hlists⟩ := lists_of_succeeds htop hsucceeds kind
    rw [TotalPowerConfiguration.group_configure, hlists]
    refine ⟨UnitGroup.fresh_load _, ?_⟩
    have hagrees := UnitGroup.agrees_load (V := V) (PowerTopology.sources ret)
    have hlisted : UnitGroup.Listed (PowerTopology.sources ret) = fun owner device =>
        ∃ container, containers.item.find? (·.name == owner) = some container ∧
          PowersContainer persist rounds db container device := by
      funext owner device
      exact propext (listed_sources_iff.trans
        (listed_of_selectDevicesTotalPowerContainer hcontainers hstatus hret owner device))
    rwa [hlisted] at hagrees
  · intro hfails
    rw [TotalPowerConfiguration.configure_eq, if_neg (by rw [hfails]; exact Bool.false_ne_true)]

/-- A database with one rack whose devices cannot be queried, and no datacenters. -/
def unreadableRack : Database where
  connectCached := .ok ()
  selectAssetElementsByType type :=
    .ok (.new (if type = 5 then [{ id := 10, name := "rack-1" }] else []))
  selectAssetsByContainer _ := .ok (1, [])
  selectLinksByContainer _ := .ok (.new [])
  close := .ok ()

/-- What `configure` reads from `unreadableRack`. -/
def unreadableTopology : PowerTopology where
  connection := .ok ()
  racks := .ok (.new ((∅ : TreeMap String (List String)).insertIfNew "rack-1" []))
  dcs := .ok { status := 0, item := ∅, msg := "there is no containers of requested type",
               errtype := 1, errsubtype := 4 }
  close := .ok ()

theorem powerTopology_unreadableRack :
    unreadableRack.powerTopology samplePersist 0 = some unreadableTopology := rfl

theorem configure_of_powerTopology_unreadableRack :
    ((oneRackConf.configure unreadableTopology 2000).1 = true →
      (oneRackConf.configure unreadableTopology 2000).2.reconfigPending = 0 ∧
      ∀ (kind : Kind) (containers : DbReply (List AssetElement)),
        unreadableRack.containers samplePersist kind = .ok containers → containers.status ≠ 0 →
        ((oneRackConf.configure unreadableTopology 2000).2.group kind).AllFresh ∧
        ((oneRackConf.configure unreadableTopology 2000).2.group kind).Agrees fun owner device =>
          ∃ container, containers.item.find? (·.name == owner) = some container ∧
            PowersContainer samplePersist 0 unreadableRack container device) ∧
    ((oneRackConf.configure unreadableTopology 2000).1 = false →
      (oneRackConf.configure unreadableTopology 2000).2.reconfigPending =
        (2000 : Int64).toInt + 60) :=
  configure_of_powerTopology samplePersist 0 unreadableRack unreadableTopology 2000 oneRackConf
    powerTopology_unreadableRack

/-- The reload of a rack whose devices cannot be queried reports success and schedules no retry. -/
theorem configure_ignores_failed_query :
    ¬ ∀ (persist : Persist) (rounds : ℕ) (db : Database) (top : PowerTopology) (now : Int64)
        (c : TotalPowerConfiguration Exact),
      db.powerTopology persist rounds = some top → (c.configure top now).1 = true →
      (c.configure top now).2.reconfigPending = 0 → ¬ db.QueryFailed persist := by
  intro h
  refine h samplePersist 0 unreadableRack unreadableTopology 2000 oneRackConf
    powerTopology_unreadableRack rfl rfl ?_
  refine ⟨.rack, .new [{ id := 10, name := "rack-1" }], rfl, Or.inr ?_⟩
  exact ⟨{ id := 10, name := "rack-1" }, List.mem_cons_self, Or.inl ⟨1, [], rfl, by decide⟩⟩

end MetricTPower
