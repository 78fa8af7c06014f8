import MetricTPower.Topology.CalcPower

/-!
# The power sources of all containers

What `select_devices_total_power_container` returns, in terms of the queries of the database. A
container whose devices or links cannot be queried gets an empty list of power sources, like a
container without devices or links; for the others the list is the result of the search. Where a
name occurs twice in the list of containers, the first one counts.

## Main definitions

* `PowersContainer`: a device is one of the power sources computed for a container.

## Main results

* `mem_of_powerSources_eq_returns`: the power sources of one container.
* `listed_of_selectDevicesTotalPowerContainer`: the power sources of all containers of a type.
-/

open Std (TreeMap)

namespace MetricTPower

variable {persist : Persist} {rounds : ℕ} {db : Database}

/-! ### One container -/

/-- A device is a power source of a container: the devices and the links of the container could be
queried, there are some of each, and the search returns the device. -/
def PowersContainer (persist : Persist) (rounds : ℕ) (db : Database) (container : AssetElement)
    (device : String) : Prop :=
  ∃ rows links dvc, db.selectAssetsByContainer container.id = .ok (0, rows) ∧
    (rows.foldl (addRow persist) .empty).devices.isEmpty = false ∧
    db.selectLinksByContainer container.id = .ok links ∧ links.status ≠ 0 ∧ links.item ≠ [] ∧
    computeTotalPowerV2 persist rounds (rows.foldl (addRow persist) .empty) links.item
      (borderDevices (rows.foldl (addRow persist) .empty) links.item) = some dvc ∧
    device ∈ dvc

/-- What the body of the loop over the containers does: a failed query and a container without
devices or links give no power sources, anything else is left to the search. -/
theorem powerSources_cases {container : AssetElement} {result : List String}
    (h : powerSources persist rounds db container = .returns result) :
    ∃ rv rows, db.selectAssetsByContainer container.id = .ok (rv, rows) ∧
      ((result = [] ∧
        (rv ≠ 0 ∨ (rows.foldl (addRow persist) .empty).devices.isEmpty = true)) ∨
      (rv = 0 ∧ (rows.foldl (addRow persist) .empty).devices.isEmpty = false ∧
        ∃ links, db.selectLinksByContainer container.id = .ok links ∧
          ((result = [] ∧ (links.status = 0 ∨ links.item = [])) ∨
          (links.status ≠ 0 ∧ links.item ≠ [] ∧
            computeTotalPowerV2 persist rounds (rows.foldl (addRow persist) .empty) links.item
              (borderDevices (rows.foldl (addRow persist) .empty) links.item) =
                some result)))) := by
  obtain ⟨⟨rv, rows⟩, hrows, h⟩ := Outcome.bind_eq_returns_iff.mp h
  refine ⟨rv, rows, Outcome.ofExcept_eq_returns_iff.mp hrows, ?_⟩
  dsimp only at h
  split at h
  · rename_i hrv
    exact Or.inl ⟨(Outcome.returns.inj h).symm, Or.inl hrv⟩
  · rename_i hrv
    split at h
    · rename_i hempty
      exact Or.inl ⟨(Outcome.returns.inj h).symm, Or.inr hempty⟩
    · rename_i hempty
      obtain ⟨links, hlinks, h⟩ := Outcome.bind_eq_returns_iff.mp h
      refine Or.inr ⟨not_not.mp hrv, by simpa using hempty, links,
        Outcome.ofExcept_eq_returns_iff.mp hlinks, ?_⟩
      split at h
      · rename_i hstatus
        exact Or.inl ⟨(Outcome.returns.inj h).symm, Or.inl hstatus⟩
      · rename_i hstatus
        split at h
        · rename_i hnone
          exact Or.inl ⟨(Outcome.returns.inj h).symm, Or.inr (by simpa using hnone)⟩
        · rename_i hsome
          exact Or.inr ⟨hstatus, by simpa using hsome, Outcome.ofOption_eq_returns_iff.mp h⟩

/-- The list of one container holds exactly its power sources. -/
theorem mem_of_powerSources_eq_returns {container : AssetElement} {result : List String}
    (h : powerSources persist rounds db container = .returns result) (device : String) :
    device ∈ result ↔ PowersContainer persist rounds db container device := by
  obtain ⟨rv, rows, hrows, ⟨rfl, hnone⟩ | ⟨rfl, hsome, links, hlinks, hcase⟩⟩ :=
    powerSources_cases h
  · refine iff_of_false List.not_mem_nil ?_
    rintro ⟨rows', links, dvc, hrows', hsome, -⟩
    obtain ⟨rfl, rfl⟩ := Prod.mk.inj (Except.ok.inj (hrows.symm.trans hrows'))
    rcases hnone with hrv | hempty
    · exact hrv rfl
    · rw [hempty] at hsome
      cases hsome
  · rcases hcase with ⟨rfl, hnone⟩ | ⟨hstatus, hitem, hdvc⟩
    · refine iff_of_false List.not_mem_nil ?_
      rintro ⟨rows', links', dvc, -, -, hlinks', hstatus, hitem, -⟩
      obtain rfl := Except.ok.inj (hlinks.symm.trans hlinks')
      rcases hnone with hnone | hnone
      · exact hstatus hnone
      · exact hitem hnone
    · constructor
      · exact fun hd => ⟨rows, links, result, hrows, hsome, hlinks, hstatus, hitem, hdvc, hd⟩
      · rintro ⟨rows', links', dvc, hrows', -, hlinks', -, -, hdvc', hd⟩
        obtain ⟨-, rfl⟩ := Prod.mk.inj (Except.ok.inj (hrows.symm.trans hrows'))
        obtain rfl := Except.ok.inj (hlinks.symm.trans hlinks')
        obtain rfl := Option.some.inj (hdvc.symm.trans hdvc')
        exact hd

/-! ### All containers of a type -/

/-- The loop over the containers: a name that is there keeps its list, and a new name gets the list
of the first container of that name. -/
theorem getElem?_of_foldlM_insertIfNew {f : AssetElement → Outcome (List String)} (name : String) :
    ∀ (containers : List AssetElement) (item item' : TreeMap String (List String)),
      (containers.foldlM (fun item container => do
        let result ← f container
        return item.insertIfNew container.name result) item) = Outcome.returns item' →
      (∀ devices, item[name]? = some devices → item'[name]? = some devices) ∧
      (item[name]? = none → (item'[name]? = none ∧ containers.find? (·.name == name) = none) ∨
        ∃ container devices, containers.find? (·.name == name) = some container ∧
          f container = .returns devices ∧ item'[name]? = some devices)
  | [], item, item', h => by
    obtain rfl := Outcome.returns.inj h
    exact ⟨fun _ => id, fun hnone => Or.inl ⟨hnone, rfl⟩⟩
  | container :: containers, item, item', h => by
    rw [List.foldlM_cons] at h
    obtain ⟨item₁, hfirst, hrest⟩ := Outcome.bind_eq_returns_iff.mp h
    obtain ⟨devices₁, hdevices₁, hitem₁⟩ := Outcome.bind_eq_returns_iff.mp hfirst
    obtain rfl := Outcome.returns.inj hitem₁
    obtain ⟨hkept, hnew⟩ := getElem?_of_foldlM_insertIfNew name containers _ item' hrest
    rw [TreeMap.getElem?_insertIfNew] at hkept hnew
    simp only [Std.LawfulEqOrd.compare_eq_iff_eq] at hkept hnew
    constructor
    · intro devices hdevices
      refine hkept devices ?_
      rw [if_neg, hdevices]
      rintro ⟨rfl, hnotMem⟩
      exact hnotMem (TreeMap.mem_iff_isSome_getElem?.mpr (Option.isSome_of_eq_some hdevices))
    · intro hnone
      by_cases hname : container.name = name
      · have hnotMem : container.name ∉ item := by
          rw [hname, TreeMap.mem_iff_isSome_getElem?, hnone]
          exact Bool.false_ne_true
        refine Or.inr ⟨container, devices₁, ?_, hdevices₁, hkept devices₁ ?_⟩
        · simp [hname]
        · rw [if_pos ⟨hname, hnotMem⟩]
      · rw [if_neg fun hand => hname hand.1] at hnew
        rw [List.find?_cons_of_neg (by simp [hname])]
        exact hnew hnone

/-- The devices listed for a name are the power sources of the first container of that name. -/
theorem listed_of_selectDevicesTotalPowerContainer {containerTypeId : Int8}
    {ret : DbReply (TreeMap String (List String))} {containers : DbReply (List AssetElement)}
    (hcontainers : db.selectAssetElementsByType containerTypeId.toInt16.toUInt16 = .ok containers)
    (hstatus : containers.status ≠ 0)
    (h : selectDevicesTotalPowerContainer persist rounds db containerTypeId = .returns ret)
    (name device : String) :
    (ret.status ≠ 0 ∧ ∃ devices, ret.item[name]? = some devices ∧ device ∈ devices) ↔
      ∃ container, containers.item.find? (·.name == name) = some container ∧
        PowersContainer persist rounds db container device := by
  rw [selectDevicesTotalPowerContainer] at h
  rw [hcontainers, Outcome.ofExcept_ok, Outcome.returns_bind, if_neg hstatus] at h
  split at h
  · rename_i hempty
    obtain rfl := Outcome.returns.inj h
    simp [List.isEmpty_iff.mp hempty]
  · obtain ⟨item, hloop, hret⟩ := Outcome.bind_eq_returns_iff.mp h
    obtain rfl := Outcome.returns.inj hret
    have hnew := (getElem?_of_foldlM_insertIfNew name containers.item ∅ item hloop).2
      TreeMap.getElem?_emptyc
    simp only [DbReply.new, ne_eq, one_ne_zero, not_false_eq_true, true_and]
    rcases hnew with ⟨hnone, hfind⟩ | ⟨container, devices, hfind, hsources, hitem⟩
    · simp [hnone, hfind]
    · simp only [hitem, hfind, Option.some.injEq, exists_eq_left']
      exact mem_of_powerSources_eq_returns hsources device

end MetricTPower
