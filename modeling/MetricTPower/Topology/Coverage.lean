import MetricTPower.Library.Reachability
import MetricTPower.Topology.PowerSources
import MetricTPower.Topology.Search

/-!
# What the power sources cover

The search of a container starts at its border and takes the first selectable device of every
chain. Two things make the sum over these devices the power of the container. No load is missed: in
a container without a cycle, a walk back from any device ends in the border, so that every
selectable device is a power source or powered by one (`powerSources_covers`). And no load is
counted twice: where every device has at most one feed, two power sources are never on one chain,
and a cycle is never reached, because a way into it would be a second feed
(`computeTotalPowerV2_not_powered`).

## Main definitions

* `SingleFeed`: every device of the container is the destination of at most one link.

## Main results

* `exists_border_of_acyclic`: the walk back to the border.
* `powerSources_covers`: the power sources of a container without a cycle cover all measured loads.
* `computeTotalPowerV2_not_powered`: with single feeds, no power source powers another.
-/

open Std (TreeMap TreeSet)
open Relation (ReflTransGen TransGen)

namespace MetricTPower

variable {persist : Persist} {c : ContainerDevices} {links : List Link}

/-! ### The walk back to the border -/

/-- A device that no device of the container powers is on the border: no link leads to it, or one
from out of the container does. -/
theorem isBorder_of_not_powered {d : DeviceInfo} (hd : c.find d.id = some d)
    (h : ∀ a, ¬ Powers c links a d) : IsBorder c links d := by
  refine ⟨hd, ?_⟩
  by_cases hlink : ∃ l ∈ links, l.2 = d.id
  · obtain ⟨⟨id, _⟩, hl, rfl⟩ := hlink
    refine Or.inl ⟨_, hl, ?_, rfl⟩
    by_contra hfrom
    obtain ⟨a, ha⟩ := Option.ne_none_iff_exists'.mp hfrom
    obtain rfl := ContainerDevices.id_of_find ha
    exact h a ⟨ha, hd, hl⟩
  · exact Or.inr fun l hl hto => hlink ⟨l, hl, hto⟩

/-- The devices that power another one are finitely many. -/
theorem mem_devices_of_powers {a b : DeviceInfo} (h : Powers c links a b) :
    a ∈ (c.devices.toList.map Prod.snd).toFinset := by
  rw [List.mem_toFinset, List.mem_map]
  exact ⟨(a.id, a), TreeMap.mem_toList_iff_getElem?_eq_some.mpr h.1, rfl⟩

/-- Without a cycle, every device of the container is powered by a border device or is one. -/
theorem exists_border_of_acyclic (hacyclic : ∀ d, ¬ TransGen (Powers c links) d d)
    {d : DeviceInfo} (hd : c.find d.id = some d) :
    ∃ p, IsBorder c links p ∧ ReflTransGen (Powers c links) p d := by
  -- the search of the converse relation from the device ends at a device that nothing powers
  have hnocycle : ¬ LevelSearch.ReachesCycle (Function.swap (Powers c links)) {d} := by
    rintro ⟨-, -, e, -, he⟩
    exact hacyclic e (Relation.transGen_swap.mp he)
  obtain ⟨p, hdp, hfirst⟩ :=
    LevelSearch.exists_end _ (fun _ _ => mem_devices_of_powers) hnocycle
  rw [Relation.reflTransGen_swap] at hdp
  refine ⟨p, isBorder_of_not_powered ?_ hfirst, hdp⟩
  rcases ReflTransGen.cases_head hdp with rfl | ⟨_, hlink, -⟩
  · exact hd
  · exact hlink.1

/-! ### No load is missed -/

/-- In a container without a cycle the search from its border ends, and every selectable device is
selected or powered by a selected one. -/
theorem exists_covering_of_acyclic (persist : Persist) (c : ContainerDevices) (links : List Link)
    (hacyclic : ∀ d, ¬ TransGen (Powers c links) d d) :
    ∃ dvc, (∃ n, ∀ rounds, n ≤ rounds →
        computeTotalPowerV2 persist rounds c links (borderDevices c links) = some dvc) ∧
      ∀ d, c.find d.id = some d → IsSelectable persist c links d →
        ∃ e, c.find e.id = some e ∧ e.name ∈ dvc ∧ ReflTransGen (Powers c links) e d := by
  obtain ⟨dvc, hends, hmem⟩ := computeTotalPowerV2_firstOfChains persist c links
    (borderDevices c links) (fun d hd => (mem_borderDevices_iff.mp hd).1)
    fun d hd => hacyclic d (TransGen.mono (fun _ _ h => h.1) d d hd)
  refine ⟨dvc, hends, fun d hd hsel => ?_⟩
  obtain ⟨p, hp, hpd⟩ := exists_border_of_acyclic hacyclic hd
  obtain ⟨e, hesel, hpe, hed⟩ :=
    Reachability.exists_first (P := IsSelectable persist c links) hpd hsel
  have he : c.find e.id = some e := by
    rcases ReflTransGen.cases_head hed with rfl | ⟨_, hlink, -⟩
    · exact hd
    · exact hlink.1
  exact ⟨e, he, (hmem e.name).mpr ⟨e, rfl, he, hesel, p, mem_borderDevices_iff.mpr hp, hpe⟩, hed⟩

section Container

variable {db : Database} {container : AssetElement} {rows : List Row}
  {links : DbReply (List Link)}

/-- The body of the loop over the containers, when both queries succeed and there are links. -/
theorem powerSources_of_queries (rounds : ℕ)
    (hrows : db.selectAssetsByContainer container.id = .ok (0, rows))
    (hlinks : db.selectLinksByContainer container.id = .ok links) (hstatus : links.status ≠ 0)
    (hitem : links.item ≠ []) :
    powerSources persist rounds db container =
      if (rows.foldl (addRow persist) .empty).devices.isEmpty then .returns []
      else .ofOption (computeTotalPowerV2 persist rounds (rows.foldl (addRow persist) .empty)
        links.item (borderDevices (rows.foldl (addRow persist) .empty) links.item)) := by
  rw [powerSources, hrows, Outcome.ofExcept_ok, Outcome.returns_bind]
  simp only [ne_eq, not_true_eq_false, if_false]
  refine if_congr Iff.rfl rfl ?_
  rw [hlinks, Outcome.ofExcept_ok, Outcome.returns_bind, if_neg hstatus, if_neg]
  simpa using hitem

/-- The list stored for a container that is the first of its name is the result of its search, for
any number of rounds. -/
theorem getElem?_of_selectDevicesTotalPowerContainer {rounds : ℕ} {containerTypeId : Int8}
    {ret : DbReply (TreeMap String (List String))} {containers : DbReply (List AssetElement)}
    (hcontainers : db.selectAssetElementsByType containerTypeId.toInt16.toUInt16 = .ok containers)
    (hstatus : containers.status ≠ 0)
    (hfirst : containers.item.find? (·.name == container.name) = some container)
    (h : selectDevicesTotalPowerContainer persist rounds db containerTypeId = .returns ret) :
    ∃ devices, powerSources persist rounds db container = .returns devices ∧
      ret.item[container.name]? = some devices := by
  rw [selectDevicesTotalPowerContainer, hcontainers, Outcome.ofExcept_ok, Outcome.returns_bind,
    if_neg hstatus, if_neg] at h
  · obtain ⟨item, hloop, hret⟩ := Outcome.bind_eq_returns_iff.mp h
    obtain rfl := Outcome.returns.inj hret
    have hnew := (getElem?_of_foldlM_insertIfNew container.name containers.item ∅ item hloop).2
      TreeMap.getElem?_emptyc
    rcases hnew with ⟨-, hnone⟩ | ⟨container', devices, hfind, hsources, hitem⟩
    · rw [hfirst] at hnone
      cases hnone
    · obtain rfl := Option.some.inj (hfirst.symm.trans hfind)
      exact ⟨devices, hsources, hitem⟩
  · intro hempty
    rw [List.isEmpty_iff.mp hempty] at hfirst
    cases hfirst

end Container

/-! ### The end of the calls -/

/-- What is asked for a container has an end: its queries throw nothing, and the search over its
links ends. -/
def QueriesEnd (persist : Persist) (db : Database) (container : AssetElement) : Prop :=
  ∃ rv rows, db.selectAssetsByContainer container.id = .ok (rv, rows) ∧
    (rv = 0 → (rows.foldl (addRow persist) .empty).devices.isEmpty = false →
      ∃ links, db.selectLinksByContainer container.id = .ok links ∧
        (links.status ≠ 0 → links.item ≠ [] →
          ∃ rounds dvc, computeTotalPowerV2 persist rounds (rows.foldl (addRow persist) .empty)
            links.item (borderDevices (rows.foldl (addRow persist) .empty) links.item) = some dvc))

section Ends

variable {db : Database} {container : AssetElement}

/-- The power sources of such a container are computed with enough rounds. -/
theorem QueriesEnd.powerSources (h : QueriesEnd persist db container) :
    ∃ result, Outcome.Ends (fun rounds => powerSources persist rounds db container) result := by
  obtain ⟨rv, rows, hrows, hlinks⟩ := h
  simp only [MetricTPower.powerSources, hrows, Outcome.ofExcept_ok, Outcome.returns_bind]
  by_cases hrv : rv = 0
  · simp only [hrv, ne_eq, not_true_eq_false, if_false]
    cases hempty : (rows.foldl (addRow persist) .empty).devices.isEmpty with
    | true => exact ⟨[], Outcome.ends_const []⟩
    | false =>
      obtain ⟨links, hlinks, hsearch⟩ := hlinks hrv hempty
      simp only [hlinks, Outcome.ofExcept_ok, Outcome.returns_bind, Bool.false_eq_true, if_false]
      by_cases hstatus : links.status = 0
      · simp only [hstatus, if_true]
        exact ⟨[], Outcome.ends_const []⟩
      · by_cases hitem : links.item = []
        · simp only [hstatus, hitem, List.isEmpty_nil, if_true, if_false]
          exact ⟨[], Outcome.ends_const []⟩
        · obtain ⟨n, dvc, hdvc⟩ := hsearch hstatus hitem
          refine ⟨dvc, n, fun rounds hrounds => ?_⟩
          have hmore := computeLoop_mono hrounds hdvc
          simp only [if_neg hstatus, List.isEmpty_iff, if_neg hitem]
          exact Outcome.ofOption_eq_returns_iff.mpr hmore
  · simp only [ne_eq, hrv, not_false_eq_true, if_true]
    exact ⟨[], Outcome.ends_const []⟩

/-- When the list of the containers is read and what is asked for each of them has an end, enough
rounds make `select_devices_total_power_container` return. -/
theorem exists_ends_selectDevicesTotalPowerContainer {containerTypeId : Int8}
    {containers : DbReply (List AssetElement)}
    (hcontainers : db.selectAssetElementsByType containerTypeId.toInt16.toUInt16 = .ok containers)
    (hstatus : containers.status ≠ 0) (hitem : containers.item ≠ [])
    (hall : ∀ container ∈ containers.item, QueriesEnd persist db container) :
    ∃ ret, Outcome.Ends
      (fun rounds => selectDevicesTotalPowerContainer persist rounds db containerTypeId) ret := by
  have hbody : ∀ container ∈ containers.item, ∀ item : TreeMap String (List String), ∃ item',
      Outcome.Ends (fun rounds => do
        let result ← powerSources persist rounds db container
        return item.insertIfNew container.name result) item' := by
    intro container hcontainer item
    obtain ⟨result, hresult⟩ := (hall container hcontainer).powerSources
    exact ⟨_, hresult.bind (Outcome.ends_const (item.insertIfNew container.name result))⟩
  obtain ⟨item, hloop⟩ := Outcome.exists_ends_foldlM _ hbody ∅
  refine ⟨DbReply.new item, ?_⟩
  simp only [selectDevicesTotalPowerContainer, hcontainers, Outcome.ofExcept_ok,
    Outcome.returns_bind, if_neg hstatus, List.isEmpty_iff, if_neg hitem]
  exact hloop.bind (Outcome.ends_const (DbReply.new item))

end Ends

/-- **Every measured load is covered.** For a container whose devices and links can be queried, with
at least one link and no cycle of links between its devices, the search ends with one list. When the
container is the first of its name in the list of containers, `select_devices_total_power_container`
stores no other list for it, and with enough rounds it returns with this list stored, unless what is
asked for some container throws or does not end. And every epdu, and every ups without a link out of
the container, is in the list or powered, along links between devices of the container, by a device
in the list. -/
theorem powerSources_covers (persist : Persist) (db : Database) (container : AssetElement)
    (rows : List Row) (links : DbReply (List Link))
    (hrows : db.selectAssetsByContainer container.id = .ok (0, rows))
    (hlinks : db.selectLinksByContainer container.id = .ok links) (hstatus : links.status ≠ 0)
    (hitem : links.item ≠ [])
    (hacyclic : ∀ d, ¬ TransGen (Powers (rows.foldl (addRow persist) .empty) links.item) d d) :
    ∃ result, (∃ n, ∀ rounds, n ≤ rounds →
        powerSources persist rounds db container = .returns result) ∧
      (∀ rounds containerTypeId containers ret,
        db.selectAssetElementsByType (Int8.toInt16 containerTypeId).toUInt16 = .ok containers →
        containers.status ≠ 0 →
        containers.item.find? (·.name == container.name) = some container →
        selectDevicesTotalPowerContainer persist rounds db containerTypeId = .returns ret →
        ret.item[container.name]? = some result) ∧
      (∀ containerTypeId containers,
        db.selectAssetElementsByType (Int8.toInt16 containerTypeId).toUInt16 = .ok containers →
        containers.status ≠ 0 →
        containers.item.find? (·.name == container.name) = some container →
        (∀ container' ∈ containers.item, QueriesEnd persist db container') →
        ∃ ret, Outcome.Ends
          (fun rounds => selectDevicesTotalPowerContainer persist rounds db containerTypeId) ret ∧
          ret.item[container.name]? = some result) ∧
      ∀ d, (rows.foldl (addRow persist) .empty).find d.id = some d →
        IsSelectable persist (rows.foldl (addRow persist) .empty) links.item d →
        ∃ e, (rows.foldl (addRow persist) .empty).find e.id = some e ∧ e.name ∈ result ∧
          ReflTransGen (Powers (rows.foldl (addRow persist) .empty) links.item) e d := by
  have hsources : ∀ rounds, powerSources persist rounds db container = _ := fun rounds =>
    powerSources_of_queries rounds hrows hlinks hstatus hitem
  generalize rows.foldl (addRow persist) .empty = c at hacyclic hsources ⊢
  obtain ⟨result, ⟨n, hends⟩, hunique, hcovers⟩ : ∃ result,
      (∃ n, ∀ rounds, n ≤ rounds → powerSources persist rounds db container = .returns result) ∧
      (∀ rounds devices, powerSources persist rounds db container = .returns devices →
        devices = result) ∧
      ∀ d, c.find d.id = some d → IsSelectable persist c links.item d →
        ∃ e, c.find e.id = some e ∧ e.name ∈ result ∧ ReflTransGen (Powers c links.item) e d := by
    simp only [hsources]
    by_cases hempty : c.devices.isEmpty = true
    · refine ⟨[], ⟨0, fun rounds _ => if_pos hempty⟩, fun rounds devices h => ?_, fun d hd => ?_⟩
      · rw [if_pos hempty] at h
        exact (Outcome.returns.inj h).symm
      · rw [ContainerDevices.find, TreeMap.getElem?_of_isEmpty hempty] at hd
        cases hd
    · obtain ⟨dvc, ⟨n, hn⟩, hcovers⟩ := exists_covering_of_acyclic persist c links.item hacyclic
      simp only [if_neg hempty, Outcome.ofOption_eq_returns_iff]
      refine ⟨dvc, ⟨n, hn⟩, fun rounds devices h => ?_, hcovers⟩
      -- both are the result of the search with more rounds
      have hmore := computeLoop_mono (Nat.le_max_left rounds n) h
      exact Option.some.inj (hmore.symm.trans (hn _ (Nat.le_max_right rounds n)))
  have hstored : ∀ rounds containerTypeId containers ret,
      db.selectAssetElementsByType (Int8.toInt16 containerTypeId).toUInt16 = .ok containers →
      containers.status ≠ 0 → containers.item.find? (·.name == container.name) = some container →
      selectDevicesTotalPowerContainer persist rounds db containerTypeId = .returns ret →
      ret.item[container.name]? = some result := by
    intro rounds containerTypeId containers ret hcontainers hstatus' hfirst hret
    obtain ⟨devices, hdevices, hlisted⟩ :=
      getElem?_of_selectDevicesTotalPowerContainer hcontainers hstatus' hfirst hret
    rw [hlisted, hunique rounds devices hdevices]
  refine ⟨result, ⟨n, hends⟩, hstored, ?_, hcovers⟩
  intro containerTypeId containers hcontainers hstatus' hfirst hall
  have hitem' : containers.item ≠ [] := by
    rintro hnil
    rw [hnil] at hfirst
    cases hfirst
  obtain ⟨ret, m, hret⟩ :=
    exists_ends_selectDevicesTotalPowerContainer hcontainers hstatus' hitem' hall
  exact ⟨ret, ⟨m, hret⟩,
    hstored m containerTypeId containers ret hcontainers hstatus' hfirst (hret m le_rfl)⟩

/-- A database with one rack, of the devices of `chainDevices` and the link of `chainLinks`. -/
def chainDatabase : Database where
  connectCached := .ok ()
  selectAssetElementsByType _ := .ok (.new [⟨10, "rack-1"⟩])
  selectAssetsByContainer _ := .ok (0, [⟨6, "sts-1", 1, 5, "sts"⟩, ⟨6, "epdu-2", 2, 3, "epdu"⟩])
  selectLinksByContainer _ := .ok (.new chainLinks)
  close := .ok ()

theorem queriesEnd_chain (container : AssetElement) :
    QueriesEnd samplePersist chainDatabase container :=
  ⟨0, _, rfl, fun _ _ => ⟨_, rfl, fun _ _ => ⟨3, ["epdu-2"], by decide +kernel⟩⟩⟩

theorem powerSources_covers_chain :
    ∃ result, (∃ n, ∀ rounds, n ≤ rounds →
        powerSources samplePersist rounds chainDatabase ⟨10, "rack-1"⟩ = .returns result) ∧
      (∀ rounds ret, selectDevicesTotalPowerContainer samplePersist rounds chainDatabase
        samplePersist.rack = .returns ret → ret.item["rack-1"]? = some result) ∧
      (∃ ret, Outcome.Ends (fun rounds => selectDevicesTotalPowerContainer samplePersist rounds
          chainDatabase samplePersist.rack) ret ∧ ret.item["rack-1"]? = some result) ∧
      ∀ d, chainDevices.find d.id = some d → IsSelectable samplePersist chainDevices chainLinks d →
        ∃ e, chainDevices.find e.id = some e ∧ e.name ∈ result ∧
          ReflTransGen (Powers chainDevices chainLinks) e d := by
  obtain ⟨result, hends, hstored, hreturns, hcovers⟩ :=
    powerSources_covers samplePersist chainDatabase ⟨10, "rack-1"⟩ _ (.new chainLinks) rfl rfl
      (by decide) (by decide) not_transGen_chain
  refine ⟨result, hends, fun rounds ret h => ?_, ?_, hcovers⟩
  · exact hstored rounds samplePersist.rack _ ret rfl (by decide) rfl h
  · exact hreturns samplePersist.rack _ rfl (by decide) rfl fun container _ =>
      queriesEnd_chain container

/-! ### No load is counted twice -/

/-- Every device of the container is the destination of at most one link. -/
def SingleFeed (c : ContainerDevices) (links : List Link) : Prop :=
  ∀ d, c.find d.id = some d → ∀ l ∈ links, ∀ l' ∈ links, l.2 = d.id → l'.2 = d.id → l = l'

namespace SingleFeed

/-- At most one device of the container powers a device. -/
theorem eq_of_powers (h : SingleFeed c links) {a b d : DeviceInfo} (ha : Powers c links a d)
    (hb : Powers c links b d) : a = b := by
  have hlink := h d ha.2.1 _ ha.2.2 _ hb.2.2 rfl rfl
  have hid : a.id = b.id := congrArg Prod.fst hlink
  exact Option.some.inj (ha.1.symm.trans (hid ▸ hb.1))

/-- No device of the container powers a border device. -/
theorem not_powers_border (h : SingleFeed c links) {a p : DeviceInfo} (hp : IsBorder c links p) :
    ¬ Powers c links a p := by
  rintro ⟨ha, hin, hlink⟩
  rcases hp.2 with ⟨l, hl, hfrom, hto⟩ | hnone
  · rw [h p hin l hl _ hlink hto rfl, ha] at hfrom
    cases hfrom
  · exact hnone _ hlink rfl

/-- The search reaches no device on a cycle. -/
theorem not_transGen (h : SingleFeed c links) {p d : DeviceInfo} (hp : IsBorder c links p)
    (hpd : ReflTransGen (PassesOn persist c links) p d) : ¬ TransGen (Powers c links) d d := by
  induction hpd with
  | refl =>
    intro hd
    obtain ⟨_, -, hlast⟩ := TransGen.tail'_iff.mp hd
    exact h.not_powers_border hp hlast
  | @tail b d hpb hbd ih =>
    -- a cycle through the device also goes through the one device that powers it
    intro hd
    obtain ⟨b', hdb, hb'd⟩ := TransGen.tail'_iff.mp hd
    obtain rfl := h.eq_of_powers hb'd hbd.1
    exact ih (TransGen.head' hbd.1 hdb)

/-- No selectable device powers a device that the search reaches. -/
theorem not_isSelectable (h : SingleFeed c links) {a p d : DeviceInfo} (hp : IsBorder c links p)
    (hpd : ReflTransGen (PassesOn persist c links) p d) (had : TransGen (Powers c links) a d) :
    ¬ IsSelectable persist c links a := by
  induction hpd with
  | refl =>
    obtain ⟨_, -, hlast⟩ := TransGen.tail'_iff.mp had
    exact absurd hlast (h.not_powers_border hp)
  | @tail b d hpb hbd ih =>
    obtain ⟨b', hab, hb'd⟩ := TransGen.tail'_iff.mp had
    obtain rfl := h.eq_of_powers hb'd hbd.1
    rcases ReflTransGen.cases_tail hab with rfl | ⟨e, hae, heb⟩
    · exact hbd.2
    · exact ih (TransGen.tail' hae heb)

end SingleFeed

/-- **No double counting when every device has a single feed.** When each device of the container is
the destination of at most one link, the search from the border that
`select_devices_total_power_container` builds ends, cycles or not, and returns the names of selected
devices none of which is powered, along one or more links between devices of the container, by
another of them. The selected devices are the selectable ones that end a chain from the border. -/
theorem computeTotalPowerV2_not_powered (persist : Persist) (c : ContainerDevices)
    (links : List Link)
    (hfeed : ∀ d, c.find d.id = some d →
      ∀ l ∈ links, ∀ l' ∈ links, l.2 = d.id → l'.2 = d.id → l = l') :
    ∃ selected : List DeviceInfo,
      (∃ n, ∀ rounds, n ≤ rounds → computeTotalPowerV2 persist rounds c links
        (borderDevices c links) = some (selected.map DeviceInfo.name)) ∧
      (∀ d, d ∈ selected ↔ c.find d.id = some d ∧ IsSelectable persist c links d ∧
        ∃ p, IsBorder c links p ∧ ReflTransGen (PassesOn persist c links) p d) ∧
      ∀ a ∈ selected, ∀ b ∈ selected, ¬ TransGen (Powers c links) a b := by
  have hsingle : SingleFeed c links := hfeed
  have hborder : ∀ d ∈ borderDevices c links, c.find d.id = some d :=
    fun d hd => (mem_borderDevices_iff.mp hd).1
  obtain ⟨n, dvc, hdvc⟩ := (computeTotalPowerV2_ends_iff persist c links).mpr <| by
    rintro ⟨p, d, hp, hpd, hd⟩
    exact hsingle.not_transGen hp hpd (TransGen.mono (fun _ _ h => h.1) d d hd)
  obtain ⟨selected, rfl, hselected⟩ := exists_selected_of_computeTotalPowerV2 hborder hdvc
  simp only [mem_borderDevices_iff] at hselected
  refine ⟨selected, ⟨n, fun rounds hle => computeLoop_mono hle hdvc⟩, hselected, ?_⟩
  intro a ha b hb hab
  obtain ⟨-, -, p, hp, hpb⟩ := (hselected b).mp hb
  exact hsingle.not_isSelectable hp hpb hab ((hselected a).mp ha).2.1

/-- The link of `chainLinks`, and a cycle of the two other devices. -/
def islandLinks : List Link :=
  [(1, 2), (3, 4), (4, 3)]

theorem computeTotalPowerV2_not_powered_island :
    ∃ selected : List DeviceInfo,
      (∃ n, ∀ rounds, n ≤ rounds → computeTotalPowerV2 samplePersist rounds islandDevices
        islandLinks (borderDevices islandDevices islandLinks) =
          some (selected.map DeviceInfo.name)) ∧
      (∀ d, d ∈ selected ↔ islandDevices.find d.id = some d ∧
        IsSelectable samplePersist islandDevices islandLinks d ∧
          ∃ p, IsBorder islandDevices islandLinks p ∧
            ReflTransGen (PassesOn samplePersist islandDevices islandLinks) p d) ∧
      ∀ a ∈ selected, ∀ b ∈ selected, ¬ TransGen (Powers islandDevices islandLinks) a b := by
  refine computeTotalPowerV2_not_powered samplePersist islandDevices islandLinks ?_
  have hlinks : ∀ l ∈ islandLinks, ∀ l' ∈ islandLinks, l.2 = l'.2 → l = l' := by
    simp [islandLinks]
  exact fun d _ l hl l' hl' hto hto' => hlinks l hl l' hl' (hto.trans hto'.symm)

end MetricTPower
