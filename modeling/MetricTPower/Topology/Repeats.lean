import MetricTPower.Topology.Search

/-!
# Repeated power sources

A selected device is put into `todelete`, which keeps it for all rounds, but it is taken off the
border only after the selection of a round. So a device that comes back to the border in a later
round, along a longer chain, is selected again and its name is pushed a second time. Chains of one
length meet in the set of the border and do no harm: the list of power sources has a repeat
exactly when chains of two lengths lead to one selectable device.

## Main results

* `computeTotalPowerV2_nodup_iff`: when the list of power sources has no repeats.
-/

open Std (TreeMap TreeSet)
open Relation (ReflTransGen)

namespace MetricTPower

/-- **When the list of power sources has no repeats.** For a container whose devices have distinct
names, and a search that ends from the border that `select_devices_total_power_container` builds:
each name is in the list once if and only if no selectable device is reached from the border by
chains of two lengths, along links that start at devices that are not selectable. -/
theorem computeTotalPowerV2_nodup_iff (persist : Persist) (c : ContainerDevices)
    (links : List Link)
    (hnames : ∀ a b : DeviceInfo, c.find a.id = some a → c.find b.id = some b → a.name = b.name →
      a = b)
    (rounds : ℕ) (dvc : List String)
    (hdvc : computeTotalPowerV2 persist rounds c links (borderDevices c links) = some dvc) :
    dvc.Nodup ↔ ∀ d, IsSelectable persist c links d → ∀ m n,
      d ∈ LevelSearch.level (PassesOn persist c links) {b | IsBorder c links b} m →
      d ∈ LevelSearch.level (PassesOn persist c links) {b | IsBorder c links b} n → m = n := by
  have hborder : ∀ d ∈ borderDevices c links, c.find d.id = some d :=
    fun d hd => (mem_borderDevices_iff.mp hd).1
  obtain ⟨selected, hselectedNames, hselected, hnodup⟩ :=
    exists_selected_nodup_of_computeLoop rounds (.start hborder) hdvc
  rw [List.nil_append] at hselectedNames
  -- every selected device is in the container, where its name is its own
  have hfound : ∀ d ∈ selected, c.find d.id = some d := by
    intro d hd
    obtain ⟨n, hlevel, -⟩ := (hselected d).mp hd
    cases n with
    | zero => exact hborder d hlevel
    | succ n =>
      obtain ⟨a, -, ⟨-, hin, -⟩, -⟩ := hlevel
      exact hin
  have hnamesNodup : dvc.Nodup ↔ selected.Nodup := by
    rw [hselectedNames]
    refine ⟨List.Nodup.of_map _, fun h => h.map_on fun a ha b hb hname => ?_⟩
    exact hnames a b (hfound a ha) (hfound b hb) hname
  have hset : {d | d ∈ borderDevices c links} = {b | IsBorder c links b} :=
    Set.ext fun d => mem_borderDevices_iff
  rw [hnamesNodup, hnodup, SelectedOnce, borderLevel, hset]

/-- The devices of a container have distinct names when those of the list of its map have. -/
theorem eq_of_name_eq {c : ContainerDevices}
    (h : ∀ a ∈ c.devices.toList, ∀ b ∈ c.devices.toList, a.2.name = b.2.name → a.2 = b.2)
    (a b : DeviceInfo) (ha : c.find a.id = some a) (hb : c.find b.id = some b)
    (hname : a.name = b.name) : a = b := by
  have hmem : ∀ d : DeviceInfo, c.find d.id = some d → (d.id, d) ∈ c.devices.toList := fun d hd =>
    TreeMap.mem_toList_iff_getElem?_eq_some.mpr hd
  exact h _ (hmem a ha) _ (hmem b hb) hname

/-- The two switches of `islandDevices` feed one epdu, and the second epdu is fed from out of the
container. -/
def twoSwitchesLinks : List Link :=
  [(1, 2), (3, 2), (9, 4)]

/-- The chains over the two switches are equally long, and the epdu at their end is listed once. -/
theorem computeTotalPowerV2_nodup_iff_twoSwitches :
    ["epdu-4", "epdu-2"].Nodup ↔
      ∀ d, IsSelectable samplePersist islandDevices twoSwitchesLinks d → ∀ m n,
        d ∈ LevelSearch.level (PassesOn samplePersist islandDevices twoSwitchesLinks)
          {b | IsBorder islandDevices twoSwitchesLinks b} m →
        d ∈ LevelSearch.level (PassesOn samplePersist islandDevices twoSwitchesLinks)
          {b | IsBorder islandDevices twoSwitchesLinks b} n → m = n :=
  computeTotalPowerV2_nodup_iff samplePersist islandDevices twoSwitchesLinks
    (eq_of_name_eq (by decide +kernel)) 2 ["epdu-4", "epdu-2"] (by decide +kernel)

/-- A link that feeds the epdu of `chainDevices` from out of the container, besides the switch. -/
def fedLinks : List Link :=
  [(1, 2), (9, 2)]

/-- The epdu is fed from out of the container and by the switch, and it is listed twice. -/
theorem fedLinks_listed_twice :
    ¬ ∀ (persist : Persist) (c : ContainerDevices) (links : List Link),
      (∀ a b : DeviceInfo, c.find a.id = some a → c.find b.id = some b → a.name = b.name → a = b) →
      ∀ rounds dvc, computeTotalPowerV2 persist rounds c links (borderDevices c links) = some dvc →
        dvc.Nodup := by
  intro h
  have htwice : computeTotalPowerV2 samplePersist 3 chainDevices fedLinks
      (borderDevices chainDevices fedLinks) = some ["epdu-2", "epdu-2"] := by
    decide +kernel
  have hnodup := h samplePersist chainDevices fedLinks (eq_of_name_eq (by decide +kernel)) 3 _
    htwice
  exact absurd hnodup (by decide)

end MetricTPower
