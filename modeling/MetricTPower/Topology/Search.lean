import MetricTPower.Library.LevelSearch
import MetricTPower.Library.Loops
import MetricTPower.Topology.CalcPower

/-!
# The search for the power sources

`compute_total_power_v2` is documented as taking the first smart device of every power chain. This
file gives that meaning to its result. A device is *selectable* when the loop takes it as a power
source (`IsSelectable`), and the search walks along `PassesOn`: the links between devices of the
container that start at a device that is not selectable. The rounds of the loop are the levels of
the search of that relation from the border (`MetricTPower.Library.LevelSearch`); the set
`todelete`, although never cleared, only ever holds selectable devices and so takes no other
device off the border (`mem_nextBorder_iff`).

## Main definitions

* `Powers`, `IsSelectable`, `PassesOn`: the power chains of a container.
* `IsBorder`: the devices the search starts from.

## Main results

* `computeTotalPowerV2_firstOfChains`: where the search ends, its result is the set of the first
  selectable devices of the chains.
* `computeTotalPowerV2_ends_iff`: the search ends if and only if it reaches no cycle.
-/

open Std (TreeMap TreeSet)
open Relation (ReflTransGen TransGen)

namespace MetricTPower

/-! ### Power chains -/

/-- A link between two devices of the container. -/
def Powers (c : ContainerDevices) (links : List Link) (a b : DeviceInfo) : Prop :=
  c.find a.id = some a ∧ c.find b.id = some b ∧ (a.id, b.id) ∈ links

/-- An epdu, or a ups none of whose links leads out of the container. -/
def IsSelectable (persist : Persist) (c : ContainerDevices) (links : List Link) (d : DeviceInfo) :
    Prop :=
  isEpdu persist d = true ∨
    (isUps persist d = true ∧ ∀ l ∈ links, l.1 = d.id → (c.find l.2).isSome)

/-- A link between two devices of the container that the search follows: it does not start at a
selectable device. -/
def PassesOn (persist : Persist) (c : ContainerDevices) (links : List Link) (a b : DeviceInfo) :
    Prop :=
  Powers c links a b ∧ ¬ IsSelectable persist c links a

/-- A device of the container that is fed from out of it, or that no link leads to. -/
def IsBorder (c : ContainerDevices) (links : List Link) (d : DeviceInfo) : Prop :=
  c.find d.id = some d ∧
    ((∃ l ∈ links, c.find l.1 = none ∧ l.2 = d.id) ∨ ∀ l ∈ links, l.2 ≠ d.id)

variable {persist : Persist} {c : ContainerDevices} {links : List Link}

/-! ### The functions of the search as sets -/

theorem mem_findDests_iff {elementId id : UInt32} :
    id ∈ findDests links elementId ↔ (elementId, id) ∈ links := by
  have hadds : ∀ (s : TreeSet UInt32) (l : Link) (x : UInt32),
      x ∈ (if l.1 = elementId then s.insert l.2 else s) ↔ x ∈ s ∨ (l.1 = elementId ∧ l.2 = x) := by
    intro s l x
    split <;> simp_all [TreeSet.mem_insert, or_comm]
  rw [findDests, Loops.mem_foldl_iff hadds]
  simp only [TreeSet.not_mem_emptyc, false_or, Prod.exists]
  constructor
  · rintro ⟨a, b, hab, rfl, rfl⟩
    exact hab
  · exact fun h => ⟨elementId, id, h, rfl, rfl⟩

theorem isPoweringOtherRack_eq_false_iff {d : DeviceInfo} :
    isPoweringOtherRack d c links = false ↔
      ∀ l ∈ links, l.1 = d.id → (c.find l.2).isSome := by
  simp only [isPoweringOtherRack, List.any_eq_false, TreeSet.mem_toList, mem_findDests_iff,
    Option.isNone_iff_eq_none, ← Option.isSome_iff_ne_none, Prod.forall]
  constructor
  · rintro h a b hab rfl
    exact h b hab
  · exact fun h b hb => h d.id b hb rfl

/-- The test of the loop is `IsSelectable`. -/
theorem selectable_iff {d : DeviceInfo} :
    selectable persist c links d = true ↔ IsSelectable persist c links d := by
  simp only [selectable, IsSelectable, Bool.or_eq_true, Bool.and_eq_true, Bool.not_eq_true',
    isPoweringOtherRack_eq_false_iff]

theorem mem_addDest_iff (s : TreeSet DeviceInfo) (adevice : UInt32) (d : DeviceInfo) :
    d ∈ addDest c s adevice ↔ d ∈ s ∨ c.find adevice = some d := by
  rw [addDest]
  cases c.find adevice <;> simp [TreeSet.mem_insert, or_comm]

theorem mem_updateBorderDevices_iff {border : TreeSet DeviceInfo} {d : DeviceInfo} :
    d ∈ updateBorderDevices c links border ↔
      ∃ b ∈ border, (b.id, d.id) ∈ links ∧ c.find d.id = some d := by
  -- what one border device adds: its destinations in the container
  have hdests : ∀ (s : TreeSet DeviceInfo) (b x : DeviceInfo),
      x ∈ (findDests links b.id).foldl (addDest c) s ↔
        x ∈ s ∨ ((b.id, x.id) ∈ links ∧ c.find x.id = some x) := by
    intro s b x
    rw [TreeSet.foldl_eq_foldl_toList, Loops.mem_foldl_iff mem_addDest_iff]
    refine or_congr_right ⟨?_, ?_⟩
    · rintro ⟨a, ha, hax⟩
      obtain rfl := ContainerDevices.id_of_find hax
      exact ⟨mem_findDests_iff.mp (TreeSet.mem_toList.mp ha), hax⟩
    · rintro ⟨hlink, hx⟩
      exact ⟨x.id, TreeSet.mem_toList.mpr (mem_findDests_iff.mpr hlink), hx⟩
  rw [updateBorderDevices, TreeSet.foldl_eq_foldl_toList, Loops.mem_foldl_iff hdests]
  simp only [TreeSet.not_mem_emptyc, false_or, TreeSet.mem_toList]

theorem mem_addFed_iff (s : TreeSet DeviceInfo) (l : Link) (d : DeviceInfo) :
    d ∈ addFed c s l ↔ d ∈ s ∨ (c.find l.1 = none ∧ c.find l.2 = some d) := by
  rw [addFed]
  split
  · rename_i hfrom
    rw [Option.isNone_iff_eq_none] at hfrom
    simp [mem_addDest_iff, hfrom]
  · rename_i hfrom
    rw [Option.isNone_iff_eq_none] at hfrom
    simp [hfrom]

theorem mem_addDestDvc_iff (s : TreeSet UInt32) (l : Link) (id : UInt32) :
    id ∈ addDestDvc c s l ↔ id ∈ s ∨ ((c.find l.2).isSome = true ∧ l.2 = id) := by
  rw [addDestDvc]
  split <;> simp_all [TreeSet.mem_insert, or_comm]

theorem contains_destDvcs_iff {id : UInt32} :
    (links.foldl (addDestDvc c) ∅).contains id = true ↔
      ∃ l ∈ links, (c.find l.2).isSome = true ∧ l.2 = id := by
  rw [TreeSet.contains_iff_mem, Loops.mem_foldl_iff mem_addDestDvc_iff]
  simp only [TreeSet.not_mem_emptyc, false_or]

/-- The starting points of the search. -/
theorem mem_borderDevices_iff {d : DeviceInfo} :
    d ∈ borderDevices c links ↔ IsBorder c links d := by
  have hadds : ∀ (s : TreeSet DeviceInfo) (p : UInt32 × DeviceInfo) (x : DeviceInfo),
      x ∈ (if (links.foldl (addDestDvc c) ∅).contains p.1 then s else s.insert p.2) ↔
        x ∈ s ∨ ((¬ ∃ l ∈ links, (c.find l.2).isSome = true ∧ l.2 = p.1) ∧ p.2 = x) := by
    intro s p x
    by_cases hdest : (links.foldl (addDestDvc c) ∅).contains p.1 = true
    · rw [if_pos hdest]
      simp [contains_destDvcs_iff.mp hdest]
    · rw [if_neg hdest, TreeSet.mem_insert, Std.LawfulEqOrd.compare_eq_iff_eq,
        and_iff_right (mt contains_destDvcs_iff.mpr hdest), or_comm]
  rw [borderDevices, Loops.mem_foldl_iff hadds, Loops.mem_foldl_iff mem_addFed_iff]
  simp only [TreeSet.not_mem_emptyc, false_or, IsBorder]
  constructor
  · rintro (⟨l, hl, hfrom, hto⟩ | ⟨⟨id, x⟩, hmem, hdest, rfl⟩)
    · have hid : d.id = l.2 := ContainerDevices.id_of_find hto
      rw [← hid] at hto
      exact ⟨hto, Or.inl ⟨l, hl, hfrom, hid.symm⟩⟩
    · have hin : c.find id = some x := TreeMap.mem_toList_iff_getElem?_eq_some.mp hmem
      obtain rfl := ContainerDevices.id_of_find hin
      refine ⟨hin, Or.inr fun l hl hto => hdest ⟨l, hl, ?_, hto⟩⟩
      rw [hto]
      exact Option.isSome_of_eq_some hin
  · rintro ⟨hin, ⟨l, hl, hfrom, hto⟩ | hnone⟩
    · exact Or.inl ⟨l, hl, hfrom, hto ▸ hin⟩
    · refine Or.inr ⟨(d.id, d), TreeMap.mem_toList_iff_getElem?_eq_some.mpr hin, ?_, rfl⟩
      rintro ⟨l, hl, -, hto⟩
      exact hnone l hl hto

/-! ### One round of the loop -/

variable (persist c links) in
/-- What holds of the border and of `todelete` in every round: the border is in the container, and
only selectable devices are ever deleted. -/
structure Searching (border todelete : TreeSet DeviceInfo) : Prop where
  inContainer : ∀ d ∈ border, c.find d.id = some d
  selected : ∀ d ∈ todelete, IsSelectable persist c links d

variable (persist c links) in
/-- `todelete` after the selection of a round. -/
def nextTodelete (border todelete : TreeSet DeviceInfo) : TreeSet DeviceInfo :=
  todelete.insertMany (border.toList.filter (selectable persist c links))

variable (persist c links) in
/-- The border after a round. -/
def nextBorder (border todelete : TreeSet DeviceInfo) : TreeSet DeviceInfo :=
  updateBorderDevices c links
    (border.filter fun d => !(nextTodelete persist c links border todelete).contains d)

variable {border todelete : TreeSet DeviceInfo}

theorem mem_nextTodelete_iff {d : DeviceInfo} :
    d ∈ nextTodelete persist c links border todelete ↔
      d ∈ todelete ∨ (d ∈ border ∧ IsSelectable persist c links d) := by
  simp only [nextTodelete, TreeSet.mem_insertMany_list, List.contains_iff_mem, List.mem_filter,
    TreeSet.mem_toList, selectable_iff]

/-- One round of the loop: the border moves along the links that start at its devices that are not
selectable, whatever selectable devices `todelete` holds from earlier rounds. -/
theorem mem_nextBorder_iff (h : Searching persist c links border todelete) {d : DeviceInfo} :
    d ∈ nextBorder persist c links border todelete ↔
      ∃ b ∈ border, PassesOn persist c links b d := by
  have hkept : ∀ x, x ∈ border.filter (fun x =>
      !(nextTodelete persist c links border todelete).contains x) ↔
        x ∈ border ∧ ¬ IsSelectable persist c links x := by
    intro x
    rw [← TreeSet.mem_toList, TreeSet.toList_filter, List.mem_filter, TreeSet.mem_toList,
      Bool.not_eq_true', ← Bool.not_eq_true, TreeSet.contains_iff_mem, mem_nextTodelete_iff,
      not_or, not_and]
    constructor
    · rintro ⟨hx, -, hsel⟩
      exact ⟨hx, hsel hx⟩
    · rintro ⟨hx, hsel⟩
      exact ⟨hx, fun hdel => hsel (h.selected x hdel), fun _ => hsel⟩
  rw [nextBorder, mem_updateBorderDevices_iff]
  constructor
  · rintro ⟨b, hb, hlink, hd⟩
    obtain ⟨hb, hsel⟩ := (hkept b).mp hb
    exact ⟨b, hb, ⟨h.inContainer b hb, hd, hlink⟩, hsel⟩
  · rintro ⟨b, hb, ⟨-, hd, hlink⟩, hsel⟩
    exact ⟨b, (hkept b).mpr ⟨hb, hsel⟩, hlink, hd⟩

theorem Searching.next (h : Searching persist c links border todelete) :
    Searching persist c links (nextBorder persist c links border todelete)
      (nextTodelete persist c links border todelete) where
  inContainer d hd := by
    obtain ⟨b, -, ⟨-, hin, -⟩, -⟩ := (mem_nextBorder_iff h).mp hd
    exact hin
  selected d hd := by
    rcases mem_nextTodelete_iff.mp hd with hd | ⟨-, hsel⟩
    · exact h.selected d hd
    · exact hsel

/-! ### The rounds as levels of the search -/

variable (persist c links) in
/-- The devices on the border in a round, as the loop has no memory of earlier rounds. -/
def borderLevel (border : TreeSet DeviceInfo) : ℕ → Set DeviceInfo :=
  LevelSearch.level (PassesOn persist c links) {d | d ∈ border}

theorem borderLevel_nextBorder (h : Searching persist c links border todelete) (n : ℕ) :
    borderLevel persist c links (nextBorder persist c links border todelete) n =
      borderLevel persist c links border (n + 1) := by
  have hset : {d | d ∈ nextBorder persist c links border todelete} =
      {y | ∃ x ∈ {d | d ∈ border}, PassesOn persist c links x y} :=
    Set.ext fun d => mem_nextBorder_iff h
  rw [borderLevel, borderLevel, LevelSearch.level_succ', hset]

theorem isEmpty_iff_borderLevel_zero :
    border.isEmpty = true ↔ borderLevel persist c links border 0 = ∅ := by
  rw [TreeSet.isEmpty_iff_forall_not_mem, Set.eq_empty_iff_forall_notMem]
  rfl

theorem computeLoop_of_isEmpty (rounds : ℕ) (dvc : List String) (h : border.isEmpty = true) :
    computeLoop persist c links rounds border todelete dvc = some dvc := by
  rw [computeLoop.eq_def, if_pos h]

theorem computeLoop_zero (dvc : List String) (h : ¬ border.isEmpty = true) :
    computeLoop persist c links 0 border todelete dvc = none := by
  rw [computeLoop.eq_def, if_neg h]

theorem computeLoop_succ (rounds : ℕ) (dvc : List String) (h : ¬ border.isEmpty = true) :
    computeLoop persist c links (rounds + 1) border todelete dvc =
      computeLoop persist c links rounds (nextBorder persist c links border todelete)
        (nextTodelete persist c links border todelete)
        (dvc ++ (border.toList.filter (selectable persist c links)).map DeviceInfo.name) := by
  rw [computeLoop.eq_def, if_neg h]
  rfl

/-- The loop is done within some rounds exactly when one of the first levels is empty. -/
theorem computeLoop_isSome_iff (rounds : ℕ) (dvc : List String)
    (h : Searching persist c links border todelete) :
    (computeLoop persist c links rounds border todelete dvc).isSome = true ↔
      ∃ n ≤ rounds, borderLevel persist c links border n = ∅ := by
  induction rounds generalizing border todelete dvc with
  | zero =>
    by_cases hempty : border.isEmpty = true
    · simpa [computeLoop_of_isEmpty 0 dvc hempty] using isEmpty_iff_borderLevel_zero.mp hempty
    · simpa [computeLoop_zero dvc hempty] using mt isEmpty_iff_borderLevel_zero.mpr hempty
  | succ rounds ih =>
    by_cases hempty : border.isEmpty = true
    · simp only [computeLoop_of_isEmpty _ dvc hempty, Option.isSome_some, true_iff]
      exact ⟨0, Nat.zero_le _, isEmpty_iff_borderLevel_zero.mp hempty⟩
    · rw [computeLoop_succ rounds dvc hempty, ih _ h.next]
      simp only [borderLevel_nextBorder h]
      constructor
      · rintro ⟨n, hn, hlevel⟩
        exact ⟨n + 1, Nat.succ_le_succ hn, hlevel⟩
      · rintro ⟨n, hn, hlevel⟩
        cases n with
        | zero => exact absurd (isEmpty_iff_borderLevel_zero.mpr hlevel) hempty
        | succ n => exact ⟨n, Nat.le_of_succ_le_succ hn, hlevel⟩

/-- More rounds do not change the result of a loop that is done. -/
theorem computeLoop_mono {rounds rounds' : ℕ} {dvc r : List String} (hle : rounds ≤ rounds')
    (hr : computeLoop persist c links rounds border todelete dvc = some r) :
    computeLoop persist c links rounds' border todelete dvc = some r := by
  induction rounds generalizing border todelete dvc rounds' with
  | zero =>
    by_cases hempty : border.isEmpty = true
    · rwa [computeLoop_of_isEmpty _ dvc hempty] at hr ⊢
    · rw [computeLoop_zero dvc hempty] at hr
      cases hr
  | succ rounds ih =>
    by_cases hempty : border.isEmpty = true
    · rwa [computeLoop_of_isEmpty _ dvc hempty] at hr ⊢
    · obtain ⟨k, rfl⟩ : ∃ k, rounds' = k + 1 := ⟨rounds' - 1, by omega⟩
      rw [computeLoop_succ _ dvc hempty] at hr ⊢
      exact ih (by omega) hr

variable (persist c links border) in
/-- No selectable device is on the border in two rounds. -/
def SelectedOnce : Prop :=
  ∀ d, IsSelectable persist c links d → ∀ m n, d ∈ borderLevel persist c links border m →
    d ∈ borderLevel persist c links border n → m = n

/-- No selectable device is on the border in two rounds when this holds from the second round on,
and none of the first border comes back. -/
theorem selectedOnce_iff (h : Searching persist c links border todelete) :
    SelectedOnce persist c links border ↔
      SelectedOnce persist c links (nextBorder persist c links border todelete) ∧
        ∀ d ∈ border, IsSelectable persist c links d →
          ∀ n, d ∉ borderLevel persist c links (nextBorder persist c links border todelete) n := by
  simp only [SelectedOnce, borderLevel_nextBorder h]
  constructor
  · intro honce
    refine ⟨fun d hsel m n hm hn => Nat.succ_injective (honce d hsel _ _ hm hn),
      fun d hd hsel n hn => ?_⟩
    exact absurd (honce d hsel 0 (n + 1) hd hn) (Nat.succ_ne_zero n).symm
  · rintro ⟨honce, hfirst⟩ d hsel m n hm hn
    cases m with
    | zero =>
      cases n with
      | zero => rfl
      | succ n => exact absurd hn (hfirst d hm hsel n)
    | succ m =>
      cases n with
      | zero => exact absurd hm (hfirst d hn hsel m)
      | succ n => exact congrArg Nat.succ (honce d hsel m n hm hn)

/-- A loop that starts with an empty border selects nothing. -/
theorem exists_selected_of_isEmpty {rounds : ℕ} {dvc r : List String}
    (hempty : border.isEmpty = true)
    (hr : computeLoop persist c links rounds border todelete dvc = some r) :
    ∃ selected : List DeviceInfo, r = dvc ++ selected.map DeviceInfo.name ∧
      (∀ d, d ∈ selected ↔
        ∃ n, d ∈ borderLevel persist c links border n ∧ IsSelectable persist c links d) ∧
      (selected.Nodup ↔ SelectedOnce persist c links border) := by
  rw [computeLoop_of_isEmpty _ dvc hempty] at hr
  have hlevel : ∀ n, borderLevel persist c links border n = ∅ := fun n =>
    LevelSearch.level_eq_empty_of_le (isEmpty_iff_borderLevel_zero.mp hempty) (Nat.zero_le n)
  exact ⟨[], by simpa using (Option.some.inj hr).symm, fun d => by simp [hlevel],
    iff_of_true List.nodup_nil fun d _ m n hm => absurd hm (by simp [hlevel])⟩

theorem nodup_toList_border (border : TreeSet DeviceInfo) : border.toList.Nodup := by
  refine List.Pairwise.imp ?_ TreeSet.distinct_toList
  rintro a _ hne rfl
  exact hne Std.ReflCmp.compare_self

/-- The result of a loop that is done: what it started with, and the names of the devices that the
rounds have selected, which are the selectable devices of all levels, each of them once exactly
when none is on two levels. -/
theorem exists_selected_nodup_of_computeLoop (rounds : ℕ) {dvc r : List String}
    (h : Searching persist c links border todelete)
    (hr : computeLoop persist c links rounds border todelete dvc = some r) :
    ∃ selected : List DeviceInfo, r = dvc ++ selected.map DeviceInfo.name ∧
      (∀ d, d ∈ selected ↔
        ∃ n, d ∈ borderLevel persist c links border n ∧ IsSelectable persist c links d) ∧
      (selected.Nodup ↔ SelectedOnce persist c links border) := by
  induction rounds generalizing border todelete dvc with
  | zero =>
    by_cases hempty : border.isEmpty = true
    · exact exists_selected_of_isEmpty hempty hr
    · rw [computeLoop_zero dvc hempty] at hr
      cases hr
  | succ rounds ih =>
    by_cases hempty : border.isEmpty = true
    · exact exists_selected_of_isEmpty hempty hr
    · rw [computeLoop_succ _ dvc hempty] at hr
      obtain ⟨selected, rfl, hselected, hnodup⟩ := ih h.next hr
      have hround : ∀ d, d ∈ border.toList.filter (selectable persist c links) ↔
          d ∈ border ∧ IsSelectable persist c links d := fun d => by
        rw [List.mem_filter, TreeSet.mem_toList, selectable_iff]
      refine ⟨border.toList.filter (selectable persist c links) ++ selected, ?_, fun d => ?_, ?_⟩
      · rw [List.map_append, List.append_assoc]
      · rw [List.mem_append, hround, hselected]
        simp only [borderLevel_nextBorder h]
        constructor
        · rintro (⟨hd, hsel⟩ | ⟨n, hd, hsel⟩)
          · exact ⟨0, hd, hsel⟩
          · exact ⟨n + 1, hd, hsel⟩
        · rintro ⟨n, hd, hsel⟩
          cases n with
          | zero => exact Or.inl ⟨hd, hsel⟩
          | succ n => exact Or.inr ⟨n, hd, hsel⟩
      · -- the devices of this round are distinct, so repeats are those of the later rounds
        rw [List.nodup_append', hnodup, selectedOnce_iff h,
          and_iff_right ((nodup_toList_border border).filter _)]
        refine and_congr_right fun _ => ?_
        simp only [List.disjoint_left, hround, hselected]
        constructor
        · exact fun hdisjoint d hd hsel n hn => hdisjoint ⟨hd, hsel⟩ ⟨n, hn, hsel⟩
        · rintro hfirst d ⟨hd, hsel⟩ ⟨n, hn, -⟩
          exact hfirst d hd hsel n hn

/-- The result of a loop that is done: what it started with, and the names of the devices that the
rounds have selected, which are the selectable devices of all levels. -/
theorem exists_selected_of_computeLoop (rounds : ℕ) {dvc r : List String}
    (h : Searching persist c links border todelete)
    (hr : computeLoop persist c links rounds border todelete dvc = some r) :
    ∃ selected : List DeviceInfo, r = dvc ++ selected.map DeviceInfo.name ∧
      ∀ d, d ∈ selected ↔
        ∃ n, d ∈ borderLevel persist c links border n ∧ IsSelectable persist c links d := by
  obtain ⟨selected, hnames, hselected, -⟩ := exists_selected_nodup_of_computeLoop rounds h hr
  exact ⟨selected, hnames, hselected⟩

/-! ### The search from a border -/

theorem Searching.start (hborder : ∀ d ∈ border, c.find d.id = some d) :
    Searching persist c links border ∅ where
  inContainer := hborder
  selected _ hd := absurd hd TreeSet.not_mem_emptyc

/-- The search ends exactly when it reaches no cycle. -/
theorem exists_computeTotalPowerV2_iff (hborder : ∀ d ∈ border, c.find d.id = some d) :
    (∃ rounds dvc, computeTotalPowerV2 persist rounds c links border = some dvc) ↔
      ¬ LevelSearch.ReachesCycle (PassesOn persist c links) {d | d ∈ border} := by
  have hfinite : ∀ a b, PassesOn persist c links a b →
      b ∈ (c.devices.toList.map Prod.snd).toFinset := by
    rintro a b ⟨⟨-, hb, -⟩, -⟩
    rw [List.mem_toFinset, List.mem_map]
    exact ⟨(b.id, b), TreeMap.mem_toList_iff_getElem?_eq_some.mpr hb, rfl⟩
  rw [← LevelSearch.exists_level_eq_empty_iff _ hfinite]
  constructor
  · rintro ⟨rounds, dvc, hdvc⟩
    obtain ⟨n, -, hn⟩ := (computeLoop_isSome_iff rounds [] (.start hborder)).mp
      (Option.isSome_of_eq_some hdvc)
    exact ⟨n, hn⟩
  · rintro ⟨n, hn⟩
    have hdone := (computeLoop_isSome_iff n [] (.start hborder)).mpr ⟨n, le_rfl, hn⟩
    exact ⟨n, Option.isSome_iff_exists.mp hdone⟩

/-- A search that has ended has selected the selectable devices that end a chain from its border. -/
theorem exists_selected_of_computeTotalPowerV2 (hborder : ∀ d ∈ border, c.find d.id = some d)
    {rounds : ℕ} {dvc : List String}
    (hdvc : computeTotalPowerV2 persist rounds c links border = some dvc) :
    ∃ selected : List DeviceInfo, dvc = selected.map DeviceInfo.name ∧
      ∀ d, d ∈ selected ↔ c.find d.id = some d ∧ IsSelectable persist c links d ∧
        ∃ p ∈ border, ReflTransGen (PassesOn persist c links) p d := by
  obtain ⟨selected, hnames, hselected⟩ :=
    exists_selected_of_computeLoop rounds (.start hborder) hdvc
  refine ⟨selected, hnames, fun d => (hselected d).trans ?_⟩
  constructor
  · rintro ⟨n, hd, hsel⟩
    obtain ⟨p, hp, hpd⟩ := LevelSearch.exists_mem_level_iff.mp ⟨n, hd⟩
    refine ⟨?_, hsel, p, hp, hpd⟩
    rcases ReflTransGen.cases_tail hpd with rfl | ⟨_, -, hlast⟩
    · exact hborder _ hp
    · exact hlast.1.2.1
  · rintro ⟨-, hsel, hchain⟩
    obtain ⟨n, hn⟩ : ∃ n, d ∈ borderLevel persist c links border n :=
      LevelSearch.exists_mem_level_iff.mpr hchain
    exact ⟨n, hn, hsel⟩

/-- **The search ends exactly when it reaches no cycle.** From the border that
`select_devices_total_power_container` builds, the loop is done after finitely many rounds if and
only if no border device leads, along links that start at devices that are not selectable, to a
device that such links lead back to. -/
theorem computeTotalPowerV2_ends_iff (persist : Persist) (c : ContainerDevices)
    (links : List Link) :
    (∃ rounds dvc, computeTotalPowerV2 persist rounds c links (borderDevices c links) = some dvc) ↔
      ¬ ∃ b d, IsBorder c links b ∧ ReflTransGen (PassesOn persist c links) b d ∧
        TransGen (PassesOn persist c links) d d := by
  rw [exists_computeTotalPowerV2_iff fun d hd => (mem_borderDevices_iff.mp hd).1]
  refine not_congr ?_
  constructor
  · rintro ⟨b, hb, d, hbd, hd⟩
    exact ⟨b, d, mem_borderDevices_iff.mp hb, hbd, hd⟩
  · rintro ⟨b, d, hb, hbd, hd⟩
    exact ⟨b, mem_borderDevices_iff.mpr hb, d, hbd, hd⟩

/-- Numbers for the asset types, upses having the type id 1 and epdus the type id 3. -/
def samplePersist : Persist where
  isEpdu type := type == 3
  isUps type := type == 1
  device := 6
  datacenter := 2
  rack := 5
  dbErr := 1
  dbErrorNotFound := 4

/-- A pdu that feeds a transfer switch, and a second switch that the first feeds and that feeds it
back. -/
def feedbackDevices : ContainerDevices :=
  ((ContainerDevices.empty.emplace ⟨1, "pdu-1", "pdu", 4⟩).emplace ⟨2, "sts-2", "sts", 5⟩).emplace
    ⟨3, "sts-3", "sts", 5⟩

/-- The links of `feedbackDevices`. -/
def feedbackLinks : List Link :=
  [(1, 2), (2, 3), (3, 2)]

/-- The search runs on for ever in a container with a cycle behind its border. -/
theorem computeTotalPowerV2_feedback :
    ¬ ∃ rounds dvc, computeTotalPowerV2 samplePersist rounds feedbackDevices feedbackLinks
      (borderDevices feedbackDevices feedbackLinks) = some dvc := by
  rw [exists_computeTotalPowerV2_iff fun d hd => (mem_borderDevices_iff.mp hd).1, not_not]
  have hpasses : ∀ a b : DeviceInfo, feedbackDevices.find a.id = some a →
      feedbackDevices.find b.id = some b → (a.id, b.id) ∈ feedbackLinks →
      selectable samplePersist feedbackDevices feedbackLinks a = false →
      PassesOn samplePersist feedbackDevices feedbackLinks a b := by
    intro a b ha hb hlink hsel
    exact ⟨⟨ha, hb, hlink⟩, by rw [← selectable_iff, hsel]; exact Bool.false_ne_true⟩
  have h12 := hpasses ⟨1, "pdu-1", "pdu", 4⟩ ⟨2, "sts-2", "sts", 5⟩
    (by decide) (by decide) (by decide) (by decide)
  have h23 := hpasses ⟨2, "sts-2", "sts", 5⟩ ⟨3, "sts-3", "sts", 5⟩
    (by decide) (by decide) (by decide) (by decide)
  have h32 := hpasses ⟨3, "sts-3", "sts", 5⟩ ⟨2, "sts-2", "sts", 5⟩
    (by decide) (by decide) (by decide) (by decide)
  refine ⟨⟨1, "pdu-1", "pdu", 4⟩, ?_, ⟨2, "sts-2", "sts", 5⟩, .single h12, .tail (.single h23) h32⟩
  exact mem_borderDevices_iff.mpr ⟨by decide, Or.inr (by simp [feedbackLinks])⟩

/-- A cycle of the search runs through devices that are not selectable only. -/
theorem transGen_unselectable_of_cycle {d : DeviceInfo}
    (h : TransGen (PassesOn persist c links) d d) :
    TransGen (fun a b => Powers c links a b ∧ ¬ IsSelectable persist c links a ∧
      ¬ IsSelectable persist c links b) d d := by
  have hstep : ∀ {x y}, TransGen (PassesOn persist c links) x y →
      ¬ IsSelectable persist c links y →
      TransGen (fun a b => Powers c links a b ∧ ¬ IsSelectable persist c links a ∧
        ¬ IsSelectable persist c links b) x y := by
    intro x y hxy
    induction hxy with
    | single hxy => exact fun hy => .single ⟨hxy.1, hxy.2, hy⟩
    | tail _ hyz ih => exact fun hz => (ih hyz.2).tail ⟨hyz.1, hyz.2, hz⟩
  obtain ⟨e, hde, -⟩ := TransGen.head'_iff.mp h
  exact hstep h hde.2

/-- **The result is the first selectable device of every power chain.** When the links between
devices that are not selectable form no cycle, the search from any border in the container ends,
and it returns the names of exactly the selectable devices that end a chain from the border along
links that start at devices that are not selectable. -/
theorem computeTotalPowerV2_firstOfChains (persist : Persist) (c : ContainerDevices)
    (links : List Link) (border : TreeSet DeviceInfo)
    (hborder : ∀ d ∈ border, c.find d.id = some d)
    (hacyclic : ∀ d, ¬ TransGen (fun a b => Powers c links a b ∧ ¬ IsSelectable persist c links a ∧
      ¬ IsSelectable persist c links b) d d) :
    ∃ dvc, (∃ n, ∀ rounds, n ≤ rounds →
        computeTotalPowerV2 persist rounds c links border = some dvc) ∧
      ∀ name, name ∈ dvc ↔ ∃ d, d.name = name ∧ c.find d.id = some d ∧
        IsSelectable persist c links d ∧
        ∃ p ∈ border, ReflTransGen (PassesOn persist c links) p d := by
  have hcycle : ¬ LevelSearch.ReachesCycle (PassesOn persist c links) {d | d ∈ border} := by
    rintro ⟨-, -, d, -, hd⟩
    exact hacyclic d (transGen_unselectable_of_cycle hd)
  obtain ⟨n, dvc, hdvc⟩ := (exists_computeTotalPowerV2_iff hborder).mpr hcycle
  obtain ⟨selected, rfl, hselected⟩ := exists_selected_of_computeTotalPowerV2 hborder hdvc
  refine ⟨_, ⟨n, fun rounds hle => computeLoop_mono hle hdvc⟩, fun name => ?_⟩
  simp only [List.mem_map, hselected, and_comm (b := _ = name)]

/-- A transfer switch that feeds an epdu. -/
def chainDevices : ContainerDevices :=
  (ContainerDevices.empty.emplace ⟨1, "sts-1", "sts", 5⟩).emplace ⟨2, "epdu-2", "epdu", 3⟩

/-- The link of `chainDevices`. -/
def chainLinks : List Link :=
  [(1, 2)]

/-- The devices of `chainDevices`, and a transfer switch and an epdu next to them. -/
def islandDevices : ContainerDevices :=
  (chainDevices.emplace ⟨3, "sts-3", "sts", 5⟩).emplace ⟨4, "epdu-4", "epdu", 3⟩

theorem not_transGen_chain (d : DeviceInfo) : ¬ TransGen (Powers chainDevices chainLinks) d d := by
  -- every link goes from id 1 to id 2
  have hids : ∀ {a b : DeviceInfo}, Powers chainDevices chainLinks a b → a.id = 1 ∧ b.id = 2 := by
    rintro a b ⟨-, -, hlink⟩
    simpa [chainLinks] using hlink
  intro hd
  obtain ⟨_, hfirst, -⟩ := TransGen.head'_iff.mp hd
  obtain ⟨_, -, hlast⟩ := TransGen.tail'_iff.mp hd
  have h1 : d.id = 1 := (hids hfirst).1
  have h2 : d.id = 2 := (hids hlast).2
  rw [h1] at h2
  exact absurd h2 (by decide)

theorem computeTotalPowerV2_firstOfChains_chain :
    ∃ dvc, (∃ n, ∀ rounds, n ≤ rounds → computeTotalPowerV2 samplePersist rounds chainDevices
        chainLinks (borderDevices chainDevices chainLinks) = some dvc) ∧
      ∀ name, name ∈ dvc ↔ ∃ d, d.name = name ∧ chainDevices.find d.id = some d ∧
        IsSelectable samplePersist chainDevices chainLinks d ∧
        ∃ p ∈ borderDevices chainDevices chainLinks,
          ReflTransGen (PassesOn samplePersist chainDevices chainLinks) p d := by
  exact computeTotalPowerV2_firstOfChains samplePersist chainDevices chainLinks
    (borderDevices chainDevices chainLinks) (fun d hd => (mem_borderDevices_iff.mp hd).1)
    fun d hd => not_transGen_chain d (TransGen.mono (fun _ _ h => h.1) d d hd)

end MetricTPower
