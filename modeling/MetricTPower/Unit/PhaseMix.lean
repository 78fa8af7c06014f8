import MetricTPower.Unit.Calculation

/-!
# The test for mixed phases

A total of an output phase is to be made only of devices with the same number of phases:
`realpowerOutput` has a comment that it detects a mix, and its error says that it avoids one. The
number of phases is chosen at the first device, and a later device is compared with it by one
measurement only: the second phase when the first device has one phase, the third phase otherwise.
That is not enough to see that a device has fewer phases than two, or that it has the third phase
without the second (`HidesMix`). Whether a total is made of such devices depends on their names,
by which they are ordered.

## Main definitions

* `TPUnit.phaseCount`: the number of phases of a device.
* `TPUnit.HidesMix`: a mix that the test does not see.
* `TPUnit.MixTestExact`: a total is made exactly of devices with the same number of phases.

## Main results

* `TPUnit.realpowerOutput_exact_iff`: the test is exact if and only if there is no such mix.
-/

open Std (TreeMap)

namespace MetricTPower

open Double

variable {V : Type} [Double V]

namespace TPUnit

/-! ### The number of phases of a device -/

instance (u : TPUnit V) (device quantity : String) : Decidable (u.Has device quantity) :=
  decidable_of_iff ((u.measurementOf device quantity).any fun m => !isnan m.value)
    (by simp [Has, Option.any_eq_true])

/-- The number of phases of a device, by the output phases the unit knows of it. -/
def phaseCount (u : TPUnit V) (device : String) : ℕ :=
  if u.Has device "realpower.output.L3" then 3
  else if u.Has device "realpower.output.L2" then 2
  else 1

variable {u : TPUnit V} {first device quantity : String}

theorem phaseCount_eq_three_iff :
    u.phaseCount device = 3 ↔ u.Has device "realpower.output.L3" := by
  rw [phaseCount]
  split_ifs <;> simp_all

theorem phaseCount_eq_two_iff : u.phaseCount device = 2 ↔
    ¬ u.Has device "realpower.output.L3" ∧ u.Has device "realpower.output.L2" := by
  rw [phaseCount]
  split_ifs <;> simp_all

theorem phaseCount_eq_one_iff : u.phaseCount device = 1 ↔
    ¬ u.Has device "realpower.output.L3" ∧ ¬ u.Has device "realpower.output.L2" := by
  rw [phaseCount]
  split_ifs <;> simp_all

theorem phaseCount_cases (u : TPUnit V) (device : String) :
    u.phaseCount device = 1 ∨ u.phaseCount device = 2 ∨ u.phaseCount device = 3 := by
  rw [phaseCount]
  split_ifs <;> simp

/-! ### What the test sees -/

variable (u first) in
/-- The first device has two phases, no device has the third one and some device lacks the second
one; or the first device has one phase, no device has the second one and some device has the third
one. -/
def HidesMix : Prop :=
  (u.phaseCount first = 2 ∧ (∀ d ∈ u.powerdevices, ¬ u.Has d "realpower.output.L3") ∧
    ∃ d ∈ u.powerdevices, ¬ u.Has d "realpower.output.L2") ∨
  (u.phaseCount first = 1 ∧ (∀ d ∈ u.powerdevices, ¬ u.Has d "realpower.output.L2") ∧
    ∃ d ∈ u.powerdevices, u.Has d "realpower.output.L3")

theorem sharesPhases_of_three (h : u.phaseCount first = 3) :
    u.SharesPhases first device ↔ u.Has device "realpower.output.L3" := by
  simp [SharesPhases, phaseCount_eq_three_iff.mp h]

theorem sharesPhases_of_two (h : u.phaseCount first = 2) :
    u.SharesPhases first device ↔ ¬ u.Has device "realpower.output.L3" := by
  simp [SharesPhases, phaseCount_eq_two_iff.mp h]

theorem sharesPhases_of_one (h : u.phaseCount first = 1) :
    u.SharesPhases first device ↔ ¬ u.Has device "realpower.output.L2" := by
  simp [SharesPhases, phaseCount_eq_one_iff.mp h]

/-- A device with the number of phases of the first one passes the test. -/
theorem sharesPhases_of_phaseCount_eq (h : u.phaseCount device = u.phaseCount first) :
    u.SharesPhases first device := by
  rcases u.phaseCount_cases first with h1 | h2 | h3
  · exact (sharesPhases_of_one h1).mpr (phaseCount_eq_one_iff.mp (h.trans h1)).2
  · exact (sharesPhases_of_two h2).mpr (phaseCount_eq_two_iff.mp (h.trans h2)).1
  · exact (sharesPhases_of_three h3).mpr (phaseCount_eq_three_iff.mp (h.trans h3))

/-- When all devices pass the test, they have the same number of phases if and only if no mix is
hidden. -/
theorem forall_phaseCount_eq_iff (hshares : ∀ d ∈ u.powerdevices, u.SharesPhases first d) :
    (∀ d ∈ u.powerdevices, u.phaseCount d = u.phaseCount first) ↔ ¬ u.HidesMix first := by
  rcases u.phaseCount_cases first with h1 | h2 | h3
  · have hno : ∀ d ∈ u.powerdevices, ¬ u.Has d "realpower.output.L2" :=
      fun d hd => (sharesPhases_of_one h1).mp (hshares d hd)
    simp only [HidesMix, h1, phaseCount_eq_one_iff]
    grind
  · have hno : ∀ d ∈ u.powerdevices, ¬ u.Has d "realpower.output.L3" :=
      fun d hd => (sharesPhases_of_two h2).mp (hshares d hd)
    simp only [HidesMix, h2, phaseCount_eq_two_iff]
    grind
  · have hall : ∀ d ∈ u.powerdevices, u.Has d "realpower.output.L3" :=
      fun d hd => (sharesPhases_of_three h3).mp (hshares d hd)
    simp only [HidesMix, h3, phaseCount_eq_three_iff]
    grind

/-- All devices pass the test when a mix is hidden. -/
theorem HidesMix.sharesPhases (h : u.HidesMix first) :
    ∀ d ∈ u.powerdevices, u.SharesPhases first d := by
  rcases h with ⟨h2, hno, -⟩ | ⟨h1, hno, -⟩
  · exact fun d hd => (sharesPhases_of_two h2).mpr (hno d hd)
  · exact fun d hd => (sharesPhases_of_one h1).mpr (hno d hd)

/-! ### When the test is exact -/

/-- When every device has one of the output phases and a mix is hidden, the phase is the first. -/
theorem HidesMix.quantity_eq (h : u.HidesMix first)
    (hquantity : quantity ∈ ["realpower.output.L1", "realpower.output.L2", "realpower.output.L3"])
    (hfirst : first ∈ u.powerdevices) (hall : ∀ d ∈ u.powerdevices, u.Has d quantity) :
    quantity = "realpower.output.L1" := by
  simp only [List.mem_cons, List.not_mem_nil, or_false] at hquantity
  rcases hquantity with rfl | rfl | rfl
  · rfl
  · rcases h with ⟨-, -, d, hd, hnot⟩ | ⟨-, hno, -⟩
    · exact absurd (hall d hd) hnot
    · exact absurd (hall first hfirst) (hno first hfirst)
  · rcases h with ⟨h2, -⟩ | ⟨h1, -⟩
    · exact absurd (hall first hfirst) (phaseCount_eq_two_iff.mp h2).1
    · exact absurd (hall first hfirst) (phaseCount_eq_one_iff.mp h1).1

/-- What a device that does not make the loop throw adds to the sum and to the count. -/
theorem addOutput_eq_ok {s s' : OutputSum V} {it : PowerDevice V}
    (h : addOutput quantity s it = .ok s') :
    s'.sum = add s.sum (getMetricValue it.2 quantity it.1) ∧ s'.devCnt = s.devCnt + 1 := by
  by_cases hq : isMissing quantity it = true
  · rw [addOutput, addValue_of_missing s.sum hq] at h
    cases h
  · rw [addOutput, addValue_of_present s.sum (by simpa using hq)] at h
    dsimp only [bind, Except.bind] at h
    split at h
    · -- the first device chooses the phases
      obtain rfl := Except.ok.inj h
      exact ⟨rfl, rfl⟩
    · split at h
      · cases h
      · obtain rfl := Except.ok.inj h
        exact ⟨rfl, rfl⟩

theorem foldlM_addOutput_eq_ok {s' : OutputSum V} :
    ∀ (l : List (PowerDevice V)) (s : OutputSum V), l.foldlM (addOutput quantity) s = .ok s' →
      s'.sum = (l.map fun it => getMetricValue it.2 quantity it.1).foldl add s.sum ∧
        s'.devCnt = s.devCnt + l.length
  | [], s, h => by
    obtain rfl := Except.ok.inj h
    exact ⟨rfl, rfl⟩
  | it :: l, s, h => by
    rw [List.foldlM_cons] at h
    cases hit : addOutput quantity s it with
    | error e =>
      rw [hit] at h
      cases h
    | ok s₁ =>
      rw [hit] at h
      obtain ⟨hsum, hcnt⟩ := foldlM_addOutput_eq_ok l s₁ h
      obtain ⟨hsum₁, hcnt₁⟩ := addOutput_eq_ok hit
      rw [hsum, hcnt, hsum₁, hcnt₁]
      exact ⟨rfl, by simp [Nat.add_assoc, Nat.add_comm 1]⟩

/-- The total of an output phase that is made is the sum over all devices, of which there are
some. -/
theorem value_of_realpowerOutput {now : Int64} {r : MetricInfo V}
    (hdevices : ∃ d, d ∈ u.powerdevices) (h : u.realpowerOutput quantity now = .ok r) :
    r.value = total (u.powerdevices.toList.map fun it => getMetricValue it.2 quantity it.1) := by
  rw [realpowerOutput] at h
  cases hloop : u.powerdevices.toList.foldlM (addOutput quantity) ⟨zero, 0, 0⟩ with
  | error e =>
    rw [hloop] at h
    cases h
  | ok s =>
    rw [hloop] at h
    obtain rfl := Except.ok.inj h
    obtain ⟨hsum, hcnt⟩ := foldlM_addOutput_eq_ok _ _ hloop
    have hpos : 0 < s.devCnt := by
      obtain ⟨d, hd⟩ := hdevices
      have hkeys : 0 < u.powerdevices.keys.length :=
        List.length_pos_of_mem (TreeMap.mem_keys.mpr hd)
      rw [← TreeMap.map_fst_toList_eq_keys, List.length_map] at hkeys
      omega
    rw [result, if_pos hpos, hsum, total]

/-- The test for mixed phases is exact for an output phase of a unit: a total is made if and only if
every device has the phase and all devices have the same number of phases, and it is then the sum
over all devices. -/
def MixTestExact (u : TPUnit V) (quantity : String) (now : Int64) : Prop :=
  ((u.realpowerOutput quantity now).isOk = true ↔
      (∀ d ∈ u.powerdevices, u.Has d quantity) ∧
        ∀ d ∈ u.powerdevices, ∀ d' ∈ u.powerdevices, u.phaseCount d = u.phaseCount d') ∧
    ∀ r, u.realpowerOutput quantity now = .ok r → r.value =
      total (u.powerdevices.toList.map fun it => getMetricValue it.2 quantity it.1)

/-- **When the test for mixed phases is exact.** For a unit with devices and an output phase, the
test is exact if and only if no mix is hidden from it, which is possible only when the phase is the
first one and every device has it. -/
theorem realpowerOutput_exact_iff (u : TPUnit V) (quantity : String) (now : Int64)
    (hdevices : ∃ d, d ∈ u.powerdevices)
    (hquantity : quantity ∈
      ["realpower.output.L1", "realpower.output.L2", "realpower.output.L3"]) :
    u.MixTestExact quantity now ↔
      (quantity = "realpower.output.L1" → (∀ d ∈ u.powerdevices, u.Has d quantity) →
        ∀ first, u.powerdevices.keys.head? = some first → ¬ u.HidesMix first) := by
  rw [MixTestExact, and_iff_left fun r hr => value_of_realpowerOutput hdevices hr,
    realpowerOutput_isOk_iff]
  obtain ⟨first, hhead⟩ : ∃ first, u.powerdevices.keys.head? = some first := by
    obtain ⟨d, hd⟩ := hdevices
    exact Option.isSome_iff_exists.mp
      (List.isSome_head?.mpr (List.ne_nil_of_mem (TreeMap.mem_keys.mpr hd)))
  have hfirst : first ∈ u.powerdevices := TreeMap.mem_keys.mp (List.mem_of_mem_head? hhead)
  simp only [hhead, Option.some.injEq, forall_eq']
  by_cases hall : ∀ d ∈ u.powerdevices, u.Has d quantity
  · -- all devices have the phase, so that the test decides
    have hcount : (∀ d ∈ u.powerdevices, ∀ d' ∈ u.powerdevices,
        u.phaseCount d = u.phaseCount d') ↔
          ∀ d ∈ u.powerdevices, u.phaseCount d = u.phaseCount first :=
      ⟨fun h d hd => h d hd first hfirst, fun h d hd d' hd' => (h d hd).trans (h d' hd').symm⟩
    have htest : (∀ d ∈ u.powerdevices, u.Has d quantity ∧ u.SharesPhases first d) ↔
        ∀ d ∈ u.powerdevices, u.SharesPhases first d :=
      forall₂_congr fun d hd => and_iff_right (hall d hd)
    rw [htest, hcount, and_iff_right hall]
    constructor
    · intro hexact _ _ hmix
      have hshares := hmix.sharesPhases
      exact (forall_phaseCount_eq_iff hshares).mp (hexact.mp hshares) hmix
    · intro hnomix
      have hmix : ¬ u.HidesMix first := fun h =>
        hnomix (h.quantity_eq hquantity hfirst hall) hall h
      exact ⟨fun hshares => (forall_phaseCount_eq_iff hshares).mpr hmix,
        fun hsame d hd => sharesPhases_of_phaseCount_eq (hsame d hd)⟩
  · refine iff_of_true ⟨fun h => absurd (fun d hd => (h d hd).1) hall, fun h => absurd h.1 hall⟩ ?_
    exact fun _ h => absurd h hall

/-! ### A device with two phases and one with one -/

/-- A measurement of an output phase of a device, of 100 W. -/
def lineMetric (device : String) (phase : ℕ) : MetricInfo Exact where
  elementName := device
  source := outputPhase phase
  units := "W"
  value := some 100
  timestamp := 1000
  ttl := 60

/-- A unit with a device that has the first two output phases and one that has the first. -/
def mixedUnit (two one : String) : TPUnit Exact :=
  [lineMetric two 1, lineMetric two 2, lineMetric one 1].foldl setMeasurement
    (((TPUnit.ofName "dc-1").addPowerDevice two).addPowerDevice one)

theorem realpowerOutput_exact_iff_mixed :
    (mixedUnit "epdu-2" "epdu-1").MixTestExact "realpower.output.L1" 1000 ↔
      ("realpower.output.L1" = "realpower.output.L1" →
        (∀ d ∈ (mixedUnit "epdu-2" "epdu-1").powerdevices,
          (mixedUnit "epdu-2" "epdu-1").Has d "realpower.output.L1") →
        ∀ first, (mixedUnit "epdu-2" "epdu-1").powerdevices.keys.head? = some first →
          ¬ (mixedUnit "epdu-2" "epdu-1").HidesMix first) :=
  realpowerOutput_exact_iff (mixedUnit "epdu-2" "epdu-1") "realpower.output.L1" 1000
    ⟨"epdu-1", by decide +kernel⟩ (by decide)

/-- A total is made of a device with two phases and one with one, when the former comes first. -/
theorem mixedUnit_total :
    ¬ ∀ (u : TPUnit Exact) (quantity : String) (now : Int64), (∃ d, d ∈ u.powerdevices) →
      quantity ∈ ["realpower.output.L1", "realpower.output.L2", "realpower.output.L3"] →
      u.MixTestExact quantity now := by
  intro h
  have hexact := (h (mixedUnit "epdu-1" "epdu-2") "realpower.output.L1" 1000
    ⟨"epdu-1", by decide +kernel⟩ (by decide)).1
  have hsame := (hexact.mp (by decide +kernel)).2 "epdu-1" (by decide +kernel) "epdu-2"
    (by decide +kernel)
  exact absurd hsame (by decide +kernel)

/-- With the names the other way round there is no total. -/
example : ((mixedUnit "epdu-2" "epdu-1").realpowerOutput "realpower.output.L1" 1000).isOk = false :=
  by decide +kernel

end TPUnit

end MetricTPower
