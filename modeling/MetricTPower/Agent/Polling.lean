import MetricTPower.Agent.Owners
import MetricTPower.Library.Loops

/-!
# What a poll does to a unit

`onPoll` gives every unit its turn: the unit drops what is expired, then calculates and sends each
quantity of its kind. The turns of other units leave it alone, and so do the calls for the other
quantities with the total of a quantity, so that a poll comes to one purge and one calculation of
each total (`storedTotal_onPoll`).

## Main definitions

* `Agent.passes`, `Agent.pollCheck`: the agent after both passes over the units, and the place at
  which the poll then compares the clock with the schedule of the reload.

## Main results

* `Agent.onPoll_cases`: when a poll reloads.
* `Agent.exists_turn_onPoll`: a poll without a reload changes a unit in its own turn only.
* `Agent.storedTotal_onPoll`: the totals of a unit after a poll at one reading of the clock.
-/

open Std (TreeMap)
open Relation (ReflTransGen)

namespace MetricTPower

open Double

variable {V : Type} [Double V] {env : Env V}

/-! ### The totals of a unit and its calculations -/

namespace TPUnit

variable {u v : TPUnit V} {quantity q : String} {now : Int64}

/-- A calculation depends on the measurements and the name of the unit only. -/
theorem calculation_congr (hdevices : v.powerdevices = u.powerdevices) (hname : v.name = u.name) :
    v.calculation quantity now = u.calculation quantity now := by
  simp only [calculation, simpleSummarize, realpowerDefault, realpowerOutput, result, hdevices,
    hname]

/-- The total that `calculate` leaves depends on the measurements, the name and the total from
before only. -/
theorem storedTotal_calculate_congr (hdevices : v.powerdevices = u.powerdevices)
    (hname : v.name = u.name) (htotal : v.storedTotal quantity = u.storedTotal quantity) :
    (v.calculate quantity now).storedTotal quantity =
      (u.calculate quantity now).storedTotal quantity := by
  have hcalculation : v.calculation quantity now = u.calculation quantity now :=
    calculation_congr hdevices hname
  cases hc : u.calculation quantity now with
  | error e =>
    rw [calculate_of_not_isOk (by rw [hcalculation, hc]; rfl),
      calculate_of_not_isOk (by rw [hc]; rfl), htotal]
  | ok r =>
    obtain ⟨sum, rfl⟩ := calculation_eq_ok hc
    have hc' : v.calculation quantity now = .ok (v.result quantity now sum) := by
      rw [hcalculation, hc, result, result, hname]
    have hreplaces : v.Replaces quantity sum ↔ u.Replaces quantity sum := by
      rw [Replaces, Replaces, htotal]
    by_cases hr : u.Replaces quantity sum
    · rw [storedTotal_calculate_of_replaces hc hr,
        storedTotal_calculate_of_replaces hc' (hreplaces.mpr hr)]
    · rw [storedTotal_calculate_of_not_replaces hc hr,
        storedTotal_calculate_of_not_replaces hc' (mt hreplaces.mp hr), htotal]

/-- `calculate` of another quantity leaves a total as it is. -/
theorem storedTotal_calculate_of_ne (h : q ≠ quantity) :
    (u.calculate quantity now).storedTotal q = u.storedTotal q := by
  rcases u.calculate_cases quantity now with hsame | ⟨sum, -, hstored⟩
  · rw [hsame]
  · rw [hstored, storedTotal_stored_result, if_neg h]

end TPUnit

/-- The total of a quantity after a call of `sendMeasurement`. -/
theorem storedTotal_sendMeasurement (env : Env V) (kind : Kind) (owner quantity q : String)
    (u : TPUnit V) (w : World V) :
    (sendMeasurement env kind owner quantity (u, w)).1.storedTotal q =
      if q = quantity then (u.calculate quantity (env.time w.pos)).storedTotal quantity
      else u.storedTotal q := by
  have hcalc : (sendMeasurement env kind owner quantity (u, w)).1.storedTotal q =
      (u.calculate quantity (env.time w.pos)).storedTotal q := by
    obtain h | ⟨now, now', h⟩ := fst_sendMeasurement env kind owner quantity u w <;> rw [h]
    rw [TPUnit.storedTotal_advertised]
  rw [hcalc]
  split
  · rename_i hq
    rw [hq]
  · rename_i hq
    exact TPUnit.storedTotal_calculate_of_ne hq

theorem pos_sendMeasurement (env : Env V) (kind : Kind) (owner quantity : String) (u : TPUnit V)
    (w : World V) : (sendMeasurement env kind owner quantity (u, w)).2.pos = w.pos + 4 := by
  obtain ⟨call, hw, -⟩ := sendMeasurement_cases env kind owner quantity u w
  rw [hw]
  rfl

/-! ### The turn of a unit -/

namespace Agent

variable {kind k : Kind} {owner o : String}

/-- The next place of the run only ever moves forward. -/
theorem pos_le_of_move {a a' : Agent V} (hm : Move env a a') : a.world.pos ≤ a'.world.pos := by
  cases hm with
  | onUnit kind owner f hf =>
    cases hu : a.unit? kind owner with
    | none => rw [onUnit_of_none hu]
    | some u =>
      rw [world_onUnit_of_some hu]
      cases hf with
      | setMeasurement M => exact le_rfl
      | dropOldMetricInfos => exact Nat.le_add_right _ _
      | sendMeasurement quantity _ =>
        rw [pos_sendMeasurement]
        exact Nat.le_add_right _ _
  | configure => exact Nat.le_succ _
  | schedule timeout reconfigPending places => exact Nat.le_add_right _ _

theorem pos_le_of_moves {a a' : Agent V} (hm : ReflTransGen (Move env) a a') :
    a.world.pos ≤ a'.world.pos :=
  Reachability.count_le (f := fun b : Agent V => b.world.pos) (fun _ _ => pos_le_of_move) hm

/-- The turn of a unit leaves the other units alone. -/
theorem unit?_sendElement_of_ne (a : Agent V) (h : ¬ (k = kind ∧ o = owner)) :
    (a.sendElement env kind owner).unit? k o = a.unit? k o := by
  have hloop : ∀ (l : List String) (b : Agent V), (l.foldl (fun a quantity =>
      a.onUnit kind owner (MetricTPower.sendMeasurement env kind owner quantity)) b).unit? k o =
        b.unit? k o := by
    intro l
    induction l with
    | nil => exact fun _ => rfl
    | cons quantity l ih =>
      intro b
      rw [List.foldl_cons, ih, unit?_onUnit, if_neg h]
  rw [sendElement, hloop, unit?_onUnit, if_neg h]

theorem unit?_sendMeasurements_of_ne (a : Agent V) (h : k ≠ kind) :
    (a.sendMeasurements env kind).unit? k o = a.unit? k o := by
  rw [sendMeasurements]
  generalize (a.conf.group kind).units.keys = l
  induction l generalizing a with
  | nil => rfl
  | cons owner l ih =>
    rw [List.foldl_cons, ih, unit?_sendElement_of_ne a fun hand => h hand.1]

variable (env) in
/-- A unit has one turn, which it meets as it was when the units of its kind were started with. -/
theorem exists_turn (a : Agent V) {u : TPUnit V} (hu : a.unit? kind owner = some u) :
    ∃ b : Agent V, a.world.pos ≤ b.world.pos ∧ b.unit? kind owner = some u ∧
      (a.sendMeasurements env kind).unit? kind owner =
        (b.sendElement env kind owner).unit? kind owner := by
  have hmem : owner ∈ (a.conf.group kind).units.keys := by
    rw [TreeMap.mem_keys, TreeMap.mem_iff_isSome_getElem?]
    exact Option.isSome_of_eq_some hu
  have hframe : ∀ (s : Agent V) (o o' : String), o ≠ o' →
      (s.sendElement env kind o').unit? kind o = s.unit? kind o :=
    fun s o o' hne => unit?_sendElement_of_ne s fun h => hne h.2
  obtain ⟨l₁, l₂, -, hbefore, hturn⟩ :=
    Loops.foldl_component_of_mem (g := fun o (s : Agent V) => s.unit? kind o) hframe
      (a.conf.group kind).units.keys a TreeMap.nodup_keys hmem
  refine ⟨l₁.foldl (fun a owner => a.sendElement env kind owner) a, ?_, hbefore.trans hu, hturn⟩
  exact pos_le_of_moves
    (moves_of_unitMoves
      (Reachability.reflTransGen_foldl (fun a o => sendElement_unitMoves env kind o a) l₁ a))

/-! ### The passes of a poll and the reload -/

variable (env) in
/-- The agent after both passes of a poll over its units. -/
def passes (a : Agent V) : Agent V :=
  (a.sendMeasurements env .rack).sendMeasurements env .dc

variable (env) in
/-- The place at which a poll compares the clock with the schedule. -/
def pollCheck (a : Agent V) : ℕ :=
  (a.passes env).world.pos

variable (env) in
theorem passes_unitMoves (a : Agent V) : ReflTransGen (UnitMove env) a (a.passes env) :=
  (sendMeasurements_unitMoves env .rack a).trans (sendMeasurements_unitMoves env .dc _)

variable (env) in
theorem pos_le_pollCheck (a : Agent V) : a.world.pos ≤ a.pollCheck env :=
  pos_le_of_moves (moves_of_unitMoves (passes_unitMoves env a))

variable (env) in
/-- The agent after the passes and the reading of the clock for the comparison. -/
def checked (a : Agent V) : Agent V where
  conf := (a.passes env).conf
  world := (a.passes env).world.advance 1

variable (env) in
theorem unitsOnly_checked (a : Agent V) : a.UnitsOnly (a.checked env) :=
  have hpasses := unitsOnly_of_unitMoves (passes_unitMoves env a)
  ⟨hpasses.reconfigPending, hpasses.timeout, hpasses.affected, hpasses.loads⟩

@[simp] theorem loads_setPollInterval (a : Agent V) : (a.setPollInterval env).loads = a.loads := rfl

@[simp] theorem reconfigPending_setPollInterval (a : Agent V) :
    (a.setPollInterval env).conf.reconfigPending = a.conf.reconfigPending := rfl

variable (env) in
/-- A poll reloads when a reload is scheduled and the clock has reached its time. -/
theorem onPoll_cases (a : Agent V) :
    (a.conf.reconfigPending ≠ 0 ∧ a.conf.reconfigPending ≤ (env.time (a.pollCheck env)).toInt ∧
      a.onPoll env = ((a.checked env).configure env).setPollInterval env) ∨
    (¬ (a.conf.reconfigPending ≠ 0 ∧
        a.conf.reconfigPending ≤ (env.time (a.pollCheck env)).toInt) ∧
      a.onPoll env = (a.checked env).setPollInterval env) := by
  rw [← (unitsOnly_of_unitMoves (passes_unitMoves env a)).reconfigPending]
  have hpoll : a.onPoll env = ((a.passes env).reconfigure env).setPollInterval env := rfl
  rw [hpoll, reconfigure]
  by_cases hdue : (a.passes env).conf.reconfigPending ≠ 0 ∧
      (a.passes env).conf.reconfigPending ≤ (env.time (a.passes env).world.pos).toInt
  · exact Or.inl ⟨hdue.1, hdue.2, by rw [if_pos hdue, checked]⟩
  · exact Or.inr ⟨hdue, by rw [if_neg hdue, checked]⟩

/-- A poll at which the clock has reached the time of the reload calls `configure`. -/
theorem loads_onPoll (a : Agent V) (hpending : a.conf.reconfigPending ≠ 0)
    (hdue : a.conf.reconfigPending ≤ (env.time (a.pollCheck env)).toInt) :
    (a.onPoll env).loads = a.loads + 1 := by
  rcases onPoll_cases env a with ⟨-, -, hpoll⟩ | ⟨hnot, -⟩
  · rw [hpoll, loads_setPollInterval, loads_configure, (unitsOnly_checked env a).loads]
  · exact absurd ⟨hpending, hdue⟩ hnot

/-- A poll that does not reload comes, for a unit, to its own turn. -/
theorem exists_turn_onPoll (a : Agent V) {u : TPUnit V} (hu : a.unit? kind owner = some u)
    (hloads : (a.onPoll env).loads = a.loads) :
    ∃ b : Agent V, a.world.pos ≤ b.world.pos ∧ b.unit? kind owner = some u ∧
      (a.onPoll env).unit? kind owner = (b.sendElement env kind owner).unit? kind owner := by
  -- the poll ends with the units as the two passes leave them
  have hend : (a.onPoll env).unit? kind owner = (a.passes env).unit? kind owner := by
    rcases onPoll_cases env a with ⟨hpending, hdue, -⟩ | ⟨-, hpoll⟩
    · exact absurd ((loads_onPoll a hpending hdue).symm.trans hloads) (Nat.succ_ne_self _)
    · rw [hpoll]
      rfl
  rw [hend, passes]
  cases kind with
  | rack =>
    obtain ⟨b, hpos, hb, hturn⟩ := exists_turn env a hu
    exact ⟨b, hpos, hb, by rw [unit?_sendMeasurements_of_ne _ (by decide), hturn]⟩
  | dc =>
    have hu' : (a.sendMeasurements env .rack).unit? .dc owner = some u := by
      rw [unit?_sendMeasurements_of_ne _ (by decide), hu]
    obtain ⟨b, hpos, hb, hturn⟩ := exists_turn env _ hu'
    have hracks := moves_of_unitMoves (sendMeasurements_unitMoves env .rack a)
    exact ⟨b, (pos_le_of_moves hracks).trans hpos, hb, hturn⟩

/-! ### The total of a unit after a poll -/

/-- What the calculation of a quantity reads of a unit: the measurements, the name and the total. -/
def inputs (kind : Kind) (owner quantity : String) (a : Agent V) :
    Option (TreeMap String (MetricList V) × String × V) :=
  (a.unit? kind owner).map fun u => (u.powerdevices, u.name, u.storedTotal quantity)

variable (env) in
/-- Sending another quantity leaves what the calculation of a quantity reads. -/
theorem inputs_sendMeasurement_of_ne (a : Agent V) {quantity q : String} (h : q ≠ quantity) :
    inputs kind owner q
        (a.onUnit kind owner (MetricTPower.sendMeasurement env kind owner quantity)) =
      inputs kind owner q a := by
  rw [inputs, unit?_onUnit, if_pos ⟨rfl, rfl⟩, inputs, Option.map_map]
  refine congrFun (congrArg _ (funext fun u => ?_)) _
  rw [Function.comp_apply, powerdevices_sendMeasurement, name_sendMeasurement,
    storedTotal_sendMeasurement, if_neg h]

theorem quantities_nodup (kind : Kind) : kind.quantities.Nodup := by
  cases kind <;> decide

/-- The turn of a unit at one reading of the clock: a purge, and one calculation of each total. -/
theorem storedTotal_sendElement (a : Agent V) {u : TPUnit V} {quantity : String} {now : Int64}
    (hu : a.unit? kind owner = some u) (hquantity : quantity ∈ kind.quantities)
    (hclock : ∀ i, a.world.pos ≤ i → env.time i = now) :
    ∃ v, (a.sendElement env kind owner).unit? kind owner = some v ∧ v.name = u.name ∧
      v.storedTotal quantity =
        ((u.dropOldMetricInfos fun _ => now).calculate quantity now).storedTotal quantity := by
  have hdrop : (MetricTPower.dropOldMetricInfos env (u, a.world)).1 =
      u.dropOldMetricInfos fun _ => now := by
    have hreadings : (fun i => env.time (a.world.pos + i)) = fun _ => now :=
      funext fun i => hclock _ (Nat.le_add_right _ _)
    rw [MetricTPower.dropOldMetricInfos, hreadings]
  -- the calls for the other quantities leave what the calculation reads
  obtain ⟨l₁, l₂, hsplit, hbefore, hturn⟩ :=
    Loops.foldl_component_of_mem (g := inputs (V := V) kind owner)
      (fun s q q' hne => inputs_sendMeasurement_of_ne env s hne) kind.quantities
      (a.onUnit kind owner (MetricTPower.dropOldMetricInfos env)) (quantities_nodup kind) hquantity
  have hpurge : Move env a (a.onUnit kind owner (MetricTPower.dropOldMetricInfos env)) :=
    .onUnit a kind owner _ .dropOldMetricInfos
  have hpos := (pos_le_of_move hpurge).trans (pos_le_of_moves (moves_of_unitMoves
    (foldl_sendMeasurement_unitMoves env kind owner l₁ _ fun q hq =>
      hsplit ▸ List.mem_append_left _ hq)))
  rw [inputs, inputs, unit?_onUnit, if_pos ⟨rfl, rfl⟩, hu] at hbefore
  obtain ⟨v₁, hv₁, hinputs₁⟩ := Option.map_eq_some_iff.mp hbefore
  rw [inputs, inputs, unit?_onUnit, if_pos ⟨rfl, rfl⟩, hv₁] at hturn
  obtain ⟨v, hv, hinputs⟩ := Option.map_eq_some_iff.mp hturn
  obtain ⟨hdevices₁, hname₁, htotal₁⟩ :
      v₁.powerdevices = _ ∧ v₁.name = _ ∧ v₁.storedTotal _ = _ := by
    simpa only [Prod.mk.injEq] using hinputs₁
  obtain ⟨-, hname, htotal⟩ : v.powerdevices = _ ∧ v.name = _ ∧ v.storedTotal _ = _ := by
    simpa only [Prod.mk.injEq] using hinputs
  rw [hdrop] at hdevices₁ hname₁ htotal₁
  refine ⟨v, hv, ?_, ?_⟩
  · rw [hname, name_sendMeasurement, hname₁, TPUnit.name_dropOldMetricInfos]
  · rw [htotal, storedTotal_sendMeasurement, if_pos rfl, hclock _ hpos]
    exact TPUnit.storedTotal_calculate_congr hdevices₁ hname₁ htotal₁

/-- **The totals of a unit after a poll** without a reload, at one reading of the clock: what is
expired is dropped, and each total is calculated once. -/
theorem storedTotal_onPoll (a : Agent V) {u : TPUnit V} {quantity : String} {now : Int64}
    (hu : a.unit? kind owner = some u) (hquantity : quantity ∈ kind.quantities)
    (hclock : ∀ i, a.world.pos ≤ i → env.time i = now)
    (hloads : (a.onPoll env).loads = a.loads) :
    ∃ v, (a.onPoll env).unit? kind owner = some v ∧ v.name = u.name ∧
      v.storedTotal quantity =
        ((u.dropOldMetricInfos fun _ => now).calculate quantity now).storedTotal quantity := by
  obtain ⟨b, hpos, hb, hturn⟩ := exists_turn_onPoll a hu hloads
  rw [hturn]
  exact storedTotal_sendElement b hb hquantity fun i hi => hclock i (hpos.trans hi)

end Agent

end MetricTPower
