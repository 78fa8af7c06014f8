import MetricTPower.Agent.Owners
import MetricTPower.Library.WrappedAge

/-!
# The rate of publication

A successful send marks its quantity as advertised at a moment, and the mark stays until the next
successful send of the quantity by the unit. `advertise` refuses the second of the mark. As long as
`set` stores no new total, the quantity is also not marked as changed and the moment is its
timestamp, so `advertise` waits until the moment is more than 300 s ago. This is the invariant
`SendNoted` of units, and `sends_rate_limited` compares two successive sends with it.

## Main definitions

* `Call.IsOf`, `Call.Succeeds`, `Call.Stores`: the calls for a quantity of a unit, and those of them
  that send and that store a total.
* `Quiet`: no reload and no successful send of a quantity of a unit.
* `SendNoted`: what a unit notes about its last successful sends.
* `World.Ordered`: the calls have read the clock one after the other.

## Main results

* `sends_rate_limited`: successive sends of a quantity by a unit are not in the same second, and
  more than 300 s apart when no new total is stored.
-/

namespace MetricTPower

variable {V : Type}

/-! ### Sends of a quantity -/

/-- A call for a quantity of the unit of an owner. -/
def Call.IsOf (call : Call V) (kind : Kind) (owner quantity : String) : Prop :=
  call.kind = kind ∧ call.owner = owner ∧ call.quantity = quantity

/-- The sending function was called and returned `true`. -/
def Call.Succeeds (call : Call V) : Prop :=
  ∃ M, call.sent = some (M, .returned true)

theorem Call.Succeeds.of_reply {call : Call V}
    (h : call.sent.map Prod.snd = some (.returned true)) : call.Succeeds := by
  obtain ⟨⟨M, reply⟩, hsent, rfl⟩ := Option.map_eq_some_iff.mp h
  exact ⟨M, hsent⟩

/-- Between two sends: the unit is not loaded anew and sends the quantity in no other call. -/
structure Quiet (kind : Kind) (owner quantity : String) (events : List (Event V)) : Prop where
  not_loaded : ∀ pos loaded, .configure pos loaded ∉ events
  not_sent : ∀ call ∈ calls events, call.IsOf kind owner quantity → ¬ call.Succeeds

variable [Double V] {env : Env V}

variable (env) in
/-- `set` stores a new total in the call: the calculation completes, and its value replaces the
stored total. -/
def Call.Stores (call : Call V) : Prop :=
  ∃ result, call.before.calculation call.quantity (env.time call.pos) = .ok result ∧
    call.before.Replaces call.quantity result.value

theorem Call.calculate_of_not_stores {call : Call V} (h : ¬ call.Stores env) :
    call.before.calculate call.quantity (env.time call.pos) = call.before := by
  cases hc : call.before.calculation call.quantity (env.time call.pos) with
  | error e => exact TPUnit.calculate_of_not_isOk (by rw [hc]; rfl)
  | ok result =>
    rw [TPUnit.calculate_of_ok hc]
    exact TPUnit.set_of_not_replaces fun hreplaces => h ⟨result, hc, hreplaces⟩

variable (env) in
/-- One call of `sendMeasurement`: it succeeds only when `advertise` allows it, and only then the
quantity is marked as advertised. -/
theorem sendMeasurement_succeeds_cases (kind : Kind) (owner quantity : String) (u : TPUnit V)
    (w : World V) :
    ∃ call : Call V, (sendMeasurement env kind owner quantity (u, w)).2 = w.record call ∧
      call.IsOf kind owner quantity ∧ call.before = u ∧ call.pos = w.pos ∧
      let u' := u.calculate quantity (env.time w.pos)
      (call.Succeeds ∧ u'.advertise quantity (env.time (w.pos + 1)) = true ∧
        (sendMeasurement env kind owner quantity (u, w)).1 =
          u'.advertised quantity (env.time (w.pos + 2)) (env.time (w.pos + 3))) ∨
      (¬ call.Succeeds ∧ (sendMeasurement env kind owner quantity (u, w)).1 = u') := by
  obtain ⟨call, hw, hkind, howner, hq, hbefore, hpos, -,
    ⟨hsent, hu, -⟩ | ⟨M, hdue, -, hsent, hu⟩⟩ := sendMeasurement_cases env kind owner quantity u w
  · refine ⟨call, hw, ⟨hkind, howner, hq⟩, hbefore, hpos, Or.inr ⟨?_, hu⟩⟩
    rintro ⟨M, hM⟩
    rw [hsent] at hM
    cases hM
  · refine ⟨call, hw, ⟨hkind, howner, hq⟩, hbefore, hpos, ?_⟩
    split at hu
    · rename_i hreply
      exact Or.inl ⟨⟨M, hsent.trans (by rw [hreply])⟩, hdue, hu⟩
    · rename_i hreply
      refine Or.inr ⟨?_, hu⟩
      rintro ⟨M', hM'⟩
      rw [hsent, Option.some.injEq, Prod.mk.injEq] at hM'
      exact hreply hM'.2

/-! ### What a unit notes about a send -/

variable (env) in
/-- After a successful send of a quantity the unit keeps the moment of it, and as long as no new
total is stored, the quantity is unchanged since that moment. -/
def SendNoted (kind : Kind) (owner : String) (u : TPUnit V) (history : List (Event V)) : Prop :=
  ∀ newer call older quantity, history = newer ++ .sendMeasurement call :: older →
    call.IsOf kind owner quantity → call.Succeeds → Quiet kind owner quantity newer →
    u.advertisedtimestamp[quantity]? = some (env.time (call.pos + 3)).toUInt64 ∧
    ((∀ later ∈ calls newer, later.IsOf kind owner quantity → ¬ later.Stores env) →
      u.changed quantity = false ∧ u.timestamp quantity = (env.time (call.pos + 3)).toUInt64)

section SendNoted

variable {kind : Kind} {owner quantity : String} {u v : TPUnit V} {history : List (Event V)}

omit [Double V] in
theorem Quiet.of_cons {event : Event V} {events : List (Event V)}
    (h : Quiet kind owner quantity (event :: events)) : Quiet kind owner quantity events where
  not_loaded pos loaded hmem := h.not_loaded pos loaded (List.mem_cons_of_mem event hmem)
  not_sent call hcall :=
    h.not_sent call (mem_calls.mpr (List.mem_cons_of_mem event (mem_calls.mp hcall)))

/-- A unit with the same marks has noted the same sends. -/
theorem SendNoted.of_eq (h : SendNoted env kind owner u history)
    (hadvertised : v.advertisedtimestamp = u.advertisedtimestamp)
    (hstatus : v.changedStatus = u.changedStatus)
    (htimestamp : v.changetimestamp = u.changetimestamp) : SendNoted env kind owner v history := by
  intro newer call older quantity hhistory hof hsent hquiet
  rw [hadvertised, TPUnit.changed, TPUnit.timestamp, hstatus, htimestamp]
  exact h newer call older quantity hhistory hof hsent hquiet

/-- A call of another unit changes nothing of what is noted. -/
theorem SendNoted.otherCall (h : SendNoted env kind owner u history) {call : Call V}
    (hother : ¬ (call.kind = kind ∧ call.owner = owner)) :
    SendNoted env kind owner u (.sendMeasurement call :: history) := by
  intro newer call' older quantity hhistory hof hsent hquiet
  rcases sendMeasurement_cons_eq_append hhistory with ⟨rfl, -⟩ | ⟨newer', rfl, hold⟩
  · exact absurd ⟨hof.1, hof.2.1⟩ hother
  · obtain ⟨hmark, hunchanged⟩ := h newer' call' older quantity hold hof hsent hquiet.of_cons
    exact ⟨hmark, fun hstores => hunchanged fun later hlater =>
      hstores later (List.mem_cons_of_mem call hlater)⟩

/-- A call of the unit notes its own success, and leaves what is noted about the other quantities;
a call that fails leaves the marks of its quantity unless it stores a total. -/
theorem SendNoted.sendMeasurement {w : World V} (h : SendNoted env kind owner u w.history)
    (q : String) :
    SendNoted env kind owner (sendMeasurement env kind owner q (u, w)).1
      (sendMeasurement env kind owner q (u, w)).2.history := by
  obtain ⟨call, hw, hof, rfl, hpos, hcase⟩ := sendMeasurement_succeeds_cases env kind owner q u w
  rw [hw, history_record]
  intro newer call' older quantity hhistory hof' hsent' hquiet
  rcases sendMeasurement_cons_eq_append hhistory with ⟨rfl, -⟩ | ⟨newer', rfl, hold⟩
  · -- the send itself
    obtain rfl : q = quantity := hof.2.2.symm.trans hof'.2.2
    rcases hcase with ⟨-, -, hu⟩ | ⟨hnot, -⟩
    · rw [hu, hpos]
      exact ⟨TPUnit.advertisedtimestamp_advertised .., fun _ =>
        ⟨(TPUnit.changed_advertised _ _).trans (if_pos rfl), TPUnit.timestamp_advertised ..⟩⟩
    · exact absurd hsent' hnot
  · obtain ⟨hmark, hunchanged⟩ := h newer' call' older quantity hold hof' hsent' hquiet.of_cons
    by_cases hq : quantity = q
    · -- a call of the same quantity, which does not succeed
      subst hq
      rcases hcase with ⟨hsent, -, -⟩ | ⟨-, hu⟩
      · exact absurd hsent (hquiet.not_sent call List.mem_cons_self hof)
      · rw [hu, TPUnit.advertisedtimestamp_calculate]
        refine ⟨hmark, fun hstores => ?_⟩
        have hsame := Call.calculate_of_not_stores (hstores call List.mem_cons_self hof)
        rw [hof.2.2, hpos] at hsame
        rw [hsame]
        exact hunchanged fun later hlater => hstores later (List.mem_cons_of_mem call hlater)
    · -- a call of another quantity
      have honly := onlyTotal_sendMeasurement env kind owner q call.before w
      rw [honly.advertisedtimestamp quantity hq, honly.changed_eq hq, honly.timestamp_eq hq]
      exact ⟨hmark, fun hstores => hunchanged fun later hlater =>
        hstores later (List.mem_cons_of_mem call hlater)⟩

end SendNoted

/-- Every move keeps what the units note about their sends. -/
theorem sendNoted_invariant : UnitInvariant env (SendNoted (V := V) env) where
  fresh kind owner u history pos loaded hu newer call older quantity hhistory hof hsent hquiet := by
    obtain ⟨newer', rfl, -⟩ := configure_cons_eq_append hhistory
    exact absurd List.mem_cons_self (hquiet.not_loaded pos loaded)
  setMeasurement kind owner u history M h := h.of_eq (by simp) (by simp) (by simp)
  dropOldMetricInfos kind owner u history clock h := h.of_eq rfl rfl rfl
  sendMeasurement kind owner quantity u w _ h := h.sendMeasurement quantity
  otherCall kind owner u history call hother h := h.otherCall hother

/-! ### The order of the readings -/

omit [Double V] in
/-- The calls of a history have read the clock one after the other, the newest last, and before
whatever is read next. -/
structure World.Ordered (w : World V) : Prop where
  calls : (calls w.history).Pairwise fun newer older => older.pos + 4 ≤ newer.pos
  pos : ∀ call ∈ MetricTPower.calls w.history, call.pos + 4 ≤ w.pos

omit [Double V] in
theorem World.Ordered.advance {w : World V} (h : w.Ordered) (places : ℕ) :
    (w.advance places).Ordered where
  calls := h.calls
  pos call hcall := (h.pos call hcall).trans (Nat.le_add_right w.pos places)

theorem ordered_unitCall {kind : Kind} {owner : String}
    {f : TPUnit V × World V → TPUnit V × World V} (hf : UnitCall env kind owner f) (u : TPUnit V)
    {w : World V} (h : w.Ordered) : (f (u, w)).2.Ordered := by
  cases hf with
  | setMeasurement M => exact h
  | dropOldMetricInfos => exact h.advance _
  | sendMeasurement quantity _ =>
    obtain ⟨call, hw, -, -, -, -, hpos, -⟩ := sendMeasurement_cases env kind owner quantity u w
    rw [hw]
    constructor
    · rw [history_record, calls_sendMeasurement, List.pairwise_cons, hpos]
      exact ⟨h.pos, h.calls⟩
    · intro call' hcall'
      rw [history_record, calls_sendMeasurement] at hcall'
      rcases List.mem_cons.mp hcall' with rfl | hcall'
      · rw [hpos]
        exact le_rfl
      · exact (h.pos call' hcall').trans (Nat.le_add_right w.pos 4)

theorem ordered_move {a a' : Agent V} (hm : Move env a a') (h : a.world.Ordered) :
    a'.world.Ordered := by
  cases hm with
  | onUnit kind owner f hf =>
    cases hu : a.unit? kind owner with
    | none => rwa [Agent.onUnit_of_none hu]
    | some u =>
      rw [Agent.world_onUnit_of_some hu]
      exact ordered_unitCall hf u h
  | configure =>
    exact ⟨h.calls, fun call hcall => (h.pos call hcall).trans (Nat.le_add_right _ 1)⟩
  | schedule timeout reconfigPending places => exact h.advance places

/-- The calls of a run are ordered. -/
theorem ordered_run (env : Env V) (steps : List (Step V)) : (run env steps).world.Ordered :=
  Reachability.invariant (P := fun a : Agent V => a.world.Ordered)
    (fun _ _ hm h => ordered_move hm h) (Agent.steps_moves env _ steps)
    ⟨List.Pairwise.nil, by simp [Agent.init, calls]⟩

/-- An earlier call has read the clock before a later one. -/
theorem pos_le_of_history (steps : List (Step V)) {newer older : List (Event V)}
    {first second : Call V}
    (hhistory : (run env steps).world.history = newer ++ .sendMeasurement second :: older)
    (hfirst : first ∈ calls older) : first.pos + 4 ≤ second.pos := by
  have hordered := (ordered_run env steps).calls
  rw [hhistory, calls, List.filterMap_append] at hordered
  exact List.rel_of_pairwise_cons (List.pairwise_append.mp hordered).2.1 hfirst

/-! ### Successive sends -/

/-- **Publication is rate limited.** Let a run contain two successful sends of a quantity by a unit,
with neither a reload nor another successful send of the quantity between them, under a clock that
does not go back. Then `advertise` has not allowed the second in the second in which the first was
marked as advertised; and when `set` has stored no new total of the quantity since the first, it
has allowed the second more than 300 s after that moment. -/
theorem sends_rate_limited (env : Env V) (hclock : ∀ i j, i ≤ j → env.time i ≤ env.time j)
    (steps : List (Step V)) (kind : Kind) (owner quantity : String)
    (newer between older : List (Event V)) (first second : Call V)
    (hhistory : (run env steps).world.history =
      newer ++ .sendMeasurement second :: (between ++ .sendMeasurement first :: older))
    (hfirst : first.IsOf kind owner quantity) (hsentFirst : first.Succeeds)
    (hsecond : second.IsOf kind owner quantity) (hsentSecond : second.Succeeds)
    (hsuccessive : Quiet kind owner quantity between) :
    let marked := env.time (first.pos + 3)
    let allowed := env.time (second.pos + 1)
    allowed ≠ marked ∧
    ((∀ call ∈ second :: calls between, call.IsOf kind owner quantity → ¬ call.Stores env) →
      300 < allowed.toInt - marked.toInt) := by
  intro marked allowed
  obtain ⟨w, hw, -, hnoted, hrecord⟩ :=
    (sendNoted_invariant.traced steps).calls newer second _ hhistory
  obtain ⟨rfl, rfl, rfl⟩ := hsecond
  obtain ⟨hmarked, hunchanged⟩ := hnoted between first older _ hw hfirst hsentFirst hsuccessive
  -- the second send is the call with the unit that has noted the first
  obtain ⟨call, hrecord', -, -, hpos, hcase⟩ :=
    sendMeasurement_succeeds_cases env second.kind second.owner second.quantity second.before w
  obtain rfl : call = second := w.record_injective (hrecord'.symm.trans hrecord)
  rcases hcase with ⟨-, hdue, -⟩ | ⟨hnot, -⟩
  · rw [← hpos] at hdue
    obtain ⟨hadvertised, hlater⟩ := TPUnit.due_of_advertise hdue
    rw [TPUnit.advertisedtimestamp_calculate, hmarked] at hadvertised
    refine ⟨fun hsame => hadvertised (congrArg (fun t => some t.toUInt64) hsame.symm),
      fun hstores => ?_⟩
    have hsame := Call.calculate_of_not_stores (hstores call List.mem_cons_self ⟨rfl, rfl, rfl⟩)
    obtain ⟨hchanged, htimestamp⟩ := hunchanged fun later hlater =>
      hstores later (List.mem_cons_of_mem call hlater)
    rw [hsame, hchanged, htimestamp] at hlater
    have hage : measurementRepeatAfter < allowed.toUInt64 - marked.toUInt64 := by simpa using hlater
    have hpositions : first.pos + 4 ≤ call.pos :=
      pos_le_of_history steps hhistory (mem_calls.mpr (by simp))
    have hle : marked ≤ allowed := hclock _ _ (by omega)
    have hexact := WrappedAge.toNat_sub_of_le hle
    have hlimit : 300 < (allowed.toUInt64 - marked.toUInt64).toNat := UInt64.lt_iff_toNat_lt.mp hage
    omega
  · exact absurd hsentSecond hnot

/-- The rack sends, and after five minutes of silence sends the same total again. -/
theorem sends_rate_limited_oneRack :
    ∃ first ∈ calls (run oneRackEnv oneRackSteps).world.history,
    ∃ second ∈ calls (run oneRackEnv oneRackSteps).world.history,
      let marked := oneRackEnv.time (first.pos + 3)
      let allowed := oneRackEnv.time (second.pos + 1)
      allowed ≠ marked ∧ 300 < allowed.toInt - marked.toInt := by
  have hshape : ((run oneRackEnv oneRackSteps).world.history.map fun
      | .sendMeasurement _ => true
      | .configure _ _ => false) = [true, true, false] := by decide +kernel
  have hsent : ∀ call ∈ calls (run oneRackEnv oneRackSteps).world.history,
      (call.kind = .rack ∧ call.owner = "rack-1" ∧ call.quantity = "realpower.default") ∧
        call.sent.map Prod.snd = some (.returned true) := by decide +kernel
  have hfailed : ∀ call ∈ (calls (run oneRackEnv oneRackSteps).world.history).take 1,
      (call.before.calculation call.quantity (oneRackEnv.time call.pos)).isOk = false := by
    decide +kernel
  rcases hhistory : (run oneRackEnv oneRackSteps).world.history with
    _ | ⟨second | _, _ | ⟨first | _, older⟩⟩
  case cons.sendMeasurement.cons.sendMeasurement =>
    rw [hhistory] at hsent hfailed
    have hfirst := hsent first (by simp)
    have hsecond := hsent second (by simp)
    have hstores : ¬ second.Stores oneRackEnv := by
      rintro ⟨result, hresult, -⟩
      have := hfailed second (by simp)
      rw [hresult] at this
      cases this
    have hlimit := sends_rate_limited oneRackEnv oneRackEnv_clock oneRackSteps .rack "rack-1"
      "realpower.default" [] [] older first second hhistory hfirst.1 (.of_reply hfirst.2) hsecond.1
      (.of_reply hsecond.2) ⟨by simp, by simp [calls]⟩
    exact ⟨first, by simp, second, by simp, hlimit.1, hlimit.2 fun call hcall => by
      obtain rfl : call = second := by simpa [calls] using hcall
      exact fun _ => hstores⟩
  all_goals simp [hhistory] at hshape

end MetricTPower
