import MetricTPower.Server.Serial
import MetricTPower.Agent.WellFormed

/-!
# What the process writes to the shared memory

The totals of the process are written to the shared memory by the one actor and read back from it
by the other, as texts and among the metrics of the devices. Whatever the order of the events, also
in the middle of a section, an entry written for a total has the name and a quantity of its unit,
passes the filter, and is read as a value close to the total. The arithmetic is any in which numbers
are read as nearest values (`DoubleText.Nearest`).

## Main results

* `Reachable.history_suffix`: the calls so far are those of a run of the agent.
* `published_readable`: what is written can be read.
* `published_accuracy`: how far what is read is from the calculated total.
-/

open Relation (ReflTransGen)

namespace MetricTPower

namespace Server

section Calls

variable {V : Type} [DoubleText V] {env : Env V} {s : State V} {time : ℕ}

/-- The history so far, also in the middle of a section, is the older part of the history of the run
of the agent that the sections make up. -/
theorem Reachable.history_suffix (h : Reachable env time s) :
    s.sections.shared.world.history <:+ (run env s.sections.sections.reverse).world.history := by
  have hfinish : ReflTransGen (MetricTPower.Move env) s.sections.shared s.sections.finish :=
    h.sections.reaches_finish fun call a part hpart b => call.part_moves hpart b
  rw [← serial_eq_run, ← h.sections.finish_eq_serial]
  exact Agent.history_suffix_of_moves hfinish

theorem Reachable.calls_subset (h : Reachable env time s) :
    calls s.sections.shared.world.history ⊆
      calls (run env s.sections.sections.reverse).world.history :=
  (h.history_suffix.sublist.filterMap _).subset

end Calls

section Readable

variable {V : Type} [DoubleText V] [DoubleText.Nearest V]

/-- **What is written can be read.** In every state, whatever the order of the events: each total
given to `send_metrics` is written under the name and the quantity of its unit, in W, with 360 s to
live; and an entry with these texts passes the filter of the puller and is read, as a metric of the
unit with a value at most a millionth from the total. -/
theorem published_readable (env : Env V) (time : ℕ) (s : State V)
    (h : Reachable env time s) (call : Call V)
    (hcall : call ∈ calls s.sections.shared.world.history) (M : MetricInfo V) (reply : Reply)
    (hsent : call.sent = some (M, reply)) :
    M.shmMetric = ⟨call.owner, call.quantity, toText M.value, "W", 360⟩ ∧
    ∀ m : ProtoMetric, m.name = M.shmMetric.asset → m.type = M.shmMetric.metric →
      m.value = M.shmMetric.value → m.unit = M.shmMetric.unit →
      passesFilter m = true ∧ ∃ v : V, DoubleText.Close v M.value ∧
        m.metricInfo? = some ⟨call.owner, call.quantity, "W", v, m.time, m.ttl.toUInt64⟩ := by
  obtain ⟨helement, hsource, hkind, hunits, httl, hnan⟩ :=
    form_of_sent _ (h.calls_subset hcall) hsent
  refine ⟨?_, fun m hname htype hvalue hunit => ⟨?_, ?_⟩⟩
  · have hint : ((360 : UInt64).toNat : ℤ).bmod (2 ^ 32) = 360 := by decide
    rw [MetricInfo.shmMetric, helement, hsource, hunits, httl, hint]
  · rw [passesFilter, htype]
    exact rmatch_of_mem_quantities hkind
  · obtain ⟨v, hv, hclose⟩ := DoubleText.exists_close hnan
    refine ⟨v, hclose, ?_⟩
    have hparse : (parseValue m.value : Option V) = some v := by
      rw [hvalue]
      exact hv
    have hm : m.name = M.elementName ∧ m.type = M.source ∧ m.unit = M.units := ⟨hname, htype, hunit⟩
    rw [ProtoMetric.metricInfo?, hparse, hm.1, hm.2.1, hm.2.2, helement, hsource, hunits]
    rfl

end Readable

/-- The puller delivers a measurement, the total of the rack is sent, and it is written. -/
def publishEvents : List Event :=
  [.connect true, .go .main, .go .main, .go .pull, .wakePull (.expired [epduMetric]), .go .pull,
    .go .pull, .go .pull, .go .pull]

theorem isSome_run_publish :
    ((State.init 0 : State Extended).run oneRackEnv publishEvents).isSome = true := by
  decide +kernel

/-- The process in which the total has just been written, in the middle of a section. -/
def publishState : State Extended :=
  ((State.init 0 : State Extended).run oneRackEnv publishEvents).get isSome_run_publish

theorem isSome_sent_publish :
    ((calls publishState.sections.shared.world.history).head?.bind Call.sent).isSome = true := by
  decide +kernel

theorem published_readable_oneRack :
    ∃ call ∈ calls publishState.sections.shared.world.history, ∃ M reply,
      call.sent = some (M, reply) ∧
      M.shmMetric = ⟨call.owner, call.quantity, toText M.value, "W", 360⟩ ∧
      ∀ m : ProtoMetric, m.name = M.shmMetric.asset → m.type = M.shmMetric.metric →
        m.value = M.shmMetric.value → m.unit = M.shmMetric.unit →
        passesFilter m = true ∧ ∃ v : Extended, DoubleText.Close v M.value ∧
          m.metricInfo? = some ⟨call.owner, call.quantity, "W", v, m.time, m.ttl.toUInt64⟩ := by
  obtain ⟨⟨M, reply⟩, hsome⟩ := Option.isSome_iff_exists.mp isSome_sent_publish
  obtain ⟨call, hhead, hsent⟩ := Option.bind_eq_some_iff.mp hsome
  have hcall := List.mem_of_mem_head? hhead
  exact ⟨call, hcall, M, reply, hsent, published_readable oneRackEnv 0 publishState
    (reachable_of_run (Option.some_get isSome_run_publish).symm) call hcall M reply hsent⟩

/-! ### Accuracy -/

section Accuracy

variable {V : Type} [DoubleText V] {env : Env V}

/-- When the calculation of a call completes, the sent total is its result or one in whose dead band
the result is. -/
theorem value_of_sent {steps : List (Step V)} {call : Call V}
    (hcall : call ∈ calls (run env steps).world.history) {r M : MetricInfo V} {reply : Reply}
    (hcalculation : call.before.calculation call.quantity (env.time call.pos) = .ok r)
    (hsent : call.sent = some (M, reply)) :
    M.value = r.value ∨ (Double.isnan M.value = false ∧
      Double.exceeds M.value r.value = false) := by
  obtain ⟨w, -, -, hw⟩ := (wellNamed_invariant.run steps).calls call hcall
  obtain ⟨call', hw', -, -, -, -, hpos, -, ⟨hnone, -⟩ | ⟨M', -, hread, hsome, -⟩⟩ :=
    sendMeasurement_cases env call.kind call.owner call.quantity call.before w
  all_goals obtain rfl : call' = call := w.record_injective (hw'.symm.trans hw)
  · rw [hnone] at hsent
    cases hsent
  · rw [hsome] at hsent
    obtain ⟨rfl, -⟩ := Prod.mk.inj (Option.some.inj hsent)
    rw [TPUnit.value_of_getMetricInfo hread, ← hpos]
    obtain ⟨sum, rfl⟩ := TPUnit.calculation_eq_ok hcalculation
    by_cases hreplaces : call'.before.Replaces call'.quantity sum
    · exact Or.inl (TPUnit.storedTotal_calculate_of_replaces hcalculation hreplaces)
    · rw [TPUnit.storedTotal_calculate_of_not_replaces hcalculation hreplaces]
      obtain ⟨hknown, hband⟩ := not_or.mp hreplaces
      exact Or.inr ⟨Bool.eq_false_iff.mpr hknown, Bool.eq_false_iff.mpr hband⟩

/-- **How far a published total is off.** In every state, whatever the order of the events: when the
calculation of a call completes with a finite total and the call sends a metric, then the text that
is written is read as a number that is off by no more than the dead band and what the texts lose,
twelve millionths. -/
theorem published_accuracy [DoubleText.Nearest V] (env : Env V) (time : ℕ) (s : State V)
    (h : Reachable env time s) (call : Call V)
    (hcall : call ∈ calls s.sections.shared.world.history) (r : MetricInfo V) (x : ℚ)
    (hcalculation : call.before.calculation call.quantity (env.time call.pos) = .ok r)
    (hx : (DoubleText.number r.value).value? = some x) (M : MetricInfo V) (reply : Reply)
    (hsent : call.sent = some (M, reply)) :
    ∃ (v : V) (y : ℚ), parseValue M.shmMetric.value = some v ∧
      (DoubleText.number v).value? = some y ∧ |y - x| ≤ 12 / 10 ^ 6 := by
  have hcall' := h.calls_subset hcall
  have hvalue : ∃ z, (DoubleText.number M.value).value? = some z ∧ |z - x| ≤ 11 / 10 ^ 6 := by
    rcases value_of_sent hcall' hcalculation hsent with hsame | ⟨hnan, hband⟩
    · exact ⟨x, hsame ▸ hx, by rw [sub_self, abs_zero]; norm_num⟩
    · exact DoubleText.Nearest.exceeds M.value r.value x hx hnan hband
  obtain ⟨z, hz, hband⟩ := hvalue
  obtain ⟨-, -, -, -, -, hnan⟩ := form_of_sent _ hcall' hsent
  obtain ⟨v, hv, ⟨y, z', hy, hz', hround⟩ | ⟨negative, -, hinfinite⟩⟩ :=
    DoubleText.exists_close hnan
  · obtain rfl : z' = z := Option.some.inj (hz'.symm.trans hz)
    refine ⟨v, y, hv, hy, ?_⟩
    calc |y - x| ≤ |y - z'| + |z' - x| := abs_sub_le y z' x
      _ ≤ 1 / 10 ^ 6 + 11 / 10 ^ 6 := add_le_add hround hband
      _ = 12 / 10 ^ 6 := by norm_num
  · rw [hinfinite] at hz
    cases hz

end Accuracy

theorem total_publish :
    (calls publishState.sections.shared.world.history).head?.map (fun call =>
      ((call.before.calculation call.quantity (oneRackEnv.time call.pos)).toOption.map
        MetricInfo.value, call.sent.isSome)) = some (some (.finite (201 / 2)), true) := by
  decide +kernel

theorem published_accuracy_oneRack :
    ∃ call ∈ calls publishState.sections.shared.world.history, ∃ r M reply,
      call.before.calculation call.quantity (oneRackEnv.time call.pos) = .ok r ∧
      r.value = .finite (201 / 2) ∧ call.sent = some (M, reply) ∧
      ∃ (v : Extended) (y : ℚ), parseValue M.shmMetric.value = some v ∧
        (DoubleText.number v).value? = some y ∧ |y - 201 / 2| ≤ 12 / 10 ^ 6 := by
  obtain ⟨call, hhead, hpair⟩ := Option.map_eq_some_iff.mp total_publish
  obtain ⟨hvalue, hsome⟩ := Prod.mk.inj hpair
  obtain ⟨⟨M, reply⟩, hsent⟩ := Option.isSome_iff_exists.mp hsome
  have hcall := List.mem_of_mem_head? hhead
  cases hcalculation : call.before.calculation call.quantity (oneRackEnv.time call.pos) with
  | error what =>
    rw [hcalculation] at hvalue
    cases hvalue
  | ok r =>
    rw [hcalculation] at hvalue
    have hr : r.value = .finite (201 / 2) := Option.some.inj hvalue
    have hx : (DoubleText.number r.value).value? = some (201 / 2) := by
      rw [hr, Extended.value?_number]
    refine ⟨call, hcall, r, M, reply, hcalculation, hr, hsent, ?_⟩
    exact published_accuracy oneRackEnv 0 publishState
      (reachable_of_run (Option.some_get isSome_run_publish).symm) call hcall r (201 / 2)
      hcalculation hx M reply hsent

end Server

end MetricTPower
