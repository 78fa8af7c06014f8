import MetricTPower.Agent.Polling
import MetricTPower.Agent.RateLimit
import MetricTPower.Agent.WellFormed

/-!
# What a poll leaves due

The two passes of `onPoll` come to each quantity of each unit once. What the passes do to a
quantity of a unit (`sendState`) is done by the purge at the beginning of the turn of the unit and
by the call of `sendMeasurement` for the quantity; the turns of the other units and the calls for
the other quantities leave it alone. At one reading of the clock the call leaves the total due
exactly when it has called the sending function in vain.

## Main definitions

* `callsFor`: the calls for a quantity of a unit.
* `Call.Fails`: the sending function was called, and returned `false` or threw.
* `Agent.Due`: a total that `advertise` says is to be sent.
* `Agent.sendState`: whether a total is due, and the calls for its quantity so far.

## Main results

* `Agent.exists_call_passes`: the one call of a poll for a quantity of a unit.
* `due_passes_iff_fails`: what is due after the passes is what was sent in vain.
-/

open Std (TreeMap)
open Relation (ReflTransGen)

namespace MetricTPower

open Double

variable {V : Type}

/-- The sending function was called, and it returned `false` or threw. -/
def Call.Fails (call : Call V) : Prop :=
  ∃ M reply, call.sent = some (M, reply) ∧ reply ≠ .returned true

instance (call : Call V) (kind : Kind) (owner quantity : String) :
    Decidable (call.IsOf kind owner quantity) :=
  inferInstanceAs (Decidable (_ ∧ _ ∧ _))

/-- The calls for a quantity of a unit. -/
def callsFor (kind : Kind) (owner quantity : String) (l : List (Call V)) : List (Call V) :=
  l.filter fun call => decide (call.IsOf kind owner quantity)

section CallsFor

variable {kind : Kind} {owner quantity : String} {call : Call V} {l : List (Call V)}

theorem callsFor_cons_of_isOf (h : call.IsOf kind owner quantity) :
    callsFor kind owner quantity (call :: l) = call :: callsFor kind owner quantity l :=
  List.filter_cons_of_pos (by simpa using h)

theorem callsFor_cons_of_not_isOf (h : ¬ call.IsOf kind owner quantity) :
    callsFor kind owner quantity (call :: l) = callsFor kind owner quantity l :=
  List.filter_cons_of_neg (by simpa using h)

theorem callsFor_append (l l' : List (Call V)) :
    callsFor kind owner quantity (l ++ l') =
      callsFor kind owner quantity l ++ callsFor kind owner quantity l' :=
  List.filter_append ..

theorem mem_callsFor : call ∈ callsFor kind owner quantity l ↔
    call ∈ l ∧ call.IsOf kind owner quantity := by
  simp [callsFor]

end CallsFor

variable [Double V] {env : Env V}

/-- The total of a quantity of a unit is to be sent, for a unit of a kind that has the quantity. -/
def Agent.Due (a : Agent V) (kind : Kind) (owner quantity : String) (now : Int64) : Prop :=
  quantity ∈ kind.quantities ∧
    ∃ u, a.unit? kind owner = some u ∧ u.advertise quantity now = true

/-! ### A total is due -/

namespace TPUnit

variable {u v : TPUnit V} {quantity q : String} {now : Int64}

/-- Whether a total is due depends on this total and what is noted about it. -/
theorem OnlyTotal.advertise_eq (h : OnlyTotal quantity u v) (hq : q ≠ quantity) :
    v.advertise q = u.advertise q := by
  have htopic : v.generateTopic q = u.generateTopic q := by
    rw [generateTopic, generateTopic, h.name]
  have htotal : v.lastValue.find (u.generateTopic q) = u.lastValue.find (u.generateTopic q) := by
    rw [MetricList.find_eq, MetricList.find_eq, h.lastValue]
    rw [generateTopic, generateTopic, Ne, topicOf_left_inj]
    exact hq
  funext now
  rw [advertise, advertise, quantityIsUnknown, quantityIsUnknown, htopic, htotal, h.changed_eq hq,
    h.timestamp_eq hq, h.advertisedtimestamp q hq]

/-- A total is not due at the moment it is marked as advertised. -/
theorem advertise_advertised (u : TPUnit V) (quantity : String) (now now' : Int64) :
    (u.advertised quantity now now').advertise quantity now' = false := by
  rw [advertise]
  split
  · rfl
  · rw [if_pos (advertisedtimestamp_advertised u quantity now now')]

/-- Nothing is due in a unit that has just been loaded. -/
theorem Fresh.advertise_eq_false {owner : String} (h : u.Fresh owner) :
    u.advertise quantity now = false := by
  have hunknown : u.quantityIsUnknown (u.generateTopic quantity) = true := by
    rw [quantityIsUnknown, h.lastValue_eq]
    exact isnan_nan
  rw [advertise, if_pos hunknown]

end TPUnit

/-! ### The call for a total -/

/-- One call at one reading of the clock leaves the total due exactly when it fails. -/
theorem advertise_sendMeasurement_iff (env : Env V) {kind : Kind} {owner quantity : String}
    {u : TPUnit V} {w : World V} {now : Int64} (hquantity : quantity ∈ kind.quantities)
    (hnamed : WellNamed kind owner u) (howner : owner ≠ "")
    (hclock : ∀ i, w.pos ≤ i → i < w.pos + 4 → env.time i = now) :
    ∃ call : Call V, (sendMeasurement env kind owner quantity (u, w)).2 = w.record call ∧
      call.IsOf kind owner quantity ∧
      ((sendMeasurement env kind owner quantity (u, w)).1.advertise quantity now = true ↔
        call.Fails) := by
  obtain ⟨call, hw, hkind, howner', hq, -, -, -, hcase⟩ :=
    sendMeasurement_cases env kind owner quantity u w
  refine ⟨call, hw, ⟨hkind, howner', hq⟩, ?_⟩
  have hcalc := hnamed.calculate hquantity (env.time w.pos)
  rw [hclock (w.pos + 1) (by omega) (by omega)] at hcase
  rcases hcase with ⟨hsent, hu, hnot⟩ | ⟨M, hdue, -, hsent, hu⟩
  · -- nothing is sent: a total that is due could have been read
    refine iff_of_false ?_ ?_
    · intro hdue
      rw [hu] at hdue
      obtain ⟨M, hM⟩ := (hcalc.exists_getMetricInfo_iff
        (TPUnit.isnan_storedTotal_of_advertise hdue)).mpr howner
      rcases hnot with hnot | hnot
      · rw [hnot] at hdue
        cases hdue
      · exact hnot M hM
    · rintro ⟨M, reply, hM, -⟩
      rw [hsent] at hM
      cases hM
  · rw [hu]
    split
    · rename_i hreply
      rw [hclock (w.pos + 3) (by omega) (by omega), TPUnit.advertise_advertised]
      refine iff_of_false (by simp) ?_
      rintro ⟨M', reply, hM', hne⟩
      rw [hsent, Option.some.injEq, Prod.mk.injEq] at hM'
      exact hne (hM'.2.symm.trans hreply)
    · rename_i hreply
      exact iff_of_true hdue ⟨M, env.reply w.pos M, hsent, hreply⟩

/-! ### What a poll does to a total -/

namespace Agent

variable {kind k : Kind} {owner o quantity q : String}

/-- What a poll does to a quantity of a unit: whether its total is due, at any reading of the clock,
and the calls for it so far. -/
def sendState (kind : Kind) (owner quantity : String) (a : Agent V) :
    Option (Int64 → Bool) × List (Call V) :=
  ((a.unit? kind owner).map fun u => u.advertise quantity,
    callsFor kind owner quantity (calls a.world.history))

omit [Double V] in
/-- A purge makes no call. -/
theorem history_onUnit_dropOldMetricInfos (env : Env V) (k : Kind) (o : String) (a : Agent V) :
    (a.onUnit k o (dropOldMetricInfos env)).world.history = a.world.history := by
  cases hu : a.unit? k o with
  | none => rw [onUnit_of_none hu]
  | some u =>
    rw [world_onUnit_of_some hu]
    rfl

/-- A call for another unit or another quantity leaves a total alone. -/
theorem sendState_sendMeasurement_of_ne (a : Agent V)
    (h : ¬ (kind = k ∧ owner = o ∧ quantity = q)) :
    sendState kind owner quantity (a.onUnit k o (sendMeasurement env k o q)) =
      sendState kind owner quantity a := by
  have hdue : (((a.onUnit k o (sendMeasurement env k o q)).unit? kind owner).map
      fun u => u.advertise quantity) = (a.unit? kind owner).map fun u => u.advertise quantity := by
    rw [unit?_onUnit]
    split
    · rename_i hsame
      rw [Option.map_map]
      refine congrFun (congrArg _ (funext fun u => ?_)) _
      have honly := onlyTotal_sendMeasurement env k o q u a.world
      exact honly.advertise_eq fun hq => h ⟨hsame.1, hsame.2, hq⟩
    · rfl
  have hcalls :
      callsFor kind owner quantity
        (calls (a.onUnit k o (sendMeasurement env k o q)).world.history) =
          callsFor kind owner quantity (calls a.world.history) := by
    cases hu : a.unit? k o with
    | none => rw [onUnit_of_none hu]
    | some u =>
      obtain ⟨call, hw, hkind, howner, hq, -⟩ := sendMeasurement_cases env k o q u a.world
      rw [world_onUnit_of_some hu, hw, history_record, calls_sendMeasurement,
        callsFor_cons_of_not_isOf]
      rintro ⟨hkind', howner', hq'⟩
      exact h ⟨hkind'.symm.trans hkind, howner'.symm.trans howner, hq'.symm.trans hq⟩
  rw [sendState, hdue, hcalls, sendState]

/-- The turn of another unit leaves a total alone. -/
theorem sendState_sendElement_of_ne (a : Agent V) (h : ¬ (kind = k ∧ owner = o)) :
    sendState kind owner quantity (a.sendElement env k o) = sendState kind owner quantity a := by
  have hpurge : sendState kind owner quantity (a.onUnit k o (dropOldMetricInfos env)) =
      sendState kind owner quantity a := by
    rw [sendState, unit?_onUnit, if_neg h, history_onUnit_dropOldMetricInfos, sendState]
  have hloop : ∀ (l : List String) (b : Agent V), sendState kind owner quantity (l.foldl
      (fun a q => a.onUnit k o (sendMeasurement env k o q)) b) =
        sendState kind owner quantity b := by
    intro l
    induction l with
    | nil => exact fun _ => rfl
    | cons q l ih =>
      intro b
      rw [List.foldl_cons, ih]
      exact sendState_sendMeasurement_of_ne b fun hsame => h ⟨hsame.1, hsame.2.1⟩
  rw [sendElement, hloop, hpurge]

/-- The pass over the units of the other kind leaves a total alone. -/
theorem sendState_sendMeasurements_of_ne (a : Agent V) (h : kind ≠ k) :
    sendState kind owner quantity (a.sendMeasurements env k) = sendState kind owner quantity a := by
  rw [sendMeasurements]
  generalize (a.conf.group k).units.keys = l
  induction l generalizing a with
  | nil => rfl
  | cons o l ih => rw [List.foldl_cons, ih, sendState_sendElement_of_ne a fun hand => h hand.1]

/-! ### The one call of a poll for a total -/

variable (env) in
/-- A stretch of a poll in which a total meets one call: the agent before the call has the calls
from before the stretch, and the agent after the stretch has the total as the call leaves it. -/
structure OneCall (kind : Kind) (owner quantity : String) (a b a' : Agent V) : Prop where
  before : ReflTransGen (UnitMove env) a b
  after : ReflTransGen (UnitMove env)
    (b.onUnit kind owner (sendMeasurement env kind owner quantity)) a'
  calls_eq : (sendState kind owner quantity b).2 = (sendState kind owner quantity a).2
  sendState_eq : sendState kind owner quantity a' = sendState kind owner quantity
    (b.onUnit kind owner (sendMeasurement env kind owner quantity))

/-- A stretch around a stretch with one call, when the rest leaves the total alone. -/
theorem OneCall.mono {a b a' c c' : Agent V} (h : OneCall env kind owner quantity a b a')
    (hbefore : ReflTransGen (UnitMove env) c a) (hafter : ReflTransGen (UnitMove env) a' c')
    (hsame : sendState kind owner quantity a = sendState kind owner quantity c)
    (hsame' : sendState kind owner quantity c' = sendState kind owner quantity a') :
    OneCall env kind owner quantity c b c' where
  before := hbefore.trans h.before
  after := h.after.trans hafter
  calls_eq := h.calls_eq.trans (congrArg Prod.snd hsame)
  sendState_eq := hsame'.trans h.sendState_eq

variable (env owner) in
/-- The turn of a unit has one call for each of its quantities. -/
theorem exists_call_sendElement (a : Agent V) (hquantity : quantity ∈ kind.quantities) :
    ∃ b, OneCall env kind owner quantity a b (a.sendElement env kind owner) := by
  have hpurge : UnitMove env a (a.onUnit kind owner (dropOldMetricInfos env)) :=
    .onUnit a kind owner _ .dropOldMetricInfos
  have hcalls : (sendState kind owner quantity (a.onUnit kind owner (dropOldMetricInfos env))).2 =
      (sendState kind owner quantity a).2 := by
    rw [sendState, sendState, history_onUnit_dropOldMetricInfos]
  obtain ⟨l₁, l₂, hsplit, hbefore, hturn⟩ :=
    Loops.foldl_component_of_mem (g := sendState (V := V) kind owner)
      (fun s q q' hne => sendState_sendMeasurement_of_ne s fun hsame => hne hsame.2.2)
      kind.quantities (a.onUnit kind owner (dropOldMetricInfos env)) (quantities_nodup kind)
      hquantity
  have hmem : ∀ l : List String, (∀ x ∈ l, x ∈ l₁ ++ quantity :: l₂) →
      ∀ x ∈ l, x ∈ kind.quantities :=
    fun l hl x hx => hsplit ▸ hl x hx
  refine ⟨_, ⟨(ReflTransGen.single hpurge).trans
    (foldl_sendMeasurement_unitMoves env kind owner l₁ _ (hmem l₁ fun x hx => by simp [hx])), ?_,
    (congrArg Prod.snd hbefore).trans hcalls, hturn⟩⟩
  have hrest : a.sendElement env kind owner = l₂.foldl
      (fun a quantity => a.onUnit kind owner (sendMeasurement env kind owner quantity))
      ((l₁.foldl (fun a quantity => a.onUnit kind owner (sendMeasurement env kind owner quantity))
        (a.onUnit kind owner (dropOldMetricInfos env))).onUnit kind owner
          (sendMeasurement env kind owner quantity)) := by
    rw [sendElement, hsplit, List.foldl_append, List.foldl_cons]
  rw [hrest]
  exact foldl_sendMeasurement_unitMoves env kind owner l₂ _ (hmem l₂ fun x hx => by simp [hx])

variable (env) in
/-- The pass over the units of a kind has one call for each quantity of each unit. -/
theorem exists_call_sendMeasurements (a : Agent V) (hquantity : quantity ∈ kind.quantities)
    (howner : owner ∈ (a.conf.group kind).units) :
    ∃ b, OneCall env kind owner quantity a b (a.sendMeasurements env kind) := by
  have hframe : ∀ (s : Agent V) (o o' : String), o ≠ o' →
      sendState kind o quantity (s.sendElement env kind o') = sendState kind o quantity s :=
    fun s o o' hne => sendState_sendElement_of_ne s fun hsame => hne hsame.2
  obtain ⟨l₁, l₂, hsplit, hbefore, hturn⟩ :=
    Loops.foldl_component_of_mem (g := fun o (s : Agent V) => sendState kind o quantity s) hframe
      (a.conf.group kind).units.keys a TreeMap.nodup_keys (TreeMap.mem_keys.mpr howner)
  obtain ⟨b, hb⟩ := exists_call_sendElement env owner
    (l₁.foldl (fun a owner => a.sendElement env kind owner) a) hquantity
  refine ⟨b, hb.mono ?_ ?_ hbefore hturn⟩
  · exact Reachability.reflTransGen_foldl (fun a o => sendElement_unitMoves env kind o a) l₁ a
  · rw [sendMeasurements, hsplit, List.foldl_append, List.foldl_cons]
    exact Reachability.reflTransGen_foldl (fun a o => sendElement_unitMoves env kind o a) l₂ _

variable (env) in
/-- The passes of a poll have one call for each quantity of each unit. -/
theorem exists_call_passes (a : Agent V) (hquantity : quantity ∈ kind.quantities)
    (howner : owner ∈ (a.conf.group kind).units) :
    ∃ b, OneCall env kind owner quantity a b (a.passes env) := by
  have hracks := sendMeasurements_unitMoves env .rack a
  have hdcs := sendMeasurements_unitMoves env .dc (a.sendMeasurements env .rack)
  cases kind with
  | rack =>
    obtain ⟨b, hb⟩ := exists_call_sendMeasurements env a hquantity howner
    exact ⟨b, hb.mono .refl hdcs rfl (sendState_sendMeasurements_of_ne _ (by decide))⟩
  | dc =>
    have howner' : owner ∈ ((a.sendMeasurements env .rack).conf.group .dc).units := by
      rw [TreeMap.mem_iff_isSome_getElem?] at howner ⊢
      have hsame : (a.sendMeasurements env .rack).unit? .dc owner = a.unit? .dc owner :=
        unit?_sendMeasurements_of_ne a (by decide)
      exact (congrArg Option.isSome hsame).trans howner
    obtain ⟨b, hb⟩ := exists_call_sendMeasurements env _ hquantity howner'
    exact ⟨b, hb.mono hracks .refl (sendState_sendMeasurements_of_ne a (by decide)) rfl⟩

/-! ### The calls of a poll -/

variable {a a' : Agent V}

/-- The methods of the units only add calls to the history. -/
theorem exists_calls_of_unitMoves (h : ReflTransGen (UnitMove env) a a') :
    ∃ new, calls a'.world.history = new ++ calls a.world.history := by
  refine Reachability.invariant (P := fun b : Agent V =>
    ∃ new, calls b.world.history = new ++ calls a.world.history) ?_ h ⟨[], rfl⟩
  rintro b _ ⟨k, o, f, hf⟩ ⟨new, hnew⟩
  rcases UnitInvariant.history_onUnit_cases hf b with hsame | ⟨call, u, -, -, -, hcall⟩
  · exact ⟨new, by rw [hsame, hnew]⟩
  · exact ⟨call :: new, by rw [hcall, calls_sendMeasurement, hnew, List.cons_append]⟩

variable (kind owner) in
/-- The methods of the units neither make nor remove a unit. -/
theorem isSome_unit?_of_unitMoves (h : ReflTransGen (UnitMove env) a a') :
    (a'.unit? kind owner).isSome = (a.unit? kind owner).isSome := by
  refine Reachability.invariant (P := fun b : Agent V =>
    (b.unit? kind owner).isSome = (a.unit? kind owner).isSome) ?_ h rfl
  rintro b _ ⟨k, o, f, hf⟩ hb
  rw [unit?_onUnit, ← hb]
  split
  · rw [Option.isSome_map]
  · rfl

variable (quantity) in
/-- Where there is no unit there are no calls. -/
theorem calls_of_unit?_eq_none (h : ReflTransGen (UnitMove env) a a')
    (hnone : a.unit? kind owner = none) :
    (sendState kind owner quantity a').2 = (sendState kind owner quantity a).2 := by
  refine (Reachability.invariant (P := fun b : Agent V => b.unit? kind owner = none ∧
    (sendState kind owner quantity b).2 = (sendState kind owner quantity a).2) ?_ h
      ⟨hnone, rfl⟩).2
  rintro b _ ⟨k, o, f, hf⟩ ⟨hb, hcalls⟩
  have hnone' : (b.onUnit k o f).unit? kind owner = none := by
    have hsome := isSome_unit?_of_unitMoves kind owner
      (ReflTransGen.single (.onUnit b k o f hf))
    rwa [hb, Option.isSome_none, Option.isSome_eq_false_iff, Option.isNone_iff_eq_none] at hsome
  refine ⟨hnone', Eq.trans ?_ hcalls⟩
  rw [sendState, sendState]
  rcases UnitInvariant.history_onUnit_cases hf b with
    hsame | ⟨call, u, hu, hkind, howner, hcall⟩
  · rw [hsame]
  · -- the call is one of an existing unit, which is another one
    rw [hcall, calls_sendMeasurement, callsFor_cons_of_not_isOf]
    rintro ⟨hkind', howner', -⟩
    rw [← hkind', ← howner', hkind, howner, hu] at hb
    cases hb

variable (env) in
theorem onPoll_moves (a : Agent V) : ReflTransGen (Move env) (a.passes env) (a.onPoll env) :=
  (reconfigure_moves env _).tail (setPollInterval_move env _)

variable (env) in
/-- After the passes a poll makes no more calls. -/
theorem calls_onPoll (a : Agent V) :
    calls (a.onPoll env).world.history = calls (a.passes env).world.history := by
  rcases onPoll_cases env a with ⟨-, -, hpoll⟩ | ⟨-, hpoll⟩
  · rw [hpoll]
    rfl
  · rw [hpoll]
    rfl

/-- Whether something is due after a poll has been settled by the passes: a reload makes units in
which nothing is due. -/
theorem due_passes_of_due_onPoll {now : Int64} (h : (a.onPoll env).Due kind owner quantity now) :
    (a.passes env).Due kind owner quantity now := by
  obtain ⟨hquantity, u, hu, hdue⟩ := h
  rcases onPoll_cases env a with ⟨-, -, hpoll⟩ | ⟨-, hpoll⟩
  · rw [hpoll] at hu
    rw [(fresh_of_configure (a := a.checked env) hu).advertise_eq_false] at hdue
    cases hdue
  · rw [hpoll] at hu
    exact ⟨hquantity, u, hu, hdue⟩

/-- What a stretch with one call leaves, for a unit that is there at the call and at one reading of
the clock: the calls for the total are the earlier ones and this one, and the total is due exactly
when the call has failed. -/
theorem OneCall.exists_call {b : Agent V} {u : TPUnit V} {now : Int64}
    (h : OneCall env kind owner quantity a b a') (hquantity : quantity ∈ kind.quantities)
    (hu : b.unit? kind owner = some u) (hnamed : WellNamed kind owner u) (howner : owner ≠ "")
    (hclock : ∀ i, a.world.pos ≤ i → i < a'.world.pos → env.time i = now) :
    ∃ call : Call V,
      (sendState kind owner quantity a').2 = call :: (sendState kind owner quantity a).2 ∧
      (a'.Due kind owner quantity now ↔ call.Fails) := by
  have hpos := pos_le_of_moves (moves_of_unitMoves h.before)
  have hpos' := pos_le_of_moves (moves_of_unitMoves h.after)
  rw [world_onUnit_of_some hu, pos_sendMeasurement] at hpos'
  obtain ⟨call, hw, hof, hiff⟩ := advertise_sendMeasurement_iff env hquantity hnamed howner
    (fun i hi hi' => hclock i (hpos.trans hi) (hi'.trans_le hpos'))
  -- what the call leaves is what the stretch leaves
  have hstate := h.sendState_eq
  rw [sendState, sendState, unit?_onUnit, if_pos ⟨rfl, rfl⟩, hu, Option.map_some, Option.map_some,
    world_onUnit_of_some hu, hw, history_record, calls_sendMeasurement,
    callsFor_cons_of_isOf hof, Prod.mk.injEq] at hstate
  obtain ⟨hdue, hcalls⟩ := hstate
  obtain ⟨u', hu', hadvertise⟩ := Option.map_eq_some_iff.mp hdue
  refine ⟨call, hcalls.trans (congrArg (call :: ·) h.calls_eq), ?_⟩
  rw [← hiff, ← congrFun hadvertise now, Due, hu']
  simp [hquantity]

end Agent

/-! ### After the passes -/

/-- A quantity that a kind of unit does not have is in no call for a unit of this kind. -/
theorem callsFor_eq_nil_of_notMem {a : Agent V}
    (hnamed : UnitInvariant.Traced env (fun kind owner u _ => WellNamed kind owner u) a)
    {kind : Kind} {owner quantity : String} (hquantity : quantity ∉ kind.quantities) :
    callsFor kind owner quantity (calls a.world.history) = [] := by
  refine List.eq_nil_iff_forall_not_mem.mpr fun call hmem => ?_
  obtain ⟨hcall, hkind, -, hq⟩ := mem_callsFor.mp hmem
  obtain ⟨newer, older, hhistory⟩ := List.append_of_mem (mem_calls.mp hcall)
  obtain ⟨w, -, hmem, -⟩ := hnamed.calls newer call older hhistory
  rw [hkind, hq] at hmem
  exact hquantity hmem

/-- The calls of a poll for a quantity of a unit: at most one, and the total is due after the passes
exactly when there is one and it fails. -/
theorem exists_filter_calls_passes (env : Env V) (steps : List (Step V))
    (hnames : ∀ place kind, "" ∉ (env.topology place).lists kind) {now : Int64}
    (hclock : ∀ i, (run env steps).world.pos ≤ i →
      i < ((run env steps).passes env).world.pos → env.time i = now) {new : List (Call V)}
    (hnew : calls ((run env steps).passes env).world.history =
      new ++ calls (run env steps).world.history) (kind : Kind) (owner quantity : String) :
    ∃ call? : Option (Call V),
      callsFor kind owner quantity new = call?.toList ∧
      (((run env steps).passes env).Due kind owner quantity now ↔ ∃ call ∈ call?, call.Fails) := by
  have hnamed : UnitInvariant.Traced env (fun kind owner u _ => WellNamed kind owner u)
      (run env steps) := wellNamed_invariant.traced steps
  have howners := ownersIn_run (Q := fun _ owner => owner ≠ "")
    (fun place kind owner hmem hempty => hnames place kind (hempty ▸ hmem)) steps
  generalize run env steps = a at *
  have hmoves := Agent.passes_unitMoves env a
  have hfilter := congrArg (callsFor kind owner quantity) hnew
  rw [callsFor_append] at hfilter
  by_cases hquantity : quantity ∈ kind.quantities
  · cases hu : a.unit? kind owner with
    | none =>
      refine ⟨none, ?_, iff_of_false ?_ (by simp)⟩
      · have hcalls := Agent.calls_of_unit?_eq_none quantity hmoves hu
        exact List.append_left_eq_self.mp (hfilter.symm.trans hcalls)
      · rintro ⟨-, v, hv, -⟩
        have hsome := Agent.isSome_unit?_of_unitMoves kind owner hmoves
        rw [hv, hu] at hsome
        cases hsome
    | some u =>
      have hmem : owner ∈ (a.conf.group kind).units :=
        TreeMap.mem_iff_isSome_getElem?.mpr (Option.isSome_of_eq_some hu)
      obtain ⟨b, hb⟩ := Agent.exists_call_passes env a hquantity hmem
      -- the unit at its call, which is made within the passes
      have hsome := Agent.isSome_unit?_of_unitMoves kind owner hb.before
      rw [hu, Option.isSome_some] at hsome
      obtain ⟨v, hv⟩ := Option.isSome_iff_exists.mp hsome
      have hbnamed := Reachability.invariant
        (fun _ _ hm ha => wellNamed_invariant.traced_move hm ha) (moves_of_unitMoves hb.before)
        hnamed
      obtain ⟨call, hcalls, hiff⟩ := hb.exists_call hquantity hv (hbnamed.units kind owner v hv)
        (howners.units kind owner u hu) hclock
      refine ⟨some call, ?_, by simpa using hiff⟩
      exact List.append_cancel_right
        ((hfilter.symm.trans hcalls).trans (List.singleton_append ..).symm)
  · -- a quantity that is not of the kind is in no call
    refine ⟨none, ?_, iff_of_false (fun hdue => hquantity hdue.1) (by simp)⟩
    have hpnamed := Reachability.invariant
      (fun _ _ hm ha => wellNamed_invariant.traced_move hm ha) (moves_of_unitMoves hmoves) hnamed
    rw [callsFor_eq_nil_of_notMem hpnamed hquantity] at hfilter
    exact (List.append_eq_nil_iff.mp hfilter.symm).1

/-- **A poll leaves nothing due but what failed to be sent.** For every state of every run with
non-empty names of containers, and a clock that stands still during the poll: after the two passes
the totals that are still to be sent are those for which the poll has called the sending function
and it returned `false` or threw; the function is called at most once for each; and no total is due
after the reload that was not due before it. -/
theorem due_passes_iff_fails (env : Env V) (steps : List (Step V))
    (hnames : ∀ place kind, "" ∉ (env.topology place).lists kind) (now : Int64)
    (hclock : ∀ i, (run env steps).world.pos ≤ i →
      i < ((run env steps).onPoll env).world.pos → env.time i = now) :
    let a := run env steps
    ∃ new : List (Call V),
      calls (a.onPoll env).world.history = new ++ calls a.world.history ∧
      (∀ kind owner quantity, (a.passes env).Due kind owner quantity now ↔
        ∃ call ∈ new, call.IsOf kind owner quantity ∧ call.Fails) ∧
      (∀ kind owner quantity, new.countP (fun call =>
        decide (call.IsOf kind owner quantity) && call.sent.isSome) ≤ 1) ∧
      ∀ kind owner quantity, (a.onPoll env).Due kind owner quantity now →
        (a.passes env).Due kind owner quantity now := by
  intro a
  obtain ⟨new, hnew⟩ := Agent.exists_calls_of_unitMoves (Agent.passes_unitMoves env a)
  have hpos := Agent.pos_le_of_moves (Agent.onPoll_moves env a)
  have hcalls := exists_filter_calls_passes env steps hnames
    (fun i hi hi' => hclock i hi (hi'.trans_le hpos)) hnew
  refine ⟨new, (Agent.calls_onPoll env a).trans hnew, fun kind owner quantity => ?_,
    fun kind owner quantity => ?_, fun kind owner quantity => Agent.due_passes_of_due_onPoll⟩
  · obtain ⟨call?, hfor, hdue⟩ := hcalls kind owner quantity
    have hmem : ∀ call, call ∈ call? ↔ call ∈ new ∧ call.IsOf kind owner quantity := by
      intro call
      rw [← mem_callsFor, hfor, Option.mem_toList, Option.mem_def]
    refine hdue.trans ?_
    simp only [hmem, and_assoc]
  · obtain ⟨call?, hfor, -⟩ := hcalls kind owner quantity
    calc new.countP (fun call => decide (call.IsOf kind owner quantity) && call.sent.isSome)
        ≤ new.countP (fun call => decide (call.IsOf kind owner quantity)) :=
          List.countP_mono_left fun call _ h => (Bool.and_eq_true_iff.mp h).1
      _ = (callsFor kind owner quantity new).length := List.countP_eq_length_filter
      _ ≤ 1 := by
        rw [hfor]
        cases call? <;> simp

theorem due_passes_iff_fails_oneRack :
    let a := run oneRackEnv (oneRackSteps.take 2)
    ∃ new : List (Call Exact),
      calls (a.onPoll oneRackEnv).world.history = new ++ calls a.world.history ∧
      (∀ kind owner quantity, (a.passes oneRackEnv).Due kind owner quantity 1301 ↔
        ∃ call ∈ new, call.IsOf kind owner quantity ∧ call.Fails) ∧
      (∀ kind owner quantity, new.countP (fun call =>
        decide (call.IsOf kind owner quantity) && call.sent.isSome) ≤ 1) ∧
      ∀ kind owner quantity, (a.onPoll oneRackEnv).Due kind owner quantity 1301 →
        (a.passes oneRackEnv).Due kind owner quantity 1301 := by
  have hnames : ∀ kind, "" ∉ oneRack.lists kind := by
    intro kind
    cases kind <;> decide +kernel
  refine due_passes_iff_fails oneRackEnv (oneRackSteps.take 2) (fun _ kind => hnames kind) 1301
    fun i hi _ => ?_
  have hpos : (run oneRackEnv (oneRackSteps.take 2)).world.pos = 5 := by decide +kernel
  rw [hpos] at hi
  exact if_neg (by omega)

end MetricTPower
