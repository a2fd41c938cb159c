import Herald.Proofs.CallGrammar

/-!
# Service calls and direct calls

A message is sent by a service call if its fields and a target are given as one object. For one target that is the dispatch of the
message (`Hub.run_callService_one`), and for several that would each be accepted it is one dispatch after the other
(`Hub.run_callService_many`): the call does everything that the dispatches do, and leaves the hub they leave.
-/

namespace Herald

/-- The object of a message with a target set in it. -/
def Message.asCall (m : Message) (target : Value) : Value :=
  .object (Keyed.insert "target" target (Keyed.ofList m.fields))

namespace Hub.Operation

/-- Sends a message to targets one after the other. `now` tells the time when the target of each position is stamped. -/
def dispatchAll (m : Message) (now : Nat → Instant) : Nat → List String → Operation (List Nat)
  | _, [] => pure []
  | position, identity :: rest => do
    let ticket ← dispatch (now position) identity m
    let tickets ← dispatchAll m now (position + 1) rest
    return ticket :: tickets

end Hub.Operation

/-! ## Reading the object of a message -/

/-- The fields of a message in key order. -/
theorem Message.fields_ordered (m : Message) :
    Keyed.ofList m.fields =
      (m.data.map fun d => ("data", Value.object d)).toList ++ ((m.message.map fun s => ("message", Value.text s)).toList ++
        ((m.recipients.map fun r => ("recipients", Value.ofTexts r)).toList ++
          (m.title.map fun s => ("title", Value.text s)).toList)) := by
  obtain ⟨message, title, recipients, data⟩ := m
  cases message <;> cases title <;> cases recipients <;> cases data <;>
    simp only [fields, Keyed.ofList, Keyed.insert, Option.map_none, Option.map_some, Option.toList_none, Option.toList_some,
      List.append_nil, List.nil_append, List.cons_append, List.foldl_nil, List.foldl_cons, String.reduceLT, String.reduceEq, ↓reduceIte]

/-- The fields of a message with a target among them, in key order. -/
theorem Message.fields_asCall (m : Message) (target : Value) :
    Keyed.insert "target" target (Keyed.ofList m.fields) =
      (m.data.map fun d => ("data", Value.object d)).toList ++ ((m.message.map fun s => ("message", Value.text s)).toList ++
        ((m.recipients.map fun r => ("recipients", Value.ofTexts r)).toList ++
          (("target", target) :: (m.title.map fun s => ("title", Value.text s)).toList))) := by
  rw [m.fields_ordered]
  obtain ⟨message, title, recipients, data⟩ := m
  cases message <;> cases title <;> cases recipients <;> cases data <;>
    simp only [Keyed.insert, Option.map_none, Option.map_some, Option.toList_none, Option.toList_some, List.append_nil, List.nil_append,
      List.cons_append, String.reduceLT, String.reduceEq, ↓reduceIte]

namespace Call

/-- The target of a call is set to what it names. -/
theorem readField_target {target : Value} {given : List String} (hnames : Names target given) (d : Draft) :
    reader.readField d ("target", target) = .ok { d with targets := some given } := by
  have hspelled : target.spelled = target := by
    cases hnames <;> rfl
  rw [RecordReader.readField_of_known (by decide), hspelled, reader]
  simp only [oneOrMany_eq_ok_iff.mpr hnames]
  rfl

/-- The recipients of a call are set to the texts that are listed. -/
theorem readField_recipients (d : Draft) (texts : List String) :
    reader.readField d ("recipients", .ofTexts texts) = .ok { d with message := { d.message with recipients := some texts } } := by
  have hread : (Value.ofTexts texts).asOption oneOrMany = .ok (some texts) :=
    (asOption_eq_ok_iff (P := Names) (fun _ _ => oneOrMany_eq_ok_iff) (fun _ h => nomatch h)).mpr (.value (.many texts))
  have hspelled : (Value.ofTexts texts).spelled = .ofTexts texts := rfl
  rw [RecordReader.readField_of_known (by decide), hspelled, reader]
  simp only [hread]
  rfl

/-- The object of a message with a target is read as that message and what the target names. -/
theorem readFields_asCall (m : Message) {target : Value} {given : List String} (hnames : Names target given) :
    readFields (m.asCall target) = .ok (given, m) := by
  have hdata := Reading.foldlM_optional reader.readField "data" .object (fun o => ⟨none, { data := o }⟩) m.data (fun _ => rfl)
  have hmessage := Reading.foldlM_optional reader.readField "message" .text
    (fun o => ⟨none, { data := m.data, message := o }⟩) m.message (fun _ => rfl)
  have hrecipients := Reading.foldlM_optional reader.readField "recipients" .ofTexts
    (fun o => ⟨none, { data := m.data, message := m.message, recipients := o }⟩) m.recipients (readField_recipients _)
  have htarget := readField_target hnames ⟨none, { m with title := none }⟩
  have htitle := Reading.foldlM_optional reader.readField "title" .text
    (fun o => ⟨some given, { m with title := o }⟩) m.title (fun _ => rfl)
  have hread : reader.read .document {} (m.asCall target) = .ok ⟨some given, m⟩ := by
    rw [Message.asCall, m.fields_asCall, RecordReader.read, Reading.foldlM_append_of_ok hdata,
      Reading.foldlM_append_of_ok hmessage, Reading.foldlM_append_of_ok hrecipients, List.foldlM_cons, htarget]
    exact htitle
  rw [readFields, hread]
  rfl

/-- The object of a message with a target is the call that sends it to the texts that the target names. -/
theorem ofValue_asCall (m : Message) {target : Value} {given : List String} (hnames : Names target given) (hnamed : given ≠ [])
    (hvisible : ∀ t ∈ given, Text.trim t ≠ "") : ofValue (m.asCall target) = .ok ⟨given.eraseDups, m⟩ :=
  ofValue_of_readFields (readFields_asCall m hnames) hnamed hvisible

end Call

namespace Hub

/-! ## One target -/

/-- A dispatch is accepted if its target passes the check, and activates it then. -/
theorem run_dispatch (h : Hub) (now : Instant) (identity : String) (m : Message) :
    (Operation.dispatch now identity m).run h =
      match h.check m identity with
      | .ok registration => (.ok (h.activate now registration m).1, (h.activate now registration m).2)
      | .error e => (.error e, h) := by
  cases hc : h.check m identity with
  | ok registration => exact Operation.run_bind_ok _ (hc ▸ Operation.run_check m identity h)
  | error e => exact Operation.run_bind_error _ (hc ▸ Operation.run_check m identity h)

/-- What passes the check is what the identity resolves to. -/
theorem resolve_of_check {h : Hub} {m : Message} {identity : String} {e : Registration} (hc : h.check m identity = .ok e) :
    h.registry.resolve identity = some e := by
  rw [check] at hc
  split at hc
  · cases hc
  · next registration hr =>
    dsimp only at hc
    split at hc
    · cases hc
    · exact Except.ok.inj hc ▸ hr

/-- A dispatch that is accepted leaves its message waiting for what the identity resolves to. -/
theorem submitted_of_run_dispatch {h h' : Hub} {now : Instant} {identity : String} {m : Message} {ticket : Nat}
    (hrun : (Operation.dispatch now identity m).run h = (.ok ticket, h')) :
    ∃ e, h.registry.resolve identity = some e ∧ h'.pool.submissions[ticket]? = some { send := ⟨e, m⟩ } := by
  rw [run_dispatch] at hrun
  cases hc : h.check m identity with
  | error e =>
    rw [hc] at hrun
    cases (Prod.mk.inj hrun).1
  | ok e =>
    rw [hc] at hrun
    obtain ⟨hticket, rfl⟩ := Prod.mk.inj hrun
    obtain rfl := Except.ok.inj hticket
    exact ⟨e, resolve_of_check hc, List.getElem?_concat_length⟩

/-- A call that is read activates its targets if they all pass the check. -/
theorem run_callService {data : Value} {call : Call} (hc : Call.ofValue data = .ok call) (h : Hub) (now : Nat → Instant) :
    (Operation.callService now data).run h =
      match call.targets.mapM (h.check call.message) with
      | .ok es => (.ok (activateAll call.message now 0 es h).1, (activateAll call.message now 0 es h).2)
      | .error e => (.error e, h) := by
  rw [Operation.callService, Operation.run_bind_ok _ (Operation.run_read hc h)]
  have hrun := Operation.run_mapM_check call.message call.targets h
  cases hm : call.targets.mapM (h.check call.message) with
  | ok es => exact Operation.run_bind_ok _ (hm ▸ hrun)
  | error e => exact Operation.run_bind_error _ (hm ▸ hrun)

/-- A service call with one target does what the dispatch to that target does. -/
theorem run_callService_one (h : Hub) (now : Nat → Instant) (m : Message) {identity : String} (hvisible : Text.trim identity ≠ "") :
    (Operation.callService now (m.asCall (.text identity))).run h =
      ((Operation.dispatch (now 0) identity m).run h).map (Except.map fun ticket => [ticket]) id := by
  have hcall : Call.ofValue (m.asCall (.text identity)) = .ok ⟨[identity], m⟩ :=
    Call.ofValue_asCall m (.one identity) (List.cons_ne_nil _ _) fun t ht => List.mem_singleton.mp ht ▸ hvisible
  rw [run_callService hcall, run_dispatch, List.mapM_cons, List.mapM_nil]
  cases h.check m identity with
  | ok registration => rfl
  | error e => rfl

/-! ## Several targets -/

/-- Activating a registration changes neither what identities resolve to nor what is enforced, so it changes no check. -/
theorem check_activate (h : Hub) (now : Instant) (registration : Registration) (m m' : Message) (identity : String) :
    (h.activate now registration m).2.check m' identity = h.check m' identity :=
  rfl

/-- If several targets pass the check, the first does and the others do. -/
theorem exists_of_check_cons {h : Hub} {m : Message} {identity : String} {rest : List String} {es : List Registration}
    (hchecked : (identity :: rest).mapM (h.check m) = .ok es) :
    ∃ e es', h.check m identity = .ok e ∧ rest.mapM (h.check m) = .ok es' ∧ es = e :: es' := by
  rw [List.mapM_cons] at hchecked
  cases hc : h.check m identity with
  | error e =>
    rw [hc] at hchecked
    cases hchecked
  | ok e =>
    cases hm : rest.mapM (h.check m) with
    | error f =>
      rw [hc, hm] at hchecked
      cases hchecked
    | ok es' =>
      rw [hc, hm] at hchecked
      exact ⟨e, es', rfl, rfl, (Except.ok.inj hchecked).symm⟩

/-- Targets that all pass the check are activated one after the other by dispatching to them. -/
theorem run_dispatchAll {m : Message} {h : Hub} {ids : List String} {es : List Registration}
    (hchecked : ids.mapM (h.check m) = .ok es) (now : Nat → Instant) (position : Nat) :
    (Operation.dispatchAll m now position ids).run h =
      (.ok (activateAll m now position es h).1, (activateAll m now position es h).2) := by
  induction ids generalizing h es position with
  | nil =>
    obtain rfl := Except.ok.inj hchecked
    rfl
  | cons identity rest ih =>
    obtain ⟨registration, registrations, hc, hm, rfl⟩ := exists_of_check_cons hchecked
    have hdispatch := run_dispatch h (now position) identity m
    rw [hc] at hdispatch
    -- the checks of the others are made after the first is activated, and give the same
    have hrest : rest.mapM ((h.activate (now position) registration m).2.check m) = .ok registrations := by
      rwa [funext (check_activate h (now position) registration m m)]
    rw [Operation.dispatchAll, Operation.run_bind_ok _ hdispatch, Operation.run_bind_ok _ (ih hrest (position + 1))]
    rfl

/-- A list without repetitions keeps all its texts. -/
theorem eraseDups_of_nodup {texts : List String} (hnodup : texts.Nodup) : texts.eraseDups = texts := by
  induction texts with
  | nil => rfl
  | cons t rest ih =>
    obtain ⟨hnew, hrest⟩ := List.nodup_cons.mp hnodup
    have hkept : rest.filter (fun s => !s == t) = rest := by
      rw [List.filter_eq_self]
      intro s hs
      simp only [Bool.not_eq_true', beq_eq_false_iff_ne]
      rintro rfl
      exact hnew hs
    rw [List.eraseDups_cons, hkept, ih hrest]

/-- Targets that a dispatch accepts pass the check. -/
theorem exists_check_of_accepted {h : Hub} {m : Message} {ids : List String}
    (haccepted : ∀ identity ∈ ids, ∃ now r, h.dispatch now identity m = .ok r) : ∃ es, ids.mapM (h.check m) = .ok es := by
  induction ids with
  | nil => exact ⟨[], rfl⟩
  | cons identity rest ih =>
    obtain ⟨es, hes⟩ := ih fun other hother => haccepted other (List.mem_cons_of_mem _ hother)
    obtain ⟨now, r, hr⟩ := haccepted identity List.mem_cons_self
    rw [dispatch, Operation.on, run_dispatch] at hr
    cases hc : h.check m identity with
    | error e =>
      rw [hc] at hr
      cases hr
    | ok registration =>
      refine ⟨registration :: es, ?_⟩
      rw [List.mapM_cons, hc, hes]
      rfl

/-- A service call with several targets, each of which would be accepted, does what the dispatches to them do one after the other. -/
theorem run_callService_many {h : Hub} {m : Message} {ids : List String} (hnamed : ids ≠ []) (hnodup : ids.Nodup)
    (hvisible : ∀ identity ∈ ids, Text.trim identity ≠ "") (haccepted : ∀ identity ∈ ids, ∃ now r, h.dispatch now identity m = .ok r)
    (now : Nat → Instant) :
    ∃ tickets h', (Operation.callService now (m.asCall (.ofTexts ids))).run h = (.ok tickets, h') ∧
      (Operation.dispatchAll m now 0 ids).run h = (.ok tickets, h') := by
  obtain ⟨es, hes⟩ := exists_check_of_accepted haccepted
  have hcall : Call.ofValue (m.asCall (.ofTexts ids)) = .ok ⟨ids, m⟩ := by
    rw [Call.ofValue_asCall m (.many ids) hnamed hvisible, eraseDups_of_nodup hnodup]
  refine ⟨_, _, ?_, run_dispatchAll hes now 0⟩
  rw [run_callService hcall, hes]

/-- Sending a message to a visible identity by a service call is the dispatch of the message: both are rejected for the same reason, or
both give one ticket, under which the message waits for what the identity resolves to, and leave the same hub. Sending it to several
distinct visible identities that a dispatch would each accept is dispatching it to one after the other in their order, with the same
readings of the clock. -/
theorem service_calls_are_dispatches (h : Hub) (now : Nat → Instant) (m : Message) :
    (∀ identity, Text.trim identity ≠ "" →
      (Operation.callService now (m.asCall (.text identity))).run h =
          ((Operation.dispatch (now 0) identity m).run h).map (Except.map fun ticket => [ticket]) id ∧
        ∀ ticket h', (Operation.dispatch (now 0) identity m).run h = (.ok ticket, h') →
          ∃ e, h.registry.resolve identity = some e ∧ h'.pool.submissions[ticket]? = some { send := ⟨e, m⟩ }) ∧
    (∀ ids : List String, ids ≠ [] → ids.Nodup → (∀ identity ∈ ids, Text.trim identity ≠ "") →
      (∀ identity ∈ ids, ∃ now r, h.dispatch now identity m = .ok r) →
      ∃ tickets h', (Operation.callService now (m.asCall (.ofTexts ids))).run h = (.ok tickets, h') ∧
        (Operation.dispatchAll m now 0 ids).run h = (.ok tickets, h')) := by
  constructor
  · intro identity hvisible
    exact ⟨run_callService_one h now m hvisible, fun _ _ => submitted_of_run_dispatch⟩
  · intro ids hnamed hnodup hvisible haccepted
    exact run_callService_many hnamed hnodup hvisible haccepted now

/-- Two targets are called in the order in which they are named, each at the time at which it would be dispatched to. -/
theorem two_targets_are_called_in_order :
    ∃ (h : Hub) (tickets : List Nat) (h' : Hub) (now : Nat → Instant), h.registry.size = 2 ∧ now 0 ≠ now 1 ∧
      (Operation.callService now (Message.asCall { message := some "m", recipients := some [] } (.ofTexts ["b", "a"]))).run h =
        (.ok tickets, h') ∧
      (Operation.dispatchAll { message := some "m", recipients := some [] } now 0 ["b", "a"]).run h = (.ok tickets, h') := by
  let opened : Hub := { bus := ⟨1, []⟩, pool := .ofWorkers 1 }
  let h : Hub := ((opened.register none "a" { channel := .log }).1.register none "b" { channel := .log }).1
  let m : Message := { message := some "m", recipients := some [] }
  let now (i : Nat) : Instant := if i = 0 then { seconds := 5, nanos := 0 } else .epoch
  have haccepted : ∀ identity ∈ ["b", "a"], ∃ now r, h.dispatch now identity m = .ok r := by
    intro identity hidentity
    rcases List.mem_pair.mp hidentity with rfl | rfl
    · exact ⟨.epoch, _, rfl⟩
    · exact ⟨.epoch, _, rfl⟩
  obtain ⟨tickets, h', hcall, hdispatch⟩ :=
    (service_calls_are_dispatches h now m).2 ["b", "a"] (by decide) (by decide) (by decide) haccepted
  exact ⟨h, tickets, h', now, rfl, by decide, hcall, hdispatch⟩

end Hub

end Herald
