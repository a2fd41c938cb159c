import Herald.Proofs.Exchange

/-!
# Activations and their outcomes

In what was published by any moment there are no more ends of sends to an identity than activations of it: an outcome never comes before
its activation. When everything that was handed over has ended, the two are the same but for the activations that are still to be handed
over, and when every caller is done there is one of each for every dispatch that was accepted
(`Exchange.outcomes_follow_activations`). The hub does nothing else: each of its operations is a run of such steps.
-/

namespace Herald

open Relation (ReflTransGen)
open Counting (of_drop_eq_cons)

namespace Exchange

variable {n : Nat} {b : Bus} {x x' : Exchange}

/-- Whether a caller has published an activation of an identity and not yet handed the send over. -/
def Caller.underway (c : Caller) (identity : String) : Bool :=
  match c.stage with
  | .announced => (c.found[c.handed]?).any fun e => e.identity == identity
  | _ => false

/-- How many sends to an identity are still to be handed over though their activations were published. -/
def underway (x : Exchange) (identity : String) : Nat :=
  x.callers.countP fun c => c.underway identity

/-! ## What sound exchanges have in common -/

/-- The activations that were published are those of the callers. -/
theorem Sound.activations_eq (h : x.Sound n b) (identity : String) :
    activations identity x.events = sharedBy identity (x.callers.flatMap Caller.published) := by
  rw [activations, h.told, List.countP_map, ← h.published, sharedBy, List.countP_map]
  rfl

/-- What a list counts for does not decrease when each item stands for more. -/
theorem countP_flatMap_le {α β : Type} {l : List α} {f g : α → List β} (h : ∀ a ∈ l, (f a).Sublist (g a)) (p : β → Bool) :
    (l.flatMap f).countP p ≤ (l.flatMap g).countP p := by
  induction l with
  | nil => exact Nat.le_refl _
  | cons a rest ih =>
    obtain ⟨ha, hrest⟩ := List.forall_mem_cons.mp h
    rw [List.flatMap_cons, List.flatMap_cons, List.countP_append, List.countP_append]
    exact Nat.add_le_add (ha.countP_le) (ih hrest)

/-- What a caller has handed over it has published before. -/
theorem Caller.given_sublist (c : Caller) : c.given.Sublist c.published := by
  rw [published]
  split
  · exact (List.take_prefix_take_left (Nat.le_succ _)).sublist
  · exact List.Sublist.refl _

/-- No more sends were handed over than activations were published. -/
theorem Sound.submissions_le (h : x.Sound n b) (identity : String) : x.submissions identity ≤ activations identity x.events := by
  rw [h.given, h.activations_eq]
  exact countP_flatMap_le (fun c _ => c.given_sublist) _

/-- No more sends have ended than were handed over. -/
theorem ended_le (x : Exchange) (identity : String) : x.ended identity ≤ x.submissions identity :=
  List.countP_mono_left fun _ _ hj => (Bool.and_eq_true_iff.mp hj).1

/-- No more ends of sends were told of than activations were. -/
theorem Sound.outcomes_le (h : x.Sound n b) (identity : String) :
    Exchange.outcomes identity x.events ≤ activations identity x.events := by
  rw [h.outcomes]
  exact Nat.le_trans (x.ended_le identity) (h.submissions_le identity)

/-- When every send has ended, the ends of all were told of. -/
theorem ended_eq (hall : ∀ j ∈ x.workshop.jobs, ∃ o, j.stage = .finished o) (identity : String) :
    x.ended identity = x.submissions identity := by
  refine List.countP_congr fun j hj => ?_
  obtain ⟨o, ho⟩ := hall j hj
  simp [Job.heard?, ho]

/-- A caller who is done has handed over what was accepted. -/
theorem Caller.Fair.given_eq {r : Registry} {c : Caller} (h : c.Fair r) (hdone : c.IsDone) :
    c.given.map (·.identity) = c.accepted := by
  rcases hdone with ⟨e, he⟩ | ⟨hs, hall⟩
  · have hzero : c.handed = 0 := h.waiting (by rw [he]; rfl)
    rw [Caller.given, Caller.accepted, hzero, he]
    rfl
  · have hlength : (c.found.map (·.identity)).length = c.targets.length := by
      rw [List.length_map]
      exact h.accepted (by rw [hs]; rfl)
    rw [Caller.given, Caller.accepted, hs, hall, List.take_length]
    exact h.named.eq_of_length hlength

/-- When every caller is done, as many sends were handed over as dispatches were accepted. -/
theorem Sound.accepted_eq (h : x.Sound n b) (hdone : ∀ c ∈ x.callers, c.IsDone) (identity : String) :
    x.submissions identity = x.accepted identity := by
  have hgiven : x.callers.flatMap Caller.accepted = (x.callers.flatMap Caller.given).map (·.identity) := by
    rw [List.map_flatMap]
    exact List.flatMap_congr fun c hc => ((h.fair c hc).given_eq (hdone c hc)).symm
  rw [h.given, accepted, hgiven, List.count, List.countP_map]
  rfl

/-- A caller has published one activation more than it has handed over while it stands in between. -/
theorem Caller.sharedBy_published (c : Caller) (identity : String) :
    sharedBy identity c.published = sharedBy identity c.given + (c.underway identity).toNat := by
  rw [published, underway]
  cases c.stage with
  | announced =>
    dsimp only
    rw [given, List.take_add_one]
    cases c.found[c.handed]? with
    | none => simp [sharedBy]
    | some e => cases he : e.identity == identity <;> simp [sharedBy, he]
  | _ => rfl

/-- The activations that were published are those that were handed over and those that are still to be. -/
theorem Sound.activations_eq_add (h : x.Sound n b) (identity : String) :
    activations identity x.events = x.submissions identity + x.underway identity := by
  rw [h.activations_eq, h.given, underway]
  induction x.callers with
  | nil => rfl
  | cons c rest ih =>
    have hone := c.sharedBy_published identity
    simp only [sharedBy, List.flatMap_cons, List.countP_append, List.countP_cons] at ih hone ⊢
    cases hc : c.underway identity <;>
      simp only [hc, Bool.toNat_true, Bool.toNat_false, if_true, Bool.false_eq_true, if_false] at hone ⊢ <;> omega

/-- A caller who is done has nothing under way. -/
theorem Caller.underway_of_done {c : Caller} (h : c.IsDone) (identity : String) : c.underway identity = false := by
  rcases h with ⟨e, he⟩ | ⟨hs, -⟩
  · rw [underway, he]
  · rw [underway, hs]

/-- A step takes back no activation that was published. -/
theorem Step.activated (h : x.Step x') : x.activated <+: x'.activated := by
  cases h with
  | announce hc hs he => exact List.prefix_append _ _
  | _ => exact List.prefix_refl _

/-- A run takes back no activation that was published. -/
theorem activated_of_runs (hruns : ReflTransGen Step x x') : x.activated <+: x'.activated := by
  induction hruns with
  | refl => exact List.prefix_refl _
  | tail _ hstep ih => exact ih.trans hstep.activated

/-- Whatever callers, workers and others do, and in whichever order: of what was published, nothing up to any event tells of more ends of
sends to an identity than of activations. When every send that was handed over has ended, there are as many ends as activations but for
those whose sends are still to be handed over, and when every caller is done there is one of each for every dispatch that was accepted.
And the last activation of the place that an activation was stamped at is from its publication on never before it. -/
theorem outcomes_follow_activations {workers capacity : Nat} {enforce : Bool}
    (hruns : ReflTransGen Step (opened workers capacity enforce) x) :
    (∀ events, events <+: x.events → ∀ identity, outcomes identity events ≤ activations identity events) ∧
    ((∀ j ∈ x.workshop.jobs, ∃ o, j.stage = .finished o) → ∀ identity,
      activations identity x.events = outcomes identity x.events + x.underway identity ∧
        ((∀ c ∈ x.callers, c.IsDone) →
          outcomes identity x.events = activations identity x.events ∧ activations identity x.events = x.accepted identity)) ∧
    (x.events.filterMap Event.activation? = x.activated.map fun a => (a.1.identity, a.2)) ∧
    (∀ e t, (e, t) ∈ x.activated → ∀ y, ReflTransGen Step x y → y.registry.Reaches e.place t) := by
  have hs := (sound_opened workers capacity enforce).runs hruns
  refine ⟨fun events hevents identity => ?_, fun hall identity => ⟨?_, fun hdone => ?_⟩, hs.told, fun e t ht y hy => ?_⟩
  · obtain ⟨y, hy, -, rfl⟩ := exists_of_prefix hruns rfl hevents
    exact ((sound_opened workers capacity enforce).runs hy).outcomes_le identity
  · rw [hs.outcomes, ended_eq hall, hs.activations_eq_add]
  · have hnone : x.underway identity = 0 := by
      rw [underway, List.countP_eq_zero]
      intro c hc
      rw [Caller.underway_of_done (hdone c hc)]
      exact Bool.false_ne_true
    rw [hs.outcomes, ended_eq hall, hs.activations_eq_add, hnone, Nat.add_zero]
    exact ⟨rfl, hs.accepted_eq hdone identity⟩
  · exact (hs.runs hy).reached e t ((activated_of_runs hy).subset ht)

/-- One target is replaced after a caller has found it, and the send goes to the one that was found. -/
theorem replaced_target_is_accounted_for :
    ∃ x, ReflTransGen Step (opened 1 4 false) x ∧ (∀ j ∈ x.workshop.jobs, ∃ o, j.stage = .finished o) ∧ (∀ c ∈ x.callers, c.IsDone) ∧
      x.registry.registrations = 2 ∧ outcomes "a" x.events = 1 ∧ activations "a" x.events = 1 ∧ x.accepted "a" = 1 := by
  let log : Target := { channel := .log }
  let m : Message := { message := some "m" }
  have hruns : ReflTransGen Step (opened 1 4 false) _ :=
    .head (.change (.allocate "a")) <| .head (.change (@Registry.Change.put _ "a" 0 (by decide) log)) <|
    .head (.come (.dispatch "a" m)) <| .head (.find (v := 0) rfl rfl rfl rfl) <| .head (.accept (v := 0) rfl rfl rfl) <|
    .head (.change (@Registry.Change.put _ "a" 0 (by decide) log)) <| .head (.stamp (v := 0) .epoch rfl rfl rfl) <|
    .head (.announce (v := 0) rfl rfl rfl) <| .head (.submit (v := 0) rfl rfl rfl) <|
    .head (.work ⟨.grant (t := 0) rfl rfl, rfl, rfl⟩) <| .head (.work ⟨.call (t := 0) rfl, rfl, rfl⟩) <|
    .head (.work ⟨.ret (t := 0) ⟨1, .sent⟩ rfl, rfl, rfl⟩) <| .head (.work ⟨.tell (t := 0) rfl, rfl, rfl⟩) <|
    .single (.work ⟨.finish (t := 0) rfl rfl, rfl, rfl⟩)
  obtain ⟨-, hend, -, -⟩ := outcomes_follow_activations hruns
  have hall : ∀ j ∈ [Job.mk ⟨⟨"a", 0, 0, log⟩, m⟩ (.finished ⟨1, .sent⟩)], ∃ o, j.stage = .finished o := by
    intro j hj
    rw [List.mem_singleton.mp hj]
    exact ⟨_, rfl⟩
  have hdone : ∀ c ∈ [Caller.mk ["a"] m [⟨"a", 0, 0, log⟩] 1 .activating], c.IsDone := by
    intro c hc
    rw [List.mem_singleton.mp hc]
    exact .inr ⟨rfl, rfl⟩
  obtain ⟨-, haccounts⟩ := hend hall "a"
  obtain ⟨houtcomes, hactivations⟩ := haccounts hdone
  exact ⟨_, hruns, hall, hdone, rfl, houtcomes.trans hactivations, hactivations, rfl⟩

/-! ## The operations of the hub -/

/-- An exchange that stands as a hub does. -/
structure Shows (x : Exchange) (h : Hub) : Prop where
  registry : x.registry = h.registry
  workshop : x.workshop.Shows h
  enforce : x.enforce = h.enforceFeatures

variable {h h' : Hub} {v : Nat} {c : Caller}

/-- A caller finds what the hub does. -/
theorem Shows.check (hx : x.Shows h) (m : Message) (identity : String) : x.hub.check m identity = h.check m identity := by
  unfold Hub.check hub
  rw [hx.registry, hx.enforce]

/-- A caller who goes on is not seen in the hub. -/
theorem Shows.moved (hx : x.Shows h) (v : Nat) (c : Caller) : (x.moved v c).Shows h :=
  ⟨hx.registry, hx.workshop, hx.enforce⟩

theorem getElem?_moved (hc : x.callers[v]? = some c) (c' : Caller) : (x.moved v c').callers[v]? = some c' :=
  List.getElem?_set_self (List.getElem?_eq_some_iff.mp hc).1

theorem moved_moved (x : Exchange) (v : Nat) (c c' : Caller) : (x.moved v c).moved v c' = x.moved v c' := by
  simp [Exchange.moved]

/-- A caller checks its targets one after the other as the hub does, and either finds them all or is rejected. -/
theorem Shows.checkAll (hx : x.Shows h) (rest : List String) (hc : x.callers[v]? = some c) (hs : c.stage = .checking)
    (hle : c.found.length ≤ c.targets.length) (hrest : c.targets.drop c.found.length = rest) :
    match rest.mapM (h.check c.message) with
    | .ok es => ReflTransGen Step x (x.moved v { c with found := c.found ++ es, stage := .activating })
    | .error e => ∃ found, ReflTransGen Step x (x.moved v { c with found, stage := .rejected e }) := by
  induction rest generalizing x c with
  | nil =>
    have hall : c.targets.length = c.found.length := Nat.le_antisymm (List.drop_eq_nil_iff.mp hrest) hle
    have haccept := Step.accept hc hs hall
    rw [← List.append_nil c.found] at haccept
    exact .single haccept
  | cons identity rest ih =>
    obtain ⟨ht, hleft⟩ := of_drop_eq_cons hrest
    have hchecked := hx.check c.message identity
    rw [List.mapM_cons]
    cases he : h.check c.message identity with
    | error e => exact ⟨c.found, .single (.reject hc hs ht (hchecked.trans he))⟩
    | ok e =>
      have hlt : c.found.length < c.targets.length := (List.getElem?_eq_some_iff.mp ht).1
      have hdrop : c.targets.drop (c.found ++ [e]).length = rest := by
        rw [List.length_append, List.length_singleton, hleft]
      have hnext := ih (hx.moved v { c with found := c.found ++ [e] }) (getElem?_moved hc _) hs
        (by rw [List.length_append]; exact hlt) hdrop
      have hfind := Step.find hc hs ht (hchecked.trans he)
      dsimp only at hnext
      cases hm : rest.mapM (h.check c.message) with
      | error f =>
        rw [hm] at hnext
        obtain ⟨found, hruns⟩ := hnext
        rw [moved_moved] at hruns
        exact ⟨found, .head hfind hruns⟩
      | ok es =>
        rw [hm] at hnext
        dsimp only at hnext
        rw [moved_moved, List.append_assoc] at hnext
        exact .head hfind hnext

/-- A caller stamps its next target, publishes the activation and hands the send over as the hub does. -/
theorem Shows.activate (hx : x.Shows h) (hc : x.callers[v]? = some c) (hs : c.stage = .activating) {e : Registration}
    (he : c.found[c.handed]? = some e) (now : Instant) :
    ∃ x', ReflTransGen Step x x' ∧ x'.Shows (h.activate now e c.message).2 ∧
      x'.callers = x.callers.set v { c with handed := c.handed + 1 } := by
  have hstamped y := getElem?_moved hc y
  have hannounced y z := getElem?_moved (hstamped y) z
  refine ⟨_, .head (.stamp now hc hs he) <| .head (.announce (hstamped _) rfl he) <| .single (.submit (hannounced _ _) rfl he),
    ⟨?_, ⟨?_, ?_, ?_⟩, hx.enforce⟩, ?_⟩
  · exact congrArg (fun r => (r.stamp e.place now).2) hx.registry
  · exact congrArg (fun p => (p.submit ⟨e, c.message⟩).2) hx.workshop.pool
  · simp only [workshop_moved, Workshop.submit, Workshop.post, hx.registry, hx.workshop.bus]
    rfl
  · simp [Workshop.submit, Workshop.post, Hub.activate, Hub.publish, Pool.submit, Submission.job, hx.workshop.jobs]
  · simp [hs]

/-- A caller whose targets are accepted sees to one after the other as the hub does, and is done. -/
theorem Shows.activateAll (hx : x.Shows h) {es : List Registration} (hc : x.callers[v]? = some c) (hs : c.stage = .activating)
    (hle : c.handed ≤ c.found.length) (hes : c.found.drop c.handed = es) (now : Nat → Instant) (position : Nat) :
    ∃ x', ReflTransGen Step x x' ∧ x'.Shows (Hub.activateAll c.message now position es h).2 ∧
      x'.callers = x.callers.set v { c with handed := c.found.length } := by
  induction es generalizing x h c position with
  | nil =>
    have hall : c.handed = c.found.length := Nat.le_antisymm hle (List.drop_eq_nil_iff.mp hes)
    have hsame : x.callers.set v { c with handed := c.found.length } = x.callers := by
      rw [← hall]
      obtain ⟨hlt, hget⟩ := List.getElem?_eq_some_iff.mp hc
      rw [← hget]
      exact List.set_getElem_self hlt
    exact ⟨x, .refl, hx, hsame.symm⟩
  | cons e rest ih =>
    obtain ⟨he, hdrop⟩ := of_drop_eq_cons hes
    have hlt : c.handed < c.found.length := (List.getElem?_eq_some_iff.mp he).1
    obtain ⟨y, hxy, hy, hcallers⟩ := hx.activate hc hs he (now position)
    have hcy : y.callers[v]? = some { c with handed := c.handed + 1 } := by
      rw [hcallers]
      exact List.getElem?_set_self (List.getElem?_eq_some_iff.mp hc).1
    obtain ⟨z, hyz, hz, hcallers'⟩ := ih hy hcy hs hlt hdrop (position + 1)
    exact ⟨z, hxy.trans hyz, hz, by rw [hcallers', hcallers, List.set_set]⟩

/-- A caller who has just come with targets and a message. -/
def came (call : Call) : Caller where
  targets := call.targets
  message := call.message
  stage := .checking

/-- A caller with targets and a message is served as the hub serves it: it is rejected and nothing is changed, or it sees to every target,
and then it is done. -/
theorem Shows.serve (hx : x.Shows h) {request : Request} {call : Call} (hread : request.read = .ok call) (now : Nat → Instant) :
    ∃ x' c, ReflTransGen Step x x' ∧ x'.callers = x.callers ++ [c] ∧ c.IsDone ∧
      match call.targets.mapM (h.check call.message) with
      | .ok es => x'.Shows (Hub.activateAll call.message now 0 es h).2 ∧ c.accepted = call.targets
      | .error e => x'.Shows h ∧ c.stage = .rejected e := by
  have hcome := Step.come (x := x) request
  rw [Caller.of, hread] at hcome
  have hc : (x.callers ++ [came call])[x.callers.length]? = some (came call) := List.getElem?_concat_length
  have hshows : Shows { x with callers := x.callers ++ [came call] } h := ⟨hx.registry, hx.workshop, hx.enforce⟩
  have hchecked := hshows.checkAll call.targets hc rfl (Nat.zero_le _) rfl
  have hlast (c : Caller) : (x.callers ++ [came call]).set x.callers.length c = x.callers ++ [c] := by simp
  rw [show (came call).message = call.message from rfl] at hchecked
  cases hm : call.targets.mapM (h.check call.message) with
  | error e =>
    rw [hm] at hchecked
    obtain ⟨found, hruns⟩ := hchecked
    exact ⟨_, _, .head hcome hruns, hlast _, .inl ⟨e, rfl⟩, hshows.moved _ _, rfl⟩
  | ok es =>
    rw [hm] at hchecked
    obtain ⟨y, hxy, hy, hcallers⟩ :=
      (hshows.moved _ _).activateAll (getElem?_moved hc { came call with found := es, stage := .activating }) rfl (Nat.zero_le _) rfl now 0
    rw [callers_moved, List.set_set, hlast] at hcallers
    exact ⟨y, _, .head hcome (.trans hchecked hxy), hcallers, .inr ⟨rfl, rfl⟩, hy, rfl⟩

/-- A caller whose request cannot be read is rejected at once. -/
theorem Shows.refuse (hx : x.Shows h) {request : Request} {e : DispatchError} (hread : request.read = .error e) :
    ∃ x' c, ReflTransGen Step x x' ∧ x'.callers = x.callers ++ [c] ∧ c.stage = .rejected e ∧ x'.Shows h := by
  have hof : Caller.of request = { stage := .rejected e } := by rw [Caller.of, hread]
  exact ⟨_, _, .single (.come request), rfl, by rw [hof], hx.registry, hx.workshop, hx.enforce⟩

/-- A service call is a run of one caller. -/
theorem Shows.callService (hx : x.Shows h) (now : Nat → Instant) (data : Value) :
    ∃ x' c, ReflTransGen Step x x' ∧ x'.callers = x.callers ++ [c] ∧ c.IsDone ∧
      x'.Shows ((Hub.Operation.callService now data).run h).2 ∧
      ∀ e, ((Hub.Operation.callService now data).run h).1 = .error e → c.stage = .rejected e := by
  cases hread : Call.ofValue data with
  | error e =>
    obtain ⟨y, c, hruns, hcallers, hs, hy⟩ := hx.refuse (show (Request.service data).read = .error e from hread)
    have hrun : (Hub.Operation.callService now data).run h = (.error e, h) :=
      Hub.Operation.run_bind_error _ (Hub.Operation.run_read hread h)
    rw [hrun]
    exact ⟨y, c, hruns, hcallers, .inl ⟨e, hs⟩, hy, fun f hf => Except.error.inj hf ▸ hs⟩
  | ok call =>
    obtain ⟨y, c, hruns, hcallers, hdone, hy⟩ := hx.serve (show (Request.service data).read = .ok call from hread) now
    rw [Hub.run_callService hread]
    cases hm : call.targets.mapM (h.check call.message) with
    | error e =>
      rw [hm] at hy
      exact ⟨y, c, hruns, hcallers, hdone, hy.1, fun f hf => Except.error.inj hf ▸ hy.2⟩
    | ok es =>
      rw [hm] at hy
      exact ⟨y, c, hruns, hcallers, hdone, hy.1, fun _ hf => nomatch hf⟩

/-- A dispatch is a run of one caller. -/
theorem Shows.dispatch (hx : x.Shows h) (now : Instant) (identity : String) (m : Message) :
    ∃ x' c, ReflTransGen Step x x' ∧ x'.callers = x.callers ++ [c] ∧ c.IsDone ∧
      x'.Shows ((Hub.Operation.dispatch now identity m).run h).2 ∧
      ∀ e, ((Hub.Operation.dispatch now identity m).run h).1 = .error e → c.stage = .rejected e := by
  obtain ⟨y, c, hruns, hcallers, hdone, hy⟩ := hx.serve (show (Request.dispatch identity m).read = .ok ⟨[identity], m⟩ from rfl) fun _ => now
  rw [Hub.run_dispatch]
  rw [List.mapM_cons, List.mapM_nil] at hy
  cases hc : h.check m identity with
  | error e =>
    rw [hc] at hy
    exact ⟨y, c, hruns, hcallers, hdone, hy.1, fun f hf => Except.error.inj hf ▸ hy.2⟩
  | ok e =>
    rw [hc] at hy
    exact ⟨y, c, hruns, hcallers, hdone, hy.1, fun _ hf => nomatch hf⟩

end Exchange

end Herald
