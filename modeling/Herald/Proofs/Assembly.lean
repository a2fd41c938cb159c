import Herald.Proofs.CallGrammar
import Herald.Proofs.Restoring
import Herald.Proofs.Teardowns

/-!
# What is built

An application is built from the entries of its settings, in their order, and from the targets that are given beside them. The first entry
that is at fault decides why it cannot be built (`TargetConfig.Faulty`). If none is, the registry has what was given, the last target for
every identity in the place of the first, and the others were released when the next one came (`App.Assembles`).
-/

namespace Herald

/-! ## Entries -/

namespace TargetConfig

/-- The identity that an entry asks for. It may be empty. -/
def asked (c : TargetConfig) : String :=
  match c.id with
  | some id => Text.trim id
  | none => Text.slug c.name

/-- Where an entry has its messages sent: the name of its kind, what the address is called, and the address. -/
inductive Reaches (c : TargetConfig) : String → String → String → Prop
  | webhook {url : String} {format : WebhookFormat} {timeout : Nat} (h : c.kind = .webhook url format timeout) : Reaches c "webhook" "url" url
  | websocket {host : String} (h : c.kind = .websocket host) : Reaches c "websocket" "host" host

/-- Why nothing can be made of an entry: it has no identity, or else it has an address and that is blank. -/
inductive Faulty (c : TargetConfig) : Failure → Prop
  | identity (h : c.asked = "") : Faulty c ⟨"target '" ++ c.name ++ "' does not yield a usable identity", []⟩
  | address {kind word address : String} (h : c.asked ≠ "") (hr : c.Reaches kind word address) (hb : Text.trim address = "") :
      Faulty c ⟨kind ++ " target '" ++ c.name ++ "' has an empty " ++ word, []⟩

/-- The description of what an entry gives, with the features that count if it does not give any. -/
def described (c : TargetConfig) (features : FeatureSet) : Description :=
  ⟨some c.name, c.deviceClass, c.features.getD features⟩

/-- What an entry gives: under the identity that it asks for, a target that is described as it says and delivers as its kind does. A webhook
of the chat layout has no room for data, and a websocket has none for recipients either. -/
def given (c : TargetConfig) : String × Target :=
  match c.kind with
  | .log => (c.asked, ⟨c.described ⟨true, true, true, true⟩, none, .log⟩)
  | .persistent => (c.asked, ⟨c.described ⟨true, true, true, true⟩, none, .inbox⟩)
  | .webhook url .json seconds => (c.asked, ⟨c.described ⟨true, true, true, true⟩, none, .webhook url .json ⟨seconds * 1000000000⟩⟩)
  | .webhook url .slack seconds => (c.asked, ⟨c.described ⟨true, true, true, false⟩, none, .webhook url .slack ⟨seconds * 1000000000⟩⟩)
  | .websocket host => (c.asked, ⟨c.described ⟨true, true, false, false⟩, none, .websocket host⟩)

/-- A target that is built is the one that its entry gives. -/
theorem given_eq (c : TargetConfig) : c.given = (c.asked, c.target) := by
  obtain ⟨id, name, deviceClass, features, kind⟩ := c
  cases kind with
  | webhook url format seconds => cases format <;> rfl
  | _ => rfl

/-- What has to be reached is the address of the kind. -/
theorem reaches_iff {c : TargetConfig} {kind word address : String} :
    c.Reaches kind word address ↔ kind = c.kind.name ∧ c.kind.address? = some (word, address) := by
  constructor
  · rintro (h | h)
    · rw [h]
      exact ⟨rfl, rfl⟩
    · rw [h]
      exact ⟨rfl, rfl⟩
  · rintro ⟨rfl, h⟩
    cases hk : c.kind with
    | log | persistent =>
      rw [hk] at h
      cases h
    | webhook url format timeout =>
      rw [hk] at h
      obtain ⟨rfl, rfl⟩ := Prod.mk.inj (Option.some.inj h)
      exact .webhook hk
    | websocket host =>
      rw [hk] at h
      obtain ⟨rfl, rfl⟩ := Prod.mk.inj (Option.some.inj h)
      exact .websocket hk

/-- An entry has the identity that it asks for, unless that is empty. -/
theorem identity_eq (c : TargetConfig) :
    c.identity =
      if c.asked.isEmpty then .error ⟨"target '" ++ c.name ++ "' does not yield a usable identity", []⟩ else .ok c.asked :=
  rfl

/-- An entry is at fault, or it gives its target under its identity. -/
theorem configured_cases (c : TargetConfig) :
    (∃ failure, c.Faulty failure ∧ App.configured c = .error failure) ∨
      (∀ failure, ¬c.Faulty failure) ∧ App.configured c = .ok c.given := by
  rw [given_eq]
  have hidentity := c.identity_eq
  by_cases hasked : c.asked = ""
  · refine .inl ⟨_, .identity hasked, ?_⟩
    rw [App.configured, hidentity, if_pos (String.isEmpty_iff.mpr hasked)]
    rfl
  · rw [if_neg (mt String.isEmpty_iff.mp hasked)] at hidentity
    rw [App.configured, hidentity, build]
    cases haddress : c.kind.address? with
    | none =>
      refine .inr ⟨?_, rfl⟩
      rintro failure (h | ⟨-, hr, -⟩)
      · exact hasked h
      · cases haddress.symm.trans (reaches_iff.mp hr).2
    | some p =>
      obtain ⟨word, address⟩ := p
      by_cases hblank : Text.isBlank address = true
      · refine .inl ⟨_, .address hasked (reaches_iff.mpr ⟨rfl, haddress⟩) (Text.isBlank_iff_trim.mp hblank), ?_⟩
        simp only [hblank, if_true]
        rfl
      · refine .inr ⟨?_, ?_⟩
        · rintro failure (h | ⟨-, hr, hb⟩)
          · exact hasked h
          · obtain ⟨-, rfl⟩ := Prod.mk.inj (Option.some.inj (haddress.symm.trans (reaches_iff.mp hr).2))
            exact hblank (Text.isBlank_iff_trim.mpr hb)
        · simp only [hblank]
          rfl

/-- Of some entries the first that is at fault is told, or all give their targets. -/
theorem mapM_configured (cs : List TargetConfig) :
    (∃ failure before c behind, cs = before ++ c :: behind ∧ (∀ b ∈ before, ∀ failure, ¬b.Faulty failure) ∧ c.Faulty failure ∧
      cs.mapM App.configured = .error failure) ∨
    (∀ c ∈ cs, ∀ failure, ¬c.Faulty failure) ∧ cs.mapM App.configured = .ok (cs.map given) := by
  induction cs with
  | nil => exact .inr ⟨fun c hc => absurd hc List.not_mem_nil, rfl⟩
  | cons c rest ih =>
    rw [List.mapM_cons]
    rcases configured_cases c with ⟨failure, hfaulty, hc⟩ | ⟨hgood, hc⟩
    · exact .inl ⟨failure, [], c, rest, rfl, fun b hb => absurd hb List.not_mem_nil, hfaulty, by rw [hc]; rfl⟩
    · rw [hc]
      rcases ih with ⟨failure, before, d, behind, rfl, hbefore, hfaulty, hrest⟩ | ⟨hall, hrest⟩
      · refine .inl ⟨failure, c :: before, d, behind, rfl, List.forall_mem_cons.mpr ⟨hgood, hbefore⟩, hfaulty, ?_⟩
        rw [hrest]
        rfl
      · refine .inr ⟨List.forall_mem_cons.mpr ⟨hgood, hall⟩, ?_⟩
        rw [hrest]
        rfl

end TargetConfig

/-! ## Registering one after the other -/

namespace Registry

variable {r : Registry} (h : r.Sound) {identity : String}
include h

/-- Registering an identity that is registered leaves the identities in their order. -/
theorem Sound.identities_register_known {e : Registration} (he : r.resolve identity = some e) (restored : Option Instant) (target : Target) :
    (r.register restored identity target).1.discovered.map (·.identity) = r.discovered.map (·.identity) := by
  have hroster := congrArg (List.map Listed.identity) (h.roster_register_known he restored target)
  rw [roster, roster, Roster.update, List.map_map, List.map_map, List.map_map] at hroster
  refine hroster.trans (List.map_congr_left fun f _ => ?_)
  simp only [Function.comp_apply, listed]
  split <;> rfl

/-- Registering an identity that is not registered puts it behind the others. -/
theorem Sound.identities_register_new (he : r.resolve identity = none) (restored : Option Instant) (target : Target) :
    (r.register restored identity target).1.discovered.map (·.identity) = r.discovered.map (·.identity) ++ [identity] := by
  have hroster := congrArg (List.map Listed.identity) (h.roster_register_new he restored target)
  rw [roster, roster, List.map_append, List.map_map, List.map_map] at hroster
  exact hroster

/-- The identities in the order of discovery are those that resolve. -/
theorem Sound.mem_identities : identity ∈ r.discovered.map (·.identity) ↔ ∃ e, r.resolve identity = some e := by
  rw [List.mem_map]
  constructor
  · rintro ⟨e, he, rfl⟩
    exact ⟨e, h.mem_discovered.mp he⟩
  · rintro ⟨e, he⟩
    have hidentity := h.identity_of_resolve he
    exact ⟨e, h.mem_discovered.mpr (hidentity ▸ he), hidentity⟩

end Registry

namespace App

/-- The change that registers a target with what a store has for it. -/
def registering (s : Store) (g : String × Target) : Change :=
  .register (s.restored g.1) g.1 g.2

/-- What is so while targets are registered one after the other, of which some were given already. -/
structure Registering (s : Store) (given : List (String × Target)) (state : Hub × List Teardown) : Prop where
  mirrors : state.1.registry.Mirrors s
  /-- So the next registration has the number of the next target. -/
  counted : state.1.registry.registrations = given.length
  firsts : FirstsOf (given.map (·.1)) (state.1.registry.discovered.map (·.identity))
  lasts : ∀ identity, (state.1.registry.resolve identity).map (·.target) =
    ((given.filter fun g => g.1 = identity).getLast?).map (·.2)
  /-- No target of an identity was given after the one that it resolves to. -/
  latest : ∀ {identity : String} {e : Registration} {n : Nat} {g : String × Target}, state.1.registry.resolve identity = some e →
    given[n]? = some g → g.1 = identity → n ≤ e.serial
  /-- What was released was still found then, and what came of it is what comes of releasing its target. -/
  released : ∀ t ∈ state.2, t.resolved = some t.registration ∧ t.result = t.registration.target.teardown

variable {s : Store} {given : List (String × Target)} {state : Hub × List Teardown}

/-- Nothing is registered yet. -/
theorem registering_new (s : Store) {h : Hub} (hnone : h.registry = {}) : Registering s [] (h, []) := by
  have hempty : h.registry.registered = [] := congrArg Registry.registered hnone
  have hdiscovered : h.registry.discovered = [] := by
    rw [Registry.discovered, hempty]
    exact List.mergeSort_nil
  have hresolve (identity : String) : h.registry.resolve identity = none := by
    rw [Registry.resolve, hempty]
    rfl
  constructor
  case mirrors => exact Registry.mirrors_of_empty hempty s
  case counted => exact congrArg Registry.registrations hnone
  case firsts =>
    rw [hdiscovered]
    exact ⟨fun t => Iff.rfl, List.Pairwise.nil⟩
  case lasts => exact fun identity => congrArg (Option.map Registration.target) (hresolve identity)
  case latest =>
    intro identity e n g he
    cases (hresolve identity).symm.trans he
  case released => exact fun t ht => absurd ht List.not_mem_nil

/-- One more target is registered. -/
theorem Registering.step (h : Registering s given state) (g : String × Target) : Registering s (given ++ [g]) (registerFrom s state g) := by
  have hsound := h.mirrors.sound
  have hresolve (identity : String) : (registerFrom s state g).1.registry.resolve identity =
      if identity = g.1 then some (state.1.registry.entering g.1 g.2) else state.1.registry.resolve identity :=
    Registry.resolve_register _ _ _ _ _
  constructor
  case mirrors => exact h.mirrors.register g.1 g.2
  case counted =>
    rw [List.length_append, List.length_singleton, ← h.counted]
    exact Registry.registrations_register _ _ _ _
  case firsts =>
    rw [List.map_append, List.map_singleton]
    cases he : state.1.registry.resolve g.1 with
    | some e =>
      have hmem := (h.firsts.same g.1).mp (hsound.mem_identities.mpr ⟨e, he⟩)
      have hsame := hsound.identities_register_known he (s.restored g.1) g.2
      exact hsame ▸ h.firsts.concat_of_mem hmem
    | none =>
      have hnew : g.1 ∉ given.map (·.1) := by
        intro hmem
        obtain ⟨e, he'⟩ := hsound.mem_identities.mp ((h.firsts.same g.1).mpr hmem)
        cases he.symm.trans he'
      have hmore := hsound.identities_register_new he (s.restored g.1) g.2
      exact hmore ▸ h.firsts.concat_of_not_mem hnew
  case lasts =>
    intro identity
    rw [hresolve, List.filter_append]
    by_cases hi : identity = g.1
    · subst hi
      simp [Registry.entering]
    · simp [hi, Ne.symm hi, h.lasts]
  case latest =>
    intro identity e n g' he hn hg'
    rw [hresolve] at he
    have hlt : n < given.length + 1 := by
      have hlt := (List.getElem?_eq_some_iff.mp hn).1
      rwa [List.length_append, List.length_singleton] at hlt
    split at he
    · obtain rfl := Option.some.inj he
      change n ≤ state.1.registry.registrations
      rw [h.counted]
      exact Nat.le_of_lt_succ hlt
    · next hi =>
      rcases Nat.lt_succ_iff_lt_or_eq.mp hlt with hlt | rfl
      · rw [List.getElem?_append_left hlt] at hn
        exact h.latest he hn hg'
      · rw [List.getElem?_concat_length] at hn
        obtain rfl := Option.some.inj hn
        exact absurd hg'.symm hi
  case released =>
    intro t ht
    rcases List.mem_append.mp ht with ht | ht
    · exact h.released t ht
    · obtain ⟨e, he, rfl⟩ := List.mem_map.mp ht
      have he := Option.mem_toList.mp he
      have hidentity := hsound.identity_of_resolve he
      rw [Registry.tearDown, hidentity]
      exact ⟨he, rfl⟩

/-- All of them are registered. -/
theorem Registering.foldl (h : Registering s given state) (more : List (String × Target)) :
    Registering s (given ++ more) (more.foldl (registerFrom s) state) := by
  induction more generalizing given state with
  | nil =>
    rw [List.append_nil]
    exact h
  | cons g rest ih =>
    rw [List.append_cons]
    exact ih (h.step g)

/-- What registering releases is what a row of changes releases. -/
theorem foldl_registerFrom_eq (s : Store) (given : List (String × Target)) (scene : Scene) :
    given.foldl (registerFrom s) (scene.hub, scene.releases.map (·.teardown)) =
      (((given.map (registering s)).foldl Scene.change scene).hub,
        ((given.map (registering s)).foldl Scene.change scene).releases.map (·.teardown)) := by
  induction given generalizing scene with
  | nil => rfl
  | cons g rest ih =>
    have hstep : registerFrom s (scene.hub, scene.releases.map (·.teardown)) g =
        ((scene.change (registering s g)).hub, (scene.change (registering s g)).releases.map (·.teardown)) := by
      rw [Scene.change_eq, List.map_append, Hub.teardown_releases]
      rfl
    rw [List.foldl_cons, hstep, ih]
    rfl

/-- What a registry has when targets were registered one after the other, and what was released. The number of a registration tells which
of the targets it is of. -/
structure Assembles (s : Store) (given : List (String × Target)) (r : Registry) (teardowns : List Teardown) : Prop where
  /-- It has the identities that were given, in the order in which they came first. -/
  firsts : FirstsOf (given.map (·.1)) (r.discovered.map (·.identity))
  /-- An identity resolves to the last target that was given for it. -/
  lasts : ∀ identity, (r.resolve identity).map (·.target) = ((given.filter fun g => g.1 = identity).getLast?).map (·.2)
  /-- A target was released once if one was given for its identity later, and was not released otherwise. -/
  released : ∀ n (hn : n < given.length), (teardowns.map (·.registration.serial)).count n =
    if given[n].1 ∈ (given.drop (n + 1)).map (·.1) then 1 else 0
  /-- Nothing else was released, and nothing after the next one was installed: it was still what its identity resolved to. -/
  replaced : ∀ t ∈ teardowns,
    given[t.registration.serial]? = some (t.registration.identity, t.registration.target) ∧ t.resolved = some t.registration
  /-- What came of a release is what comes of releasing that target. -/
  results : ∀ t ∈ teardowns, t.result = t.registration.target.teardown
  /-- What is shown of a target is what the store has for its identity. -/
  shown : ∀ identity e, r.resolve identity = some e → r.lastNotified e.place = s.restored identity

section Released

variable {scene : Scene} (h : Registering s given (scene.hub, scene.releases.map (·.teardown))) (haccounts : scene.Accounts given)
include h haccounts

/-- What an identity resolves to has the number of a target that was given for it. -/
theorem Registering.getElem?_serial {identity : String} {e : Registration} (he : scene.hub.registry.resolve identity = some e) :
    given[e.serial]? = some (identity, e.target) := by
  have hsound : scene.hub.registry.Sound := h.mirrors.sound
  have hregistered : e ∈ scene.hub.registry.registered.map (·.2) := List.mem_map.mpr ⟨_, hsound.resolve_eq_some_iff.mp he, rfl⟩
  exact hsound.identity_of_resolve he ▸ haccounts.numbered e (List.mem_append_right _ hregistered)

/-- A target that was given before another one of its identity was released, because the identity resolves to a later one. -/
theorem Registering.released_of_mem_drop {n : Nat} (hn : n < given.length) (hlater : given[n].1 ∈ (given.drop (n + 1)).map (·.1)) :
    scene.released.count n = 1 := by
  obtain ⟨g, hg, hidentity⟩ := List.mem_map.mp hlater
  obtain ⟨k, hk⟩ := List.mem_iff_getElem?.mp hg
  rw [List.getElem?_drop] at hk
  refine haccounts.ended n hn fun identity e he hserial => ?_
  have hown : given[n]? = some (identity, e.target) := hserial ▸ h.getElem?_serial haccounts he
  rw [List.getElem?_eq_getElem hn] at hown
  have hle := h.latest he hk (hidentity.trans (congrArg Prod.fst (Option.some.inj hown)))
  omega

/-- The last target of its identity was not released, because the identity resolves to it. -/
theorem Registering.released_of_not_mem_drop {n : Nat} (hn : n < given.length) (hlast : given[n].1 ∉ (given.drop (n + 1)).map (·.1)) :
    scene.released.count n = 0 := by
  have hmem : given[n].1 ∈ given.map (·.1) := List.mem_map_of_mem (List.getElem_mem hn)
  obtain ⟨e, he⟩ := h.mirrors.sound.mem_identities.mp ((h.firsts.same _).mpr hmem)
  have hle := h.latest he (List.getElem?_eq_getElem hn) rfl
  have hserial : e.serial = n := by
    -- a later number would be that of a later target of the identity
    by_contra hne
    have hdrop : (given.drop (n + 1))[e.serial - (n + 1)]? = some (given[n].1, e.target) := by
      rw [List.getElem?_drop, show n + 1 + (e.serial - (n + 1)) = e.serial by omega]
      exact h.getElem?_serial haccounts he
    exact hlast (List.mem_map.mpr ⟨_, List.mem_of_getElem? hdrop, rfl⟩)
  exact hserial ▸ haccounts.installed _ e he

/-- What was registered and what was released. -/
theorem Registering.assembles : Assembles s given scene.hub.registry (scene.releases.map (·.teardown)) where
  firsts := h.firsts
  lasts := h.lasts
  released n hn := by
    rw [List.map_map]
    split
    · exact h.released_of_mem_drop haccounts hn ‹_›
    · exact h.released_of_not_mem_drop haccounts hn ‹_›
  replaced t ht := by
    obtain ⟨r, hr, rfl⟩ := List.mem_map.mp ht
    exact ⟨haccounts.numbered _ (List.mem_append_left _ (List.mem_map_of_mem hr)), (h.released _ ht).1⟩
  results t ht := (h.released t ht).2
  shown _ _ := h.mirrors.shown

end Released

/-- Registering targets at a hub that has none. -/
theorem assembles_foldl (s : Store) (given : List (String × Target)) {h : Hub} (hnone : h.registry = {}) :
    Assembles s given (given.foldl (registerFrom s) (h, [])).1.registry (given.foldl (registerFrom s) (h, [])).2 := by
  -- registering is a row of changes, and those account for every registration by its number
  have hhub : { h with registry := {} } = h := hnone ▸ rfl
  have hmade : (given.map (registering s)).filterMap Change.made? = given := by
    rw [List.filterMap_map]
    exact List.filterMap_some
  have hbalanced := (Scene.balanced_new h).foldl_change (given.map (registering s))
  have hall := (registering_new s hnone).foldl given
  rw [hhub, List.nil_append, hmade] at hbalanced
  have hscene : given.foldl (registerFrom s) (h, []) = _ := foldl_registerFrom_eq s given ⟨h, []⟩
  rw [List.nil_append, hscene] at hall
  rw [hscene]
  exact hall.assembles hbalanced.accounts

/-! ## What is built -/

variable {settings : Settings} {backend : Backend} {files : Files} {vault : Vault}

/-- Where the store can be loaded and the numbers are within their limits, an application is built unless an entry is at fault, and the
first such entry tells why it is not. What is built has the targets of the entries and the extra ones, the last for every identity, in
the order in which the identities come first; all others were released when they were replaced; and every target shows what was saved for
its identity. -/
theorem build_registers_what_is_given (hl : Vault.load files backend = .ok vault) (hc : settings.eventCapacity ≤ Bus.maxCapacity)
    (hw : settings.maxWorkers ≤ Pool.limit) (extras : List (String × Target)) :
    ((∃ e, build settings backend extras files = .error e) ↔ ∃ c ∈ settings.targets, ∃ failure, c.Faulty failure) ∧
      (∀ e, build settings backend extras files = .error e → ∃ before c behind failure, settings.targets = before ++ c :: behind ∧
        (∀ b ∈ before, ∀ failure, ¬b.Faulty failure) ∧ c.Faulty failure ∧ e = .failed failure) ∧
      ∀ app teardowns, build settings backend extras files = .ok (app, teardowns) →
        Assembles vault.store (settings.targets.map TargetConfig.given ++ extras) app.hub.registry teardowns := by
  rw [build_eq hl hc hw]
  rcases TargetConfig.mapM_configured settings.targets with ⟨failure, before, c, behind, htargets, hbefore, hfaulty, hm⟩ | ⟨hgood, hm⟩
  -- the first entry at fault stops it, whatever comes behind and whatever is extra
  · simp only [hm]
    refine ⟨⟨fun _ => ⟨c, ?_, failure, hfaulty⟩, fun _ => ⟨_, rfl⟩⟩, ?_, ?_⟩
    · rw [htargets]
      exact List.mem_append_right _ List.mem_cons_self
    · intro e he
      exact ⟨before, c, behind, failure, htargets, hbefore, hfaulty, (Except.error.inj he).symm⟩
    · intro app teardowns hb
      cases hb
  · simp only [hm]
    refine ⟨⟨?_, ?_⟩, ?_, ?_⟩
    · rintro ⟨e, he⟩
      cases he
    · rintro ⟨c, hc, failure, hfaulty⟩
      exact absurd hfaulty (hgood c hc failure)
    · intro e he
      cases he
    · intro app teardowns hb
      obtain ⟨rfl, rfl⟩ := Prod.mk.inj (Except.ok.inj hb)
      exact assembles_foldl vault.store _ rfl

/-- The slug of a name, an identity between blanks and an extra target are the same identity: the extra target stays, in the place of the
first, with the activation that was saved. The entry behind the first gives an inbox with its name. -/
theorem extra_target_takes_the_place :
    let entries : List TargetConfig :=
      [{ name := "Hall Lamp", kind := .log }, { name := "Door", kind := .persistent },
        { id := some " hall_lamp ", name := "Lamp", kind := .websocket "10.0.0.2" }]
    let settings : Settings := { Settings.standard 1 with eventCapacity := 8, targets := entries }
    let backend : Backend := .memory (some (.ofTargets [("hall_lamp", .epoch)])) false false
    let extra : Target := { channel := .inbox }
    ∃ app teardowns, build settings backend [("hall_lamp", extra)] {} = .ok (app, teardowns) ∧
      FirstsOf ["hall_lamp", "door", "hall_lamp", "hall_lamp"] (app.hub.registry.discovered.map (·.identity)) ∧
      (∀ n < 4, (teardowns.map (·.registration.serial)).count n = if n = 0 ∨ n = 2 then 1 else 0) ∧
      (∃ d, app.hub.registry.resolve "door" = some d ∧ d.target = ⟨⟨some "Door", none, .all⟩, none, .inbox⟩) ∧
      ∃ e, app.hub.registry.resolve "hall_lamp" = some e ∧ e.target = extra ∧ app.hub.registry.lastNotified e.place = some .epoch := by
  intro entries settings backend extra
  have hl : Vault.load {} backend = .ok ⟨⟨[("hall_lamp", .epoch)], false⟩, backend⟩ := rfl
  let given : List (String × Target) :=
    [("hall_lamp", ⟨⟨some "Hall Lamp", none, .all⟩, none, .log⟩), ("door", ⟨⟨some "Door", none, .all⟩, none, .inbox⟩),
      ("hall_lamp", ⟨⟨some "Lamp", none, { message := true, title := true }⟩, none, .websocket "10.0.0.2"⟩)]
  have hgiven : settings.targets.map TargetConfig.given = given := rfl
  have hconfigured : settings.targets.mapM configured = .ok given := rfl
  have hb : build settings backend [("hall_lamp", extra)] {} = _ := build_eq hl (by decide) (by decide)
  rw [hconfigured] at hb
  have hassembles := (build_registers_what_is_given hl (by decide) (by decide) [("hall_lamp", extra)]).2.2 _ _ hb
  rw [hgiven] at hassembles
  obtain ⟨e, he, htarget⟩ := Option.map_eq_some_iff.mp (hassembles.lasts "hall_lamp")
  refine ⟨_, _, hb, hassembles.firsts, ?_, Option.map_eq_some_iff.mp (hassembles.lasts "door"), e, he, htarget, hassembles.shown _ e he⟩
  intro n hn
  refine (hassembles.released n hn).trans ?_
  match n, hn with
  | 0, _ | 1, _ | 2, _ | 3, _ => rfl

end App

end Herald
