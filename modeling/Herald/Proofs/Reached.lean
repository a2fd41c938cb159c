import Herald.Proofs.Crowd

/-!
# Which target a dispatch reaches

Whatever the callers do to a registry and in whatever order their steps come: no publication is lost, every call has the answer of the map
at one moment since it began, a dispatch that is accepted hands its message to the registration that its identity was resolved to at
that moment and to no other, and an identity that stands is found by everybody at every moment, while a target is replaced too
(`Crowd.dispatch_reaches_what_was_installed`).
-/

namespace Herald.Crowd

open Relation

variable {n : Nat} {b : Bus} {w w' : Crowd} {v : Nat} {x : Visit}

/-! ## Publications -/

/-- There are more registrations after one was installed. -/
theorem installs_lt {history : List (Nat × Publication)} {k k' v : Nat} {e : Registration} (hk : history[k]? = some (v, .installed e))
    (hlt : k < k') : installs (history.take k) < installs (history.take k') := by
  obtain ⟨hlength, hget⟩ := List.getElem?_eq_some_iff.mp hk
  have hnext : installs (history.take (k + 1)) = installs (history.take k) + 1 := by
    rw [List.take_succ_eq_append_getElem hlength, installs_concat, hget]
    rfl
  have hle : installs (history.take (k + 1)) ≤ installs (history.take k') := by
    unfold installs
    exact List.Sublist.countP_le (List.take_sublist_take_left hlt)
  omega

/-- What was published, with the call that did. -/
theorem published_eq_some_iff {k : Nat} {p : Publication} : w.published[k]? = some p ↔ ∃ v, w.history[k]? = some (v, p) := by
  unfold published
  rw [List.getElem?_map, Option.map_eq_some_iff]
  constructor
  · rintro ⟨⟨v, p⟩, hk, rfl⟩
    exact ⟨v, hk⟩
  · rintro ⟨v, hk⟩
    exact ⟨(v, p), hk, rfl⟩

/-- A registration is installed once. -/
theorem Sound.installed_once (h : w.Sound n b) {k k' : Nat} {e : Registration} (hk : w.published[k]? = some (.installed e))
    (hk' : w.published[k']? = some (.installed e)) : k' = k := by
  obtain ⟨v, hv⟩ := published_eq_some_iff.mp hk
  obtain ⟨v', hv'⟩ := published_eq_some_iff.mp hk'
  have hserial := h.numbered k v e hv
  have hserial' := h.numbered k' v' e hv'
  rcases Nat.lt_trichotomy k' k with hlt | heq | hgt
  · have := installs_lt hv' hlt
    omega
  · exact heq
  · have := installs_lt hv hgt
    omega

/-- The map is what was published by the calls: each publication is the effect of one call, a registration that is not touched since it was
installed is in the map, and so is every registration at the moment at which its call took effect. -/
structure Kept (w : Crowd) : Prop where
  map : w.registry.registered = mapAfter w.published
  authored : ∀ k p, w.published[k]? = some p →
    ∃ v, (∃ x : Visit, w.visits[v]? = some x ∧ x.stage.publication? = some (k, p)) ∧
      ∀ (v' : Nat) (x' : Visit), w.visits[v']? = some x' → x'.stage.publication? = some (k, p) → v' = v
  untouched : ∀ k e, Since w.published k e (Publication.Touches e.identity) → w.registry.resolve e.identity = some e
  installed : ∀ (v : Nat) restored identity target began k r errand,
    w.visits[v]? = some ⟨.register restored identity target, began, .answered k r errand⟩ →
      ∃ e : Registration, e.identity = identity ∧ e.target = target ∧ w.published[k]? = some (.installed e)

/-- A call that has published something has taken effect by that. -/
theorem Stage.eq_of_publication? {stage : Stage} {k : Nat} {p : Publication} (hp : stage.publication? = some (k, p)) :
    ∃ errand, stage = .answered k (.published p) errand := by
  unfold Stage.publication? at hp
  split at hp
  · obtain ⟨rfl, rfl⟩ := Prod.mk.inj (Option.some.inj hp)
    exact ⟨_, rfl⟩
  · cases hp

/-- What a call has published is listed for it. -/
theorem Sound.history_of_publication? (h : w.Sound n b) (hx : w.visits[v]? = some x) {k : Nat} {p : Publication}
    (hp : x.stage.publication? = some (k, p)) : w.history[k]? = some (v, p) := by
  obtain ⟨errand, hs⟩ := Stage.eq_of_publication? hp
  exact ((h.fair v x hx).effective _ _ _ hs).published p rfl

/-- No publication is lost. -/
theorem Sound.kept (h : w.Sound n b) : w.Kept where
  map := h.map
  authored k p hk := by
    obtain ⟨v, hv⟩ := published_eq_some_iff.mp hk
    refine ⟨v, h.authors k v p hv, ?_⟩
    intro v' x' hx' hp'
    have hv' := h.history_of_publication? hx' hp'
    rw [hv] at hv'
    exact (Prod.mk.inj (Option.some.inj hv')).1.symm
  untouched k e hsince := by
    unfold Registry.resolve
    rw [h.map, get?_mapAfter_eq_some_iff]
    exact ⟨rfl, k, hsince⟩
  installed v restored identity target began k r errand hx := by
    have he := (h.fair v _ hx).effective _ _ _ rfl
    cases he.answers with
    | installed restored e => exact ⟨e, rfl, rfl, published_eq_some_iff.mpr ⟨v, he.published _ rfl⟩⟩

/-! ## Dispatches -/

/-- How many steps are left to an accepted dispatch. -/
def Errand.left : Errand → Nat
  | .resolved => 4
  | .stamped _ => 3
  | .announced => 2
  | .submitted _ => 1
  | _ => 0

section Dispatch

variable {identity : String} {m : Message} {began k : Nat} {e : Registration} {errand : Errand}

/-- An accepted dispatch that has not returned can take a step. -/
theorem exists_proceed (hx : w.visits[v]? = some ⟨.dispatch identity m, began, .answered k (.accepted e) errand⟩)
    (hleft : 0 < errand.left) :
    ∃ w' errand', w.Step w' ∧ w'.visits[v]? = some ⟨.dispatch identity m, began, .answered k (.accepted e) errand'⟩ ∧
      errand'.activates = true ∧ errand'.left < errand.left := by
  have hset {x' : Visit} : (w.visits.set v x')[v]? = some x' := (getElem?_set hx).mpr (.inl ⟨rfl, rfl⟩)
  cases errand with
  | resolved => exact ⟨_, _, .stamp .epoch hx, hset, rfl, Nat.lt_succ_self 3⟩
  | stamped t => exact ⟨_, _, .announce hx, hset, rfl, Nat.lt_succ_self 2⟩
  | announced => exact ⟨_, _, .submit hx, hset, rfl, Nat.lt_succ_self 1⟩
  | submitted t => exact ⟨_, _, .leaveSubmitted hx, hset, rfl, Nat.lt_succ_self 0⟩
  | _ => exact absurd hleft (Nat.lt_irrefl 0)

/-- An accepted dispatch can return, and then it has a ticket. -/
theorem exists_returned (hx : w.visits[v]? = some ⟨.dispatch identity m, began, .answered k (.accepted e) errand⟩)
    (ha : errand.activates = true) :
    ∃ w' t, ReflTransGen Step w w' ∧
      w'.visits[v]? = some ⟨.dispatch identity m, began, .answered k (.accepted e) (.returned (some t))⟩ := by
  induction hl : errand.left using Nat.strongRecOn generalizing w errand with
  | ind left ih =>
    by_cases hleft : 0 < errand.left
    · obtain ⟨w₁, errand₁, hstep, hx₁, ha₁, hless⟩ := exists_proceed hx hleft
      obtain ⟨w', t, hruns, hx'⟩ := ih _ (hl ▸ hless) hx₁ ha₁ rfl
      exact ⟨w', t, .head hstep hruns, hx'⟩
    · cases errand with
      | returned ticket =>
        obtain ⟨t, rfl⟩ := Option.isSome_iff_exists.mp ha
        exact ⟨w, t, .refl, hx⟩
      | leaving duties => cases ha
      | trailing duties => cases ha
      | _ => exact absurd (Nat.succ_pos _) hleft

end Dispatch

/-- What was submitted to a workshop stays. -/
theorem prefix_submitted {s s' : Workshop} (h : s.Step s') : s.submitted <+: s'.submitted := by
  cases h with
  | submit send => exact List.prefix_append _ _
  | _ => exact List.prefix_refl _

/-- A run of the workers that takes no new sends is a run of the crowd. -/
theorem runs_work {s : Workshop} (h : ReflTransGen Workshop.Step w.workshop s) (hsame : s.submitted = w.workshop.submitted) :
    ReflTransGen Step w { w with workshop := s } := by
  have hgrows {a c : Workshop} (hac : ReflTransGen Workshop.Step a c) : a.submitted <+: c.submitted := by
    induction hac with
    | refl => exact List.prefix_refl _
    | tail _ hstep ih => exact ih.trans (prefix_submitted hstep)
  induction h with
  | refl => exact .refl
  | @tail s₁ s₂ hruns hstep ih =>
    -- what grows and ends as it began, has not grown
    have hle := (prefix_submitted hstep).length_le
    rw [hsame] at hle
    have hsame₁ : s₁.submitted = w.workshop.submitted := ((hgrows hruns).eq_of_length_le hle).symm
    exact (ih hsame₁).tail (.work hstep (hsame.trans hsame₁.symm))

/-- An accepted dispatch: it accepted what its identity was resolved to at a moment since it began, so nothing that had been replaced or
removed before it began; the send that it has a ticket for is its message to that registration, and nobody else has the ticket; once it
returned it has one; and whatever happened, that registration can come to be handed the message, once. -/
structure Delivered (w : Crowd) (v : Nat) (identity : String) (m : Message) (began k : Nat) (e : Registration) (errand : Errand) :
    Prop where
  moment : began ≤ k ∧ k ≤ w.published.length
  resolved : e.identity = identity ∧ (w.mapAt k).get? identity = some e
  fresh : ¬Superseded (w.published.take began) e
  ticketed : ∀ ticket, errand = .returned ticket → ticket.isSome = true
  owned : ∀ t, errand.ticket? = some t →
    w.workshop.submitted[t]? = some ⟨e, m⟩ ∧
      ∀ (v' : Nat) (x' : Visit), w.visits[v']? = some x' → x'.stage.ticket? = some t → v' = v
  handed : ∀ t, errand.ticket? = some t →
    (w.workshop.callsOf t).length ≤ 1 ∧ (∀ s ∈ w.workshop.callsOf t, s = ⟨e, m⟩) ∧
      ∀ o, w.workshop.jobs[t]? = some ⟨⟨e, m⟩, .finished o⟩ → w.workshop.callsOf t = [⟨e, m⟩]
  reached : ∃ w' t, ReflTransGen Step w w' ∧
    w'.visits[v]? = some ⟨.dispatch identity m, began, .answered k (.accepted e) (.returned (some t))⟩ ∧
      w'.workshop.callsOf t = [⟨e, m⟩]

theorem length_published (w : Crowd) : w.published.length = w.history.length :=
  List.length_map _

/-- A dispatch that was accepted reaches the registration that accepted it. -/
theorem Sound.delivered (h : w.Sound n b) {identity : String} {m : Message} {began k : Nat} {e : Registration} {errand : Errand}
    (hx : w.visits[v]? = some ⟨.dispatch identity m, began, .answered k (.accepted e) errand⟩) :
    w.Delivered v identity m began k e errand := by
  have he := (h.fair v _ hx).effective _ _ _ rfl
  have hresolved : (w.mapAt k).get? identity = some e := by
    cases he.answers with
    | accepted hget _ => exact hget
  obtain ⟨hidentity, p, hsince⟩ := get?_mapAfter_eq_some_iff.mp hresolved
  have hsubmitted : ∀ t, errand.ticket? = some t → w.workshop.submitted[t]? = some ⟨e, m⟩ := by
    intro t ht
    obtain ⟨identity', m', e', hrequest, hr, hs⟩ := he.delivers t ht
    obtain ⟨rfl, rfl⟩ := Request.dispatch.inj hrequest
    obtain rfl := Response.accepted.inj hr
    exact hs
  refine ⟨⟨he.after, ?_⟩, ⟨hidentity, hresolved⟩, ?_, ?_, ?_, ?_, ?_⟩
  · rw [length_published]
    exact he.before
  · have hinstalled := (getElem?_of_take hsince.installed).2
    rw [← hidentity] at hsince
    exact hsince.not_superseded (fun k' hk' => h.installed_once hinstalled hk') he.after
  · intro ticket hticket
    subst hticket
    exact he.fits
  · intro t ht
    refine ⟨hsubmitted t ht, ?_⟩
    intro v' x' hx' ht'
    have hv' := (h.owners t v').mpr ⟨x', hx', ht'⟩
    have hv := (h.owners t v).mpr ⟨_, hx, ht⟩
    exact Option.some.inj (hv'.symm.trans hv)
  · intro t ht
    obtain ⟨stage, hj, hrecord⟩ := h.workshop.record (hsubmitted t ht)
    refine ⟨hrecord.calls_le, hrecord.called, ?_⟩
    intro o ho
    rw [hj] at ho
    obtain ⟨-, rfl⟩ := Job.mk.inj (Option.some.inj ho)
    exact (hrecord.finished o rfl).1
  · obtain ⟨w₁, t, hruns₁, hx₁⟩ := exists_returned hx he.fits
    have h₁ := h.runs hruns₁
    obtain ⟨s, hruns, hall, hsame, -⟩ := h₁.workshop.can_finish
    have h₂ : Sound n b { w₁ with workshop := s } := h₁.runs (runs_work hruns hsame)
    refine ⟨_, t, hruns₁.trans (runs_work hruns hsame), hx₁, ?_⟩
    obtain ⟨_, m', e', hrequest, hr, hs⟩ := ((h₂.fair v _ hx₁).effective _ _ _ rfl).delivers t rfl
    obtain ⟨rfl, rfl⟩ := Request.dispatch.inj hrequest
    obtain rfl := Response.accepted.inj hr
    obtain ⟨stage, hj, hrecord⟩ := h₂.workshop.record hs
    obtain ⟨o, rfl⟩ := hall _ (List.mem_of_getElem? hj)
    exact (hrecord.finished o rfl).1

/-! ## Identities that stand -/

/-- Everybody finds an identity that stands when the call takes effect: a lookup sees something under it, and a dispatch is accepted by
what is there unless its message is not supported. -/
theorem Sound.found (h : w.Sound n b) (hx : w.visits[v]? = some x) {k : Nat} {r : Response} {errand : Errand}
    (hs : x.stage = .answered k r errand) {identity : String} (hstanding : Standing (w.published.take k) identity) :
    (∀ map, r = .seen map → ∃ e, map.get? identity = some e) ∧
      ∀ m, x.request = .dispatch identity m →
        ∃ e, (w.mapAt k).get? identity = some e ∧
          (r = .accepted e ∨ w.enforce = true ∧ ∃ reason, r = .rejected (.validation reason)) := by
  have hanswers := ((h.fair v x hx).effective k r errand hs).answers
  obtain ⟨e, he⟩ := hstanding.exists_get?
  obtain ⟨request, began, stage⟩ := x
  constructor
  · intro map hr
    subst hr
    cases hanswers with
    | seen => exact ⟨e, he⟩
  · intro m hrequest
    change request = .dispatch identity m at hrequest
    subst hrequest
    change (w.mapAt k).get? identity = some e at he
    refine ⟨e, he, ?_⟩
    cases hanswers with
    | accepted hget _ =>
      rw [he] at hget
      exact .inl (congrArg _ (Option.some.inj hget).symm)
    | unknown hget =>
      rw [he] at hget
      cases hget
    | unsupported _ henforce _ => exact .inr ⟨henforce, _, rfl⟩

/-- Only who removes an identity, or all, takes it away. -/
theorem Answers.request_of_ends {enforce : Bool} {map : Keyed Registration} {request : Request} {p : Publication} {identity : String}
    (h : Answers enforce map request (.published p)) (hends : p.Ends identity) : request = .unregister identity ∨ request = .clear := by
  cases h with
  | installed restored e => exact hends.elim
  | removed hget =>
    subst hends
    exact .inl rfl
  | cleared => exact .inr rfl

/-- A registration that was made before some moment stands then, if no call that removes it took effect in between. -/
theorem Sound.standing (h : w.Sound n b) {u : Nat} {restored : Option Instant} {identity : String} {target : Target} {began p k : Nat}
    {r : Response} {errand : Errand} (hu : w.visits[u]? = some ⟨.register restored identity target, began, .answered p r errand⟩)
    (hlt : p < k) (hnone : ∀ (v : Nat) (x : Visit) q r' errand', w.visits[v]? = some x → x.stage = .answered q r' errand' →
      p < q → q < k → x.request ≠ .unregister identity ∧ x.request ≠ .clear) :
    Standing (w.published.take k) identity := by
  obtain ⟨e, hidentity, -, he⟩ := h.kept.installed u restored identity target began p r errand hu
  refine ⟨p, e, hidentity, ?_, ?_⟩
  · rw [List.getElem?_take, if_pos hlt, he]
  · intro q publication hq hpublication hends
    obtain ⟨hqk, hpublication⟩ := getElem?_of_take hpublication
    obtain ⟨v, hv⟩ := published_eq_some_iff.mp hpublication
    obtain ⟨x, hx, hxp⟩ := h.authors q v publication hv
    obtain ⟨errand', hs⟩ := Stage.eq_of_publication? hxp
    obtain ⟨hno, hnot⟩ := hnone v x q _ errand' hx hs hq hqk
    rcases (((h.fair v x hx).effective _ _ _ hs).answers).request_of_ends hends with hrequest | hrequest
    · exact hno hrequest
    · exact hnot hrequest

/-! ## The registry of a crowd -/

/-- Nobody changes whether messages are checked. -/
theorem enforce_of_runs (h : ReflTransGen Step w w') : w'.enforce = w.enforce := by
  induction h with
  | refl => rfl
  | tail _ hstep ih =>
    rw [← ih]
    cases hstep <;> rfl

/-- Whatever callers do to a registry, and in whatever order their steps come. No registration is lost: the map is what the calls have
published, each publication by one call, and what nobody touches stays. A dispatch that is accepted hands its message to the registration that
the map held for its identity at the moment it was resolved, which was at or after the call began, and to no other. And an
identity that was registered and not removed since is in the map at every moment, and found by every lookup and dispatch. -/
theorem dispatch_reaches_what_was_installed (n : Nat) (b : Bus) (enforce : Bool) {w : Crowd}
    (hruns : ReflTransGen Step (opened n b enforce) w) :
    w.Kept ∧
      (∀ (v : Nat) identity m began k e errand,
        w.visits[v]? = some ⟨.dispatch identity m, began, .answered k (.accepted e) errand⟩ →
          w.Delivered v identity m began k e errand) ∧
      (∀ identity, Standing w.published identity → ∃ e, w.registry.resolve identity = some e) ∧
      (∀ (u : Nat) restored identity target began p k r errand,
        w.visits[u]? = some ⟨.register restored identity target, began, .answered p r errand⟩ → p < k →
          (∀ (v : Nat) (x : Visit) q r' errand', w.visits[v]? = some x → x.stage = .answered q r' errand' → p < q → q < k →
            x.request ≠ .unregister identity ∧ x.request ≠ .clear) → Standing (w.published.take k) identity) ∧
      ∀ (v : Nat) request began k r errand, w.visits[v]? = some ⟨request, began, .answered k r errand⟩ →
        (began ≤ k ∧ k ≤ w.published.length ∧ Answers enforce (w.mapAt k) request r) ∧
          ∀ identity, Standing (w.published.take k) identity →
            (∀ map, r = .seen map → ∃ e, map.get? identity = some e) ∧
              ∀ m, request = .dispatch identity m →
                ∃ e, (w.mapAt k).get? identity = some e ∧
                  (r = .accepted e ∨ enforce = true ∧ ∃ reason, r = .rejected (.validation reason)) := by
  have h : w.Sound n b := (sound_opened n b enforce).runs hruns
  have henforce : w.enforce = enforce := enforce_of_runs hruns
  refine ⟨h.kept, fun v identity m began k e errand hx => h.delivered hx, ?_, ?_, ?_⟩
  · intro identity hstanding
    unfold Registry.resolve
    rw [h.map]
    exact hstanding.exists_get?
  · intro u restored identity target began p k r errand hu hlt hnone
    exact h.standing hu hlt hnone
  · intro v request began k r errand hx
    have he := (h.fair v _ hx).effective k r errand rfl
    refine ⟨⟨he.after, ?_, henforce ▸ he.answers⟩, ?_⟩
    · rw [length_published]
      exact he.before
    · intro identity hstanding
      rw [← henforce]
      exact h.found hx rfl hstanding

/-- A target is replaced while a message to it is dispatched. The dispatch finds the target before it, after that was released, and the
message is handed to it; who looks afterwards finds the new one, and the identity stood all the time. -/
theorem replaced_target_is_reached :
    ∃ w e, ReflTransGen Step (opened 1 ⟨1, []⟩ false) w ∧ e.target.channel = .log ∧ w.mapAt 1 = [("a", e)] ∧
      w.teardowns.map (·.registration) = [e] ∧ w.registry.resolve "a" = some ⟨"a", 0, 1, ⟨{}, none, .inbox⟩⟩ ∧
      w.Delivered 1 "a" {} 1 1 e (.returned (some 0)) ∧ w.workshop.callsOf 0 = [⟨e, {}⟩] ∧ Standing (w.published.take 1) "a" ∧
      ∃ (x : Visit) (map : Keyed Registration) (e' : Registration),
        w.visits[3]? = some x ∧ x.stage = .answered 2 (.seen map) (.trailing []) ∧ map.get? "a" = some e' ∧
          e'.target.channel = .inbox := by
  have hruns : ReflTransGen Step (opened 1 ⟨1, []⟩ false) _ :=
    .head (.call (.register none "a" ⟨{}, none, .log⟩)) <| .head (.lock (v := 0) rfl rfl rfl) <| .head (.copy (v := 0) rfl nofun) <|
    .head (.vacate (v := 0) rfl) <| .head (.place (v := 0) rfl) <| .head (.restore (v := 0) rfl) <| .head (.install (v := 0) rfl) <|
    .head (.unlock (v := 0) rfl) <| .head (.tell (v := 0) rfl) <| .head (.leave (v := 0) rfl) <|
    .head (.call (.dispatch "a" {})) <|
    .head (.call (.register none "a" ⟨{}, none, .inbox⟩)) <| .head (.lock (v := 2) rfl rfl rfl) <| .head (.copy (v := 2) rfl nofun) <|
    .head (.vacate (v := 2) rfl) <|
    -- in the middle of the replacement
    .head (.resolve (v := 1) rfl rfl) <|
    .head (.place (v := 2) rfl) <| .head (.restore (v := 2) rfl) <| .head (.install (v := 2) rfl) <| .head (.unlock (v := 2) rfl) <|
    .head (.call .look) <| .head (.look (v := 3) rfl) <|
    .head (.stamp (v := 1) .epoch rfl) <| .head (.announce (v := 1) rfl) <| .head (.submit (v := 1) rfl) <|
    .head (.leaveSubmitted (v := 1) rfl) <| .head (.work (.grant (t := 0) rfl rfl) rfl) <| .head (.work (.call (t := 0) rfl) rfl) <|
    .head (.work (.ret (t := 0) ⟨1, .sent⟩ rfl) rfl) <| .head (.work (.tell (t := 0) rfl) rfl) <|
    .single (.work (.finish (t := 0) rfl rfl) rfl)
  obtain ⟨-, hdelivered, -, hstanding, hfound⟩ := dispatch_reaches_what_was_installed 1 ⟨1, []⟩ false hruns
  have hreached := hdelivered 1 "a" {} 1 1 _ _ rfl
  have hstands : Standing (List.take 1 _) "a" := hstanding 0 none "a" _ 0 0 1 _ _ rfl Nat.zero_lt_one
    fun v x q r errand _ _ hq hlt => absurd hlt (Nat.not_lt.mpr hq)
  have hnext : Standing (List.take 2 _) "a" := hstanding 2 none "a" _ 1 1 2 _ _ rfl Nat.one_lt_two
    fun v x q r errand _ _ hq hlt => absurd hlt (Nat.not_lt.mpr hq)
  obtain ⟨e', he'⟩ := ((hfound 3 .look 2 2 _ _ rfl).2 "a" hnext).1 _ rfl
  refine ⟨_, _, hruns, rfl, rfl, rfl, rfl, hreached, (hreached.handed 0 rfl).2.2 ⟨1, .sent⟩ rfl, hstands, _, _, e', rfl, rfl, he', ?_⟩
  rw [← Option.some.inj he']

end Herald.Crowd
