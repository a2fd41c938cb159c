import Herald.Program
import Herald.Proofs.DirectCall
import Herald.Proofs.Restart
import Herald.Proofs.Settling
import Mathlib.Data.List.Forall2

/-!
# The command that sends

The command is about its sends while the pool and the persister do their work (`App.Works`): it activates one target after the other, and
waits for all its sends then, each until it has ended or the limit is over (`Sending.Step`). Whatever comes in between, every target that
was found is stamped once and no other, and what is answered to each wait is how its own send had ended, or that the limit was over
(`Sending.Sound`).

Where nothing is sent there is nothing to save, and the files stay as they are (`App.Idle`).
-/

namespace Herald

open Relation (ReflTransGen)

/-! ## The work that goes on meanwhile -/

namespace App

/-- What the pool and the persister do. -/
inductive Works : App × Files → App × Files → Prop
  | start {a : App} {files : Files} {ticket : Nat} {hub : Hub} (h : a.hub.start? ticket = some hub) :
    Works (a, files) (a.withHub hub, files)
  | finish {a : App} {files : Files} {network : Network} {turn : Turn} {ticket : Nat} {hub : Hub}
    (h : a.hub.finish? network turn ticket = some hub) : Works (a, files) (a.withHub hub, files)
  | follow {a : App} {files : Files} : Works (a, files) (a.follow, files)
  | tick {a : App} {files : Files} : Works (a, files) (a.tick files)

variable {a b app : App} {x y : App × Files} {files : Files} {loaded : Vault}

/-- It is among what an application does. -/
theorem Works.goes (h : Works x y) : Goes x y := by
  cases h with
  | start h => exact .start h
  | finish h => exact .finish h
  | follow => exact .follow
  | tick => exact .tick

theorem goes_of_works (h : ReflTransGen Works x y) : ReflTransGen Goes x y :=
  h.lift id fun _ _ => Works.goes

/-- What work leaves: the registry, what is enforced, and what was handed to the pool. -/
structure Alike (a b : App) : Prop where
  registry : b.hub.registry = a.hub.registry
  enforced : b.hub.enforceFeatures = a.hub.enforceFeatures
  sends : b.hub.pool.submissions.map (·.send) = a.hub.pool.submissions.map (·.send)

theorem Alike.refl (a : App) : Alike a a :=
  ⟨rfl, rfl, rfl⟩

theorem Alike.trans {c : App} (h : Alike a b) (h' : Alike b c) : Alike a c :=
  ⟨h'.registry.trans h.registry, h'.enforced.trans h.enforced, h'.sends.trans h.sends⟩

theorem hub_follow (a : App) : a.follow.hub = a.hub := by
  unfold follow
  split <;> rfl

theorem hub_tick (a : App) (files : Files) : (a.tick files).1.hub = a.hub := by
  unfold tick
  split <;> rfl

theorem alike_of_hub (h : b.hub = a.hub) : Alike a b :=
  ⟨congrArg Hub.registry h, congrArg Hub.enforceFeatures h, congrArg (fun hub => hub.pool.submissions.map (·.send)) h⟩

theorem Works.alike (h : Works x y) : Alike x.1 y.1 := by
  cases h with
  | start h =>
    obtain ⟨pool, hpool, rfl⟩ := Option.map_eq_some_iff.mp h
    obtain ⟨send, hwaiting⟩ := Pool.waiting_of_start? hpool
    rw [Pool.start?_eq hwaiting] at hpool
    split at hpool
    · obtain rfl := Option.some.inj hpool
      exact ⟨rfl, rfl, Counting.map_set_of_eq hwaiting rfl⟩
    · cases hpool
  | finish h =>
    unfold Hub.finish? at h
    obtain ⟨s, -, h⟩ := Option.bind_eq_some_iff.mp h
    obtain ⟨pool, hpool, h⟩ := Option.bind_eq_some_iff.mp h
    obtain rfl := Option.some.inj h
    obtain ⟨send, hsending⟩ := Pool.sending_of_finish? hpool
    rw [Pool.finish?_eq hsending] at hpool
    obtain rfl := Option.some.inj hpool
    exact ⟨rfl, rfl, Counting.map_set_of_eq hsending rfl⟩
  | follow => exact alike_of_hub (hub_follow _)
  | tick => exact alike_of_hub (hub_tick _ _)

theorem alike_of_works (h : ReflTransGen Works x y) : Alike x.1 y.1 := by
  induction h with
  | refl => exact .refl _
  | tail _ hstep ih => exact ih.trans hstep.alike

/-! ## Nothing to save -/

/-- An application that sends nothing and has nothing to save: its store is what was loaded, and so is all that it would record. -/
structure Idle (loaded : Vault) (a : App) : Prop where
  unchanged : a.persister.vault = loaded
  saved : loaded.store.dirty = false
  unsent : a.hub.pool.submissions = []
  unpublished : ∀ e ∈ a.hub.bus.published, e.activation? = none
  shown : ∀ p ∈ a.activations, loaded.store.restored p.1 = some p.2

/-- Recording what is stored changes nothing. -/
theorem sync_of_restored {s : Store} {activations : List (String × Instant)} (h : ∀ p ∈ activations, s.restored p.1 = some p.2) :
    s.sync activations = s :=
  Store.sync_of_reaches fun p hp => ⟨p.2, h p hp, Std.le_refl p.2⟩

/-- Receipts that change nothing one by one change nothing together. -/
theorem foldl_handle {source : List (String × Instant)} {v : Vault} {receipts : List Receipt}
    (h : ∀ r ∈ receipts, Persister.handle source v r = v) : receipts.foldl (Persister.handle source) v = v := by
  induction receipts with
  | nil => rfl
  | cons r rest ih =>
    obtain ⟨hr, hrest⟩ := List.forall_mem_cons.mp h
    rw [List.foldl_cons, hr]
    exact ih hrest

/-- Where no activation was published and everything is stored, nothing that waits on the bus changes the store. -/
theorem vault_follow {p : Persister} {bus : Bus} {source : List (String × Instant)} (hbus : ∀ e ∈ bus.published, e.activation? = none)
    (hsource : ∀ q ∈ source, p.vault.store.restored q.1 = some q.2) : (p.follow bus source).vault = p.vault := by
  refine foldl_handle fun r hr => ?_
  cases r with
  | lagged missed => rw [Persister.handle, Vault.modify, sync_of_restored hsource]
  | event e =>
    have he : e ∈ bus.published := by
      rcases List.mem_append.mp hr with hr | hr
      · split at hr
        · cases List.mem_singleton.mp hr
        · cases hr
      · obtain ⟨e', he', heq⟩ := List.mem_map.mp hr
        exact Receipt.event.inj heq ▸ List.mem_of_mem_drop he'
    have hnone := hbus e he
    cases e with
    | activated identity t => cases hnone
    | _ => rfl

/-- A store without the mark is not saved. -/
theorem flush_of_clean {v : Vault} (h : v.store.dirty = false) (files : Files) : v.flush files = (v, files, .ok ()) := by
  rw [Vault.flush, h]
  rfl

/-- Where everything is stored and nothing is to be saved, a tick does nothing. -/
theorem tick_of_clean {p : Persister} {source : List (String × Instant)} (hclean : p.vault.store.dirty = false)
    (hsource : ∀ q ∈ source, p.vault.store.restored q.1 = some q.2) (files : Files) : p.tick source files = (p, files) := by
  have hsame : (p.vault.modify fun s => s.sync source) = p.vault := by
    rw [Vault.modify, sync_of_restored hsource]
  rw [Persister.tick, hsame, flush_of_clean hclean]

/-- Work leaves an idle application as idle, and its hub and the files as they are. -/
theorem Idle.works (h : Idle loaded x.1) (hw : Works x y) : Idle loaded y.1 ∧ y.1.hub = x.1.hub ∧ y.2 = x.2 := by
  have hclean : x.1.persister.vault.store.dirty = false := h.unchanged ▸ h.saved
  have hsource : ∀ q ∈ x.1.activations, x.1.persister.vault.store.restored q.1 = some q.2 := h.unchanged ▸ h.shown
  cases hw with
  | start hs =>
    obtain ⟨pool, hpool, -⟩ := Option.map_eq_some_iff.mp hs
    obtain ⟨send, hwaiting⟩ := Pool.waiting_of_start? hpool
    rw [h.unsent] at hwaiting
    cases hwaiting
  | finish hf =>
    obtain ⟨o, hpool⟩ := Hub.pool_of_finish? hf
    obtain ⟨send, hsending⟩ := Pool.sending_of_finish? hpool
    rw [h.unsent] at hsending
    cases hsending
  | @follow a files =>
    have hhub := hub_follow a
    refine ⟨⟨?_, h.saved, hhub ▸ h.unsent, hhub ▸ h.unpublished, ?_⟩, hhub, rfl⟩
    · rw [App.follow]
      split
      · exact (vault_follow h.unpublished hsource).trans h.unchanged
      · exact h.unchanged
    · rw [activations, hhub]
      exact h.shown
  | @tick a files =>
    have hsame : a.tick files = (a, files) := by
      rw [App.tick, tick_of_clean hclean hsource]
      split <;> rfl
    rw [hsame]
    exact ⟨h, rfl, rfl⟩

/-- So does any amount of work. -/
theorem Idle.runs (h : Idle loaded x.1) (hw : ReflTransGen Works x y) : Idle loaded y.1 ∧ y.1.hub = x.1.hub ∧ y.2 = x.2 := by
  induction hw with
  | refl => exact ⟨h, rfl, rfl⟩
  | tail _ hstep ih =>
    obtain ⟨hidle, hhub, hfiles⟩ := ih
    obtain ⟨hidle', hhub', hfiles'⟩ := hidle.works hstep
    exact ⟨hidle', hhub'.trans hhub, hfiles'.trans hfiles⟩

/-- Shutting an idle application down leaves the store, the backend and the files. -/
theorem Idle.shutdown (h : Idle loaded a) (files : Files) : (a.shutdown files).vault = loaded ∧ (a.shutdown files).files = files := by
  have hsource : ∀ q ∈ a.activations, loaded.store.restored q.1 = some q.2 := h.shown
  have hfinish (p : Persister) (hp : p.vault = loaded) : ∃ p', p.finish a.hub.bus a.activations files = (p', files) ∧ p'.vault = loaded := by
    have hdrain : (p.drain a.hub.bus).vault = loaded :=
      (vault_follow h.unpublished fun _ hq => absurd hq List.not_mem_nil).trans hp
    rw [Persister.finish, tick_of_clean (hdrain ▸ h.saved) (hdrain ▸ hsource)]
    exact ⟨_, rfl, hdrain⟩
  have hflush {v : Vault} (hv : v = loaded) : (v.modify fun s => s.sync a.activations).flush files = (loaded, files, .ok ()) := by
    rw [hv, Vault.modify, sync_of_restored hsource]
    exact flush_of_clean h.saved files
  obtain ⟨p', hp', hvault⟩ := hfinish a.persister h.unchanged
  unfold App.shutdown
  cases a.persists with
  | true => simp only [if_true, hp', hflush hvault, and_self]
  | false => simp only [Bool.false_eq_true, if_false, hflush h.unchanged, and_self]

/-- A hub to which nothing was sent, with a registry in order. -/
structure Fresh (settings : Settings) (h : Hub) : Prop where
  pool : h.pool = .ofWorkers settings.maxWorkers
  unpublished : ∀ e ∈ h.bus.published, e.activation? = none
  sound : h.registry.Sound

variable {settings : Settings} {backend : Backend} {extras : List (String × Target)} {teardowns : List Teardown}

/-- Registering targets leaves a hub fresh. -/
theorem Fresh.foldl_registerFrom {store : Store} {state : Hub × List Teardown} (h : Fresh settings state.1)
    (targets : List (String × Target)) : Fresh settings (targets.foldl (registerFrom store) state).1 := by
  induction targets generalizing state with
  | nil => exact h
  | cons target rest ih =>
    have hfirst : Fresh settings (registerFrom store state target).1 := by
      refine ⟨h.pool, fun e he => ?_, h.sound.register _ _ _⟩
      rcases List.mem_append.mp he with he | he
      · exact h.unpublished e he
      · rw [List.mem_singleton.mp he]
        rfl
    exact ih hfirst

/-- What an application is when it has just been built. -/
theorem fresh_build (hb : build settings backend extras files = .ok (app, teardowns)) (hl : Vault.load files backend = .ok loaded) :
    Fresh settings app.hub ∧ app.persister.vault = loaded ∧
      app.defaultTimeout = settings.dispatch.defaultTimeoutSeconds.map .ofSeconds := by
  obtain ⟨loaded, targets, hl', -, hassembled⟩ := exists_of_build hb
  obtain rfl := Except.ok.inj (hl.symm.trans hl')
  obtain rfl := (Prod.mk.inj hassembled).1
  refine ⟨Fresh.foldl_registerFrom ⟨rfl, ?_, Registry.sound_of_empty rfl⟩ _, rfl, rfl⟩
  exact fun e he => absurd he List.not_mem_nil

/-- It is idle. -/
theorem idle_build (hb : build settings backend extras files = .ok (app, teardowns)) (hl : Vault.load files backend = .ok loaded) :
    Idle loaded app := by
  obtain ⟨hfresh, hvault, -⟩ := fresh_build hb hl
  have hmirrors := mirrors_build hb hl
  exact ⟨hvault, Vault.dirty_of_load hl, by rw [hfresh.pool]; rfl, hfresh.unpublished, fun p hp => hmirrors.restored_of_mem hp⟩

end App

/-! ## Sending -/

/-- What one who waits for a send is told, and the send as it was at that moment. -/
structure Answer where
  seen : Submission
  result : Except DispatchError Unit

/-- Whether an answer is how a send had ended or, where there is a limit, that it was over and the send had not ended. -/
inductive Answer.Fits (limit : Option Span) (s : Send) : Answer → Prop
  | ended (o : Ended) : Fits limit s ⟨⟨s, .finished o⟩, s.result o⟩
  | expired {span : Span} {phase : Phase} (hl : limit = some span) (hp : ∀ o, phase ≠ .finished o) :
    Fits limit s ⟨⟨s, phase⟩, .error (.timeout s.registration.identity span)⟩

/-- The command while it sends: the application and the files, the registrations that are still to be activated, and the tickets of the
others with what was answered, once it was. -/
structure Sending where
  app : App
  files : Files
  left : List Registration
  waits : List (Nat × Option Answer) := []

namespace Sending

variable {h : Hub} {m : Message} {es : List Registration} {now : Nat → Instant} {limit : Option Span} {x y : Sending}

/-- What the pool or the persister does, or the command: it activates the next registration, and when none is left it waits for all its
sends at once, each until it has ended or the limit is over. -/
inductive Step (m : Message) (now : Nat → Instant) (limit : Option Span) (x : Sending) : Sending → Prop
  | work {app : App} {files : Files} (h : App.Works (x.app, x.files) (app, files)) : Step m now limit x { x with app, files }
  | activate {e : Registration} {left : List Registration} (h : x.left = e :: left) :
    Step m now limit x { x with
      app := x.app.withHub (x.app.hub.activate (now x.waits.length) e m).2
      left
      waits := x.waits ++ [((x.app.hub.activate (now x.waits.length) e m).1, none)] }
  | answer {i ticket : Nat} {s : Submission} {r : Except DispatchError Unit} (h : x.left = []) (hw : x.waits[i]? = some (ticket, none))
    (hs : x.app.hub.pool.submissions[ticket]? = some s) (hr : x.app.hub.pool.await? limit ticket = some r) :
    Step m now limit x { x with waits := x.waits.set i (ticket, some ⟨s, r⟩) }

/-- Registrations that a hub has found for a message, each with a place of its own. -/
structure Found (h : Hub) (m : Message) (es : List Registration) : Prop where
  checked : ∀ e ∈ es, h.check m e.identity = .ok e
  placed : ∀ e ∈ es, e.place < h.registry.stamps.length
  distinct : es.Pairwise fun a b => a.place ≠ b.place

/-- A command that has activated the first of the registrations that a hub had found, and nothing else, and was answered what fits. -/
structure Sound (h : Hub) (m : Message) (es : List Registration) (now : Nat → Instant) (limit : Option Span) (x : Sending) : Prop where
  registered : x.app.hub.registry.registered = h.registry.registered
  places : x.app.hub.registry.stamps.length = h.registry.stamps.length
  enforced : x.app.hub.enforceFeatures = h.enforceFeatures
  left : x.left = es.drop x.waits.length
  begun : x.waits.length ≤ es.length
  submitted : x.app.hub.pool.submissions.map (·.send) = (es.take x.waits.length).map fun e => ⟨e, m⟩
  ticketed : x.waits.map (·.1) = List.range x.waits.length
  stamped : ∀ i e, i < x.waits.length → es[i]? = some e →
    x.app.hub.registry.lastNotified e.place = some (Instant.raised (h.registry.lastNotified e.place) (now i))
  untouched : ∀ place, (∀ e ∈ es.take x.waits.length, e.place ≠ place) →
    x.app.hub.registry.lastNotified place = h.registry.lastNotified place
  answered : ∀ (i ticket : Nat) (a : Answer) (e : Registration), x.waits[i]? = some (ticket, some a) → es[i]? = some e → a.Fits limit ⟨e, m⟩

/-- What one who waits is told fits the send. -/
theorem fits_of_await? {p : Pool} {ticket : Nat} {s : Submission} {r : Except DispatchError Unit}
    (hs : p.submissions[ticket]? = some s) (hr : p.await? limit ticket = some r) : Answer.Fits limit s.send ⟨s, r⟩ := by
  obtain ⟨send, phase⟩ := s
  rw [Pool.await?, Pool.result?, hs] at hr
  cases phase with
  | finished o =>
    obtain rfl := Option.some.inj hr
    exact .ended o
  | waiting | sending =>
    obtain ⟨s, hs', hr⟩ := Option.bind_eq_some_iff.mp hr
    obtain rfl := Option.some.inj hs'
    obtain ⟨span, hl, hr⟩ := Option.bind_eq_some_iff.mp hr
    obtain rfl := Option.some.inj hr
    exact .expired hl fun o => Phase.noConfusion

/-- The command begins with nothing activated. -/
theorem sound_begun {app : App} (hempty : app.hub.pool.submissions = []) (files : Files) (es : List Registration) :
    Sound app.hub m es now limit { app, files, left := es } where
  registered := rfl
  places := rfl
  enforced := rfl
  left := rfl
  begun := Nat.zero_le _
  submitted := by rw [hempty]; rfl
  ticketed := rfl
  stamped i e hi := absurd hi (Nat.not_lt_zero i)
  untouched _ _ := rfl
  answered i ticket a e hw := by cases hw

/-- Work leaves a command as it is. -/
theorem Sound.work (hx : x.Sound h m es now limit) {app : App} {files : Files} (hw : App.Works (x.app, x.files) (app, files)) :
    Sound h m es now limit { x with app, files } := by
  obtain ⟨hregistry, henforced, hsends⟩ := hw.alike
  dsimp only at hregistry henforced hsends
  exact { hx with
    registered := by rw [hregistry]; exact hx.registered
    places := by rw [hregistry]; exact hx.places
    enforced := by rw [henforced]; exact hx.enforced
    submitted := by rw [hsends]; exact hx.submitted
    stamped := by rw [hregistry]; exact hx.stamped
    untouched := by rw [hregistry]; exact hx.untouched }

/-- The next registration of a command. -/
theorem Sound.next (hx : x.Sound h m es now limit) {e : Registration} {left : List Registration} (hleft : x.left = e :: left) :
    es[x.waits.length]? = some e ∧ es.drop (x.waits.length + 1) = left :=
  Counting.of_drop_eq_cons (hx.left.symm.trans hleft)

/-- Its place is none of those before it. -/
theorem Found.place_ne (hf : Found h m es) {i k : Nat} {e e' : Registration} (hik : i < k) (he' : es[i]? = some e')
    (he : es[k]? = some e) : e'.place ≠ e.place := by
  obtain ⟨hi, rfl⟩ := List.getElem?_eq_some_iff.mp he'
  obtain ⟨hk, rfl⟩ := List.getElem?_eq_some_iff.mp he
  exact List.pairwise_iff_getElem.mp hf.distinct i k hi hk hik

/-- Activating the next registration. -/
theorem Sound.activate (hx : x.Sound h m es now limit) (hf : Found h m es) {e : Registration} {left : List Registration}
    (hleft : x.left = e :: left) : Sound h m es now limit { x with
      app := x.app.withHub (x.app.hub.activate (now x.waits.length) e m).2
      left
      waits := x.waits ++ [((x.app.hub.activate (now x.waits.length) e m).1, none)] } := by
  obtain ⟨he, hdrop⟩ := hx.next hleft
  have hlt : x.waits.length < es.length := (List.getElem?_eq_some_iff.mp he).1
  have hplace : e.place < x.app.hub.registry.stamps.length := hx.places ▸ hf.placed e (List.mem_of_getElem? he)
  have hacts := Hub.activations_activate x.app.hub hplace (fun i => now (x.waits.length + i)) m
  have htake : es.take (x.waits.length + 1) = es.take x.waits.length ++ [e] := by
    rw [List.take_add_one, he]
    rfl
  -- the place was not stamped before
  have hbefore : x.app.hub.registry.lastNotified e.place = h.registry.lastNotified e.place := by
    refine hx.untouched e.place fun e' he' => ?_
    obtain ⟨i, hi⟩ := List.getElem?_of_mem he'
    rw [List.getElem?_take] at hi
    split at hi
    · next hik => exact hf.place_ne hik hi he
    · cases hi
  have hlength : (x.waits ++ [((x.app.hub.activate (now x.waits.length) e m).1, (none : Option Answer))]).length = x.waits.length + 1 :=
    List.length_append
  constructor
  case registered => exact hacts.registered.trans hx.registered
  case places => exact hacts.places.trans hx.places
  case enforced => exact hacts.others.1.trans hx.enforced
  case left =>
    rw [hlength]
    exact hdrop.symm
  case begun =>
    rw [hlength]
    exact hlt
  case submitted =>
    rw [hlength, htake, List.map_append, ← hx.submitted]
    exact congrArg (fun p : Pool => p.submissions.map (·.send)) hacts.submitted |>.trans List.map_append
  case ticketed =>
    have hticket : (x.app.hub.activate (now x.waits.length) e m).1 = x.waits.length := by
      have hcount := congrArg List.length hx.submitted
      rw [List.length_map, List.length_map, List.length_take, Nat.min_eq_left hx.begun] at hcount
      exact hcount
    rw [hlength, List.map_append, hx.ticketed, List.range_succ, hticket]
    rfl
  case stamped =>
    intro i e' hi he'
    rw [hlength] at hi
    rcases Nat.lt_succ_iff_lt_or_eq.mp hi with hlt' | rfl
    · have hne := hf.place_ne hlt' he' he
      have hsame := hacts.untouched e'.place fun f hf => List.mem_singleton.mp hf ▸ hne.symm
      exact hsame.trans (hx.stamped i e' hlt' he')
    · obtain rfl : e = e' := Option.some.inj (he.symm.trans he')
      rw [← hbefore]
      exact hacts.stamped 0 e rfl
  case untouched =>
    intro place hplace
    rw [hlength, htake] at hplace
    have hsame := hacts.untouched place fun f hf => hplace f (List.mem_append_right _ hf)
    exact hsame.trans (hx.untouched place fun f hf => hplace f (List.mem_append_left _ hf))
  case answered =>
    intro i ticket a e' hw he'
    rw [List.getElem?_append] at hw
    split at hw
    · exact hx.answered i ticket a e' hw he'
    · cases (Prod.mk.inj (List.mem_singleton.mp (List.mem_of_getElem? hw))).2

/-- The wait for a registration is for the send to it. -/
theorem Sound.send_eq (hx : x.Sound h m es now limit) {i ticket : Nat} {a : Option Answer} (hw : x.waits[i]? = some (ticket, a))
    {s : Submission} (hs : x.app.hub.pool.submissions[ticket]? = some s) {e : Registration} (he : es[i]? = some e) : s.send = ⟨e, m⟩ := by
  have hi : i < x.waits.length := (List.getElem?_eq_some_iff.mp hw).1
  have hticket : (x.waits.map (·.1))[i]? = some ticket := by rw [List.getElem?_map, hw]; rfl
  rw [hx.ticketed, List.getElem?_range hi] at hticket
  obtain rfl := Option.some.inj hticket
  have hsend : (x.app.hub.pool.submissions.map (·.send))[i]? = some s.send := by rw [List.getElem?_map, hs]; rfl
  rw [hx.submitted, List.getElem?_map, List.getElem?_take, if_pos hi, he] at hsend
  exact (Option.some.inj hsend).symm

/-- An answer to one of the waits. -/
theorem Sound.answer (hx : x.Sound h m es now limit) {i ticket : Nat} {s : Submission} {r : Except DispatchError Unit}
    (hw : x.waits[i]? = some (ticket, none)) (hs : x.app.hub.pool.submissions[ticket]? = some s)
    (hr : x.app.hub.pool.await? limit ticket = some r) :
    Sound h m es now limit { x with waits := x.waits.set i (ticket, some ⟨s, r⟩) } := by
  have hlength : (x.waits.set i (ticket, some (Answer.mk s r))).length = x.waits.length := List.length_set
  have hticketed : (x.waits.set i (ticket, some (Answer.mk s r))).map (·.1) = x.waits.map (·.1) := Counting.map_set_of_eq hw rfl
  exact {
    registered := hx.registered
    places := hx.places
    enforced := hx.enforced
    left := by rw [hlength]; exact hx.left
    begun := by rw [hlength]; exact hx.begun
    submitted := by rw [hlength]; exact hx.submitted
    ticketed := by rw [hlength, hticketed]; exact hx.ticketed
    stamped := by rw [hlength]; exact hx.stamped
    untouched := by rw [hlength]; exact hx.untouched
    answered := by
      intro j ticket' a e hj he
      rw [List.getElem?_set] at hj
      split at hj
      · next hij =>
        subst hij
        rw [if_pos (List.getElem?_eq_some_iff.mp hw).1] at hj
        obtain ⟨rfl, ha⟩ := Prod.mk.inj (Option.some.inj hj)
        rw [← Option.some.inj ha, ← hx.send_eq hw hs he]
        exact fits_of_await? hs hr
      · exact hx.answered j ticket' a e hj he }

/-- A step keeps a command sound. -/
theorem Sound.step (hx : x.Sound h m es now limit) (hf : Found h m es) (hstep : x.Step m now limit y) : Sound h m es now limit y := by
  cases hstep with
  | work hw => exact hx.work hw
  | activate hleft => exact hx.activate hf hleft
  | answer hleft hw hs hr => exact hx.answer hw hs hr

/-- It is something that the application does, or nothing. -/
theorem Sound.goes (hx : x.Sound h m es now limit) (hf : Found h m es) (hstep : x.Step m now limit y) :
    ReflTransGen App.Goes (x.app, x.files) (y.app, y.files) := by
  cases hstep with
  | work hw => exact .single hw.goes
  | @activate e left hleft =>
    have he : e ∈ es := List.mem_of_getElem? (hx.next hleft).1
    have hcheck : x.app.hub.check m e.identity = .ok e := by
      rw [← hf.checked e he]
      unfold Hub.check Registry.resolve
      rw [hx.registered, hx.enforced]
    have hdispatch : x.app.hub.dispatch (now x.waits.length) e.identity m = .ok (x.app.hub.activate (now x.waits.length) e m) := by
      rw [Hub.dispatch, Hub.Operation.on, Hub.run_dispatch, hcheck]
    exact .single (.dispatch hdispatch)
  | answer => exact .refl

/-- A run keeps a command sound. -/
theorem Sound.runs (hx : x.Sound h m es now limit) (hf : Found h m es) (hruns : ReflTransGen (Step m now limit) x y) :
    Sound h m es now limit y := by
  induction hruns with
  | refl => exact hx
  | tail _ hstep ih => exact ih.step hf hstep

/-- It is what the application does meanwhile. -/
theorem Sound.goes_of_runs (hx : x.Sound h m es now limit) (hf : Found h m es) (hruns : ReflTransGen (Step m now limit) x y) :
    ReflTransGen App.Goes (x.app, x.files) (y.app, y.files) := by
  induction hruns with
  | refl => exact .refl
  | tail hbefore hstep ih => exact ih.trans ((hx.runs hf hbefore).goes hf hstep)

/-- When all targets are activated and all waits answered, there is an answer for each target that fits the send to it. -/
theorem Sound.fits (hx : x.Sound h m es now limit) (hleft : x.left = []) {answers : List Answer}
    (hall : x.waits.map (·.2) = answers.map some) : List.Forall₂ (fun e (a : Answer) => a.Fits limit ⟨e, m⟩) es answers := by
  have hlength : x.waits.length = es.length :=
    Nat.le_antisymm hx.begun (List.drop_eq_nil_iff.mp (hx.left.symm.trans hleft))
  have hanswers : x.waits.length = answers.length := by
    have hcount := congrArg List.length hall
    rwa [List.length_map, List.length_map] at hcount
  rw [List.forall₂_iff_get]
  refine ⟨hlength.symm.trans hanswers, fun i hi hi' => ?_⟩
  have hanswer : (x.waits.map (·.2))[i]? = some (some answers[i]) := by
    rw [hall, List.getElem?_map, List.getElem?_eq_getElem hi']
    rfl
  rw [List.getElem?_map] at hanswer
  obtain ⟨⟨ticket, a⟩, hw, rfl⟩ := Option.map_eq_some_iff.mp hanswer
  exact hx.answered i ticket _ _ hw (List.getElem?_eq_getElem hi)

end Sending

end Herald
