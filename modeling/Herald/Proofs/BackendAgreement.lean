import Herald.Proofs.SavedFile

/-!
# A file is as good as memory

What is saved to a file is loaded from it again, whatever the identities are and whatever instants a clock can show. So nobody who saves
and loads can tell a file from memory, as long as no save to the file fails (`Backend.file_agrees_with_memory`). The two are told apart by
what they hold: at any time the file gives what is written of the snapshot in memory (`Backend.Alike`), and every request keeps it so.
Inserted seconds that no clock shows and saves that fail do tell them apart (`Backend.file_differs_from_memory`).
-/

namespace Herald.Backend

/-- What a backend is asked for. -/
inductive Request
  | save (s : Snapshot)
  | load

/-- What a backend answers. -/
inductive Answer
  | saved (result : Except Failure Unit)
  | loaded (result : Except Failure Snapshot)
  deriving DecidableEq

/-- What comes of a request: the backend, the files and the answer. -/
structure Served where
  backend : Backend
  files : Files
  answer : Answer

/-- Serves a request. -/
def serve (files : Files) (b : Backend) : Request → Served
  | .save s =>
    let (backend, files, result) := b.save files s
    { backend, files, answer := .saved result }
  | .load => { backend := b, files, answer := .loaded (b.load files) }

/-- The answers of a backend to requests, one after the other. -/
def session : List Request → Files → Backend → List Answer
  | [], _, _ => []
  | request :: rest, files, b =>
    let served := serve files b request
    served.answer :: session rest served.files served.backend

/-- Whether an answer is not that a save failed. -/
def Answer.isFine : Answer → Bool
  | .saved (.error _) => false
  | _ => true

/-- Whether a snapshot may be asked to be saved: it has the version in use, and its targets are in order. -/
def Request.IsPlain : Request → Prop
  | .save s => s.version = Snapshot.currentVersion ∧ s.targets.Rising
  | .load => True

/-- Whether a clock can show all instants that are asked to be saved. -/
def Request.OnClock : Request → Prop
  | .save s => s.OnClock
  | .load => True

/-- An answer with what is written of its snapshot. -/
def Answer.written : Answer → Answer
  | .loaded (.ok s) => .loaded (.ok s.written)
  | answer => answer

/-- A file in a tree that gives what is written of the snapshot in memory. -/
structure Alike (files : Files) (path : String) (saved : Option Snapshot) : Prop where
  tree : files.Tree
  loads : StateFile.load files path = .ok (saved.getD .empty).written

variable {files : Files} {path : String} {saved : Option Snapshot}

theorem serve_save_file (files : Files) (path : String) (s : Snapshot) :
    serve files (.file path) (.save s) =
      ⟨.file path, (StateFile.save none files path s).1, .saved (StateFile.save none files path s).2⟩ :=
  rfl

/-- A missing file is like memory in which nothing was saved. -/
theorem alike_of_missing (ht : files.Tree) (hmissing : files.read path = .error .notFound) : Alike files path none where
  tree := ht
  loads := by
    rw [StateFile.load, hmissing]
    rfl

/-- A file and memory that are alike answer a request alike, up to what is written, and are alike after it, unless it is a save that
fails. -/
theorem Alike.serve (h : Alike files path saved) {request : Request} (hplain : request.IsPlain)
    (hfine : (serve files (.file path) request).answer.isFine = true) (other : Files) :
    ∃ files' saved' answer, serve files (.file path) request = ⟨.file path, files', answer.written⟩ ∧
      serve other (.memory saved false false) request = ⟨.memory saved' false false, other, answer⟩ ∧ Alike files' path saved' := by
  cases request with
  | load =>
    refine ⟨files, saved, .loaded (.ok (saved.getD .empty)), ?_, rfl, h⟩
    rw [Backend.serve, Backend.load, h.loads, Answer.written]
  | save s =>
    obtain ⟨hv, hrising⟩ := hplain
    cases hok : (StateFile.save none files path s).2 with
    | error failure =>
      rw [serve_save_file, hok] at hfine
      cases hfine
    | ok _ =>
      refine ⟨(StateFile.save none files path s).1, some s, .saved (.ok ()), ?_, rfl, ?_⟩
      · rw [serve_save_file, hok, Answer.written]
        exact nofun
      · exact ⟨(StateFile.read_of_save h.tree hok).1, StateFile.load_of_save h.tree hv hrising hok⟩

/-- A file and memory that are alike answer any requests alike, up to what is written, as long as no save to the file fails. -/
theorem Alike.session {requests : List Request} (h : Alike files path saved) (hplain : ∀ r ∈ requests, r.IsPlain)
    (hfine : ∀ a ∈ session requests files (.file path), a.isFine = true) (other : Files) :
    session requests files (.file path) = (session requests other (.memory saved false false)).map Answer.written := by
  induction requests generalizing files saved with
  | nil => rfl
  | cons request rest ih =>
    obtain ⟨hfirst, hrest⟩ := List.forall_mem_cons.mp hplain
    rw [Backend.session, List.forall_mem_cons] at hfine
    obtain ⟨files', saved', answer, hfile, hmemory, halike⟩ := h.serve hfirst hfine.1 other
    rw [hfile] at hfine
    rw [Backend.session, Backend.session, hfile, hmemory, ih halike hrest hfine.2, List.map_cons]

/-- Memory gives what a clock can show, as long as no more than that is saved: it answers what would be written. -/
theorem session_memory_of_onClock {requests : List Request} (hshown : ∀ r ∈ requests, r.OnClock) (hsaved : (saved.getD .empty).OnClock)
    (files : Files) :
    (session requests files (.memory saved false false)).map Answer.written = session requests files (.memory saved false false) := by
  induction requests generalizing saved with
  | nil => rfl
  | cons request rest ih =>
    obtain ⟨hfirst, hrest⟩ := List.forall_mem_cons.mp hshown
    cases request with
    | load =>
      change Answer.written (.loaded (.ok (saved.getD .empty))) :: _ = _ :: _
      rw [Answer.written, Snapshot.written_of_onClock hsaved]
      exact congrArg _ (ih hrest hsaved)
    | save s =>
      have hsaved : ((some s).getD .empty).OnClock := hfirst
      exact congrArg _ (ih hrest hsaved)

/-- Whatever was saved to a file without failure is loaded from it as it is written, for every snapshot of the version in use: as it was
exactly if a clock can show its instants. So a file that is missing at first and memory in which nothing was saved answer any saves and
loads of such snapshots alike, as long as no save to the file fails: up to what is written, and entirely if a clock can show the instants
of all that is saved. -/
theorem file_agrees_with_memory (ht : files.Tree) (path : String) :
    (∀ refusal s, s.version = Snapshot.currentVersion → s.targets.Rising → (StateFile.save refusal files path s).2 = .ok () →
      StateFile.load (StateFile.save refusal files path s).1 path = .ok s.written ∧
      (StateFile.load (StateFile.save refusal files path s).1 path = .ok s ↔ s.OnClock)) ∧
    (files.read path = .error .notFound → ∀ requests : List Request, (∀ r ∈ requests, r.IsPlain) →
      (∀ a ∈ session requests files (.file path), a.isFine = true) →
        session requests files (.file path) = (session requests files emptyMemory).map Answer.written ∧
        ((∀ r ∈ requests, r.OnClock) → session requests files (.file path) = session requests files emptyMemory)) := by
  constructor
  · intro refusal s hv hrising hok
    have hload := StateFile.load_of_save ht hv hrising hok
    refine ⟨hload, ?_⟩
    rw [hload, Except.ok.injEq]
    exact Snapshot.written_eq_self_iff
  · intro hmissing requests hplain hfine
    have hsame := (alike_of_missing ht hmissing).session hplain hfine files
    exact ⟨hsame, fun hshown => hsame.trans (session_memory_of_onClock hshown (fun p hp => absurd hp List.not_mem_nil) files)⟩

/-- A file that is missing, an identity with a quote, a control character and an accent, a year before the common era, an inserted second:
all that is saved is loaded. -/
theorem odd_snapshots_are_loaded :
    ∃ s₁ s₂ : Snapshot, s₁.targets.map (·.1) = ["\u0007\"é"] ∧ s₁ ≠ s₂ ∧
      session [.load, .save s₁, .load, .save s₂, .load, .load] {} (.file "state.json") =
        [.loaded (.ok .empty), .saved (.ok ()), .loaded (.ok s₁), .saved (.ok ()), .loaded (.ok s₂), .loaded (.ok s₂)] := by
  let s₁ : Snapshot := .ofTargets [("\u0007\"é", ⟨-99999999999, 500000, by decide, by decide⟩)]
  let s₂ : Snapshot := .ofTargets [("", ⟨59, 1999999999, by decide, by decide⟩), ("a", .epoch)]
  have hplain : ∀ r ∈ [Request.load, .save s₁, .load, .save s₂, .load, .load], r.IsPlain := by
    have h₁ : (Request.save s₁).IsPlain := ⟨rfl, List.pairwise_singleton _ _⟩
    have h₂ : (Request.save s₂).IsPlain := ⟨rfl, List.pairwise_pair.mpr (by decide)⟩
    simp [h₁, h₂, show Request.load.IsPlain from trivial]
  have hfine : ∀ a ∈ session [.load, .save s₁, .load, .save s₂, .load, .load] {} (.file "state.json"), a.isFine = true := by
    decide
  have hshown : ∀ r ∈ [Request.load, .save s₁, .load, .save s₂, .load, .load], r.OnClock := by
    have h₁ : s₁.OnClock := by decide
    have h₂ : s₂.OnClock := by decide
    simp [Request.OnClock, h₁, h₂]
  refine ⟨s₁, s₂, rfl, by decide, ?_⟩
  exact ((file_agrees_with_memory (Files.tree_of_empty rfl) "state.json").2 rfl _ hplain hfine).2 hshown

/-- A third of a second in a second that is inserted behind 00:00:04 is loaded as a third of the second 00:00:05. And where a directory
is in the way of the text that is written first, what was saved is not loaded at all, though memory has it. -/
theorem file_differs_from_memory :
    (∃ s : Snapshot, s = .ofTargets [("a", ⟨4, 1333333333, by decide, by decide⟩)] ∧
      (StateFile.save none {} "state.json" s).2 = .ok () ∧
      StateFile.load (StateFile.save none {} "state.json" s).1 "state.json" =
        .ok (.ofTargets [("a", ⟨5, 333333333, by decide, by decide⟩)])) ∧
    (∃ files : Files, files.Tree ∧ files.read "state.json" = .error .notFound ∧
      session [.save (.ofTargets [("a", .epoch)]), .load] files (.file "state.json") =
        [.saved (.error ⟨"writing state.json.tmp", ["Is a directory (os error 21)"]⟩), .loaded (.ok .empty)] ∧
      session [.save (.ofTargets [("a", .epoch)]), .load] files emptyMemory =
        [.saved (.ok ()), .loaded (.ok (.ofTargets [("a", .epoch)]))]) := by
  constructor
  · let s : Snapshot := .ofTargets [("a", ⟨4, 1333333333, by decide, by decide⟩)]
    have hrising : s.targets.Rising := List.pairwise_singleton _ _
    have hok : (StateFile.save none {} "state.json" s).2 = .ok () := by
      decide
    have hload := StateFile.load_of_save (Files.tree_of_empty rfl) rfl hrising hok
    exact ⟨s, rfl, hok, hload.trans (congrArg _ (by decide))⟩
  · have htree : (({} : Files).put ["state.json.tmp"] .dir).Tree :=
      (Files.tree_of_empty rfl).put (by decide) rfl .dir
    exact ⟨_, htree, by decide, by decide, rfl⟩

end Herald.Backend
