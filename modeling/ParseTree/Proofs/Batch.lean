import Mathlib.Logic.Function.Iterate
import ParseTree.Batch
import ParseTree.Proofs.Flatten

/-!
# Batches draw their trees one by one

`drawEach` draws trees in order, each with a flattener of its own, up to the first that fails.  A
batch gives the same, however many workers there are and in whatever order they get on.

* **Chunks** — no tree is lost, doubled or moved (`flatten_chunks`), no chunk is empty, and there
  are no more chunks than workers (`length_chunks_le`, `le_chunkSize_mul`).
* **Drawing** — `drawChunk_eq`: the flattener that a worker keeps for its chunk does not show, as it
  is faithful throughout.  `collect_drawEach`: results of chunks put together are those of the
  whole.
* **Workers** — a `Worker` is what `drawChunk` has at hand between two trees.  A turn changes one
  worker and not what it will give in the end (`outcome_step`), so no `schedule` of turns shows
  (`joined_run`).
-/

namespace ParseTree.Batch

/-! ## Chunks -/

section Chunks

variable {α : Type}

lemma flatten_chunks (size : Nat) (xs : List α) : (chunks size xs).flatten = xs := by
  fun_induction chunks size xs with
  | case1 => rfl
  | case2 x rest ih => rw [List.flatten_cons, ih, List.cons_append, List.take_append_drop]

lemma nil_notMem_chunks (size : Nat) (xs : List α) : [] ∉ chunks size xs := by
  fun_induction chunks size xs with
  | case1 => simp
  | case2 x rest ih => simpa using ih

/-- There are no more chunks than are needed. -/
lemma length_chunks_le {size n : Nat} {xs : List α} (h : xs.length ≤ size * n) :
    (chunks size xs).length ≤ n := by
  fun_induction chunks size xs generalizing n with
  | case1 => exact Nat.zero_le n
  | case2 x rest ih =>
      rw [List.length_cons] at h ⊢
      cases n with
      | zero => omega
      | succ n =>
          rw [Nat.mul_succ] at h
          have hrest : (rest.drop (size - 1)).length ≤ size * n := by
            rw [List.length_drop]
            omega
          exact Nat.succ_le_succ (ih hrest)

/-- Chunks of this size, one a worker, take all trees. -/
lemma le_chunkSize_mul (trees workers : Nat) :
    trees ≤ chunkSize trees workers * max workers 1 := by
  have hpos : 0 < max workers 1 := by omega
  have hlt := Nat.lt_div_mul_add (a := trees + max workers 1 - 1) hpos
  rw [chunkSize]
  omega

end Chunks

/-! ## Drawing -/

variable {v : Vocabulary} {base : LineBase} {f : Flattener}

/-- Draws trees one by one, each with a flattener of its own, up to the first that fails. -/
def drawEach (v : Vocabulary) (base : LineBase) (ts : List Tree) :
    Except LabelError (List String) :=
  ts.mapM fun t => (t.flatten v base).map FlatTree.draw

lemma drawEach_eq_ok_iff {ts : List Tree} {diagrams : List String} :
    drawEach v base ts = .ok diagrams ↔
      List.Forall₂ (fun t diagram => ∃ flat, t.flatten v base = .ok flat ∧ flat.draw = diagram)
        ts diagrams := by
  have hdraw : ∀ (t : Tree) (diagram : String), (t.flatten v base).map FlatTree.draw = .ok diagram ↔
      ∃ flat, t.flatten v base = .ok flat ∧ flat.draw = diagram := by
    intro t diagram
    cases t.flatten v base <;> simp [Except.map]
  rw [drawEach, mapM_eq_ok_iff]
  simp only [hdraw]

lemma drawEach_eq_error_iff {ts : List Tree} {e : LabelError} :
    drawEach v base ts = .error e ↔ ∃ before t after, ts = before ++ t :: after ∧
      (∀ s ∈ before, ∃ flat, s.flatten v base = .ok flat) ∧ t.flatten v base = .error e := by
  have hok : ∀ t : Tree, (∃ diagram, (t.flatten v base).map FlatTree.draw = .ok diagram) ↔
      ∃ flat, t.flatten v base = .ok flat := by
    intro t
    cases t.flatten v base <;> simp [Except.map]
  have herror : ∀ t : Tree, (t.flatten v base).map FlatTree.draw = .error e ↔
      t.flatten v base = .error e := by
    intro t
    cases t.flatten v base <;> simp [Except.map]
  rw [drawEach, mapM_eq_error_iff]
  simp only [hok, herror]

lemma drawEach_cons (t : Tree) (rest : List Tree) :
    drawEach v base (t :: rest) = (do
      let flat ← t.flatten v base
      let diagrams ← drawEach v base rest
      return flat.draw :: diagrams) := by
  rw [drawEach, List.mapM_cons]
  cases t.flatten v base <;> rfl

lemma drawEach_append (ts us : List Tree) :
    drawEach v base (ts ++ us) = (do
      let first ← drawEach v base ts
      let second ← drawEach v base us
      return first ++ second) :=
  List.mapM_append

/-- With a faithful flattener, the trees of a chunk are drawn as with a flattener each. -/
lemma drawChunk_eq (hf : f.Faithful v base) (done : List String) (ts : List Tree) :
    drawChunk f done ts = (drawEach v base ts).map (done.reverse ++ ·) := by
  induction ts generalizing f done with
  | nil => simp [drawChunk, drawEach, Except.map, pure, Except.pure]
  | cons t rest ih =>
      have hflat := Flattener.flatten_answers hf t
      rw [← t.flatten_eq_laidOut] at hflat
      rcases hstep : f.flatten t with ⟨found, f'⟩
      rw [hstep] at hflat
      obtain ⟨rfl, hf'⟩ := hflat
      rw [drawChunk, hstep, drawEach_cons]
      cases t.flatten v base with
      | error e => rfl
      | ok flat =>
          simp only [ih hf' (flat.draw :: done)]
          cases drawEach v base rest with
          | error e => rfl
          | ok diagrams => simp [Except.map, bind, Except.bind, pure, Except.pure]

/-- The results of chunks put together are those of all their trees. -/
lemma collect_drawEach (css : List (List Tree)) :
    collect (css.map (drawEach v base)) = drawEach v base css.flatten := by
  induction css with
  | nil => rfl
  | cons ts css ih =>
      rw [List.map_cons, List.flatten_cons, drawEach_append, ← ih]
      cases drawEach v base ts with
      | error e => rfl
      | ok first =>
          rw [collect]
          cases collect (css.map (drawEach v base)) <;> rfl

lemma drawOn_eq_drawEach (workers : Nat) (v : Vocabulary) (base : LineBase) (ts : List Tree) :
    drawOn workers v base ts = drawEach v base ts := by
  have hchunk : drawChunk (.fresh v base) [] = drawEach v base := by
    funext chunk
    rw [drawChunk_eq (Flattener.faithful_fresh v base)]
    cases drawEach v base chunk <;> simp [Except.map]
  calc drawOn workers v base ts
      = collect
          ((chunks (chunkSize ts.length workers) ts).map (drawChunk (.fresh v base) [])) := rfl
    _ = drawEach v base (chunks (chunkSize ts.length workers) ts).flatten := by
        rw [hchunk, collect_drawEach]
    _ = drawEach v base ts := by rw [flatten_chunks]

/-! ## Workers -/

/-- A worker, between two of its trees. -/
inductive Worker
  /-- These trees of the chunk are left; the diagrams drawn so far stand in reverse. -/
  | drawing (f : Flattener) (done : List String) (left : List Tree)
  | finished (result : Except LabelError (List String))

namespace Worker

/-- A worker that is handed a chunk. -/
def start (v : Vocabulary) (base : LineBase) (chunk : List Tree) : Worker :=
  .drawing (.fresh v base) [] chunk

/-- One turn: the next tree is drawn, or the worker sees that there is none. -/
def step : Worker → Worker
  | .drawing _ done [] => .finished (.ok done.reverse)
  | .drawing f done (t :: rest) =>
    match f.flatten t with
    | (.error e, _) => .finished (.error e)
    | (.ok flat, f) => .drawing f (flat.draw :: done) rest
  | .finished result => .finished result

/-- What a worker has to hand over. -/
def result? : Worker → Option (Except LabelError (List String))
  | .drawing _ _ _ => none
  | .finished result => some result

/-- What a worker will have to hand over in the end. -/
def outcome : Worker → Except LabelError (List String)
  | .drawing f done left => drawChunk f done left
  | .finished result => result

/-- After this many turns a worker is finished, if not before. -/
def turnsLeft : Worker → Nat
  | .drawing _ _ left => left.length + 1
  | .finished _ => 0

lemma outcome_step (w : Worker) : w.step.outcome = w.outcome := by
  fun_cases step w with
  | case1 => rfl
  | case2 f done t rest e f' hstep => simp [outcome, drawChunk, hstep]
  | case3 f done t rest flat f' hstep => simp [outcome, drawChunk, hstep]
  | case4 => rfl

lemma turnsLeft_step (w : Worker) : w.step.turnsLeft ≤ w.turnsLeft - 1 := by
  fun_cases step w <;> simp [turnsLeft]

lemma turnsLeft_iterate_step (n : Nat) (w : Worker) : (step^[n] w).turnsLeft ≤ w.turnsLeft - n := by
  induction n with
  | zero => exact Nat.le_refl _
  | succ n ih =>
      have hstep := turnsLeft_step (step^[n] w)
      rw [Function.iterate_succ_apply']
      omega

end Worker

/-- The workers of a batch, in the order of their chunks. -/
def startPool (workers : Nat) (v : Vocabulary) (base : LineBase) (ts : List Tree) : List Worker :=
  (chunks (chunkSize ts.length workers) ts).map (Worker.start v base)

/-- Workers after turns in this order.  Who is not there takes no turn. -/
def run (pool : List Worker) (schedule : List Nat) : List Worker :=
  schedule.foldl (fun pool i => pool.modify i Worker.step) pool

/-- What the workers have handed over, put together, once all are finished. -/
def joined (pool : List Worker) : Option (Except LabelError (List String)) :=
  (pool.mapM Worker.result?).map collect

/-- How far a worker is depends on the number of its own turns only. -/
lemma getElem?_run (pool : List Worker) (schedule : List Nat) (i : Nat) :
    (run pool schedule)[i]? = pool[i]?.map Worker.step^[schedule.count i] := by
  induction schedule generalizing pool with
  | nil => simp [run]
  | cons j schedule ih =>
      have hrun : run pool (j :: schedule) = run (pool.modify j Worker.step) schedule := rfl
      rw [hrun, ih, List.getElem?_modify, List.count_cons]
      rcases eq_or_ne j i with rfl | hne
      · simp [Function.iterate_succ]
      · simp [hne]

/-- No order of turns changes what the workers will have to hand over in the end. -/
lemma map_outcome_run (pool : List Worker) (schedule : List Nat) :
    (run pool schedule).map Worker.outcome = pool.map Worker.outcome := by
  induction schedule generalizing pool with
  | nil => rfl
  | cons i schedule ih =>
      have hturn : (pool.modify i Worker.step).map Worker.outcome = pool.map Worker.outcome := by
        apply List.ext_getElem?
        intro k
        rw [List.getElem?_map, List.getElem?_map, List.getElem?_modify]
        cases pool[k]? with
        | none => rfl
        | some w => split <;> simp [Worker.outcome_step]
      exact (ih _).trans hturn

lemma mapM_result?_eq_some_iff {pool : List Worker}
    {results : List (Except LabelError (List String))} :
    pool.mapM Worker.result? = some results ↔
      (∀ w ∈ pool, w.turnsLeft = 0) ∧ results = pool.map Worker.outcome := by
  induction pool generalizing results with
  | nil => simp [eq_comm]
  | cons w pool ih =>
      cases w with
      | drawing f done left => simp [Worker.result?, Worker.turnsLeft]
      | finished result =>
          simp only [List.mapM_cons, Worker.result?, Option.bind_eq_bind, Option.bind_some,
            Option.bind_eq_some_iff, Option.pure_def, Option.some.injEq, ih, List.forall_mem_cons]
          constructor
          · rintro ⟨_, ⟨hpool, rfl⟩, rfl⟩
            exact ⟨⟨rfl, hpool⟩, rfl⟩
          · rintro ⟨⟨_, hpool⟩, rfl⟩
            exact ⟨_, ⟨hpool, rfl⟩, rfl⟩

section Schedule

variable (workers : Nat) (v : Vocabulary) (base : LineBase) (ts : List Tree) (schedule : List Nat)

/-- Whatever the order of turns, workers that are all finished have what the batch gives. -/
lemma joined_run {result : Except LabelError (List String)}
    (h : joined (run (startPool workers v base ts) schedule) = some result) :
    result = drawOn workers v base ts := by
  obtain ⟨results, hresults, rfl⟩ := Option.map_eq_some_iff.mp h
  rw [(mapM_result?_eq_some_iff.mp hresults).2, map_outcome_run, startPool, List.map_map]
  rfl

/-- A turn for each tree of a chunk and one more finish its worker. -/
lemma joined_run_of_count
    (h : ∀ i chunk, (chunks (chunkSize ts.length workers) ts)[i]? = some chunk →
      chunk.length < schedule.count i) :
    joined (run (startPool workers v base ts) schedule) = some (drawOn workers v base ts) := by
  set pool := run (startPool workers v base ts) schedule with hpool
  have hfinished : ∀ w ∈ pool, w.turnsLeft = 0 := by
    intro w hw
    obtain ⟨i, hi⟩ := List.getElem?_of_mem hw
    rw [hpool, getElem?_run, startPool, List.getElem?_map, Option.map_map] at hi
    obtain ⟨chunk, hchunk, rfl⟩ := Option.map_eq_some_iff.mp hi
    have hturns : (Worker.start v base chunk).turnsLeft = chunk.length + 1 := rfl
    have hcount := h i chunk hchunk
    have hleft := Worker.turnsLeft_iterate_step (schedule.count i) (Worker.start v base chunk)
    rw [Function.comp_apply]
    omega
  have hjoined : joined pool = some (collect (pool.map Worker.outcome)) := by
    rw [joined, mapM_result?_eq_some_iff.mpr ⟨hfinished, rfl⟩, Option.map_some]
  rw [hjoined, joined_run workers v base ts schedule hjoined]

end Schedule

/-- **Batches.**  However many workers there are, a batch gives what drawing the trees one by one
gives: the diagrams in the order of the trees, or the error of the first tree that fails.  There are
no more chunks than workers and none is empty, and no order in which the workers take their turns
shows. -/
theorem drawOn_one_by_one (workers : Nat) (v : Vocabulary) (base : LineBase) (ts : List Tree) :
    drawOn workers v base ts = drawEach v base ts ∧
    (∀ diagrams, drawOn workers v base ts = .ok diagrams ↔
      List.Forall₂ (fun t diagram => ∃ flat, t.flatten v base = .ok flat ∧ flat.draw = diagram)
        ts diagrams) ∧
    (∀ e, drawOn workers v base ts = .error e ↔ ∃ before t after, ts = before ++ t :: after ∧
      (∀ s ∈ before, ∃ flat, s.flatten v base = .ok flat) ∧ t.flatten v base = .error e) ∧
    (chunks (chunkSize ts.length workers) ts).flatten = ts ∧
    (chunks (chunkSize ts.length workers) ts).length ≤ max workers 1 ∧
    [] ∉ chunks (chunkSize ts.length workers) ts ∧
    ∀ schedule : List Nat,
      (∀ result, joined (run (startPool workers v base ts) schedule) = some result →
        result = drawOn workers v base ts) ∧
      ((∀ i chunk, (chunks (chunkSize ts.length workers) ts)[i]? = some chunk →
          chunk.length < schedule.count i) →
        joined (run (startPool workers v base ts) schedule) = some (drawOn workers v base ts)) := by
  refine ⟨drawOn_eq_drawEach workers v base ts, ?_, ?_, flatten_chunks _ ts,
    length_chunks_le (le_chunkSize_mul ts.length workers), nil_notMem_chunks _ ts,
    fun schedule => ⟨fun _ h => joined_run workers v base ts schedule h,
      joined_run_of_count workers v base ts schedule⟩⟩
  · intro diagrams
    rw [drawOn_eq_drawEach, drawEach_eq_ok_iff]
  · intro e
    rw [drawOn_eq_drawEach, drawEach_eq_error_iff]

/-- Two tokens and a malformed label. -/
def faultyBatch : List Tree :=
  [.token ⟨1, "a", ⟨1, 0⟩⟩, .token ⟨2, "b", ⟨1, 1⟩⟩, .rule "Pair" []]

/-- The second of two workers fails before the first is at work, which is not seen until both are
through. -/
theorem drawOn_one_by_one_faultyBatch :
    joined (run (startPool 2 ⟨{}, #[]⟩ .one faultyBatch) [1, 1, 0, 0, 0])
      = some (.error (.malformed "Pair")) := by
  obtain ⟨_, _, herror, _, _, _, hrun⟩ := drawOn_one_by_one 2 ⟨{}, #[]⟩ .one faultyBatch
  have htoken : ∀ t, ∃ flat, (Tree.token t).flatten ⟨{}, #[]⟩ .one = .ok flat :=
    fun t => ⟨_, (Tree.token t).flatten_eq_laidOut _ _⟩
  have hfault : drawOn 2 ⟨{}, #[]⟩ .one faultyBatch = .error (.malformed "Pair") := by
    refine (herror _).mpr ⟨faultyBatch.take 2, .rule "Pair" [], [], rfl, ?_, ?_⟩
    · simp [faultyBatch, htoken]
    · rw [Tree.flatten_eq_laidOut]
      rfl
  have hchunks : chunks (chunkSize faultyBatch.length 2) faultyBatch
      = [faultyBatch.take 2, faultyBatch.drop 2] := by
    simp [faultyBatch, chunkSize, chunks]
  rw [(hrun _).2 ?_, hfault]
  rw [hchunks]
  rintro (_ | _ | i) chunk hchunk
  · cases hchunk; decide
  · cases hchunk; decide
  · cases hchunk

end ParseTree.Batch
