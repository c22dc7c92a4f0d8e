import Mathlib.Data.List.Forall2
import ParseTree.Proofs.Announcing
import ParseTree.Proofs.Batch
import ParseTree.Proofs.Names
import ParseTree.Proofs.RoundTrip
import ParseTree.Proofs.Volumes

/-!
# Printing is all or nothing

`print` loads a vocabulary, loads trees, flattens the trees, and only then writes.  `Fails` says how
each of these stages can fail, whatever the others do, and `Prints` says what is written if none of
them does.

* **Loading** — `readVocabulary` and `readTree` fail exactly as their stages do
  (`fails_vocabulary_iff`, `fails_tree_iff`).
* **The first failure** — a stage fails in one way only (`Fails.eq`), so there is one first failure,
  and it is what the request fails with (`FirstFailure.drawRequest_eq`).  A request that does not
  fail gives what there is to print (`Prints.drawRequest_eq`).
* **Arguments** — the trees are drawn in the order of the command line (`trees_sublist`).
* **Writing** — a failure is announced and leaves the files as they were, on any file system
  (`FirstFailure.endsIn`).  Without one, the diagrams go to the standard output
  (`Prints.to_stdout`) or to one file (`Prints.to_file`), which on a volume then holds nothing else
  (`Prints.to_volume`).
-/

namespace ParseTree

/-! ## What is on a disk -/

/-- The file at a path declares a vocabulary. -/
def Disk.Declares (disk : Disk) (path : String) (v : Vocabulary) : Prop :=
  ∃ text, disk.read path = .ok text ∧ v.ReadFrom text

/-- The file at a path holds a tree. -/
def Disk.HoldsTree (disk : Disk) (path : String) (t : Tree) : Prop :=
  ∃ text, disk.read path = .ok text ∧ Tree.ofJson text = .ok t

namespace Command

variable {disk : Disk} {r : PrintRequest} {v : Vocabulary} {t : Tree} {f : Failure} {path : String}

lemma readVocabulary_eq_ok_iff : readVocabulary disk path = .ok v ↔ disk.Declares path v := by
  rw [readVocabulary, readFile, Disk.Declares]
  cases hread : disk.read path with
  | error fault => simp [Except.bind]
  | ok text =>
      cases hparse : Table.parse text with
      | error e =>
          simp [Except.bind, SourceFile.vocabulary, Vocabulary.ReadFrom, hparse, Except.mapError]
      | ok table =>
          cases hbuild : Vocabulary.build table <;>
            simp [Except.bind, SourceFile.vocabulary, Vocabulary.ReadFrom, hparse, hbuild,
              Except.mapError]

lemma readTree_eq_ok_iff : readTree disk path = .ok t ↔ disk.HoldsTree path t := by
  rw [readTree, readFile, Disk.HoldsTree]
  cases hread : disk.read path with
  | error fault => simp [Except.bind]
  | ok text =>
      cases hparse : Tree.ofJson text <;>
        simp [Except.bind, SourceFile.tree, hparse, Except.mapError]

/-! ## Stages -/

/-- The stages of `print`.  Trees are counted from zero. -/
inductive Stage
  | vocabulary
  | tree (k : Nat)
  | flattening (k : Nat)
deriving DecidableEq

/-- Which stages come before which: the vocabulary, then the trees in order, then their
flattenings. -/
def Stage.Precedes : Stage → Stage → Prop
  | .vocabulary, .tree _ => True
  | .vocabulary, .flattening _ => True
  | .tree j, .tree k => j < k
  | .tree _, .flattening _ => True
  | .flattening j, .flattening k => j < k
  | _, _ => False

lemma Stage.precedes_trichotomy (s s' : Stage) : s.Precedes s' ∨ s = s' ∨ s'.Precedes s := by
  cases s <;> cases s' <;> simp [Precedes] <;> omega

/-- How lines are counted in the trees. -/
def PrintRequest.lineBase (r : PrintRequest) : LineBase :=
  if r.zeroBased then .zero else .one

/-- How a stage can fail. -/
inductive Fails (disk : Disk) (r : PrintRequest) : Stage → Failure → Prop
  | unreadableTable {fault : FileFault} (hread : disk.read r.tokens = .error fault) :
      Fails disk r .vocabulary (.unreadable r.tokens fault)
  | badTable {text : String} {e : TableError} (hread : disk.read r.tokens = .ok text)
      (hparse : Table.parse text = .error e) :
      Fails disk r .vocabulary (.load (.badTable ⟨r.tokens, text⟩ e.report))
  | declaration {text : String} {table : Table} {e : DeclarationError}
      (hread : disk.read r.tokens = .ok text) (hparse : Table.parse text = .ok table)
      (hbuild : Vocabulary.build table = .error e) :
      Fails disk r .vocabulary (.load (.declaration e))
  | unreadableTree {k : Nat} {path : String} {fault : FileFault} (hk : r.trees[k]? = some path)
      (hread : disk.read path = .error fault) : Fails disk r (.tree k) (.unreadable path fault)
  | badTree {k : Nat} {path text : String} {e : Json.ReadError} (hk : r.trees[k]? = some path)
      (hread : disk.read path = .ok text) (hparse : Tree.ofJson text = .error e) :
      Fails disk r (.tree k) (.load (.badTree ⟨path, text⟩ (e.report ⟨path, text⟩)))
  | label {k : Nat} {path : String} {v : Vocabulary} {t : Tree} {e : LabelError}
      (hv : disk.Declares r.tokens v) (hk : r.trees[k]? = some path) (ht : disk.HoldsTree path t)
      (hflat : t.flatten v r.lineBase = .error e) : Fails disk r (.flattening k) (.label e)

lemma fails_vocabulary_iff :
    Fails disk r .vocabulary f ↔ readVocabulary disk r.tokens = .error f := by
  rw [readVocabulary, readFile]
  constructor
  · intro h
    cases h with
    | unreadableTable hread => simp [hread, Except.bind]
    | badTable hread hparse =>
        simp [hread, Except.bind, SourceFile.vocabulary, hparse, Except.mapError]
    | declaration hread hparse hbuild =>
        simp [hread, Except.bind, SourceFile.vocabulary, hparse, hbuild, Except.mapError]
  · intro h
    cases hread : disk.read r.tokens with
    | error fault =>
        simp only [hread, Except.bind, Except.error.injEq] at h
        exact h ▸ .unreadableTable hread
    | ok text =>
        cases hparse : Table.parse text with
        | error e =>
            simp only [hread, Except.bind, SourceFile.vocabulary, hparse, Except.mapError,
              Except.error.injEq] at h
            exact h ▸ .badTable hread hparse
        | ok table =>
            cases hbuild : Vocabulary.build table with
            | error e =>
                simp only [hread, Except.bind, SourceFile.vocabulary, hparse, hbuild,
                  Except.mapError, Except.error.injEq] at h
                exact h ▸ .declaration hread hparse hbuild
            | ok v =>
                simp [hread, Except.bind, SourceFile.vocabulary, hparse, hbuild,
                  Except.mapError] at h

lemma fails_tree_iff {k : Nat} : Fails disk r (.tree k) f ↔
    ∃ path, r.trees[k]? = some path ∧ readTree disk path = .error f := by
  constructor
  · intro h
    cases h with
    | unreadableTree hk hread => exact ⟨_, hk, by simp [readTree, readFile, hread, Except.bind]⟩
    | badTree hk hread hparse =>
        exact ⟨_, hk, by
          simp [readTree, readFile, hread, Except.bind, SourceFile.tree, hparse, Except.mapError]⟩
  · rintro ⟨path, hk, h⟩
    rw [readTree, readFile] at h
    cases hread : disk.read path with
    | error fault =>
        simp only [hread, Except.bind, Except.error.injEq] at h
        exact h ▸ .unreadableTree hk hread
    | ok text =>
        cases hparse : Tree.ofJson text with
        | error e =>
            simp only [hread, Except.bind, SourceFile.tree, hparse, Except.mapError,
              Except.error.injEq] at h
            exact h ▸ .badTree hk hread hparse
        | ok t => simp [hread, Except.bind, SourceFile.tree, hparse, Except.mapError] at h

lemma eq_of_declares {v' : Vocabulary} (h : disk.Declares path v) (h' : disk.Declares path v') :
    v = v' := by
  rw [← readVocabulary_eq_ok_iff] at h h'
  simpa using h.symm.trans h'

lemma eq_of_holdsTree {t' : Tree} (h : disk.HoldsTree path t) (h' : disk.HoldsTree path t') :
    t = t' := by
  rw [← readTree_eq_ok_iff] at h h'
  simpa using h.symm.trans h'

/-- A stage fails in one way only. -/
lemma Fails.eq {s : Stage} {f' : Failure} (h : Fails disk r s f) (h' : Fails disk r s f') :
    f = f' := by
  cases s with
  | vocabulary =>
      rw [fails_vocabulary_iff] at h h'
      simpa using h.symm.trans h'
  | tree k =>
      obtain ⟨path, hk, herror⟩ := fails_tree_iff.mp h
      obtain ⟨path', hk', herror'⟩ := fails_tree_iff.mp h'
      obtain rfl : path = path' := by simpa using hk.symm.trans hk'
      simpa using herror.symm.trans herror'
  | flattening k =>
      cases h with
      | label hv hk ht hflat =>
          cases h' with
          | label hv' hk' ht' hflat' =>
              obtain rfl := eq_of_declares hv hv'
              obtain rfl := Option.some.inj (hk.symm.trans hk')
              obtain rfl := eq_of_holdsTree ht ht'
              simpa using hflat.symm.trans hflat'

lemma not_fails_vocabulary (hv : disk.Declares r.tokens v) : ¬ Fails disk r .vocabulary f := by
  rw [fails_vocabulary_iff, readVocabulary_eq_ok_iff.mpr hv]
  simp

lemma not_fails_tree {k : Nat} (h : ∀ path, r.trees[k]? = some path → ∃ t, disk.HoldsTree path t) :
    ¬ Fails disk r (.tree k) f := by
  rw [fails_tree_iff]
  rintro ⟨path, hk, herror⟩
  obtain ⟨t, ht⟩ := h path hk
  rw [readTree_eq_ok_iff.mpr ht] at herror
  cases herror

lemma not_fails_flattening {k : Nat} (hv : disk.Declares r.tokens v)
    (h : ∀ path, r.trees[k]? = some path →
      ∃ t flat, disk.HoldsTree path t ∧ t.flatten v r.lineBase = .ok flat) :
    ¬ Fails disk r (.flattening k) f := by
  intro hfails
  cases hfails with
  | label hv' hk ht' herror =>
      obtain ⟨t, flat, ht, hflat⟩ := h _ hk
      rw [eq_of_declares hv' hv, eq_of_holdsTree ht' ht, hflat] at herror
      cases herror

/-! ## The first failure -/

/-- A stage fails and none before it does. -/
structure FirstFailure (disk : Disk) (r : PrintRequest) (s : Stage) (f : Failure) : Prop where
  fails : Fails disk r s f
  first : ∀ s' f', Fails disk r s' f' → ¬ s'.Precedes s

lemma FirstFailure.eq {s s' : Stage} {f' : Failure} (h : FirstFailure disk r s f)
    (h' : FirstFailure disk r s' f') : f = f' := by
  rcases s.precedes_trichotomy s' with hlt | rfl | hgt
  · exact absurd hlt (h'.first s f h.fails)
  · exact h.fails.eq h'.fails
  · exact absurd hgt (h.first s' f' h'.fails)

/-- What `print` writes: the diagrams of the trees in the files it is given, in their order. -/
def Prints (disk : Disk) (r : PrintRequest) (diagrams : List String) : Prop :=
  ∃ v trees, disk.Declares r.tokens v ∧ List.Forall₂ disk.HoldsTree r.trees trees ∧
    List.Forall₂ (fun t diagram => ∃ flat, t.flatten v r.lineBase = .ok flat ∧ flat.draw = diagram)
      trees diagrams

lemma exists_getElem?_of_forall₂ {α β : Type} {R : α → β → Prop} {xs : List α} {ys : List β}
    (h : List.Forall₂ R xs ys) {k : Nat} {x : α} (hx : xs[k]? = some x) :
    ∃ y, ys[k]? = some y ∧ R x y := by
  induction h generalizing k with
  | nil => simp at hx
  | cons hxy _ ih =>
      cases k with
      | zero =>
          obtain rfl : _ = x := by simpa using hx
          exact ⟨_, by simp, hxy⟩
      | succ k => simpa using ih (by simpa using hx)

/-- Where something is printed, no stage fails. -/
lemma Prints.not_fails {diagrams : List String} (h : Prints disk r diagrams) {s : Stage} :
    ¬ Fails disk r s f := by
  obtain ⟨v, trees, hv, htrees, hdrawn⟩ := h
  cases s with
  | vocabulary => exact not_fails_vocabulary hv
  | tree k =>
      refine not_fails_tree fun path hk => ?_
      obtain ⟨t, _, ht⟩ := exists_getElem?_of_forall₂ htrees hk
      exact ⟨t, ht⟩
  | flattening k =>
      refine not_fails_flattening hv fun path hk => ?_
      obtain ⟨t, hk, ht⟩ := exists_getElem?_of_forall₂ htrees hk
      obtain ⟨_, _, flat, hflat, _⟩ := exists_getElem?_of_forall₂ hdrawn hk
      exact ⟨t, flat, ht, hflat⟩

lemma Prints.eq {diagrams diagrams' : List String} (h : Prints disk r diagrams)
    (h' : Prints disk r diagrams') : diagrams = diagrams' := by
  obtain ⟨v, trees, hv, htrees, hdrawn⟩ := h
  obtain ⟨v', trees', hv', htrees', hdrawn'⟩ := h'
  obtain rfl := eq_of_declares hv hv'
  have hunique : Relator.RightUnique disk.HoldsTree := fun _ _ _ => eq_of_holdsTree
  obtain rfl := List.right_unique_forall₂' hunique htrees htrees'
  rw [← Batch.drawEach_eq_ok_iff] at hdrawn hdrawn'
  rw [Except.ok.inj (hdrawn.symm.trans hdrawn')]

lemma readTrees_eq (done : List Tree) (paths : List String) :
    readTrees disk done paths = (paths.mapM (readTree disk)).map (done.reverse ++ ·) := by
  induction paths generalizing done with
  | nil => simp [readTrees, Except.map, pure, Except.pure]
  | cons path rest ih =>
      rw [readTrees, List.mapM_cons]
      cases readTree disk path with
      | error f => rfl
      | ok t =>
          simp only [ih]
          cases rest.mapM (readTree disk) <;>
            simp [Except.map, bind, Except.bind, pure, Except.pure]

lemma mem_of_getElem?_append {α : Type} {before after : List α} {j : Nat} {x : α}
    (hj : j < before.length) (hx : (before ++ after)[j]? = some x) : x ∈ before := by
  rw [List.getElem?_append_left hj] at hx
  exact List.mem_of_getElem? hx

/-- With the vocabulary at hand, the first tree that cannot be loaded is the first failure. -/
lemma firstFailure_of_readTree (hv : disk.Declares r.tokens v) {before after : List String}
    (hpaths : r.trees = before ++ path :: after) (hbefore : ∀ p ∈ before, ∃ t, disk.HoldsTree p t)
    (herror : readTree disk path = .error f) : FirstFailure disk r (.tree before.length) f := by
  refine ⟨fails_tree_iff.mpr ⟨path, by simp [hpaths], herror⟩, fun s' f' hfails hlt => ?_⟩
  cases s' with
  | vocabulary => exact not_fails_vocabulary hv hfails
  | tree j =>
      refine not_fails_tree (fun p hj => ?_) hfails
      rw [hpaths] at hj
      exact hbefore p (mem_of_getElem?_append hlt hj)
  | flattening j => exact hlt

/-- With the vocabulary and the trees at hand, the first tree that cannot be flattened is the first
failure. -/
lemma firstFailure_of_flatten (hv : disk.Declares r.tokens v) {before after : List Tree}
    {e : LabelError} (htrees : List.Forall₂ disk.HoldsTree r.trees (before ++ t :: after))
    (hbefore : ∀ s ∈ before, ∃ flat, s.flatten v r.lineBase = .ok flat)
    (herror : t.flatten v r.lineBase = .error e) :
    FirstFailure disk r (.flattening before.length) (.label e) := by
  obtain ⟨path, hk, ht⟩ :=
    exists_getElem?_of_forall₂ htrees.flip (k := before.length) (x := t) (by simp)
  refine ⟨.label hv hk ht herror, fun s' f' hfails hlt => ?_⟩
  cases s' with
  | vocabulary => exact not_fails_vocabulary hv hfails
  | tree j =>
      refine not_fails_tree (fun p hj => ?_) hfails
      obtain ⟨t', _, ht'⟩ := exists_getElem?_of_forall₂ htrees hj
      exact ⟨t', ht'⟩
  | flattening j =>
      refine not_fails_flattening hv (fun p hj => ?_) hfails
      obtain ⟨t', hj', ht'⟩ := exists_getElem?_of_forall₂ htrees hj
      obtain ⟨flat, hflat⟩ := hbefore t' (mem_of_getElem?_append hlt hj')
      exact ⟨t', flat, ht', hflat⟩

/-- A request fails with the first failure, or is met by what there is to print. -/
lemma exists_firstFailure_or_prints (disk : Disk) (r : PrintRequest) :
    (∃ s f, FirstFailure disk r s f ∧ drawRequest disk r = .error f) ∨
      ∃ diagrams, Prints disk r diagrams ∧ drawRequest disk r = .ok diagrams := by
  rw [drawRequest]
  cases hv : readVocabulary disk r.tokens with
  | error f =>
      refine Or.inl ⟨.vocabulary, f, ⟨fails_vocabulary_iff.mpr hv, fun s' f' _ hlt => ?_⟩, rfl⟩
      cases s' <;> exact hlt
  | ok v =>
      rw [readVocabulary_eq_ok_iff] at hv
      simp only [readTrees_eq, List.reverse_nil, List.nil_append, Batch.drawAll,
        Batch.drawOn_eq_drawEach]
      cases htrees : r.trees.mapM (readTree disk) with
      | error f =>
          obtain ⟨before, path, after, hpaths, hbefore, herror⟩ := mapM_eq_error_iff.mp htrees
          simp only [readTree_eq_ok_iff] at hbefore
          exact Or.inl ⟨_, f, firstFailure_of_readTree hv hpaths hbefore herror, rfl⟩
      | ok trees =>
          rw [mapM_eq_ok_iff] at htrees
          simp only [readTree_eq_ok_iff] at htrees
          simp only [Except.map]
          cases hdraw : Batch.drawEach v (if r.zeroBased then .zero else .one) trees with
          | error e =>
              obtain ⟨before, t, after, rfl, hbefore, herror⟩ :=
                Batch.drawEach_eq_error_iff.mp hdraw
              exact Or.inl ⟨_, _, firstFailure_of_flatten hv htrees hbefore herror, rfl⟩
          | ok diagrams =>
              have hdrawn := Batch.drawEach_eq_ok_iff.mp hdraw
              exact Or.inr ⟨diagrams, ⟨v, trees, hv, htrees, hdrawn⟩, rfl⟩

lemma FirstFailure.drawRequest_eq {s : Stage} (h : FirstFailure disk r s f) :
    drawRequest disk r = .error f := by
  rcases exists_firstFailure_or_prints disk r with ⟨s', f', h', hdraw⟩ | ⟨diagrams, hprints, _⟩
  · rw [hdraw, h.eq h']
  · exact absurd h.fails hprints.not_fails

lemma Prints.drawRequest_eq {diagrams : List String} (h : Prints disk r diagrams) :
    drawRequest disk r = .ok diagrams := by
  rcases exists_firstFailure_or_prints disk r with ⟨s, f, hfirst, _⟩ | ⟨diagrams', h', hdraw⟩
  · exact absurd hfirst.fails h.not_fails
  · rw [hdraw, h.eq h']

lemma Fails.announces {s : Stage} (h : Fails disk r s f) : Announces f f.text := by
  cases h with
  | unreadableTable => exact announces_unreadable _ _
  | badTable => exact announces_badTable (TableError.report_message_ne _)
  | declaration => exact announces_declaration _
  | unreadableTree => exact announces_unreadable _ _
  | badTree => exact announces_badTree (Json.ReadError.report_message_ne _ _)
  | label => exact announces_label _

/-! ## Arguments -/

section Arguments

variable {arguments : List String} {items : List Item}

/-- An option is no word. -/
lemma words_of_takeOption {name : Name} {attached : Option String} {rest left : List String}
    {item : Item} (h : takeOption name attached rest = some (item, left)) :
    words (item :: items) = words items := by
  unfold takeOption at h
  split at h
  · cases h; rfl
  · cases h
  · cases h; rfl
  · cases h
  · split at h
    · cases h; rfl
    · cases h

/-- An option leaves an end of what follows it. -/
lemma words_sublist_of_takeOption {name : Option Name} {attached : Option String}
    {rest left : List String} {item : Item} (argument : String)
    (h : name.bind (takeOption · attached rest) = some (item, left))
    (hleft : (words items).Sublist left) :
    (words (item :: items)).Sublist (argument :: rest) := by
  obtain ⟨_, _, htaken⟩ := Option.bind_eq_some_iff.mp h
  rw [words_of_takeOption htaken]
  exact (hleft.trans (suffix_of_takeOption htaken).sublist).cons argument

/-- The words stand on the command line in the same order. -/
lemma words_sublist (h : scan arguments = some items) : (words items).Sublist arguments := by
  fun_induction scan arguments generalizing items with
  | case1 =>
      cases h
      exact List.Sublist.slnil
  | case2 argument rest _ =>
      cases h
      have hwords : words (rest.map .word) = rest := by simp [words, List.filterMap_map]
      rw [hwords]
      exact List.sublist_cons_self argument rest
  | case3 argument rest _ ih =>
      obtain ⟨items, hscan, rfl⟩ := Option.map_eq_some_iff.mp h
      exact (ih hscan).cons_cons argument
  | case4 => cases h
  | case5 argument rest _ _ _ _ left htaken ih =>
      obtain ⟨items, hscan, rfl⟩ := Option.map_eq_some_iff.mp h
      exact words_sublist_of_takeOption argument htaken (ih hscan)
  | case6 => cases h
  | case7 argument rest _ _ _ _ left htaken ih =>
      obtain ⟨items, hscan, rfl⟩ := Option.map_eq_some_iff.mp h
      exact words_sublist_of_takeOption argument htaken (ih hscan)

lemma trees_of_ofItems? (h : PrintRequest.ofItems? items = some r) : r.trees = words items := by
  unfold PrintRequest.ofItems? at h
  dsimp only at h
  split at h
  · next hwords =>
    split at h
    · cases h
      exact hwords.symm
    · cases h
  · cases h

lemma exists_scan_of_ofName? {name : String} (h : ofName? name arguments = some (.print r)) :
    ∃ items, scan arguments = some items ∧ PrintRequest.ofItems? items = some r := by
  unfold ofName? at h
  split at h
  · obtain ⟨request, hitems, hrequest⟩ := Option.map_eq_some_iff.mp h
    cases hrequest
    exact Option.bind_eq_some_iff.mp hitems
  · split at h
    · split at h <;> cases h
    · split at h
      · split at h <;> cases h
      · cases h

/-- The trees are drawn in the order in which they are given. -/
lemma trees_sublist (h : parse arguments = some (.print r)) : r.trees.Sublist arguments := by
  cases arguments with
  | nil => cases h
  | cons first rest =>
      have hname : ofName? first rest = some (.print r) := by
        rw [parse] at h
        split at h
        · exact h
        all_goals cases h
      obtain ⟨items, hscan, hrequest⟩ := exists_scan_of_ofName? hname
      rw [trees_of_ofItems? hrequest]
      exact (words_sublist hscan).cons first

end Arguments

/-! ## Writing -/

section Writing

variable {σ φ : Type} {fs : FileSystem σ φ} {s : σ} {arguments diagrams : List String}

/-- How a command ends that fails: it announces the failure and leaves the files as they were. -/
def EndsIn (f : Failure) (s : σ) (result : Outcome × σ) : Prop :=
  ∃ report, Announces f report ∧ result = ({ exit := 1, stdout := "", stderr := report }, s)

lemma run_print (h : parse arguments = some (.print r)) : run fs s arguments = runPrint fs s r := by
  simp only [run, h, execute]

lemma FirstFailure.endsIn {stage : Stage} (h : FirstFailure (fs.disk s) r stage f) :
    EndsIn f s (runPrint fs s r) := by
  refine ⟨f.text, h.fails.announces, ?_⟩
  simp only [runPrint, h.drawRequest_eq, Outcome.ofFailure]

lemma Prints.to_stdout (h : Prints (fs.disk s) r diagrams) (houtput : r.output = none) :
    runPrint fs s r = ({ exit := 0, stdout := String.join diagrams, stderr := "" }, s) := by
  simp only [runPrint, h.drawRequest_eq, houtput]

lemma Prints.endsIn_uncreatable (h : Prints (fs.disk s) r diagrams) (houtput : r.output = some path)
    {fault : FileFault} (hcreate : fs.create s path = .error fault) :
    EndsIn (.uncreatable path fault) s (runPrint fs s r) := by
  refine ⟨_, announces_uncreatable path fault, ?_⟩
  simp only [runPrint, h.drawRequest_eq, houtput, hcreate, Outcome.ofFailure]

lemma Prints.to_file (h : Prints (fs.disk s) r diagrams) (houtput : r.output = some path)
    {file : φ} {s' : σ} (hcreate : fs.create s path = .ok (file, s')) :
    runPrint fs s r = ({ exit := 0, stdout := "", stderr := "" },
      diagrams.foldl (fs.append · file ·) s') := by
  simp only [runPrint, h.drawRequest_eq, houtput, hcreate]

/-- On a volume, what is printed is all there is in the file afterwards. -/
lemma Prints.to_volume {v : Volume} {name : List String}
    (h : Prints (Volume.fileSystem.disk v) r diagrams) (houtput : r.output = some path)
    (hcreate : v.createName path = .ok name) :
    (runPrint Volume.fileSystem v r).2 = v.put name (String.join diagrams).toUTF8 := by
  have hcreate' : Volume.fileSystem.create v path = .ok (name, v.put name .empty) := by
    simp only [Volume.fileSystem, hcreate, Except.map]
  rw [h.to_file houtput hcreate', Volume.foldl_append_put, ByteArray.empty_append]

end Writing

/-- **Printing.**  On any file system: if a stage fails, the exit code is 1, nothing is printed but
what announces the first failure, and the files are as they were.  If none does, the diagrams go to
the standard output, or they are added one after the other to a file that is created for them.

On a volume: the diagrams are then all there is in this file, by whatever path it is read, also if
it is one of those that were read before; and no other file changes. -/
theorem run_print_all_or_nothing {arguments : List String} {r : PrintRequest}
    (h : parse arguments = some (.print r)) :
    r.trees.Sublist arguments ∧
    (∀ {σ φ : Type} (fs : FileSystem σ φ) (s : σ),
      ((∃ stage f, Fails (fs.disk s) r stage f) → ∃ stage f, FirstFailure (fs.disk s) r stage f) ∧
      (∀ stage f, FirstFailure (fs.disk s) r stage f → EndsIn f s (run fs s arguments)) ∧
      ((∀ stage f, ¬ Fails (fs.disk s) r stage f) → ∃ diagrams, Prints (fs.disk s) r diagrams) ∧
      ∀ diagrams, Prints (fs.disk s) r diagrams →
        (r.output = none → run fs s arguments =
          ({ exit := 0, stdout := String.join diagrams, stderr := "" }, s)) ∧
        ∀ path, r.output = some path →
          (∀ fault, fs.create s path = .error fault →
            EndsIn (.uncreatable path fault) s (run fs s arguments)) ∧
          ∀ file s', fs.create s path = .ok (file, s') → run fs s arguments =
            ({ exit := 0, stdout := "", stderr := "" }, diagrams.foldl (fs.append · file ·) s')) ∧
    ∀ (v : Volume) diagrams path name, Prints (Volume.fileSystem.disk v) r diagrams →
      r.output = some path → v.createName path = .ok name →
        let after := (run Volume.fileSystem v arguments).2
        after.find name = .file (String.join diagrams).toUTF8 ∧
        (∀ spelling, v.createName spelling = .ok name →
          after.read spelling = .ok (String.join diagrams)) ∧
        ∀ other, other ≠ name → after.find other = v.find other := by
  refine ⟨trees_sublist h, fun fs s => ?_, fun v diagrams path name hprints houtput hcreate => ?_⟩
  · rw [run_print h]
    refine ⟨?_, fun _ _ hfirst => hfirst.endsIn, ?_, fun diagrams hprints => ?_⟩
    · rintro ⟨stage, f, hfails⟩
      obtain ⟨stage', f', hfirst, _⟩ := (exists_firstFailure_or_prints (fs.disk s) r).resolve_right
        fun ⟨_, hprints, _⟩ => hprints.not_fails hfails
      exact ⟨stage', f', hfirst⟩
    · intro hnone
      obtain ⟨diagrams, hprints, _⟩ := (exists_firstFailure_or_prints (fs.disk s) r).resolve_left
        fun ⟨stage, f, hfirst, _⟩ => hnone stage f hfirst.fails
      exact ⟨diagrams, hprints⟩
    · exact ⟨hprints.to_stdout, fun path houtput =>
        ⟨fun _ => hprints.endsIn_uncreatable houtput, fun _ _ => hprints.to_file houtput⟩⟩
  · rw [run_print h, hprints.to_volume houtput hcreate]
    exact ⟨v.find_put name _, fun spelling hspelling => Volume.read_put hspelling,
      fun other hne => Volume.find_put_of_ne (Volume.isFolder_of_createName hcreate) hne⟩

/-- In the directory `w`, a file without a name in it and a file with a token. -/
def workbench : Volume where
  files := [⟨["w", "n"], "".toUTF8⟩, ⟨["w", "t"], (Tree.token ⟨1, "a", ⟨1, 0⟩⟩).toJson.toUTF8⟩]
  here := ["w"]

lemma find_workbench_t :
    workbench.find ["w", "t"] = .file (Tree.token ⟨1, "a", ⟨1, 0⟩⟩).toJson.toUTF8 := by
  simp [Volume.find, workbench]

lemma declares_workbench : (Volume.fileSystem.disk workbench).Declares "n" ⟨{}, #[]⟩ := by
  have hlocate : workbench.locate "n" = .ok ⟨["w", "n"], false⟩ := by decide
  have hfind : workbench.find ["w", "n"] = .file "".toUTF8 := by simp [Volume.find, workbench]
  exact ⟨"", Volume.read_of_find hlocate hfind, ⟨[]⟩, rfl, rfl⟩

lemma holdsTree_workbench {path : String}
    (hlocate : workbench.locate path = .ok ⟨["w", "t"], false⟩) :
    (Volume.fileSystem.disk workbench).HoldsTree path (.token ⟨1, "a", ⟨1, 0⟩⟩) := by
  have hbegins := Json.begins_toJson (Tree.token ⟨1, "a", ⟨1, 0⟩⟩) []
  rw [List.append_nil] at hbegins
  exact ⟨_, Volume.read_of_find hlocate find_workbench_t,
    (Json.ofJson_eq_ok_iff (Json.tree?_plainDraft _) hbegins _).mpr ⟨rfl, by simp⟩⟩

lemma readTree_workbench_x :
    readTree (Volume.fileSystem.disk workbench) "x" = .error (.unreadable "x" .notFound) := by
  have hread : (Volume.fileSystem.disk workbench).read "x" = .error .notFound := by decide
  simp only [readTree, readFile, hread, Except.bind]

/-- The diagram of a tree takes the place of the tree, though the paths to it differ.  It does not
if there are two more files to draw, one that is not there and one that holds no tree. -/
theorem run_print_all_or_nothing_workbench :
    (run Volume.fileSystem workbench ["print", "--tokens", "n", "-o", "/w/t", "../w/t"]).2.read "t"
      = .ok "'- TOKEN[type: 1, text: a]\n" ∧
    run Volume.fileSystem workbench ["print", "--tokens", "n", "-o", "t", "t", "x", "n"]
      = ({ exit := 1, stderr := "Error: failed to read `x`\n\nCaused by:\n    " ++
            "No such file or directory (os error 2)\n" }, workbench) := by
  constructor
  · have hparse : parse ["print", "--tokens", "n", "-o", "/w/t", "../w/t"]
        = some (.print ⟨"n", false, some "/w/t", ["../w/t"]⟩) := by cbv
    have hflat : ∃ flat, (Tree.token ⟨1, "a", ⟨1, 0⟩⟩).flatten ⟨{}, #[]⟩ .one = .ok flat ∧
        flat.draw = "'- TOKEN[type: 1, text: a]\n" := by
      refine ⟨_, (Tree.flatten_eq_laidOut _ _ _).trans rfl, ?_⟩
      cbv
    have hprints : Prints (Volume.fileSystem.disk workbench)
        ⟨"n", false, some "/w/t", ["../w/t"]⟩ ["'- TOKEN[type: 1, text: a]\n"] :=
      ⟨_, [_], declares_workbench, .cons (holdsTree_workbench (by decide)) .nil, .cons hflat .nil⟩
    have hcreate : ∀ path, workbench.locate path = .ok ⟨["w", "t"], false⟩ →
        workbench.createName path = .ok ["w", "t"] := by
      intro path hlocate
      simp only [Volume.createName, hlocate, find_workbench_t]
    obtain ⟨_, _, hwritten⟩ := run_print_all_or_nothing hparse
    obtain ⟨_, hread, _⟩ := hwritten workbench _ _ _ hprints rfl (hcreate "/w/t" (by decide))
    simpa using hread "t" (hcreate "t" (by decide))
  · have hparse : parse ["print", "--tokens", "n", "-o", "t", "t", "x", "n"]
        = some (.print ⟨"n", false, some "t", ["t", "x", "n"]⟩) := by cbv
    have hbefore : ∀ p ∈ ["t"], ∃ t, (Volume.fileSystem.disk workbench).HoldsTree p t :=
      List.forall_mem_singleton.mpr ⟨_, holdsTree_workbench (by decide)⟩
    obtain ⟨_, hrun, _⟩ := run_print_all_or_nothing hparse
    obtain ⟨_, hfailed, _⟩ := hrun Volume.fileSystem workbench
    obtain ⟨report, hreport, hrun⟩ := hfailed _ _
      (firstFailure_of_readTree declares_workbench rfl hbefore readTree_workbench_x)
    cases hreport with
    | unreadable hreason =>
        cases hreason
        rw [hrun]
        rfl

end Command

end ParseTree
