import Mathlib.Data.List.Basic
import ParseTree.Command.FileSystem

/-!
# Writing to a volume

What is written changes one file.  The file stands where a path leads, and a path leads to a file
through directories that are there already, so that not even a directory is new.

* **Leading** — `Leads`: the way of a path to a file, part by part (`locate_eq_ok_iff`).
* **Folders** — `IsFolder`: a place that some name goes through.  A path leads to files in folders
  only (`Leads.isFolder_dropLast`).
* **Finding** — `find_put`: what was written is found; `find_put_of_ne`: everywhere else there is
  what was there before.
* **Reading** — `Leads.put`: the paths that lead to the file go on leading to it, and all of them
  read what was written (`read_put`).
* **Adding** — `foldl_append_put`: texts that are added to a file are all that is behind what it
  had.
-/

namespace ParseTree.Volume

variable {v : Volume} {name other start rest : List String} {content : ByteArray} {path : String}

/-! ## Leading -/

/-- The parts of a path lead from a place to a file. -/
inductive Leads (v : Volume) : List String → List String → List String → Prop
  | stay {start rest name : List String} {part : String} (hstays : stays part = true)
      (h : Leads v start rest name) : Leads v start (part :: rest) name
  | back {start rest name : List String} (h : Leads v start.dropLast rest name) :
      Leads v start (".." :: rest) name
  | last {start : List String} {part : String} (hstays : stays part = false) (hback : part ≠ "..") :
      Leads v start [part] (start ++ [part])
  | down {start rest name : List String} {part : String} (hstays : stays part = false)
      (hback : part ≠ "..") (hrest : rest ≠ []) (hfind : v.find (start ++ [part]) = .directory)
      (h : Leads v (start ++ [part]) rest name) : Leads v start (part :: rest) name

lemma leads_of_follow (h : v.follow start rest = .ok ⟨name, false⟩) : v.Leads start rest name := by
  induction rest generalizing start with
  | nil => simp [follow] at h
  | cons part rest ih =>
      rw [follow] at h
      split at h
      · next hstays => exact .stay hstays (ih h)
      · next hstays =>
        rw [Bool.not_eq_true] at hstays
        split at h
        · next hback =>
          subst hback
          exact .back (ih h)
        · next hback =>
          dsimp only at h
          split at h
          · next hrest =>
            rw [List.isEmpty_iff] at hrest
            subst hrest
            cases h
            exact .last hstays hback
          · next hrest =>
            split at h
            · next hfind => exact .down hstays hback (by simpa using hrest) hfind (ih h)
            all_goals
              split at h <;> cases h

lemma Leads.follow_eq (h : v.Leads start rest name) :
    v.follow start rest = .ok ⟨name, false⟩ := by
  induction h with
  | stay hstays _ ih => rw [follow, if_pos hstays, ih]
  | back _ ih => simp [follow, stays, ih]
  | last hstays hback => simp [follow, hstays, hback]
  | down hstays hback hrest hfind _ ih => simp [follow, hstays, hback, hrest, hfind, ih]

/-- A path leads to a file if its parts do, from where it starts. -/
lemma locate_eq_ok_iff : v.locate path = .ok ⟨name, false⟩ ↔
    path ≠ "" ∧ path.utf8ByteSize ≤ maxPath ∧ v.Leads (v.origin path) (parts path) name := by
  rw [locate]
  split
  · next hempty => simp [hempty]
  · next hempty =>
    split
    · next hlong => simp [Nat.not_le.mpr hlong]
    · next hshort =>
      rw [Nat.not_lt] at hshort
      exact ⟨fun h => ⟨hempty, hshort, leads_of_follow h⟩, fun h => h.2.2.follow_eq⟩

/-! ## Folders -/

/-- A place that some name goes through. -/
def IsFolder (v : Volume) (name : List String) : Prop :=
  ∃ n ∈ v.names, name <+: n

lemma isFolder_iff : v.IsFolder name ↔ v.names.any (name.isPrefixOf ·) = true := by
  simp [IsFolder]

lemma IsFolder.of_prefix (h : v.IsFolder name) (hother : other <+: name) : v.IsFolder other := by
  obtain ⟨n, hn, hname⟩ := h
  exact ⟨n, hn, hother.trans hname⟩

/-- A path starts from a folder. -/
lemma isFolder_origin (v : Volume) (path : String) : v.IsFolder (v.origin path) := by
  have hhere : v.here ∈ v.names := by simp [names]
  rw [origin]
  split
  · exact ⟨v.here, hhere, List.nil_prefix⟩
  · exact ⟨v.here, hhere, List.prefix_rfl⟩

lemma isFolder_of_find (h : v.find name = .directory) : v.IsFolder name := by
  rw [find] at h
  split at h
  · cases h
  · split at h
    · next hfolder => exact isFolder_iff.mpr hfolder
    · cases h

/-- Files and folders are all that can be found. -/
lemma find_congr {v' : Volume}
    (hfile : v'.files.find? (·.name == name) = v.files.find? (·.name == name))
    (hfolder : v'.IsFolder name ↔ v.IsFolder name) : v'.find name = v.find name := by
  rw [isFolder_iff, isFolder_iff, ← Bool.eq_iff_iff] at hfolder
  rw [find, find, hfile, hfolder]

lemma Leads.isFolder_dropLast (h : v.Leads start rest name) (hstart : v.IsFolder start) :
    v.IsFolder name.dropLast := by
  induction h with
  | stay _ _ ih => exact ih hstart
  | back _ ih => exact ih (hstart.of_prefix (List.dropLast_prefix _))
  | last => rwa [List.dropLast_concat]
  | down _ _ _ hfind _ ih => exact ih (isFolder_of_find hfind)

/-! ## Finding -/

lemma find_put (v : Volume) (name : List String) (content : ByteArray) :
    (v.put name content).find name = .file content := by
  have hgone : (v.files.filter (·.name != name)).find? (·.name == name) = none := by
    rw [List.find?_eq_none]
    simp
  simp [find, put, List.find?_append, hgone]

lemma prefix_dropLast (h : other <+: name) (hne : other ≠ name) : other <+: name.dropLast := by
  rcases name.eq_nil_or_concat' with rfl | ⟨front, last, rfl⟩
  · exact absurd (List.prefix_nil.mp h) hne
  · rw [List.dropLast_concat]
    exact (List.prefix_concat_iff.mp h).resolve_left hne

lemma mem_names_put {n : List String} :
    n ∈ (v.put name content).names ↔ n = name ∨ n ∈ v.names := by
  by_cases hn : n = name
  · simp [names, put, hn]
  · simp only [names, put, List.map_append, List.mem_append, List.mem_cons, List.mem_map,
      List.mem_filter]
    grind

/-- A file in a folder makes no other folder. -/
lemma isFolder_put (hfolder : v.IsFolder name.dropLast) (hne : other ≠ name) :
    (v.put name content).IsFolder other ↔ v.IsFolder other := by
  simp only [IsFolder, mem_names_put]
  constructor
  · rintro ⟨n, rfl | hn, hprefix⟩
    · exact hfolder.of_prefix (prefix_dropLast hprefix hne)
    · exact ⟨n, hn, hprefix⟩
  · rintro ⟨n, hn, hprefix⟩
    exact ⟨n, .inr hn, hprefix⟩

/-- Everywhere else there is what was there before. -/
lemma find_put_of_ne (hfolder : v.IsFolder name.dropLast) (hne : other ≠ name) :
    (v.put name content).find other = v.find other := by
  refine find_congr ?_ (isFolder_put hfolder hne)
  have hkept : (v.files.filter (·.name != name)).find? (·.name == other)
      = v.files.find? (·.name == other) := by
    rw [List.find?_filter]
    congr 1
    funext file
    grind
  simp [put, List.find?_append, hkept, hne.symm]

/-! ## Reading -/

/-- The paths that lead to a file go on leading to it. -/
lemma Leads.put (h : v.Leads start rest name) (hfolder : v.IsFolder name.dropLast)
    (hname : v.find name ≠ .directory) : (v.put name content).Leads start rest name := by
  induction h with
  | stay hstays _ ih => exact .stay hstays (ih hfolder hname)
  | back _ ih => exact .back (ih hfolder hname)
  | last hstays hback => exact .last hstays hback
  | down hstays hback hrest hfind _ ih =>
      -- The path does not go through the file itself, where there is no directory.
      refine .down hstays hback hrest ?_ (ih hfolder hname)
      rw [find_put_of_ne hfolder (fun hsame => hname (hsame ▸ hfind)), hfind]

/-- A file is created where a path leads, unless a directory is there. -/
lemma of_createName (h : v.createName path = .ok name) :
    v.locate path = .ok ⟨name, false⟩ ∧ v.find name ≠ .directory := by
  rw [createName] at h
  cases hlocate : v.locate path with
  | error f => simp [hlocate] at h
  | ok place =>
      obtain ⟨found, asDirectory⟩ := place
      simp only [hlocate] at h
      cases hfind : v.find found with
      | directory => simp [hfind] at h
      | file content =>
          cases asDirectory with
          | true => simp [hfind] at h
          | false =>
              simp only [hfind, Except.ok.injEq] at h
              simp [← h, hfind]
      | nothing =>
          cases asDirectory with
          | true => simp [hfind] at h
          | false =>
              simp only [hfind] at h
              split at h
              · cases h
              · cases h
                simp [hfind]

/-- Files are created in folders. -/
lemma isFolder_of_createName (h : v.createName path = .ok name) : v.IsFolder name.dropLast := by
  obtain ⟨-, -, hleads⟩ := locate_eq_ok_iff.mp (of_createName h).1
  exact hleads.isFolder_dropLast (v.isFolder_origin path)

lemma read_of_find {text : String} (hlocate : v.locate path = .ok ⟨name, false⟩)
    (hfind : v.find name = .file text.toUTF8) : v.read path = .ok text := by
  have htext : String.fromUTF8? text.toUTF8 = some text := dif_pos text.isValidUTF8
  simp only [read, hlocate, hfind, htext]

/-- Where a file can be created, what was written to it is read. -/
lemma read_put {text : String} (h : v.createName path = .ok name) :
    (v.put name text.toUTF8).read path = .ok text := by
  obtain ⟨hlocate, hname⟩ := of_createName h
  obtain ⟨hempty, hshort, hleads⟩ := locate_eq_ok_iff.mp hlocate
  have hleads' : (v.put name text.toUTF8).Leads (v.origin path) (parts path) name :=
    hleads.put (isFolder_of_createName h) hname
  exact read_of_find (locate_eq_ok_iff.mpr ⟨hempty, hshort, hleads'⟩) (v.find_put name _)

/-! ## Adding -/

lemma put_put (v : Volume) (name : List String) (content content' : ByteArray) :
    (v.put name content).put name content' = v.put name content' := by
  simp [put, List.filter_append]

lemma append_put (v : Volume) (name : List String) (content : ByteArray) (text : String) :
    fileSystem.append (v.put name content) name text = v.put name (content ++ text.toUTF8) := by
  have hcontent : (v.put name content).contentOf name = content := by rw [contentOf, find_put]
  change (v.put name content).put name ((v.put name content).contentOf name ++ text.toUTF8) = _
  rw [put_put, hcontent]

/-- **Adding.**  Texts that are added to a file one after the other stand behind what it had. -/
lemma foldl_append_put (v : Volume) (name : List String) (content : ByteArray)
    (texts : List String) :
    texts.foldl (fileSystem.append · name ·) (v.put name content)
      = v.put name (content ++ (String.join texts).toUTF8) := by
  induction texts generalizing content with
  | nil => simp
  | cons text texts ih =>
      rw [List.foldl_cons, append_put, ih, String.join_cons]
      simp [ByteArray.append_assoc]

end ParseTree.Volume
