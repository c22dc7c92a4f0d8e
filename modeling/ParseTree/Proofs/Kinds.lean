import ParseTree.Proofs.Conflicts
import ParseTree.Proofs.Diagram

/-!
# The way back from kinds to names

A vocabulary knows the kind of each name, and for the kinds that are not negative it keeps a dense
index with one name each.  The index is filled after the table has been read, from the distinct
entries in the order of first declaration, and is as long as the largest kind asks for.  What it
says can be told from the table all the same.

* **Slots** — `Kind.slot?_eq_some_iff`: kinds that are not negative are their own slots, and the
  largest kind leaves room for all of them.
* **The index** — `name?_eq_find?`: the name of a kind is that of the first entry which has it.
  Erasing repetitions first does not change which entry this is.  `foldlM_enterName?`: filling the
  index never misses a slot.
* **Listing** — `mem_kinds_iff`, `kinds_ascending`: the kinds in a listing are those with a name,
  each once.
* **The whole** — `indexes_of_build`.
-/

namespace ParseTree

/-! ## Slots -/

namespace Kind

lemma nonneg_iff {k : Kind} : 0 ≤ k ↔ 0 ≤ k.toInt := by
  rw [Int32.le_iff_toInt_le]
  rfl

lemma slot?_eq_some_iff {k : Kind} {slot : Nat} : k.slot? = some slot ↔ k.toInt = slot := by
  rw [slot?]
  split
  · next hpos =>
      rw [Option.some.injEq]
      omega
  · next hneg => simp only [reduceCtorEq, false_iff]; omega

lemma slot?_eq_none_iff {k : Kind} : k.slot? = none ↔ ¬ 0 ≤ k := by
  rw [nonneg_iff, slot?]
  split <;> simp_all

/-- **Slots.**  Kinds with the same slot are equal. -/
lemma eq_of_slot? {j k : Kind} {slot : Nat} (hj : j.slot? = some slot) (hk : k.slot? = some slot) :
    j = k := by
  rw [slot?_eq_some_iff] at hj hk
  rw [← Int32.toInt_inj, hj, hk]

lemma toInt_ofNat {slot : Nat} (h : slot ≤ 65535) : (Int32.ofNat slot).toInt = slot :=
  Int32.toInt_ofNat_of_lt (by omega)

lemma slot?_ofNat {slot : Nat} (h : slot ≤ 65535) : slot? (Int32.ofNat slot) = some slot :=
  slot?_eq_some_iff.mpr (toInt_ofNat h)

lemma slot_le {k : Kind} {slot : Nat} (hmax : k ≤ maxKind) (h : k.slot? = some slot) :
    slot ≤ 65535 := by
  rw [Int32.le_iff_toInt_le] at hmax
  rw [slot?_eq_some_iff] at h
  have hlimit : maxKind.toInt = 65535 := by decide
  omega

end Kind

/-! ## The index -/

/-- Which element of a list is the first with a property does not depend on repetitions. -/
lemma find?_eraseDups {α : Type} [BEq α] [LawfulBEq α] (p : α → Bool) (as : List α) :
    as.eraseDups.find? p = as.find? p := by
  induction as using List.reverseRecOn with
  | nil => rfl
  | append_singleton as a ih =>
      by_cases ha : a ∈ as
      · rw [eraseDups_concat_of_mem ha, ih, List.find?_append]
        cases hfind : as.find? p with
        | some found => rfl
        | none =>
            have hpa := List.find?_eq_none.mp hfind a ha
            simp [hpa]
      · rw [eraseDups_concat_of_notMem ha, List.find?_append, List.find?_append, ih]

/-- In a slot past the end of the index there is no name, as in one that no entry has. -/
lemma join_getElem?_firstNames (es : List Entry) (slot : Nat) :
    (firstNames es)[slot]?.join = (es.find? (·.kind.slot? = some slot)).map (·.name) := by
  rw [getElem?_firstNames]
  split
  · rfl
  · next hpast =>
      have hnone : es.find? (·.kind.slot? = some slot) = none := by
        rw [List.find?_eq_none]
        intro e he hslot
        exact hpast (lt_slotCount_iff.mpr ⟨e, he, slot, by simpa using hslot, Nat.le_refl _⟩)
      rw [hnone]
      rfl

/-- Enters a name at the slot of its kind unless the slot is taken.  There is no answer if the index
does not have the slot. -/
def enterName? (names : Array (Option String)) (e : Entry) : Option (Array (Option String)) :=
  match e.kind.slot? with
  | some slot =>
    if h : slot < names.size then some (names.set slot (names[slot].or (some e.name))) else none
  | none => some names

lemma enterName?_eq_some {names : Array (Option String)} {e : Entry}
    (h : ∀ slot, e.kind.slot? = some slot → slot < names.size) :
    enterName? names e = some (enterName names e) := by
  rw [enterName?, enterName]
  cases hslot : e.kind.slot? with
  | none => rfl
  | some slot =>
      have hlt := h slot hslot
      simp only [dif_pos hlt, Option.some.injEq]
      apply Array.ext_getElem?
      intro i
      rw [Array.getElem?_modify, Array.getElem?_set]
      split
      · next heq => simp [← heq, hlt]
      · rfl

lemma size_enterName (names : Array (Option String)) (e : Entry) :
    (enterName names e).size = names.size := by
  rw [enterName]
  cases e.kind.slot? <;> simp

/-- In an index that has the slots of all entries, none is missed. -/
lemma foldlM_enterName? {es : List Entry} {names : Array (Option String)}
    (h : ∀ e ∈ es, ∀ slot, e.kind.slot? = some slot → slot < names.size) :
    es.foldlM enterName? names = some (es.foldl enterName names) := by
  induction es generalizing names with
  | nil => rfl
  | cons e es ih =>
      rw [List.forall_mem_cons] at h
      rw [List.foldlM_cons, enterName?_eq_some h.1, List.foldl_cons]
      exact ih (by rw [size_enterName]; exact h.2)

/-- The index is long enough for the entries that it is filled from. -/
lemma foldlM_enterName?_firstNames (es : List Entry) :
    es.foldlM enterName? (Array.replicate (slotCount es) none) = some (firstNames es) := by
  refine foldlM_enterName? fun e he slot hslot => ?_
  rw [Array.size_replicate, lt_slotCount_iff]
  exact ⟨e, he, slot, hslot, Nat.le_refl _⟩

namespace Vocabulary

variable {table : Table} {v : Vocabulary}

/-- **The index.**  A kind that is not negative has the name of the first entry with this kind. -/
theorem name?_eq_find? (h : build table = .ok v) (kind : Kind) :
    v.name? kind
      = if 0 ≤ kind then (table.entries.find? (·.kind = kind)).map (·.name) else none := by
  obtain ⟨-, hholds, hnames⟩ := of_build h
  rw [name?]
  cases hslot : kind.slot? with
  | none => rw [if_neg (Kind.slot?_eq_none_iff.mp hslot)]; rfl
  | some slot =>
      have hpos : 0 ≤ kind := by
        by_contra hneg
        simp [Kind.slot?_eq_none_iff.mpr hneg] at hslot
      have hkind : ∀ e : Entry, e.kind.slot? = some slot ↔ e.kind = kind := fun e =>
        ⟨fun he => Kind.eq_of_slot? he hslot, fun he => by rw [he, hslot]⟩
      rw [if_pos hpos, Option.bind_some, hnames, join_getElem?_firstNames, hholds.declared_eq,
        find?_eraseDups]
      simp only [hkind]

/-- The name of a kind leads back to the kind. -/
lemma resolve_of_name? (h : build table = .ok v) {kind : Kind} {name : String}
    (hname : v.name? kind = some name) : v.resolve name = .ok kind := by
  rw [name?_eq_find? h] at hname
  split at hname
  · obtain ⟨e, he, rfl⟩ := Option.map_eq_some_iff.mp hname
    have hkind : e.kind = kind := by simpa using List.find?_some he
    rw [(records_of_build h).resolve_ok_iff, ← hkind]
    exact List.mem_of_find?_eq_some he
  · cases hname

/-! ## Listing -/

lemma mem_kinds {kind : Kind} {name : String} :
    (kind, name) ∈ v.kinds ↔
      ∃ slot : Nat, v.names[slot]? = some (some name) ∧ Int32.ofNat slot = kind := by
  simp only [kinds, List.mem_filterMap, Prod.exists, List.mem_zipIdx_iff_getElem?,
    Array.getElem?_toList, Option.map_eq_some_iff, Prod.mk.injEq]
  constructor
  · rintro ⟨_, slot, hslot, _, rfl, hkind, rfl⟩
    exact ⟨slot, hslot, hkind⟩
  · rintro ⟨slot, hslot, hkind⟩
    exact ⟨some name, slot, hslot, name, rfl, hkind, rfl⟩

/-- No slot of the index is larger than the largest kind. -/
lemma slot_le_of_getElem?_names (h : build table = .ok v) {slot : Nat} {name : Option String}
    (hslot : v.names[slot]? = some name) : slot ≤ 65535 := by
  obtain ⟨hdeclarable, hholds, hnames⟩ := of_build h
  rw [hnames, getElem?_firstNames] at hslot
  split at hslot
  · next hlt =>
      obtain ⟨e, he, own, hown, hle⟩ := lt_slotCount_iff.mp hlt
      rw [hholds.declared_eq, List.mem_eraseDups] at he
      exact Nat.le_trans hle (Kind.slot_le (hdeclarable.kind_le e he) hown)
  · cases hslot

/-- **Listing.**  Exactly the kinds that have a name are listed, with their names. -/
theorem mem_kinds_iff (h : build table = .ok v) {kind : Kind} {name : String} :
    (kind, name) ∈ v.kinds ↔ v.name? kind = some name := by
  rw [mem_kinds, name?, Option.bind_eq_some_iff]
  constructor
  · rintro ⟨slot, hslot, rfl⟩
    exact ⟨slot, Kind.slot?_ofNat (slot_le_of_getElem?_names h hslot), by rw [hslot]; rfl⟩
  · rintro ⟨slot, hkind, hname⟩
    have hslot : v.names[slot]? = some (some name) := Option.join_eq_some_iff.mp hname
    exact ⟨slot, hslot,
      Kind.eq_of_slot? (Kind.slot?_ofNat (slot_le_of_getElem?_names h hslot)) hkind⟩

/-- **Listing.**  The kinds are listed from the smallest to the largest. -/
theorem kinds_ascending (h : build table = .ok v) : v.kinds.Pairwise fun a b => a.1 < b.1 := by
  have hzip : v.names.toList.zipIdx.Pairwise fun a b =>
      v.names[a.2]? = some a.1 ∧ v.names[b.2]? = some b.1 ∧ a.2 < b.2 := by
    rw [List.pairwise_iff_getElem]
    intro i j hi hj hij
    simp only [List.length_zipIdx, Array.length_toList] at hi hj
    simp [hi, hj, hij]
  refine List.Pairwise.filterMap _ ?_ hzip
  rintro ⟨name, slot⟩ ⟨name', slot'⟩ ⟨hslot, hslot', hlt⟩ a ha b hb
  obtain ⟨_, _, rfl⟩ := Option.map_eq_some_iff.mp ha
  obtain ⟨_, _, rfl⟩ := Option.map_eq_some_iff.mp hb
  rw [Int32.lt_iff_toInt_lt, Kind.toInt_ofNat (slot_le_of_getElem?_names h hslot),
    Kind.toInt_ofNat (slot_le_of_getElem?_names h hslot')]
  exact Int.ofNat_lt.mpr hlt

/-- A listing has a piece of text for each kind. -/
lemma listing_eq_join (v : Vocabulary) :
    v.listing = String.join (v.kinds.map fun entry => entry.1.text ++ "\t" ++ entry.2 ++ "\n") := by
  rw [listing, String.join, List.foldl_map]
  rfl

/-- If no name has a line feed, the pieces are the lines of the listing. -/
lemma cutLines_listing {v : Vocabulary} (h : ∀ entry ∈ v.kinds, '\n' ∉ entry.2.toList) :
    Text.cutLines v.listing.toList
      = v.kinds.map fun entry => (entry.1.text ++ "\t" ++ entry.2 ++ "\n").toList := by
  have hbody : ∀ line ∈ v.kinds.map (fun entry => (entry.1.text ++ "\t" ++ entry.2).toList),
      '\n' ∉ line := by
    rw [List.forall_mem_map]
    intro entry hentry
    have hkind := Diagram.notMem_kindText (c := '\n') (by decide) (by decide) entry.1
    simp [hkind, h entry hentry]
  have hcut := Text.cutLines_terminated hbody
  rw [List.flatMap_map, List.map_map] at hcut
  rw [listing_eq_join, String.toList_join, List.flatMap_map]
  simpa [Function.comp_def] using hcut

/-! ## The whole -/

/-- A vocabulary that leads back from kinds to names as the entries of a table have them. -/
structure Indexes (v : Vocabulary) (entries : List Entry) : Prop where
  /-- While the index is filled, the slot of every name is there. -/
  filled : v.declared.toList.foldlM enterName? (Array.replicate (slotCount v.declared.toList) none)
    = some v.names
  /-- A kind that is not negative has the name of the first entry with this kind; there are no
  others. -/
  name?_eq : ∀ kind, v.name? kind
    = if 0 ≤ kind then (entries.find? (·.kind = kind)).map (·.name) else none
  resolve_name? : ∀ kind name, v.name? kind = some name → v.resolve name = .ok kind
  mem_kinds_iff : ∀ kind name, (kind, name) ∈ v.kinds ↔ v.name? kind = some name
  ascending : v.kinds.Pairwise fun a b => a.1 < b.1
  listed_iff : ∀ kind, kind ∈ v.kinds.map Prod.fst ↔ 0 ≤ kind ∧ ∃ e ∈ entries, e.kind = kind
  listing_eq : v.listing
    = String.join (v.kinds.map fun entry => entry.1.text ++ "\t" ++ entry.2 ++ "\n")
  /-- The text of each kind is one line, unless a name is written on several. -/
  lines : (∀ e ∈ entries, '\n' ∉ e.name.toList) → Text.cutLines v.listing.toList
    = v.kinds.map fun entry => (entry.1.text ++ "\t" ++ entry.2 ++ "\n").toList

/-- The kinds that are listed are those of the entries that are not negative. -/
lemma mem_map_fst_kinds_iff (h : build table = .ok v) (kind : Kind) :
    kind ∈ v.kinds.map Prod.fst ↔ 0 ≤ kind ∧ ∃ e ∈ table.entries, e.kind = kind := by
  have hmem : kind ∈ v.kinds.map Prod.fst ↔ (v.name? kind).isSome = true := by
    simp only [List.mem_map, Prod.exists, Option.isSome_iff_exists, mem_kinds_iff h]
    exact ⟨fun ⟨_, name, hname, heq⟩ => ⟨name, heq ▸ hname⟩,
      fun ⟨name, hname⟩ => ⟨kind, name, hname, rfl⟩⟩
  rw [hmem, name?_eq_find? h]
  split
  · next hpos => simp [hpos]
  · next hneg => simp [hneg]

/-- **The whole.**  A vocabulary leads back from the kinds of its table to the names declared first
for them. -/
theorem indexes_of_build (table : Table) (v : Vocabulary) (h : build table = .ok v) :
    v.Indexes table.entries where
  filled := by
    rw [(of_build h).2.2]
    exact foldlM_enterName?_firstNames _
  name?_eq := name?_eq_find? h
  resolve_name? := fun _ _ => resolve_of_name? h
  mem_kinds_iff := fun _ _ => mem_kinds_iff h
  ascending := kinds_ascending h
  listed_iff := mem_map_fst_kinds_iff h
  listing_eq := listing_eq_join v
  lines := by
    intro hnames
    refine cutLines_listing fun entry hentry => ?_
    have hresolve := resolve_of_name? h ((mem_kinds_iff h).mp hentry)
    exact hnames _ (((records_of_build h).resolve_ok_iff _ _).mp hresolve)

/-- Of two names for a kind the first is found again.  The end of input has none, nor have a kind
between two others and one past them; and the listing has a line for each of the other two. -/
theorem indexes_of_build_aliases : ∃ v,
    build ⟨[⟨"IF", 2⟩, ⟨"EOF", -1⟩, ⟨"'if'", 2⟩, ⟨"ID", 0⟩, ⟨"IF", 2⟩]⟩ = .ok v ∧
    v.name? 2 = some "IF" ∧ v.resolve "IF" = .ok 2 ∧ v.name? (-1) = none ∧ v.name? 1 = none ∧
    v.name? 70000 = none ∧
    Text.cutLines v.listing.toList = ["0\tID\n".toList, "2\tIF\n".toList] := by
  have hdeclarable : Declarable [⟨"IF", 2⟩, ⟨"EOF", -1⟩, ⟨"'if'", 2⟩, ⟨"ID", 0⟩, ⟨"IF", 2⟩] :=
    ⟨by decide, by decide⟩
  obtain ⟨v, hv⟩ := exists_build_iff.mpr hdeclarable
  have hindexes := indexes_of_build _ v hv
  have hkinds : v.kinds = [(0, "ID"), (2, "IF")] := by
    rw [kinds, (of_build hv).2.2, (of_build hv).2.1.declared_eq]
    decide
  have hname : v.name? 2 = some "IF" := hindexes.name?_eq 2
  refine ⟨v, hv, hname, hindexes.resolve_name? _ _ hname, hindexes.name?_eq (-1),
    hindexes.name?_eq 1, hindexes.name?_eq 70000, ?_⟩
  rw [hindexes.lines (by decide), hkinds]
  decide

end Vocabulary

end ParseTree
