import Mathlib.Data.List.Induction
import ParseTree.Proofs.Declaring
import ParseTree.Proofs.Refusal

/-!
# What a vocabulary knows, and why there is none

A table declares a vocabulary or has a first entry at fault.  An entry is judged by those before it
only, so which one is the first, and what is wrong with it, can be told from the table alone.

* **Faults** — `AtFault` says when an entry does not go with those before it, and `Faults` what is
  reported then: a kind that is too large before a second kind, and for a second kind the first one.
  `declarable_iff`: entries go together exactly if none of them is at fault.
* **The first one** — `build_eq_error_iff`: declaring stops at the first entry at fault.
* **What is known** — `Vocabulary.Records`: names are looked up as the table has them, and each name
  is listed once, where it is declared first.
* **The whole** — `build_outcome`.
-/

namespace ParseTree

/-! ## Faults -/

/-- An entry that does not go with those before it: its kind is too large, or differs from that of
an earlier entry of its name. -/
def AtFault (before : List Entry) (e : Entry) : Prop :=
  maxKind < e.kind ∨ ∃ e' ∈ before, e'.name = e.name ∧ e'.kind ≠ e.kind

/-- What is reported of an entry at fault.  A kind that is too large is reported even if it is the
second one; of a second kind it is reported which one the first entry of the name has. -/
inductive Faults (before : List Entry) (e : Entry) : DeclarationError → Prop
  | aboveMax (hmax : maxKind < e.kind) : Faults before e (.aboveMax e.name e.kind)
  | twoKinds {first : Entry} (hmax : e.kind ≤ maxKind)
      (hfirst : before.find? (fun e' => e'.name = e.name) = some first)
      (hne : first.kind ≠ e.kind) :
      Faults before e (.twoKinds e.name first.kind e.kind)

lemma Faults.atFault {before : List Entry} {e : Entry} {fault : DeclarationError}
    (h : Faults before e fault) : AtFault before e := by
  cases h with
  | aboveMax hmax => exact .inl hmax
  | @twoKinds first hmax hfirst hne =>
      have hname := List.find?_some hfirst
      exact .inr ⟨first, List.mem_of_find?_eq_some hfirst, by simpa using hname, hne⟩

/-- Entries go together exactly if none of them is at fault. -/
theorem declarable_iff {es : List Entry} :
    Declarable es ↔ ∀ before e after, es = before ++ e :: after → ¬ AtFault before e := by
  constructor
  · rintro h before e after rfl (hmax | ⟨e', he', hname, hne⟩)
    · exact absurd (h.kind_le e (by simp)) (Int32.not_le.mpr hmax)
    · exact hne (h.kind_unique e' (by simp [he']) e (by simp) hname)
  · intro h
    -- Entries are judged by those before them, so they are taken off from the end.
    induction es using List.reverseRecOn with
    | nil => exact ⟨by simp, by simp⟩
    | append_singleton es e ih =>
        have hes : Declarable es :=
          ih fun before e' after heq => h before e' (after ++ [e]) (by simp [heq])
        have hlast := h es e [] rfl
        rw [AtFault, not_or] at hlast
        refine declarable_concat hes (Int32.not_lt.mp hlast.1) fun e' he' hname => ?_
        by_contra hne
        exact hlast.2 ⟨e', he', hname, hne⟩

/-! ## The first one -/

namespace Declarations

variable {d : Declarations} {done : List Entry} {e : Entry} {fault : DeclarationError}

/-- If the kind of a name is looked up, it is that of the first entry of the name. -/
lemma Holds.find? (hd : d.Holds done) (hdone : Declarable done) {name : String} {kind : Kind}
    (h : d.kindOf[name]? = some kind) :
    done.find? (fun e => e.name = name) = some ⟨name, kind⟩ := by
  have hmem := hd.kindOf_iff.mp h
  cases hfind : done.find? (fun e => e.name = name) with
  | none => exact absurd (List.find?_eq_none.mp hfind _ hmem) (by simp)
  | some first =>
      have hname : first.name = name := by simpa using List.find?_some hfind
      have hkind := hdone.kind_unique first (List.mem_of_find?_eq_some hfind) _ hmem hname
      obtain ⟨firstName, firstKind⟩ := first
      simp_all

/-- **A step.**  Declaring an entry after others fails with what is wrong with it. -/
lemma declare_eq_error_iff (hd : d.Holds done) (hdone : Declarable done) :
    d.declare e = .error fault ↔ Faults done e fault := by
  constructor
  · fun_cases declare d e with
    | case1 hmax =>
        intro h
        cases h
        exact .aboveMax hmax
    | case3 hmax first hfirst hne =>
        intro h
        cases h
        exact .twoKinds (Int32.not_lt.mp hmax) (hd.find? hdone hfirst) hne
    | _ => intro h; cases h
  · intro h
    cases h with
    | aboveMax hmax => rw [declare, if_pos hmax]
    | @twoKinds first hmax hfirst hne =>
        have hname : first.name = e.name := by simpa using List.find?_some hfirst
        have hkind : d.kindOf[e.name]? = some first.kind :=
          hd.kindOf_iff.mpr (hname ▸ List.mem_of_find?_eq_some hfirst)
        rw [declare, if_neg (Int32.not_lt.mpr hmax), hkind]
        exact if_neg hne

/-- Where a run over a list fails, it comes through the elements before the one at which it does. -/
lemma exists_of_foldlM_eq_error {α β ε : Type} {f : β → α → Except ε β} {xs : List α} {b : β}
    {error : ε} (h : xs.foldlM f b = .error error) :
    ∃ before x after b', xs = before ++ x :: after ∧ before.foldlM f b = .ok b' ∧
      f b' x = .error error := by
  induction xs generalizing b with
  | nil => cases h
  | cons x xs ih =>
      rw [List.foldlM_cons] at h
      cases hstep : f b x with
      | error e =>
          simp only [hstep, bind, Except.bind, Except.error.injEq] at h
          exact ⟨[], x, xs, b, rfl, rfl, by rw [hstep, h]⟩
      | ok next =>
          simp only [hstep, bind, Except.bind] at h
          obtain ⟨before, y, after, b', rfl, hbefore, hy⟩ := ih h
          refine ⟨x :: before, y, after, b', rfl, ?_, hy⟩
          simp only [List.foldlM_cons, hstep, bind, Except.bind]
          exact hbefore

end Declarations

namespace Vocabulary

variable {table : Table} {v : Vocabulary} {fault : DeclarationError}

lemma build_eq_error_iff_foldlM :
    build table = .error fault ↔ table.entries.foldlM Declarations.declare {} = .error fault := by
  rw [build]
  split
  · next heq => simp [heq]
  · next heq => simp [heq]

/-- **The first one.**  A table declares no vocabulary exactly if an entry after others that go
together is wrong, and this is reported. -/
theorem build_eq_error_iff :
    build table = .error fault ↔ ∃ before e after, table.entries = before ++ e :: after ∧
      Declarable before ∧ Faults before e fault := by
  have hnil : Declarable [] := ⟨by simp, by simp⟩
  rw [build_eq_error_iff_foldlM]
  constructor
  · intro h
    obtain ⟨before, e, after, d, hentries, hbefore, hstep⟩ :=
      Declarations.exists_of_foldlM_eq_error h
    obtain ⟨hdeclarable, hholds⟩ :=
      Declarations.foldlM_declare_eq_ok Declarations.holds_nil hnil hbefore
    exact ⟨before, e, after, hentries, hdeclarable,
      (Declarations.declare_eq_error_iff hholds hdeclarable).mp hstep⟩
  · rintro ⟨before, e, after, hentries, hdeclarable, hfaults⟩
    obtain ⟨d, hbefore⟩ := Declarations.exists_foldlM_declare Declarations.holds_nil hdeclarable
    have hholds := (Declarations.foldlM_declare_eq_ok Declarations.holds_nil hnil hbefore).2
    have hstep := (Declarations.declare_eq_error_iff hholds hdeclarable).mpr hfaults
    rw [hentries, List.foldlM_append, hbefore]
    simp only [bind, Except.bind, List.foldlM_cons, hstep]

end Vocabulary

/-! ## What is known -/

/-- Where a function keeps the elements of a list apart, it can be applied before or after erasing
the repetitions. -/
lemma map_eraseDups {α β : Type} [BEq α] [LawfulBEq α] [BEq β] [LawfulBEq β] {f : α → β}
    {as : List α}
    (h : ∀ a ∈ as, ∀ b ∈ as, f a = f b → a = b) : as.eraseDups.map f = (as.map f).eraseDups := by
  induction as using List.reverseRecOn with
  | nil => simp
  | append_singleton as a ih =>
      have ih := ih fun b hb c hc => h b (by simp [hb]) c (by simp [hc])
      rw [List.map_append, List.map_singleton]
      by_cases ha : a ∈ as
      · rw [eraseDups_concat_of_mem ha, eraseDups_concat_of_mem (List.mem_map_of_mem ha), ih]
      · have hfa : f a ∉ as.map f := by
          rw [List.mem_map]
          rintro ⟨b, hb, hba⟩
          exact ha (h b (by simp [hb]) a (by simp) hba ▸ hb)
        rw [eraseDups_concat_of_notMem ha, eraseDups_concat_of_notMem hfa, List.map_append, ih,
          List.map_singleton]

namespace Vocabulary

/-- A vocabulary that knows the entries of a table: names are looked up as the table has them, and
listed once each in the order of first declaration. -/
structure Records (v : Vocabulary) (entries : List Entry) : Prop where
  resolve_ok_iff : ∀ name kind, v.resolve name = .ok kind ↔ ⟨name, kind⟩ ∈ entries
  resolve_error_iff : ∀ name error, v.resolve name = .error error ↔
    (∀ kind, ⟨name, kind⟩ ∉ entries) ∧ error = .unknownName name
  contains_iff : ∀ name, v.contains name = true ↔ ∃ kind, v.resolve name = .ok kind
  listed : v.declared.toList.map (·.name) = (entries.map (·.name)).eraseDups
  listed_nodup : (v.declared.toList.map (·.name)).Nodup
  listed_kind : ∀ e ∈ v.declared.toList, v.resolve e.name = .ok e.kind
  size_eq : v.size = (entries.map (·.name)).eraseDups.length

variable {table : Table} {v : Vocabulary}

lemma resolve_eq_ok_iff {name : String} {kind : Kind} :
    v.resolve name = .ok kind ↔ v.kindOf[name]? = some kind := by
  rw [resolve]
  cases v.kindOf[name]? <;> simp

lemma contains_eq_true_iff {name : String} :
    v.contains name = true ↔ ∃ kind, v.resolve name = .ok kind := by
  simp only [contains, Std.HashMap.contains_eq_isSome_getElem?, resolve_eq_ok_iff,
    Option.isSome_iff_exists]

/-- **What is known.**  A vocabulary knows the entries of the table that declares it. -/
theorem records_of_build (h : build table = .ok v) : v.Records table.entries := by
  obtain ⟨hdeclarable, hholds, -⟩ := of_build h
  have hresolve : ∀ name kind, v.resolve name = .ok kind ↔ ⟨name, kind⟩ ∈ table.entries :=
    fun name kind => resolve_eq_ok_iff.trans hholds.kindOf_iff
  have hlisted : v.declared.toList.map (·.name) = (table.entries.map (·.name)).eraseDups := by
    rw [hholds.declared_eq]
    refine map_eraseDups fun e he e' he' hname => ?_
    have hkind := hdeclarable.kind_unique e he e' he' hname
    cases e
    cases e'
    simp_all
  refine ⟨hresolve, fun name error => ?_, fun name => contains_eq_true_iff, hlisted, ?_,
    fun e he => ?_, ?_⟩
  · rw [resolve_eq_error_iff, ← Bool.not_eq_true, contains_eq_true_iff, not_exists]
    simp only [hresolve]
  · rw [hlisted]
    exact nodup_eraseDups _
  · rw [hholds.declared_eq, List.mem_eraseDups] at he
    exact (hresolve _ _).mpr he
  · rw [← hlisted, List.length_map, size, Array.length_toList]

/-! ## The whole -/

/-- **The whole.**  A table declares a vocabulary exactly if no kind is too large and no name has
two of them.  If it declares none, the first entry at fault is reported with what is wrong with it.
If it declares one, this knows the entries of the table. -/
theorem build_outcome (table : Table) :
    ((∃ v, build table = .ok v) ↔ (∀ e ∈ table.entries, e.kind ≤ maxKind) ∧
      ∀ e ∈ table.entries, ∀ e' ∈ table.entries, e.name = e'.name → e.kind = e'.kind) ∧
    (∀ fault, build table = .error fault ↔ ∃ before e after, table.entries = before ++ e :: after ∧
      (∀ done e' rest, before = done ++ e' :: rest → ¬ AtFault done e') ∧ AtFault before e ∧
        Faults before e fault) ∧
    ∀ v, build table = .ok v → v.Records table.entries := by
  refine ⟨?_, fun fault => ?_, fun v => records_of_build⟩
  · rw [exists_build_iff]
    exact ⟨fun h => ⟨h.kind_le, h.kind_unique⟩, fun ⟨hle, hunique⟩ => ⟨hle, hunique⟩⟩
  · rw [build_eq_error_iff]
    constructor
    · rintro ⟨before, e, after, hentries, hdeclarable, hfaults⟩
      exact ⟨before, e, after, hentries, declarable_iff.mp hdeclarable, hfaults.atFault, hfaults⟩
    · rintro ⟨before, e, after, hentries, hbefore, -, hfaults⟩
      exact ⟨before, e, after, hentries, declarable_iff.mpr hbefore, hfaults⟩

/-- A repetition and a second name for a kind are fine.  Of two entries at fault the first is
reported, here one whose kind is too large and is a second one as well. -/
theorem build_outcome_repeated :
    (∃ v, build ⟨[⟨"LIST", 100⟩, ⟨"EOF", -1⟩, ⟨"LIST", 100⟩, ⟨"'l'", 100⟩]⟩ = .ok v ∧
      v.declared.toList.map (·.name) = ["LIST", "EOF", "'l'"] ∧
      v.resolve "'l'" = .ok 100 ∧ v.resolve "PAIR" = .error (.unknownName "PAIR")) ∧
    build ⟨[⟨"LIST", 100⟩, ⟨"EOF", -1⟩, ⟨"LIST", 70000⟩, ⟨"EOF", 2⟩]⟩
      = .error (.aboveMax "LIST" 70000) := by
  constructor
  · have hwhole := build_outcome ⟨[⟨"LIST", 100⟩, ⟨"EOF", -1⟩, ⟨"LIST", 100⟩, ⟨"'l'", 100⟩]⟩
    obtain ⟨v, hv⟩ := hwhole.1.mpr (by decide)
    have hrecords := hwhole.2.2 v hv
    refine ⟨v, hv, ?_, (hrecords.resolve_ok_iff _ _).mpr (by simp),
      (hrecords.resolve_error_iff _ _).mpr ?_⟩
    · rw [hrecords.listed]
      decide
    · simp
  · have hwhole := build_outcome ⟨[⟨"LIST", 100⟩, ⟨"EOF", -1⟩, ⟨"LIST", 70000⟩, ⟨"EOF", 2⟩]⟩
    have hbefore : Declarable [⟨"LIST", 100⟩, ⟨"EOF", -1⟩] := ⟨by decide, by decide⟩
    exact (hwhole.2.1 _).mpr ⟨[⟨"LIST", 100⟩, ⟨"EOF", -1⟩], ⟨"LIST", 70000⟩, [⟨"EOF", 2⟩], rfl,
      declarable_iff.mp hbefore, .inl (by decide), .aboveMax (by decide)⟩

end Vocabulary

end ParseTree
