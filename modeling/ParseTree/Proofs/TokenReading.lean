import ParseTree.Proofs.Drafts
import ParseTree.Tree.Reader.Token

/-!
# Reading tokens

The reader of tokens comes to what the entries of a token stand for, in whatever order they are.

* **Positions** — lines and columns are kept as they stand and checked in the end.
  `fill_eq_ok_iff`: this comes out well exactly if there is one of each at most and all are in
  range.
* **Entries** — `Gathered` says what has been read of the entries so far, and
  `readTokenField_begins` what the next one does to it: it is added, or there is no token whatever
  follows, or the text has ended.
* **Tokens** — `readToken_begins`.
-/

namespace ParseTree.Json

variable {rest : Option (List Char)} {ls : List Lexeme} {s : List Char}

/-! ## Positions -/

/-- A value that passes for a number exactly if the number is in range. -/
def Holds (found : Datum) (n : Int) : Prop :=
  ∀ v, uint32.check found = .ok v ↔ v = n ∧ uint32.Fits n

lemma holds_integer (n : Int) : Holds (.integer n) n := by
  intro v
  rw [check_integer]
  split <;> simp_all [eq_comm]

/-- The two numbers of a position. -/
inductive Axis
  | line
  | column
deriving DecidableEq

namespace Axis

/-- The field of a token for the number. -/
def field : Axis → Field
  | .line => .line
  | .column => .column

/-- The number as it is written. -/
def entry : Axis → Int → TokenEntry
  | .line, n => .line n
  | .column, n => .column n

/-- The number in an entry. -/
def part? : Axis → TokenEntry → Option Int
  | .line => TokenEntry.line?
  | .column => TokenEntry.column?

/-- The number in a position, if it is known. -/
def get : Axis → PartialPosition → Option UInt32
  | .line, p => p.line
  | .column, p => p.column

/-- The position with the number known. -/
def set : Axis → UInt32 → PartialPosition → PartialPosition
  | .line, n, p => { p with line := some n }
  | .column, n, p => { p with column := some n }

variable {axis other : Axis}

lemma part?_entry (axis : Axis) (n : Int) : axis.part? (axis.entry n) = some n := by
  cases axis <;> rfl

lemma part?_entry_of_ne (h : other ≠ axis) (n : Int) : other.part? (axis.entry n) = none := by
  revert h
  cases axis <;> cases other <;> simp [part?, entry, TokenEntry.line?, TokenEntry.column?]

lemma kind?_entry (axis : Axis) (n : Int) : (axis.entry n).kind? = none := by
  cases axis <;> rfl

lemma text?_entry (axis : Axis) (n : Int) : (axis.entry n).text? = none := by
  cases axis <;> rfl

lemma get_set (axis : Axis) (n : UInt32) (p : PartialPosition) :
    axis.get (axis.set n p) = some n := by
  cases axis <;> rfl

lemma get_set_of_ne (h : other ≠ axis) (n : UInt32) (p : PartialPosition) :
    other.get (axis.set n p) = other.get p := by
  revert h
  cases axis <;> cases other <;> simp [get, set]

/-- A position is told by its numbers. -/
lemma position_ext {p q : PartialPosition} (h : ∀ axis : Axis, axis.get p = axis.get q) :
    p = q := by
  obtain ⟨line, column⟩ := p
  obtain ⟨line', column'⟩ := q
  obtain rfl : line = line' := h .line
  obtain rfl : column = column' := h .column
  rfl

end Axis

/-- The values of lines and columns that have been kept of entries. -/
inductive Kept : List (Field × Datum) → List TokenEntry → Prop
  | nil : Kept [] []
  | place {found : Datum} {n : Int} {kept : List (Field × Datum)} {entries : List TokenEntry}
      (axis : Axis) (hn : Holds found n) (h : Kept kept entries) :
      Kept ((axis.field, found) :: kept) (axis.entry n :: entries)
  | skip {e : TokenEntry} {kept : List (Field × Datum)} {entries : List TokenEntry}
      (he : ∀ axis : Axis, axis.part? e = none) (h : Kept kept entries) : Kept kept (e :: entries)

lemma Kept.append {kept kept' : List (Field × Datum)} {entries entries' : List TokenEntry}
    (h : Kept kept entries) (h' : Kept kept' entries') :
    Kept (kept ++ kept') (entries ++ entries') := by
  induction h with
  | nil => exact h'
  | place axis hn _ ih => exact .place axis hn ih
  | skip he _ ih => exact .skip he ih

/-- A number that may be known, as a list. -/
def known (n? : Option UInt32) : List Int := n?.toList.map fun n => (n.toNat : Int)

lemma known_injective {m? n? : Option UInt32} (h : known m? = known n?) : m? = n? := by
  cases m? <;> cases n? <;> simp [known, ← UInt32.toNat_inj] at h ⊢
  omega

lemma known_of_fits {n : Int} (h : uint32.Fits n) : known (some (UInt32.ofNat n.toNat)) = [n] := by
  simp only [known, Option.toList_some, List.map_cons, List.map_nil, toNat_ofNat h]

/-- What is known besides one number is in range, and it is the only one. -/
lemma known_eq_append_cons {m? n? : Option UInt32} {n : Int} {ns : List Int}
    (h : known m? = known n? ++ n :: ns) : n? = none ∧ uint32.Fits n := by
  cases m? with
  | none => simp [known] at h
  | some m =>
      cases n? with
      | none =>
          simp only [known, Option.toList_some, List.map_cons, List.map_nil, Option.toList_none,
            List.nil_append, List.cons.injEq] at h
          exact ⟨rfl, h.1 ▸ fits_toNat m⟩
      | some n => simp [known] at h

lemma check_of_holds {found : Datum} {n : Int} (hn : Holds found n) :
    (uint32.check found = .ok n ∧ uint32.Fits n) ∨
      ((∃ cause, uint32.check found = .error cause) ∧ ¬ uint32.Fits n) := by
  cases hcheck : uint32.check found with
  | error cause =>
      refine Or.inr ⟨⟨cause, rfl⟩, fun hfits => ?_⟩
      have hok := (hn n).mpr ⟨rfl, hfits⟩
      rw [hcheck] at hok
      cases hok
  | ok v =>
      obtain ⟨rfl, hfits⟩ := (hn v).mp hcheck
      exact Or.inl ⟨rfl, hfits⟩

lemma fill_cons {found : Datum} {n : Int} (hn : Holds found n) (axis : Axis)
    (kept : List (Field × Datum)) (p q : PartialPosition) :
    p.fill ((axis.field, found) :: kept) = .ok q ↔ axis.get p = none ∧ uint32.Fits n ∧
      (axis.set (UInt32.ofNat n.toNat) p).fill kept = .ok q := by
  obtain ⟨line, column⟩ := p
  rcases check_of_holds hn with ⟨hcheck, hfits⟩ | ⟨⟨cause, hcheck⟩, hfits⟩ <;>
    cases axis <;> cases line <;> cases column <;>
      simp [PartialPosition.fill, Axis.field, Axis.get, Axis.set, hcheck, hfits]

lemma fill_eq_ok_iff {kept : List (Field × Datum)} {entries : List TokenEntry}
    (h : Kept kept entries) (p q : PartialPosition) :
    p.fill kept = .ok q ↔
      ∀ axis : Axis, known (axis.get q) = known (axis.get p) ++ entries.filterMap axis.part? := by
  induction h generalizing p with
  | nil =>
      simp only [PartialPosition.fill, List.filterMap_nil, List.append_nil, Except.ok.injEq]
      constructor
      · rintro rfl axis
        rfl
      · intro hknown
        exact Axis.position_ext fun axis => known_injective (hknown axis).symm
  | @place _ n _ entries axis hn _ ih =>
      rw [fill_cons hn, ih]
      constructor
      · rintro ⟨hget, hfits, hrest⟩ other
        rw [hrest other]
        by_cases hother : other = axis
        · subst hother
          rw [Axis.get_set, known_of_fits hfits, hget,
            List.filterMap_cons_some (Axis.part?_entry other n)]
          rfl
        · rw [Axis.get_set_of_ne hother, List.filterMap_cons_none (Axis.part?_entry_of_ne hother n)]
      · intro hknown
        have haxis := hknown axis
        rw [List.filterMap_cons_some (axis.part?_entry n)] at haxis
        obtain ⟨hget, hfits⟩ := known_eq_append_cons haxis
        refine ⟨hget, hfits, fun other => ?_⟩
        by_cases hother : other = axis
        · subst hother
          rw [haxis, hget, Axis.get_set, known_of_fits hfits]
          rfl
        · rw [hknown other, Axis.get_set_of_ne hother,
            List.filterMap_cons_none (Axis.part?_entry_of_ne hother n)]
  | skip he _ ih =>
      rw [ih]
      exact forall_congr' fun axis => by rw [List.filterMap_cons_none (he axis)]

/-! ## Tokens -/

/-- What has been read of a token after some of its entries. -/
structure Gathered (got : TokenFields) (seen : List TokenEntry) : Prop where
  kind : seen.filterMap TokenEntry.kind? = got.kind.toList.map Int32.toInt
  text : seen.filterMap TokenEntry.text? = got.text.toList
  kept : Kept got.others.reverse seen

lemma gathered_nil : Gathered {} [] := ⟨rfl, rfl, .nil⟩

lemma finish_eq_ok_iff {got : TokenFields} {seen : List TokenEntry} (h : Gathered got seen)
    (t : Token) :
    got.finish = .ok t ↔ tokenOf? seen = some t := by
  obtain ⟨kind, text, line, column⟩ := t
  have hfill : PartialPosition.fill {} got.others.reverse = .ok ⟨some line, some column⟩ ↔
      seen.filterMap TokenEntry.line? = [(line.toNat : Int)] ∧
        seen.filterMap TokenEntry.column? = [(column.toNat : Int)] := by
    rw [fill_eq_ok_iff h.kept]
    constructor
    · intro hknown
      exact ⟨(hknown .line).symm, (hknown .column).symm⟩
    · rintro ⟨hline, hcolumn⟩ axis
      cases axis with
      | line => exact hline.symm
      | column => exact hcolumn.symm
  rw [tokenOf?, tokenOfParts?_eq_some_iff, h.kind, h.text, ← hfill]
  cases hkind : got.kind with
  | none => simp [TokenFields.finish, hkind]
  | some kind' =>
      cases htext : got.text with
      | none => simp [TokenFields.finish, hkind, htext]
      | some text' =>
          rw [TokenFields.finish, hkind, htext]
          cases PartialPosition.fill {} got.others.reverse with
          | error cause => simp
          | ok q =>
              obtain ⟨line' | line', column' | column'⟩ := q <;>
                simp [Int32.toInt_inj]

/-! ### One entry -/

/-- An entry that may be cut short: the reader asks for it, and a number is in range. -/
def TokenEntry.Firm : TokenEntry → Prop
  | .kind n => int32.Fits n
  | .text _ => True
  | .line n => uint32.Fits n
  | .column n => uint32.Fits n
  | .other .. => False

/-- What reading an entry comes to after those that have been `seen`. -/
inductive Gathers (rest : Option (List Char)) (ls : List Lexeme) (seen : List TokenEntry)
    (e : TokenEntry) (r : Reading TokenFields) : Prop
  | reads {got : TokenFields} {s : List Char} (hr : r = .ok (got, s))
      (hgot : Gathered got (seen ++ [e])) (hs : Begins rest ls s)
  | refuses (hnone : ∀ later, tokenOf? (seen ++ e :: later) = none) (hr : ∃ fault, r = .error fault)
  | ends (hrest : rest = none) (hr : RunsOut r ∨ ∃ got, r = .ok (got, []))

variable {seen : List TokenEntry} {e : TokenEntry}

lemma Gathers.of_takes {α : Type} {x? : Option α} {r : Reading α} (put : α → TokenFields)
    (h : Takes rest ls x? r) (hput : ∀ x, x? = some x → Gathered (put x) (seen ++ [e]))
    (hnone : x? = none → ∀ later, tokenOf? (seen ++ e :: later) = none) :
    Gathers rest ls seen e (r.map fun r => (put r.1, r.2)) := by
  rcases h with h | ⟨hrest, x, rfl⟩
  · cases h with
    | reads hx hr hs =>
        subst hr
        exact .reads rfl (hput _ hx) hs
    | refuses hx hr =>
        obtain ⟨fault, rfl⟩ := hr
        exact .refuses (hnone hx) ⟨fault, rfl⟩
    | runsOut hrest hr => exact .ends hrest (Or.inl (hr.map _))
  · exact .ends hrest (Or.inr ⟨put x, rfl⟩)

lemma append_cons_eq_singleton {α : Type} {xs ys : List α} {y z : α} (h : xs ++ y :: ys = [z]) :
    xs = [] ∧ y = z := by
  simp only [List.append_eq_singleton_iff, List.cons.injEq, reduceCtorEq, and_false, or_false] at h
  exact ⟨h.1, h.2.1⟩

/-- What an entry has to be if there is a token in the end. -/
lemma of_tokenOf?_append_cons {later : List TokenEntry} {t : Token}
    (h : tokenOf? (seen ++ e :: later) = some t) :
    (∀ n, e.kind? = some n → seen.filterMap TokenEntry.kind? = [] ∧ int32.Fits n) ∧
      (∀ x, e.text? = some x → seen.filterMap TokenEntry.text? = []) ∧
      ∀ (axis : Axis) n, axis.part? e = some n → uint32.Fits n := by
  obtain ⟨hkind, htext, hline, hcolumn⟩ := tokenOfParts?_eq_some_iff.mp h
  rw [List.filterMap_append] at hkind htext hline hcolumn
  have hplaces : ∀ axis : Axis, ∃ m : UInt32,
      seen.filterMap axis.part? ++ (e :: later).filterMap axis.part? = [(m.toNat : Int)] := by
    intro axis
    cases axis with
    | line => exact ⟨_, hline⟩
    | column => exact ⟨_, hcolumn⟩
  refine ⟨?_, ?_, ?_⟩
  · intro n hn
    rw [List.filterMap_cons_some hn] at hkind
    obtain ⟨hseen, rfl⟩ := append_cons_eq_singleton hkind
    exact ⟨hseen, fits_toInt _⟩
  · intro x hx
    rw [List.filterMap_cons_some hx] at htext
    exact (append_cons_eq_singleton htext).1
  · intro axis n hn
    obtain ⟨m, hplace⟩ := hplaces axis
    rw [List.filterMap_cons_some hn] at hplace
    obtain ⟨-, rfl⟩ := append_cons_eq_singleton hplace
    exact fits_toNat m

/-- A number where any value may stand. -/
lemma readAny_holds {n : Int} (hn : rest = none → uint32.Fits n)
    (h : Begins rest (.scalar (.integer n) :: ls) s) (hls : Closes ls) :
    ∃ found?, Takes rest ls found? (readAny s) ∧ (∀ found, found? = some found → Holds found n) ∧
      (found? = none → ¬ uint32.Fits n) := by
  by_cases hwide : Wide n
  · refine ⟨_, readAny_integer hwide h hls, ?_, fun hnone => by cases hnone⟩
    rintro _ ⟨⟩
    exact holds_integer n
  · have hfits : ¬ uint32.Fits n := fun hfits => hwide (wide_of_fits (Or.inr hfits))
    cases rest with
    | none => exact absurd (hn rfl) hfits
    | some after =>
        rcases readAny_integer_of_not_wide hwide h hls with hr | ⟨x, s', hr, hs'⟩
        · exact ⟨none, Or.inl (.refuses rfl hr), by simp, fun _ => hfits⟩
        · refine ⟨some (.real x), Or.inl (.reads rfl hr hs'), ?_, by simp⟩
          rintro _ ⟨⟩ v
          simp [IntegerType.check, hfits]

/-- An entry that is neither a line nor a column leaves those that have been kept. -/
lemma Gathered.skip {got : TokenFields} (hgot : Gathered got seen)
    (he : ∀ axis : Axis, axis.part? e = none) : Kept got.others.reverse (seen ++ [e]) := by
  have hkept := hgot.kept.append (.skip he .nil)
  rwa [List.append_nil] at hkept

/-- An entry that is a line or a column is kept. -/
lemma Gathers.of_place {got : TokenFields} (hgot : Gathered got seen) (axis : Axis) {n : Int}
    (hfirm : rest = none → uint32.Fits n)
    (h : Begins rest (.mark ':' :: .scalar (.integer n) :: ls) s) (hls : Closes ls) :
    Gathers rest ls seen (axis.entry n) (((readColon s).bind readAny).map fun r =>
      ({ got with others := (axis.field, r.1) :: got.others }, r.2)) := by
  cases readColon_begins h with
  | refuses hx => cases hx
  | runsOut hrest hr => exact .ends hrest (Or.inl ((hr.bind _).map _))
  | reads hx hr hs =>
      rw [hr]
      obtain ⟨found?, htakes, hholds, hnone⟩ := readAny_holds hfirm hs hls
      refine .of_takes (fun found => { got with others := (axis.field, found) :: got.others })
        htakes ?_ ?_
      · intro found hfound
        refine ⟨?_, ?_, ?_⟩
        · simp [hgot.kind, axis.kind?_entry]
        · simp [hgot.text, axis.text?_entry]
        · rw [List.reverse_cons]
          exact hgot.kept.append (.place axis (hholds found hfound) .nil)
      · intro hfound later
        rw [Option.eq_none_iff_forall_ne_some]
        intro t ht
        exact hnone hfound ((of_tokenOf?_append_cons ht).2.2 axis n (axis.part?_entry n))

/-- **Entries of tokens.** What the next entry does to those that have been gathered. -/
lemma readTokenField_begins {got : TokenFields} (hgot : Gathered got seen)
    (hfirm : rest = none → e.Firm)
    (h : Begins rest (.mark ':' :: .scalar e.value :: ls) s) (hls : Closes ls) :
    Gathers rest ls seen e (readTokenField got e.name s) := by
  have hkinds := hgot.kind
  have htexts := hgot.text
  cases e with
  | kind n =>
      simp only [readTokenField, TokenEntry.name, Field.name, if_true]
      cases hkind : got.kind with
      | some k =>
          refine .refuses (fun later => ?_) ⟨_, rfl⟩
          rw [Option.eq_none_iff_forall_ne_some]
          intro t ht
          rw [((of_tokenOf?_append_cons ht).1 n rfl).1, hkind] at hkinds
          cases hkinds
      | none =>
          refine .of_takes (fun m => { got with kind := some (Int32.ofInt m) })
            (readColon_takes h fun s hs => readInteger_begins hfirm hs hls) ?_ ?_
          · intro m hm
            split at hm
            · next hfits =>
                cases hm
                refine ⟨?_, ?_, hgot.skip fun axis => by cases axis <;> rfl⟩
                · simp [hkinds, hkind, TokenEntry.kind?, Kind.toInt_ofInt hfits.1 hfits.2]
                · simp [htexts, TokenEntry.text?]
            · cases hm
          · intro hm later
            rw [Option.eq_none_iff_forall_ne_some]
            intro t ht
            rw [if_pos ((of_tokenOf?_append_cons ht).1 n rfl).2] at hm
            cases hm
  | text x =>
      simp only [readTokenField, TokenEntry.name, Field.name]
      cases htext : got.text with
      | some x' =>
          refine .refuses (fun later => ?_) ⟨_, rfl⟩
          rw [Option.eq_none_iff_forall_ne_some]
          intro t ht
          rw [(of_tokenOf?_append_cons ht).2.1 x rfl, htext] at htexts
          cases htexts
      | none =>
          refine .of_takes (fun x => { got with text := some x })
            (readColon_takes h fun s hs => Or.inl (readText_begins hs)) ?_ (fun hx => by cases hx)
          rintro _ ⟨⟩
          refine ⟨?_, ?_, hgot.skip fun axis => by cases axis <;> rfl⟩
          · simp [hkinds, TokenEntry.kind?]
          · simp [htexts, htext, TokenEntry.text?]
  | line n => exact .of_place hgot .line hfirm h hls
  | column n => exact .of_place hgot .column hfirm h hls
  | other name value unknown fits =>
      simp only [tokenNames, List.mem_cons, List.not_mem_nil, or_false, not_or] at unknown
      simp only [readTokenField, TokenEntry.name, Field.name, unknown, if_false]
      cases rest with
      | none => exact (hfirm rfl).elim
      | some after =>
          have htakes : Takes (some after) ls (some value.datum) ((readColon s).bind readAny) := by
            refine readColon_takes h fun s hs => ?_
            obtain ⟨s', hr, hs'⟩ := readAny_begins fits hs hls
            exact Or.inl (.reads rfl hr hs')
          refine .of_takes (fun _ => got) htakes ?_ (fun hnone => by cases hnone)
          rintro _ -
          refine ⟨?_, ?_, hgot.skip fun axis => by cases axis <;> rfl⟩
          · simp [hkinds, TokenEntry.kind?]
          · simp [htexts, TokenEntry.text?]

/-! ### Whole tokens -/

lemma readTokenFields_eq (first : Bool) (got : TokenFields) (s : List Char) :
    readTokenFields first got s = (readKey first s).bind fun key =>
      match key.1 with
      | none =>
        match got.finish with
        | .error cause => .error (.before cause key.2)
        | .ok token => .ok (token, key.2)
      | some name =>
          (readTokenField got name key.2).bind fun r => readTokenFields false r.1 r.2 := by
  rw [readTokenFields]
  split
  · next hkey => simp only [hkey, Except.bind]
  · next hkey => cases hfinish : got.finish <;> simp [hkey, Except.bind]
  · next hkey =>
      simp only [hkey, Except.bind]
      split <;> simp [*]

/-- After an entry there is a comma or the end of the object. -/
lemma closes_separated (parts : List (List Lexeme)) (ls : List Lexeme) :
    Closes (separated false parts ++ .mark '\x7d' :: ls) := by
  cases parts with
  | nil => exact ⟨_, _, rfl, Or.inr rfl⟩
  | cons part parts => exact ⟨_, _, rfl, Or.inl rfl⟩

lemma readTokenFields_begins {entries : List TokenEntry}
    (hfirm : rest = none → ∀ e ∈ entries, e.Firm) {first : Bool} {got : TokenFields}
    (hgot : Gathered got seen)
    (h : Begins rest (separated first (entries.map TokenEntry.lexemes) ++ .mark '\x7d' :: ls) s) :
    Leads rest ls (tokenOf? (seen ++ entries)) (readTokenFields first got s)
      (fun t s => .ok (t, s)) := by
  induction entries generalizing first got seen s with
  | nil =>
      rw [readTokenFields_eq, List.append_nil]
      refine (readKey_close first h).andThen fun s hs => ?_
      have hfinish := finish_eq_ok_iff hgot
      cases hread : got.finish with
      | error cause =>
          refine .refuses ?_ ⟨_, rfl⟩
          rw [Option.eq_none_iff_forall_ne_some]
          intro t ht
          rw [(hfinish t).mpr ht] at hread
          cases hread
      | ok t => exact .reads ((hfinish t).mp hread) rfl hs
  | cons e entries ih =>
      simp only [List.map_cons, separated, TokenEntry.lexemes, entryLexemes, List.append_assoc,
        List.cons_append, List.nil_append] at h
      rw [readTokenFields_eq]
      refine (readKey_begins h).andThen fun s hs => ?_
      have hfield := readTokenField_begins hgot (fun hrest => hfirm hrest e List.mem_cons_self) hs
        (closes_separated _ ls)
      cases hfield with
      | reads hr hgot' hs' =>
          simp only [hr, Except.bind]
          have hrest := ih (fun hrest e he => hfirm hrest e (List.mem_cons_of_mem _ he)) hgot' hs'
          rwa [List.append_assoc] at hrest
      | refuses hnone hr =>
          obtain ⟨fault, hr⟩ := hr
          exact .refuses (hnone entries) ⟨fault, by simp only [hr, Except.bind]⟩
      | ends hrest hr =>
          refine .runsOut hrest ?_
          rcases hr with hr | ⟨got', hr⟩
          · exact hr.bind _
          · -- What is left of a number has passed for one, but then the next key is missing.
            simp only [hr, Except.bind]
            rw [readTokenFields_eq]
            exact runsOut_error rfl

lemma readToken_begins {entries : List TokenEntry} (hfirm : rest = none → ∀ e ∈ entries, e.Firm)
    (h : Begins rest (.mark '\x7b' ::
      (separated true (entries.map TokenEntry.lexemes) ++ .mark '\x7d' :: ls)) s) :
    Leads rest ls (tokenOf? entries) (readToken s) (fun t s => .ok (t, s)) := by
  rw [readToken]
  rcases h.mark rfl with ⟨s', hs, hs'⟩ | ⟨hrest, hs⟩
  · rw [hs]
    exact readTokenFields_begins hfirm gathered_nil hs'
  · rw [hs]
    exact .runsOut hrest (runsOut_error rfl)

end ParseTree.Json
