import ParseTree.Proofs.TableReading

/-!
# Why a value is rejected

A value may be at fault in more than one way: its digits denote too much, and other characters stand
among them.  The reader reports the fault that it meets first.  Here this is said without reading: a
run of digits at the beginning that has left the range decides, whatever follows it; only if there
is none, other characters count.

* **Runs of digits** — `readMagnitude_eq_overflow_iff` is the invariant of the scan: what has been
  read is in range, and the scan leaves the range if it does so on some run of the digits to come,
  read on from there.
* **Verdicts** — `Judged` says what becomes of a value.  `judged_iff`: there is one verdict on every
  text, and the reader gives it.
* **Lines** — `Assigns` says which value a line gives to which name.  What such a line is read as is
  told by the verdict: `Assigns.readLine_of_rejected`, `Assigns.readLine_of_above`,
  `Assigns.defines`.
* **The whole** — `parse_assigns`.
-/

namespace ParseTree

/-! ## Runs of digits -/

section Runs

variable {sign : Sign} {ds : List Char}

/-- A run of digits at the beginning denotes, with the sign, an integer that has more than 32
bits. -/
def Sign.Overruns (sign : Sign) (ds : List Char) : Prop :=
  ∃ run rest, ds = run ++ rest ∧ Digits run ∧
    (sign.apply (Nat.ofDigitChars 10 run 0) < -2147483648 ∨
      2147483647 < sign.apply (Nat.ofDigitChars 10 run 0))

/-- **Runs of digits.**  After digits in range, the reader leaves the range exactly if some of the
digits that follow at once do so together with those before.  Nothing is said about what stands
behind them. -/
theorem readMagnitude_eq_overflow_iff {soFar : Nat} (h : soFar ≤ sign.limit) :
    readMagnitude sign soFar ds = .error sign.overflow ↔
      ∃ run rest, ds = run ++ rest ∧ (∀ c ∈ run, c.isDigit = true) ∧
        sign.limit < Nat.ofDigitChars 10 run soFar := by
  fun_induction readMagnitude sign soFar ds with
  | case1 soFar =>
      refine iff_of_false (by simp) ?_
      rintro ⟨run, rest, hnil, -, hlimit⟩
      obtain ⟨rfl, rfl⟩ := List.append_eq_nil_iff.mp hnil.symm
      exact Nat.not_lt.mpr h hlimit
  | case2 soFar c ds hdigit next hnext ih =>
      rw [ih hnext]
      constructor
      · rintro ⟨run, rest, rfl, hrun, hlimit⟩
        exact ⟨c :: run, rest, rfl, List.forall_mem_cons.mpr ⟨hdigit, hrun⟩,
          by rwa [Nat.ofDigitChars_cons]⟩
      · rintro ⟨run, rest, hds, hrun, hlimit⟩
        cases run with
        | nil => exact absurd hlimit (Nat.not_lt.mpr h)
        | cons d run =>
            obtain ⟨rfl, rfl⟩ := List.cons.inj hds
            rw [Nat.ofDigitChars_cons] at hlimit
            exact ⟨run, rest, rfl, (List.forall_mem_cons.mp hrun).2, hlimit⟩
  | case3 soFar c ds hdigit next hnext =>
      refine iff_of_true rfl ⟨[c], ds, rfl, by simpa using hdigit, ?_⟩
      rw [Nat.ofDigitChars_cons]
      exact Nat.lt_of_not_le hnext
  | case4 soFar c ds hdigit =>
      refine iff_of_false (by cases sign <;> simp [Sign.overflow]) ?_
      rintro ⟨run, rest, hds, hrun, hlimit⟩
      cases run with
      | nil => exact absurd hlimit (Nat.not_lt.mpr h)
      | cons d run =>
          obtain ⟨rfl, -⟩ := List.cons.inj hds
          exact hdigit (hrun c List.mem_cons_self)

/-- The scan has no other faults. -/
lemma readMagnitude_error {soFar : Nat} {fault : ValueFault}
    (h : readMagnitude sign soFar ds = .error fault) :
    fault = sign.overflow ∨ fault = .invalidDigit := by
  fun_induction readMagnitude sign soFar ds with
  | case1 => cases h
  | case2 soFar c ds hdigit next hnext ih => exact ih h
  | case3 => cases h; exact .inl rfl
  | case4 => cases h; exact .inr rfl

lemma Sign.overruns_iff : sign.Overruns ds ↔ readMagnitude sign 0 ds = .error sign.overflow := by
  rw [readMagnitude_eq_overflow_iff (Nat.zero_le _), Sign.Overruns]
  have hlimit : ∀ m, sign.limit < m ↔ sign.apply m < -2147483648 ∨ 2147483647 < sign.apply m := by
    intro m
    rw [← Nat.not_le, Sign.le_limit_iff]
    omega
  simp only [← hlimit]
  constructor
  · rintro ⟨run, rest, hds, hrun, hover⟩
    exact ⟨run, rest, hds, hrun.isDigit, hover⟩
  · rintro ⟨run, rest, hds, hrun, hover⟩
    -- A run without digits denotes zero, so the run that leaves the range has some.
    refine ⟨run, rest, hds, ⟨?_, hrun⟩, hover⟩
    rintro rfl
    exact absurd hover (Nat.not_lt_zero _)

lemma Sign.Overruns.ne_nil (h : sign.Overruns ds) : ds ≠ [] := by
  obtain ⟨run, rest, rfl, hrun, -⟩ := h
  exact List.append_ne_nil_of_left_ne_nil hrun.ne_nil rest

/-- Which fault the scan meets first. -/
lemma readMagnitude_eq_error_iff {fault : ValueFault} :
    readMagnitude sign 0 ds = .error fault ↔
      sign.Overruns ds ∧ sign.overflow = fault ∨
      ¬ sign.Overruns ds ∧ (∃ c ∈ ds, c.isDigit = false) ∧ .invalidDigit = fault := by
  by_cases hover : sign.Overruns ds
  · rw [Sign.overruns_iff.mp hover]
    simp [hover]
  · cases hread : readMagnitude sign 0 ds with
    | ok n =>
        have hds := ((readMagnitude_eq_ok_iff (Nat.zero_le _)).mp hread).1
        have hgood : ¬ ∃ c ∈ ds, c.isDigit = false := by
          rintro ⟨c, hc, hdigit⟩
          simp [hds c hc] at hdigit
        simp [hover, hgood]
    | error found =>
        obtain rfl : found = .invalidDigit :=
          (readMagnitude_error hread).resolve_left
            fun heq => hover (Sign.overruns_iff.mpr (heq ▸ hread))
        have hbad : ∃ c ∈ ds, c.isDigit = false := by
          by_contra hgood
          have hds : ∀ c ∈ ds, c.isDigit = true := by simpa using hgood
          have hlimit : Nat.ofDigitChars 10 ds 0 ≤ sign.limit := by
            -- Otherwise all the digits together are a run that leaves the range.
            by_contra hlt
            refine hover (Sign.overruns_iff.mpr
              ((readMagnitude_eq_overflow_iff (Nat.zero_le _)).mpr ?_))
            exact ⟨ds, [], (List.append_nil ds).symm, hds, Nat.lt_of_not_le hlt⟩
          simp [readMagnitude_digits hds hlimit] at hread
        simp [hover, hbad]

lemma readSigned_eq_error_iff {fault : ValueFault} :
    readSigned sign ds = .error fault ↔
      sign.Overruns ds ∧ sign.overflow = fault ∨
      ¬ sign.Overruns ds ∧ (ds = [] ∨ ∃ c ∈ ds, c.isDigit = false) ∧ .invalidDigit = fault := by
  by_cases hnil : ds = []
  · subst hnil
    have hover : ¬ sign.Overruns [] := fun h => h.ne_nil rfl
    simp [readSigned, hover]
  · have hmap : readSigned sign ds = .error fault ↔ readMagnitude sign 0 ds = .error fault := by
      rw [readSigned_of_ne_nil hnil]
      cases readMagnitude sign 0 ds <;> simp [Except.map]
    rw [hmap, readMagnitude_eq_error_iff]
    simp [hnil]

end Runs

/-! ## Verdicts -/

/-- What remains of a value without its sign; a value without a sign is positive. -/
inductive Signed : List Char → Sign → List Char → Prop
  | plus (ds : List Char) : Signed ('+' :: ds) .plus ds
  | minus (ds : List Char) : Signed ('-' :: ds) .minus ds
  | unsigned {s : List Char} (hplus : ∀ ds, s ≠ '+' :: ds)
      (hminus : ∀ ds, s ≠ '-' :: ds) : Signed s .plus s

/-- What becomes of a value: the reason for which it is rejected, or the integer that it denotes. -/
inductive Judged : List Char → Except String Int → Prop
  | empty : Judged [] (.error "cannot parse integer from empty string")
  | tooLarge {s ds : List Char} (hs : Signed s .plus ds) (hds : Sign.plus.Overruns ds) :
      Judged s (.error "number too large to fit in target type")
  | tooSmall {s ds : List Char} (hs : Signed s .minus ds) (hds : Sign.minus.Overruns ds) :
      Judged s (.error "number too small to fit in target type")
  | invalidDigit {s ds : List Char} {sign : Sign} (hne : s ≠ []) (hs : Signed s sign ds)
      (hds : ¬ sign.Overruns ds) (hbad : ds = [] ∨ ∃ c ∈ ds, c.isDigit = false) :
      Judged s (.error "invalid digit found in string")
  | exact {s : List Char} {n : Int} (hn : Denotes s n) (hlow : -2147483648 ≤ n)
      (hhigh : n ≤ 2147483647) :
      Judged s (.ok n)

section Verdicts

variable {s ds : List Char} {sign : Sign}

lemma exists_signed (s : List Char) : ∃ sign ds, Signed s sign ds := by
  by_cases hplus : ∃ ds, s = '+' :: ds
  · obtain ⟨ds, rfl⟩ := hplus
    exact ⟨_, _, .plus ds⟩
  · by_cases hminus : ∃ ds, s = '-' :: ds
    · obtain ⟨ds, rfl⟩ := hminus
      exact ⟨_, _, .minus ds⟩
    · exact ⟨_, _, .unsigned (not_exists.mp hplus) (not_exists.mp hminus)⟩

lemma Signed.readValue_eq (h : Signed s sign ds) (hne : s ≠ []) :
    readValue s = readSigned sign ds := by
  cases h with
  | plus => rfl
  | minus => rfl
  | unsigned hplus hminus =>
      rw [readValue]
      · exact hne
      · exact hplus
      · exact hminus

lemma Signed.ne_nil (h : Signed s sign ds) (hds : ds ≠ []) : s ≠ [] := by
  cases h with
  | plus => simp
  | minus => simp
  | unsigned => exact hds

/-- **Verdicts.**  There is one verdict on every text, and the reader gives it. -/
theorem judged_iff {outcome : Except String Int} :
    Judged s outcome ↔ (readValue s).mapError ValueFault.message = outcome := by
  constructor
  · intro h
    cases h with
    | empty => rfl
    | tooLarge hs hds | tooSmall hs hds =>
        rw [hs.readValue_eq (hs.ne_nil hds.ne_nil), readSigned_eq_error_iff.mpr (.inl ⟨hds, rfl⟩)]
        rfl
    | invalidDigit hne hs hds hbad =>
        rw [hs.readValue_eq hne, readSigned_eq_error_iff.mpr (.inr ⟨hds, hbad, rfl⟩)]
        rfl
    | exact hn hlow hhigh =>
        rw [readValue_eq_ok_iff.mpr ⟨hn, hlow, hhigh⟩]
        rfl
  · rintro rfl
    by_cases hne : s = []
    · subst hne
      exact .empty
    · obtain ⟨sign, ds, hs⟩ := exists_signed s
      cases hread : readValue s with
      | ok n =>
          obtain ⟨hn, hlow, hhigh⟩ := readValue_eq_ok_iff.mp hread
          exact .exact hn hlow hhigh
      | error fault =>
          rw [hs.readValue_eq hne, readSigned_eq_error_iff] at hread
          obtain ⟨hds, rfl⟩ | ⟨hds, hbad, rfl⟩ := hread
          · cases sign with
            | plus => exact .tooLarge hs hds
            | minus => exact .tooSmall hs hds
          · exact .invalidDigit hne hs hds hbad

end Verdicts

/-! ## Lines -/

/-- Which value a line gives to which name.  It is divided at its last equals sign, and blanks
around the name and the value do not count. -/
inductive Assigns : List Char → String → List Char → Prop
  | line {left right value : List Char} {name : String} (hright : '=' ∉ right)
      (hname : Text.Trims left name.toList) (hne : name ≠ "") (hvalue : Text.Trims right value) :
      Assigns (left ++ '=' :: right) name value

section Lines

variable {body value : List Char} {name : String}

/-- A line that gives a value to a name can be at fault in two ways. -/
lemma Assigns.readLine_eq_error (h : Assigns body name value) {fault : LineFault}
    (hfault : (∃ why, readValue value = .error why ∧ fault = .badValue name why) ∨
      ∃ n, readValue value = .ok n ∧ maxKind < Int32.ofInt n ∧ fault = .aboveMax name (.ofInt n)) :
    readLine body = .error fault := by
  obtain ⟨hright, hname, hne, hvalue⟩ := h
  have hblank : ∀ left right : List Char, ¬ (left ++ '=' :: right).all Text.isBlank = true := by
    intro left right hall
    exact absurd (List.all_eq_true.mp hall '=' (by simp)) (by decide)
  rw [readLine, if_neg (hblank _ _), splitLast?_append hright]
  simp only [Text.trims_iff.mp hname, Text.trims_iff.mp hvalue, String.ofList_toList]
  rw [if_neg (by simpa using hne)]
  obtain ⟨why, hread, rfl⟩ | ⟨n, hread, hmax, rfl⟩ := hfault
  · simp only [hread]
  · simp only [hread, if_pos hmax]

/-- A value that is rejected is at fault for the reason of the verdict. -/
lemma Assigns.readLine_of_rejected (h : Assigns body name value) {reason : String}
    (hvalue : Judged value (.error reason)) :
    ∃ fault, readLine body = .error fault ∧
      fault.message = "invalid value for `" ++ name ++ "`: " ++ reason := by
  rw [judged_iff] at hvalue
  cases hread : readValue value with
  | ok n => simp [hread, Except.mapError] at hvalue
  | error fault =>
      simp only [hread, Except.mapError, Except.error.injEq] at hvalue
      subst hvalue
      exact ⟨_, h.readLine_eq_error (.inl ⟨fault, hread, rfl⟩), rfl⟩

lemma message_aboveMax (name : String) (k : Kind) : (LineFault.aboveMax name k).message =
    "value for `" ++ name ++ "` is out of range: " ++ k.text ++ " > 65535" := by
  have hmax : " > " ++ maxKind.text = " > 65535" := by rw [maxKind_text]; rfl
  rw [← hmax, ← String.append_assoc]
  rfl

/-- An integer of 32 bits is out of range if it exceeds the largest kind. -/
lemma Assigns.readLine_of_above (h : Assigns body name value) {n : Nat}
    (hvalue : Judged value (.ok n)) (hn : 65535 < n) :
    ∃ fault, readLine body = .error fault ∧
      fault.message = "value for `" ++ name ++ "` is out of range: " ++ n.repr ++ " > 65535" := by
  cases hvalue with
  | exact hdenotes hlow hhigh =>
      have hkind := Kind.toInt_ofInt hlow hhigh
      have hmax : maxKind < Int32.ofInt n := by rw [maxKind_lt_iff, hkind]; omega
      have htext : Kind.text (Int32.ofInt n) = n.repr := by rw [Kind.text, hkind]
      have hread := readValue_eq_ok_iff.mpr ⟨hdenotes, hlow, hhigh⟩
      exact ⟨_, h.readLine_eq_error (.inr ⟨n, hread, hmax, rfl⟩), by rw [message_aboveMax, htext]⟩

/-- Any other integer of 32 bits is the kind of the name, exactly. -/
lemma Assigns.defines (h : Assigns body name value) {n : Int} (hvalue : Judged value (.ok n))
    (hn : n ≤ 65535) :
    ∃ e, Defines body e ∧ e.name = name ∧ e.kind.toInt = n := by
  obtain ⟨hright, hname, hne, htrims⟩ := h
  cases hvalue with
  | exact hdenotes hlow hhigh =>
      have hkind := Kind.toInt_ofInt hlow hhigh
      have hmax : (Int32.ofInt n).toInt ≤ 65535 := hkind.symm ▸ hn
      exact ⟨⟨name, .ofInt n⟩, .entry hright hname hne htrims (hkind.symm ▸ hdenotes) hmax, rfl,
        hkind⟩

end Lines

/-! ## The whole -/

section Reading

variable {before after : List Text.Line} {line : Text.Line} {number offset : Nat}
    {done : List Entry}

/-- The first line that cannot be read is the one that is reported. -/
lemma readLines_of_error (hlines : ∀ l ∈ before ++ line :: after, dropLineEnd l.text = l.body)
    (hbefore : ∀ l ∈ before, Readable l.body) {fault : LineFault}
    (hline : readLine line.body = .error fault) :
    ∃ e, readLines number offset done ((before ++ line :: after).map Text.Line.text) = .error e ∧
      e.line = number + before.length ∧ e.fault = fault := by
  induction before generalizing number offset done with
  | nil =>
      have hbody := hlines line List.mem_cons_self
      refine ⟨⟨number, offset, offset + Text.byteSize line.body, fault⟩, ?_, rfl, rfl⟩
      simp only [List.nil_append, List.map_cons, readLines, hbody, hline]
  | cons l before ih =>
      rw [List.cons_append] at hlines
      obtain ⟨hl, hrest⟩ := List.forall_mem_cons.mp hlines
      obtain ⟨hreadable, hbefore⟩ := List.forall_mem_cons.mp hbefore
      cases hread : readLine l.body with
      | error other => exact absurd hreadable (readLine_eq_error_iff.mp ⟨other, hread⟩)
      | ok found =>
          rw [List.cons_append, List.map_cons, readLines_cons (by rw [hl]; exact hread)]
          obtain ⟨e, he, hnumber, hfault⟩ := ih hrest hbefore
          exact ⟨e, he, by rw [hnumber, List.length_cons]; omega, hfault⟩

/-- Where lines can be read, the first that cannot comes after them. -/
lemma length_le_of_readable {readable lines before' after' : List Text.Line} {bad : Text.Line}
    (hreadable : ∀ l ∈ readable, Readable l.body) (hbad : ¬ Readable bad.body)
    (h : readable ++ lines = before' ++ bad :: after') : readable.length ≤ before'.length := by
  rcases List.append_eq_append_iff.mp h with ⟨between, hbefore, -⟩ | ⟨between, hbefore, hafter⟩
  · simp [hbefore]
  · cases between with
    | nil => simp [hbefore]
    | cons l between =>
        obtain ⟨rfl, -⟩ := List.cons.inj hafter
        exact absurd (hreadable bad (by simp [hbefore])) hbad

/-- A line that defines something has its definition after those of the lines before it. -/
lemma getElem?_of_forall₂_told {es : List Entry} {e : Entry} (hline : Defines line.body e)
    (hes : List.Forall₂ Defines (told (before ++ line :: after)) es) :
    es[(told before).length]? = some e := by
  have htold : told (before ++ line :: after) = told before ++ line.body :: told after := by
    rw [← told_cons_of_not_blank hline.not_blank, told, List.map_append, List.filter_append]
    rfl
  rw [htold] at hes
  have hdrop := List.forall₂_drop_append _ _ _ hes.flip
  generalize hrest : es.drop (told before).length = rest at hdrop
  cases hdrop with
  | cons hdefines _ =>
      rw [← Nat.add_zero (told before).length, ← List.getElem?_drop, hrest, hdefines.unique hline]
      rfl

end Reading

/-- **The whole.**  Let a line give a value to a name, and let all lines before it be readable.
There is one verdict on the value.  If it is rejected, the error is about this line and gives the
reason of the verdict; if it exceeds the largest kind, the error is about this line and says so.
Otherwise no error is about this line, and if the lines after it can be read as well, the table has
the name with the integer that the value denotes. -/
theorem parse_assigns (text : String) (before after : List Text.Line) (line : Text.Line)
    (name : String) (value : List Char) (hcut : Text.Cut text.toList (before ++ line :: after))
    (hbefore : ∀ l ∈ before, Readable l.body) (hline : Assigns line.body name value) :
    (∃! outcome, Judged value outcome) ∧
    (∀ reason, Judged value (.error reason) → ∃ e, Table.parse text = .error e ∧
      e.line = before.length + 1 ∧
      e.fault.message = "invalid value for `" ++ name ++ "`: " ++ reason) ∧
    (∀ n : Nat, Judged value (.ok n) → 65535 < n → ∃ e, Table.parse text = .error e ∧
      e.line = before.length + 1 ∧
      e.fault.message = "value for `" ++ name ++ "` is out of range: " ++ n.repr ++ " > 65535") ∧
    ∀ n : Int, Judged value (.ok n) → n ≤ 65535 →
      (∀ e, Table.parse text = .error e → before.length + 1 < e.line) ∧
      ((∀ l ∈ after, Readable l.body) → ∃ table entry, Table.parse text = .ok table ∧
        table.entries[(told before).length]? = some entry ∧ entry.name = name ∧
        entry.kind.toInt = n) := by
  have hparse :
      Table.parse text = readLines 1 0 [] ((before ++ line :: after).map Text.Line.text) := by
    rw [Table.parse, hcut.cutLines_eq]
  have hfault : ∀ message, (∃ fault, readLine line.body = .error fault ∧ fault.message = message) →
      ∃ e, Table.parse text = .error e ∧ e.line = before.length + 1 ∧
        e.fault.message = message := by
    rintro message ⟨fault, hread, rfl⟩
    obtain ⟨e, he, hnumber, rfl⟩ := readLines_of_error hcut.dropLineEnd_text hbefore hread
    exact ⟨e, hparse.trans he, by omega, rfl⟩
  refine ⟨⟨_, judged_iff.mpr rfl, fun outcome h => (judged_iff.mp h).symm⟩,
    fun reason h => hfault _ (hline.readLine_of_rejected h),
    fun n h hn => hfault _ (hline.readLine_of_above h hn), fun n h hn => ?_⟩
  obtain ⟨entry, hdefines, hname, hkind⟩ := hline.defines h hn
  have hreadable : ∀ l ∈ before ++ [line], Readable l.body :=
    List.forall_mem_append.mpr ⟨hbefore, List.forall_mem_singleton.mpr (.inr ⟨entry, hdefines⟩)⟩
  have happend : before ++ line :: after = before ++ [line] ++ after := by simp
  refine ⟨fun e he => ?_, fun hafter => ?_⟩
  · obtain ⟨before', bad, after', hlines, -, hbad, hnumber, -⟩ :=
      of_readLines_eq_error hcut.dropLineEnd_text (hparse.symm.trans he)
    have hlength := length_le_of_readable hreadable hbad (happend.symm.trans hlines)
    rw [List.length_append, List.length_singleton] at hlength
    omega
  · have hall : ∀ l ∈ before ++ line :: after, Readable l.body :=
      happend ▸ List.forall_mem_append.mpr ⟨hreadable, hafter⟩
    obtain ⟨es, hes⟩ := exists_forall₂_told_iff.mpr hall
    refine ⟨⟨es⟩, entry, ?_, getElem?_of_forall₂_told hdefines hes, hname, hkind⟩
    rw [hparse, readLines_eq_ok_iff hcut.dropLineEnd_text]
    exact ⟨es, rfl, hes⟩

/-- A value with two faults: after zeros its digits leave the range by one, and a letter follows. -/
theorem parse_assigns_tooSmall :
    Text.Cut "A=1\nB = -002147483649x".toList
      [⟨"A=1".toList, ['\n']⟩, ⟨"B = -002147483649x".toList, []⟩] ∧
    Assigns "B = -002147483649x".toList "B" "-002147483649x".toList ∧
    ∃ e, Table.parse "A=1\nB = -002147483649x" = .error e ∧ e.line = 2 ∧
      e.fault.message
        = "invalid value for `" ++ "B" ++ "`: " ++ "number too small to fit in target type" := by
  have hcut : Text.Cut ("A=1".toList ++ List.replicate 0 '\r' ++
      '\n' :: ("B = -002147483649x".toList ++ List.replicate 0 '\r'))
      [⟨"A=1".toList, ['\n']⟩, ⟨"B = -002147483649x".toList, []⟩] :=
    .line ⟨by decide, by decide⟩ (.last ⟨by decide, by decide⟩ (by decide))
  have hfirst : readLine "A=1".toList = .ok (some ⟨"A", 1⟩) := by decide
  have hassigns :
      Assigns ("B ".toList ++ '=' :: " -002147483649x".toList) "B" "-002147483649x".toList :=
    .line (by decide) (Text.trims_iff.mpr (by decide)) (by decide) (Text.trims_iff.mpr (by decide))
  have hover : Sign.minus.Overruns "002147483649x".toList :=
    ⟨"002147483649".toList, ['x'], by decide, ⟨by decide, by simp⟩, .inl (by decide)⟩
  obtain ⟨-, hrejected, -⟩ :=
    parse_assigns "A=1\nB = -002147483649x" [⟨"A=1".toList, ['\n']⟩] [] _ "B" _ hcut
      (List.forall_mem_singleton.mpr (.inr ⟨_, readLine_eq_ok_some_iff.mp hfirst⟩)) hassigns
  exact ⟨hcut, hassigns, hrejected _ (.tooSmall (.minus _) hover)⟩

end ParseTree
