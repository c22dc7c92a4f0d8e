import ParseTree.Json.Typed
import ParseTree.Proofs.Numerals

/-!
# Texts made of lexemes

Between the lexical elements of a document there may be blanks, so a document is a list of
`Lexeme`s, and a text is `Spaced` out of them if it spells them one after the other.  The readers
work on the rest of a text, and the rest may have been cut short.  Both are said by `Begins`: a text
begins with lexemes and then goes on with a given rest, or it ends somewhere inside them.

* **Leading on** — `Leads` is what the lemmas about readers have in common.  A reader takes lexemes
  that stand for something and hands the rest over to what comes next; or they stand for nothing,
  and it refuses them; or the text has been cut short, and it meets the end.  `Leads.bind` puts two
  readers one after the other, for whole texts and for those cut short at once.
* **Readers** — one lemma for each: `readColon_begins`, `readText_begins`, `readKey_begins` and so
  on.
-/

namespace ParseTree.Json

/-! ## Lexemes -/

/-- A value that is no list and no object. -/
inductive Scalar
  | null
  | boolean (value : Bool)
  | integer (value : Int)
  | string (value : String)
deriving Repr, DecidableEq

/-- A lexical element: a bracket, a colon or a comma, or a scalar. -/
inductive Lexeme
  | mark (c : Char)
  | scalar (value : Scalar)
deriving Repr, DecidableEq

/-- The ways to write a scalar. -/
inductive Scalar.Spelling : Scalar → List Char → Prop
  | null : Scalar.Spelling .null ['n', 'u', 'l', 'l']
  | boolean (b : Bool) :
      Scalar.Spelling (.boolean b) (if b then ['t', 'r', 'u', 'e'] else ['f', 'a', 'l', 's', 'e'])
  | integer (n : Int) : Scalar.Spelling (.integer n) (integerText n).toList
  | string {text : String} {ws : List Char} (h : TextSpelling text.toList ws) :
      Scalar.Spelling (.string text) ('"' :: (ws ++ ['"']))

/-- The ways to write a lexical element. -/
inductive Lexeme.Spelling : Lexeme → List Char → Prop
  | mark (c : Char) : Lexeme.Spelling (.mark c) [c]
  | scalar {v : Scalar} {w : List Char} (h : v.Spelling w) : Lexeme.Spelling (.scalar v) w

/-- A text that spells lexemes one after the other, with any blanks before, between and after
them. -/
inductive Spaced : List Lexeme → List Char → Prop
  | nil {blanks : List Char} (hblanks : ∀ c ∈ blanks, isBlank c = true) : Spaced [] blanks
  | cons {l : Lexeme} {ls : List Lexeme} {blanks w s : List Char}
      (hblanks : ∀ c ∈ blanks, isBlank c = true) (hw : l.Spelling w) (hs : Spaced ls s) :
      Spaced (l :: ls) (blanks ++ w ++ s)

/-- An integer begins with its sign or with a digit. -/
lemma head_integerText (n : Int) :
    ∃ c w, (integerText n).toList = c :: w ∧ (c = '-' ∨ c.isDigit = true) := by
  rw [toList_integerText]
  cases n with
  | ofNat n =>
      have hdigits := wholeDigits_toDigits n
      obtain ⟨c, w, hw⟩ := List.exists_cons_of_ne_nil hdigits.ne_nil
      exact ⟨c, w, hw, Or.inr (hdigits.isDigit c (by simp [hw]))⟩
  | negSucc n => exact ⟨_, _, rfl, Or.inl rfl⟩

lemma isBlank_of_isDigit {c : Char} (h : c = '-' ∨ c.isDigit = true) : isBlank c = false := by
  rcases h with rfl | h
  · rfl
  · by_contra hblank
    simp only [isBlank, Bool.not_eq_false, Bool.or_eq_true, beq_iff_eq] at hblank
    rcases hblank with ((rfl | rfl) | rfl) | rfl <;> exact absurd h (by decide)

/-- A scalar does not begin with a blank. -/
lemma Scalar.Spelling.head {v : Scalar} {w : List Char} (h : v.Spelling w) :
    ∃ c w', w = c :: w' ∧ isBlank c = false := by
  cases h with
  | boolean b => cases b <;> exact ⟨_, _, rfl, rfl⟩
  | integer n =>
      obtain ⟨c, w, hw, hc⟩ := head_integerText n
      exact ⟨c, w, hw, isBlank_of_isDigit hc⟩
  | _ => exact ⟨_, _, rfl, rfl⟩

lemma Lexeme.Spelling.ne_nil {l : Lexeme} {w : List Char} (h : l.Spelling w) : w ≠ [] := by
  cases h with
  | mark c => simp
  | scalar hv =>
      obtain ⟨c, w', rfl, -⟩ := hv.head
      simp

/-! ## What a text begins with -/

/-- A text that begins with lexemes and then goes on with `rest`; without a rest, it is cut short
before the last lexeme has ended. -/
def Begins (rest : Option (List Char)) : List Lexeme → List Char → Prop
  | [], s => rest = some s
  | l :: ls, s => ∃ blanks s', s = blanks ++ s' ∧ (∀ c ∈ blanks, isBlank c = true) ∧
      ((∃ w s'', l.Spelling w ∧ s' = w ++ s'' ∧ Begins rest ls s'') ∨
        (rest = none ∧ ∃ missing, missing ≠ [] ∧ l.Spelling (s' ++ missing)))

variable {rest : Option (List Char)} {ls : List Lexeme} {s : List Char}

lemma Spaced.begins (h : Spaced ls s) :
    ∃ blanks, (∀ c ∈ blanks, isBlank c = true) ∧ Begins (some blanks) ls s := by
  induction h with
  | nil hblanks => exact ⟨_, hblanks, rfl⟩
  | cons hblanks hw _ ih =>
      obtain ⟨after, hafter, hs⟩ := ih
      exact ⟨after, hafter, _, _, List.append_assoc .., hblanks, Or.inl ⟨_, _, hw, rfl, hs⟩⟩

/-- What is left of a text that begins with lexemes, if the end of the text comes before their
end. -/
lemma Begins.cut {after p q : List Char} (h : Begins (some after) ls (p ++ q))
    (hq : after.length < q.length) : Begins none ls p := by
  induction ls generalizing p with
  | nil =>
      obtain rfl : after = p ++ q := Option.some.inj h
      rw [List.length_append] at hq
      omega
  | cons l ls ih =>
      have hne : q ≠ [] := List.ne_nil_of_length_pos (Nat.zero_lt_of_lt hq)
      obtain ⟨blanks, s', hs, hblanks, ⟨w, s'', hw, rfl, hs''⟩ | ⟨hnone, -⟩⟩ := h
      · rcases List.append_eq_append_iff.mp hs with ⟨m, rfl, -⟩ | ⟨p', rfl, hp'⟩
        · -- The cut is among the blanks.
          refine ⟨p, [], by simp, fun c hc => hblanks c (List.mem_append_left m hc), ?_⟩
          exact Or.inr ⟨rfl, w, hw.ne_nil, hw⟩
        · refine ⟨blanks, p', rfl, hblanks, ?_⟩
          rcases cut_append hp' hne with ⟨missing, hmissing, rfl⟩ | ⟨p'', rfl, rfl⟩
          · exact Or.inr ⟨rfl, missing, hmissing, hw⟩
          · exact Or.inl ⟨w, p'', hw, rfl, ih hs''⟩
      · cases hnone

lemma Begins.mark_cons (c : Char) (h : Begins rest ls s) : Begins rest (.mark c :: ls) (c :: s) :=
  ⟨[], c :: s, rfl, by simp, Or.inl ⟨[c], s, .mark c, rfl, h⟩⟩

/-! ### Plain texts -/

/-- A scalar as it is written without need of anything else. -/
def Scalar.text : Scalar → List Char
  | .null => ['n', 'u', 'l', 'l']
  | .boolean b => if b then ['t', 'r', 'u', 'e'] else ['f', 'a', 'l', 's', 'e']
  | .integer n => (integerText n).toList
  | .string text => '"' :: (text.toList.flatMap escapeChar ++ ['"'])

def Lexeme.text : Lexeme → List Char
  | .mark c => [c]
  | .scalar v => v.text

lemma Lexeme.spelling_text (l : Lexeme) : l.Spelling l.text := by
  cases l with
  | mark c => exact .mark c
  | scalar v =>
      apply Lexeme.Spelling.scalar
      cases v with
      | null => exact .null
      | boolean b => exact .boolean b
      | integer n => exact .integer n
      | string text => exact .string (spelling_flatMap_escapeChar _)

lemma begins_text (ls : List Lexeme) (after : List Char) :
    Begins (some after) ls (ls.flatMap Lexeme.text ++ after) := by
  induction ls with
  | nil => rfl
  | cons l ls ih =>
      rw [List.flatMap_cons, List.append_assoc]
      exact ⟨[], _, rfl, by simp, Or.inl ⟨l.text, _, l.spelling_text, rfl, ih⟩⟩

/-- The same blanks may stand in front of all lexemes. -/
lemma spaced_text {blanks : List Char} (hblanks : ∀ c ∈ blanks, isBlank c = true)
    (ls : List Lexeme) :
    Spaced ls (ls.flatMap fun l => blanks ++ l.text) := by
  induction ls with
  | nil => exact .nil (by simp)
  | cons l ls ih => exact .cons hblanks l.spelling_text ih

/-! ### The first lexeme -/

lemma skipBlanks_append {blanks : List Char} (h : ∀ c ∈ blanks, isBlank c = true) (s : List Char) :
    skipBlanks (blanks ++ s) = skipBlanks s :=
  List.dropWhile_append_of_pos h

lemma skipBlanks_cons {c : Char} (h : isBlank c = false) (s : List Char) :
    skipBlanks (c :: s) = c :: s := by
  simp [skipBlanks, h]

/-- Behind the blanks stands a lexeme that does not begin with one, or what is left of it. -/
lemma Begins.first {l : Lexeme}
    (hl : ∀ w, l.Spelling w → ∃ c w', w = c :: w' ∧ isBlank c = false)
    (h : Begins rest (l :: ls) s) :
    (∃ w s', l.Spelling w ∧ skipBlanks s = w ++ s' ∧ Begins rest ls s') ∨
      (rest = none ∧ ∃ missing, missing ≠ [] ∧ l.Spelling (skipBlanks s ++ missing)) := by
  obtain ⟨blanks, s', rfl, hblanks, ⟨w, s'', hw, rfl, hs⟩ | ⟨hrest, missing, hmissing, hw⟩⟩ := h
  · obtain ⟨c, w', rfl, hc⟩ := hl w hw
    refine Or.inl ⟨_, s'', hw, ?_, hs⟩
    rw [skipBlanks_append hblanks, List.cons_append, skipBlanks_cons hc]
  · refine Or.inr ⟨hrest, missing, hmissing, ?_⟩
    rw [skipBlanks_append hblanks]
    cases s' with
    | nil => exact hw
    | cons c s' =>
        obtain ⟨_, _, hcons, hc⟩ := hl _ hw
        rw [skipBlanks_cons ((List.cons.inj hcons).1 ▸ hc)]
        exact hw

/-- Behind the blanks stands a mark, or nothing. -/
lemma Begins.mark {c : Char} (hc : isBlank c = false) (h : Begins rest (.mark c :: ls) s) :
    (∃ s', skipBlanks s = c :: s' ∧ Begins rest ls s') ∨ (rest = none ∧ skipBlanks s = []) := by
  rcases h.first (fun w hw => by cases hw; exact ⟨c, [], rfl, hc⟩) with
    ⟨w, s', ⟨⟩, hs, hs'⟩ | ⟨hrest, missing, hmissing, hw⟩
  · exact Or.inl ⟨s', hs, hs'⟩
  · refine Or.inr ⟨hrest, ?_⟩
    generalize hspelled : skipBlanks s ++ missing = w at hw
    cases hw
    cases hleft : skipBlanks s with
    | nil => rfl
    | cons d left => simp_all

/-- Behind the blanks stands a scalar, or what is left of it. -/
lemma Begins.scalar {v : Scalar} (h : Begins rest (.scalar v :: ls) s) :
    (∃ w s', v.Spelling w ∧ skipBlanks s = w ++ s' ∧ Begins rest ls s') ∨
      (rest = none ∧ ∃ missing, missing ≠ [] ∧ v.Spelling (skipBlanks s ++ missing)) := by
  rcases h.first (fun w hw => by cases hw; exact Scalar.Spelling.head ‹_›) with
    ⟨w, s', ⟨⟩, hs, hs'⟩ | ⟨hrest, missing, hmissing, ⟨⟩⟩
  · exact Or.inl ⟨w, s', ‹_›, hs, hs'⟩
  · exact Or.inr ⟨hrest, missing, hmissing, ‹_›⟩

/-! ## Leading on -/

section Leads

variable {α β γ δ : Type} {rest : Option (List Char)} {ls ls' : List Lexeme} {x? : Option α}
  {r : Except Fault β}

/-- What a reader does with a text that begins with lexemes, of which `ls` are left when it is done.
If the lexemes that it takes stand for something, it comes to the same as what is `next` does with
it and the rest; if they do not, it refuses them; and if the text has been cut short, it may meet
the end. -/
inductive Leads (rest : Option (List Char)) (ls : List Lexeme) (x? : Option α) (r : Except Fault β)
    (next : α → List Char → Except Fault β) : Prop
  | reads {x : α} {s : List Char} (hx : x? = some x) (hr : r = next x s) (hs : Begins rest ls s)
  | refuses (hx : x? = none) (hr : ∃ fault, r = .error fault)
  | runsOut (hrest : rest = none) (hr : RunsOut r)

/-- Two readers one after the other. -/
lemma Leads.bind {make : α → List Char → β} {y? : α → Option γ} {k : β → Except Fault δ}
    {next : γ → List Char → Except Fault δ}
    (h : Leads rest ls x? r (fun x s => .ok (make x s)))
    (hk : ∀ x s, x? = some x → Begins rest ls s → Leads rest ls' (y? x) (k (make x s)) next) :
    Leads rest ls' (x?.bind y?) (r.bind k) next := by
  cases h with
  | reads hx hr hs =>
      subst hx hr
      exact hk _ _ rfl hs
  | refuses hx hr =>
      obtain ⟨fault, rfl⟩ := hr
      subst hx
      exact .refuses rfl ⟨fault, rfl⟩
  | runsOut hrest hr => exact .runsOut hrest (hr.bind k)

/-- The same if what the first one reads is certain. -/
lemma Leads.andThen {x : α} {y? : Option γ} {make : α → List Char → β} {k : β → Except Fault δ}
    {next : γ → List Char → Except Fault δ}
    (h : Leads rest ls (some x) r (fun x s => .ok (make x s)))
    (hk : ∀ s, Begins rest ls s → Leads rest ls' y? (k (make x s)) next) :
    Leads rest ls' y? (r.bind k) next := by
  cases h with
  | reads hx hr hs =>
      cases hx
      subst hr
      exact hk _ hs
  | refuses hx => cases hx
  | runsOut hrest hr => exact .runsOut hrest (hr.bind k)

lemma Leads.map {make : α → List Char → β} (h : Leads rest ls x? r (fun x s => .ok (make x s)))
    (f : β → γ) : Leads rest ls x? (r.map f) (fun x s => .ok (f (make x s))) := by
  cases h with
  | reads hx hr hs => exact .reads hx (by rw [hr]; rfl) hs
  | refuses hx hr =>
      obtain ⟨fault, rfl⟩ := hr
      exact .refuses hx ⟨fault, rfl⟩
  | runsOut hrest hr => exact .runsOut hrest (hr.map f)

/-- The same if what comes next is not a reader of its own. -/
lemma Leads.trans {next : α → List Char → Except Fault β} {y? : α → Option γ}
    {next' : γ → List Char → Except Fault β} (h : Leads rest ls x? r next)
    (hnext : ∀ x s, x? = some x → Begins rest ls s → Leads rest ls' (y? x) (next x s) next') :
    Leads rest ls' (x?.bind y?) r next' := by
  cases h with
  | reads hx hr hs =>
      subst hx hr
      exact hnext _ _ rfl hs
  | refuses hx hr =>
      subst hx
      exact .refuses rfl hr
  | runsOut hrest hr => exact .runsOut hrest hr

/-- What comes next may take what has been read in another form. -/
lemma Leads.convert {next : γ → List Char → Except Fault β} (f : α → γ)
    (h : Leads rest ls x? r (fun x s => next (f x) s)) : Leads rest ls (x?.map f) r next := by
  cases h with
  | reads hx hr hs => exact .reads (by rw [hx]; rfl) hr hs
  | refuses hx hr => exact .refuses (by rw [hx]; rfl) hr
  | runsOut hrest hr => exact .runsOut hrest hr

end Leads

/-- The same for what may be a number.  One that is cut short may pass for another, but then nothing
is left of the text. -/
def Takes {α : Type} (rest : Option (List Char)) (ls : List Lexeme) (x? : Option α)
    (r : Reading α) : Prop :=
  Leads rest ls x? r (fun x s => .ok (x, s)) ∨ (rest = none ∧ ∃ x, r = .ok (x, []))

/-! ## Readers -/

/-- A reader that calls for a mark. -/
lemma Begins.leads {α : Type} {c : Char} (h : Begins rest (.mark c :: ls) s)
    (hc : isBlank c = false) {r : Except Fault α} {next : Unit → List Char → Except Fault α}
    (hread : ∀ s', skipBlanks s = c :: s' → r = next () s') (hend : skipBlanks s = [] → RunsOut r) :
    Leads rest ls (some ()) r next := by
  rcases h.mark hc with ⟨s', hs, hs'⟩ | ⟨hrest, hs⟩
  · exact .reads rfl (hread s' hs) hs'
  · exact .runsOut hrest (hend hs)

lemma readColon_begins (h : Begins rest (.mark ':' :: ls) s) :
    Leads rest ls (some ()) (readColon s) (fun _ s => .ok s) := by
  refine h.leads rfl (fun s' hs => ?_) (fun hs => ?_) <;> rw [readColon, hs]
  · rfl
  · exact runsOut_error rfl

/-- A colon and what follows it. -/
lemma readColon_takes {α : Type} {ls' : List Lexeme} {x? : Option α} {read : List Char → Reading α}
    (h : Begins rest (.mark ':' :: ls') s)
    (hread : ∀ s, Begins rest ls' s → Takes rest ls x? (read s)) :
    Takes rest ls x? ((readColon s).bind read) := by
  cases readColon_begins h with
  | reads hx hr hs =>
      rw [hr]
      exact hread _ hs
  | refuses hx => cases hx
  | runsOut hrest hr => exact Or.inl (.runsOut hrest (hr.bind read))

/-- Behind the blanks stands the opening quote of a string, or nothing. -/
lemma Begins.string {text : String} (h : Begins rest (.scalar (.string text) :: ls) s) :
    (∃ s', skipBlanks s = '"' :: s' ∧
      Leads rest ls (some text) (readString s') (fun text s => .ok (text, s))) ∨
      (rest = none ∧ skipBlanks s = []) := by
  rcases h.scalar with ⟨w, s', hw, hs, hs'⟩ | ⟨hrest, missing, hmissing, hw⟩
  · cases hw with
    | string hws =>
        rw [List.cons_append, List.append_assoc] at hs
        exact Or.inl ⟨_, hs, .reads rfl (readString_spelled hws s') hs'⟩
  · generalize hspelled : skipBlanks s ++ missing = w at hw
    cases hw with
    | string hws =>
        cases hleft : skipBlanks s with
        | nil => exact Or.inr ⟨hrest, rfl⟩
        | cons c left =>
            rw [hleft, List.cons_append, List.cons.injEq] at hspelled
            obtain ⟨rfl, hbody⟩ := hspelled
            exact Or.inl ⟨left, rfl, .runsOut hrest (readString_cut hws hbody.symm hmissing)⟩

lemma readText_begins {text : String} (h : Begins rest (.scalar (.string text) :: ls) s) :
    Leads rest ls (some text) (readText s) (fun text s => .ok (text, s)) := by
  rw [readText]
  rcases h.string with ⟨s', hs, hs'⟩ | ⟨hrest, hs⟩
  · rw [hs]
    exact hs'
  · rw [hs]
    exact .runsOut hrest (runsOut_error rfl)

/-! ### Keys -/

/-- What stands in front of an entry that is not the first. -/
def comma (first : Bool) : List Lexeme := if first then [] else [.mark ',']

lemma readKey_begins {first : Bool} {name : String}
    (h : Begins rest (comma first ++ .scalar (.string name) :: ls) s) :
    Leads rest ls (some name) (readKey first s) (fun name s => .ok (some name, s)) := by
  rw [readKey]
  cases first with
  | true =>
      rcases h.string with ⟨s', hs, hs'⟩ | ⟨hrest, hs⟩
      · rw [hs]
        exact hs'.map fun r => (some r.1, r.2)
      · rw [hs]
        exact .runsOut hrest (runsOut_error rfl)
  | false =>
      rcases Begins.mark rfl h with ⟨s', hs, hs'⟩ | ⟨hrest, hs⟩
      · rcases hs'.string with ⟨s'', hs', hs''⟩ | ⟨hrest, hs'⟩
        · simp only [hs, hs']
          exact hs''.map fun r => (some r.1, r.2)
        · simp only [hs, hs']
          exact .runsOut hrest (runsOut_error rfl)
      · rw [hs]
        exact .runsOut hrest (runsOut_error rfl)

lemma readKey_close (first : Bool) (h : Begins rest (.mark '\x7d' :: ls) s) :
    Leads rest ls (some ()) (readKey first s) (fun _ s => .ok (none, s)) := by
  refine h.leads rfl (fun s' hs => ?_) (fun hs => ?_) <;> rw [readKey, hs]
  · rfl
  · exact runsOut_error rfl

/-! ### Integers -/

/-- What follows is a comma or the end of an object, so an integer in front of it does not go on. -/
def Closes (ls : List Lexeme) : Prop := ∃ c ls', ls = .mark c :: ls' ∧ (c = ',' ∨ c = '\x7d')

lemma Begins.stops (h : Begins rest ls s) (hls : Closes ls) : Stops s := by
  obtain ⟨c, ls, rfl, hc⟩ := hls
  obtain ⟨blanks, s', rfl, hblanks, hs'⟩ := h
  cases blanks with
  | cons blank blanks =>
      intro d hd
      obtain rfl : blank = d := Option.some.inj hd
      have hblank := hblanks blank List.mem_cons_self
      simp only [isBlank, Bool.or_eq_true, beq_iff_eq] at hblank
      rcases hblank with ((rfl | rfl) | rfl) | rfl <;> decide
  | nil =>
      rcases hs' with ⟨w, s'', hw, rfl, -⟩ | ⟨-, missing, hmissing, hw⟩
      · cases hw
        intro d hd
        obtain rfl : c = d := Option.some.inj hd
        rcases hc with rfl | rfl <;> decide
      · generalize hspelled : s' ++ missing = w at hw
        cases hw
        cases s' with
        | nil => exact stops_nil
        | cons d s' => simp_all

/-- Behind the blanks stands an integer, or what is left of it. -/
lemma Begins.integer {n : Int} (h : Begins rest (.scalar (.integer n) :: ls) s) (hls : Closes ls) :
    (rest = none ∧ skipBlanks s = []) ∨
      ∃ c w, skipBlanks s = c :: w ∧ (c = '-' ∨ c.isDigit = true) ∧
        ((∃ s', c :: w = (integerText n).toList ++ s' ∧ Stops s' ∧ Begins rest ls s') ∨
          (rest = none ∧ ∃ missing, (integerText n).toList = c :: w ++ missing)) := by
  obtain ⟨c, w, hw, hc⟩ := head_integerText n
  rcases h.scalar with ⟨_, s', hspelled, hs, hs'⟩ | ⟨hrest, missing, -, hspelled⟩
  · cases hspelled
    rw [hw] at hs
    exact Or.inr ⟨c, w ++ s', hs, hc, Or.inl ⟨s', by rw [hw]; rfl, hs'.stops hls, hs'⟩⟩
  · cases hleft : skipBlanks s with
    | nil => exact Or.inl ⟨hrest, rfl⟩
    | cons d left =>
        generalize hcut : skipBlanks s ++ missing = text at hspelled
        cases hspelled
        rw [hleft] at hcut
        obtain rfl : d = c := (List.cons.inj (hcut.trans hw)).1
        exact Or.inr ⟨d, left, rfl, hc, Or.inr ⟨hrest, missing, hcut.symm⟩⟩

lemma ne_of_isDigit {c d : Char} (hc : c = '-' ∨ c.isDigit = true)
    (hd : d ≠ '-' ∧ d.isDigit = false) :
    c ≠ d := by
  rintro rfl
  rcases hc with hc | hc
  · exact hd.1 hc
  · rw [hd.2] at hc
    cases hc

/-- What begins like a number is read as one. -/
lemma readScalar_number {c : Char} (hc : c = '-' ∨ c.isDigit = true) (w : List Char) :
    readScalar (c :: w) = readNumber (c :: w) := by
  simp only [readScalar]
  rw [if_neg (ne_of_isDigit hc (by decide)), if_neg (ne_of_isDigit hc (by decide)),
    if_neg (ne_of_isDigit hc (by decide)), if_neg (ne_of_isDigit hc (by decide)), if_pos hc]

/-- What is no list and no object is read as a scalar. -/
lemma readAny_scalar {c : Char} {w : List Char} (hs : skipBlanks s = c :: w) (hlist : c ≠ '[')
    (hobject : c ≠ '\x7b') : readAny s = readScalar (c :: w) := by
  rw [readAny, hs]
  split
  · next heq => exact absurd (List.cons.inj heq).1 hlist
  · next heq => exact absurd (List.cons.inj heq).1 hobject
  · rfl

/-- The integers of a type. -/
def IntegerType.Fits (type : IntegerType) (n : Int) : Prop := type.low ≤ n ∧ n ≤ type.high

instance (type : IntegerType) (n : Int) : Decidable (type.Fits n) :=
  inferInstanceAs (Decidable (_ ∧ _))

lemma check_integer (type : IntegerType) (n : Int) :
    type.check (.integer n) = if type.Fits n then .ok n else .error (.wrongValue n type.name) :=
  rfl

lemma readInteger_number {c : Char} {w : List Char} (hs : skipBlanks s = c :: w)
    (hc : c = '-' ∨ c.isDigit = true) (type : IntegerType) :
    readInteger type s = (readNumber (c :: w)).bind fun r =>
      match type.check r.1 with
      | .error cause => .error (.before cause r.2)
      | .ok value => .ok (value, r.2) := by
  rw [readInteger, hs]
  simp only [hc, if_true]
  cases readNumber (c :: w) <;> rfl

/-- An integer that fits in 64 bits, where any value may stand. -/
lemma readAny_integer {n : Int} (hn : Wide n) (h : Begins rest (.scalar (.integer n) :: ls) s)
    (hls : Closes ls) : Takes rest ls (some (.integer n)) (readAny s) := by
  rcases h.integer hls with ⟨hrest, hs⟩ | ⟨c, w, hs, hc, hnumber⟩
  · rw [readAny, hs]
    exact Or.inl (.runsOut hrest (runsOut_error rfl))
  rw [readAny_scalar hs (ne_of_isDigit hc (by decide)) (ne_of_isDigit hc (by decide)),
    readScalar_number hc]
  rcases hnumber with ⟨s', hw, hstops, hs'⟩ | ⟨hrest, missing, hcut⟩
  · rw [hw]
    exact Or.inl (.reads rfl (readNumber_integer hn hstops) hs')
  · rcases readNumber_cut hn hcut (by simp) with hr | ⟨m, hr, -⟩
    · exact Or.inl (.runsOut hrest hr)
    · exact Or.inr ⟨hrest, _, hr⟩

/-- One that does not fit is no integer to the reader. -/
lemma readAny_integer_of_not_wide {n : Int} (hn : ¬ Wide n) {after : List Char}
    (h : Begins (some after) (.scalar (.integer n) :: ls) s) (hls : Closes ls) :
    (∃ fault, readAny s = .error fault) ∨
      ∃ x s', readAny s = .ok (.real x, s') ∧ Begins (some after) ls s' := by
  rcases h.integer hls with ⟨hrest, -⟩ | ⟨c, w, hs, hc, ⟨s', hw, hstops, hs'⟩ | ⟨hrest, -⟩⟩
  · cases hrest
  · rw [readAny_scalar hs (ne_of_isDigit hc (by decide)) (ne_of_isDigit hc (by decide)),
      readScalar_number hc, hw]
    rcases readNumber_integer_of_not_wide hn hstops with ⟨fault, hr⟩ | ⟨x, hr⟩
    · exact Or.inl ⟨fault, hr⟩
    · exact Or.inr ⟨x, s', hr, hs'⟩
  · cases hrest

lemma wide_of_fits {n : Int} (h : int32.Fits n ∨ uint32.Fits n) : Wide n := by
  simp only [IntegerType.Fits, int32, uint32] at h
  simp only [Wide]
  omega

/-- An integer where one of 32 bits is called for. -/
lemma readInteger_begins {n : Int} (hn : rest = none → int32.Fits n)
    (h : Begins rest (.scalar (.integer n) :: ls) s) (hls : Closes ls) :
    Takes rest ls (if int32.Fits n then some n else none) (readInteger int32 s) := by
  rcases h.integer hls with ⟨hrest, hs⟩ | ⟨c, w, hs, hc, hnumber⟩
  · rw [readInteger, hs]
    exact Or.inl (.runsOut hrest (runsOut_error rfl))
  rw [readInteger_number hs hc]
  rcases hnumber with ⟨s', hw, hstops, hs'⟩ | ⟨hrest, missing, hcut⟩
  · left
    rw [hw]
    by_cases hfits : int32.Fits n
    · rw [if_pos hfits, readNumber_integer (wide_of_fits (Or.inl hfits)) hstops]
      refine .reads rfl ?_ hs'
      simp only [Except.bind, check_integer, if_pos hfits]
    · rw [if_neg hfits]
      refine .refuses rfl ?_
      by_cases hwide : Wide n
      · rw [readNumber_integer hwide hstops]
        simp only [Except.bind, check_integer, if_neg hfits]
        exact ⟨_, rfl⟩
      · rcases readNumber_integer_of_not_wide hwide hstops with ⟨fault, hr⟩ | ⟨x, hr⟩ <;>
          rw [hr] <;> exact ⟨_, rfl⟩
  · have hfits := hn hrest
    rcases readNumber_cut (wide_of_fits (Or.inl hfits)) hcut (by simp) with hr | ⟨m, hr, hm⟩
    · exact Or.inl (.runsOut hrest (hr.bind _))
    · have hmfits : int32.Fits m := by
        simp only [IntegerType.Fits, int32] at hfits ⊢
        omega
      refine Or.inr ⟨hrest, m, ?_⟩
      simp only [hr, Except.bind, check_integer, if_pos hmfits]

/-! ### Scalars that nobody asks for -/

/-- What a scalar is. -/
def Scalar.datum : Scalar → Datum
  | .null => .null
  | .boolean value => .boolean value
  | .integer value => .integer value
  | .string value => .string value

/-- Integers have to fit in 64 bits. -/
def Scalar.Fits : Scalar → Prop
  | .integer value => Wide value
  | _ => True

/-- A scalar where any value may stand. -/
lemma readAny_begins {v : Scalar} (hv : v.Fits) {after : List Char}
    (h : Begins (some after) (.scalar v :: ls) s) (hls : Closes ls) :
    ∃ s', readAny s = .ok (v.datum, s') ∧ Begins (some after) ls s' := by
  cases v with
  | integer n =>
      rcases readAny_integer hv h hls with hread | ⟨hrest, -⟩
      · cases hread with
        | reads hx hr hs => cases hx; exact ⟨_, hr, hs⟩
        | refuses hx => cases hx
        | runsOut hrest => cases hrest
      · cases hrest
  | string text =>
      rcases h.string with ⟨s', hs, hread⟩ | ⟨hrest, -⟩
      · cases hread with
        | reads hx hr hs' =>
            cases hx
            refine ⟨_, ?_, hs'⟩
            rw [readAny_scalar hs (by decide) (by decide)]
            simp [readScalar, hr, Scalar.datum, Except.map]
        | refuses hx => cases hx
        | runsOut hrest => cases hrest
      · cases hrest
  | null =>
      rcases h.scalar with ⟨w, s', ⟨⟩, hs, hs'⟩ | ⟨hrest, -⟩
      · refine ⟨s', ?_, hs'⟩
        rw [readAny_scalar hs (by decide) (by decide)]
        simp [readScalar, readWord, Scalar.datum, Except.map]
      · cases hrest
  | boolean value =>
      rcases h.scalar with ⟨w, s', ⟨⟩, hs, hs'⟩ | ⟨hrest, -⟩
      · refine ⟨s', ?_, hs'⟩
        cases value <;> rw [readAny_scalar hs (by decide) (by decide)] <;>
          simp [readScalar, readWord, Scalar.datum, Except.map]
      · cases hrest

lemma skim_start (use : Use) (opened : List Bracket) (s : List Char) :
    skim use ⟨true, opened, s⟩ = (startValue use opened s).bind (skim use) := by
  rw [skim]
  split <;> simp [*, Except.bind]

lemma skipValue_scalar {c : Char} {w : List Char} (hs : skipBlanks s = c :: w) (hlist : c ≠ '[')
    (hobject : c ≠ '\x7b') : skipValue s = skipScalar .skipped (c :: w) := by
  have hstart : startValue .skipped [] s = (skipScalar .skipped (c :: w)).map (⟨false, [], ·⟩) := by
    rw [startValue, hs]
    split
    · next heq => exact absurd (List.cons.inj heq).1 hlist
    · next heq => exact absurd (List.cons.inj heq).1 hobject
    · rfl
  rw [skipValue, skim_start, hstart]
  cases skipScalar .skipped (c :: w) with
  | error fault => rfl
  | ok r => exact skim.eq_1 _ _

/-- A scalar that is passed over. -/
lemma skipValue_begins {v : Scalar} {after : List Char}
    (h : Begins (some after) (.scalar v :: ls) s)
    (hls : Closes ls) : ∃ s', skipValue s = .ok s' ∧ Begins (some after) ls s' := by
  rcases h.scalar with ⟨w, s', hw, hs, hs'⟩ | ⟨hrest, -⟩
  · refine ⟨s', ?_, hs'⟩
    cases hw with
    | null =>
        rw [skipValue_scalar hs (by decide) (by decide)]
        simp [skipScalar, readScalar, readWord, Except.map]
    | boolean b =>
        cases b <;> rw [skipValue_scalar hs (by decide) (by decide)] <;>
          simp [skipScalar, readScalar, readWord, Except.map]
    | string hws =>
        rw [skipValue_scalar hs (by decide) (by decide)]
        simp [skipScalar, skipString_spelled hws]
    | integer n =>
        obtain ⟨c, w, hw, hc⟩ := head_integerText n
        have hread := readNumeral_integer .badNumber n (hs'.stops hls)
        rw [hw, List.cons_append] at hs hread
        rw [skipValue_scalar hs (ne_of_isDigit hc (by decide)) (ne_of_isDigit hc (by decide)),
          skipScalar, if_neg (ne_of_isDigit hc (by decide)), if_pos hc, hread]
        rfl
  · cases hrest

end ParseTree.Json
