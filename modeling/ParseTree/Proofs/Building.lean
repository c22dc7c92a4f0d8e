import Mathlib.Data.List.Induction
import ParseTree.Proofs.Events
import ParseTree.Tree.Builder

/-!
# What a builder makes of any events

A builder takes events in any order, whether they fit together or not, and goes on after each
complaint.  What it has then is told by the events themselves.  The ends that find no open rule are
left out (`Event.kept`); what stays reads in exactly one way as the events of complete trees,
followed by rules that are still open (`Progress`).

* **Reading** — `Progress.after` keeps all complete trees, where a builder keeps the first only.
  `kept_eq_events`: its trees and open rules have the events that stay.  `after_events`: they are
  the only ones that do, because reading them leads back to them.
* **Simulation** — `builder_step`: a builder is a `Progress` of which only the first tree is known,
  and `complaint_step` says when it complains.
* **The whole** — `build_steps`.
-/

namespace ParseTree

/-! ## Ends that find nothing open -/

namespace Event

/-- How many rules are open after an event, if `level` were before. -/
def nextLevel (level : Nat) : Event → Nat
  | .start _ => level + 1
  | .token _ => level
  | .finish => level - 1

/-- How many rules are open after events. -/
def level (es : List Event) : Nat := es.foldl nextLevel 0

/-- With `level` rules open, the event is an end that finds nothing open. -/
def Idle (level : Nat) (e : Event) : Prop := e = .finish ∧ level = 0

instance (level : Nat) (e : Event) : Decidable (Idle level e) :=
  inferInstanceAs (Decidable (_ ∧ _))

/-- Leaves out the ends that find nothing open, if `level` rules are open before. -/
def keptFrom (level : Nat) : List Event → List Event
  | [] => []
  | e :: rest =>
    if Idle level e then keptFrom level rest else e :: keptFrom (nextLevel level e) rest

/-- The events without the ends that find nothing open. -/
def kept (es : List Event) : List Event := keptFrom 0 es

lemma level_concat (es : List Event) (e : Event) : level (es ++ [e]) = nextLevel (level es) e := by
  simp [level]

lemma keptFrom_append (n : Nat) (es rest : List Event) :
    keptFrom n (es ++ rest) = keptFrom n es ++ keptFrom (es.foldl nextLevel n) rest := by
  induction es generalizing n with
  | nil => rfl
  | cons e es ih =>
      rw [List.cons_append, keptFrom, keptFrom, List.foldl_cons]
      split
      · next h =>
          obtain ⟨rfl, rfl⟩ := h
          exact ih 0
      · rw [ih, List.cons_append]

lemma kept_append (es rest : List Event) :
    kept (es ++ rest) = kept es ++ keptFrom (level es) rest :=
  keptFrom_append 0 es rest

lemma kept_concat (es : List Event) (e : Event) :
    kept (es ++ [e]) = kept es ++ if Idle (level es) e then [] else [e] := by
  rw [kept_append]
  rfl

lemma length_keptFrom_le (n : Nat) (es : List Event) : (keptFrom n es).length ≤ es.length := by
  induction es generalizing n with
  | nil => exact Nat.le_refl _
  | cons e es ih =>
      rw [keptFrom]
      split
      · exact Nat.le_succ_of_le (ih _)
      · exact Nat.succ_le_succ (ih _)

/-- All events stay exactly if no end finds nothing open. -/
lemma kept_eq_self_iff {es : List Event} :
    kept es = es ↔ ∀ before e later, es = before ++ e :: later → ¬ Idle (level before) e := by
  constructor
  · rintro hkept before e later rfl hidle
    have hbefore := length_keptFrom_le 0 before
    have hlater := length_keptFrom_le (level before) later
    have hlength := congrArg List.length hkept
    rw [kept_append, keptFrom, if_pos hidle, kept] at hlength
    simp only [List.length_append, List.length_cons] at hlength
    omega
  · intro hidle
    induction es using List.reverseRecOn with
    | nil => rfl
    | append_singleton es e ih =>
        rw [kept_concat, if_neg (hidle es e [] rfl), ih]
        rintro before other later rfl
        exact hidle before other (later ++ [e]) (by simp)

end Event

/-! ## Reading events -/

/-- The events of a rule that is open: its start and the children it has. -/
def OpenRule.events (r : OpenRule) : List Event :=
  .start r.label :: r.children.reverse.flatMap Tree.events

lemma OpenRule.events_close (r : OpenRule) : r.close.events = r.events ++ [.finish] := by
  simp [OpenRule.close, OpenRule.events]

/-- What events have come to: complete trees side by side, and rules that are open. -/
structure Progress where
  /-- The complete trees, the last one first. -/
  trees : List Tree := []
  /-- The rules that are open, innermost first. -/
  opened : List OpenRule := []

namespace Progress

/-- The events that trees and open rules stand for. -/
def events (p : Progress) : List Event :=
  p.trees.reverse.flatMap Tree.events ++ p.opened.reverse.flatMap OpenRule.events

/-- Puts a complete tree where it belongs. -/
def attach (p : Progress) (t : Tree) : Progress :=
  match p.opened with
  | [] => { p with trees := t :: p.trees }
  | parent :: outer => { p with opened := ⟨parent.label, t :: parent.children⟩ :: outer }

/-- Takes one event. -/
def step (p : Progress) : Event → Progress
  | .start label => { p with opened := ⟨label, []⟩ :: p.opened }
  | .token t => p.attach (.token t)
  | .finish =>
    match p.opened with
    | [] => p
    | innermost :: outer => { p with opened := outer }.attach innermost.close

/-- What events have come to from the beginning. -/
def after (es : List Event) : Progress := es.foldl step {}

lemma after_concat (es : List Event) (e : Event) : after (es ++ [e]) = (after es).step e := by
  simp [after]

lemma events_attach (p : Progress) (t : Tree) : (p.attach t).events = p.events ++ t.events := by
  rw [attach]
  split
  · next hopened => simp [events, hopened]
  · next parent outer hopened => simp [events, hopened, OpenRule.events]

lemma length_opened_attach (p : Progress) (t : Tree) :
    (p.attach t).opened.length = p.opened.length := by
  rw [attach]
  split
  · rfl
  · next hopened => simp [hopened]

/-- An event is added to those that stay, unless it is an end that finds nothing open. -/
lemma events_step (p : Progress) (e : Event) :
    (p.step e).events = p.events ++ if Event.Idle p.opened.length e then [] else [e] := by
  cases e with
  | start label => simp [step, events, Event.Idle, OpenRule.events]
  | token t => simp [step, events_attach, Event.Idle]
  | finish =>
      rw [step]
      split
      · next hopened => simp [hopened, Event.Idle]
      · next innermost outer hopened =>
          rw [events_attach, OpenRule.events_close]
          simp [events, hopened, Event.Idle]

lemma length_opened_step (p : Progress) (e : Event) :
    (p.step e).opened.length = Event.nextLevel p.opened.length e := by
  cases e with
  | start label => rfl
  | token t => exact p.length_opened_attach _
  | finish =>
      rw [step]
      split
      · next hopened => simp [hopened, Event.nextLevel]
      · next hopened => simp [length_opened_attach, hopened, Event.nextLevel]

lemma length_opened_after (es : List Event) : (after es).opened.length = Event.level es := by
  induction es using List.reverseRecOn with
  | nil => rfl
  | append_singleton es e ih => rw [after_concat, length_opened_step, ih, Event.level_concat]

/-- **Reading.**  The trees and open rules that events have come to stand for the events that
stay. -/
theorem kept_eq_events (es : List Event) : Event.kept es = (after es).events := by
  induction es using List.reverseRecOn with
  | nil => rfl
  | append_singleton es e ih =>
      rw [Event.kept_concat, after_concat, events_step, ih, length_opened_after]

/-! ### Only one reading -/

lemma foldl_attach_opened (trees : List Tree) (r : OpenRule) (outer : List OpenRule)
    (ts : List Tree) :
    ts.foldl attach ⟨trees, r :: outer⟩
      = ⟨trees, ⟨r.label, ts.reverse ++ r.children⟩ :: outer⟩ := by
  induction ts generalizing r with
  | nil => rfl
  | cons t ts ih => rw [List.foldl_cons, attach, ih]; simp

lemma foldl_attach_outermost (trees ts : List Tree) :
    ts.foldl attach ⟨trees, []⟩ = ⟨ts.reverse ++ trees, []⟩ := by
  induction ts generalizing trees with
  | nil => rfl
  | cons t ts ih => rw [List.foldl_cons, attach, ih]; simp

/-- Reading the events of trees puts these trees where they belong. -/
lemma foldl_step_events (p : Progress) (ts : List Tree) :
    (ts.flatMap Tree.events).foldl step p = ts.foldl attach p := by
  induction ts using Tree.forest_induction generalizing p with
  | nil => rfl
  | token t rest ih =>
      rw [List.flatMap_cons, List.foldl_append, ih, Tree.events_token]
      rfl
  | rule label kids rest ihkids ihrest =>
      rw [List.flatMap_cons, List.foldl_append, ihrest, Tree.events_rule, List.foldl_cons,
        List.foldl_append, ihkids, step, foldl_attach_opened]
      simp [step, OpenRule.close]

lemma foldl_step_opened (p : Progress) (rs : List OpenRule) :
    (rs.reverse.flatMap OpenRule.events).foldl step p = { p with opened := rs ++ p.opened } := by
  induction rs with
  | nil => rfl
  | cons r rs ih =>
      rw [List.reverse_cons, List.flatMap_append, List.foldl_append, ih, List.flatMap_singleton,
        OpenRule.events, List.foldl_cons, foldl_step_events, step, foldl_attach_opened]
      simp

/-- Reading the events of trees and open rules leads back to them. -/
lemma after_events (p : Progress) : after p.events = p := by
  rw [after, events, List.foldl_append, foldl_step_events, foldl_step_opened,
    foldl_attach_outermost]
  simp

lemma events_injective {p q : Progress} (h : p.events = q.events) : p = q := by
  rw [← p.after_events, h, q.after_events]

lemma after_tree_events (t : Tree) : after t.events = ⟨[t], []⟩ := by
  have h := after_events ⟨[t], []⟩
  simpa [events] using h

/-! ### Complete trees stay -/

lemma attach_trees (p : Progress) (t : Tree) :
    (p.attach t).trees = p.trees ∨
      (p.attach t).trees = t :: p.trees ∧ (p.attach t).opened = [] := by
  rw [attach]
  split
  · next hopened => exact Or.inr ⟨rfl, hopened⟩
  · exact Or.inl rfl

/-- An event completes one tree at most, and then no rule is open. -/
lemma step_trees (p : Progress) (e : Event) :
    (p.step e).trees = p.trees ∨
      ∃ t, (p.step e).trees = t :: p.trees ∧ (p.step e).opened = [] := by
  cases e with
  | start label => exact Or.inl rfl
  | token t => exact (p.attach_trees _).imp_right fun h => ⟨_, h⟩
  | finish =>
      rw [step]
      split
      · exact Or.inl rfl
      · exact (attach_trees _ _).imp_right fun h => ⟨_, h⟩

lemma trees_suffix (es later : List Event) : (after es).trees <:+ (after (es ++ later)).trees := by
  induction later using List.reverseRecOn with
  | nil => simp
  | append_singleton later e ih =>
      rw [← List.append_assoc, after_concat]
      rcases (after (es ++ later)).step_trees e with h | ⟨t, h, -⟩
      · rwa [h]
      · rw [h]
        exact ih.trans (List.suffix_cons _ _)

/-! ## Simulation -/

/-- The builder that has come so far: of the complete trees it knows the first. -/
def builder (p : Progress) : Builder := ⟨p.opened, p.trees.getLast?⟩

lemma builder_attach (p : Progress) (t : Tree) : (p.builder.attach t).1 = (p.attach t).builder := by
  obtain ⟨trees, opened⟩ := p
  cases opened with
  | cons parent outer => rfl
  | nil =>
      cases trees with
      | nil => rfl
      | cons last trees => simp [builder, Builder.attach, attach, List.getLast?_cons]

/-- **Simulation.**  The builder goes along with what the events have come to. -/
theorem builder_step (p : Progress) (e : Event) : (p.builder.step e).1 = (p.step e).builder := by
  cases e with
  | start label => rfl
  | token t => exact p.builder_attach _
  | finish =>
      obtain ⟨trees, opened⟩ := p
      cases opened with
      | nil => rfl
      | cons innermost outer => exact builder_attach ⟨trees, outer⟩ _

lemma complaint_attach (p : Progress) (t : Tree) :
    (p.builder.attach t).2
      = if (p.attach t).opened = [] ∧ 2 ≤ (p.attach t).trees.length then some .secondRoot
        else none := by
  obtain ⟨trees, opened⟩ := p
  cases opened with
  | cons parent outer => simp [builder, Builder.attach, attach]
  | nil => cases trees <;> simp [builder, Builder.attach, attach, List.getLast?_cons]

/-- The complaints: about an end that finds nothing open, and about a tree that is complete when
there already is one. -/
lemma complaint_step (p : Progress) (e : Event) :
    (p.builder.step e).2
      = if Event.Idle p.opened.length e then some .nothingOpen
        else if (p.step e).opened = [] ∧ 2 ≤ (p.step e).trees.length then some .secondRoot
        else none := by
  cases e with
  | start label => simp [builder, Builder.step, step, Event.Idle]
  | token t =>
      rw [if_neg (by simp [Event.Idle])]
      exact p.complaint_attach _
  | finish =>
      obtain ⟨trees, opened⟩ := p
      cases opened with
      | nil => simp [builder, Builder.step, Event.Idle]
      | cons innermost outer =>
          rw [if_neg (by simp [Event.Idle])]
          exact complaint_attach ⟨trees, outer⟩ _

end Progress

namespace Builder

/-- The builder after events, whatever it complained about. -/
def after (es : List Event) : Builder := es.foldl (fun b e => (b.step e).1) {}

/-- What the builder says to an event after others, if it complains. -/
def complaint (before : List Event) (e : Event) : Option String :=
  ((after before).step e).2.map BuildError.message

lemma after_eq (es : List Event) : after es = (Progress.after es).builder := by
  induction es using List.reverseRecOn with
  | nil => rfl
  | append_singleton es e ih =>
      rw [Progress.after_concat, ← Progress.builder_step, ← ih, after, List.foldl_append]
      rfl

lemma complaint_eq (before : List Event) (e : Event) :
    complaint before e
      = if Event.Idle (Event.level before) e then some "no opened nodes?"
        else if (Progress.after (before ++ [e])).opened = [] ∧
            2 ≤ (Progress.after (before ++ [e])).trees.length then
          some "a tree has exactly one root"
        else none := by
  rw [complaint, after_eq, Progress.complaint_step, Progress.length_opened_after,
    ← Progress.after_concat]
  split
  · rfl
  · split <;> rfl

lemma complaint_eq_nothing_iff {before : List Event} {e : Event} :
    complaint before e = some "no opened nodes?" ↔ Event.Idle (Event.level before) e := by
  rw [complaint_eq]
  split
  · simpa
  · split <;> simpa

lemma complaint_eq_second_iff {before : List Event} {e : Event} :
    complaint before e = some "a tree has exactly one root" ↔
      ¬ Event.Idle (Event.level before) e ∧ (Progress.after (before ++ [e])).opened = [] ∧
        2 ≤ (Progress.after (before ++ [e])).trees.length := by
  rw [complaint_eq]
  split
  · simp [*]
  · split <;> simp [*]

/-- No rule is open after an event and there are two trees or more, exactly if the events up to it
are those of the first trees of the whole. -/
lemma completes_iff {before later : List Event} {e : Event} :
    ((Progress.after (before ++ [e])).opened = [] ∧
        2 ≤ (Progress.after (before ++ [e])).trees.length) ↔
      ∃ k, 2 ≤ k ∧ k ≤ (Progress.after (before ++ e :: later)).trees.length ∧
        Event.kept (before ++ [e])
          = ((Progress.after (before ++ e :: later)).trees.reverse.take k).flatMap Tree.events := by
  have hsuffix := Progress.trees_suffix (before ++ [e]) later
  rw [List.append_assoc, List.singleton_append] at hsuffix
  have hprefix := List.prefix_iff_eq_take.mp (List.reverse_prefix.mpr hsuffix)
  rw [Progress.kept_eq_events]
  constructor
  · rintro ⟨hopened, htrees⟩
    refine ⟨_, htrees, hsuffix.length_le, ?_⟩
    rw [Progress.events, hopened, hprefix]
    simp
  · rintro ⟨k, hk, hle, hevents⟩
    have hafter : Progress.after (before ++ [e])
        = ⟨((Progress.after (before ++ e :: later)).trees.reverse.take k).reverse, []⟩ := by
      apply Progress.events_injective
      rw [hevents]
      simp [Progress.events]
    rw [hafter]
    refine ⟨rfl, ?_⟩
    simpa [hle] using hk

/-- Without a complaint every event stays, and there is one complete tree at most. -/
lemma of_no_complaint {es : List Event}
    (h : ∀ before e later, es = before ++ e :: later → complaint before e = none) :
    Event.kept es = es ∧ (Progress.after es).trees.length ≤ 1 := by
  constructor
  · rw [Event.kept_eq_self_iff]
    intro before e later hes hidle
    have hnothing := complaint_eq_nothing_iff.mpr hidle
    rw [h before e later hes] at hnothing
    cases hnothing
  · induction es using List.reverseRecOn with
    | nil => exact Nat.zero_le _
    | append_singleton es e ih =>
        have hes : (Progress.after es).trees.length ≤ 1 := by
          apply ih
          rintro before other later rfl
          exact h before other (later ++ [e]) (by simp)
        have hnone := h es e [] rfl
        rw [Progress.after_concat]
        rcases (Progress.after es).step_trees e with htrees | ⟨t, htrees, hopened⟩
        · rwa [htrees]
        · by_contra hlength
          rw [complaint_eq, Progress.after_concat] at hnone
          split at hnone
          · cases hnone
          · rw [if_pos ⟨hopened, by omega⟩] at hnone
            cases hnone

lemma finish_builder (p : Progress) :
    p.builder.finish.mapError BuildError.message
      = if p.opened.isEmpty then
          match p.trees.reverse with
          | [] => .error "empty tree"
          | first :: _ => .ok first
        else .error ("unfinished nodes: " ++ p.opened.length.repr) := by
  obtain ⟨trees, opened⟩ := p
  cases opened with
  | cons innermost outer => rfl
  | nil =>
      simp only [Progress.builder, ← List.head?_reverse]
      cases trees.reverse <;> rfl

lemma finish_builder_eq_ok {p : Progress} {t : Tree} (h : p.builder.finish = .ok t) :
    p.opened = [] ∧ p.trees.getLast? = some t := by
  obtain ⟨trees, opened⟩ := p
  cases opened with
  | cons innermost outer => simp [Progress.builder, finish] at h
  | nil => cases hroot : trees.getLast? <;> simp_all [Progress.builder, finish]

/-- The events of a tree are taken without a complaint. -/
lemma complaint_of_events {t : Tree} {before later : List Event} {e : Event}
    (h : t.events = before ++ e :: later) : complaint before e = none := by
  have hkept : Event.kept t.events = t.events := by
    rw [Progress.kept_eq_events, Progress.after_tree_events]
    simp [Progress.events]
  have hidle := Event.kept_eq_self_iff.mp hkept before e later h
  have hone := (Progress.trees_suffix (before ++ [e]) later).length_le
  rw [List.append_assoc, List.singleton_append, ← h, Progress.after_tree_events] at hone
  rw [complaint_eq, if_neg hidle, if_neg]
  rintro ⟨-, htwo⟩
  rw [List.length_singleton] at hone
  omega

/-- Events that build a tree without a complaint are the events of this tree. -/
lemma eq_events_of_no_complaint {es : List Event} {t : Tree}
    (hquiet : ∀ before e later, es = before ++ e :: later → complaint before e = none)
    (hfinish : (after es).finish = .ok t) : es = t.events := by
  obtain ⟨hkept, hlength⟩ := of_no_complaint hquiet
  rw [after_eq] at hfinish
  obtain ⟨hopened, hroot⟩ := finish_builder_eq_ok hfinish
  have htrees : (Progress.after es).trees = [t] := by
    match htrees : (Progress.after es).trees, hroot, hlength with
    | [only], hroot, _ => simpa using hroot
  rw [← hkept, Progress.kept_eq_events, Progress.events, htrees, hopened]
  simp

end Builder

/-! ## The whole -/

/-- **The whole.**  Without the ends that find nothing open, any events read in exactly one way as
the events of complete `trees` and of rules that are still `opened`.  The builder complains about
just these ends and about the events that complete another tree than the first.  It ends with the
first tree if no rule is open, and it is given up without a complaint just then.  The events of a
tree are the only ones that build this tree without a complaint. -/
theorem build_steps (steps : List Event) :
    (∃ (trees : List Tree) (opened : List OpenRule),
      (∀ trees' opened', Event.kept steps
          = trees'.flatMap Tree.events ++ opened'.reverse.flatMap OpenRule.events ↔
        trees' = trees ∧ opened' = opened) ∧
      (∀ before e later, steps = before ++ e :: later →
        (Builder.complaint before e = some "no opened nodes?" ↔ Event.Idle (Event.level before) e) ∧
        (Builder.complaint before e = some "a tree has exactly one root" ↔
          ¬ Event.Idle (Event.level before) e ∧ ∃ k, 2 ≤ k ∧ k ≤ trees.length ∧
            Event.kept (before ++ [e]) = (trees.take k).flatMap Tree.events) ∧
        (Builder.complaint before e = none ∨ Builder.complaint before e = some "no opened nodes?" ∨
          Builder.complaint before e = some "a tree has exactly one root")) ∧
      ((Builder.after steps).finish.mapError BuildError.message
        = if opened.isEmpty then
            match trees with
            | [] => .error "empty tree"
            | first :: _ => .ok first
          else .error ("unfinished nodes: " ++ opened.length.repr)) ∧
      ((Builder.after steps).abandon.isSome ↔ 0 < opened.length)) ∧
    ∀ t : Tree, steps = t.events ↔
      (∀ before e later, steps = before ++ e :: later → Builder.complaint before e = none) ∧
      (Builder.after steps).finish = .ok t := by
  refine ⟨⟨(Progress.after steps).trees.reverse, (Progress.after steps).opened, ?_, ?_, ?_, ?_⟩, ?_⟩
  · intro trees' opened'
    have hevents : trees'.flatMap Tree.events ++ opened'.reverse.flatMap OpenRule.events
        = (Progress.mk trees'.reverse opened').events := by simp [Progress.events]
    rw [Progress.kept_eq_events, hevents]
    constructor
    · intro h
      simp [Progress.events_injective h]
    · rintro ⟨rfl, rfl⟩
      simp
  · rintro before e later rfl
    refine ⟨Builder.complaint_eq_nothing_iff, ?_, ?_⟩
    · rw [Builder.complaint_eq_second_iff, Builder.completes_iff, List.length_reverse]
    · rw [Builder.complaint_eq]
      split
      · exact Or.inr (Or.inl rfl)
      · split
        · exact Or.inr (Or.inr rfl)
        · exact Or.inl rfl
  · rw [Builder.after_eq, Builder.finish_builder]
  · rw [Builder.after_eq, Builder.abandon]
    cases hopened : (Progress.after steps).opened <;> simp [Progress.builder, hopened]
  · intro t
    constructor
    · rintro rfl
      refine ⟨fun _ _ _ hsplit => Builder.complaint_of_events hsplit, ?_⟩
      rw [Builder.after_eq, Progress.after_tree_events]
      rfl
    · rintro ⟨hquiet, hfinish⟩
      exact Builder.eq_events_of_no_complaint hquiet hfinish

/-- An end that finds nothing open, and two trees: the first and the last of the ends are complained
about. -/
example : Builder.complaint [] .finish = some "no opened nodes?" ∧
    Event.kept [.finish, .start "a", .finish, .start "b", .finish]
      = [.start "a", .finish, .start "b", .finish] ∧
    Builder.complaint [.finish, .start "a", .finish, .start "b"] .finish
      = some "a tree has exactly one root" := by
  decide

end ParseTree
