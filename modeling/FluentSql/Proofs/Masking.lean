import FluentSql.Proofs.Filling

/-! Statements with placeholders tell nothing of the values behind them. Masking takes the values
out of calls, of queries and of templates, and leaves all else. Main result: runs that are the same
once masked get the same answers and log the same records. -/
namespace FluentSql

namespace Value

/-- A map with unknown contents under the same keys. -/
def masked : Value → Value
  | .map entries => .map (entries.map fun e => (e.1, .null))
  | v => v

theorem isGiven_masked (v : Value) : v.masked.isGiven = v.isGiven := by
  cases v <;> simp [masked, isGiven]

theorem elements_masked (v : Value) : v.masked.elements = v.elements := by
  cases v <;> simp [masked, elements, elements?, kind, Function.comp_def]

theorem isVoid_masked (v : Value) : v.masked.isVoid = v.isVoid := by
  cases v <;> simp [masked, isVoid, length, length?, elements?]

theorem entriesFor_masked (v : Value) (request : Request) :
    v.masked.entriesFor request =
      (v.entriesFor request).map (List.map fun e => (e.1, .null)) := by
  cases v <;> rfl

end Value

/-- As many unknown candidates. -/
def Inclusion.masked : Value → Value
  | .list items | .tuple items => .list (items.map fun _ => .null)
  | .map entries => .list (entries.map fun _ => .null)
  | v => v

/-- Unknown bounds in the same places. -/
def Range.masked : Value → Value
  | .list items | .tuple items => .list (items.map fun _ => .null)
  | v => v.masked

/-- The call without the values that it compares with. -/
def Change.masked : Change → Change
  | .compare column _ operator => .compare column .null operator
  | .compareAll connective conditions => .compareAll connective conditions.masked
  | .like column _ anyOf => .like column .null anyOf
  | .member column candidates => .member column (Inclusion.masked candidates)
  | .between column bounds => .between column (Range.masked bounds)
  | c => c

/-- The statement without the values that it writes into rows. -/
def Statement.masked : Statement → Statement
  | .insert table data orUpdate updates => .insert table data.masked orUpdate updates.masked
  | .update table data => .update table data.masked
  | s => s

def Call.masked : Call → Call
  | .change c => .change c.masked
  | .make s => .make s.masked
  | .raw statement => .raw statement

def Predicate.masked (p : Predicate) : Predicate := { p with value := .null }

def Family.map {β γ : Type} (g : β → γ) (f : Family β) : Family γ :=
  { active := f.active, entries := f.entries.map fun e => (e.1, g e.2) }

def Comparisons.masked (c : Comparisons) : Comparisons :=
  { c with toFamily := c.toFamily.map Predicate.masked }

def Patterns.masked (p : Patterns) : Patterns :=
  { p with toFamily := p.toFamily.map fun _ => .null }

def Query.masked (q : Query) : Query :=
  { q with
    comparisons := q.comparisons.masked
    inclusions := q.inclusions.map (List.map fun _ => .null)
    patterns := q.patterns.masked
    ranges := q.ranges.map fun _ => (.null, .null) }

/-! Masking before a call or after it is the same. -/
section Changes

theorem Family.put_map {β γ : Type} (g : β → γ) (f : Family β) (k : Value) (b : β) :
    (f.map g).put k (g b) = (f.put k b).map g := by
  simp only [put, map, Keyed.map_put]

theorem Family.add_map {β γ : Type} (g : β → γ) (f : Family β) (k : Value) (b : β) :
    (f.map g).add k (g b) = (f.add k b).map (map g) := by
  unfold add
  cases k.requireKey with
  | error e => rfl
  | ok u => simp only [Except.map, Outcome.ofExcept, Outcome.done, Outcome.map, put_map]

namespace Comparisons

theorem put_masked (c : Comparisons) (column value operator : Value) :
    c.masked.put column .null operator = (c.put column value operator).map Predicate.masked :=
  Family.put_map Predicate.masked c.toFamily column
    { column, operator, value, connective := c.connective }

theorem add_masked (c : Comparisons) (column value operator : Value) :
    c.masked.add column .null operator = (c.add column value operator).map masked := by
  unfold add
  rw [put_masked c column value]
  split
  · rfl
  · cases column.requireKey <;> rfl

theorem foldl_putEqual_masked (c : Comparisons) (entries : List (Value × Value)) :
    (entries.map fun e => (e.1, Value.null)).foldl putEqual c.masked =
      (entries.foldl putEqual c).masked := by
  induction entries generalizing c with
  | nil => rfl
  | cons e rest ih =>
    have hp : c.masked.putEqual (e.1, .null) = (c.putEqual e).masked := by
      simp only [putEqual, put_masked c e.1 e.2]
      rfl
    rw [List.map_cons, List.foldl_cons, hp, ih, List.foldl_cons]

theorem addAll_masked (c : Comparisons) (connective : Connective) (conditions : Value) :
    c.masked.addAll connective conditions.masked =
      (c.addAll connective conditions).map masked := by
  unfold addAll
  rw [Value.elements_masked, Value.entriesFor_masked]
  cases conditions.elements with
  | error e => rfl
  | ok columns =>
    dsimp only
    split
    · rfl
    · cases conditions.entriesFor .items with
      | error e => rfl
      | ok entries =>
        exact congrArg Outcome.done (foldl_putEqual_masked { c with connective } entries)

end Comparisons

theorem Patterns.add_masked (p : Patterns) (column pattern anyOf : Value) :
    p.masked.add column .null anyOf = (p.add column pattern anyOf).map masked := by
  unfold add
  split
  · rfl
  · have ha : p.masked.toFamily.add column .null =
        (p.toFamily.add column pattern).map (Family.map fun _ => .null) :=
      Family.add_map (fun _ : Value => Value.null) p.toFamily column pattern
    rw [ha]
    cases anyOf <;> rfl

namespace Inclusion

/-- Whether candidates are accepted depends on how many there are. -/
theorem checked_masked (column candidates : Value) :
    checked column (masked candidates) =
      (checked column candidates).map (List.map fun _ => .null) := by
  cases candidates with
  | list items => cases items <;> rfl
  | tuple items => cases items <;> rfl
  | map entries =>
    cases entries with
    | nil => rfl
    | cons e rest =>
      simp [checked, masked, Value.isGiven, Value.elements, Value.elements?, Except.map,
        Function.comp_def]
  | text s => rfl
  | blob data => rfl
  | _ => simp only [masked, checked]; split <;> rfl

theorem add_masked (f : Family (List Value)) (column candidates : Value) :
    add (f.map (List.map fun _ => .null)) column (masked candidates) =
      (add f column candidates).map (Family.map (List.map fun _ => .null)) := by
  unfold add
  rw [checked_masked]
  split
  · rfl
  · cases checked column candidates with
    | error e => rfl
    | ok items => exact Family.add_map (List.map fun _ => Value.null) f column items

end Inclusion

namespace Range

theorem length_masked (bounds : Value) : (masked bounds).length = bounds.length := by
  cases bounds <;>
    simp [masked, Value.masked, Value.length, Value.length?, Value.elements?, Function.comp_def]

theorem bound_masked_items (i : Nat) (items : List Value) :
    bound i (.list (items.map fun _ => .null)) = (bound i (.list items)).map fun _ => .null := by
  simp only [bound, Value.at?, Value.elements?, Option.bind_some, List.getElem?_map]
  cases items[i]? <;> rfl

theorem bound_masked_map (i : Nat) (entries : List (Value × Value)) :
    bound i (.map (entries.map fun e => (e.1, .null))) =
      (bound i (.map entries)).map fun _ => .null := by
  have hf : (entries.map fun e => (e.1, Value.null)).find? (fun e => e.1.sameKey (.int i)) =
      (entries.find? fun e => e.1.sameKey (.int i)).map fun e => (e.1, .null) := by
    rw [List.find?_map]
    rfl
  simp only [bound, Value.at?, hf]
  cases entries.find? fun e => e.1.sameKey (.int i) <;> rfl

/-- A pair of bounds is taken from what has two elements, whatever they are. -/
theorem pair_masked {column v w : Value} (hl : w.length = v.length)
    (hb : ∀ i, bound i w = (bound i v).map fun _ => .null) :
    (do
      if (← w.length) != 2 then .error (.notBounds column)
      else return (← bound 0 w, ← bound 1 w)) =
    Except.map (fun _ => (Value.null, Value.null)) (do
      if (← v.length) != 2 then .error (.notBounds column)
      else return (← bound 0 v, ← bound 1 v)) := by
  rw [hl, hb, hb]
  cases v.length with
  | error e => rfl
  | ok n =>
    simp only [bind, Except.bind]
    split
    · rfl
    · cases bound 0 v <;> cases bound 1 v <;> rfl

/-- Whether bounds are accepted depends on how many there are, or on their keys. -/
theorem checked_masked (column bounds : Value) :
    checked column (masked bounds) = (checked column bounds).map fun _ => (.null, .null) := by
  cases bounds with
  | list items => exact pair_masked (length_masked _) fun i => bound_masked_items i items
  | tuple items => exact pair_masked (length_masked _) fun i => bound_masked_items i items
  | map entries => exact pair_masked (length_masked _) fun i => bound_masked_map i entries
  | _ => rfl

theorem add_masked (f : Family (Value × Value)) (column bounds : Value) :
    add (f.map fun _ => (.null, .null)) column (masked bounds) =
      (add f column bounds).map (Family.map fun _ => (.null, .null)) := by
  unfold add
  rw [checked_masked]
  split
  · rfl
  · cases checked column bounds with
    | error e => rfl
    | ok pair => exact Family.add_map (fun _ => (Value.null, Value.null)) f column pair

end Range

theorem Query.apply_masked (q : Query) (c : Change) :
    q.masked.apply c.masked = (q.apply c).map masked := by
  cases c with
  | compare column value operator =>
    simp only [apply, Change.masked, masked, Comparisons.add_masked _ column value]
    rfl
  | compareAll connective conditions =>
    simp only [apply, Change.masked, masked, Comparisons.addAll_masked]
    rfl
  | like column pattern anyOf =>
    simp only [apply, Change.masked, masked, Patterns.add_masked _ column pattern]
    rfl
  | member column candidates =>
    simp only [apply, Change.masked, masked, Inclusion.add_masked]
    rfl
  | between column bounds =>
    simp only [apply, Change.masked, masked, Range.add_masked]
    rfl
  | _ => rfl

end Changes

/-! A statement with placeholders is the same with its values masked. -/
section Statements

def Piece.masked : Piece → Piece
  | .text s => .text s
  | .slot quote _ => .slot quote .null

namespace Template

def masked (t : Template) : Template := t.map Piece.masked

@[simp] theorem masked_nil : masked [] = [] := rfl

@[simp] theorem masked_text (s : String) (t : Template) :
    masked (.text s :: t) = .text s :: t.masked := rfl

@[simp] theorem masked_slot (quote : Quote) (v : Value) (t : Template) :
    masked (.slot quote v :: t) = .slot quote .null :: t.masked := rfl

@[simp] theorem masked_append (t u : Template) : masked (t ++ u) = t.masked ++ u.masked :=
  List.map_append

@[simp] theorem masked_ofText (s : String) : (ofText s).masked = ofText s := rfl

@[simp] theorem masked_join (separator : String) (ts : List Template) :
    (join separator ts).masked = join separator (ts.map masked) := by
  fun_induction join separator ts with
  | case1 => rfl
  | case2 => rfl
  | case3 t u rest ih => simpa [join] using ih

theorem masked_opened (ts : List Template) : (opened ts).map masked = opened (ts.map masked) := by
  cases ts <;> simp [opened]

theorem fill_masked (t : Template) : t.masked.fill true = t.fill true := by
  induction t with
  | nil => rfl
  | cons p rest ih => cases p <;> simp [fill, Piece.fill, ih]

end Template

namespace Comparison

theorem attach_masked (joiner : String) (part : Template) (written : Option Template) :
    attach joiner part.masked (written.map Template.masked) =
      (attach joiner part written).masked := by
  cases written <;> simp [attach]

theorem flush_masked (written : Option Template) (run : List Template) :
    flush (written.map Template.masked) (run.map Template.masked) =
      (flush written run).map Template.masked := by
  rcases run with - | ⟨t, - | ⟨u, rest⟩⟩
  · rfl
  · exact congrArg some (attach_masked " OR " t written)
  · have hg : group ((t :: u :: rest).map Template.masked) = (group (t :: u :: rest)).masked := by
      simp [group]
    exact congrArg some (hg ▸ attach_masked " AND " (group (t :: u :: rest)) written)

theorem walk_masked (written : Option Template) (run : List Template)
    (predicates : List Predicate) :
    walk (written.map Template.masked) (run.map Template.masked)
        (predicates.map Predicate.masked) =
      (walk written run predicates).map Template.masked := by
  induction predicates generalizing written run with
  | nil => exact flush_masked written run
  | cons p rest ih =>
    have ht : p.masked.term = p.term.masked := rfl
    cases hc : p.connective with
    | or =>
      have hm : p.masked.connective = .or := hc
      simp only [List.map_cons, walk, hc, hm, ht]
      rw [← ih, List.map_append, List.map_singleton]
    | and =>
      have hm : p.masked.connective = .and := hc
      simp only [List.map_cons, walk, hc, hm, ht]
      rw [flush_masked, attach_masked]
      exact ih (some _) []

theorem condition_masked (predicates : List Predicate) :
    condition (predicates.map Predicate.masked) = (condition predicates).masked := by
  have hw : walk none [] (predicates.map Predicate.masked) =
      (walk none [] predicates).map Template.masked := walk_masked none [] predicates
  rw [condition, condition, hw]
  cases walk none [] predicates <;> rfl

end Comparison

theorem Inclusion.member_masked (column : Value) (candidates : List Value) :
    member column (candidates.map fun _ => .null) = (member column candidates).masked := by
  simp [member, slots, Function.comp_def]

theorem Family.Coherent.map {β γ : Type} {f : Family β} {g : β → γ} (h : f.Coherent) :
    (f.map g).Coherent := by
  simpa [Family.Coherent, Family.map] using h

namespace Query

theorem size_masked (q : Query) (f : Filter) : q.masked.size f = q.size f := by
  cases f <;> simp [size, masked, Comparisons.masked, Patterns.masked, Family.map]

theorem filters_masked (q : Query) : q.masked.filters = q.filters := by
  simp only [filters, size_masked]

theorem condition_masked (q : Query) (f : Filter) :
    q.masked.condition f = (q.condition f).masked := by
  cases f with
  | comparison =>
    simp only [condition, masked, Comparisons.masked, Family.map]
    rw [← Comparison.condition_masked, List.map_map, List.map_map]
    rfl
  | inclusion =>
    simp only [condition, masked, Family.map, Inclusion.condition, Template.masked_join,
      List.map_map, Function.comp_def, Inclusion.member_masked]
  | pattern =>
    simp [condition, masked, Patterns.masked, Family.map, Pattern.condition, Pattern.test,
      Function.comp_def]
  | range =>
    simp [condition, masked, Family.map, Range.condition, Range.test, Function.comp_def]

theorem Coherent.masked {q : Query} (h : q.Coherent) : q.masked.Coherent where
  joins := h.joins
  comparisons := h.comparisons.map
  inclusions := h.inclusions.map
  patterns := h.patterns.map
  ranges := h.ranges.map
  candidates := by
    intro e he
    obtain ⟨e', he', rfl⟩ := List.mem_map.mp he
    simpa using h.candidates e' he'

end Query

theorem Assignment.clause_masked (data : Value) :
    clause data.masked = (clause data).map Template.masked := by
  unfold clause
  rw [Value.isVoid_masked, Value.entriesFor_masked]
  cases data.isVoid with
  | error e => rfl
  | ok void =>
    cases void
    · cases data.entriesFor .items <;>
        simp [bind, Except.bind, Except.map, pure, Except.pure, single, Function.comp_def]
    · rfl

namespace Clause

theorem insertion_masked (table data : Value) :
    insertion table data.masked = (insertion table data).map Template.masked := by
  unfold insertion
  rw [Value.isVoid_masked, Value.entriesFor_masked]
  cases requireTable table with
  | error e => rfl
  | ok _ =>
    cases data.isVoid with
    | error e => rfl
    | ok void =>
      cases void
      · cases data.entriesFor .keys with
        | error e => rfl
        | ok entries =>
          have hk : (entries.map fun e => (e.1, Value.null)).map Prod.fst =
              entries.map Prod.fst := by
            simp
          simp only [bind, Except.bind, Except.map, Bool.false_eq_true, if_false, hk]
          cases Value.texts (entries.map Prod.fst) <;>
            simp [pure, Except.pure, Function.comp_def]
      · rfl

theorem conflict_masked (updates : Value) :
    conflict updates.masked = (conflict updates).map Template.masked := by
  unfold conflict
  rw [Value.isVoid_masked, Assignment.clause_masked]
  cases updates.isVoid with
  | error e => rfl
  | ok void =>
    cases void
    · cases Assignment.clause updates <;> rfl
    · rfl

theorem update_masked (table data : Value) :
    update table data.masked = (update table data).map Template.masked := by
  unfold update
  rw [Assignment.clause_masked]
  cases requireTable table with
  | error e => rfl
  | ok _ => cases Assignment.clause data <;> rfl

theorem deletion_masked (table : Value) :
    deletion table = (deletion table).map Template.masked := by
  unfold deletion
  cases requireTable table <;> rfl

end Clause

namespace Query

theorem insertion_masked (table data orUpdate updates : Value) :
    insertion table data.masked orUpdate updates.masked =
      (insertion table data orUpdate updates).map Template.masked := by
  unfold insertion
  rw [Clause.insertion_masked, Clause.conflict_masked, Value.isGiven_masked]
  cases Clause.insertion table data with
  | error e => rfl
  | ok head =>
    simp only [bind, Except.bind, Except.map]
    split
    · cases Clause.conflict updates <;> simp [pure, Except.pure]
    · rfl

/-- The segments of the filter are masked one by one. -/
theorem opened_filters_masked (q : Query) :
    Template.opened (q.masked.filters.map q.masked.condition) =
      (Template.opened (q.filters.map q.condition)).map Template.masked := by
  have hc : q.masked.condition = Template.masked ∘ q.condition := funext q.condition_masked
  rw [Template.masked_opened, List.map_map, filters_masked, hc]

theorem clauseTemplates_masked (q : Query) :
    q.masked.clauseTemplates = q.clauseTemplates.map Template.masked := by
  have hj : (if q.joins.entries.isEmpty then []
      else [Template.ofText (Join.segment q.joins.kind q.joins.entries)]).map Template.masked =
        if q.joins.entries.isEmpty then []
        else [Template.ofText (Join.segment q.joins.kind q.joins.entries)] := by
    split <;> rfl
  have ht : q.tailClauses.map Template.masked = q.tailClauses := by
    simp [tailClauses, Function.comp_def]
  simp only [clauseTemplates, opened_filters_masked, List.map_append, hj, ht]
  rfl

theorem Coherent.filtered_masked {q : Query} (h : q.Coherent) (head : Except Fault Template) :
    q.masked.filtered (head.map Template.masked) = (q.filtered head).map Template.masked := by
  unfold filtered
  rw [h.conditions_eq, h.masked.conditions_eq, opened_filters_masked]
  cases head with
  | error e => rfl
  | ok t =>
    exact congrArg Except.ok
      (Template.masked_join " " (t :: Template.opened (q.filters.map q.condition))).symm

theorem Coherent.template_masked {q : Query} (h : q.Coherent) (s : Statement) :
    q.masked.template s.masked = (q.template s).map Template.masked := by
  cases s with
  | select =>
    have hs : q.masked.selection = (q.selection).map Template.masked := by
      rw [h.selection_eq, h.masked.selection_eq, clauseTemplates_masked]
      have ht : q.masked.table = q.table := rfl
      rw [ht]
      cases q.table.isGiven <;> simp [Except.map]
    exact hs
  | insert table data orUpdate updates => exact insertion_masked table data orUpdate updates
  | update table data =>
    exact (congrArg _ (Clause.update_masked table data)).trans (h.filtered_masked _)
  | delete table =>
    exact (congrArg _ (Clause.deletion_masked table)).trans (h.filtered_masked _)

/-- Placeholders hide the values, and the record of a statement shows nothing but its text. -/
theorem Coherent.make_masked {q : Query} (h : q.Coherent) (hp : q.options.prepared = true)
    (s : Statement) : q.masked.make s.masked = q.make s := by
  have hr : q.masked.render s.masked = q.render s := by
    unfold render
    rw [h.template_masked]
    have ho : q.masked.options.prepared = true := hp
    rw [ho, hp]
    cases q.template s with
    | error e => rfl
    | ok t => simp only [Except.map, Template.fill_masked]
  have hw : ∀ text, record s.masked text = record s text := by
    intro text
    cases s <;> rfl
  unfold make
  simp only [hr, hw]

theorem Coherent.call {q : Query} (h : q.Coherent) (c : Call) : (q.call c).1.Coherent := by
  cases c with
  | change c => exact h.apply c
  | _ => exact h

theorem Coherent.call_masked {q : Query} (h : q.Coherent) {c : Call}
    (hp : ∀ s, c = .make s → q.options.prepared = true) :
    q.masked.call c.masked = ((q.call c).1.masked, (q.call c).2) := by
  cases c with
  | change c =>
    simp only [Query.call, Call.masked, apply_masked]
    rfl
  | make s => exact congrArg (Prod.mk q.masked) (h.make_masked (hp s rfl) s)
  | raw statement => rfl

end Query

end Statements

namespace Query

/-- What a run leaves behind does not depend on its values, apart from the values themselves. -/
theorem after_masked (q : Query) (calls : List Call) :
    q.masked.after (calls.map Call.masked) = (q.after calls).masked := by
  induction calls generalizing q with
  | nil => rfl
  | cons c rest ih =>
    have hc : (q.masked.call c.masked).1 = (q.call c).1.masked := by
      cases c with
      | change c => simp only [Query.call, Call.masked, apply_masked, Outcome.state_map]
      | _ => rfl
    rw [List.map_cons, after, hc, ih, after]

/-- Values are written as placeholders wherever a statement is asked for. -/
def Prepares (q : Query) (calls : List Call) : Prop :=
  ∀ earlier s later, calls = earlier ++ .make s :: later →
    (q.after earlier).options.prepared = true

theorem prepares_nil (q : Query) : q.Prepares [] := by
  intro earlier s later h
  simp at h

theorem prepares_cons {q : Query} {c : Call} {rest : List Call} :
    q.Prepares (c :: rest) ↔
      (∀ s, c = .make s → q.options.prepared = true) ∧ (q.call c).1.Prepares rest := by
  constructor
  · intro h
    exact ⟨fun s hs => h [] s rest (congrArg (· :: rest) hs),
      fun earlier s later hs => h (c :: earlier) s later (congrArg (c :: ·) hs)⟩
  · rintro ⟨hc, hr⟩ earlier s later hs
    rcases List.cons_eq_append_iff.mp hs with ⟨rfl, hs⟩ | ⟨earlier', rfl, hs⟩
    · exact hc s (List.cons.inj hs).1
    · exact hr earlier' s later (List.cons.inj hs).2

/-- A run answers as the run of its masked calls does. -/
theorem Coherent.answers_masked {q : Query} (h : q.Coherent) {calls : List Call}
    (hp : q.Prepares calls) :
    (q.masked.answers (calls.map Call.masked)).map Prod.snd =
      (q.answers calls).map Prod.snd := by
  induction calls generalizing q with
  | nil => rfl
  | cons c rest ih =>
    obtain ⟨hm, hr⟩ := prepares_cons.mp hp
    simp only [List.map_cons, answers, h.call_masked hm, ih (h.call c) hr]

/-- The mode in which a statement is made does not depend on values. -/
theorem Prepares.of_masked {q : Query} {calls others : List Call} (h : q.Prepares calls)
    (hm : calls.map Call.masked = others.map Call.masked) : q.Prepares others := by
  rintro earlier s later rfl
  rw [List.map_append, List.map_cons] at hm
  obtain ⟨earlier', rest, rfl, he, hr⟩ := List.map_eq_append_iff.mp hm
  obtain ⟨c, later', rfl, hc, -⟩ := List.map_eq_cons_iff.mp hr
  have hs : ∃ s', c = .make s' := by
    cases c with
    | make s' => exact ⟨s', rfl⟩
    | _ => cases hc
  obtain ⟨s', rfl⟩ := hs
  have hq : (q.after earlier').masked = (q.after earlier).masked := by
    rw [← after_masked, ← after_masked, he]
  have ho : (q.after earlier').masked.options = (q.after earlier).masked.options :=
    congrArg Query.options hq
  exact (congrArg Options.prepared ho).symm.trans (h earlier' s' later' rfl)

/-- Runs that differ in nothing but values, and that ask for their statements with placeholders, get
the same answers and log the same records. -/
theorem masked_calls_agree {source : Options.Source} {q : Query} (h : new source = .ok q)
    {calls others : List Call} (hm : calls.map Call.masked = others.map Call.masked)
    (hp : q.Prepares calls) :
    (q.answers calls).map Prod.snd = (q.answers others).map Prod.snd := by
  have hq : q.Coherent := Reachable.coherent ⟨source, q, [], h, rfl⟩
  rw [← hq.answers_masked hp, ← hq.answers_masked (hp.of_masked hm), hm]

/-- Candidates come as a list or as a tuple. One test is refused for its column, one for too many
bounds. -/
theorem hidden_values_agree :
    let run := fun a b c d e (candidates : Value) =>
      [Call.change (.compare (.text "a") a .null),
        .change (.compareAll .or (.map [(.text "b", b), (.text "c", c)])),
        .change (.like (.text "") c (.bool true)),
        .change (.member (.text "d") candidates),
        .change (.between (.text "e") (.tuple [d, d, d])),
        .change (.between (.text "e") (.tuple [d, e])),
        .change (.setOptions (.value .null) [(.text "prepared_statement", .bool true)]),
        .make (.update (.text "t") (.map [(.text "f", e)]))]
    let calls := run (.int 1) (.text "x") .null (.int 2) (.int 3) (.list [.int 4, .int 5])
    let others := run (.text "y") (.int 0) (.bool true) .null (.text "")
      (.tuple [.text "z", .list []])
    calls.map Call.masked = others.map Call.masked ∧
    (Query.answers {} calls).map Prod.snd = (Query.answers {} others).map Prod.snd ∧
    ((Query.answers {} others).map fun e => e.2.answer.isOk) =
      [true, true, false, true, false, true, true, true] ∧
    (Query.after {} others).render (.update (.text "t") (.map [(.text "f", .text "")])) =
      .ok ("UPDATE t SET f = ? " ++
        "WHERE a = ? AND (b = ? OR c = ?) AND d IN (?,?) AND e BETWEEN ? AND ?") := by
  intro run calls others
  have hn : new (.value .null) = .ok {} := rfl
  have hm : calls.map Call.masked = others.map Call.masked := rfl
  have hp : Query.Prepares {} calls := by
    simp only [calls, run, prepares_cons, prepares_nil, reduceCtorEq, false_implies, implies_true,
      true_and, and_true]
    exact fun s _ => rfl
  exact ⟨hm, masked_calls_agree hn hm hp, rfl,
    eq_ok_of_toOption (by decide +kernel)⟩

end Query

end FluentSql
