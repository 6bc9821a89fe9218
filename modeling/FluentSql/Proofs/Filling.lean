import FluentSql.Proofs.Segments

/-! The two ways of writing a statement fill the same gaps between the same texts. The gaps belong
to the values that are to be bound, in the order in which they are to be bound. -/
namespace FluentSql

/-- Texts with values between them. -/
def weave (first : String) : List String → List String → String
  | v :: values, t :: texts => first ++ v ++ weave t values texts
  | _, _ => first

theorem append_weave (s first : String) (values texts : List String) :
    s ++ weave first values texts = weave (s ++ first) values texts := by
  cases values <;> cases texts <;> simp [weave, String.append_assoc]

namespace Template

/-- The slots of a template in order, each with the quotes that its value gets. -/
def slots : Template → List (Quote × Value)
  | [] => []
  | .text _ :: rest => slots rest
  | .slot quote v :: rest => (quote, v) :: slots rest

@[simp] theorem slots_append (t u : Template) : slots (t ++ u) = slots t ++ slots u := by
  induction t with
  | nil => rfl
  | cons p rest ih => cases p <;> simp [slots, ih]

@[simp] theorem slots_text (s : String) (t : Template) : slots (.text s :: t) = slots t := rfl

@[simp] theorem slots_ofText (s : String) : slots (ofText s) = [] := rfl

theorem slots_join (separator : String) (ts : List Template) :
    slots (join separator ts) = ts.flatMap slots := by
  fun_induction join separator ts with
  | case1 => rfl
  | case2 => simp
  | case3 t u rest ih => simp [ih]

theorem slots_opened (ts : List Template) : (opened ts).flatMap slots = ts.flatMap slots := by
  cases ts <;> simp [opened, List.flatMap_map]

theorem values_eq_slots (t : Template) : t.values = t.slots.map Prod.snd := by
  induction t with
  | nil => rfl
  | cons p rest ih => cases p <;> simp [values, slots, ih]

/-- The texts around the slots do not depend on what the slots are filled with. -/
theorem exists_weave (t : Template) : ∃ first texts, texts.length = t.slots.length ∧
    ∀ prepared, t.fill prepared =
      weave first (t.slots.map fun s => (Piece.slot s.1 s.2).fill prepared) texts := by
  induction t with
  | nil => exact ⟨"", [], rfl, fun _ => rfl⟩
  | cons p rest ih =>
    obtain ⟨first, texts, hl, hf⟩ := ih
    cases p with
    | text s =>
      refine ⟨s ++ first, texts, hl, fun prepared => ?_⟩
      rw [fill_text, hf, append_weave, slots_text]
    | slot quote v =>
      refine ⟨"", first :: texts, by simp [slots, hl], fun prepared => ?_⟩
      simp [fill, hf, slots, weave]

end Template

namespace Comparison

theorem slots_attach (joiner : String) (part : Template) (written : Option Template) :
    (attach joiner part written).slots = (written.getD []).slots ++ part.slots := by
  cases written <;> simp [attach, Template.slots]

theorem slots_group (run : List Template) : (group run).slots = run.flatMap Template.slots := by
  simp [group, Template.slots_join, Template.slots]

theorem slots_flush (written : Option Template) (run : List Template) :
    ((flush written run).getD []).slots =
      (written.getD []).slots ++ run.flatMap Template.slots := by
  unfold flush
  split
  · simp
  · simp [slots_attach]
  · simp [slots_attach, slots_group]

/-- Regrouping the runs linked by `OR` keeps every term in its place. -/
theorem slots_walk (written : Option Template) (run : List Template)
    (predicates : List Predicate) :
    ((walk written run predicates).getD []).slots =
      (written.getD []).slots ++ run.flatMap Template.slots ++
        predicates.map fun p => (.double, p.value) := by
  induction predicates generalizing written run with
  | nil => simp [walk, slots_flush]
  | cons p rest ih =>
    have ht : p.term.slots = [(.double, p.value)] := rfl
    unfold walk
    split <;> rw [ih] <;> simp [slots_attach, slots_flush, ht]

theorem slots_condition (predicates : List Predicate) :
    (condition predicates).slots = predicates.map fun p => (.double, p.value) := by
  simp [condition, slots_walk, Template.slots]

end Comparison

theorem Inclusion.slots_member (column : Value) (candidates : List Value) :
    (member column candidates).slots = candidates.map fun v => (.double, v) := by
  simp [member, slots, Template.slots_join, Template.slots, List.flatMap_map,
    ← List.map_eq_flatMap]

/-- What stands under the keys of a map, and nothing for what is no map. -/
def Value.contents : Value → List Value
  | .map entries => entries.map Prod.snd
  | _ => []

theorem Value.entriesFor_eq_ok {request : Request} {v : Value} {entries : List (Value × Value)}
    (h : v.entriesFor request = .ok entries) : v.contents = entries.map Prod.snd := by
  cases v <;> simp_all [entriesFor, contents]

theorem Assignment.slots_clause {data : Value} {t : Template} (h : clause data = .ok t) :
    t.slots = data.contents.map fun v => (.double, v) := by
  obtain ⟨void, -, h⟩ := eq_ok_of_bind h
  split at h
  · cases h
  · obtain ⟨entries, he, h⟩ := eq_ok_of_bind h
    obtain rfl := Except.ok.inj h
    simp [Value.entriesFor_eq_ok he, Template.slots_join, List.flatMap_map, single,
      Template.slots, ← List.map_eq_flatMap]

namespace Clause

theorem slots_insertion {table data : Value} {t : Template} (h : insertion table data = .ok t) :
    t.slots = data.contents.map fun v => (.single, v) := by
  obtain ⟨-, -, h⟩ := eq_ok_of_bind h
  obtain ⟨void, -, h⟩ := eq_ok_of_bind h
  split at h
  · cases h
  · obtain ⟨entries, he, h⟩ := eq_ok_of_bind h
    obtain ⟨columns, -, h⟩ := eq_ok_of_bind h
    obtain rfl := Except.ok.inj h
    simp [Value.entriesFor_eq_ok he, Template.slots_join, List.flatMap_map, Template.slots,
      ← List.map_eq_flatMap]

/-- Assignments for a conflict are only asked for when some are given. -/
theorem slots_conflict {updates : Value} {t : Template} (h : conflict updates = .ok t)
    (hg : updates.isGiven = true) : t.slots = updates.contents.map fun v => (.double, v) := by
  obtain ⟨void, hv, h⟩ := eq_ok_of_bind h
  split at h
  · next hvoid =>
    cases updates <;> simp_all [Value.isVoid, Value.length, Value.length?, Value.elements?,
      Value.isGiven, Except.map]
  · obtain ⟨u, hu, h⟩ := eq_ok_of_bind h
    obtain rfl := Except.ok.inj h
    rw [Template.slots_text, Assignment.slots_clause hu]

theorem slots_update {table data : Value} {t : Template} (h : update table data = .ok t) :
    t.slots = data.contents.map fun v => (.double, v) := by
  obtain ⟨-, -, h⟩ := eq_ok_of_bind h
  obtain ⟨u, hu, h⟩ := eq_ok_of_bind h
  obtain rfl := Except.ok.inj h
  rw [Template.slots_text, Assignment.slots_clause hu]

theorem slots_deletion {table : Value} {t : Template} (h : deletion table = .ok t) :
    t.slots = [] := by
  obtain ⟨-, -, h⟩ := eq_ok_of_bind h
  obtain rfl := Except.ok.inj h
  rfl

end Clause

namespace Query

/-- The values that a family of tests binds, with their quotes. -/
def bound (q : Query) : Filter → List (Quote × Value)
  | .comparison => q.comparisons.entries.map fun e => (.double, e.2.value)
  | .inclusion => q.inclusions.entries.flatMap fun e => e.2.map fun v => (.double, v)
  | .pattern => q.patterns.entries.map fun e => (.double, e.2)
  | .range => q.ranges.entries.flatMap fun e => [(.bare, e.2.1), (.bare, e.2.2)]

theorem slots_condition (q : Query) (f : Filter) : (q.condition f).slots = q.bound f := by
  cases f with
  | comparison => simp [condition, bound, Comparison.slots_condition]
  | inclusion =>
    simp [condition, bound, Inclusion.condition, Template.slots_join, List.flatMap_map,
      Inclusion.slots_member]
  | pattern =>
    simp [condition, bound, Pattern.condition, Template.slots_join, List.flatMap_map, Pattern.test,
      Template.slots, ← List.map_eq_flatMap]
  | range =>
    simp [condition, bound, Range.condition, Template.slots_join, List.flatMap_map, Range.test,
      Template.slots]

theorem flatMap_filters {β : Type} (q : Query) (families : List Filter) (g : Filter → List β)
    (hg : ∀ f, q.size f = 0 → g f = []) :
    (families.filter fun f => q.size f != 0).flatMap g = families.flatMap g := by
  induction families with
  | nil => rfl
  | cons f rest ih => by_cases hf : q.size f = 0 <;> simp [hf, ih, hg f]

/-- A family without tests has no segment and binds nothing. -/
theorem slots_opened_filters (q : Query) :
    (Template.opened (q.filters.map q.condition)).flatMap Template.slots =
      Filter.all.flatMap q.bound := by
  rw [Template.slots_opened, List.flatMap_map]
  simp only [slots_condition]
  apply flatMap_filters
  intro f hf
  cases f <;> simp_all [size, bound]

theorem slots_clauseTemplates (q : Query) :
    q.clauseTemplates.flatMap Template.slots = Filter.all.flatMap q.bound := by
  have hj : (if q.joins.entries.isEmpty then []
      else [Template.ofText (Join.segment q.joins.kind q.joins.entries)]).flatMap
        Template.slots = [] := by
    split <;> rfl
  have ht : q.tailClauses.flatMap Template.slots = [] := by
    simp [tailClauses, List.flatMap_map]
  simp only [clauseTemplates, List.flatMap_append, hj, ht, slots_opened_filters]
  simp

/-- The values that a statement binds, in order, with the quotes that they get where they are
written out. -/
def bindings (q : Query) : Statement → List (Quote × Value)
  | .select => Filter.all.flatMap q.bound
  | .insert _ data orUpdate updates =>
    data.contents.map (fun v => (.single, v)) ++
      if orUpdate.isGiven && updates.isGiven then updates.contents.map fun v => (.double, v) else []
  | .update _ data => data.contents.map (fun v => (.double, v)) ++ Filter.all.flatMap q.bound
  | .delete _ => Filter.all.flatMap q.bound

theorem Coherent.slots_filtered {q : Query} (h : q.Coherent) {head : Except Fault Template}
    {t : Template} (ht : q.filtered head = .ok t) :
    ∃ u, head = .ok u ∧ t.slots = u.slots ++ Filter.all.flatMap q.bound := by
  obtain ⟨u, hu, ht⟩ := eq_ok_of_bind ht
  rw [h.conditions_eq] at ht
  obtain rfl := Except.ok.inj ht
  exact ⟨u, hu, by rw [Template.slots_join, List.flatMap_cons, slots_opened_filters]⟩

theorem slots_of_insertion {table data orUpdate updates : Value} {t : Template}
    (h : insertion table data orUpdate updates = .ok t) :
    t.slots = data.contents.map (fun v => (.single, v)) ++
      if orUpdate.isGiven && updates.isGiven then updates.contents.map fun v => (.double, v)
      else [] := by
  obtain ⟨head, hh, h⟩ := eq_ok_of_bind h
  have hs := Clause.slots_insertion hh
  split at h
  · next hg =>
    obtain ⟨tail, ht, h⟩ := eq_ok_of_bind h
    obtain rfl := Except.ok.inj h
    have hu := (Bool.and_eq_true_iff.mp hg).2
    rw [if_pos hg, Template.slots_append, Template.slots_text, hs, Clause.slots_conflict ht hu]
  · next hg =>
    obtain rfl := Except.ok.inj h
    rw [if_neg hg, hs, List.append_nil]

/-- The slots of a statement are its bindings. -/
theorem Coherent.slots_template {q : Query} (h : q.Coherent) {s : Statement} {t : Template}
    (ht : q.template s = .ok t) : t.slots = q.bindings s := by
  cases s with
  | select =>
    simp only [template, h.selection_eq] at ht
    split at ht
    · obtain rfl := Except.ok.inj ht
      simp [Template.slots_join, slots_clauseTemplates, bindings, Template.slots]
    · cases ht
  | insert table data orUpdate updates => exact slots_of_insertion ht
  | update table data =>
    obtain ⟨u, hu, hs⟩ := h.slots_filtered ht
    rw [hs, Clause.slots_update hu]
    rfl
  | delete table =>
    obtain ⟨u, hu, hs⟩ := h.slots_filtered ht
    rw [hs, Clause.slots_deletion hu]
    rfl

/-- The same query with placeholders, or with its values written out. -/
def inMode (q : Query) (prepared : Bool) : Query :=
  { q with options := { q.options with prepared } }

/-- What a statement says is settled before it is known how its values are written. -/
theorem render_inMode (q : Query) (prepared : Bool) (s : Statement) :
    (q.inMode prepared).render s = (q.template s).map fun t => finish (t.fill prepared) := by
  have ht : (q.inMode prepared).template s = q.template s := by cases s <;> rfl
  unfold render
  rw [ht]
  rfl

/-- The two modes refuse a statement for the same reason, or they fill the gaps between the same
texts: with placeholders, or with the bindings, each in the quotes of its place. -/
theorem render_weaves_bindings {q : Query} (h : q.Reachable) (s : Statement) :
    (∃ f, ∀ prepared, (q.inMode prepared).render s = .error f) ∨
    ∃ first texts, texts.length = (q.bindings s).length ∧
      (q.inMode true).render s =
        .ok (finish (weave first ((q.bindings s).map fun _ => "?") texts)) ∧
      (q.inMode false).render s =
        .ok (finish (weave first ((q.bindings s).map fun b =>
          match b.1 with
          | .double => "\x22" ++ b.2.shown ++ "\x22"
          | .single => "'" ++ b.2.shown ++ "'"
          | .bare => b.2.shown) texts)) := by
  simp only [render_inMode]
  cases ht : q.template s with
  | error f => exact .inl ⟨f, fun _ => rfl⟩
  | ok t =>
    obtain ⟨first, texts, hl, hf⟩ := t.exists_weave
    rw [h.coherent.slots_template ht] at hl hf
    refine .inr ⟨first, texts, hl, ?_, ?_⟩
    · show Except.ok (finish (t.fill true)) = _
      rw [hf]
      rfl
    · show Except.ok (finish (t.fill false)) = _
      rw [hf]
      rfl

/-- Statements with all three kinds of quotes. The repeated column keeps its place and joins the run
that follows. -/
theorem statements_weave_bindings :
    let q := ({} : Query).applyAll [.source (.text "t"),
      .compare (.text "a") (.text "1") (.text ">"),
      .compareAll .or (.map [(.text "b", .text "2"), (.text "c", .text "3")]),
      .between (.text "d") (.tuple [.text "4", .text "5"]), .like (.text "g") (.text "9%") .null,
      .member (.text "e") (.list [.text "6", .text "7"]), .compare (.text "a") (.text "8") .null]
    let weaves (s : Statement) (prepared literal : String) : Prop :=
      ∃ first texts, texts.length = (q.bindings s).length ∧
        finish (weave first ((q.bindings s).map fun _ => "?") texts) = prepared ∧
        finish (weave first ((q.bindings s).map fun b =>
          match b.1 with
          | .double => "\x22" ++ b.2.shown ++ "\x22"
          | .single => "'" ++ b.2.shown ++ "'"
          | .bare => b.2.shown) texts) = literal
    q.Reachable ∧
    weaves .select
      ("SELECT * FROM t WHERE (a = ? OR b = ? OR c = ?) AND e IN (?,?) AND g LIKE ?" ++
        " AND d BETWEEN ? AND ?;")
      ("SELECT * FROM t WHERE (a = \x228\x22 OR b = \x222\x22 OR c = \x223\x22)" ++
        " AND e IN (\x226\x22,\x227\x22) AND g LIKE \x229%\x22 AND d BETWEEN 4 AND 5;") ∧
    weaves (.update (.text "t") (.map [(.text "f", .text "0")]))
      ("UPDATE t SET f = ? WHERE (a = ? OR b = ? OR c = ?) AND e IN (?,?) AND g LIKE ?" ++
        " AND d BETWEEN ? AND ?")
      ("UPDATE t SET f = \x220\x22 WHERE (a = \x228\x22 OR b = \x222\x22 OR c = \x223\x22)" ++
        " AND e IN (\x226\x22,\x227\x22) AND g LIKE \x229%\x22 AND d BETWEEN 4 AND 5") ∧
    weaves (.insert (.text "t") (.map [(.text "a", .text "1"), (.text "b", .null)]) (.bool true)
        (.map [(.text "b", .text "2")]))
      "INSERT INTO t (a,b) VALUES (?,?) ON DUPLICATE KEY UPDATE b = ?"
      "INSERT INTO t (a,b) VALUES ('1','None') ON DUPLICATE KEY UPDATE b = \x222\x22" := by
  intro q weaves
  have hr : q.Reachable := ⟨.value .null, {}, _, rfl, rfl⟩
  have hw : ∀ {s prepared literal}, ((q.inMode true).render s).toOption = some prepared →
      ((q.inMode false).render s).toOption = some literal → weaves s prepared literal := by
    intro s prepared literal hp hl
    have hp := eq_ok_of_toOption hp
    have hl := eq_ok_of_toOption hl
    rcases render_weaves_bindings hr s with ⟨f, hf⟩ | ⟨first, texts, hlen, hp', hl'⟩
    · exact absurd (hp.symm.trans (hf true)) (by simp)
    · exact ⟨first, texts, hlen, (Except.ok.inj (hp.symm.trans hp')).symm,
        (Except.ok.inj (hl.symm.trans hl')).symm⟩
  exact ⟨hr, hw (by decide +kernel) (by decide +kernel), hw (by decide +kernel) (by decide +kernel),
    hw (by decide +kernel) (by decide +kernel)⟩

end Query

end FluentSql
