import FluentSql.Proofs.Run

/-! What a refused call leaves behind. Where a rule of the grammar refuses an argument, nothing has
changed. Where a value could not be used, the setting that all joins, all later comparisons or all
pattern tests share may have changed already, but neither a clause nor an entry. -/
namespace FluentSql

/-- The call is about a clause, not about the options. -/
def Change.OnClause : Change → Prop
  | .setOptions _ _ => False
  | _ => True

theorem Comparisons.state_add_of_fault {c : Comparisons} {column value operator : Value} {f : Fault}
    (h : (c.add column value operator).fault = some f) :
    (c.add column value operator).state = c := by
  rcases c.add_cases column value operator with ha | ⟨e, ha⟩ <;> rw [ha] at h ⊢
  · cases h
  · rfl

theorem Inclusion.state_add_of_fault {tests : Family (List Value)} {column candidates : Value}
    {f : Fault} (h : (add tests column candidates).fault = some f) :
    (add tests column candidates).state = tests := by
  rcases add_cases tests column candidates with ⟨items, -, -, ha⟩ | ⟨e, ha⟩ <;> rw [ha] at h ⊢
  · cases h
  · rfl

theorem Range.state_add_of_fault {tests : Family (Value × Value)} {column bounds : Value}
    {f : Fault} (h : (add tests column bounds).fault = some f) :
    (add tests column bounds).state = tests := by
  rcases add_cases tests column bounds with ⟨low, high, -, -, -, ha⟩ | ⟨e, ha⟩ <;> rw [ha] at h ⊢
  · cases h
  · rfl

namespace Query

/-- The query with other settings shared by all joins, by the comparisons still to come and by all
pattern tests. -/
def sharing (q : Query) (kind : JoinKind) (connective : Connective) (anyOf : Bool) : Query :=
  { q with
    joins := { q.joins with kind }
    comparisons := { q.comparisons with connective }
    patterns := { q.patterns with anyOf } }

/-- All but the shared settings is kept by a call refused for a cause, and these too if a rule of
the grammar is the cause. -/
def KeptBy (q : Query) (o : Outcome Query) (f : Fault) : Prop :=
  (f.isArgument = true → o.state = q) ∧
    ∃ kind connective anyOf, o.state = q.sharing kind connective anyOf

variable {q : Query} {f : Fault}

/-- A part that a refused call leaves alone leaves the query alone. -/
theorem kept_of_part {σ : Type} {before : σ} {o : Outcome σ} {put : σ → Query}
    (hp : put before = q) (ho : ∀ e, o.fault = some e → o.state = before)
    (hf : (o.map put).fault = some f) : q.KeptBy (o.map put) f := by
  have hs : (o.map put).state = q := by rw [Outcome.state_map, ho f hf, hp]
  exact ⟨fun _ => hs, q.joins.kind, q.comparisons.connective, q.patterns.anyOf, hs⟩

/-- A refused call may have taken a shared setting before its cause was found, but not if the cause
is a rule of the grammar. -/
theorem kept_of_sharing {kind : JoinKind} {connective : Connective} {anyOf : Bool} {e : Fault}
    (he : e.isArgument = true → q.sharing kind connective anyOf = q)
    (hf : some e = some f) : q.KeptBy (.refused (q.sharing kind connective anyOf) e) f := by
  obtain rfl : e = f := Option.some.inj hf
  exact ⟨he, kind, connective, anyOf, rfl⟩

theorem join_kept {table condition : Value} {kind : JoinKind.Source}
    (hf : (q.apply (.join table condition kind)).fault = some f) :
    q.KeptBy (q.apply (.join table condition kind)) f := by
  simp only [apply] at hf ⊢
  rcases q.joins.add_cases table condition kind with ⟨kind', -, ha⟩ | ⟨kind', e, ha, he⟩ <;>
    rw [ha] at hf ⊢
  · cases hf
  · exact kept_of_sharing (fun hg => by rw [he hg]; rfl) hf

theorem compareAll_kept {connective : Connective} {conditions : Value}
    (hf : (q.apply (.compareAll connective conditions)).fault = some f) :
    q.KeptBy (q.apply (.compareAll connective conditions)) f := by
  simp only [apply] at hf ⊢
  rcases q.comparisons.addAll_cases connective conditions with
    ⟨entries, -, ha⟩ | ⟨connective', e, ha, he⟩ <;> rw [ha] at hf ⊢
  · cases hf
  · exact kept_of_sharing (fun hg => by rw [he hg]; rfl) hf

theorem like_kept {column pattern anyOf : Value}
    (hf : (q.apply (.like column pattern anyOf)).fault = some f) :
    q.KeptBy (q.apply (.like column pattern anyOf)) f := by
  simp only [apply] at hf ⊢
  rcases q.patterns.add_cases column pattern anyOf with ha | ⟨anyOf', e, ha, he⟩ <;>
    rw [ha] at hf ⊢
  · cases hf
  · exact kept_of_sharing (fun hg => by rw [he hg]; rfl) hf

theorem clause_kept {β : Type} {before : β} {clause : Except Fault β} {put : β → Query}
    (hp : put before = q) (hf : ((Outcome.ofExcept before clause).map put).fault = some f) :
    q.KeptBy ((Outcome.ofExcept before clause).map put) f :=
  kept_of_part hp (fun _ => Outcome.state_ofExcept_of_fault) hf

/-- A call that is refused by a rule of the grammar leaves the query as it was. A call that is
refused for any other cause leaves the options, the table, all entries in their order, the activity
of all families and all written clauses. -/
theorem refused_call_keeps {c : Change} (hc : c.OnClause) (hf : (q.apply c).fault = some f) :
    (f.isArgument = true → (q.apply c).state = q) ∧
    ∃ kind connective anyOf, (q.apply c).state =
      { q with
        joins := { q.joins with kind }
        comparisons := { q.comparisons with connective }
        patterns := { q.patterns with anyOf } } := by
  cases c with
  | setOptions source overrides => exact hc.elim
  | select columns camelCase => exact clause_kept rfl hf
  | source table => exact clause_kept rfl hf
  | join table condition kind => exact join_kept hf
  | compare column value operator =>
    exact kept_of_part rfl (fun _ => Comparisons.state_add_of_fault) hf
  | compareAll connective conditions => exact compareAll_kept hf
  | like column pattern anyOf => exact like_kept hf
  | member column candidates => exact kept_of_part rfl (fun _ => Inclusion.state_add_of_fault) hf
  | between column bounds => exact kept_of_part rfl (fun _ => Range.state_add_of_fault) hf
  | group key => exact clause_kept rfl hf
  | order key direction => exact clause_kept rfl hf
  | limit number => exact clause_kept rfl hf
  | offset number => exact clause_kept rfl hf

/-- A group with an empty column is refused as a whole. A group that is no map is refused after its
connective has been taken. -/
theorem refused_groups_keep :
    let q := ({} : Query).applyAll [.source (.text "t"), .compare (.text "a") (.int 1) .null]
    let holed := Change.compareAll .or (.map [(.text "b", .int 2), (.text "", .int 3)])
    let listed := Change.compareAll .or (.list [.text "b"])
    q.Reachable ∧
    ((q.apply holed).fault = some (.missingColumn .comparison) ∧ (q.apply holed).state = q) ∧
    (q.apply listed).fault = some (.unanswered .list .items) ∧
      (q.apply listed).state.comparisons.connective = .or ∧
      (q.apply listed).state.comparisons.entries = q.comparisons.entries := by
  intro q holed listed
  have hr : q.Reachable := ⟨.value .null, {}, _, rfl, rfl⟩
  have hh : (q.apply holed).fault = some (.missingColumn .comparison) := rfl
  have hl : (q.apply listed).fault = some (.unanswered .list .items) := rfl
  have hch : holed.OnClause := trivial
  have hcl : listed.OnClause := trivial
  obtain ⟨-, kind, connective, anyOf, hs⟩ := refused_call_keeps hcl hl
  refine ⟨hr, ⟨hh, (refused_call_keeps hch hh).1 rfl⟩, hl, rfl, ?_⟩
  rw [hs]

end Query

end FluentSql
