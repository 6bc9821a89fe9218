import FluentSql.Keyed
import Mathlib.Data.List.Basic

/-! Tables told from the writes that were made to them, where every key is a name. -/
namespace FluentSql

/-- What was written under names, the latest first. -/
abbrev Writes (β : Type) := List (String × β)

namespace Writes

variable {β : Type}

/-- The names in the order in which they were first written. -/
def names (w : Writes β) : List String := (w.reverse.map Prod.fst).eraseDups

def entryOf? (w : Writes β) (name : String) : Option (Value × β) :=
  (w.lookup name).map fun b => (.text name, b)

/-- One entry for each name, with what was last written under it. -/
def table (w : Writes β) : Keyed β := w.names.filterMap w.entryOf?

theorem mem_names {w : Writes β} {name : String} : name ∈ w.names ↔ ∃ b, (name, b) ∈ w := by
  simp [names]

theorem names_cons (name : String) (b : β) (w : Writes β) :
    names ((name, b) :: w) = if name ∈ w.names then w.names else w.names ++ [name] := by
  have ha : names ((name, b) :: w) =
      w.names ++ ([name].removeAll (w.reverse.map Prod.fst)).eraseDups := by
    simp [names, List.eraseDups_append]
  have hm : name ∈ w.names ↔ name ∈ w.reverse.map Prod.fst := by simp [names]
  rw [ha]
  by_cases h : name ∈ w.names
  · simp [List.removeAll, -List.map_reverse, h, hm.mp h]
  · simp [List.removeAll, -List.map_reverse, h, mt hm.mpr h, List.eraseDups_cons]

theorem nodup_names (w : Writes β) : w.names.Nodup := by
  induction w with
  | nil => simp [names]
  | cons e rest ih =>
    rw [names_cons]
    split
    · exact ih
    · next h => exact List.nodup_append.mpr ⟨ih, by simp, by grind⟩

theorem entryOf?_cons_of_ne {name other : String} (h : other ≠ name) (b : β) (w : Writes β) :
    entryOf? ((name, b) :: w) other = w.entryOf? other := by
  have hb : (other == name) = false := by simpa using h
  simp [entryOf?, List.lookup_cons, hb]

theorem entryOf?_cons_self (name : String) (b : β) (w : Writes β) :
    entryOf? ((name, b) :: w) name = some (.text name, b) := by
  simp [entryOf?]

/-- Names other than the written one keep their entries. -/
theorem filterMap_entryOf?_cons {name : String} {names : List String} (h : name ∉ names) (b : β)
    (w : Writes β) : names.filterMap (entryOf? ((name, b) :: w)) = names.filterMap w.entryOf? := by
  apply List.filterMap_congr
  intro other ho
  have hne : other ≠ name := fun he => h (he ▸ ho)
  exact entryOf?_cons_of_ne hne b w

theorem filterMap_entryOf?_put {name : String} {names : List String} (hd : names.Nodup)
    (hm : name ∈ names) {w : Writes β} (hw : ∀ other ∈ names, ∃ b, w.lookup other = some b)
    (b : β) : names.filterMap (entryOf? ((name, b) :: w)) =
      Keyed.put (.text name) b (names.filterMap w.entryOf?) := by
  induction names with
  | nil => cases hm
  | cons other rest ih =>
    obtain ⟨hn, hd⟩ := List.nodup_cons.mp hd
    obtain ⟨c, hc⟩ := hw other List.mem_cons_self
    have he : w.entryOf? other = some (.text other, c) := by simp [entryOf?, hc]
    rw [List.filterMap_cons_some he]
    by_cases ho : other = name
    · subst ho
      rw [List.filterMap_cons_some (entryOf?_cons_self other b w), filterMap_entryOf?_cons hn]
      simp [Keyed.put]
    · rw [List.filterMap_cons_some ((entryOf?_cons_of_ne ho b w).trans he)]
      have hm : name ∈ rest := (List.mem_cons.mp hm).resolve_left fun h => ho h.symm
      rw [ih hd hm fun o hr => hw o (List.mem_cons_of_mem other hr)]
      simp [Keyed.put, ho]

/-- A table changes by a write as the list of all writes does. -/
theorem table_cons (name : String) (b : β) (w : Writes β) :
    table ((name, b) :: w) = w.table.put (.text name) b := by
  have hw : ∀ other ∈ w.names, ∃ b, w.lookup other = some b := by
    intro other ho
    obtain ⟨b, hb⟩ := mem_names.mp ho
    exact Option.isSome_iff_exists.mp (List.lookup_isSome_iff.mpr ⟨_, hb, by simp⟩)
  unfold table
  rw [names_cons]
  split
  · next hm => exact filterMap_entryOf?_put w.nodup_names hm hw b
  · next hm =>
    rw [List.filterMap_append, filterMap_entryOf?_cons hm, Keyed.put_eq_append]
    · simp [entryOf?_cons_self]
    · intro e he
      obtain ⟨other, ho, he⟩ := List.mem_filterMap.mp he
      obtain ⟨c, -, rfl⟩ := Option.map_eq_some_iff.mp he
      have hne : other ≠ name := fun h => hm (h ▸ ho)
      simpa using hne

end Writes

end FluentSql
