import FluentSql.Value.Key

/-! Entries under keys, in the order in which the keys were first given. -/
namespace FluentSql

abbrev Keyed (β : Type) := List (Value × β)

namespace Keyed

variable {β : Type}

/-- A key that is already there keeps its place and its first spelling and takes the new content; a
new key goes to the end. -/
def put (k : Value) (b : β) : Keyed β → Keyed β
  | [] => [(k, b)]
  | (k', b') :: rest => if k'.sameKey k then (k', b) :: rest else (k', b') :: put k b rest

def find? (k : Value) : Keyed β → Option β
  | [] => none
  | (k', b) :: rest => if k'.sameKey k then some b else find? k rest

def ofList (entries : List (Value × β)) : Keyed β :=
  entries.foldl (fun table e => table.put e.1 e.2) []

@[simp] theorem put_ne_nil (k : Value) (b : β) (table : Keyed β) : table.put k b ≠ [] := by
  cases table with
  | nil => simp [put]
  | cons e rest => simp only [put]; split <;> simp

/-- The keys after a write: the old ones, and the new one unless it was there. -/
theorem keys_put (k : Value) (b : β) (table : Keyed β) :
    (table.put k b).map Prod.fst =
      if table.any (fun e => e.1.sameKey k) then table.map Prod.fst
      else table.map Prod.fst ++ [k] := by
  induction table with
  | nil => rfl
  | cons e rest ih =>
    by_cases h : e.1.sameKey k
    · simp [put, h]
    · simp only [put, h, Bool.false_eq_true, ↓reduceIte, List.map_cons, ih, List.any_cons,
        Bool.false_or]
      split <;> simp_all

/-- A new key goes to the end. -/
theorem put_eq_append {k : Value} {table : Keyed β} (h : ∀ e ∈ table, e.1.sameKey k = false)
    (b : β) : table.put k b = table ++ [(k, b)] := by
  induction table with
  | nil => rfl
  | cons e rest ih =>
    have he : e.1.sameKey k = false := h e List.mem_cons_self
    have hr := ih fun e' he' => h e' (List.mem_cons_of_mem e he')
    simp [put, he, hr]

/-- Contents do not decide where a write goes. -/
theorem map_put {γ : Type} (g : β → γ) (k : Value) (b : β) (table : Keyed β) :
    (table.put k b).map (fun e => (e.1, g e.2)) =
      put k (g b) (table.map fun e => (e.1, g e.2)) := by
  induction table with
  | nil => rfl
  | cons e rest ih => by_cases h : e.1.sameKey k <;> simp [put, h, ih]

/-- Nothing comes in by a write but the written content. -/
theorem eq_of_mem_put {k : Value} {b : β} {table : Keyed β} {e : Value × β}
    (h : e ∈ table.put k b) : e ∈ table ∨ e.2 = b := by
  induction table with
  | nil => simp only [put, List.mem_singleton] at h; exact .inr (by rw [h])
  | cons e' rest ih =>
    simp only [put] at h
    split at h
    · rcases List.mem_cons.mp h with rfl | h
      · exact .inr rfl
      · exact .inl (List.mem_cons_of_mem _ h)
    · rcases List.mem_cons.mp h with rfl | h
      · exact .inl List.mem_cons_self
      · exact (ih h).imp_left (List.mem_cons_of_mem _)

end Keyed

/-- A collection of entries that becomes active with its first entry. -/
structure Family (β : Type) where
  active : Bool := false
  entries : Keyed β := []

def Family.put {β : Type} (f : Family β) (k : Value) (b : β) : Family β :=
  { active := true, entries := f.entries.put k b }

end FluentSql
