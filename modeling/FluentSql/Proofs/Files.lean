import FluentSql.Log.Disk
import FluentSql.Proofs.Run
import Mathlib.Data.List.Basic

/-! Where the path of a file leads, and what opening it does to the files that are there. -/
namespace FluentSql.Log

namespace Path

@[simp] theorem anchor_up (p : Path) : p.up.anchor = p.anchor := by
  unfold up
  split
  · split <;> rfl
  · split <;> rfl
  · rfl

@[simp] theorem anchor_child (p : Path) (part : String) : (p.child part).anchor = p.anchor := by
  unfold child
  split
  · exact p.anchor_up
  · rfl

/-- The way up does not depend on how the root is written. -/
theorem up_place (p : Path) :
    { p.up with anchor := p.anchor.place } = { p with anchor := p.anchor.place }.up := by
  obtain ⟨anchor, parts⟩ := p
  unfold up
  dsimp only
  split
  · cases anchor <;> rfl
  · cases anchor <;> rfl
  · rfl

theorem child_place (p : Path) (part : String) :
    { p.child part with anchor := p.anchor.place } =
      { p with anchor := p.anchor.place }.child part := by
  unfold child
  split
  · exact p.up_place
  · rfl

theorem foldl_child_place (parts : List String) (p : Path) :
    { parts.foldl child p with anchor := p.anchor.place } =
      parts.foldl child { p with anchor := p.anchor.place } := by
  induction parts generalizing p with
  | nil => rfl
  | cons part rest ih =>
    have h := ih (p.child part)
    rw [anchor_child, child_place] at h
    exact h

/-- A place is found by following the parts from the start. -/
theorem place_eq (p : Path) : p.place = p.parts.foldl child p.start.place :=
  foldl_child_place p.parts p.start

end Path

namespace Disk

/-- The files once a place is one of them. -/
def filesWith (d : Disk) : Option Path → List (Path × String)
  | none => d.files
  | some place => if d.isFile place then d.files else d.files ++ [(place, "")]

theorem filesWith_congr {d d' : Disk} (h : d.files = d'.files) (place? : Option Path) :
    d.filesWith place? = d'.filesWith place? := by
  unfold filesWith isFile
  rw [h]

theorem enter_cases (d : Disk) (place : Path) (part : String) :
    d.enter place part = .ok (place.child part) ∨
    (d.enter place part = .error .notFolder ∧ d.isFile (place.child part) = true) ∨
    (d.enter place part = .error .missing ∧ d.isFile (place.child part) = false) ∨
    d.enter place part = .error .nameTooLong := by
  unfold enter
  split
  · exact .inr (.inr (.inr rfl))
  · split
    · exact .inl rfl
    · cases hf : d.isFile (place.child part) with
      | true => exact .inr (.inl ⟨rfl, rfl⟩)
      | false => exact .inr (.inr (.inl ⟨rfl, rfl⟩))

theorem eq_child_of_enter {d : Disk} {place next : Path} {part : String}
    (h : d.enter place part = .ok next) : next = place.child part := by
  rcases d.enter_cases place part with he | ⟨he, -⟩ | ⟨he, -⟩ | he <;> rw [he] at h <;> cases h
  rfl

theorem eq_foldl_of_enter {d : Disk} {parts : List String} {place last : Path}
    (h : parts.foldlM d.enter place = .ok last) : last = parts.foldl Path.child place := by
  induction parts generalizing place with
  | nil => exact (Except.ok.inj h).symm
  | cons part rest ih =>
    rw [List.foldlM_cons] at h
    obtain ⟨next, hn, hl⟩ := eq_ok_of_bind h
    rw [List.foldl_cons, ← eq_child_of_enter hn]
    exact ih hl

theorem place_of_above {d : Disk} {p folder : Path} {part : String} (h : d.above p = .ok folder)
    (hp : p.parts.getLast? = some part) : p.place = folder.child part := by
  unfold above at h
  split at h
  · cases h
  · have hl := List.dropLast_append_getLast? part hp
    rw [Path.place_eq, ← hl, List.foldl_append, ← eq_foldl_of_enter h]
    rfl

/-- A path that leads to a file leads to the place of one, and a free one does not. -/
theorem isFile_of_entry {d : Disk} {p : Path} {e : Entry} (h : d.entry p = .ok e)
    (he : e ≠ .folder) : d.isFile p.place = decide (e = .file) := by
  unfold entry at h
  obtain ⟨folder, ha, h⟩ := eq_ok_of_bind h
  cases hp : p.parts.getLast? with
  | none =>
    rw [hp] at h
    exact absurd (Except.ok.inj h).symm he
  | some part =>
    rw [place_of_above ha hp]
    simp only [hp] at h
    rcases d.enter_cases folder part with hn | ⟨hn, hf⟩ | ⟨hn, hf⟩ | hn <;> rw [hn] at h
    · exact absurd (Except.ok.inj h).symm he
    · rw [hf, ← Except.ok.inj h]
      rfl
    · rw [hf, ← Except.ok.inj h]
      rfl
    · cases h

/-- Opening a file keeps all files and what they hold, and adds at most an empty one. -/
theorem files_of_openFile {d opened : Disk} {p : Path} (h : d.openFile p = .ok opened) :
    opened.files = d.filesWith (some p.place) := by
  unfold openFile at h
  obtain ⟨e, he, h⟩ := eq_ok_of_bind h
  cases e with
  | folder => cases h
  | file =>
    have hf := isFile_of_entry he (by decide)
    simp [filesWith, hf, ← Except.ok.inj h]
  | free =>
    have hf := isFile_of_entry he (by decide)
    simp [filesWith, hf, ← Except.ok.inj h]

end Disk

end FluentSql.Log
