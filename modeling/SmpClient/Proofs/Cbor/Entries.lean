import SmpClient.Proofs.Cbor.Reading
import Mathlib.Data.List.Perm.Basic

/-!
# The entries of a map in canonical order

Putting entries in canonical order moves them around and, as long as their keys are different
texts, neither drops nor changes one.  What is found under a name is therefore the same before
and after.
-/

namespace SmpClient

namespace Bytes

theorem compareWith_eq_eq (first second : Bytes) :
    compareWith first second = .eq ↔ first = second := by
  induction first generalizing second with
  | nil => cases second <;> simp [compareWith]
  | cons byte bytes ih =>
      cases second with
      | nil => simp [compareWith]
      | cons other others =>
          simp [compareWith, Ordering.then_eq_eq, ih]

theorem ofText_injective : Function.Injective ofText := by
  intro first second bytesEq
  have textEq := congrArg toText? bytesEq
  simpa using textEq

end Bytes

namespace Cbor

namespace Value

/-- The key of a text entry is only equal to itself. -/
theorem compareKey_text_eq_eq (name : String) (present : Value) :
    (Value.text name).compareKey present = .eq ↔ present = .text name := by
  constructor
  · intro same
    have majorEq : (3 : Nat) = present.major := by
      have := (Ordering.then_eq_eq.mp same).1
      simpa [major] using this
    cases present with
    | text other =>
        have contentEq := (Ordering.then_eq_eq.mp (Ordering.then_eq_eq.mp same).2).2
        rw [Bytes.compareWith_eq_eq] at contentEq
        rw [Bytes.ofText_injective contentEq]
    | int number => cases number <;> simp [major] at majorEq
    | _ => simp [major] at majorEq
  · rintro rfl
    simp [compareKey, Bytes.compareWith_eq_eq]

/-- An entry with a new key is only put in its place. -/
theorem insertEntry_perm {name : String} {value : Value} {entries : List (Value × Value)}
    (fresh : Value.text name ∉ entries.map Prod.fst) :
    List.Perm (insertEntry (.text name) value entries) ((.text name, value) :: entries) := by
  induction entries with
  | nil => rfl
  | cons entry entries ih =>
      obtain ⟨present, old⟩ := entry
      simp only [List.map_cons, List.mem_cons, not_or] at fresh
      rw [insertEntry]
      cases order : (Value.text name).compareKey present with
      | lt => rfl
      | eq => exact absurd ((compareKey_text_eq_eq name present).mp order).symm fresh.1
      | gt => exact ((ih fresh.2).cons _).trans (List.Perm.swap ..)

/-- Entries whose keys are different texts. -/
structure HasNames (entries : List (Value × Value)) : Prop where
  texts : ∀ entry ∈ entries, ∃ name, entry.1 = .text name
  distinct : (entries.map Prod.fst).Nodup

theorem HasNames.perm {first second : List (Value × Value)} (names : HasNames first)
    (moved : List.Perm first second) : HasNames second where
  texts entry member := names.texts entry (moved.mem_iff.mpr member)
  distinct := (moved.map Prod.fst).nodup names.distinct

theorem HasNames.insertEntry_perm {name : String} {value : Value}
    {entries : List (Value × Value)} (names : HasNames ((.text name, value) :: entries)) :
    List.Perm (insertEntry (.text name) value entries) ((.text name, value) :: entries) :=
  Value.insertEntry_perm (List.nodup_cons.mp names.distinct).1

private theorem foldl_insertEntry_perm (entries before : List (Value × Value))
    (names : HasNames (entries ++ before)) :
    List.Perm
      (entries.foldl (fun sorted entry => insertEntry entry.1 entry.2 sorted) before)
      (entries ++ before) := by
  induction entries generalizing before with
  | nil => rfl
  | cons entry entries ih =>
      obtain ⟨key, value⟩ := entry
      obtain ⟨name, rfl⟩ := names.texts (key, value) (by simp)
      have fresh : Value.text name ∉ before.map Prod.fst := by
        have distinct := names.distinct
        simp only [List.cons_append, List.map_cons, List.map_append, List.nodup_cons,
          List.mem_append, not_or] at distinct
        exact distinct.1.2
      have inserted : List.Perm (entries ++ insertEntry (.text name) value before)
          ((.text name, value) :: entries ++ before) :=
        ((Value.insertEntry_perm fresh).append_left entries).trans List.perm_middle
      exact (ih _ (names.perm inserted.symm)).trans inserted

/-- Sorting moves entries around. -/
theorem HasNames.sortEntries_perm {entries : List (Value × Value)} (names : HasNames entries) :
    List.Perm (sortEntries entries) entries := by
  have moved := foldl_insertEntry_perm entries [] (by simpa using names)
  simpa [sortEntries] using moved

theorem HasNames.entry?_eq_some_iff {entries : List (Value × Value)} (names : HasNames entries)
    (name : String) (value : Value) :
    entry? entries name = some value ↔ (Value.text name, value) ∈ entries := by
  induction entries with
  | nil => simp [ entry?]
  | cons entry entries ih =>
      obtain ⟨key, content⟩ := entry
      obtain ⟨present, rfl⟩ := names.texts (key, content) (by simp)
      obtain ⟨fresh, distinct⟩ := List.nodup_cons.mp names.distinct
      have rest := ih ⟨fun entry member => names.texts entry (by simp [member]), distinct⟩
      by_cases same : present = name
      · subst same
        have absent : (Value.text present, value) ∉ entries := by
          intro member
          exact fresh (List.mem_map.mpr ⟨_, member, rfl⟩)
        simp [ entry?, absent, eq_comm]
      · have other : entry? ((Value.text present, content) :: entries) name =
            entry? entries name := by
          simp [ entry?, same]
        rw [other, rest]
        simp [Ne.symm same]

/-- What is found under a name does not depend on the order of the entries. -/
theorem HasNames.entry?_perm {first second : List (Value × Value)} (names : HasNames first)
    (moved : List.Perm first second) (name : String) :
    entry? first name = entry? second name := by
  ext value
  rw [names.entry?_eq_some_iff, (names.perm moved).entry?_eq_some_iff, moved.mem_iff]

theorem canonicalEntries_eq_self {entries : List (Value × Value)}
    (flat : ∀ entry ∈ entries, entry.1.canonical = entry.1 ∧ entry.2.canonical = entry.2) :
    canonicalEntries entries = entries := by
  induction entries with
  | nil => rfl
  | cons entry entries ih =>
      obtain ⟨key, value⟩ := entry
      obtain ⟨keyEq, valueEq⟩ := flat (key, value) (by simp)
      rw [canonicalEntries, ih fun entry member => flat entry (by simp [member])]
      simp only at keyEq valueEq
      rw [keyEq, valueEq]

theorem entriesReadable_iff {depth : Nat} {entries : List (Value × Value)} :
    EntriesReadable depth entries ↔
      ∀ entry ∈ entries, entry.1.Readable depth ∧ entry.2.Readable depth := by
  induction entries with
  | nil => simp [EntriesReadable]
  | cons entry entries ih =>
      obtain ⟨key, value⟩ := entry
      simp [EntriesReadable, ih, and_assoc]

end Value

end Cbor

end SmpClient
