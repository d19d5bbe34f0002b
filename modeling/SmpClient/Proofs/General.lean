import Mathlib.Data.List.Find
import Mathlib.Data.List.Nodup

/-!
# Lists, results and choices

What is true of any list that is searched or thinned out, of any result that may be a failure, and of any
choice between two values.
-/

namespace List

section

variable {α key : Type} {list : List α} {keyOf : α → key}

/-- Each match is the first one in some order of the list. -/
theorem exists_perm_find?_eq_some [DecidableEq α] (wanted : α → Bool) {item : α}
    (member : item ∈ list) (fits : wanted item = true) :
    ∃ other : List α, other.Perm list ∧ other.find? wanted = some item :=
  ⟨item :: list.erase item, (perm_cons_erase member).symm, find?_cons_of_pos fits⟩

/-- What holds of the first match in every order of a list holds of every match, and of none if there
is no match. -/
theorem forall_perm_find?_iff [DecidableEq α] (list : List α) (wanted : α → Bool)
    (holds : Option α → Prop) :
    (∀ other : List α, other.Perm list → holds (other.find? wanted)) ↔
      (∀ item ∈ list, wanted item = true → holds (some item)) ∧
        ((∀ item ∈ list, ¬ wanted item = true) → holds none) := by
  constructor
  · intro always
    refine ⟨fun item member fits => ?_, fun unmatched => ?_⟩
    · obtain ⟨other, perm, found⟩ := exists_perm_find?_eq_some wanted member fits
      exact found ▸ always other perm
    · exact find?_eq_none.mpr unmatched ▸ always list (Perm.refl list)
  · rintro ⟨matching, unmatched⟩ other perm
    cases found : other.find? wanted with
    | some item =>
        have member := perm.mem_iff.mp (mem_of_find?_eq_some found)
        exact matching item member (find?_some found)
    | none =>
        exact unmatched fun item member => find?_eq_none.mp found item (perm.mem_iff.mpr member)

/-- What a list has only once is found wherever it stands. -/
theorem find?_eq_some_of_nodup_map (once : (list.map keyOf).Nodup) {wanted : α → Bool} {item : α}
    (member : item ∈ list) (fits : wanted item = true)
    (same : ∀ other, wanted other = true → keyOf other = keyOf item) :
    list.find? wanted = some item := by
  cases found : list.find? wanted with
  | none => exact absurd fits (find?_eq_none.mp found item member)
  | some first =>
      have keyEq := same first (find?_some found)
      rw [inj_on_of_nodup_map once (mem_of_find?_eq_some found) member keyEq]

/-- Where a key is there only once, erasing the first item that has it leaves no other. -/
theorem eraseP_eq_filter_of_nodup_map [DecidableEq key] (once : (list.map keyOf).Nodup) (erased : key) :
    list.eraseP (fun item => keyOf item = erased) =
      list.filter fun item => keyOf item ≠ erased := by
  induction list with
  | nil => rfl
  | cons head list ih =>
      obtain ⟨fresh, once⟩ := nodup_cons.mp once
      by_cases own : keyOf head = erased
      · have others : ∀ item ∈ list, keyOf item ≠ erased := fun item member equal =>
          fresh (own ▸ equal ▸ mem_map_of_mem member)
        rw [eraseP_cons_of_pos (by simpa using own), filter_cons_of_neg (by simpa using own),
          filter_eq_self.mpr (by simpa using others)]
      · rw [eraseP_cons_of_neg (by simpa using own), filter_cons_of_pos (by simpa using own), ih once]

end

end List

namespace Except

variable {ε α β : Type}

theorem bind_eq_ok_iff {first : Except ε α} {next : α → Except ε β} {result : β} :
    (first >>= next) = .ok result ↔ ∃ value, first = .ok value ∧ next value = .ok result := by
  cases first with
  | error failure => simp [bind, Except.bind]
  | ok value => simp [bind, Except.bind]

theorem toOption_eq_some_iff {result : Except ε α} {value : α} :
    result.toOption = some value ↔ result = .ok value := by
  cases result with
  | error failure => simp [Except.toOption]
  | ok found => simp [Except.toOption]

end Except

theorem ite_eq_ite_iff {α : Type} {first second : Prop} [Decidable first] [Decidable second]
    {yes no : α} (differ : yes ≠ no) :
    (if first then yes else no) = (if second then yes else no) ↔ (first ↔ second) := by
  by_cases holds : first <;> by_cases holdsToo : second <;> simp [holds, holdsToo, differ, differ.symm]
