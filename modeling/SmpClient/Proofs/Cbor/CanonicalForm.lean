import SmpClient.Proofs.Cbor.Entries
import Mathlib.Order.Compare

/-!
# Canonical form

Keys are in lexicographic order of their major type, size and content.  Putting an entry in its
place keeps entries in strictly ascending order, so a value in canonical form stays as it is when
it is put in canonical form once more, and so does a map in canonical form that takes one more
entry.
-/

namespace SmpClient

theorem Bytes.compareWith_eq_compare (first second : Bytes) :
    compareWith first second = compare first second := by
  induction first generalizing second with
  | nil => cases second <;> rfl
  | cons byte bytes ih =>
      cases second with
      | nil => rfl
      | cons other others => rw [compareWith, List.compare_cons_cons, ih]

namespace Cbor

namespace Value

/-- What decides between keys of one major type. -/
def keySize : Value → Nat
  | .int number => number.natAbs
  | .bytes content => content.length
  | .text content => (Bytes.ofText content).length
  | .array items => items.length
  | .map entries => entries.length
  | .null | .bool _ | .float _ => 0

/-- What decides between keys of one major type and size. -/
def keyContent : Value → Bytes
  | .int _ => []
  | .bytes content => content
  | .text content => Bytes.ofText content
  | value => value.encode

theorem compareKey_eq_compareLex : compareKey =
    compareLex (compareOn major) (compareLex (compareOn keySize) (compareOn keyContent)) := by
  funext first second
  simp only [compareLex, compareOn, compareKey]
  cases majors : compare first.major second.major with
  | lt => rfl
  | gt => rfl
  | eq =>
      have same : first.major = second.major := Nat.compare_eq_eq.mp majors
      simp only [Ordering.eq_then, ← Bytes.compareWith_eq_compare]
      -- Keys of one major type are of one kind, or simple values, which have no size.
      rcases first with _ | _ | (_ | _) | _ | _ | _ | _ | _ <;>
        rcases second with _ | _ | (_ | _) | _ | _ | _ | _ | _ <;>
        simp [major] at same <;> simp [keySize, keyContent, Bytes.compareWith]

instance : Std.TransCmp compareKey := by
  rw [compareKey_eq_compareLex]
  infer_instance

/-- Entries have only keys and values that were there before or that were put among them. -/
theorem forall_mem_insertEntry (onKey onValue : Value → Prop) {key value : Value}
    {entries : List (Value × Value)} (ofKey : onKey key) (ofValue : onValue value)
    (ofEntries : ∀ entry ∈ entries, onKey entry.1 ∧ onValue entry.2) :
    ∀ entry ∈ insertEntry key value entries, onKey entry.1 ∧ onValue entry.2 := by
  induction entries with
  | nil => simpa [insertEntry] using ⟨ofKey, ofValue⟩
  | cons present rest ih =>
      obtain ⟨ofPresent, ofRest⟩ := List.forall_mem_cons.mp ofEntries
      rw [insertEntry]
      split
      · exact List.forall_mem_cons.mpr ⟨⟨ofKey, ofValue⟩, ofEntries⟩
      · exact List.forall_mem_cons.mpr ⟨⟨ofPresent.1, ofValue⟩, ofRest⟩
      · exact List.forall_mem_cons.mpr ⟨ofPresent, ih ofRest⟩

theorem forall_mem_sortEntries (onKey onValue : Value → Prop) {entries : List (Value × Value)}
    (ofEntries : ∀ entry ∈ entries, onKey entry.1 ∧ onValue entry.2) :
    ∀ entry ∈ sortEntries entries, onKey entry.1 ∧ onValue entry.2 := by
  refine List.foldlRecOn (motive := fun sorted : List (Value × Value) =>
    ∀ entry ∈ sorted, onKey entry.1 ∧ onValue entry.2) entries _ (List.forall_mem_nil _) ?_
  intro sorted ofSorted entry member
  obtain ⟨ofKey, ofValue⟩ := ofEntries entry member
  exact forall_mem_insertEntry onKey onValue ofKey ofValue ofSorted

theorem length_insertEntry_le (key value : Value) (entries : List (Value × Value)) :
    (insertEntry key value entries).length ≤ entries.length + 1 := by
  induction entries with
  | nil => rfl
  | cons present rest ih =>
      rw [insertEntry]
      split
      · rfl
      · exact Nat.le_succ _
      · exact Nat.succ_le_succ ih

theorem length_sortEntries_le (entries : List (Value × Value)) :
    (sortEntries entries).length ≤ entries.length := by
  induction entries using List.reverseRecOn with
  | nil => rfl
  | append_singleton entries entry ih =>
      rw [sortEntries, List.foldl_concat, List.length_append]
      exact (length_insertEntry_le _ _ _).trans (Nat.succ_le_succ ih)

/-- Entries in strictly ascending order of their keys. -/
def Ascending (entries : List (Value × Value)) : Prop :=
  entries.Pairwise fun first second => first.1.compareKey second.1 = .lt

theorem Ascending.insertEntry {entries : List (Value × Value)} (ascending : Ascending entries)
    (key value : Value) : Ascending (insertEntry key value entries) := by
  induction entries with
  | nil => exact List.pairwise_singleton _ _
  | cons entry rest ih =>
      obtain ⟨present, old⟩ := entry
      obtain ⟨before, ascendingRest⟩ := List.pairwise_cons.mp ascending
      rw [Value.insertEntry]
      cases order : key.compareKey present with
      | lt =>
          refine List.pairwise_cons.mpr ⟨?_, ascending⟩
          refine List.forall_mem_cons.mpr ⟨order, ?_⟩
          intro entry member
          exact Std.TransCmp.lt_trans order (before entry member)
      | eq => exact List.pairwise_cons.mpr ⟨before, ascendingRest⟩
      | gt =>
          have precedes : present.compareKey key = .lt := Std.OrientedCmp.gt_iff_lt.mp order
          have beforeAll : ∀ entry ∈ Value.insertEntry key value rest,
              present.compareKey entry.1 = .lt ∧ True :=
            forall_mem_insertEntry (present.compareKey · = .lt) (fun _ => True) precedes trivial
              fun entry member => ⟨before entry member, trivial⟩
          exact List.pairwise_cons.mpr
            ⟨fun entry member => (beforeAll entry member).1, ih ascendingRest⟩

theorem ascending_sortEntries (entries : List (Value × Value)) :
    Ascending (sortEntries entries) :=
  List.foldlRecOn entries _ List.Pairwise.nil fun _ ascending entry _ =>
    ascending.insertEntry entry.1 entry.2

/-- An entry whose key comes last is put at the end. -/
theorem insertEntry_of_forall_lt {entries : List (Value × Value)} {key : Value} (value : Value)
    (last : ∀ entry ∈ entries, entry.1.compareKey key = .lt) :
    insertEntry key value entries = entries ++ [(key, value)] := by
  induction entries with
  | nil => rfl
  | cons entry rest ih =>
      obtain ⟨present, old⟩ := entry
      obtain ⟨precedes, lastRest⟩ := List.forall_mem_cons.mp last
      have order : key.compareKey present = .gt := Std.OrientedCmp.gt_iff_lt.mpr precedes
      simp only [insertEntry, order, ih lastRest, List.cons_append]

theorem Ascending.sortEntries_eq_self {entries : List (Value × Value)}
    (ascending : Ascending entries) : sortEntries entries = entries := by
  induction entries using List.reverseRecOn with
  | nil => rfl
  | append_singleton entries entry ih =>
      obtain ⟨ascendingBefore, -, last⟩ := List.pairwise_append.mp ascending
      rw [sortEntries, List.foldl_concat, ← sortEntries, ih ascendingBefore]
      exact insertEntry_of_forall_lt entry.2 fun other member => last other member entry (by simp)

mutual

@[simp]
theorem canonical_canonical (value : Value) : value.canonical.canonical = value.canonical := by
  cases value with
  | array items => rw [canonical, canonical, canonicalItems_canonicalItems]
  | map entries =>
      have flat := forall_mem_sortEntries (fun key => key.canonical = key)
        (fun value => value.canonical = value) (canonical_of_mem_canonicalEntries entries)
      rw [canonical, canonical, canonicalEntries_eq_self flat,
        (ascending_sortEntries _).sortEntries_eq_self]
  | _ => simp only [canonical]

theorem canonicalItems_canonicalItems (items : List Value) :
    canonicalItems (canonicalItems items) = canonicalItems items := by
  cases items with
  | nil => rfl
  | cons item rest =>
      rw [canonicalItems, canonicalItems, canonical_canonical, canonicalItems_canonicalItems]

theorem canonical_of_mem_canonicalEntries (entries : List (Value × Value)) :
    ∀ entry ∈ canonicalEntries entries,
      entry.1.canonical = entry.1 ∧ entry.2.canonical = entry.2 := by
  cases entries with
  | nil => simp [canonicalEntries]
  | cons entry rest =>
      exact List.forall_mem_cons.mpr ⟨⟨canonical_canonical entry.1, canonical_canonical entry.2⟩,
        canonical_of_mem_canonicalEntries rest⟩

end

/-- A map is in canonical form when its keys ascend and all it holds is in canonical form. -/
theorem canonical_map_eq_self_iff {entries : List (Value × Value)} :
    (Value.map entries).canonical = .map entries ↔
      Ascending entries ∧
        ∀ entry ∈ entries, entry.1.canonical = entry.1 ∧ entry.2.canonical = entry.2 := by
  rw [canonical, Value.map.injEq]
  constructor
  · intro sorted
    rw [← sorted]
    exact ⟨ascending_sortEntries _, forall_mem_sortEntries (fun key => key.canonical = key)
      (fun value => value.canonical = value) (canonical_of_mem_canonicalEntries entries)⟩
  · rintro ⟨ascending, flat⟩
    rw [canonicalEntries_eq_self flat, ascending.sortEntries_eq_self]

theorem canonical_map_insertEntry {key value : Value} {entries : List (Value × Value)}
    (settled : (Value.map entries).canonical = .map entries) (keyEq : key.canonical = key)
    (valueEq : value.canonical = value) :
    (Value.map (insertEntry key value entries)).canonical =
      .map (insertEntry key value entries) := by
  obtain ⟨ascending, flat⟩ := canonical_map_eq_self_iff.mp settled
  exact canonical_map_eq_self_iff.mpr ⟨ascending.insertEntry key value,
    forall_mem_insertEntry (fun key => key.canonical = key) (fun value => value.canonical = value)
      keyEq valueEq flat⟩

theorem length_canonicalItems (items : List Value) :
    (canonicalItems items).length = items.length := by
  induction items with
  | nil => rfl
  | cons item rest ih => rw [canonicalItems, List.length_cons, ih, List.length_cons]

theorem length_canonicalEntries (entries : List (Value × Value)) :
    (canonicalEntries entries).length = entries.length := by
  induction entries with
  | nil => rfl
  | cons entry rest ih => rw [canonicalEntries, List.length_cons, ih, List.length_cons]

mutual

theorem Readable.canonical (value : Value) (depth : Nat) (readable : value.Readable depth) :
    value.canonical.Readable depth := by
  cases value with
  | array items =>
      obtain _ | depth := depth
      · simp [Readable] at readable
      obtain ⟨count, ofItems⟩ := by simpa only [Readable] using readable
      rw [Value.canonical, Readable, length_canonicalItems]
      exact ⟨count, ItemsReadable.canonical items depth ofItems⟩
  | map entries =>
      obtain _ | depth := depth
      · simp [Readable] at readable
      obtain ⟨count, ofEntries⟩ := by simpa only [Readable] using readable
      have fewer := length_sortEntries_le (canonicalEntries entries)
      rw [length_canonicalEntries] at fewer
      rw [Value.canonical, Readable]
      refine ⟨by omega, entriesReadable_iff.mpr ?_⟩
      exact forall_mem_sortEntries (Readable depth) (Readable depth)
        (entriesReadable_iff.mp (EntriesReadable.canonical entries depth ofEntries))
  | _ => simpa only [Value.canonical] using readable

theorem ItemsReadable.canonical (items : List Value) (depth : Nat)
    (readable : ItemsReadable depth items) : ItemsReadable depth (canonicalItems items) := by
  cases items with
  | nil => trivial
  | cons item rest =>
      obtain ⟨ofItem, ofRest⟩ := by simpa only [ItemsReadable] using readable
      exact ⟨Readable.canonical item depth ofItem, ItemsReadable.canonical rest depth ofRest⟩

theorem EntriesReadable.canonical (entries : List (Value × Value)) (depth : Nat)
    (readable : EntriesReadable depth entries) :
    EntriesReadable depth (canonicalEntries entries) := by
  cases entries with
  | nil => trivial
  | cons entry rest =>
      obtain ⟨ofKey, ofValue, ofRest⟩ := by simpa only [EntriesReadable] using readable
      exact ⟨Readable.canonical entry.1 depth ofKey, Readable.canonical entry.2 depth ofValue,
        EntriesReadable.canonical rest depth ofRest⟩

end

theorem readable_map_insertEntry {depth : Nat} {key value : Value}
    {entries : List (Value × Value)} (readable : (Value.map entries).Readable (depth + 1))
    (count : entries.length + 1 < 2 ^ 64) (ofKey : key.Readable depth)
    (ofValue : value.Readable depth) :
    (Value.map (insertEntry key value entries)).Readable (depth + 1) := by
  have longer := length_insertEntry_le key value entries
  refine ⟨by omega, entriesReadable_iff.mpr ?_⟩
  exact forall_mem_insertEntry (Readable depth) (Readable depth) ofKey ofValue
    (entriesReadable_iff.mp readable.2)

/-- The entries whose key is not the text `name`. -/
def withoutEntry (entries : List (Value × Value)) (name : String) : List (Value × Value) :=
  entries.filter fun
    | (.text key, _) => key ≠ name
    | _ => true

theorem entry?_cons_of_ne {name : String} {present old : Value} {rest : List (Value × Value)}
    (differs : present ≠ .text name) : entry? ((present, old) :: rest) name = entry? rest name := by
  cases present with
  | text key =>
      have : key ≠ name := fun same => differs (congrArg Value.text same)
      simp [ entry?, this]
  | _ => simp [ entry?]

theorem entry?_insertEntry_self (name : String) (value : Value) (entries : List (Value × Value)) :
    entry? (insertEntry (.text name) value entries) name = some value := by
  induction entries with
  | nil => simp [insertEntry, entry?]
  | cons entry rest ih =>
      obtain ⟨present, old⟩ := entry
      rw [insertEntry]
      cases order : (Value.text name).compareKey present with
      | lt => simp [ entry?]
      | eq =>
          obtain rfl := (compareKey_text_eq_eq name present).mp order
          simp [ entry?]
      | gt =>
          have differs : present ≠ .text name := by
            rintro rfl
            simp [(compareKey_text_eq_eq name _).mpr rfl] at order
          rw [entry?_cons_of_ne differs, ih]

/-- What is put under a name does not touch the entries under other keys. -/
theorem withoutEntry_insertEntry (name : String) (value : Value)
    (entries : List (Value × Value)) :
    withoutEntry (insertEntry (.text name) value entries) name = withoutEntry entries name := by
  induction entries with
  | nil => simp [insertEntry, withoutEntry]
  | cons entry rest ih =>
      obtain ⟨present, old⟩ := entry
      rw [insertEntry]
      cases order : (Value.text name).compareKey present with
      | lt => simp [withoutEntry]
      | eq =>
          obtain rfl := (compareKey_text_eq_eq name present).mp order
          simp [withoutEntry]
      | gt =>
          rw [withoutEntry, withoutEntry, List.filter_cons, List.filter_cons, ← withoutEntry, ih,
            withoutEntry]

end Value

end Cbor

end SmpClient
