import Mathlib.Data.List.Induction
import SmpClient.Firmware.ImageSet
import SmpClient.Proofs.General

/-!
# Sets of images as maps

A set of images holds for each slot of each image index the image that was added last for it, unless
that was removed since, and it holds the images in the order in which they were added.  This is so after
any calls, whether the firmware files among them can be read or not.
-/

namespace SmpClient

namespace TargetImage

/-- The slot that an image is meant for, with its image index. -/
def place (image : TargetImage) : Nat × Nat :=
  (image.index, image.slot)

theorem isFor_iff {image : TargetImage} {index slot : Nat} :
    image.isFor index slot = true ↔ image.place = (index, slot) := by
  simp [isFor, place]

theorem place_of_ofFile {index slot : Nat} {data : Bytes} {image : TargetImage}
    (read : ofFile index slot data = .ok image) : image.place = (index, slot) := by
  unfold ofFile at read
  split at read
  · cases read
  · split at read
    · cases read
    · obtain rfl := Except.ok.inj read
      rfl

end TargetImage

namespace ImageSet

/-- A call that may change a set of images. -/
inductive Call
  | add (image : TargetImage)
  | addFile (index : Nat) (data : Bytes)
  | remove (index slot : Nat)

namespace Call

/-- The image that a call adds.  What is in the set does not matter for that. -/
def added? : Call → Option TargetImage
  | .add image => some image
  | .addFile index data => (TargetImage.ofFile index secondarySlot data).toOption
  | .remove _ _ => none

/-- The place that a call fills or clears. -/
def place? : Call → Option (Nat × Nat)
  | .add image => some image.place
  | .addFile index data =>
      (TargetImage.ofFile index secondarySlot data).toOption.map fun _ => (index, secondarySlot)
  | .remove index slot => some (index, slot)

theorem place?_of_added? {call : Call} {image : TargetImage} (added : call.added? = some image) :
    call.place? = some image.place := by
  cases call with
  | add other => exact congrArg (Option.map TargetImage.place) added
  | addFile index data =>
      rw [added?] at added
      cases read : TargetImage.ofFile index secondarySlot data with
      | error failure => simp [read, Except.toOption] at added
      | ok other =>
          obtain rfl : other = image := by simpa [read, Except.toOption] using added
          simp [place?, read, Except.toOption, TargetImage.place_of_ofFile read]
  | remove index slot => cases added

end Call

/-- The answer to a call, and the set after it.  A removal is answered with the image that was taken
out, and a file that cannot be read with an error. -/
def perform (set : ImageSet) : Call → Except Error (Option TargetImage) × ImageSet
  | .add image => (.ok none, set.add image)
  | .addFile index data =>
      match set.addFile index data with
      | .ok next => (.ok none, next)
      | .error failure => (.error failure, set)
  | .remove index slot => (.ok (set.remove index slot).1, (set.remove index slot).2)

/-- The set that an empty one becomes by calls. -/
def after (calls : List Call) : ImageSet :=
  calls.foldl (fun set call => (set.perform call).2) {}

theorem after_concat (calls : List Call) (call : Call) :
    after (calls ++ [call]) = ((after calls).perform call).2 := by
  rw [after, List.foldl_append]
  rfl

/-- A call adds the image, and no later one replaces or removes it. -/
def AddedLast (calls : List Call) (image : TargetImage) : Prop :=
  ∃ earlier call later, calls = earlier ++ call :: later ∧ call.added? = some image ∧
    ∀ other ∈ later, other.place? ≠ some image.place

/-- The first image is added for the last time before the second one is. -/
def AddedBefore (calls : List Call) (first second : TargetImage) : Prop :=
  ∃ earlier later, calls = earlier ++ later ∧ AddedLast earlier first ∧
    (∀ other ∈ later, other.place? ≠ some first.place) ∧ AddedLast later second

variable {call : Call} {calls later : List Call} {image first second : TargetImage} {set : ImageSet}

theorem addedLast_cons_iff :
    AddedLast (call :: later) image ↔
      (call.added? = some image ∧ ∀ other ∈ later, other.place? ≠ some image.place) ∨
        AddedLast later image := by
  constructor
  · rintro ⟨earlier, adding, rest, split, added, untouched⟩
    cases earlier with
    | nil =>
        obtain ⟨rfl, rfl⟩ := List.cons.inj split
        exact .inl ⟨added, untouched⟩
    | cons head earlier =>
        obtain ⟨rfl, rfl⟩ := List.cons.inj split
        exact .inr ⟨earlier, adding, rest, rfl, added, untouched⟩
  · rintro (⟨added, untouched⟩ | ⟨earlier, adding, rest, rfl, added, untouched⟩)
    · exact ⟨[], call, later, rfl, added, untouched⟩
    · exact ⟨call :: earlier, adding, rest, rfl, added, untouched⟩

theorem AddedBefore.cons (before : AddedBefore later first second) (call : Call) :
    AddedBefore (call :: later) first second := by
  obtain ⟨earlier, rest, rfl, addedFirst, untouched, addedSecond⟩ := before
  exact ⟨call :: earlier, rest, rfl, addedLast_cons_iff.mpr (.inr addedFirst), untouched,
    addedSecond⟩

/-! ## The images that calls leave -/

/-- The images that calls add and no later call replaces or removes, in the order of the calls. -/
def kept : List Call → List TargetImage
  | [] => []
  | call :: later =>
      call.added?.toList.filter (fun image => ∀ other ∈ later, other.place? ≠ some image.place) ++
        kept later

theorem kept_concat (calls : List Call) (call : Call) :
    kept (calls ++ [call]) =
      (kept calls).filter (fun image => call.place? ≠ some image.place) ++ call.added?.toList := by
  induction calls with
  | nil => simp [kept]
  | cons head calls ih =>
      rw [List.cons_append, kept, kept, ih, List.filter_append, List.append_assoc]
      congr 1
      rw [List.filter_filter]
      refine List.filter_congr fun image _ => ?_
      simp [or_imp, forall_and, and_comm]

theorem mem_kept_iff : image ∈ kept calls ↔ AddedLast calls image := by
  induction calls with
  | nil =>
      refine iff_of_false List.not_mem_nil ?_
      rintro ⟨earlier, call, later, split, -⟩
      simp at split
  | cons call calls ih =>
      rw [kept, List.mem_append, List.mem_filter, ih, addedLast_cons_iff, Option.mem_toList,
        decide_eq_true_eq]

theorem pairwise_kept (calls : List Call) : (kept calls).Pairwise (AddedBefore calls) := by
  induction calls with
  | nil => exact List.Pairwise.nil
  | cons call calls ih =>
      refine List.pairwise_append.mpr ⟨?_, ih.imp fun before => before.cons call, ?_⟩
      · -- a call adds one image at most
        cases added : call.added? with
        | none => exact List.Pairwise.nil
        | some image => exact (List.pairwise_singleton _ image).filter _
      · intro first firstMem second secondMem
        simp only [List.mem_filter, Option.mem_toList, decide_eq_true_eq] at firstMem
        obtain ⟨added, untouched⟩ := firstMem
        exact ⟨[call], calls, rfl, ⟨[], call, [], rfl, added, by simp⟩, untouched,
          mem_kept_iff.mp secondMem⟩

/-! ## What a call does to a set -/

theorem images_remove (distinct : (set.images.map TargetImage.place).Nodup) (index slot : Nat) :
    (set.remove index slot).2.images =
      set.images.filter fun image => image.place ≠ (index, slot) := by
  have same : (fun image : TargetImage => image.isFor index slot) =
      fun image => decide (image.place = (index, slot)) := by
    funext image
    rw [Bool.eq_iff_iff, TargetImage.isFor_iff, decide_eq_true_eq]
  rw [remove, same]
  exact List.eraseP_eq_filter_of_nodup_map distinct (index, slot)

theorem images_add (distinct : (set.images.map TargetImage.place).Nodup) (image : TargetImage) :
    (set.add image).images =
      (set.images.filter fun other => other.place ≠ image.place) ++ [image] :=
  congrArg (· ++ [image]) (images_remove distinct image.index image.slot)

theorem perform_addFile (set : ImageSet) (index : Nat) (data : Bytes) :
    set.perform (.addFile index data) =
      match TargetImage.ofFile index secondarySlot data with
      | .ok image => set.perform (.add image)
      | .error failure => (.error failure, set) := by
  simp only [perform, addFile]
  cases TargetImage.ofFile index secondarySlot data <;> rfl

/-- Every call clears its place, and then fills it if it adds an image. -/
theorem images_perform (distinct : (set.images.map TargetImage.place).Nodup) (call : Call) :
    (set.perform call).2.images =
      set.images.filter (fun image => call.place? ≠ some image.place) ++ call.added?.toList := by
  have added (image : TargetImage) : (set.perform (.add image)).2.images =
      set.images.filter (fun other => some image.place ≠ some other.place) ++ [image] := by
    rw [perform, images_add distinct]
    simp [eq_comm]
  cases call with
  | add image => exact added image
  | addFile index data =>
      rw [perform_addFile, Call.place?, Call.added?]
      cases read : TargetImage.ofFile index secondarySlot data with
      | ok image =>
          rw [Except.toOption, Option.map_some, ← TargetImage.place_of_ofFile read]
          exact added image
      | error failure => simp [Except.toOption]
  | remove index slot =>
      rw [perform, images_remove distinct, Call.place?, Call.added?]
      simp [eq_comm]

theorem nodup_perform (distinct : (set.images.map TargetImage.place).Nodup) (call : Call) :
    ((set.perform call).2.images.map TargetImage.place).Nodup := by
  rw [images_perform distinct, List.map_append]
  refine List.nodup_append.mpr ⟨distinct.sublist (List.filter_sublist.map _), ?_, ?_⟩
  · cases call.added? <;> simp
  · intro place placeMem other otherMem equal
    obtain ⟨image, imageMem, rfl⟩ := List.mem_map.mp placeMem
    obtain ⟨new, newMem, rfl⟩ := List.mem_map.mp otherMem
    have untouched := (List.mem_filter.mp imageMem).2
    rw [decide_eq_true_eq, Call.place?_of_added? (Option.mem_toList.mp newMem), equal] at untouched
    exact untouched rfl

theorem nodup_after (calls : List Call) : ((after calls).images.map TargetImage.place).Nodup := by
  induction calls using List.reverseRecOn with
  | nil => exact List.nodup_nil
  | append_singleton calls call ih =>
      rw [after_concat]
      exact nodup_perform ih call

theorem images_after (calls : List Call) : (after calls).images = kept calls := by
  induction calls using List.reverseRecOn with
  | nil => rfl
  | append_singleton calls call ih =>
      rw [after_concat, images_perform (nodup_after calls), ih, kept_concat]

/-! ## Maps by place -/

/-- A set is a map of places to the images that were added last for them, by the time of that. -/
structure Mirrors (calls : List Call) (set : ImageSet) : Prop where
  distinct : (set.images.map TargetImage.place).Nodup
  holds : ∀ image, image ∈ set.images ↔ AddedLast calls image
  ordered : set.images.Pairwise (AddedBefore calls)

/-- A removal answers with the image of its place and takes out that image only. -/
def Removes (set : ImageSet) (index slot : Nat) : Prop :=
  ∃ before removed behind,
    set.perform (.remove index slot) = (.ok removed, ⟨before ++ behind⟩) ∧
      set.images = before ++ removed.toList ++ behind ∧
      (∀ image ∈ removed, image.place = (index, slot)) ∧
      ∀ image ∈ before ++ behind, image.place ≠ (index, slot)

/-- How calls are answered.  Only a file can fail, whatever the set, and then the set stays. -/
structure Answers (set : ImageSet) : Prop where
  removes : ∀ index slot, set.Removes index slot
  fails_iff : ∀ call failure, (set.perform call).1 = .error failure ↔
    ∃ index data, call = .addFile index data ∧
      TargetImage.ofFile index secondarySlot data = .error failure
  stays : ∀ call failure, (set.perform call).1 = .error failure → (set.perform call).2 = set

theorem removes_of_nodup (distinct : (set.images.map TargetImage.place).Nodup) (index slot : Nat) :
    set.Removes index slot := by
  have left (image : TargetImage) (member : image ∈ (set.remove index slot).2.images) :
      image.place ≠ (index, slot) := by
    rw [images_remove distinct] at member
    simpa using (List.mem_filter.mp member).2
  cases found : set.images.find? (·.isFor index slot) with
  | none =>
      have absent := List.find?_eq_none.mp found
      have removed : set.remove index slot = (none, set) := by
        rw [remove, found, List.eraseP_of_forall_not absent]
      rw [removed] at left
      refine ⟨set.images, none, [], ?_, by simp, by simp, by simpa using left⟩
      rw [perform, removed, List.append_nil]
  | some image =>
      obtain ⟨own, before, behind, split, earlier⟩ := List.find?_eq_some_iff_append.mp found
      have removed : set.remove index slot = (some image, ⟨before ++ behind⟩) := by
        have erased : (before ++ image :: behind).eraseP (·.isFor index slot) = before ++ behind := by
          rw [List.eraseP_append_right _ (by simpa using earlier)]
          exact congrArg (before ++ ·) (List.eraseP_cons_of_pos own)
        rw [remove, found, split, erased]
      rw [removed] at left
      refine ⟨before, some image, behind, by rw [perform, removed], by simp [split], ?_, left⟩
      rintro other ⟨⟩
      exact TargetImage.isFor_iff.mp own

theorem perform_eq_error_iff {failure : Error} :
    (set.perform call).1 = .error failure ↔
      ∃ index data, call = .addFile index data ∧
        TargetImage.ofFile index secondarySlot data = .error failure := by
  cases call with
  | add image => simp [perform]
  | remove index slot => simp [perform]
  | addFile index data =>
      rw [perform_addFile]
      cases read : TargetImage.ofFile index secondarySlot data with
      | ok image => simp [perform, read]
      | error cause => simp [read]

theorem perform_of_error {failure : Error} (failed : (set.perform call).1 = .error failure) :
    (set.perform call).2 = set := by
  obtain ⟨index, data, rfl, unread⟩ := perform_eq_error_iff.mp failed
  rw [perform_addFile, unread]

/-- After any calls on an empty set, the set holds the images that were added last for their places and
not removed since, one for a place and by the time they were added.  A removal answers with the image
that it takes out, and a file that cannot be read changes nothing. -/
theorem keeps_latest (calls : List Call) : Mirrors calls (after calls) ∧ Answers (after calls) := by
  have distinct := nodup_after calls
  refine ⟨⟨distinct, fun image => ?_, ?_⟩, ⟨removes_of_nodup distinct, ?_, ?_⟩⟩
  · rw [images_after, mem_kept_iff]
  · rw [images_after]
    exact pairwise_kept calls
  · exact fun call failure => perform_eq_error_iff
  · exact fun call failure failed => perform_of_error failed

/-- An image that is added again moves behind the others. -/
example :
    after [.add ⟨0, 1, [1], [7]⟩, .add ⟨1, 1, [2], [8]⟩, .addFile 2 [], .add ⟨0, 0, [3], [9]⟩,
        .add ⟨0, 1, [4], [10]⟩, .remove 1 1] =
      ⟨[⟨0, 0, [3], [9]⟩, ⟨0, 1, [4], [10]⟩]⟩ := by
  decide

end ImageSet

end SmpClient
