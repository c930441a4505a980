import Mathlib
import BlitReel.Manifest.Basic

/-!
# Recording frames in any order

A builder holds one name for each index that it was told (`Distinct`), the one it was told last
(`name?_record`). Sorted by index, the names do not depend on how they came in: two builders that hold
the same name for every index build the same manifest (`build_eq_of_name?`).
-/

namespace BlitReel.Manifest.Builder

variable {b b' : Builder} {i j : Int64} {name : Octets} {calls : List (Int64 × Octets)}

/-- The name that is held for an index. -/
def name? (b : Builder) (i : Int64) : Option Octets := b.names.lookup i

/-- No index is held twice. -/
def Distinct (b : Builder) : Prop := (b.names.map (·.1)).Nodup

/-! One call. -/

theorem lookup_filter_other (names : List (Int64 × Octets)) (other : j ≠ i) :
    (names.filter (·.1 != i)).lookup j = names.lookup j := by
  induction names with
  | nil => rfl
  | cons e names ih =>
    rw [List.filter_cons]
    split
    · rw [List.lookup_cons, List.lookup_cons, ih]
    · rename_i gone
      have miss : (j == e.1) = false := by
        have same : e.1 = i := by simpa using gone
        simpa [same] using other
      rw [ih, List.lookup_cons, miss]

theorem name?_set (b : Builder) (i j : Int64) (name : Octets) :
    (b.set i name).name? j = if j = i then some name else b.name? j := by
  rw [name?, set, List.lookup_cons]
  by_cases same : j = i
  · simp [same]
  · have miss : (j == i) = false := by simpa using same
    simp only [miss, if_neg same, lookup_filter_other b.names same, name?]

theorem Distinct.set (h : b.Distinct) (i : Int64) (name : Octets) : (b.set i name).Distinct := by
  rw [Distinct, Builder.set, List.map_cons, List.nodup_cons]
  refine ⟨by simp, ?_⟩
  exact List.Nodup.sublist (List.filter_sublist.map _) h

theorem Distinct.mem_names_iff (h : b.Distinct) : (i, name) ∈ b.names ↔ b.name? i = some name := by
  rw [name?, List.lookup_eq_some_iff]
  constructor
  · intro mem
    obtain ⟨front, back, split⟩ := List.append_of_mem mem
    refine ⟨front, back, split, fun e inFront => ?_⟩
    rw [Distinct, split, List.map_append, List.map_cons, List.nodup_append] at h
    rw [bne_iff_ne]
    exact fun same => h.2.2 e.1 (List.mem_map_of_mem inFront) i (by simp) same.symm
  · rintro ⟨front, back, split, -⟩
    simp [split]

/-! Any number of calls. -/

/-- Names recorded one after the other. -/
def record (b : Builder) (calls : List (Int64 × Octets)) : Builder := calls.foldl (fun b c => b.set c.1 c.2) b

/-- The last name that calls give an index. -/
def latest? (calls : List (Int64 × Octets)) (i : Int64) : Option Octets := calls.reverse.lookup i

theorem name?_record (b : Builder) (calls : List (Int64 × Octets)) (i : Int64) :
    (b.record calls).name? i = (latest? calls i).or (b.name? i) := by
  induction calls generalizing b with
  | nil => rfl
  | cons c calls ih =>
    have first : (b.set c.1 c.2).name? i = ([c].lookup i).or (b.name? i) := by
      rw [name?_set, List.lookup_cons, List.lookup_nil]
      by_cases same : i = c.1
      · simp [same]
      · have miss : (i == c.1) = false := by simpa using same
        rw [miss, if_neg same, Option.none_or]
    calc ((b.set c.1 c.2).record calls).name? i
        = (latest? calls i).or ((b.set c.1 c.2).name? i) := ih _
      _ = ((latest? calls i).or ([c].lookup i)).or (b.name? i) := by rw [first, Option.or_assoc]
      _ = (latest? (c :: calls) i).or (b.name? i) := by rw [latest?, latest?, List.reverse_cons, List.lookup_append]

theorem Distinct.record (h : b.Distinct) (calls : List (Int64 × Octets)) : (b.record calls).Distinct := by
  induction calls generalizing b with
  | nil => exact h
  | cons c calls ih => exact ih (h.set c.1 c.2)

theorem settings_record (b : Builder) (calls : List (Int64 × Octets)) :
    (b.record calls).geometry = b.geometry ∧ (b.record calls).fps = b.fps ∧ (b.record calls).slug = b.slug := by
  induction calls generalizing b with
  | nil => exact ⟨rfl, rfl, rfl⟩
  | cons c calls ih => exact ih (b.set c.1 c.2)

theorem isSome_latest?_iff : (latest? calls i).isSome = true ↔ i ∈ calls.map (·.1) := by
  simp only [latest?, List.lookup_isSome_iff, List.mem_reverse, beq_iff_eq, List.mem_map]
  exact exists_congr fun e => and_congr_right fun _ => eq_comm

/-- Calls for different indices give each its name in whatever order they come. -/
theorem latest?_eq_some_iff (distinct : (calls.map (·.1)).Nodup) :
    latest? calls i = some name ↔ (i, name) ∈ calls := by
  have reversed : (calls.reverse.map (·.1)).Nodup := by
    rw [List.map_reverse]
    exact List.nodup_reverse.2 distinct
  have held : (i, name) ∈ calls.reverse ↔ latest? calls i = some name :=
    Distinct.mem_names_iff (b := ⟨default, 0, [], calls.reverse⟩) reversed
  rw [← held, List.mem_reverse]

/-! The order of the manifest. -/

/-- What is held, by index. -/
def sorted (b : Builder) : List (Int64 × Octets) := b.names.mergeSort fun x y => x.1.toInt ≤ y.1.toInt

theorem ordered_eq_map (b : Builder) : b.ordered = b.sorted.map (·.2) := rfl

theorem perm_sorted (b : Builder) : b.sorted.Perm b.names := List.mergeSort_perm _ _

theorem pairwise_sorted (b : Builder) : b.sorted.Pairwise fun x y => x.1.toInt ≤ y.1.toInt := by
  have merged := @List.pairwise_mergeSort _ (fun x y : Int64 × Octets => decide (x.1.toInt ≤ y.1.toInt))
    (by simp only [decide_eq_true_eq]; omega) (by simp only [Bool.or_eq_true, decide_eq_true_eq]; omega) b.names
  exact merged.imp fun {x y} le => of_decide_eq_true le

theorem Distinct.ascending (h : b.Distinct) : b.sorted.Pairwise fun x y => x.1.toInt < y.1.toInt := by
  have apart : (b.sorted.map (·.1)).Nodup := ((b.perm_sorted.map _).nodup_iff).2 h
  rw [List.Nodup, List.pairwise_map] at apart
  refine (b.pairwise_sorted.and apart).imp fun {x y} ⟨le, ne⟩ => ?_
  exact lt_of_le_of_ne le fun same => ne (Int64.toInt_inj.1 same)

/-- There is one way to put names in ascending order. -/
theorem sorted_eq {names : List (Int64 × Octets)} (perm : b.names.Perm names)
    (ascending : names.Pairwise fun x y => x.1.toInt < y.1.toInt) : b.sorted = names := by
  have distinct : (names.map (·.1)).Nodup := by
    rw [List.Nodup, List.pairwise_map]
    exact ascending.imp fun {x y} lt same => lt.ne (by rw [same])
  refine List.Perm.eq_of_pairwise ?_ b.pairwise_sorted (ascending.imp le_of_lt) (b.perm_sorted.trans perm)
  intro x y mem mem' le ge
  have mem := (b.perm_sorted.trans perm).subset mem
  exact List.inj_on_of_nodup_map distinct mem mem' (Int64.toInt_inj.1 (le_antisymm le ge))

theorem size_eq (b : Builder) : b.size = b.build.frames.length := by
  simp [build, ordered, size]

/-- Two builders that hold the same name for every index build the same manifest. -/
theorem build_eq_of_name? (distinct : b.Distinct) (distinct' : b'.Distinct) (same : ∀ i, b'.name? i = b.name? i)
    (geometry : b'.geometry = b.geometry) (fps : b'.fps = b.fps) (slug : b'.slug = b.slug) : b'.build = b.build := by
  have perm : b'.names.Perm b.names := by
    rw [List.perm_ext_iff_of_nodup distinct'.of_map distinct.of_map]
    rintro ⟨i, name⟩
    rw [distinct'.mem_names_iff, distinct.mem_names_iff, same]
  have sorted : b'.sorted = b.sorted := sorted_eq (perm.trans b.perm_sorted.symm) distinct.ascending
  have ordered : b'.ordered = b.ordered := by rw [ordered_eq_map, ordered_eq_map, sorted]
  have size : b'.size = b.size := perm.length_eq
  rw [build, build, geometry, fps, slug, ordered, size]

section Fresh

variable (empty : b.names = []) (calls : List (Int64 × Octets))

include empty

theorem distinct_record : (b.record calls).Distinct := by
  apply Distinct.record
  simp [Distinct, empty]

theorem name?_record_fresh (i : Int64) : (b.record calls).name? i = latest? calls i := by
  rw [name?_record, name?, empty, List.lookup_nil, Option.or_none]

theorem mem_indices_iff : i ∈ (b.record calls).names.map (·.1) ↔ i ∈ calls.map (·.1) := by
  have told : i ∈ calls.map (·.1) ↔ (latest? calls i).isSome = true := isSome_latest?_iff.symm
  rw [told, ← name?_record_fresh empty calls, name?, List.lookup_isSome_iff]
  simp only [beq_iff_eq, List.mem_map]
  exact exists_congr fun e => and_congr_right fun _ => eq_comm

theorem size_record : (b.record calls).size = (calls.map (·.1)).toFinset.card := by
  have same : (calls.map (·.1)).toFinset = ((b.record calls).names.map (·.1)).toFinset := by
    ext i
    rw [List.mem_toFinset, List.mem_toFinset, mem_indices_iff empty]
  rw [same, List.toFinset_card_of_nodup (distinct_record empty calls), List.length_map, size]

/-- The names by index are the last names of the indices in ascending order. -/
theorem ordered_record : ∃ indices : List Int64, indices.Pairwise (fun i j => i.toInt < j.toInt) ∧
    (∀ i, i ∈ indices ↔ i ∈ calls.map (·.1)) ∧
    (b.record calls).ordered.map some = indices.map (latest? calls) := by
  have distinct := distinct_record empty calls
  refine ⟨(b.record calls).sorted.map (·.1), ?_, fun i => ?_, ?_⟩
  · rw [List.pairwise_map]
    exact distinct.ascending
  · rw [((b.record calls).perm_sorted.map _).mem_iff, mem_indices_iff empty]
  · rw [ordered_eq_map, List.map_map, List.map_map]
    refine List.map_congr_left fun e mem => ?_
    have held := distinct.mem_names_iff.1 ((b.record calls).perm_sorted.subset mem)
    rw [Function.comp_apply, Function.comp_apply, ← held, name?_record_fresh empty]

theorem build_record_eq {calls calls' : List (Int64 × Octets)} (same : ∀ i, latest? calls' i = latest? calls i) :
    (b.record calls').build = (b.record calls).build := by
  obtain ⟨geometry, fps, slug⟩ := b.settings_record calls
  obtain ⟨geometry', fps', slug'⟩ := b.settings_record calls'
  apply build_eq_of_name? (distinct_record empty calls) (distinct_record empty calls')
  · intro i
    rw [name?_record_fresh empty, name?_record_fresh empty, same]
  · rw [geometry', geometry]
  · rw [fps', fps]
  · rw [slug', slug]

end Fresh

/-- **The last name of every index, by index.** However a new builder is told names, its size is the number of
different indices, and its manifest lists, in strictly ascending order of these indices, the last name that each
was given, and counts them. So calls that leave the same last names build the same manifest, and calls for
different indices do so in every order. -/
theorem build_record (empty : b.names = []) (calls : List (Int64 × Octets)) :
    (b.record calls).size = (calls.map (·.1)).toFinset.card ∧
    (∃ indices : List Int64, indices.Pairwise (fun i j => i.toInt < j.toInt) ∧
      (∀ i, i ∈ indices ↔ i ∈ calls.map (·.1)) ∧
      (b.record calls).build.frames.map some = indices.map (latest? calls)) ∧
    (b.record calls).build.frames.length = (b.record calls).size ∧
    (b.record calls).build.frameCount = Int64.ofNat (b.record calls).size ∧
    ((b.record calls).size < 2 ^ 63 → (b.record calls).build.frameCount.toInt = (b.record calls).size) ∧
    (∀ calls' : List (Int64 × Octets), (∀ i, latest? calls' i = latest? calls i) →
      (b.record calls').build = (b.record calls).build) ∧
    (∀ calls' : List (Int64 × Octets), calls'.Perm calls → (calls.map (·.1)).Nodup →
      (b.record calls').build = (b.record calls).build) := by
  refine ⟨size_record empty calls, ordered_record empty calls, (size_eq _).symm, rfl, fun small => ?_, fun calls' same => ?_,
    fun calls' perm distinct => ?_⟩
  · exact Int64.toInt_ofNat_of_lt small
  · exact build_record_eq empty same
  · have distinct' : (calls'.map (·.1)).Nodup := ((perm.map _).nodup_iff).2 distinct
    refine build_record_eq empty fun i => Option.ext fun name => ?_
    rw [latest?_eq_some_iff distinct', latest?_eq_some_iff distinct, perm.mem_iff]

/-- Frames recorded out of order, one of them twice and one before the first. -/
def jumbled : List (Int64 × Octets) := [(3, [0x63]), (-1, [0x78]), (1, [0x61]), (3, [0x64])]

/-- Three frames are listed, the third under its later name, and so they are when they come in order. -/
theorem build_record_jumbled :
    (record ⟨⟨1, 1⟩, 10, [], []⟩ jumbled).size = 3 ∧
    (record ⟨⟨1, 1⟩, 10, [], []⟩ jumbled).build.frames = [[0x78], [0x61], [0x64]] ∧
    (record ⟨⟨1, 1⟩, 10, [], []⟩ [(-1, [0x78]), (1, [0x61]), (3, [0x64])]).build =
      (record ⟨⟨1, 1⟩, 10, [], []⟩ jumbled).build := by
  obtain ⟨size, ⟨indices, ascending, mem, frames⟩, -, -, -, same, -⟩ :=
    build_record (b := ⟨⟨1, 1⟩, 10, [], []⟩) rfl jumbled
  have order : indices = [-1, 1, 3] := by
    refine List.Perm.eq_of_pairwise (fun i j _ _ lt gt => absurd lt gt.asymm) ascending (by decide) ?_
    rw [List.perm_ext_iff_of_nodup (ascending.imp fun lt same => lt.ne (by rw [same])) (by decide)]
    intro i
    rw [mem]
    simp only [jumbled, List.map_cons, List.map_nil, List.mem_cons, List.not_mem_nil, or_false]
    tauto
  refine ⟨size.trans (by decide), ?_, same _ fun i => ?_⟩
  · rw [order] at frames
    exact List.map_injective_iff.2 (Option.some_injective _) (frames.trans (by decide))
  · simp only [latest?, jumbled, List.reverse_cons, List.reverse_nil, List.nil_append, List.cons_append,
      List.lookup_cons, List.lookup_nil]
    by_cases third : i = 3
    · simp [third]
    · have miss : (i == 3) = false := by simpa using third
      simp only [miss]

end BlitReel.Manifest.Builder
