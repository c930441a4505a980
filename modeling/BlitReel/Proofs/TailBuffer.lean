import Mathlib
import BlitReel.TailBuffer

/-!
# What a tail buffer keeps

A tail buffer never knows what it was given before the octets that it keeps, and it need not: the end of what was
kept followed by a new piece is the end of everything followed by that piece (`rtake_append_rtake`). So after
each of any number of writes its content is the end of all that was written (`Keeps`), however the octets
were divided among the writes.
-/

namespace BlitReel

namespace TailBuffer

/-- Write pieces one after the other: what each write reports with the content after it, and the buffer at the end. -/
def writes (t : TailBuffer) : List Octets → Except Collapse (List (Nat × Octets) × TailBuffer)
  | [] => .ok ([], t)
  | p :: ps => do
    let (n, t) ← t.write p
    let (reports, final) ← t.writes ps
    return ((n, t.content) :: reports, final)

variable {t : TailBuffer} {limit : Int64} {all : Octets}

/-- The end of a sequence after which others follow is all of it that their end can show. -/
theorem rtake_append_rtake {α : Type} (xs ys : List α) (n : Nat) : (xs.rtake n ++ ys).rtake n = (xs ++ ys).rtake n := by
  simp only [List.rtake, List.length_append, List.length_drop, List.drop_append, List.drop_drop]
  congr 2 <;> omega

/-- The buffer holds the end of all octets written so far. -/
structure Keeps (limit : Int64) (all : Octets) (t : TailBuffer) : Prop where
  limit_eq : t.limit = limit
  content : t.content = all.rtake limit.toInt.toNat

theorem keeps_new (limit : Int64) : Keeps limit [] { limit } := ⟨rfl, (List.rtake_nil _).symm⟩

namespace Keeps

/-- A write appends to what was written so far; it reports the whole piece and never fails. -/
theorem write (h : Keeps limit all t) (nonneg : 0 ≤ limit) (p : Octets) :
    ∃ t', t.write p = .ok (p.length, t') ∧ Keeps limit (all ++ p) t' := by
  obtain ⟨rfl, content⟩ := h
  have bound : 0 ≤ t.limit.toInt := Int64.le_iff_toInt_le.1 nonneg
  have joined : (t.content ++ p).rtake t.limit.toInt.toNat = (all ++ p).rtake t.limit.toInt.toNat := by
    rw [content, rtake_append_rtake]
  unfold TailBuffer.write
  dsimp only
  split
  · rw [if_neg (Int64.not_lt.2 nonneg)]
    exact ⟨_, rfl, rfl, joined⟩
  · rename_i short
    refine ⟨_, rfl, rfl, ?_⟩
    -- All octets fit, and the end of that many is everything.
    have excess : (t.content ++ p).length - t.limit.toInt.toNat = 0 := by omega
    rw [← joined, List.rtake, excess, List.drop_zero]

/-- What the writes of pieces after `all` report, and what is kept after each. -/
theorem writes (h : Keeps limit all t) (nonneg : 0 ≤ limit) (ps : List Octets) :
    ∃ final, Keeps limit (all ++ ps.flatten) final ∧
      t.writes ps = .ok (ps.mapIdx fun i p =>
        (p.length, (all ++ (ps.take (i + 1)).flatten).rtake limit.toInt.toNat), final) := by
  induction ps generalizing all t with
  | nil => exact ⟨t, by simpa using h, rfl⟩
  | cons p ps ih =>
    obtain ⟨t', wrote, keeps⟩ := h.write nonneg p
    obtain ⟨final, keeps', rest⟩ := ih keeps
    refine ⟨final, by simpa using keeps', ?_⟩
    simp [TailBuffer.writes, wrote, rest, keeps.content, bind, Except.bind, pure, Except.pure]

/-- The octets and the limit determine the buffer. -/
theorem unique {t' : TailBuffer} (h : Keeps limit all t) (h' : Keeps limit all t') : t = t' := by
  cases t
  cases t'
  simp only [TailBuffer.mk.injEq]
  exact ⟨h.limit_eq.trans h'.limit_eq.symm, h.content.trans h'.content.symm⟩

end Keeps

/-- **A tail buffer keeps the end.** Whatever pieces are written to a new buffer, every write is reported in full,
and after it the content is the last `limit` octets of all that was written so far, or all octets as long as
there are no more. So the buffer at the end is the same for every other division of the same octets into
pieces. -/
theorem writes_keep_end (limit : Int64) (nonneg : 0 ≤ limit) (ps : List Octets) :
    ∃ final : TailBuffer,
      ({ limit } : TailBuffer).writes ps = .ok (ps.mapIdx fun i p =>
        let written := (ps.take (i + 1)).flatten
        (p.length, written.drop (written.length - min limit.toInt.toNat written.length)), final) ∧
      final.content = ps.flatten.drop (ps.flatten.length - min limit.toInt.toNat ps.flatten.length) ∧
      ∀ qs : List Octets, qs.flatten = ps.flatten →
        ∃ reports : List (Nat × Octets), ({ limit } : TailBuffer).writes qs = .ok (reports, final) := by
  have last (n : Nat) (xs : Octets) : xs.drop (xs.length - min n xs.length) = xs.rtake n := by
    rw [List.rtake]
    congr 1
    omega
  obtain ⟨final, keeps, wrote⟩ := (keeps_new limit).writes nonneg ps
  refine ⟨final, ?_, ?_, ?_⟩
  · simpa only [last, List.nil_append] using wrote
  · rw [last]
    exact keeps.content
  · intro qs same
    obtain ⟨final', keeps', wrote'⟩ := (keeps_new limit).writes nonneg qs
    rw [same] at keeps'
    rw [keeps.unique keeps']
    exact ⟨_, wrote'⟩

/-- With room for four octets: a piece that fits, one that pushes some out, an empty one, and one that is longer
than the buffer. -/
theorem writes_keep_end_overflowing :
    ∃ final : TailBuffer,
      ({ limit := 4 } : TailBuffer).writes [[1, 2, 3], [4, 5], [], [6, 7, 8, 9, 10]] =
        .ok ([(3, [1, 2, 3]), (2, [2, 3, 4, 5]), (0, [2, 3, 4, 5]), (5, [7, 8, 9, 10])], final) ∧
      final.content = [7, 8, 9, 10] ∧
      ∃ reports : List (Nat × Octets),
        ({ limit := 4 } : TailBuffer).writes [[1, 2, 3, 4, 5, 6, 7], [8, 9, 10]] = .ok (reports, final) := by
  obtain ⟨final, wrote, content, others⟩ := writes_keep_end 4 (by decide) [[1, 2, 3], [4, 5], [], [6, 7, 8, 9, 10]]
  exact ⟨final, wrote, content, others [[1, 2, 3, 4, 5, 6, 7], [8, 9, 10]] rfl⟩

end TailBuffer

end BlitReel
