import TraceWeave.Proofs.Decimal.Reading
import TraceWeave.Proofs.Frame
import TraceWeave.Trace

/-! What the fields of a row are read as: numbers, times and threads.

Each of the three readings is described by what the text writes, and what is described is what is
read (`readReal?_eq_some_iff`, `readNanoseconds?_eq_some_iff`, `readThread_eq_iff`). -/

namespace TraceWeave

open Binary64

def IsReal (text : String) : Prop := ∃ x, Numeral.WritesReal text.toList x

/-- The text writes a number of nanoseconds, and this is its part before the point. A number beyond
the 64-bit range counts as the end of the range that it is beyond. -/
def WritesTime (text : String) (ns : Int64) : Prop :=
  ∃ x, Numeral.WritesReal text.toList x ∧ ns.toInt =
    max Int64.minValue.toInt (min (x.scaled.tdiv unitsPerOne) Int64.maxValue.toInt)

/-- The thread that a text writes, which is the thread zero if it writes none. -/
inductive WritesThread (text : String) : Int64 → Prop where
  | given {thread : Int64} : Numeral.WritesInt text.toList thread.toInt → WritesThread text thread
  | absent : (∀ thread : Int64, ¬ Numeral.WritesInt text.toList thread.toInt) → WritesThread text 0

section

variable {text : String} {x : Binary64} {ns thread : Int64}

theorem readReal?_eq_some_iff : readReal? text = some x ↔ Numeral.WritesReal text.toList x :=
  Numeral.readFinite?_eq_some_iff

theorem signed_div (negative : Bool) (n k : Nat) :
    signed negative (n / k) = (signed negative n).tdiv k := by
  cases negative
  · exact Int.natCast_ediv n k
  · rw [signed_true, signed_true, Int.neg_tdiv]
    exact congrArg Neg.neg (Int.natCast_ediv n k)

theorem toInt_truncate (h : Numeral.WritesReal text.toList x) : x.truncate.toInt =
    max Int64.minValue.toInt (min (x.scaled.tdiv unitsPerOne) Int64.maxValue.toInt) := by
  cases h with
  | @rounded negative _ m _ _ =>
    rw [IsUnits.toInt_truncate ⟨m, rfl, rfl⟩, signed_div]
    rfl

theorem readNanoseconds?_eq_some_iff : readNanoseconds? text = some ns ↔ WritesTime text ns := by
  rw [readNanoseconds?, Option.map_eq_some_iff]
  constructor
  · rintro ⟨x, read, rfl⟩
    have written := readReal?_eq_some_iff.mp read
    exact ⟨x, written, toInt_truncate written⟩
  · rintro ⟨x, written, same⟩
    refine ⟨x, readReal?_eq_some_iff.mpr written, ?_⟩
    rw [← Int64.toInt_inj, toInt_truncate written, same]

theorem exists_writesTime (h : IsReal text) : ∃ ns, WritesTime text ns := by
  obtain ⟨x, written⟩ := h
  exact ⟨x.truncate, x, written, toInt_truncate written⟩

theorem WritesTime.isReal (h : WritesTime text ns) : IsReal text := by
  obtain ⟨x, written, -⟩ := h
  exact ⟨x, written⟩

theorem readInt64?_eq_some_iff :
    Numeral.readInt64? text.toList = some thread ↔
      Numeral.WritesInt text.toList thread.toInt := by
  simp only [Numeral.readInt64?, Option.bind_eq_some_iff, Numeral.readInteger?_eq_some_iff,
    Clamped.ofInt?_eq_some_iff, exists_eq_right']

theorem writesThread_readThread (text : String) : WritesThread text (readThread text) := by
  rw [readThread]
  cases found : Numeral.readInt64? text.toList with
  | none =>
    refine .absent fun thread written => ?_
    rw [readInt64?_eq_some_iff.mpr written] at found
    cases found
  | some thread => exact .given (readInt64?_eq_some_iff.mp found)

theorem exists_writesThread (text : String) : ∃ thread, WritesThread text thread :=
  ⟨readThread text, writesThread_readThread text⟩

theorem readThread_eq_iff : readThread text = thread ↔ WritesThread text thread := by
  refine ⟨fun same => same ▸ writesThread_readThread text, fun h => ?_⟩
  cases h with
  | given written =>
    rw [readThread, readInt64?_eq_some_iff.mpr written]
    rfl
  | absent none =>
    have h := writesThread_readThread text
    generalize readThread text = found at h ⊢
    cases h with
    | given written => exact absurd written (none _)
    | absent => rfl

end

end TraceWeave
