import GoSchema.Text.Property

/-!
# Letters are no digits

The tables of letters and of decimal digits have no code point in common.  They are long, so this is
checked in one walk along both lists of runs (`apart`), which is possible because looking up a code
point stops at the first run that begins after it.
-/

namespace GoSchema.Text

/-- Whether the runs of two lists follow each other without common code points: each run of the
first list ends before the first run of the second one that does not end before it. -/
def apart : List Run → List Run → Bool
  | [], _ => true
  | r :: rest, others =>
    let later := others.dropWhile fun d => d.last < r.first
    later.head?.all (fun d => r.last < d.first) && apart rest later

theorem le_of_covered_cons {r : Run} {rest : List Run} {n : Nat} (h : covered (r :: rest) n) :
    r.first ≤ n := by
  rw [covered, Bool.and_eq_true, decide_eq_true_eq] at h
  exact h.1

theorem not_covers_of_last_lt {r : Run} {n : Nat} (h : r.last < n) : r.covers n = false := by
  simp [Run.covers, Nat.not_le.mpr h]

theorem covered_dropWhile {runs : List Run} {first n : Nat} (hfirst : first ≤ n)
    (h : covered runs n) : covered (runs.dropWhile fun d => d.last < first) n := by
  induction runs with
  | nil => exact h
  | cons d rest ih =>
      by_cases hlast : d.last < first
      · rw [covered, not_covers_of_last_lt (Nat.lt_of_lt_of_le hlast hfirst), Bool.false_or,
          Bool.and_eq_true] at h
        simp only [List.dropWhile_cons, hlast, decide_true, if_true]
        exact ih h.2
      · simp only [List.dropWhile_cons, hlast, decide_false]
        exact h

theorem not_covered_of_apart {runs others : List Run} {n : Nat} (hapart : apart runs others)
    (h : covered runs n) : covered others n = false := by
  induction runs generalizing others with
  | nil => cases h
  | cons r rest ih =>
      rw [apart, Bool.and_eq_true] at hapart
      obtain ⟨hnext, hrest⟩ := hapart
      refine Bool.eq_false_iff.mpr fun hother => ?_
      have hlater := covered_dropWhile (le_of_covered_cons h) hother
      generalize others.dropWhile (fun d => d.last < r.first) = later at hnext hrest hlater
      cases later with
      | nil => cases hlater
      | cons d later =>
          -- the run ends before those of the other list that are left, so a later one covers it
          have hlast : r.last < d.first := by simpa using hnext
          rw [covered, not_covers_of_last_lt (Nat.lt_of_lt_of_le hlast (le_of_covered_cons hlater)),
            Bool.false_or, Bool.and_eq_true] at h
          rw [ih hrest h.2] at hlater
          cases hlater

theorem apart_letters_decimalDigits :
    ∀ k ∈ Category.letters, apart k.runs Category.decimalNumber.runs := by
  decide +kernel

theorem isDecimalDigit_eq_false_of_isLetter {c : Char} (h : isLetter c) :
    isDecimalDigit c = false := by
  obtain ⟨k, hk, hincludes⟩ := List.any_eq_true.mp h
  have hcovered : covered k.runs c.toNat := by
    cases k <;> first | exact hincludes | exact absurd hk (by decide)
  exact not_covered_of_apart (apart_letters_decimalDigits k hk) hcovered

end GoSchema.Text
