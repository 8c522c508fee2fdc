import GoSchema.Proofs.Text.Classes
import GoSchema.Text.CaseMap
import Mathlib.Data.List.Chain
import Mathlib.Data.List.Sort

/-!
# Capitals and small letters

Some facts about the case mappings decide what becomes of a name when it is folded and spelled out
again.  A character that has been mapped is not mapped any further in the same direction
(`uppercase_of_mem_uppercase`, `lowercase_of_mem_lowercase`); a capital is its own upper-case form
(`uppercase_of_isUppercase`); and a capital that comes from a small letter has a single small form,
which gives the capital again (`exists_small_of_mem_uppercase`).  It need not be the letter that it
came from: the micro sign becomes a capital mu, and that a small mu.

The tables move some fourteen hundred characters.  They are not checked one by one but run by run:
the characters that a shift moves are one run and their images another (`Shift.image`), and whether
two runs have no character in common or one lies in the other is seen from their ends and steps
(`Run.misses`, `Run.within`).  Runs are put in order first, so that one walk along two lists of them
is enough (`interleaved`).
-/

namespace GoSchema.Text

/-! ## Runs -/

theorem covers_iff {r : Run} {n : Nat} :
    r.covers n ↔ r.first ≤ n ∧ n ≤ r.last ∧ (n - r.first) % r.step = 0 := by
  simp [Run.covers, and_assoc]

/-- Whether two runs have no code point in common, as far as this can be seen from their ends, from
one that is a single code point, or from where they begin if both skip every other one. -/
def Run.misses (r d : Run) : Bool :=
  d.last.blt r.first || r.last.blt d.first || (d.first == d.last && !r.covers d.first) ||
    (r.first == r.last && !d.covers r.first) ||
    (r.step == 2 && d.step == 2 && (r.first + d.first) % 2 == 1)

/-- Whether all code points of a run lie in another one. -/
def Run.within (r d : Run) : Bool :=
  r.last.ble d.last && d.first.ble r.first && (r.first - d.first) % d.step == 0 &&
    (r.first == r.last || r.step % d.step == 0)

theorem not_covers_of_misses {r d : Run} {n : Nat} (h : r.misses d) (hr : r.covers n) :
    d.covers n = false := by
  have hn := covers_iff.mp hr
  refine Bool.eq_false_iff.mpr fun hd => ?_
  have hn' := covers_iff.mp hd
  simp only [Run.misses, Bool.or_eq_true, Bool.and_eq_true, Nat.blt_eq, beq_iff_eq,
    Bool.not_eq_true'] at h
  rcases h with (((hends | hends) | ⟨hsingle, hfree⟩) | ⟨hsingle, hfree⟩) | ⟨⟨hstep, hstep'⟩, hodd⟩
  · omega
  · omega
  · have heq : d.first = n := by omega
    rw [heq, hr] at hfree
    cases hfree
  · have heq : r.first = n := by omega
    rw [heq, hd] at hfree
    cases hfree
  · rw [hstep] at hn
    rw [hstep'] at hn'
    omega

theorem first_le_of_within {r d : Run} (h : r.within d) : d.first ≤ r.first := by
  simp only [Run.within, Bool.and_eq_true, Nat.ble_eq] at h
  exact h.1.1.2

theorem covers_of_within {r d : Run} {n : Nat} (h : r.within d) (hr : r.covers n) :
    d.covers n := by
  have hn := covers_iff.mp hr
  simp only [Run.within, Bool.and_eq_true, Bool.or_eq_true, Nat.ble_eq, beq_iff_eq] at h
  obtain ⟨⟨⟨hlast, hfirst⟩, hstart⟩, hstep⟩ := h
  refine covers_iff.mpr ⟨by omega, by omega, ?_⟩
  have hmore : (n - r.first) % d.step = 0 := by
    rcases hstep with hsingle | hstep
    · have heq : n - r.first = 0 := by omega
      rw [heq, Nat.zero_mod]
    · exact Nat.mod_eq_zero_of_dvd (Nat.dvd_trans (Nat.dvd_of_mod_eq_zero hstep)
        (Nat.dvd_of_mod_eq_zero hn.2.2))
  have hsum : n - d.first = (n - r.first) + (r.first - d.first) := by omega
  rw [hsum, Nat.add_mod, hmore, hstart]
  exact Nat.zero_mod _

/-! ## Lists of runs -/

/-- One run begins no later than another one. -/
abbrev Run.Precedes (r d : Run) : Prop := r.first ≤ d.first

instance : Std.Total Run.Precedes := ⟨fun r d => Nat.le_total r.first d.first⟩

instance : IsTrans Run Run.Precedes := ⟨fun _ _ _ => Nat.le_trans⟩

/-- Runs in the order in which they begin. -/
def inOrder (runs : List Run) : List Run := runs.insertionSort Run.Precedes

/-- Looking up a code point stops early, but no run in order is overlooked. -/
theorem covered_inOrder {runs : List Run} {r : Run} {n : Nat} (hr : r ∈ runs) (hn : r.covers n) :
    covered (inOrder runs) n := by
  have hsorted : (inOrder runs).Pairwise Run.Precedes := List.pairwise_insertionSort _ runs
  have hmem : r ∈ inOrder runs := (List.mem_insertionSort _).mpr hr
  generalize inOrder runs = sorted at hsorted hmem
  induction sorted with
  | nil => cases hmem
  | cons d rest ih =>
      obtain ⟨hfirst, hrest⟩ := List.pairwise_cons.mp hsorted
      have hbegins : r.first ≤ n := (covers_iff.mp hn).1
      rw [covered, Bool.and_eq_true, decide_eq_true_eq, Bool.or_eq_true]
      rcases List.mem_cons.mp hmem with rfl | hmem
      · exact ⟨hbegins, Or.inl hn⟩
      · exact ⟨(hfirst r hmem).trans hbegins, Or.inr (ih hrest hmem)⟩

theorem exists_covers_of_covered {runs : List Run} {n : Nat} (h : covered runs n) :
    ∃ r ∈ runs, r.covers n := by
  induction runs with
  | nil => cases h
  | cons d rest ih =>
      rw [covered, Bool.and_eq_true, Bool.or_eq_true] at h
      rcases h.2 with hd | hrest
      · exact ⟨d, List.mem_cons_self, hd⟩
      · obtain ⟨r, hr, hn⟩ := ih hrest
        exact ⟨r, List.mem_cons_of_mem _ hr, hn⟩

/-- Runs can be looked up apart from each other. -/
theorem not_covered_inOrder_append {first rest : List Run} {n : Nat}
    (hfirst : covered (inOrder first) n = false) (hrest : covered (inOrder rest) n = false) :
    covered (inOrder (first ++ rest)) n = false := by
  refine Bool.eq_false_iff.mpr fun h => ?_
  obtain ⟨r, hr, hn⟩ := exists_covers_of_covered h
  rcases List.mem_append.mp ((List.mem_insertionSort _).mp hr) with hr | hr
  · rw [covered_inOrder hr hn] at hfirst
    cases hfirst
  · rw [covered_inOrder hr hn] at hrest
    cases hrest

/-- Whether a run has no code point in common with others, which stand in order. -/
def Run.clearOf (r : Run) : List Run → Bool
  | [] => true
  | d :: rest => r.last.blt d.first || (r.misses d && r.clearOf rest)

theorem not_covered_of_clearOf {r : Run} {others : List Run} {n : Nat} (h : r.clearOf others)
    (hr : r.covers n) : covered others n = false := by
  induction others with
  | nil => rfl
  | cons d rest ih =>
      rw [Run.clearOf, Bool.or_eq_true, Bool.and_eq_true, Nat.blt_eq] at h
      rcases h with hafter | ⟨hmisses, hrest⟩
      · have hlast := (covers_iff.mp hr).2.1
        refine Bool.eq_false_iff.mpr fun hcovered => ?_
        have hfirst := le_of_covered_cons hcovered
        omega
      · rw [covered, not_covers_of_misses hmisses hr, ih hrest]
        exact Bool.and_false _

/-- Whether two lists of runs in order have no code points in common. -/
def interleaved : List Run → List Run → Bool
  | [], _ => true
  | r :: rest, others =>
    let later := others.dropWhile fun d => d.last < r.first
    r.clearOf later && interleaved rest later

theorem not_covered_of_interleaved {runs others : List Run} {n : Nat}
    (h : interleaved runs others) (hn : covered runs n) : covered others n = false := by
  induction runs generalizing others with
  | nil => cases hn
  | cons r rest ih =>
      rw [interleaved, Bool.and_eq_true] at h
      refine Bool.eq_false_iff.mpr fun hother => ?_
      have hlater := covered_dropWhile (le_of_covered_cons hn) hother
      rw [covered, Bool.and_eq_true, Bool.or_eq_true] at hn
      rcases hn.2 with hr | hrest
      · rw [not_covered_of_clearOf h.1 hr] at hlater
        cases hlater
      · rw [ih h.2 hrest] at hlater
        cases hlater

/-! ## Shifts -/

/-- The images of a run that lies in the source of a shift. -/
def Shift.along (s : Shift) (r : Run) : Run :=
  ⟨s.target + (r.first - s.first), s.target + (r.last - s.first), r.step⟩

/-- The images of the code points that a shift moves. -/
def Shift.image (s : Shift) : Run := s.along s.source

theorem covers_along {s : Shift} {r : Run} {n : Nat} (h : r.within s.source) (hn : r.covers n) :
    (s.along r).covers (s.target + (n - s.first)) := by
  have hends := covers_iff.mp hn
  have hfirst : s.first ≤ r.first := first_le_of_within h
  have hstep : s.target + (n - s.first) - (s.target + (r.first - s.first)) = n - r.first := by omega
  refine covers_iff.mpr ⟨?_, ?_, ?_⟩
  · show s.target + (r.first - s.first) ≤ _
    omega
  · show _ ≤ s.target + (r.last - s.first)
    omega
  · show (_ - (s.target + (r.first - s.first))) % r.step = 0
    rw [hstep, hends.2.2]

theorem covers_image {s : Shift} {n : Nat} (h : s.source.covers n) :
    s.image.covers (s.target + (n - s.first)) :=
  covers_along (by simp [Run.within]) h

theorem exists_shift_of_shifted? {shifts : List Shift} {n k : Nat}
    (h : shifted? shifts n = some k) :
    ∃ s ∈ shifts, s.source.covers n ∧ k = s.target + (n - s.first) := by
  induction shifts with
  | nil => cases h
  | cons t rest ih =>
      rw [shifted?] at h
      by_cases hbefore : n < t.first
      · rw [if_pos hbefore] at h
        cases h
      · rw [if_neg hbefore] at h
        by_cases hcovers : t.source.covers n
        · rw [if_pos hcovers] at h
          cases h
          exact ⟨t, List.mem_cons_self, hcovers, rfl⟩
        · rw [if_neg hcovers] at h
          obtain ⟨s, hs, hfound⟩ := ih h
          exact ⟨s, List.mem_cons_of_mem _ hs, hfound⟩

/-- One shift ends before another one begins. -/
def Shift.Precedes (s t : Shift) : Prop := s.first ≤ s.last ∧ s.last < t.first

instance (s t : Shift) : Decidable (s.Precedes t) := inferInstanceAs (Decidable (_ ∧ _))

instance : Trans Shift.Precedes Shift.Precedes Shift.Precedes where
  trans h h' := ⟨h.1, Nat.lt_trans (Nat.lt_of_lt_of_le h.2 h'.1) h'.2⟩

/-- In shifts that stand in order, the one that moves a code point is the one that is found. -/
theorem shifted?_eq_some_of_covers {shifts : List Shift} {s : Shift} {n : Nat}
    (horder : shifts.IsChain Shift.Precedes) (hs : s ∈ shifts) (hn : s.source.covers n) :
    shifted? shifts n = some (s.target + (n - s.first)) := by
  rw [List.isChain_iff_pairwise] at horder
  have hfirst : s.first ≤ n := (covers_iff.mp hn).1
  induction shifts with
  | nil => cases hs
  | cons t rest ih =>
      obtain ⟨hbefore, hrest⟩ := List.pairwise_cons.mp horder
      rw [shifted?]
      rcases List.mem_cons.mp hs with rfl | hs
      · rw [if_neg (Nat.not_lt.mpr hfirst), if_pos hn]
      · obtain ⟨hends, hlast⟩ := hbefore s hs
        rw [if_neg (by omega), not_covers_of_last_lt (Nat.lt_of_lt_of_le hlast hfirst),
          if_neg Bool.false_ne_true]
        exact ih hrest hs

/-! ## Mappings -/

theorem toNat_ofNat {n : Nat} (h : n.isValidChar) : (Char.ofNat n).toNat = n := by
  rw [Char.ofNat, dif_pos h]
  rfl

/-- Whether the code points of a run are characters. -/
def Run.isValid (r : Run) : Bool := r.last < 0xd800 || (0xdfff < r.first && r.last < 0x110000)

theorem isValidChar_of_covers {r : Run} {n : Nat} (h : r.isValid) (hn : r.covers n) :
    n.isValidChar := by
  have hends := covers_iff.mp hn
  simp only [Run.isValid, Bool.or_eq_true, Bool.and_eq_true, decide_eq_true_eq] at h
  unfold Nat.isValidChar
  omega

/-- The run of a single code point. -/
def Run.single (n : Nat) : Run := ⟨n, n, 1⟩

theorem covers_single (n : Nat) : (Run.single n).covers n := by
  simp [Run.single, Run.covers]

/-- The code points that have an entry of their own. -/
def entries (specials : List (Nat × List Char)) : List Run :=
  specials.map fun e => Run.single e.1

theorem mem_entries {specials : List (Nat × List Char)} {e : Nat × List Char} (h : e ∈ specials) :
    Run.single e.1 ∈ entries specials :=
  List.mem_map.mpr ⟨e, h, rfl⟩

/-- A table of case mappings is well-formed: the shifts stand in order and lead to characters, and
none of them moves a character that has an entry of its own. -/
structure WellFormed (specials : List (Nat × List Char)) (shifts : List Shift) : Prop where
  ascending : shifts.IsChain Shift.Precedes
  valid : ∀ s ∈ shifts, s.image.isValid
  apart : interleaved (inOrder (entries specials)) (inOrder (shifts.map Shift.source))

/-- The code points that a table says something of, in order. -/
def moved (specials : List (Nat × List Char)) (shifts : List Shift) : List Run :=
  inOrder (entries specials ++ shifts.map Shift.source)

/-- The code points that a table leads to, in order. -/
def images (specials : List (Nat × List Char)) (shifts : List Shift) : List Run :=
  inOrder ((specials.flatMap Prod.snd).map (fun d => Run.single d.toNat) ++
    shifts.map Shift.image)

section Mapping

variable {specials : List (Nat × List Char)} {shifts : List Shift} {c d : Char}

theorem mapCase_of_covers (h : WellFormed specials shifts) {s : Shift} (hs : s ∈ shifts)
    (hc : s.source.covers c.toNat) :
    mapCase specials shifts c = [Char.ofNat (s.target + (c.toNat - s.first))] := by
  have hshift := shifted?_eq_some_of_covers h.ascending hs hc
  have hspecial : specials.lookup c.toNat = none := by
    refine List.lookup_eq_none_iff.mpr fun e he => bne_iff_ne.mpr fun heq => ?_
    have hentry := covered_inOrder (mem_entries he) (covers_single e.1)
    have hfree := not_covered_of_interleaved h.apart hentry
    rw [← heq, covered_inOrder (List.mem_map_of_mem hs) hc] at hfree
    cases hfree
  rw [mapCase, hspecial, hshift]
  rfl

/-- A character has an entry of its own, or is moved by a shift, or is mapped to itself. -/
theorem mapCase_cases (specials : List (Nat × List Char)) (shifts : List Shift) (c : Char) :
    (c.toNat, mapCase specials shifts c) ∈ specials ∨
      (∃ s ∈ shifts, s.source.covers c.toNat ∧
        mapCase specials shifts c = [Char.ofNat (s.target + (c.toNat - s.first))]) ∨
      mapCase specials shifts c = [c] := by
  unfold mapCase
  cases hspecial : specials.lookup c.toNat with
  | some cs =>
      obtain ⟨before, after, rfl, -⟩ := List.lookup_eq_some_iff.mp hspecial
      exact Or.inl (by simp)
  | none =>
      cases hshift : shifted? shifts c.toNat with
      | none => exact Or.inr (Or.inr rfl)
      | some k =>
          obtain ⟨s, hs, hcovers, rfl⟩ := exists_shift_of_shifted? hshift
          exact Or.inr (Or.inl ⟨s, hs, hcovers, rfl⟩)

/-- No character is mapped to nothing. -/
theorem mapCase_ne_nil (h : ∀ e ∈ specials, e.2 ≠ []) : mapCase specials shifts c ≠ [] := by
  rcases mapCase_cases specials shifts c with hmem | ⟨s, -, -, heq⟩ | hself
  · exact h _ hmem
  · rw [heq]
    exact List.cons_ne_nil _ _
  · rw [hself]
    exact List.cons_ne_nil _ _

/-- A character is mapped to itself if the table says nothing of it. -/
theorem mapCase_eq_self (h : covered (moved specials shifts) c.toNat = false) :
    mapCase specials shifts c = [c] := by
  rcases mapCase_cases specials shifts c with hmem | ⟨s, hs, hcovers, -⟩ | hself
  · have hentry := List.mem_append_left (shifts.map Shift.source) (mem_entries hmem)
    rw [moved, covered_inOrder hentry (covers_single _)] at h
    cases h
  · have hsource : s.source ∈ entries specials ++ shifts.map Shift.source :=
      List.mem_append_right _ (List.mem_map_of_mem hs)
    rw [moved, covered_inOrder hsource hcovers] at h
    cases h
  · exact hself

/-- The images of a mapping: those of the entries and those of the shifts. -/
theorem image_cases (hd : d ∈ mapCase specials shifts c) :
    d ∈ specials.flatMap Prod.snd ∨
      (∃ s ∈ shifts, ∃ n, s.image.covers n ∧ d = Char.ofNat n) ∨
      d = c ∧ mapCase specials shifts c = [c] := by
  rcases mapCase_cases specials shifts c with hmem | ⟨s, hs, hcovers, heq⟩ | hself
  · exact Or.inl (List.mem_flatMap.mpr ⟨_, hmem, hd⟩)
  · rw [heq, List.mem_singleton] at hd
    exact Or.inr (Or.inl ⟨s, hs, _, covers_image hcovers, hd⟩)
  · rw [hself, List.mem_singleton] at hd
    exact Or.inr (Or.inr ⟨hd, hself⟩)

/-- An image of a mapping is one of the table's, or the character itself. -/
theorem covered_images (h : WellFormed specials shifts) (hd : d ∈ mapCase specials shifts c) :
    covered (images specials shifts) d.toNat ∨ d = c ∧ mapCase specials shifts c = [c] := by
  rcases image_cases hd with hspecial | ⟨s, hs, n, hn, rfl⟩ | hself
  · have hmem : Run.single d.toNat ∈
        (specials.flatMap Prod.snd).map (fun d => Run.single d.toNat) :=
      List.mem_map.mpr ⟨d, hspecial, rfl⟩
    exact Or.inl (covered_inOrder (List.mem_append_left _ hmem) (covers_single _))
  · rw [toNat_ofNat (isValidChar_of_covers (h.valid s hs) hn)]
    exact Or.inl (covered_inOrder (List.mem_append_right _ (List.mem_map_of_mem hs)) hn)
  · exact Or.inr hself

/-- A mapping that moves none of its own images maps them to themselves. -/
theorem mapCase_of_mem_mapCase (h : WellFormed specials shifts)
    (himages : interleaved (images specials shifts) (moved specials shifts))
    (hd : d ∈ mapCase specials shifts c) : mapCase specials shifts d = [d] := by
  rcases covered_images h hd with himage | ⟨rfl, hself⟩
  · exact mapCase_eq_self (not_covered_of_interleaved himages himage)
  · exact hself

/-- A character that is none of the table's images is an image of itself only. -/
theorem eq_of_mem_mapCase (h : WellFormed specials shifts)
    (hfree : covered (images specials shifts) d.toNat = false)
    (hd : d ∈ mapCase specials shifts c) : c = d := by
  rcases covered_images h hd with himage | ⟨rfl, -⟩
  · rw [hfree] at himage
    cases himage
  · rfl

end Mapping

/-! ## The tables -/

theorem wellFormed_lower : WellFormed lowerSpecials lowerShifts where
  ascending := by decide +kernel
  valid := by decide +kernel
  apart := by decide +kernel

theorem wellFormed_upper : WellFormed upperSpecials upperShifts where
  ascending := by decide +kernel
  valid := by decide +kernel
  apart := by decide +kernel

theorem uppercase_ne_nil (c : Char) : uppercase c ≠ [] :=
  mapCase_ne_nil (by decide)

theorem lowercase_ne_nil (c : Char) : lowercase c ≠ [] :=
  mapCase_ne_nil (by decide)

/-- A lower-case form has no further one. -/
theorem lowercase_of_mem_lowercase {c d : Char} (h : d ∈ lowercase c) : lowercase d = [d] :=
  mapCase_of_mem_mapCase wellFormed_lower (by decide +kernel) h

/-- An upper-case form has no further one. -/
theorem uppercase_of_mem_uppercase {c d : Char} (h : d ∈ uppercase c) : uppercase d = [d] :=
  mapCase_of_mem_mapCase wellFormed_upper (by decide +kernel) h

/-- A capital has no further upper-case form. -/
theorem uppercase_of_isUppercase {c : Char} (h : isUppercase c) : uppercase c = [c] := by
  -- both parts of the table are in order already, and together they would have to be sorted
  have hletters : interleaved Category.uppercaseLetterRuns (inOrder (entries upperSpecials)) ∧
      interleaved Category.uppercaseLetterRuns (inOrder (upperShifts.map Shift.source)) := by
    decide +kernel
  have hothers : interleaved otherUppercaseRuns (inOrder (entries upperSpecials)) ∧
      interleaved otherUppercaseRuns (inOrder (upperShifts.map Shift.source)) := by
    decide +kernel
  refine mapCase_eq_self ?_
  rcases Bool.or_eq_true_iff.mp h with hletter | hother
  · exact not_covered_inOrder_append (not_covered_of_interleaved hletters.1 hletter)
      (not_covered_of_interleaved hletters.2 hletter)
  · exact not_covered_inOrder_append (not_covered_of_interleaved hothers.1 hother)
      (not_covered_of_interleaved hothers.2 hother)

/-- Whether a shift of capitals is undone by a shift of small letters and one of capitals again. -/
def returns (s : Shift) : Bool :=
  lowerShifts.any fun t => s.image.within t.source && upperShifts.any fun u =>
    (t.along s.image).within u.source &&
      u.target + (t.target + (s.image.first - t.first) - u.first) == s.image.first

theorem exists_small_of_returns {s : Shift} {n : Nat} (h : returns s) (hn : s.image.covers n)
    (hvalid : n.isValidChar) :
    ∃ l, lowercase (Char.ofNat n) = [l] ∧ uppercase l = [Char.ofNat n] := by
  obtain ⟨t, ht, hback⟩ := List.any_eq_true.mp h
  obtain ⟨hwithin, hback⟩ := Bool.and_eq_true_iff.mp hback
  obtain ⟨u, hu, hback⟩ := List.any_eq_true.mp hback
  obtain ⟨hwithin', hback⟩ := Bool.and_eq_true_iff.mp hback
  have hsource := covers_of_within hwithin hn
  have hsource' := covers_of_within hwithin' (covers_along hwithin hn)
  have hvalid' := isValidChar_of_covers (wellFormed_lower.valid t ht) (covers_image hsource)
  -- the small letter, and its way back
  have hlower := mapCase_of_covers wellFormed_lower ht (c := Char.ofNat n)
    (by rwa [toNat_ofNat hvalid])
  have hupper := mapCase_of_covers wellFormed_upper hu
    (c := Char.ofNat (t.target + (n - t.first))) (by rwa [toNat_ofNat hvalid'])
  rw [toNat_ofNat hvalid] at hlower
  rw [toNat_ofNat hvalid'] at hupper
  have heq : u.target + (t.target + (n - t.first) - u.first) = n := by
    have hreturn := beq_iff_eq.mp hback
    have hbegin : s.image.first ≤ n := (covers_iff.mp hn).1
    have hfirst : t.first ≤ s.image.first := first_le_of_within hwithin
    have hfirst' : u.first ≤ t.target + (s.image.first - t.first) := first_le_of_within hwithin'
    omega
  rw [heq] at hupper
  exact ⟨_, hlower, hupper⟩

/-- Whether a character has a single small form, of which it is the upper-case form. -/
def comesBack (d : Char) : Bool :=
  match lowercase d with
  | [l] => uppercase l == [d]
  | _ => false

theorem exists_small_of_comesBack {d : Char} (h : comesBack d) :
    ∃ l, lowercase d = [l] ∧ uppercase l = [d] := by
  unfold comesBack at h
  split at h
  case h_1 l hlower => exact ⟨l, hlower, beq_iff_eq.mp h⟩
  case h_2 => cases h

/-- **Capitals come back.**  An upper-case form is the character itself, or it has a single small
form, of which it is the upper-case form. -/
theorem exists_small_of_mem_uppercase {c d : Char} (h : d ∈ uppercase c) :
    (∃ l, lowercase d = [l] ∧ uppercase l = [d]) ∨ d = c ∧ uppercase c = [c] := by
  have hspecials : (upperSpecials.flatMap Prod.snd).all comesBack := by decide +kernel
  have hshifts : upperShifts.all returns := by decide +kernel
  rcases image_cases h with hspecial | ⟨s, hs, n, hn, rfl⟩ | hself
  · exact Or.inl (exists_small_of_comesBack (List.all_eq_true.mp hspecials d hspecial))
  · have hvalid := isValidChar_of_covers (wellFormed_upper.valid s hs) hn
    exact Or.inl (exists_small_of_returns (List.all_eq_true.mp hshifts s hs) hn hvalid)
  · exact Or.inr hself

end GoSchema.Text
