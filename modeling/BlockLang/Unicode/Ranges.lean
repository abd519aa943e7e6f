set_option relaxedAutoImplicit false
set_option autoImplicit false

/-!
# Sets of code points

A property of characters is kept as the ascending list of the closed ranges of code points that
have it.

## Main definitions

* `BlockLang.Unicode.Ranges` — a set of code points as a list of ranges.
* `BlockLang.Unicode.Ranges.Covers` — membership, said without the order of the ranges.
* `BlockLang.Unicode.Ranges.has` — the search for a code point.

## Main results

* `BlockLang.Unicode.Ranges.has_eq_true_iff` — on ascending ranges the search decides membership.
* `BlockLang.Unicode.Ranges.has_eq_false_of_apart` — two sets whose ranges are apart share no code
  point.
-/

namespace BlockLang.Unicode

/-- A set of code points: closed ranges, each as its first and its last member. -/
abbrev Ranges := List (Nat × Nat)

namespace Ranges

/-- A code point is covered if it lies in one of the ranges. -/
def Covers (rs : Ranges) (n : Nat) : Prop :=
  ∃ r ∈ rs, r.1 ≤ n ∧ n ≤ r.2

/-- Whether a code point lies in one of the ranges. As the ranges ascend, the search ends at the
first one that begins after the code point. -/
def has : Ranges → Nat → Bool
  | [], _ => false
  | (first, last) :: rs, n => !Nat.blt n first && (Nat.ble n last || has rs n)

/-- The ranges are non-empty, in order, and begin no earlier than `floor`. -/
def ascendsFrom (floor : Nat) : Ranges → Bool
  | [] => true
  | (first, last) :: rs => Nat.ble floor first && Nat.ble first last && ascendsFrom (last + 1) rs

/-- No range of the one set meets a range of the other. -/
def apart (rs ss : Ranges) : Bool :=
  rs.all fun r => ss.all fun s => Nat.blt r.2 s.1 || Nat.blt s.2 r.1

/-! ## Membership -/

theorem not_covers_nil (n : Nat) : ¬ Covers [] n := by
  rintro ⟨r, hr, -⟩
  cases hr

theorem covers_cons_iff (r : Nat × Nat) (rs : Ranges) (n : Nat) :
    Covers (r :: rs) n ↔ (r.1 ≤ n ∧ n ≤ r.2) ∨ Covers rs n := by
  simp [Covers]

/-- Ranges that begin no earlier than `floor` cover nothing before it. -/
theorem le_of_covers {floor n : Nat} {rs : Ranges} (h : ascendsFrom floor rs = true)
    (hn : Covers rs n) : floor ≤ n := by
  induction rs generalizing floor with
  | nil => exact absurd hn (not_covers_nil n)
  | cons r rs ih =>
    simp only [ascendsFrom, Bool.and_eq_true, Nat.ble_eq] at h
    rcases (covers_cons_iff r rs n).1 hn with hr | hr
    · omega
    · have := ih h.2 hr
      omega

/-- The search finds only covered code points. -/
theorem covers_of_has {rs : Ranges} {n : Nat} (h : has rs n = true) : Covers rs n := by
  induction rs with
  | nil => simp [has] at h
  | cons r rs ih =>
    simp only [has, Bool.and_eq_true, Bool.or_eq_true, Bool.not_eq_true', Bool.eq_false_iff, Ne,
      Nat.blt_eq, Nat.ble_eq, Nat.not_lt] at h
    rw [covers_cons_iff]
    exact h.2.imp (fun hl => ⟨h.1, hl⟩) ih

/-- On ascending ranges the search decides membership. -/
theorem has_eq_true_iff {floor : Nat} {rs : Ranges} (h : ascendsFrom floor rs = true) (n : Nat) :
    has rs n = true ↔ Covers rs n := by
  refine ⟨covers_of_has, fun hn => ?_⟩
  induction rs generalizing floor with
  | nil => exact absurd hn (not_covers_nil n)
  | cons r rs ih =>
    simp only [ascendsFrom, Bool.and_eq_true, Nat.ble_eq] at h
    have hbound : r.1 ≤ n := by
      rcases (covers_cons_iff r rs n).1 hn with hr | hr
      · exact hr.1
      · have := le_of_covers h.2 hr
        omega
    have hfirst : Nat.blt n r.1 = false := by
      rw [Bool.eq_false_iff, Ne, Nat.blt_eq]
      omega
    simp only [has, hfirst, Bool.not_false, Bool.true_and, Bool.or_eq_true, Nat.ble_eq]
    rcases (covers_cons_iff r rs n).1 hn with hr | hr
    · exact Or.inl hr.2
    · exact Or.inr (ih h.2 hr)

/-- Sets that are apart share no code point. -/
theorem has_eq_false_of_apart {rs ss : Ranges} (h : apart rs ss = true) {n : Nat}
    (hn : has rs n = true) : has ss n = false := by
  rw [Bool.eq_false_iff]
  intro hs
  obtain ⟨r, hr, hr1, hr2⟩ := covers_of_has hn
  obtain ⟨s, hs, hs1, hs2⟩ := covers_of_has hs
  simp only [apart, List.all_eq_true, Bool.or_eq_true, Nat.blt_eq] at h
  have := h r hr s hs
  omega

end Ranges

end BlockLang.Unicode
