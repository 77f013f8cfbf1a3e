import GrafanaInstall.Instant

/-!
# Instants read back

The text of an instant leads back to the instant: each number is printed in as many digits as its
reader takes, and UTC needs no shift.
-/

namespace GrafanaInstall.Instant

/-! ## Digits -/

theorem isDigit_of_mem_padded {width n : Nat} {c : Char} (h : c ∈ padded width n) :
    c.isDigit = true := by
  rcases List.mem_append.mp h with h | h
  · rw [List.eq_of_mem_replicate h]; rfl
  · exact Nat.isDigit_of_mem_toDigits (by decide) (by decide) h

theorem padded_ne_nil (width n : Nat) : padded width n ≠ [] := by
  simp [padded, Nat.toDigits_ne_nil]

theorem ofDigitChars_padded (width n : Nat) : Nat.ofDigitChars 10 (padded width n) 0 = n := by
  simp [padded, Nat.ofDigitChars_append, Nat.ofDigitChars_ten_toDigits]

theorem length_padded {width n : Nat} (hwidth : 0 < width) (h : n < Nat.pow 10 width) :
    (padded width n).length = width := by
  have hdigits : (Nat.toDigits 10 n).length ≤ width :=
    (Nat.length_toDigits_le_iff (by decide) hwidth).mpr h
  simp only [padded, List.length_append, List.length_replicate]
  omega

/-- Digits are read up to the width, or up to where they end. -/
theorem number?_append (width : Nat) {digits : List Char} (rest : List Char) (hne : digits ≠ [])
    (hdigits : ∀ c ∈ digits, c.isDigit = true) (hlength : digits.length ≤ width)
    (hstop : digits.length = width ∨ ∀ c ∈ rest.head?, c.isDigit = false) :
    number? width (digits ++ rest) = some (Nat.ofDigitChars 10 digits 0, rest) := by
  have taken : ((digits ++ rest).take width).takeWhile Char.isDigit = digits := by
    rw [List.take_append, List.take_of_length_le hlength, List.takeWhile_append_of_pos hdigits]
    rcases hstop with h | h
    · simp [h]
    · cases rest with
      | nil => simp
      | cons c rest =>
        have hc : c.isDigit = false := h c rfl
        cases width - digits.length <;> simp [hc]
  simp [number?, taken]

theorem isSpace_of_isDigit {c : Char} (h : c.isDigit = true) : Text.isSpace c = false := by
  simp only [Char.isDigit, Bool.and_eq_true, decide_eq_true_eq, ge_iff_le,
    UInt32.le_iff_toNat_le] at h
  have low : 48 ≤ c.toNat := h.1
  have high : c.toNat ≤ 57 := h.2
  simp only [Text.isSpace, Bool.or_eq_false_iff, Bool.and_eq_false_iff, decide_eq_false_iff_not]
  omega

theorem skipSpaces_padded (width n : Nat) (rest : List Char) :
    skipSpaces (padded width n ++ rest) = padded width n ++ rest := by
  obtain ⟨c, cs, h⟩ := List.exists_cons_of_ne_nil (padded_ne_nil width n)
  have hc : c.isDigit = true := isDigit_of_mem_padded (h ▸ List.mem_cons_self)
  simp [h, skipSpaces, isSpace_of_isDigit hc]

theorem field?_padded {n : Nat} (h : n < 100) (rest : List Char) :
    field? (padded 2 n ++ rest) = some (n, rest) := by
  have length : (padded 2 n).length = 2 := length_padded (by decide) h
  rw [field?, skipSpaces_padded, number?_append _ _ (padded_ne_nil _ _)
    (fun _ => isDigit_of_mem_padded) (Nat.le_of_eq length) (.inl length), ofDigitChars_padded]

/-! ## Marks, years and offsets -/

theorem mark?_self {mark : Char} (h : Text.isSpace mark = false) (rest : List Char) :
    mark? mark (mark :: rest) = some rest := by
  simp [mark?, skipSpaces, h]

theorem year?_yearText (year : Int) (rest : List Char) :
    year? (yearText year ++ '-' :: rest) = some (year, '-' :: rest) := by
  have dash : ∀ c ∈ ('-' :: rest).head?, c.isDigit = false := by
    rintro c ⟨⟩
    rfl
  unfold yearText
  split
  · -- Four digits, and no sign before them.
    rename_i h
    have bound : year.toNat < 10000 := by omega
    have length : (padded 4 year.toNat).length = 4 := length_padded (by decide) bound
    obtain ⟨c, cs, hcs⟩ := List.exists_cons_of_ne_nil (padded_ne_nil 4 year.toNat)
    have hc : c.isDigit = true := isDigit_of_mem_padded (hcs ▸ List.mem_cons_self)
    have read := number?_append 4 ('-' :: rest) (padded_ne_nil 4 year.toNat)
      (fun _ => isDigit_of_mem_padded) (Nat.le_of_eq length) (.inl length)
    rw [ofDigitChars_padded] at read
    rw [year?, skipSpaces_padded]
    split
    · rename_i e
      rw [hcs] at e
      cases e
      exact absurd hc (by decide)
    · rename_i e
      rw [hcs] at e
      cases e
      exact absurd hc (by decide)
    · simp only [read, Option.map_some, Int.toNat_of_nonneg h.1]
  · -- A sign, and then as many digits as there are.
    rename_i h
    have read := number?_append (padded 4 year.natAbs ++ '-' :: rest).length ('-' :: rest)
      (padded_ne_nil 4 year.natAbs) (fun _ => isDigit_of_mem_padded) (by simp) (.inr dash)
    rw [ofDigitChars_padded] at read
    split
    · have spaces : Text.isSpace '-' = false := by decide
      simp only [List.cons_append, year?, skipSpaces, List.dropWhile_cons, spaces,
        Bool.false_eq_true, if_false, read, Option.map_some]
      have value : -(year.natAbs : Int) = year := by omega
      rw [value]
    · have spaces : Text.isSpace '+' = false := by decide
      simp only [List.cons_append, year?, skipSpaces, List.dropWhile_cons, spaces,
        Bool.false_eq_true, if_false, read, Option.map_some]
      have value : (year.natAbs : Int) = year := by omega
      rw [value]

theorem ofLocal?_utc (i : Instant) :
    ofLocal? i.year i.month i.day i.hour i.minute i.second 0 = some i := by
  have valid := i.valid
  have time := (Bool.and_eq_true _ _ ▸ valid).2
  simp only [Calendar.isTime, Bool.and_eq_true, decide_eq_true_eq] at time
  have noBefore : ¬ (60 * (i.hour : Int) + i.minute - 0 < 0) := by omega
  have noAfter : ¬ (1440 ≤ 60 * (i.hour : Int) + i.minute - 0) := by omega
  have hour : ((60 * (i.hour : Int) + i.minute - 0) % 1440).toNat / 60 = i.hour := by omega
  have minute : ((60 * (i.hour : Int) + i.minute - 0) % 1440).toNat % 60 = i.minute := by omega
  simp only [ofLocal?, valid, if_true, if_neg noBefore, if_neg noAfter, hour, minute, ofFields?,
    dif_pos]

/-! ## Whole texts -/

theorem ofText?_text (i : Instant) : ofText? i.text = some i := by
  have date := (Bool.and_eq_true _ _ ▸ i.valid).1
  have time := (Bool.and_eq_true _ _ ▸ i.valid).2
  simp only [Calendar.isDate, Bool.and_eq_true, decide_eq_true_eq] at date
  simp only [Calendar.isTime, Bool.and_eq_true, decide_eq_true_eq] at time
  have days : Calendar.daysIn i.year i.month ≤ 31 := by
    unfold Calendar.daysIn
    split
    · split <;> decide
    · split <;> decide
  have dash : Text.isSpace '-' = false := by decide
  have colon : Text.isSpace ':' = false := by decide
  have written : i.text.toList = yearText i.year ++ '-' :: (padded 2 i.month ++ '-' ::
      (padded 2 i.day ++ 'T' :: (padded 2 i.hour ++ ':' :: (padded 2 i.minute ++ ':' ::
        (padded 2 i.second ++ ['Z']))))) := by
    refine String.toList_ofList.trans ?_
    simp only [List.append_assoc, List.cons_append, List.nil_append]
  rw [ofText?, written]
  -- One step for each reader, in the order of the text.
  refine Option.bind_eq_some_iff.mpr ⟨_, year?_yearText _ _, ?_⟩
  refine Option.bind_eq_some_iff.mpr ⟨_, mark?_self dash _, ?_⟩
  refine Option.bind_eq_some_iff.mpr ⟨_, field?_padded (by omega) _, ?_⟩
  refine Option.bind_eq_some_iff.mpr ⟨_, mark?_self dash _, ?_⟩
  refine Option.bind_eq_some_iff.mpr ⟨_, field?_padded (by omega) _, ?_⟩
  refine Option.bind_eq_some_iff.mpr ⟨_, rfl, ?_⟩
  refine Option.bind_eq_some_iff.mpr ⟨_, field?_padded (by omega) _, ?_⟩
  refine Option.bind_eq_some_iff.mpr ⟨_, mark?_self colon _, ?_⟩
  refine Option.bind_eq_some_iff.mpr ⟨_, field?_padded (by omega) _, ?_⟩
  refine Option.bind_eq_some_iff.mpr ⟨_, mark?_self colon _, ?_⟩
  refine Option.bind_eq_some_iff.mpr ⟨_, field?_padded (by omega) _, ?_⟩
  exact ofLocal?_utc i

end GrafanaInstall.Instant
