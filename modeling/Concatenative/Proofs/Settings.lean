import Concatenative.Proofs.NumberTokens
import Concatenative.Settings

/-!
# What the environment sets

Which texts set the number of levels, and to what, is said here without a reader (`Settings.Sets`):
a row of digits, with a plus sign in front of it or none and blanks around it, whose whole number is
positive and fits in 64 bits. All other texts are passed over with a warning. Whatever the text,
there is a level, and the stack that a host should set aside is the product of 64-bit numbers, cut
off at the greatest of them (`Settings.ofVariable_iff_sets`).
-/

namespace Concatenative

/-- What is left of a text without the blanks at its ends has only blanks around it. -/
theorem Text.padded_trim (text : String) : Padded text (trim text) := by
  let rest := text.toList.dropWhile isBlank
  have front : text.toList.takeWhile isBlank ++ rest = text.toList :=
    List.takeWhile_append_dropWhile
  have back : trimBlanks text.toList ++ (rest.reverse.takeWhile isBlank).reverse = rest := by
    rw [trimBlanks, ← List.reverse_append, List.takeWhile_append_dropWhile, List.reverse_reverse]
  refine ⟨String.ofList (text.toList.takeWhile isBlank),
    String.ofList (rest.reverse.takeWhile isBlank).reverse, ?_, ?_⟩
  · intro c mem
    rw [String.toList_ofList, String.toList_ofList, List.mem_append, List.mem_reverse] at mem
    rcases mem with before | after
    · exact List.mem_takeWhile_imp before
    · exact List.mem_takeWhile_imp after
  · apply String.toList_injective
    rw [String.toList_append, String.toList_append, String.toList_ofList, String.toList_ofList,
      trim, String.toList_ofList, List.append_assoc, back, front]

namespace Settings

/-! ## Texts that set the limit -/

/-- Rows of digits with a plus sign in front of them or none, and the whole numbers that they
denote. -/
inductive Numeral : List Char → Nat → Prop
  | unsigned {row : List Char} (filled : row ≠ []) (digits : Decimal.Row row) :
    Numeral row (Nat.ofDigitChars 10 row 0)
  | plus {row : List Char} (filled : row ≠ []) (digits : Decimal.Row row) :
    Numeral ('+' :: row) (Nat.ofDigitChars 10 row 0)

/-- Whether a text sets the limit, and to which number. -/
structure Sets (text : String) (n : Nat) : Prop where
  numeral : ∃ numeral, Text.Padded text numeral ∧ Numeral numeral.toList n
  positive : 1 ≤ n
  fits : n ≤ 2 ^ 64 - 1

/-- Digits are left as they are when a plus sign is dropped. -/
theorem dropPlus_of_row {row : List Char} (digits : Decimal.Row row) : dropPlus row = row := by
  unfold dropPlus
  split
  · next rest =>
    have digit := digits '+' List.mem_cons_self
    exact absurd digit (by decide)
  · rfl

theorem dropPlus_cases (text : List Char) :
    text = '+' :: dropPlus text ∨ text = dropPlus text := by
  unfold dropPlus
  split
  · exact .inl rfl
  · exact .inr rfl

/-- The numerals are the texts that are a row of digits once a plus sign is dropped. -/
theorem numeral_iff {text : List Char} {n : Nat} :
    Numeral text n ↔ dropPlus text ≠ [] ∧ Decimal.Row (dropPlus text) ∧
      Nat.ofDigitChars 10 (dropPlus text) 0 = n := by
  constructor
  · intro h
    cases h with
    | unsigned filled digits =>
      rw [dropPlus_of_row digits]
      exact ⟨filled, digits, rfl⟩
    | plus filled digits => exact ⟨filled, digits, rfl⟩
  · rintro ⟨filled, digits, rfl⟩
    have kept := dropPlus_cases text
    generalize dropPlus text = row at filled digits kept ⊢
    rcases kept with rfl | rfl
    · exact .plus filled digits
    · exact .unsigned filled digits

/-- A numeral is not empty, and there are no blanks in it. -/
theorem Numeral.unblank {text : List Char} {n : Nat} (h : Numeral text n) :
    text ≠ [] ∧ ∀ c ∈ text, Text.isBlank c = false := by
  have blank : ∀ c : Char, c.isDigit = true → Text.isBlank c = false := fun c digit =>
    (Scanner.undelimited_iff.1 (Scanner.isDelimiter_of_isDigit digit)).1
  cases h with
  | unsigned filled digits => exact ⟨filled, fun c mem => blank c (digits c mem)⟩
  | plus _ digits =>
    refine ⟨List.cons_ne_nil _ _, List.forall_mem_cons.2 ⟨by decide, ?_⟩⟩
    exact fun c mem => blank c (digits c mem)

/-- The blanks around a numeral are removed. -/
theorem Numeral.trim_of_padded {numeral padded : String} {n : Nat} (h : Numeral numeral.toList n)
    (around : Text.Padded padded numeral) : Text.trim padded = numeral := by
  obtain ⟨before, after, blank, rfl⟩ := around
  obtain ⟨filled, inside⟩ := h.unblank
  have ends : (∀ c ∈ numeral.toList.head?, Text.isBlank c = false) ∧
      ∀ c ∈ numeral.toList.getLast?, Text.isBlank c = false :=
    ⟨fun c first => inside c (List.mem_of_mem_head? first),
      fun c last => inside c (List.mem_of_getLast? last)⟩
  rw [Text.trim, String.toList_append, String.toList_append, List.append_assoc,
    Text.trimBlanks_append blank filled ends, String.ofList_toList]

/-- A limit is read off exactly the texts that set it. -/
theorem readLimit?_eq_some_iff {text : String} {n : Nat} :
    readLimit? text = some n ↔ Sets text n := by
  have trimmed : (Text.trim text).toList = Text.trimBlanks text.toList := String.toList_ofList
  have value : ∀ row, Decimal.valueOfDigits row = Nat.ofDigitChars 10 row 0 :=
    Decimal.valueOfDigits_eq
  have greatest_eq : greatest = 2 ^ 64 - 1 := by decide
  simp only [readLimit?, ← trimmed, value, greatest_eq, Option.ite_none_right_eq_some,
    Bool.and_eq_true, List.all_eq_true, decide_eq_true_eq, Option.some.injEq]
  constructor
  · rintro ⟨⟨⟨digits, positive⟩, fits⟩, rfl⟩
    have filled : dropPlus (Text.trim text).toList ≠ [] := by
      intro empty
      rw [empty] at positive
      exact absurd positive (by decide)
    exact ⟨⟨_, Text.padded_trim text, numeral_iff.2 ⟨filled, digits, rfl⟩⟩, positive, fits⟩
  · rintro ⟨⟨numeral, around, h⟩, positive, fits⟩
    rw [h.trim_of_padded around]
    obtain ⟨_, digits, rfl⟩ := numeral_iff.1 h
    exact ⟨⟨⟨digits, positive⟩, fits⟩, rfl⟩

/-- Every number in range is set by its decimal digits, with any number of zeros in front of them, a
plus sign or none, and any blanks around. -/
theorem sets_toDigits {n : Nat} (positive : 1 ≤ n) (fits : n ≤ 2 ^ 64 - 1) (zeros : Nat)
    {sign before after : String} (signed : sign ∈ ["", "+"])
    (blank : ∀ c ∈ before.toList ++ after.toList, Text.isBlank c = true) :
    Sets (before ++ (sign ++ String.ofList (List.replicate zeros '0' ++ Nat.toDigits 10 n)) ++
      after) n := by
  let row := List.replicate zeros '0' ++ Nat.toDigits 10 n
  have filled : row ≠ [] := List.append_ne_nil_of_right_ne_nil _ Nat.toDigits_ne_nil
  have digits : Decimal.Row row := by
    intro c mem
    rcases List.mem_append.1 mem with zero | digit
    · rw [List.eq_of_mem_replicate zero]
      decide
    · exact Nat.isDigit_of_mem_toDigits (by decide) (by decide) digit
  have value : Nat.ofDigitChars 10 row 0 = n :=
    (Decimal.foldDigits_replicate_append zeros _).trans (Decimal.foldDigits_toDigits n)
  refine ⟨⟨_, ⟨before, after, blank, rfl⟩, ?_⟩, positive, fits⟩
  rw [String.toList_append, String.toList_ofList, numeral_iff]
  simp only [List.mem_cons, List.not_mem_nil, or_false] at signed
  rcases signed with rfl | rfl
  · show dropPlus row ≠ [] ∧ Decimal.Row (dropPlus row) ∧ Nat.ofDigitChars 10 (dropPlus row) 0 = n
    rw [dropPlus_of_row digits]
    exact ⟨filled, digits, value⟩
  · exact ⟨filled, digits, value⟩

/-! ## Settings of runs -/

/-- A text that sets the limit does so without a note. -/
theorem ofVariable_eq_iff {text : String} {n : Nat} :
    ofVariable (some text) = ({ limit := n }, []) ↔ Sets text n := by
  rw [← readLimit?_eq_some_iff, ofVariable]
  cases readLimit? text with
  | none => simp
  | some limit => simp

/-- A text that sets no limit is passed over, with one note about it. -/
theorem ofVariable_of_unset {text : String} (unset : ∀ n, ¬ Sets text n) :
    ofVariable (some text) = ({}, [.limitIgnored limitVariable text]) := by
  have unread : readLimit? text = none := by
    rw [Option.eq_none_iff_forall_ne_some]
    exact fun n read => unset n (readLimit?_eq_some_iff.1 read)
  rw [ofVariable, unread]

/-- There is a level, and the number of levels fits in 64 bits. -/
theorem limit_ofVariable (setting : Option String) :
    1 ≤ (ofVariable setting).1.limit ∧ (ofVariable setting).1.limit ≤ 2 ^ 64 - 1 := by
  have unset : 1 ≤ ({} : Settings).limit ∧ ({} : Settings).limit ≤ 2 ^ 64 - 1 := by decide
  cases setting with
  | none => exact unset
  | some text =>
    by_cases set : ∃ n, Sets text n
    · obtain ⟨n, sets⟩ := set
      rw [ofVariable_eq_iff.2 sets]
      exact ⟨sets.positive, sets.fits⟩
    · rw [ofVariable_of_unset fun n sets => set ⟨n, sets⟩]
      exact unset

/-! ## Stacks -/

/-- Below `2 ^ 50` levels the size of the stack is the product; from there on the product has more
than 64 bits, and the size is the greatest number that has not. -/
theorem stackSize_eq (settings : Settings) :
    settings.stackSize =
      if settings.limit < 2 ^ 50 then settings.limit * 16384 else 2 ^ 64 - 1 := by
  have size : settings.stackSize = min (settings.limit * 16384) (2 ^ 64 - 1) := rfl
  rw [size]
  split <;> omega

theorem stackSize_mono {settings other : Settings} (fewer : settings.limit ≤ other.limit) :
    settings.stackSize ≤ other.stackSize := by
  have product : settings.limit * bytesPerLevel ≤ other.limit * bytesPerLevel :=
    Nat.mul_le_mul_right _ fewer
  exact min_le_min_right greatest product

theorem stackSize_pos {settings : Settings} (some_level : 1 ≤ settings.limit) :
    0 < settings.stackSize := by
  rw [stackSize_eq]
  split <;> omega

/-- A text sets the number of levels exactly if it is a row of digits, with a plus sign in front of
it or none and blanks around it, whose whole number is positive and fits in 64 bits; any number of
zeros may stand in front. All other texts are passed over with one warning, and there are 128
levels. There is always a level. The stack for the levels is the product, or the greatest number of
64 bits if the product has more; it is never empty, and more levels never have less. -/
theorem ofVariable_iff_sets :
    (∀ text n, ofVariable (some text) = ({ limit := n }, []) ↔ Sets text n) ∧
    (∀ text, (∀ n, ¬ Sets text n) →
      ofVariable (some text) = ({ limit := 128 }, [.limitIgnored "LION_MAX_DEPTH" text]) ∧
      (Note.limitIgnored "LION_MAX_DEPTH" text).level = .warning) ∧
    (∀ n zeros (sign before after : String), 1 ≤ n → n ≤ 2 ^ 64 - 1 → sign ∈ ["", "+"] →
      (∀ c ∈ before.toList ++ after.toList, Text.isBlank c = true) →
      Sets (before ++ (sign ++ String.ofList (List.replicate zeros '0' ++ Nat.toDigits 10 n)) ++
        after) n) ∧
    ∀ setting, let settings := (ofVariable setting).1
      0 < settings.limit ∧ settings.limit < 2 ^ 64 ∧
      settings.stackSize = min (settings.limit * 16384) (2 ^ 64 - 1) ∧
      settings.stackSize = (if settings.limit < 2 ^ 50 then settings.limit * 16384
        else 2 ^ 64 - 1) ∧
      0 < settings.stackSize ∧
      ∀ other, settings.limit ≤ (ofVariable other).1.limit →
        settings.stackSize ≤ (ofVariable other).1.stackSize := by
  refine ⟨fun text n => ofVariable_eq_iff, fun text unset => ?_, ?_, fun setting => ?_⟩
  · exact ⟨ofVariable_of_unset unset, rfl⟩
  · intro n zeros sign before after positive fits signed blank
    exact sets_toDigits positive fits zeros signed blank
  · obtain ⟨positive, fits⟩ := limit_ofVariable setting
    refine ⟨positive, by omega, rfl, stackSize_eq _, stackSize_pos positive, ?_⟩
    exact fun other fewer => stackSize_mono fewer

/-- A plus sign and zeros between blanks; the first number that does not fit in 64 bits; and a
number of levels from which on the size of the stack is cut off. -/
theorem ofVariable_iff_sets_zeros :
    ofVariable (some "\u2003+007\n") = ({ limit := 7 }, []) ∧
    ofVariable (some "1125899906842624") = ({ limit := 2 ^ 50 }, []) ∧
    ofVariable (some "18446744073709551616") =
      ({ limit := 128 }, [.limitIgnored "LION_MAX_DEPTH" "18446744073709551616"]) ∧
    stackSize { limit := 7 } ≤ stackSize { limit := 2 ^ 50 } := by
  obtain ⟨sets, unset, padded, size⟩ := ofVariable_iff_sets
  have seven : Sets "\u2003+007\n" 7 :=
    padded 7 2 "+" "\u2003" "\n" (by decide) (by decide) (by decide) (List.all_eq_true.1 rfl)
  have many : Sets "1125899906842624" (2 ^ 50) :=
    readLimit?_eq_some_iff.1 (by decide +kernel)
  have read := (sets _ _).2 seven
  have read' := (sets _ _).2 many
  refine ⟨read, read', (unset _ fun n h => ?_).1, ?_⟩
  · rw [← readLimit?_eq_some_iff] at h
    have none : readLimit? "18446744073709551616" = none := by decide +kernel
    rw [none] at h
    cases h
  · have grows := (size (some "\u2003+007\n")).2.2.2.2.2 (some "1125899906842624")
    rw [read, read'] at grows
    exact grows (by decide)

end Settings

end Concatenative
