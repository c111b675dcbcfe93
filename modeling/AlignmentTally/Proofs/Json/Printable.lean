import AlignmentTally.Format
import Mathlib.Data.List.Basic

/-!
# Compact text has no control characters

A string may hold any characters, but its text between quotes does not: the escapes stand for
whatever is below the space. Numbers, words and punctuation are made of characters from the space
on. So the compact text of a value is printable, at whatever depth its strings stand
(`Json.printable_compactChars`), and in particular on one line.

## All values, numbers included

Nothing is left out here. A number that is no integer is written by rounding, and which digits come
out is not looked into; but digits, signs, points and exponents are all that can come out
(`Json.printable_writeFloat`). So this holds of values that cannot be read back exactly as well.

## Labels

A label is the compact text of a value except for strings, which stand for themselves. A label with
a line feed therefore comes from a string with a line feed, and from nothing else
(`Format.feed_mem_label_iff`). It is the one way in which a label can go over several lines of the
plain report.
-/

namespace AlignmentTally

namespace Json

/-- A text without control characters: all its characters stand at the space, which is 32, or after
it. -/
def Printable (text : List Char) : Prop := ∀ c ∈ text, 32 ≤ c.toNat

instance (text : List Char) : Decidable (Printable text) :=
  List.decidableBAll (fun c : Char ↦ 32 ≤ c.toNat) text

namespace Printable

variable {text other : List Char} {c : Char}

theorem nil : Printable [] := fun _ hc ↦ nomatch hc

@[simp] theorem cons_iff : Printable (c :: text) ↔ 32 ≤ c.toNat ∧ Printable text :=
  List.forall_mem_cons

@[simp] theorem append_iff : Printable (text ++ other) ↔ Printable text ∧ Printable other :=
  List.forall_mem_append

theorem of_subset (h : Printable text) (hsubset : other ⊆ text) : Printable other := fun c hc ↦
  h c (hsubset hc)

theorem replicate (n : Nat) (h : 32 ≤ c.toNat) : Printable (List.replicate n c) := by
  intro d hd
  rw [List.eq_of_mem_replicate hd]
  exact h

/-- A printable text stands on one line. -/
theorem feed_notMem (h : Printable text) : '\n' ∉ text := fun hc ↦ absurd (h _ hc) (by decide)

end Printable

/-! ### Strings and numbers -/

theorem le_toNat_hexDigit {n : Nat} (h : n < 16) : 32 ≤ (hexDigit n).toNat := by
  have hall : ∀ n < 16, 32 ≤ (hexDigit n).toNat := by decide
  exact hall n h

/-- An escape is written with printable characters, and what is not escaped is printable. -/
theorem printable_escape (c : Char) : Printable (escape c) := by
  unfold escape
  split_ifs with _ _ _ _ _ _ _ hlow
  · decide
  · decide
  · decide
  · decide
  · decide
  · decide
  · decide
  · have hnat : c.toNat < 32 := hlow
    have hhigh : 32 ≤ (hexDigit (c.toNat / 16)).toNat := le_toNat_hexDigit (by omega)
    have hrest : 32 ≤ (hexDigit (c.toNat % 16)).toNat := le_toNat_hexDigit (by omega)
    simp only [Printable.cons_iff, hhigh, hrest, Printable.nil, and_true]
    decide
  · have hnat : ¬ c.toNat < 32 := hlow
    exact Printable.cons_iff.2 ⟨Nat.le_of_not_lt hnat, .nil⟩

theorem printable_quote (s : String) : Printable (quote s) := by
  have hinside : Printable (s.toList.flatMap escape) := by
    intro c hc
    obtain ⟨d, -, hd⟩ := List.mem_flatMap.1 hc
    exact printable_escape d c hd
  rw [quote, Printable.append_iff, Printable.cons_iff]
  exact ⟨⟨by decide, hinside⟩, by decide⟩

theorem printable_toDigits (n : Nat) : Printable (Nat.toDigits 10 n) := by
  intro c hc
  have hdigit : c.isDigit = true := Nat.isDigit_of_mem_toDigits (by decide) (by decide) hc
  have hzero : 48 ≤ c.toNat := of_decide_eq_true (Bool.and_eq_true_iff.1 hdigit).1
  exact Nat.le_trans (by decide) hzero

theorem printable_writeInteger (n : Int) : Printable (writeInteger n) := by
  rw [writeInteger]
  split
  · exact Printable.cons_iff.2 ⟨by decide, printable_toDigits _⟩
  · exact printable_toDigits _

/-- A decimal is written with digits, a point, signs and the letter of its exponent. -/
theorem printable_write_decimal (layout : DecimalLayout) (number : Decimal) :
    Printable (layout.write number) := by
  have hdigits := printable_toDigits number.digits
  have htake : ∀ n, Printable ((Nat.toDigits 10 number.digits).take n) := fun n ↦
    hdigits.of_subset (List.take_subset n _)
  have hdrop : ∀ n, Printable ((Nat.toDigits 10 number.digits).drop n) := fun n ↦
    hdigits.of_subset (List.drop_subset n _)
  have hzeros : ∀ n, Printable (List.replicate n '0') := fun n ↦ .replicate n (by decide)
  simp only [DecimalLayout.write]
  split_ifs <;>
    simp only [Printable.append_iff, Printable.cons_iff, hdigits, htake, hdrop, hzeros,
      printable_toDigits, Printable.nil, and_true, true_and] <;>
    decide

theorem printable_writeFloat (negative : Bool) (magnitude : Binary64) :
    Printable (writeFloat negative magnitude) := by
  have hdigits : Printable (if magnitude.significand = 0 then "0.0".toList
      else floatLayout.write magnitude.shortest) := by
    split
    · decide
    · exact printable_write_decimal _ _
  simp only [writeFloat]
  split
  · exact Printable.cons_iff.2 ⟨by decide, hdigits⟩
  · exact hdigits

theorem printable_writeScalar (value : Json) : Printable value.writeScalar := by
  cases value with
  | null => decide
  | bool value => cases value <;> decide
  | integer n => exact printable_writeInteger n
  | float negative magnitude => exact printable_writeFloat negative magnitude
  | string s => exact printable_quote s
  | array items => exact .nil
  | object members => exact .nil

/-! ### Values of any depth -/

mutual

/-- **The compact text of a value has no control characters.** -/
theorem printable_compactChars : ∀ value : Json, Printable value.compactChars
  | .array items => by
    rw [compactChars, Printable.append_iff, Printable.cons_iff]
    exact ⟨⟨by decide, printable_compactItems items⟩, by decide⟩
  | .object members => by
    rw [compactChars, Printable.append_iff, Printable.cons_iff]
    exact ⟨⟨by decide, printable_compactMembers members⟩, by decide⟩
  | .null => printable_writeScalar .null
  | .bool value => printable_writeScalar (.bool value)
  | .integer n => printable_writeScalar (.integer n)
  | .float negative magnitude => printable_writeScalar (.float negative magnitude)
  | .string s => printable_writeScalar (.string s)

theorem printable_compactItems : ∀ items : List Json, Printable (compactItems items)
  | [] => .nil
  | [item] => printable_compactChars item
  | item :: second :: rest => by
    rw [compactItems, Printable.append_iff, Printable.cons_iff]
    · exact ⟨printable_compactChars item, by decide, printable_compactItems (second :: rest)⟩
    · simp

theorem printable_compactMembers :
    ∀ members : List (String × Json), Printable (compactMembers members)
  | [] => .nil
  | [(key, value)] => by
    rw [compactMembers, Printable.append_iff, Printable.cons_iff]
    exact ⟨printable_quote key, by decide, printable_compactChars value⟩
  | (key, value) :: second :: rest => by
    rw [compactMembers]
    · simp only [Printable.append_iff, Printable.cons_iff]
      exact ⟨⟨printable_quote key, by decide, printable_compactChars value⟩, by decide,
        printable_compactMembers (second :: rest)⟩
    · simp

end

theorem feed_notMem_compact (value : Json) : '\n' ∉ value.compact.toList := by
  rw [compact, String.toList_ofList]
  exact (printable_compactChars value).feed_notMem

end Json

/-- **A label holds a line feed exactly when it stands for a string that does.** -/
theorem Format.feed_mem_label_iff {value : Json} :
    '\n' ∈ (ofValue value).label.toList ↔ ∃ s, value = .string s ∧ '\n' ∈ s.toList := by
  constructor
  · intro h
    cases value with
    | string s => exact ⟨s, rfl, h⟩
    | null => exact absurd h (by decide)
    | bool value => cases value <;> exact absurd h (by decide)
    | integer n => exact absurd h (Json.feed_notMem_compact (.integer n))
    | float negative magnitude =>
      exact absurd h (Json.feed_notMem_compact (.float negative magnitude))
    | array items => exact absurd h (Json.feed_notMem_compact (.array items))
    | object members => exact absurd h (Json.feed_notMem_compact (.object members))
  · rintro ⟨s, rfl, h⟩
    exact h

end AlignmentTally
