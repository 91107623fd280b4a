/-!
# Texts (characters counted one by one)

A text is the list of its characters, so every position, length and slice in the
library counts whole characters and no encoding shows through. String literals
coerce to texts; only the outermost layer turns a text back into a `String`.

`slice` is the one way to cut a span out of a text. It never fails: a place beyond
an end is that end, and a negative place counts from the back.
-/

namespace Reckoner

/-- A text, character by character. -/
abbrev Text := List Char

instance : Coe String Text := ⟨String.toList⟩

namespace Text

/-- Where place `i` falls among `n` characters: a negative place counts from the
back, and a place beyond either end stops at that end. -/
def place (n : Nat) (i : Int) : Nat :=
  if i < 0 then (n + i).toNat else min i.toNat n

/-- The characters of `s` from place `lo` up to, but not including, place `hi`. -/
def slice (s : Text) (lo hi : Int) : Text :=
  (s.take (place s.length hi)).drop (place s.length lo)

/-- Between two places counted from the front, `slice` drops and takes. -/
theorem slice_natCast (s : Text) (lo n : Nat) :
    slice s lo (lo + n) = (s.drop lo).take n := by
  simp only [slice, place, List.drop_take]
  rw [if_neg (by omega), if_neg (by omega), List.drop_eq_drop_min (i := lo)]
  simp only [Int.toNat_natCast]
  rw [List.take_eq_take_min (i := n)]
  rw [List.take_eq_take_min]
  congr 1
  simp only [List.length_drop]
  omega

/-- The decimal digits of a natural number. -/
def ofNat (n : Nat) : Text :=
  Nat.toDigits 10 n

/-- The decimal digits of an integer, after a minus sign if it is negative. -/
def ofInt : Int → Text
  | .ofNat n => ofNat n
  | .negSucc n => '-' :: ofNat (n + 1)

/-- The texts of a list one after another. -/
def joined (parts : List Text) : Text :=
  parts.flatten

/-- The texts of a list one after another, with `gap` between neighbours. -/
def joinWith (gap : Text) (parts : List Text) : Text :=
  joined (parts.intersperse gap)

end Text

end Reckoner
