import Reckoner.Text.Blank
import Reckoner.Text.WordCharacter

/-!
# Wrapped text

A text is set in lines of a given width by cutting it into pieces, the words and the
blanks between them, and putting as many pieces on each line as fit. A line may also end
within a word: behind a hyphen between letters, and before and behind a dash of two
hyphens or more. A piece longer than a whole line is cut where the line ends. A blank is
dropped at either end of a line.
-/

namespace Reckoner.Text

/-- The text with each run of ASCII blanks replaced by one space. -/
def singleSpaced : Text → Text
  | [] => []
  | c :: rest =>
    if isAsciiBlank c then
      if rest.head?.any isAsciiBlank then singleSpaced rest else ' ' :: singleSpaced rest
    else c :: singleSpaced rest

/-! ## Pieces -/

/-- Whether a dash may follow a character. -/
def endsWord (c : Char) : Bool :=
  isWordCharacter c || ['!', '"', '\'', '&', '.', ',', '?'].contains c

/-- Whether a text begins with a dash of two hyphens or more and a word behind it. -/
def startsWithDash (s : Text) : Bool :=
  2 ≤ (s.takeWhile (· == '-')).length && (s.dropWhile (· == '-')).head?.any isWordCharacter

/-- Whether a text begins with two letters, perhaps with a hyphen between them. -/
def startsWithLetters : Text → Bool
  | a :: '-' :: b :: _ => isLetter a && isLetter b
  | a :: b :: _ => isLetter a && isLetter b
  | _ => false

/-- Whether a text, read backwards, ends with a hyphen that a line may end with. -/
def endsWithHyphen : Text → Bool
  | '-' :: a :: '-' :: b :: _ => isLetter a && isLetter b
  | '-' :: a :: b :: _ => isLetter a && isLetter b
  | _ => false

/-- Whether a piece ends between two characters. `before` is the text up to there, read
backwards, and `after` is the text from there on. -/
def isSeam (before after : Text) : Bool :=
  match before, after with
  | a :: _, b :: _ =>
    (a == ' ') != (b == ' ') ||
    (endsWord a && startsWithDash after) ||
    (isWordCharacter b && 2 ≤ (before.takeWhile (· == '-')).length &&
      (before.dropWhile (· == '-')).head?.any endsWord) ||
    (endsWithHyphen before && startsWithLetters after)
  | _, _ => false

/-- The pieces of a text behind the text `before`, which is read backwards. -/
def piecesBehind (before : Text) : Text → List Text
  | [] => []
  | c :: rest =>
    match piecesBehind (c :: before) rest with
    | [] => [[c]]
    | piece :: more =>
      if isSeam (c :: before) rest then [c] :: piece :: more else (c :: piece) :: more

/-- The pieces of a text: words and parts of words, and the blanks between them. -/
def pieces (s : Text) : List Text :=
  piecesBehind [] s

/-! ## Lines of pieces -/

/-- As many pieces as there is room for, and the others. -/
def fitting (room : Nat) : List Text → List Text × List Text
  | [] => ([], [])
  | piece :: more =>
    if piece.length ≤ room then
      let (line, rest) := fitting (room - piece.length) more
      (piece :: line, rest)
    else ([], piece :: more)

/-- How much of a long piece to put where there is room for `room` characters of it: up
to its last hyphen there, if something other than hyphens comes before that hyphen. -/
def cutAt (room : Nat) (piece : Text) : Nat :=
  let upToHyphen := ((piece.take room).reverse.dropWhile (· != '-')).reverse
  if upToHyphen.dropLast.any (· != '-') then upToHyphen.length else room

/-- The pieces of the first line, and the others. -/
def firstLine (width : Nat) (ps : List Text) : List Text × List Text :=
  let (line, rest) := fitting width ps
  match rest with
  | piece :: more =>
    if width < piece.length then
      let n := cutAt (width - line.flatten.length) piece
      (line ++ [piece.take n], piece.drop n :: more)
    else (line, piece :: more)
  | [] => (line, [])

/-- Whether a piece is dropped at either end of a line. -/
def isGap (piece : Text) : Bool :=
  piece.all isBlank

/-- The pieces without a gap at their beginning. -/
def withoutFirstGap : List Text → List Text
  | piece :: more => if isGap piece then more else piece :: more
  | [] => []

/-- The pieces without a gap at their end. -/
def withoutLastGap (ps : List Text) : List Text :=
  if ps.getLast?.any isGap then ps.dropLast else ps

/-- The size of some pieces: their characters and their number. -/
def bulk : List Text → Nat
  | [] => 0
  | piece :: more => piece.length + 1 + bulk more

theorem bulk_fitting_le (room : Nat) (ps : List Text) : bulk (fitting room ps).2 ≤ bulk ps := by
  fun_induction fitting room ps with
  | case1 => exact Nat.le_refl _
  | case2 room piece more h line rest hfit ih =>
    simp only [hfit] at ih
    simp only [bulk]
    omega
  | case3 => exact Nat.le_refl _

/-- Pieces are left behind the first only if it fits. -/
theorem bulk_fitting_lt {room : Nat} {piece : Text} (more : List Text)
    (h : piece.length ≤ room) : bulk (fitting room (piece :: more)).2 < bulk (piece :: more) := by
  have := bulk_fitting_le (room - piece.length) more
  simp only [fitting, if_pos h, bulk]
  omega

/-- Where there is room, something of a piece is put. -/
theorem cutAt_pos {room : Nat} (piece : Text) (h : 0 < room) : 0 < cutAt room piece := by
  simp only [cutAt]
  split
  · rename_i hany
    apply List.length_pos_iff.2
    intro hnil
    rw [hnil] at hany
    cases hany
  · exact h

/-- A line takes something of the pieces. -/
theorem bulk_firstLine_lt {width : Nat} (hw : 0 < width) (piece : Text) (more : List Text) :
    bulk (firstLine width (piece :: more)).2 < bulk (piece :: more) := by
  by_cases hfit : piece.length ≤ width
  · have hlt := bulk_fitting_lt more hfit
    simp only [firstLine]
    split
    · rename_i p rest hrest
      rw [hrest] at hlt
      split
      · simp only [bulk, List.length_drop] at hlt ⊢
        omega
      · exact hlt
    · simp only [bulk]
      omega
  · have hpos := cutAt_pos piece hw
    have hcut : firstLine width (piece :: more) =
        ([] ++ [piece.take (cutAt width piece)], piece.drop (cutAt width piece) :: more) := by
      simp only [firstLine, fitting, if_neg hfit]
      rw [if_pos (by omega)]
      rfl
    rw [hcut]
    simp only [bulk, List.length_drop]
    omega

theorem bulk_withoutFirstGap_le (ps : List Text) : bulk (withoutFirstGap ps) ≤ bulk ps := by
  cases ps with
  | nil => exact Nat.le_refl _
  | cons piece more =>
    simp only [withoutFirstGap]
    split
    · simp only [bulk]
      omega
    · exact Nat.le_refl _

/-- What is left behind the first line is less than there was. -/
theorem bulk_behind_lt {width : Nat} (hw : 0 < width) (piece : Text) (more : List Text) :
    bulk (firstLine width (withoutFirstGap (piece :: more))).2 < bulk (piece :: more) := by
  cases h : withoutFirstGap (piece :: more) with
  | nil =>
    simp only [firstLine, fitting, bulk]
    omega
  | cons p rest =>
    have hle := bulk_withoutFirstGap_le (piece :: more)
    rw [h] at hle
    exact Nat.lt_of_lt_of_le (bulk_firstLine_lt hw p rest) hle

/-- The lines that some pieces are set in. -/
def setInLines (width : Nat) (hw : 0 < width) : List Text → List Text
  | [] => []
  | piece :: more =>
    let set := firstLine width (withoutFirstGap (piece :: more))
    let line := withoutLastGap set.1
    let below := setInLines width hw set.2
    if line.isEmpty then below else line.flatten :: below
termination_by ps => bulk ps
decreasing_by exact bulk_behind_lt hw piece more

/-- A text in lines of a width, blanks at its ends left out. -/
def wrapped (s : Text) (width : Nat) (hw : 0 < width := by decide) : List Text :=
  setInLines width hw (pieces s.singleSpaced.trim)

end Reckoner.Text
