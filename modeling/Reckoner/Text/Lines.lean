import Reckoner.Text.Basic

/-!
# Lines

Every line ends at a line feed; a last line need not have one, and a text that ends
with a line feed has no empty line after it. A text from a file or a terminal may mark
its line ends in two other ways, which `withLineFeeds` turns into line feeds first.
-/

namespace Reckoner.Text

/-- The lines of a text, without their line feeds. -/
def lines : Text → List Text
  | [] => []
  | '\n' :: rest => [] :: lines rest
  | c :: rest =>
    match lines rest with
    | [] => [[c]]
    | line :: more => (c :: line) :: more

/-- What the lines of a text are: each but the last ends at a line feed, and the last one
does so too or is not empty. -/
inductive Lined : List Text → Text → Prop
  | nil : Lined [] []
  | last {line : Text} : line ≠ [] → '\n' ∉ line → Lined [line] line
  | cons {line rest : Text} {more : List Text} : '\n' ∉ line → Lined more rest →
      Lined (line :: more) (line ++ '\n' :: rest)

theorem lines_cons_of_ne {c : Char} (hc : c ≠ '\n') (rest : Text) : lines (c :: rest) =
    match lines rest with
    | [] => [[c]]
    | line :: more => (c :: line) :: more := by
  rw [lines.eq_def]
  split
  · rename_i h
    cases h
  · rename_i h
    exact absurd (List.cons.inj h).1 hc
  · rename_i h
    obtain ⟨rfl, rfl⟩ := List.cons.inj h
    rfl

theorem lines_append_feed {line : Text} (h : '\n' ∉ line) (rest : Text) :
    lines (line ++ '\n' :: rest) = line :: lines rest := by
  induction line with
  | nil => rfl
  | cons c line ih =>
      rw [List.mem_cons, not_or] at h
      rw [List.cons_append, lines_cons_of_ne (Ne.symm h.1), ih h.2]

theorem lines_of_not_mem {line : Text} (hne : line ≠ []) (h : '\n' ∉ line) :
    lines line = [line] := by
  induction line with
  | nil => exact absurd rfl hne
  | cons c line ih =>
      rw [List.mem_cons, not_or] at h
      rw [lines_cons_of_ne (Ne.symm h.1)]
      cases line with
      | nil => rfl
      | cons d line => rw [ih (List.cons_ne_nil _ _) h.2]

/-- A text has its lines and no others. -/
theorem lined_iff {ls : List Text} {s : Text} : Lined ls s ↔ s.lines = ls := by
  constructor
  · intro h
    induction h with
    | nil => rfl
    | last hne hline => exact lines_of_not_mem hne hline
    | cons hline _ ih => rw [lines_append_feed hline, ih]
  · rintro rfl
    induction s with
    | nil => exact .nil
    | cons c s ih =>
        by_cases hc : c = '\n'
        · subst hc
          exact @Lined.cons [] _ _ List.not_mem_nil ih
        · rw [lines_cons_of_ne hc]
          generalize lines s = ls at ih ⊢
          cases ih with
          | nil => exact .last (List.cons_ne_nil _ _) (by simpa using Ne.symm hc)
          | last hne hline =>
              exact .last (List.cons_ne_nil _ _) (by simpa using ⟨Ne.symm hc, hline⟩)
          | cons hline hrest =>
              exact @Lined.cons (c :: _) _ _ (by simpa using ⟨Ne.symm hc, hline⟩) hrest

/-- The text with each carriage return, and each carriage return with its line feed,
replaced by one line feed. -/
def withLineFeeds : Text → Text
  | [] => []
  | '\r' :: '\n' :: rest => '\n' :: withLineFeeds rest
  | '\r' :: rest => '\n' :: withLineFeeds rest
  | c :: rest => c :: withLineFeeds rest

end Reckoner.Text
