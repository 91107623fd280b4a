import Reckoner.Proofs.Readings
import Reckoner.Proofs.Tokenization

/-!
# Layouts (writing a tree down and reading it back)

A grouped tree is written flat: the symbols that are read off it, in their order and
without parentheses, with any spacing around them (`Layout`). Numbers are written as
plain numerals. Parsing what is written gives the tree again, however it is laid out.

* `Lexer.significants_layout`: the significant tokens of what is written are the symbols.
  The invariant of the induction is that no two numbers stand side by side (`Parted`),
  because these alone would run together.
* `Scan.subtree_spelled`: from tokens that spell a grouped tree, the tree is read.
* `parse_layout`: hence parsing undoes writing.
-/

namespace Reckoner

open Lexer (isSpacing isNumeric)

/-! ## Writing -/

/-- The texts that a symbol is written as: a number as a numeral of digits with at most
one point, an operator as its sign. -/
inductive Symbol.Written : Symbol → Text → Prop
  | number {x : Float} {s : Text} : (∀ c ∈ s, isNumeric c = true) → s.count '.' ≤ 1 →
      (∃ c ∈ s, Number.isDigit c = true) → Number.read? s = some x → Written (.number x) s
  | operator {o : Operator} : o.isBinary = true → Written (.operator o) o.symbol

/-- Symbols written one behind the other, with spacing or none before, between and behind
them. -/
inductive Layout : List Symbol → Text → Prop
  | nil {gap : Text} : (∀ c ∈ gap, isSpacing c = true) → Layout [] gap
  | cons {gap w text : Text} {s : Symbol} {symbols : List Symbol} :
      (∀ c ∈ gap, isSpacing c = true) → s.Written w → Layout symbols text →
      Layout (s :: symbols) (gap ++ w ++ text)

/-- Two symbols that are not both numbers. -/
def Symbol.Parted (a b : Symbol) : Prop :=
  ∀ x y, a = .number x → b ≠ .number y

/-- Numbers never stand side by side in what is read off a tree. -/
theorem Node.Grouped.parted {n : Node} (h : n.Grouped) : n.reading.IsChain Symbol.Parted := by
  induction h with
  | operand hop =>
      cases hop with
      | value x => exact .singleton _
      | negated x => exact .cons_cons (fun _ _ h => by cases h) (.singleton _)
  | @binary left right o _ _ _ _ _ ihleft ihright =>
      -- the operator between the operands is next to the last number and to the first one
      show (left.reading ++ [Symbol.operator o] ++ right.reading).IsChain Symbol.Parted
      rw [List.append_assoc, List.singleton_append]
      refine List.isChain_append.mpr ⟨ihleft, List.isChain_cons.mpr ⟨?_, ihright⟩, ?_⟩
      · intro b _ x y hnumber
        cases hnumber
      · intro a _ b hb x y _ hnumber
        obtain rfl : Symbol.operator o = b := Option.some.inj hb
        cases hnumber

theorem Node.Grouped.reading_ne_nil {n : Node} (hn : n.Grouped) : n.reading ≠ [] := by
  induction hn with
  | operand hop => cases hop <;> exact List.cons_ne_nil _ _
  | binary _ _ _ _ _ ihleft _ =>
      intro h
      exact ihleft (List.append_eq_nil_iff.mp (List.append_eq_nil_iff.mp h).1).1

/-! ## From the text to its tokens -/

/-- The sign of a binary operator is a token that stands for it. -/
theorem Operator.symbol_eq {o : Operator} (h : o.isBinary = true) :
    ∃ c k, o.symbol = [c] ∧ (c, k) ∈ TokenKind.singles ∧ ofKind? k = some o := by
  cases o with
  | identity => cases h
  | add => exact ⟨'+', .plus, rfl, by decide, rfl⟩
  | subtract => exact ⟨'-', .minus, rfl, by decide, rfl⟩
  | multiply => exact ⟨'*', .times, rfl, by decide, rfl⟩
  | divide => exact ⟨'/', .slash, rfl, by decide, rfl⟩
  | exponentiate => exact ⟨'^', .caret, rfl, by decide, rfl⟩

namespace Symbol.Written

variable {s : Symbol} {w : Text}

/-- What a symbol is written as does not begin with spacing, and with a digit or a point
only if the symbol is a number. -/
theorem head (h : s.Written w) : ∃ c rest, w = c :: rest ∧ isSpacing c = false ∧
    (isNumeric c = true → ∃ x, s = .number x) := by
  cases h with
  | @number x _ hrun _ hdigit _ =>
      cases w with
      | nil =>
          obtain ⟨c, hc, -⟩ := hdigit
          cases hc
      | cons c rest =>
          have hspacing := TokenKind.isSpacing_of_isNumeric (hrun c List.mem_cons_self)
          exact ⟨c, rest, rfl, hspacing, fun _ => ⟨x, rfl⟩⟩
  | operator ho =>
      obtain ⟨c, k, hsymbol, hmem, -⟩ := Operator.symbol_eq ho
      obtain ⟨hspacing, hnumeric, -⟩ := TokenKind.classes_of_mem_singles hmem
      refine ⟨c, [], hsymbol, hspacing, fun h => ?_⟩
      rw [hnumeric] at h
      cases h

/-- A symbol is taken off as one token that stands for it, unless it is a number and more
digits follow. -/
theorem munch (h : s.Written w) {more : Text}
    (hmore : ∀ x, s = .number x → ∀ c ∈ more.head?, isNumeric c = false) :
    ∃ k, Text.Munch (w ++ more) k w more ∧ k ≠ .whitespace ∧
      ∀ {source : Text} {t : Token}, t.kind = k → t.text source = w →
        t.symbol? source = some s := by
  obtain ⟨d, rest, hw, hspacing, -⟩ := h.head
  have hno (hrun : Text.Run isSpacing w) (c : Char) (_ : c ∈ more.head?) :
      isSpacing c = false := by
    rw [hrun.all d (by rw [hw]; exact List.mem_cons_self)] at hspacing
    cases hspacing
  cases h with
  | @number x _ hnumeric hpoints _ hread =>
      have hrun : Text.Run isNumeric w := ⟨by rw [hw]; exact List.cons_ne_nil _ _, hnumeric⟩
      refine ⟨.number, ⟨rfl, .number hrun hpoints, hno, fun _ => hmore x rfl⟩, by decide, ?_⟩
      intro source t hkind htext
      rw [← htext] at hread
      exact Token.symbol?_of_number hkind hread
  | @operator o ho =>
      obtain ⟨c, k, hsymbol, hmem, hkind⟩ := Operator.symbol_eq ho
      rw [hsymbol] at hno ⊢
      refine ⟨k, ⟨rfl, .single hmem, hno, ?_⟩, ?_, ?_⟩
      · intro hrun
        have hc := hrun.head
        rw [(TokenKind.classes_of_mem_singles hmem).2.1] at hc
        cases hc
      · rintro rfl
        cases hkind
      · intro source t ht _
        exact Token.symbol?_of_operator (by rw [ht]; exact hkind)

end Symbol.Written

/-- What is written begins with a digit or a point only if a number comes first. -/
theorem Layout.head_numeric {symbols : List Symbol} {text : Text} (h : Layout symbols text)
    (hfirst : ∀ x, some (.number x) ≠ symbols.head?) : ∀ c ∈ text.head?, isNumeric c = false := by
  intro c hc
  have hgap {gap : Text} (hspace : ∀ d ∈ gap, isSpacing d = true) (hmem : c ∈ gap) :
      isNumeric c = false :=
    TokenKind.isNumeric_of_isSpacing (hspace c hmem)
  cases h with
  | nil hspace => exact hgap hspace (List.mem_of_mem_head? hc)
  | @cons gap w text s symbols hspace hwritten _ =>
      cases gap with
      | cons d gap =>
          obtain rfl : d = c := Option.some.inj hc
          exact hgap hspace List.mem_cons_self
      | nil =>
          obtain ⟨d, rest, rfl, -, hnumber⟩ := hwritten.head
          obtain rfl : d = c := Option.some.inj hc
          cases hnumeric : isNumeric d with
          | false => rfl
          | true =>
              obtain ⟨x, rfl⟩ := hnumber hnumeric
              exact absurd rfl (hfirst x)

namespace Lexer

variable {l : Lexer}

theorem significants_of_whitespace {t : Token} {l' : Lexer} (h : l.next = (t, l'))
    (ht : t.kind = .whitespace) : l.significants = l'.significants := by
  unfold significants
  have hkind : l.next.1.kind = .whitespace := by rw [h]; exact ht
  rw [drain_of_ne_eof (by rw [hkind]; decide), List.filter_cons_of_neg (by simp [hkind]), h]

theorem significants_of_token {t : Token} {l' : Lexer} (h : l.next = (t, l'))
    (hspace : t.kind ≠ .whitespace) (heof : t.kind ≠ .eof) :
    l.significants = t :: l'.significants := by
  unfold significants
  rw [drain_of_ne_eof (by rw [h]; exact heof), h, List.filter_cons_of_pos (by simpa using hspace)]

theorem rest_advance (l : Lexer) (n : Nat) : (l.advance n).rest = l.rest.drop n :=
  List.drop_drop.symm

theorem rest_advance_of_split {w more : Text} (h : l.rest = w ++ more) :
    (l.advance w.length).rest = more := by
  rw [rest_advance, h]
  exact List.drop_left

/-- Spacing ahead is passed over. -/
theorem significants_gap {gap more : Text} (hrest : l.rest = gap ++ more)
    (hgap : ∀ c ∈ gap, isSpacing c = true) (hmore : ∀ c ∈ more.head?, isSpacing c = false) :
    l.significants = (l.advance gap.length).significants := by
  by_cases hnil : gap = []
  · rw [hnil]
    rfl
  · have hrun : Text.Run isSpacing gap := ⟨hnil, hgap⟩
    have hmunch : Text.Munch l.rest .whitespace gap more := by
      refine ⟨hrest, .spacing hrun, fun _ => hmore, fun hnumeric => ?_⟩
      obtain ⟨c, hc⟩ := List.exists_mem_of_ne_nil gap hnil
      have hnot := TokenKind.isNumeric_of_isSpacing (hgap c hc)
      rw [hnumeric.all c hc] at hnot
      cases hnot
    exact significants_of_whitespace (next_of_munch hmunch) rfl

/-- The significant tokens of what is written stand for its symbols, and the end token is
behind them. -/
theorem significants_layout {symbols : List Symbol} (h : Layout symbols l.rest)
    (hparted : symbols.IsChain Symbol.Parted) :
    ∃ tokens last, l.significants = tokens ++ [last] ∧ last.kind = .eof ∧
      tokens.map (Token.symbol? l.source) = symbols.map some := by
  obtain ⟨text, htext⟩ : ∃ text, text = l.rest := ⟨_, rfl⟩
  rw [← htext] at h
  induction h generalizing l with
  | @nil gap hgap =>
      have hsplit : l.rest = gap ++ [] := by rw [List.append_nil, htext]
      have hnext := next_of_nil (rest_advance_of_split hsplit)
      rw [significants_gap hsplit hgap (by simp)]
      refine ⟨[], (l.advance gap.length).next.1, ?_, by rw [hnext], rfl⟩
      unfold significants
      rw [drain_of_eof (by rw [hnext]), hnext]
      rfl
  | @cons gap w text s symbols hgap hwritten hlayout ih =>
      obtain ⟨hnext, hparted⟩ := List.isChain_cons.mp hparted
      rw [List.append_assoc] at htext
      have hstart := rest_advance_of_split htext.symm
      -- the spacing is passed over, and the symbol taken off behind it
      obtain ⟨c, rest, hw, hspacing, -⟩ := hwritten.head
      rw [significants_gap htext.symm hgap (by rw [hw]; simpa using hspacing)]
      have hmore : ∀ x, s = .number x → ∀ c ∈ text.head?, isNumeric c = false := by
        intro x hx
        refine hlayout.head_numeric fun y hy => ?_
        exact hnext (.number y) hy.symm x y hx rfl
      obtain ⟨k, hmunch, hspace, hsymbol⟩ := hwritten.munch hmore
      rw [← hstart] at hmunch
      have htaken := next_of_munch hmunch
      have hbehind := rest_advance_of_split hmunch.split
      obtain ⟨tokens, last, htokens, hlast, hmap⟩ := ih hparted hbehind.symm
      rw [significants_of_token htaken hspace hmunch.spells.ne_eof, htokens]
      refine ⟨_ :: tokens, last, rfl, hlast, ?_⟩
      rw [List.map_cons, List.map_cons, ← hmap]
      exact congrArg (· :: _) (hsymbol rfl (Token.text_of_munch hmunch))

end Lexer

/-! ## From the tokens to the tree -/

namespace Token

variable {source : Text} {t : Token}

theorem eq_of_symbol?_number {x : Float} (h : t.symbol? source = some (.number x)) :
    t.kind = .number ∧ Number.read? (t.text source) = some x := by
  unfold symbol? at h
  split at h
  · rename_i hkind
    obtain ⟨y, hy, hyx⟩ := Option.map_eq_some_iff.mp h
    cases hyx
    exact ⟨hkind, hy⟩
  · obtain ⟨o, -, ho⟩ := Option.map_eq_some_iff.mp h
    cases ho

theorem eq_of_symbol?_operator {o : Operator} (h : t.symbol? source = some (.operator o)) :
    Operator.ofKind? t.kind = some o := by
  unfold symbol? at h
  split at h
  · obtain ⟨x, -, hx⟩ := Option.map_eq_some_iff.mp h
    cases hx
  · obtain ⟨p, hp, hpo⟩ := Option.map_eq_some_iff.mp h
    cases hpo
    exact hp

/-- A token that stands for something is neither unknown nor the end. -/
theorem kind_of_symbol? {s : Symbol} (h : t.symbol? source = some s) :
    t.kind ≠ .unknown ∧ t.kind ≠ .eof := by
  constructor
  all_goals
    intro hkind
    simp [symbol?, hkind, Operator.ofKind?] at h

end Token

namespace Scan

variable {source : Text} {tokens rest : List Token}

theorem pull_of_pulled (h : Pulled tokens) : pull source tokens = .ok tokens := by
  obtain ⟨t, rest, rfl, ht⟩ := h
  exact if_neg ht

/-- Behind tokens that stand for something there is something that can be pulled, if
there is behind all of them. -/
theorem pulled_append {symbols : List Symbol}
    (htokens : tokens.map (Token.symbol? source) = symbols.map some) (hrest : Pulled rest) :
    Pulled (tokens ++ rest) := by
  cases tokens with
  | nil => exact hrest
  | cons t tokens =>
      obtain ⟨s, _, -, hs, -⟩ := List.map_eq_cons_iff.mp htokens.symm
      exact ⟨t, tokens ++ rest, rfl, (Token.kind_of_symbol? hs.symm).1⟩

theorem literal_spelled {t : Token} {x : Float} (h : t.symbol? source = some (.number x))
    (hrest : Pulled rest) (node : Float → Node) :
    literal source node (t :: rest) = .ok (node x, rest) := by
  obtain ⟨hkind, hread⟩ := Token.eq_of_symbol?_number h
  have hnumeral : numeral source t = .ok x := by
    unfold numeral
    rw [hread]
  rw [literal_of_number source hkind, pull_of_pulled hrest, hnumeral]
  rfl

/-- From tokens that spell an operand, the operand is read. -/
theorem operand_spelled {n : Node} (hn : n.IsOperand)
    (htokens : tokens.map (Token.symbol? source) = n.reading.map some) (hrest : Pulled rest) :
    operand source (tokens ++ rest) = .ok (n, rest) := by
  cases hn with
  | value x =>
      obtain ⟨t, more, rfl, ht, hmore⟩ := List.map_eq_cons_iff.mp htokens
      obtain rfl := List.map_eq_nil_iff.mp hmore
      have hminus : t.kind ≠ .minus := by
        rw [(Token.eq_of_symbol?_number ht).1]
        decide
      rw [List.singleton_append, operand_of_ne_minus source hminus]
      exact literal_spelled ht hrest .value
  | negated x =>
      obtain ⟨m, more, rfl, hm, hmore⟩ := List.map_eq_cons_iff.mp htokens
      obtain ⟨t, more, rfl, ht, hmore⟩ := List.map_eq_cons_iff.mp hmore
      obtain rfl := List.map_eq_nil_iff.mp hmore
      have hminus : m.kind = .minus := by
        have hkind := Token.eq_of_symbol?_operator hm
        revert hkind
        cases m.kind <;> simp [Operator.ofKind?]
      have hpulled : Pulled (t :: rest) := ⟨t, rest, rfl, (Token.kind_of_symbol? ht).1⟩
      show operand source (m :: t :: rest) = _
      rw [operand_of_minus source hminus, pull_of_pulled hpulled]
      exact literal_spelled ht hrest negative

/-- From tokens that spell links, the links are read, if no operator is behind them. -/
theorem links_spelled {more : List (Operator × Node)}
    (hmore : ∀ link ∈ more, link.1.isBinary = true ∧ link.2.IsOperand)
    (htokens : tokens.map (Token.symbol? source) = (Chain.linksReading more).map some)
    (hrest : Pulled rest) (hhalted : Halted 1 rest) :
    links source 1 (tokens ++ rest) = .ok (more, rest) := by
  induction more generalizing tokens with
  | nil =>
      obtain rfl := List.map_eq_nil_iff.mp htokens
      exact links_of_halted source hhalted
  | cons link more ih =>
      obtain ⟨o, x⟩ := link
      obtain ⟨-, hx⟩ := hmore (o, x) List.mem_cons_self
      have hreading : Chain.linksReading ((o, x) :: more) =
          .operator o :: (x.reading ++ Chain.linksReading more) := rfl
      rw [hreading, List.map_cons, List.map_append] at htokens
      obtain ⟨t, behind, rfl, ht, hbehind⟩ := List.map_eq_cons_iff.mp htokens
      obtain ⟨first, others, rfl, hfirst, hothers⟩ := List.map_eq_append_iff.mp hbehind
      have hpulled := pulled_append hothers hrest
      have ho := Token.eq_of_symbol?_operator ht
      have hoperand : operandBehind source (first ++ (others ++ rest)) =
          .ok (x, others ++ rest) := by
        unfold operandBehind
        rw [pull_of_pulled (pulled_append hfirst hpulled)]
        exact operand_spelled hx hfirst hpulled
      have hlater := ih (fun link hlink => hmore link (List.mem_cons_of_mem _ hlink)) hothers
      show links source 1 (t :: (first ++ others ++ rest)) = _
      rw [links_of_le source ho (Operator.rank_pos_of_ofKind? ho), List.append_assoc, hoperand]
      show (links source 1 (others ++ rest)).map _ = _
      rw [hlater]
      rfl

/-- From tokens that spell a grouped tree, the tree is read, if no operator is behind
them. -/
theorem subtree_spelled_onward {n : Node} (hn : n.Grouped)
    (htokens : tokens.map (Token.symbol? source) = n.reading.map some)
    (hrest : Pulled rest) (hhalted : Halted 1 rest) :
    subtree source 1 (tokens ++ rest) = .ok (n, rest) := by
  have hplain := hn.plain_chain
  rw [← hn.reading_chain] at htokens
  unfold Chain.reading at htokens
  rw [List.map_append] at htokens
  obtain ⟨first, others, rfl, hfirst, hothers⟩ := List.map_eq_append_iff.mp htokens
  unfold subtree
  rw [List.append_assoc, operand_spelled hplain.first hfirst (pulled_append hothers hrest)]
  show (links source 1 (others ++ rest)).map _ = _
  rw [links_spelled hplain.links hothers hrest hhalted]
  show Except.ok (n.chain.tree, rest) = _
  rw [hn.tree_chain]

theorem subtree_spelled {n : Node} (hn : n.Grouped)
    (htokens : tokens.map (Token.symbol? source) = n.reading.map some)
    {last : Token} (hlast : last.kind = .eof) :
    subtree source 1 (tokens ++ [last]) = .ok (n, [last]) :=
  subtree_spelled_onward hn htokens ⟨last, [], rfl, by rw [hlast]; decide⟩
    (halted_of_ended ⟨last, rfl, hlast⟩)

end Scan

/-- A grouped tree that is written down in any layout is what parsing the text gives,
whether the parser is strict or not. -/
theorem Parser.parse_layout {n : Node} (hn : n.Grouped) {source : Text}
    (hsource : Layout n.reading source) (p : Parser) :
    ((Parser.parse source).run p).outcome = .ok (some n) := by
  obtain ⟨tokens, last, htokens, hlast, hmap⟩ :=
    (Lexer.ofText source).significants_layout hsource hn.parted
  have hall : Token.significant source = tokens ++ [last] := htokens
  have hmap : tokens.map (Token.symbol? source) = n.reading.map some := hmap
  have hlasts : Scan.Pulled [last] := ⟨last, [], rfl, by rw [hlast]; decide⟩
  -- some token comes first, and it is not the end
  have hfirst : (tokens ++ [last]).head?.map (·.kind) ≠ some .eof := by
    cases tokens with
    | nil => exact absurd (List.map_eq_nil_iff.mp hmap.symm) hn.reading_ne_nil
    | cons t tokens =>
        obtain ⟨s, _, -, hs, -⟩ := List.map_eq_cons_iff.mp hmap.symm
        intro heof
        exact (Token.kind_of_symbol? hs.symm).2 (Option.some.inj heof)
  rw [outcome_parse]
  unfold Scan.parse
  rw [hall, Scan.pull_of_pulled (Scan.pulled_append hmap hlasts)]
  show (if _ then _ else _) = _
  rw [if_neg hfirst, Scan.subtree_spelled hn hmap hlast]
  show (Scan.finish source p.strict [last] >>= fun _ => Except.ok (some n)) = _
  rw [show Scan.finish source p.strict [last] = .ok () from if_pos hlast]
  rfl

/-- All three levels, a minus sign of either kind and gaps of every kind. -/
theorem Parser.parse_layout_mixed :
    ((Parser.parse " 1.5 -\t2*- 3^.5\r\n").run (.new true)).outcome =
      .ok (some (.binary (.value 1.5)
        (.binary (.value 2)
          (.binary (.unary 3 (some .subtract)) (.value 0.5) (some .exponentiate))
          (some .multiply))
        (some .subtract))) := by
  have hpieces : (" 1.5 -\t2*- 3^.5\r\n" : Text) =
      " " ++ "1.5" ++ (" " ++ "-" ++ ("\t" ++ "2" ++ ("" ++ "*" ++ ("" ++ "-" ++
        (" " ++ "3" ++ ("" ++ "^" ++ ("" ++ ".5" ++ "\r\n"))))))) := by
    decide +kernel
  have hgap {gap : Text} (h : gap.all isSpacing = true) : ∀ c ∈ gap, isSpacing c = true :=
    List.all_eq_true.mp h
  have hnumber {x : Float} {w : Text} (hrun : w.all isNumeric = true) (hpoints : w.count '.' ≤ 1)
      (hdigit : w.any Number.isDigit = true) (hread : Number.read? w = some x) :
      (Symbol.number x).Written w :=
    .number (List.all_eq_true.mp hrun) hpoints (List.any_eq_true.mp hdigit) hread
  rw [hpieces]
  refine parse_layout ?_ ?_ (.new true)
  · exact .binary rfl (.operand (.value _)) (.binary rfl (.operand (.value _))
      (.binary rfl (.operand (.negated _)) (.operand (.value _)) (by decide) (by decide))
      (by decide) (by decide)) (by decide) (by decide)
  · refine .cons (hgap (by decide)) (hnumber (by decide) (by decide) (by decide) (by decide +kernel)) ?_
    refine .cons (hgap (by decide)) (.operator (o := .subtract) rfl) ?_
    refine .cons (hgap (by decide)) (hnumber (by decide) (by decide) (by decide) (by decide +kernel)) ?_
    refine .cons (hgap (by decide)) (.operator (o := .multiply) rfl) ?_
    refine .cons (hgap (by decide)) (.operator (o := .subtract) rfl) ?_
    refine .cons (hgap (by decide)) (hnumber (by decide) (by decide) (by decide) (by decide +kernel)) ?_
    refine .cons (hgap (by decide)) (.operator (o := .exponentiate) rfl) ?_
    refine .cons (hgap (by decide)) (hnumber (by decide) (by decide) (by decide) (by decide +kernel)) ?_
    exact .nil (hgap (by decide))

end Reckoner
