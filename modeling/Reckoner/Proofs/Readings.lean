import Reckoner.Proofs.NestedLevels

/-!
# Readings of trees (no token lost, doubled or moved)

A tree that the parser makes is read, from left to right, as the tokens that it has
consumed (`Spelled`): a number for every number token and an operator for every operator
token, in their order. The one symbol that no token stands for is a zero in the place of
the last operand, where the input has ended.

* `Scan.operand_found`, `Scan.links_found`: what one operand, and what a run of links,
  takes off the tokens is what is read off it. Behind a missing operand the end of the
  input is ahead, so no link follows it (`Found.links`).
* `Spelled.eq_of_grouped`: two grouped trees that are spelled by the same tokens are
  equal.
* `parse_matches`: a parsed source is a grouped tree that is spelled by the tokens up
  to the place where the parser may stop (`Stops`), and no other tree is.
-/

namespace Reckoner

/-! ## What tokens spell -/

/-- The symbol that a token stands for in `source`. -/
def Token.symbol? (source : Text) (t : Token) : Option Symbol :=
  match t.kind with
  | .number => (Number.read? (t.text source)).map .number
  | kind => (Operator.ofKind? kind).map .operator

/-- What is ahead is the end of the input. -/
def Ended (rest : List Token) : Prop :=
  ∃ t, rest = [t] ∧ t.kind = .eof

/-- What the tokens `consumed` spell if `rest` is ahead: a symbol for each of them, and
where the input has ended possibly one zero more. -/
inductive Spelled (source : Text) (consumed rest : List Token) : List Symbol → Prop
  | whole {symbols : List Symbol} :
      consumed.map (Token.symbol? source) = symbols.map some →
      Spelled source consumed rest symbols
  | short (symbols : List Symbol) :
      consumed.map (Token.symbol? source) = symbols.map some → Ended rest →
      Spelled source consumed rest (symbols ++ [.number 0])

/-- Where a parser may stop: at the end of the input or, unless it is strict, before a
number or a parenthesis. -/
inductive Stops (strict : Bool) (rest : List Token) : Prop
  | ended : Ended rest → Stops strict rest
  | before {t : Token} {tail : List Token} : strict = false → rest = t :: tail →
      t.kind = .number ∨ t.kind = .leftParen ∨ t.kind = .rightParen → Stops strict rest

/-- The tree is one that the consumed tokens stand for: it is read as they spell, and
its operators are grouped by how tightly they bind. -/
structure Node.Matches (n : Node) (source : Text) (consumed rest : List Token) : Prop where
  spelled : Spelled source consumed rest n.reading
  grouped : n.Grouped

namespace Token

variable {source : Text} {t : Token}

theorem symbol?_of_number (h : t.kind = .number) {x : Float}
    (hx : Number.read? (t.text source) = some x) : t.symbol? source = some (.number x) := by
  simp [symbol?, h, hx]

theorem symbol?_of_operator {o : Operator} (h : Operator.ofKind? t.kind = some o) :
    t.symbol? source = some (.operator o) := by
  unfold symbol?
  split
  · rename_i hnumber
    rw [hnumber] at h
    cases h
  · rw [h]
    rfl

/-- Nothing stands behind the end token of a text. -/
theorem ended_of_suffix {tail : List Token} (hsuffix : t :: tail <:+ significant source)
    (ht : t.kind = .eof) : Ended (t :: tail) := by
  obtain ⟨before, hbefore⟩ := hsuffix
  have htail : tail = [] := ((Lexer.ofText source).significants_behind hbefore.symm).mpr ht
  exact ⟨t, by rw [htail], ht⟩

end Token

namespace Spelled

variable {source : Text} {consumed rest : List Token} {s : Symbol} {symbols : List Symbol}

theorem nil : Spelled source [] rest [] :=
  .whole rfl

theorem cons {t : Token} (ht : t.symbol? source = some s)
    (h : Spelled source consumed rest symbols) :
    Spelled source (t :: consumed) rest (s :: symbols) := by
  cases h with
  | whole hmap => exact .whole (by rw [List.map_cons, ht, hmap]; rfl)
  | short symbols hmap hended =>
      exact .short (s :: symbols) (by rw [List.map_cons, ht, hmap]; rfl) hended

/-- What the same tokens spell differs by a zero at the end, if at all. -/
theorem exists_append_eq {u v : List Symbol} (hu : Spelled source consumed rest u)
    (hv : Spelled source consumed rest v) :
    ∃ s t, Symbol.Ceasing s ∧ Symbol.Ceasing t ∧ u ++ s = v ++ t := by
  -- every token spells one symbol, so what all of them spell is determined
  have hsame {u v : List Symbol} (hu : consumed.map (Token.symbol? source) = u.map some)
      (hv : consumed.map (Token.symbol? source) = v.map some) : u = v :=
    (List.map_inj_right fun _ _ => Option.some.inj).mp (hu.symm.trans hv)
  cases hu with
  | whole hu =>
      cases hv with
      | whole hv => exact ⟨[], [], Symbol.ceasing_nil, Symbol.ceasing_nil, by rw [hsame hu hv]⟩
      | short _ hv _ =>
          exact ⟨[.number 0], [], Symbol.ceasing_number 0 [], Symbol.ceasing_nil, by
            rw [hsame hu hv, List.append_nil]⟩
  | short _ hu _ =>
      cases hv with
      | whole hv =>
          exact ⟨[], [.number 0], Symbol.ceasing_nil, Symbol.ceasing_number 0 [], by
            rw [hsame hu hv, List.append_nil]⟩
      | short _ hv _ =>
          exact ⟨[], [], Symbol.ceasing_nil, Symbol.ceasing_nil, by rw [hsame hu hv]⟩

/-- Two grouped trees spelled by the same tokens are equal: a zero more cannot tell them
apart, because two numbers never stand side by side in what is read off a tree. -/
theorem eq_of_grouped {a b : Node} (ha : a.Grouped) (hb : b.Grouped)
    (hsa : Spelled source consumed rest a.reading)
    (hsb : Spelled source consumed rest b.reading) : a = b := by
  obtain ⟨s, t, hs, ht, h⟩ := hsa.exists_append_eq hsb
  exact (ha.eq_of_reading_append hb hs ht h).1

end Spelled

/-! ## What the scan takes off the tokens -/

namespace Scan

/-- Reading has gone on from `tokens` to `rest`, and what is in between spells
`symbols`. -/
def Found (source : Text) (tokens rest : List Token) (symbols : List Symbol) : Prop :=
  ∃ consumed, tokens = consumed ++ rest ∧ Spelled source consumed rest symbols

/-- A token is ahead, and it is none that pulling refuses. -/
def Pulled (tokens : List Token) : Prop :=
  ∃ t rest, tokens = t :: rest ∧ t.kind ≠ .unknown

variable {source : Text} {tokens next : List Token}

theorem Found.nil : Found source tokens tokens [] :=
  ⟨[], rfl, .nil⟩

theorem Found.cons {t : Token} {s : Symbol} {symbols : List Symbol}
    (ht : t.symbol? source = some s) (h : Found source tokens next symbols) :
    Found source (t :: tokens) next (s :: symbols) := by
  obtain ⟨consumed, rfl, hspelled⟩ := h
  exact ⟨t :: consumed, rfl, hspelled.cons ht⟩

theorem Found.suffix {symbols : List Symbol} (h : Found source tokens next symbols) :
    next <:+ tokens := by
  obtain ⟨consumed, rfl, -⟩ := h
  exact ⟨consumed, rfl⟩

theorem halted_of_ended {least : Nat} (h : Ended tokens) : Halted least tokens := by
  obtain ⟨e, rfl, he⟩ := h
  intro t rest o hcons ho
  rw [← (List.cons.inj hcons).1, he] at ho
  cases ho

/-- Links go on with what an operand has left; behind a missing operand there are
none. -/
theorem Found.links {symbols : List Symbol} (h : Found source tokens next symbols)
    {least : Nat} {more : List (Operator × Node)} {last : List Token}
    (hlinks : links source least next = .ok (more, last))
    (hmore : Found source next last (Chain.linksReading more)) :
    Found source tokens last (symbols ++ Chain.linksReading more) := by
  obtain ⟨consumed, rfl, hspelled⟩ := h
  cases hspelled with
  | whole hmap =>
      -- a missing operand among the links leaves its zero at the end of both
      obtain ⟨others, rfl, hothers⟩ := hmore
      refine ⟨consumed ++ others, (List.append_assoc _ _ _).symm, ?_⟩
      generalize Chain.linksReading more = read at hothers
      cases hothers with
      | whole hmap' => exact .whole (by rw [List.map_append, List.map_append, hmap, hmap'])
      | short read hmap' hended =>
          rw [← List.append_assoc]
          exact .short _ (by rw [List.map_append, List.map_append, hmap, hmap']) hended
  | short _ hmap hended =>
      -- the operand before is missing already: no link can follow
      rw [links_of_halted source (halted_of_ended hended)] at hlinks
      cases hlinks
      refine ⟨consumed, rfl, ?_⟩
      rw [show Chain.linksReading [] = [] from rfl, List.append_nil]
      exact .short _ hmap hended

theorem numeral_eq {t : Token} {x : Float} (h : numeral source t = .ok x) :
    Number.read? (t.text source) = some x := by
  unfold numeral at h
  split at h
  · cases h
    assumption
  · cases h

/-- A number, or the zero in its place, is what the tokens spell. -/
theorem literal_found {node : Float → Node} {n : Node}
    (hsuffix : tokens <:+ Token.significant source)
    (h : literal source node tokens = .ok (n, next)) :
    ∃ x, n = node x ∧ Found source tokens next [.number x] := by
  obtain ⟨t, rest, rfl, ⟨heof, rfl, rfl⟩ | ⟨hnumber, rfl, -, x, hx, rfl⟩⟩ := literal_eq_ok h
  · exact ⟨0, rfl, [], rfl, .short [] rfl (Token.ended_of_suffix hsuffix heof)⟩
  · exact ⟨x, rfl, Found.nil.cons (Token.symbol?_of_number hnumber (numeral_eq hx))⟩

theorem operand_found {n : Node} (hsuffix : tokens <:+ Token.significant source)
    (h : operand source tokens = .ok (n, next)) : Found source tokens next n.reading := by
  obtain ⟨t, rest, rfl, ⟨hminus, -, h⟩ | ⟨-, h⟩⟩ := operand_eq_ok h
  · obtain ⟨x, rfl, hfound⟩ := literal_found ((List.suffix_cons t rest).trans hsuffix) h
    exact hfound.cons (Token.symbol?_of_operator (o := .subtract) (by rw [hminus]; rfl))
  · obtain ⟨x, rfl, hfound⟩ := literal_found hsuffix h
    exact hfound

/-- Links are what the tokens spell. The induction follows the loop: each round takes
off an operator and the operand behind it. -/
theorem links_found {least : Nat} {more : List (Operator × Node)}
    (hsuffix : tokens <:+ Token.significant source)
    (h : links source least tokens = .ok (more, next)) :
    Found source tokens next (Chain.linksReading more) := by
  fun_induction links source least tokens generalizing more with
  | case1 => cases h; exact .nil
  | case2 => cases h; exact .nil
  | case3 => cases h; exact .nil
  | case4 => cases h
  | case5 t rest o ho hge x behind hbehind ih =>
      obtain ⟨r, hlinks, hr⟩ := map_eq_ok h
      cases hr
      have hrest := (List.suffix_cons t rest).trans hsuffix
      have hoperand := operand_found hrest (operandBehind_eq_ok hbehind).2
      have hlater := ih (hoperand.suffix.trans hrest) hlinks
      exact (hoperand.links hlinks hlater).cons (Token.symbol?_of_operator ho)

theorem subtree_found {least : Nat} {n : Node}
    (hsuffix : tokens <:+ Token.significant source)
    (h : subtree source least tokens = .ok (n, next)) : Found source tokens next n.reading := by
  obtain ⟨first, behind, more, hoperand, hlinks, rfl⟩ := subtree_eq_ok source h
  have hfirst := operand_found hsuffix hoperand
  rw [Chain.reading_extend]
  exact hfirst.links hlinks (links_found (hfirst.suffix.trans hsuffix) hlinks)

/-! ## What is ahead of a whole expression -/

theorem pull_pulled (h : pull source tokens = .ok next) : Pulled next := by
  unfold pull at h
  split at h
  · rename_i t rest
    split at h
    · cases h
    · rename_i hkind
      cases h
      exact ⟨t, rest, rfl, hkind⟩
  · cases h

theorem literal_pulled {node : Float → Node} {n : Node} (htokens : Pulled tokens)
    (h : literal source node tokens = .ok (n, next)) : Pulled next := by
  obtain ⟨t, rest, rfl, ⟨-, -, rfl⟩ | ⟨-, rfl, hpull, -⟩⟩ := literal_eq_ok h
  · exact htokens
  · exact pull_pulled hpull

theorem operand_pulled {n : Node} (htokens : Pulled tokens)
    (h : operand source tokens = .ok (n, next)) : Pulled next := by
  obtain ⟨t, rest, rfl, ⟨-, hpull, h⟩ | ⟨-, h⟩⟩ := operand_eq_ok h
  · exact literal_pulled (pull_pulled hpull) h
  · exact literal_pulled htokens h

theorem links_pulled {least : Nat} {more : List (Operator × Node)} (htokens : Pulled tokens)
    (h : links source least tokens = .ok (more, next)) : Pulled next := by
  fun_induction links source least tokens generalizing more with
  | case1 => cases h; exact htokens
  | case2 => cases h; exact htokens
  | case3 => cases h; exact htokens
  | case4 => cases h
  | case5 t rest o ho hge x behind hbehind ih =>
      obtain ⟨r, hlinks, hr⟩ := map_eq_ok h
      cases hr
      obtain ⟨hpull, hoperand⟩ := operandBehind_eq_ok hbehind
      exact ih (operand_pulled (pull_pulled hpull) hoperand) hlinks

theorem subtree_pulled {least : Nat} {n : Node} (htokens : Pulled tokens)
    (h : subtree source least tokens = .ok (n, next)) : Pulled next := by
  obtain ⟨first, behind, more, hoperand, hlinks, -⟩ := subtree_eq_ok source h
  exact links_pulled (operand_pulled htokens hoperand) hlinks

/-- Behind a whole expression, what is ahead is no operator, no spacing and nothing
unknown, which leaves the end of the input, a number or a parenthesis. -/
theorem stops_of_finish {strict : Bool} (hsuffix : tokens <:+ Token.significant source)
    (hpulled : Pulled tokens) (hhalted : Halted 1 tokens)
    (h : finish source strict tokens = .ok ()) : Stops strict tokens := by
  obtain ⟨t, tail, rfl, hunknown⟩ := hpulled
  have hspace : t.kind ≠ .whitespace := by
    have hmem : t ∈ Token.significant source := hsuffix.subset List.mem_cons_self
    simpa using (List.mem_filter.mp hmem).2
  have hnone (o : Operator) (ho : Operator.ofKind? t.kind = some o) : False := by
    have hpos := Operator.rank_pos_of_ofKind? ho
    have hlt := hhalted t tail o rfl ho
    omega
  by_cases heof : t.kind = .eof
  · exact .ended (Token.ended_of_suffix hsuffix heof)
  · -- something else is ahead, which a strict parser refuses
    have hstrict : strict = false := by
      cases strict with
      | false => rfl
      | true => simp [finish, heof] at h
    refine .before hstrict rfl ?_
    cases hkind : t.kind with
    | number => exact .inl rfl
    | leftParen => exact .inr (.inl rfl)
    | rightParen => exact .inr (.inr rfl)
    | eof => exact absurd hkind heof
    | unknown => exact absurd hkind hunknown
    | whitespace => exact absurd hkind hspace
    | _ => exact (hnone _ (by rw [hkind]; rfl)).elim

end Scan

/-! ## Whole sources -/

/-- A source that is parsed to a tree consists of the tokens that the tree is read as
and of what the parser may leave. Which tree it is follows from these tokens: no other
tree with its operators grouped is read the same. -/
theorem Parser.parse_matches {p : Parser} {source : Text} {root : Node}
    (h : ((Parser.parse source).run p).outcome = .ok (some root)) :
    ∃ consumed rest, Token.significant source = consumed ++ rest ∧ Stops p.strict rest ∧
      root.Matches source consumed rest ∧
      ∀ other : Node, other.Matches source consumed rest → other = root := by
  rw [outcome_parse] at h
  obtain ⟨rest, hpull, hsubtree, hfinish⟩ := Scan.parse_eq_ok source h
  have hfound := Scan.subtree_found List.suffix_rfl hsubtree
  have hgrouped := Scan.subtree_grouped source hsubtree
  have hstops := Scan.stops_of_finish hfound.suffix
    (Scan.subtree_pulled (Scan.pull_pulled hpull) hsubtree)
    (Scan.subtree_halted source hsubtree) hfinish
  obtain ⟨consumed, htokens, hspelled⟩ := hfound
  exact ⟨consumed, rest, htokens, hstops, ⟨hspelled, hgrouped⟩, fun other hother =>
    Spelled.eq_of_grouped hother.grouped hgrouped hother.spelled hspelled⟩

/-- Operators of all three levels, a minus sign of either kind, and a parenthesis behind
the expression. -/
theorem Parser.parse_matches_mixed :
    ∃ consumed rest, Token.significant "8-3*-2^2 )x" = consumed ++ rest ∧ Stops false rest ∧
      (Node.binary (.value 8)
        (.binary (.value 3)
          (.binary (.unary 2 (some .subtract)) (.value 2) (some .exponentiate))
          (some .multiply))
        (some .subtract)).Matches "8-3*-2^2 )x" consumed rest ∧
      ∀ other : Node, other.Matches "8-3*-2^2 )x" consumed rest → other =
        .binary (.value 8)
          (.binary (.value 3)
            (.binary (.unary 2 (some .subtract)) (.value 2) (some .exponentiate))
            (some .multiply))
          (some .subtract) :=
  parse_matches (p := .new false) (by decide +kernel)

end Reckoner
