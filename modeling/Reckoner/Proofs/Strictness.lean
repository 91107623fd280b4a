import Reckoner.Proofs.Layouts
import Reckoner.Proofs.Seams

/-!
# Strictness (what may follow a complete expression)

Strict or not, a parser reads a source alike up to where an expression is complete. A strict
one then refuses the token ahead, if there is any, and the other leaves it. That token is a
number or a parenthesis, and it is the last one that either parser looks at.

* `Scan.parse_cases`: what parsing comes to, with strictness left open.
* `Scan.parse_spelled`: from tokens that spell a grouped tree and are followed by no
  operator, the tree is parsed, whatever else follows.
* `Scan.parse_cutOff`: so it is if the source is cut off at the token ahead, because that
  leaves what the tokens before it spell.
* `Parser.parse_strict_loose`: parsers of either kind compared.
-/

namespace Reckoner

open Lexer (isNumeric)

/-- The kinds of token that can be ahead of a complete expression. -/
def TokenKind.Trailing (k : TokenKind) : Prop :=
  k = .number ∨ k = .leftParen ∨ k = .rightParen

theorem TokenKind.Trailing.plain {k : TokenKind} (h : k.Trailing) :
    k ≠ .eof ∧ k ≠ .unknown ∧ Operator.ofKind? k = none := by
  rcases h with rfl | rfl | rfl <;> exact ⟨by decide, by decide, rfl⟩

namespace Token

variable {a b source : Text} {t : Token}

theorem symbol?_of_text_eq (h : t.text a = t.text b) : t.symbol? a = t.symbol? b := by
  unfold symbol?
  rw [h]

/-- Anything may follow a parenthesis, and anything but a digit or a point a number. -/
theorem seam_of_trailing {k : TokenKind} {w more : Text} (hspells : k.Spells w)
    (hkind : k.Trailing) (hmore : k = .number → ∀ c ∈ more.head?, isNumeric c = false) :
    w.Seam more := by
  cases hspells with
  | @single c k hmem =>
      obtain ⟨hspacing, hnumeric, -⟩ := TokenKind.classes_of_mem_singles hmem
      constructor <;>
        intro d hd e _ hclass <;>
        obtain rfl : c = d := Option.some.inj hd
      · rw [hspacing] at hclass
        cases hclass
      · rw [hnumeric] at hclass
        cases hclass
  | number hrun _ =>
      refine ⟨fun c hc d _ hspacing => ?_, fun c _ d hd _ => hmore rfl d hd⟩
      rw [TokenKind.isSpacing_of_isNumeric (hrun.all c (List.mem_of_getLast? hc))] at hspacing
      cases hspacing
  | spacing => rcases hkind with h | h | h <;> cases h
  | malformed => rcases hkind with h | h | h <;> cases h
  | stray => rcases hkind with h | h | h <;> cases h

end Token

/-- If something is left of the input, the tokens before it spell no more than they are. -/
theorem Spelled.eq_map {source : Text} {consumed tail : List Token} {t : Token}
    {symbols : List Symbol} (h : Spelled source consumed (t :: tail) symbols)
    (ht : t.kind ≠ .eof) : consumed.map (Token.symbol? source) = symbols.map some := by
  cases h with
  | whole hmap => exact hmap
  | short _ _ hended =>
      obtain ⟨e, hcons, he⟩ := hended
      rw [(List.cons.inj hcons).1] at ht
      exact absurd he ht

namespace Scan

variable {source : Text} {tokens rest : List Token} {t : Token}

theorem finish_loose (rest : List Token) : finish source false rest = .ok () := by
  cases rest <;> simp [finish]

theorem finish_of_eof (strict : Bool) (ht : t.kind = .eof) :
    finish source strict (t :: rest) = .ok () :=
  if_pos ht

theorem finish_strict (ht : t.kind ≠ .eof) :
    finish source true (t :: rest) = .error (.trailingToken t.start (t.text source)) :=
  if_neg ht

theorem halted_of_none {least : Nat} (h : Operator.ofKind? t.kind = none) :
    Halted least (t :: rest) := by
  intro u tail o hcons ho
  rw [← (List.cons.inj hcons).1, h] at ho
  cases ho

/-- A source fails before an expression is complete, or is empty, or strictness decides
about what is left behind the expression. -/
theorem parse_cases (source : Text) :
    (∃ e, ∀ strict, parse source strict = .error e) ∨
    (∀ strict, parse source strict = .ok none) ∨
    ∃ n rest, pull source (Token.significant source) = .ok (Token.significant source) ∧
      subtree source 1 (Token.significant source) = .ok (n, rest) ∧
      ∀ strict, parse source strict = (finish source strict rest).map fun _ => some n := by
  unfold parse
  cases hpull : pull source (Token.significant source) with
  | error e => exact .inl ⟨e, fun _ => rfl⟩
  | ok tokens =>
      obtain rfl := pull_eq source hpull
      by_cases heof : (Token.significant source).head?.map (·.kind) = some .eof
      · exact .inr (.inl fun _ => if_pos heof)
      · cases hsubtree : subtree source 1 (Token.significant source) with
        | error e =>
            refine .inl ⟨e, fun strict => (if_neg heof).trans ?_⟩
            rw [hsubtree]
            rfl
        | ok r =>
            refine .inr (.inr ⟨r.1, r.2, rfl, rfl, fun strict => (if_neg heof).trans ?_⟩)
            rw [hsubtree]
            rfl

/-- From tokens that spell a grouped tree, the tree is parsed, if no operator is behind
them; strictness decides about what is. -/
theorem parse_spelled {n : Node} (hn : n.Grouped)
    (hsource : Token.significant source = tokens ++ rest)
    (htokens : tokens.map (Token.symbol? source) = n.reading.map some)
    (hrest : Pulled rest) (hhalted : Halted 1 rest) (strict : Bool) :
    parse source strict = (finish source strict rest).map fun _ => some n := by
  have hfirst : (tokens ++ rest).head?.map (·.kind) ≠ some .eof := by
    cases tokens with
    | nil => exact absurd (List.map_eq_nil_iff.mp htokens.symm) hn.reading_ne_nil
    | cons u tokens =>
        obtain ⟨s, _, -, hs, -⟩ := List.map_eq_cons_iff.mp htokens.symm
        intro heof
        exact (Token.kind_of_symbol? hs.symm).2 (Option.some.inj heof)
  unfold parse
  rw [hsource, pull_of_pulled (pulled_append htokens hrest)]
  show (if _ then _ else _) = _
  rw [if_neg hfirst, subtree_spelled_onward hn htokens hrest hhalted]
  rfl

/-- A source whose tokens in front of `t` spell a tree is parsed to it if it is cut off there,
and also if it is cut off behind `t` and continued, whatever the continuation holds. -/
theorem parse_cutOff {n : Node} {b l : Nat} (hn : n.Grouped)
    (hcut : Token.CutOff source tokens t b l)
    (htokens : tokens.map (Token.symbol? source) = n.reading.map some)
    (hkind : t.kind.Trailing) :
    parse (source.take b) true = .ok (some n) ∧
    ∀ more : Text, (t.kind = .number → ∀ c ∈ more.head?, isNumeric c = false) →
      parse (source.take (b + l) ++ more) false = .ok (some n) := by
  obtain ⟨-, hunknown, hnone⟩ := hkind.plain
  -- the tokens spell the tree in any source that they come first in
  have hsymbols {other : Text} (htext : ∀ u ∈ tokens, u.text other = u.text source) :
      tokens.map (Token.symbol? other) = n.reading.map some := by
    rw [← htokens]
    exact List.map_congr_left fun u hu => Token.symbol?_of_text_eq (htext u hu)
  constructor
  · rw [parse_spelled hn hcut.front (hsymbols hcut.text_front) ⟨_, _, rfl, by simp⟩
      (halted_of_none rfl), finish_of_eof true rfl]
    rfl
  · intro more hmore
    have hseam := Token.seam_of_trailing hcut.spells hkind hmore
    obtain ⟨behind, hbehind⟩ := hcut.onward more hseam
    rw [parse_spelled hn hbehind (hsymbols (hcut.text_onward more)) ⟨t, behind, rfl, hunknown⟩
      (halted_of_none hnone), finish_loose]
    rfl

end Scan

/-- What fails for a parser that is not strict fails for a strict one with the same fault.
What the one parses, the other parses too, or else it refuses a number or a parenthesis:
the part of the source before that token is what both have read, and what stands behind
the token matters to neither. -/
theorem Parser.parse_strict_loose (loose strict : Parser) (hloose : loose.strict = false)
    (hstrict : strict.strict = true) (source : Text) :
    (∀ e, ((parse source).run loose).outcome = .error e →
      ((parse source).run strict).outcome = .error e) ∧
    ∀ tree, ((parse source).run loose).outcome = .ok tree →
      ((parse source).run strict).outcome = .ok tree ∨
      ∃ (kind : TokenKind) (b l : Nat) (e : Fault),
        ⟨kind, b, l⟩ ∈ Token.ofText source ∧
        (kind = .number ∨ kind = .leftParen ∨ kind = .rightParen) ∧
        ((parse source).run strict).outcome = .error e ∧
        e.family = .grammatical ∧ e.offset? = some b ∧
        ((parse (source.take b)).run strict).outcome = .ok tree ∧
        ∀ more : Text, (kind = .number → ∀ c ∈ more.head?, isNumeric c = false) →
          ((parse (source.take (b + l) ++ more)).run loose).outcome = .ok tree := by
  simp only [outcome_parse, hloose, hstrict]
  rcases Scan.parse_cases source with ⟨e, hparse⟩ | hparse | ⟨n, rest, hpull, hsubtree, hparse⟩
  · simp only [hparse]
    exact ⟨fun _ h => h, fun _ h => .inl h⟩
  · simp only [hparse]
    exact ⟨fun _ h => h, fun _ h => .inl h⟩
  · simp only [hparse, Scan.finish_loose]
    refine ⟨fun e h => ?_, fun tree h => ?_⟩
    · cases h
    obtain rfl : some n = tree := Except.ok.inj h
    have hn := Scan.subtree_grouped source hsubtree
    have hfound := Scan.subtree_found List.suffix_rfl hsubtree
    have hstops := Scan.stops_of_finish hfound.suffix
      (Scan.subtree_pulled (Scan.pull_pulled hpull) hsubtree)
      (Scan.subtree_halted source hsubtree) (Scan.finish_loose rest)
    cases hstops with
    | ended hended =>
        obtain ⟨t, rfl, ht⟩ := hended
        exact .inl (by rw [Scan.finish_of_eof true ht]; rfl)
    | @before t tail _ hrest hkind =>
        obtain rfl := hrest
        have heof := (TokenKind.Trailing.plain hkind).1
        obtain ⟨consumed, htokens, hspelled⟩ := hfound
        obtain ⟨b, l, hcut⟩ := Token.exists_cutOff htokens heof
        obtain ⟨hfront, honward⟩ := Scan.parse_cutOff hn hcut (hspelled.eq_map heof) hkind
        refine .inr ⟨t.kind, b, l, .trailingToken t.start (t.text source), ?_, hkind, ?_, rfl,
          ?_, hfront, honward⟩
        · have hmem : t ∈ Token.significant source := by simp [htokens]
          rw [← hcut.shape]
          exact (List.mem_filter.mp hmem).1
        · rw [Scan.finish_strict heof]
          rfl
        · show some t.start = some (b : Int)
          rw [hcut.shape]

/-- Of a second expression, only the first token is seen: what is unknown behind it is
not. -/
theorem Parser.parse_strict_loose_second :
    (∀ e, ((parse "-2^3 .5#").run (new false)).outcome = .error e →
      ((parse "-2^3 .5#").run (new true)).outcome = .error e) ∧
    ∀ tree, ((parse "-2^3 .5#").run (new false)).outcome = .ok tree →
      ((parse "-2^3 .5#").run (new true)).outcome = .ok tree ∨
      ∃ (kind : TokenKind) (b l : Nat) (e : Fault),
        ⟨kind, b, l⟩ ∈ Token.ofText "-2^3 .5#" ∧
        (kind = .number ∨ kind = .leftParen ∨ kind = .rightParen) ∧
        ((parse "-2^3 .5#").run (new true)).outcome = .error e ∧
        e.family = .grammatical ∧ e.offset? = some b ∧
        ((parse (("-2^3 .5#" : Text).take b)).run (new true)).outcome = .ok tree ∧
        ∀ more : Text, (kind = .number → ∀ c ∈ more.head?, isNumeric c = false) →
          ((parse (("-2^3 .5#" : Text).take (b + l) ++ more)).run (new false)).outcome =
            .ok tree :=
  parse_strict_loose (new false) (new true) rfl rfl "-2^3 .5#"

end Reckoner
