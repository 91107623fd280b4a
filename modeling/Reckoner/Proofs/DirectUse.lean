import Reckoner.Proofs.ParserRuns

/-!
# Direct use of parsers (which faults can come up)

The steps of a parser can be asked for one by one, in any order, with the lexer given
another source in between. The token ahead may then belong to a source that is no longer
there, and a step that fails may leave the parser between two tokens. Two things are never
lost: the parser holds no tokens but such as it can consume, and the end token
(`Parser.Sound`); and with a token ahead, whatever is asked ends with a result or with a
fault of the source. That it ends at all needs no invariant: skipping spacing uses up what is
ahead of the lexer, and a level what is pending, wherever the tokens lie.

* `Parser.Ends`: what a step has to come to; it is closed under putting steps together
  (`Ends.bind`).
* `ends_consume`: the token consumed is of a kind that was asked for, which is why every rule
  finds the number or the operator that it looks up (`ends_unary`, `ends_operation`).
* `Parser.after_sound`: both, after any run.
-/

namespace Reckoner

/-- The kinds of token that can be consumed. Spacing is dropped before a parser sees it, bad
tokens are refused, and at the end there is nothing to consume. -/
def TokenKind.consumable : List TokenKind :=
  [number, plus, minus, times, slash, caret, leftParen, rightParen]

theorem TokenKind.mem_consumable_iff {k : TokenKind} :
    k ∈ consumable ↔ k ≠ .unknown ∧ k ≠ .eof ∧ k ≠ .whitespace := by
  cases k <;> simp [consumable]

theorem Lexer.significant_ne_whitespace (l : Lexer) : l.significant.1.kind ≠ .whitespace := by
  fun_induction significant l with
  | case1 l _ ih => exact ih
  | case2 l hkind => exact hkind

/-- The fault is one that the source is to blame for. -/
def Fault.OfSource (e : Fault) : Prop :=
  e.family = .lexical ∨ e.family = .grammatical

namespace Parser

/-! ## Sound parsers -/

/-- The token may be ahead: it is the end token or can be consumed. -/
def Acceptable (t : Token) : Prop :=
  t.kind = .eof ∨ t.kind ∈ TokenKind.consumable

/-- The tokens that the parser holds are such as it may hold. Nothing is said of their
spans. -/
structure Sound (p : Parser) : Prop where
  previous : ∀ t ∈ p.previous, t.kind ∈ TokenKind.consumable
  current : ∀ t ∈ p.current, Acceptable t

/-- A sound parser with a token ahead. -/
structure Poised (p : Parser) : Prop extends Sound p where
  lookahead : ∃ t, p.current = some t

theorem sound_new (strict : Bool) : (new strict).Sound :=
  ⟨nofun, nofun⟩

/-- What is said of the tokens has nothing to do with the lexer. -/
theorem Sound.withLexer {p : Parser} (h : p.Sound) (lexer : Lexer) :
    Sound { p with lexer } :=
  ⟨h.previous, h.current⟩

theorem Sound.withCurrent {p : Parser} (h : p.Sound) {t : Token} (ht : Acceptable t) :
    Poised { p with current := some t } where
  previous := h.previous
  current := by
    intro u hu
    rw [← Option.some.inj hu]
    exact ht
  lookahead := ⟨t, rfl⟩

/-! ## Steps -/

/-- The step has a result, and `Q` holds of it and of the parser left behind, or it ends with
a fault of the source and leaves a sound parser. -/
def Ends {α : Type} (Q : α → Parser → Prop) (step : Step Parser α) : Prop :=
  match step.outcome with
  | .ok a => Q a step.state
  | .error e => e.OfSource ∧ step.state.Sound

section

variable {α β : Type} {p : Parser} {t : Token} {Q : α → Parser → Prop}

theorem Ends.of_ok {step : Step Parser α} {a : α} (h : step.outcome = .ok a)
    (hQ : Q a step.state) : Ends Q step := by
  unfold Ends
  rw [h]
  exact hQ

theorem Ends.of_error {step : Step Parser α} {e : Fault} (h : step.outcome = .error e)
    (he : e.OfSource) (hsound : step.state.Sound) : Ends Q step := by
  unfold Ends
  rw [h]
  exact ⟨he, hsound⟩

theorem Ends.ok {step : Step Parser α} {a : α} (h : Ends Q step) (hok : step.outcome = .ok a) :
    Q a step.state := by
  unfold Ends at h
  rwa [hok] at h

theorem Ends.error {step : Step Parser α} {e : Fault} (h : Ends Q step)
    (herror : step.outcome = .error e) : e.OfSource ∧ step.state.Sound := by
  unfold Ends at h
  rwa [herror] at h

/-- A parser is left sound by a fault, and here by a result too. -/
theorem Ends.sound {step : Step Parser α} (h : Ends (fun _ => Sound) step) :
    step.state.Sound := by
  cases houtcome : step.outcome with
  | ok a => exact h.ok houtcome
  | error e => exact (h.error houtcome).2

theorem Ends.mono {R : α → Parser → Prop} {step : Step Parser α} (h : Ends Q step)
    (hQ : ∀ a q, Q a q → R a q) : Ends R step := by
  cases houtcome : step.outcome with
  | ok a => exact .of_ok houtcome (hQ _ _ (h.ok houtcome))
  | error e => exact .of_error houtcome (h.error houtcome).1 (h.error houtcome).2

theorem Ends.bind {R : β → Parser → Prop} {x : Action Parser α} {f : α → Action Parser β}
    (hx : Ends Q (x.run p)) (hf : ∀ a q, Q a q → Ends R ((f a).run q)) :
    Ends R ((x >>= f).run p) := by
  cases h : (x.run p).outcome with
  | ok a =>
      have hrest := hf a _ (hx.ok h)
      rw [Action.run_bind_ok h]
      exact hrest
  | error e =>
      rw [Action.run_bind_error h]
      exact hx.error h

/-- An action whose result is left aside ends as the action does. -/
theorem Ends.discard {R : Parser → Prop} {x : Action Parser α}
    (hx : Ends (fun _ => R) (x.run p)) : Ends (fun _ => R) ((Functor.discard x).run p) :=
  hx.bind fun _ _ hR => hR

/-! ## Tokens -/

/-- A token that can be pulled may be ahead; the lexer moves on, and nothing else. -/
theorem ends_advance (h : p.Sound) :
    Ends (fun t q => Acceptable t ∧ q = { p with lexer := p.lexer.significant.2 })
      (advance.run p) := by
  have hspace := p.lexer.significant_ne_whitespace
  unfold advance
  rw [Action.run_of]
  dsimp only
  split
  · exact .of_error rfl (.inl rfl) (h.withLexer _)
  · rename_i hknown
    refine .of_ok rfl ⟨?_, rfl⟩
    by_cases heof : p.lexer.significant.1.kind = .eof
    · exact .inl heof
    · exact .inr (TokenKind.mem_consumable_iff.mpr ⟨hknown, heof, hspace⟩)

/-- A token that is pulled ahead may be there. -/
theorem ends_fetch (h : p.Sound) :
    Ends (fun _ q => q.Poised ∧ q.previous = p.previous) (fetch.run p) := by
  refine (ends_advance h).bind ?_
  rintro next q ⟨hnext, rfl⟩
  exact ⟨(h.withLexer _).withCurrent hnext, rfl⟩

theorem ends_lookahead (hcurrent : p.current = some t) :
    Ends (fun u q => u = t ∧ q = p) (lookahead.run p) := by
  rw [lookahead_run hcurrent]
  exact ⟨rfl, rfl⟩

theorem ends_currentText (hcurrent : p.current = some t) :
    Ends (fun _ q => q = p) (currentText.run p) := by
  refine (ends_lookahead hcurrent).bind ?_
  rintro u q ⟨rfl, rfl⟩
  split <;> rfl

/-- Between the two halves of a shift both tokens are the one that was ahead, and the parser
is sound there too. -/
theorem ends_shift (h : p.Poised) (hcurrent : p.current = some t)
    (ht : t.kind ∈ TokenKind.consumable) :
    Ends (fun _ q => q.Poised ∧ q.previous = some t) (shift.run p) := by
  have hbetween : Sound { p with previous := some t } := by
    refine ⟨?_, h.current⟩
    intro u hu
    rw [← Option.some.inj hu]
    exact ht
  refine (ends_lookahead hcurrent).bind ?_
  rintro u q ⟨rfl, rfl⟩
  rw [Action.run_bind_change]
  exact ends_fetch hbetween

/-- At the end nothing is consumed, and before the end a token of a kind that was asked for,
if anything. -/
theorem ends_consume (h : p.Poised) (hcurrent : p.current = some t)
    (main alternative : TokenKind) :
    Ends (fun found q => q.Poised ∧ (t.kind = .eof ∧ found = .ended ∨
        q.previous = some t ∧ (t.kind = main ∨ t.kind = alternative)))
      ((consume main alternative).run p) := by
  unfold consume
  rw [Action.run_bind_silent (lookahead_run hcurrent)]
  by_cases heof : t.kind = .eof
  · rw [if_pos heof]
    exact ⟨h, .inl ⟨heof, rfl⟩⟩
  have ht : t.kind ∈ TokenKind.consumable := (h.current t hcurrent).resolve_left heof
  rw [if_neg heof]
  unfold Consumed.of?
  by_cases hmain : t.kind = main
  · rw [if_pos hmain]
    refine (ends_shift h hcurrent ht).bind ?_
    rintro u q ⟨hq, hprevious⟩
    exact ⟨hq, .inr ⟨hprevious, .inl hmain⟩⟩
  rw [if_neg hmain]
  by_cases halternative : t.kind = alternative
  · rw [if_pos halternative]
    refine (ends_shift h hcurrent ht).bind ?_
    rintro u q ⟨hq, hprevious⟩
    exact ⟨hq, .inr ⟨hprevious, .inr halternative⟩⟩
  · rw [if_neg halternative]
    refine (ends_currentText hcurrent).bind ?_
    rintro text q rfl
    exact ⟨.inr rfl, h.toSound⟩

/-- Wherever a token lies, it spells a number in the source of the lexer or the source is to
blame. -/
theorem ends_number (h : p.Sound) (t : Token) : Ends (fun _ q => q = p) ((number t).run p) := by
  unfold number
  rw [Action.run_bind_state]
  split
  · exact ⟨.inl rfl, h⟩
  · split
    · rfl
    · exact ⟨.inl rfl, h⟩

/-! ## Rules -/

theorem ends_operand (h : p.Poised) (hprevious : p.previous = some t) (node : Float → Node) :
    Ends (fun _ => Poised) ((operand node).run p) := by
  unfold operand
  rw [Action.run_bind_silent (consumed_run hprevious)]
  refine (ends_number h.toSound t).bind ?_
  rintro x q rfl
  exact h

theorem ends_negated (h : p.Poised) : Ends (fun _ => Poised) (negated.run p) := by
  obtain ⟨t, hcurrent⟩ := h.lookahead
  refine (ends_consume h hcurrent _ _).bind ?_
  rintro found q ⟨hq, ⟨-, rfl⟩ | ⟨hprevious, -⟩⟩
  · exact hq
  · cases found with
    | ended => exact hq
    | main => exact ends_operand hq hprevious _
    | alternative => exact ends_operand hq hprevious _

theorem ends_unary (h : p.Poised) : Ends (fun _ => Poised) (unary.parse.run p) := by
  obtain ⟨t, hcurrent⟩ := h.lookahead
  refine (ends_consume h hcurrent _ _).bind ?_
  rintro found q ⟨hq, ⟨-, rfl⟩ | ⟨hprevious, -⟩⟩
  · exact hq
  · cases found with
    | ended => exact hq
    | main => exact ends_operand hq hprevious _
    | alternative => exact ends_negated hq

/-- A token that a level accepts stands for an operator. -/
theorem ends_operator (h : p.Poised) (hprevious : p.previous = some t) {l : Level}
    (ht : l.accepts t.kind = true) : Ends (fun _ => Poised) (operator.run p) := by
  obtain ⟨o, ho, -⟩ := Level.accepts_iff.mp ht
  unfold operator
  rw [Action.run_bind_silent (consumed_run hprevious), ho]
  exact h

variable {rule : Rule}
  (hrule : ∀ {p : Parser}, p.Poised → Ends (fun _ => Poised) (rule.parse.run p))

include hrule

theorem ends_operation (h : p.Poised) (hcurrent : p.current = some t) {l : Level}
    (ht : l.accepts t.kind = true) : Ends (fun _ => Poised) ((operation rule l).run p) := by
  refine (ends_consume h hcurrent _ _).bind ?_
  rintro found q ⟨hq, ⟨heof, -⟩ | ⟨hprevious, -⟩⟩
  · rw [heof, l.accepts_eof] at ht
    cases ht
  · refine (ends_operator hq hprevious ht).bind fun o q hq => ?_
    refine (hrule hq).bind fun right q hq => ?_
    exact hq

/-- A level goes on only with a token of its own ahead, and then from a parser with a token
ahead. -/
theorem ends_fold (l : Level) (left : Node) (h : p.Poised) :
    Ends (fun _ => Poised) (fold rule l left p) := by
  fun_induction fold rule l left p with
  | case1 left p hnone =>
      obtain ⟨t, hcurrent⟩ := h.lookahead
      rw [hnone] at hcurrent
      cases hcurrent
  | case2 left p t hcurrent ht step o right hok rest ih =>
      have hstep : Ends (fun _ => Poised) step := ends_operation hrule h hcurrent ht
      exact ih (hstep.ok hok)
  | case3 left p t hcurrent ht step e herror =>
      have hstep : Ends (fun _ => Poised) step := ends_operation hrule h hcurrent ht
      exact hstep.error herror
  | case4 left p t hcurrent ht => exact h

theorem ends_level (l : Level) (h : p.Poised) :
    Ends (fun _ => Poised) ((level rule l).parse.run p) :=
  (hrule h).bind fun left _ hq => ends_fold hrule l left hq

omit hrule

theorem ends_power (h : p.Poised) : Ends (fun _ => Poised) (power.parse.run p) :=
  ends_level ends_unary .power h

theorem ends_factor (h : p.Poised) : Ends (fun _ => Poised) (factor.parse.run p) :=
  ends_level ends_power .product h

theorem ends_term (h : p.Poised) : Ends (fun _ => Poised) (term.parse.run p) :=
  ends_level ends_factor .sum h

/-! ## Whole sources -/

theorem ends_finish (h : p.Poised) : Ends (fun _ => Poised) (finish.run p) := by
  obtain ⟨t, hcurrent⟩ := h.lookahead
  refine (ends_lookahead hcurrent).bind ?_
  rintro u q ⟨rfl, rfl⟩
  split
  · exact h
  · rw [Action.run_bind_state]
    split
    · refine (ends_currentText hcurrent).bind ?_
      rintro text q rfl
      exact ⟨.inr rfl, h.toSound⟩
    · exact h

/-- A source can be parsed without a token ahead. -/
theorem ends_parse (h : p.Sound) (source : Text) :
    Ends (fun _ => Sound) ((parse source).run p) := by
  have hstart : (p.atStart source).Sound := ⟨nofun, h.current⟩
  rw [parse_run]
  refine (ends_advance hstart).bind ?_
  rintro first q ⟨hfirst, rfl⟩
  rw [Action.run_bind_change]
  have hpoised := (hstart.withLexer (p.atStart source).lexer.significant.2).withCurrent hfirst
  split
  · exact hpoised.toSound
  · refine (ends_term hpoised).bind fun root q hq => ?_
    refine (ends_finish hq).bind fun _ q hq => ?_
    exact hq.toSound

/-- A token can be pulled ahead whether there is one or not. -/
theorem ends_fetched (h : p.Sound) : Ends (fun _ => Sound) (fetch.run p) :=
  (ends_fetch h).mono fun _ _ hq => hq.1.toSound

theorem ends_prime (h : p.Sound) (source : Text) :
    Ends (fun _ => Sound) ((prime source).run p) := by
  unfold prime reset
  rw [Action.run_bind_change]
  exact ends_fetched (h.withLexer _)

/-- A token can be pulled past the one ahead, or without one. -/
theorem ends_pull (h : p.Sound) : Ends (fun _ => Sound) ((Functor.discard advance).run p) := by
  refine Ends.discard ((ends_advance h).mono ?_)
  rintro t q ⟨-, rfl⟩
  exact h.withLexer _

/-! ## Operations -/

/-- With a token ahead, every operation ends as it may. -/
theorem ends_perform (h : p.Poised) (op : Operation) :
    Ends (fun _ => Sound) ((perform op).run p) := by
  obtain ⟨t, hcurrent⟩ := h.lookahead
  have hrule {rule : Rule} (hends : Ends (fun _ => Poised) (rule.parse.run p)) :
      Ends (fun _ => Sound) ((Functor.discard rule.parse).run p) :=
    (hends.mono fun _ _ => Poised.toSound).discard
  cases op with
  | parse source => exact (ends_parse h.toSound source).discard
  | reset source => exact h.toSound.withLexer _
  | fetch => exact ends_fetched h.toSound
  | prime source => exact ends_prime h.toSound source
  | advance => exact ends_pull h.toSound
  | consume main alternative =>
      exact ((ends_consume h hcurrent main alternative).mono fun _ _ hq => hq.1.toSound).discard
  | atEnd =>
      refine Ends.discard ((ends_lookahead hcurrent).bind ?_)
      rintro u q ⟨rfl, rfl⟩
      exact h.toSound
  | text =>
      refine (Ends.mono (ends_currentText hcurrent) ?_).discard
      rintro text q rfl
      exact h.toSound
  | unary => exact hrule (ends_unary h)
  | power => exact hrule (ends_power h)
  | factor => exact hrule (ends_factor h)
  | term => exact hrule (ends_term h)

end

/-- The action begins with a look at the token ahead. -/
def Looks {α : Type} (x : Action Parser α) : Prop :=
  ∀ p, p.current = none → x.run p = ⟨.error (missingToken "type"), p, []⟩

theorem Looks.lookahead : Looks Parser.lookahead := by
  intro p hp
  unfold Parser.lookahead
  rw [Action.run_of, hp]

theorem Looks.bind {α β : Type} {x : Action Parser α} (h : Looks x) (f : α → Action Parser β) :
    Looks (x >>= f) := by
  intro p hp
  rw [Action.run_bind_error (by rw [h p hp]), h p hp]

theorem looks_consume (main alternative : TokenKind) : Looks (consume main alternative) :=
  Looks.lookahead.bind _

theorem looks_unary : Looks unary.parse :=
  (looks_consume _ _).bind _

theorem looks_level {rule : Rule} (hrule : Looks rule.parse) (l : Level) :
    Looks (level rule l).parse :=
  hrule.bind _

/-- With no token ahead, an operation pulls one without looking, or changes nothing. -/
theorem sound_perform {p : Parser} (h : p.Sound) (op : Operation) :
    ((perform op).run p).state.Sound := by
  cases hcurrent : p.current with
  | some t => exact (ends_perform ⟨h, t, hcurrent⟩ op).sound
  | none =>
      have hlooks {α : Type} {x : Action Parser α} (hx : Looks x) :
          ((Functor.discard x).run p).state.Sound := by
        show ((x >>= fun _ => pure ()).run p).state.Sound
        rw [hx.bind _ p hcurrent]
        exact h
      cases op with
      | parse source => exact (ends_parse h source).discard.sound
      | reset source => exact h.withLexer _
      | fetch => exact (ends_fetched h).sound
      | prime source => exact (ends_prime h source).sound
      | advance => exact (ends_pull h).sound
      | consume main alternative => exact hlooks (looks_consume main alternative)
      | atEnd => exact hlooks (Looks.lookahead.bind _)
      | text => exact hlooks (Looks.lookahead.bind _)
      | unary => exact hlooks looks_unary
      | power => exact hlooks (looks_level looks_unary .power)
      | factor => exact hlooks (looks_level (looks_level looks_unary .power) .product)
      | term =>
          exact hlooks
            (looks_level (looks_level (looks_level looks_unary .power) .product) .sum)

theorem Sound.after {p : Parser} (h : p.Sound) (ops : List Operation) : (p.after ops).Sound := by
  induction ops generalizing p with
  | nil => exact h
  | cons op ops ih => exact ih (sound_perform h op)

/-- After any run of a new parser, the token consumed last, if there is one, is of a kind
that can be consumed, and so is the token ahead, if it is not the end token. If there is a
token ahead, whatever is asked next has a result or ends with a fault of the source. -/
theorem after_sound (strict : Bool) (ops : List Operation) :
    let p := (new strict).after ops
    (∀ t ∈ p.previous, t.kind ∈ TokenKind.consumable) ∧
      (∀ t ∈ p.current, t.kind = .eof ∨ t.kind ∈ TokenKind.consumable) ∧
      (p.current ≠ none → ∀ op, ((perform op).run p).outcome = .ok () ∨
        ∃ e, ((perform op).run p).outcome = .error e ∧
          (e.family = .lexical ∨ e.family = .grammatical)) := by
  intro p
  have hsound : p.Sound := (sound_new strict).after ops
  refine ⟨hsound.previous, hsound.current, ?_⟩
  intro hcurrent op
  have hends := ends_perform ⟨hsound, Option.ne_none_iff_exists'.mp hcurrent⟩ op
  cases houtcome : ((perform op).run p).outcome with
  | ok u => exact .inl rfl
  | error e => exact .inr ⟨e, rfl, (hends.error houtcome).1⟩

/-- A number that was ahead when the lexer was given another source is looked up there, where
only the half of it is left, or nothing. -/
example :
    let p := (new false).after [.prime "1.5*2"]
    (unary.parse.run (p.after [.reset "2."])).outcome = .ok (.value 2) ∧
      (unary.parse.run (p.after [.reset "."])).outcome = .error (.malformedNumber 0 ".") ∧
      (unary.parse.run (p.after [.reset ""])).outcome = .error (.emptyNumber 0) := by
  decide +kernel

end Parser

end Reckoner
