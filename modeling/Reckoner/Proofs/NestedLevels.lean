import Reckoner.Proofs.FlatGrammar

/-!
# The nested levels read flat

A parser with a token ahead `Reads` the list of that token and the significant tokens
its lexer has still to give. Whatever a rule of the grammar does to the parser, `Scan`
does to this list (`Follows`), and so the parser's state never has to be looked at again:
`outcome_parse` says what parsing a source comes to in terms of the source alone.

A level is a loop, and its invariant has two parts: the tree built so far holds together
at least as tightly as the level, and no operator tighter than the level is ahead
(`follows_fold`).
-/

namespace Reckoner

/-- How tightly the operators of a level bind. -/
def Level.rank : Level → Nat
  | .sum => 1
  | .product => 2
  | .power => 3

/-- A level accepts the operators of its rank. -/
theorem Level.accepts_iff {l : Level} {k : TokenKind} :
    l.accepts k = true ↔ ∃ o, Operator.ofKind? k = some o ∧ o.rank = l.rank := by
  cases l <;> cases k <;> simp [accepts, main, alternative, Operator.ofKind?, Operator.rank, rank]

theorem Level.of?_of_accepts {l : Level} {k : TokenKind} (h : l.accepts k = true) :
    ∃ found, Parser.Consumed.of? l.main l.alternative k = some found := by
  unfold accepts at h
  unfold Parser.Consumed.of?
  by_cases hmain : k = l.main
  · exact ⟨.main, if_pos hmain⟩
  · rw [if_neg hmain, if_pos (by simpa [hmain] using h)]
    exact ⟨_, rfl⟩

namespace Parser

/-! ## The tokens ahead -/

/-- The token ahead and those behind it, up to the end token. -/
def ahead (p : Parser) : List Token :=
  match p.current with
  | some t => t :: (if t.kind = .eof then [] else p.lexer.significants)
  | none => []

/-- The parser reads the tokens `tokens` of `source`. -/
structure Reads (p : Parser) (source : Text) (tokens : List Token) : Prop where
  source_eq : p.lexer.source = source
  ahead_eq : p.ahead = tokens
  nonempty : tokens ≠ []
  legible : ∀ t ∈ tokens, t.Legible source

namespace Reads

variable {p : Parser} {source : Text} {t : Token} {rest : List Token}

theorem exists_cons {tokens : List Token} (h : p.Reads source tokens) :
    ∃ t rest, tokens = t :: rest ∧ p.current = some t := by
  have hahead := h.ahead_eq
  unfold ahead at hahead
  cases hp : p.current with
  | none =>
      rw [hp] at hahead
      exact absurd hahead.symm h.nonempty
  | some t =>
      rw [hp] at hahead
      exact ⟨t, _, hahead.symm, rfl⟩

theorem cons_of_current {tokens : List Token} (h : p.Reads source tokens)
    (hcurrent : p.current = some t) : ∃ rest, tokens = t :: rest := by
  obtain ⟨t', rest, rfl, hp⟩ := h.exists_cons
  exact ⟨rest, by rw [Option.some.inj (hcurrent.symm.trans hp)]⟩

theorem current_eq (h : p.Reads source (t :: rest)) : p.current = some t := by
  obtain ⟨t', rest', hcons, hp⟩ := h.exists_cons
  rw [hp, (List.cons.inj hcons).1]

theorem rest_eq (h : p.Reads source (t :: rest)) (ht : t.kind ≠ .eof) :
    p.lexer.significants = rest := by
  have hahead := h.ahead_eq
  unfold ahead at hahead
  rw [h.current_eq] at hahead
  simpa [ht] using hahead

/-- A parser that has just pulled a token reads it and what the lexer has behind it. -/
theorem of_pulled {l : Lexer} (hp : p.lexer = l.significant.2)
    (hcurrent : p.current = some l.significant.1) : p.Reads l.source l.significants where
  source_eq := by rw [hp, l.significant_source]
  ahead_eq := by rw [l.significants_eq, ahead, hcurrent, hp]
  nonempty := by rw [l.significants_eq]; simp
  legible := l.significants_legible

end Reads

/-- A step comes to what reading the tokens comes to, and leaves a parser that reads the
tokens left. -/
inductive Follows {α : Type} (source : Text) (step : Step Parser α) :
    Except Fault (α × List Token) → Prop
  | ok {a : α} {next : List Token} : step.outcome = .ok a → step.state.Reads source next →
      Follows source step (.ok (a, next))
  | error {e : Fault} : step.outcome = .error e → Follows source step (.error e)

section

variable {α β : Type} {p : Parser} {source : Text} {t : Token} {rest : List Token}

theorem Follows.outcome_ok {step : Step Parser α} {a : α} {next : List Token}
    (h : Follows source step (.ok (a, next))) : step.outcome = .ok a := by
  cases h
  assumption

theorem Follows.reads {step : Step Parser α} {a : α} {next : List Token}
    (h : Follows source step (.ok (a, next))) : step.state.Reads source next := by
  cases h
  assumption

theorem Follows.outcome_error {step : Step Parser α} {e : Fault}
    (h : Follows source step (.error e)) : step.outcome = .error e := by
  cases h
  assumption

/-- What is reported does not matter. -/
theorem Follows.of_events {step : Step Parser α} {r : Except Fault (α × List Token)}
    (h : Follows source step r) (events : List Event) :
    Follows source { step with events } r := by
  cases h with
  | ok ha hnext => exact .ok ha hnext
  | error he => exact .error he

theorem Follows.bind {x : Action Parser α} {f : α → Action Parser β}
    {r : Except Fault (α × List Token)} {g : α × List Token → Except Fault (β × List Token)}
    (hx : Follows source (x.run p) r)
    (hf : ∀ a next, r = .ok (a, next) → (x.run p).state.Reads source next →
      Follows source ((f a).run (x.run p).state) (g (a, next))) :
    Follows source ((x >>= f).run p) (r >>= g) := by
  cases hx with
  | ok ha hnext =>
      rename_i a next
      rw [Action.run_bind_ok ha]
      show Follows source _ (g (a, next))
      have hrest := hf a next rfl hnext
      generalize g (a, next) = result at hrest
      cases hrest with
      | ok hb hlast => exact .ok hb hlast
      | error he => exact .error he
  | error he =>
      rw [Action.run_bind_error he]
      exact .error rfl

/-- A result is turned into another one without a look at the tokens. -/
theorem Follows.map {x : Action Parser α} {f : α → β} {r : Except Fault (α × List Token)}
    (hx : Follows source (x.run p) r) :
    Follows source ((x >>= fun a => pure (f a)).run p) (r.map fun (a, next) => (f a, next)) :=
  hx.bind fun _ _ _ hnext => .ok rfl hnext

/-! ## Consuming tokens -/

/-- What the lexer can pull, a parser can pull. -/
theorem advance_outcome (p : Parser) : (advance.run p).outcome =
    (Scan.pull p.lexer.source p.lexer.significants).map fun _ => p.lexer.significant.1 := by
  rw [p.lexer.significants_eq]
  unfold advance Scan.pull
  rw [Action.run_of]
  simp only [p.lexer.significant_source]
  by_cases hkind : p.lexer.significant.1.kind = .unknown
  · rw [if_pos hkind, if_pos hkind]
    rfl
  · rw [if_neg hkind, if_neg hkind]
    rfl

/-- Shifting makes the token ahead the one consumed last, and pulls another one. -/
theorem shift_run (hp : p.current = some t) :
    (shift.run p).outcome =
        (Scan.pull p.lexer.source p.lexer.significants).map (fun _ => ()) ∧
      ((shift.run p).outcome = .ok () → (shift.run p).state =
        { p with
          previous := some t
          lexer := p.lexer.significant.2
          current := some p.lexer.significant.1 }) := by
  have hrun : shift.run p = fetch.run { p with previous := some t } := by
    unfold shift
    rw [Action.run_bind_silent (lookahead_run hp)]
    exact Action.run_bind_silent rfl
  have hadvance := advance_outcome { p with previous := some t }
  rw [hrun]
  unfold fetch
  cases hpull : Scan.pull p.lexer.source p.lexer.significants with
  | error e =>
      rw [hpull] at hadvance
      rw [Action.run_bind_error hadvance]
      exact ⟨rfl, fun hok => by cases hok⟩
  | ok next =>
      rw [hpull] at hadvance
      rw [Action.run_bind_ok hadvance, advance_run_state]
      exact ⟨rfl, fun _ => rfl⟩

theorem follows_shift (h : p.Reads source (t :: rest)) (ht : t.kind ≠ .eof) :
    Follows source (shift.run p) ((Scan.pull source rest).map fun next => ((), next)) ∧
      ((shift.run p).outcome = .ok () → (shift.run p).state.previous = some t) := by
  obtain ⟨houtcome, hstate⟩ := shift_run h.current_eq
  refine ⟨?_, fun hok => by rw [hstate hok]⟩
  rw [h.source_eq, h.rest_eq ht] at houtcome
  cases hpull : Scan.pull source rest with
  | error e =>
      rw [hpull] at houtcome
      exact .error houtcome
  | ok next =>
      rw [hpull] at houtcome
      refine .ok houtcome ?_
      rw [hstate houtcome, Scan.pull_eq source hpull, ← h.rest_eq ht, ← h.source_eq]
      exact .of_pulled rfl rfl

theorem currentText_run (h : p.Reads source (t :: rest)) (ht : t.kind ≠ .eof) :
    currentText.run p = ⟨.ok (t.text source), p, []⟩ := by
  unfold currentText
  rw [Action.run_bind_silent (lookahead_run h.current_eq), if_neg ht]
  show (⟨.ok (t.text p.lexer.source), p, []⟩ : Step Parser Text) = _
  rw [h.source_eq]

/-- At the end of the input nothing is consumed. -/
theorem consume_at_end (h : p.Reads source (t :: rest)) (ht : t.kind = .eof)
    (main alternative : TokenKind) : (consume main alternative).run p = ⟨.ok .ended, p, []⟩ := by
  unfold consume
  rw [Action.run_bind_silent (lookahead_run h.current_eq), if_pos ht]
  rfl

/-- A token of one of the two kinds asked for is consumed. -/
theorem follows_consume (h : p.Reads source (t :: rest)) (ht : t.kind ≠ .eof)
    {main alternative : TokenKind} {found : Consumed}
    (hfound : Consumed.of? main alternative t.kind = some found) :
    Follows source ((consume main alternative).run p)
        ((Scan.pull source rest).map fun next => (found, next)) ∧
      (∀ a, ((consume main alternative).run p).outcome = .ok a →
        ((consume main alternative).run p).state.previous = some t) := by
  have hrun : (consume main alternative).run p = (do shift; return found).run p := by
    unfold consume
    rw [Action.run_bind_silent (lookahead_run h.current_eq), if_neg ht]
    simp only [hfound]
  obtain ⟨hshift, hprevious⟩ := follows_shift h ht
  rw [hrun]
  refine ⟨?_, fun a ha => ?_⟩
  · have hmap := hshift.map (f := fun _ => found)
    revert hmap
    cases Scan.pull source rest <;> exact id
  · cases hs : (shift.run p).outcome with
    | error e => rw [Action.run_bind_error hs] at ha; cases ha
    | ok u =>
        rw [Action.run_bind_ok hs]
        exact hprevious hs

/-- Behind a token that is consumed, a rule goes on with that token as the one consumed
last. -/
theorem follows_consume_bind (h : p.Reads source (t :: rest)) (ht : t.kind ≠ .eof)
    {main alternative : TokenKind} {found : Consumed}
    (hfound : Consumed.of? main alternative t.kind = some found) {k : Consumed → Action Parser α}
    {g : List Token → Except Fault (α × List Token)}
    (hk : ∀ q next, q.Reads source next → q.previous = some t →
      Follows source ((k found).run q) (g next)) :
    Follows source ((consume main alternative >>= k).run p) (Scan.pull source rest >>= g) := by
  obtain ⟨hconsume, hprevious⟩ := follows_consume h ht hfound
  cases hpull : Scan.pull source rest with
  | error e =>
      rw [hpull] at hconsume
      rw [Action.run_bind_error hconsume.outcome_error]
      exact .error rfl
  | ok next =>
      rw [hpull] at hconsume
      rw [Action.run_bind_ok hconsume.outcome_ok]
      exact (hk _ next hconsume.reads (hprevious _ hconsume.outcome_ok)).of_events _

/-- A token of another kind is refused. -/
theorem consume_refused (h : p.Reads source (t :: rest)) (ht : t.kind ≠ .eof)
    {main alternative : TokenKind} (hfound : Consumed.of? main alternative t.kind = none) :
    ((consume main alternative).run p).outcome =
      .error (.unexpectedToken t.start (t.text source)) := by
  unfold consume
  rw [Action.run_bind_silent (lookahead_run h.current_eq), if_neg ht]
  simp only [hfound]
  rw [Action.run_bind_silent (currentText_run h ht)]
  rfl

/-! ## Operands -/

theorem consumed_run (hprevious : p.previous = some t) : consumed.run p = ⟨.ok t, p, []⟩ := by
  unfold consumed
  rw [Action.run_of, hprevious]

/-- The number consumed last is worth what its token is worth. -/
theorem operand_run (hsource : p.lexer.source = source) (hprevious : p.previous = some t)
    (hlegible : t.Legible source) (ht : t.kind = .number) (node : Float → Node) :
    (operand node).run p = ⟨(Scan.numeral source t).map node, p, []⟩ := by
  have hnumber : (number t).run p = ⟨Scan.numeral source t, p, []⟩ := by
    unfold number Scan.numeral
    rw [Action.run_bind_state, hsource]
    simp only [(hlegible ht).1]
    cases Number.read? (t.text source) <;> rfl
  unfold operand
  rw [Action.run_bind_silent (consumed_run hprevious)]
  cases hnumeral : Scan.numeral source t with
  | error e =>
      rw [Action.run_bind_error (e := e) (by rw [hnumber, hnumeral]), hnumber]
      rfl
  | ok x =>
      rw [Action.run_bind_silent (by rw [hnumber, hnumeral])]
      rfl

/-- A rule that consumes a number, or something else as well, does with a number ahead
what reading a literal does. -/
theorem follows_literal {alternative : TokenKind} {node : Float → Node}
    {k : Consumed → Action Parser Node} (h : p.Reads source (t :: rest))
    (hended : ∀ q, ∃ events, (k .ended).run q = ⟨.ok (node 0), q, events⟩)
    (hmain : k .main = operand node)
    (hother : t.kind ≠ .number → Consumed.of? .number alternative t.kind = none) :
    Follows source ((consume .number alternative >>= k).run p)
      (Scan.literal source node (t :: rest)) := by
  by_cases heof : t.kind = .eof
  · obtain ⟨events, hk⟩ := hended p
    rw [Scan.literal_of_eof source heof, Action.run_bind_silent (consume_at_end h heof _ _), hk]
    exact .ok rfl h
  by_cases hnumber : t.kind = .number
  · have hfound : Consumed.of? .number alternative t.kind = some .main := by
      rw [hnumber]
      exact if_pos rfl
    rw [Scan.literal_of_number source hnumber]
    refine follows_consume_bind h heof hfound fun q next hreads hprevious => ?_
    have hlegible : t.Legible source := h.legible t List.mem_cons_self
    rw [hmain, operand_run hreads.source_eq hprevious hlegible hnumber]
    cases hx : Scan.numeral source t with
    | error e => exact .error rfl
    | ok x => exact .ok rfl hreads
  · rw [Scan.literal_of_ne source heof hnumber,
      Action.run_bind_error (consume_refused h heof (hother hnumber))]
    exact .error rfl

theorem follows_negated {tokens : List Token} (h : p.Reads source tokens) :
    Follows source (negated.run p) (Scan.literal source Scan.negative tokens) := by
  obtain ⟨t, rest, rfl, -⟩ := h.exists_cons
  refine follows_literal h (fun q => ⟨_, rfl⟩) rfl fun hnumber => ?_
  simp [Consumed.of?, hnumber]

theorem follows_unary {tokens : List Token} (h : p.Reads source tokens) :
    Follows source (unary.parse.run p) (Scan.operand source tokens) := by
  obtain ⟨t, rest, rfl, -⟩ := h.exists_cons
  by_cases hminus : t.kind = .minus
  · have heof : t.kind ≠ .eof := by rw [hminus]; decide
    have hfound : Consumed.of? .number .minus t.kind = some .alternative := by
      rw [hminus]
      rfl
    rw [Scan.operand_of_minus source hminus]
    exact follows_consume_bind h heof hfound fun q next hreads _ => follows_negated hreads
  · rw [Scan.operand_of_ne_minus source hminus]
    refine follows_literal h (fun q => ⟨_, rfl⟩) rfl fun hnumber => ?_
    simp [Consumed.of?, hnumber, hminus]

/-! ## Levels -/

/-- A rule reads rows of operators of at least the rank `least`. -/
def Rule.FollowsRows (rule : Rule) (least : Nat) : Prop :=
  ∀ {p : Parser} {source : Text} {tokens : List Token}, p.Reads source tokens →
    Follows source (rule.parse.run p) (Scan.subtree source least tokens)

theorem followsRows_unary : unary.FollowsRows 4 := by
  intro p source tokens h
  have hunary := follows_unary h
  unfold Scan.subtree
  cases hoperand : Scan.operand source tokens with
  | error e =>
      rw [hoperand] at hunary
      exact .error hunary.outcome_error
  | ok r =>
      rw [hoperand] at hunary
      -- no operator has the rank of an operand, so nothing is read behind it
      have hhalted : Scan.Halted 4 r.2 := fun t rest o _ _ => o.rank_lt
      show Follows source _ ((Scan.links source 4 r.2).map _)
      rw [Scan.links_of_halted source hhalted]
      exact hunary

/-- The operator ahead of a level and the row behind it. -/
theorem follows_operation {rule : Rule} {l : Level} (hrule : rule.FollowsRows (l.rank + 1))
    (h : p.Reads source (t :: rest)) (haccepts : l.accepts t.kind = true) {o : Operator}
    (ho : Operator.ofKind? t.kind = some o) :
    Follows source ((operation rule l).run p)
      ((Scan.subtreeBehind source (l.rank + 1) rest).map
        fun (right, last) => ((o, right), last)) := by
  obtain ⟨found, hfound⟩ := Level.of?_of_accepts haccepts
  have hpulled : ((Scan.subtreeBehind source (l.rank + 1) rest).map
      fun (right, last) => ((o, right), last)) = (do
        let next ← Scan.pull source rest
        (Scan.subtree source (l.rank + 1) next).map fun (right, last) => ((o, right), last)) := by
    unfold Scan.subtreeBehind
    cases Scan.pull source rest <;> rfl
  rw [hpulled]
  refine follows_consume_bind h (Operator.ne_eof_of_ofKind? ho) hfound
    fun q next hreads hprevious => ?_
  have hoperator : operator.run q = ⟨.ok o, q, []⟩ := by
    unfold operator
    rw [Action.run_bind_silent (consumed_run hprevious)]
    simp only [ho]
    rfl
  rw [Action.run_bind_silent hoperator]
  exact (hrule hreads).map

/-- The loop of a level reads links of its rank, given that what comes first is no
tighter operator and that the tree so far holds together well enough to be the left
operand of every operator of the level. -/
theorem follows_fold {rule : Rule} {l : Level} (hrule : rule.FollowsRows (l.rank + 1))
    {left : Node} {tokens : List Token} (h : p.Reads source tokens)
    (hleft : l.rank ≤ left.rank) (hhalted : Scan.Halted (l.rank + 1) tokens) :
    Follows source (fold rule l left p) ((Scan.links source l.rank tokens).map
      fun (more, last) => (Chain.extend left more, last)) := by
  fun_induction fold rule l left p generalizing tokens with
  | case1 left p hnone =>
      obtain ⟨t, rest, -, hcurrent⟩ := h.exists_cons
      rw [hnone] at hcurrent
      cases hcurrent
  | case2 left p t hcurrent haccepts step o' right hstep rest =>
      rename_i ih
      obtain ⟨behind, rfl⟩ := h.cons_of_current hcurrent
      obtain ⟨o, ho, hrank⟩ := Level.accepts_iff.mp haccepts
      have hoperation := follows_operation hrule h haccepts ho
      rw [Scan.links_of_eq source ho hrank hleft]
      cases hsubtree : Scan.subtreeBehind source (l.rank + 1) behind with
      | error e =>
          -- the operation has a result, so reading has one too
          rw [hsubtree] at hoperation
          cases hstep.symm.trans hoperation.outcome_error
      | ok r =>
          rw [hsubtree] at hoperation
          obtain ⟨rfl, rfl⟩ := Prod.mk.inj
            (Except.ok.inj (hstep.symm.trans hoperation.outcome_ok))
          -- the new tree is of the rank of the level, and no tighter operator is ahead
          exact (ih hoperation.reads (Nat.le_of_eq hrank.symm)
            (Scan.subtreeBehind_halted source hsubtree)).of_events _
  | case3 left p t hcurrent haccepts step e =>
      rename_i hstep
      obtain ⟨behind, rfl⟩ := h.cons_of_current hcurrent
      obtain ⟨o, ho, hrank⟩ := Level.accepts_iff.mp haccepts
      have hoperation := follows_operation hrule h haccepts ho
      rw [Scan.links_of_eq source ho hrank hleft]
      cases hsubtree : Scan.subtreeBehind source (l.rank + 1) behind with
      | error e' =>
          rw [hsubtree] at hoperation
          obtain rfl := Except.error.inj (hstep.symm.trans hoperation.outcome_error)
          exact .error rfl
      | ok r =>
          rw [hsubtree] at hoperation
          cases hstep.symm.trans hoperation.outcome_ok
  | case4 left p t hcurrent haccepts =>
      obtain ⟨behind, rfl⟩ := h.cons_of_current hcurrent
      -- an operator ahead is not tighter than the level and does not belong to it
      have hlooser : Scan.Halted l.rank (t :: behind) := by
        intro t' rest' o hcons ho
        have hle := hhalted t' rest' o hcons ho
        obtain ⟨rfl, -⟩ := List.cons.inj hcons
        have hne : o.rank ≠ l.rank := fun heq => haccepts (Level.accepts_iff.mpr ⟨o, ho, heq⟩)
        omega
      rw [Scan.links_of_halted source hlooser]
      exact .ok rfl h

/-- A rule that reads rows of a rank, made into a level, reads rows of the rank below. -/
theorem followsRows_level {rule : Rule} {l : Level} (hrule : rule.FollowsRows (l.rank + 1)) :
    (level rule l).FollowsRows l.rank := by
  intro p source tokens h
  have hrank : l.rank + 1 ≤ 4 := by cases l <;> decide
  -- first a row of the rule, then the links of the level
  rw [Scan.subtree_split source (Nat.le_succ l.rank)]
  refine (hrule h).bind fun left next hleft hreads => ?_
  exact follows_fold hrule hreads
    (Nat.le_of_succ_le (Scan.subtree_le_rank source hrank hleft))
    (Scan.subtree_halted source hleft)

theorem followsRows_term : term.FollowsRows 1 :=
  followsRows_level (l := .sum) (followsRows_level (l := .product)
    (followsRows_level (l := .power) followsRows_unary))

/-! ## Whole sources -/

theorem outcome_finish {tokens : List Token} (h : p.Reads source tokens) :
    (finish.run p).outcome = Scan.finish source p.strict tokens := by
  obtain ⟨t, rest, rfl, hcurrent⟩ := h.exists_cons
  unfold finish Scan.finish
  rw [Action.run_bind_silent (lookahead_run hcurrent)]
  by_cases heof : t.kind = .eof
  · rw [if_pos heof]
    simp only [heof, if_true]
    rfl
  · have htext : currentText.run p = ⟨.ok (t.text source), p, []⟩ := currentText_run h heof
    rw [if_neg heof, Action.run_bind_state]
    simp only [heof, if_false]
    cases p.strict with
    | true =>
        simp only [if_true]
        rw [Action.run_bind_silent htext]
        rfl
    | false => rfl

/-- An expression and what is behind it. -/
theorem outcome_root {tokens : List Token} (h : p.Reads source tokens) :
    ((do
      let root ← term.parse
      finish
      Action.report (.parsed source)
      return some root : Action Parser Tree).run p).outcome = (do
      let (root, rest) ← Scan.subtree source 1 tokens
      Scan.finish source p.strict rest
      return some root) := by
  have hterm := followsRows_term h
  cases hsubtree : Scan.subtree source 1 tokens with
  | error e =>
      rw [hsubtree] at hterm
      rw [Action.outcome_bind_error hterm.outcome_error]
      rfl
  | ok r =>
      rw [hsubtree] at hterm
      have hfinish := outcome_finish hterm.reads
      rw [show (term.parse.run p).state.strict = p.strict from congrArg Prod.fst (keeps_term p)]
        at hfinish
      rw [Action.outcome_bind_ok hterm.outcome_ok]
      show _ = (Scan.finish source p.strict r.2 >>= fun _ => Except.ok (some r.1))
      cases hrest : Scan.finish source p.strict r.2 with
      | error e =>
          rw [hrest] at hfinish
          rw [Action.outcome_bind_error hfinish]
          rfl
      | ok u =>
          rw [hrest] at hfinish
          rw [Action.outcome_bind_ok hfinish]
          rfl

end

/-- Parsing a source comes to what reading its significant tokens flat comes to,
whatever state the parser was left in. -/
theorem outcome_parse (p : Parser) (source : Text) :
    ((parse source).run p).outcome = Scan.parse source p.strict := by
  -- the parser with the source in its lexer: nothing of what it was left with is read again
  obtain ⟨q, hq⟩ : ∃ q : Parser, q = { p with lexer := p.lexer.reset source, previous := none } :=
    ⟨_, rfl⟩
  have hlexer : q.lexer = .ofText source := by rw [hq]; rfl
  have htokens : q.lexer.significants = Token.significant source := by rw [hlexer]; rfl
  have hadvance := advance_outcome q
  rw [htokens, show q.lexer.source = source by rw [hlexer]; rfl] at hadvance
  unfold parse Scan.parse
  rw [Action.run_bind_change, ← hq]
  cases hpull : Scan.pull source (Token.significant source) with
  | error e =>
      rw [hpull] at hadvance
      rw [Action.outcome_bind_error hadvance]
      rfl
  | ok tokens =>
      rw [hpull] at hadvance
      rw [Action.outcome_bind_ok hadvance, advance_run_state, Action.run_bind_change]
      obtain ⟨s, hs⟩ : ∃ s : Parser, s =
        { q with lexer := q.lexer.significant.2, current := some q.lexer.significant.1 } :=
        ⟨_, rfl⟩
      have hreads : s.Reads source tokens := by
        have h := Reads.of_pulled (p := s) (l := q.lexer) (by rw [hs]) (by rw [hs])
        rw [htokens, ← Scan.pull_eq source hpull, hlexer] at h
        exact h
      rw [← hs, show p.strict = s.strict by rw [hs, hq]]
      obtain ⟨t, rest, rfl, hcurrent⟩ := hreads.exists_cons
      rw [show q.lexer.significant.1 = t from Option.some.inj (by rw [← hcurrent, hs])]
      show _ = if some t.kind = some .eof then _ else _
      by_cases heof : t.kind = .eof
      · rw [if_pos heof, if_pos (congrArg some heof)]
        rfl
      · rw [if_neg heof, if_neg fun h => heof (Option.some.inj h)]
        exact outcome_root hreads

end Parser

end Reckoner
