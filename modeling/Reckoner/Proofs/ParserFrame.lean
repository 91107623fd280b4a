import Reckoner.Parser.Grammar
import Reckoner.Proofs.SignificantTokens

/-!
# What parsing leaves alone

The rules of the grammar move the parser's cursor and its two tokens. They touch neither
its strictness nor the source it reads, whether they succeed or fail (`keeps_term`), and
parsing a whole source replaces that source but not the strictness (`setting_parse`).
-/

namespace Reckoner

/-- The action leaves a feature of the state as it is, after a failure too. -/
def Action.Keeps {σ α β : Type} (f : σ → β) (x : Action σ α) : Prop :=
  ∀ s, f (x.run s).state = f s

namespace Action.Keeps

variable {σ α β γ : Type} {f : σ → γ}

theorem of_state {x : Action σ α} (h : ∀ s, (x.run s).state = s) : Keeps f x :=
  fun s => congrArg f (h s)

theorem pure (a : α) : Keeps f (Pure.pure a : Action σ α) :=
  of_state fun _ => rfl

theorem fail (e : Fault) : Keeps f (Action.fail e : Action σ α) :=
  of_state fun _ => rfl

theorem report (e : Event) : Keeps f (Action.report e : Action σ Unit) :=
  of_state fun _ => rfl

theorem lift (x : Except Fault α) : Keeps f (Action.lift x : Action σ α) := by
  cases x with
  | ok a => exact pure a
  | error e => exact fail e

theorem state : Keeps f (Action.state : Action σ σ) :=
  of_state fun _ => rfl

theorem change {g : σ → σ} (h : ∀ s, f (g s) = f s) : Keeps f (Action.change g) :=
  h

theorem bind {x : Action σ α} {g : α → Action σ β} (hx : Keeps f x) (hg : ∀ a, Keeps f (g a)) :
    Keeps f (x >>= g) := by
  intro s
  cases h : (x.run s).outcome with
  | ok a => rw [Action.run_bind_ok h]; exact (hg a _).trans (hx s)
  | error e => rw [Action.run_bind_error h]; exact hx s

end Action.Keeps

namespace Parser

open Reckoner.Action (Keeps)

/-- What a parser is set to: its strictness, the source it reads, and where that ends. -/
def setting (p : Parser) : Bool × Text × Nat :=
  (p.strict, p.lexer.source, p.lexer.limit)

/-! ## Tokens -/

theorem keeps_advance : Keeps setting advance := by
  intro p
  rw [advance_run_state]
  unfold setting
  rw [p.lexer.significant_source, p.lexer.significant_limit]

theorem keeps_lookahead : Keeps setting lookahead :=
  .of_state fun p => by
    unfold lookahead
    rw [Action.run_of]
    split <;> rfl

theorem keeps_consumed : Keeps setting consumed :=
  .of_state fun p => by
    unfold consumed
    rw [Action.run_of]
    split <;> rfl

theorem keeps_currentText : Keeps setting currentText := by
  unfold currentText
  refine .bind keeps_lookahead fun t => ?_
  split
  · exact .pure _
  · exact .bind .state fun _ => .pure _

theorem keeps_fetch : Keeps setting fetch :=
  .bind keeps_advance fun _ => .change fun _ => rfl

theorem keeps_shift : Keeps setting shift := by
  unfold shift
  exact .bind keeps_lookahead fun t => .bind (.change fun _ => rfl) fun _ => keeps_fetch

theorem keeps_consume (main alternative : TokenKind) :
    Keeps setting (consume main alternative) := by
  unfold consume
  refine .bind keeps_lookahead fun t => ?_
  split
  · exact .pure _
  · split
    · exact .bind keeps_shift fun _ => .pure _
    · exact .bind keeps_currentText fun _ => .fail _

theorem keeps_number (t : Token) : Keeps setting (number t) := by
  unfold number
  refine .bind .state fun p => ?_
  split
  · exact .fail _
  · split
    · exact .pure _
    · exact .fail _

/-! ## Rules -/

theorem keeps_operand (node : Float → Node) : Keeps setting (operand node) := by
  unfold operand
  exact .bind keeps_consumed fun t => .bind (keeps_number t) fun _ => .pure _

theorem keeps_negated : Keeps setting negated := by
  unfold negated
  refine .bind (keeps_consume _ _) fun found => ?_
  split
  · exact .bind (.report _) fun _ => .pure _
  · exact keeps_operand _

theorem keeps_unary : Keeps setting unary.parse := by
  refine .bind (keeps_consume _ _) fun found => ?_
  split
  · exact .bind (.report _) fun _ => .pure _
  · exact keeps_operand _
  · exact keeps_negated

theorem keeps_operator : Keeps setting operator := by
  unfold operator
  refine .bind keeps_consumed fun t => ?_
  split
  · exact .pure _
  · exact .fail _

theorem keeps_operation {rule : Rule} (hrule : Keeps setting rule.parse) (l : Level) :
    Keeps setting (operation rule l) := by
  unfold operation
  exact .bind (keeps_consume _ _) fun _ => .bind keeps_operator fun _ =>
    .bind hrule fun _ => .pure _

theorem setting_fold {rule : Rule} (hrule : Keeps setting rule.parse) (l : Level) (left : Node)
    (p : Parser) : (fold rule l left p).state.setting = p.setting := by
  fun_induction fold rule l left p with
  | case1 => rfl
  | case2 left p t _ _ step o right h rest ih => exact ih.trans (keeps_operation hrule l p)
  | case3 left p t _ _ step e h => exact keeps_operation hrule l p
  | case4 => rfl

theorem keeps_level {rule : Rule} (hrule : Keeps setting rule.parse) (l : Level) :
    Keeps setting (level rule l).parse :=
  .bind hrule fun left => setting_fold hrule l left

theorem keeps_term : Keeps setting term.parse :=
  keeps_level (keeps_level (keeps_level keeps_unary .power) .product) .sum

theorem keeps_finish : Keeps setting finish := by
  unfold finish
  refine .bind keeps_lookahead fun t => ?_
  split
  · exact .pure _
  · refine .bind .state fun p => ?_
    split
    · exact .bind keeps_currentText fun _ => .fail _
    · exact .report _

/-- Parsing sets the parser to the source, as strict as it was. -/
theorem setting_parse (source : Text) (p : Parser) :
    ((parse source).run p).state.setting = (p.strict, source, source.length) := by
  -- nothing behind the change of the source changes it again
  have hread : Keeps setting (do
      let first ← advance
      Action.change fun p => { p with current := some first }
      if first.kind = .eof then do
        Action.report .emptyInput
        return none
      else do
        let root ← term.parse
        finish
        Action.report (.parsed source)
        return some root : Action Parser Tree) := by
    refine .bind keeps_advance fun first => .bind (.change fun _ => rfl) fun _ => ?_
    split
    · exact .bind (.report _) fun _ => .pure _
    · exact .bind keeps_term fun root => .bind keeps_finish fun _ =>
        .bind (.report _) fun _ => .pure _
  unfold parse
  rw [Action.run_bind_change]
  exact hread _

/-- Parsing never changes how strict the parser is. -/
theorem strict_parse (source : Text) : Keeps strict (parse source) :=
  fun p => congrArg Prod.fst (setting_parse source p)

end Parser

end Reckoner
