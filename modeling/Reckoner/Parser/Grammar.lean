import Reckoner.Parser.Basic

/-!
# The grammar (three levels of binary operators)

    term    :=  factor ((+ or -) factor)*
    factor  :=  power ((* or /) power)*
    power   :=  unary (^ unary)*
    unary   :=  number  or  - number

Every level groups to the left, powers too. There are no parentheses: they are tokens
that no rule consumes. Where the input ends in place of an operand, the operand is zero.

Each rule is an action of the parser with the assurance that it never makes more of what
is pending. A level goes on as long as the token ahead is one of its operators; each
round consumes that operator, so the rounds come to an end.
-/

namespace Reckoner

/-- The levels of binary operators, the loosest first. -/
inductive Level where
  | sum
  | product
  | power
  deriving DecidableEq, Repr

namespace Level

/-- The kind of token of the first operator of a level. -/
def main : Level → TokenKind
  | sum => .plus
  | product => .times
  | power => .caret

/-- The kind of token of the other operator of a level. -/
def alternative : Level → TokenKind
  | sum => .minus
  | product => .slash
  | power => .caret

/-- Whether a kind of token stands for an operator of the level. -/
def accepts (l : Level) (k : TokenKind) : Bool :=
  k = l.main || k = l.alternative

theorem accepts_eof (l : Level) : l.accepts .eof = false := by
  cases l <;> rfl

end Level

namespace Parser

/-- A rule of the grammar. -/
structure Rule where
  parse : Action Parser Node
  settling : Settling parse

/-! ## Operands -/

/-- The number of the token consumed last, made into a node. -/
def operand (node : Float → Node) : Action Parser Node := do
  return node (← number (← consumed))

theorem Settling.operand (node : Float → Node) : Settling (Parser.operand node) := by
  unfold Parser.operand
  exact bind .consumed fun _ => bind (.number _) fun _ => pure _

/-- What follows a minus sign in front of a number. -/
def negated : Action Parser Node := do
  match ← consume .number .number with
  | .ended => do
    Action.report .missingOperandAfterMinus
    return .unary 0 (some .subtract)
  | _ => operand fun x => .unary x (some .subtract)

/-- A number, or a minus sign and a number. -/
def unary : Rule where
  parse := do
    match ← consume .number .minus with
    | .ended => do
      Action.report .missingOperand
      return .value 0
    | .main => operand .value
    | .alternative => negated
  settling := by
    refine .bind (.consume _ _) fun found => ?_
    split
    · exact .bind (.report _) fun _ => .pure _
    · exact .operand _
    · refine .bind (.consume _ _) fun found => ?_
      split
      · exact .bind (.report _) fun _ => .pure _
      · exact .operand _

/-! ## Binary operators -/

/-- The operator that the token consumed last stands for. -/
def operator : Action Parser Operator := do
  let t ← consumed
  match Operator.ofKind? t.kind with
  | some o => return o
  | none => Action.fail (.notOperator t.kind)

/-- An operator of the level and the operand behind it. -/
def operation (rule : Rule) (l : Level) : Action Parser (Operator × Node) := do
  let _ ← consume l.main l.alternative
  let o ← operator
  let right ← rule.parse
  return (o, right)

theorem Settling.operator : Settling Parser.operator := by
  unfold Parser.operator
  refine bind .consumed fun t => ?_
  split
  · exact pure _
  · exact fail _

theorem Settling.operation (rule : Rule) (l : Level) : Settling (Parser.operation rule l) :=
  bind (.consume _ _) fun _ => bind .operator fun _ => bind rule.settling fun _ => pure _

/-- An operation that has a result has consumed its operator. -/
theorem pending_operation_lt {rule : Rule} {l : Level} {p : Parser} {t : Token}
    {o : Operator} {right : Node} (hp : p.current = some t) (ht : l.accepts t.kind)
    (h : ((operation rule l).run p).outcome = .ok (o, right)) :
    ((operation rule l).run p).state.pending < p.pending := by
  have heof : t.kind ≠ .eof := by
    intro he
    rw [he, l.accepts_eof] at ht
    cases ht
  have hrest : Settling (do
      let o ← operator
      let right ← rule.parse
      return (o, right) : Action Parser (Operator × Node)) :=
    .bind .operator fun _ => .bind rule.settling fun _ => .pure _
  unfold operation at h ⊢
  cases hc : ((consume l.main l.alternative).run p).outcome with
  | error e => rw [Action.run_bind_error hc] at h; cases h
  | ok found =>
    rw [Action.run_bind_ok hc]
    exact Nat.lt_of_le_of_lt (hrest _) (pending_consume_lt hp heof hc)

/-- Fold the operations of a level that are ahead onto `left`. -/
def fold (rule : Rule) (l : Level) (left : Node) (p : Parser) : Step Parser Node :=
  match _ : p.current with
  | none => ⟨.error (missingToken "type"), p, []⟩
  | some t =>
    if _ : l.accepts t.kind then
      let step := (operation rule l).run p
      match _ : step.outcome with
      | .ok (o, right) =>
        let rest := fold rule l (.binary left right (some o)) step.state
        { rest with events := step.events ++ rest.events }
      | .error e => ⟨.error e, step.state, step.events⟩
    else ⟨.ok left, p, []⟩
termination_by p.pending
decreasing_by
  exact pending_operation_lt (by assumption) (by assumption) (by assumption)

theorem pending_fold_le (rule : Rule) (l : Level) (left : Node) (p : Parser) :
    (fold rule l left p).state.pending ≤ p.pending := by
  fun_induction fold rule l left p with
  | case1 => exact Nat.le_refl _
  | case2 left p t hp ht step o right h rest ih =>
    exact Nat.le_trans ih (Settling.operation rule l p)
  | case3 left p t hp ht step e h => exact Settling.operation rule l p
  | case4 => exact Nat.le_refl _

/-- Operands of the given rule between operators of the level. -/
def level (rule : Rule) (l : Level) : Rule where
  parse := do
    let left ← rule.parse
    .of (fold rule l left)
  settling := .bind rule.settling fun left => pending_fold_le rule l left

/-- Operands between powers. -/
def power : Rule := level unary .power

/-- Powers between signs of multiplication and division. -/
def factor : Rule := level power .product

/-- Products between signs of addition and subtraction. -/
def term : Rule := level factor .sum

/-! ## Whole sources -/

/-- Behind a complete expression there is the end of the input, or else something that a
strict parser refuses and another ignores. -/
def finish : Action Parser Unit := do
  let t ← lookahead
  if t.kind = .eof then return ()
  else if (← Action.state).strict then
    Action.fail (.trailingToken t.start (← currentText))
  else Action.report (.ignoredTrailing t.start)

/-- Parse a whole source from its start. A source without tokens is the empty tree. -/
def parse (source : Text) : Action Parser Tree := do
  Action.change fun p => { p with lexer := p.lexer.reset source, previous := none }
  let first ← advance
  Action.change fun p => { p with current := some first }
  if first.kind = .eof then do
    Action.report .emptyInput
    return none
  else do
    let root ← term.parse
    finish
    Action.report (.parsed source)
    return some root

end Parser

end Reckoner
