import Reckoner.Proofs.Grouping
import Reckoner.Proofs.ParserFrame

/-!
# The grammar read flat (one pass over the significant tokens)

The three levels of the grammar are nested loops around one token of look-ahead. Here
the same language is read in one loop: an operand, and then links, an operator with the
operand behind it, for as long as the operators have at least a given rank. What is read
is a row, and the row stands for a tree (`Chain.tree`).

* `Scan.literal_eq_ok`, `Scan.operand_eq_ok`, `Scan.subtree_eq_ok`, `Scan.parse_eq_ok`:
  what has been read if a result comes of it. Everything else about results is derived
  from these.
* `Scan.links_split`: a loop for looser operators can be interrupted by a loop for
  tighter ones. This is what the nesting of the levels amounts to.
* `Scan.links_of_eq`: behind a tree of a rank, an operator of the same rank takes that
  tree as its left operand, which is one round of the loop of a level.
-/

namespace Reckoner

/-- What comes of two steps comes of the first and then of the second. -/
theorem bind_eq_ok {ε α β : Type} {x : Except ε α} {f : α → Except ε β} {b : β}
    (h : x >>= f = .ok b) : ∃ a, x = .ok a ∧ f a = .ok b := by
  cases x with
  | error e => cases h
  | ok a => exact ⟨a, rfl, h⟩

theorem bind_eq_error {ε α β : Type} {x : Except ε α} {f : α → Except ε β} {e : ε}
    (h : x >>= f = .error e) : x = .error e ∨ ∃ a, x = .ok a ∧ f a = .error e := by
  cases x with
  | error e' => exact .inl (congrArg Except.error (Except.error.inj h))
  | ok a => exact .inr ⟨a, rfl, h⟩

theorem map_eq_ok {ε α β : Type} {x : Except ε α} {f : α → β} {b : β}
    (h : x.map f = .ok b) : ∃ a, x = .ok a ∧ f a = b := by
  cases x with
  | error e => cases h
  | ok a => exact ⟨a, rfl, Except.ok.inj h⟩

/-! ## Operator tokens -/

namespace Operator

variable {k : TokenKind} {o : Operator}

/-- Whatever a token stands for takes two operands. -/
theorem isBinary_of_ofKind? (h : ofKind? k = some o) : o.isBinary = true := by
  cases k <;> cases h <;> rfl

theorem rank_pos_of_ofKind? (h : ofKind? k = some o) : 0 < o.rank :=
  rank_pos (isBinary_of_ofKind? h)

theorem ne_eof_of_ofKind? (h : ofKind? k = some o) : k ≠ .eof := by
  rintro rfl
  cases h

end Operator

/-! ## Reading rows -/

namespace Scan

variable (source : Text)

/-- Pull the first of the given tokens into the place of the look-ahead. -/
def pull (tokens : List Token) : Except Fault (List Token) :=
  match tokens with
  | t :: _ =>
    if t.kind = .unknown then .error (.invalidToken t.start (t.text source)) else .ok tokens
  | [] => .error (Parser.missingToken "type")

/-- The number that a token is worth. -/
def numeral (t : Token) : Except Fault Float :=
  match Number.read? (t.text source) with
  | some x => .ok x
  | none => .error (.malformedNumber t.start (t.text source))

/-- A number, made into a node, or zero at the end of the input. The token behind a
number is pulled before the number is read. -/
def literal (node : Float → Node) : List Token → Except Fault (Node × List Token)
  | [] => .error (Parser.missingToken "type")
  | t :: rest =>
    match t.kind with
    | .eof => .ok (node 0, t :: rest)
    | .number => do
      let next ← pull source rest
      let x ← numeral source t
      return (node x, next)
    | _ => .error (.unexpectedToken t.start (t.text source))

/-- A number under a minus sign. -/
def negative (x : Float) : Node :=
  .unary x (some .subtract)

/-- A number, or a minus sign and a number. -/
def operand : List Token → Except Fault (Node × List Token)
  | [] => .error (Parser.missingToken "type")
  | t :: rest =>
    if t.kind = .minus then do
      let next ← pull source rest
      literal source negative next
    else literal source .value (t :: rest)

/-- The operand behind an operator. -/
def operandBehind (tokens : List Token) : Except Fault (Node × List Token) := do
  let next ← pull source tokens
  operand source next

theorem pull_eq {tokens next : List Token} (h : pull source tokens = .ok next) :
    next = tokens := by
  unfold pull at h
  split at h
  · split at h
    · cases h
    · exact (Except.ok.inj h).symm
  · cases h

theorem literal_of_eof {t : Token} (ht : t.kind = .eof) (node : Float → Node)
    (rest : List Token) : literal source node (t :: rest) = .ok (node 0, t :: rest) := by
  simp [literal, ht]

theorem literal_of_number {t : Token} (ht : t.kind = .number) (node : Float → Node)
    (rest : List Token) : literal source node (t :: rest) = (do
      let next ← pull source rest
      let x ← numeral source t
      return (node x, next)) := by
  simp [literal, ht]

theorem literal_of_ne {t : Token} (heof : t.kind ≠ .eof) (hnumber : t.kind ≠ .number)
    (node : Float → Node) (rest : List Token) :
    literal source node (t :: rest) = .error (.unexpectedToken t.start (t.text source)) := by
  show (match t.kind with | .eof => _ | .number => _ | _ => _) = _
  split
  · rename_i h
    exact absurd h heof
  · rename_i h
    exact absurd h hnumber
  · rfl

theorem operand_of_minus {t : Token} (ht : t.kind = .minus) (rest : List Token) :
    operand source (t :: rest) = (do
      let next ← pull source rest
      literal source negative next) :=
  if_pos ht

theorem operand_of_ne_minus {t : Token} (ht : t.kind ≠ .minus) (rest : List Token) :
    operand source (t :: rest) = literal source .value (t :: rest) :=
  if_neg ht

/-! ## What has been read -/

variable {source} {tokens next : List Token} {n : Node}

/-- A number has been read off a number token, or else the end is ahead and it is zero. -/
theorem literal_eq_ok {node : Float → Node} (h : literal source node tokens = .ok (n, next)) :
    ∃ t rest, tokens = t :: rest ∧
      ((t.kind = .eof ∧ n = node 0 ∧ next = t :: rest) ∨
        (t.kind = .number ∧ next = rest ∧ pull source rest = .ok rest ∧
          ∃ x, numeral source t = .ok x ∧ n = node x)) := by
  unfold literal at h
  split at h
  · cases h
  · rename_i t rest
    refine ⟨t, rest, rfl, ?_⟩
    split at h
    · rename_i heof
      cases h
      exact .inl ⟨heof, rfl, rfl⟩
    · rename_i hnumber
      obtain ⟨behind, hpull, h⟩ := bind_eq_ok h
      obtain ⟨x, hx, h⟩ := bind_eq_ok h
      cases h
      obtain rfl := pull_eq source hpull
      exact .inr ⟨hnumber, rfl, hpull, x, hx, rfl⟩
    · cases h

/-- An operand is a number behind a minus sign, or else a number. -/
theorem operand_eq_ok (h : operand source tokens = .ok (n, next)) :
    ∃ t rest, tokens = t :: rest ∧
      ((t.kind = .minus ∧ pull source rest = .ok rest ∧
          literal source negative rest = .ok (n, next)) ∨
        (t.kind ≠ .minus ∧ literal source .value (t :: rest) = .ok (n, next))) := by
  unfold operand at h
  split at h
  · cases h
  · rename_i t rest
    refine ⟨t, rest, rfl, ?_⟩
    split at h
    · rename_i hminus
      obtain ⟨behind, hpull, hread⟩ := bind_eq_ok h
      obtain rfl := pull_eq source hpull
      exact .inl ⟨hminus, hpull, hread⟩
    · rename_i hminus
      exact .inr ⟨hminus, h⟩

theorem operandBehind_eq_ok (h : operandBehind source tokens = .ok (n, next)) :
    pull source tokens = .ok tokens ∧ operand source tokens = .ok (n, next) := by
  obtain ⟨pulled, hpull, hread⟩ := bind_eq_ok h
  obtain rfl := pull_eq source hpull
  exact ⟨hpull, hread⟩

theorem literal_length_le {node : Float → Node}
    (h : literal source node tokens = .ok (n, next)) : next.length ≤ tokens.length := by
  obtain ⟨t, rest, rfl, ⟨-, -, rfl⟩ | ⟨-, rfl, -⟩⟩ := literal_eq_ok h
  · exact Nat.le_refl _
  · exact Nat.le_succ _

/-- An operand uses up tokens, unless the input ends where it has to stand. -/
theorem operandBehind_length_le (h : operandBehind source tokens = .ok (n, next)) :
    next.length ≤ tokens.length := by
  obtain ⟨t, rest, rfl, ⟨-, -, h⟩ | ⟨-, h⟩⟩ := operand_eq_ok (operandBehind_eq_ok h).2
  · exact Nat.le_succ_of_le (literal_length_le h)
  · exact literal_length_le h

variable (source)

/-- Links whose operators have at least the rank `least`. -/
def links (least : Nat) (tokens : List Token) :
    Except Fault (List (Operator × Node) × List Token) :=
  match tokens with
  | [] => .ok ([], [])
  | t :: rest =>
    match Operator.ofKind? t.kind with
    | none => .ok ([], t :: rest)
    | some o =>
      if o.rank < least then .ok ([], t :: rest)
      else
        match _ : operandBehind source rest with
        | .error e => .error e
        | .ok (x, next) =>
          (links least next).map fun (more, last) => ((o, x) :: more, last)
termination_by tokens.length
decreasing_by
  -- a link uses up its operator, and the operand behind it gives no token back
  have := operandBehind_length_le (by assumption)
  simp only [List.length_cons]
  omega

/-- A row whose operators have at least the rank `least`, as a tree. -/
def subtree (least : Nat) (tokens : List Token) : Except Fault (Node × List Token) := do
  let (first, next) ← operand source tokens
  (links source least next).map fun (more, last) => (Chain.extend first more, last)

/-- The row behind an operator. -/
def subtreeBehind (least : Nat) (tokens : List Token) : Except Fault (Node × List Token) := do
  let next ← pull source tokens
  subtree source least next

/-- Behind a complete expression there is the end of the input, or else something that
strictness forbids. -/
def finish (strict : Bool) : List Token → Except Fault Unit
  | [] => .ok ()
  | t :: _ =>
    if t.kind = .eof then .ok ()
    else if strict then .error (.trailingToken t.start (t.text source))
    else .ok ()

/-- A whole source as a tree; the empty tree if the end comes first. -/
def parse (strict : Bool) : Except Fault Tree := do
  let tokens ← pull source (Token.significant source)
  if tokens.head?.map (·.kind) = some .eof then return none
  else do
    let (root, rest) ← subtree source 1 tokens
    finish source strict rest
    return some root

/-! ## Links -/

theorem links_of_none {least : Nat} {t : Token} {rest : List Token}
    (h : Operator.ofKind? t.kind = none) :
    links source least (t :: rest) = .ok ([], t :: rest) := by
  rw [links, h]

theorem links_of_lt {least : Nat} {t : Token} {rest : List Token} {o : Operator}
    (h : Operator.ofKind? t.kind = some o) (hlt : o.rank < least) :
    links source least (t :: rest) = .ok ([], t :: rest) := by
  rw [links, h]
  exact if_pos hlt

theorem links_of_le {least : Nat} {t : Token} {rest : List Token} {o : Operator}
    (h : Operator.ofKind? t.kind = some o) (hle : least ≤ o.rank) :
    links source least (t :: rest) = (do
      let (x, next) ← operandBehind source rest
      (links source least next).map fun (more, last) => ((o, x) :: more, last)) := by
  rw [links, h]
  simp only [if_neg (Nat.not_lt.mpr hle)]
  split
  · rename_i e hbehind
    rw [hbehind]
    rfl
  · rename_i x next hbehind
    rw [hbehind]
    rfl

/-- Reading links of a loose rank is reading links of a tighter one and then the rest. -/
theorem links_split {least tighter : Nat} (hle : least ≤ tighter) (tokens : List Token) :
    links source least tokens = (do
      let (more, next) ← links source tighter tokens
      (links source least next).map fun (others, last) => (more ++ others, last)) := by
  -- where the tighter loop stops at once, the looser one does all the reading
  have hnothing (tokens : List Token) : links source least tokens =
      (links source least tokens).map fun (others, last) => ([] ++ others, last) := by
    cases links source least tokens <;> rfl
  fun_induction links source tighter tokens with
  | case1 => exact hnothing []
  | case2 t rest hnone => exact hnothing (t :: rest)
  | case3 t rest o ho hlt => exact hnothing (t :: rest)
  | case4 t rest o ho hge e hbehind =>
      rw [links_of_le source ho (by omega), hbehind]
      rfl
  | case5 t rest o ho hge x next hbehind ih =>
      -- both loops read this link; the rest is split by induction
      rw [links_of_le source ho (by omega), hbehind]
      show (links source least next).map _ = _
      rw [ih]
      cases links source tighter next with
      | error e => rfl
      | ok r =>
          show ((links source least r.2).map _).map _ = (links source least r.2).map _
          cases links source least r.2 <;> rfl

/-! ## What rows are made of -/

theorem literal_isOperand {node : Float → Node} (hnode : ∀ x, (node x).IsOperand)
    {tokens next : List Token} {n : Node} (h : literal source node tokens = .ok (n, next)) :
    n.IsOperand := by
  obtain ⟨t, rest, rfl, ⟨-, rfl, -⟩ | ⟨-, -, -, x, -, rfl⟩⟩ := literal_eq_ok h
  · exact hnode 0
  · exact hnode x

theorem operand_isOperand {tokens next : List Token} {n : Node}
    (h : operand source tokens = .ok (n, next)) : n.IsOperand := by
  obtain ⟨t, rest, rfl, ⟨-, -, h⟩ | ⟨-, h⟩⟩ := operand_eq_ok h
  · exact literal_isOperand source .negated h
  · exact literal_isOperand source .value h

/-- Links are binary operators of the rank asked for, each with an operand. -/
theorem links_plain {least : Nat} {tokens next : List Token} {more : List (Operator × Node)}
    (h : links source least tokens = .ok (more, next)) : ∀ link ∈ more,
      (link.1.isBinary = true ∧ link.2.IsOperand) ∧ least ≤ link.1.rank := by
  fun_induction links source least tokens generalizing more with
  | case1 => cases h; simp
  | case2 => cases h; simp
  | case3 => cases h; simp
  | case4 => cases h
  | case5 t rest o ho hge x behind hbehind ih =>
      obtain ⟨r, hlinks, hr⟩ := map_eq_ok h
      cases hr
      intro link hlink
      rcases List.mem_cons.mp hlink with rfl | hmem
      · have hoperand := operand_isOperand source (operandBehind_eq_ok hbehind).2
        exact ⟨⟨Operator.isBinary_of_ofKind? ho, hoperand⟩, Nat.le_of_not_lt hge⟩
      · exact ih hlinks link hmem

/-- No operator of the rank `least` or tighter comes first. -/
def Halted (least : Nat) (tokens : List Token) : Prop :=
  ∀ t rest o, tokens = t :: rest → Operator.ofKind? t.kind = some o → o.rank < least

/-- Links are read until none is ahead. -/
theorem links_halted {least : Nat} {tokens next : List Token} {more : List (Operator × Node)}
    (h : links source least tokens = .ok (more, next)) : Halted least next := by
  fun_induction links source least tokens generalizing more with
  | case1 =>
      cases h
      intro t rest o hcons
      cases hcons
  | case2 t rest hnone =>
      cases h
      intro t' rest' o hcons ho
      obtain ⟨rfl, -⟩ := List.cons.inj hcons
      rw [hnone] at ho
      cases ho
  | case3 t rest o ho hlt =>
      cases h
      intro t' rest' o' hcons ho'
      obtain ⟨rfl, -⟩ := List.cons.inj hcons
      rw [ho] at ho'
      cases ho'
      exact hlt
  | case4 => cases h
  | case5 t rest o ho hge x behind hbehind ih =>
      obtain ⟨r, hlinks, hr⟩ := map_eq_ok h
      cases hr
      exact ih hlinks

theorem links_of_halted {least : Nat} {tokens : List Token} (h : Halted least tokens) :
    links source least tokens = .ok ([], tokens) := by
  cases tokens with
  | nil => rw [links]
  | cons t rest =>
      cases ho : Operator.ofKind? t.kind with
      | none => exact links_of_none source ho
      | some o => exact links_of_lt source ho (h t rest o rfl ho)

/-- A row of operators of a rank holds together at least that tightly. -/
theorem le_rank_extend {least : Nat} {n : Node} (hn : least ≤ n.rank)
    {links : List (Operator × Node)} (h : ∀ link ∈ links, least ≤ link.1.rank) :
    least ≤ (Chain.extend n links).rank := by
  induction links generalizing n with
  | nil => exact hn
  | cons link links ih =>
      refine ih ?_ fun l hl => h l (List.mem_cons_of_mem _ hl)
      rw [Node.rank_attach]
      exact Nat.le_min.mpr ⟨hn, h link List.mem_cons_self⟩

/-- A row is an operand and the links behind it. -/
theorem subtree_eq_ok {least : Nat} {tokens next : List Token} {n : Node}
    (h : subtree source least tokens = .ok (n, next)) :
    ∃ first behind more, operand source tokens = .ok (first, behind) ∧
      links source least behind = .ok (more, next) ∧ n = Chain.extend first more := by
  obtain ⟨⟨first, behind⟩, hoperand, hread⟩ := bind_eq_ok h
  obtain ⟨⟨more, last⟩, hlinks, hmore⟩ := map_eq_ok hread
  obtain ⟨rfl, rfl⟩ := Prod.mk.inj hmore
  exact ⟨first, behind, more, hoperand, hlinks, rfl⟩

theorem subtree_halted {least : Nat} {tokens next : List Token} {n : Node}
    (h : subtree source least tokens = .ok (n, next)) : Halted least next := by
  obtain ⟨first, behind, more, -, hlinks, -⟩ := subtree_eq_ok source h
  exact links_halted source hlinks

theorem subtreeBehind_halted {least : Nat} {tokens next : List Token} {n : Node}
    (h : subtreeBehind source least tokens = .ok (n, next)) : Halted least next := by
  obtain ⟨pulled, -, hread⟩ := bind_eq_ok h
  exact subtree_halted source hread

theorem subtree_le_rank {least : Nat} (hleast : least ≤ 4) {tokens next : List Token} {n : Node}
    (h : subtree source least tokens = .ok (n, next)) : least ≤ n.rank := by
  obtain ⟨first, behind, more, hoperand, hlinks, rfl⟩ := subtree_eq_ok source h
  refine le_rank_extend ?_ fun link hlink => (links_plain source hlinks link hlink).2
  rw [(operand_isOperand source hoperand).rank_eq]
  exact hleast

theorem subtree_grouped {least : Nat} {tokens next : List Token} {n : Node}
    (h : subtree source least tokens = .ok (n, next)) : n.Grouped := by
  obtain ⟨first, behind, more, hoperand, hlinks, rfl⟩ := subtree_eq_ok source h
  exact Chain.grouped_extend (.operand (operand_isOperand source hoperand))
    fun link hlink => (links_plain source hlinks link hlink).1

/-- A row of a loose rank is a row of a tighter one with links behind it. -/
theorem subtree_split {least tighter : Nat} (hle : least ≤ tighter) (tokens : List Token) :
    subtree source least tokens = (do
      let (n, next) ← subtree source tighter tokens
      (links source least next).map fun (more, last) => (Chain.extend n more, last)) := by
  unfold subtree
  cases operand source tokens with
  | error e => rfl
  | ok r =>
      show (links source least r.2).map _ = ((links source tighter r.2).map _ >>= _)
      rw [links_split source hle]
      cases links source tighter r.2 with
      | error e => rfl
      | ok s =>
          show ((links source least s.2).map _).map _ = (links source least s.2).map _
          cases links source least s.2 with
          | error e => rfl
          | ok u =>
              show Except.ok (Chain.extend r.1 (s.1 ++ u.1), u.2) = _
              rw [Chain.extend_append]
              rfl

/-- Behind a tree of a rank, an operator of that rank takes the whole tree as its left
operand, and the row of tighter operators behind it as its right one. -/
theorem links_of_eq {least : Nat} {t : Token} {rest : List Token} {o : Operator}
    (ho : Operator.ofKind? t.kind = some o) (hrank : o.rank = least) {left : Node}
    (hleft : least ≤ left.rank) :
    ((links source least (t :: rest)).map fun (more, last) => (Chain.extend left more, last)) =
      (do
        let (right, next) ← subtreeBehind source (least + 1) rest
        (links source least next).map fun (more, last) =>
          (Chain.extend (.binary left right (some o)) more, last)) := by
  rw [links_of_le source ho (Nat.le_of_eq hrank.symm)]
  unfold operandBehind subtreeBehind subtree
  cases pull source rest with
  | error e => rfl
  | ok pulled =>
      show Except.map _ (operand source pulled >>= _) = (operand source pulled >>= _) >>= _
      cases operand source pulled with
      | error e => rfl
      | ok r =>
          show ((links source least r.2).map _).map _ =
            ((links source (least + 1) r.2).map _ >>= _)
          rw [links_split source (Nat.le_succ least)]
          cases hmore : links source (least + 1) r.2 with
          | error e => rfl
          | ok s =>
              show (((links source least s.2).map _).map _).map _ = (links source least s.2).map _
              cases links source least s.2 with
              | error e => rfl
              | ok u =>
                  -- the tighter links all go to the right operand
                  have htighter : ∀ link ∈ s.1, o.rank < link.1.rank := fun link hlink => by
                    rw [hrank]
                    exact (links_plain source hmore link hlink).2
                  show Except.ok (Chain.extend (left.attach o r.1) (s.1 ++ u.1), u.2) =
                    .ok (Chain.extend (.binary left (Chain.extend r.1 s.1) (some o)) u.1, u.2)
                  rw [Node.attach_of_le (hrank ▸ hleft), Chain.extend_append,
                    Chain.extend_binary _ _ _ htighter]

/-- A source that is parsed to a tree is a whole expression. -/
theorem parse_eq_ok {strict : Bool} {root : Node} (h : parse source strict = .ok (some root)) :
    ∃ rest, pull source (Token.significant source) = .ok (Token.significant source) ∧
      subtree source 1 (Token.significant source) = .ok (root, rest) ∧
      finish source strict rest = .ok () := by
  obtain ⟨tokens, hpull, hread⟩ := bind_eq_ok h
  obtain rfl := pull_eq source hpull
  split at hread
  · cases hread
  · obtain ⟨⟨n, rest⟩, hsubtree, hread⟩ := bind_eq_ok hread
    obtain ⟨u, hfinish, hroot⟩ := bind_eq_ok hread
    cases hroot
    exact ⟨rest, hpull, hsubtree, hfinish⟩

end Scan

end Reckoner
