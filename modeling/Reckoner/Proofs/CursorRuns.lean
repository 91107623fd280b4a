import Reckoner.Proofs.Tokenization

/-!
# Runs of lexers (what a cursor has behind it)

A lexer can be used step by step, in any order: its runs can be taken where there is no
run ahead, and single characters behind the end of the source. A `Run` records what has
come of the operations since the last reset. Whatever they were, the tokens taken off lie
one behind the other from the first place of the source to the cursor, and the cursor
stands as far behind the end as single characters were taken there.

* `Lexer.next_cases`: what `next` can come to; all that is said of iterations rests on it.
* `Lexer.Passes`: what a part of a run does to the cursor. Parts are put together by
  `Passes.trans`, so a run is as good as its operations (`passes_perform`).
* `Lexer.drain_stops`: iterating is calling `next` until the end token, which comes once.
* `Lexer.after_tiled`: all of this after any run.
-/

namespace Reckoner

namespace Token

/-- Tokens that cover the places from `i` up to `j`, some of them perhaps empty. The place `j`
may lie behind the end of the source. -/
abbrev Abutting : Int → Int → List Token → Prop := Spanning 0

end Token

namespace Lexer

/-! ## What an operation does to the cursor -/

/-- From `l` to `l'` the cursor passes the tokens `ts`, and gets `beyond` places further behind
the end. -/
structure Passes (l : Lexer) (ts : List Token) (beyond : Nat) (l' : Lexer) : Prop where
  source_eq : l'.source = l.source
  limit_eq : l'.limit = l.limit
  abutting : Token.Abutting l.position l'.position ts
  beyond_eq : l'.position - l'.limit = l.position - l.limit + beyond

namespace Passes

variable {l l' l'' : Lexer} {ts us : List Token} {m n : Nat}

theorem refl (l : Lexer) : Passes l [] 0 l :=
  ⟨rfl, rfl, .nil _, rfl⟩

theorem trans (h : Passes l ts m l') (h' : Passes l' us n l'') :
    Passes l (ts ++ us) (m + n) l'' where
  source_eq := h'.source_eq.trans h.source_eq
  limit_eq := h'.limit_eq.trans h.limit_eq
  abutting := h.abutting.append h'.abutting
  beyond_eq := by
    have hfirst := h.beyond_eq
    have hsecond := h'.beyond_eq
    omega

theorem position_le (h : Passes l ts n l') : l.position ≤ l'.position :=
  Int.ofNat_le.mp (h.abutting.le (by decide))

/-- The cursor passes a token that begins at it. -/
theorem advance (l : Lexer) (kind : TokenKind) (n : Nat) {beyond : Nat}
    (hbeyond : l.position + n - l.limit = l.position - l.limit + beyond) :
    Passes l [⟨kind, l.position, n⟩] beyond (l.advance n) where
  source_eq := rfl
  limit_eq := rfl
  abutting := .cons (t := ⟨kind, l.position, n⟩) (Int.natCast_nonneg n) (.nil _)
  beyond_eq := hbeyond

/-- The cursor does not get behind the end by passing a token of the text ahead. -/
theorem advance_within {l : Lexer} (hlimit : l.limit = l.source.length) (kind : TokenKind)
    {n : Nat} (hn : n ≤ l.rest.length) : Passes l [⟨kind, l.position, n⟩] 0 (l.advance n) := by
  refine advance l kind n ?_
  rw [rest, List.length_drop] at hn
  omega

end Passes

/-- At the end `next` answers with the end token and stays. Before the end it takes a token
off the text ahead that is not empty. -/
theorem next_cases (l : Lexer) :
    (l.rest = [] ∧ l.next = (⟨.eof, l.limit, 1⟩, l)) ∨
      ∃ (kind : TokenKind) (n : Nat), kind ≠ .eof ∧ 0 < n ∧ n ≤ l.rest.length ∧
        l.next = (⟨kind, l.position, n⟩, l.advance n) := by
  by_cases hrest : l.rest = []
  · exact .inl ⟨hrest, next_of_nil hrest⟩
  · obtain ⟨kind, w, more, hmunch⟩ := exists_munch hrest
    refine .inr ⟨kind, w.length, hmunch.spells.ne_eof, ?_, ?_, next_of_munch hmunch⟩
    · exact List.length_pos_iff.mpr hmunch.spells.nonempty
    · simp [hmunch.split]

/-- The end of the source is where nothing is ahead. -/
theorem rest_eq_nil_iff {l : Lexer} (hlimit : l.limit = l.source.length) :
    l.rest = [] ↔ l.limit ≤ l.position := by
  rw [rest, List.drop_eq_nil_iff, hlimit]

/-- The tokens without end tokens. -/
def proper (ts : List Token) : List Token :=
  ts.filter (·.kind ≠ .eof)

theorem passes_next {l : Lexer} (hlimit : l.limit = l.source.length) :
    Passes l (proper [l.next.1]) 0 l.next.2 := by
  rcases l.next_cases with ⟨-, hnext⟩ | ⟨kind, n, hkind, -, hn, hnext⟩
  · rw [hnext]
    exact .refl l
  · rw [hnext, show proper [⟨kind, l.position, n⟩] = [⟨kind, l.position, n⟩] by
      simp [proper, hkind]]
    exact .advance_within hlimit kind hn

theorem passes_drain {l : Lexer} (hlimit : l.limit = l.source.length) :
    Passes l (proper l.drain.1) 0 l.drain.2 := by
  have hstep := passes_next hlimit
  fun_induction drain l with
  | case1 l heof => exact hstep
  | case2 l hne tokens last hrest ih =>
      have hbehind : l.next.2.limit = l.next.2.source.length := by
        rw [hstep.limit_eq, hstep.source_eq, hlimit]
      rw [hrest] at ih
      have hall := hstep.trans (ih hbehind (passes_next hbehind))
      rwa [proper, proper, ← List.filter_append] at hall

/-! ## Iterating -/

/-- The lexer behind the next `n` tokens. -/
def skip (l : Lexer) (n : Nat) : Lexer :=
  (fun l => l.next.2)^[n] l

/-- Iterating calls `next` as often as there are tokens in front of the end token, which
is no more often than there are characters ahead, and once more. The last call does not move
the cursor. -/
theorem drain_stops (l : Lexer) : ∃ body, l.drain.1 = body ++ [⟨.eof, l.limit, 1⟩] ∧
    (∀ t ∈ body, t.kind ≠ .eof) ∧ body.length ≤ l.rest.length ∧
    l.drain = ((List.range (body.length + 1)).map fun i => (l.skip i).next.1,
      l.skip body.length) := by
  fun_induction drain l with
  | case1 l heof =>
      rcases l.next_cases with ⟨-, hnext⟩ | ⟨kind, n, hkind, -, -, hnext⟩
      · exact ⟨[], by simp [hnext], by simp, by simp, by simp [skip, hnext]⟩
      · rw [hnext] at heof
        exact absurd heof hkind
  | case2 l hne tokens last hrest ih =>
      rw [hrest] at ih
      obtain ⟨body, hbody, hproper, hlength, hcalls⟩ := ih
      obtain ⟨htokens, hlast⟩ := Prod.mk.inj hcalls
      have hless := l.remaining_next_lt hne
      unfold remaining at hless
      refine ⟨l.next.1 :: body, ?_, ?_, ?_, ?_⟩
      · rw [l.next_limit] at hbody
        exact congrArg (l.next.1 :: ·) hbody
      · intro t ht
        rcases List.mem_cons.mp ht with rfl | hmem
        · exact hne
        · exact hproper t hmem
      · rw [List.length_cons]
        omega
      · have hrange : List.range (body.length + 1 + 1) =
            0 :: (List.range (body.length + 1)).map Nat.succ :=
          List.range_succ_eq_map
        rw [htokens, hlast, List.length_cons, hrange, List.map_cons, List.map_map]
        rfl

/-! ## Runs -/

/-- What can be asked of a lexer. -/
inductive Operation where
  | next
  | spacing
  | numeric
  | single (kind : TokenKind)
  /-- Iterate to the end. -/
  | drain
  | reset (source : Text)
  deriving DecidableEq, Repr

/-- The tokens that an operation returns, and the lexer that it leaves behind. -/
def perform (l : Lexer) : Operation → List Token × Lexer
  | .next => ([l.next.1], l.next.2)
  | .spacing => ([l.spacing.1], l.spacing.2)
  | .numeric => ([l.numeric.1], l.numeric.2)
  | .single kind => ([(l.single kind).1], (l.single kind).2)
  | .drain => l.drain
  | .reset source => ([], l.reset source)

/-- The tokens that an operation takes off the source: those it returns, without the end
tokens that `next` has answered with. -/
def taken (l : Lexer) (op : Operation) : List Token :=
  match op with
  | .next | .drain => proper (l.perform op).1
  | _ => (l.perform op).1

/-- How many characters an operation takes behind the end. Only those asked for singly can
lie there. -/
def overrun (l : Lexer) : Operation → Nat
  | .single _ => if l.limit ≤ l.position then 1 else 0
  | _ => 0

/-- A lexer in use, and what has come of the operations since the last reset. -/
structure Run where
  lexer : Lexer
  /-- The tokens taken off, in order. -/
  taken : List Token
  /-- How many characters were taken behind the end. -/
  overrun : Nat

namespace Run

/-- A new lexer. -/
def new (source : Text) : Run := ⟨.ofText source, [], 0⟩

/-- The run one operation further. -/
def step (r : Run) (op : Operation) : Run :=
  match op with
  | .reset source => ⟨r.lexer.reset source, [], 0⟩
  | op => ⟨(r.lexer.perform op).2, r.taken ++ r.lexer.taken op, r.overrun + r.lexer.overrun op⟩

/-- The run some operations further. -/
def after (r : Run) (ops : List Operation) : Run :=
  ops.foldl step r

end Run

/-- Whatever is asked of a lexer but a new source, its cursor passes the tokens taken. -/
theorem passes_perform {l : Lexer} (hlimit : l.limit = l.source.length) {op : Operation}
    (hop : ∀ source, op ≠ .reset source) :
    Passes l (l.taken op) (l.overrun op) (l.perform op).2 := by
  have hrun (p : Char → Bool) : (l.rest.takeWhile p).length ≤ l.rest.length :=
    (List.takeWhile_prefix p).length_le
  cases op with
  | next => exact passes_next hlimit
  | spacing => exact .advance_within hlimit .whitespace (hrun isSpacing)
  | numeric => exact .advance_within hlimit _ (hrun isNumeric)
  | single kind =>
      refine Passes.advance l kind 1 ?_
      simp only [overrun]
      split <;> omega
  | drain => exact passes_drain hlimit
  | reset source => exact absurd rfl (hop source)

namespace Run

/-- Since the last reset the cursor has passed what has been taken. -/
def Kept (r : Run) : Prop :=
  Passes (.ofText r.lexer.source) r.taken r.overrun r.lexer

theorem kept_new (source : Text) : (new source).Kept :=
  .refl (.ofText source)

theorem Kept.limit_eq {r : Run} (h : r.Kept) : r.lexer.limit = r.lexer.source.length :=
  Passes.limit_eq h

theorem step_of_ne {r : Run} {op : Operation} (hop : ∀ source, op ≠ .reset source) :
    r.step op = ⟨(r.lexer.perform op).2, r.taken ++ r.lexer.taken op,
      r.overrun + r.lexer.overrun op⟩ := by
  cases op with
  | reset source => exact absurd rfl (hop source)
  | _ => rfl

theorem kept_step {r : Run} (h : r.Kept) (op : Operation) : (r.step op).Kept := by
  by_cases hop : ∀ source, op ≠ .reset source
  · have hpasses := passes_perform h.limit_eq hop
    rw [step_of_ne hop]
    unfold Kept
    rw [hpasses.source_eq]
    exact Passes.trans h hpasses
  · simp only [ne_eq, not_forall, Decidable.not_not] at hop
    obtain ⟨source, rfl⟩ := hop
    exact kept_new source

theorem kept_after {r : Run} (h : r.Kept) (ops : List Operation) : (r.after ops).Kept := by
  induction ops generalizing r with
  | nil => exact h
  | cons op ops ih => exact ih (kept_step h op)

/-- Without a reset the cursor never moves back. -/
theorem position_le_after {r : Run} (h : r.Kept) {ops : List Operation}
    (hops : ∀ source, .reset source ∉ ops) :
    r.lexer.position ≤ (r.after ops).lexer.position := by
  induction ops generalizing r with
  | nil => exact Nat.le_refl _
  | cons op ops ih =>
      have hop : ∀ source, op ≠ .reset source := by
        rintro source rfl
        exact hops source List.mem_cons_self
      have hstep : r.lexer.position ≤ (r.step op).lexer.position := by
        rw [step_of_ne hop]
        exact (passes_perform h.limit_eq hop).position_le
      exact hstep.trans
        (ih (kept_step h op) fun source hmem => hops source (List.mem_cons_of_mem _ hmem))

end Run

/-- After any run of a new lexer:
the limit is the end of the source, and the cursor does not move back until the next reset;
the tokens taken since the last reset cover the places up to the cursor without a gap and
spell the source up to it;
the cursor stands as far behind the end as single characters were taken there;
at the end `next` answers with the end token and stays, and before the end with a token that
is not empty and lies within the source;
and iterating calls `next` finitely often, until the end token, which comes once. -/
theorem after_tiled (source : Text) (ops : List Operation) :
    let r := (Run.new source).after ops
    let l := r.lexer
    l.limit = l.source.length ∧
      (∀ more, (∀ source, .reset source ∉ more) →
        l.position ≤ (r.after more).lexer.position) ∧
      Token.Abutting 0 l.position r.taken ∧
      (r.taken.map (·.text l.source)).flatten = l.source.take l.position ∧
      l.position - l.limit = r.overrun ∧
      (l.limit ≤ l.position → l.next = (⟨.eof, l.limit, 1⟩, l)) ∧
      (l.position < l.limit → l.next.1.kind ≠ .eof ∧ 1 ≤ l.next.1.length ∧
        l.next.1.start + l.next.1.length ≤ l.limit) ∧
      ∃ body, l.drain.1 = body ++ [⟨.eof, l.limit, 1⟩] ∧ (∀ t ∈ body, t.kind ≠ .eof) ∧
        body.length ≤ l.limit - l.position ∧
        l.drain = ((List.range (body.length + 1)).map fun i => (l.skip i).next.1,
          l.skip body.length) := by
  intro r l
  have hkept : r.Kept := Run.kept_after (Run.kept_new source) ops
  have hlimit : l.limit = l.source.length := hkept.limit_eq
  have hrest : l.rest.length = l.limit - l.position := by
    rw [rest, List.length_drop, hlimit]
  have habutting : Token.Abutting (0 : Nat) l.position r.taken := hkept.abutting
  refine ⟨hlimit, fun more => Run.position_le_after hkept, habutting, ?_, ?_, ?_, ?_, ?_⟩
  · simpa using habutting.flatten_texts (by decide) l.source
  · have hbeyond : l.position - l.limit = 0 - l.source.length + r.overrun := hkept.beyond_eq
    omega
  · intro hend
    exact next_of_nil ((rest_eq_nil_iff hlimit).mpr hend)
  · intro hbefore
    rcases l.next_cases with ⟨hnil, -⟩ | ⟨kind, n, hkind, hpos, hn, hnext⟩
    · have hend := (rest_eq_nil_iff hlimit).mp hnil
      omega
    · rw [hnext]
      refine ⟨hkind, ?_, ?_⟩
      · simp only
        omega
      · simp only
        omega
  · obtain ⟨body, hbody, hproper, hlength, hcalls⟩ := l.drain_stops
    exact ⟨body, hbody, hproper, hrest ▸ hlength, hcalls⟩

/-- Runs taken where there are none are empty, and single characters behind the end count. -/
example :
    let r := (Run.new "1 ").after [.spacing, .next, .single .eof, .single .plus, .numeric, .drain]
    (r.taken, r.overrun) =
      ([⟨.whitespace, 0, 0⟩, ⟨.number, 0, 1⟩, ⟨.eof, 1, 1⟩, ⟨.plus, 2, 1⟩, ⟨.number, 3, 0⟩], 1) := by
  decide +kernel

end Lexer

end Reckoner
