import Mathlib.Data.List.DropRight
import Mathlib.Data.List.Dedup
import Mathlib.Data.List.Nodup
import Mathlib.Data.List.Lattice
import Reckoner.Proofs.SessionLogs

/-!
# What the cache holds (the last distinct successes)

A cache by recency is kept up by moving entries about. What comes of it is said here
without looking at the moves: of the sources that were evaluated with success since the
session was last cleared, repeated ones count where they occur last, and the cache holds
as many of the latest as it has room for (`Cache.recent`).

* `recent_concat`, `recent_concat_of_mem`: one more success makes of the recent sources
  what the session makes of its cache.
* `mem_recent_iff`: a source is recent if fewer others than there is room for have
  succeeded behind it.
* `Accounts.evaluate`: a session that accounts for a log accounts for one more evaluation;
  `Accounts.after`: it does so after any run.
* `after_recent`: what the cache and the counters show after any run.
-/

namespace Reckoner

/-! ## Histories -/

namespace Cache

section

variable {α : Type} {l : List α} {n : Nat}

theorem length_rtake_le : (l.rtake n).length ≤ n := by
  unfold List.rtake
  rw [List.length_drop]
  omega

theorem rtake_of_length_le (h : l.length ≤ n) : l.rtake n = l := by
  unfold List.rtake
  rw [Nat.sub_eq_zero_of_le h, List.drop_zero]

theorem tail_eq_rtake (h : l.length = n + 1) : l.tail = l.rtake n := by
  unfold List.rtake
  rw [h, Nat.add_sub_cancel_left, List.drop_one]

theorem rtake_append_of_le {front : List α} (h : n ≤ l.length) :
    (front ++ l).rtake n = l.rtake n := by
  have hdrop : front.drop (front.length + l.length - n) = [] :=
    List.drop_eq_nil_of_le (by omega)
  unfold List.rtake
  rw [List.drop_append, List.length_append, hdrop, List.nil_append]
  congr 1
  omega

end

section

variable {α : Type} [DecidableEq α]

/-- The last of the distinct members of a history, as many as there is room for. A member
that is repeated stands where it occurs last. -/
def recent (size : Int) (history : List α) : List α :=
  history.dedup.rtake size.toNat

theorem dedup_concat (history : List α) (x : α) :
    (history ++ [x]).dedup = history.dedup.filter (· ≠ x) ++ [x] := by
  induction history with
  | nil => rfl
  | cons a history ih =>
      rw [List.cons_append]
      by_cases ha : a ∈ history
      · rw [List.dedup_cons_of_mem (List.mem_append_left _ ha), List.dedup_cons_of_mem ha, ih]
      · rw [List.dedup_cons_of_notMem ha]
        by_cases hx : a = x
        · subst hx
          rw [List.dedup_cons_of_mem (by simp), ih, List.filter_cons_of_neg (by simp)]
        · rw [List.dedup_cons_of_notMem (by simp [ha, hx]), ih,
            List.filter_cons_of_pos (by simpa using hx), List.cons_append]

theorem filter_ne_eq_erase {l : List α} (h : l.Nodup) (x : α) :
    l.filter (· ≠ x) = l.erase x := by
  rw [h.erase_eq_filter]
  exact List.filter_congr fun a _ => by simp [bne, beq_eq_decide]

theorem filter_ne_of_notMem {l : List α} {x : α} (h : x ∉ l) : l.filter (· ≠ x) = l := by
  refine List.filter_eq_self.mpr fun a ha => decide_eq_true ?_
  rintro rfl
  exact h ha

/-- Without one of its members, a list without repetitions has the same last members, if
one more of them is looked at. -/
theorem rtake_filter {l : List α} (h : l.Nodup) (x : α) (n : Nat) :
    (l.filter (· ≠ x)).rtake n = ((l.rtake (n + 1)).filter (· ≠ x)).rtake n := by
  by_cases hshort : l.length ≤ n + 1
  · rw [rtake_of_length_le hshort]
  · obtain ⟨front, back, hl, hback⟩ : ∃ front back, l = front ++ back ∧ back.length = n + 1 := by
      refine ⟨l.take (l.length - (n + 1)), l.drop (l.length - (n + 1)),
        (List.take_append_drop _ l).symm, ?_⟩
      rw [List.length_drop]
      omega
    have hnodup : back.Nodup := by
      rw [hl] at h
      exact h.of_append_right
    have hleft : n ≤ (back.filter (· ≠ x)).length := by
      rw [filter_ne_eq_erase hnodup, List.length_erase]
      split <;> omega
    rw [hl, rtake_append_of_le (Nat.le_of_eq hback.symm), rtake_of_length_le (Nat.le_of_eq hback),
      List.filter_append, rtake_append_of_le hleft]

/-- One more entry of the history goes behind the recent ones, wherever it stood among
them, and the oldest gives way if there are too many. -/
theorem recent_concat (size : Int) (history : List α) (x : α) :
    recent size (history ++ [x]) =
      ((recent size history).filter (· ≠ x) ++ [x]).rtake size.toNat := by
  unfold recent
  rw [dedup_concat]
  cases size.toNat with
  | zero => rw [List.rtake_zero, List.rtake_zero]
  | succ n =>
      rw [List.rtake_concat_succ, List.rtake_concat_succ, ← rtake_filter history.nodup_dedup x n]

/-- An entry that is recent already only changes its place. -/
theorem recent_concat_of_mem {size : Int} {history : List α} {x : α}
    (hx : x ∈ recent size history) :
    recent size (history ++ [x]) = (recent size history).filter (· ≠ x) ++ [x] := by
  have hnodup : (recent size history).Nodup := by
    exact history.nodup_dedup.sublist (List.drop_sublist _ _)
  have hlength : (recent size history).length ≤ size.toNat := length_rtake_le
  have hpos := List.length_pos_of_mem hx
  rw [recent_concat]
  refine rtake_of_length_le ?_
  rw [List.length_append, filter_ne_eq_erase hnodup, List.length_erase_of_mem hx,
    List.length_singleton]
  omega

theorem recent_concat_of_notMem {size : Int} {history : List α} {x : α}
    (hx : x ∉ recent size history) :
    recent size (history ++ [x]) = (recent size history ++ [x]).rtake size.toNat := by
  rw [recent_concat, filter_ne_of_notMem hx]

/-- Whether the last occurrence of an entry is recent depends on what comes behind it. -/
theorem mem_recent_append {size : Int} {before behind : List α} {x : α} (hx : x ∉ behind) :
    x ∈ recent size (before ++ x :: behind) ↔ (behind.dedup.length : Int) < size := by
  obtain ⟨front, hfront⟩ : ∃ front, (before ++ x :: behind).dedup = front ++ x :: behind.dedup := by
    obtain ⟨front, hfront⟩ := List.suffix_union_right before (x :: behind).dedup
    refine ⟨front, ?_⟩
    rw [List.dedup_append, ← hfront, List.dedup_cons_of_notMem hx]
  unfold recent
  rw [hfront]
  constructor
  · -- otherwise those behind are recent, and there is no room for more
    intro hmem
    by_contra hlt
    rw [← List.concat_append, List.concat_eq_append, rtake_append_of_le (by omega)] at hmem
    exact hx (List.mem_dedup.mp (List.mem_of_mem_drop hmem))
  · intro hlt
    unfold List.rtake
    rw [List.length_append, List.length_cons, List.drop_append_of_le_length (by omega)]
    exact List.mem_append_right _ List.mem_cons_self

/-- An entry is recent if it is in the history, and if fewer others than there is room
for come behind it. -/
theorem mem_recent_iff {size : Int} {history : List α} {x : α} :
    x ∈ recent size history ↔ ∃ before behind, history = before ++ x :: behind ∧
      x ∉ behind ∧ (behind.dedup.length : Int) < size := by
  constructor
  · intro hmem
    have hhistory : x ∈ history.reverse :=
      List.mem_reverse.mpr (List.mem_dedup.mp (List.mem_of_mem_drop hmem))
    -- the last occurrence is the first one from behind
    obtain ⟨behind, before, hsplit, hbehind⟩ := List.eq_append_cons_of_mem hhistory
    have hx : x ∉ behind.reverse := fun h => hbehind (List.mem_reverse.mp h)
    have heq : history = before.reverse ++ x :: behind.reverse := by
      rw [← List.reverse_reverse history, hsplit]
      simp
    rw [heq] at hmem
    exact ⟨before.reverse, behind.reverse, heq, hx, (mem_recent_append hx).mp hmem⟩
  · rintro ⟨before, behind, rfl, hx, hlt⟩
    exact (mem_recent_append hx).mpr hlt

example : recent 2 [4, 7, 4, 9, 9] = [4, 9] := by decide

end

/-! ## Keys -/

theorem keys_insert (c : Cache) (source : Text) (x : Float) :
    (c.insert source x).keys = c.keys.filter (· ≠ source) ++ [source] := by
  have hkept (entry : Text × Float) : (entry.1 != source) = decide (entry.1 ≠ source) := by
    by_cases h : entry.1 = source <;> simp [h]
  unfold insert erase keys
  rw [List.map_append, List.filter_map, List.filter_congr fun entry _ => hkept entry]
  rfl

theorem keys_dropOldest (c : Cache) : c.dropOldest.keys = c.keys.tail :=
  List.map_tail

theorem get?_eq_none_iff {c : Cache} {source : Text} : c.get? source = none ↔ source ∉ c.keys := by
  unfold get? keys
  rw [List.lookup_eq_none_iff]
  constructor
  · intro hnone hmem
    obtain ⟨entry, hentry, rfl⟩ := List.mem_map.mp hmem
    simpa using hnone entry hentry
  · intro hmem entry hentry
    have hne : source ≠ entry.1 := fun h => hmem (h ▸ List.mem_map_of_mem hentry)
    simpa using hne

end Cache

namespace Session

/-! ## What one evaluation does to the cache -/

section

variable {s : Session} {size : Int} (source : Text)

theorem remember_of_off (hlimit : s.limit = .off) (x : Float) :
    (remember source x).run s = ⟨.ok (), s, []⟩ := by
  simp [remember, hlimit]

theorem remember_of_entries {n : Nat} (hlimit : s.limit = .entries n) (x : Float) :
    ((remember source x).run s).outcome = .ok () ∧ ((remember source x).run s).state =
      { s with
        cache := if n < (s.cache.insert source x).size then (s.cache.insert source x).dropOldest
          else s.cache.insert source x } := by
  obtain ⟨oldest, holdest⟩ : ∃ oldest, (s.cache.insert source x).keys.head? = some oldest := by
    rw [Cache.keys_insert]
    cases s.cache.keys.filter (· ≠ source) with
    | nil => exact ⟨_, rfl⟩
    | cons key keys => exact ⟨_, rfl⟩
  by_cases hfull : n < (s.cache.insert source x).size
  · simp [remember, hlimit, Cache.overflow?, hfull, holdest]
  · simp [remember, hlimit, Cache.overflow?, hfull]

/-- Whether there is room in the cache or not, a new result goes behind the others, and
of all of them the latest stay. -/
theorem remember_run (hlimit : s.limit = .ofInt size)
    (hlength : s.cache.keys.length ≤ size.toNat) (hnew : source ∉ s.cache.keys) (x : Float) :
    ((remember source x).run s).outcome = .ok () ∧
      ∃ cache, ((remember source x).run s).state = { s with cache } ∧
        cache.keys = (s.cache.keys ++ [source]).rtake size.toNat := by
  have hkeys : (s.cache.insert source x).keys = s.cache.keys ++ [source] := by
    rw [Cache.keys_insert, Cache.filter_ne_of_notMem hnew]
  have hsize : (s.cache.insert source x).size = s.cache.keys.length + 1 := by
    have h := congrArg List.length hkeys
    rw [List.length_append, List.length_singleton] at h
    simpa [Cache.size, Cache.keys] using h
  unfold Limit.ofInt at hlimit
  split at hlimit
  · rename_i hoff
    -- nothing is kept, and nothing was
    have hzero : size.toNat = 0 := by omega
    have hnil : s.cache.keys = [] := List.eq_nil_of_length_eq_zero (by omega)
    rw [remember_of_off source hlimit]
    exact ⟨rfl, s.cache, rfl, by rw [hzero, List.rtake_zero, hnil]⟩
  · obtain ⟨houtcome, hstate⟩ := remember_of_entries source hlimit x
    refine ⟨houtcome, _, hstate, ?_⟩
    rw [hsize]
    split
    · rw [Cache.keys_dropOldest, hkeys, Cache.tail_eq_rtake]
      rw [List.length_append, List.length_singleton]
      omega
    · rw [hkeys, Cache.rtake_of_length_le]
      rw [List.length_append, List.length_singleton]
      omega

/-- A source without a kept result changes the cache if there is a result now. -/
theorem evaluate_run_of_notMem (hlimit : s.limit = .ofInt size)
    (hlength : s.cache.keys.length ≤ size.toNat) (hnew : source ∉ s.cache.keys) :
    ∃ parser cache,
      ((evaluate source).run s).state = { s with parser, cache, misses := s.misses + 1 } ∧
      cache.keys = if ((evaluate source).run s).outcome.isOk
        then (s.cache.keys ++ [source]).rtake size.toNat else s.cache.keys := by
  rcases evaluate_run_of_unkept (Cache.get?_eq_none_iff.mpr hnew) with
    ⟨e, houtcome, hstate⟩ | ⟨x, houtcome, hstate⟩
  · rw [houtcome, hstate]
    exact ⟨_, s.cache, rfl, rfl⟩
  · -- the parser and the counter make no difference to what is remembered
    obtain ⟨hremember, cache, hcache, hkeys⟩ :=
      remember_run source (s := { s with
        parser := ((Parser.parse source).run s.parser).state, misses := s.misses + 1 })
        hlimit hlength hnew x
    rw [houtcome, hstate, hremember, hcache]
    exact ⟨_, cache, rfl, hkeys⟩

end

/-! ## What a session accounts for -/

theorem successes_concat (log : List Evaluation) (e : Evaluation) :
    successes (log ++ [e]) =
      if e.succeeded then successes log ++ [e.source] else successes log := by
  unfold successes
  rw [List.filter_append, List.map_append]
  cases h : e.succeeded <;> simp [h]

/-- An evaluation at the end of a log, or one that was in it before. -/
theorem eq_of_concat_eq {log earlier later : List Evaluation} {last e : Evaluation}
    (h : log ++ [last] = earlier ++ e :: later) :
    (earlier = log ∧ e = last) ∨ ∃ later', log = earlier ++ e :: later' := by
  rcases List.eq_nil_or_concat later with rfl | ⟨later', x, rfl⟩
  · obtain ⟨hlog, he⟩ := List.append_inj' h rfl
    exact .inl ⟨hlog.symm, (List.cons.inj he).1.symm⟩
  · rw [List.concat_eq_append, ← List.cons_append, ← List.append_assoc] at h
    exact .inr ⟨later', (List.append_inj' h rfl).1⟩

/-- The cache and the counters of a session are what the log of its evaluations makes
them, and each evaluation in it counted as found if its source was recent. -/
structure Accounts (size : Int) (s : Session) (log : List Evaluation) : Prop where
  limit : s.limit = .ofInt size
  keys : s.cache.keys = Cache.recent size (successes log)
  hits : s.hits = log.countP (·.found)
  misses : s.misses = log.countP (·.missed)
  counted : ∀ earlier e later, log = earlier ++ e :: later →
    (e.found ↔ e.source ∈ Cache.recent size (successes earlier)) ∧
      (e.missed ↔ e.source ∉ Cache.recent size (successes earlier))

namespace Accounts

variable {size : Int} {s : Session} {log : List Evaluation}

/-- A session that is new or has been cleared accounts for nothing. -/
theorem of_empty (hlimit : s.limit = .ofInt size) (hcache : s.cache = .empty)
    (hhits : s.hits = 0) (hmisses : s.misses = 0) : Accounts size s [] where
  limit := hlimit
  keys := by rw [hcache]; exact (List.rtake_nil _).symm
  hits := hhits
  misses := hmisses
  counted := by
    intro earlier e later h
    cases earlier <;> cases h

/-- Nothing but the limit, the cache and the counters matters. -/
theorem of_eq (h : Accounts size s log) {s' : Session} (hlimit : s'.limit = s.limit)
    (hcache : s'.cache = s.cache) (hhits : s'.hits = s.hits) (hmisses : s'.misses = s.misses) :
    Accounts size s' log where
  limit := hlimit.trans h.limit
  keys := by rw [hcache, h.keys]
  hits := hhits.trans h.hits
  misses := hmisses.trans h.misses
  counted := h.counted

/-- One more evaluation is accounted for if it does to the cache and to the counters what
it should. -/
theorem add {e : Evaluation} (h : Accounts size e.session log)
    (hlimit : e.step.state.limit = e.session.limit)
    (hkeys : e.step.state.cache.keys = Cache.recent size (successes (log ++ [e])))
    (hfound : e.found ↔ e.source ∈ e.session.cache.keys)
    (hmissed : e.missed ↔ e.source ∉ e.session.cache.keys) :
    Accounts size e.step.state (log ++ [e]) := by
  have hcounters : e.step.state.hits = e.session.hits + [e].countP (·.found) ∧
      e.step.state.misses = e.session.misses + [e].countP (·.missed) := by
    by_cases hmem : e.source ∈ e.session.cache.keys
    · obtain ⟨hhits, hmisses⟩ := of_decide_eq_true (hfound.mpr hmem)
      simp [hfound, hmissed, hmem, hhits, hmisses]
    · obtain ⟨hhits, hmisses⟩ := of_decide_eq_true (hmissed.mpr hmem)
      simp [hfound, hmissed, hmem, hhits, hmisses]
  refine ⟨hlimit.trans h.limit, hkeys, ?_, ?_, ?_⟩
  · rw [List.countP_append, ← h.hits, hcounters.1]
  · rw [List.countP_append, ← h.misses, hcounters.2]
  · intro earlier e' later hsplit
    rcases eq_of_concat_eq hsplit with ⟨rfl, rfl⟩ | ⟨later', hlog⟩
    · rw [← h.keys]
      exact ⟨hfound, hmissed⟩
    · exact h.counted earlier e' later' hlog

/-- One more evaluation is accounted for. -/
theorem evaluate {e : Evaluation} (h : Accounts size e.session log) :
    Accounts size e.step.state (log ++ [e]) := by
  by_cases hmem : e.source ∈ e.session.cache.keys
  · -- the result is found, and its source becomes the latest one
    obtain ⟨x, hx⟩ := Option.ne_none_iff_exists'.mp fun h => Cache.get?_eq_none_iff.mp h hmem
    have hrun : e.step = _ := evaluate_of_kept hx
    have hsucceeded : e.succeeded = true := by
      unfold Evaluation.succeeded
      rw [hrun]
      rfl
    refine h.add (by rw [hrun]) ?_ ?_ ?_
    · rw [successes_concat, if_pos hsucceeded, Cache.recent_concat_of_mem (h.keys ▸ hmem), hrun,
        ← h.keys]
      exact Cache.keys_insert _ _ _
    · unfold Evaluation.found
      simp [hrun, hmem]
    · unfold Evaluation.missed
      simp [hrun, hmem]
  · have hlength : e.session.cache.keys.length ≤ size.toNat := by
      rw [h.keys]
      exact Cache.length_rtake_le
    obtain ⟨parser, cache, hstate, hkeys⟩ := evaluate_run_of_notMem e.source h.limit hlength hmem
    have hstate : e.step.state = _ := hstate
    have hkeys : cache.keys = if e.succeeded then _ else _ := hkeys
    refine h.add (by rw [hstate]) ?_ ?_ ?_
    · rw [hstate, successes_concat]
      show cache.keys = _
      rw [hkeys]
      split
      · rw [h.keys, Cache.recent_concat_of_notMem (h.keys ▸ hmem)]
      · exact h.keys
    · unfold Evaluation.found
      simp [hstate, hmem]
    · unfold Evaluation.missed
      simp [hstate, hmem]

/-- A session that accounts for its log goes on doing so. -/
theorem carried (size : Int) : Carried (Accounts size) where
  evaluate source h := h.evaluate (e := ⟨_, source⟩)
  parse _ h := h.of_eq rfl rfl rfl rfl
  clear h := .of_empty h.limit rfl rfl rfl

end Accounts

/-- After any run of a session, whatever fails in it, the keys of the cache are the last
distinct sources that were evaluated with success since the session was last cleared, as
many as there is room for. Every evaluation since then counted once: as found if its source
was such a key at the time, which is to say that fewer distinct sources than there is room
for had succeeded behind it, and as missed otherwise. Parsing changes none of this. -/
theorem after_recent (settings : Settings) (strict : Option Bool) (size : Int)
    (ops : List Operation) :
    let fresh := ofSettings settings strict (some size)
    let s := fresh.after ops
    let log := logAfter [] fresh ops
    s.cache.keys = Cache.recent size (successes log) ∧
      s.hits = log.countP (·.found) ∧ s.misses = log.countP (·.missed) ∧
      s.hits + s.misses = log.length ∧
      (∀ earlier e later, log = earlier ++ e :: later →
        (e.found ↔ e.source ∈ Cache.recent size (successes earlier)) ∧
        (e.missed ↔ e.source ∉ Cache.recent size (successes earlier)) ∧
        (e.found ↔ ∃ before behind, successes earlier = before ++ e.source :: behind ∧
          e.source ∉ behind ∧ (behind.dedup.length : Int) < size)) ∧
      ∀ source, ((parse source).run s).state.cache = s.cache ∧
        ((parse source).run s).state.hits = s.hits ∧
        ((parse source).run s).state.misses = s.misses := by
  intro fresh s log
  have h : Accounts size s log := (Accounts.carried size).after ops (.of_empty rfl rfl rfl rfl)
  refine ⟨h.keys, h.hits, h.misses, ?_, ?_, fun source => ⟨rfl, rfl, rfl⟩⟩
  · rw [h.hits, h.misses, List.length_eq_countP_add_countP (·.found)]
    congr 1
    refine List.countP_congr fun e he => ?_
    -- every evaluation in the log is somewhere in it
    obtain ⟨earlier, later, hsplit⟩ := List.append_of_mem he
    obtain ⟨hfound, hmissed⟩ := h.counted earlier e later hsplit
    rw [hmissed, ← hfound]
    simp
  · intro earlier e later hsplit
    obtain ⟨hfound, hmissed⟩ := h.counted earlier e later hsplit
    exact ⟨hfound, hmissed, hfound.trans Cache.mem_recent_iff⟩

end Session

end Reckoner
