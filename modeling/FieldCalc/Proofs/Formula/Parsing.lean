import FieldCalc.Proofs.Formula.Grammar

/-!
# What the parser accepts

The parser accepts what the grammar derives and nothing else, and gives the tree of the derivation
(`parse_eq_ok_iff`).  Each parser is sound: what it takes off the input is derived.  And it is
complete: it takes what is derived where something follows that the derivation cannot go on with
(`Parses`).  Both are shown combinator by combinator, for any parser of operands inside, and then
for operands by the nesting that is left.
-/

namespace FieldCalc

namespace Formula

open Grammar

theorem bind_eq_ok_iff {ε α β : Type} {x : Except ε α} {f : α → Except ε β} {b : β} :
    (x >>= f) = .ok b ↔ ∃ a, x = .ok a ∧ f a = .ok b := by
  cases x with
  | error e => exact ⟨nofun, nofun⟩
  | ok a =>
    constructor
    · exact fun h => ⟨a, rfl, h⟩
    · rintro ⟨a', h', h⟩
      cases h'
      exact h

theorem bind_eq_error_iff {ε α β : Type} {x : Except ε α} {f : α → Except ε β} {err : ε} :
    (x >>= f) = .error err ↔ x = .error err ∨ ∃ a, x = .ok a ∧ f a = .error err := by
  cases x with
  | error e =>
    constructor
    · exact fun h => .inl (congrArg Except.error (Except.error.inj h))
    · rintro (h | ⟨_, h, -⟩)
      · exact congrArg Except.error (Except.error.inj h)
      · cases h
  | ok a =>
    constructor
    · exact fun h => .inr ⟨a, rfl, h⟩
    · rintro (h | ⟨_, h, hf⟩)
      · cases h
      · cases h
        exact hf

/-! ### Scans -/

namespace Scan

/-- All tokens of a scan, if it comes to the end of its source. -/
def tokens? : Scan → Option (List Token)
  | .token t _ rest => rest.tokens?.map (t :: ·)
  | .ended _ => some []
  | .broken _ _ => none

/-- The tokens `ts` come next in `s`, and then `r`. -/
def Spans : Scan → List Token → Scan → Prop
  | s, [], r => s = r
  | s, t :: ts, r => ∃ offset m, s = .token t offset m ∧ Spans m ts r

/-- The next token, if there is one, can be read. -/
def Ready : Scan → Prop
  | .broken _ _ => False
  | _ => True

/-- Chains of the given levels do not go on with the next token. -/
def Stops (levels : List Level) : Scan → Prop
  | .token t _ _ => t ≠ .leftParen ∧ ∀ op, t = .operator op → op.level ∉ levels
  | .ended _ => True
  | .broken _ _ => False

theorem spans_append {s r : Scan} {ts us : List Token} :
    s.Spans (ts ++ us) r ↔ ∃ m, s.Spans ts m ∧ m.Spans us r := by
  induction ts generalizing s with
  | nil => exact ⟨fun h => ⟨s, rfl, h⟩, fun ⟨_, he, h⟩ => he ▸ h⟩
  | cons t ts ih =>
    constructor
    · rintro ⟨o, m, rfl, h⟩
      obtain ⟨m', h₁, h₂⟩ := ih.1 h
      exact ⟨m', ⟨o, m, rfl, h₁⟩, h₂⟩
    · rintro ⟨m', ⟨o, m, rfl, h₁⟩, h₂⟩
      exact ⟨o, m, rfl, ih.2 ⟨m', h₁, h₂⟩⟩

theorem tokens?_eq_some_iff {s : Scan} {ts : List Token} :
    s.tokens? = some ts ↔ ∃ offset, s.Spans ts (.ended offset) := by
  induction s generalizing ts with
  | token t o rest ih =>
    cases ts with
    | nil => simp [tokens?, Spans]
    | cons u us =>
      constructor
      · intro h
        obtain ⟨vs, hv, he⟩ := Option.map_eq_some_iff.1 h
        obtain ⟨rfl, rfl⟩ := List.cons.inj he
        obtain ⟨o', h'⟩ := ih.1 hv
        exact ⟨o', o, rest, rfl, h'⟩
      · rintro ⟨o', _, _, he, h⟩
        obtain ⟨rfl, -, rfl⟩ := Scan.token.inj he
        rw [tokens?, ih.2 ⟨o', h⟩, Option.map_some]
  | ended o => cases ts <;> simp [tokens?, Spans]
  | broken o f => cases ts <;> simp [tokens?, Spans]

theorem Spans.ready {s r : Scan} {ts : List Token} (h : s.Spans ts r) (hr : r.Ready) :
    s.Ready := by
  cases ts with
  | nil => exact h ▸ hr
  | cons t ts =>
    obtain ⟨o, m, rfl, -⟩ := h
    trivial

variable {s : Scan} {level : Level} {levels : List Level}

theorem Stops.ready (h : s.Stops levels) : s.Ready := by
  cases s <;> trivial

theorem Stops.tail (h : s.Stops (level :: levels)) : s.Stops levels := by
  cases s with
  | token t o rest => exact ⟨h.1, fun op he hm => h.2 op he (List.mem_cons_of_mem level hm)⟩
  | ended o => trivial
  | broken o f => exact h

theorem stops_operator {op : Operator} {o : Nat} (h : op.level ∉ levels) :
    (Scan.token (.operator op) o s).Stops levels :=
  ⟨nofun, fun _ he => Token.operator.inj he ▸ h⟩

theorem stops_comma {o : Nat} : (Scan.token .comma o s).Stops levels := ⟨nofun, nofun⟩

theorem stops_rightParen {o : Nat} : (Scan.token .rightParen o s).Stops levels := ⟨nofun, nofun⟩

end Scan

/-! ### Cursors -/

/-- Between two places of a parse there are the tokens `ts`, with `n` operands. -/
structure Cursor.Takes (s : Cursor) (ts : List Token) (n : Nat) (s' : Cursor) : Prop where
  spans : s.input.Spans ts s'.input
  room : s.room = s'.room + n

namespace Cursor

variable {s s' t : Cursor} {ts us : List Token} {n m : Nat}

theorem Takes.refl (s : Cursor) : s.Takes [] 0 s := ⟨rfl, rfl⟩

theorem Takes.append (h : s.Takes ts n t) (h' : t.Takes us m s') :
    s.Takes (ts ++ us) (n + m) s' :=
  ⟨Scan.spans_append.2 ⟨_, h.spans, h'.spans⟩, by have := h.room; have := h'.room; omega⟩

theorem Takes.split (h : s.Takes (ts ++ us) (n + m) s') :
    ∃ t, s.Takes ts n t ∧ t.Takes us m s' := by
  obtain ⟨r, h₁, h₂⟩ := Scan.spans_append.1 h.spans
  have hroom : s.room = s'.room + m + n := by
    have := h.room
    omega
  exact ⟨⟨r, s'.room + m⟩, ⟨h₁, hroom⟩, ⟨h₂, rfl⟩⟩

theorem Takes.eq (h : s.Takes [] 0 s') : s = s' := by
  obtain ⟨i, k⟩ := s
  obtain ⟨i', k'⟩ := s'
  obtain ⟨rfl, rfl⟩ := h
  rfl

theorem takes_of_advance {u : Token} {o : Nat} {rest : Scan} (hs : s.input = .token u o rest)
    (h : s.advance = .ok s') : s.Takes [u] 0 s' := by
  unfold advance at h
  rw [hs] at h
  cases rest <;> cases h <;> exact ⟨⟨o, _, hs, rfl⟩, rfl⟩

theorem Takes.cons {u : Token} {o : Nat} {rest : Scan} (hs : s.input = .token u o rest)
    (ha : s.advance = .ok t) (h : t.Takes ts n s') : s.Takes (u :: ts) n s' := by
  simpa using (takes_of_advance hs ha).append h

/-- Moving past a token that is taken succeeds if what comes after the rest can be read. -/
theorem Takes.advance {u : Token} (h : s.Takes (u :: ts) n s') (hr : s'.input.Ready) :
    ∃ o rest, s.input = .token u o rest ∧ s.advance = .ok ⟨rest, s.room⟩ ∧
      (⟨rest, s.room⟩ : Cursor).Takes ts n s' := by
  obtain ⟨o, rest, hs, h'⟩ := h.spans
  refine ⟨o, rest, hs, ?_, h', h.room⟩
  have hrest := h'.ready hr
  unfold Cursor.advance
  rw [hs]
  cases rest <;> first | rfl | exact absurd hrest id

/-- An operand is counted where it begins. -/
theorem takes_succ_iff : s.Takes ts (n + 1) s' ↔
    s.room ≠ 0 ∧ ({ s with room := s.room - 1 } : Cursor).Takes ts n s' := by
  constructor
  · intro h
    have := h.room
    exact ⟨by omega, h.spans, by dsimp only; omega⟩
  · rintro ⟨hr, h, hroom⟩
    dsimp only at hroom
    exact ⟨h, by omega⟩

end Cursor

/-! ### Chains -/

/-- The parser `p` takes what is derived with operands at most `depth` deep, where a scan follows
that no such derivation can go on with. -/
structure Parses {α : Type} (p : Parser α) (derives : List Token → α → Nat → Nat → Prop)
    (follow : Scan → Prop) (depth : Nat) : Prop where
  sound : ∀ {s x s'}, p s = .ok (x, s') →
    ∃ ts n d, derives ts x n d ∧ d ≤ depth ∧ s.Takes ts n s'
  complete : ∀ {ts x n d s s'}, derives ts x n d → d ≤ depth → s.Takes ts n s' → follow s'.input →
    p s = .ok (x, s')

variable {p : Parser Expr} {level : Level} {levels : List Level} {depth : Nat}

theorem Parses.sound_chainTail
    (hp : Parses p (Chain levels) (Scan.Stops levels) depth) {fuel : Nat} {s s' : Cursor}
    {rest : List (Operator × Expr)} (h : chainTail level p fuel s = .ok (rest, s')) :
    ∃ ts n d, Tail level levels ts rest n d ∧ d ≤ depth ∧ s.Takes ts n s' := by
  induction fuel generalizing s rest with
  | zero =>
    cases h
    exact ⟨[], 0, 0, .nil, Nat.zero_le _, .refl _⟩
  | succ fuel ih =>
    unfold chainTail at h
    split at h
    · rename_i op o m hs
      split at h
      · rename_i hop
        obtain ⟨t, ht, h⟩ := bind_eq_ok_iff.1 h
        obtain ⟨⟨e, u⟩, he, h⟩ := bind_eq_ok_iff.1 h
        obtain ⟨⟨rest', v⟩, hr, h⟩ := bind_eq_ok_iff.1 h
        cases h
        obtain ⟨ts, n, d, hc, hd, hts⟩ := hp.sound he
        obtain ⟨us, m, k, hu, hk, hus⟩ := ih hr
        exact ⟨_, _, _, .cons (Level.mem_operators.2 hop) hc hu, Nat.max_le.2 ⟨hd, hk⟩,
          .cons hs ht (hts.append hus)⟩
      · cases h
        exact ⟨[], 0, 0, .nil, Nat.zero_le _, .refl _⟩
    · cases h
      exact ⟨[], 0, 0, .nil, Nat.zero_le _, .refl _⟩

/-- Before the operators of a level that come next, chains of the levels inside it end. -/
theorem Grammar.Tail.stops {ts : List Token} {rest : List (Operator × Expr)} {n d : Nat}
    {s s' : Cursor} (h : Tail level levels ts rest n d) (hl : level ∉ levels)
    (hts : s.Takes ts n s') (hs : s'.input.Stops (level :: levels)) : s.input.Stops levels := by
  cases h with
  | nil => exact hts.eq ▸ hs.tail
  | cons hop _ _ =>
    obtain ⟨o, m, he, -⟩ := hts.spans
    rw [he]
    exact Scan.stops_operator (Level.mem_operators.1 hop ▸ hl)

theorem Parses.complete_chainTail (hl : level ∉ levels)
    (hp : Parses p (Chain levels) (Scan.Stops levels) depth) {fuel : Nat} {s s' : Cursor}
    {ts : List Token} {rest : List (Operator × Expr)} {n d : Nat}
    (h : Tail level levels ts rest n d) (hn : n ≤ fuel) (hd : d ≤ depth) (hts : s.Takes ts n s')
    (hs : s'.input.Stops (level :: levels)) : chainTail level p fuel s = .ok (rest, s') := by
  induction fuel generalizing s ts rest n d with
  | zero =>
    cases h with
    | nil => rw [hts.eq, chainTail]
    | cons _ hc _ =>
      -- every operator has an operand behind it, so the fuel lasts
      have := hc.pos
      omega
  | succ fuel ih =>
    cases h with
    | nil =>
      rw [hts.eq]
      unfold chainTail
      split
      · rename_i op o m he
        rw [he] at hs
        have hop : op.level ≠ level := fun hop => hs.2 op rfl (List.mem_cons.2 (.inl hop))
        rw [if_neg hop]
      · rfl
    | @cons _ _ op ts us e rest n d m k hop hc ht =>
      have := hc.pos
      obtain ⟨hd, hk⟩ := Nat.max_le.1 hd
      obtain ⟨o, r, he, ha, hts⟩ := hts.advance hs.ready
      obtain ⟨t, hts, hus⟩ := hts.split
      have hp' := hp.complete hc hd hts (ht.stops hl hus hs)
      have hr := ih ht (by omega) hk hus
      unfold chainTail
      simp only [he, Level.mem_operators.1 hop, if_true, ha, hp', hr, bind, Except.bind, pure,
        Except.pure]

theorem Parses.chain (hl : level ∉ levels)
    (hp : Parses p (Chain levels) (Scan.Stops levels) depth) :
    Parses (Formula.chain level p) (Chain (level :: levels)) (Scan.Stops (level :: levels))
      depth where
  sound {s e s'} h := by
    unfold Formula.chain at h
    obtain ⟨⟨first, t⟩, hf, h⟩ := bind_eq_ok_iff.1 h
    obtain ⟨⟨rest, u⟩, hr, h⟩ := bind_eq_ok_iff.1 h
    obtain ⟨ts, n, d, hc, hd, hts⟩ := hp.sound hf
    obtain ⟨us, m, k, ht, hk, hus⟩ := hp.sound_chainTail hr
    cases rest with
    | nil =>
      cases h
      cases ht
      exact ⟨ts, n, d, .single hc, hd, hus.eq ▸ hts⟩
    | cons x rest =>
      cases h
      exact ⟨_, _, _, .chain hc ht (List.cons_ne_nil x rest), Nat.max_le.2 ⟨hd, hk⟩, hts.append hus⟩
  complete {ts e n d s s'} h hd hts hs := by
    cases h with
    | single hc =>
      have hf := hp.complete hc hd hts hs.tail
      have hr := hp.complete_chainTail hl .nil (Nat.zero_le (s'.room + 1)) (Nat.zero_le depth)
        (.refl s') hs
      simp only [Formula.chain, hf, hr, bind, Except.bind, pure, Except.pure]
    | @chain _ _ ts us first rest n d m k hc ht hne =>
      obtain ⟨hd, hk⟩ := Nat.max_le.1 hd
      obtain ⟨t, hts, hus⟩ := hts.split
      have hm : m ≤ t.room + 1 := by
        have := hus.room
        omega
      have hf := hp.complete hc hd hts (ht.stops hl hus hs)
      have hr := hp.complete_chainTail hl ht hm hk hus hs
      cases rest with
      | nil => exact absurd rfl hne
      | cons x rest => simp only [Formula.chain, hf, hr, bind, Except.bind, pure, Except.pure]

/-- Chains of the given levels are parsed if operands are. -/
theorem Parses.chains (hp : Parses p Unary (Scan.Stops []) depth) (hl : levels.Nodup) :
    Parses (Formula.chains levels p) (Chain levels) (Scan.Stops levels) depth := by
  induction levels with
  | nil =>
    constructor
    · intro s e s' h
      obtain ⟨ts, n, d, hu, hd, hts⟩ := hp.sound h
      exact ⟨ts, n, d, .operand hu, hd, hts⟩
    · rintro ts e n d s s' ⟨hu⟩ hd hts hs
      exact hp.complete hu hd hts hs
  | cons level levels ih =>
    obtain ⟨hnot, hl⟩ := List.nodup_cons.1 hl
    exact (ih hl).chain hnot

theorem Parses.expression (hp : Parses p Unary (Scan.Stops []) depth) :
    Parses (Formula.expression p) (Chain Level.all) (Scan.Stops Level.all) depth :=
  hp.chains (by decide)

/-! ### Calls -/

theorem Parses.sound_argumentsTail (hp : Parses p (Chain Level.all) (Scan.Stops Level.all) depth)
    {fuel : Nat} {s s' : Cursor} {es : List Expr} (h : argumentsTail p fuel s = .ok (es, s')) :
    ∃ ts n d, Separated ts es n d ∧ d ≤ depth ∧ s.Takes (ts ++ [.rightParen]) n s' := by
  induction fuel generalizing s es with
  | zero => cases h
  | succ fuel ih =>
    unfold argumentsTail at h
    obtain ⟨⟨e, t⟩, he, h⟩ := bind_eq_ok_iff.1 h
    obtain ⟨ts, n, d, hc, hd, hts⟩ := hp.sound he
    dsimp only at h
    split at h
    · rename_i hi
      obtain ⟨u, hu, h⟩ := bind_eq_ok_iff.1 h
      obtain ⟨⟨es', v⟩, hr, h⟩ := bind_eq_ok_iff.1 h
      cases h
      obtain ⟨us, m, k, hs, hk, hus⟩ := ih hr
      refine ⟨_, _, _, .more hc hs, Nat.max_le.2 ⟨hd, hk⟩, ?_⟩
      rw [List.append_assoc]
      exact hts.append (.cons hi hu hus)
    · rename_i hi
      obtain ⟨u, hu, h⟩ := bind_eq_ok_iff.1 h
      cases h
      exact ⟨ts, n, d, .one hc, hd, hts.append (Cursor.takes_of_advance hi hu)⟩
    · cases h

theorem Parses.complete_argumentsTail (hp : Parses p (Chain Level.all) (Scan.Stops Level.all) depth)
    {fuel : Nat} {s s' : Cursor} {ts : List Token} {es : List Expr} {n d : Nat}
    (h : Separated ts es n d) (hn : n ≤ fuel) (hd : d ≤ depth)
    (hts : s.Takes (ts ++ [.rightParen]) n s') (hs : s'.input.Ready) :
    argumentsTail p fuel s = .ok (es, s') := by
  induction fuel generalizing s ts es n d with
  | zero =>
    have := h.pos
    omega
  | succ fuel ih =>
    cases h with
    | one hc =>
      obtain ⟨t, hts, hclose⟩ := hts.split (m := 0)
      obtain ⟨o, r, hi, ha, hrest⟩ := hclose.advance hs
      have hf := hp.complete hc hd hts (hi ▸ Scan.stops_rightParen)
      unfold argumentsTail
      simp only [hf, hi, ha, hrest.eq, bind, Except.bind, pure, Except.pure]
    | @more ts us e es n d m k hc hs' =>
      obtain ⟨hd, hk⟩ := Nat.max_le.1 hd
      have := hc.pos
      rw [List.append_assoc] at hts
      obtain ⟨t, hts, hrest⟩ := hts.split
      obtain ⟨o, r, hi, ha, hus⟩ := hrest.advance hs
      have hf := hp.complete hc hd hts (hi ▸ Scan.stops_comma)
      have hr := ih hs' (by omega) hk hus
      unfold argumentsTail
      simp only [hf, hi, ha, hr, bind, Except.bind, pure, Except.pure]

theorem Parses.sound_arguments (hp : Parses p (Chain Level.all) (Scan.Stops Level.all) depth)
    {s s' : Cursor} {es : List Expr} (h : arguments p s = .ok (es, s')) :
    ∃ ts n d, CallArguments ts es n d ∧ d ≤ depth ∧ s.Takes (ts ++ [.rightParen]) n s' := by
  unfold arguments at h
  split at h
  · rename_i hi
    obtain ⟨t, ht, h⟩ := bind_eq_ok_iff.1 h
    cases h
    exact ⟨[], 0, 0, .none, Nat.zero_le _, Cursor.takes_of_advance hi ht⟩
  · obtain ⟨ts, n, d, hs, hd, hts⟩ := hp.sound_argumentsTail h
    exact ⟨ts, n, d, .some hs, hd, hts⟩

theorem Parses.complete_arguments (hp : Parses p (Chain Level.all) (Scan.Stops Level.all) depth)
    {s s' : Cursor} {ts : List Token} {es : List Expr} {n d : Nat} (h : CallArguments ts es n d)
    (hd : d ≤ depth) (hts : s.Takes (ts ++ [.rightParen]) n s') (hs : s'.input.Ready) :
    arguments p s = .ok (es, s') := by
  cases h with
  | none =>
    obtain ⟨o, r, hi, ha, hrest⟩ := hts.advance hs
    unfold arguments
    simp only [hi, ha, hrest.eq, bind, Except.bind, pure, Except.pure]
  | some h =>
    have hn : n ≤ s.room + 1 := by
      have := hts.room
      omega
    obtain ⟨t, us, rfl, ht⟩ := h.head_ne
    obtain ⟨o, r, hi, -⟩ := hts.advance hs
    have hr := hp.complete_argumentsTail h hn hd hts hs
    unfold arguments
    split
    · rename_i hi'
      rw [hi] at hi'
      exact absurd (Scan.token.inj hi').1 ht
    · exact hr

/-! ### Operands -/

theorem truthValue?_eq_some_iff {s : String} {b : Bool} :
    truthValue? s = some b ↔ Text.lowerAscii s = if b then "true" else "false" := by
  unfold truthValue?
  split <;> cases b <;> simp_all

theorem Parses.sound_primary (hp : Parses p (Chain Level.all) (Scan.Stops Level.all) depth)
    {t : Token} {offset : Nat} {s s' : Cursor} {e : Expr}
    (h : Expr.builder.primary p t offset s = .ok (e, s')) :
    ∃ ts n d, Primary (t :: ts) e n d ∧ d ≤ depth ∧ s.Takes ts n s' := by
  unfold Builder.primary at h
  cases t with
  | number x =>
    cases h
    exact ⟨[], 0, 0, .number x, Nat.zero_le _, .refl _⟩
  | text v =>
    cases h
    exact ⟨[], 0, 0, .text v, Nat.zero_le _, .refl _⟩
  | reference r =>
    cases h
    exact ⟨[], 0, 0, .reference r, Nat.zero_le _, .refl _⟩
  | leftParen =>
    obtain ⟨⟨e, u⟩, he, h⟩ := bind_eq_ok_iff.1 h
    obtain ⟨v, hv, h⟩ := bind_eq_ok_iff.1 h
    cases h
    obtain ⟨ts, n, d, hc, hd, hts⟩ := hp.sound he
    unfold Cursor.close at hv
    split at hv
    · rename_i hi
      exact ⟨_, _, _, .group hc, hd, hts.append (Cursor.takes_of_advance hi hv)⟩
    · cases hv
  | name name =>
    dsimp only at h
    split at h
    · rename_i hi
      obtain ⟨u, hu, h⟩ := bind_eq_ok_iff.1 h
      obtain ⟨⟨args, v⟩, ha, h⟩ := bind_eq_ok_iff.1 h
      cases h
      obtain ⟨ts, n, d, hargs, hd, hts⟩ := hp.sound_arguments ha
      exact ⟨_, _, _, .call name hargs, hd, .cons hi hu hts⟩
    · split at h
      · rename_i b hb
        cases h
        exact ⟨[], 0, 0, .truth b (truthValue?_eq_some_iff.1 hb), Nat.zero_le _, .refl _⟩
      · cases h
  | _ => cases h

theorem Parses.complete_primary (hp : Parses p (Chain Level.all) (Scan.Stops Level.all) depth)
    {t : Token} {ts : List Token} (offset : Nat) {s s' : Cursor} {e : Expr} {n d : Nat}
    (h : Primary (t :: ts) e n d) (hd : d ≤ depth) (hts : s.Takes ts n s')
    (hs : s'.input.Stops []) : Expr.builder.primary p t offset s = .ok (e, s') := by
  unfold Builder.primary Expr.builder
  cases h with
  | number x => rw [hts.eq]
  | text v => rw [hts.eq]
  | reference r => rw [hts.eq]
  | truth b hb =>
    obtain rfl := hts.eq
    dsimp only
    split
    · rename_i hi
      rw [hi] at hs
      exact absurd rfl hs.1
    · rw [truthValue?_eq_some_iff.2 hb]
  | call name hargs =>
    obtain ⟨o, r, hi, ha, hts⟩ := hts.advance hs.ready
    have hr := hp.complete_arguments hargs hd hts hs.ready
    simp only [hi, ha, hr, bind, Except.bind, pure, Except.pure]
  | group hc =>
    obtain ⟨u, hts, hclose⟩ := hts.split (m := 0)
    obtain ⟨o, r, hi, ha, hrest⟩ := hclose.advance hs.ready
    have he := hp.complete hc hd hts (hi ▸ Scan.stops_rightParen)
    simp only [he, Cursor.close, hi, ha, hrest.eq, bind, Except.bind, pure, Except.pure]

theorem Parses.sound_operand
    (hp : Parses (Expr.builder.operand depth) Unary (Scan.Stops []) depth) {s s' : Cursor}
    {e : Expr} (h : Expr.builder.operand (depth + 1) s = .ok (e, s')) :
    ∃ ts n d, Unary ts e n d ∧ d ≤ depth + 1 ∧ s.Takes ts n s' := by
  unfold Builder.operand at h
  split at h
  · cases h
  · rename_i hroom
    generalize hs : ({ s with room := s.room - 1 } : Cursor) = inner at h
    have henter : ∀ {ts n}, inner.Takes ts n s' → s.Takes ts (n + 1) s' := fun hts =>
      Cursor.takes_succ_iff.2 ⟨hroom, hs ▸ hts⟩
    dsimp only at h
    split at h
    · rename_i hi
      obtain ⟨t, ht, h⟩ := bind_eq_ok_iff.1 h
      obtain ⟨⟨e', u⟩, he, h⟩ := bind_eq_ok_iff.1 h
      cases h
      obtain ⟨ts, n, d, hu, hd, hts⟩ := hp.sound he
      exact ⟨_, _, _, .negative hu, Nat.succ_le_succ hd, henter (.cons hi ht hts)⟩
    · rename_i hi
      obtain ⟨t, ht, h⟩ := bind_eq_ok_iff.1 h
      obtain ⟨ts, n, d, hu, hd, hts⟩ := hp.sound h
      exact ⟨_, _, _, .positive hu, Nat.succ_le_succ hd, henter (.cons hi ht hts)⟩
    · rename_i hi
      obtain ⟨t, ht, h⟩ := bind_eq_ok_iff.1 h
      obtain ⟨ts, n, d, hu, hd, hts⟩ := hp.expression.sound_primary h
      exact ⟨_, _, _, .bare hu, Nat.succ_le_succ hd, henter (.cons hi ht hts)⟩
    · cases h

theorem Parses.complete_operand
    (hp : Parses (Expr.builder.operand depth) Unary (Scan.Stops []) depth) {s s' : Cursor}
    {ts : List Token} {e : Expr} {n d : Nat} (h : Unary ts e n d) (hd : d ≤ depth + 1)
    (hts : s.Takes ts n s') (hs : s'.input.Stops []) :
    Expr.builder.operand (depth + 1) s = .ok (e, s') := by
  obtain ⟨input, room⟩ := s
  cases h with
  | negative h =>
    obtain ⟨hroom, hts⟩ := Cursor.takes_succ_iff.1 hts
    obtain ⟨o, r, rfl, ha, hts⟩ := hts.advance hs.ready
    have he := hp.complete h (Nat.le_of_succ_le_succ hd) hts hs
    simp only [Builder.operand, if_neg hroom, ha, he, bind, Except.bind, pure, Except.pure]
    rfl
  | positive h =>
    obtain ⟨hroom, hts⟩ := Cursor.takes_succ_iff.1 hts
    obtain ⟨o, r, rfl, ha, hts⟩ := hts.advance hs.ready
    have he := hp.complete h (Nat.le_of_succ_le_succ hd) hts hs
    simp only [Builder.operand, if_neg hroom, ha, he, bind, Except.bind]
  | bare h =>
    obtain ⟨hroom, hts⟩ := Cursor.takes_succ_iff.1 hts
    obtain ⟨t, us, rfl, -⟩ := (Unary.bare h).head_ne
    obtain ⟨o, r, rfl, ha, hts⟩ := hts.advance hs.ready
    have he : Expr.builder.primary (Expr.builder.expression (Expr.builder.operand depth)) .. = _ :=
      hp.expression.complete_primary o h (Nat.le_of_succ_le_succ hd) hts hs
    -- no operand without a sign begins with an operator
    cases h <;> simp only [Builder.operand, if_neg hroom, ha, he, bind, Except.bind]

/-- Operands are parsed as far as they nest, by what is inside them. -/
theorem parses_operand (depth : Nat) :
    Parses (Expr.builder.operand depth) Unary (Scan.Stops []) depth := by
  induction depth with
  | zero =>
    constructor
    · intro s e s' h
      cases h
    · intro ts e n d s s' h hd
      cases h <;> cases hd
  | succ depth ih => exact ⟨ih.sound_operand, ih.complete_operand⟩

/-! ### Sources -/

section Sources

variable {source : String} {e : Expr}

/-- Whatever is accepted is derived from the tokens of its source, within the limits. -/
theorem exists_chain_of_parse (h : parse source = .ok e) :
    ∃ ts n d, (Scan.ofSource source).tokens? = some ts ∧ Chain Level.all ts e n d ∧
      n ≤ maxOperands ∧ d ≤ maxDepth := by
  unfold parse Builder.ofScan at h
  dsimp only at h
  split at h
  · cases h
  · obtain ⟨⟨e', s⟩, he, h⟩ := bind_eq_ok_iff.1 h
    dsimp only at h
    split at h
    · rename_i o hi
      cases h
      obtain ⟨ts, n, d, hc, hd, hts⟩ := (parses_operand maxDepth).expression.sound he
      have hroom : maxOperands = s.room + n := hts.room
      exact ⟨ts, n, d, Scan.tokens?_eq_some_iff.2 ⟨o, hi ▸ hts.spans⟩, hc, by omega, hd⟩
    · cases h

/-- Whatever the tokens of a source derive within the limits is accepted. -/
theorem parse_of_chain {ts : List Token} {n d : Nat} (hs : (Scan.ofSource source).tokens? = some ts)
    (hc : Chain Level.all ts e n d) (hn : n ≤ maxOperands) (hd : d ≤ maxDepth) :
    parse source = .ok e := by
  unfold parse
  generalize Scan.ofSource source = scan at hs
  obtain ⟨o, hs⟩ := Scan.tokens?_eq_some_iff.1 hs
  have hts : (⟨scan, maxOperands⟩ : Cursor).Takes ts n ⟨.ended o, maxOperands - n⟩ :=
    ⟨hs, (Nat.sub_add_cancel hn).symm⟩
  have he : Expr.builder.expression (Expr.builder.operand maxDepth) _ = _ :=
    (parses_operand maxDepth).expression.complete hc hd hts trivial
  have hready : scan.Ready := hs.ready trivial
  unfold Builder.ofScan
  cases scan with
  | broken o f => exact absurd hready id
  | token t o' rest => simp only [he, bind, Except.bind, pure, Except.pure]
  | ended o' => simp only [he, bind, Except.bind, pure, Except.pure]

end Sources

/-- A source is accepted exactly if it consists of tokens that are an expression of at most 2000
operands, at most 200 of them inside one another.  What comes of it is the tree of the
expression. -/
theorem parse_eq_ok_iff (source : String) (e : Expr) :
    parse source = .ok e ↔ ∃ ts n d, (Scan.ofSource source).tokens? = some ts ∧
      Chain Level.all ts e n d ∧ n ≤ 2000 ∧ d ≤ 200 :=
  ⟨exists_chain_of_parse, fun ⟨_, _, _, hs, hc, hn, hd⟩ => parse_of_chain hs hc hn hd⟩

end Formula

end FieldCalc
