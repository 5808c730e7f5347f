import FieldCalc.Proofs.Formula.Separation
import FieldCalc.Proofs.Formula.SingleReference

/-!
# Completing a formula

A source that is refused because it ends too early is the beginning of a formula.  What is missing
is white space, so that its last token ends, an operand if the source ends where one is due, and a
closing parenthesis for each group and call that is open (`parse_completed`).  The operand that is
missing was counted where it begins, so the limits on operands leave room for it.  Other sources
that are refused may be beginnings too: `SUM` is refused for its name.

Each parser inside is shown to mend: if it comes to the end of the input too early, then what it
took so far and the tokens that are missing together are derived (`Mends`).  A group or a call asks
for one parenthesis more than what is inside it.
-/

namespace FieldCalc

namespace Formula

open Grammar

/-- The tokens that make a beginning whole: an operand if it is `missing`, and `k` closing
parentheses. -/
def closing (missing : Bool) (k : Nat) : List Token :=
  (if missing then [.text ""] else []) ++ List.replicate k .rightParen

/-- The characters of `closing`, after white space. -/
def completion (missing : Bool) (k : Nat) : String :=
  String.ofList (' ' :: ((if missing then ['"', '"'] else []) ++ List.replicate k ')'))

theorem closing_append_rightParen (missing : Bool) (k : Nat) :
    closing missing k ++ [.rightParen] = closing missing (k + 1) := by
  rw [closing, List.append_assoc, ← List.replicate_succ']
  rfl

theorem Scan.tokens?_rightParens (offset k : Nat) :
    (ofChars offset (List.replicate k ')')).tokens? = some (List.replicate k .rightParen) := by
  induction k generalizing offset with
  | zero =>
    rw [List.replicate_zero, ofChars_nil]
    rfl
  | succ k ih =>
    rw [List.replicate_succ, ofChars_cons (t := .rightParen) offset (by decide) rfl, tokens?,
      List.drop_zero, ih]
    rfl

theorem Scan.tokens?_closing (offset : Nat) (missing : Bool) (k : Nat) :
    (ofChars offset ((if missing then ['"', '"'] else []) ++ List.replicate k ')')).tokens? =
      some (closing missing k) := by
  cases missing with
  | false => exact tokens?_rightParens offset k
  | true =>
    have hread : readToken '"' ('"' :: List.replicate k ')') = .ok (.text "", 1) := rfl
    refine (congrArg tokens? (ofChars_cons offset (by decide) hread)).trans ?_
    rw [tokens?, List.drop_one, List.tail_cons, tokens?_rightParens]
    rfl

/-! ### Places where the input ends too early -/

/-- The input ends after the tokens `ts`, and `us` make it whole.  There is room for the `n`
operands of both. -/
structure Cursor.Ends (s : Cursor) (ts us : List Token) (n : Nat) : Prop where
  spans : ∃ offset, s.input.Spans ts (.ended offset)
  closing : ∃ missing k, us = closing missing k
  room : n ≤ s.room

/-- The input is the beginning of something that is derived with operands at most `depth` deep. -/
def Cursor.Completable {α : Type} (s : Cursor) (derives : List Token → α → Nat → Nat → Prop)
    (depth : Nat) : Prop :=
  ∃ ts us x n d, derives (ts ++ us) x n d ∧ d ≤ depth ∧ s.Ends ts us n

/-- Wherever the parser `p` misses something at the end of the input, the input is the beginning
of something that is derived. -/
def Mends {α : Type} (p : Parser α) (derives : List Token → α → Nat → Nat → Prop) (depth : Nat) :
    Prop :=
  ∀ s, p s = .error .unexpectedEnd → s.Completable derives depth

namespace Cursor

variable {s t : Cursor} {ts us vs : List Token} {n m : Nat}

theorem Takes.ends (h : s.Takes ts n t) (h' : t.Ends us vs m) : s.Ends (ts ++ us) vs (n + m) := by
  obtain ⟨o, hs⟩ := h'.spans
  have := h.room
  have := h'.room
  exact ⟨⟨o, Scan.spans_append.2 ⟨_, h.spans, hs⟩⟩, h'.closing, by omega⟩

theorem Ends.cons {u : Token} {o : Nat} {rest : Scan} (hs : s.input = .token u o rest)
    (ha : s.advance = .ok t) (h : t.Ends ts us n) : s.Ends (u :: ts) us n := by
  simpa using (takes_of_advance hs ha).ends h

theorem Ends.close (h : s.Ends ts us n) : s.Ends ts (us ++ [.rightParen]) n := by
  obtain ⟨missing, k, rfl⟩ := h.closing
  exact ⟨h.spans, ⟨missing, k + 1, closing_append_rightParen missing k⟩, h.room⟩

/-- An operand is counted where it begins, so there is room for it once it has begun. -/
theorem Ends.enter (h : ({ s with room := s.room - 1 } : Cursor).Ends ts us n) (hr : s.room ≠ 0) :
    s.Ends ts us (n + 1) :=
  ⟨h.spans, h.closing, Nat.succ_le_of_lt
    (Nat.lt_of_le_of_lt h.room (Nat.sub_lt (Nat.pos_of_ne_zero hr) Nat.one_pos))⟩

theorem ends_of_reject {fault : Token → Fault} (h : s.reject fault = .unexpectedEnd)
    (missing : Bool) (k : Nat) : s.Ends [] (closing missing k) 0 := by
  unfold reject at h
  split at h
  · cases h
  · rename_i o hi
    exact ⟨⟨o, hi⟩, ⟨missing, k, rfl⟩, Nat.zero_le _⟩
  · cases h

/-- Moving on misses nothing at the end of the input. -/
theorem advance_ne_unexpectedEnd (s : Cursor) : s.advance ≠ .error .unexpectedEnd := by
  unfold advance
  split <;> exact nofun

theorem bind_advance_eq_unexpectedEnd {α : Type} {f : Cursor → Except Error α}
    (h : (s.advance >>= f) = .error .unexpectedEnd) :
    ∃ t, s.advance = .ok t ∧ f t = .error .unexpectedEnd :=
  (bind_eq_error_iff.1 h).resolve_left s.advance_ne_unexpectedEnd

end Cursor

/-! ### Chains -/

variable {p : Parser Expr} {level : Level} {levels : List Level} {depth : Nat}

theorem Mends.chainTail (hp : Parses p (Chain levels) (Scan.Stops levels) depth)
    (hm : Mends p (Chain levels) depth) (fuel : Nat) :
    Mends (Formula.chainTail level p fuel)
      (fun ts rest n d => Tail level levels ts rest n d ∧ rest ≠ []) depth := by
  induction fuel with
  | zero =>
    intro s h
    cases h
  | succ fuel ih =>
    intro s h
    unfold Formula.chainTail at h
    split at h
    · rename_i op o m hs
      split at h
      · rename_i hop
        have hop := Level.mem_operators.2 hop
        obtain ⟨t, ht, h⟩ := Cursor.bind_advance_eq_unexpectedEnd h
        obtain hn | ⟨⟨e, u⟩, he, h⟩ := bind_eq_error_iff.1 h
        · -- the right operand is where the input ends
          obtain ⟨ts, us, e, n, d, hc, hd, hends⟩ := hm t hn
          refine ⟨_ :: ts, us, _, n, d, ⟨?_, List.cons_ne_nil (op, e) []⟩, hd, .cons hs ht hends⟩
          simpa using Tail.cons hop hc .nil
        · obtain ⟨ts, n, d, hc, hd, hts⟩ := hp.sound he
          obtain hn | ⟨⟨rest, v⟩, -, h⟩ := bind_eq_error_iff.1 h
          · obtain ⟨us, vs, rest, m, k, ⟨htail, -⟩, hk, hends⟩ := ih u hn
            refine ⟨_ :: (ts ++ us), vs, _, n + m, max d k, ⟨?_, List.cons_ne_nil (op, e) rest⟩,
              Nat.max_le.2 ⟨hd, hk⟩, (Cursor.Takes.cons hs ht hts).ends hends⟩
            simpa using Tail.cons hop hc htail
          · cases h
      · cases h
    · cases h

theorem Mends.chain (hp : Parses p (Chain levels) (Scan.Stops levels) depth)
    (hm : Mends p (Chain levels) depth) :
    Mends (Formula.chain level p) (Chain (level :: levels)) depth := by
  intro s h
  unfold Formula.chain at h
  obtain hn | ⟨⟨first, t⟩, hf, h⟩ := bind_eq_error_iff.1 h
  · obtain ⟨ts, us, e, n, d, hc, hd, hends⟩ := hm s hn
    exact ⟨ts, us, e, n, d, .single hc, hd, hends⟩
  · obtain hn | ⟨⟨rest, u⟩, -, h⟩ := bind_eq_error_iff.1 h
    · obtain ⟨ts, n, d, hc, hd, hts⟩ := hp.sound hf
      obtain ⟨us, vs, rest, m, k, ⟨htail, hne⟩, hk, hends⟩ := hm.chainTail hp _ t hn
      have hall : Chain (level :: levels) (ts ++ us ++ vs) (.chain first rest) (n + m) (max d k) :=
        List.append_assoc .. ▸ .chain hc htail hne
      exact ⟨ts ++ us, vs, _, n + m, max d k, hall, Nat.max_le.2 ⟨hd, hk⟩, hts.ends hends⟩
    · cases rest <;> cases h

theorem Mends.chains (hp : Parses p Unary (Scan.Stops []) depth) (hm : Mends p Unary depth)
    (hl : levels.Nodup) : Mends (Formula.chains levels p) (Chain levels) depth := by
  induction levels with
  | nil =>
    intro s h
    obtain ⟨ts, us, e, n, d, hu, hd, hends⟩ := hm s h
    exact ⟨ts, us, e, n, d, .operand hu, hd, hends⟩
  | cons level levels ih =>
    have hl := (List.nodup_cons.1 hl).2
    exact (ih hl).chain (hp.chains hl)

theorem Mends.expression (hp : Parses p Unary (Scan.Stops []) depth) (hm : Mends p Unary depth) :
    Mends (Formula.expression p) (Chain Level.all) depth :=
  hm.chains hp (by decide)

/-! ### Calls -/

/-- The arguments of a call and its closing parenthesis. -/
def Closed {α : Type} (derives : List Token → α → Nat → Nat → Prop) (ts : List Token) (x : α)
    (n d : Nat) : Prop :=
  ∃ us, ts = us ++ [.rightParen] ∧ derives us x n d

theorem Cursor.Completable.close {α : Type} {derives : List Token → α → Nat → Nat → Prop}
    {s : Cursor} (h : s.Completable derives depth) : s.Completable (Closed derives) depth := by
  obtain ⟨ts, us, x, n, d, hx, hd, hends⟩ := h
  exact ⟨ts, us ++ [.rightParen], x, n, d, ⟨ts ++ us, (List.append_assoc ..).symm, hx⟩, hd,
    hends.close⟩

/-- Every argument has an operand, so the arguments do not run out before the room does. -/
theorem Mends.argumentsTail (hp : Parses p (Chain Level.all) (Scan.Stops Level.all) depth)
    (hm : Mends p (Chain Level.all) depth) {fuel : Nat} {s : Cursor} (hfuel : s.room < fuel)
    (h : Formula.argumentsTail p fuel s = .error .unexpectedEnd) :
    s.Completable (Closed Separated) depth := by
  induction fuel generalizing s with
  | zero => exact absurd hfuel (Nat.not_lt_zero _)
  | succ fuel ih =>
    unfold Formula.argumentsTail at h
    obtain hn | ⟨⟨e, t⟩, he, h⟩ := bind_eq_error_iff.1 h
    · obtain ⟨ts, us, e, n, d, hc, hd, hends⟩ := hm s hn
      exact Cursor.Completable.close ⟨ts, us, [e], n, d, .one hc, hd, hends⟩
    · obtain ⟨ts, n, d, hc, hd, hts⟩ := hp.sound he
      dsimp only at h
      split at h
      · rename_i hi
        obtain ⟨u, hu, h⟩ := Cursor.bind_advance_eq_unexpectedEnd h
        obtain hn | ⟨⟨es, v⟩, -, h⟩ := bind_eq_error_iff.1 h
        · have hroom : u.room < fuel := by
            have := hc.pos
            have := hts.room
            have := (Cursor.takes_of_advance hi hu).room
            omega
          obtain ⟨us, vs, es, m, k, ⟨ws, hws, hsep⟩, hk, hends⟩ := ih hroom hn
          refine ⟨ts ++ .comma :: us, vs, e :: es, n + m, max d k,
            ⟨ts ++ .comma :: ws, ?_, .more hc hsep⟩, Nat.max_le.2 ⟨hd, hk⟩,
            hts.ends (.cons hi hu hends)⟩
          simp [hws]
        · cases h
      · obtain ⟨u, -, h⟩ := Cursor.bind_advance_eq_unexpectedEnd h
        cases h
      · -- all that is missing is the closing parenthesis
        have hends := hts.ends (Cursor.ends_of_reject (Except.error.inj h) false 0)
        have hone : Separated (ts ++ [] ++ closing false 0) [e] n d := by
          rw [List.append_nil]
          exact (List.append_nil ts).symm ▸ .one hc
        exact Cursor.Completable.close ⟨_, _, [e], n, d, hone, hd, hends⟩

theorem Mends.arguments (hp : Parses p (Chain Level.all) (Scan.Stops Level.all) depth)
    (hm : Mends p (Chain Level.all) depth) :
    Mends (Formula.arguments p) (Closed CallArguments) depth := by
  intro s h
  unfold Formula.arguments at h
  split at h
  · obtain ⟨t, -, h⟩ := Cursor.bind_advance_eq_unexpectedEnd h
    cases h
  · obtain ⟨ts, us, es, n, d, ⟨vs, hvs, hs⟩, hd, hends⟩ :=
      hm.argumentsTail hp (Nat.lt_succ_self _) h
    exact ⟨ts, us, es, n, d, ⟨vs, hvs, .some hs⟩, hd, hends⟩

/-! ### Operands -/

theorem Mends.primary (hp : Parses p (Chain Level.all) (Scan.Stops Level.all) depth)
    (hm : Mends p (Chain Level.all) depth) (t : Token) (offset : Nat) :
    Mends (Expr.builder.primary p t offset) (fun ts => Primary (t :: ts)) depth := by
  intro s h
  unfold Builder.primary at h
  cases t with
  | leftParen =>
    obtain hn | ⟨⟨e, u⟩, he, h⟩ := bind_eq_error_iff.1 h
    · obtain ⟨ts, us, e, n, d, ⟨vs, hvs, hc⟩, hd, hends⟩ :=
        Cursor.Completable.close (hm s hn)
      exact ⟨ts, us, e, n, d, hvs ▸ .group hc, hd, hends⟩
    · obtain ⟨ts, n, d, hc, hd, hts⟩ := hp.sound he
      obtain hn | ⟨v, -, h⟩ := bind_eq_error_iff.1 h
      · unfold Cursor.close at hn
        split at hn
        · exact absurd hn u.advance_ne_unexpectedEnd
        · have hends := hts.ends (Cursor.ends_of_reject (Except.error.inj hn) false 1)
          rw [List.append_nil] at hends
          exact ⟨ts, closing false 1, e, n, d, .group hc, hd, hends⟩
      · cases h
  | name name =>
    dsimp only at h
    split at h
    · rename_i hi
      obtain ⟨u, hu, h⟩ := Cursor.bind_advance_eq_unexpectedEnd h
      obtain hn | ⟨⟨args, v⟩, -, h⟩ := bind_eq_error_iff.1 h
      · obtain ⟨ts, us, es, n, d, ⟨vs, hvs, hargs⟩, hd, hends⟩ := hm.arguments hp u hn
        refine ⟨.leftParen :: ts, us, .call name es, n, d, ?_, hd, .cons hi hu hends⟩
        rw [List.cons_append, hvs]
        exact .call name hargs
      · cases h
    · split at h <;> cases h
  | _ => cases h

theorem Mends.operand (hp : Parses (Expr.builder.operand depth) Unary (Scan.Stops []) depth)
    (hm : Mends (Expr.builder.operand depth) Unary depth) :
    Mends (Expr.builder.operand (depth + 1)) Unary (depth + 1) := by
  intro s h
  unfold Builder.operand at h
  split at h
  · cases h
  rename_i hroom
  generalize hs : ({ s with room := s.room - 1 } : Cursor) = inner at h
  have henter : ∀ {ts us n}, inner.Ends ts us n → s.Ends ts us (n + 1) := fun hends =>
    .enter (hs ▸ hends) hroom
  dsimp only at h
  split at h
  · rename_i hi
    obtain ⟨t, ht, h⟩ := Cursor.bind_advance_eq_unexpectedEnd h
    obtain hn | ⟨⟨e, u⟩, -, h⟩ := bind_eq_error_iff.1 h
    · obtain ⟨ts, us, e, n, d, hu, hd, hends⟩ := hm t hn
      exact ⟨_ :: ts, us, _, n + 1, d + 1, .negative hu, Nat.succ_le_succ hd,
        henter (.cons hi ht hends)⟩
    · cases h
  · rename_i hi
    obtain ⟨t, ht, h⟩ := Cursor.bind_advance_eq_unexpectedEnd h
    obtain ⟨ts, us, e, n, d, hu, hd, hends⟩ := hm t h
    exact ⟨_ :: ts, us, _, n + 1, d + 1, .positive hu, Nat.succ_le_succ hd,
      henter (.cons hi ht hends)⟩
  · rename_i u o m _ _ hi
    obtain ⟨t, ht, h⟩ := Cursor.bind_advance_eq_unexpectedEnd h
    obtain ⟨ts, us, e, n, d, hu, hd, hends⟩ := (hm.expression hp).primary hp.expression u o t h
    exact ⟨_ :: ts, us, _, n + 1, d + 1, .bare hu, Nat.succ_le_succ hd,
      henter (.cons hi ht hends)⟩
  · -- the operand itself is what is missing
    exact ⟨[], closing true 0, _, 1, 1, .bare (.text ""), Nat.succ_le_succ (Nat.zero_le _),
      henter (Cursor.ends_of_reject (Except.error.inj h) true 0)⟩

theorem mends_operand (depth : Nat) : Mends (Expr.builder.operand depth) Unary depth := by
  induction depth with
  | zero =>
    intro s h
    cases h
  | succ depth ih => exact ih.operand (parses_operand depth)

/-! ### Whole formulas -/

def endsEarly {α : Type} : Except Error α → Bool
  | .error .unexpectedEnd => true
  | _ => false

theorem endsEarly_iff {α : Type} {x : Except Error α} :
    endsEarly x ↔ x = .error .unexpectedEnd := by
  fun_cases endsEarly x with
  | case1 => exact iff_of_true rfl rfl
  | case2 _ h => exact iff_of_false nofun h

instance {α : Type} (x : Except Error α) : Decidable (x = .error .unexpectedEnd) :=
  decidable_of_iff _ endsEarly_iff

/-- A source that ends too early is completed by white space, an operand if one is due, and closing
parentheses: what comes of that is accepted, however much of the source's nesting and of its
operands is used up. -/
theorem parse_completed {source : String} (h : parse source = .error .unexpectedEnd) :
    ∃ missing k e, parse (source ++ completion missing k) = .ok e := by
  have hmends := (mends_operand maxDepth).expression (parses_operand maxDepth)
  unfold parse Builder.ofScan at h
  dsimp only at h
  split at h
  · cases h
  obtain hn | ⟨⟨e, s⟩, -, h⟩ := bind_eq_error_iff.1 h
  · obtain ⟨ts, us, e, n, d, hc, hd, hends⟩ := hmends _ hn
    obtain ⟨missing, k, rfl⟩ := hends.closing
    have hts : (Scan.ofChars 0 source.toList).tokens? = some ts :=
      Scan.tokens?_eq_some_iff.2 hends.spans
    have hall : (Scan.ofSource (source ++ completion missing k)).tokens? =
        some (ts ++ closing missing k) := by
      rw [Scan.ofSource, String.toList_append, completion, String.toList_ofList,
        Scan.tokens?_append (q := 0) (by decide) hts, Scan.tokens?_closing]
      rfl
    exact ⟨missing, k, e, parse_of_chain hall hc hends.room hd⟩
  · dsimp only at h
    split at h
    · cases h
    · rename_i hne
      obtain ⟨⟨o, ho⟩, -, -⟩ := Cursor.ends_of_reject (Except.error.inj h) false 0
      exact absurd ho (hne o)

/-! ### A rebate -/

/-- A factor, a group and a call are missing their ends. -/
def rebate : String := "IF(\x7bNet\x7d > 100, -(2 *"

theorem parse_completed_rebate : parse rebate = .error .unexpectedEnd ∧
    ∃ missing k e, parse (rebate ++ completion missing k) = .ok e := by
  have h : parse rebate = .error .unexpectedEnd := by decide +kernel
  exact ⟨h, parse_completed h⟩

example : (parse (rebate ++ completion true 2)).isOk := by decide +kernel

end Formula

end FieldCalc
