import FieldCalc.Proofs.Formula.Parsing
import FieldCalc.Proofs.Formula.References

/-!
# Subexpressions and their tokens

An expression mentions fields and functions by their names, each in a subexpression of its own.  The
tokens that it is derived from mention the same names in the same order (`Chain.mentions_eq`), so
the references and the calls of a formula can be read off its tokens.
-/

namespace FieldCalc

namespace Formula

open Grammar

/-! ### Subexpressions -/

mutual

/-- The subexpressions of an expression, itself first and the others from left to right. -/
def Expr.parts : Expr → List Expr
  | .literal v => [.literal v]
  | .field reference => [.field reference]
  | .negate e => .negate e :: e.parts
  | .chain first rest => .chain first rest :: (first.parts ++ chainParts rest)
  | .call name args => .call name args :: argsParts args

def chainParts : List (Operator × Expr) → List Expr
  | [] => []
  | (_, e) :: rest => e.parts ++ chainParts rest

def argsParts : List Expr → List Expr
  | [] => []
  | e :: es => e.parts ++ argsParts es

end

/-- The name and the number of arguments of a call. -/
def Expr.call? : Expr → Option (String × Nat)
  | .call name args => some (name, args.length)
  | _ => none

def Expr.called? (e : Expr) : Option String := e.call?.map Prod.fst

def Expr.reference? : Expr → Option String
  | .field reference => some reference
  | _ => none

mutual

theorem Expr.filterMap_reference?_parts : ∀ e : Expr,
    e.parts.filterMap Expr.reference? = e.references
  | .literal _ => rfl
  | .field _ => rfl
  | .negate e => Expr.filterMap_reference?_parts e
  | .chain first rest => by
    rw [Expr.references, ← Expr.filterMap_reference?_parts first,
      ← filterMap_reference?_chainParts rest, ← List.filterMap_append]
    rfl
  | .call _ args => filterMap_reference?_argsParts args

theorem filterMap_reference?_chainParts : ∀ rest : List (Operator × Expr),
    (chainParts rest).filterMap Expr.reference? = chainReferences rest
  | [] => rfl
  | (_, e) :: rest => by
    rw [chainReferences, ← Expr.filterMap_reference?_parts e,
      ← filterMap_reference?_chainParts rest, ← List.filterMap_append]
    rfl

theorem filterMap_reference?_argsParts : ∀ es : List Expr,
    (argsParts es).filterMap Expr.reference? = argsReferences es
  | [] => rfl
  | e :: es => by
    rw [argsReferences, ← Expr.filterMap_reference?_parts e,
      ← filterMap_reference?_argsParts es, ← List.filterMap_append]
    rfl

end

theorem Expr.mem_references_iff {e : Expr} {ref : String} :
    ref ∈ e.references ↔ .field ref ∈ e.parts := by
  rw [← e.filterMap_reference?_parts, List.mem_filterMap]
  constructor
  · rintro ⟨p, hp, hr⟩
    cases p <;> cases hr
    exact hp
  · exact fun h => ⟨_, h, rfl⟩

/-! ### Mentions -/

/-- What is mentioned by its name. -/
inductive Mention where
  | reference (s : String)
  | call (s : String)

def Mention.reference? : Mention → Option String
  | .reference s => some s
  | .call _ => none

def Mention.called? : Mention → Option String
  | .call s => some s
  | .reference _ => none

/-- What an expression mentions itself. -/
def Expr.mention? : Expr → Option Mention
  | .field s => some (.reference s)
  | .call s _ => some (.call s)
  | _ => none

/-! ### Mentions among tokens -/

/-- What a token mentions before some others.  A name is that of a call before an opening
parenthesis. -/
def Token.mention? : Token → List Token → Option Mention
  | .reference s, _ => some (.reference s)
  | .name s, .leftParen :: _ => some (.call s)
  | _, _ => none

/-- What some tokens mention, from left to right. -/
def mentions : List Token → List Mention
  | [] => []
  | t :: ts => (t.mention? ts).toList ++ mentions ts

theorem Token.mention?_append (t : Token) (ts : List Token) {us : List Token}
    (h : ∀ vs, us ≠ .leftParen :: vs) : t.mention? (ts ++ us) = t.mention? ts := by
  cases ts with
  | cons u ts => cases t <;> cases u <;> rfl
  | nil =>
    cases us with
    | nil => rfl
    | cons u us => cases t <;> cases u <;> first | rfl | exact absurd rfl (h us)

/-- A call ends before the next tokens, unless these begin with a parenthesis. -/
theorem mentions_append (ts : List Token) {us : List Token} (h : ∀ vs, us ≠ .leftParen :: vs) :
    mentions (ts ++ us) = mentions ts ++ mentions us := by
  induction ts with
  | nil => rfl
  | cons t ts ih =>
    rw [List.cons_append, mentions, mentions, Token.mention?_append t ts h, ih, List.append_assoc]

theorem mentions_parenthesized (ts : List Token) :
    mentions (.leftParen :: (ts ++ [.rightParen])) = mentions ts := by
  have h : ∀ vs, [Token.rightParen] ≠ .leftParen :: vs := nofun
  rw [mentions, mentions_append ts h]
  exact List.append_nil _

namespace Grammar

theorem Tail.ne_leftParen {level : Level} {levels : List Level} {ts : List Token}
    {rest : List (Operator × Expr)} {n d : Nat} (h : Tail level levels ts rest n d)
    (vs : List Token) : ts ≠ .leftParen :: vs := by
  cases h <;> exact nofun

mutual

theorem Unary.mentions_eq {ts : List Token} {e : Expr} {n d : Nat} :
    Unary ts e n d → mentions ts = e.parts.filterMap Expr.mention?
  | .negative h => h.mentions_eq
  | .positive h => h.mentions_eq
  | .bare h => h.mentions_eq

theorem Primary.mentions_eq {ts : List Token} {e : Expr} {n d : Nat} :
    Primary ts e n d → mentions ts = e.parts.filterMap Expr.mention?
  | .number _ => rfl
  | .text _ => rfl
  | .reference _ => rfl
  | .truth _ _ => rfl
  | .call s h => by
    rw [mentions, mentions_parenthesized, h.mentions_eq]
    rfl
  | .group h => by rw [mentions_parenthesized, h.mentions_eq]

theorem Chain.mentions_eq {levels : List Level} {ts : List Token} {e : Expr} {n d : Nat} :
    Chain levels ts e n d → mentions ts = e.parts.filterMap Expr.mention?
  | .operand h => h.mentions_eq
  | .single h => h.mentions_eq
  | .chain h h' _ => by
    rw [mentions_append _ h'.ne_leftParen, h.mentions_eq, h'.mentions_eq,
      ← List.filterMap_append]
    rfl

theorem Tail.mentions_eq {level : Level} {levels : List Level} {ts : List Token}
    {rest : List (Operator × Expr)} {n d : Nat} :
    Tail level levels ts rest n d → mentions ts = (chainParts rest).filterMap Expr.mention?
  | .nil => rfl
  | .cons _ h h' => by
    rw [mentions, mentions_append _ h'.ne_leftParen, h.mentions_eq, h'.mentions_eq,
      chainParts, List.filterMap_append]
    rfl

theorem CallArguments.mentions_eq {ts : List Token} {es : List Expr} {n d : Nat} :
    CallArguments ts es n d → mentions ts = (argsParts es).filterMap Expr.mention?
  | .none => rfl
  | .some h => h.mentions_eq

theorem Separated.mentions_eq {ts : List Token} {es : List Expr} {n d : Nat} :
    Separated ts es n d → mentions ts = (argsParts es).filterMap Expr.mention?
  | .one h => by rw [h.mentions_eq, argsParts, argsParts, List.append_nil]
  | @Separated.more _ us _ _ _ _ _ _ h h' => by
    have hc : ∀ vs, Token.comma :: us ≠ .leftParen :: vs := nofun
    rw [mentions_append _ hc, h.mentions_eq, mentions, h'.mentions_eq, argsParts,
      List.filterMap_append]
    rfl

end

end Grammar

/-- Names that are read off mentions stand in the tokens as they do in the subexpressions. -/
theorem Grammar.Chain.filterMap_mentions {levels : List Level} {ts : List Token} {e : Expr}
    {n d : Nat} (h : Chain levels ts e n d) {g : Mention → Option String}
    {f : Expr → Option String} (hf : ∀ p : Expr, p.mention?.bind g = f p) :
    (mentions ts).filterMap g = e.parts.filterMap f := by
  rw [h.mentions_eq, List.filterMap_filterMap]
  exact congrArg (List.filterMap · e.parts) (funext hf)

/-- Names that are read off one token after another, each with those behind it. -/
theorem eq_filterMap_mentions {g : Mention → Option String} {names : List Token → List String}
    (hnil : names [] = [])
    (hcons : ∀ t ts, names (t :: ts) = ((t.mention? ts).bind g).toList ++ names ts)
    (ts : List Token) : names ts = (mentions ts).filterMap g := by
  induction ts with
  | nil => exact hnil
  | cons t ts ih =>
    rw [hcons, mentions, List.filterMap_append, ih]
    cases t.mention? ts with
    | none => rfl
    | some m => cases h : g m <;> simp [h]

/-! ### Called names -/

/-- The name that a token is, if it stands before an opening parenthesis. -/
def Token.called? : Token → List Token → Option String
  | .name s, .leftParen :: _ => some s
  | _, _ => none

/-- The names of the functions that are called among some tokens, from left to right. -/
def calledNames : List Token → List String
  | [] => []
  | t :: ts => (t.called? ts).toList ++ calledNames ts

theorem Grammar.Chain.calledNames_eq {levels : List Level} {ts : List Token} {e : Expr} {n d : Nat}
    (h : Chain levels ts e n d) : calledNames ts = e.parts.filterMap Expr.called? := by
  have hcons (t : Token) (ts : List Token) : calledNames (t :: ts) =
      ((t.mention? ts).bind Mention.called?).toList ++ calledNames ts := by
    cases ts with
    | nil => cases t <;> rfl
    | cons u ts => cases t <;> cases u <;> rfl
  rw [eq_filterMap_mentions rfl hcons]
  exact h.filterMap_mentions fun p => by cases p <;> rfl

/-! ### References -/

def Token.reference? : Token → Option String
  | .reference s => some s
  | _ => none

/-- The references among some tokens. -/
def tokenReferences (ts : List Token) : List String := ts.filterMap Token.reference?

theorem tokenReferences_cons (t : Token) (ts : List Token) :
    tokenReferences (t :: ts) = t.reference?.toList ++ tokenReferences ts := by
  cases h : t.reference? <;> simp [tokenReferences, h]

theorem Grammar.Chain.references_eq {levels : List Level} {ts : List Token} {e : Expr} {n d : Nat}
    (h : Chain levels ts e n d) : tokenReferences ts = e.references := by
  have hcons (t : Token) (ts : List Token) : tokenReferences (t :: ts) =
      ((t.mention? ts).bind Mention.reference?).toList ++ tokenReferences ts := by
    rw [tokenReferences_cons]
    cases ts with
    | nil => cases t <;> rfl
    | cons u ts => cases t <;> cases u <;> rfl
  rw [eq_filterMap_mentions rfl hcons, ← e.filterMap_reference?_parts]
  exact h.filterMap_mentions fun p => by cases p <;> rfl

end Formula

end FieldCalc
