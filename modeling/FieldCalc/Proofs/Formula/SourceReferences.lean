import FieldCalc.Formula.References
import FieldCalc.Proofs.Formula.Parts
import FieldCalc.Proofs.Formula.TokenForms
import FieldCalc.Proofs.Lists

/-!
# References of a source and of its formula

Two ways of finding the references of a formula: in its source, where text literals are blanked out
and what stands between braces is taken, and in the expression that the source is parsed into.  They
agree for every source that is accepted, as long as no reference has a quote in it
(`references_eq_of_compile`).  A quote between braces opens no text literal for the parser, but it
does for the search of the source, which loses its place there (`references_quoted`).
-/

namespace FieldCalc

namespace Formula

open Grammar

/-! ### References of an expression -/

/-- An expression refers to what its tokens refer to, in the same order. -/
theorem exists_tokens_of_parse {source : String} {e : Expr} (h : parse source = .ok e) :
    ∃ ts, (Scan.ofSource source).tokens? = some ts ∧ tokenReferences ts = e.references := by
  obtain ⟨ts, n, d, hts, hc, -⟩ := exists_chain_of_parse h
  exact ⟨ts, hts, hc.references_eq⟩

/-! ### Braces of a source -/

/-- The contents of the braces of a source outside its text literals. -/
def braced (cs : List Char) : List (List Char) := bracedFrom none (blankLiterals .outside cs)

/-- The names between the braces of a source. -/
def bracedNames (cs : List Char) : List (List Char) :=
  ((braced cs).map Text.trimChars).filter (· ≠ [])

/-- A character that opens neither a text literal nor braces. -/
def Plain (c : Char) : Prop := c ≠ '"' ∧ c ≠ '\x7b'

instance (c : Char) : Decidable (Plain c) := inferInstanceAs (Decidable (_ ∧ _))

theorem plain_of_holds {p : Char → Bool} (hq : p '"' = false) (hb : p '\x7b' = false) {c : Char}
    (h : p c = true) : Plain c := by
  constructor
  · rintro rfl
    simp [hq] at h
  · rintro rfl
    simp [hb] at h

theorem braced_cons {c : Char} (h : Plain c) (cs : List Char) : braced (c :: cs) = braced cs := by
  unfold braced
  rw [blankLiterals, if_neg h.1, bracedFrom, if_neg h.2]

theorem braced_append {cs : List Char} (h : ∀ c ∈ cs, Plain c) (ds : List Char) :
    braced (cs ++ ds) = braced ds := by
  induction cs with
  | nil => rfl
  | cons c cs ih =>
    obtain ⟨hc, hcs⟩ := List.forall_mem_cons.1 h
    rw [List.cons_append, braced_cons hc, ih hcs]

/-- Nothing in a text literal counts, up to the quote that ends it. -/
theorem bracedFrom_literal {cs s : List Char} {n : Nat} (h : readText cs = some (s, n)) :
    bracedFrom none (blankLiterals .literal cs) = braced (cs.drop n) := by
  fun_induction readText cs generalizing s n with
  | case1 => cases h
  | case2 cs =>
    cases h
    rfl
  | case3 c cs ih =>
    obtain ⟨⟨s', m⟩, hm, he⟩ := Option.map_eq_some_iff.1 h
    cases he
    exact ih hm
  | case4 c cs hq hb ih =>
    obtain ⟨⟨s', m⟩, hm, he⟩ := Option.map_eq_some_iff.1 h
    cases he
    have hc : c ≠ '\\' := by
      rintro rfl
      cases cs with
      | nil => cases hm
      | cons d cs => exact hb d cs rfl rfl
    rw [blankLiterals, if_neg hq, if_neg hc, bracedFrom, if_neg (by decide)]
    exact ih hm

theorem blankLiterals_append {cs : List Char} (h : '"' ∉ cs) (ds : List Char) :
    blankLiterals .outside (cs ++ ds) = cs ++ blankLiterals .outside ds := by
  induction cs with
  | nil => rfl
  | cons c cs ih =>
    have hc : c ≠ '"' := fun he => h (he ▸ List.mem_cons_self)
    rw [List.cons_append, blankLiterals, if_neg hc, ih fun hm => h (List.mem_cons_of_mem c hm),
      List.cons_append]

theorem bracedFrom_some {cs : List Char} (h : ∀ c ∈ cs, isBrace c = false) (inner ds : List Char) :
    bracedFrom (some inner) (cs ++ '\x7d' :: ds) =
      (inner.reverse ++ cs) :: bracedFrom none ds := by
  induction cs generalizing inner with
  | nil => simp [bracedFrom]
  | cons c cs ih =>
    obtain ⟨hc, hcs⟩ := List.forall_mem_cons.1 h
    obtain ⟨ho, hcl⟩ : c ≠ '\x7b' ∧ c ≠ '\x7d' := by simpa [isBrace] using hc
    rw [List.cons_append, bracedFrom, if_neg ho, if_neg hcl, ih hcs, List.reverse_cons,
      List.append_assoc]
    rfl

/-- Braces without a quote in them are found as they stand. -/
theorem braced_reference {cs : List Char} (h : ∀ c ∈ cs, isBrace c = false) (hq : '"' ∉ cs)
    (ds : List Char) : braced ('\x7b' :: (cs ++ '\x7d' :: ds)) = cs :: braced ds := by
  unfold braced
  rw [blankLiterals, if_neg (by decide), blankLiterals_append hq, bracedFrom, if_pos rfl]
  exact bracedFrom_some h [] _

/-! ### Tokens of a source -/

theorem plain_of_mem_exponentMark {cs : List Char} {c : Char} (h : c ∈ exponentMark cs) :
    Plain c := by
  have hletter : ∀ e : Char, e = 'e' ∨ e = 'E' → Plain e := by
    rintro e (rfl | rfl) <;> exact ⟨by decide, by decide⟩
  have hsign : ∀ s : Char, s = '+' ∨ s = '-' → Plain s := by
    rintro s (rfl | rfl) <;> exact ⟨by decide, by decide⟩
  unfold exponentMark at h
  split at h
  · split at h
    · rename_i e s _ he
      split at h
      · rename_i hs
        rcases List.mem_cons.1 h with rfl | h
        · exact hletter c he
        · exact List.mem_singleton.1 h ▸ hsign s hs
      · exact List.mem_singleton.1 h ▸ hletter e he
    · cases h
  · rename_i e
    split at h
    · rename_i he
      exact List.mem_singleton.1 h ▸ hletter e he
    · cases h
  · cases h

theorem reference?_of_numberToken {cs : List Char} {t : Token} (h : numberToken cs = .ok t) :
    t.reference? = none := by
  unfold numberToken at h
  split at h
  · cases h
  · split at h
    · cases h
      rfl
    · cases h

/-- In a numeral nothing opens a text literal or braces. -/
theorem plain_of_readNumber {cs : List Char} {t : Token} {n : Nat}
    (h : readNumber cs = .ok (t, n)) : t.reference? = none ∧ ∀ c ∈ cs.take n, Plain c := by
  obtain ⟨body, mark, power, hn, ht, rfl⟩ := readNumber_eq_ok_iff.1 h
  refine ⟨reference?_of_numberToken ht, fun c hc => ?_⟩
  rw [← List.prefix_iff_eq_take.1 hn.isPrefix, List.mem_append, List.mem_append] at hc
  obtain ⟨rfl, rfl, hpower⟩ := hn
  rcases hc with (hc | hc) | hc
  · exact plain_of_holds rfl rfl (List.mem_takeWhile_imp hc)
  · exact plain_of_mem_exponentMark hc
  · rcases hpower with ⟨-, rfl⟩ | ⟨-, -, rfl⟩
    · cases hc
    · exact plain_of_holds rfl rfl (List.mem_takeWhile_imp hc)

theorem reference?_of_mem {c : Char} {cs : List Char} {t : Token} {n : Nat}
    (hc : c ∈ marks ++ comparisons) (h : readToken c cs = .ok (t, n)) : t.reference? = none := by
  rw [readToken_of_mem hc] at h
  split at h
  · rename_i u hu
    cases h
    obtain ⟨e, -, hu⟩ := Option.bind_eq_some_iff.1 hu
    have hd : ∀ p ∈ doubles, p.2.reference? = none := by simp [doubles, Token.reference?]
    exact hd _ (mem_doubles_of_lookup hu)
  · fin_cases hc <;> cases h <;> rfl

theorem plain_of_mem : ∀ c ∈ marks ++ comparisons, Plain c := by
  simp [marks, comparisons, Plain]

theorem plain_of_mem_seconds : ∀ c ∈ seconds, Plain c := by
  simp [seconds, Plain]

/-- What a token is read off: a text literal up to its closing quote, braces without others inside,
or characters that open nothing. -/
theorem readToken_cases {c : Char} {cs : List Char} {t : Token} {n : Nat}
    (h : readToken c cs = .ok (t, n)) :
    (∃ s, c = '"' ∧ readText cs = some (s, n) ∧ t.reference? = none) ∨
      c = '\x7b' ∧ readReference cs = .ok (t, n) ∨
      t.reference? = none ∧ ∀ d ∈ c :: cs.take n, Plain d := by
  cases readToken_eq_ok_iff.1 h with
  | single hc _ =>
    exact .inr (.inr ⟨reference?_of_mem hc h, List.forall_mem_singleton.2 (plain_of_mem c hc)⟩)
  | double hc he hcs _ =>
    obtain ⟨ds, rfl⟩ := List.head?_eq_some_iff.1 hcs
    have hc := List.mem_append_right marks hc
    exact .inr (.inr ⟨reference?_of_mem hc h, List.forall_mem_cons.2
      ⟨plain_of_mem c hc, List.forall_mem_singleton.2 (plain_of_mem_seconds _ he)⟩⟩)
  | text hc hs => exact .inl ⟨_, hc, hs, rfl⟩
  | reference hc hr => exact .inr (.inl ⟨hc, hr⟩)
  | number _ hu => exact .inr (.inr (plain_of_readNumber hu))
  | name _ hc =>
    refine .inr (.inr ⟨rfl, List.forall_mem_cons.2 ⟨plain_of_holds rfl rfl hc, fun d hd => ?_⟩⟩)
    rw [← List.prefix_iff_eq_take.1 (List.takeWhile_prefix _)] at hd
    exact plain_of_holds rfl rfl (List.mem_takeWhile_imp hd)

theorem mem_dropWhile {p : Char → Bool} {cs : List Char} {c : Char} (h : c ∈ cs)
    (hc : p c = false) : c ∈ cs.dropWhile p := by
  rw [← List.takeWhile_append_dropWhile (p := p) (l := cs)] at h
  refine (List.mem_append.1 h).resolve_left fun ht => ?_
  rw [List.mem_takeWhile_imp ht] at hc
  cases hc

theorem mem_trimChars {cs : List Char} {c : Char} (h : c ∈ cs) (hc : Text.isBlank c = false) :
    c ∈ Text.trimChars cs := by
  unfold Text.trimChars
  rw [List.mem_reverse]
  exact mem_dropWhile (List.mem_reverse.2 (mem_dropWhile h hc)) hc

/-- A token without a quote in its reference adds that reference and nothing else. -/
theorem bracedNames_token {c : Char} {cs : List Char} {t : Token} {n : Nat}
    (h : readToken c cs = .ok (t, n)) (hq : ∀ ref ∈ t.reference?, '"' ∉ ref.toList) :
    bracedNames (c :: cs) = t.reference?.toList.map String.toList ++ bracedNames (cs.drop n) := by
  rcases readToken_cases h with ⟨s, rfl, hs, ht⟩ | ⟨rfl, hr⟩ | ⟨ht, hp⟩
  · have hb : braced ('"' :: cs) = braced (cs.drop n) := by
      rw [← bracedFrom_literal hs]
      rfl
    rw [ht, bracedNames, hb]
    rfl
  · obtain ⟨inner, ds, rfl, hi, hname, rfl, rfl⟩ := exists_of_readReference hr
    have hinner : '"' ∉ inner := fun hm =>
      hq _ rfl (by rw [String.toList_ofList]; exact mem_trimChars hm (by decide))
    have hdrop : (inner ++ '\x7d' :: ds).drop (inner.length + 1) = ds := by
      rw [← List.drop_drop, List.drop_left]
      rfl
    rw [bracedNames, braced_reference hi hinner, hdrop, List.map_cons,
      List.filter_cons_of_pos (by simpa using hname)]
    simp [Token.reference?, bracedNames]
  · have hb : braced (c :: cs) = braced (cs.drop n) := by
      rw [← braced_append hp (cs.drop n), List.cons_append, List.take_append_drop]
    rw [ht, bracedNames, hb]
    rfl

theorem bracedNames_dropWhile_isBlank (cs : List Char) :
    bracedNames (cs.dropWhile Text.isBlank) = bracedNames cs := by
  have hp : ∀ c ∈ cs.takeWhile Text.isBlank, Plain c := fun c hc =>
    plain_of_holds (by decide) (by decide) (List.mem_takeWhile_imp hc)
  rw [bracedNames, ← braced_append hp, List.takeWhile_append_dropWhile, bracedNames]

/-- Where a scan comes to the end, its references are the names between the braces. -/
theorem bracedNames_of_tokens? {offset : Nat} {cs : List Char} {ts : List Token}
    (h : (Scan.ofChars offset cs).tokens? = some ts)
    (hq : ∀ ref ∈ tokenReferences ts, '"' ∉ ref.toList) :
    bracedNames cs = (tokenReferences ts).map String.toList := by
  fun_induction Scan.ofChars offset cs generalizing ts with
  | case1 =>
    rename_i hd
    cases h
    rw [← bracedNames_dropWhile_isBlank, hd]
    rfl
  | case2 => cases h
  | case3 _ _ _ _ _ hd _ _ ht =>
    rename_i ih
    obtain ⟨us, hu, rfl⟩ := Option.map_eq_some_iff.1 h
    rw [tokenReferences_cons] at hq
    rw [← bracedNames_dropWhile_isBlank, hd, tokenReferences_cons, List.map_append,
      bracedNames_token ht fun ref hr => hq ref (List.mem_append_left _ (Option.mem_toList.2 hr)),
      ih hu fun ref hr => hq ref (List.mem_append_right _ hr)]

/-! ### References of accepted sources -/

theorem parse_of_compile {source : String} {f : Formula} (h : compile source = .ok f) :
    parse source = .ok f.expr := by
  obtain ⟨e, he, h⟩ := bind_eq_ok_iff.1 h
  split at h <;> cases h
  exact he

/-- The references that are found in a source are those of the formula it is compiled to, each once,
in the order in which they first appear among its tokens, as long as there are no quotes in them.
Evaluating the formula asks for nothing else. -/
theorem references_eq_of_compile {source : String} {f : Formula} (h : compile source = .ok f)
    (unquoted : ∀ ref ∈ f.expr.references, '"' ∉ ref.toList) :
    references source = f.expr.references.eraseDups ∧
      (∃ ts, (Scan.ofSource source).tokens? = some ts ∧
        references source = (ts.filterMap Token.reference?).eraseDups) ∧
      (references source).Nodup ∧
      ∀ s t : Scope, s.AgreeOn t (references source) → f.eval s = f.eval t := by
  obtain ⟨ts, hts, hrefs⟩ := exists_tokens_of_parse (parse_of_compile h)
  have hnames : bracedNames source.toList = f.expr.references.map String.toList :=
    hrefs ▸ bracedNames_of_tokens? hts (hrefs ▸ unquoted)
  have heq : references source = f.expr.references.eraseDups := by
    have hlist : (bracedNames source.toList).map String.ofList = f.expr.references := by
      rw [hnames, List.map_map]
      exact List.map_id'' (fun ref => String.ofList_toList) _
    rw [← hlist]
    rfl
  refine ⟨heq, ⟨ts, hts, heq.trans (congrArg _ hrefs.symm)⟩, heq ▸ nodup_eraseDups _, ?_⟩
  intro s t hst
  refine Expr.eval_congr ⟨hst.now_eq, fun ref hr => hst.resolve_eq ref ?_⟩
  rw [heq]
  exact List.mem_eraseDups.2 hr

/-- Two references among text literals with braces and a quote inside. -/
def greeting : String := "\"\x7bQty\x7d \\\"\" & \x7b Name \x7d & \x7bName\x7d & \"\x7d\""

theorem references_eq_of_compile_greeting :
    ∃ f, compile greeting = .ok f ∧ (∀ ref ∈ f.expr.references, '"' ∉ ref.toList) ∧
      references greeting = ["Name"] := by
  obtain ⟨f, hf, hrefs⟩ : ∃ f, compile greeting = .ok f ∧ f.expr.references = ["Name", "Name"] :=
    exists_compile (by decide +kernel)
  have hq : ∀ ref ∈ f.expr.references, '"' ∉ ref.toList := hrefs ▸ by decide
  have he : references greeting = f.expr.references.eraseDups := (references_eq_of_compile hf hq).1
  refine ⟨f, hf, hq, ?_⟩
  rw [he, hrefs]
  rfl

/-- A product of two fields, the name of one with an inch mark. -/
def area : String := "\x7bWidth \"\x7d * \x7bQty\x7d"

/-- A quote between braces makes the search of the source miss references. -/
theorem references_quoted :
    (∃ f, compile area = .ok f ∧ f.expr.references = ["Width \"", "Qty"]) ∧
      references area = [] :=
  ⟨exists_compile (by decide +kernel), by decide⟩

end Formula

end FieldCalc
